import CellMachine.Console.Terminal
import CellMachine.Proofs.Utf8

/-!
# What a terminal reads

The answer to a read, and what it leaves, depend on the bytes that are still to come and not on the
buffers that they come in: `readBytes` tells both. It reads a character if and only if the bytes
begin with the encoding of that character, and then takes just the encoding.

## Main statements

* `read_eq` — a terminal reads what `readBytes` does
* `readBytes_eq_char_iff` — when a character is read, and what is left then
* `fst_readBytes_eq_end_iff` — when the end of the input is read
-/

namespace CellMachine.Terminal

/-- What is read from bytes, and the bytes that are left. -/
def readBytes : List UInt8 → Except ConsoleError (Option Char) × List UInt8
  | [] => (.ok none, [])
  | lead :: rest =>
    match Utf8.width? lead with
    | none => (.error .notUtf8, rest)
    | some width =>
      if rest.length < width - 1 then (.error .cutOff, [])
      else
        match Utf8.decode lead (rest.take (width - 1)) with
        | .ok c => (.ok (some c), rest.drop (width - 1))
        | .error length => (.error (.malformed length), rest.drop (width - 1))

variable {bs left : List UInt8} {c : Char}

/-- **A terminal reads from its bytes**, whatever buffers they come in. -/
theorem read_eq (t : Terminal) : (t.read.1, t.read.2.input.bytes) = readBytes t.input.bytes := by
  have htail : (t.input.take 1).2.bytes = t.input.bytes.tail := by
    rw [Input.bytes_take_snd, List.drop_one]
  unfold read
  cases hbytes : t.input.bytes with
  | nil =>
    rw [hbytes] at htail
    simp only [Input.take_fst, hbytes, List.take_nil, htail, List.tail_nil, readBytes]
  | cons lead rest =>
    rw [hbytes, List.tail_cons] at htail
    simp only [Input.take_fst, hbytes, List.take_succ_cons, List.take_zero, htail, readBytes]
    cases Utf8.width? lead with
    | none => simp only [htail]
    | some width =>
      have hrest : ((t.input.take 1).2.take (width - 1)).2.bytes = rest.drop (width - 1) := by
        rw [Input.bytes_take_snd, htail]
      have hshort : (rest.take (width - 1)).length < width - 1 ↔ rest.length < width - 1 := by
        rw [List.length_take]
        omega
      simp only [hshort]
      split
      · next h => simp only [hrest, List.drop_of_length_le (Nat.le_of_lt h)]
      · cases Utf8.decode lead (rest.take (width - 1)) with
        | ok c => simp only [hrest]
        | error length => simp only [hrest]

theorem fst_readBytes_eq_end_iff : (readBytes bs).1 = .ok none ↔ bs = [] := by
  cases bs with
  | nil => exact iff_of_true rfl rfl
  | cons lead rest =>
    refine iff_of_false ?_ (List.cons_ne_nil _ _)
    simp only [readBytes]
    (repeat' split) <;> simp

theorem readBytes_append (c : Char) (left : List UInt8) :
    readBytes (Utf8.encode c ++ left) = (.ok (some c), left) := by
  obtain ⟨lead, rest, hc⟩ := Utf8.exists_encode_eq_cons c
  have hwidth := Utf8.width?_of_encode hc
  have hlong : ¬(rest ++ left).length < rest.length := by
    rw [List.length_append]
    omega
  simp only [hc, List.cons_append, readBytes, hwidth, Nat.add_sub_cancel, if_neg hlong,
    List.take_left, List.drop_left, (Utf8.decode_eq_ok_iff hwidth).mpr hc]

/-- **A character is read if the bytes begin with its encoding**, and just the encoding is taken. -/
theorem readBytes_eq_char_iff :
    readBytes bs = (.ok (some c), left) ↔ bs = Utf8.encode c ++ left := by
  constructor
  · intro h
    cases bs with
    | nil => cases h
    | cons lead rest =>
      simp only [readBytes] at h
      split at h
      · cases h
      · next width hwidth =>
        split at h
        · cases h
        · next hlong =>
          split at h
          · next d hdecode =>
            obtain ⟨hd, rfl⟩ := Prod.mk.inj h
            obtain rfl : d = c := Option.some.inj (Except.ok.inj hd)
            -- as many bytes are decoded as the lead byte announces
            have hpos : 0 < width := by
              rw [Utf8.width?_eq_some_iff] at hwidth
              omega
            have hlength : width = (rest.take (width - 1)).length + 1 := by
              rw [List.length_take]
              omega
            rw [(Utf8.decode_eq_ok_iff (hlength ▸ hwidth)).mp hdecode, List.cons_append,
              List.take_append_drop]
          · cases h
  · rintro rfl
    exact readBytes_append c left

theorem fst_readBytes_eq_char_iff : (readBytes bs).1 = .ok (some c) ↔ Utf8.encode c <+: bs := by
  constructor
  · intro h
    exact ⟨(readBytes bs).2, (readBytes_eq_char_iff.mp (Prod.ext h rfl)).symm⟩
  · rintro ⟨left, rfl⟩
    rw [readBytes_append]

end CellMachine.Terminal
