import CellMachine.Proofs.Output
import CellMachine.Proofs.ReadOutcomes

/-!
# What is written can be read back

Characters that are written one by one come back one by one, in their order, and then the end of the
input for good. The other way round, bytes that can be read without a failure are the bytes that
writing the characters gives: there is one way only to write a character.

Both halves meet in the bytes: a terminal whose unread bytes are the encodings of some characters
(`fst_read_afterReads`).

## Main statements

* `writeAll_of_limit_eq_none` — what writing characters leaves
* `fst_read_afterReads` — what is read from the encodings of characters
* `exists_eq_flatMap_encode` — bytes that are read without a failure are encodings
* `console_round_trip` — both directions
-/

namespace CellMachine

/-! ## Writing one by one -/

namespace Output

theorem bytes_foldl_put (output : Output) (cs : List Char) :
    (cs.foldl put output).bytes.toList = output.bytes.toList ++ cs.flatMap Utf8.encode := by
  induction cs generalizing output with
  | nil => simp
  | cons c cs ih =>
    rw [List.foldl_cons, ih, List.flatMap_cons, ← List.append_assoc, put, Array.toList_appendList]

theorem flushes_foldl_put (output : Output) (cs : List Char) :
    (cs.foldl put output).flushes = output.flushes + cs.length := by
  induction cs generalizing output with
  | nil => rfl
  | cons c cs ih =>
    rw [List.foldl_cons, ih, List.length_cons, Nat.add_comm cs.length, ← Nat.add_assoc]
    rfl

end Output

namespace Terminal

/-- Writes characters one by one, up to the first failure. -/
def writeAll : List Char → Terminal → Except ConsoleError Unit × Terminal
  | [], t => (.ok (), t)
  | c :: cs, t =>
    match t.write c with
    | (.ok (), t) => writeAll cs t
    | (.error e, t) => (.error e, t)

variable {t : Terminal} {cs : List Char}

/-- Without a limit every character is written. -/
theorem writeAll_of_limit_eq_none (h : t.output.limit = none) (cs : List Char) :
    writeAll cs t = (.ok (), ⟨t.input, cs.foldl Output.put t.output⟩) := by
  induction cs generalizing t with
  | nil => rfl
  | cons c cs ih =>
    have hput : (t.output.put c).limit = none := h
    rw [writeAll, write_of_limit_eq_none h]
    exact ih (t := ⟨t.input, t.output.put c⟩) hput

/-! ## Reading one by one -/

/-- What is read from the encodings of some characters is the first of them. -/
theorem readBytes_flatMap_encode (cs : List Char) :
    readBytes (cs.flatMap Utf8.encode) = (.ok cs.head?, cs.tail.flatMap Utf8.encode) := by
  cases cs with
  | nil => rfl
  | cons c cs => exact readBytes_append c _

/-- **Characters are read one by one, and then nothing for good.** -/
theorem fst_read_afterReads (h : t.input.bytes = cs.flatMap Utf8.encode) (n : Nat) :
    (t.afterReads n).read.1 = .ok cs[n]? := by
  have hleft : (t.afterReads n).input.bytes = (cs.drop n).flatMap Utf8.encode := by
    induction n with
    | zero => exact h
    | succ n ih =>
      show (t.afterReads n).left = _
      rw [left_eq, ih, readBytes_flatMap_encode, List.tail_drop]
  rw [fst_read, hleft, readBytes_flatMap_encode, List.head?_drop]

/-- **Bytes that are read without a failure are the encodings of characters.** -/
theorem exists_eq_flatMap_encode (h : ∀ n e, (t.afterReads n).read.1 ≠ .error e) :
    ∃ cs : List Char, t.input.bytes = cs.flatMap Utf8.encode := by
  -- by the number of bytes, which every read makes smaller
  induction hlength : t.input.bytes.length using Nat.strongRecOn generalizing t with
  | ind m ih =>
    cases hread : t.read.1 with
    | error e => exact absurd hread (h 0 e)
    | ok answer =>
      cases answer with
      | none =>
        rw [fst_read, fst_readBytes_eq_end_iff] at hread
        exact ⟨[], hread⟩
      | some c =>
        have hbytes : t.input.bytes = Utf8.encode c ++ t.left := read_eq_char_iff.mp ⟨hread, rfl⟩
        have hlt : t.left.length < m := by
          rw [← hlength, hbytes]
          exact Utf8.length_lt_encode_append c t.left
        have hrest : ∀ n e, (t.read.2.afterReads n).read.1 ≠ .error e := by
          intro n e
          rw [← afterReads_succ]
          exact h (n + 1) e
        obtain ⟨cs, hcs⟩ := ih _ hlt hrest rfl
        refine ⟨c :: cs, ?_⟩
        rw [hbytes, List.flatMap_cons, left, hcs]

/-! ## There and back -/

/-- **Characters that are written are read back**, whatever buffers deliver their bytes, followed by
the end of the input. **Bytes that are read without a failure are written back** by writing the
characters that have been read. -/
theorem console_round_trip (input : Input) :
    (∀ cs : List Char,
      (writeAll cs ⟨input, .empty none⟩).1 = .ok () ∧
        ∀ t : Terminal,
          t.input.bytes = (writeAll cs ⟨input, .empty none⟩).2.output.bytes.toList →
            ∀ n, (t.afterReads n).read.1 = .ok cs[n]?) ∧
      ∀ t : Terminal, (∀ n e, (t.afterReads n).read.1 ≠ .error e) →
        ∃ cs : List Char, (∀ n, (t.afterReads n).read.1 = .ok cs[n]?) ∧
          (writeAll cs ⟨input, .empty none⟩).2.output.bytes.toList = t.input.bytes := by
  have hwrite (cs : List Char) : writeAll cs ⟨input, .empty none⟩ =
      (.ok (), ⟨input, cs.foldl Output.put (.empty none)⟩) := writeAll_of_limit_eq_none rfl cs
  have hbytes (cs : List Char) :
      (writeAll cs ⟨input, .empty none⟩).2.output.bytes.toList = cs.flatMap Utf8.encode := by
    rw [hwrite, Output.bytes_foldl_put]
    rfl
  constructor
  · intro cs
    refine ⟨congrArg Prod.fst (hwrite cs), ?_⟩
    intro t ht n
    rw [hbytes] at ht
    exact fst_read_afterReads ht n
  · intro t hreads
    obtain ⟨cs, hcs⟩ := exists_eq_flatMap_encode hreads
    refine ⟨cs, fst_read_afterReads hcs, ?_⟩
    rw [hbytes, hcs]

/-- The characters on both sides of every change in the length of their encodings, and round the
surrogates, are written and read back in pieces of two bytes. -/
theorem console_round_trip_boundaries :
    let cs : List Char :=
      [0x7F, 0x80, 0x7FF, 0x800, 0xD7FF, 0xE000, 0xFFFF, 0x10000, 0x10FFFF].map .ofNat
    let w := writeAll cs ⟨.ofBytes [], .empty none⟩
    let t : Terminal := ⟨.chunked 2 w.2.output.bytes.toList, .empty none⟩
    t.input.bytes = w.2.output.bytes.toList ∧ t.input.bytes.length = 25 ∧
      (t.afterReads 5).read.1 = .ok (some (.ofNat 0xE000)) ∧ (t.afterReads 30).read.1 = .ok none ∧
      (∀ n e, (t.afterReads n).read.1 ≠ .error e) ∧
      ∃ ds : List Char, (∀ n, (t.afterReads n).read.1 = .ok ds[n]?) ∧
        (writeAll ds ⟨.ofBytes [], .empty none⟩).2.output.bytes.toList = t.input.bytes := by
  intro cs w t
  obtain ⟨hthere, hback⟩ := console_round_trip (.ofBytes [])
  have hbytes : t.input.bytes = w.2.output.bytes.toList := Input.bytes_chunked 2 _
  have hreads := (hthere cs).2 t hbytes
  have hfails : ∀ n e, (t.afterReads n).read.1 ≠ .error e := by
    intro n e herror
    cases (hreads n).symm.trans herror
  refine ⟨hbytes, by decide +kernel, ?_, ?_, hfails, hback t hfails⟩
  · rw [hreads]
    rfl
  · rw [hreads]
    rfl

end Terminal

end CellMachine
