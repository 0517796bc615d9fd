import CellMachine.Proofs.ReadOutcomes

/-!
# Reading from buffers

A reader shows the bytes of one buffer at a time. Once all of them have been taken it shows the next
buffer, and nothing more when there is none; so the input has ended when nothing is shown, and that
is why no buffer may be empty. A character is read by looking at the first byte that is shown,
taking it, and then copying as many bytes as it announces, from as many buffers as it takes.

That makes no difference to what is read: a reader answers as a terminal does, and both answer by
the bytes alone.

## Main statements

* `Reader.readExact_eq` — bytes are copied across the ends of buffers
* `Reader.readChar_eq` — a character is read from the bytes
* `Reader.reading_ignores_buffers` — all reads, however the bytes are cut into buffers
-/

namespace CellMachine

/-! ## Readers -/

/-- Bytes as a reader delivers them: those of the buffer that it shows, and the buffers to come. -/
structure Reader where
  shown : List UInt8
  coming : List (List UInt8)

namespace Reader

/-- The bytes that are still to be read. -/
def bytes (r : Reader) : List UInt8 := r.shown ++ r.coming.flatten

/-- None of the buffers to come is empty. -/
def WellCut (r : Reader) : Prop := ∀ buffer ∈ r.coming, buffer ≠ []

/-- Shows the next buffer if the last has been used up. -/
def fill (r : Reader) : Reader :=
  match r.shown, r.coming with
  | [], next :: coming => ⟨next, coming⟩
  | _, _ => r

/-- Takes bytes of the buffer that is shown. -/
def consume (n : Nat) (r : Reader) : Reader := { r with shown := r.shown.drop n }

/-- Copies at most `n` bytes, those of a single buffer, and takes them. -/
def copy (n : Nat) (r : Reader) : List UInt8 × Reader :=
  let piece := r.fill.shown.take n
  (piece, r.fill.consume piece.length)

/-- Copies `n` bytes piece by piece. There are fewer only if nothing is shown any more. -/
def readExact (n : Nat) (r : Reader) : List UInt8 × Reader :=
  if n = 0 then ([], r)
  else
    let (piece, r) := r.copy n
    if piece = [] then ([], r)
    else
      let (more, r) := r.readExact (n - piece.length)
      (piece ++ more, r)
termination_by n
decreasing_by
  have hpos : 0 < piece.length := List.length_pos_iff.mpr ‹_›
  omega

/-- Reads a character. -/
def readChar (r : Reader) : Except ConsoleError (Option Char) × Reader :=
  let r := r.fill
  match r.shown with
  | [] => (.ok none, r)
  | lead :: _ =>
    let r := r.consume 1
    match Utf8.width? lead with
    | none => (.error .notUtf8, r)
    | some width =>
      let (rest, r) := r.readExact (width - 1)
      if rest.length < width - 1 then (.error .cutOff, r)
      else
        match Utf8.decode lead rest with
        | .ok c => (.ok (some c), r)
        | .error length => (.error (.malformed length), r)

/-- The reader after `n` characters have been asked for. -/
def afterReads (r : Reader) : Nat → Reader
  | 0 => r
  | n + 1 => (r.afterReads n).readChar.2

/-- The number of bytes that `n` reads have taken. -/
def consumed (r : Reader) (n : Nat) : Nat := r.bytes.length - (r.afterReads n).bytes.length

variable {r : Reader} {n : Nat}

/-! ## Buffers -/

@[simp] theorem bytes_fill (r : Reader) : r.fill.bytes = r.bytes := by
  unfold fill
  split
  · next hshown hcoming => simp [bytes, hshown, hcoming]
  · rfl

theorem WellCut.fill (h : r.WellCut) : r.fill.WellCut := by
  unfold Reader.fill
  split
  · next hcoming =>
    rw [WellCut, hcoming] at h
    exact (List.forall_mem_cons.mp h).2
  · exact h

/-- Nothing is shown only if there are no more bytes. -/
theorem shown_fill_eq_nil_iff (h : r.WellCut) : r.fill.shown = [] ↔ r.bytes = [] := by
  unfold fill
  split
  · next next coming hshown hcoming =>
    rw [WellCut, hcoming] at h
    have hnext := (List.forall_mem_cons.mp h).1
    simp [bytes, hshown, hcoming, hnext]
  · next hother =>
    constructor
    · intro hshown
      cases hcoming : r.coming with
      | nil => simp [bytes, hshown, hcoming]
      | cons next coming => exact absurd hcoming (hother next coming hshown)
    · intro hbytes
      exact (List.append_eq_nil_iff.mp hbytes).1

theorem bytes_consume (h : n ≤ r.shown.length) : (r.consume n).bytes = r.bytes.drop n := by
  simp only [bytes, consume, List.drop_append_of_le_length h]

theorem bytes_eq_cons {lead : UInt8} {shown : List UInt8} (h : r.fill.shown = lead :: shown) :
    r.bytes = lead :: (r.fill.consume 1).bytes := by
  rw [← bytes_fill r]
  simp [bytes, consume, h]

theorem WellCut.copy (h : r.WellCut) (n : Nat) : (r.copy n).2.WellCut := h.fill

/-- What has been copied comes before what is left. -/
theorem copy_append (r : Reader) (n : Nat) : (r.copy n).1 ++ (r.copy n).2.bytes = r.bytes := by
  have hle : (r.copy n).1.length ≤ r.fill.shown.length := List.length_take_le' _ _
  have hprefix : (r.copy n).1 <+: r.fill.bytes :=
    (List.take_prefix _ _).trans (List.prefix_append _ _)
  have hleft : (r.copy n).2.bytes = r.fill.bytes.drop (r.copy n).1.length := bytes_consume hle
  rw [hleft, List.prefix_iff_eq_append.mp hprefix, bytes_fill]

theorem fst_copy_eq_nil (h : r.WellCut) (hn : n ≠ 0) (hnil : (r.copy n).1 = []) : r.bytes = [] := by
  rcases List.take_eq_nil_iff.mp hnil with hzero | hshown
  · exact absurd hzero hn
  · exact (shown_fill_eq_nil_iff h).mp hshown

/-- **Bytes are copied across the ends of buffers.** -/
theorem readExact_eq (h : r.WellCut) (n : Nat) :
    (r.readExact n).1 = r.bytes.take n ∧ (r.readExact n).2.bytes = r.bytes.drop n ∧
      (r.readExact n).2.WellCut := by
  induction n using Nat.strongRecOn generalizing r with
  | ind n ih =>
    have happend := r.copy_append n
    have hcopy := h.copy n
    rw [readExact]
    split
    · next hzero =>
      subst hzero
      exact ⟨rfl, rfl, h⟩
    · next hn =>
      dsimp only
      split
      · next hnil =>
        rw [hnil, List.nil_append] at happend
        have hbytes := fst_copy_eq_nil h hn hnil
        refine ⟨?_, ?_, hcopy⟩
        · rw [hbytes, List.take_nil]
        · rw [happend, hbytes, List.drop_nil]
      · next hne =>
        have hpos := List.length_pos_iff.mpr hne
        have hle : (r.copy n).1.length ≤ n := List.length_take_le _ _
        obtain ⟨hmore, hleft, hcut⟩ := ih (n - (r.copy n).1.length) (by omega) hcopy
        refine ⟨?_, ?_, hcut⟩
        · rw [hmore, ← happend, List.take_append, List.take_of_length_le hle]
        · rw [hleft, ← happend, List.drop_append, List.drop_of_length_le hle, List.nil_append]

theorem length_readExact_lt_iff (h : r.WellCut) (n : Nat) :
    (r.readExact n).1.length < n ↔ r.bytes.length < n := by
  rw [(readExact_eq h n).1, List.length_take]
  omega

/-- **A character is read from the bytes**, whatever buffers they come in. -/
theorem readChar_eq (h : r.WellCut) :
    (r.readChar.1, r.readChar.2.bytes) = Terminal.readBytes r.bytes ∧ r.readChar.2.WellCut := by
  have hfill := h.fill
  unfold readChar
  dsimp only
  split
  · next hshown =>
    have hbytes := (shown_fill_eq_nil_iff h).mp hshown
    refine ⟨?_, hfill⟩
    rw [bytes_fill, hbytes]
    rfl
  · next lead shown hshown =>
    have hcut : (r.fill.consume 1).WellCut := hfill
    rw [bytes_eq_cons hshown, Terminal.readBytes]
    cases Utf8.width? lead with
    | none => exact ⟨rfl, hcut⟩
    | some width =>
      obtain ⟨hrest, hleft, hcut'⟩ := readExact_eq hcut (width - 1)
      have hshort := length_readExact_lt_iff hcut (width - 1)
      dsimp only
      by_cases hlt : (r.fill.consume 1).bytes.length < width - 1
      · rw [if_pos hlt, if_pos (hshort.mpr hlt)]
        refine ⟨?_, hcut'⟩
        rw [hleft, List.drop_of_length_le (Nat.le_of_lt hlt)]
      · rw [if_neg hlt, if_neg (mt hshort.mp hlt), hrest]
        cases Utf8.decode lead ((r.fill.consume 1).bytes.take (width - 1)) with
        | ok c => exact ⟨by rw [hleft], hcut'⟩
        | error length => exact ⟨by rw [hleft], hcut'⟩

/-! ## All reads -/

/-- What `n` reads leave of bytes. -/
def leftOf (bytes : List UInt8) : Nat → List UInt8
  | 0 => bytes
  | n + 1 => (Terminal.readBytes (leftOf bytes n)).2

theorem bytes_afterReads (h : r.WellCut) (n : Nat) :
    (r.afterReads n).bytes = leftOf r.bytes n ∧ (r.afterReads n).WellCut := by
  induction n with
  | zero => exact ⟨rfl, h⟩
  | succ n ih =>
    obtain ⟨hread, hcut⟩ := readChar_eq ih.2
    rw [ih.1] at hread
    exact ⟨congrArg Prod.snd hread, hcut⟩

theorem fst_readChar_afterReads (h : r.WellCut) (n : Nat) :
    (r.afterReads n).readChar.1 = (Terminal.readBytes (leftOf r.bytes n)).1 := by
  obtain ⟨hbytes, hcut⟩ := bytes_afterReads h n
  rw [← hbytes]
  exact congrArg Prod.fst (readChar_eq hcut).1

theorem consumed_eq (h : r.WellCut) (n : Nat) :
    r.consumed n = r.bytes.length - (leftOf r.bytes n).length := by
  rw [consumed, (bytes_afterReads h n).1]

end Reader

namespace Terminal

/-- The number of bytes that `n` reads have taken. -/
def consumed (t : Terminal) (n : Nat) : Nat :=
  t.input.bytes.length - (t.afterReads n).input.bytes.length

theorem bytes_afterReads (t : Terminal) (n : Nat) :
    (t.afterReads n).input.bytes = Reader.leftOf t.input.bytes n := by
  induction n with
  | zero => rfl
  | succ n ih =>
    rw [Reader.leftOf, ← ih]
    exact (t.afterReads n).left_eq

end Terminal

namespace Reader

/-- **What is read, and how much of the input is gone, does not depend on the buffers**, neither for
a reader nor for a terminal. -/
theorem reading_ignores_buffers {bytes : List UInt8} {buffers : List (List UInt8)}
    (hbytes : buffers.flatten = bytes) (hbuffers : ∀ buffer ∈ buffers, buffer ≠ []) (n : Nat) :
    let cut : Reader := ⟨[], buffers⟩
    let whole : Reader := ⟨bytes, []⟩
    ((cut.afterReads n).readChar.1 = (whole.afterReads n).readChar.1 ∧
      cut.consumed n = whole.consumed n) ∧
      ∀ t : Terminal, t.input.bytes = bytes →
        (t.afterReads n).read.1 = (whole.afterReads n).readChar.1 ∧
          t.consumed n = whole.consumed n := by
  intro cut whole
  have hcut : cut.WellCut := hbuffers
  have hwhole : whole.WellCut := List.forall_mem_nil _
  have hcutBytes : cut.bytes = bytes := hbytes
  have hwholeBytes : whole.bytes = bytes := List.append_nil bytes
  rw [fst_readChar_afterReads hwhole, consumed_eq hwhole, hwholeBytes]
  refine ⟨⟨?_, ?_⟩, fun t ht => ⟨?_, ?_⟩⟩
  · rw [fst_readChar_afterReads hcut, hcutBytes]
  · rw [consumed_eq hcut, hcutBytes]
  · rw [Terminal.fst_read, t.bytes_afterReads, ht]
  · rw [Terminal.consumed, t.bytes_afterReads, ht]

/-- A smiling face in three buffers, the last of which holds a letter as well, and a lead byte that
nothing follows: two characters are read, then an error, then the end of the input. -/
theorem reading_ignores_buffers_straddling :
    let buffers := [[0xF0], [0x9F, 0x98], [0x80, 0x68], [0xC3]]
    let cut : Reader := ⟨[], buffers⟩
    (∀ buffer ∈ buffers, buffer ≠ []) ∧
      (cut.readChar.1 = .ok (some '😀') ∧ cut.consumed 1 = 4) ∧
      ((cut.afterReads 1).readChar.1 = .ok (some 'h') ∧ cut.consumed 2 = 5) ∧
      ((cut.afterReads 2).readChar.1 = .error .cutOff ∧ cut.consumed 3 = 6) ∧
      (cut.afterReads 3).readChar.1 = .ok none ∧ cut.consumed 4 = 6 := by
  intro buffers cut
  have hbuffers : ∀ buffer ∈ buffers, buffer ≠ [] := by decide
  let t : Terminal := ⟨⟨buffers⟩, .empty none⟩
  -- `readExact` does not reduce, so the reads are evaluated on a terminal
  have hterminal (n : Nat) : (cut.afterReads n).readChar.1 = (t.afterReads n).read.1 ∧
      cut.consumed n = t.consumed n := by
    obtain ⟨⟨hread, hconsumed⟩, hsame⟩ := reading_ignores_buffers rfl hbuffers n
    obtain ⟨hread', hconsumed'⟩ := hsame t rfl
    exact ⟨hread.trans hread'.symm, hconsumed.trans hconsumed'.symm⟩
  refine ⟨hbuffers, ⟨?_, ?_⟩, ⟨?_, ?_⟩, ⟨?_, ?_⟩, ?_, ?_⟩
  · exact (hterminal 0).1.trans rfl
  · exact (hterminal 1).2.trans (by decide +kernel)
  · exact (hterminal 1).1.trans rfl
  · exact (hterminal 2).2.trans (by decide +kernel)
  · exact (hterminal 2).1.trans rfl
  · exact (hterminal 3).2.trans (by decide +kernel)
  · exact (hterminal 3).1.trans rfl
  · exact (hterminal 4).2.trans (by decide +kernel)

end Reader

end CellMachine
