import CellMachine.Proofs.Reading
import CellMachine.Proofs.Utf8Beginnings

/-!
# How a read ends

A read takes the lead byte first, and then trusts what it announces. So there are four endings for
bytes that are not empty: a character, a byte that announces nothing, fewer bytes than announced,
and as many bytes as announced that are not a character. Whatever the ending, at least one byte has
been taken: as many reads as there are bytes come to the end of the input.

## Main statements

* `readBytes_of_announces` — the endings after a lead byte that announces more than itself
* `length_readBytes_lt` — a read makes progress
* `read_outcome` — what a terminal reads and what it leaves, in all cases
-/

namespace CellMachine

/-! ## Lead bytes -/

namespace Utf8

/-- The byte announces an encoding of more than one byte. -/
def Announces (lead : UInt8) (width : Nat) : Prop :=
  width = 2 ∧ 0xC0 ≤ lead ∧ lead ≤ 0xDF ∨ width = 3 ∧ 0xE0 ≤ lead ∧ lead ≤ 0xEF ∨
    width = 4 ∧ 0xF0 ≤ lead ∧ lead ≤ 0xF7

instance (lead : UInt8) (width : Nat) : Decidable (Announces lead width) :=
  inferInstanceAs (Decidable (_ ∨ _ ∨ _))

/-- The byte announces no encoding at all. -/
def AnnouncesNone (lead : UInt8) : Prop := 0x80 ≤ lead ∧ lead ≤ 0xBF ∨ 0xF8 ≤ lead

variable {lead : UInt8} {width : Nat}

theorem Announces.width?_eq (h : Announces lead width) : width? lead = some width := by
  rw [width?_eq_some_iff]
  simp only [Announces, UInt8.le_iff_toNat_le, UInt8.reduceToNat] at h
  omega

theorem Announces.two_le (h : Announces lead width) : 2 ≤ width := by
  rcases h with ⟨rfl, -⟩ | ⟨rfl, -⟩ | ⟨rfl, -⟩ <;> decide

theorem AnnouncesNone.width?_eq (h : AnnouncesNone lead) : width? lead = none := by
  rw [Option.eq_none_iff_forall_ne_some]
  intro width
  rw [ne_eq, width?_eq_some_iff]
  simp only [AnnouncesNone, UInt8.le_iff_toNat_le, UInt8.reduceToNat] at h
  omega

end Utf8

namespace Terminal

variable {lead : UInt8} {rest : List UInt8} {width : Nat}

/-! ## One read of bytes -/

theorem readBytes_of_announcesNone (h : Utf8.AnnouncesNone lead) (rest : List UInt8) :
    readBytes (lead :: rest) = (.error .notUtf8, rest) := by
  rw [readBytes, h.width?_eq]

theorem readBytes_of_short (h : Utf8.Announces lead width)
    (hshort : (lead :: rest).length < width) :
    readBytes (lead :: rest) = (.error .cutOff, []) := by
  rw [List.length_cons] at hshort
  have hrest : rest.length < width - 1 := by omega
  rw [readBytes, h.width?_eq]
  simp only [if_pos hrest]

/-- With as many bytes as announced, either a character is read or its absence is reported. -/
theorem readBytes_of_announces (h : Utf8.Announces lead width)
    (hlong : width ≤ (lead :: rest).length) :
    (∃ c, Utf8.encode c <+: lead :: rest) ∨
      ∃ n, readBytes (lead :: rest) = (.error (.malformed n), (lead :: rest).drop width) ∧
        Utf8.IsErrorLength ((lead :: rest).take width) n := by
  obtain ⟨k, rfl⟩ := Nat.exists_eq_add_of_le' (Nat.le_trans (by decide : 1 ≤ 2) h.two_le)
  rw [List.length_cons] at hlong
  have hrest : ¬rest.length < k := by omega
  have htake : (rest.take k).length = k := List.length_take_of_le (by omega)
  have hwidth : Utf8.width? lead = some ((rest.take k).length + 1) := by
    rw [htake]
    exact h.width?_eq
  cases hdecode : Utf8.decode lead (rest.take k) with
  | ok c =>
    refine Or.inl ⟨c, rest.drop k, ?_⟩
    rw [(Utf8.decode_eq_ok_iff hwidth).mp hdecode, List.cons_append, List.take_append_drop]
  | error n =>
    refine Or.inr ⟨n, ?_, Utf8.isErrorLength_of_decode hwidth hdecode⟩
    rw [readBytes, h.width?_eq]
    simp only [Nat.add_sub_cancel, if_neg hrest, hdecode, List.drop_succ_cons]

/-- **A read makes progress** where there is something to read. -/
theorem length_readBytes_lt (lead : UInt8) (rest : List UInt8) :
    (readBytes (lead :: rest)).2.length < (lead :: rest).length := by
  have hdrop (k : Nat) : (rest.drop k).length < (lead :: rest).length := by
    rw [List.length_drop, List.length_cons]
    omega
  rw [readBytes]
  split
  · exact hdrop 0
  · split
    · exact Nat.succ_pos _
    · split
      · exact hdrop _
      · exact hdrop _

/-! ## Reading again and again -/

/-- The terminal after `n` reads. -/
def afterReads (t : Terminal) : Nat → Terminal
  | 0 => t
  | n + 1 => (t.afterReads n).read.2

/-- The first read is the read before the others. -/
theorem afterReads_succ (t : Terminal) (n : Nat) :
    t.afterReads (n + 1) = t.read.2.afterReads n := by
  induction n with
  | zero => rfl
  | succ n ih => rw [afterReads, ih, afterReads]

/-- The bytes that are left after a read. -/
abbrev left (t : Terminal) : List UInt8 := t.read.2.input.bytes

theorem fst_read (t : Terminal) : t.read.1 = (readBytes t.input.bytes).1 :=
  congrArg Prod.fst t.read_eq

theorem left_eq (t : Terminal) : t.left = (readBytes t.input.bytes).2 :=
  congrArg Prod.snd t.read_eq

/-- A character is read if the bytes begin with its encoding, and just the encoding is taken. -/
theorem read_eq_char_iff {t : Terminal} {c : Char} {bs : List UInt8} :
    t.read.1 = .ok (some c) ∧ t.left = bs ↔ t.input.bytes = Utf8.encode c ++ bs := by
  rw [← readBytes_eq_char_iff, ← t.read_eq, Prod.mk.injEq]

/-- Every read takes at least one byte, as long as there are any. -/
theorem length_afterReads_le (t : Terminal) (n : Nat) :
    (t.afterReads n).input.bytes.length ≤ t.input.bytes.length - n := by
  induction n with
  | zero => exact Nat.le_refl _
  | succ n ih =>
    show (t.afterReads n).left.length ≤ _
    rw [left_eq]
    cases hbytes : (t.afterReads n).input.bytes with
    | nil => exact Nat.zero_le _
    | cons lead rest =>
      have hlt := length_readBytes_lt lead rest
      rw [hbytes] at ih
      omega

/-! ## All endings -/

/-- A read fails with an error of a kind, and leaves some bytes. -/
structure FailsWith (t : Terminal) (e : ConsoleError) (kind : ConsoleError.Kind)
    (left : List UInt8) : Prop where
  error : t.read.1 = .error e
  kind : e.kind = kind
  left : t.left = left

/-- What a terminal reads, and what is left then, by the bytes that are there. -/
structure ReadOutcome (t : Terminal) (bytes : List UInt8) : Prop where
  /-- It reads the end of the input if there is nothing. -/
  end_iff : t.read.1 = .ok none ↔ bytes = []
  left_of_end : bytes = [] → t.left = []
  /-- It reads a character if the bytes begin with its encoding, and takes just that. -/
  char_iff : ∀ c left, t.read.1 = .ok (some c) ∧ t.left = left ↔ bytes = Utf8.encode c ++ left
  notUtf8 : ∀ lead rest, bytes = lead :: rest → Utf8.AnnouncesNone lead →
    t.FailsWith .notUtf8 .invalidData rest
  /-- There are fewer bytes than announced. It does not matter which. -/
  cutOff : ∀ lead rest width, bytes = lead :: rest → Utf8.Announces lead width →
    bytes.length < width → t.FailsWith .cutOff .unexpectedEof []
  /-- There are as many bytes as announced, but no character. -/
  malformed : ∀ lead rest width, bytes = lead :: rest → Utf8.Announces lead width →
    width ≤ bytes.length → (∀ c, ¬Utf8.encode c <+: bytes) →
      ∃ n, t.FailsWith (.malformed n) .invalidData (bytes.drop width) ∧
        Utf8.IsErrorLength (bytes.take width) n
  /-- As many reads as there are bytes, or more, come to the end of the input. -/
  ends : ∀ n, bytes.length ≤ n → (t.afterReads n).read.1 = .ok none

/-- **A terminal reads exactly what is well-formed, and always makes progress.** -/
theorem read_outcome (t : Terminal) : t.ReadOutcome t.input.bytes := by
  constructor
  · rw [fst_read]
    exact fst_readBytes_eq_end_iff
  · intro hbytes
    rw [left_eq, hbytes]
    rfl
  · intro c left
    exact read_eq_char_iff
  · intro lead rest hbytes hlead
    have hread := readBytes_of_announcesNone hlead rest
    rw [← hbytes, ← t.read_eq, Prod.mk.injEq] at hread
    exact ⟨hread.1, rfl, hread.2⟩
  · intro lead rest width hbytes hlead hshort
    rw [hbytes] at hshort
    have hread := readBytes_of_short hlead hshort
    rw [← hbytes, ← t.read_eq, Prod.mk.injEq] at hread
    exact ⟨hread.1, rfl, hread.2⟩
  · intro lead rest width hbytes hlead hlong hno
    rw [hbytes] at hlong hno
    rcases readBytes_of_announces hlead hlong with ⟨c, hc⟩ | ⟨n, hread, hlength⟩
    · exact absurd hc (hno c)
    · rw [← hbytes] at hlength hread
      rw [← t.read_eq, Prod.mk.injEq] at hread
      exact ⟨n, ⟨hread.1, rfl, hread.2⟩, hlength⟩
  · intro n hn
    have hle := t.length_afterReads_le n
    have hnil : (t.afterReads n).input.bytes = [] := List.length_eq_zero_iff.mp (by omega)
    rw [fst_read, hnil]
    rfl

/-- A character that is cut short by a letter: two of its bytes are counted and all four taken, and
after one more character there is a lead byte alone. -/
theorem read_outcome_cut_short :
    let bytes := [0xF0, 0x9F, 0x41, 0x80, 0x68, 0xC3]
    let t : Terminal := ⟨.ofBytes bytes, .empty none⟩
    Utf8.Announces 0xF0 4 ∧ (∀ c, ¬Utf8.encode c <+: bytes) ∧
      t.FailsWith (.malformed 2) .invalidData [0x68, 0xC3] ∧
      (∀ c, ¬[0xF0, 0x9F, 0x41] <+: Utf8.encode c) ∧
      (t.afterReads 2).FailsWith .cutOff .unexpectedEof [] ∧
      (t.afterReads 6).read.1 = .ok none := by
  intro bytes t
  have houtcome : t.ReadOutcome bytes := read_outcome t
  have hlead : Utf8.Announces 0xF0 4 := by decide
  have hread : t.read.1 = .error (.malformed 2) := rfl
  have hno : ∀ c, ¬Utf8.encode c <+: bytes := by
    rintro c ⟨left, hleft⟩
    have hchar := ((houtcome.char_iff c left).mpr hleft.symm).1
    cases hread.symm.trans hchar
  obtain ⟨n, hfails, hlength⟩ := houtcome.malformed 0xF0 _ 4 rfl hlead (by decide) hno
  obtain rfl : 2 = n := by
    have herror := hread.symm.trans hfails.error
    injection herror with herror
    injection herror
  have hlast : (t.afterReads 2).ReadOutcome [0xC3] := by
    have hbytes : (t.afterReads 2).input.bytes = [0xC3] := by decide +kernel
    exact hbytes ▸ read_outcome (t.afterReads 2)
  refine ⟨hlead, hno, hfails, ?_, hlast.cutOff 0xC3 [] 2 rfl (by decide) (by decide), ?_⟩
  · exact not_exists.mp (hlength.longest 3 (by decide) (by decide))
  · exact houtcome.ends 6 (by decide)

end Terminal

end CellMachine
