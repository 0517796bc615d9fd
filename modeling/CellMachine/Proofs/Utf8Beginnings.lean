import CellMachine.Proofs.Utf8

/-!
# Beginnings of encodings

Bytes that are not a character may still begin like one. When as many bytes are decoded as the lead
byte announces, and they are malformed, the error counts the bytes that some encoding begins with:
this is the longest such beginning, or a single byte if not even the lead byte begins an encoding.

A beginning can always be completed (`exists_continued`), since the ranges of the bytes that follow
a lead byte are not empty.

## Main statements

* `begins_cons_iff` — when some encoding begins with a lead byte and the bytes after it
* `isErrorLength_of_decode` — what the error of `decode` counts
-/

namespace CellMachine.Utf8

/-- Some encoding begins with the bytes. -/
def Begins (bs : List UInt8) : Prop := ∃ c, bs <+: encode c

/-- The length of the longest beginning of the bytes that begins some encoding, and 1 if there is
none. -/
structure IsErrorLength (bs : List UInt8) (n : Nat) : Prop where
  pos : 0 < n
  lt : n < bs.length
  begins : n = 1 ∨ Begins (bs.take n)
  longest : ∀ k, n < k → k ≤ bs.length → ¬Begins (bs.take k)

variable {lead : UInt8} {bs more rest : List UInt8} {range : UInt8 × UInt8}

/-! ## Bytes that continue an encoding -/

theorem continued_le_length (range : UInt8 × UInt8) (bs : List UInt8) :
    continued range bs ≤ bs.length := by
  induction bs generalizing range with
  | nil => exact Nat.le_refl 0
  | cons b bs ih =>
    rw [continued]
    split
    · exact Nat.succ_le_succ (ih _)
    · exact Nat.zero_le _

theorem continued_take (range : UInt8 × UInt8) (bs : List UInt8) (k : Nat) :
    continued range (bs.take k) = min k (continued range bs) := by
  induction bs generalizing range k with
  | nil => rw [List.take_nil, continued, Nat.min_zero]
  | cons b bs ih =>
    cases k with
    | zero => rw [List.take_zero, continued, Nat.zero_min]
    | succ k =>
      rw [List.take_succ_cons, continued, continued]
      split
      · rw [ih, Nat.add_min_add_right]
      · rw [Nat.min_zero]

/-- What continues an encoding to its end does so up to any point. -/
theorem continued_of_append (h : continued range (bs ++ more) = (bs ++ more).length) :
    continued range bs = bs.length := by
  have htake := continued_take range (bs ++ more) bs.length
  rw [List.take_left, h, List.length_append] at htake
  omega

/-- **Bytes that continue an encoding can be completed** to any length. -/
theorem exists_continued (hrange : range.1 ≤ range.2) (h : continued range bs = bs.length)
    (n : Nat) :
    ∃ more, more.length = n ∧ continued range (bs ++ more) = (bs ++ more).length := by
  have hfill (k : Nat) :
      ∀ x ∈ List.replicate k (0x80 : UInt8), 0x80 ≤ x.toNat ∧ x.toNat < 0xC0 := by
    intro x hx
    rw [List.eq_of_mem_replicate hx]
    decide
  cases bs with
  | nil =>
    cases n with
    | zero => exact ⟨[], rfl, rfl⟩
    | succ k =>
      refine ⟨range.1 :: List.replicate k 0x80, by simp, ?_⟩
      rw [List.nil_append, continued_eq_length_iff]
      exact ⟨⟨UInt8.le_refl _, hrange⟩, hfill k⟩
  | cons b bs =>
    refine ⟨List.replicate n 0x80, by simp, ?_⟩
    rw [continued_eq_length_iff] at h
    rw [List.cons_append, continued_eq_length_iff]
    exact ⟨h.1, List.forall_mem_append.mpr ⟨h.2, hfill n⟩⟩

theorem secondByte_le (lead : UInt8) : (secondByte lead).1 ≤ (secondByte lead).2 := by
  unfold secondByte
  (repeat' split) <;> decide

/-! ## Beginnings -/

/-- After a lead byte of more than one byte, bytes are decoded if they continue it to their end. -/
theorem exists_decode_eq_ok_iff (hlead : 0x80 ≤ lead) :
    (∃ c, decode lead rest = .ok c) ↔
      isLead lead = true ∧ continued (secondByte lead) rest = rest.length := by
  have hnot : ¬lead < 0x80 := UInt8.not_lt.mpr hlead
  have herror {n : Nat} : ¬∃ c, (Except.error n : Except Nat Char) = .ok c := by
    rintro ⟨c, hc⟩
    cases hc
  simp only [decode, if_neg hnot]
  split
  · next h =>
    split
    · next hrest => exact iff_of_true ⟨_, rfl⟩ ⟨h, hrest⟩
    · next hrest => exact iff_of_false herror fun hboth => hrest hboth.2
  · next h => exact iff_of_false herror fun hboth => h hboth.1

/-- **Some encoding begins with a lead byte and fewer bytes after it than it announces**, if these
continue it. -/
theorem begins_cons_iff {width : Nat} (hwidth : width? lead = some width) (hlead : 0x80 ≤ lead)
    (hlength : bs.length < width) :
    Begins (lead :: bs) ↔ isLead lead = true ∧ continued (secondByte lead) bs = bs.length := by
  constructor
  · rintro ⟨c, more, hc⟩
    have hc' : encode c = lead :: (bs ++ more) := hc.symm
    have hdecode := (decode_eq_ok_iff (width?_of_encode hc')).mpr hc'
    obtain ⟨hisLead, hcontinued⟩ := (exists_decode_eq_ok_iff hlead).mp ⟨c, hdecode⟩
    exact ⟨hisLead, continued_of_append hcontinued⟩
  · rintro ⟨hisLead, hcontinued⟩
    obtain ⟨more, hmore, hall⟩ :=
      exists_continued (secondByte_le lead) hcontinued (width - 1 - bs.length)
    obtain ⟨c, hdecode⟩ := (exists_decode_eq_ok_iff hlead).mpr ⟨hisLead, hall⟩
    have hfull : width = (bs ++ more).length + 1 := by
      rw [List.length_append]
      omega
    refine ⟨c, more, ?_⟩
    exact ((decode_eq_ok_iff (hfull ▸ hwidth)).mp hdecode).symm

theorem decode_eq_error_cases {n : Nat} (h : decode lead rest = .error n) :
    0x80 ≤ lead ∧
      (isLead lead = true ∧ continued (secondByte lead) rest < rest.length ∧
          n = continued (secondByte lead) rest + 1 ∨
        isLead lead = false ∧ n = 1) := by
  unfold decode at h
  split at h
  · cases h
  · next hlead =>
    refine ⟨UInt8.not_lt.mp hlead, ?_⟩
    split at h
    · next hisLead =>
      dsimp only at h
      split at h
      · cases h
      · next hne =>
        refine Or.inl ⟨hisLead, ?_, (Except.error.inj h).symm⟩
        exact Nat.lt_of_le_of_ne (continued_le_length _ _) hne
    · next hisLead => exact Or.inr ⟨Bool.eq_false_iff.mpr hisLead, (Except.error.inj h).symm⟩

/-- **The error of decoding counts the bytes with which some encoding begins**, given as many bytes
as the lead byte announces. -/
theorem isErrorLength_of_decode {n : Nat} (hwidth : width? lead = some (rest.length + 1))
    (h : decode lead rest = .error n) : IsErrorLength (lead :: rest) n := by
  obtain ⟨hlead, hcases⟩ := decode_eq_error_cases h
  have hbegins {k : Nat} (hk : k ≤ rest.length) :
      Begins ((lead :: rest).take (k + 1)) ↔
        isLead lead = true ∧ k ≤ continued (secondByte lead) rest := by
    have htake : (rest.take k).length = k := List.length_take_of_le hk
    rw [List.take_succ_cons, begins_cons_iff hwidth hlead (by omega), htake, continued_take]
    refine and_congr_right fun _ => ?_
    omega
  have hrest : 0 < rest.length := by
    have htoNat : 0x80 ≤ lead.toNat := UInt8.le_iff_toNat_le.mp hlead
    rw [width?_eq_some_iff] at hwidth
    omega
  rcases hcases with ⟨hisLead, hlt, rfl⟩ | ⟨hisLead, rfl⟩
  · refine ⟨Nat.succ_pos _, Nat.succ_lt_succ hlt, Or.inr ?_, ?_⟩
    · exact (hbegins (Nat.le_of_lt hlt)).mpr ⟨hisLead, Nat.le_refl _⟩
    · intro k hn hk
      obtain ⟨j, rfl⟩ := Nat.exists_eq_add_one_of_ne_zero (Nat.ne_zero_of_lt hn)
      rw [hbegins (Nat.le_of_succ_le_succ hk)]
      rintro ⟨-, hj⟩
      omega
  · refine ⟨Nat.one_pos, Nat.succ_lt_succ hrest, Or.inl rfl, ?_⟩
    intro k hn hk
    obtain ⟨j, rfl⟩ := Nat.exists_eq_add_one_of_ne_zero (Nat.ne_zero_of_lt hn)
    rw [hbegins (Nat.le_of_succ_le_succ hk), hisLead]
    exact fun hboth => Bool.false_ne_true hboth.1

end CellMachine.Utf8
