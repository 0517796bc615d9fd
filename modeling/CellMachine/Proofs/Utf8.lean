import CellMachine.Utf8

/-!
# Decoding is the inverse of encoding

A byte of an encoding is a mark and some bits of the code point. So bytes are the encoding of a
character if they have the marks for their number, the bits make up its code point, and no fewer
bytes would do: one equivalence for each number of bytes. `decode` asks for the last by the range of
the second byte alone, which also leaves out the surrogates and what lies beyond 10FFFF; that the
two come to the same is `decode_eq_ok_iff`.

## Main statements

* `encode_eq_two_iff`, `encode_eq_three_iff`, `encode_eq_four_iff` — the bytes of a character
* `decode_eq_ok_iff` — they are the ones that are decoded to it
-/

namespace CellMachine.Utf8

variable {c : Char} {lead a b x y : UInt8} {rest : List UInt8}

/-! ## Encoding -/

theorem isValidChar_toNat (c : Char) : c.toNat < 0xD800 ∨ 0xDFFF < c.toNat ∧ c.toNat < 0x110000 :=
  c.valid

/-- A byte that has a mark and as many bits as the mark leaves free. -/
theorem ofNat_mod_add_eq_iff {n m mark : Nat} (hpos : 0 < m) (hmark : mark % m = 0)
    (hsize : mark + m ≤ 256) :
    UInt8.ofNat (n % m + mark) = b ↔
      (mark ≤ b.toNat ∧ b.toNat < mark + m) ∧ n % m = b.toNat % m := by
  have hlt := Nat.mod_lt n hpos
  have hbyte : n % m + mark < 256 := by omega
  rw [← UInt8.toNat_inj, UInt8.toNat_ofNat', Nat.mod_eq_of_lt hbyte]
  constructor
  · intro h
    refine ⟨by omega, ?_⟩
    rw [← h, Nat.add_mod, hmark, Nat.add_zero, Nat.mod_mod, Nat.mod_mod]
  · rintro ⟨hb, h⟩
    obtain ⟨bits, hbits⟩ := Nat.exists_eq_add_of_le hb.1
    have hfree : bits < m := by omega
    rw [hbits, Nat.add_mod, hmark, Nat.zero_add, Nat.mod_mod, Nat.mod_eq_of_lt hfree] at h
    omega

/-- The encodings, by the number of bytes. -/
theorem encode_eq (c : Char) :
    encode c =
      if c.toNat < 0x80 then [.ofNat c.toNat]
      else if c.toNat < 0x800 then
        [.ofNat (c.toNat / 64 % 32 + 0xC0), .ofNat (c.toNat % 64 + 0x80)]
      else if c.toNat < 0x10000 then
        [.ofNat (c.toNat / 4096 % 16 + 0xE0), .ofNat (c.toNat / 64 % 64 + 0x80),
          .ofNat (c.toNat % 64 + 0x80)]
      else
        [.ofNat (c.toNat / 262144 % 8 + 0xF0), .ofNat (c.toNat / 4096 % 64 + 0x80),
          .ofNat (c.toNat / 64 % 64 + 0x80), .ofNat (c.toNat % 64 + 0x80)] := by
  simp only [encode, String.utf8EncodeChar, Char.toNat_val, Nat.lt_succ_iff]

theorem encode_eq_one_iff : encode c = [a] ↔ a.toNat < 0x80 ∧ c.toNat = a.toNat := by
  have ha := a.toNat_lt
  rw [encode_eq]
  split
  · rw [List.singleton_inj, ← UInt8.toNat_inj, UInt8.toNat_ofNat']
    omega
  · (repeat' split) <;> simp only [List.cons.injEq, reduceCtorEq, and_false, false_iff] <;> omega

theorem encode_eq_two_iff :
    encode c = [a, b] ↔
      (0xC0 ≤ a.toNat ∧ a.toNat < 0xE0) ∧ (0x80 ≤ b.toNat ∧ b.toNat < 0xC0) ∧
        c.toNat = 64 * (a.toNat % 32) + b.toNat % 64 ∧ 0x80 ≤ c.toNat := by
  rw [encode_eq]
  (repeat' split) <;> simp (disch := decide) only [List.cons.injEq, reduceCtorEq,
    ofNat_mod_add_eq_iff, and_true, and_false, false_iff] <;> omega

theorem encode_eq_three_iff :
    encode c = [a, b, x] ↔
      (0xE0 ≤ a.toNat ∧ a.toNat < 0xF0) ∧ (0x80 ≤ b.toNat ∧ b.toNat < 0xC0) ∧
        (0x80 ≤ x.toNat ∧ x.toNat < 0xC0) ∧
        c.toNat = 64 * (64 * (a.toNat % 16) + b.toNat % 64) + x.toNat % 64 ∧ 0x800 ≤ c.toNat := by
  rw [encode_eq]
  (repeat' split) <;> simp (disch := decide) only [List.cons.injEq, reduceCtorEq,
    ofNat_mod_add_eq_iff, and_true, and_false, false_iff] <;> omega

theorem encode_eq_four_iff :
    encode c = [a, b, x, y] ↔
      (0xF0 ≤ a.toNat ∧ a.toNat < 0xF8) ∧ (0x80 ≤ b.toNat ∧ b.toNat < 0xC0) ∧
        (0x80 ≤ x.toNat ∧ x.toNat < 0xC0) ∧ (0x80 ≤ y.toNat ∧ y.toNat < 0xC0) ∧
        c.toNat =
          64 * (64 * (64 * (a.toNat % 8) + b.toNat % 64) + x.toNat % 64) + y.toNat % 64 ∧
        0x10000 ≤ c.toNat := by
  have hvalid := isValidChar_toNat c
  rw [encode_eq]
  (repeat' split) <;> simp (disch := decide) only [List.cons.injEq, reduceCtorEq,
    ofNat_mod_add_eq_iff, and_true, and_false, false_iff] <;> omega

/-! ## Decoding -/

theorem width?_eq_some_iff {width : Nat} :
    width? lead = some width ↔
      width = 1 ∧ lead.toNat < 0x80 ∨ width = 2 ∧ 0xC0 ≤ lead.toNat ∧ lead.toNat < 0xE0 ∨
        width = 3 ∧ 0xE0 ≤ lead.toNat ∧ lead.toNat < 0xF0 ∨
        width = 4 ∧ 0xF0 ≤ lead.toNat ∧ lead.toNat < 0xF8 := by
  simp only [width?, UInt8.lt_iff_toNat_lt, UInt8.reduceToNat]
  (repeat' split) <;> simp only [Option.some.injEq, reduceCtorEq, false_iff] <;> omega

theorem leadBits_eq :
    leadBits lead =
      if lead.toNat < 0x80 then lead.toNat
      else if lead.toNat < 0xE0 then lead.toNat % 32
      else if lead.toNat < 0xF0 then lead.toNat % 16
      else lead.toNat % 8 := rfl

theorem mem_secondByte_iff :
    (secondByte a).1 ≤ b ∧ b ≤ (secondByte a).2 ↔
      (0x80 ≤ b.toNat ∧ b.toNat < 0xC0) ∧ (a.toNat = 0xE0 → 0xA0 ≤ b.toNat) ∧
        (a.toNat = 0xED → b.toNat < 0xA0) ∧ (a.toNat = 0xF0 → 0x90 ≤ b.toNat) ∧
        (a.toNat = 0xF4 → b.toNat < 0x90) := by
  simp only [secondByte, ← UInt8.toNat_inj, UInt8.reduceToNat]
  (repeat' split) <;> simp only [UInt8.le_iff_toNat_le, UInt8.reduceToNat] <;> omega

/-- Bytes continue an encoding to their end if the first is in its range and the others are marked
as such. -/
theorem continued_eq_length_iff {range : UInt8 × UInt8} {bs : List UInt8} :
    continued range (b :: bs) = (b :: bs).length ↔
      (range.1 ≤ b ∧ b ≤ range.2) ∧ ∀ x ∈ bs, 0x80 ≤ x.toNat ∧ x.toNat < 0xC0 := by
  induction bs generalizing range b with
  | nil => simp [continued]
  | cons y ys ih =>
    have hy : (0x80 ≤ y ∧ y ≤ 0xBF) ↔ 0x80 ≤ y.toNat ∧ y.toNat < 0xC0 := by
      rw [UInt8.le_iff_toNat_le, UInt8.le_iff_toNat_le, ← Nat.lt_succ_iff (m := y.toNat)]
      rfl
    rw [continued]
    split
    · next h =>
      rw [Bool.and_eq_true, decide_eq_true_iff, decide_eq_true_iff] at h
      rw [List.length_cons, Nat.add_right_cancel_iff, ih, List.forall_mem_cons]
      simp only [h, hy, true_and, and_self]
    · next h =>
      rw [Bool.and_eq_true, decide_eq_true_iff, decide_eq_true_iff] at h
      simp only [h, false_and, iff_false]
      exact (Nat.succ_ne_zero _).symm

theorem charOfNat_eq_iff {n : Nat} (h : n.isValidChar) : Char.ofNat n = c ↔ c.toNat = n := by
  constructor
  · rintro rfl
    rw [Char.ofNat, dif_pos h]
    rfl
  · rintro rfl
    exact Char.ofNat_toNat c

theorem decode_of_lt (ha : a.toNat < 0x80) (rest : List UInt8) :
    decode a rest = .ok (.ofNat a.toNat) := by
  rw [decode, if_pos (UInt8.lt_iff_toNat_lt.mpr ha)]

/-- What is decoded after a lead byte of more than one byte. -/
theorem decode_cons_eq_ok_iff {bs : List UInt8} (ha : 0x80 ≤ a.toNat) :
    decode a (b :: bs) = .ok c ↔
      (0xC2 ≤ a.toNat ∧ a.toNat ≤ 0xF4) ∧ ((secondByte a).1 ≤ b ∧ b ≤ (secondByte a).2) ∧
        (∀ x ∈ bs, 0x80 ≤ x.toNat ∧ x.toNat < 0xC0) ∧ Char.ofNat (codePoint a (b :: bs)) = c := by
  have hnot : ¬a < 0x80 := UInt8.not_lt.mpr (UInt8.le_iff_toNat_le.mpr ha)
  have hlead : isLead a = true ↔ 0xC2 ≤ a.toNat ∧ a.toNat ≤ 0xF4 := by
    rw [isLead, Bool.and_eq_true, decide_eq_true_iff, decide_eq_true_iff, UInt8.le_iff_toNat_le,
      UInt8.le_iff_toNat_le]
    rfl
  simp only [decode, if_neg hnot, hlead, continued_eq_length_iff]
  split
  · next h =>
    split
    · next hrest =>
      rw [Except.ok.injEq, and_iff_right h, and_iff_right hrest.1, and_iff_right hrest.2]
    · next hrest =>
      refine iff_of_false nofun ?_
      rintro ⟨-, hb, hbs, -⟩
      exact hrest ⟨hb, hbs⟩
  · next h => simp only [reduceCtorEq, h, false_and]

theorem decode_one_iff (ha : a.toNat < 0x80) : decode a [] = .ok c ↔ encode c = [a] := by
  rw [encode_eq_one_iff, decode_of_lt ha, Except.ok.injEq, charOfNat_eq_iff (Or.inl (by omega))]
  exact (and_iff_right ha).symm

theorem decode_two_iff (ha : 0xC0 ≤ a.toNat ∧ a.toNat < 0xE0) :
    decode a [b] = .ok c ↔ encode c = [a, b] := by
  have hbits : leadBits a = a.toNat % 32 := by
    rw [leadBits_eq, if_neg (by omega), if_pos (by omega)]
  rw [encode_eq_two_iff, decode_cons_eq_ok_iff (by omega), mem_secondByte_iff]
  simp only [codePoint, List.foldl, hbits, List.not_mem_nil, false_imp_iff, implies_true, true_and]
  constructor
  · rintro ⟨hlead, hb, hc⟩
    rw [charOfNat_eq_iff (Or.inl (by omega))] at hc
    omega
  · rintro ⟨-, hb, hc, hle⟩
    refine ⟨by omega, by omega, ?_⟩
    rw [← hc, Char.ofNat_toNat]

theorem decode_three_iff (ha : 0xE0 ≤ a.toNat ∧ a.toNat < 0xF0) :
    decode a [b, x] = .ok c ↔ encode c = [a, b, x] := by
  have hvalid := isValidChar_toNat c
  have hbits : leadBits a = a.toNat % 16 := by
    rw [leadBits_eq, if_neg (by omega), if_neg (by omega), if_pos (by omega)]
  rw [encode_eq_three_iff, decode_cons_eq_ok_iff (by omega), mem_secondByte_iff]
  simp only [codePoint, List.foldl, hbits, List.forall_mem_cons, List.not_mem_nil, false_imp_iff,
    implies_true, and_true]
  constructor
  · rintro ⟨hlead, hb, hx, hc⟩
    -- after ED the second byte is below A0, so that this is no surrogate
    have hn : Nat.isValidChar (64 * (64 * (a.toNat % 16) + b.toNat % 64) + x.toNat % 64) := by
      unfold Nat.isValidChar
      omega
    rw [charOfNat_eq_iff hn] at hc
    omega
  · rintro ⟨-, hb, hx, hc, hle⟩
    refine ⟨by omega, by omega, hx, ?_⟩
    rw [← hc, Char.ofNat_toNat]

theorem decode_four_iff (ha : 0xF0 ≤ a.toNat ∧ a.toNat < 0xF8) :
    decode a [b, x, y] = .ok c ↔ encode c = [a, b, x, y] := by
  have hvalid := isValidChar_toNat c
  have hbits : leadBits a = a.toNat % 8 := by
    rw [leadBits_eq, if_neg (by omega), if_neg (by omega), if_neg (by omega)]
  rw [encode_eq_four_iff, decode_cons_eq_ok_iff (by omega), mem_secondByte_iff]
  simp only [codePoint, List.foldl, hbits, List.forall_mem_cons, List.not_mem_nil, false_imp_iff,
    implies_true, and_true]
  constructor
  · rintro ⟨hlead, hb, ⟨hx, hy⟩, hc⟩
    -- the lead byte is at most F4, and after F4 the second byte is below 90
    rw [charOfNat_eq_iff (Or.inr (by omega))] at hc
    omega
  · rintro ⟨-, hb, hx, hy, hc, hle⟩
    refine ⟨by omega, by omega, ⟨hx, hy⟩, ?_⟩
    rw [← hc, Char.ofNat_toNat]

/-- **What is decoded is what was encoded**, given as many bytes as the lead byte announces. -/
theorem decode_eq_ok_iff (h : width? lead = some (rest.length + 1)) :
    decode lead rest = .ok c ↔ encode c = lead :: rest := by
  rw [width?_eq_some_iff] at h
  rcases h with ⟨hlength, hlead⟩ | ⟨hlength, hlead⟩ | ⟨hlength, hlead⟩ | ⟨hlength, hlead⟩
  · obtain rfl := List.length_eq_zero_iff.mp (Nat.succ.inj hlength)
    exact decode_one_iff hlead
  · match rest, hlength with
    | [b], _ => exact decode_two_iff hlead
  · match rest, hlength with
    | [b, x], _ => exact decode_three_iff hlead
  · match rest, hlength with
    | [b, x, y], _ => exact decode_four_iff hlead

/-- The lead byte of an encoding announces how long it is. -/
theorem width?_of_encode (h : encode c = lead :: rest) : width? lead = some (rest.length + 1) := by
  rw [width?_eq_some_iff]
  match rest, h with
  | [], h =>
    rw [encode_eq_one_iff] at h
    exact Or.inl ⟨rfl, h.1⟩
  | [b], h =>
    rw [encode_eq_two_iff] at h
    exact Or.inr (Or.inl ⟨rfl, h.1⟩)
  | [b, x], h =>
    rw [encode_eq_three_iff] at h
    exact Or.inr (Or.inr (Or.inl ⟨rfl, h.1⟩))
  | [b, x, y], h =>
    rw [encode_eq_four_iff] at h
    exact Or.inr (Or.inr (Or.inr ⟨rfl, h.1⟩))
  | b :: x :: y :: z :: more, h =>
    have hle : (encode c).length ≤ 4 := by
      rw [encode, String.length_utf8EncodeChar]
      exact c.utf8Size_le_four
    rw [h] at hle
    simp only [List.length_cons] at hle
    omega

theorem exists_encode_eq_cons (c : Char) : ∃ lead rest, encode c = lead :: rest := by
  have hpos : 0 < (encode c).length := by
    rw [encode, String.length_utf8EncodeChar]
    exact c.utf8Size_pos
  exact List.exists_cons_of_length_pos hpos

/-- An encoding has at least one byte. -/
theorem length_lt_encode_append (c : Char) (bytes : List UInt8) :
    bytes.length < (encode c ++ bytes).length := by
  obtain ⟨lead, rest, hencode⟩ := exists_encode_eq_cons c
  rw [hencode, List.length_append, List.length_cons]
  omega

end CellMachine.Utf8
