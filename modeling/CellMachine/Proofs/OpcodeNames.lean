import CellMachine.Opcode.Parse
import CellMachine.Proofs.WhiteSpace
import Mathlib.Data.List.Forall2

/-!
# How opcodes are written

A text that names an opcode is, but for white space round it, a decimal number or a mnemonic. A
number that fits in a cell is always taken for the number of an opcode, be there one or not; a
larger one is a name like any other, and no opcode has it. Mnemonics can be written in capital and
small letters.

## Main statements

* `Text.numeral?_eq_some_iff_isNumeral` — the texts that are read as numbers
* `ofName_eq_ok_iff` — the texts that are read as mnemonics
* `reads_trim` — what a text stands for
* `parse_exact` — what all texts stand for, and the ways to write an opcode
-/

namespace CellMachine

/-! ## Numerals -/

namespace Text

/-- Digits, at least one, with a value as a decimal number. -/
def IsDecimal (digits : List Char) (n : Nat) : Prop :=
  digits ≠ [] ∧ (∀ d ∈ digits, '0' ≤ d ∧ d ≤ '9') ∧ Nat.ofDigitChars 10 digits 0 = n

/-- A decimal number, perhaps with a plus sign. -/
def IsNumeral (cs : List Char) (n : Nat) : Prop :=
  ∃ digits, (cs = digits ∨ cs = '+' :: digits) ∧ IsDecimal digits n

variable {cs : List Char} {m n : Nat}

theorem isDigit_iff {c : Char} : c.isDigit ↔ '0' ≤ c ∧ c ≤ '9' := by
  simp only [Char.isDigit, Bool.and_eq_true, decide_eq_true_eq, Char.le_def]

/-- **The texts that are read as numbers.** -/
theorem numeral?_eq_some_iff_isNumeral : numeral? cs = some n ↔ IsNumeral cs n := by
  rw [numeral?_eq_some_iff]
  constructor
  · rintro ⟨hne, hdigits, hvalue⟩
    refine ⟨unsigned cs, ?_, hne, fun d hd => isDigit_iff.mp (hdigits d hd), hvalue⟩
    unfold unsigned
    split
    · exact Or.inr rfl
    · exact Or.inl rfl
  · rintro ⟨digits, hcs, hne, hdigits, hvalue⟩
    have hunsigned : unsigned cs = digits := by
      rcases hcs with rfl | rfl
      · unfold unsigned
        split
        · -- a plus sign is no digit
          exact absurd (hdigits '+' List.mem_cons_self).1 (by decide)
        · rfl
      · rfl
    rw [hunsigned]
    exact ⟨hne, fun d hd => isDigit_iff.mpr (hdigits d hd), hvalue⟩

theorem IsNumeral.unique (h : IsNumeral cs m) (h' : IsNumeral cs n) : m = n := by
  rw [← numeral?_eq_some_iff_isNumeral] at h h'
  exact Option.some.inj (h.symm.trans h')

theorem IsNumeral.ne_nil (h : IsNumeral cs n) : cs ≠ [] := by
  obtain ⟨digits, rfl | rfl, hne, -, -⟩ := h
  · exact hne
  · exact List.cons_ne_nil _ _

theorem IsNumeral.sign_or_digit (h : IsNumeral cs n) : ∀ c ∈ cs, c = '+' ∨ '0' ≤ c ∧ c ≤ '9' := by
  obtain ⟨digits, hcs, -, hdigits, -⟩ := h
  intro c hc
  rcases hcs with rfl | rfl
  · exact Or.inr (hdigits c hc)
  · exact (List.mem_cons.mp hc).imp_right (hdigits c)

/-- A number as it is written, with zeros before it. -/
theorem isDecimal_toDigits (k n : Nat) :
    IsDecimal (List.replicate k '0' ++ Nat.toDigits 10 n) n := by
  refine ⟨?_, ?_, ?_⟩
  · exact List.append_ne_nil_of_right_ne_nil _ Nat.toDigits_ne_nil
  · intro d hd
    rcases List.mem_append.mp hd with hzero | hdigit
    · rw [List.eq_of_mem_replicate hzero]
      decide
    · exact isDigit_iff.mp (Nat.isDigit_of_mem_toDigits (by decide) (by decide) hdigit)
  · rw [Nat.ofDigitChars_append, Nat.ofDigitChars_replicate_zero, Nat.mul_zero,
      Nat.ofDigitChars_ten_toDigits]

end Text

namespace Opcode

open Text

variable {cs : List Char} {c d : Char} {op : Opcode}

theorem cellNumeral?_eq_some_iff {c : Cell} : cellNumeral? cs = some c ↔ IsNumeral cs c.toNat := by
  rw [← numeral?_eq_some_iff_isNumeral, cellNumeral?]
  cases numeral? cs with
  | none => simp
  | some n =>
    have hc := c.toNat_lt
    simp only [Option.some.injEq]
    split
    · next hlt =>
      rw [Option.some.injEq, ← UInt16.toNat_inj, UInt16.toNat_ofNat_of_lt' hlt]
    · next hge =>
      refine iff_of_false nofun ?_
      rintro rfl
      exact hge hc

theorem cellNumeral?_eq_none_iff : cellNumeral? cs = none ↔ ∀ v ≤ 65535, ¬IsNumeral cs v := by
  rw [Option.eq_none_iff_forall_ne_some]
  simp only [ne_eq, cellNumeral?_eq_some_iff]
  constructor
  · intro h v hv
    have := h (.ofNat v)
    rwa [UInt16.toNat_ofNat_of_lt' (Nat.lt_succ_of_le hv)] at this
  · intro h c
    exact h c.toNat (Nat.le_of_lt_succ c.toNat_lt)

/-! ## Names -/

/-- A capital letter of ASCII and its small letter. -/
def IsCapitalOf (c d : Char) : Prop := 'A' ≤ c ∧ c ≤ 'Z' ∧ d.toNat = c.toNat + 32

/-- Two characters are the same, or one is the capital letter of the other. -/
def SameLetter (c d : Char) : Prop := c = d ∨ IsCapitalOf c d ∨ IsCapitalOf d c

/-- The mnemonic of an opcode, in capital or small letters. -/
def IsName (op : Opcode) (cs : List Char) : Prop := List.Forall₂ SameLetter cs op.mnemonic.toList

theorem toNat_toLower (c : Char) :
    c.toLower.toNat = if 65 ≤ c.toNat ∧ c.toNat ≤ 90 then c.toNat + 32 else c.toNat := by
  unfold Char.toLower
  split
  · next h =>
    have hcapital : 65 ≤ c.toNat ∧ c.toNat ≤ 90 := h
    rw [if_pos hcapital]
    show (c.val + 32).toNat = c.val.toNat + 32
    have hc : c.val.toNat ≤ 90 := hcapital.2
    have hshift : (32 : UInt32).toNat = 32 := rfl
    rw [UInt32.toNat_add, hshift, Nat.mod_eq_of_lt (by omega)]
  · next h =>
    have hcapital : ¬(65 ≤ c.toNat ∧ c.toNat ≤ 90) := h
    rw [if_neg hcapital]

theorem sameLetter_iff : SameLetter c d ↔ c.toLower = d.toLower := by
  have hle (a b : Char) : a ≤ b ↔ a.toNat ≤ b.toNat := Iff.rfl
  have hA : 'A'.toNat = 65 := rfl
  have hZ : 'Z'.toNat = 90 := rfl
  rw [← Char.toNat_inj, toNat_toLower, toNat_toLower, SameLetter, ← Char.toNat_inj]
  simp only [IsCapitalOf, hle, hA, hZ]
  split <;> split <;> omega

theorem map_toLower_mnemonic (op : Opcode) :
    op.mnemonic.toList.map Char.toLower = op.mnemonic.toList := by
  cases op <;> decide

theorem isName_iff : IsName op cs ↔ cs.map Char.toLower = op.mnemonic.toList := by
  have hsame : SameLetter = fun c d => c.toLower = d.toLower :=
    funext₂ fun c d => propext sameLetter_iff
  rw [← map_toLower_mnemonic, ← List.forall₂_eq_eq_eq, List.forall₂_map_left_iff,
    List.forall₂_map_right_iff, IsName, hsame]

theorem isName_mnemonic (op : Opcode) : IsName op op.mnemonic.toList :=
  isName_iff.mpr (map_toLower_mnemonic op)

/-- **The texts that are read as mnemonics.** -/
theorem ofName_eq_ok_iff : ofName cs = .ok op ↔ IsName op cs := by
  have hname : ofMnemonic? (.ofList (cs.map Char.toLower)) = some op ↔ IsName op cs := by
    rw [ofMnemonic?_eq_some_iff, isName_iff, ← String.toList_inj, String.toList_ofList]
  rw [← hname, ofName]
  cases ofMnemonic? (.ofList (cs.map Char.toLower)) <;> simp

theorem ofName_of_not_isName (h : ∀ op, ¬IsName op cs) :
    ofName cs = .error (.unknownMnemonic (.ofList cs)) := by
  simp only [← ofName_eq_ok_iff, ofName] at h ⊢
  split
  · next op hop => exact absurd (by rw [hop]) (h op)
  · rfl

theorem IsName.unique {op' : Opcode} (h : IsName op cs) (h' : IsName op' cs) : op' = op := by
  rw [← ofName_eq_ok_iff] at h h'
  exact Except.ok.inj (h'.symm.trans h)

theorem IsName.ne_nil (h : IsName op cs) : cs ≠ [] := by
  rintro rfl
  have hnil := isName_iff.mp h
  cases op <;> exact absurd hnil (by decide)

theorem IsName.letter (h : IsName op cs) : ∀ c ∈ cs, 'A' ≤ c ∧ c ≤ 'z' := by
  have hsmall : ∀ d ∈ op.mnemonic.toList, 'a' ≤ d ∧ d ≤ 'z' := by
    have hall : op.mnemonic.toList.all fun d => 'a' ≤ d ∧ d ≤ 'z' := by cases op <;> decide
    simpa using hall
  intro c hc
  rw [← isName_iff.mp h] at hsmall
  have hlower : 97 ≤ c.toLower.toNat ∧ c.toLower.toNat ≤ 122 := hsmall _ (List.mem_map_of_mem hc)
  show 65 ≤ c.toNat ∧ c.toNat ≤ 122
  rw [toNat_toLower] at hlower
  split at hlower <;> omega

/-- No numeral is a mnemonic. -/
theorem not_isName_of_isNumeral {n : Nat} (h : IsNumeral cs n) : ¬IsName op cs := by
  intro hname
  obtain ⟨c, rest, rfl⟩ := List.exists_cons_of_ne_nil hname.ne_nil
  have hletter := (hname.letter c List.mem_cons_self).1
  rcases h.sign_or_digit c List.mem_cons_self with rfl | ⟨-, hle⟩
  · exact absurd hletter (by decide)
  · exact absurd (Char.le_trans hletter hle) (by decide)

/-! ## Texts -/

theorem parse_of_isNumeral {text : String} {c : Cell} (h : IsNumeral (trim text.toList) c.toNat) :
    parse text = ofCell c := by
  simp only [parse, cellNumeral?_eq_some_iff.mpr h]

theorem parse_of_not_isNumeral {text : String}
    (h : ∀ v ≤ 65535, ¬IsNumeral (trim text.toList) v) :
    parse text = ofName (trim text.toList) := by
  simp only [parse, cellNumeral?_eq_none_iff.mpr h]

theorem parse_of_not_isName {text : String} (h : ∀ v ≤ 65535, ¬IsNumeral (trim text.toList) v)
    (hno : ∀ op, ¬IsName op (trim text.toList)) :
    parse text = .error (.unknownMnemonic (.ofList (trim text.toList))) := by
  rw [parse_of_not_isNumeral h, ofName_of_not_isName hno]

/-- What a text stands for, by what is left of it without the white space round it. -/
structure Reads (text : String) (t : List Char) : Prop where
  /-- A number that fits in a cell is the number of an opcode, known or not. -/
  number : ∀ v ≤ 65535, IsNumeral t v →
    (v ≤ 21 → ∃ op : Opcode, op.number = v ∧ parse text = .ok op) ∧
      (21 < v → parse text = .error (.unknownOpcode (.ofNat v)))
  /-- Any other text may be the mnemonic of an opcode, and of no more than one. -/
  name : (∀ v ≤ 65535, ¬IsNumeral t v) → ∀ op, IsName op t →
    parse text = .ok op ∧ ∀ op', IsName op' t → op' = op
  unknown : (∀ v ≤ 65535, ¬IsNumeral t v) → (∀ op, ¬IsName op t) →
    parse text = .error (.unknownMnemonic (.ofList t))
  /-- So nothing at all, a minus sign and a number that is too large are mnemonics that no opcode
  has. -/
  unknown_of : t = [] ∨ t.head? = some '-' ∨ (∃ v, 65535 < v ∧ IsNumeral t v) →
    parse text = .error (.unknownMnemonic (.ofList t))

theorem reads_trim (text : String) : Reads text (trim text.toList) := by
  refine ⟨?_, ?_, parse_of_not_isName, ?_⟩
  · intro v hv h
    have hcell : (UInt16.ofNat v).toNat = v := UInt16.toNat_ofNat_of_lt' (Nat.lt_succ_of_le hv)
    rw [parse_of_isNumeral (hcell.symm ▸ h)]
    constructor
    · intro hknown
      have hop := exists_ofCell_eq_ok (hcell.symm ▸ hknown)
      rwa [hcell] at hop
    · intro hlt
      exact ofCell_eq_error_iff.mpr ⟨hcell.symm ▸ hlt, rfl⟩
  · intro h op hop
    rw [parse_of_not_isNumeral h]
    exact ⟨ofName_eq_ok_iff.mpr hop, fun op' => IsName.unique hop⟩
  · rintro (hnil | hminus | ⟨w, hw, hlarge⟩)
    · exact parse_of_not_isName (fun v _ h => h.ne_nil hnil) fun op h => h.ne_nil hnil
    · have hmem := List.mem_of_head? hminus
      refine parse_of_not_isName (fun v _ h => ?_) fun op h => ?_
      · exact absurd (h.sign_or_digit _ hmem) (by decide)
      · exact absurd (h.letter _ hmem).1 (by decide)
    · refine parse_of_not_isName (fun v hv h => ?_) fun op => not_isName_of_isNumeral hlarge
      have := h.unique hlarge
      omega

theorem parse_of_isName {text : String} (h : IsName op text.toList) : parse text = .ok op := by
  have htrim : trim text.toList = text.toList := by
    refine trim_of_graphic fun c hc => ?_
    obtain ⟨hfirst, hlast⟩ := h.letter c hc
    exact ⟨Nat.le_trans (by decide) hfirst, Nat.le_trans hlast (by decide)⟩
  rw [parse_of_not_isNumeral, htrim, ofName_eq_ok_iff.mpr h]
  intro v _ hnumeral
  rw [htrim] at hnumeral
  exact not_isName_of_isNumeral hnumeral h

theorem parse_of_isNumeral_number {text : String} (h : IsNumeral text.toList op.number) :
    parse text = .ok op := by
  have htrim : trim text.toList = text.toList := by
    refine trim_of_graphic fun c hc => ?_
    rcases h.sign_or_digit c hc with rfl | ⟨hfirst, hlast⟩
    · decide
    · exact ⟨Nat.le_trans (by decide) hfirst, Nat.le_trans hlast (by decide)⟩
  rw [← htrim, ← op.toNat_cell] at h
  rw [parse_of_isNumeral h, ofCell_eq_ok_iff.mpr op.toNat_cell]

theorem parse_append_append {before after : String} (hbefore : ∀ c ∈ before.toList, isBlank c)
    (hafter : ∀ c ∈ after.toList, isBlank c) (text : String) :
    parse (before ++ text ++ after) = parse text := by
  simp only [parse, String.toList_append, trim_append_append hbefore hafter]

/-- **Opcodes are read by their grammar**, and by nothing else, whatever white space is round them.
So an opcode is found by its mnemonic in letters of either case and by its number with any zeros
before it. -/
theorem parse_exact :
    (∀ text : String, ∃ t, (∀ t', IsTrimmed text.toList t' ↔ t' = t) ∧ Reads text t) ∧
      (∀ op : Opcode, parse op.mnemonic = .ok op ∧
        (∀ name : String, IsName op name.toList → parse name = .ok op) ∧
        ∀ k, let digits := List.replicate k '0' ++ (toString op.number).toList
          parse (.ofList digits) = .ok op ∧ parse (.ofList ('+' :: digits)) = .ok op) ∧
      ∀ before text after : String, (∀ c ∈ before.toList, isBlank c) →
        (∀ c ∈ after.toList, isBlank c) → parse (before ++ text ++ after) = parse text := by
  refine ⟨?_, ?_, ?_⟩
  · intro text
    refine ⟨trim text.toList, fun t' => ?_, reads_trim text⟩
    rw [← trim_eq_iff, eq_comm]
  · intro op
    refine ⟨parse_of_isName (isName_mnemonic op), fun name => parse_of_isName, ?_⟩
    intro k digits
    have hdigits : IsDecimal digits op.number := by
      have hdecimal := isDecimal_toDigits k op.number
      rwa [← String.toList_ofList (l := Nat.toDigits 10 op.number),
        ← Nat.toString_eq_ofList_toDigits] at hdecimal
    constructor
    · refine parse_of_isNumeral_number ?_
      rw [String.toList_ofList]
      exact ⟨digits, Or.inl rfl, hdigits⟩
    · refine parse_of_isNumeral_number ?_
      rw [String.toList_ofList]
      exact ⟨digits, Or.inr rfl, hdigits⟩
  · intro before text after hbefore hafter
    exact parse_append_append hbefore hafter text

/-- A mnemonic in letters of both cases with white space round it, of which one is not ASCII; the
number of the same opcode with zeros; the least number that has no opcode, and the least one that is
no number of an opcode at all. -/
theorem parse_exact_mixed_case :
    let before := "\u2003 "
    let after := "\n"
    (∀ c ∈ before.toList, isBlank c) ∧ (∀ c ∈ after.toList, isBlank c) ∧
      IsName .call "CaLL".toList ∧ parse (before ++ "CaLL" ++ after) = .ok .call ∧
      parse (.ofList ('+' :: (List.replicate 2 '0' ++ (toString (number .call)).toList))) =
        .ok .call ∧
      IsNumeral "22".toList 22 ∧ parse "22" = .error (.unknownOpcode 22) ∧
      IsNumeral "65536".toList 65536 ∧ parse "65536" = .error (.unknownMnemonic "65536") := by
  intro before after
  obtain ⟨hreads, hwrites, hblank⟩ := parse_exact
  have hbefore : ∀ c ∈ before.toList, isBlank c := List.all_eq_true.mp (by decide)
  have hafter : ∀ c ∈ after.toList, isBlank c := List.all_eq_true.mp (by decide)
  obtain ⟨-, hnames, hnumbers⟩ := hwrites .call
  have hname : IsName .call "CaLL".toList := isName_iff.mpr (by decide)
  have hcall : parse (before ++ "CaLL" ++ after) = .ok .call := by
    rw [hblank before "CaLL" after hbefore hafter, hnames "CaLL" hname]
  have h22 : IsNumeral "22".toList 22 := numeral?_eq_some_iff_isNumeral.mp (by decide)
  have h65536 : IsNumeral "65536".toList 65536 := numeral?_eq_some_iff_isNumeral.mp (by decide)
  refine ⟨hbefore, hafter, hname, hcall, (hnumbers 2).2, h22, ?_, h65536, ?_⟩
  · obtain ⟨t, htrimmed, hreads⟩ := hreads "22"
    have htrim : trim "22".toList = "22".toList := by decide
    obtain rfl := (htrimmed _).mp (trim_eq_iff.mp htrim)
    exact (hreads.number 22 (by decide) h22).2 (by decide)
  · obtain ⟨t, htrimmed, hreads⟩ := hreads "65536"
    have htrim : trim "65536".toList = "65536".toList := by decide
    obtain rfl := (htrimmed _).mp (trim_eq_iff.mp htrim)
    rw [hreads.unknown_of (Or.inr (Or.inr ⟨65536, by decide, h65536⟩)), String.ofList_toList]

end Opcode

end CellMachine
