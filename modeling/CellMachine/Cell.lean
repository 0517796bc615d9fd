/-!
# Cells, registers and operands

A cell is a 16-bit word. As the operand of an instruction it is either a literal (below 32768) or
the name of one of eight registers (32768 to 32775); every other cell is no operand at all.

An operand sits in a `Slot`: a destination slot takes registers only, a source slot takes both.

## Main statements

* `Register.ofCell?_eq_some_iff`, `Operand.ofCell?_eq_some_iff` — a cell reads as an operand exactly
  if it is the operand's own cell, so reading is the inverse of writing
* `Slot.isSome_read?_iff` — the cells that are legal in a slot
-/

namespace CellMachine

/-- A 16-bit word: of memory, of a register, of the stack. -/
abbrev Cell := UInt16

/-- The literals are the values below this, and sums and products are reduced modulo it. -/
def modulus : Nat := 32768

/-- One of the eight registers. -/
structure Register where
  index : Fin 8
  deriving DecidableEq, Repr

namespace Register

/-- The register of an index, if there is one. -/
def ofIndex? (i : Nat) : Option Register :=
  if h : i < 8 then some ⟨⟨i, h⟩⟩ else none

/-- The register that a cell names. -/
def ofCell? (c : Cell) : Option Register :=
  if modulus ≤ c.toNat then ofIndex? (c.toNat - modulus) else none

/-- The cell that names the register. -/
def cell (r : Register) : Cell := .ofNat (modulus + r.index)

/-- Registers are written `r0` to `r7`. -/
def text (r : Register) : String := s!"r{r.index.val}"

theorem toNat_cell (r : Register) : r.cell.toNat = modulus + r.index := by
  have h := r.index.isLt
  simp only [cell, modulus, UInt16.toNat_ofNat']
  omega

theorem ofCell?_eq_some_iff {c : Cell} {r : Register} : ofCell? c = some r ↔ c = r.cell := by
  have hr := toNat_cell r
  have hlt := r.index.isLt
  constructor
  · intro h
    unfold ofCell? ofIndex? at h
    split at h
    · split at h
      · obtain rfl := Option.some.inj h
        apply UInt16.toNat_inj.mp
        simp only [hr]
        omega
      · simp at h
    · simp at h
  · rintro rfl
    simp [ofCell?, ofIndex?, hr, hlt]

end Register

/-- What an instruction works on: a number as it stands, or whatever a register holds. -/
inductive Operand
  | literal (value : Cell) (value_lt : value.toNat < modulus)
  | register (r : Register)
  deriving DecidableEq, Repr

namespace Operand

/-- The operand that a cell stands for. -/
def ofCell? (c : Cell) : Option Operand :=
  if h : c.toNat < modulus then some (.literal c h) else (Register.ofCell? c).map .register

/-- The cell that stands for the operand. -/
def cell : Operand → Cell
  | .literal value _ => value
  | .register r => r.cell

/-- A literal is written as a decimal number, a register by its name. -/
def text : Operand → String
  | .literal value _ => toString value.toNat
  | .register r => r.text

theorem ofCell?_eq_some_iff {c : Cell} {o : Operand} : ofCell? c = some o ↔ c = o.cell := by
  unfold ofCell?
  split
  · next h =>
    cases o with
    | literal value hv => simp [cell]
    | register r =>
      have hr := r.toNat_cell
      constructor
      · simp
      · rintro rfl
        simp only [cell] at h
        omega
  · next h =>
    cases o with
    | literal value hv =>
      simp only [Option.map_eq_some_iff, reduceCtorEq, and_false, exists_false, false_iff, cell]
      rintro rfl
      exact h hv
    | register r => simp [Register.ofCell?_eq_some_iff, cell]

end Operand

/-- A place for an operand cell in an instruction. -/
inductive Slot
  /-- A register to be written; it is named, not read. -/
  | destination
  /-- A value to be read. -/
  | source
  deriving DecidableEq, Repr

namespace Slot

/-- What a slot holds once its cell has been read. -/
abbrev Content : Slot → Type
  | .destination => Register
  | .source => Operand

/-- What a cell means in a slot, if it is legal there. -/
def read? : (slot : Slot) → Cell → Option slot.Content
  | .destination, c => Register.ofCell? c
  | .source, c => Operand.ofCell? c

/-- The cell that has a given meaning in a slot. -/
def cell : (slot : Slot) → slot.Content → Cell
  | .destination, r => r.cell
  | .source, o => o.cell

/-- What a slot asks for, as error messages call it. -/
def expectation : Slot → String
  | .destination => "Register"
  | .source => "Value"

theorem read?_eq_some_iff {slot : Slot} {c : Cell} {x : slot.Content} :
    slot.read? c = some x ↔ c = slot.cell x := by
  cases slot with
  | destination => exact Register.ofCell?_eq_some_iff
  | source => exact Operand.ofCell?_eq_some_iff

/-- The cells that are legal in a slot: 32768 to 32775 for a destination, up to 32775 for a
source. -/
def Admits : Slot → Cell → Prop
  | .destination, c => modulus ≤ c.toNat ∧ c.toNat < modulus + 8
  | .source, c => c.toNat < modulus + 8

instance (slot : Slot) (c : Cell) : Decidable (slot.Admits c) := by
  cases slot <;> unfold Admits <;> infer_instance

theorem isSome_read?_iff {slot : Slot} {c : Cell} : (slot.read? c).isSome ↔ slot.Admits c := by
  have hregister : (Register.ofCell? c).isSome ↔ Slot.destination.Admits c := by
    simp only [Register.ofCell?, Register.ofIndex?, Admits]
    split
    · split
      · simp only [Option.isSome_some, true_iff]
        omega
      · simp only [Option.isSome_none, Bool.false_eq_true, false_iff]
        omega
    · simp only [Option.isSome_none, Bool.false_eq_true, false_iff]
      omega
  cases slot with
  | destination => exact hregister
  | source =>
    simp only [read?, Operand.ofCell?, Admits] at hregister ⊢
    split
    · simp only [Option.isSome_some, true_iff]
      omega
    · simp only [Option.isSome_map, hregister]
      omega

end Slot

end CellMachine
