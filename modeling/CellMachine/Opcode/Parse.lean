import CellMachine.Error
import CellMachine.Text.Blank
import CellMachine.Text.Decimal

/-!
# Opcodes in text

An opcode is written as its number or as its mnemonic in letters of either case, with any white
space round it. A number that fits in a cell is never taken for a mnemonic.
-/

namespace CellMachine.Opcode

/-- The opcode that a cell holds. -/
def ofCell (c : Cell) : Except Error Opcode :=
  match ofNumber? c.toNat with
  | some op => .ok op
  | none => .error (.unknownOpcode c)

/-- A numeral whose value fits in a cell. -/
def cellNumeral? (cs : List Char) : Option Cell :=
  match Text.numeral? cs with
  | some n => if n < UInt16.size then some (.ofNat n) else none
  | none => none

/-- The opcode with a mnemonic; capital and small letters of ASCII count as the same. -/
def ofName (name : List Char) : Except Error Opcode :=
  match ofMnemonic? (.ofList (name.map Char.toLower)) with
  | some op => .ok op
  | none => .error (.unknownMnemonic (.ofList name))

/-- The opcode that a text names, by number or by mnemonic. -/
def parse (text : String) : Except Error Opcode :=
  let name := Text.trim text.toList
  match cellNumeral? name with
  | some c => ofCell c
  | none => ofName name

theorem ofCell_eq_ok_iff {c : Cell} {op : Opcode} : ofCell c = .ok op ↔ c.toNat = op.number := by
  rw [← ofNumber?_eq_some_iff]
  unfold ofCell
  split <;> simp_all

theorem ofCell_eq_error_iff {c : Cell} {e : Error} :
    ofCell c = .error e ↔ 21 < c.toNat ∧ e = .unknownOpcode c := by
  rw [← ofNumber?_eq_none_iff, ofCell]
  cases ofNumber? c.toNat <;> simp [eq_comm]

theorem exists_ofCell_eq_ok {c : Cell} (h : c.toNat ≤ 21) :
    ∃ op : Opcode, op.number = c.toNat ∧ ofCell c = .ok op := by
  cases hop : ofCell c with
  | ok op => exact ⟨op, (ofCell_eq_ok_iff.mp hop).symm, rfl⟩
  | error e => exact absurd (ofCell_eq_error_iff.mp hop).1 (Nat.not_lt_of_le h)

end CellMachine.Opcode
