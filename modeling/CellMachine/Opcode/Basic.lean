import CellMachine.Cell

/-!
# Opcodes

The 22 operations of the machine, each with its number, its mnemonic and the slots that its operand
cells fill.

## Main statements

* `ofNumber?_eq_some_iff`, `ofMnemonic?_eq_some_iff` — number and mnemonic each name one opcode
* `length_slots` — an opcode has a slot for each of its operand cells
* `arity_le` — no opcode has more than three operands
-/

namespace CellMachine

/-- An operation of the machine, without its operands. -/
inductive Opcode
  | halt | set | push | pop | eq | gt | jump | jumpIf | jumpUnless | add | mul | mod | and | or
  | not | load | store | call | ret | output | input | noop
  deriving DecidableEq, Repr

namespace Opcode

/-- The opcodes in the order of their numbers. -/
def all : List Opcode :=
  [halt, set, push, pop, eq, gt, jump, jumpIf, jumpUnless, add, mul, mod, and, or, not, load, store,
   call, ret, output, input, noop]

/-- The number that stands for the opcode in a cell. -/
def number : Opcode → Nat
  | halt => 0
  | set => 1
  | push => 2
  | pop => 3
  | eq => 4
  | gt => 5
  | jump => 6
  | jumpIf => 7
  | jumpUnless => 8
  | add => 9
  | mul => 10
  | mod => 11
  | and => 12
  | or => 13
  | not => 14
  | load => 15
  | store => 16
  | call => 17
  | ret => 18
  | output => 19
  | input => 20
  | noop => 21

/-- The name by which programmers know the opcode. -/
def mnemonic : Opcode → String
  | halt => "halt"
  | set => "set"
  | push => "push"
  | pop => "pop"
  | eq => "eq"
  | gt => "gt"
  | jump => "jmp"
  | jumpIf => "jt"
  | jumpUnless => "jf"
  | add => "add"
  | mul => "mult"
  | mod => "mod"
  | and => "and"
  | or => "or"
  | not => "not"
  | load => "rmem"
  | store => "wmem"
  | call => "call"
  | ret => "ret"
  | output => "out"
  | input => "in"
  | noop => "noop"

/-- The slots that follow the opcode, in the order of their cells. -/
def slots : Opcode → List Slot
  | halt | ret | noop => []
  | pop | input => [.destination]
  | push | jump | call | output => [.source]
  | set | not | load => [.destination, .source]
  | jumpIf | jumpUnless | store => [.source, .source]
  | eq | gt | add | mul | mod | and | or => [.destination, .source, .source]

/-- How many operand cells follow the opcode. -/
def arity : Opcode → Nat
  | halt | ret | noop => 0
  | push | pop | jump | call | output | input => 1
  | set | jumpIf | jumpUnless | not | load | store => 2
  | eq | gt | add | mul | mod | and | or => 3

/-- The opcode of a number, if there is one. -/
def ofNumber? (n : Nat) : Option Opcode := all[n]?

/-- The cell that holds the opcode. -/
def cell (op : Opcode) : Cell := .ofNat op.number

/-- The opcode with a mnemonic, if there is one. -/
def ofMnemonic? (name : String) : Option Opcode := all.find? (·.mnemonic == name)

theorem mem_all (op : Opcode) : op ∈ all := by cases op <;> decide

theorem number_lt (op : Opcode) : op.number < 22 := by cases op <;> decide

/-- An opcode has a slot for each of its operand cells. -/
theorem length_slots (op : Opcode) : op.slots.length = op.arity := by cases op <;> rfl

theorem arity_le (op : Opcode) : op.arity ≤ 3 := by cases op <;> decide

theorem toNat_cell (op : Opcode) : op.cell.toNat = op.number := by cases op <;> rfl

theorem ofNumber?_number (op : Opcode) : ofNumber? op.number = some op := by cases op <;> rfl

theorem ofNumber?_eq_some_iff {n : Nat} {op : Opcode} : ofNumber? n = some op ↔ n = op.number := by
  constructor
  · intro h
    have hn : n < 22 := (List.getElem?_eq_some_iff.mp h).1
    have hall : ∀ k < 22, ∀ o ∈ all, ofNumber? k = some o → k = o.number := by decide
    exact hall n hn op (mem_all op) h
  · rintro rfl
    exact ofNumber?_number op

theorem ofNumber?_eq_none_iff {n : Nat} : ofNumber? n = none ↔ 21 < n := by
  rw [ofNumber?, List.getElem?_eq_none_iff]
  rfl

theorem ofMnemonic?_eq_some_iff {name : String} {op : Opcode} :
    ofMnemonic? name = some op ↔ name = op.mnemonic := by
  constructor
  · intro h
    rw [ofMnemonic?] at h
    have hname := List.find?_some h
    exact (beq_iff_eq.mp hname).symm
  · rintro rfl
    cases op <;> decide

end Opcode

end CellMachine
