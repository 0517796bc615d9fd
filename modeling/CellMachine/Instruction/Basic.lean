import CellMachine.Opcode.Basic

/-!
# Instructions

An instruction is an operation together with its operands. Seen from memory it is an opcode and
contents for the slots of that opcode (`Operands`); the two views agree.

## Main statements

* `ofOperands_operands` — an instruction is given by its opcode and its operands
* `operandCells_ofOperands` — its cells are those of its operands
-/

namespace CellMachine

/-! ## Contents for slots -/

/-- What the slots of an opcode hold: a register or an operand for each. -/
inductive Operands : List Slot → Type
  | nil : Operands []
  | cons {slot : Slot} {slots : List Slot} (content : slot.Content) (rest : Operands slots) :
    Operands (slot :: slots)

namespace Operands

/-- The cells of the operands. -/
def cells : {slots : List Slot} → Operands slots → List Cell
  | _, .nil => []
  | slot :: _, .cons content rest => slot.cell content :: rest.cells

/-- How the operands are written. -/
def texts : {slots : List Slot} → Operands slots → List String
  | _, .nil => []
  | .destination :: _, .cons r rest => Register.text r :: rest.texts
  | .source :: _, .cons o rest => Operand.text o :: rest.texts

theorem length_cells {slots : List Slot} (operands : Operands slots) :
    operands.cells.length = slots.length := by
  induction operands with
  | nil => rfl
  | cons content rest ih => simp [cells, ih]

end Operands

/-! ## Instructions -/

/-- The operations that compute a value from two others. -/
inductive BinaryOp
  | eq | gt | add | mul | mod | and | or
  deriving DecidableEq, Repr

/-- The opcode of a binary operation. -/
def BinaryOp.opcode : BinaryOp → Opcode
  | .eq => .eq
  | .gt => .gt
  | .add => .add
  | .mul => .mul
  | .mod => .mod
  | .and => .and
  | .or => .or

/-- An operation and its operands. -/
inductive Instruction
  /-- Stop. -/
  | halt
  /-- Put a value into a register. -/
  | set (dst : Register) (value : Operand)
  /-- Put a value on the stack. -/
  | push (value : Operand)
  /-- Take the top of the stack into a register. -/
  | pop (dst : Register)
  /-- Put the result of an operation on two values into a register. -/
  | binary (op : BinaryOp) (dst : Register) (a b : Operand)
  /-- Put the value with its fifteen low bits inverted into a register. -/
  | not (dst : Register) (value : Operand)
  /-- Go on at an address. -/
  | jump (target : Operand)
  /-- Go on at an address if the condition is not zero. -/
  | jumpIf (cond target : Operand)
  /-- Go on at an address if the condition is zero. -/
  | jumpUnless (cond target : Operand)
  /-- Read a cell of memory into a register. -/
  | load (dst : Register) (address : Operand)
  /-- Write a value to a cell of memory. -/
  | store (address value : Operand)
  /-- Put the address of the next instruction on the stack and go on at another. -/
  | call (target : Operand)
  /-- Take an address from the stack and go on there. -/
  | ret
  /-- Write a character. -/
  | output (value : Operand)
  /-- Read a character into a register. -/
  | input (dst : Register)
  /-- Do nothing. -/
  | noop
  deriving DecidableEq, Repr

namespace Instruction

/-- The opcode of the instruction. -/
def opcode : Instruction → Opcode
  | halt => .halt
  | set .. => .set
  | push .. => .push
  | pop .. => .pop
  | binary op .. => op.opcode
  | not .. => .not
  | jump .. => .jump
  | jumpIf .. => .jumpIf
  | jumpUnless .. => .jumpUnless
  | load .. => .load
  | store .. => .store
  | call .. => .call
  | ret => .ret
  | output .. => .output
  | input .. => .input
  | noop => .noop

/-- The operands of the instruction, slot by slot. -/
def operands : (i : Instruction) → Operands i.opcode.slots
  | halt | ret | noop => .nil
  | push x | jump x | call x | output x => .cons x .nil
  | pop dst | input dst => .cons dst .nil
  | set dst x | not dst x | load dst x => .cons dst (.cons x .nil)
  | jumpIf x y | jumpUnless x y | store x y => .cons x (.cons y .nil)
  | binary .eq dst a b | binary .gt dst a b | binary .add dst a b | binary .mul dst a b
  | binary .mod dst a b | binary .and dst a b | binary .or dst a b =>
    .cons dst (.cons a (.cons b .nil))

/-- The instruction of an opcode and contents for its slots. -/
def ofOperands : (op : Opcode) → Operands op.slots → Instruction
  | .halt, .nil => halt
  | .set, .cons dst (.cons value .nil) => set dst value
  | .push, .cons value .nil => push value
  | .pop, .cons dst .nil => pop dst
  | .eq, .cons dst (.cons a (.cons b .nil)) => binary .eq dst a b
  | .gt, .cons dst (.cons a (.cons b .nil)) => binary .gt dst a b
  | .jump, .cons target .nil => jump target
  | .jumpIf, .cons cond (.cons target .nil) => jumpIf cond target
  | .jumpUnless, .cons cond (.cons target .nil) => jumpUnless cond target
  | .add, .cons dst (.cons a (.cons b .nil)) => binary .add dst a b
  | .mul, .cons dst (.cons a (.cons b .nil)) => binary .mul dst a b
  | .mod, .cons dst (.cons a (.cons b .nil)) => binary .mod dst a b
  | .and, .cons dst (.cons a (.cons b .nil)) => binary .and dst a b
  | .or, .cons dst (.cons a (.cons b .nil)) => binary .or dst a b
  | .not, .cons dst (.cons value .nil) => not dst value
  | .load, .cons dst (.cons address .nil) => load dst address
  | .store, .cons address (.cons value .nil) => store address value
  | .call, .cons target .nil => call target
  | .ret, .nil => ret
  | .output, .cons value .nil => output value
  | .input, .cons dst .nil => input dst
  | .noop, .nil => noop

/-- The cells that follow the opcode's cell. -/
def operandCells (i : Instruction) : List Cell := i.operands.cells

/-- The cells of the instruction in memory. -/
def cells (i : Instruction) : List Cell := i.opcode.cell :: i.operandCells

theorem ofOperands_operands (i : Instruction) : ofOperands i.opcode i.operands = i := by
  cases i with
  | binary op dst a b => cases op <;> rfl
  | _ => rfl

theorem opcode_ofOperands (op : Opcode) (operands : Operands op.slots) :
    (ofOperands op operands).opcode = op := by
  unfold ofOperands
  split <;> rfl

theorem operandCells_ofOperands (op : Opcode) (operands : Operands op.slots) :
    (ofOperands op operands).operandCells = operands.cells := by
  unfold ofOperands
  split <;> rfl

theorem length_operandCells (i : Instruction) : i.operandCells.length = i.opcode.arity :=
  i.operands.length_cells.trans i.opcode.length_slots

end Instruction

end CellMachine
