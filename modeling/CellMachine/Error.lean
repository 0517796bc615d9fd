import CellMachine.Opcode.Basic
import CellMachine.Console.Basic
import CellMachine.Text.Quoted

/-!
# Errors and faults

What can go wrong when a program is decoded and run, and the words for it. A fault is an error
together with the address of the instruction that failed.
-/

namespace CellMachine

/-- Why something failed. -/
inductive Error
  /-- A cell is not legal in its slot. -/
  | invalidOperand (cell : Cell) (slot : Slot)
  /-- No opcode has this number. -/
  | unknownOpcode (number : Cell)
  /-- No opcode has this name. -/
  | unknownMnemonic (name : String)
  /-- A program of `length` cells has no cell at `address`. -/
  | outOfBounds (address length : Nat)
  /-- Only `available` cells are left for the operands of `opcode`. -/
  | truncated (opcode : Opcode) (available : Nat)
  | divisionByZero
  /-- The value is not the code point of a character. -/
  | invalidCharacter (value : Cell)
  /-- The code point of the character is not the value of a literal. -/
  | unrepresentableInput (c : Char)
  | inputExhausted
  | machineHalted
  | console (cause : ConsoleError)
  deriving DecidableEq, Repr

/-- The error in words. -/
def Error.message : Error → String
  | .invalidOperand cell slot => s!"invalid operand cell {cell}, expected a {slot.expectation}"
  | .unknownOpcode number => s!"unknown opcode {number}"
  | .unknownMnemonic name => s!"unknown mnemonic `{name}`"
  | .outOfBounds address length => s!"cell {address} is outside the program (length {length})"
  | .truncated opcode available =>
    s!"`{opcode.mnemonic}` needs {opcode.arity} operands but the program ends after {available}"
  | .divisionByZero => "division by zero"
  | .invalidCharacter value => s!"cannot output {value}, it is not a character"
  | .unrepresentableInput c => s!"input character {Text.quote c} does not fit in a cell"
  | .inputExhausted => "input exhausted"
  | .machineHalted => "machine is halted"
  | .console cause => cause.message

/-- An error and the address of the instruction it belongs to. -/
structure Fault where
  address : Nat
  error : Error
  deriving DecidableEq, Repr

/-- The fault in words. -/
def Fault.message (fault : Fault) : String :=
  s!"fault at cell {fault.address}: {fault.error.message}"

end CellMachine
