import CellMachine.Core
import CellMachine.Program
import CellMachine.Status
import CellMachine.Text.Labelled

/-!
# Events

What a machine reports while it runs: an instruction that is about to be executed, and how it
stopped.
-/

namespace CellMachine

/-- Something that a machine reports. -/
inductive Event
  /-- The machine executes an instruction; `core` is what it held before. -/
  | exec (fetched : Fetched) (core : Core)
  /-- The machine halted at an address, in its cycle number `cycles`. -/
  | halted (address cycles : Nat) (reason : Halt)
  /-- The machine failed at an address, in its cycle number `cycles`. -/
  | faulted (address cycles : Nat) (error : Error)
  deriving DecidableEq, Repr

namespace Event

/-- What happened, without the particulars. -/
def message : Event → String
  | .exec .. => "exec"
  | .halted .. => "machine halted"
  | .faulted .. => "machine faulted"

/-- The particulars, each with its name. The stack is shown from its bottom to its top. -/
def fields : Event → Text.Fields
  | .exec fetched core =>
    [("ip", toString fetched.address),
     ("opcode", fetched.opcode.mnemonic),
     ("operands", Text.numbers fetched.operands),
     ("registers", Text.numbers core.registers.toList),
     ("stack", Text.numbers core.stack.reverse)]
  | .halted address cycles reason =>
    [("ip", toString address), ("cycles", toString cycles), ("halt", reason.name)]
  | .faulted address cycles error =>
    [("ip", toString address), ("cycles", toString cycles), ("error", error.message)]

/-- The event in words. -/
def text (event : Event) : String := Text.labelled event.message event.fields

end Event

end CellMachine
