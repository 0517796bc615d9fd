/-!
# The status of a machine

A machine runs until it halts for one of three reasons or faults; what has stopped never runs
again.
-/

namespace CellMachine

/-- Why a machine halted. -/
inductive Halt
  /-- It executed `halt`. -/
  | instruction
  /-- It took a value from an empty stack. -/
  | emptyStack
  /-- It read past the end of the input, and was set to halt there. -/
  | endOfInput
  deriving DecidableEq, Repr

/-- The reason as reports call it. -/
def Halt.name : Halt → String
  | .instruction => "Instruction"
  | .emptyStack => "EmptyStack"
  | .endOfInput => "EndOfInput"

/-- Whether a machine runs. -/
inductive Status
  | running
  | halted (reason : Halt)
  | faulted
  deriving DecidableEq, Repr

end CellMachine
