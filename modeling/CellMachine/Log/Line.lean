import CellMachine.Event

/-!
# Log lines

What is logged has a level of importance, a target, which is the part of the program that it comes
from, and a message with values. A message may hold text from outside; characters of it that could
control a terminal are shown by their code points.
-/

namespace CellMachine.Log

/-- How important a line is. -/
inductive Level
  | error | warn | info | debug | trace
  deriving DecidableEq, Repr

namespace Level

/-- From the most important level to the least. -/
def rank : Level → Nat
  | error => 1
  | warn => 2
  | info => 3
  | debug => 4
  | trace => 5

/-- The level as a line shows it. -/
def name : Level → String
  | error => "ERROR"
  | warn => "WARN"
  | info => "INFO"
  | debug => "DEBUG"
  | trace => "TRACE"

end Level

/-- One message. -/
structure Line where
  level : Level
  target : String
  message : String
  fields : Text.Fields
  deriving DecidableEq, Repr

/-! ## Showing lines -/

/-- A character of a message as it is shown. -/
def guard (c : Char) : List Char :=
  match c with
  | '\x07' => "\\x07".toList
  | '\x08' => "\\x08".toList
  | '\x0c' => "\\x0c".toList
  | '\x1b' => "\\x1b".toList
  | '\x7f' => "\\x7f".toList
  | c =>
    if 0x80 ≤ c.toNat && c.toNat < 0xA0 then
      ['\\', 'u', '\x7b'] ++ Text.hexadecimal c ++ ['\x7d']
    else [c]

/-- A message without characters that could control a terminal. -/
def guarded (message : String) : String := .ofList (message.toList.flatMap guard)

namespace Line

/-- The line as it is printed. -/
def render (line : Line) : String :=
  s!"{line.level.name} {Text.labelled (guarded line.message) line.fields}"

/-- Whether the line has a value of some name; the message counts as one. -/
def has (line : Line) (name : String) : Bool :=
  name = "message" || line.fields.any (·.1 = name)

end Line

/-! ## Targets -/

/-- The target of what machines report. -/
def machineTarget : String := "emulator::vm"

/-- The target of what the command reports. -/
def commandTarget : String := "synacor"

/-- What machines report is for debugging. -/
def Line.ofEvent (event : Event) : Line := ⟨.debug, machineTarget, event.message, event.fields⟩

end CellMachine.Log
