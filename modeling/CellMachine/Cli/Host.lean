import CellMachine.Cli.Options
import CellMachine.Log.Line

/-!
# Hosts

What a command is built on: something that reads its arguments, something that reads files, and
something that it logs with. The command is the same whatever these are.
-/

namespace CellMachine.Cli

/-- What is left of a command when it has ended. -/
structure Outcome where
  exitCode : Nat
  output : List UInt8
  errors : List String
  deriving DecidableEq, Repr

/-- How it is told what is to be shown of a log, and how that is shown. -/
structure Logging where
  /-- The lines that a text asks for, if it can be understood. -/
  filter? : String → Option (Log.Line → Bool)
  /-- The lines that a text asks for, as far as it can be understood. -/
  filterOf : String → Log.Line → Bool
  /-- A line as it is written. -/
  render : Log.Line → String

/-- What a command is built on. -/
structure Host extends Logging where
  /-- What the arguments give. Where they do not ask for a run that ends the command, and this is
  what is left of it. -/
  readArguments : List String → Except Outcome Options
  /-- The bytes of the file at a path, or why they cannot be read. -/
  readFile : String → Except String (List UInt8)

end CellMachine.Cli
