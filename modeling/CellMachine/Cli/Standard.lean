import CellMachine.Cli.Directory
import CellMachine.Cli.Help
import CellMachine.Cli.Run
import CellMachine.Log.Filter

/-!
# The standard host

Its arguments are those of `Command.ofArguments`, and its filters are lists of directives. Files can
be anywhere, such as in a directory.
-/

namespace CellMachine.Cli

/-- The exit code after a mistake on the command line. -/
def usageExitCode : Nat := 2

/-- Filters are written as directives, and lines without what could control a terminal. -/
def Logging.standard : Logging where
  filter? text := (Log.Filter.parse? text).map Log.Filter.admits
  filterOf text := (Log.Filter.ofText text).admits
  render := Log.Line.render

namespace Host

/-- What the arguments give. Help goes to standard output, and the first line about a mistake to
standard error. -/
def standardArguments (args : List String) : Except Outcome Options :=
  match Command.ofArguments args with
  | .error e => .error ⟨usageExitCode, [], [e.firstLine]⟩
  | .ok (.help form) => .error ⟨0, (helpText form).toUTF8.toList, []⟩
  | .ok (.run options) => .ok options

/-- The host with some files. -/
def standard (readFile : String → Except String (List UInt8)) : Host where
  toLogging := .standard
  readArguments := standardArguments
  readFile := readFile

/-- The host with the files of a directory. -/
def ofDirectory (d : Directory) : Host :=
  standard fun path => (d.read path).mapError FileError.message

end Host

end CellMachine.Cli
