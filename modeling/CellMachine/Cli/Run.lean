import CellMachine.Cli.Host
import CellMachine.Console.Terminal
import CellMachine.Session
import CellMachine.Text.Lines

/-!
# The command

The command reads an image and runs it with standard input and output as its console. What the
machine reports and how the run ended is logged to standard error, as far as the filter admits it.

The exit code is 0 for a run that halted, 1 if there was no image to read, and 2 for a run that
failed.
-/

namespace CellMachine.Cli

/-! ## What is logged -/

/-- The filter when none has been set: warnings, and what the machine reports if it is traced. -/
def defaultFilter (trace : Trace) : String :=
  if trace.isOff then "warn" else "warn,emulator=debug"

/-- What is logged about the bytes of an image. -/
def imageLines (bytes : List UInt8) : List Log.Line :=
  if bytes.length % 2 = 0 then []
  else [⟨.info, Log.commandTarget, "image has an odd length, padding the last cell", []⟩]

/-- What is logged about the end of a run. -/
def endLine (cycles : Nat) : Except Fault Halt → Log.Line
  | .ok reason =>
    ⟨.info, Log.commandTarget, "done", [("halt", reason.name), ("cycles", toString cycles)]⟩
  | .error fault => ⟨.error, Log.commandTarget, fault.message, []⟩

/-- What is logged when there is no image to read; `reason` is what the system says. -/
def unreadableLine (path reason : String) : Log.Line :=
  ⟨.error, Log.commandTarget, s!"Failed to read {path}: {reason}", []⟩

/-- The lines of a text that is printed. -/
def printed (text : String) : List String := (Text.lines text.toList).map .ofList

namespace Logging

/-- The filter of a run: the one that has been set, if it can be understood. -/
def filterFor (logging : Logging) (trace : Trace) (setting : Option String) : Log.Line → Bool :=
  (setting.bind logging.filter?).getD (logging.filterOf (defaultFilter trace))

/-- The texts of the log lines that a filter admits. -/
def texts (logging : Logging) (filter : Log.Line → Bool) (lines : List Log.Line) : List String :=
  (lines.filter filter).map logging.render

/-- What is on standard error when these log lines have been written to it. -/
def shown (logging : Logging) (filter : Log.Line → Bool) (lines : List Log.Line) : List String :=
  (logging.texts filter lines).flatMap printed

end Logging

/-! ## What the command leaves -/

/-- The exit code after a run. -/
def exitCode : Except Fault Halt → Nat
  | .ok _ => 0
  | .error _ => 2

/-- The exit code when there is no image to read. -/
def unreadableExitCode : Nat := 1

/-- Runs an image for at most `fuel` steps; nothing if it is still running then. -/
def runImage (logging : Logging) (fuel : Nat) (filter : Log.Line → Bool) (settings : Settings)
    (image input : List UInt8) : Option Outcome :=
  let terminal : Terminal := ⟨.ofBytes input, .empty none⟩
  match (Session.start settings (.ofImage image) terminal).runFor fuel with
  | (none, _) => none
  | (some result, s) =>
    let lines := imageLines image ++ s.log.toList.map Log.Line.ofEvent ++
      [endLine s.machine.cycles result]
    some ⟨exitCode result, s.console.output.bytes.toList, logging.shown filter lines⟩

/-- Carries out the command with some arguments and standard input; `setting` is the filter in the
environment. A run may make at most `fuel` steps. -/
def run (host : Host) (fuel : Nat) (args : List String) (input : List UInt8)
    (setting : Option String) : Option Outcome :=
  match host.readArguments args with
  | .error outcome => some outcome
  | .ok options =>
    let filter := host.filterFor options.settings.trace setting
    match host.readFile options.image with
    | .error reason =>
      some ⟨unreadableExitCode, [], host.shown filter [unreadableLine options.image reason]⟩
    | .ok image => runImage host.toLogging fuel filter options.settings image input

end CellMachine.Cli
