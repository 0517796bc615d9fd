import CellMachine.Cli.Standard

/-!
# The program

The command with the files, the standard streams and the environment of the system. It behaves as
`Cli.run` says, except that it does not wait for the end of a run: a character is written as soon
as it is output, and no more is read than the next character needs.
-/

namespace CellMachine.Cli

/-- The reason why a file could not be read. -/
def reasonFor : IO.Error → String
  | .noFileOrDirectory .. => FileError.notFound.message
  | .inappropriateType _ 21 _ => FileError.isADirectory.message
  | .inappropriateType .. => FileError.notADirectory.message
  | e => toString e

/-- Prints the lines that a filter admits. -/
def printLines (filter : Log.Line → Bool) (lines : List Log.Line) : IO Unit := do
  let stderr ← IO.getStderr
  for text in Logging.standard.texts filter lines do
    stderr.putStrLn text

/-- Reads from a stream until the next character can be read. -/
partial def feed (stdin : IO.FS.Stream) (t : Terminal) : IO Terminal := do
  if t.missing = 0 then return t
  let bytes ← stdin.read t.missing.toUSize
  if bytes.isEmpty then return t
  feed stdin { t with input := t.input.append bytes.toList }

/-- Makes steps until the machine stops, and says how it ended. -/
partial def interact (filter : Log.Line → Bool) (s : Session Terminal) : IO UInt32 := do
  let console ← if s.machine.awaitsInput then feed (← IO.getStdin) s.console else pure s.console
  let (result, s) := Session.step { s with console }
  printLines filter (s.log.toList.map Log.Line.ofEvent)
  let written := s.console.output.bytes
  unless written.isEmpty do
    let stdout ← IO.getStdout
    stdout.write ⟨written⟩
    stdout.flush
  let output := { s.console.output with bytes := #[] }
  let ended (result : Except Fault Halt) : IO UInt32 := do
    printLines filter [endLine s.machine.cycles result]
    return (exitCode result).toUInt32
  match result with
  | .error fault => ended (.error fault)
  | .ok (.halted reason) => ended (.ok reason)
  | .ok _ => interact filter ⟨s.machine, { s.console with output }, #[]⟩

/-- Reads an image and runs it. -/
def runFile (filter : Log.Line → Bool) (options : Options) : IO UInt32 := do
  match ← (IO.FS.readBinFile options.image).toBaseIO with
  | .error e =>
    printLines filter [unreadableLine options.image (reasonFor e)]
    return unreadableExitCode.toUInt32
  | .ok bytes =>
    let image := bytes.toList
    printLines filter (imageLines image)
    interact filter
      (.start options.settings (.ofImage image) ⟨.ofBytes [], .empty none⟩)

end CellMachine.Cli

open CellMachine.Cli in
/-- Runs the image that the command line names. -/
def main (args : List String) : IO UInt32 := do
  match Command.ofArguments args with
  | .error e =>
    (← IO.getStderr).putStr e.message
    return usageExitCode.toUInt32
  | .ok (.help form) =>
    (← IO.getStdout).putStr (helpText form)
    return 0
  | .ok (.run options) =>
    let filter := Logging.standard.filterFor options.settings.trace (← IO.getEnv "RUST_LOG")
    runFile filter options
