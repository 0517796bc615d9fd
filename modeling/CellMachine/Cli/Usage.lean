import CellMachine.Ansi.Plain
import CellMachine.Ansi.Style
import CellMachine.Opcode.Parse
import CellMachine.Text.Lines

/-!
# Parameters and usage errors

What can be given on the command line, and what can be wrong with it. A message is composed for a
terminal, with styles. Where it does not go to a terminal the control sequences are taken out, also
those that were in the arguments. Of a message only its beginning, which names the mistake, and the
hint at its end are made here.
-/

namespace CellMachine.Cli

/-! ## Parameters -/

/-- The options that have a value. -/
inductive ValueOption
  | traceOp
  | onEof
  deriving DecidableEq, Repr

/-- What can be given on the command line. -/
inductive Parameter
  | image
  | trace
  | help
  | option (o : ValueOption)
  deriving DecidableEq, Repr

/-- A parameter as messages show it. -/
def Parameter.usage : Parameter → String
  | .image => "<IMAGE>"
  | .trace => "--trace"
  | .help => "--help"
  | .option .traceOp => "--trace-op <OP>"
  | .option .onEof => "--on-eof <ON_EOF>"

/-- What is wrong with a command line. -/
inductive UsageError
  /-- There is no such option, or an image already. -/
  | unexpectedArgument (arg : String)
  /-- The option has no value. -/
  | unexpectedValue (value : String) (p : Parameter)
  | valueRequired (p : Parameter)
  /-- The value is not one of the option's, for a reason if there is more to tell. -/
  | invalidValue (value : String) (o : ValueOption) (reason : Option Error)
  /-- The option can be given only once. -/
  | repeated (p : Parameter)
  | missingImage
  deriving DecidableEq, Repr

namespace UsageError

/-- The mistake in words, with styles. -/
def headline : UsageError → String
  | .unexpectedArgument arg => s!"unexpected argument '{mistake arg}' found"
  | .unexpectedValue value p =>
    s!"unexpected value '{mistake value}' for '{literal p.usage}' found; no more were expected"
  | .valueRequired p => s!"a value is required for '{mistake p.usage}' but none was supplied"
  | .invalidValue value o reason =>
    let about := s!"invalid value '{mistake value}' for '{literal (Parameter.option o).usage}'"
    match reason with
    | some e => s!"{about}: {e.message}"
    | none => about
  | .repeated p => s!"the argument '{mistake p.usage}' cannot be used multiple times"
  | .missingImage => "the following required arguments were not provided:"
where
  mistake := Ansi.Style.mistake.apply
  literal := Ansi.Style.literal.apply

/-- The message, with styles. -/
def styled (e : UsageError) : String :=
  let label := Ansi.Style.alarm.apply "error:"
  let help := Ansi.Style.literal.apply "--help"
  s!"{label} {e.headline}\n\nFor more information, try '{help}'.\n"

/-- The message as it stands in a file. -/
def message (e : UsageError) : String := .ofList (Ansi.plain e.styled.toList)

/-- The first line of the message. -/
def firstLine (e : UsageError) : String := .ofList (Text.firstLine e.message.toList)

end UsageError

end CellMachine.Cli
