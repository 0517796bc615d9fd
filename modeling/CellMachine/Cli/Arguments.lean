import CellMachine.Cli.Options
import CellMachine.Cli.Usage

/-!
# The command line

The arguments are one image and any of the options `--trace`, `--trace-op OP`, `--on-eof WHAT` and
`--help` (`-h`), in any order. A value follows its option as the next argument or, after an equals
sign, in the same one. After `--` there are no more options.

Arguments are read from left to right. A value in the same argument as its option is checked at
once. Any other value, and the image, is checked when the next argument has been recognised: of two
mistakes, an argument that cannot be recognised hides a bad value just before it.
-/

namespace CellMachine.Cli

/-! ## Tokens -/

/-- What an argument looks like. -/
inductive Token
  /-- The argument `--`. -/
  | separator
  /-- An argument `--name` or `--name=value`. -/
  | long (name : String) (value : Option String)
  /-- An argument that begins with one dash and a letter. -/
  | short (letter : Char)
  | plain
  deriving DecidableEq, Repr

/-- The form of an argument before the separator. -/
def Token.ofArgument (arg : String) : Token :=
  match arg.toList with
  | ['-', '-'] => .separator
  | '-' :: '-' :: cs =>
    let name := String.ofList (cs.takeWhile (· ≠ '='))
    match cs.dropWhile (· ≠ '=') with
    | [] => .long name none
    | _ :: value => .long name (some (.ofList value))
  | '-' :: c :: _ => .short c
  | _ => .plain

/-! ## Reading arguments -/

/-- The two forms of the help text. -/
inductive HelpForm
  | brief
  | full
  deriving DecidableEq, Repr

/-- What to do. -/
inductive Command
  | help (form : HelpForm)
  | run (options : Options)
  deriving DecidableEq, Repr

/-- Something given that has not been checked. -/
inductive Pending
  | option (o : ValueOption) (value : Option String)
  | image (path : String)
  deriving DecidableEq, Repr

/-- What has been read of a command line. -/
structure Scan where
  image : Option String := none
  trace : Bool := false
  opcodes : List Opcode := []
  endOfInput : Option EndOfInput := none
  pending : Option Pending := none
  deriving DecidableEq, Repr

namespace Scan

/-- Takes the value of an option. -/
def accept (s : Scan) (value : String) : ValueOption → Except UsageError Scan
  | .traceOp =>
    match Opcode.parse value with
    | .ok op => .ok { s with opcodes := s.opcodes ++ [op] }
    | .error e => .error (.invalidValue value .traceOp (some e))
  | .onEof =>
    if s.endOfInput.isSome then .error (.repeated (.option .onEof))
    else
      match value with
      | "fail" => .ok { s with endOfInput := some .fail }
      | "halt" => .ok { s with endOfInput := some .halt }
      | "" => .error (.valueRequired (.option .onEof))
      | _ => .error (.invalidValue value .onEof none)

/-- Checks what is pending. -/
def settle (s : Scan) : Except UsageError Scan :=
  let settled := { s with pending := none }
  match s.pending with
  | none => .ok s
  | some (.option o none) => .error (.valueRequired (.option o))
  | some (.option o (some value)) => settled.accept value o
  | some (.image "") => .error (.valueRequired .image)
  | some (.image path) => .ok { settled with image := some path }

/-- Whether an image has been given. -/
def hasImage (s : Scan) : Bool :=
  s.image.isSome || s.pending matches some (.image _)

/-- Reads an argument that is no option and no option's value. -/
def positional (s : Scan) (arg : String) : Except UsageError Scan :=
  if s.hasImage then .error (.unexpectedArgument arg)
  else s.settle.map fun s => { s with pending := some (.image arg) }

/-- Reads an argument that does not look like an option. -/
def plain (s : Scan) (arg : String) : Except UsageError Scan :=
  match s.pending with
  | some (.option o none) => .ok { s with pending := some (.option o (some arg)) }
  | _ => s.positional arg

/-- Reads an option with a value, perhaps in the same argument. -/
def valueOption (s : Scan) (o : ValueOption) (value : Option String) : Except UsageError Scan := do
  let s ← s.settle
  match value with
  | some value => s.accept value o
  | none => return { s with pending := some (.option o none) }

/-- Reads the option `--trace`. -/
def traceOption (s : Scan) (value : Option String) : Except UsageError Scan := do
  if let some value := value then throw (.unexpectedValue value .trace)
  let s ← s.settle
  if s.trace then throw (.repeated .trace)
  return { s with trace := true }

/-- Reads the option `--help` or `-h`. -/
def helpOption (s : Scan) (form : HelpForm) (value : Option String) :
    Except UsageError Command := do
  if let some value := value then throw (.unexpectedValue value .help)
  let _ ← s.settle
  return .help form

/-- Ends the command line. -/
def finish (s : Scan) : Except UsageError Command := do
  let s ← s.settle
  match s.image with
  | none => throw .missingImage
  | some image => return .run ⟨image, s.trace, s.opcodes, s.endOfInput.getD .fail⟩

/-- Reads the arguments after the separator. -/
def restPositional (s : Scan) (args : List String) : Except UsageError Command := do
  (← args.foldlM positional s).finish

/-- Reads arguments. -/
def arguments (s : Scan) : List String → Except UsageError Command
  | [] => s.finish
  | arg :: args =>
    match Token.ofArgument arg with
    | .separator => s.restPositional args
    | .plain => do (← s.plain arg).arguments args
    | .short 'h' => s.helpOption .brief none
    | .short c => .error (.unexpectedArgument (.ofList ['-', c]))
    | .long "trace" value => do (← s.traceOption value).arguments args
    | .long "help" value => s.helpOption .full value
    | .long "trace-op" value => do (← s.valueOption .traceOp value).arguments args
    | .long "on-eof" value => do (← s.valueOption .onEof value).arguments args
    | .long name _ => .error (.unexpectedArgument ("--" ++ name))

end Scan

/-- The command that a list of arguments gives. -/
def Command.ofArguments (args : List String) : Except UsageError Command :=
  Scan.arguments {} args

end CellMachine.Cli
