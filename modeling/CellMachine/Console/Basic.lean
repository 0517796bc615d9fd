/-!
# Consoles

A console is where a program reads and writes characters. Any state with the two operations of the
class `Console` is one; the machine uses nothing else of it. It may fail for any reason.
-/

namespace CellMachine

/-- What sort of failure an error is. -/
inductive ConsoleError.Kind
  | invalidData
  | unexpectedEof
  | writeZero
  /-- Any other sort, by its name. -/
  | other (name : String)
  deriving DecidableEq, Repr

/-- Why a console could not read or write a character. -/
inductive ConsoleError
  /-- The next byte of the input begins no character. -/
  | notUtf8
  /-- The input has a malformed character, the beginning of which is well-formed for `length`
  bytes. -/
  | malformed (length : Nat)
  /-- The input ends within a character. -/
  | cutOff
  /-- The output takes no more bytes. -/
  | full
  /-- Whatever else keeps a console from reading, writing or flushing, in its own words. -/
  | other (kind : ConsoleError.Kind) (message : String)
  deriving DecidableEq, Repr

/-- The sort of an error: bytes that are no character, too few of them, or too little room. -/
def ConsoleError.kind : ConsoleError → Kind
  | .notUtf8 | .malformed _ => .invalidData
  | .cutOff => .unexpectedEof
  | .full => .writeZero
  | .other kind _ => kind

/-- The error in words. -/
def ConsoleError.message : ConsoleError → String
  | .notUtf8 => "input is not utf-8"
  | .malformed length => s!"invalid utf-8 sequence of {length} bytes from index 0"
  | .cutOff => "failed to fill whole buffer"
  | .full => "failed to write whole buffer"
  | .other _ message => message

/-- A state that can give and take characters. -/
class Console (κ : Type) where
  /-- Reads the next character, or nothing at the end of the input. -/
  read : κ → Except ConsoleError (Option Char) × κ
  /-- Writes a character. -/
  write : Char → κ → Except ConsoleError Unit × κ

end CellMachine
