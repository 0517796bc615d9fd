import CellMachine.Text.Printable
import CellMachine.Text.Combining
import CellMachine.Text.Ignorable

/-!
# Quoted characters

A message shows a character between single quotes. What would not show by itself is escaped: a few
characters by a letter after a backslash, all others by their code point in braces: those that are
unprintable, those that are not drawn, and those that would be drawn upon the quote.
-/

namespace CellMachine.Text

/-- The escape that is written after a backslash instead of a character, if there is a short
one. -/
def shortEscape? : Char → Option Char
  | '\x00' => some '0'
  | '\t' => some 't'
  | '\n' => some 'n'
  | '\r' => some 'r'
  | '\x27' => some '\x27'
  | '\\' => some '\\'
  | _ => none

/-- The code point in hexadecimal, in lower case and without leading zeros. -/
def hexadecimal (c : Char) : List Char := Nat.toDigits 16 c.toNat

/-- Whether a character shows by itself. -/
def showsItself (c : Char) : Bool := isPrintable c && !isIgnorable c && !isCombining c

/-- A character as it stands between the quotes. -/
def escape (c : Char) : List Char :=
  match shortEscape? c with
  | some e => ['\\', e]
  | none =>
    if showsItself c then [c]
    else ['\\', 'u', '\x7b'] ++ hexadecimal c ++ ['\x7d']

/-- A character in single quotes. -/
def quote (c : Char) : String := .ofList ('\x27' :: escape c ++ ['\x27'])

end CellMachine.Text
