import CellMachine.Pattern.Basic
import CellMachine.Text.Blank

/-!
# Blanks and escapes in patterns

A pattern can be written in verbose form. Then white space in it means nothing, and neither does
what follows a number sign in the same line. A character after a backslash either stands for itself
or has a meaning that it has not without the backslash.

* `skip` passes over what means nothing.
* `escape?` reads what follows a backslash.
-/

namespace CellMachine.Pattern

/-- The text without the white space and the comments at its beginning; `inComment` says that it
begins within a comment. -/
def skipBlanks (inComment : Bool) : List Char → List Char
  | [] => []
  | c :: cs =>
    if inComment then skipBlanks (c ≠ '\n') cs
    else if c = '#' then skipBlanks true cs
    else if Text.isBlank c then skipBlanks false cs
    else c :: cs

/-- The text without what means nothing at its beginning. -/
def skip (verbose : Bool) (cs : List Char) : List Char :=
  if verbose then skipBlanks false cs else cs

/-- The value of a hexadecimal digit. -/
def hexValue? (c : Char) : Option Nat :=
  if c.isDigit then some (c.toNat - '0'.toNat)
  else if 'a' ≤ c ∧ c ≤ 'f' then some (c.toNat - 'a'.toNat + 10)
  else if 'A' ≤ c ∧ c ≤ 'F' then some (c.toNat - 'A'.toNat + 10)
  else none

/-- Reads so many hexadecimal digits after some that had the value `value`. -/
def hexNumber? (verbose : Bool) : Nat → Nat → List Char → Option (Nat × List Char)
  | 0, value, cs => some (value, cs)
  | digits + 1, value, cs =>
    match skip verbose cs with
    | [] => none
    | c :: cs => do hexNumber? verbose digits (16 * value + (← hexValue? c)) cs

/-- Reads a character that is given by its code point, in so many hexadecimal digits. -/
def codePoint? (verbose : Bool) (digits : Nat) (cs : List Char) : Option (Atom × List Char) := do
  let (value, cs) ← hexNumber? verbose digits 0 cs
  if value.isValidChar then return (.literal ⟨.ofNat value, digits = 2⟩, cs) else none

/-- What a character means after a backslash, if it does not begin a code point. -/
def escaped? : Char → Option Atom
  | 'a' => some (.literal ⟨'\x07', false⟩)
  | 'f' => some (.literal ⟨'\x0c', false⟩)
  | 'n' => some (.literal ⟨'\n', false⟩)
  | 'r' => some (.literal ⟨'\r', false⟩)
  | 't' => some (.literal ⟨'\t', false⟩)
  | 'v' => some (.literal ⟨'\x0b', false⟩)
  | 'd' | 's' | 'w' => some (.category false)
  | 'D' | 'S' | 'W' => some (.category true)
  | 'A' | 'z' => some .textEdge
  | 'b' | 'B' | '<' | '>' => some .wordEdge
  | c => if c.toNat < 0x80 && !c.isAlphanum then some (.literal ⟨c, false⟩) else none

/-- Reads what follows a backslash. -/
def escape? (verbose : Bool) : List Char → Option (Atom × List Char)
  | [] => none
  | 'x' :: cs => codePoint? verbose 2 cs
  | 'u' :: cs => codePoint? verbose 4 cs
  | 'U' :: cs => codePoint? verbose 8 cs
  | c :: cs => (escaped? c).map fun a => (a, cs)

end CellMachine.Pattern
