/-!
# Decimal numbers

A numeral is one or more of the digits 0 to 9, with as many leading zeros as one likes, and
perhaps a plus sign in front. Numbers with a fraction are only recognised. Lists of numbers are
written in square brackets.

`numeral?_eq_some_iff` says what counts as a numeral.
-/

namespace CellMachine.Text

/-- The value of a string of digits. -/
def value (digits : List Char) : Nat :=
  digits.foldl (fun n d => 10 * n + (d.toNat - '0'.toNat)) 0

/-- A numeral without its plus sign. -/
def unsigned : List Char → List Char
  | '+' :: digits => digits
  | digits => digits

/-- The number that a numeral stands for; nothing if the text is no numeral. -/
def numeral? (cs : List Char) : Option Nat :=
  let digits := unsigned cs
  if digits ≠ [] ∧ digits.all Char.isDigit then some (value digits) else none

/-- A text without the sign at its beginning. -/
def dropSign : List Char → List Char
  | '+' :: cs | '-' :: cs => cs
  | cs => cs

/-- Whether a text is a decimal number, perhaps with a sign, a fraction and an exponent, or else
names infinity or that there is no number. -/
def isNumber (cs : List Char) : Bool :=
  let size := dropSign cs
  let mantissa := size.takeWhile fun c => c.isDigit || c = '.'
  let isMantissa := mantissa.any Char.isDigit && mantissa.count '.' ≤ 1
  match size.dropWhile fun c => c.isDigit || c = '.' with
  | [] => isMantissa
  | 'e' :: exponent | 'E' :: exponent =>
    isMantissa && dropSign exponent ≠ [] && (dropSign exponent).all Char.isDigit
  | _ =>
    let name := String.ofList (size.map Char.toLower)
    name = "inf" || name = "infinity" || name = "nan"

/-- Texts in brackets, with a comma and a space between them. -/
def bracketed (texts : List String) : String := "[" ++ ", ".intercalate texts ++ "]"

/-- Numbers in brackets. -/
def numbers (values : List UInt16) : String :=
  bracketed (values.map fun v => toString v.toNat)

theorem numeral?_eq_some_iff {cs : List Char} {n : Nat} :
    numeral? cs = some n ↔
      unsigned cs ≠ [] ∧ (∀ d ∈ unsigned cs, d.isDigit) ∧ value (unsigned cs) = n := by
  simp [numeral?, and_assoc]

end CellMachine.Text
