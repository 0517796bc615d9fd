/-!
# Text styles

On a terminal, a text is set off from its surroundings by a control sequence that switches a style
on and another that ends it.
-/

namespace CellMachine.Ansi

/-- How a part of a message is set off. -/
inductive Style
  /-- The word that says that there is an error. -/
  | alarm
  /-- What is wrong in the input. -/
  | mistake
  /-- What could be typed as it stands. -/
  | literal
  deriving DecidableEq, Repr

/-- The control sequences that switch a style on. -/
def Style.codes : Style → String
  | .alarm => "\x1b[1m\x1b[31m"
  | .mistake => "\x1b[33m"
  | .literal => "\x1b[1m"

/-- The control sequence that ends every style. -/
def reset : String := "\x1b[0m"

/-- A text in a style. -/
def Style.apply (style : Style) (text : String) : String := style.codes ++ text ++ reset

end CellMachine.Ansi
