/-!
# Splitting text

A text is cut at every separator, so it has one piece more than it has separators.
-/

namespace CellMachine.Text

/-- The pieces between the separators, some perhaps empty. -/
def split (separator : Char) : List Char → List (List Char)
  | [] => [[]]
  | c :: cs =>
    if c = separator then [] :: split separator cs
    else
      match split separator cs with
      | [] => [[c]]
      | piece :: pieces => (c :: piece) :: pieces

end CellMachine.Text
