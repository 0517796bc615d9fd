import CellMachine.Log.Directive

/-!
# Log filters

A filter is a list of directives. Of those that are for a line one decides whether it is shown: the
one that says most of the target's name, then one that asks for a value. The later one decides of
two that ask for the same, and of two that ask for values the one whose name comes later in the
alphabet.

A filter is written as directives with commas between them, and shows nothing if there are none.
-/

namespace CellMachine.Log

namespace Directive

/-- How much a directive says of the target. -/
def precision (d : Directive) : Nat := (d.target.map (·.length + 1)).getD 0

/-- Whether a directive decides rather than another that comes after it. -/
def outranks (d later : Directive) : Bool :=
  later.precision < d.precision ||
    d.precision = later.precision &&
      match d.scope, later.scope with
      | .having name, .having name' => name' < name
      | .having _, _ => true
      | _, _ => false

end Directive

/-- Directives, one of which decides on each line. -/
abbrev Filter := List Directive

namespace Filter

/-- The directive that decides on a line. -/
def deciding? (filter : Filter) (line : Line) : Option Directive :=
  (filter.filter (·.concerns line)).foldl
    (fun best d => if best.any (·.outranks d) then best else some d)
    none

/-- Whether a line is shown. -/
def admits (filter : Filter) (line : Line) : Bool :=
  (filter.deciding? line).any (·.shows line.level)

/-- What stands between the commas of a text, if there is anything. -/
def pieces (text : String) : List (List Char) := (Text.split ',' text.toList).filter (· ≠ [])

/-- The filter that a text stands for. -/
def parse? (text : String) : Option Filter := (pieces text).mapM Directive.parse?

/-- The filter of those directives in a text that can be understood. -/
def ofText (text : String) : Filter := (pieces text).filterMap Directive.parse?

end Filter

end CellMachine.Log
