import CellMachine.Text.Split

/-!
# Lines

A line ends with a line feed, perhaps with a carriage return before it.
-/

namespace CellMachine.Text

/-- A line without the carriage return at its end. -/
def dropReturn (line : List Char) : List Char :=
  if line.getLast? = some '\r' then line.dropLast else line

/-- The lines of a text that a line feed is to follow. -/
def lines (cs : List Char) : List (List Char) := (split '\n' cs).map dropReturn

/-- The first line of a text. -/
def firstLine (cs : List Char) : List Char := (lines cs).headD []

theorem split_of_not_mem {separator : Char} {cs : List Char} (h : separator ∉ cs) :
    split separator cs = [cs] := by
  induction cs with
  | nil => rfl
  | cons c cs ih =>
    obtain ⟨hc, hcs⟩ := not_or.mp (mt List.mem_cons.mpr h)
    simp only [split, if_neg (Ne.symm hc), ih hcs]

/-- A text without control characters for line ends is one line. -/
theorem lines_of_not_mem {cs : List Char} (hfeed : '\n' ∉ cs) (hreturn : '\r' ∉ cs) :
    lines cs = [cs] := by
  have hlast : cs.getLast? ≠ some '\r' := fun h => hreturn (List.mem_of_getLast? h)
  simp [lines, split_of_not_mem hfeed, dropReturn, hlast]

end CellMachine.Text
