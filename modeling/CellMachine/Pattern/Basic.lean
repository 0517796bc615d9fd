/-!
# Patterns

A pattern is a regular expression. What it matches is never asked; it only matters whether a text
is a pattern at all. So a pattern says no more of its parts than is needed to decide that.

`depth` counts how many parts lie within each other. A list of parts counts only if there are at
least two, since one part is not grouped.
-/

namespace CellMachine

namespace Pattern

/-- A character that stands for itself. -/
structure Literal where
  char : Char
  /-- The character is given by two hexadecimal digits, as a byte is. -/
  isByte : Bool
  deriving DecidableEq, Repr

/-- The smallest parts of a pattern. -/
inductive Atom
  | literal (l : Literal)
  /-- The digits, the white space or the characters of words, or all others. -/
  | category (negated : Bool)
  /-- A place at an end of the text or of a line. -/
  | textEdge
  /-- A place at an end of a word, or not at one. -/
  | wordEdge
  /-- Any character. -/
  | any
  deriving DecidableEq, Repr

/-- The letters of the flags that are switched on and of those that are switched off. -/
structure Flags where
  on : List Char
  off : List Char
  deriving DecidableEq, Repr

/-- The state of a flag after a change. -/
def Flags.apply (f : Flags) (letter : Char) (before : Bool) : Bool :=
  f.on.contains letter || before && !f.off.contains letter

/-- A set of characters. -/
inductive CharSet
  | atom (a : Atom)
  | range (first last : Literal)
  /-- A set of ASCII characters that has a name. -/
  | named (negated : Bool)
  /-- A set in brackets. -/
  | bracketed (negated : Bool) (s : CharSet)
  | union (ss : List CharSet)
  /-- An intersection or a difference. -/
  | operation (left right : CharSet)

end Pattern

/-- A regular expression. -/
inductive Pattern
  | atom (a : Pattern.Atom)
  | set (s : Pattern.CharSet)
  /-- A change of flags up to the end of the group. -/
  | flags (f : Pattern.Flags)
  | repetition (p : Pattern)
  | group (f : Pattern.Flags) (p : Pattern)
  | sequence (ps : List Pattern)
  | choice (ps : List Pattern)

namespace Pattern

/-! ## Depth -/

/-- A list of parts is a part of its own if it has several members. -/
def listDepth (length : Nat) : Nat := if length ≤ 1 then 0 else 1

mutual

/-- How many parts of a set lie within each other. -/
def CharSet.depth : CharSet → Nat
  | .atom _ | .range _ _ | .named _ => 0
  | .bracketed _ s => s.depth + 1
  | .union ss => CharSet.greatestDepth ss + listDepth ss.length
  | .operation left right => max left.depth right.depth + 1

/-- The greatest depth in a list of sets. -/
def CharSet.greatestDepth : List CharSet → Nat
  | [] => 0
  | s :: ss => max s.depth (CharSet.greatestDepth ss)

end

mutual

/-- How many parts of a pattern lie within each other. -/
def depth : Pattern → Nat
  | .atom _ | .flags _ => 0
  | .set s => s.depth
  | .repetition p | .group _ p => p.depth + 1
  | .sequence ps | .choice ps => greatestDepth ps + listDepth ps.length

/-- The greatest depth in a list of patterns. -/
def greatestDepth : List Pattern → Nat
  | [] => 0
  | p :: ps => max p.depth (greatestDepth ps)

end

end Pattern

end CellMachine
