import CellMachine.Pattern.Parse

/-!
# Usable patterns

Matching works on the bytes of a text, with no tables of Unicode properties at hand. So not every
pattern can be used. With the flag `u`, which is on at first,

* the classes of characters and the ends of words are not known, and
* no character can be compared without regard to case, as the flag `i` asks.

Without it bytes are matched. What could match a part of a character cannot be used then: the dot,
and what is negated. Nor can a set have members beyond ASCII.

Nothing may be nested too deeply.

`isPattern` says whether a text is a pattern that can be used.
-/

namespace CellMachine.Pattern

/-- How characters are compared. -/
structure Comparison where
  unicode : Bool
  caseless : Bool
  deriving DecidableEq, Repr

/-- The comparison after a change of flags. -/
def Comparison.change (m : Comparison) (f : Flags) : Comparison :=
  ⟨f.apply 'u' m.unicode, f.apply 'i' m.caseless⟩

/-- Whether a member of a set can be used. -/
def Literal.isUsableInSet (m : Comparison) (l : Literal) : Bool :=
  if m.unicode then !m.caseless else l.char.toNat < 0x80

/-- Whether a part of a pattern can be used. -/
def Atom.isUsable (m : Comparison) : Atom → Bool
  | .literal l => if m.unicode then !m.caseless else !l.isByte || l.char.toNat < 0x80
  | .category negated => !m.unicode && !negated
  | .textEdge => true
  | .wordEdge => !m.unicode
  | .any => m.unicode

/-- Whether a member of a set can be used. -/
def Atom.isUsableInSet (m : Comparison) : Atom → Bool
  | .literal l => l.isUsableInSet m
  | a => a.isUsable m

mutual

/-- Whether a set can be used. -/
def CharSet.isUsable (m : Comparison) : CharSet → Bool
  | .atom a => a.isUsableInSet m
  | .range first last => first.isUsableInSet m && last.isUsableInSet m
  | .named negated => if m.unicode then !m.caseless else !negated
  | .bracketed negated s => (m.unicode || !negated) && s.isUsable m
  | .union ss => CharSet.areUsable m ss
  | .operation left right => left.isUsable m && right.isUsable m

/-- Whether all sets of a list can be used. -/
def CharSet.areUsable (m : Comparison) : List CharSet → Bool
  | [] => true
  | s :: ss => s.isUsable m && CharSet.areUsable m ss

end

mutual

/-- The comparison after a pattern, if the pattern can be used. -/
def after? (m : Comparison) : Pattern → Option Comparison
  | .atom a => if a.isUsable m then some m else none
  | .set s => if s.isUsable m then some m else none
  | .flags f => some (m.change f)
  | .repetition p => p.after? m
  | .group f p => (p.after? (m.change f)).map fun _ => m
  | .sequence ps | .choice ps => afterAll? m ps

/-- The comparison after a list of patterns, if all of them can be used. -/
def afterAll? (m : Comparison) : List Pattern → Option Comparison
  | [] => some m
  | p :: ps => (p.after? m).bind fun m => afterAll? m ps

end

/-- How deeply a pattern may be nested. -/
def maxDepth : Nat := 250

/-- Whether a text is a pattern that can be used. -/
def isPattern (cs : List Char) : Bool :=
  (parse? cs).any fun p => p.depth ≤ maxDepth && (p.after? ⟨true, false⟩).isSome

end CellMachine.Pattern
