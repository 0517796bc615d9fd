import CellMachine.Pattern.Escape

/-!
# Reading sets of characters

A set stands in brackets. Its members are characters, ranges of characters, other sets and named
sets of ASCII characters such as `[:alpha:]`. A caret after the opening bracket negates it. The
operators `&&`, `--` and `~~` combine what is before them with what is after them.

A dash makes a range unless it is at the beginning or at the end of a set. A closing bracket at the
beginning is a member.
-/

namespace CellMachine.Pattern

/-! ## Members -/

/-- The names of sets of ASCII characters. -/
def setNames : List String :=
  ["alnum", "alpha", "ascii", "blank", "cntrl", "digit", "graph", "lower", "print", "punct",
   "space", "upper", "word", "xdigit"]

/-- Reads the name of a set after its opening bracket. -/
def namedSet? (cs : List Char) : Option (CharSet × List Char) :=
  let named (negated : Bool) (cs : List Char) : Option (CharSet × List Char) :=
    match cs.dropWhile (· ≠ ':') with
    | ':' :: ']' :: rest =>
      if setNames.contains (.ofList (cs.takeWhile (· ≠ ':'))) then some (.named negated, rest)
      else none
    | _ => none
  match cs with
  | ':' :: '^' :: cs => named true cs
  | ':' :: cs => named false cs
  | _ => none

/-- Reads a character in a set, or a class of characters. -/
def setAtom? (verbose : Bool) : List Char → Option (Atom × List Char)
  | [] => none
  | '\\' :: cs => escape? verbose cs
  | c :: cs => some (.literal ⟨c, false⟩, cs)

/-- A look at the character after a dash. Of a comment only the number sign is passed over. -/
def afterDash (verbose : Bool) (cs : List Char) : Option Char :=
  if verbose then
    match cs.dropWhile Text.isBlank with
    | '#' :: cs => (cs.dropWhile Text.isBlank).head?
    | cs => cs.head?
  else cs.head?

/-- Reads a member that is no set: a character, a class of characters or a range. -/
def member? (verbose : Bool) (cs : List Char) : Option (CharSet × List Char) := do
  let (first, cs) ← setAtom? verbose cs
  let alone : Option (CharSet × List Char) :=
    match first with
    | .literal _ | .category _ => some (.atom first, cs)
    | .textEdge | .wordEdge | .any => none
  match skip verbose cs with
  | '-' :: cs =>
    if afterDash verbose cs = some ']' || afterDash verbose cs = some '-' then alone
    else
      match first, ← setAtom? verbose (skip verbose cs) with
      | .literal first, (.literal last, cs) =>
        if first.char ≤ last.char then return (.range first last, cs) else none
      | _, _ => none
  | _ => alone

/-! ## Sets -/

/-- What has been read of a set. -/
structure OpenSet where
  /-- What is before the last operator. -/
  left : Option CharSet := none
  /-- The members after the last operator, the last one first. -/
  members : List CharSet := []
  /-- Whether all members are dashes at the beginning of the set. -/
  atStart : Bool := true

namespace OpenSet

/-- Adds a member. -/
def push (s : OpenSet) (m : CharSet) : OpenSet :=
  { s with members := m :: s.members, atStart := false }

/-- The set, if it is complete. -/
def close (s : OpenSet) : CharSet :=
  match s.left with
  | none => .union s.members.reverse
  | some left => .operation left (.union s.members.reverse)

/-- Goes on after an operator. -/
def operate (s : OpenSet) : OpenSet := ⟨some s.close, [], false⟩

end OpenSet

/-- Whether a caret negates the set, and the text after it. -/
def afterCaret (verbose : Bool) (cs : List Char) : Bool × List Char :=
  match skip verbose cs with
  | '^' :: cs => (true, cs)
  | cs => (false, cs)

/-- Reads a set to its closing bracket. Every round reads a character at least, so `fuel` rounds
are enough for a text of that length. -/
def readSet (verbose : Bool) (fuel : Nat) (s : OpenSet) (cs : List Char) :
    Option (CharSet × List Char) :=
  match fuel with
  | 0 => none
  | fuel + 1 =>
    match s.atStart, skip verbose cs with
    | true, '-' :: cs =>
      let dash : CharSet := .atom (.literal ⟨'-', false⟩)
      readSet verbose fuel { s with members := dash :: s.members } cs
    | atStart, ']' :: cs =>
      if atStart && s.members.isEmpty then
        readSet verbose fuel (s.push (.atom (.literal ⟨']', false⟩))) cs
      else some (s.close, cs)
    | _, '[' :: cs =>
      match namedSet? cs with
      | some (m, cs) => readSet verbose fuel (s.push m) cs
      | none => do
        let (negated, cs) := afterCaret verbose cs
        let (inner, cs) ← readSet verbose fuel {} cs
        readSet verbose fuel (s.push (.bracketed negated inner)) cs
    | _, '&' :: '&' :: cs | _, '-' :: '-' :: cs | _, '~' :: '~' :: cs =>
      readSet verbose fuel s.operate cs
    | _, cs => do
      let (m, cs) ← member? verbose cs
      readSet verbose fuel (s.push m) cs

/-- Reads a set after its opening bracket. -/
def set? (verbose : Bool) (cs : List Char) : Option (CharSet × List Char) := do
  let (negated, rest) := afterCaret verbose cs
  let (s, rest) ← readSet verbose (cs.length + 1) {} rest
  return (.bracketed negated s, rest)

end CellMachine.Pattern
