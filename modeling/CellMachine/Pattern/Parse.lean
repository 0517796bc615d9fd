import CellMachine.Pattern.CharSet
import CellMachine.Text.Alphanumeric
import CellMachine.Text.Split

/-!
# Reading patterns

A pattern is a choice of sequences with bars between them. The parts of a sequence are characters,
escapes, sets and groups, each perhaps with repetition marks after it. A group can have a name,
which no other group has, or it begins with flags. Flags alone in parentheses hold up to the end of
the group around them. The flag `x` says that the text is in verbose form.

Repetitions with a count are not known.
-/

namespace CellMachine.Pattern

/-! ## Beginnings of groups -/

/-- The letters of the flags. -/
def flagLetters : List Char := ['i', 'm', 's', 'U', 'u', 'R', 'x']

/-- The flags that a text stands for; those after a minus sign are switched off. -/
def flags? (cs : List Char) : Option Flags :=
  let valid (letters : List Char) : Bool := letters.all flagLetters.contains && letters.Nodup
  match Text.split '-' cs with
  | [on] => if valid on then some ⟨on, []⟩ else none
  | [on, off] => if valid (on ++ off) && !off.isEmpty then some ⟨on, off⟩ else none
  | _ => none

/-- Whether a text can be the name of a group. -/
def isGroupName : List Char → Bool
  | [] => false
  | c :: cs =>
    (c = '_' || Text.isAlphabetic c) &&
      cs.all fun c => c = '_' || c = '.' || c = '[' || c = ']' || Text.isAlphanumeric c

/-- What can stand after an opening parenthesis. -/
inductive Opening
  /-- A change of flags, which is no group. -/
  | flags (f : Flags)
  /-- A group for which flags are changed. -/
  | group (f : Flags)
  | named (name : List Char)
  deriving DecidableEq, Repr

/-- Reads what stands between an opening parenthesis and the parts of the group, or the whole
parentheses if there are flags only. -/
def opening? : List Char → Option (Opening × List Char)
  | '?' :: 'P' :: '<' :: cs | '?' :: '<' :: cs =>
    let name := cs.takeWhile (· ≠ '>')
    match cs.dropWhile (· ≠ '>') with
    | _ :: cs => if isGroupName name then some (.named name, cs) else none
    | [] => none
  | '?' :: cs =>
    let ends (c : Char) : Bool := c = ':' || c = ')'
    let letters := cs.takeWhile (!ends ·)
    match cs.dropWhile (!ends ·) with
    | ':' :: cs => (flags? letters).map fun f => (.group f, cs)
    | _ :: cs => if letters.isEmpty then none else (flags? letters).map fun f => (.flags f, cs)
    | [] => none
  | cs => some (.group ⟨[], []⟩, cs)

/-! ## Sequences and choices -/

/-- What has been read of a choice. -/
structure Branches where
  verbose : Bool
  /-- The names of the groups so far, also of groups around the choice. -/
  names : List (List Char)
  /-- The finished branches, the last one first. -/
  done : List Pattern := []
  /-- The parts of the last branch, the last one first. -/
  parts : List Pattern := []

namespace Branches

/-- Adds a part to the last branch. -/
def push (b : Branches) (p : Pattern) : Branches := { b with parts := p :: b.parts }

/-- Begins another branch. -/
def next (b : Branches) : Branches :=
  { b with done := .sequence b.parts.reverse :: b.done, parts := [] }

/-- The choice. -/
def close (b : Branches) : Pattern := .choice b.next.done.reverse

/-- Repeats the last part. Flags cannot be repeated. -/
def repeat? (b : Branches) : Option Branches :=
  match b.parts with
  | [] | .flags _ :: _ => none
  | p :: parts => some { b with parts := .repetition p :: parts }

end Branches

/-- A text without the question mark that makes a repetition lazy. -/
def dropLazy : List Char → List Char
  | '?' :: cs => cs
  | cs => cs

/-- Reads a choice up to the parenthesis that closes it or to the end of the text. Every round reads
a character at least, so `fuel` rounds are enough for a text of less than that length. -/
def readChoice (fuel : Nat) (b : Branches) (cs : List Char) : Option (Branches × List Char) :=
  match fuel with
  | 0 => none
  | fuel + 1 =>
    match skip b.verbose cs with
    | [] => some (b, [])
    | ')' :: cs => some (b, ')' :: cs)
    | '|' :: cs => readChoice fuel b.next cs
    | '*' :: cs | '+' :: cs | '?' :: cs => do readChoice fuel (← b.repeat?) (dropLazy cs)
    | '\x7b' :: _ => none
    | '.' :: cs => readChoice fuel (b.push (.atom .any)) cs
    | '^' :: cs | '$' :: cs => readChoice fuel (b.push (.atom .textEdge)) cs
    | '\\' :: cs => do
      let (a, cs) ← escape? b.verbose cs
      readChoice fuel (b.push (.atom a)) cs
    | '[' :: cs => do
      let (s, cs) ← set? b.verbose cs
      readChoice fuel (b.push (.set s)) cs
    | '(' :: cs => do
      let group (f : Flags) (names : List (List Char)) (cs : List Char) :
          Option (Branches × List Char) := do
        match ← readChoice fuel ⟨f.apply 'x' b.verbose, names, [], []⟩ cs with
        | (inner, ')' :: cs) =>
          readChoice fuel ({ b with names := inner.names }.push (.group f inner.close)) cs
        | _ => none
      match ← opening? (skip b.verbose cs) with
      | (.flags f, cs) =>
        readChoice fuel ({ b with verbose := f.apply 'x' b.verbose }.push (.flags f)) cs
      | (.group f, cs) => group f b.names cs
      | (.named name, cs) =>
        if b.names.contains name then none else group ⟨[], []⟩ (name :: b.names) cs
    | c :: cs => readChoice fuel (b.push (.atom (.literal ⟨c, false⟩))) cs

/-- The pattern that a text stands for. -/
def parse? (cs : List Char) : Option Pattern :=
  match readChoice (cs.length + 1) ⟨false, [], [], []⟩ cs with
  | some (b, []) => some b.close
  | _ => none

end CellMachine.Pattern
