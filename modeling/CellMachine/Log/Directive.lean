import CellMachine.Log.Line
import CellMachine.Pattern.Usable
import CellMachine.Text.Alphanumeric
import CellMachine.Text.Blank
import CellMachine.Text.Decimal
import CellMachine.Text.Split

/-!
# Directives of a log filter

A directive shows the lines of some targets up to a level. It is written

* `level` — for every target;
* `target=level` — for the targets whose names begin like this; without a level, and even without
  the equals sign, all that they log;
* `target[{name}]=level` — for those lines only that have a value of that name, with or without a
  target in front;
* `target[span]=level`, `target[span{name}]=level`, `target[{name=pattern}]=level` — for what is
  logged within stretches of a program that are set off for that. There are none here, so these
  show no line.

White space round a directive is passed over to find out where its parts begin and end, but the
parts are then cut out of the text as it was given. So a directive with a blank before it means
something else, if anything.

## Main statements

* `concerns_general` — a directive for every target is for every line
* `cutFrom?_size_append`, `cutTo?_size_append` — where a text has no blank before it, its parts are
  cut where they have been found
-/

namespace CellMachine.Log

/-- The lines that a directive is for, of those that the targets log. -/
inductive Scope
  | every
  /-- The lines that have a value of a name. -/
  | having (name : String)
  /-- The lines that are logged within a stretch of the program. There are no such lines. -/
  | within
  deriving DecidableEq, Repr

/-- Whether a line is in a scope. -/
def Scope.covers : Scope → Line → Bool
  | .every, _ => true
  | .having name, line => line.has name
  | .within, _ => false

/-- Which lines to show. -/
structure Directive where
  /-- How the names of the targets begin; without it, the directive is for every target. -/
  target : Option String
  scope : Scope
  /-- The least important level that is shown, if any is. -/
  level : Option Level
  deriving DecidableEq, Repr

namespace Directive

/-- A directive for every target. -/
def general (level : Option Level) : Directive := ⟨none, .every, level⟩

/-- Whether a directive is for a line. -/
def concerns (d : Directive) (line : Line) : Bool :=
  d.target.all (·.toList.isPrefixOf line.target.toList) && d.scope.covers line

/-- Whether a directive shows lines of a level. -/
def shows (d : Directive) (level : Level) : Bool := d.level.any (level.rank ≤ ·.rank)

theorem concerns_general (level : Option Level) (line : Line) :
    (general level).concerns line = true := rfl

/-! ## Parts of the text -/

/-- The number of bytes of a text. -/
def size : List Char → Nat
  | [] => 0
  | c :: cs => c.utf8Size + size cs

/-- The text after its first `n` bytes, unless they end within a character. -/
def cutFrom? : Nat → List Char → Option (List Char)
  | 0, cs => some cs
  | _ + 1, [] => none
  | n + 1, c :: cs => if c.utf8Size ≤ n + 1 then cutFrom? (n + 1 - c.utf8Size) cs else none

/-- The first `n` bytes of a text, unless they end within a character. -/
def cutTo? : Nat → List Char → Option (List Char)
  | 0, _ => some []
  | _ + 1, [] => none
  | n + 1, c :: cs =>
    if c.utf8Size ≤ n + 1 then (cutTo? (n + 1 - c.utf8Size) cs).map (c :: ·) else none

/-- The `length` bytes of a text after its first `start` bytes. -/
def cut? (start length : Nat) (text : List Char) : Option (List Char) :=
  (cutFrom? start text).bind (cutTo? length)

theorem size_cons_eq (c : Char) (cs : List Char) :
    ∃ n, size (c :: cs) = n + 1 ∧ c.utf8Size ≤ n + 1 ∧ n + 1 - c.utf8Size = size cs := by
  have := c.utf8Size_pos
  exact ⟨size (c :: cs) - 1, by simp only [size]; omega⟩

theorem cutFrom?_size_append (cs rest : List Char) :
    cutFrom? (size cs) (cs ++ rest) = some rest := by
  induction cs with
  | nil => simp [size, cutFrom?]
  | cons c cs ih =>
    obtain ⟨n, hsize, hle, hrest⟩ := size_cons_eq c cs
    rw [hsize, List.cons_append, cutFrom?, if_pos hle, hrest, ih]

theorem cutTo?_size_append (cs rest : List Char) : cutTo? (size cs) (cs ++ rest) = some cs := by
  induction cs with
  | nil => simp [size, cutTo?]
  | cons c cs ih =>
    obtain ⟨n, hsize, hle, hrest⟩ := size_cons_eq c cs
    rw [hsize, List.cons_append, cutTo?, if_pos hle, hrest, ih, Option.map_some]

/-! ## Reading directives

The directive is the whole text; `rest` is what has not been read of it without the white space
round it, and `start` is the number of bytes that have been read of that. -/

/-- The least important level shown under a name, or under a number from 0 to 5. -/
def level? (name : List Char) : Option (Option Level) :=
  match Text.numeral? name with
  | some 0 => some none
  | some 1 => some (some .error)
  | some 2 => some (some .warn)
  | some 3 => some (some .info)
  | some 4 => some (some .debug)
  | some 5 => some (some .trace)
  | _ =>
    match String.ofList (name.map Char.toLower) with
    | "off" => some none
    | "error" => some (some .error)
    | "warn" => some (some .warn)
    | "info" => some (some .info)
    | "debug" => some (some .debug)
    | "trace" => some (some .trace)
    | _ => none

/-- Reads a level that goes to the end of the text. -/
def levelFrom? (text : List Char) (start : Nat) : Option (Option Level) := do
  match ← cutFrom? start text with
  | [] => some (some .trace)
  | name => level? name

/-- Reads what comes after the brackets. -/
def ending? (text : List Char) (start : Nat) (rest : List Char) : Option (Option Level) :=
  match rest with
  | [] => some (some .trace)
  | '=' :: _ => levelFrom? text (start + 1)
  | _ => none

/-- The scope that is written as a stretch of the program and, in braces, a value of a line. -/
def scope? (span value : List Char) : Option Scope :=
  if value = [] then none
  else
    match Text.split '=' value with
    | _ :: pattern :: _ =>
      if Text.isNumber pattern || Pattern.isPattern pattern then some .within else none
    | _ => some (if span = [] then .having (.ofList value) else .within)

/-- Reads what comes after an opening bracket. -/
def bracketed? (target : Option String) (text : List Char) (start : Nat) (rest : List Char) :
    Option Directive := do
  let ends (c : Char) : Bool := c = ']' || c = '\x7b'
  let spanSize := size (rest.takeWhile (!ends ·))
  let start' := start + spanSize + 1
  match rest.dropWhile (!ends ·) with
  | ']' :: rest => return ⟨target, .within, ← ending? text start' rest⟩
  | '\x7b' :: rest =>
    let valueSize := size (rest.takeWhile (· ≠ '\x7d'))
    match rest.dropWhile (· ≠ '\x7d') with
    | '\x7d' :: ']' :: rest =>
      let scope ← scope? (← cut? start spanSize text) (← cut? start' valueSize text)
      return ⟨target, scope, ← ending? text (start' + valueSize + 2) rest⟩
    | _ => none
  | _ => none

/-- Whether a directive may begin with a character, apart from brackets. -/
def isFirst (c : Char) : Bool := c = '-' || c = ':' || c = '_' || Text.isAlphanumeric c

/-- The directive that a text stands for. -/
def parse? (text : List Char) : Option Directive := do
  let body := Text.trim text
  let ends (c : Char) : Bool := c = '=' || c = '['
  let targetSize := size (body.takeWhile (!ends ·))
  match body, body.dropWhile (!ends ·) with
  | [], _ | '=' :: _, _ => none
  | '[' :: rest, _ => bracketed? none text 1 rest
  | first :: _, rest =>
    if !isFirst first then none
    else
      match rest with
      | [] =>
        match level? text with
        | some level => return general level
        | none => return ⟨some (.ofList text), .every, some .trace⟩
      | '=' :: _ =>
        let target := String.ofList (← cutTo? targetSize text)
        return ⟨some target, .every, ← levelFrom? text (targetSize + 1)⟩
      | _ :: rest =>
        let target := String.ofList (← cutTo? targetSize text)
        bracketed? (some target) text (targetSize + 1) rest

end Directive

end CellMachine.Log
