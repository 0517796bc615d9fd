/-!
# Text without control sequences

When output does not go to a terminal, control characters and control sequences are taken out of
it. A sequence begins with the escape character and goes on as long as the characters fit its form:
a single character, a command with parameters, or a string up to a terminator.

White space stays, even within a command. It shows, and so does what follows it: the command is
taken up again at the next control character.
-/

namespace CellMachine.Ansi

/-- How far a control sequence has been read. -/
inductive State
  /-- There is none. -/
  | ground
  /-- Its escape character. -/
  | escape
  /-- An escape character and the beginning of a command of two or more characters. -/
  | intermediate
  /-- A command, up to its last character. -/
  | command
  /-- The beginning of a device control string. -/
  | deviceEntry
  /-- A device control string, up to the parameters. -/
  | deviceParameters
  /-- A device control string, up to the characters after the parameters. -/
  | deviceIntermediate
  /-- A string that is ended by the string terminator. -/
  | controlString
  /-- A string that is ended by the bell. -/
  | systemString
  deriving DecidableEq, Repr

/-- Whether a character is one of the ASCII control characters. -/
def isControl (c : Char) : Bool := c.toNat < 0x20 || c.toNat = 0x7F

/-- Whether a character is one of the control characters that make blank space. -/
def isSpacing (c : Char) : Bool := c = '\t' || c = '\n' || c = '\x0c' || c = '\r'

/-- The control characters do nothing inside of strings. -/
def State.isString : State → Bool
  | .ground | .escape | .intermediate | .command => false
  | .deviceEntry | .deviceParameters | .deviceIntermediate | .controlString | .systemString => true

/-- Whether a character shows. -/
def State.shows (s : State) (c : Char) : Bool :=
  if isControl c then isSpacing c && !s.isString else s = .ground

/-- Whether the bytes of a character beyond ASCII have the string terminator among them. -/
def holdsTerminator (c : Char) : Bool := (String.utf8EncodeChar c).contains 0x9C

/-- The state after a graphic ASCII character that belongs to a sequence. -/
def State.afterGraphic (s : State) (c : Char) : State :=
  let parameter := 0x30 ≤ c.toNat && c.toNat < 0x40
  let intermediate := c.toNat < 0x30
  match s with
  | .ground => .ground
  | .escape =>
    if intermediate then .intermediate
    else
      match c with
      | '[' => .command
      | ']' => .systemString
      | 'P' => .deviceEntry
      | 'X' | '^' | '_' => .controlString
      | _ => .ground
  | .intermediate => if intermediate then .intermediate else .ground
  | .command => if intermediate || parameter then .command else .ground
  | .deviceEntry =>
    if intermediate then .deviceIntermediate
    else if parameter then .deviceParameters else .controlString
  | .deviceParameters =>
    if intermediate then .deviceIntermediate
    else if c.toNat < 0x3C then .deviceParameters else .controlString
  | .deviceIntermediate => if intermediate then .deviceIntermediate else .controlString
  | .controlString => .controlString
  | .systemString => .systemString

/-- The state after a character that does not show. -/
def State.next (s : State) (c : Char) : State :=
  if c = '\x1b' then .escape
  else if c = '\x18' || c = '\x1a' then .ground
  else if c = '\x07' && s = .systemString then .ground
  else if isControl c then s
  else if c.toNat < 0x80 then s.afterGraphic c
  else if s = .controlString && holdsTerminator c then .ground
  else s

/-- What shows of a text, read from some state; `showing` says that the character before it
showed. -/
def plainFrom (s : State) (showing : Bool) : List Char → List Char
  | [] => []
  | c :: cs =>
    if (if showing then State.ground else s).shows c then
      c :: plainFrom (if c.toNat < 0x80 then s else .ground) true cs
    else plainFrom (s.next c) false cs

/-- What shows of a text. -/
def plain (cs : List Char) : List Char := plainFrom .ground false cs

end CellMachine.Ansi
