import CellMachine.Console.Basic
import CellMachine.Core
import CellMachine.Instruction.Basic
import CellMachine.Program
import CellMachine.Settings
import CellMachine.Status

/-!
# Executing an instruction

`execute` says what each instruction does. The instruction pointer already stands past the
instruction; an instruction that halts or fails leaves program, registers and stack alone.

Sums and products are taken modulo 32768. The other operations work on all sixteen bits, since a
register can hold more than a literal can: cells read from memory and return addresses.
-/

namespace CellMachine

/-! ## Values -/

/-- The result of a binary operation. -/
def BinaryOp.apply (a b : Cell) : BinaryOp → Except Error Cell
  | .eq => .ok (if a = b then 1 else 0)
  | .gt => .ok (if b < a then 1 else 0)
  | .add => .ok (.ofNat ((a.toNat + b.toNat) % modulus))
  | .mul => .ok (.ofNat (a.toNat * b.toNat % modulus))
  | .mod => if b = 0 then .error .divisionByZero else .ok (a % b)
  | .and => .ok (a &&& b)
  | .or => .ok (a ||| b)

/-- A value with its fifteen low bits inverted. -/
def invert (a : Cell) : Cell := a ^^^ 0x7FFF

/-- The character whose code point is the value; surrogates have none. -/
def charOfCell? (value : Cell) : Option Char :=
  if h : value.toNat.isValidChar then some (Char.ofNatAux value.toNat h) else none

/-- The value of a character that has been read: its code point, if a literal can be as large. -/
def cellOfChar? (c : Char) : Option Cell :=
  if c.toNat < modulus then some (.ofNat c.toNat) else none

/-! ## Instructions -/

/-- What comes after an instruction. -/
inductive Flow
  | next
  | halt (reason : Halt)
  | fail (error : Error)
  deriving DecidableEq, Repr

/-- What an instruction leaves behind. -/
structure Effect (κ : Type) where
  flow : Flow
  program : Program
  core : Core
  console : κ

variable {κ : Type} [Console κ]

/-- Carries out an instruction. -/
def execute (policy : EndOfInput) (program : Program) (core : Core) (console : κ) :
    Instruction → Effect κ
  | .halt => ⟨.halt .instruction, program, core, console⟩
  | .set dst value => ⟨.next, program, core.set dst (core.value value), console⟩
  | .push value => ⟨.next, program, core.push (core.value value), console⟩
  | .pop dst =>
    match core.pop? with
    | some (value, rest) => ⟨.next, program, rest.set dst value, console⟩
    | none => ⟨.halt .emptyStack, program, core, console⟩
  | .binary op dst a b =>
    match op.apply (core.value a) (core.value b) with
    | .ok value => ⟨.next, program, core.set dst value, console⟩
    | .error e => ⟨.fail e, program, core, console⟩
  | .not dst value => ⟨.next, program, core.set dst (invert (core.value value)), console⟩
  | .jump target => ⟨.next, program.jump (core.value target).toNat, core, console⟩
  | .jumpIf cond target =>
    if core.value cond = 0 then ⟨.next, program, core, console⟩
    else ⟨.next, program.jump (core.value target).toNat, core, console⟩
  | .jumpUnless cond target =>
    if core.value cond = 0 then ⟨.next, program.jump (core.value target).toNat, core, console⟩
    else ⟨.next, program, core, console⟩
  | .load dst address =>
    match program.read (core.value address).toNat with
    | .ok value => ⟨.next, program, core.set dst value, console⟩
    | .error e => ⟨.fail e, program, core, console⟩
  | .store address value =>
    let address := (core.value address).toNat
    if h : address < program.size then
      ⟨.next, program.set address (core.value value) h, core, console⟩
    else ⟨.fail (.outOfBounds address program.size), program, core, console⟩
  | .call target =>
    if program.ip < UInt16.size then
      ⟨.next, program.jump (core.value target).toNat, core.push (.ofNat program.ip), console⟩
    else ⟨.fail (.outOfBounds program.ip program.size), program, core, console⟩
  | .ret =>
    match core.pop? with
    | some (address, rest) => ⟨.next, program.jump address.toNat, rest, console⟩
    | none => ⟨.halt .emptyStack, program, core, console⟩
  | .output value =>
    match charOfCell? (core.value value) with
    | none => ⟨.fail (.invalidCharacter (core.value value)), program, core, console⟩
    | some c =>
      match Console.write c console with
      | (.ok (), console) => ⟨.next, program, core, console⟩
      | (.error e, console) => ⟨.fail (.console e), program, core, console⟩
  | .input dst =>
    match Console.read console with
    | (.error e, console) => ⟨.fail (.console e), program, core, console⟩
    | (.ok none, console) =>
      match policy with
      | .fail => ⟨.fail .inputExhausted, program, core, console⟩
      | .halt => ⟨.halt .endOfInput, program, core, console⟩
    | (.ok (some c), console) =>
      match cellOfChar? c with
      | some value => ⟨.next, program, core.set dst value, console⟩
      | none => ⟨.fail (.unrepresentableInput c), program, core, console⟩
  | .noop => ⟨.next, program, core, console⟩

/-- An instruction that stops the machine changes nothing but, perhaps, the console. -/
theorem execute_of_flow_ne_next {policy : EndOfInput} {program : Program} {core : Core}
    {console : κ} {i : Instruction} (h : (execute policy program core console i).flow ≠ .next) :
    (execute policy program core console i).program = program ∧
      (execute policy program core console i).core = core := by
  revert h
  cases i <;> dsimp only [execute] <;> (repeat' split) <;> simp

end CellMachine
