import CellMachine.Console.Basic
import CellMachine.Machine.Execute

/-!
# The instruction table

What one step does, told a second time and in natural numbers: memory, registers and stack are
lists of numbers, the table is a list of rows, and a row says which slots the operands fill and what
is done with them. Nothing here decodes into instructions or computes on words.

A step looks at the cell at the instruction pointer, at the row of that number, at the number of
cells left, and at the operand cells from left to right, and the first of these that is wrong
decides the error. Only then the pointer moves past the operands and the row's effect is applied,
to operands that have been resolved before.
-/

namespace CellMachine.Table

/-! ## States -/

/-- What a machine holds, in natural numbers. -/
structure Snapshot where
  memory : List Nat
  ip : Nat
  registers : List Nat
  /-- The stack, its top first. -/
  stack : List Nat
  deriving DecidableEq, Repr

/-- Puts a value into a register. -/
def Snapshot.put (s : Snapshot) (r value : Nat) : Snapshot :=
  { s with registers := s.registers.set r value }

/-- What an attempt at an instruction leaves behind. -/
structure Outcome (κ : Type) where
  flow : Flow
  snapshot : Snapshot
  console : κ

/-- What a step answers and leaves behind. -/
structure Answer (κ : Type) where
  result : Except Fault Status
  status : Status
  snapshot : Snapshot
  cycles : Nat
  console : κ

/-! ## Rows -/

/-- A row of the table. The effect is given the resolved operands: the number of the register for a
destination, the value for a source. -/
structure Row (κ : Type) where
  opcode : Opcode
  slots : List Slot
  effect : Snapshot → κ → (a b c : Nat) → Outcome κ

variable {κ : Type} [Console κ]

/-- The rows in the order of their numbers. -/
def rows (policy : EndOfInput) : List (Row κ) :=
  [ ⟨.halt, [], fun s k _ _ _ => ⟨.halt .instruction, s, k⟩⟩,
    ⟨.set, [.destination, .source], fun s k a b _ => ⟨.next, s.put a b, k⟩⟩,
    ⟨.push, [.source], fun s k a _ _ => ⟨.next, { s with stack := a :: s.stack }, k⟩⟩,
    ⟨.pop, [.destination], fun s k a _ _ =>
      match s.stack with
      | [] => ⟨.halt .emptyStack, s, k⟩
      | value :: rest => ⟨.next, { s with stack := rest }.put a value, k⟩⟩,
    ⟨.eq, [.destination, .source, .source], fun s k a b c =>
      ⟨.next, s.put a (if b = c then 1 else 0), k⟩⟩,
    ⟨.gt, [.destination, .source, .source], fun s k a b c =>
      ⟨.next, s.put a (if b > c then 1 else 0), k⟩⟩,
    ⟨.jump, [.source], fun s k a _ _ => ⟨.next, { s with ip := a }, k⟩⟩,
    ⟨.jumpIf, [.source, .source], fun s k a b _ =>
      if a ≠ 0 then ⟨.next, { s with ip := b }, k⟩ else ⟨.next, s, k⟩⟩,
    ⟨.jumpUnless, [.source, .source], fun s k a b _ =>
      if a = 0 then ⟨.next, { s with ip := b }, k⟩ else ⟨.next, s, k⟩⟩,
    ⟨.add, [.destination, .source, .source], fun s k a b c =>
      ⟨.next, s.put a ((b + c) % 32768), k⟩⟩,
    ⟨.mul, [.destination, .source, .source], fun s k a b c =>
      ⟨.next, s.put a (b * c % 32768), k⟩⟩,
    ⟨.mod, [.destination, .source, .source], fun s k a b c =>
      if c = 0 then ⟨.fail .divisionByZero, s, k⟩ else ⟨.next, s.put a (b % c), k⟩⟩,
    ⟨.and, [.destination, .source, .source], fun s k a b c => ⟨.next, s.put a (b &&& c), k⟩⟩,
    ⟨.or, [.destination, .source, .source], fun s k a b c => ⟨.next, s.put a (b ||| c), k⟩⟩,
    ⟨.not, [.destination, .source], fun s k a b _ => ⟨.next, s.put a (b ^^^ 32767), k⟩⟩,
    ⟨.load, [.destination, .source], fun s k a b _ =>
      match s.memory[b]? with
      | some value => ⟨.next, s.put a value, k⟩
      | none => ⟨.fail (.outOfBounds b s.memory.length), s, k⟩⟩,
    ⟨.store, [.source, .source], fun s k a b _ =>
      if a < s.memory.length then ⟨.next, { s with memory := s.memory.set a b }, k⟩
      else ⟨.fail (.outOfBounds a s.memory.length), s, k⟩⟩,
    ⟨.call, [.source], fun s k a _ _ =>
      if s.ip ≤ 65535 then ⟨.next, { s with stack := s.ip :: s.stack, ip := a }, k⟩
      else ⟨.fail (.outOfBounds s.ip s.memory.length), s, k⟩⟩,
    ⟨.ret, [], fun s k _ _ _ =>
      match s.stack with
      | [] => ⟨.halt .emptyStack, s, k⟩
      | address :: rest => ⟨.next, { s with stack := rest, ip := address }, k⟩⟩,
    ⟨.output, [.source], fun s k a _ _ =>
      if a < 0xD800 ∨ 0xDFFF < a then
        match Console.write (Char.ofNat a) k with
        | (.ok (), k) => ⟨.next, s, k⟩
        | (.error cause, k) => ⟨.fail (.console cause), s, k⟩
      else ⟨.fail (.invalidCharacter (.ofNat a)), s, k⟩⟩,
    ⟨.input, [.destination], fun s k a _ _ =>
      match Console.read k with
      | (.ok (some char), k) =>
        if char.toNat < 32768 then ⟨.next, s.put a char.toNat, k⟩
        else ⟨.fail (.unrepresentableInput char), s, k⟩
      | (.ok none, k) =>
        match policy with
        | .fail => ⟨.fail .inputExhausted, s, k⟩
        | .halt => ⟨.halt .endOfInput, s, k⟩
      | (.error cause, k) => ⟨.fail (.console cause), s, k⟩⟩,
    ⟨.noop, [], fun s k _ _ _ => ⟨.next, s, k⟩⟩ ]

/-! ## Operands -/

/-- The cells that are legal in a slot. -/
def legal : Slot → Nat → Bool
  | .destination, c => 32768 ≤ c && c ≤ 32775
  | .source, c => c ≤ 32775

/-- What the cell in a slot stands for. -/
def resolve (registers : List Nat) (slot : Slot) (c : Nat) : Nat :=
  if slot = .destination then c - 32768
  else if c < 32768 then c
  else registers.getD (c - 32768) 0

/-- The leftmost cell that is not legal in its slot, and the slot. -/
def illegal? (slots : List Slot) (cells : List Nat) : Option (Slot × Nat) :=
  (slots.zip cells).find? fun (slot, c) => !legal slot c

/-- Applies a row to operand cells. -/
def Row.apply (row : Row κ) (cells : List Nat) (s : Snapshot) (k : κ) : Outcome κ :=
  match illegal? row.slots cells with
  | some (slot, c) => ⟨.fail (.invalidOperand (.ofNat c) slot), s, k⟩
  | none =>
    let x := List.zipWith (resolve s.registers) row.slots cells
    row.effect s k (x.getD 0 0) (x.getD 1 0) (x.getD 2 0)

/-! ## Steps -/

/-- The instruction at the instruction pointer, as far as it gets. -/
def attempt (policy : EndOfInput) (s : Snapshot) (k : κ) : Outcome κ :=
  match s.memory[s.ip]? with
  | none => ⟨.fail (.outOfBounds s.ip s.memory.length), s, k⟩
  | some number =>
    match (rows policy)[number]? with
    | none => ⟨.fail (.unknownOpcode (.ofNat number)), s, k⟩
    | some row =>
      let arity := row.slots.length
      if s.memory.length - s.ip - 1 < arity then
        ⟨.fail (.truncated row.opcode (s.memory.length - s.ip - 1)), s, k⟩
      else
        row.apply ((s.memory.drop (s.ip + 1)).take arity) { s with ip := s.ip + 1 + arity } k

/-- One step of a running machine that has made so many cycles. -/
def step (policy : EndOfInput) (cycles : Nat) (s : Snapshot) (k : κ) : Answer κ :=
  let left := attempt policy s k
  match left.flow with
  | .next => ⟨.ok .running, .running, left.snapshot, cycles + 1, left.console⟩
  | .halt reason =>
    ⟨.ok (.halted reason), .halted reason, left.snapshot, cycles + 1, left.console⟩
  | .fail error => ⟨.error ⟨s.ip, error⟩, .faulted, left.snapshot, cycles + 1, left.console⟩

end CellMachine.Table
