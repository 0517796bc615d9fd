import CellMachine.Console.Terminal
import CellMachine.Proofs.Step

/-!
# A machine of partial operations

The machine told again in operations that are not defined everywhere. A number has a largest value,
a difference is not negative, a slice lies within its list, what is copied into a slice is as long
as the slice, and registers are an array that a byte may point beyond. Where such an operation is
not defined it is `none`, and so is whatever needs its value.

The operations come in the order in which a step makes them, each with no more guards than have been
passed before it; a register, for one, is but a byte once it has been decoded. Where a `match` looks
at `none`, what is not defined has an answer of its own, such as an error; everywhere else it would
be the end of the machine. Only the count of cycles has no largest value.
-/

namespace CellMachine.Checked

/-! ## Partial operations -/

/-- A number that is not beyond the largest. -/
def within? (largest n : Nat) : Option Nat := if n ≤ largest then some n else none

/-- The difference of two numbers, unless it is negative. -/
def sub? (a b : Nat) : Option Nat := if b ≤ a then some (a - b) else none

/-- A number in sixteen bits, if it has no more. -/
def toCell? (n : Nat) : Option Cell := if n < UInt16.size then some (.ofNat n) else none

/-- A number in eight bits, if it has no more. -/
def toByte? (n : Nat) : Option UInt8 := if n < UInt8.size then some (.ofNat n) else none

/-- The remainder of a division, unless it is by zero. -/
def rem? (a b : Cell) : Option Cell := if b = 0 then none else some (a % b)

section Lists

variable {α : Type}

/-- The elements from one index up to another, which may be the end. -/
def slice? (xs : List α) (start stop : Nat) : Option (List α) :=
  if start ≤ stop ∧ stop ≤ xs.length then some ((xs.drop start).take (stop - start)) else none

/-- The list with the elements of a slice replaced by just as many others. -/
def overwrite? (xs : List α) (start stop : Nat) (ys : List α) : Option (List α) := do
  let slice ← slice? xs start stop
  if ys.length = slice.length then some (xs.take start ++ ys ++ xs.drop stop) else none

/-- A list in pieces of `n` elements; the last can be shorter. -/
def pieces (n : Nat) : List α → List (List α)
  | [] => []
  | x :: xs => (x :: xs.take (n - 1)) :: pieces n (xs.drop (n - 1))
termination_by xs => xs.length
decreasing_by
  simp only [List.length_drop, List.length_cons]
  omega

end Lists

/-! ## Images -/

/-- The cell of two bytes, or of a single last one. -/
def join? : List UInt8 → Option Cell
  | [low, high] => some (Image.joinBytes low high)
  | [low] => some low.toUInt16
  | _ => none

/-- The cells of an image. -/
def decodeImage? (bytes : List UInt8) : Option (List Cell) := (pieces 2 bytes).mapM join?

/-! ## Fetching -/

/-- An instruction as it has been fetched, its operand cells in a buffer for three of them. -/
structure Fetched where
  address : Nat
  opcode : Opcode
  buffer : List Cell

/-- The operand cells, as many as the opcode has. -/
def Fetched.operands? (f : Fetched) : Option (List Cell) := slice? f.buffer 0 f.opcode.arity

/-- The instruction at the instruction pointer, and the program with the pointer moved past it. -/
def fetch? (largest : Nat) (p : Program) : Option (Except Error (Fetched × Program)) :=
  match p.read p.ip with
  | .error e => some (.error e)
  | .ok c =>
    match Opcode.ofCell c with
    | .error e => some (.error e)
    | .ok op => do
      let start ← within? largest (p.ip + 1)
      let stop ← within? largest (start + op.arity)
      -- needed for the error only, but computed in any case
      let available ← sub? p.size start
      match slice? p.cells.toList start stop with
      | none => some (.error (.truncated op available))
      | some operands =>
        let buffer ← overwrite? (.replicate 3 0) 0 op.arity operands
        some (.ok (⟨p.ip, op, buffer⟩, p.jump stop))

/-- Fetches an instruction and takes its operand cells out of the buffer. -/
def fetchOperands? (largest : Nat) (p : Program) :
    Option (Except Error (CellMachine.Fetched × Program)) := do
  match ← fetch? largest p with
  | .error e => some (.error e)
  | .ok (f, q) => some (.ok (⟨f.address, f.opcode, ← f.operands?⟩, q))

/-! ## Decoding -/

/-- An operand as it is kept: a number, or the byte of a register. -/
inductive Stored
  | number (value : Cell)
  | register (byte : UInt8)
  deriving DecidableEq, Repr

/-- The byte of the register that a cell names; `some none` if it names none. -/
def registerByte? (c : Cell) : Option (Option UInt8) :=
  match sub? c.toNat modulus with
  | none => some none
  | some i => if i < 8 then (toByte? i).map some else some none

/-- Reads a cell into a slot. -/
def readSlot? (slot : Slot) (c : Cell) : Option (Except Error Stored) :=
  if slot = .source ∧ c.toNat < modulus then some (.ok (.number c))
  else do
    match ← registerByte? c with
    | none => some (.error (.invalidOperand c slot))
    | some byte => some (.ok (.register byte))

/-- Reads cells, from the one at an index on, into slots. -/
def readSlots? (largest : Nat) (op : Opcode) (cells : List Cell) :
    Nat → List Slot → Option (Except Error (List Stored))
  | _, [] => some (.ok [])
  | index, slot :: slots =>
    match cells[index]? with
    | none => some (.error (.truncated op cells.length))
    | some c => do
      let next ← within? largest (index + 1)
      match ← readSlot? slot c with
      | .error e => some (.error e)
      | .ok x =>
        match ← readSlots? largest op cells next slots with
        | .error e => some (.error e)
        | .ok xs => some (.ok (x :: xs))

/-- The operands of an opcode, as the cells after it have them. -/
def decode? (largest : Nat) (op : Opcode) (cells : List Cell) :
    Option (Except Error (List Stored)) :=
  readSlots? largest op cells 0 op.slots

/-! ## Executing -/

/-- The value of an operand. -/
def value? (core : Core) : Stored → Option Cell
  | .number value => some value
  | .register byte => (Register.ofIndex? byte.toNat).map core.registers.get

/-- Puts a value into a register. -/
def put? (core : Core) (dst : Stored) (value : Cell) : Option Core :=
  match dst with
  | .number _ => none
  | .register byte => (Register.ofIndex? byte.toNat).map (core.set · value)

/-- The result of a binary operation. Sums and products have 32 bits before they are reduced. -/
def compute? (a b : Cell) : BinaryOp → Option (Except Error Cell)
  | .add => do
    let sum ← within? (UInt32.size - 1) (a.toNat + b.toNat)
    some (.ok (← toCell? (sum % modulus)))
  | .mul => do
    let product ← within? (UInt32.size - 1) (a.toNat * b.toNat)
    some (.ok (← toCell? (product % modulus)))
  | .mod =>
    match rem? a b with
    | none => some (.error .divisionByZero)
    | some value => some (.ok value)
  | op => some (op.apply a b)

/-- The operations of a console, where they are defined. -/
structure Device (κ : Type) where
  read : κ → Option (Except ConsoleError (Option Char) × κ)
  write : Char → κ → Option (Except ConsoleError Unit × κ)

section Machine

variable {κ : Type}

/-- Puts the result of an operation on two values into a register. -/
def binary? (p : Program) (core : Core) (console : κ) (op : BinaryOp) (dst a b : Stored) :
    Option (Effect κ) := do
  let x ← value? core a
  let y ← value? core b
  match ← compute? x y op with
  | .error e => some ⟨.fail e, p, core, console⟩
  | .ok value => some ⟨.next, p, ← put? core dst value, console⟩

/-- Carries out the instruction of an opcode with operands; their number has to be right. -/
def execute? (device : Device κ) (policy : EndOfInput) (p : Program) (core : Core) (console : κ) :
    Opcode → List Stored → Option (Effect κ)
  | .halt, [] => some ⟨.halt .instruction, p, core, console⟩
  | .set, [dst, x] => do
    let value ← value? core x
    some ⟨.next, p, ← put? core dst value, console⟩
  | .push, [x] => do
    let value ← value? core x
    some ⟨.next, p, core.push value, console⟩
  | .pop, [dst] =>
    match core.pop? with
    | none => some ⟨.halt .emptyStack, p, core, console⟩
    | some (value, rest) => do some ⟨.next, p, ← put? rest dst value, console⟩
  | .eq, [dst, a, b] => binary? p core console .eq dst a b
  | .gt, [dst, a, b] => binary? p core console .gt dst a b
  | .jump, [target] => do
    let address ← value? core target
    some ⟨.next, p.jump address.toNat, core, console⟩
  | .jumpIf, [cond, target] => do
    if (← value? core cond) = 0 then some ⟨.next, p, core, console⟩
    else
      let address ← value? core target
      some ⟨.next, p.jump address.toNat, core, console⟩
  | .jumpUnless, [cond, target] => do
    if (← value? core cond) = 0 then
      let address ← value? core target
      some ⟨.next, p.jump address.toNat, core, console⟩
    else some ⟨.next, p, core, console⟩
  | .add, [dst, a, b] => binary? p core console .add dst a b
  | .mul, [dst, a, b] => binary? p core console .mul dst a b
  | .mod, [dst, a, b] => binary? p core console .mod dst a b
  | .and, [dst, a, b] => binary? p core console .and dst a b
  | .or, [dst, a, b] => binary? p core console .or dst a b
  | .not, [dst, x] => do
    let value ← value? core x
    some ⟨.next, p, ← put? core dst (invert value), console⟩
  | .load, [dst, x] => do
    let address ← value? core x
    match p.read address.toNat with
    | .error e => some ⟨.fail e, p, core, console⟩
    | .ok value => some ⟨.next, p, ← put? core dst value, console⟩
  | .store, [x, y] => do
    let address ← value? core x
    let value ← value? core y
    match p.write address.toNat value with
    | .error e => some ⟨.fail e, p, core, console⟩
    | .ok q => some ⟨.next, q, core, console⟩
  | .call, [target] =>
    match toCell? p.ip with
    | none => some ⟨.fail (.outOfBounds p.ip p.size), p, core, console⟩
    | some next => do
      let address ← value? (core.push next) target
      some ⟨.next, p.jump address.toNat, core.push next, console⟩
  | .ret, [] =>
    match core.pop? with
    | none => some ⟨.halt .emptyStack, p, core, console⟩
    | some (address, rest) => some ⟨.next, p.jump address.toNat, rest, console⟩
  | .output, [x] => do
    let value ← value? core x
    match charOfCell? value with
    | none => some ⟨.fail (.invalidCharacter value), p, core, console⟩
    | some c =>
      match ← device.write c console with
      | (.ok (), console) => some ⟨.next, p, core, console⟩
      | (.error e, console) => some ⟨.fail (.console e), p, core, console⟩
  | .input, [dst] => do
    match ← device.read console with
    | (.error e, console) => some ⟨.fail (.console e), p, core, console⟩
    | (.ok none, console) =>
      match policy with
      | .fail => some ⟨.fail .inputExhausted, p, core, console⟩
      | .halt => some ⟨.halt .endOfInput, p, core, console⟩
    | (.ok (some c), console) =>
      match (toCell? c.toNat).filter (·.toNat < modulus) with
      | none => some ⟨.fail (.unrepresentableInput c), p, core, console⟩
      | some value => some ⟨.next, p, ← put? core dst value, console⟩
  | .noop, [] => some ⟨.next, p, core, console⟩
  | _, _ => none

/-! ## Steps -/

/-- Fetches, decodes and carries out one instruction, and tells what was traced of it. -/
def cycle? (largest : Nat) (device : Device κ) (settings : Settings) (p : Program) (core : Core)
    (console : κ) : Option (Effect κ × List Event) := do
  match ← fetchOperands? largest p with
  | .error e => some (⟨.fail e, p, core, console⟩, [])
  | .ok (f, p) =>
    match ← decode? largest f.opcode f.operands with
    | .error e => some (⟨.fail e, p, core, console⟩, [])
    | .ok operands =>
      let traced := if settings.trace.covers f.opcode then [.exec f core] else []
      some (← execute? device settings.endOfInput p core console f.opcode operands, traced)

/-- One step. -/
def step? (largest : Nat) (device : Device κ) (m : Machine) (console : κ) :
    Option (Transition κ) :=
  if m.status = .running then do
    let (effect, traced) ← cycle? largest device m.settings m.program m.core console
    some (m.settle effect traced)
  else some ⟨.error ⟨m.program.ip, .machineHalted⟩, m, console, []⟩

end Machine

/-! ## Terminals -/

/-- The input with no empty buffer in front. -/
def filled (input : Input) : Input := ⟨input.buffers.dropWhile List.isEmpty⟩

/-- The bytes that are at hand: those of the first buffer. -/
def atHand (input : Input) : List UInt8 := input.buffers.headD []

/-- The input without so many of the bytes that are at hand. -/
def consume? (n : Nat) (input : Input) : Option Input := do
  let left ← slice? (atHand input) n (atHand input).length
  some ⟨left :: input.buffers.tail⟩

/-- Reads a character, in a buffer of four bytes. -/
def readChar? (t : Terminal) : Option (Except ConsoleError (Option Char) × Terminal) :=
  let input := filled t.input
  match (atHand input).head? with
  | none => some (.ok none, { t with input })
  | some lead => do
    let input ← consume? 1 input
    match Utf8.width? lead with
    | none => some (.error .notUtf8, { t with input })
    | some width =>
      let room ← slice? [lead, 0, 0, 0] 1 width
      let (bytes, input) := input.take room.length
      if bytes.length < room.length then some (.error .cutOff, { t with input })
      else
        let buffer ← overwrite? [lead, 0, 0, 0] 1 width bytes
        match ← slice? buffer 0 width with
        | [] => some (.ok none, { t with input })
        | first :: rest =>
          match Utf8.decode first rest with
          | .ok c => some (.ok (some c), { t with input })
          | .error length => some (.error (.malformed length), { t with input })

/-- Writes a character, by way of a buffer of four bytes. -/
def writeChar? (c : Char) (t : Terminal) : Option (Except ConsoleError Unit × Terminal) := do
  let width := (Utf8.encode c).length
  let buffer ← overwrite? [0, 0, 0, 0] 0 width (Utf8.encode c)
  let (complete, output) := t.output.write (← slice? buffer 0 width)
  if complete then some (.ok (), ⟨t.input, output.flush⟩)
  else some (.error .full, ⟨t.input, output⟩)

/-- A terminal as far as it is defined. -/
def terminal : Device Terminal := ⟨readChar?, writeChar?⟩

end CellMachine.Checked
