import CellMachine.Error
import CellMachine.Image
import CellMachine.Opcode.Parse

/-!
# Programs

A program is a row of cells with an instruction pointer. The same cells are fetched as instructions
and read and written as memory, so a write shows in the next fetch.

## Main statements

* `size_set`, `read_set` — a write keeps the length and changes one cell
* `peek_eq_ok_iff` — when an instruction can be fetched, and what is fetched
-/

namespace CellMachine

/-- The cells of one instruction as they stand in memory, not yet decoded. -/
structure Fetched where
  /-- Where the opcode was found. -/
  address : Nat
  opcode : Opcode
  operands : List Cell
  deriving DecidableEq, Repr

/-- The address of the cell after the instruction. -/
def Fetched.next (f : Fetched) : Nat := f.address + 1 + f.opcode.arity

/-- The cells of a program, and the address of the next fetch. -/
structure Program where
  cells : Array Cell
  ip : Nat
  deriving DecidableEq, Repr

namespace Program

/-- A program that has not yet begun. -/
def ofCells (cells : List Cell) : Program := ⟨cells.toArray, 0⟩

/-- The program of an image. -/
def ofImage (bytes : List UInt8) : Program := ofCells (Image.decode bytes)

/-- The number of cells. -/
abbrev size (p : Program) : Nat := p.cells.size

/-- The cell at an address. -/
def read (p : Program) (address : Nat) : Except Error Cell :=
  match p.cells[address]? with
  | some c => .ok c
  | none => .error (.outOfBounds address p.size)

/-- Puts a value into the cell at an address of the program. -/
def set (p : Program) (address : Nat) (value : Cell) (h : address < p.size) : Program :=
  ⟨p.cells.set address value h, p.ip⟩

/-- Puts a value into the cell at an address. -/
def write (p : Program) (address : Nat) (value : Cell) : Except Error Program :=
  if h : address < p.size then .ok (p.set address value h)
  else .error (.outOfBounds address p.size)

/-- Moves the instruction pointer anywhere; whether there is a cell shows at the next fetch. -/
def jump (p : Program) (address : Nat) : Program := { p with ip := address }

/-- The instruction at the instruction pointer, as it stands in memory. -/
def peek (p : Program) : Except Error Fetched :=
  match p.read p.ip with
  | .error e => .error e
  | .ok c =>
    match Opcode.ofCell c with
    | .error e => .error e
    | .ok op =>
      let first := p.ip + 1
      if first + op.arity ≤ p.size then
        .ok ⟨p.ip, op, (p.cells.extract first (first + op.arity)).toList⟩
      else .error (.truncated op (p.size - first))

/-- The instruction at the instruction pointer, and the program with the pointer moved past it. -/
def fetch (p : Program) : Except Error (Fetched × Program) :=
  match p.peek with
  | .error e => .error e
  | .ok f => .ok (f, p.jump f.next)

/-! ## What the operations do to the cells -/

@[simp] theorem cells_jump (p : Program) (address : Nat) : (p.jump address).cells = p.cells := rfl

@[simp] theorem ip_jump (p : Program) (address : Nat) : (p.jump address).ip = address := rfl

@[simp] theorem size_set (p : Program) (address : Nat) (value : Cell) (h : address < p.size) :
    (p.set address value h).size = p.size :=
  Array.size_set h

theorem read_eq_ok_iff {p : Program} {address : Nat} {c : Cell} :
    p.read address = .ok c ↔ p.cells[address]? = some c := by
  unfold read
  split <;> simp_all

theorem read_set (p : Program) (address : Nat) (value : Cell) (h : address < p.size) (q : Nat) :
    (p.set address value h).read q = if q = address then .ok value else p.read q := by
  unfold read
  rw [size_set]
  simp only [set, Array.getElem?_set]
  by_cases hq : q = address
  · simp [hq]
  · rw [if_neg (Ne.symm hq), if_neg hq]

theorem peek_eq_ok_iff {p : Program} {f : Fetched} :
    p.peek = .ok f ↔
      f.address = p.ip ∧ p.cells[p.ip]? = some f.opcode.cell ∧
        f.next ≤ p.size ∧ f.operands = (p.cells.extract (p.ip + 1) f.next).toList := by
  have hcell (c : Cell) (op : Opcode) : Opcode.ofCell c = .ok op ↔ c = op.cell := by
    rw [Opcode.ofCell_eq_ok_iff, ← op.toNat_cell, UInt16.toNat_inj]
  obtain ⟨address, op, operands⟩ := f
  simp only [Fetched.next]
  constructor
  · intro h
    unfold peek at h
    split at h
    · simp at h
    · next c hread =>
      split at h
      · simp at h
      · next op' hop =>
        dsimp only at h
        split at h
        · next hle =>
          obtain ⟨rfl, rfl, rfl⟩ := Fetched.mk.injEq .. ▸ Except.ok.inj h
          refine ⟨rfl, ?_, hle, rfl⟩
          rw [← (hcell c op').mp hop]
          exact read_eq_ok_iff.mp hread
        · simp at h
  · rintro ⟨rfl, hread, hle, rfl⟩
    have hop := (hcell op.cell op).mpr rfl
    simp only [peek, read_eq_ok_iff.mpr hread, hop, hle, if_true]

theorem length_operands {p : Program} {f : Fetched} (h : p.peek = .ok f) :
    f.operands.length = f.opcode.arity := by
  obtain ⟨haddress, -, hle, hoperands⟩ := peek_eq_ok_iff.mp h
  simp only [hoperands, Fetched.next, size, haddress] at hle ⊢
  simp only [Array.length_toList, Array.size_extract]
  omega

end Program

end CellMachine
