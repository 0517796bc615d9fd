import CellMachine.Instruction.Basic
import CellMachine.Error

/-!
# Decoding instructions

The cells after an opcode are read into its slots from left to right. The first cell that is not
legal in its slot, or the first slot without a cell, decides the error; cells beyond the last slot
are not looked at.

## Main statements

* `decode_eq_ok_iff` — decoding succeeds exactly on the cells of an instruction and whatever
  follows them
* `decode_operandCells` — reading back what was written gives the instruction
-/

namespace CellMachine

/-! ## Reading slots -/

/-- Reads a cell into a slot. -/
def Slot.read (slot : Slot) (c : Cell) : Except Error slot.Content :=
  match slot.read? c with
  | some content => .ok content
  | none => .error (.invalidOperand c slot)

/-- Reads cells into slots. The opcode and the number of its cells are for the error only. -/
def Operands.read (op : Opcode) (available : Nat) :
    (slots : List Slot) → List Cell → Except Error (Operands slots)
  | [], _ => .ok .nil
  | _ :: _, [] => .error (.truncated op available)
  | slot :: slots, c :: cs =>
    match slot.read c with
    | .error e => .error e
    | .ok content =>
      match read op available slots cs with
      | .error e => .error e
      | .ok rest => .ok (.cons content rest)

theorem Slot.read_eq_ok_iff {slot : Slot} {c : Cell} {content : slot.Content} :
    slot.read c = .ok content ↔ c = slot.cell content := by
  rw [← Slot.read?_eq_some_iff]
  unfold Slot.read
  split <;> simp_all

theorem Operands.read_eq_ok_iff {op : Opcode} {n : Nat} {slots : List Slot} {cs : List Cell}
    {operands : Operands slots} :
    read op n slots cs = .ok operands ↔ ∃ rest, cs = operands.cells ++ rest := by
  induction slots generalizing cs with
  | nil =>
    cases operands
    simp [read, cells]
  | cons slot slots ih =>
    cases operands with
    | cons content tail =>
    cases cs with
    | nil => simp [read, cells]
    | cons c cs =>
      simp only [read, cells, List.cons_append, List.cons.injEq, exists_and_left]
      rw [← ih, ← Slot.read_eq_ok_iff]
      cases slot.read c <;> cases read op n slots cs <;> simp

/-! ## Decoding -/

namespace Instruction

/-- The instruction that an opcode and the cells after it make up. -/
def decode (op : Opcode) (cs : List Cell) : Except Error Instruction :=
  match Operands.read op cs.length op.slots cs with
  | .error e => .error e
  | .ok operands => .ok (ofOperands op operands)

theorem decode_eq_ok_iff {op : Opcode} {cs : List Cell} {i : Instruction} :
    decode op cs = .ok i ↔ i.opcode = op ∧ ∃ rest, cs = i.operandCells ++ rest := by
  constructor
  · intro h
    unfold decode at h
    split at h
    · simp at h
    · next operands hread =>
      obtain rfl := Except.ok.inj h
      refine ⟨opcode_ofOperands op operands, ?_⟩
      rw [operandCells_ofOperands]
      exact Operands.read_eq_ok_iff.mp hread
  · rintro ⟨rfl, hcells⟩
    have hread : Operands.read i.opcode cs.length i.opcode.slots cs = .ok i.operands :=
      Operands.read_eq_ok_iff.mpr hcells
    simp only [decode, hread, ofOperands_operands]

theorem decode_operandCells (i : Instruction) : decode i.opcode i.operandCells = .ok i :=
  decode_eq_ok_iff.mpr ⟨rfl, [], by simp⟩

end Instruction

end CellMachine
