import CellMachine.Console.Terminal
import CellMachine.Proofs.Execute
import CellMachine.Proofs.Step

/-!
# Which cells decode to which instructions

Decoding reads a row of cells against the slots of an opcode. The leftmost position where they do
not match decides the error: a cell that is not legal there, or the end of the row. If they match,
the instruction tells the opcode and the cells, so that no other cells decode to it.

What has been fetched is never too short, so a step that fails for want of cells has failed to
fetch them.

## Main statements

* `Operands.read_eq_error_iff`, `decode_eq_error_iff` — the leftmost mismatch decides the error
* `exists_decode_eq_ok_iff` — the cells that decode to some instruction
* `decode_injective` — the opcode and the cells that decode to an instruction
* `Machine.step_eq_truncated_iff` — the steps that fail for want of cells
* `decode_exact` — all of this
-/

namespace CellMachine

/-! ## Cells against slots -/

/-- Each of the first `k` cells is legal in the slot at its position. -/
def LegalBelow (slots : List Slot) (cs : List Cell) (k : Nat) : Prop :=
  ∀ j < k, ∀ slot ∈ slots[j]?, ∀ c ∈ cs[j]?, slot.Admits c

theorem legalBelow_cons_succ_iff {slot : Slot} {slots : List Slot} {c : Cell} {cs : List Cell}
    {k : Nat} :
    LegalBelow (slot :: slots) (c :: cs) (k + 1) ↔ slot.Admits c ∧ LegalBelow slots cs k := by
  simp only [LegalBelow, Nat.forall_lt_succ_left, List.getElem?_cons_zero, List.getElem?_cons_succ,
    Option.mem_some_iff, forall_eq']

/-- Why cells do not match the slots of an opcode: the leftmost position that is at fault. -/
inductive Mismatch (op : Opcode) (available : Nat) (slots : List Slot) (cs : List Cell) :
    Error → Prop
  /-- The cell at some position is not legal there. -/
  | illegal {k : Nat} {slot : Slot} {c : Cell} (slot_eq : slots[k]? = some slot)
    (cell_eq : cs[k]? = some c) (illegal : ¬slot.Admits c) (before : LegalBelow slots cs k) :
    Mismatch op available slots cs (.invalidOperand c slot)
  /-- There are too few cells. -/
  | short (length_lt : cs.length < slots.length) (before : LegalBelow slots cs cs.length) :
    Mismatch op available slots cs (.truncated op available)

theorem Slot.read_cases (slot : Slot) (c : Cell) :
    (slot.Admits c ∧ ∃ content, slot.read c = .ok content) ∨
      ¬slot.Admits c ∧ slot.read c = .error (.invalidOperand c slot) := by
  rw [← Slot.isSome_read?_iff, Slot.read]
  cases slot.read? c with
  | none => exact Or.inr ⟨Bool.false_ne_true, rfl⟩
  | some content => exact Or.inl ⟨rfl, content, rfl⟩

theorem mismatch_cons_iff {op : Opcode} {n : Nat} {slot : Slot} {slots : List Slot} {c : Cell}
    {cs : List Cell} {e : Error} (h : slot.Admits c) :
    Mismatch op n (slot :: slots) (c :: cs) e ↔ Mismatch op n slots cs e := by
  constructor
  · intro hm
    cases hm with
    | @illegal k slot' c' hslot hcell hillegal hbefore =>
      cases k with
      | zero =>
        obtain rfl := Option.some.inj hslot
        obtain rfl := Option.some.inj hcell
        exact absurd h hillegal
      | succ k => exact .illegal hslot hcell hillegal (legalBelow_cons_succ_iff.mp hbefore).2
    | short hlength hbefore =>
      exact .short (Nat.lt_of_succ_lt_succ hlength) (legalBelow_cons_succ_iff.mp hbefore).2
  · intro hm
    cases hm with
    | @illegal k slot' c' hslot hcell hillegal hbefore =>
      have hslot' : (slot :: slots)[k + 1]? = some slot' := hslot
      exact .illegal hslot' hcell hillegal (legalBelow_cons_succ_iff.mpr ⟨h, hbefore⟩)
    | short hlength hbefore =>
      exact .short (Nat.succ_lt_succ hlength) (legalBelow_cons_succ_iff.mpr ⟨h, hbefore⟩)

theorem mismatch_cons_of_not_admits_iff {op : Opcode} {n : Nat} {slot : Slot} {slots : List Slot}
    {c : Cell} {cs : List Cell} {e : Error} (h : ¬slot.Admits c) :
    Mismatch op n (slot :: slots) (c :: cs) e ↔ e = .invalidOperand c slot := by
  constructor
  · intro hm
    cases hm with
    | @illegal k slot' c' hslot hcell hillegal hbefore =>
      cases k with
      | zero =>
        obtain rfl := Option.some.inj hslot
        obtain rfl := Option.some.inj hcell
        rfl
      | succ k => exact absurd (legalBelow_cons_succ_iff.mp hbefore).1 h
    | short hlength hbefore => exact absurd (legalBelow_cons_succ_iff.mp hbefore).1 h
  · rintro rfl
    exact .illegal (k := 0) rfl rfl h nofun

/-- **The leftmost mismatch decides the error.** -/
theorem Operands.read_eq_error_iff {op : Opcode} {n : Nat} {slots : List Slot} {cs : List Cell}
    {e : Error} : read op n slots cs = .error e ↔ Mismatch op n slots cs e := by
  induction slots generalizing cs with
  | nil =>
    constructor
    · intro h
      cases h
    · rintro (⟨hslot, -, -, -⟩ | ⟨hlength, -⟩)
      · cases hslot
      · exact absurd hlength (Nat.not_lt_zero _)
  | cons slot slots ih =>
    cases cs with
    | nil =>
      simp only [read, Except.error.injEq]
      constructor
      · rintro rfl
        exact .short (Nat.succ_pos _) fun j hj => absurd hj (Nat.not_lt_zero j)
      · rintro (⟨-, hcell, -, -⟩ | -)
        · cases hcell
        · rfl
    | cons c cs =>
      rcases slot.read_cases c with ⟨hadmits, content, hread⟩ | ⟨hnot, hread⟩
      · rw [mismatch_cons_iff hadmits, ← ih]
        simp only [read, hread]
        cases read op n slots cs <;> simp
      · rw [mismatch_cons_of_not_admits_iff hnot]
        simp only [read, hread, Except.error.injEq, eq_comm]

theorem Operands.exists_read_eq_ok_iff {op : Opcode} {n : Nat} {slots : List Slot}
    {cs : List Cell} :
    (∃ operands, read op n slots cs = .ok operands) ↔
      slots.length ≤ cs.length ∧ LegalBelow slots cs slots.length := by
  induction slots generalizing cs with
  | nil => exact iff_of_true ⟨.nil, rfl⟩ ⟨Nat.zero_le _, nofun⟩
  | cons slot slots ih =>
    cases cs with
    | nil =>
      refine iff_of_false ?_ (fun h => Nat.not_succ_le_zero _ h.1)
      rintro ⟨operands, h⟩
      cases h
    | cons c cs =>
      simp only [List.length_cons, Nat.succ_le_succ_iff, legalBelow_cons_succ_iff]
      rw [and_left_comm, ← ih]
      rcases slot.read_cases c with ⟨hadmits, content, hread⟩ | ⟨hnot, hread⟩
      · simp only [read, hread, hadmits, true_and]
        cases read op n slots cs <;> simp
      · simp only [read, hread, hnot, false_and, reduceCtorEq, exists_false]

/-- Cells beyond the last slot are not looked at. -/
theorem Operands.read_take {op : Opcode} {slots : List Slot} {cs : List Cell}
    (h : slots.length ≤ cs.length) (m n : Nat) :
    read op m slots cs = read op n slots (cs.take slots.length) := by
  induction slots generalizing cs with
  | nil => rfl
  | cons slot slots ih =>
    cases cs with
    | nil => cases h
    | cons c cs =>
      simp only [List.length_cons, List.take_succ_cons, read]
      rw [ih (Nat.le_of_succ_le_succ h)]

/-! ## Decoding -/

namespace Instruction

variable {op op' : Opcode} {cs cs' : List Cell} {i : Instruction}

theorem decode_eq_error_iff {e : Error} :
    decode op cs = .error e ↔ Mismatch op cs.length op.slots cs e := by
  rw [← Operands.read_eq_error_iff, decode]
  cases Operands.read op cs.length op.slots cs <;> simp

theorem exists_decode_eq_ok_iff :
    (∃ i, decode op cs = .ok i) ↔ op.arity ≤ cs.length ∧ LegalBelow op.slots cs op.arity := by
  have hread : (∃ operands, Operands.read op cs.length op.slots cs = .ok operands) ↔
      op.arity ≤ cs.length ∧ LegalBelow op.slots cs op.arity := by
    rw [← op.length_slots]
    exact Operands.exists_read_eq_ok_iff
  rw [← hread, decode]
  cases Operands.read op cs.length op.slots cs <;> simp

theorem decode_congr (h : cs'.take op.arity = cs.take op.arity) : decode op cs' = decode op cs := by
  have hlength := congrArg List.length h
  rw [List.length_take, List.length_take] at hlength
  rcases Nat.lt_or_ge cs.length op.arity with hlt | hge
  · -- neither list is cut
    rw [List.take_of_length_le (Nat.le_of_lt hlt), List.take_of_length_le (by omega)] at h
    rw [h]
  · have hge' : op.arity ≤ cs'.length := by omega
    rw [← op.length_slots] at h hge hge'
    rw [decode, decode, Operands.read_take hge' _ 0, Operands.read_take hge _ 0, h]

/-- **An instruction decodes from no other opcode and no other cells.** -/
theorem decode_injective (h : decode op cs = .ok i) (h' : decode op' cs' = .ok i) :
    op' = op ∧ cs'.take op.arity = cs.take op.arity := by
  obtain ⟨rfl, rest, rfl⟩ := decode_eq_ok_iff.mp h
  obtain ⟨rfl, rest', rfl⟩ := decode_eq_ok_iff.mp h'
  refine ⟨rfl, ?_⟩
  rw [← length_operandCells, List.take_left, List.take_left]

/-- There are as many cells as it takes in what has been fetched. -/
theorem decode_ne_truncated {p : Program} {f : Fetched} (h : p.peek = .ok f) (op : Opcode)
    (n : Nat) : decode f.opcode f.operands ≠ .error (.truncated op n) := by
  rw [ne_eq, decode_eq_error_iff]
  rintro (_ | ⟨hlength, -⟩)
  rw [Program.length_operands h, Opcode.length_slots] at hlength
  exact Nat.lt_irrefl _ hlength

end Instruction

/-! ## Steps -/

/-- **The steps that fail for want of cells** have not fetched an instruction. -/
theorem Machine.step_eq_truncated_iff {κ : Type} [Console κ] {m : Machine} {console : κ}
    {a n : Nat} {op : Opcode} :
    (m.step console).result = .error ⟨a, .truncated op n⟩ ↔
      m.status = .running ∧ a = m.program.ip ∧ m.program.peek = .error (.truncated op n) := by
  by_cases hm : m.status = .running
  · rw [step_eq_error_iff hm]
    simp only [hm, true_and]
    refine and_congr_right fun _ => ⟨?_, Or.inl⟩
    rintro (hpeek | ⟨f, hpeek, hdecode⟩ | ⟨i, -, hflow⟩)
    · exact hpeek
    · exact absurd hdecode (Instruction.decode_ne_truncated hpeek op n)
    · cases isOfExecution_of_flow hflow
  · rw [step_of_ne_running hm]
    exact iff_of_false nofun fun h => hm h.1

/-! ## Everything about decoding -/

namespace Instruction

/-- **Decoding is exact and injective.** It succeeds on cells that are legal in the slots of the
opcode, and whatever follows them; otherwise the leftmost mismatch decides the error. The
instruction tells the opcode and its cells. What has been fetched is never too short for that, so
that a step fails for want of cells only where it fetches. -/
theorem decode_exact (op : Opcode) (cs : List Cell) :
    ((∃ i, decode op cs = .ok i) ↔ op.arity ≤ cs.length ∧ LegalBelow op.slots cs op.arity) ∧
      (∀ (slot : Slot) (c : Cell),
        slot.Admits c ↔ c.toNat ≤ 32775 ∧ (slot = .destination → 32768 ≤ c.toNat)) ∧
      (∀ cs', cs'.take op.arity = cs.take op.arity → decode op cs' = decode op cs) ∧
      (∀ e, decode op cs = .error e ↔ Mismatch op cs.length op.slots cs e) ∧
      (∀ c slot, let expected := if slot = .destination then "Register" else "Value"
        (Error.invalidOperand c slot).message =
          s!"invalid operand cell {c}, expected a {expected}") ∧
      (Error.truncated op cs.length).message =
        s!"`{op.mnemonic}` needs {op.arity} operands but the program ends after {cs.length}" ∧
      (∀ op' cs' i, decode op cs = .ok i → decode op' cs' = .ok i →
        op' = op ∧ cs'.take op.arity = cs.take op.arity) ∧
      (∀ p f q, Program.fetch p = .ok (f, q) → f.operands.length = f.opcode.arity ∧
        ∀ op' n, decode f.opcode f.operands ≠ .error (.truncated op' n)) ∧
      ∀ {κ : Type} [Console κ] (m : Machine) (console : κ) a op' n,
        (m.step console).result = .error ⟨a, .truncated op' n⟩ →
          m.program.fetch = .error (.truncated op' n) := by
  refine ⟨exists_decode_eq_ok_iff, ?_, ?_, ?_, ?_, rfl, ?_, ?_, ?_⟩
  · intro slot c
    cases slot with
    | destination =>
      simp only [Slot.Admits, modulus, forall_const]
      omega
    | source =>
      simp only [Slot.Admits, modulus, reduceCtorEq, false_imp_iff, and_true]
      omega
  · intro cs' h
    exact decode_congr h
  · intro e
    exact decode_eq_error_iff
  · intro c slot
    cases slot with
    | destination => rfl
    | source => rfl
  · intro op' cs' i h h'
    exact decode_injective h h'
  · intro p f q hfetch
    have hpeek := (Program.fetch_eq_ok_iff.mp hfetch).1
    exact ⟨Program.length_operands hpeek, decode_ne_truncated hpeek⟩
  · intro κ _ m console a op' n h
    exact Program.fetch_eq_error_iff.mpr (Machine.step_eq_truncated_iff.mp h).2.2

/-- Two cells at fault, of which the left one is told; a cell too many, which does not count; the
cells that make up an instruction; and a program that ends before the second operand of its only
instruction. -/
theorem decode_exact_leftmost :
    decode .eq [32768, 32776, 40000] = .error (.invalidOperand 32776 .source) ∧
      decode .set [32768, 5, 99] = decode .set [32768, 5] ∧
      (∀ cs, decode .set cs = decode .set [32768, 5] → cs.take 2 = [32768, 5]) ∧
      Program.fetch (.ofCells [1, 32768]) = .error (.truncated .set 1) := by
  obtain ⟨-, hlegal, -, herror, -⟩ := decode_exact .eq [32768, 32776, 40000]
  obtain ⟨-, -, hcongr, -, -, -, hinjective, -, hstep⟩ := decode_exact .set [32768, 5]
  have hillegal : ¬Slot.source.Admits 32776 := by
    rw [hlegal]
    decide
  have hbefore : LegalBelow Opcode.eq.slots [32768, 32776, 40000] 1 :=
    legalBelow_cons_succ_iff.mpr ⟨by decide, nofun⟩
  have hset : decode .set [32768, 5] = .ok (.set ⟨0⟩ (.literal 5 (by decide))) := rfl
  let terminal : Terminal := ⟨.ofBytes [], .empty none⟩
  refine ⟨(herror _).mpr (.illegal (k := 1) rfl rfl hillegal hbefore), hcongr _ rfl, ?_, ?_⟩
  · intro cs h
    exact (hinjective .set cs _ hset (h.trans hset)).2
  · exact hstep (.start {} (.ofCells [1, 32768])) terminal 0 _ _ rfl

end Instruction

end CellMachine
