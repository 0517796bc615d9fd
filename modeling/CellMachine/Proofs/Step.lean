import CellMachine.Machine.Step

/-!
# What a step can do

A step of a running machine gets as far as the fetch, the decoding or the execution of an
instruction, and settles with what that left. Everything else is said of the three cases:

1. the cells at the instruction pointer are no opcode with its operands, and nothing has moved
2. the operands are not legal, and only the instruction pointer has moved
3. the machine executes the instruction whose cells stand there (`Machine.Executes`)

## Main statements

* `Program.peek_eq_error_iff` — why nothing can be fetched
* `Program.at_iff` — the instruction that is fetched and decoded is the one whose cells are there
* `Machine.instruction?_eq_some_iff` — which instruction that is can be computed
* `Machine.step_cases` — the three cases
* `Machine.step_eq_error_iff` — the steps that fail, and with which errors
* `Machine.executes_of_running` — after a step the machine runs only if it has executed something
-/

namespace CellMachine

/-! ## The instruction in memory -/

/-- The cells of the instruction stand in memory at the instruction pointer. -/
def Program.At (p : Program) (i : Instruction) : Prop :=
  i.cells <+: p.cells.toList.drop p.ip

instance (p : Program) (i : Instruction) : Decidable (p.At i) :=
  inferInstanceAs (Decidable (i.cells <+: p.cells.toList.drop p.ip))

namespace Program

theorem fetch_eq_error_iff {p : Program} {e : Error} : p.fetch = .error e ↔ p.peek = .error e := by
  unfold fetch
  cases p.peek <;> simp

theorem fetch_eq_ok_iff {p q : Program} {f : Fetched} :
    p.fetch = .ok (f, q) ↔ p.peek = .ok f ∧ q = p.jump f.next := by
  unfold fetch
  cases p.peek with
  | error e => simp
  | ok g =>
    simp only [Except.ok.injEq, Prod.mk.injEq]
    constructor
    · rintro ⟨rfl, rfl⟩
      exact ⟨rfl, rfl⟩
    · rintro ⟨rfl, rfl⟩
      exact ⟨rfl, rfl⟩

/-- **Why nothing can be fetched**: the program ends, its cell is no opcode, or it ends before the
last operand. -/
theorem peek_eq_error_iff {p : Program} {e : Error} :
    p.peek = .error e ↔
      p.size ≤ p.ip ∧ e = .outOfBounds p.ip p.size ∨
        ∃ c, p.cells[p.ip]? = some c ∧
          (Opcode.ofCell c = .error e ∨
            ∃ op, Opcode.ofCell c = .ok op ∧ p.size < p.ip + 1 + op.arity ∧
              e = .truncated op (p.size - (p.ip + 1))) := by
  unfold peek read
  cases hcell : p.cells[p.ip]? with
  | none =>
    have hle : p.size ≤ p.ip := Array.getElem?_eq_none_iff.mp hcell
    simp [hle, eq_comm]
  | some c =>
    have hlt : ¬p.size ≤ p.ip := Nat.not_le_of_lt (Array.getElem?_eq_some_iff.mp hcell).1
    simp only [hlt, false_and, false_or, Option.some.injEq, exists_eq_left']
    cases hop : Opcode.ofCell c with
    | error e' => simp
    | ok op =>
      dsimp only
      split
      · next hfits => simp [Nat.not_lt_of_le hfits]
      · next hfits => simp [Nat.lt_of_not_le hfits, eq_comm]

theorem peek_eq_outOfBounds_iff {p : Program} {address length : Nat} :
    p.peek = .error (.outOfBounds address length) ↔
      p.size ≤ p.ip ∧ address = p.ip ∧ length = p.size := by
  rw [peek_eq_error_iff, Error.outOfBounds.injEq]
  refine or_iff_left ?_
  rintro ⟨c, -, hop | ⟨op, -, -, he⟩⟩
  · cases (Opcode.ofCell_eq_error_iff.mp hop).2
  · cases he

theorem peek_eq_unknownOpcode_iff {p : Program} {c : Cell} :
    p.peek = .error (.unknownOpcode c) ↔ p.cells[p.ip]? = some c ∧ 21 < c.toNat := by
  rw [peek_eq_error_iff]
  constructor
  · rintro (⟨-, he⟩ | ⟨c', hc, hop | ⟨op, -, -, he⟩⟩)
    · cases he
    · obtain ⟨hunknown, he⟩ := Opcode.ofCell_eq_error_iff.mp hop
      obtain rfl := Error.unknownOpcode.inj he
      exact ⟨hc, hunknown⟩
    · cases he
  · rintro ⟨hc, hunknown⟩
    exact Or.inr ⟨c, hc, Or.inl (Opcode.ofCell_eq_error_iff.mpr ⟨hunknown, rfl⟩)⟩

theorem peek_eq_truncated_iff {p : Program} {op : Opcode} {available : Nat} :
    p.peek = .error (.truncated op available) ↔
      p.cells[p.ip]? = some op.cell ∧ available = p.size - (p.ip + 1) ∧
        p.size < p.ip + 1 + op.arity := by
  rw [peek_eq_error_iff]
  constructor
  · rintro (⟨-, he⟩ | ⟨c, hc, hop | ⟨op', hop, hlt, he⟩⟩)
    · cases he
    · cases (Opcode.ofCell_eq_error_iff.mp hop).2
    · obtain ⟨rfl, rfl⟩ := Error.truncated.inj he
      rw [Opcode.ofCell_eq_ok_iff, ← Opcode.toNat_cell, UInt16.toNat_inj] at hop
      exact ⟨hop ▸ hc, rfl, hlt⟩
  · rintro ⟨hc, rfl, hlt⟩
    exact Or.inr ⟨op.cell, hc, Or.inr ⟨op, Opcode.ofCell_eq_ok_iff.mpr op.toNat_cell, hlt, rfl⟩⟩

/-- What is fetched are the cells from the instruction pointer on. -/
theorem peek_eq_ok_iff_cells {p : Program} {f : Fetched} :
    p.peek = .ok f ↔
      f.address = p.ip ∧ f.operands.length = f.opcode.arity ∧
        f.opcode.cell :: f.operands <+: p.cells.toList.drop p.ip := by
  constructor
  · intro h
    have hlength := length_operands h
    obtain ⟨haddress, hcell, hle, hoperands⟩ := peek_eq_ok_iff.mp h
    refine ⟨haddress, hlength, ?_⟩
    obtain ⟨hip, hget⟩ := List.getElem?_eq_some_iff.mp (Array.getElem?_toList ▸ hcell)
    rw [List.drop_eq_getElem_cons hip, hget, hoperands, Array.toList_extract, List.extract,
      List.prefix_cons_inj]
    exact List.take_prefix _ _
  · rintro ⟨haddress, hlength, hprefix⟩
    -- the cells of the instruction fit, so that the first of them exists
    have hlt : p.ip < p.cells.toList.length := by
      have hle := hprefix.length_le
      simp only [List.length_cons, List.length_drop] at hle
      omega
    rw [List.drop_eq_getElem_cons hlt, List.cons_prefix_cons] at hprefix
    obtain ⟨hcell, htail⟩ := hprefix
    have hle := htail.length_le
    simp only [List.length_drop, Array.length_toList] at hle
    refine peek_eq_ok_iff.mpr ⟨haddress, ?_, ?_, ?_⟩
    · rw [hcell, ← Array.getElem?_toList, List.getElem?_eq_getElem hlt]
    · simp only [Fetched.next, size, Array.length_toList] at hlt ⊢
      omega
    · have hspan : f.next - (p.ip + 1) = f.operands.length := by
        simp only [Fetched.next, haddress]
        omega
      rw [Array.toList_extract, List.extract, hspan]
      exact List.prefix_iff_eq_take.mp htail

/-- A cell of what is fetched is the one so far after the instruction pointer. -/
theorem getElem?_of_fetch {p q : Program} {f : Fetched} (h : p.fetch = .ok (f, q)) {k : Nat}
    {c : Cell} (hc : (f.opcode.cell :: f.operands)[k]? = some c) : p.cells[p.ip + k]? = some c := by
  obtain ⟨-, -, hcells⟩ := peek_eq_ok_iff_cells.mp (fetch_eq_ok_iff.mp h).1
  obtain ⟨hk, hget⟩ := List.getElem?_eq_some_iff.mp hc
  have hdrop : (p.cells.toList.drop p.ip)[k]? = some c :=
    (List.prefix_iff_getElem?.mp hcells k hk).trans (congrArg some hget)
  rwa [List.getElem?_drop, Array.getElem?_toList] at hdrop

/-- **The instruction that is fetched and decoded is the one whose cells are in memory.** -/
theorem at_iff {p : Program} {i : Instruction} :
    p.At i ↔ p.peek = .ok ⟨p.ip, i.opcode, i.operandCells⟩ := by
  simp only [peek_eq_ok_iff_cells, Instruction.length_operandCells, true_and]
  rfl

/-- The program does not end before the instruction does. -/
theorem At.next_le {p : Program} {i : Instruction} (h : p.At i) :
    p.ip + 1 + i.opcode.arity ≤ p.size := by
  obtain ⟨-, -, hle, -⟩ := peek_eq_ok_iff.mp (at_iff.mp h)
  exact hle

theorem at_of_decode {p : Program} {f : Fetched} {i : Instruction} (hf : p.peek = .ok f)
    (hd : Instruction.decode f.opcode f.operands = .ok i) :
    f = ⟨p.ip, i.opcode, i.operandCells⟩ ∧ p.At i := by
  have hlength := length_operands hf
  obtain ⟨hopcode, rest, hcells⟩ := Instruction.decode_eq_ok_iff.mp hd
  -- no more cells are fetched than the operands take up
  have hrest : rest = [] := by
    rw [hcells, List.length_append, Instruction.length_operandCells, hopcode] at hlength
    exact List.length_eq_zero_iff.mp (by omega)
  have haddress : f.address = p.ip := (peek_eq_ok_iff.mp hf).1
  have heq : f = ⟨p.ip, i.opcode, i.operandCells⟩ := by
    rw [hrest, List.append_nil] at hcells
    rw [← haddress, hopcode, ← hcells]
  exact ⟨heq, at_iff.mpr (heq ▸ hf)⟩

theorem At.unique {p : Program} {i j : Instruction} (hi : p.At i) (hj : p.At j) : i = j := by
  have h := (at_iff.mp hi).symm.trans (at_iff.mp hj)
  simp only [Except.ok.injEq, Fetched.mk.injEq, true_and] at h
  have hdecode := Instruction.decode_operandCells i
  rw [h.1, h.2, Instruction.decode_operandCells j] at hdecode
  exact (Except.ok.inj hdecode).symm

end Program

/-! ## Settling

What a step makes of the effect of its instruction: the answer, the status, and the last report.
-/

/-- The answer to a step at an address. -/
def Flow.answer (address : Nat) : Flow → Except Fault Status
  | .next => .ok .running
  | .halt reason => .ok (.halted reason)
  | .fail error => .error ⟨address, error⟩

namespace Machine

section Settle

variable {κ : Type}

/-- The step of a machine whose instruction left an effect, with what was traced before. -/
def settle (m : Machine) (effect : Effect κ) (traced : List Event) : Transition κ :=
  match effect.flow with
  | .next =>
    ⟨.ok .running, ⟨m.settings, effect.program, effect.core, .running, m.cycles + 1⟩,
      effect.console, traced⟩
  | .halt reason =>
    ⟨.ok (.halted reason),
      ⟨m.settings, effect.program, effect.core, .halted reason, m.cycles + 1⟩, effect.console,
      traced ++ [.halted m.program.ip (m.cycles + 1) reason]⟩
  | .fail error =>
    ⟨.error ⟨m.program.ip, error⟩,
      ⟨m.settings, effect.program, effect.core, .faulted, m.cycles + 1⟩, effect.console,
      traced ++ [.faulted m.program.ip (m.cycles + 1) error]⟩

variable (m : Machine) (left : Effect κ) (events : List Event)

@[simp] theorem settle_program : (m.settle left events).machine.program = left.program := by
  unfold settle
  split <;> rfl

@[simp] theorem settle_core : (m.settle left events).machine.core = left.core := by
  unfold settle
  split <;> rfl

@[simp] theorem settle_settings : (m.settle left events).machine.settings = m.settings := by
  unfold settle
  split <;> rfl

@[simp] theorem settle_cycles : (m.settle left events).machine.cycles = m.cycles + 1 := by
  unfold settle
  split <;> rfl

@[simp] theorem settle_console : (m.settle left events).console = left.console := by
  unfold settle
  split <;> rfl

variable {m left events}

theorem settle_result : (m.settle left events).result = left.flow.answer m.program.ip := by
  unfold settle
  cases left.flow <;> rfl

theorem settle_result_eq_running_iff :
    (m.settle left events).result = .ok .running ↔ left.flow = .next := by
  unfold settle
  split <;> simp_all

theorem settle_result_eq_error_iff {a : Nat} {e : Error} :
    (m.settle left events).result = .error ⟨a, e⟩ ↔ a = m.program.ip ∧ left.flow = .fail e := by
  unfold settle
  cases left.flow <;> simp [eq_comm]

theorem settle_status_eq_running_iff :
    (m.settle left events).machine.status = .running ↔ left.flow = .next := by
  unfold settle
  split <;> simp_all

theorem settle_of_fail {error : Error} (h : left.flow = .fail error) :
    (m.settle left events).result = .error ⟨m.program.ip, error⟩ ∧
      (m.settle left events).machine.status = .faulted := by
  simp only [settle, h, and_self]

/-- What does not go on has halted for a reason or has failed, and the status says which. -/
theorem settle_answer (h : left.flow ≠ .next) :
    (∃ reason, (m.settle left events).result = .ok (.halted reason) ∧
        (m.settle left events).machine.status = .halted reason) ∨
      ∃ error, (m.settle left events).result = .error ⟨m.program.ip, error⟩ ∧
        (m.settle left events).machine.status = .faulted := by
  cases hflow : left.flow with
  | next => exact absurd hflow h
  | halt reason =>
    refine Or.inl ⟨reason, ?_, ?_⟩
    · simp only [settle, hflow]
    · simp only [settle, hflow]
  | fail error => exact Or.inr ⟨error, settle_of_fail hflow⟩

end Settle

/-! ## The step of a running machine -/

variable {κ : Type} [Console κ] {m : Machine} {console : κ}

theorem cycle_of_peek_error {settings : Settings} {p : Program} {core : Core} {e : Error}
    (h : p.peek = .error e) :
    cycle settings p core console = (⟨.fail e, p, core, console⟩, []) := by
  unfold cycle
  rw [Program.fetch_eq_error_iff.mpr h]

theorem cycle_of_peek_ok {settings : Settings} {p : Program} {core : Core} {f : Fetched}
    (h : p.peek = .ok f) :
    cycle settings p core console =
      match Instruction.decode f.opcode f.operands with
      | .error e => (⟨.fail e, p.jump f.next, core, console⟩, [])
      | .ok i =>
        (execute settings.endOfInput (p.jump f.next) core console i,
          if settings.trace.covers f.opcode then [.exec f core] else []) := by
  have hfetch : p.fetch = .ok (f, p.jump f.next) := Program.fetch_eq_ok_iff.mpr ⟨h, rfl⟩
  cases hdecode : Instruction.decode f.opcode f.operands with
  | error e => simp only [cycle, hfetch, hdecode]
  | ok i => simp only [cycle, hfetch, hdecode]

theorem step_of_running (h : m.status = .running) :
    m.step console =
      m.settle (cycle m.settings m.program m.core console).1
        (cycle m.settings m.program m.core console).2 := by
  obtain ⟨settings, program, core, status, cycles⟩ := m
  obtain rfl : status = .running := h
  unfold step settle
  dsimp only
  generalize cycle settings program core console = c
  obtain ⟨⟨flow, program', core', console'⟩, traced⟩ := c
  cases flow <;> rfl

/-- The next step executes the instruction: the machine runs, and the cells of the instruction
stand at the instruction pointer. -/
def Executes (m : Machine) (i : Instruction) : Prop := m.status = .running ∧ m.program.At i

instance (m : Machine) (i : Instruction) : Decidable (m.Executes i) :=
  inferInstanceAs (Decidable (m.status = .running ∧ m.program.At i))

theorem Executes.unique {i j : Instruction} (hi : m.Executes i) (hj : m.Executes j) : i = j :=
  hi.2.unique hj.2

/-- The instruction that the next step executes, if it executes one. -/
def instruction? (m : Machine) : Option Instruction :=
  match m.status, m.program.peek with
  | .running, .ok f => (Instruction.decode f.opcode f.operands).toOption
  | _, _ => none

theorem instruction?_eq_some_iff {i : Instruction} : m.instruction? = some i ↔ m.Executes i := by
  unfold instruction?
  constructor
  · intro h
    split at h
    · next f hstatus hpeek =>
      cases hdecode : Instruction.decode f.opcode f.operands with
      | error e =>
        rw [hdecode] at h
        cases h
      | ok j =>
        rw [hdecode] at h
        obtain rfl := Option.some.inj h
        exact ⟨hstatus, (Program.at_of_decode hpeek hdecode).2⟩
    · cases h
  · rintro ⟨hstatus, hat⟩
    simp only [hstatus, Program.at_iff.mp hat, Instruction.decode_operandCells]
    rfl

/-- What an instruction leaves behind when the machine executes it where it stands. -/
def effect (m : Machine) (console : κ) (i : Instruction) : Effect κ :=
  execute m.settings.endOfInput (m.program.jump (m.program.ip + 1 + i.opcode.arity)) m.core
    console i

/-- What is reported before an instruction is executed. -/
def traced (m : Machine) (i : Instruction) : List Event :=
  if m.settings.trace.covers i.opcode then
    [.exec ⟨m.program.ip, i.opcode, i.operandCells⟩ m.core]
  else []

theorem step_of_executes {i : Instruction} (h : m.Executes i) :
    m.step console = m.settle (m.effect console i) (m.traced i) := by
  rw [step_of_running h.1, cycle_of_peek_ok (Program.at_iff.mp h.2)]
  simp only [Instruction.decode_operandCells]
  rfl

/-- **The three ways of a step: nothing is fetched, nothing is decoded, an instruction is
executed.** -/
theorem step_cases (m : Machine) (console : κ) (h : m.status = .running) :
    (∃ e, m.program.peek = .error e ∧
        m.step console = m.settle ⟨.fail e, m.program, m.core, console⟩ []) ∨
      (∃ f e, m.program.peek = .ok f ∧ Instruction.decode f.opcode f.operands = .error e ∧
        m.step console = m.settle ⟨.fail e, m.program.jump f.next, m.core, console⟩ []) ∨
      ∃ i, m.Executes i ∧ m.step console = m.settle (m.effect console i) (m.traced i) := by
  cases hf : m.program.peek with
  | error e =>
    refine Or.inl ⟨e, rfl, ?_⟩
    rw [step_of_running h, cycle_of_peek_error hf]
  | ok f =>
    cases hd : Instruction.decode f.opcode f.operands with
    | error e =>
      refine Or.inr (Or.inl ⟨f, e, rfl, hd, ?_⟩)
      rw [step_of_running h, cycle_of_peek_ok hf, hd]
    | ok i =>
      have hexec : m.Executes i := ⟨h, (Program.at_of_decode hf hd).2⟩
      exact Or.inr (Or.inr ⟨i, hexec, step_of_executes hexec⟩)

/-- The steps of a running machine that fail, and why: the error is that of the fetch, of the
decoding or of the instruction. -/
theorem step_eq_error_iff (h : m.status = .running) {a : Nat} {e : Error} :
    (m.step console).result = .error ⟨a, e⟩ ↔
      a = m.program.ip ∧
        (m.program.peek = .error e ∨
          (∃ f, m.program.peek = .ok f ∧ Instruction.decode f.opcode f.operands = .error e) ∨
          ∃ i, m.Executes i ∧ (m.effect console i).flow = .fail e) := by
  constructor
  · intro herror
    rcases m.step_cases console h with ⟨e', hf, heq⟩ | ⟨f, e', hf, hd, heq⟩ | ⟨i, hi, heq⟩
    · rw [heq, settle_result_eq_error_iff] at herror
      obtain rfl := Flow.fail.inj herror.2
      exact ⟨herror.1, Or.inl hf⟩
    · rw [heq, settle_result_eq_error_iff] at herror
      obtain rfl := Flow.fail.inj herror.2
      exact ⟨herror.1, Or.inr (Or.inl ⟨f, hf, hd⟩)⟩
    · rw [heq, settle_result_eq_error_iff] at herror
      exact ⟨herror.1, Or.inr (Or.inr ⟨i, hi, herror.2⟩)⟩
  · rintro ⟨rfl, hf | ⟨f, hf, hd⟩ | ⟨i, hi, hflow⟩⟩
    · rw [step_of_running h, cycle_of_peek_error hf, settle_result_eq_error_iff]
      exact ⟨rfl, rfl⟩
    · rw [step_of_running h, cycle_of_peek_ok hf, hd, settle_result_eq_error_iff]
      exact ⟨rfl, rfl⟩
    · rw [step_of_executes hi, settle_result_eq_error_iff]
      exact ⟨rfl, hflow⟩

/-- A step that leaves the machine running has executed an instruction to its end. -/
theorem executes_of_running (h : (m.step console).result = .ok .running) :
    ∃ i, m.Executes i ∧ (m.effect console i).flow = .next := by
  by_cases hm : m.status = .running
  · rcases m.step_cases console hm with ⟨e, -, heq⟩ | ⟨f, e, -, -, heq⟩ | ⟨i, hi, heq⟩
    · rw [heq, settle_result_eq_running_iff] at h
      cases h
    · rw [heq, settle_result_eq_running_iff] at h
      cases h
    · rw [heq, settle_result_eq_running_iff] at h
      exact ⟨i, hi, h⟩
  · rw [step_of_ne_running hm] at h
    cases h

end Machine

end CellMachine
