import CellMachine.Session
import CellMachine.Proofs.Execute
import CellMachine.Proofs.Step

/-!
# Sessions after any number of steps

A session goes on for ever: once its machine has stopped, a step changes nothing. `after` is the
session after so many steps; what every step preserves holds in all of them (`after_induction`).

## Main statements

* `next_of_executes` — the next session, given the instruction that the step executes
* `after_add` — steps may be counted from any point of a run
* `after_induction`, `after_of_forall_step` — from one step to a whole run
-/

namespace CellMachine.Session

variable {κ : Type}

/-! ## Views -/

/-- The cells of the program. -/
abbrev cells (s : Session κ) : Array Cell := s.machine.program.cells

/-- The instruction pointer. -/
abbrev ip (s : Session κ) : Nat := s.machine.program.ip

/-- The registers and the stack. -/
abbrev core (s : Session κ) : Core := s.machine.core

/-- The stack, its top first. -/
abbrev stack (s : Session κ) : List Cell := s.machine.core.stack

/-- The next step executes the instruction. -/
abbrev Executes (s : Session κ) (i : Instruction) : Prop := s.machine.Executes i

variable [Console κ]

/-- The next step leaves the machine running. -/
def Completes (s : Session κ) : Prop := s.step.1 = .ok .running

/-! ## One step -/

/-- The session after one step. -/
def next (s : Session κ) : Session κ := s.step.2

/-- A step answers and leaves the next session. -/
theorem step_eq {s : Session κ} {answer : Except Fault Status} (h : s.step.1 = answer) :
    s.step = (answer, s.next) :=
  Prod.ext h rfl

theorem machine_next (s : Session κ) : s.next.machine = (s.machine.step s.console).machine := rfl

theorem console_next (s : Session κ) : s.next.console = (s.machine.step s.console).console := rfl

variable {s : Session κ}

/-- What has stopped stays as it is, the log included. -/
theorem next_of_ne_running (h : s.machine.status ≠ .running) : s.next = s := by
  obtain ⟨machine, console, log⟩ := s
  simp only [next, step, Machine.step_of_ne_running h, Array.appendList_nil]

theorem not_completes_of_error {fault : Fault} (h : s.step.1 = .error fault) : ¬s.Completes := by
  intro hcompletes
  cases h.symm.trans hcompletes

/-- What has stopped refuses to step. -/
theorem answer_of_ne_running (h : s.machine.status ≠ .running) :
    s.step.1 = .error ⟨s.ip, .machineHalted⟩ :=
  congrArg Transition.result (Machine.step_of_ne_running h s.console)

/-- What a step answers tells how the cycle left the machine. -/
theorem exists_answer (s : Session κ) : ∃ flow : Flow, s.step.1 = flow.answer s.ip := by
  by_cases hs : s.machine.status = .running
  · have hanswer : s.step.1 = _ := congrArg Transition.result (Machine.step_of_running hs)
    exact ⟨_, hanswer.trans Machine.settle_result⟩
  · exact ⟨.fail .machineHalted, answer_of_ne_running hs⟩

theorem next_of_executes {i : Instruction} (h : s.Executes i) :
    s.next.machine =
      (s.machine.settle (s.machine.effect s.console i) (s.machine.traced i)).machine := by
  rw [machine_next, Machine.step_of_executes h]

theorem console_next_of_executes {i : Instruction} (h : s.Executes i) :
    s.next.console = (s.machine.effect s.console i).console := by
  rw [console_next, Machine.step_of_executes h, Machine.settle_console]

/-- What a step answers that executes an instruction. -/
theorem answer_of_executes {i : Instruction} (h : s.Executes i) :
    s.step.1 = (s.machine.effect s.console i).flow.answer s.ip := by
  show (s.machine.step s.console).result = _
  rw [Machine.step_of_executes h, Machine.settle_result]

theorem completes_iff_of_executes {i : Instruction} (h : s.Executes i) :
    s.Completes ↔ (s.machine.effect s.console i).flow = .next := by
  show (s.machine.step s.console).result = .ok .running ↔ _
  rw [Machine.step_of_executes h, Machine.settle_result_eq_running_iff]

theorem Completes.executes (h : s.Completes) : ∃ i, s.Executes i := by
  obtain ⟨i, hi, -⟩ := Machine.executes_of_running h
  exact ⟨i, hi⟩

/-- A step completes if it leaves the machine in the status `running`. -/
theorem completes_iff_status_next : s.Completes ↔ s.next.machine.status = .running := by
  by_cases hs : s.machine.status = .running
  · show (s.machine.step s.console).result = _ ↔ _
    rw [machine_next, Machine.step_of_running hs, Machine.settle_result_eq_running_iff,
      Machine.settle_status_eq_running_iff]
  · rw [next_of_ne_running hs]
    exact iff_of_false (not_completes_of_error (answer_of_ne_running hs)) hs

/-- A step that executes no instruction leaves the cells, the core and the console alone. -/
theorem next_of_not_executes (h : ∀ i, ¬s.Executes i) :
    s.next.cells = s.cells ∧ s.next.core = s.core ∧ s.next.console = s.console := by
  by_cases hs : s.machine.status = .running
  · rcases s.machine.step_cases s.console hs with ⟨e, -, heq⟩ | ⟨f, e, -, -, heq⟩ | ⟨i, hi, -⟩
    · simp only [cells, core, machine_next, console_next, heq, Machine.settle_program,
        Machine.settle_core, Machine.settle_console, and_self]
    · simp only [cells, core, machine_next, console_next, heq, Machine.settle_program,
        Machine.settle_core, Machine.settle_console, Program.cells_jump, and_self]
    · exact absurd hi (h i)
  · rw [next_of_ne_running hs]
    exact ⟨rfl, rfl, rfl⟩

theorem settings_next (s : Session κ) : s.next.machine.settings = s.machine.settings := by
  by_cases h : s.machine.status = .running
  · rw [machine_next, Machine.step_of_running h, Machine.settle_settings]
  · rw [next_of_ne_running h]

/-- **A step leaves the instruction pointer alone, moves it on within the program, or jumps.** -/
theorem ip_next_cases (s : Session κ) :
    s.next.ip = s.ip ∨ s.next.ip ≤ s.cells.size ∨
      ∃ i, s.Executes i ∧ ∃ a ∈ i.target? s.core, s.next.ip = a.toNat := by
  by_cases hs : s.machine.status = .running
  · rcases s.machine.step_cases s.console hs with ⟨e, -, heq⟩ | ⟨f, e, hf, -, heq⟩ | ⟨i, hi, heq⟩
    · refine Or.inl ?_
      rw [ip, machine_next, heq, Machine.settle_program]
    · refine Or.inr (Or.inl ?_)
      rw [ip, machine_next, heq, Machine.settle_program, Program.ip_jump]
      exact (Program.peek_eq_ok_iff.mp hf).2.2.1
    · rw [ip, machine_next, heq, Machine.settle_program, Machine.effect]
      rcases ip_execute_cases s.machine.settings.endOfInput
        (s.machine.program.jump (s.ip + 1 + i.opcode.arity)) s.core s.console i with hon | hjump
      · refine Or.inr (Or.inl ?_)
        rw [hon]
        exact hi.2.next_le
      · exact Or.inr (Or.inr ⟨i, hi, hjump⟩)
  · refine Or.inl ?_
    rw [next_of_ne_running hs]

/-- **A step leaves the console alone, reads a character from it, or writes one to it.** -/
theorem console_next_cases (s : Session κ) :
    s.next.console = s.console ∨
      (∃ dst, s.Executes (.input dst) ∧ s.next.console = (Console.read s.console).2) ∨
      ∃ x c, s.Executes (.output x) ∧ charOfCell? (s.core.value x) = some c ∧
        s.next.console = (Console.write c s.console).2 := by
  by_cases h : ∃ i, s.Executes i
  · obtain ⟨i, hi⟩ := h
    rw [console_next_of_executes hi, Machine.effect, console_execute]
    cases i with
    | output x =>
      cases hc : charOfCell? (s.core.value x) with
      | none =>
        refine Or.inl ?_
        simp only [hc]
      | some c =>
        refine Or.inr (Or.inr ⟨x, c, hi, hc, ?_⟩)
        simp only [hc]
    | input dst => exact Or.inr (Or.inl ⟨dst, hi, rfl⟩)
    | _ => exact Or.inl rfl
  · exact Or.inl (next_of_not_executes (not_exists.mp h)).2.2

/-! ## Many steps -/

/-- A history of what some of the steps do, with one step more. -/
theorem filterMap_range_succ {α : Type} (f : Nat → Option α) (n : Nat) :
    (List.range (n + 1)).filterMap f = (List.range n).filterMap f ++ (f n).toList := by
  rw [List.range_succ, List.filterMap_append]
  cases h : f n <;> simp [h]

/-- The session after `n` steps. -/
def after (s : Session κ) : Nat → Session κ
  | 0 => s
  | n + 1 => (s.after n).next

@[simp] theorem after_zero (s : Session κ) : s.after 0 = s := rfl

theorem after_succ (s : Session κ) (n : Nat) : s.after (n + 1) = (s.after n).next := rfl

theorem after_add (s : Session κ) (m n : Nat) : s.after (m + n) = (s.after m).after n := by
  induction n with
  | zero => rfl
  | succ n ih => rw [← Nat.add_assoc, after_succ, ih, after_succ]

/-- The first step of a run is the first of the steps. -/
theorem after_succ_eq_after_next (s : Session κ) (n : Nat) : s.after (n + 1) = s.next.after n := by
  rw [Nat.add_comm, after_add]
  rfl

/-- What a step preserves, a run preserves. -/
theorem after_induction {P : Session κ → Prop} (hstep : ∀ s, P s → P s.next) (h : P s) (n : Nat) :
    P (s.after n) := by
  induction n with
  | zero => exact h
  | succ n ih => exact hstep _ ih

theorem settings_after (s : Session κ) (n : Nat) :
    (s.after n).machine.settings = s.machine.settings :=
  after_induction (P := fun t => t.machine.settings = s.machine.settings)
    (fun t ht => (settings_next t).trans ht) rfl n

/-- A map of sessions that goes along with each of the first steps goes along with the run. -/
theorem after_of_forall_step {κ' : Type} [Console κ'] (f : Session κ → Session κ') {n : Nat}
    (h : ∀ i < n, (f (s.after i)).step = ((s.after i).step.1, f (s.after i).next)) :
    (f s).after n = f (s.after n) ∧ ∀ i < n, ((f s).after i).step.1 = (s.after i).step.1 := by
  induction n with
  | zero => exact ⟨rfl, nofun⟩
  | succ n ih =>
    obtain ⟨hafter, hanswers⟩ := ih fun i hi => h i (Nat.lt_succ_of_lt hi)
    have hstep := h n (Nat.lt_succ_self n)
    rw [← hafter] at hstep
    refine ⟨?_, Nat.forall_lt_succ_right.mpr ⟨hanswers, ?_⟩⟩
    · rw [after_succ, next, hstep, after_succ]
    · rw [hstep]

/-- What has stopped stays as it is, however many steps it is asked to make. -/
theorem after_of_ne_running (h : s.machine.status ≠ .running) (n : Nat) : s.after n = s := by
  induction n with
  | zero => rfl
  | succ n ih => rw [after_succ, ih, next_of_ne_running h]

theorem after_of_le_of_ne_running {k n : Nat} (h : (s.after k).machine.status ≠ .running)
    (hn : k ≤ n) : s.after n = s.after k := by
  obtain ⟨m, rfl⟩ := Nat.exists_eq_add_of_le hn
  rw [after_add, after_of_ne_running h]

end CellMachine.Session
