import CellMachine.Console.Terminal
import CellMachine.Proofs.Run
import Mathlib.Data.Nat.Find

/-!
# What the policy at the end of the input has an influence on

The policy decides how an `in` ends that finds no character left, and nothing before. So two runs
under different policies are the same until such an `in`, which is the last instruction of both: it
fails in one and halts the other. Then the machines hold the same, and have stopped.

## Main statements

* `execute_policy`, `execute_input_of_end` — an instruction under another policy
* `Session.step_withPolicy`, `Session.after_withPolicy` — a step and a run under another policy
* `Session.parted_of_findsEnd` — the step at which two runs part
* `Session.policy_decides_at_end` — two runs over any number of steps
-/

namespace CellMachine

/-! ## Executing -/

/-- What comes after an `in` that finds no character left. -/
def EndOfInput.flow : EndOfInput → Flow
  | .fail => .fail .inputExhausted
  | .halt => .halt .endOfInput

section Execute

variable {κ : Type} [Console κ] {policy : EndOfInput} {p : Program} {core : Core} {console : κ}

/-- An `in` that finds no character left. -/
theorem execute_input_of_end {dst : Register} (h : (Console.read console).1 = .ok none) :
    execute policy p core console (.input dst) =
      ⟨policy.flow, p, core, (Console.read console).2⟩ := by
  simp only [execute]
  generalize Console.read console = answer at h ⊢
  obtain ⟨read, left⟩ := answer
  obtain rfl : read = .ok none := h
  cases policy <;> rfl

/-- **Every other instruction is the same under another policy.** -/
theorem execute_policy {i : Instruction}
    (h : ∀ dst, i = .input dst → (Console.read console).1 ≠ .ok none) (policy' : EndOfInput) :
    execute policy' p core console i = execute policy p core console i := by
  cases i with
  | input dst =>
    have hchar := h dst rfl
    simp only [execute]
    generalize Console.read console = answer at hchar ⊢
    obtain ⟨cause | _ | c, left⟩ := answer
    · rfl
    · exact absurd rfl hchar
    · rfl
  | _ => rfl

end Execute

/-! ## One step -/

namespace Machine

/-- The machine under another policy. -/
def withPolicy (m : Machine) (policy : EndOfInput) : Machine :=
  { m with settings := { m.settings with endOfInput := policy } }

variable {κ : Type} {m : Machine} {policy : EndOfInput}

theorem settle_withPolicy (left : Effect κ) (events : List Event) :
    (m.withPolicy policy).settle left events =
      { m.settle left events with
        machine := (m.settle left events).machine.withPolicy policy } := by
  unfold settle
  cases left.flow <;> rfl

variable [Console κ] {console : κ}

theorem cycle_policy {settings : Settings} {p : Program} {core : Core}
    (h : ∀ dst, p.At (.input dst) → (Console.read console).1 ≠ .ok none) :
    cycle { settings with endOfInput := policy } p core console =
      cycle settings p core console := by
  cases hpeek : p.peek with
  | error e => rw [cycle_of_peek_error hpeek, cycle_of_peek_error hpeek]
  | ok f =>
    rw [cycle_of_peek_ok hpeek, cycle_of_peek_ok hpeek]
    cases hdecode : Instruction.decode f.opcode f.operands with
    | error e => rfl
    | ok i =>
      have hexecute : execute policy (p.jump f.next) core console i =
          execute settings.endOfInput (p.jump f.next) core console i := by
        refine execute_policy ?_ policy
        rintro dst rfl
        exact h dst (Program.at_of_decode hpeek hdecode).2
      simp only [hexecute]

/-- **A step is the same under another policy**, unless it finds the end of the input. -/
theorem step_withPolicy
    (h : ∀ dst, m.Executes (.input dst) → (Console.read console).1 ≠ .ok none) :
    (m.withPolicy policy).step console =
      { m.step console with machine := (m.step console).machine.withPolicy policy } := by
  by_cases hm : m.status = .running
  · have hcycle : cycle (m.withPolicy policy).settings m.program m.core console =
        cycle m.settings m.program m.core console :=
      cycle_policy fun dst hat => h dst ⟨hm, hat⟩
    have hm' : (m.withPolicy policy).status = .running := hm
    rw [step_of_running hm, step_of_running hm', ← settle_withPolicy, ← hcycle]
    rfl
  · have hm' : (m.withPolicy policy).status ≠ .running := hm
    rw [step_of_ne_running hm, step_of_ne_running hm']
    rfl

/-- What an `in` leaves behind that finds the end of the input. -/
theorem effect_of_end {dst : Register} (h : (Console.read console).1 = .ok none) :
    m.effect console (.input dst) =
      ⟨m.settings.endOfInput.flow, m.program.jump (m.program.ip + 2), m.core,
        (Console.read console).2⟩ :=
  execute_input_of_end h

end Machine

namespace Session

variable {κ : Type}

/-- The session under another policy. -/
def withPolicy (s : Session κ) (policy : EndOfInput) : Session κ :=
  { s with machine := s.machine.withPolicy policy }

/-- Two sessions that have stopped at the end of the input, one by a failure and one by a halt, and
differ in nothing else that a step or its console could tell. -/
structure Parted (s t : Session κ) : Prop where
  failed : s.machine.status = .faulted
  halted : t.machine.status = .halted .endOfInput
  cells : t.cells = s.cells
  registers : t.core.registers = s.core.registers
  stack : t.stack = s.stack
  ip : t.ip = s.ip
  cycles : t.machine.cycles = s.machine.cycles
  console : t.console = s.console

theorem Parted.stopped {s t : Session κ} (h : s.Parted t) :
    s.machine.status ≠ .running ∧ t.machine.status ≠ .running := by
  rw [h.failed, h.halted]
  exact ⟨nofun, nofun⟩

variable [Console κ]

/-- The next step is an `in` that finds no character left. -/
def FindsEnd (s : Session κ) : Prop :=
  (∃ dst, s.Executes (.input dst)) ∧ (Console.read s.console).1 = .ok none

variable {s : Session κ} {policy : EndOfInput}

theorem step_withPolicy (h : ¬s.FindsEnd) :
    (s.withPolicy policy).step = (s.step.1, s.next.withPolicy policy) := by
  have hchar (dst : Register) (hi : s.machine.Executes (.input dst)) :
      (Console.read s.console).1 ≠ .ok none := fun hend => h ⟨⟨dst, hi⟩, hend⟩
  simp only [step, next, withPolicy, Machine.step_withPolicy hchar]

/-- Both refuse to step, with the same address. -/
theorem Parted.refused {t : Session κ} (h : s.Parted t) :
    s.step.1 = .error ⟨s.ip, .machineHalted⟩ ∧ t.step.1 = .error ⟨s.ip, .machineHalted⟩ := by
  rw [answer_of_ne_running h.stopped.1, answer_of_ne_running h.stopped.2, h.ip]
  exact ⟨rfl, rfl⟩

/-- **The step at which two runs part.** -/
theorem parted_of_findsEnd (hfail : s.machine.settings.endOfInput = .fail) (h : s.FindsEnd) :
    s.step.1 = .error ⟨s.ip, .inputExhausted⟩ ∧
      (s.withPolicy .halt).step.1 = .ok (.halted .endOfInput) ∧
      s.next.Parted (s.withPolicy .halt).next := by
  obtain ⟨⟨dst, hi⟩, hend⟩ := h
  have hi' : (s.withPolicy .halt).Executes (.input dst) := hi
  have hend' : (Console.read (s.withPolicy .halt).console).1 = .ok none := hend
  refine ⟨?_, ?_, ?_⟩
  · rw [answer_of_executes hi, Machine.effect_of_end hend, hfail]
    rfl
  · rw [answer_of_executes hi', Machine.effect_of_end hend']
    rfl
  · have hnext := next_of_executes hi
    have hconsole := console_next_of_executes hi
    have hnext' := next_of_executes hi'
    have hconsole' := console_next_of_executes hi'
    rw [Machine.effect_of_end hend] at hnext hconsole
    rw [Machine.effect_of_end hend'] at hnext' hconsole'
    rw [hfail] at hnext
    constructor
    · rw [hnext]; rfl
    · rw [hnext']; rfl
    · rw [cells, cells, hnext, hnext']; rfl
    · rw [core, core, hnext, hnext']; rfl
    · rw [stack, stack, hnext, hnext']; rfl
    · rw [ip, ip, hnext, hnext']; rfl
    · rw [hnext, hnext']; rfl
    · rw [hconsole, hconsole']; rfl

/-! ## Many steps -/

theorem after_withPolicy {n : Nat} (h : ∀ i < n, ¬(s.after i).FindsEnd) :
    (s.withPolicy policy).after n = (s.after n).withPolicy policy ∧
      ∀ i < n, ((s.withPolicy policy).after i).step.1 = (s.after i).step.1 :=
  after_of_forall_step (·.withPolicy policy) fun i hi => step_withPolicy (h i hi)

/-- The runs from two sessions are the same over `n` steps, but for the policy of the second. -/
structure SameFor (s t : Session κ) (n : Nat) (policy : EndOfInput) : Prop where
  answer : ∀ i < n, (t.after i).step.1 = (s.after i).step.1
  after : ∀ i ≤ n, t.after i = (s.after i).withPolicy policy

/-- The runs from two sessions part at the step after the first `k`, and have stopped then. -/
structure PartAfter (s t : Session κ) (k : Nat) : Prop where
  /-- It is the first step that finds no character left. -/
  findsEnd : (s.after k).FindsEnd
  not_before : ∀ i < k, ¬(s.after i).FindsEnd
  same : s.SameFor t k .halt
  failure : (s.after k).step.1 = .error ⟨(s.after k).ip, .inputExhausted⟩
  halt : (t.after k).step.1 = .ok (.halted .endOfInput)
  parted : ∀ i > k, (s.after i).Parted (t.after i)
  /-- Both machines refuse to step, with the same address. -/
  refused : ∀ i > k, (s.after i).step.1 = .error ⟨(s.after i).ip, .machineHalted⟩ ∧
    (t.after i).step.1 = .error ⟨(s.after i).ip, .machineHalted⟩

theorem sameFor_withPolicy {n : Nat} (h : ∀ i < n, ¬(s.after i).FindsEnd) :
    s.SameFor (s.withPolicy policy) n policy where
  answer := (after_withPolicy h).2
  after _ hi := (after_withPolicy fun j hj => h j (Nat.lt_of_lt_of_le hj hi)).1

theorem partAfter_withPolicy (hfail : s.machine.settings.endOfInput = .fail) {k : Nat}
    (hbefore : ∀ i < k, ¬(s.after i).FindsEnd) (h : (s.after k).FindsEnd) :
    s.PartAfter (s.withPolicy .halt) k := by
  have hsame : s.SameFor (s.withPolicy .halt) k .halt := sameFor_withPolicy hbefore
  have hfail' : (s.after k).machine.settings.endOfInput = .fail := by rw [settings_after, hfail]
  obtain ⟨hfailure, hhalt, hparted⟩ := parted_of_findsEnd hfail' h
  rw [← hsame.after k (Nat.le_refl k)] at hhalt hparted
  rw [← after_succ, ← after_succ] at hparted
  have hparts (i : Nat) (hi : k < i) : (s.after i).Parted ((s.withPolicy .halt).after i) := by
    -- nothing changes after the step at which the runs part
    rw [after_of_le_of_ne_running hparted.stopped.1 hi,
      after_of_le_of_ne_running hparted.stopped.2 hi]
    exact hparted
  exact ⟨h, hbefore, hsame, hfailure, hhalt, hparts, fun i hi => (hparts i hi).refused⟩

/-- **The policy decides at the end of the input, and nowhere else.** From the image on, the runs
under the two policies are the same, or they part at a step that finds no character left. -/
theorem policy_decides_at_end (trace : Trace) (image : List UInt8) (console : κ) (n : Nat) :
    let s := start ⟨trace, .fail⟩ (.ofImage image) console
    let t := start ⟨trace, .halt⟩ (.ofImage image) console
    (∀ i < n, ¬(s.after i).FindsEnd) ∧ s.SameFor t n .halt ∨ ∃ k < n, s.PartAfter t k := by
  intro s t
  classical
  by_cases h : ∃ k, k < n ∧ (s.after k).FindsEnd
  · obtain ⟨hk, hend⟩ := Nat.find_spec h
    have hbefore (i : Nat) (hi : i < Nat.find h) : ¬(s.after i).FindsEnd := fun hfinds =>
      Nat.find_min h hi ⟨Nat.lt_trans hi hk, hfinds⟩
    exact Or.inr ⟨Nat.find h, hk, partAfter_withPolicy rfl hbefore hend⟩
  · have hnone (i : Nat) (hi : i < n) : ¬(s.after i).FindsEnd := fun hfinds => h ⟨i, hi, hfinds⟩
    exact Or.inl ⟨hnone, sameFor_withPolicy hnone⟩

/-- An `in` after one other instruction, with nothing to read: the runs part at the second step. -/
theorem policy_decides_at_end_nothing_to_read :
    let image := Image.encode [21, 20, 32768]
    let console : Terminal := ⟨.ofBytes [], .empty none⟩
    let s := start ⟨.off, .fail⟩ (.ofImage image) console
    let t := start ⟨.off, .halt⟩ (.ofImage image) console
    s.PartAfter t 1 ∧ (s.after 1).step.1 = .error ⟨1, .inputExhausted⟩ ∧
      (t.after 1).step.1 = .ok (.halted .endOfInput) ∧ (t.after 2).cells = (s.after 2).cells ∧
      (t.after 2).step.1 = .error ⟨3, .machineHalted⟩ := by
  intro image console s t
  have hnoop : (s.after 0).Executes .noop := by decide +kernel
  have hinput : (s.after 1).Executes (.input ⟨0⟩) := by decide +kernel
  have hend : (s.after 1).FindsEnd := ⟨⟨⟨0⟩, hinput⟩, rfl⟩
  have hpart : s.PartAfter t 1 := by
    rcases policy_decides_at_end .off image console 3 with ⟨hnever, -⟩ | ⟨k, hk, hpart⟩
    · exact absurd hend (hnever 1 (by decide))
    · obtain rfl | rfl | rfl : k = 0 ∨ k = 1 ∨ k = 2 := by omega
      · obtain ⟨⟨dst, hexec⟩, -⟩ := hpart.findsEnd
        cases hnoop.unique hexec
      · exact hpart
      · exact absurd hend (hpart.not_before 1 (by decide))
  have hip : (s.after 1).ip = 1 := by decide +kernel
  have hip' : (s.after 2).ip = 3 := by decide +kernel
  refine ⟨hpart, hip ▸ hpart.failure, hpart.halt, (hpart.parted 2 (by decide)).cells, ?_⟩
  exact hip' ▸ (hpart.refused 2 (by decide)).2

end Session

end CellMachine
