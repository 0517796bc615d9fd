import CellMachine.Proofs.Loop

/-!
# What tracing has an influence on

Which instructions are traced has an influence on the log and on nothing else. A run under any trace
setting is the run that traces everything, with the reports left out that the setting does not ask
for; so two runs under different settings go the same way, step by step.

## Main statements

* `Machine.step_withTrace` — a step under another setting
* `Session.after_withTrace` — a run under another setting
* `Session.run_withTrace`, `Session.exists_run_iff_of_trace` — a whole run under another setting
* `Session.tracing_observes` — what two runs have in common, and how their logs differ
-/

namespace CellMachine

/-! ## Reports of instructions -/

/-- The opcode of the instruction that is reported, if it is one. -/
def Event.opcode? : Event → Option Opcode
  | .exec fetched _ => some fetched.opcode
  | .halted .. | .faulted .. => none

/-- Whether a setting asks for a report. How the machine stops is always reported. -/
def Trace.shows (trace : Trace) (event : Event) : Bool := event.opcode?.all trace.covers

theorem Trace.filter_shows_exec (trace : Trace) (fetched : Fetched) (core : Core) :
    [Event.exec fetched core].filter trace.shows =
      if trace.covers fetched.opcode then [.exec fetched core] else [] := by
  rw [List.filter_cons, List.filter_nil]
  rfl

theorem Trace.shows_only (ops : List Opcode) :
    (Trace.only ops).shows = fun event => event.opcode?.all fun op => op ∈ ops := by
  have hcovers : (Trace.only ops).covers = fun op => decide (op ∈ ops) := by
    funext op
    exact List.contains_eq_mem op ops
  funext event
  rw [shows, hcovers]

theorem Trace.shows_off : Trace.off.shows = (·.opcode?.isNone) := by
  funext event
  cases event <;> rfl

/-- How the machine has stopped is reported under every setting. -/
theorem Trace.isNone_and_shows (trace : Trace) :
    (fun event : Event => event.opcode?.isNone && trace.shows event) =
      fun event => event.opcode?.isNone := by
  funext event
  cases event <;> rfl

/-! ## One step -/

namespace Machine

/-- The machine under another trace setting. -/
def withTrace (m : Machine) (trace : Trace) : Machine :=
  { m with settings := { m.settings with trace } }

variable {κ : Type} {trace : Trace}

theorem settle_withTrace (m : Machine) (left : Effect κ) (events : List Event) :
    (m.withTrace trace).settle left (events.filter trace.shows) =
      ⟨(m.settle left events).result, (m.settle left events).machine.withTrace trace,
        (m.settle left events).console, (m.settle left events).events.filter trace.shows⟩ := by
  unfold settle
  cases left.flow with
  | next => rfl
  | halt reason =>
    simp only [List.filter_append, withTrace, Transition.mk.injEq, true_and]
    rfl
  | fail error =>
    simp only [List.filter_append, withTrace, Transition.mk.injEq, true_and]
    rfl

variable [Console κ]

theorem cycle_withTrace {settings : Settings} (h : settings.trace = .all) (p : Program)
    (core : Core) (console : κ) :
    cycle { settings with trace } p core console =
      ((cycle settings p core console).1,
        (cycle settings p core console).2.filter trace.shows) := by
  cases hpeek : p.peek with
  | error e =>
    rw [cycle_of_peek_error hpeek, cycle_of_peek_error hpeek]
    rfl
  | ok f =>
    rw [cycle_of_peek_ok hpeek, cycle_of_peek_ok hpeek]
    cases Instruction.decode f.opcode f.operands with
    | error e => rfl
    | ok i =>
      have hall : settings.trace.covers f.opcode = true := by rw [h]; rfl
      simp only [hall, if_true, Trace.filter_shows_exec]

/-- **A step under another setting** is the step under the setting that traces everything, but for
what it reports. -/
theorem step_withTrace {m : Machine} (h : m.settings.trace = .all) (console : κ) :
    (m.withTrace trace).step console =
      ⟨(m.step console).result, (m.step console).machine.withTrace trace,
        (m.step console).console, (m.step console).events.filter trace.shows⟩ := by
  by_cases hm : m.status = .running
  · have hcycle : cycle (m.withTrace trace).settings (m.withTrace trace).program
        (m.withTrace trace).core console =
          ((cycle m.settings m.program m.core console).1,
            (cycle m.settings m.program m.core console).2.filter trace.shows) :=
      cycle_withTrace h m.program m.core console
    rw [step_of_running hm, step_of_running (m := m.withTrace trace) hm, hcycle, settle_withTrace]
  · rw [step_of_ne_running hm, step_of_ne_running (m := m.withTrace trace) hm]
    rfl

end Machine

/-! ## Many steps -/

namespace Session

variable {κ : Type}

/-- The session as it would be under another trace setting, if it has traced everything. -/
def withTrace (s : Session κ) (trace : Trace) : Session κ :=
  ⟨s.machine.withTrace trace, s.console, s.log.filter trace.shows⟩

variable [Console κ] {s : Session κ} {trace : Trace}

theorem step_withTrace (h : s.machine.settings.trace = .all) :
    (s.withTrace trace).step = (s.step.1, s.next.withTrace trace) := by
  obtain ⟨machine, console, log⟩ := s
  have hlog (events : List Event) :
      log.filter trace.shows ++ events.filter trace.shows = (log ++ events).filter trace.shows := by
    apply Array.toList_inj.mp
    simp only [Array.toList_appendList, Array.toList_filter, List.filter_append]
  simp only [step, next, withTrace, Machine.step_withTrace h, hlog]

/-- **A run under another setting** is the run under the setting that traces everything, with the
reports left out that are not asked for. -/
theorem after_withTrace (h : s.machine.settings.trace = .all) (n : Nat) :
    (s.withTrace trace).after n = (s.after n).withTrace trace := by
  have hall (i : Nat) : (s.after i).machine.settings.trace = .all := by rw [settings_after, h]
  exact (after_of_forall_step (·.withTrace trace) fun i _ => step_withTrace (hall i)).1

/-- **A whole run under another setting** ends as the run under the setting that traces everything,
but for its log. -/
theorem run_withTrace {result : Except Fault Halt} {t : Session κ}
    (h : s.machine.settings.trace = .all) (trace : Trace) :
    (s.withTrace trace).run = some (result, t) ↔
      ∃ u, s.run = some (result, u) ∧ u.withTrace trace = t := by
  have hall (n : Nat) : (s.after n).machine.settings.trace = .all := by rw [settings_after, h]
  have hstep (n : Nat) : ((s.withTrace trace).after n).step =
      ((s.after n).step.1, (s.after n).next.withTrace trace) := by
    rw [after_withTrace h, step_withTrace (hall n)]
  have hcompletes (n : Nat) : ((s.withTrace trace).after n).Completes ↔ (s.after n).Completes := by
    rw [Completes, Completes, hstep]
  simp only [run_eq_some_iff, hcompletes, hstep]
  constructor
  · rintro ⟨n, hbefore, hlast⟩
    obtain ⟨hanswer, rfl⟩ := Prod.mk.inj hlast
    exact ⟨(s.after n).next, ⟨n, hbefore, step_eq hanswer⟩, rfl⟩
  · rintro ⟨u, ⟨n, hbefore, hlast⟩, rfl⟩
    refine ⟨n, hbefore, ?_⟩
    rw [next, hlast]

/-- Two runs that differ in what is traced end in the same way, before the same console. -/
theorem exists_run_iff_of_trace {result : Except Fault Halt} (endOfInput : EndOfInput)
    (p : Program) (console : κ) (P : κ → Prop) (t₁ t₂ : Trace) :
    (∃ u, (start ⟨t₁, endOfInput⟩ p console).run = some (result, u) ∧ P u.console) ↔
      ∃ u, (start ⟨t₂, endOfInput⟩ p console).run = some (result, u) ∧ P u.console := by
  have hstart (trace : Trace) : start ⟨trace, endOfInput⟩ p console =
      (start ⟨.all, endOfInput⟩ p console).withTrace trace := rfl
  have hrun (trace : Trace) :
      (∃ u, (start ⟨trace, endOfInput⟩ p console).run = some (result, u) ∧ P u.console) ↔
        ∃ u, (start ⟨.all, endOfInput⟩ p console).run = some (result, u) ∧ P u.console := by
    simp only [hstart trace, run_withTrace (s := start ⟨.all, endOfInput⟩ p console) rfl]
    constructor
    · rintro ⟨_, ⟨u, hu, rfl⟩, hP⟩
      exact ⟨u, hu, hP⟩
    · rintro ⟨u, hu, hP⟩
      exact ⟨_, ⟨u, hu, rfl⟩, hP⟩
  rw [hrun t₁, hrun t₂]

/-- Two sessions that differ in their logs, and perhaps in what they trace. -/
structure Alike (s t : Session κ) : Prop where
  /-- The next step has the same answer. -/
  answer : s.step.1 = t.step.1
  status : s.machine.status = t.machine.status
  cells : s.cells = t.cells
  ip : s.ip = t.ip
  registers : s.core.registers = t.core.registers
  stack : s.stack = t.stack
  cycles : s.machine.cycles = t.machine.cycles
  console : s.console = t.console

theorem alike_withTrace (h : s.machine.settings.trace = .all) (t₁ t₂ : Trace) :
    (s.withTrace t₁).Alike (s.withTrace t₂) where
  answer := by rw [step_withTrace h, step_withTrace h]
  status := rfl
  cells := rfl
  ip := rfl
  registers := rfl
  stack := rfl
  cycles := rfl
  console := rfl

/-- **Tracing observes and does not act.** Runs under any two settings are alike after any number of
steps, and their logs are the log of everything without the reports that are not asked for. -/
theorem tracing_observes (endOfInput : EndOfInput) (image : List UInt8) (console : κ) (n : Nat) :
    let run (trace : Trace) := (start ⟨trace, endOfInput⟩ (.ofImage image) console).after n
    (∀ t₁ t₂, (run t₁).Alike (run t₂)) ∧
      (∀ ops, (run (.only ops)).log =
        (run .all).log.filter fun event => event.opcode?.all fun op => op ∈ ops) ∧
      (∀ ops ops', (∀ op, op ∈ ops ↔ op ∈ ops') →
        (run (.only ops)).log = (run (.only ops')).log) ∧
      (run .off).log = (run .all).log.filter (·.opcode?.isNone) ∧
      ∀ t₁ t₂, (run t₁).log.filter (·.opcode?.isNone) = (run t₂).log.filter (·.opcode?.isNone) := by
  intro run
  have hrun (trace : Trace) : run trace = (run .all).withTrace trace :=
    after_withTrace (s := start ⟨.all, endOfInput⟩ (.ofImage image) console) rfl n
  have hall : (run .all).machine.settings.trace = .all := by
    show ((start _ _ _).after n).machine.settings.trace = _
    rw [settings_after]
    rfl
  have hlog (trace : Trace) : (run trace).log = (run .all).log.filter trace.shows := by
    rw [hrun]
    rfl
  generalize run .all = s at *
  refine ⟨?_, ?_, ?_, ?_, ?_⟩
  · intro t₁ t₂
    rw [hrun t₁, hrun t₂]
    exact alike_withTrace hall t₁ t₂
  · intro ops
    rw [hlog, Trace.shows_only]
  · intro ops ops' hops
    rw [hlog, hlog, Trace.shows_only, Trace.shows_only]
    simp only [hops]
  · rw [hlog, Trace.shows_off]
  · intro t₁ t₂
    rw [hlog, hlog t₂, Array.filter_filter, Array.filter_filter, Trace.isNone_and_shows,
      Trace.isNone_and_shows]

/-- A run of two instructions, of which one is traced, whichever way the opcodes to trace are
listed. -/
theorem tracing_observes_noop :
    let run (ops : List Opcode) := (start ⟨.only ops, .fail⟩ (.ofImage [21, 0, 0, 0])
      (⟨.ofBytes [], .empty none⟩ : Terminal)).after 2
    (∀ op, op ∈ [Opcode.noop, .add, .noop] ↔ op ∈ [Opcode.add, .noop]) ∧
      (run [.noop, .add, .noop]).log = (run [.add, .noop]).log ∧
      (run [.add, .noop]).log = #[.exec ⟨0, .noop, []⟩ .initial, .halted 1 2 .instruction] := by
  intro run
  have hops : ∀ op, op ∈ [Opcode.noop, .add, .noop] ↔ op ∈ [Opcode.add, .noop] := by
    intro op
    cases op <;> decide
  obtain ⟨-, -, horder, -⟩ := tracing_observes .fail [21, 0, 0, 0]
    (⟨.ofBytes [], .empty none⟩ : Terminal) 2
  exact ⟨hops, horder _ _ hops, by decide +kernel⟩

end Session

end CellMachine
