import CellMachine.Console.Terminal
import CellMachine.Proofs.Calls
import CellMachine.Proofs.Tracing

/-!
# What a log holds

A step of a running machine reports at most two things: the instruction that it executes, with all
that the machine holds before, and how it has stopped, with the count of the steps until then. The
log is made of these reports, step by step, and nothing is reported twice or out of order.

So the reports of instructions in a log of everything are as many as the steps, but for a last one
that found no instruction. What has stopped says so in the last line, and what runs has not said so.

## Main statements

* `execReport?_eq_some_iff`, `stopReport?_eq_none_iff` — which steps report what
* `log_next`, `log_after` — the log after one step and after many
* `execs_log_after` — how many instructions have been reported, where all are
* `log_accounts` — all of this from the image on
-/

namespace CellMachine

/-- What is reported of the end of a step that began at an address and is the last of so many. -/
def Flow.report (address cycles : Nat) : Flow → List Event
  | .next => []
  | .halt reason => [.halted address cycles reason]
  | .fail error => [.faulted address cycles error]

theorem Machine.settle_events {κ : Type} (m : Machine) (left : Effect κ) (events : List Event) :
    (m.settle left events).events = events ++ left.flow.report m.program.ip (m.cycles + 1) := by
  unfold settle
  cases left.flow with
  | next => exact (List.append_nil events).symm
  | halt | fail => rfl

theorem Machine.instruction?_eq_none_iff {m : Machine} :
    m.instruction? = none ↔ ∀ i, ¬m.Executes i := by
  rw [Option.eq_none_iff_forall_ne_some]
  exact forall_congr' fun _ => not_congr instruction?_eq_some_iff

namespace Session

variable {κ : Type}

/-! ## What a step reports -/

/-- The report of the instruction that the next step executes: where it stands, its opcode, the
cells after that, and what the machine holds before the step. -/
def execReport? (s : Session κ) : Option Event :=
  match s.machine.instruction? with
  | none => none
  | some i =>
    if s.machine.settings.trace.covers i.opcode then
      let operands := s.cells.extract (s.ip + 1) (s.ip + 1 + i.opcode.arity)
      some (.exec ⟨s.ip, i.opcode, operands.toList⟩ s.core)
    else none

theorem execReport?_of_executes {s : Session κ} {i : Instruction} (h : s.Executes i) :
    s.execReport?.toList = s.machine.traced i := by
  obtain ⟨-, -, -, hoperands⟩ := Program.peek_eq_ok_iff.mp (Program.at_iff.mp h.2)
  simp only [Fetched.next] at hoperands
  simp only [execReport?, Machine.instruction?_eq_some_iff.mpr h, Machine.traced, hoperands]
  split <;> rfl

theorem execReport?_of_not_executes {s : Session κ} (h : ∀ i, ¬s.Executes i) :
    s.execReport? = none := by
  simp only [execReport?, Machine.instruction?_eq_none_iff.mpr h]

/-- **A step reports an instruction if it can be fetched and decoded and its opcode is covered.** -/
theorem execReport?_eq_some_iff {s : Session κ} {e : Event} (hs : s.machine.status = .running) :
    s.execReport? = some e ↔
      ∃ f q, s.machine.program.fetch = .ok (f, q) ∧ f.address = s.ip ∧
        (∃ i, Instruction.decode f.opcode f.operands = .ok i) ∧
        s.machine.settings.trace.covers f.opcode ∧ e = .exec f s.core := by
  by_cases hi : ∃ i, s.Executes i
  · obtain ⟨i, hi⟩ := hi
    have hpeek := Program.at_iff.mp hi.2
    rw [← Option.mem_toList, execReport?_of_executes hi, Machine.traced]
    constructor
    · intro he
      split at he
      · next hcovers =>
        exact ⟨_, _, Program.fetch_eq_ok_iff.mpr ⟨hpeek, rfl⟩, rfl, ⟨i, i.decode_operandCells⟩,
          hcovers, List.mem_singleton.mp he⟩
      · cases he
    · rintro ⟨f, q, hfetch, -, -, hcovers, rfl⟩
      obtain rfl := Except.ok.inj (hpeek.symm.trans (Program.fetch_eq_ok_iff.mp hfetch).1)
      rw [if_pos hcovers]
      exact List.mem_singleton_self _
  · rw [execReport?_of_not_executes (not_exists.mp hi)]
    refine iff_of_false nofun ?_
    rintro ⟨f, q, hfetch, -, ⟨i, hdecode⟩, -⟩
    exact hi ⟨i, hs, (Program.at_of_decode (Program.fetch_eq_ok_iff.mp hfetch).1 hdecode).2⟩

theorem opcode?_of_execReport? {s : Session κ} {e : Event} (h : s.execReport? = some e) :
    e.opcode?.isSome := by
  unfold execReport? at h
  split at h
  · cases h
  · split at h <;> cases h
    rfl

variable [Console κ]

/-- The report of how the next step stops the machine: where it began, and how many steps have been
made with it. -/
def stopReport? (s : Session κ) : Option Event :=
  match s.step.1 with
  | .ok (.halted reason) => some (.halted s.ip s.next.machine.cycles reason)
  | .error fault => some (.faulted s.ip s.next.machine.cycles fault.error)
  | .ok .running | .ok .faulted => none

/-- What the next step reports. A machine that has stopped reports nothing. -/
def reports (s : Session κ) : List Event :=
  if s.machine.status = .running then s.execReport?.toList ++ s.stopReport?.toList else []

variable {s : Session κ} {e : Event}

/-- **A step reports that it stops the machine unless it leaves it running.** -/
theorem stopReport?_eq_none_iff : s.stopReport? = none ↔ s.Completes := by
  obtain ⟨flow, hanswer⟩ := exists_answer s
  simp only [stopReport?, Completes, hanswer]
  cases flow <;> simp [Flow.answer]

/-- **A step reports a stop if it halts the machine or fails**, and how. -/
theorem stopReport?_eq_some_iff :
    s.stopReport? = some e ↔
      (∃ reason, s.step.1 = .ok (.halted reason) ∧
        e = .halted s.ip s.next.machine.cycles reason) ∨
      ∃ error, s.step.1 = .error ⟨s.ip, error⟩ ∧ e = .faulted s.ip s.next.machine.cycles error := by
  obtain ⟨flow, hanswer⟩ := exists_answer s
  simp only [stopReport?, hanswer]
  cases flow <;> simp [Flow.answer, eq_comm]

theorem opcode?_of_stopReport? (h : s.stopReport? = some e) : e.opcode? = none := by
  unfold stopReport? at h
  split at h <;> cases h <;> rfl

/-! ## The log -/

/-- The reports of a running machine are those of its step, however that is settled. -/
theorem events_eq_reports {left : Effect κ} {traced : List Event} (hs : s.machine.status = .running)
    (hstep : s.machine.step s.console = s.machine.settle left traced)
    (htraced : s.execReport?.toList = traced) :
    (s.machine.step s.console).events = s.reports := by
  have hanswer : s.step.1 = left.flow.answer s.ip := by
    show (s.machine.step s.console).result = _
    rw [hstep, Machine.settle_result]
  have hcycles : s.next.machine.cycles = s.machine.cycles + 1 := by rw [cycles_next, if_pos hs]
  have hstop : s.stopReport?.toList = left.flow.report s.ip (s.machine.cycles + 1) := by
    rw [stopReport?, hanswer, hcycles]
    cases left.flow <;> rfl
  rw [hstep, Machine.settle_events, reports, if_pos hs, htraced, hstop]

/-- **A step adds its reports to the log**, and nothing else. -/
theorem log_next (s : Session κ) : s.next.log.toList = s.log.toList ++ s.reports := by
  by_cases hs : s.machine.status = .running
  · have hlog : s.next.log = s.log ++ (s.machine.step s.console).events := rfl
    rw [hlog, Array.toList_appendList]
    congr 1
    by_cases hi : ∃ i, s.Executes i
    · obtain ⟨i, hi⟩ := hi
      exact events_eq_reports hs (Machine.step_of_executes hi) (execReport?_of_executes hi)
    · have hnone := execReport?_of_not_executes (not_exists.mp hi)
      rcases s.machine.step_cases s.console hs with ⟨e, -, heq⟩ | ⟨f, e, -, -, heq⟩ | ⟨i, hi', -⟩
      · exact events_eq_reports hs heq (by rw [hnone]; rfl)
      · exact events_eq_reports hs heq (by rw [hnone]; rfl)
      · exact absurd ⟨i, hi'⟩ hi
  · rw [next_of_ne_running hs, reports, if_neg hs, List.append_nil]

theorem log_after (s : Session κ) (n : Nat) :
    (s.after n).log.toList =
      s.log.toList ++ (List.range n).flatMap fun i => (s.after i).reports := by
  induction n with
  | zero => exact (List.append_nil _).symm
  | succ n ih =>
    rw [after_succ, log_next, ih, List.range_succ, List.flatMap_append, List.flatMap_singleton,
      List.append_assoc]

/-! ## What is told of the end -/

/-- Nothing in the log tells that the machine has stopped. -/
def OnlyExecs (log : List Event) : Prop := ∀ e ∈ log, e.opcode?.isSome

/-- The log tells that the machine has stopped in its last line, and nowhere else. -/
def EndsWithStop (log : List Event) : Prop :=
  ∃ before e, log = before ++ [e] ∧ OnlyExecs before ∧ e.opcode? = none

theorem EndsWithStop.not_onlyExecs {log : List Event} (h : EndsWithStop log) : ¬OnlyExecs log := by
  obtain ⟨before, e, rfl, -, he⟩ := h
  intro hall
  have hsome := hall e (List.mem_append_right before (List.mem_singleton_self e))
  rw [he] at hsome
  cases hsome

/-- **The log tells of a stop if the machine has stopped**, in its last line. -/
theorem log_after_cases (hs : s.machine.status = .running) (hlog : OnlyExecs s.log.toList)
    (n : Nat) :
    ((s.after n).machine.status = .running → OnlyExecs (s.after n).log.toList) ∧
      ((s.after n).machine.status ≠ .running → EndsWithStop (s.after n).log.toList) := by
  induction n with
  | zero => exact ⟨fun _ => hlog, fun h => absurd hs h⟩
  | succ n ih =>
    by_cases hn : (s.after n).machine.status = .running
    · have hbefore : OnlyExecs ((s.after n).log.toList ++ (s.after n).execReport?.toList) := by
        intro e he
        rcases List.mem_append.mp he with he | he
        · exact ih.1 hn e he
        · exact opcode?_of_execReport? (Option.mem_toList.mp he)
      rw [after_succ, log_next, reports, if_pos hn, ← List.append_assoc, ne_eq,
        ← completes_iff_status_next, ← stopReport?_eq_none_iff]
      cases hstop : (s.after n).stopReport? with
      | none => exact ⟨fun _ => by simpa using hbefore, fun h => absurd rfl h⟩
      | some e =>
        exact ⟨nofun, fun _ => ⟨_, e, rfl, hbefore, opcode?_of_stopReport? hstop⟩⟩
    · rw [after_succ, next_of_ne_running hn]
      exact ih

/-! ## Steps and reports -/

/-- The machine runs, but has no instruction to execute: none can be fetched, or what is fetched
cannot be decoded. -/
def Undecodable (s : Session κ) : Prop :=
  s.machine.status = .running ∧
    ((∃ e, s.machine.program.fetch = .error e) ∨
      ∃ f q e, s.machine.program.fetch = .ok (f, q) ∧
        Instruction.decode f.opcode f.operands = .error e)

theorem undecodable_iff : s.Undecodable ↔ s.machine.status = .running ∧ ∀ i, ¬s.Executes i := by
  refine and_congr_right fun hs => ?_
  constructor
  · rintro (⟨e, hfetch⟩ | ⟨f, q, e, hfetch, hdecode⟩) i hi
    · cases (Program.fetch_eq_error_iff.mp hfetch).symm.trans (Program.at_iff.mp hi.2)
    · have hpeek := (Program.fetch_eq_ok_iff.mp hfetch).1
      obtain rfl := Except.ok.inj (hpeek.symm.trans (Program.at_iff.mp hi.2))
      cases hdecode.symm.trans i.decode_operandCells
  · intro hnone
    rcases s.machine.step_cases s.console hs with
      ⟨e, hpeek, -⟩ | ⟨f, e, hpeek, hdecode, -⟩ | ⟨i, hi, -⟩
    · exact Or.inl ⟨e, Program.fetch_eq_error_iff.mpr hpeek⟩
    · exact Or.inr ⟨f, _, e, Program.fetch_eq_ok_iff.mpr ⟨hpeek, rfl⟩, hdecode⟩
    · exact absurd hi (hnone i)

instance (s : Session κ) : Decidable s.Undecodable :=
  decidable_of_iff (s.machine.status = .running ∧ s.machine.instruction? = none)
    (by rw [undecodable_iff, Machine.instruction?_eq_none_iff])

/-- A machine that runs has made as many steps as have been made. -/
theorem cycles_after_of_running {n : Nat} (hs : s.machine.status = .running)
    (h : (s.after n).machine.status = .running) :
    (s.after n).machine.cycles = s.machine.cycles + n := by
  have hall := (status_after_eq_running_iff hs n).mp h
  rw [cycles_after, List.countP_eq_length.mpr, List.length_range]
  intro i hi
  obtain ⟨_, hexecutes⟩ := (hall i (List.mem_range.mp hi)).executes
  exact decide_eq_true hexecutes.1

/-- How many instructions are reported in a log. -/
def execs (log : List Event) : Nat := log.countP (·.opcode?.isSome)

theorem execs_reports (hs : s.machine.status = .running) :
    execs s.reports = execs s.execReport?.toList := by
  rw [execs, execs, reports, if_pos hs, List.countP_append]
  cases hstop : s.stopReport? with
  | none => rfl
  | some e =>
    have hstop' := opcode?_of_stopReport? hstop
    simp [hstop']

/-- Under the setting that traces everything, each step of a running machine reports an instruction,
unless there is none. -/
theorem execs_reports_of_all (htrace : s.machine.settings.trace = .all)
    (hs : s.machine.status = .running) :
    (s.Undecodable → execs s.reports = 0) ∧ (¬s.Undecodable → execs s.reports = 1) := by
  rw [execs_reports hs, undecodable_iff, and_iff_right hs]
  constructor
  · intro hnone
    rw [execReport?_of_not_executes hnone]
    rfl
  · intro hsome
    obtain ⟨i, hi⟩ := Classical.not_forall_not.mp hsome
    have hcovers : s.machine.settings.trace.covers i.opcode = true := by rw [htrace]; rfl
    rw [execReport?_of_executes hi, Machine.traced, if_pos hcovers]
    rfl

/-- **The reports of instructions are as many as the steps**, but for a last one that has found no
instruction. -/
theorem execs_log_after (htrace : s.machine.settings.trace = .all)
    (hs : s.machine.status = .running) (hlog : execs s.log.toList = s.machine.cycles) (n : Nat) :
    (¬(∃ k < n, (s.after k).Undecodable) →
        execs (s.after n).log.toList = (s.after n).machine.cycles) ∧
      ((∃ k < n, (s.after k).Undecodable) →
        execs (s.after n).log.toList + 1 = (s.after n).machine.cycles) := by
  induction n with
  | zero =>
    refine ⟨fun _ => hlog, ?_⟩
    rintro ⟨k, hk, -⟩
    exact absurd hk (Nat.not_lt_zero k)
  | succ n ih =>
    simp only [Nat.exists_lt_succ_right]
    by_cases hn : (s.after n).machine.status = .running
    · -- a machine that runs has found an instruction in each step
      have hnone : ¬∃ k < n, (s.after k).Undecodable := by
        rintro ⟨k, hk, hundecodable⟩
        obtain ⟨i, hi⟩ := ((status_after_eq_running_iff hs n).mp hn k hk).executes
        exact (undecodable_iff.mp hundecodable).2 i hi
      have hsum : execs (s.after (n + 1)).log.toList =
          (s.after n).machine.cycles + execs (s.after n).reports := by
        rw [after_succ, log_next, execs, List.countP_append, ← execs, ← execs, ih.1 hnone]
      have hcycles : (s.after (n + 1)).machine.cycles = (s.after n).machine.cycles + 1 := by
        rw [after_succ, cycles_next, if_pos hn]
      obtain ⟨hzero, hone⟩ := execs_reports_of_all (by rw [settings_after, htrace]) hn
      rw [hsum, hcycles, or_iff_right hnone]
      exact ⟨fun h => by rw [hone h], fun h => by rw [hzero h]⟩
    · have hlast : ¬(s.after n).Undecodable := fun h => hn h.1
      rw [after_succ, next_of_ne_running hn, or_iff_left hlast]
      exact ih

/-! ## From the image on -/

/-- **The log accounts for every step.** It is made of what the steps report that began while the
machine ran: first the instruction, if it can be fetched and decoded and its opcode is covered, with
its address, its cells and what the machine held before; then the halt or the failure, if it is one,
with the number of the step. So the reports of instructions are as many as the steps under the
setting that traces everything, but for a last step that has found none; and the machine has stopped
if the last line says so, and no line before it does. -/
theorem log_accounts (settings : Settings) (image : List UInt8) (console : κ) (n : Nat) :
    let s := start settings (.ofImage image) console
    let m := (s.after n).machine
    let log := (s.after n).log.toList
    (log = (List.range n).flatMap fun i => (s.after i).reports) ∧
      (∀ i, (s.after i).machine.status ≠ .running → (s.after i).reports = []) ∧
      (∀ i, (s.after i).machine.status = .running →
        (s.after i).reports = (s.after i).execReport?.toList ++ (s.after i).stopReport?.toList ∧
          (∀ e, (s.after i).execReport? = some e ↔
            ∃ f q, (s.after i).machine.program.fetch = .ok (f, q) ∧ f.address = (s.after i).ip ∧
              (∃ instruction, Instruction.decode f.opcode f.operands = .ok instruction) ∧
              settings.trace.covers f.opcode ∧ e = .exec f (s.after i).core) ∧
          ∀ e, (s.after i).stopReport? = some e ↔
            (∃ reason, (s.after i).step.1 = .ok (.halted reason) ∧
              e = .halted (s.after i).ip (i + 1) reason) ∨
            ∃ error, (s.after i).step.1 = .error ⟨(s.after i).ip, error⟩ ∧
              e = .faulted (s.after i).ip (i + 1) error) ∧
      (settings.trace = .all →
        (¬(∃ k < n, (s.after k).Undecodable) → execs log = m.cycles) ∧
          ((∃ k < n, (s.after k).Undecodable) → execs log + 1 = m.cycles)) ∧
      (m.status = .running ↔ OnlyExecs log) ∧
      (m.status ≠ .running ↔ EndsWithStop log) := by
  intro s m log
  have hs : s.machine.status = .running := rfl
  have hcases := log_after_cases (s := s) hs nofun n
  refine ⟨log_after s n, ?_, ?_, ?_, ?_, ?_⟩
  · intro i hi
    rw [reports, if_neg hi]
  · intro i hi
    have hcycles : (s.after i).next.machine.cycles = i + 1 := by
      rw [cycles_next, if_pos hi, cycles_after_of_running hs hi]
      exact congrArg (· + 1) (Nat.zero_add i)
    refine ⟨by rw [reports, if_pos hi], ?_, ?_⟩
    · intro e
      rw [execReport?_eq_some_iff hi, settings_after]
      rfl
    · intro e
      rw [← hcycles]
      exact stopReport?_eq_some_iff
  · intro htrace
    exact execs_log_after (s := s) htrace hs rfl n
  · exact ⟨hcases.1, fun h => Classical.not_not.mp fun hne => (hcases.2 hne).not_onlyExecs h⟩
  · exact ⟨hcases.2, fun h hrunning => h.not_onlyExecs (hcases.1 hrunning)⟩

/-- Of two programs that begin alike, one goes on to halt, and the other to an operand that is not
legal. The log of the second tells of its first step only, and then of the failure. -/
theorem log_accounts_illegal :
    let begin (cells : List Cell) :=
      start ⟨.all, .fail⟩ (.ofImage (Image.encode cells)) (⟨.ofBytes [], .empty none⟩ : Terminal)
    let halts := (begin [21, 0]).after 3
    let fails := (begin [21, 19, 40000]).after 3
    fails.log.toList =
        [.exec ⟨0, .noop, []⟩ .initial, .faulted 1 2 (.invalidOperand 40000 .source)] ∧
      EndsWithStop halts.log.toList ∧ EndsWithStop fails.log.toList ∧
      execs halts.log.toList = halts.machine.cycles ∧ halts.machine.cycles = 2 ∧
      execs fails.log.toList + 1 = fails.machine.cycles ∧ fails.machine.cycles = 2 := by
  intro begin halts fails
  let terminal : Terminal := ⟨.ofBytes [], .empty none⟩
  obtain ⟨-, -, -, hhalts, -, hend⟩ :=
    log_accounts ⟨.all, .fail⟩ (Image.encode [21, 0]) terminal 3
  obtain ⟨-, -, -, hfails, -, hend'⟩ :=
    log_accounts ⟨.all, .fail⟩ (Image.encode [21, 19, 40000]) terminal 3
  have hnone : ¬∃ k < 3, ((begin [21, 0]).after k).Undecodable := by decide +kernel
  have hsome : ∃ k < 3, ((begin [21, 19, 40000]).after k).Undecodable := by decide +kernel
  exact ⟨by decide +kernel, hend.mp (by decide +kernel), hend'.mp (by decide +kernel),
    (hhalts rfl).1 hnone, by decide +kernel, (hfails rfl).2 hsome, by decide +kernel⟩

end Session

end CellMachine
