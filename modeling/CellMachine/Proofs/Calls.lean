import CellMachine.Proofs.Loop

/-!
# Calls of a machine

A machine is asked to make a step or to run, again and again. All that such calls do is to make
steps; `Called` keeps the sessions at which they began, those within a run included. What is said
here of a session is said in terms of them: it still runs if every step has answered so, and it has
counted the steps that began while it ran.

Once the machine has stopped, every call is refused and leaves everything as it is.

## Main statements

* `Called.eq_after` — calls make steps, and nothing else
* `status_after_eq_running_iff`, `cycles_after` — status and count after some steps
* `consistent_of_called` — answers, status and count at any point of a sequence of calls
-/

namespace CellMachine.Session

variable {κ : Type} [Console κ] {s t : Session κ} {began : List (Session κ)}

/-! ## Status and count -/

/-- What a step answers is the status that it leaves, and a failure is no answer. -/
theorem status_next_of_answer {status : Status} (h : s.step.1 = .ok status) :
    s.next.machine.status = status ∧ status ≠ .faulted := by
  refine ⟨Machine.step_result h, ?_⟩
  rintro rfl
  by_cases hcompletes : s.Completes
  · cases hcompletes.symm.trans h
  · obtain ⟨answer, hanswer⟩ := exists_answer_of_not_completes hcompletes
    rw [hanswer] at h
    cases answer <;> cases h

theorem status_of_run {reason : Halt} (h : s.run = some (.ok reason, t)) :
    t.machine.status = .halted reason := by
  obtain ⟨n, -, hstep⟩ := run_eq_some_iff.mp h
  have hnext : (s.after n).next = t := congrArg Prod.snd hstep
  rw [← hnext]
  exact (status_next_of_answer (congrArg Prod.fst hstep)).1

theorem step_of_ne_running (h : s.machine.status ≠ .running) :
    s.step = (.error ⟨s.ip, .machineHalted⟩, s) := by
  rw [step_eq (answer_of_ne_running h), next_of_ne_running h]

theorem cycles_next (s : Session κ) :
    s.next.machine.cycles = s.machine.cycles + if s.machine.status = .running then 1 else 0 := by
  split
  · next h => rw [machine_next, Machine.step_of_running h, Machine.settle_cycles]
  · next h => rw [next_of_ne_running h, Nat.add_zero]

/-- **A machine runs after some steps if all of them have left it running.** -/
theorem status_after_eq_running_iff (hs : s.machine.status = .running) (n : Nat) :
    (s.after n).machine.status = .running ↔ ∀ i < n, (s.after i).Completes := by
  induction n with
  | zero => exact iff_of_true hs nofun
  | succ n ih =>
    rw [after_succ, ← completes_iff_status_next, Nat.forall_lt_succ_right, ← ih]
    refine ⟨fun h => ⟨?_, h⟩, And.right⟩
    -- only a machine that runs can be left running
    obtain ⟨i, hi⟩ := h.executes
    exact hi.1

/-- **The steps that are counted** are those that began while the machine ran. -/
theorem cycles_after (s : Session κ) (n : Nat) :
    (s.after n).machine.cycles =
      s.machine.cycles + (List.range n).countP fun i => (s.after i).machine.status = .running := by
  induction n with
  | zero => rfl
  | succ n ih =>
    rw [after_succ, cycles_next, ih, List.range_succ, List.countP_append, List.countP_singleton,
      Nat.add_assoc]
    simp only [decide_eq_true_eq]

/-! ## Sequences of calls -/

/-- The step after the first `n` is the first that does not leave the machine running. -/
def StopsAfter (s : Session κ) (n : Nat) : Prop :=
  (∀ i < n, (s.after i).Completes) ∧ ¬(s.after n).Completes

/-- Calls have led from a session to another, and their steps began at the sessions of the list. -/
inductive Called (s : Session κ) : List (Session κ) → Session κ → Prop
  | nil : Called s [] s
  | step {began : List (Session κ)} {t : Session κ} (before : Called s began t) :
    Called s (began ++ [t]) t.next
  /-- A run that ends makes its steps up to the first that does not leave the machine running. -/
  | run {began : List (Session κ)} {t u : Session κ} {result : Except Fault Halt} {n : Nat}
    (before : Called s began t) (ends : t.run = some (result, u)) (stops : t.StopsAfter n) :
    Called s (began ++ (List.range (n + 1)).map t.after) u

theorem StopsAfter.unique {m n : Nat} (hm : s.StopsAfter m) (hn : s.StopsAfter n) : m = n := by
  rcases Nat.lt_trichotomy m n with hlt | heq | hgt
  · exact absurd (hn.1 m hlt) hm.2
  · exact heq
  · exact absurd (hm.1 n hgt) hn.2

/-- Every run that ends makes such steps, and leaves what the last of them leaves. -/
theorem exists_stopsAfter_of_run {result : Except Fault Halt} (h : s.run = some (result, t)) :
    ∃ n, s.StopsAfter n ∧ t = s.after (n + 1) := by
  obtain ⟨n, hbefore, hstep⟩ := run_eq_some_iff.mp h
  have hlast : ¬(s.after n).Completes := not_completes_of_answer (congrArg Prod.fst hstep)
  exact ⟨n, ⟨hbefore, hlast⟩, (congrArg Prod.snd hstep).symm⟩

theorem StopsAfter.eq_after {result : Except Fault Halt} {n : Nat} (h : s.StopsAfter n)
    (hrun : s.run = some (result, t)) : t = s.after (n + 1) := by
  obtain ⟨m, hm, rfl⟩ := exists_stopsAfter_of_run hrun
  rw [hm.unique h]

/-- **Calls make steps, and nothing else.** -/
theorem Called.eq_after (h : s.Called began t) :
    ∃ n, began = (List.range n).map s.after ∧ t = s.after n := by
  induction h with
  | nil => exact ⟨0, rfl, rfl⟩
  | step _ ih =>
    obtain ⟨n, rfl, rfl⟩ := ih
    refine ⟨n + 1, ?_, rfl⟩
    rw [List.range_succ, List.map_append]
    rfl
  | @run _ _ _ _ m _ hrun hstops ih =>
    obtain ⟨n, rfl, rfl⟩ := ih
    refine ⟨n + (m + 1), ?_, ?_⟩
    · have hlater : (List.range (m + 1)).map (s.after n).after =
          ((List.range (m + 1)).map (n + ·)).map s.after := by
        rw [List.map_map]
        exact List.map_congr_left fun i _ => (s.after_add n i).symm
      rw [hlater, ← List.map_append, ← List.range_add]
    · rw [hstops.eq_after hrun, ← after_add]

/-- A session at which some steps have been begun before. -/
structure Consistent (t : Session κ) (began : List (Session κ)) : Prop where
  /-- What a step answers is the status that it leaves. -/
  answer : ∀ status, t.step.1 = .ok status → t.next.machine.status = status ∧ status ≠ .faulted
  /-- So is what a run answers that does not fail. -/
  run_answer : ∀ reason u, t.run = some (.ok reason, u) → u.machine.status = .halted reason
  /-- The machine runs if all steps have answered that it does. -/
  running_iff : t.machine.status = .running ↔ ∀ u ∈ began, u.step.1 = .ok .running
  /-- What has stopped refuses to step, -/
  step_of_stopped : t.machine.status ≠ .running → t.step = (.error ⟨t.ip, .machineHalted⟩, t)
  /-- and to run. -/
  run_of_stopped : t.machine.status ≠ .running →
    t.run = some (.error ⟨t.ip, .machineHalted⟩, t)
  /-- The steps that are counted are those that began while the machine ran. -/
  cycles : t.machine.cycles = began.countP fun u => u.machine.status = .running

/-- **Stopping is final, and the status is that of the answers**, from the image on, after any calls
of `step` and `run`. -/
theorem consistent_of_called {settings : Settings} {image : List UInt8} {console : κ}
    (h : (start settings (.ofImage image) console).Called began t) : t.Consistent began := by
  obtain ⟨n, rfl, rfl⟩ := h.eq_after
  constructor
  · intro status hanswer
    exact status_next_of_answer hanswer
  · intro reason u hrun
    exact status_of_run hrun
  · rw [status_after_eq_running_iff rfl, List.forall_mem_map]
    simp only [List.mem_range]
    rfl
  · exact step_of_ne_running
  · exact run_of_ne_running
  · rw [cycles_after, List.countP_map]
    exact Nat.zero_add _

/-- A step, a run of two more, and a step that is refused. -/
theorem consistent_of_called_after_halt :
    let s := start {} (.ofImage (Image.encode [21, 21, 0])) (⟨.ofBytes [], .empty none⟩ : Terminal)
    let began := [s, s.after 1, s.after 2, s.after 3]
    s.Called began (s.after 3) ∧ (s.after 3).machine.cycles = 3 ∧
      (s.after 3).step = (.error ⟨3, .machineHalted⟩, s.after 3) := by
  intro s began
  have hstops : (s.after 1).StopsAfter 1 := by
    refine ⟨?_, ?_⟩
    · intro i hi
      match i, hi with
      | 0, _ => rfl
    · have hanswer : ((s.after 1).after 1).step.1 = Except.map .halted (.ok .instruction) := by rfl
      exact not_completes_of_answer hanswer
  have hrun : (s.after 1).run = some (.ok .instruction, s.after 3) :=
    run_eq_some_iff.mpr ⟨1, hstops.1, rfl⟩
  have hcalled : s.Called began (s.after 3).next := ((Called.nil.step).run hrun hstops).step
  have hstopped : (s.after 3).machine.status ≠ .running := by decide +kernel
  have hstays : (s.after 3).next = s.after 3 := next_of_ne_running hstopped
  rw [hstays] at hcalled
  have hconsistent : (s.after 3).Consistent began := consistent_of_called hcalled
  refine ⟨hcalled, ?_, ?_⟩
  · rw [hconsistent.cycles]
    rfl
  · rw [hconsistent.step_of_stopped hstopped]
    rfl

end CellMachine.Session
