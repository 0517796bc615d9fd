import CellMachine.Console.Terminal
import CellMachine.Proofs.Run
import Mathlib.Algebra.GroupWithZero.Nat

/-!
# Running to the end

`run` is a loop that need not end. It ends if and only if some step does not leave the machine
running, and then with what the first such step answers and leaves. So a run may be begun with any
number of single steps, or with bounded runs: what is left of it ends in the same way.

The loop and the bounded one go through the same two cases: a step that completes goes on, and any
other step ends it (`exists_answer_of_not_completes`).

## Main statements

* `run_eq_some_iff` — when a run ends, and how
* `run_eq_none_iff` — when it does not
* `run_eq_some_iff_runFor` — a run ends if a bounded run with enough steps does
* `run_is_iterated_step` — all of this, and runs that are divided into batches
-/

namespace CellMachine.Session

variable {κ : Type} [Console κ] {s t : Session κ} {result : Except Fault Halt}

/-! ## The two cases of a step -/

/-- A step that does not complete answers how the machine has stopped. -/
theorem exists_answer_of_not_completes (h : ¬s.Completes) :
    ∃ result : Except Fault Halt, s.step.1 = result.map .halted := by
  obtain ⟨flow, hanswer⟩ := exists_answer s
  rw [Completes, hanswer] at h
  rw [hanswer]
  cases flow with
  | next => exact absurd rfl h
  | halt reason => exact ⟨.ok reason, rfl⟩
  | fail error => exact ⟨.error ⟨s.ip, error⟩, rfl⟩

theorem not_completes_of_answer (h : s.step.1 = result.map .halted) : ¬s.Completes := by
  rw [Completes, h]
  intro hcompletes
  cases result <;> cases hcompletes

theorem run_of_completes (h : s.Completes) : s.run = s.next.run := by
  rw [run, step_eq h]

theorem run_of_answer (h : s.step.1 = result.map .halted) : s.run = some (result, s.next) := by
  rw [run, step_eq h]
  cases result <;> rfl

theorem runFor_succ_of_completes (h : s.Completes) (n : Nat) :
    s.runFor (n + 1) = s.next.runFor n := by
  rw [runFor, step_eq h]

theorem runFor_succ_of_answer (h : s.step.1 = result.map .halted) (n : Nat) :
    s.runFor (n + 1) = (some result, s.next) := by
  rw [runFor, step_eq h]
  cases result <;> rfl

/-! ## The end of a run -/

/-- Shifting the first step of a run into the session it leaves. -/
theorem forall_lt_succ_completes {n : Nat} :
    (∀ i < n + 1, (s.after i).Completes) ↔ s.Completes ∧ ∀ i < n, (s.next.after i).Completes := by
  simp only [Nat.forall_lt_succ_left, after_succ_eq_after_next, after_zero]

/-- **A run ends with the first step that does not leave the machine running**, and as that step
does. -/
theorem run_eq_some_iff :
    s.run = some (result, t) ↔
      ∃ n, (∀ i < n, (s.after i).Completes) ∧ (s.after n).step = (result.map .halted, t) := by
  constructor
  · intro h
    refine run.partial_correctness
      (fun s (result, t) => ∃ n, (∀ i < n, (s.after i).Completes) ∧
        (s.after n).step = (result.map .halted, t)) ?_ s (result, t) h
    -- the loop may be assumed to end so wherever it is entered again
    rintro loop ih s ⟨result, t⟩ hend
    by_cases hs : s.Completes
    · rw [step_eq hs] at hend
      obtain ⟨n, hbefore, hlast⟩ := ih s.next (result, t) hend
      refine ⟨n + 1, forall_lt_succ_completes.mpr ⟨hs, hbefore⟩, ?_⟩
      rw [after_succ_eq_after_next]
      exact hlast
    · obtain ⟨answer, hanswer⟩ := exists_answer_of_not_completes hs
      rw [step_eq hanswer] at hend
      obtain ⟨rfl, rfl⟩ : answer = result ∧ s.next = t := by
        cases answer <;> exact Prod.mk.inj (Option.some.inj hend)
      exact ⟨0, nofun, step_eq hanswer⟩
  · rintro ⟨n, hbefore, hstep⟩
    induction n generalizing s with
    | zero =>
      rw [after_zero] at hstep
      rw [run_of_answer (congrArg Prod.fst hstep)]
      exact congrArg (fun u => some (result, u)) (congrArg Prod.snd hstep)
    | succ n ih =>
      obtain ⟨hfirst, hrest⟩ := forall_lt_succ_completes.mp hbefore
      rw [after_succ_eq_after_next] at hstep
      rw [run_of_completes hfirst, ih hrest hstep]

/-- **A run does not end if every step leaves the machine running.** -/
theorem run_eq_none_iff : s.run = none ↔ ∀ n, (s.after n).Completes := by
  constructor
  · intro h n
    induction n generalizing s with
    | zero =>
      by_cases hs : s.Completes
      · exact hs
      · obtain ⟨answer, hanswer⟩ := exists_answer_of_not_completes hs
        cases h.symm.trans (run_of_answer hanswer)
    | succ n ih =>
      by_cases hs : s.Completes
      · rw [after_succ_eq_after_next]
        exact ih ((run_of_completes hs).symm.trans h)
      · obtain ⟨answer, hanswer⟩ := exists_answer_of_not_completes hs
        cases h.symm.trans (run_of_answer hanswer)
  · intro h
    cases hrun : s.run with
    | none => rfl
    | some stopped =>
      obtain ⟨n, -, hstep⟩ := run_eq_some_iff.mp hrun
      exact absurd (h n) (not_completes_of_answer (congrArg Prod.fst hstep))

/-- **A run ends if a bounded run does** that may make enough steps. -/
theorem run_eq_some_iff_runFor : s.run = some (result, t) ↔ ∃ n, s.runFor n = (some result, t) := by
  constructor
  · intro h
    obtain ⟨n, hbefore, hstep⟩ := run_eq_some_iff.mp h
    clear h
    refine ⟨n + 1, ?_⟩
    induction n generalizing s with
    | zero =>
      rw [after_zero] at hstep
      rw [runFor_succ_of_answer (congrArg Prod.fst hstep)]
      exact congrArg (some result, ·) (congrArg Prod.snd hstep)
    | succ n ih =>
      obtain ⟨hfirst, hrest⟩ := forall_lt_succ_completes.mp hbefore
      rw [after_succ_eq_after_next] at hstep
      rw [runFor_succ_of_completes hfirst, ih hrest hstep]
  · rintro ⟨n, h⟩
    induction n generalizing s with
    | zero => cases h
    | succ n ih =>
      by_cases hs : s.Completes
      · rw [runFor_succ_of_completes hs] at h
        rw [run_of_completes hs, ih h]
      · obtain ⟨answer, hanswer⟩ := exists_answer_of_not_completes hs
        rw [runFor_succ_of_answer hanswer] at h
        obtain ⟨hresult, rfl⟩ := Prod.mk.inj h
        rw [run_of_answer hanswer, Option.some.inj hresult]

/-! ## Runs that are taken up -/

/-- **A run may be begun with single steps.** -/
theorem run_after {k : Nat} (h : ∀ i < k, (s.after i).Completes) : (s.after k).run = s.run := by
  induction k with
  | zero => rfl
  | succ k ih =>
    rw [after_succ, ← run_of_completes (h k (Nat.lt_succ_self k)),
      ih fun i hi => h i (Nat.lt_succ_of_lt hi)]

/-- A machine that has stopped refuses to run, too. -/
theorem run_of_ne_running (h : s.machine.status ≠ .running) :
    s.run = some (.error ⟨s.ip, .machineHalted⟩, s) := by
  have hanswer : s.step.1 = Except.map .halted (.error ⟨s.ip, .machineHalted⟩) :=
    answer_of_ne_running h
  rw [run_of_answer hanswer, next_of_ne_running h]

/-- A run that is taken up after some steps leaves what it would have left without them, even if one
of them has stopped the machine. -/
theorem snd_run_after (s : Session κ) (k : Nat) :
    (s.after k).run.map Prod.snd = s.run.map Prod.snd := by
  induction k with
  | zero => rfl
  | succ k ih =>
    rw [← ih, after_succ]
    by_cases hcompletes : (s.after k).Completes
    · rw [run_of_completes hcompletes]
    · obtain ⟨answer, hanswer⟩ := exists_answer_of_not_completes hcompletes
      rw [run_of_answer hanswer, run_of_ne_running (mt completes_iff_status_next.mpr hcompletes)]
      rfl

/-- A bounded run makes so many steps, or it stops the machine before and goes no further. -/
theorem snd_runFor (s : Session κ) (n : Nat) : (s.runFor n).2 = s.after n := by
  induction n generalizing s with
  | zero => rfl
  | succ n ih =>
    rw [after_succ_eq_after_next]
    by_cases hcompletes : s.Completes
    · rw [runFor_succ_of_completes hcompletes, ih]
    · obtain ⟨answer, hanswer⟩ := exists_answer_of_not_completes hcompletes
      rw [runFor_succ_of_answer hanswer,
        after_of_ne_running (mt completes_iff_status_next.mpr hcompletes)]

/-- The session after bounded runs, one after another. -/
def batches (s : Session κ) (sizes : List Nat) : Session κ :=
  sizes.foldl (fun t n => (t.runFor n).2) s

/-- Batches make as many steps as they are long, and nothing else. -/
theorem batches_eq_after (s : Session κ) (sizes : List Nat) :
    s.batches sizes = s.after sizes.sum := by
  induction sizes generalizing s with
  | nil => rfl
  | cons n sizes ih =>
    rw [List.sum_cons, after_add, ← ih (s.after n), ← snd_runFor]
    rfl

/-- **A run is the steps that it makes.** It ends with the first that does not leave the machine
running; and steps, single ones or batches of them, may be made before it without a difference. A
batch makes as many steps as it may, those of a machine that has stopped among them. -/
theorem run_is_iterated_step (s : Session κ) :
    (∀ result t, s.run = some (result, t) ↔
        ∃ n, (∀ i < n, (s.after i).Completes) ∧ (s.after n).step = (result.map .halted, t)) ∧
      (s.run = none ↔ ∀ n, (s.after n).Completes) ∧
      (∀ k, (∀ i < k, (s.after i).Completes) → (s.after k).run = s.run) ∧
      (∀ (t : Session κ) n, (t.runFor n).2 = t.after n) ∧
      ∀ sizes, s.batches sizes = s.after sizes.sum ∧
        (s.batches sizes).run.map Prod.snd = s.run.map Prod.snd := by
  refine ⟨fun _ _ => run_eq_some_iff, run_eq_none_iff, fun k => run_after, snd_runFor, ?_⟩
  intro sizes
  have hbatches := s.batches_eq_after sizes
  refine ⟨hbatches, ?_⟩
  rw [hbatches]
  exact snd_run_after s sizes.sum

/-- A run of three steps, begun with two of them, and one that is taken up too late. -/
theorem run_is_iterated_step_three :
    let s := start {} (.ofImage (Image.encode [21, 21, 0])) (⟨.ofBytes [], .empty none⟩ : Terminal)
    (∀ i < 2, (s.after i).Completes) ∧ s.run = some (.ok .instruction, s.after 3) ∧
      (s.after 2).run = some (.ok .instruction, s.after 3) ∧
      s.batches [1, 4] = s.after 5 ∧
      (s.batches [1, 4]).run.map Prod.snd = some (s.after 3) := by
  intro s
  have hbefore : ∀ i < 2, (s.after i).Completes := by
    intro i hi
    match i, hi with
    | 0, _ => rfl
    | 1, _ => rfl
  obtain ⟨hrun, -, hafter, -, hbatches⟩ := run_is_iterated_step s
  have hend : s.run = some (.ok .instruction, s.after 3) :=
    (hrun _ _).mpr ⟨2, hbefore, rfl⟩
  obtain ⟨hfive, hsame⟩ := hbatches [1, 4]
  refine ⟨hbefore, hend, (hafter 2 hbefore).trans hend, hfive, ?_⟩
  rw [hsame, hend]
  rfl

end CellMachine.Session
