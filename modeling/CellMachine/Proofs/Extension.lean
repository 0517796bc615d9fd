import CellMachine.Console.Terminal
import CellMachine.Proofs.Bounds

/-!
# Programs with more cells

Cells after the end of a program have no influence on it, as long as it does not ask for them. It
asks for them by an instruction that goes on past the end, and by an address outside the program,
and both are errors (`Error.isTooShort`). A run without these errors is the same in every longer
program, and leaves the additional cells alone.

## Main statements

* `Program.peek_extend_of_ok`, `Program.peek_extend_of_error` — what is fetched
* `execute_extend` — what an instruction does
* `Session.step_extend`, `Session.after_extend` — a step and a run
* `Session.extension_preserves` — the same for two programs, one of which begins with the other
-/

namespace CellMachine

/-- The error says that the program has too few cells. -/
def Error.isTooShort : Error → Bool
  | .outOfBounds .. | .truncated .. => true
  | _ => false

/-! ## Fetching -/

namespace Program

/-- The program with more cells at its end. -/
def extend (p : Program) (more : List Cell) : Program := ⟨p.cells ++ more.toArray, p.ip⟩

variable {p : Program} {more : List Cell}

theorem size_extend : (p.extend more).size = p.size + more.length := by
  simp only [size, extend, Array.size_append, List.size_toArray]

theorem getElem?_extend {address : Nat} (h : address < p.size) :
    (p.extend more).cells[address]? = p.cells[address]? :=
  Array.getElem?_append_left h

theorem read_extend {address : Nat} {c : Cell} (h : p.read address = .ok c) :
    (p.extend more).read address = .ok c := by
  rw [read_eq_ok_iff] at h ⊢
  rw [getElem?_extend (Array.getElem?_eq_some_iff.mp h).1, h]

theorem set_extend {address : Nat} (value : Cell) (h : address < p.size)
    (h' : address < (p.extend more).size) :
    (p.extend more).set address value h' = (p.set address value h).extend more := by
  simp only [set, extend, Array.set_append_left h]

theorem peek_extend_of_ok {f : Fetched} (h : p.peek = .ok f) : (p.extend more).peek = .ok f := by
  rw [peek_eq_ok_iff_cells] at h ⊢
  obtain ⟨haddress, hlength, hcells⟩ := h
  refine ⟨haddress, hlength, hcells.trans ?_⟩
  simp only [extend, Array.toList_append, List.drop_append]
  exact List.prefix_append _ _

theorem peek_extend_of_error {e : Error} (h : p.peek = .error e) (hlong : e.isTooShort = false) :
    (p.extend more).peek = .error e := by
  rw [peek_eq_error_iff] at h ⊢
  rcases h with ⟨-, rfl⟩ | ⟨c, hcell, hop | ⟨op, -, -, rfl⟩⟩
  · cases hlong
  · have hread : (p.extend more).read (p.extend more).ip = .ok c :=
      read_extend (read_eq_ok_iff.mpr hcell)
    exact Or.inr ⟨c, read_eq_ok_iff.mp hread, Or.inl hop⟩
  · cases hlong

end Program

/-! ## Executing -/

section Execute

variable {κ : Type}

/-- The effect on a program with more cells. -/
def Effect.extend (left : Effect κ) (more : List Cell) : Effect κ :=
  { left with program := left.program.extend more }

variable [Console κ] {policy : EndOfInput} {p : Program} {core : Core} {console : κ}
  {more : List Cell}

/-- **An instruction does the same in a longer program**, unless it fails for want of cells. -/
theorem execute_extend {i : Instruction}
    (h : ∀ e, (execute policy p core console i).flow = .fail e → e.isTooShort = false) :
    execute policy (p.extend more) core console i =
      (execute policy p core console i).extend more := by
  -- an address outside the program would be such a failure
  have hinside (a : Nat) (bound : Nat)
      (hflow : (execute policy p core console i).flow =
        if a < bound then .next else .fail (.outOfBounds a p.size)) : a < bound := by
    refine Decidable.byContradiction fun hge => ?_
    rw [if_neg hge] at hflow
    cases h _ hflow
  cases i with
  | load dst x =>
    have hlt := hinside _ _ (flow_load dst x)
    have hread : p.read (core.value x).toNat = .ok p.cells[(core.value x).toNat] :=
      Program.read_eq_ok_iff.mpr (Array.getElem?_eq_getElem hlt)
    simp only [execute, hread, Program.read_extend hread]
    rfl
  | store x value =>
    have hlt := hinside _ _ (flow_store x value)
    have hlt' : (core.value x).toNat < (p.extend more).size := by
      rw [Program.size_extend]
      omega
    simp only [execute, dif_pos hlt, dif_pos hlt', Program.set_extend _ hlt]
    rfl
  | call target =>
    have hlt := hinside _ _ (flow_call target)
    have hlt' : (p.extend more).ip < UInt16.size := hlt
    simp only [execute, if_pos hlt, if_pos hlt']
    rfl
  | _ =>
    dsimp only [execute]
    (repeat' split) <;> rfl

end Execute

/-! ## One step -/

namespace Machine

variable {κ : Type} {m : Machine} {more : List Cell}

/-- The machine with more cells at the end of its program. -/
def extend (m : Machine) (more : List Cell) : Machine :=
  { m with program := m.program.extend more }

theorem settle_extend (left : Effect κ) (events : List Event) :
    (m.extend more).settle (left.extend more) events =
      { m.settle left events with
        machine := (m.settle left events).machine.extend more } := by
  unfold settle
  cases hflow : left.flow <;> simp only [Effect.extend, hflow] <;> rfl

variable [Console κ] {console : κ}

theorem Executes.extend {i : Instruction} (h : m.Executes i) : (m.extend more).Executes i :=
  ⟨h.1, Program.at_iff.mpr (Program.peek_extend_of_ok (Program.at_iff.mp h.2))⟩

/-- **A step is the same with more cells**, unless it fails for want of cells. -/
theorem step_extend
    (h : ∀ a e, (m.step console).result = .error ⟨a, e⟩ → e.isTooShort = false) :
    (m.extend more).step console =
      { m.step console with machine := (m.step console).machine.extend more } := by
  by_cases hm : m.status = .running
  · have hm' : (m.extend more).status = .running := hm
    rcases m.step_cases console hm with ⟨e, hpeek, heq⟩ | ⟨f, e, hpeek, hdecode, heq⟩ | ⟨i, hi, heq⟩
    · have hlong : e.isTooShort = false := by
        refine h m.program.ip e ?_
        rw [heq, settle_result_eq_error_iff]
        exact ⟨rfl, rfl⟩
      have hpeek' : (m.extend more).program.peek = .error e :=
        Program.peek_extend_of_error hpeek hlong
      rw [heq, ← settle_extend, step_of_running hm', cycle_of_peek_error hpeek']
      rfl
    · have hpeek' : (m.extend more).program.peek = .ok f := Program.peek_extend_of_ok hpeek
      rw [heq, ← settle_extend, step_of_running hm', cycle_of_peek_ok hpeek', hdecode]
      rfl
    · have heffect : (m.extend more).effect console i = (m.effect console i).extend more := by
        have hlong (e : Error) (hflow : (m.effect console i).flow = .fail e) :
            e.isTooShort = false := by
          refine h m.program.ip e ?_
          rw [heq, settle_result_eq_error_iff]
          exact ⟨rfl, hflow⟩
        exact execute_extend hlong
      rw [heq, ← settle_extend, step_of_executes hi.extend, heffect]
      rfl
  · have hm' : (m.extend more).status ≠ .running := hm
    rw [step_of_ne_running hm, step_of_ne_running hm']
    rfl

end Machine

/-! ## Many steps -/

namespace Session

variable {κ : Type}

/-- The session with more cells at the end of its program, and all else as it is. -/
def extend (s : Session κ) (more : List Cell) : Session κ :=
  { s with machine := s.machine.extend more }

variable [Console κ] {s : Session κ} {more : List Cell}

/-- The next step fails for want of cells. -/
def overruns (s : Session κ) : Bool :=
  match s.step.1 with
  | .error fault => fault.error.isTooShort
  | .ok _ => false

theorem step_extend (h : s.overruns = false) :
    (s.extend more).step = (s.step.1, s.next.extend more) := by
  obtain ⟨machine, console, log⟩ := s
  have hlong (a : Nat) (e : Error) (he : (machine.step console).result = .error ⟨a, e⟩) :
      e.isTooShort = false := by
    simpa only [overruns, step, he] using h
  simp only [step, next, extend, Machine.step_extend hlong]

theorem after_extend {n : Nat} (h : ∀ i < n, (s.after i).overruns = false) :
    (s.extend more).after n = (s.after n).extend more ∧
      ∀ i < n, ((s.extend more).after i).step.1 = (s.after i).step.1 :=
  after_of_forall_step (·.extend more) fun i hi => step_extend (h i hi)

/-- **More cells at its end do not change what a program does**, as long as it does not fail for
want of them: each step answers the same and leaves the same but for the additional cells, which are
as they were. -/
theorem extension_preserves (settings : Settings) (cells more : List Cell) (console : κ) (n : Nat) :
    let s := start settings (.ofCells cells) console
    let t := start settings (.ofCells (cells ++ more)) console
    (∀ i < n, (s.after i).overruns = false) →
      (∀ i < n, (t.after i).step.1 = (s.after i).step.1) ∧
        ∀ i ≤ n, t.after i = (s.after i).extend more ∧
          (t.after i).cells.toList = (s.after i).cells.toList ++ more := by
  intro s t h
  have ht : t = s.extend more := by
    simp only [t, s, start, Machine.start, extend, Machine.extend, Program.extend, Program.ofCells,
      List.append_toArray]
  have hafter (i : Nat) (hi : i ≤ n) : t.after i = (s.after i).extend more := by
    rw [ht]
    exact (after_extend fun j hj => h j (Nat.lt_of_lt_of_le hj hi)).1
  refine ⟨?_, ?_⟩
  · rw [ht]
    exact (after_extend h).2
  · intro i hi
    refine ⟨hafter i hi, ?_⟩
    rw [hafter i hi]
    exact Array.toList_append

/-- A program that puts a `halt` into its last cell, and is asked to make a step after that. -/
theorem extension_preserves_halt :
    let s := start {} (.ofCells [16, 3, 0, 21]) (⟨.ofBytes [], .empty none⟩ : Terminal)
    let t := start {} (.ofCells [16, 3, 0, 21, 7, 8]) (⟨.ofBytes [], .empty none⟩ : Terminal)
    (∀ i < 3, (s.after i).overruns = false) ∧
      (t.after 1).step.1 = .ok (.halted .instruction) ∧
      (t.after 2).step.1 = .error ⟨4, .machineHalted⟩ ∧
      (t.after 3).cells.toList = [16, 3, 0, 0, 7, 8] := by
  intro s t
  have hlong : ∀ i < 3, (s.after i).overruns = false := by decide +kernel
  obtain ⟨hanswer, hafter⟩ := extension_preserves {} [16, 3, 0, 21] [7, 8]
    (⟨.ofBytes [], .empty none⟩ : Terminal) 3 hlong
  refine ⟨hlong, ?_, ?_, ?_⟩
  · exact (hanswer 1 (by decide)).trans (by rfl)
  · exact (hanswer 2 (by decide)).trans (by rfl)
  · exact (hafter 3 (by decide)).2.trans (by decide +kernel)

end Session

end CellMachine
