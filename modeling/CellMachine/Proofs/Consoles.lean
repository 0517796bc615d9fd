import CellMachine.Proofs.Run

/-!
# One machine at two consoles

Of its console a machine sees what it reads and whether its writes succeed. So if two consoles
answer alike where the next instruction reads or writes, the next step at one is the next step at
the other, but for the console. How the consoles belong together is told by a relation; it has to
hold again after what the instruction reads or writes. Often it is that the second console is a
function `f` of the first.

## Main statements

* `execute_related` — an instruction at two related consoles
* `Session.step_related` — a step at two related consoles
* `Session.step_map` — a step at the console that a function gives
-/

namespace CellMachine

variable {κ κ' : Type} {R : κ → κ' → Prop}

/-! ## The same but for the console -/

/-- Two effects that are the same but for their consoles, which are related. -/
structure Effect.Related (R : κ → κ' → Prop) (left : Effect κ) (left' : Effect κ') : Prop where
  flow : left'.flow = left.flow
  program : left'.program = left.program
  core : left'.core = left.core
  console : R left.console left'.console

/-- Two transitions that are the same but for their consoles, which are related. -/
structure Transition.Related (R : κ → κ' → Prop) (t : Transition κ) (t' : Transition κ') :
    Prop where
  result : t'.result = t.result
  machine : t'.machine = t.machine
  console : R t.console t'.console
  events : t'.events = t.events

/-- Two sessions that are the same but for their consoles, which are related. -/
structure Session.Related (R : κ → κ' → Prop) (s : Session κ) (t : Session κ') : Prop where
  machine : t.machine = s.machine
  console : R s.console t.console
  log : t.log = s.log

/-- The session at another console. -/
def Session.map (f : κ → κ') (s : Session κ) : Session κ' := ⟨s.machine, f s.console, s.log⟩

theorem Session.Related.eq_map {f : κ → κ'} {s : Session κ} {t : Session κ'}
    (h : s.Related (fun console console' => console' = f console) t) : t = s.map f := by
  obtain ⟨machine, console, log⟩ := t
  obtain ⟨rfl, rfl, rfl⟩ := h
  rfl

theorem Machine.settle_related {m : Machine} {left : Effect κ} {left' : Effect κ'}
    (h : left.Related R left') (events : List Event) :
    (m.settle left events).Related R (m.settle left' events) := by
  obtain ⟨flow, program, core, console⟩ := left
  obtain ⟨flow', program', core', console'⟩ := left'
  obtain ⟨rfl, rfl, rfl, hconsole⟩ := h
  cases flow' <;> exact ⟨rfl, rfl, hconsole, rfl⟩

/-! ## Consoles that answer alike -/

variable [Console κ] [Console κ'] {console : κ} {console' : κ'}

/-- Reading gives the same at both consoles, and leaves related consoles. -/
def ReadsRelated (R : κ → κ' → Prop) (console : κ) (console' : κ') : Prop :=
  (Console.read console').1 = (Console.read console).1 ∧
    R (Console.read console).2 (Console.read console').2

/-- Writing succeeds or fails in the same way at both consoles, and leaves related consoles. -/
def WritesRelated (R : κ → κ' → Prop) (console : κ) (console' : κ') (c : Char) : Prop :=
  (Console.write c console').1 = (Console.write c console).1 ∧
    R (Console.write c console).2 (Console.write c console').2

/-- **An instruction does the same at two related consoles**, if they answer alike where it reads or
writes. -/
theorem execute_related {policy : EndOfInput} {p : Program} {core : Core} {i : Instruction}
    (h : R console console') (hread : ∀ dst, i = .input dst → ReadsRelated R console console')
    (hwrite : ∀ x c, i = .output x → charOfCell? (core.value x) = some c →
      WritesRelated R console console' c) :
    (execute policy p core console i).Related R (execute policy p core console' i) := by
  cases i with
  | input dst =>
    obtain ⟨hanswer, hleft⟩ := hread dst rfl
    simp only [execute]
    generalize Console.read console = read at hanswer hleft ⊢
    generalize Console.read console' = read' at hanswer hleft ⊢
    obtain ⟨answer, left⟩ := read
    obtain ⟨answer', left'⟩ := read'
    obtain rfl : answer' = answer := hanswer
    obtain cause | _ | c := answer'
    · exact ⟨rfl, rfl, rfl, hleft⟩
    · cases policy <;> exact ⟨rfl, rfl, rfl, hleft⟩
    · dsimp only
      split <;> exact ⟨rfl, rfl, rfl, hleft⟩
  | output x =>
    simp only [execute]
    cases hc : charOfCell? (core.value x) with
    | none => exact ⟨rfl, rfl, rfl, h⟩
    | some c =>
      obtain ⟨hanswer, hleft⟩ := hwrite x c rfl hc
      dsimp only
      generalize Console.write c console = write at hanswer hleft ⊢
      generalize Console.write c console' = write' at hanswer hleft ⊢
      obtain ⟨answer, left⟩ := write
      obtain ⟨answer', left'⟩ := write'
      obtain rfl : answer' = answer := hanswer
      cases answer' <;> exact ⟨rfl, rfl, rfl, hleft⟩
  | _ =>
    dsimp only [execute]
    (repeat' split) <;> exact ⟨rfl, rfl, rfl, h⟩

theorem Machine.step_related {m : Machine} (h : R console console')
    (heffect : ∀ i, m.Executes i → (m.effect console i).Related R (m.effect console' i)) :
    (m.step console).Related R (m.step console') := by
  by_cases hm : m.status = .running
  · rcases m.step_cases console hm with ⟨e, hpeek, heq⟩ | ⟨d, e, hpeek, hdecode, heq⟩ | ⟨i, hi, heq⟩
    · rw [heq, step_of_running hm, cycle_of_peek_error hpeek]
      refine settle_related ?_ []
      exact ⟨rfl, rfl, rfl, h⟩
    · rw [heq, step_of_running hm, cycle_of_peek_ok hpeek, hdecode]
      refine settle_related ?_ []
      exact ⟨rfl, rfl, rfl, h⟩
    · rw [heq, step_of_executes hi]
      exact settle_related (heffect i hi) _
  · rw [step_of_ne_running hm, step_of_ne_running hm]
    exact ⟨rfl, rfl, h, rfl⟩

namespace Session

/-- **A step is the same at two related consoles**, if they answer alike where the next instruction
reads or writes. -/
theorem step_related {s : Session κ} {t : Session κ'} (h : s.Related R t)
    (hread : ∀ dst, s.Executes (.input dst) → ReadsRelated R s.console t.console)
    (hwrite : ∀ x c, s.Executes (.output x) → charOfCell? (s.core.value x) = some c →
      WritesRelated R s.console t.console c) :
    t.step.1 = s.step.1 ∧ s.next.Related R t.next := by
  obtain ⟨machine, console, log⟩ := s
  obtain ⟨machine', console', log'⟩ := t
  obtain ⟨rfl, hconsole, rfl⟩ := h
  have hstep : (machine'.step console).Related R (machine'.step console') := by
    refine Machine.step_related hconsole fun i hi => execute_related hconsole ?_ ?_
    · rintro dst rfl
      exact hread dst hi
    · rintro x c rfl hc
      exact hwrite x c hi hc
  refine ⟨hstep.result, hstep.machine, hstep.console, ?_⟩
  simp only [next, step, hstep.events]

end Session

/-! ## The console that a function gives -/

/-- Reading at the other console gives the same, and leaves the other console of what is left. -/
def ReadsAlike (f : κ → κ') (console : κ) : Prop :=
  Console.read (f console) = ((Console.read console).1, f (Console.read console).2)

/-- Writing to the other console succeeds or fails in the same way. -/
def WritesAlike (f : κ → κ') (console : κ) (c : Char) : Prop :=
  Console.write c (f console) = ((Console.write c console).1, f (Console.write c console).2)

/-- **A step is the same at the other console**, if the next instruction reads or writes alike. -/
theorem Session.step_map {f : κ → κ'} {s : Session κ}
    (hread : ∀ dst, s.Executes (.input dst) → ReadsAlike f s.console)
    (hwrite : ∀ x c, s.Executes (.output x) → charOfCell? (s.core.value x) = some c →
      WritesAlike f s.console c) :
    (s.map f).step = (s.step.1, s.next.map f) := by
  have hmap : s.Related (fun console console' => console' = f console) (s.map f) :=
    ⟨rfl, rfl, rfl⟩
  obtain ⟨hanswer, hnext⟩ := step_related hmap
    (fun dst hi => Prod.ext_iff.mp (hread dst hi))
    (fun x c hi hc => Prod.ext_iff.mp (hwrite x c hi hc))
  rw [step_eq hanswer, hnext.eq_map]

end CellMachine
