import CellMachine.Machine.Step

/-!
# Sessions

A session is a machine at a console, with the log of all that the machine has reported. A run makes
steps until one does not leave the machine running. It need not end; `runFor` is told how many steps
it may make.
-/

namespace CellMachine

/-- A machine, its console and its log. -/
structure Session (κ : Type) where
  machine : Machine
  console : κ
  log : Array Event

namespace Session

/-- A machine that has not made any steps, before a console. -/
def start {κ : Type} (settings : Settings) (program : Program) (console : κ) : Session κ :=
  ⟨.start settings program, console, #[]⟩

variable {κ : Type} [Console κ]

/-- One step of the machine. -/
def step (s : Session κ) : Except Fault Status × Session κ :=
  let ⟨machine, console, log⟩ := s
  let t := machine.step console
  (t.result, ⟨t.machine, t.console, log ++ t.events⟩)

/-- Makes steps until the machine stops, and tells how it stopped; nothing if it never does. -/
def run (s : Session κ) : Option (Except Fault Halt × Session κ) :=
  match s.step with
  | (.error fault, s) => some (.error fault, s)
  | (.ok (.halted reason), s) => some (.ok reason, s)
  | (.ok _, s) => s |>.run
partial_fixpoint

/-- Makes up to `n` steps, until the machine stops: how it stopped, if it did. -/
def runFor : Nat → Session κ → Option (Except Fault Halt) × Session κ
  | 0, s => (none, s)
  | n + 1, s =>
    match s.step with
    | (.error fault, s) => (some (.error fault), s)
    | (.ok (.halted reason), s) => (some (.ok reason), s)
    | (.ok _, s) => runFor n s

end Session

end CellMachine
