import CellMachine.Event
import CellMachine.Instruction.Decode
import CellMachine.Machine.Execute

/-!
# Steps of a machine

In one step a running machine fetches the instruction at its instruction pointer, decodes it,
reports it if it is to be traced, and carries it out. A step that does not end in the status
`running` reports that, too. A machine that has stopped refuses to step and changes nothing.

## Main statements

* `step_of_ne_running` — what has stopped stays as it is
* `step_result` — a step answers the status it leaves, or a fault
-/

namespace CellMachine

/-- A program on its way through a run. -/
structure Machine where
  settings : Settings
  program : Program
  core : Core
  status : Status
  /-- How many steps have been made. The count has no bound; that of 64 bits would take 2 ^ 64 steps
  to reach. -/
  cycles : Nat
  deriving DecidableEq, Repr

/-- What a step leaves behind: its answer, the machine, the console, and what was reported. -/
structure Transition (κ : Type) where
  result : Except Fault Status
  machine : Machine
  console : κ
  events : List Event

namespace Machine

/-- A machine that has not made any steps. -/
def start (settings : Settings) (program : Program) : Machine :=
  ⟨settings, program, .initial, .running, 0⟩

variable {κ : Type} [Console κ]

/-- Fetches, decodes and carries out one instruction, and tells what was traced of it. -/
def cycle (settings : Settings) (program : Program) (core : Core) (console : κ) :
    Effect κ × List Event :=
  match program.fetch with
  | .error e => (⟨.fail e, program, core, console⟩, [])
  | .ok (fetched, program) =>
    match Instruction.decode fetched.opcode fetched.operands with
    | .error e => (⟨.fail e, program, core, console⟩, [])
    | .ok i =>
      let traced := if settings.trace.covers fetched.opcode then [.exec fetched core] else []
      (execute settings.endOfInput program core console i, traced)

/-- One step. -/
def step (m : Machine) (console : κ) : Transition κ :=
  match m with
  | ⟨settings, program, core, .running, cycles⟩ =>
    let address := program.ip
    let cycles := cycles + 1
    match cycle settings program core console with
    | (⟨.next, program, core, console⟩, traced) =>
      ⟨.ok .running, ⟨settings, program, core, .running, cycles⟩, console, traced⟩
    | (⟨.halt reason, program, core, console⟩, traced) =>
      ⟨.ok (.halted reason), ⟨settings, program, core, .halted reason, cycles⟩, console,
        traced ++ [.halted address cycles reason]⟩
    | (⟨.fail error, program, core, console⟩, traced) =>
      ⟨.error ⟨address, error⟩, ⟨settings, program, core, .faulted, cycles⟩, console,
        traced ++ [.faulted address cycles error]⟩
  | m => ⟨.error ⟨m.program.ip, .machineHalted⟩, m, console, []⟩

/-- Whether the next step reads a character. -/
def awaitsInput (m : Machine) : Bool :=
  match m.program.peek with
  | .error _ => false
  | .ok f =>
    match Instruction.decode f.opcode f.operands with
    | .ok (.input _) => m.status = .running
    | _ => false

theorem step_of_ne_running {m : Machine} (h : m.status ≠ .running) (console : κ) :
    m.step console = ⟨.error ⟨m.program.ip, .machineHalted⟩, m, console, []⟩ := by
  unfold step
  split
  · exact absurd rfl h
  · rfl

theorem step_result {m : Machine} {console : κ} {status : Status}
    (h : (m.step console).result = .ok status) : (m.step console).machine.status = status := by
  unfold step at h ⊢
  split at h
  · dsimp only at h ⊢
    split at h <;> simp_all
  · simp at h

end Machine

end CellMachine
