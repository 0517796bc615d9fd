import CellMachine.Console.Terminal
import CellMachine.Proofs.Execute
import CellMachine.Proofs.Step

/-!
# Steps that stop the machine

A step that halts or fails is all or nothing. Cells, registers and stack are those from before, one
cycle is counted, and the fault names the address from before. Only two things can have moved: the
instruction pointer, which is past whatever could be fetched, and the console, if the last
instruction was to write or to read.

## Main statements

* `stopped_of_result_ne_running` — all of this, for every machine at every console
* `LastUse.output`, `LastUse.input` — what that means for the bytes of a terminal
* `step_all_or_nothing` — both together
-/

namespace CellMachine.Machine

/-! ## What is left -/

section Left

variable {κ : Type} [Console κ]

/--
What a step that stops the machine may have done to the console.

A character that has been written does not stop the machine, so that only a write in vain counts.
After a read the machine can stop for several reasons, and the character is gone in all of them.
-/
inductive LastUse (m : Machine) (console : κ) : Except Fault Status → κ → Prop
  | unused (result : Except Fault Status) : LastUse m console result console
  | written {x : Operand} {c : Char} {cause : ConsoleError} (executes : m.Executes (.output x))
    (char : charOfCell? (m.core.value x) = some c)
    (refused : (Console.write c console).1 = .error cause) :
    LastUse m console (.error ⟨m.program.ip, .console cause⟩) (Console.write c console).2
  | read {dst : Register} (executes : m.Executes (.input dst)) (result : Except Fault Status) :
    LastUse m console result (Console.read console).2

/-- What is left after a step that stops the machine. -/
structure Stopped (m : Machine) (console : κ) (t : Transition κ) : Prop where
  cells : t.machine.program.cells = m.program.cells
  registers : t.machine.core.registers = m.core.registers
  stack : t.machine.core.stack = m.core.stack
  settings : t.machine.settings = m.settings
  cycles : t.machine.cycles = m.cycles + 1
  /-- The machine has halted for a reason, or it has failed at the address from before. -/
  answer :
    (∃ reason, t.result = .ok (.halted reason) ∧ t.machine.status = .halted reason) ∨
      ∃ error, t.result = .error ⟨m.program.ip, error⟩ ∧ t.machine.status = .faulted
  /-- Where nothing can be fetched, that is the fault, and the pointer stays. -/
  ip_of_fetch_error : ∀ e, m.program.fetch = .error e →
    t.result = .error ⟨m.program.ip, e⟩ ∧ t.machine.program.ip = m.program.ip
  /-- What is fetched is passed, whether or not it can be decoded and executed. -/
  ip_of_fetch_ok : ∀ f q, m.program.fetch = .ok (f, q) →
    t.machine.program.ip = m.program.ip + 1 + f.opcode.arity
  console : LastUse m console t.result t.console

end Left

/-! ## The cases of a step -/

section Cases

variable {κ : Type} [Console κ] {m : Machine} {console : κ}

/-- Nothing is fetched. -/
theorem stopped_of_peek_error {e : Error} (h : m.program.peek = .error e) :
    Stopped m console (m.settle ⟨.fail e, m.program, m.core, console⟩ []) where
  cells := by rw [settle_program]
  registers := by rw [settle_core]
  stack := by rw [settle_core]
  settings := settle_settings m _ _
  cycles := settle_cycles m _ _
  answer := settle_answer Flow.noConfusion
  ip_of_fetch_error := by
    intro e' he'
    rw [Program.fetch_eq_error_iff, h] at he'
    obtain rfl := Except.error.inj he'
    exact ⟨rfl, rfl⟩
  ip_of_fetch_ok := by
    intro f q hf
    rw [Program.fetch_eq_ok_iff, h] at hf
    cases hf.1
  console := by
    rw [settle_console]
    exact .unused _

/-- What has been fetched leaves cells and core alone: a part of the next two cases. -/
theorem stopped_of_peek_ok {f : Fetched} {left : Effect κ} {events : List Event}
    (h : m.program.peek = .ok f) (hflow : left.flow ≠ .next)
    (hprogram : left.program = m.program.jump f.next) (hcore : left.core = m.core)
    (hconsole : LastUse m console (m.settle left events).result left.console) :
    Stopped m console (m.settle left events) where
  cells := by rw [settle_program, hprogram, Program.cells_jump]
  registers := by rw [settle_core, hcore]
  stack := by rw [settle_core, hcore]
  settings := settle_settings m _ _
  cycles := settle_cycles m _ _
  answer := settle_answer hflow
  ip_of_fetch_error := by
    intro e he
    rw [Program.fetch_eq_error_iff, h] at he
    cases he
  ip_of_fetch_ok := by
    intro f' q hf
    rw [Program.fetch_eq_ok_iff, h] at hf
    obtain rfl := Except.ok.inj hf.1
    rw [settle_program, hprogram, Program.ip_jump, Fetched.next, (Program.peek_eq_ok_iff.mp h).1]
  console := by
    rw [settle_console]
    exact hconsole

/-- An instruction that stops the machine has left the console alone, has read, or has tried to
write. -/
theorem lastUse_of_executes {i : Instruction} (h : m.Executes i)
    (hflow : (m.effect console i).flow ≠ .next) (events : List Event) :
    LastUse m console (m.settle (m.effect console i) events).result
      (m.effect console i).console := by
  have hleft : (m.effect console i).console = _ := console_execute _ _ _ console i
  cases i with
  | output x =>
    cases hchar : charOfCell? (m.core.value x) with
    | none =>
      rw [hleft]
      simp only [hchar]
      exact .unused _
    | some c =>
      cases hwrite : Console.write c console with
      | mk answer console' =>
        cases answer with
        | ok _ =>
          -- a character that has been written does not stop the machine
          refine absurd ?_ hflow
          simp only [effect, execute, hchar, hwrite]
        | error cause =>
          have hfail : (m.effect console (.output x)).flow = .fail (.console cause) := by
            simp only [effect, execute, hchar, hwrite]
          have hrefused : (Console.write c console).1 = .error cause := by rw [hwrite]
          rw [hleft, (settle_of_fail hfail).1]
          simp only [hchar]
          exact .written h hchar hrefused
  | input dst =>
    rw [hleft]
    exact .read h _
  | _ =>
    rw [hleft]
    exact .unused _

/-- An instruction has been executed and has stopped the machine. -/
theorem stopped_of_executes {i : Instruction} (h : m.Executes i)
    (hflow : (m.effect console i).flow ≠ .next) (events : List Event) :
    Stopped m console (m.settle (m.effect console i) events) := by
  obtain ⟨hprogram, hcore⟩ := execute_of_flow_ne_next hflow
  exact stopped_of_peek_ok (Program.at_iff.mp h.2) hflow hprogram hcore
    (lastUse_of_executes h hflow events)

/-- What is left after every step that does not leave the machine running. -/
theorem stopped_of_result_ne_running (hm : m.status = .running)
    (h : (m.step console).result ≠ .ok .running) : Stopped m console (m.step console) := by
  rcases m.step_cases console hm with ⟨e, hpeek, heq⟩ | ⟨f, e, hpeek, -, heq⟩ | ⟨i, hi, heq⟩
  · rw [heq]
    exact stopped_of_peek_error hpeek
  · rw [heq]
    exact stopped_of_peek_ok hpeek Flow.noConfusion rfl rfl (.unused _)
  · rw [heq, ne_eq, settle_result_eq_running_iff] at h
    rw [heq]
    exact stopped_of_executes hi h _

end Cases

/-! ## At a terminal -/

section AtTerminal

variable {m : Machine} {t t' : Terminal} {result : Except Fault Status}

/-- Bytes of the output are never taken back. -/
theorem LastUse.bytes_output (h : LastUse m t result t') :
    t.output.bytes.toList <+: t'.output.bytes.toList := by
  cases h with
  | unused => exact List.prefix_rfl
  | written _ _ _ =>
    show _ <+: (Terminal.write _ t).2.output.bytes.toList
    rw [Terminal.bytes_write]
    exact List.prefix_append _ _
  | read _ =>
    show _ <+: t.read.2.output.bytes.toList
    simp only [Terminal.output_read, List.prefix_rfl]

/-- There is more output only after a write that has failed. -/
theorem LastUse.output (h : LastUse m t result t') (hne : t'.output ≠ t.output) :
    ∃ x cause, m.Executes (.output x) ∧ result = .error ⟨m.program.ip, .console cause⟩ := by
  cases h with
  | unused => exact absurd rfl hne
  | @written x _ cause hi _ _ => exact ⟨x, cause, hi, rfl⟩
  | read _ => exact absurd (Terminal.output_read t) hne

/-- There is less input only after a read. -/
theorem LastUse.input (h : LastUse m t result t') (hne : t'.input ≠ t.input) :
    ∃ dst, m.Executes (.input dst) := by
  cases h with
  | unused => exact absurd rfl hne
  | written _ _ _ => exact absurd (Terminal.input_write _ t) hne
  | @read dst hi _ => exact ⟨dst, hi⟩

/-- **A step that does not leave the machine running is all or nothing**, at every console. At a
terminal bytes are written only by a failed write, and read only by a read. -/
theorem step_all_or_nothing (m : Machine) (hm : m.status = .running) :
    (∀ {κ : Type} [Console κ] (console : κ), (m.step console).result ≠ .ok .running →
        m.Stopped console (m.step console)) ∧
      ∀ t : Terminal, (m.step t).result ≠ .ok .running →
        t.output.bytes.toList <+: (m.step t).console.output.bytes.toList ∧
          ((m.step t).console.output ≠ t.output → ∃ x cause, m.Executes (.output x) ∧
            (m.step t).result = .error ⟨m.program.ip, .console cause⟩) ∧
          ((m.step t).console.input ≠ t.input → ∃ dst, m.Executes (.input dst)) := by
  refine ⟨fun console h => stopped_of_result_ne_running hm h, ?_⟩
  intro t h
  have huse := (stopped_of_result_ne_running hm h).console
  exact ⟨huse.bytes_output, huse.output, huse.input⟩

/-- A character of two bytes at a terminal with room for one: the first byte is written, the machine
has failed, and all else is as it was. -/
theorem stopped_of_full_output :
    let m := start {} (.ofCells [19, 233])
    let t : Terminal := ⟨.ofBytes [], .empty (some 1)⟩
    m.status = .running ∧ (m.step t).result = .error ⟨0, .console .full⟩ ∧
      m.Stopped t (m.step t) ∧ (m.step t).console.output.bytes = #[0xC3] := by
  intro m t
  have hresult : (m.step t).result = .error ⟨0, .console .full⟩ := by rfl
  have hne : (m.step t).result ≠ .ok .running := by
    rw [hresult]
    intro h
    cases h
  exact ⟨rfl, hresult, (step_all_or_nothing m rfl).1 t hne, by decide +kernel⟩

end AtTerminal

end CellMachine.Machine
