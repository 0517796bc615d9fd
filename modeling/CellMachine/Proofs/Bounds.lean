import CellMachine.Console.Terminal
import CellMachine.Proofs.Decoding
import CellMachine.Proofs.Memory

/-!
# Faults at cells outside the program

There are two ways for a step to fail with an address out of bounds. It fetches at the address, or
loads or stores there, and the program ends before it. Or it is a `call`, and the address to return
to is too large for a cell; then the fault names that address, whether or not the program ends
before it. Only a program with more cells than a cell has values can tell the two apart.

## Main statements

* `flow_execute_eq_outOfBounds_iff` — the instructions that fail so
* `Machine.step_eq_outOfBounds_iff` — the steps that fail so
* `Session.outOfBounds_after` — the same at any point of a run, in terms of the image
-/

namespace CellMachine

/-! ## Fetching and decoding -/

theorem Instruction.decode_ne_outOfBounds {op : Opcode} {cs : List Cell} {address length : Nat} :
    Instruction.decode op cs ≠ .error (.outOfBounds address length) := by
  rw [ne_eq, decode_eq_error_iff]
  nofun

/-! ## Executing -/

section Execute

variable {κ : Type} [Console κ] {policy : EndOfInput} {p : Program} {core : Core} {console : κ}

theorem ite_eq_outOfBounds_iff {x bound size address length : Nat} :
    (if x < bound then Flow.next else .fail (.outOfBounds x size)) =
        .fail (.outOfBounds address length) ↔
      length = size ∧ bound ≤ address ∧ address = x := by
  split
  · next hlt =>
    simp only [reduceCtorEq, false_iff, not_and]
    rintro - hle rfl
    exact absurd hlt (Nat.not_lt_of_le hle)
  · next hge =>
    simp only [Flow.fail.injEq, Error.outOfBounds.injEq]
    constructor
    · rintro ⟨rfl, rfl⟩
      exact ⟨rfl, Nat.le_of_not_lt hge, rfl⟩
    · rintro ⟨rfl, -, rfl⟩
      exact ⟨rfl, rfl⟩

/-- **The instructions that fail out of bounds**: those that load or store at an address outside the
program, and a `call` with an address to return to that is too large for a cell. -/
theorem flow_execute_eq_outOfBounds_iff {i : Instruction} {address length : Nat} :
    (execute policy p core console i).flow = .fail (.outOfBounds address length) ↔
      length = p.size ∧
        match i with
        | .load _ x | .store x _ => p.size ≤ address ∧ address = (core.value x).toNat
        | .call _ => UInt16.size ≤ address ∧ address = p.ip
        | _ => False := by
  cases i with
  | load dst x => rw [flow_load, ite_eq_outOfBounds_iff]
  | store x value => rw [flow_store, ite_eq_outOfBounds_iff]
  | call target => rw [flow_call, ite_eq_outOfBounds_iff]
  | binary op dst a b =>
    simp only [execute, and_false, iff_false]
    cases happly : op.apply (core.value a) (core.value b) with
    | ok value => exact Flow.noConfusion
    | error e =>
      obtain rfl := BinaryOp.apply_eq_error happly
      simp only [Flow.fail.injEq, reduceCtorEq, not_false_eq_true]
  | _ =>
    dsimp only [execute]
    (repeat' split) <;> simp

end Execute

/-! ## Steps -/

namespace Machine

/-- The next step fetches at the address, or it is to load or to store there. -/
inductive Accesses (m : Machine) (address : Nat) : Prop
  | fetch (ip : address = m.program.ip)
  | load {dst : Register} {x : Operand} (executes : m.Executes (.load dst x))
    (value : address = (m.core.value x).toNat)
  | store {x value : Operand} (executes : m.Executes (.store x value))
    (value : address = (m.core.value x).toNat)

/-- The next step is a `call` that is to return to the address. -/
def CallsBefore (m : Machine) (address : Nat) : Prop :=
  ∃ target, m.Executes (.call target) ∧ address = m.program.ip + 2

variable {κ : Type} [Console κ] {m : Machine} {console : κ} {a address length : Nat}

/-- **The steps that fail out of bounds**, with the address and the length that the fault tells. -/
theorem step_eq_outOfBounds_iff :
    (m.step console).result = .error ⟨a, .outOfBounds address length⟩ ↔
      m.status = .running ∧ a = m.program.ip ∧ length = m.program.size ∧
        (m.Accesses address ∧ length ≤ address ∨
          m.CallsBefore address ∧ UInt16.size ≤ address) := by
  by_cases hm : m.status = .running
  · rw [step_eq_error_iff hm, and_iff_right hm]
    refine and_congr_right fun _ => ?_
    constructor
    · rintro (hpeek | ⟨f, -, hdecode⟩ | ⟨i, hi, hflow⟩)
      · obtain ⟨hle, rfl, rfl⟩ := Program.peek_eq_outOfBounds_iff.mp hpeek
        exact ⟨rfl, Or.inl ⟨.fetch rfl, hle⟩⟩
      · exact absurd hdecode Instruction.decode_ne_outOfBounds
      · obtain ⟨rfl, hi'⟩ := flow_execute_eq_outOfBounds_iff.mp hflow
        refine ⟨rfl, ?_⟩
        cases i with
        | load dst x => exact Or.inl ⟨.load hi hi'.2, hi'.1⟩
        | store x value => exact Or.inl ⟨.store hi hi'.2, hi'.1⟩
        | call target => exact Or.inr ⟨⟨target, hi, hi'.2⟩, hi'.1⟩
        | _ => exact hi'.elim
    · rintro ⟨rfl, ⟨haccess, hle⟩ | ⟨⟨target, hi, rfl⟩, hle⟩⟩
      · cases haccess with
        | fetch hip =>
          exact Or.inl (Program.peek_eq_outOfBounds_iff.mpr ⟨hip ▸ hle, hip, rfl⟩)
        | load hi hvalue =>
          exact Or.inr (Or.inr ⟨_, hi, flow_execute_eq_outOfBounds_iff.mpr ⟨rfl, hle, hvalue⟩⟩)
        | store hi hvalue =>
          exact Or.inr (Or.inr ⟨_, hi, flow_execute_eq_outOfBounds_iff.mpr ⟨rfl, hle, hvalue⟩⟩)
      · exact Or.inr (Or.inr ⟨_, hi, flow_execute_eq_outOfBounds_iff.mpr ⟨rfl, hle, rfl⟩⟩)
  · rw [step_of_ne_running hm]
    exact iff_of_false nofun fun h => hm h.1

/-- The program does not end before the address that a call is to return to. -/
theorem CallsBefore.le_size (h : m.CallsBefore address) : address ≤ m.program.size := by
  obtain ⟨target, hi, rfl⟩ := h
  exact hi.2.next_le

end Machine

/-! ## Runs -/

namespace Session

variable {κ : Type} [Console κ]

theorem step_eq_outOfBounds_iff {s : Session κ} {a address length : Nat} :
    s.step.1 = .error ⟨a, .outOfBounds address length⟩ ↔
      s.machine.status = .running ∧ a = s.ip ∧ length = s.machine.program.size ∧
        (s.machine.Accesses address ∧ length ≤ address ∨
          s.machine.CallsBefore address ∧ UInt16.size ≤ address) := by
  obtain ⟨machine, console, log⟩ := s
  exact Machine.step_eq_outOfBounds_iff

/-- **What a fault out of bounds tells at any point of a run.** The length is that of the program.
The address is one that the step was to fetch at, to load from or to store to, and outside the
program; or it is where a `call` was to return to, 65536 at least, and then it can be outside the
program only by being its end. -/
theorem outOfBounds_after (settings : Settings) (image : List UInt8) (console : κ)
    (n a address length : Nat) :
    let s := (start settings (.ofImage image) console).after n
    s.step.1 = .error ⟨a, .outOfBounds address length⟩ ↔
      s.machine.status = .running ∧ a = s.ip ∧ length = (Image.decode image).length ∧
        (s.machine.Accesses address ∧ length ≤ address ∨
          s.machine.CallsBefore address ∧ UInt16.size ≤ address ∧ address ≤ length) := by
  intro s
  have hsize : s.machine.program.size = (Image.decode image).length := size_after _ n
  rw [step_eq_outOfBounds_iff, hsize]
  constructor
  · rintro ⟨hs, ha, hlength, haccess | ⟨hcall, hle⟩⟩
    · exact ⟨hs, ha, hlength, Or.inl haccess⟩
    · have hend := hcall.le_size
      rw [hsize, ← hlength] at hend
      exact ⟨hs, ha, hlength, Or.inr ⟨hcall, hle, hend⟩⟩
  · rintro ⟨hs, ha, hlength, haccess | ⟨hcall, hle, -⟩⟩
    · exact ⟨hs, ha, hlength, Or.inl haccess⟩
    · exact ⟨hs, ha, hlength, Or.inr ⟨hcall, hle⟩⟩

/-! ### A call from which there is no return -/

/-- A program that jumps over 65528 cells to a `call` at 65534, and what comes after that. The
address of the `call` is too large for a literal, and is loaded from the program. -/
def farCall (between rest : List Cell) : List Cell :=
  [15, 32768, 5, 6, 32768, 65534] ++ between ++ 17 :: 0 :: rest

section FarCall

variable {between rest : List Cell} {settings : Settings} {console : κ}

theorem length_farCall (h : between.length = 65528) :
    (farCall between rest).length = 65536 + rest.length := by
  simp only [farCall, List.length_append, List.length_cons, List.length_nil, h]
  omega

/-- The `call` is where the program has jumped to. -/
theorem at_farCall (h : between.length = 65528) :
    Program.At ⟨(farCall between rest).toArray, 65534⟩ (.call (.literal 0 (by decide))) := by
  have hlength : ([15, 32768, 5, 6, 32768, 65534] ++ between).length = 65534 := by
    simp only [List.length_append, List.length_cons, List.length_nil, h]
  show [17, 0] <+: (farCall between rest).drop 65534
  rw [farCall, List.drop_left' hlength]
  exact ⟨rest, rfl⟩

theorem machine_after_farCall :
    ((start settings (.ofCells (farCall between rest)) console).after 2).machine =
      ⟨settings, ⟨(farCall between rest).toArray, 65534⟩, Core.initial.set ⟨0⟩ 65534, .running,
        2⟩ := by
  generalize hs : start settings (.ofCells (farCall between rest)) console = s
  have hstart : s.machine = .start settings (.ofCells (farCall between rest)) := by rw [← hs]; rfl
  have hload : s.Executes (.load ⟨0⟩ (.literal 5 (by decide))) := by
    rw [Executes, hstart]
    exact ⟨rfl, _, rfl⟩
  have hloaded : s.next.machine =
      ⟨settings, ⟨(farCall between rest).toArray, 3⟩, Core.initial.set ⟨0⟩ 65534, .running, 1⟩ := by
    have hread : Program.read ⟨(farCall between rest).toArray, 3⟩ 5 = .ok 65534 := by
      rw [Program.read_eq_ok_iff, List.getElem?_toArray]
      rfl
    rw [next_of_executes hload, hstart]
    show (Machine.settle _ (execute _ ⟨(farCall between rest).toArray, 3⟩ _ _ _) _).machine = _
    simp only [execute, Core.value, UInt16.reduceToNat, hread]
    rfl
  have hjump : s.next.Executes (.jump (.register ⟨0⟩)) := by
    rw [Executes, hloaded]
    exact ⟨rfl, _, rfl⟩
  show s.next.next.machine = _
  rw [next_of_executes hjump, hloaded]
  rfl

/-- The fault names the cell after the `call`, though it is there unless nothing comes after. -/
theorem step_after_farCall (h : between.length = 65528) :
    ((start settings (.ofCells (farCall between rest)) console).after 2).step.1 =
      .error ⟨65534, .outOfBounds 65536 (65536 + rest.length)⟩ := by
  have hsize : 65536 + rest.length = (farCall between rest).toArray.size := (length_farCall h).symm
  rw [step_eq_outOfBounds_iff, ip, machine_after_farCall]
  exact ⟨rfl, rfl, hsize, Or.inr ⟨⟨_, ⟨rfl, at_farCall h⟩, rfl⟩, Nat.le_refl _⟩⟩

end FarCall

/-- The fault says that cell 65536 is outside a program of 65537 cells, but it is the last one. -/
theorem outOfBounds_of_last_cell :
    let image := Image.encode (farCall (.replicate 65528 0) [0])
    let s := (start {} (.ofImage image) (⟨.ofBytes [], .empty none⟩ : Terminal)).after 2
    s.step.1 = .error ⟨65534, .outOfBounds 65536 65537⟩ ∧ (Image.decode image).length = 65537 := by
  intro image s
  have hdecode : Image.decode image = farCall (.replicate 65528 0) [0] := Image.decode_encode _
  constructor
  · show ((start {} (.ofImage image) _).after 2).step.1 = _
    rw [Program.ofImage, hdecode, step_after_farCall List.length_replicate, List.length_singleton]
  · rw [hdecode, length_farCall List.length_replicate, List.length_singleton]

end Session

end CellMachine
