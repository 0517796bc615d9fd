import CellMachine.Machine.Execute

/-!
# What executing an instruction does to each part of the machine

One equation for each part, over all instructions: the registers, the stack, the memory, the
instruction pointer and the console. An instruction that fails or halts is covered, too; the
equations then say that the part is as it was, but for the console. What comes after an instruction
is told for those that depend on an address, and the errors for all of them.
-/

namespace CellMachine

/-! ## Values -/

theorem BinaryOp.apply_eq_error {op : BinaryOp} {a b : Cell} {e : Error}
    (h : op.apply a b = .error e) : e = .divisionByZero := by
  cases op with
  | mod =>
    simp only [apply] at h
    split at h
    · exact (Except.error.inj h).symm
    · cases h
  | _ => cases h

theorem Program.read_eq_error_iff {p : Program} {address : Nat} {e : Error} :
    p.read address = .error e ↔ p.size ≤ address ∧ e = .outOfBounds address p.size := by
  unfold read
  split
  · next c hc =>
    obtain ⟨hlt, -⟩ := Array.getElem?_eq_some_iff.mp hc
    simp only [reduceCtorEq, false_iff, not_and]
    intro hle
    exact absurd hlt (Nat.not_lt_of_le hle)
  · next hnone =>
    have hle : p.size ≤ address := Array.getElem?_eq_none_iff.mp hnone
    simp only [Except.error.injEq, hle, true_and, eq_comm]

theorem toNat_of_cellOfChar? {c : Char} {v : Cell} (h : cellOfChar? c = some v) :
    v.toNat = c.toNat ∧ c.toNat < modulus := by
  unfold cellOfChar? at h
  split at h
  · next hlt =>
    obtain rfl := Option.some.inj h
    refine ⟨?_, hlt⟩
    rw [UInt16.toNat_ofNat']
    exact Nat.mod_eq_of_lt (Nat.lt_trans hlt (by decide))
  · cases h

/-! ## Instructions -/

variable {κ : Type} [Console κ] (policy : EndOfInput) (p : Program) (core : Core) (console : κ)

/-- The register that an instruction writes to, and the value that it puts there, if it comes to
that. -/
def Instruction.received? : Instruction → Option (Register × Cell)
  | .set dst x => some (dst, core.value x)
  | .pop dst => core.stack.head?.map (dst, ·)
  | .binary op dst a b =>
    match op.apply (core.value a) (core.value b) with
    | .ok value => some (dst, value)
    | .error _ => none
  | .not dst x => some (dst, invert (core.value x))
  | .load dst x => p.cells[(core.value x).toNat]?.map (dst, ·)
  | .input dst =>
    match (Console.read console).1 with
    | .ok (some c) => (cellOfChar? c).map (dst, ·)
    | _ => none
  | _ => none

/-- **The registers: an instruction that receives a value puts it into one of them.** -/
theorem registers_execute (i : Instruction) :
    (execute policy p core console i).core.registers =
      match i.received? p core console with
      | some (dst, value) => core.registers.set dst value
      | none => core.registers := by
  cases i with
  | pop dst =>
    simp only [execute, Core.pop?, Instruction.received?]
    cases core.stack <;> rfl
  | binary op dst a b =>
    simp only [execute, Instruction.received?]
    cases op.apply (core.value a) (core.value b) <;> rfl
  | load dst x =>
    simp only [execute, Instruction.received?, Program.read]
    cases p.cells[(core.value x).toNat]? <;> rfl
  | input dst =>
    simp only [execute, Instruction.received?]
    obtain ⟨answer, console'⟩ := Console.read console
    (repeat' split) <;> simp_all [Core.set]
  | ret =>
    simp only [execute, Core.pop?, Instruction.received?]
    cases core.stack <;> rfl
  | _ => dsimp only [execute, Instruction.received?] <;> (repeat' split) <;> rfl

/-- **The stack: `push` and `call` put a value on it, `pop` and `ret` take one from it.** -/
theorem stack_execute (i : Instruction) :
    (execute policy p core console i).core.stack =
      match i with
      | .push x => core.value x :: core.stack
      | .call _ => if p.ip < UInt16.size then .ofNat p.ip :: core.stack else core.stack
      | .pop _ | .ret => core.stack.tail
      | _ => core.stack := by
  cases i with
  | pop _ | ret =>
    simp only [execute, Core.pop?]
    cases h : core.stack <;> simp [Core.set, h]
  | call target =>
    simp only [execute]
    split <;> rfl
  | _ => dsimp only [execute] <;> (repeat' split) <;> rfl

/-- **The memory: only `store` writes to it, and to one cell.** -/
theorem cells_execute (i : Instruction) :
    (execute policy p core console i).program.cells =
      match i with
      | .store address value =>
        p.cells.setIfInBounds (core.value address).toNat (core.value value)
      | _ => p.cells := by
  cases i with
  | store address value =>
    simp only [execute]
    split
    · next h => simp [Program.set, Array.setIfInBounds, h]
    · next h => simp [Array.setIfInBounds, h]
  | _ => dsimp only [execute] <;> (repeat' split) <;> rfl

/-- **The instruction pointer: jumps, `call` and `ret` move it.** -/
theorem ip_execute (i : Instruction) :
    (execute policy p core console i).program.ip =
      match i with
      | .jump target => (core.value target).toNat
      | .jumpIf cond target => if core.value cond = 0 then p.ip else (core.value target).toNat
      | .jumpUnless cond target => if core.value cond = 0 then (core.value target).toNat else p.ip
      | .call target => if p.ip < UInt16.size then (core.value target).toNat else p.ip
      | .ret => (core.stack.head?.map UInt16.toNat).getD p.ip
      | _ => p.ip := by
  cases i with
  | ret =>
    simp only [execute, Core.pop?]
    cases core.stack <;> rfl
  | _ => dsimp only [execute] <;> (repeat' split) <;> rfl

/-- Where an instruction jumps to, if it jumps. -/
def Instruction.target? : Instruction → Option Cell
  | .jump target | .call target => some (core.value target)
  | .jumpIf cond target => if core.value cond = 0 then none else some (core.value target)
  | .jumpUnless cond target => if core.value cond = 0 then some (core.value target) else none
  | .ret => core.stack.head?
  | _ => none

theorem ip_execute_cases (i : Instruction) :
    (execute policy p core console i).program.ip = p.ip ∨
      ∃ a ∈ i.target? core, (execute policy p core console i).program.ip = a.toNat := by
  rw [ip_execute]
  cases i with
  | jump target => exact Or.inr ⟨_, rfl, rfl⟩
  | jumpIf cond target | jumpUnless cond target =>
    simp only [Instruction.target?]
    split
    · simp
    · simp
  | call target =>
    dsimp only
    split
    · exact Or.inr ⟨_, rfl, rfl⟩
    · exact Or.inl rfl
  | ret =>
    simp only [Instruction.target?]
    cases core.stack <;> simp
  | _ => exact Or.inl rfl

/-- **The console: only `output` writes to it, and only `input` reads from it.** -/
theorem console_execute (i : Instruction) :
    (execute policy p core console i).console =
      match i with
      | .output x =>
        match charOfCell? (core.value x) with
        | some c => (Console.write c console).2
        | none => console
      | .input _ => (Console.read console).2
      | _ => console := by
  cases i with
  | output x =>
    dsimp only [execute]
    cases charOfCell? (core.value x) with
    | none => rfl
    | some c =>
      dsimp only
      obtain ⟨answer, console'⟩ := Console.write c console
      cases answer <;> rfl
  | input dst =>
    dsimp only [execute]
    obtain ⟨answer, console'⟩ := Console.read console
    (repeat' split) <;> simp_all
  | _ => dsimp only [execute] <;> (repeat' split) <;> rfl

/-! ### Addresses

These instructions fail if an address is too large: one to load from or to store to, or one to
return to.
-/

variable {policy p core console}

theorem flow_load (dst : Register) (x : Operand) :
    (execute policy p core console (.load dst x)).flow =
      if (core.value x).toNat < p.size then .next
      else .fail (.outOfBounds (core.value x).toNat p.size) := by
  simp only [execute]
  cases hread : p.read (core.value x).toNat with
  | ok value =>
    have hlt := (Array.getElem?_eq_some_iff.mp (Program.read_eq_ok_iff.mp hread)).1
    exact (if_pos hlt).symm
  | error e =>
    obtain ⟨hle, rfl⟩ := Program.read_eq_error_iff.mp hread
    exact (if_neg (Nat.not_lt_of_le hle)).symm

theorem flow_store (x value : Operand) :
    (execute policy p core console (.store x value)).flow =
      if (core.value x).toNat < p.size then .next
      else .fail (.outOfBounds (core.value x).toNat p.size) := by
  simp only [execute]
  split <;> rfl

theorem flow_call (target : Operand) :
    (execute policy p core console (.call target)).flow =
      if p.ip < UInt16.size then .next else .fail (.outOfBounds p.ip p.size) := by
  simp only [execute]
  split <;> rfl

/-! ### Errors -/

/-- Whether an error is one with which an instruction fails, after it has been decoded. -/
def Error.isOfExecution : Error → Bool
  | .outOfBounds .. | .divisionByZero | .invalidCharacter _ | .unrepresentableInput _
  | .inputExhausted | .console _ => true
  | .invalidOperand .. | .unknownOpcode _ | .unknownMnemonic _ | .truncated .. | .machineHalted =>
    false

theorem isOfExecution_of_flow {i : Instruction} {e : Error}
    (h : (execute policy p core console i).flow = .fail e) : e.isOfExecution := by
  revert h
  cases i with
  | binary op dst a b =>
    dsimp only [execute]
    split
    · exact nofun
    · next happly =>
      obtain rfl := BinaryOp.apply_eq_error happly
      rintro ⟨⟩
      rfl
  | load dst x =>
    rw [flow_load]
    split
    · exact nofun
    · rintro ⟨⟩
      rfl
  | _ =>
    dsimp only [execute]
    (repeat' split) <;> rintro ⟨⟩ <;> rfl

/-- An error of the console comes from reading or from writing. -/
theorem error_console_of_flow {i : Instruction} {cause : ConsoleError}
    (h : (execute policy p core console i).flow = .fail (.console cause)) :
    (Console.read console).1 = .error cause ∨ ∃ c, (Console.write c console).1 = .error cause := by
  revert h
  cases i with
  | binary op dst a b =>
    dsimp only [execute]
    split
    · rintro ⟨⟩
    · next happly =>
      obtain rfl := BinaryOp.apply_eq_error happly
      rintro ⟨⟩
  | load dst x =>
    rw [flow_load]
    split <;> rintro ⟨⟩
  | output x =>
    dsimp only [execute]
    cases charOfCell? (core.value x) with
    | none => rintro ⟨⟩
    | some c =>
      dsimp only
      rcases hwrite : Console.write c console with ⟨_ | _, console'⟩
      · rintro ⟨⟩
        exact Or.inr ⟨c, congrArg Prod.fst hwrite⟩
      · rintro ⟨⟩
  | input dst =>
    dsimp only [execute]
    split
    · next hread =>
      rintro ⟨⟩
      exact Or.inl (congrArg Prod.fst hread)
    · split <;> rintro ⟨⟩
    · split <;> rintro ⟨⟩
  | _ =>
    dsimp only [execute]
    (repeat' split) <;> rintro ⟨⟩

end CellMachine
