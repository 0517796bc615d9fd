import CellMachine.Proofs.Step
import CellMachine.Proofs.Table.Basic

/-!
# The machine follows the instruction table

A machine is seen as a `Snapshot`, word by word. The proof goes along the three cases of a step
(`Machine.step_cases`): what is not fetched and what is not decoded fails in the table with the same
error, and an instruction that is executed has the effect of its row.

## Main statements

* `snapshot_injective` — a snapshot tells all of the program and the core
* `apply_row` — an instruction has the effect of its row
* `step_eq_table` — a step of the machine is a step of the table
-/

namespace CellMachine.Table

/-! ## Views -/

/-- The program and the core in natural numbers. -/
def snapshot (p : Program) (core : Core) : Snapshot where
  memory := p.cells.toList.map UInt16.toNat
  ip := p.ip
  registers := core.registers.toList.map UInt16.toNat
  stack := core.stack.map UInt16.toNat

variable {κ : Type}

/-- An effect in natural numbers. -/
def outcome (left : Effect κ) : Outcome κ :=
  ⟨left.flow, snapshot left.program left.core, left.console⟩

/-- A transition in natural numbers, without its reports. -/
def answer (t : Transition κ) : Answer κ :=
  ⟨t.result, t.machine.status, snapshot t.machine.program t.machine.core, t.machine.cycles,
    t.console⟩

@[simp] theorem length_memory (p : Program) (core : Core) :
    (snapshot p core).memory.length = p.size := by
  simp [snapshot]

theorem memory_getElem? (p : Program) (core : Core) (address : Nat) :
    (snapshot p core).memory[address]? = p.cells[address]?.map UInt16.toNat := by
  simp [snapshot]

theorem snapshot_jump (p : Program) (core : Core) (address : Nat) :
    snapshot (p.jump address) core = { snapshot p core with ip := address } := rfl

theorem snapshot_set (p : Program) (core : Core) (r : Register) (value : Cell) :
    snapshot p (core.set r value) = (snapshot p core).put r.index value.toNat := by
  simp [snapshot, Snapshot.put, Core.set, Registers.set, Registers.toList, Vector.toList_set,
    List.map_set]

theorem registers_getD (p : Program) (core : Core) (r : Register) :
    (snapshot p core).registers.getD r.index 0 = (core.registers.get r).toNat := by
  simp [snapshot, Registers.toList, Registers.get, List.getD_eq_getElem?_getD]

theorem snapshot_write (p : Program) (core : Core) (address : Nat) (value : Cell)
    (h : address < p.size) :
    snapshot (p.set address value h) core =
      { snapshot p core with memory := (snapshot p core).memory.set address value.toNat } := by
  simp [snapshot, Program.set, List.map_set]

theorem snapshot_call (p : Program) (core : Core) (target : Nat) (value : Cell) :
    snapshot (p.jump target) (core.push value) =
      { snapshot p core with stack := value.toNat :: (snapshot p core).stack, ip := target } := rfl

/-- Nothing is lost in the view. -/
theorem snapshot_injective {p q : Program} {core core' : Core}
    (h : snapshot p core = snapshot q core') : p = q ∧ core = core' := by
  obtain ⟨cells, ip⟩ := p
  obtain ⟨cells', ip'⟩ := q
  obtain ⟨⟨values⟩, stack⟩ := core
  obtain ⟨⟨values'⟩, stack'⟩ := core'
  have hword (a b : Cell) : a.toNat = b.toNat → a = b := UInt16.toNat_inj.mp
  simp only [snapshot, Snapshot.mk.injEq] at h
  obtain ⟨hmemory, rfl, hregisters, hstack⟩ := h
  obtain rfl := Array.toList_inj.mp ((List.map_inj_right hword).mp hmemory)
  obtain rfl := Vector.toList_inj.mp ((List.map_inj_right hword).mp hregisters)
  obtain rfl := (List.map_inj_right hword).mp hstack
  exact ⟨rfl, rfl⟩

theorem toNat_eq_zero_iff {c : Cell} : c.toNat = 0 ↔ c = 0 := UInt16.toNat_inj (b := 0)

theorem charOfCell?_eq (c : Cell) :
    charOfCell? c =
      if c.toNat < 0xD800 ∨ 0xDFFF < c.toNat then some (Char.ofNat c.toNat) else none := by
  have hlt := c.toNat_lt
  have hvalid : c.toNat.isValidChar ↔ c.toNat < 0xD800 ∨ 0xDFFF < c.toNat := by
    unfold Nat.isValidChar
    omega
  unfold charOfCell?
  by_cases h : c.toNat.isValidChar
  · rw [dif_pos h, if_pos (hvalid.mp h), Char.ofNat, dif_pos h]
  · rw [dif_neg h, if_neg (mt hvalid.mpr h)]

/-! ## Rows -/

variable [Console κ]

/-- The row of an opcode. -/
def row (policy : EndOfInput) (op : Opcode) : Row κ := (rows policy).get ⟨op.number, op.number_lt⟩

theorem rows_number (policy : EndOfInput) (op : Opcode) :
    (rows (κ := κ) policy)[op.number]? = some (row policy op) :=
  List.getElem?_eq_getElem op.number_lt

theorem opcode_row (policy : EndOfInput) (op : Opcode) :
    (row (κ := κ) policy op).opcode = op := by
  cases op <;> rfl

theorem slots_row (policy : EndOfInput) (op : Opcode) :
    (row (κ := κ) policy op).slots = op.slots := by
  cases op <;> rfl

theorem rows_eq_none_iff (policy : EndOfInput) (c : Cell) :
    (rows (κ := κ) policy)[c.toNat]? = none ↔ Opcode.ofCell c = .error (.unknownOpcode c) := by
  have hrows : (rows (κ := κ) policy)[c.toNat]? = none ↔ 21 < c.toNat := by
    rw [List.getElem?_eq_none_iff]
    rfl
  rw [hrows, ← Opcode.ofNumber?_eq_none_iff, Opcode.ofCell]
  cases Opcode.ofNumber? c.toNat <;> simp

/-! ## Operands -/

theorem legal_iff {slot : Slot} {c : Cell} : legal slot c.toNat = true ↔ slot.Admits c := by
  cases slot with
  | destination =>
    simp only [legal, Slot.Admits, modulus, Bool.and_eq_true, decide_eq_true_eq]
    omega
  | source =>
    simp only [legal, Slot.Admits, modulus, decide_eq_true_eq]
    omega

theorem legal_cell {slot : Slot} (content : slot.Content) :
    legal slot (slot.cell content).toNat = true := by
  rw [legal_iff, ← Slot.isSome_read?_iff, Slot.read?_eq_some_iff.mpr rfl]
  rfl

theorem legal_of_read_error {slot : Slot} {c : Cell} {e : Error} (h : slot.read c = .error e) :
    legal slot c.toNat = false ∧ e = .invalidOperand c slot := by
  unfold Slot.read at h
  cases hread : slot.read? c with
  | some content =>
    rw [hread] at h
    cases h
  | none =>
    rw [hread] at h
    refine ⟨?_, (Except.error.inj h).symm⟩
    rw [Bool.eq_false_iff, ne_eq, legal_iff, ← Slot.isSome_read?_iff, hread]
    exact Bool.false_ne_true

theorem illegal?_cells {slots : List Slot} (operands : Operands slots) :
    illegal? slots (operands.cells.map UInt16.toNat) = none := by
  induction operands with
  | nil => rfl
  | cons content rest ih =>
    have hlegal := legal_cell content
    simpa [illegal?, Operands.cells, hlegal] using ih

/-- Where the operands cannot be read, the first that is not legal decides the error. -/
theorem illegal?_of_read_error {op : Opcode} {n : Nat} {slots : List Slot} {cs : List Cell}
    {e : Error} (hlength : cs.length = slots.length) (h : Operands.read op n slots cs = .error e) :
    ∃ slot c, illegal? slots (cs.map UInt16.toNat) = some (slot, c.toNat) ∧
      e = .invalidOperand c slot := by
  induction slots generalizing cs with
  | nil => cases h
  | cons slot slots ih =>
    cases cs with
    | nil => cases hlength
    | cons c cs =>
      cases hc : slot.read c with
      | error e' =>
        obtain ⟨hlegal, rfl⟩ := legal_of_read_error hc
        simp only [Operands.read, hc, Except.error.injEq] at h
        exact ⟨slot, c, by simp [illegal?, hlegal], h.symm⟩
      | ok content =>
        have hlegal : legal slot c.toNat = true := by
          rw [Slot.read_eq_ok_iff.mp hc]
          exact legal_cell content
        cases hcs : Operands.read op n slots cs with
        | ok operands =>
          simp only [Operands.read, hc, hcs] at h
          cases h
        | error e' =>
          simp only [Operands.read, hc, hcs, Except.error.injEq] at h
          subst h
          obtain ⟨slot', c', hfind, he⟩ := ih (Nat.succ.inj hlength) hcs
          refine ⟨slot', c', ?_, he⟩
          simpa [illegal?, hlegal] using hfind

/-- What operands stand for: the number of a register, or a value. -/
def arguments (core : Core) : {slots : List Slot} → Operands slots → List Nat
  | _, .nil => []
  | .destination :: _, .cons r rest => (Register.index r : Nat) :: arguments core rest
  | .source :: _, .cons o rest => (core.value o).toNat :: arguments core rest

theorem register_cell (r : Register) : 32768 ≤ r.cell.toNat ∧ r.cell.toNat - 32768 = r.index := by
  have hr := r.toNat_cell
  simp only [modulus] at hr
  omega

theorem resolve_register (registers : List Nat) (r : Register) :
    resolve registers .destination r.cell.toNat = r.index := by
  rw [resolve, if_pos rfl, (register_cell r).2]

theorem resolve_operand (p : Program) (core : Core) (o : Operand) :
    resolve (snapshot p core).registers .source o.cell.toNat = (core.value o).toNat := by
  rw [resolve, if_neg Slot.noConfusion]
  cases o with
  | literal value h =>
    have hlt : (Operand.literal value h).cell.toNat < 32768 := h
    rw [if_pos hlt]
    rfl
  | register r =>
    obtain ⟨hle, hindex⟩ := register_cell r
    simp only [Operand.cell, hindex, if_neg (Nat.not_lt.mpr hle)]
    exact registers_getD p core r

theorem zipWith_resolve (p : Program) (core : Core) {slots : List Slot}
    (operands : Operands slots) :
    List.zipWith (resolve (snapshot p core).registers) slots (operands.cells.map UInt16.toNat) =
      arguments core operands := by
  induction operands with
  | nil => rfl
  | @cons slot _ content rest ih =>
    cases slot with
    | destination =>
      simp only [Operands.cells, Slot.cell, List.map_cons, List.zipWith_cons_cons, ih, arguments,
        resolve_register]
    | source =>
      simp only [Operands.cells, Slot.cell, List.map_cons, List.zipWith_cons_cons, ih, arguments,
        resolve_operand]

/-! ## Effects

One equation for each row that computes, branches, or can fail; the other rows are read off.
-/

section Effects

variable (policy : EndOfInput) (p : Program) (core : Core) (console : κ)

theorem outcome_value {op : BinaryOp} (dst : Register) {a b : Operand} {value : Cell}
    (h : op.apply (core.value a) (core.value b) = .ok value) :
    outcome (execute policy p core console (.binary op dst a b)) =
      ⟨.next, (snapshot p core).put dst.index value.toNat, console⟩ := by
  simp only [execute, h, outcome, snapshot_set]

/-- A binary operation leaves the value that its row computes. -/
theorem effect_binary (op : BinaryOp) (dst : Register) (a b : Operand) :
    (row policy op.opcode).effect (snapshot p core) console dst.index (core.value a).toNat
        (core.value b).toNat =
      outcome (execute policy p core console (.binary op dst a b)) := by
  have hput (n m : Nat) (h : n = m) :
      Outcome.mk .next ((snapshot p core).put dst.index n) console =
        ⟨.next, (snapshot p core).put dst.index m, console⟩ := by rw [h]
  have ha := (core.value a).toNat_lt
  have hb := (core.value b).toNat_lt
  cases op with
  | eq =>
    rw [outcome_value policy p core console dst rfl]
    refine hput _ _ ?_
    simp only [← UInt16.toNat_inj]
    split <;> rfl
  | gt =>
    rw [outcome_value policy p core console dst rfl]
    refine hput _ _ ?_
    simp only [UInt16.lt_iff_toNat_lt, gt_iff_lt]
    split <;> rfl
  | add =>
    rw [outcome_value policy p core console dst rfl]
    refine hput _ _ ?_
    -- the sum is reduced before it is cut to a word, so that nothing is lost
    rw [UInt16.toNat_ofNat', modulus]
    omega
  | mul =>
    rw [outcome_value policy p core console dst rfl]
    refine hput _ _ ?_
    rw [UInt16.toNat_ofNat', modulus]
    omega
  | mod =>
    by_cases hzero : core.value b = 0
    · have happly : BinaryOp.mod.apply (core.value a) (core.value b) = .error .divisionByZero := by
        rw [BinaryOp.apply, if_pos hzero]
      simp only [execute, happly]
      exact if_pos (by rw [hzero]; rfl)
    · have happly : BinaryOp.mod.apply (core.value a) (core.value b) =
          .ok (core.value a % core.value b) := by
        rw [BinaryOp.apply, if_neg hzero]
      rw [outcome_value policy p core console dst happly, UInt16.toNat_mod]
      exact if_neg fun h => hzero (UInt16.toNat_inj.mp h)
  | and =>
    rw [outcome_value policy p core console dst rfl]
    exact hput _ _ (UInt16.toNat_and _ _).symm
  | or =>
    rw [outcome_value policy p core console dst rfl]
    exact hput _ _ (UInt16.toNat_or _ _).symm

theorem effect_not (dst : Register) (value : Operand) :
    (row policy .not).effect (snapshot p core) console dst.index (core.value value).toNat 0 =
      outcome (execute policy p core console (.not dst value)) := by
  show Outcome.mk .next ((snapshot p core).put dst.index ((core.value value).toNat ^^^ 32767))
      console = ⟨.next, snapshot p (core.set dst (invert (core.value value))), console⟩
  rw [snapshot_set, invert, UInt16.toNat_xor]
  rfl

theorem effect_pop (dst : Register) :
    (row policy .pop).effect (snapshot p core) console dst.index 0 0 =
      outcome (execute policy p core console (.pop dst)) := by
  obtain ⟨registers, stack⟩ := core
  cases stack with
  | nil => rfl
  | cons value rest =>
    show Outcome.mk .next ((snapshot p ⟨registers, rest⟩).put dst.index value.toNat) console =
      ⟨.next, snapshot p (Core.set ⟨registers, rest⟩ dst value), console⟩
    rw [snapshot_set]

theorem effect_jumpIf (cond target : Operand) :
    (row policy .jumpIf).effect (snapshot p core) console (core.value cond).toNat
        (core.value target).toNat 0 =
      outcome (execute policy p core console (.jumpIf cond target)) := by
  by_cases hzero : core.value cond = 0
  · simp only [execute, if_pos hzero]
    exact if_neg (not_not_intro (toNat_eq_zero_iff.mpr hzero))
  · simp only [execute, if_neg hzero]
    exact if_pos (mt toNat_eq_zero_iff.mp hzero)

theorem effect_jumpUnless (cond target : Operand) :
    (row policy .jumpUnless).effect (snapshot p core) console (core.value cond).toNat
        (core.value target).toNat 0 =
      outcome (execute policy p core console (.jumpUnless cond target)) := by
  by_cases hzero : core.value cond = 0
  · simp only [execute, if_pos hzero]
    exact if_pos (toNat_eq_zero_iff.mpr hzero)
  · simp only [execute, if_neg hzero]
    exact if_neg (mt toNat_eq_zero_iff.mp hzero)

theorem effect_load (dst : Register) (address : Operand) :
    (row policy .load).effect (snapshot p core) console dst.index (core.value address).toNat 0 =
      outcome (execute policy p core console (.load dst address)) := by
  have hmemory := memory_getElem? p core (core.value address).toNat
  simp only [row, rows, Opcode.number, List.get, hmemory, execute, Program.read]
  cases p.cells[(core.value address).toNat]? with
  | some value => simp only [Option.map_some, outcome, snapshot_set]
  | none => simp only [Option.map_none, outcome, length_memory]

theorem effect_store (address value : Operand) :
    (row policy .store).effect (snapshot p core) console (core.value address).toNat
        (core.value value).toNat 0 =
      outcome (execute policy p core console (.store address value)) := by
  by_cases hlt : (core.value address).toNat < p.size
  · simp only [execute, dif_pos hlt, outcome, snapshot_write]
    exact if_pos (by rw [length_memory]; exact hlt)
  · simp only [execute, dif_neg hlt, outcome]
    rw [← length_memory p core] at hlt ⊢
    exact if_neg hlt

theorem effect_call (target : Operand) :
    (row policy .call).effect (snapshot p core) console (core.value target).toNat 0 0 =
      outcome (execute policy p core console (.call target)) := by
  by_cases hlt : p.ip < UInt16.size
  · have hip : (UInt16.ofNat p.ip).toNat = p.ip := UInt16.toNat_ofNat_of_lt hlt
    simp only [execute, if_pos hlt, outcome, snapshot_call, hip]
    exact if_pos (Nat.le_of_lt_succ hlt)
  · simp only [execute, if_neg hlt, outcome]
    rw [← length_memory p core]
    exact if_neg fun hle => hlt (Nat.lt_succ_of_le hle)

theorem effect_ret :
    (row policy .ret).effect (snapshot p core) console 0 0 0 =
      outcome (execute policy p core console .ret) := by
  obtain ⟨registers, stack⟩ := core
  cases stack <;> rfl

theorem effect_output (value : Operand) :
    (row policy .output).effect (snapshot p core) console (core.value value).toNat 0 0 =
      outcome (execute policy p core console (.output value)) := by
  simp only [row, rows, Opcode.number, List.get, execute, charOfCell?_eq]
  by_cases hscalar : (core.value value).toNat < 0xD800 ∨ 0xDFFF < (core.value value).toNat
  · simp only [if_pos hscalar]
    generalize Console.write (Char.ofNat (core.value value).toNat) console = answer
    obtain ⟨_ | _, console'⟩ := answer <;> rfl
  · simp only [if_neg hscalar, UInt16.ofNat_toNat, outcome]

theorem effect_input (dst : Register) :
    (row policy .input).effect (snapshot p core) console dst.index 0 0 =
      outcome (execute policy p core console (.input dst)) := by
  simp only [row, rows, Opcode.number, List.get, execute]
  generalize Console.read console = answer
  obtain ⟨cause | _ | char, console'⟩ := answer
  · rfl
  · cases policy <;> rfl
  · by_cases hlt : char.toNat < 32768
    · have hcell : cellOfChar? char = some (.ofNat char.toNat) := if_pos hlt
      have hvalue : (UInt16.ofNat char.toNat).toNat = char.toNat :=
        UInt16.toNat_ofNat_of_lt (Nat.lt_trans hlt (by decide))
      simp only [if_pos hlt, hcell, outcome, snapshot_set, hvalue]
    · have hcell : cellOfChar? char = none := if_neg hlt
      simp only [if_neg hlt, hcell, outcome]

/-- **An instruction has the effect of its row.** -/
theorem apply_row (i : Instruction) :
    (row policy i.opcode).apply (i.operandCells.map UInt16.toNat) (snapshot p core) console =
      outcome (execute policy p core console i) := by
  unfold Row.apply
  rw [slots_row, Instruction.operandCells, illegal?_cells, zipWith_resolve]
  dsimp only
  cases i with
  | halt | push _ | jump _ | noop => rfl
  | set dst value =>
    show Outcome.mk .next ((snapshot p core).put dst.index (core.value value).toNat) console =
      ⟨.next, snapshot p (core.set dst (core.value value)), console⟩
    rw [snapshot_set]
  | binary op dst a b =>
    have heffect := effect_binary policy p core console op dst a b
    -- the number of arguments is known only for each operation by itself
    cases op <;> exact heffect
  | not dst value => exact effect_not policy p core console dst value
  | pop dst => exact effect_pop policy p core console dst
  | jumpIf cond target => exact effect_jumpIf policy p core console cond target
  | jumpUnless cond target => exact effect_jumpUnless policy p core console cond target
  | load dst address => exact effect_load policy p core console dst address
  | store address value => exact effect_store policy p core console address value
  | call target => exact effect_call policy p core console target
  | ret => exact effect_ret policy p core console
  | output value => exact effect_output policy p core console value
  | input dst => exact effect_input policy p core console dst

end Effects

/-! ## Steps -/

theorem memory_ip (p : Program) (core : Core) :
    (snapshot p core).memory[(snapshot p core).ip]? = p.cells[p.ip]?.map UInt16.toNat :=
  memory_getElem? p core p.ip

theorem attempt_of_peek_error {p : Program} {e : Error} (h : p.peek = .error e)
    (policy : EndOfInput) (core : Core) (console : κ) :
    attempt policy (snapshot p core) console = ⟨.fail e, snapshot p core, console⟩ := by
  simp only [attempt, memory_ip, length_memory]
  rcases Program.peek_eq_error_iff.mp h with
    ⟨hle, rfl⟩ | ⟨c, hcell, hop | ⟨op, hop, hshort, rfl⟩⟩
  · -- outside the memory
    rw [Array.getElem?_eq_none hle]
    rfl
  · -- no row of that number
    obtain rfl := (Opcode.ofCell_eq_error_iff.mp hop).2
    simp only [hcell, Option.map_some, (rows_eq_none_iff policy c).mpr hop, UInt16.ofNat_toNat]
  · -- too few cells for the operands
    have hnumber : c.toNat = op.number := Opcode.ofCell_eq_ok_iff.mp hop
    have hlt : p.size - p.ip - 1 < op.slots.length := by
      have hip := (Array.getElem?_eq_some_iff.mp hcell).1
      rw [op.length_slots]
      simp only [Program.size] at hshort ⊢
      omega
    simp only [hcell, Option.map_some, hnumber, rows_number, slots_row, opcode_row]
    refine (if_pos hlt).trans ?_
    rw [Nat.sub_sub]
    rfl

theorem attempt_of_peek_ok {p : Program} {f : Fetched} (h : p.peek = .ok f)
    (policy : EndOfInput) (core : Core) (console : κ) :
    attempt policy (snapshot p core) console =
      (row policy f.opcode).apply (f.operands.map UInt16.toNat) (snapshot (p.jump f.next) core)
        console := by
  obtain ⟨haddress, hcell, hle, hoperands⟩ := Program.peek_eq_ok_iff.mp h
  simp only [Fetched.next, ← Opcode.length_slots, haddress] at hle hoperands
  have hslice : ((snapshot p core).memory.drop (p.ip + 1)).take f.opcode.slots.length =
      f.operands.map UInt16.toNat := by
    rw [hoperands, Array.toList_extract, List.extract, Nat.add_sub_cancel_left, List.map_take,
      List.map_drop]
    rfl
  simp only [attempt, memory_ip, hcell, Option.map_some, Opcode.toNat_cell, rows_number, slots_row,
    length_memory]
  refine (if_neg (by show ¬p.size - p.ip - 1 < _; omega)).trans ?_
  rw [← hslice, snapshot_jump, Fetched.next, ← Opcode.length_slots, haddress]
  rfl

/-- Operand cells that cannot be decoded fail in the row with the same error. -/
theorem apply_of_decode_error {op : Opcode} {cs : List Cell} {e : Error}
    (hlength : cs.length = op.arity) (h : Instruction.decode op cs = .error e)
    (policy : EndOfInput) (s : Snapshot) (console : κ) :
    (row policy op).apply (cs.map UInt16.toNat) s console = ⟨.fail e, s, console⟩ := by
  unfold Instruction.decode at h
  cases hread : Operands.read op cs.length op.slots cs with
  | ok operands =>
    rw [hread] at h
    cases h
  | error e' =>
    simp only [hread, Except.error.injEq] at h
    subst h
    have hslots : cs.length = op.slots.length := hlength.trans op.length_slots.symm
    obtain ⟨slot, c, hillegal, rfl⟩ := illegal?_of_read_error hslots hread
    simp only [Row.apply, slots_row, hillegal, UInt16.ofNat_toNat]

theorem answer_settle {m : Machine} {left : Effect κ} {policy : EndOfInput} {console : κ}
    (h : attempt policy (snapshot m.program m.core) console = outcome left) (events : List Event) :
    answer (m.settle left events) =
      step policy m.cycles (snapshot m.program m.core) console := by
  unfold step
  rw [h]
  obtain ⟨flow, p, core, console'⟩ := left
  cases flow <;> rfl

/-- **A step of a running machine is the step of the instruction table**, whatever the memory, the
instruction pointer, the registers, the stack, the settings and the console are. -/
theorem step_eq_table (settings : Settings) (p : Program) (core : Core) (cycles : Nat)
    (console : κ) :
    answer (Machine.step ⟨settings, p, core, .running, cycles⟩ console) =
        step settings.endOfInput cycles (snapshot p core) console ∧
      (Machine.step ⟨settings, p, core, .running, cycles⟩ console).machine.settings = settings := by
  generalize hm : (⟨settings, p, core, .running, cycles⟩ : Machine) = m
  obtain ⟨rfl, rfl, rfl, hrunning, rfl⟩ :
      m.settings = settings ∧ m.program = p ∧ m.core = core ∧ m.status = .running ∧
        m.cycles = cycles := by
    subst hm
    exact ⟨rfl, rfl, rfl, rfl, rfl⟩
  rcases m.step_cases console hrunning with ⟨e, hpeek, heq⟩ | ⟨f, e, hpeek, hdecode, heq⟩ |
    ⟨i, hi, heq⟩
  · rw [heq, Machine.settle_settings]
    exact ⟨answer_settle (attempt_of_peek_error hpeek _ _ _) [], rfl⟩
  · rw [heq, Machine.settle_settings]
    refine ⟨answer_settle ?_ [], rfl⟩
    rw [attempt_of_peek_ok hpeek,
      apply_of_decode_error (Program.length_operands hpeek) hdecode]
    rfl
  · rw [heq, Machine.settle_settings]
    refine ⟨answer_settle ?_ _, rfl⟩
    rw [attempt_of_peek_ok (Program.at_iff.mp hi.2)]
    exact apply_row _ _ _ _ i

end CellMachine.Table
