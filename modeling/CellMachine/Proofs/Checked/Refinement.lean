import CellMachine.Proofs.Checked.Basic
import CellMachine.Proofs.Memory
import CellMachine.Proofs.Utf8

/-!
# No partial operation fails

Each function of the machine of partial operations is defined for all arguments, and gives what the
machine gives. The programs may have any length that leaves room for one instruction more below the
largest number; the instruction pointer, registers, stack, status and input are not restricted.

## Main statements

* `fetch?_eq`, `decode?_eq`, `execute?_eq`, `step?_eq` — fetching, decoding, executing, stepping
* `decodeImage?_eq` — the cells of an image
* `readChar?_eq`, `writeChar?_eq` — characters of a terminal
* `always_defined` — all of these, and where the instruction pointer can be in a run
-/

namespace CellMachine.Checked

/-! ## Partial operations -/

section Lists

variable {α : Type} {start stop : Nat}

theorem slice?_of_le {xs : List α} (h₁ : start ≤ stop) (h₂ : stop ≤ xs.length) :
    slice? xs start stop = some ((xs.drop start).take (stop - start)) :=
  if_pos ⟨h₁, h₂⟩

theorem exists_slice? (xs : List α) (h₁ : start ≤ stop) (h₂ : stop ≤ xs.length) :
    ∃ zs, slice? xs start stop = some zs ∧ zs.length = stop - start := by
  refine ⟨_, slice?_of_le h₁ h₂, ?_⟩
  rw [List.length_take, List.length_drop]
  omega

theorem slice?_of_lt {xs : List α} (h : xs.length < stop) : slice? xs start stop = none :=
  if_neg fun hle => absurd hle.2 (Nat.not_le_of_lt h)

theorem slice?_append_left (xs ys : List α) : slice? (xs ++ ys) 0 xs.length = some xs := by
  rw [slice?_of_le (Nat.zero_le _) (by simp)]
  simp

theorem slice?_toList {xs : Array α} (h₁ : start ≤ stop) (h₂ : stop ≤ xs.size) :
    slice? xs.toList start stop = some (xs.extract start stop).toList := by
  rw [slice?_of_le h₁ (by simpa using h₂), Array.toList_extract, List.extract_eq_take_drop]

theorem overwrite?_of_length {xs ys : List α} (h₁ : start ≤ stop) (h₂ : stop ≤ xs.length)
    (h₃ : ys.length = stop - start) :
    overwrite? xs start stop ys = some (xs.take start ++ ys ++ xs.drop stop) := by
  obtain ⟨slice, hslice, hlength⟩ := exists_slice? xs h₁ h₂
  simp only [overwrite?, hslice, Option.bind_eq_bind, Option.bind_some, hlength, h₃, if_true]

/-- Overwriting the beginning of a buffer that is all the same. -/
theorem overwrite?_replicate {ys : List α} {n : Nat} (x : α) (h : ys.length ≤ n) :
    overwrite? (.replicate n x) 0 ys.length ys = some (ys ++ .replicate (n - ys.length) x) := by
  rw [overwrite?_of_length (Nat.zero_le _) (by simpa using h) (by simp)]
  simp

end Lists

theorem toCell?_of_lt {n : Nat} (h : n < UInt16.size) : toCell? n = some (.ofNat n) := if_pos h

theorem toCell?_mod (n : Nat) : toCell? (n % modulus) = some (.ofNat (n % modulus)) :=
  toCell?_of_lt (Nat.lt_trans (Nat.mod_lt n (by decide)) (by decide))

/-! ## Images -/

theorem toUInt16_eq_joinBytes (low : UInt8) : low.toUInt16 = Image.joinBytes low 0 := by
  apply UInt16.toNat_inj.mp
  rw [Image.toNat_joinBytes, UInt8.toNat_toUInt16]
  rfl

/-- The pieces have one or two bytes. -/
theorem decodeImage?_eq (bytes : List UInt8) : decodeImage? bytes = some (Image.decode bytes) := by
  unfold decodeImage?
  fun_induction Image.decode bytes with
  | case1 => simp [pieces]
  | case2 low => simp [pieces, join?, toUInt16_eq_joinBytes]
  | case3 low high rest ih =>
    rw [pieces]
    simp only [Nat.add_one_sub_one, List.take_succ_cons, List.take_zero, List.drop_succ_cons,
      List.drop_zero, List.mapM_cons, join?, ih]
    rfl

/-! ## Fetching -/

/-- A fetched instruction with its operand cells in a buffer, which is filled up with zeros. -/
def buffered (f : CellMachine.Fetched) : Fetched :=
  ⟨f.address, f.opcode, f.operands ++ .replicate (3 - f.opcode.arity) 0⟩

theorem operands?_buffered {f : CellMachine.Fetched} (h : f.operands.length = f.opcode.arity) :
    (buffered f).operands? = some f.operands := by
  rw [Fetched.operands?, buffered, ← h, slice?_append_left]

/-- That there is a cell at the instruction pointer keeps the sums small and the difference from
being negative; that no opcode has more than three operands keeps them in the buffer. -/
theorem fetch?_eq {largest : Nat} {p : Program} (h : p.size + 3 ≤ largest) :
    fetch? largest p = some (p.fetch.map fun (f, q) => (buffered f, q)) := by
  unfold fetch? Program.fetch Program.peek
  cases hread : p.read p.ip with
  | error e => rfl
  | ok c =>
    obtain ⟨hip, -⟩ := Array.getElem?_eq_some_iff.mp (Program.read_eq_ok_iff.mp hread)
    have hip : p.ip + 1 ≤ p.size := hip
    cases hop : Opcode.ofCell c with
    | error e => simp only [hop, Except.map]
    | ok op =>
      have harity := op.arity_le
      have hstart : within? largest (p.ip + 1) = some (p.ip + 1) := if_pos (by omega)
      have hstop : within? largest (p.ip + 1 + op.arity) = some (p.ip + 1 + op.arity) :=
        if_pos (by omega)
      have havailable : sub? p.size (p.ip + 1) = some (p.size - (p.ip + 1)) := if_pos hip
      simp only [hop, hstart, hstop, havailable, Option.bind_eq_bind, Option.bind_some]
      by_cases hle : p.ip + 1 + op.arity ≤ p.size
      · rw [slice?_toList (Nat.le_add_right _ _) hle]
        generalize hoperands : (p.cells.extract (p.ip + 1) (p.ip + 1 + op.arity)).toList = operands
        have hlength : operands.length = op.arity := by
          rw [← hoperands, Array.length_toList, Array.size_extract, Nat.min_eq_left hle]
          omega
        have hbuffer := overwrite?_replicate (0 : Cell) (Nat.le_trans (Nat.le_of_eq hlength) harity)
        rw [hlength] at hbuffer
        simp only [hbuffer, Option.bind_some, if_pos hle, Except.map, buffered,
          CellMachine.Fetched.next]
      · rw [slice?_of_lt (by simpa using hle)]
        simp only [if_neg hle, Except.map]

theorem fetchOperands?_eq {largest : Nat} {p : Program} (h : p.size + 3 ≤ largest) :
    fetchOperands? largest p = some p.fetch := by
  simp only [fetchOperands?, fetch?_eq h, Option.bind_eq_bind, Option.bind_some]
  cases hfetch : p.fetch with
  | error e => rfl
  | ok fetched =>
    obtain ⟨f, q⟩ := fetched
    have hlength := Program.length_operands (Program.fetch_eq_ok_iff.mp hfetch).1
    simp only [Except.map, operands?_buffered hlength, Option.bind_some]
    rfl

/-! ## Decoding -/

/-- The byte that a register is kept as. -/
def byte (r : Register) : UInt8 := .ofNat r.index

/-- What a slot holds, as it is kept. -/
def stored : (slot : Slot) → slot.Content → Stored
  | .destination, r => .register (byte r)
  | .source, .literal value _ => .number value
  | .source, .register r => .register (byte r)

/-- The operands as they are kept. -/
def storedOperands : {slots : List Slot} → Operands slots → List Stored
  | _, .nil => []
  | slot :: _, .cons content rest => stored slot content :: storedOperands rest

theorem ofIndex?_byte (r : Register) : Register.ofIndex? (byte r).toNat = some r := by
  have hlt := r.index.isLt
  have hbyte : (byte r).toNat = r.index := by
    rw [byte, UInt8.toNat_ofNat']
    omega
  rw [hbyte, Register.ofIndex?, dif_pos hlt]

/-- An index is kept only after it has been found to be less than eight, so that it fits in a byte
and names a register. -/
theorem registerByte?_eq (c : Cell) :
    registerByte? c = some ((Register.ofCell? c).map byte) := by
  unfold registerByte? sub? Register.ofCell?
  by_cases hle : modulus ≤ c.toNat
  · simp only [if_pos hle, Register.ofIndex?]
    by_cases hlt : c.toNat - modulus < 8
    · have hbyte : toByte? (c.toNat - modulus) = some (.ofNat (c.toNat - modulus)) :=
        if_pos (Nat.lt_trans hlt (by decide))
      simp only [if_pos hlt, dif_pos hlt, hbyte, Option.map_some, byte]
    · simp only [if_neg hlt, dif_neg hlt, Option.map_none]
  · simp only [if_neg hle, Option.map_none]

theorem readSlot?_eq (slot : Slot) (c : Cell) :
    readSlot? slot c = some ((slot.read c).map (stored slot)) := by
  have hregister := registerByte?_eq c
  cases slot with
  | destination =>
    simp only [readSlot?, hregister, Slot.read, Slot.read?, reduceCtorEq, false_and, if_false,
      Option.bind_eq_bind, Option.bind_some]
    cases Register.ofCell? c <;> rfl
  | source =>
    by_cases hlt : c.toNat < modulus
    · simp only [readSlot?, hlt, and_self, if_true, Slot.read, Slot.read?, Operand.ofCell?,
        dif_pos, Except.map, stored]
    · simp only [readSlot?, hlt, and_false, if_false, hregister, Slot.read, Slot.read?,
        Operand.ofCell?, dif_neg, not_false_eq_true, Option.bind_eq_bind, Option.bind_some]
      cases Register.ofCell? c <;> rfl

theorem readSlots?_eq {largest : Nat} {op : Opcode} {cells : List Cell} {slots : List Slot}
    {index : Nat} (h : index + slots.length ≤ largest) :
    readSlots? largest op cells index slots =
      some ((Operands.read op cells.length slots (cells.drop index)).map storedOperands) := by
  induction slots generalizing index with
  | nil => rfl
  | cons slot slots ih =>
    rw [List.length_cons] at h
    have hnext : within? largest (index + 1) = some (index + 1) := if_pos (by omega)
    cases hcell : cells[index]? with
    | none =>
      have hdrop : cells.drop index = [] :=
        List.drop_eq_nil_of_le (List.getElem?_eq_none_iff.mp hcell)
      simp only [readSlots?, hcell, hdrop, Operands.read, Except.map]
    | some c =>
      have hdrop : cells.drop index = c :: cells.drop (index + 1) := by
        obtain ⟨hlt, rfl⟩ := List.getElem?_eq_some_iff.mp hcell
        exact List.drop_eq_getElem_cons hlt
      have hle : index + 1 + slots.length ≤ largest := by omega
      simp only [readSlots?, hcell, hnext, hdrop, readSlot?_eq, ih hle, Operands.read,
        Option.bind_eq_bind, Option.bind_some]
      cases slot.read c with
      | error e => rfl
      | ok content =>
        cases Operands.read op cells.length slots (cells.drop (index + 1)) <;> rfl

theorem storedOperands_ofOperands (op : Opcode) (operands : Operands op.slots) :
    storedOperands (Instruction.ofOperands op operands).operands = storedOperands operands := by
  unfold Instruction.ofOperands
  split <;> rfl

theorem decode?_eq {largest : Nat} (op : Opcode) (cells : List Cell) (h : 3 ≤ largest) :
    decode? largest op cells =
      some ((Instruction.decode op cells).map fun i => storedOperands i.operands) := by
  have harity : 0 + op.slots.length ≤ largest := by
    rw [Nat.zero_add, op.length_slots]
    exact Nat.le_trans op.arity_le h
  rw [decode?, readSlots?_eq harity, List.drop_zero, Instruction.decode]
  cases Operands.read op cells.length op.slots cells with
  | error e => rfl
  | ok operands =>
    simp only [Except.map, storedOperands_ofOperands]

/-! ## Executing -/

theorem value?_eq (core : Core) (x : Operand) :
    value? core (stored .source x) = some (core.value x) := by
  cases x with
  | literal value hvalue => rfl
  | register r => simp only [value?, stored, ofIndex?_byte, Option.map_some, Core.value]

theorem put?_eq (core : Core) (dst : Register) (value : Cell) :
    put? core (stored .destination dst) value = some (core.set dst value) := by
  simp only [put?, stored, ofIndex?_byte, Option.map_some]

/-- The sum and the product of any two cells have 32 bits, and what is left of them has sixteen. -/
theorem compute?_eq (op : BinaryOp) (a b : Cell) : compute? a b op = some (op.apply a b) := by
  have ha : a.toNat ≤ 65535 := Nat.le_of_lt_succ a.toNat_lt
  have hb : b.toNat ≤ 65535 := Nat.le_of_lt_succ b.toNat_lt
  cases op with
  | add =>
    have hsum : within? (UInt32.size - 1) (a.toNat + b.toNat) = some (a.toNat + b.toNat) :=
      if_pos (Nat.le_trans (Nat.add_le_add ha hb) (by decide))
    simp only [compute?, hsum, toCell?_mod, Option.bind_eq_bind, Option.bind_some, BinaryOp.apply]
  | mul =>
    have hproduct : within? (UInt32.size - 1) (a.toNat * b.toNat) = some (a.toNat * b.toNat) :=
      if_pos (Nat.le_trans (Nat.mul_le_mul ha hb) (by decide))
    simp only [compute?, hproduct, toCell?_mod, Option.bind_eq_bind, Option.bind_some,
      BinaryOp.apply]
  | mod =>
    simp only [compute?, rem?, BinaryOp.apply]
    by_cases hzero : b = 0
    · simp only [if_pos hzero]
    · simp only [if_neg hzero]
  | _ => rfl

section Machine

variable {κ : Type} [Console κ]

/-- A device that is defined everywhere, and does what the console does. -/
structure Device.Total (device : Device κ) : Prop where
  read (console : κ) : device.read console = some (Console.read console)
  write (c : Char) (console : κ) : device.write c console = some (Console.write c console)

variable {device : Device κ} {policy : EndOfInput} {p : Program} {core : Core} {console : κ}

theorem binary?_eq (policy : EndOfInput) (op : BinaryOp) (dst : Register) (a b : Operand) :
    binary? p core console op (stored .destination dst) (stored .source a) (stored .source b) =
      some (execute policy p core console (.binary op dst a b)) := by
  simp only [binary?, value?_eq, compute?_eq, put?_eq, Option.bind_eq_bind, Option.bind_some,
      execute]
  cases op.apply (core.value a) (core.value b) <;> rfl

theorem value_push (core : Core) (value : Cell) (x : Operand) :
    (core.push value).value x = core.value x := by
  cases x <;> rfl

/-- A character fits in a literal or does not; between the literals and sixteen bits the value is
computed, and thrown away. -/
theorem filter_toCell? (c : Char) :
    (toCell? c.toNat).filter (·.toNat < modulus) = cellOfChar? c := by
  unfold cellOfChar?
  by_cases hcell : c.toNat < UInt16.size
  · have hvalue : (UInt16.ofNat c.toNat).toNat = c.toNat := by
      rw [UInt16.toNat_ofNat']
      exact Nat.mod_eq_of_lt hcell
    simp only [toCell?_of_lt hcell, Option.filter_some, hvalue, decide_eq_true_eq]
  · have hmodulus : ¬c.toNat < modulus := fun hlt => hcell (Nat.lt_trans hlt (by decide))
    simp only [toCell?, if_neg hcell, if_neg hmodulus, Option.filter_none]

theorem execute?_eq (h : device.Total) (i : Instruction) :
    execute? device policy p core console i.opcode (storedOperands i.operands) =
      some (execute policy p core console i) := by
  cases i
  all_goals
    simp only [Instruction.opcode, Instruction.operands, storedOperands, execute?, execute,
      value?_eq, put?_eq, value_push, h.read, h.write, filter_toCell?, Option.bind_eq_bind,
      Option.bind_some]
  case binary op dst a b => cases op <;> exact binary?_eq policy _ dst a b
  case pop dst => cases core.pop? <;> rfl
  case ret => cases core.pop? <;> rfl
  case jumpIf cond target => split <;> rfl
  case jumpUnless cond target => split <;> rfl
  case load dst address => cases p.read (core.value address).toNat <;> rfl
  case store address value =>
    unfold Program.write
    by_cases hlt : (core.value address).toNat < p.size
    · simp only [dif_pos hlt]
    · simp only [dif_neg hlt]
  case call target =>
    by_cases hlt : p.ip < UInt16.size
    · simp only [toCell?_of_lt hlt, if_pos hlt]
    · simp only [toCell?, if_neg hlt]
  case output x =>
    cases charOfCell? (core.value x) with
    | none => rfl
    | some c =>
      dsimp only
      rcases Console.write c console with ⟨_ | _, left⟩ <;> rfl
  case input dst =>
    rcases Console.read console with ⟨e | _ | c, left⟩
    · rfl
    · cases policy <;> rfl
    · dsimp only
      cases cellOfChar? c <;> rfl

/-! ## Steps -/

theorem cycle?_eq {largest : Nat} {settings : Settings} (hdevice : device.Total)
    (h : p.size + 3 ≤ largest) :
    cycle? largest device settings p core console =
      some (Machine.cycle settings p core console) := by
  simp only [cycle?, Machine.cycle, fetchOperands?_eq h, Option.bind_eq_bind, Option.bind_some]
  cases p.fetch with
  | error e => rfl
  | ok fetched =>
    obtain ⟨f, q⟩ := fetched
    have hthree : 3 ≤ largest := Nat.le_trans (Nat.le_add_left 3 p.size) h
    simp only [decode?_eq f.opcode f.operands hthree, Option.bind_some]
    cases hdecode : Instruction.decode f.opcode f.operands with
    | error e => rfl
    | ok i =>
      obtain ⟨hopcode, -⟩ := Instruction.decode_eq_ok_iff.mp hdecode
      simp only [Except.map, ← hopcode, execute?_eq hdevice, Option.bind_some]

theorem step?_eq {largest : Nat} (hdevice : device.Total) (m : Machine)
    (h : m.program.size + 3 ≤ largest) :
    step? largest device m console = some (m.step console) := by
  unfold step?
  by_cases hm : m.status = .running
  · simp only [if_pos hm, cycle?_eq hdevice h, Option.bind_eq_bind, Option.bind_some,
      Machine.step_of_running hm]
  · simp only [if_neg hm, Machine.step_of_ne_running hm]

end Machine

/-! ## Terminals -/

/-- A byte is at hand unless all bytes have been read. -/
theorem take_one_cases (input : Input) :
    filled input = ⟨[]⟩ ∧ input.take 1 = ([], ⟨[]⟩) ∨
      ∃ lead rest buffers, filled input = ⟨(lead :: rest) :: buffers⟩ ∧
        input.take 1 = ([lead], ⟨rest :: buffers⟩) := by
  obtain ⟨buffers⟩ := input
  induction buffers with
  | nil => exact Or.inl ⟨rfl, rfl⟩
  | cons buffer buffers ih =>
    cases buffer with
    | nil => exact ih
    | cons lead rest => exact Or.inr ⟨lead, rest, buffers, rfl, rfl⟩

/-- No lead byte announces more bytes than the buffer holds, and none announces none. -/
theorem width?_bounds {lead : UInt8} {width : Nat} (h : Utf8.width? lead = some width) :
    1 ≤ width ∧ width ≤ 4 := by
  rcases Utf8.width?_eq_some_iff.mp h with h | h | h | h <;> omega

theorem consume?_one (lead : UInt8) (rest : List UInt8) (buffers : List (List UInt8)) :
    consume? 1 ⟨(lead :: rest) :: buffers⟩ = some ⟨rest :: buffers⟩ := by
  have hslice : slice? (lead :: rest) 1 (lead :: rest).length = some rest := by
    rw [slice?_of_le (by simp) (Nat.le_refl _)]
    simp
  simp only [consume?, atHand, List.headD_cons, hslice, Option.bind_eq_bind, Option.bind_some,
    List.tail_cons]

/-- When the announced bytes have been copied behind the lead byte, the buffer begins with them. -/
theorem overwrite?_behind_lead (lead : UInt8) {bytes : List UInt8} (h : bytes.length + 1 ≤ 4) :
    ∃ buffer, overwrite? [lead, 0, 0, 0] 1 (bytes.length + 1) bytes = some buffer ∧
      slice? buffer 0 (bytes.length + 1) = some (lead :: bytes) :=
  ⟨_, overwrite?_of_length (Nat.le_add_left 1 _) h rfl, slice?_append_left (lead :: bytes) _⟩

theorem readChar?_eq (t : Terminal) : readChar? t = some t.read := by
  unfold readChar? Terminal.read
  rcases take_one_cases t.input with ⟨hfilled, htake⟩ | ⟨lead, left, buffers, hfilled, htake⟩
  · simp only [hfilled, htake]
    rfl
  · simp only [hfilled, htake, atHand, List.headD_cons, List.head?_cons, consume?_one,
      Option.bind_eq_bind, Option.bind_some]
    cases hwidth : Utf8.width? lead with
    | none => rfl
    | some width =>
      obtain ⟨hle₁, hle₂⟩ := width?_bounds hwidth
      obtain ⟨room, hroom, hlength⟩ := exists_slice? [lead, 0, 0, 0] hle₁ hle₂
      have hbytes : ((⟨left :: buffers⟩ : Input).take (width - 1)).1.length ≤ width - 1 := by
        rw [Input.take_fst]
        exact List.length_take_le _ _
      simp only [hroom, hlength, Option.bind_some]
      generalize (⟨left :: buffers⟩ : Input).take (width - 1) = taken at *
      obtain ⟨bytes, input⟩ := taken
      by_cases hlt : bytes.length < width - 1
      · simp only [if_pos hlt]
      · obtain rfl : width = bytes.length + 1 := by
          dsimp only at hbytes
          omega
        obtain ⟨buffer, hbuffer, htext⟩ := overwrite?_behind_lead lead hle₂
        simp only [if_neg hlt, hbuffer, htext, Option.bind_some]
        cases Utf8.decode lead bytes <;> rfl

theorem writeChar?_eq (c : Char) (t : Terminal) : writeChar? c t = some (t.write c) := by
  have hlength : (Utf8.encode c).length ≤ 4 := by
    obtain ⟨lead, rest, hencode⟩ := Utf8.exists_encode_eq_cons c
    rw [hencode]
    exact (width?_bounds (Utf8.width?_of_encode hencode)).2
  have hbuffer := overwrite?_replicate 0 hlength
  simp only [List.replicate] at hbuffer
  simp only [writeChar?, hbuffer, slice?_append_left, Option.bind_eq_bind, Option.bind_some,
    Terminal.write]
  split <;> rfl

theorem total_terminal : terminal.Total := ⟨readChar?_eq, writeChar?_eq⟩

end CellMachine.Checked

namespace CellMachine.Session

/-! ## Where the instruction pointer can be -/

variable {κ : Type} [Console κ]

/-- A step that moves the instruction pointer sets it to an address up to the end of the program, or
to the value of a cell. -/
theorem ip_next_le {s : Session κ} {bound : Nat} (hsize : s.cells.size ≤ bound)
    (hcell : 65535 ≤ bound) (h : s.ip ≤ bound) : s.next.ip ≤ bound := by
  rcases s.ip_next_cases with heq | hle | ⟨i, -, a, -, heq⟩
  · exact heq ▸ h
  · exact Nat.le_trans hle hsize
  · rw [heq]
    exact Nat.le_trans (Nat.le_of_lt_succ a.toNat_lt) hcell

theorem ip_after_le (settings : Settings) (image : List UInt8) (console : κ) (n : Nat) :
    ((start settings (.ofImage image) console).after n).ip ≤
      max (Image.decode image).length 65535 := by
  induction n with
  | zero => exact Nat.zero_le _
  | succ n ih =>
    have hsize : ((start settings (.ofImage image) console).after n).cells.size =
        (Image.decode image).length := size_after _ n
    rw [after_succ]
    exact ip_next_le (hsize ▸ Nat.le_max_left _ _) (Nat.le_max_right _ _) ih

end CellMachine.Session

namespace CellMachine.Checked

/-! ## All together -/

/-- **No partial operation fails.** Fetching, decoding, computing and stepping are defined, and give
what they are to give, for programs of any length that leaves room for three more cells below the
largest number, wherever the instruction pointer is and whatever the registers, the stack and the
console hold. So are images, and the characters of a terminal. And a run does not take the
instruction pointer beyond both the end of the program and the largest value of a cell. -/
theorem always_defined (largest : Nat) :
    (∀ p : Program, p.size + 3 ≤ largest → fetchOperands? largest p = some p.fetch) ∧
    (∀ (op : Opcode) (cells : List Cell), 3 ≤ largest →
      decode? largest op cells =
        some ((Instruction.decode op cells).map fun i => storedOperands i.operands)) ∧
    (∀ (op : BinaryOp) (a b : Cell), compute? a b op = some (op.apply a b)) ∧
    (∀ (κ : Type) [Console κ] (device : Device κ) (m : Machine) (console : κ), device.Total →
      m.program.size + 3 ≤ largest → step? largest device m console = some (m.step console)) ∧
    (∀ bytes : List UInt8, decodeImage? bytes = some (Image.decode bytes)) ∧
    (∀ t : Terminal, readChar? t = some t.read) ∧
    (∀ (c : Char) (t : Terminal), writeChar? c t = some (t.write c)) ∧
    (∀ (κ : Type) [Console κ] (settings : Settings) (image : List UInt8) (console : κ) (n : Nat),
      ((Session.start settings (.ofImage image) console).after n).ip ≤
        max (Image.decode image).length 65535) :=
  ⟨fun _ => fetchOperands?_eq, fun op cells => decode?_eq op cells, compute?_eq,
    fun _ _ _ m _ hdevice => step?_eq hdevice m, decodeImage?_eq, readChar?_eq, writeChar?_eq,
    fun _ _ => Session.ip_after_le⟩

/-- An instruction pointer at the very end of the numbers, and a character of two bytes that is read
into the last register. -/
theorem always_defined_largest :
    fetchOperands? (UInt64.size - 1) ⟨#[21], UInt64.size - 1⟩ =
        some (.error (.outOfBounds (UInt64.size - 1) 1)) ∧
      decode? (UInt64.size - 1) .input [32775] = some (.ok [.register 7]) ∧
      step? (UInt64.size - 1) terminal ⟨{}, ⟨#[20, 32775], 0⟩, .initial, .running, 0⟩
          ⟨.ofBytes [0xC3, 0xA9], .empty none⟩ =
        some ⟨.ok .running,
          ⟨{}, ⟨#[20, 32775], 2⟩, Core.initial.set ⟨7⟩ 0xE9, .running, 1⟩,
          ⟨⟨[[]]⟩, .empty none⟩, []⟩ := by
  obtain ⟨hfetch, hdecode, -, hstep, -⟩ := always_defined (UInt64.size - 1)
  refine ⟨hfetch _ (by decide), hdecode _ _ (by decide), ?_⟩
  exact (hstep Terminal terminal _ _ total_terminal (by decide)).trans rfl

end CellMachine.Checked
