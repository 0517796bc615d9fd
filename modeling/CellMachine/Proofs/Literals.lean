import CellMachine.Console.Terminal
import CellMachine.Proofs.Memory
import CellMachine.Proofs.Stack

/-!
# Values that a literal can hold

Only sums and products are reduced: what is set, taken off the stack, divided, loaded or put on the
stack by a `call` may be any word. Registers and stack hold nothing above 32767 all the same, if
nothing larger is loaded and the program is so short that its addresses are no larger either. Then
larger words are in memory only where the image has them, since a store takes its value from a
register or from a literal.

## Main statements

* `Instruction.received_lt` — an instruction receives no larger value than it is given
* `Session.WithinLiterals.next` — what one step preserves
* `Session.withinLiterals_after` — what a run preserves
-/

namespace CellMachine

/-! ## Values -/

/-- Registers and stack hold values that a literal can hold. -/
structure Core.Small (core : Core) : Prop where
  registers : ∀ r, (core.registers.get r).toNat < modulus
  stack : ∀ v ∈ core.stack, v.toNat < modulus

theorem Core.small_initial : Core.initial.Small where
  registers := by
    intro r
    have hzero : Core.initial.registers.get r = 0 := by
      obtain ⟨index⟩ := r
      simp only [initial, Registers.zero, Registers.get, Fin.getElem_fin, Vector.getElem_replicate]
    rw [hzero]
    decide
  stack := nofun

theorem Core.Small.value_lt {core : Core} (h : core.Small) (x : Operand) :
    (core.value x).toNat < modulus := by
  cases x with
  | literal value hlt => exact hlt
  | register r => exact h.registers r

theorem BinaryOp.apply_lt {op : BinaryOp} {a b v : Cell} (ha : a.toNat < modulus)
    (hb : b.toNat < modulus) (h : op.apply a b = .ok v) : v.toNat < modulus := by
  have hmodulus : modulus = 2 ^ 15 := rfl
  cases op with
  | eq | gt =>
    obtain rfl := Except.ok.inj h
    split <;> decide
  | add | mul =>
    obtain rfl := Except.ok.inj h
    rw [UInt16.toNat_ofNat']
    exact Nat.lt_of_le_of_lt (Nat.mod_le _ _) (Nat.mod_lt _ (by decide))
  | mod =>
    simp only [apply] at h
    split at h
    · cases h
    · obtain rfl := Except.ok.inj h
      rw [UInt16.toNat_mod]
      exact Nat.lt_of_le_of_lt (Nat.mod_le _ _) ha
  | and =>
    obtain rfl := Except.ok.inj h
    rw [UInt16.toNat_and, hmodulus]
    exact Nat.and_lt_two_pow _ hb
  | or =>
    obtain rfl := Except.ok.inj h
    rw [UInt16.toNat_or, hmodulus]
    exact Nat.or_lt_two_pow ha hb

theorem invert_lt {a : Cell} (ha : a.toNat < modulus) : (invert a).toNat < modulus := by
  have hmodulus : modulus = 2 ^ 15 := rfl
  rw [invert, UInt16.toNat_xor, hmodulus]
  exact Nat.xor_lt_two_pow ha (by decide)

/-! ## Instructions -/

/-- The address that an instruction loads from or stores to, if it is one that does. -/
def Instruction.address? (core : Core) : Instruction → Option Cell
  | .load _ x | .store x _ => some (core.value x)
  | _ => none

namespace Instruction

variable {κ : Type} [Console κ] {p : Program} {core : Core} {console : κ} {i : Instruction}

/-- **What an instruction receives is as small as what it is given**, and so is what it loads if the
cell that it loads from is. -/
theorem received_lt {dst : Register} {v : Cell} (hcore : core.Small)
    (hload : ∀ dst x v, i = .load dst x → p.cells[(core.value x).toNat]? = some v →
      v.toNat < modulus)
    (h : i.received? p core console = some (dst, v)) : v.toNat < modulus := by
  cases i with
  | set dst x =>
    obtain ⟨-, rfl⟩ := Prod.mk.inj (Option.some.inj h)
    exact hcore.value_lt x
  | pop dst =>
    obtain ⟨top, htop, heq⟩ := Option.map_eq_some_iff.mp h
    obtain ⟨-, rfl⟩ := Prod.mk.inj heq
    exact hcore.stack _ (List.mem_of_mem_head? htop)
  | binary op dst a b =>
    simp only [received?] at h
    split at h
    · next value happly =>
      obtain ⟨-, rfl⟩ := Prod.mk.inj (Option.some.inj h)
      exact BinaryOp.apply_lt (hcore.value_lt a) (hcore.value_lt b) happly
    · cases h
  | not dst x =>
    obtain ⟨-, rfl⟩ := Prod.mk.inj (Option.some.inj h)
    exact invert_lt (hcore.value_lt x)
  | load dst x =>
    obtain ⟨value, hvalue, heq⟩ := Option.map_eq_some_iff.mp h
    obtain ⟨-, rfl⟩ := Prod.mk.inj heq
    exact hload _ _ _ rfl hvalue
  | input dst =>
    simp only [received?] at h
    split at h
    · obtain ⟨value, hvalue, heq⟩ := Option.map_eq_some_iff.mp h
      obtain ⟨-, rfl⟩ := Prod.mk.inj heq
      obtain ⟨heq, hlt⟩ := toNat_of_cellOfChar? hvalue
      exact heq ▸ hlt
    · cases h
  | _ => cases h

theorem target_lt {a : Cell} (hcore : core.Small) (h : a ∈ i.target? core) :
    a.toNat < modulus := by
  cases i with
  | jump target | call target =>
    obtain rfl := Option.some.inj h
    exact hcore.value_lt target
  | jumpIf cond target =>
    simp only [target?] at h
    split at h
    · cases h
    · obtain rfl := Option.some.inj h
      exact hcore.value_lt target
  | jumpUnless cond target =>
    simp only [target?] at h
    split at h
    · obtain rfl := Option.some.inj h
      exact hcore.value_lt target
    · cases h
  | ret => exact hcore.stack _ (List.mem_of_mem_head? h)
  | _ => cases h

theorem address_lt {a : Cell} (hcore : core.Small) (h : a ∈ i.address? core) :
    a.toNat < modulus := by
  cases i with
  | load _ x | store x _ =>
    obtain rfl := Option.some.inj h
    exact hcore.value_lt x
  | _ => cases h

end Instruction

/-! ## Runs -/

namespace Session

variable {κ : Type}

/-- The next step does not load a value that is too large for a literal. -/
def LoadsLiteral (s : Session κ) : Prop :=
  ∀ dst x v, s.Executes (.load dst x) → s.cells[(s.core.value x).toNat]? = some v →
    v.toNat < modulus

theorem loadsLiteral_of_executes {s : Session κ} {i : Instruction} (hi : s.Executes i)
    (h : (i.address? s.core).all fun a => s.cells[a.toNat]?.all fun v => v.toNat < modulus) :
    s.LoadsLiteral := by
  intro dst x v hload hv
  obtain rfl := hi.unique hload
  rw [Instruction.address?, Option.all_some, hv, Option.all_some] at h
  exact of_decide_eq_true h

/-- Values that are too large for a literal are nowhere but in memory, where the image has them, and
no address is as large. -/
structure WithinLiterals (image : List Cell) (s : Session κ) : Prop where
  registers : ∀ r, (s.core.registers.get r).toNat < modulus
  stack : ∀ v ∈ s.stack, v.toNat < modulus
  cells : ∀ (p : Nat) (v : Cell), s.cells[p]? = some v → modulus ≤ v.toNat → image[p]? = some v
  ip : s.ip < modulus
  /-- Where the next instruction jumps to. -/
  target : ∀ i, s.Executes i → ∀ a ∈ i.target? s.core, a.toNat < modulus
  /-- Where the next instruction loads from or stores to. -/
  address : ∀ i, s.Executes i → ∀ a ∈ i.address? s.core, a.toNat < modulus

/-- The parts of the above that the others follow from. -/
theorem withinLiterals_iff {image : List Cell} {s : Session κ} :
    s.WithinLiterals image ↔
      s.core.Small ∧
        (∀ (p : Nat) (v : Cell), s.cells[p]? = some v → modulus ≤ v.toNat → image[p]? = some v) ∧
        s.ip < modulus := by
  constructor
  · intro h
    exact ⟨⟨h.registers, h.stack⟩, h.cells, h.ip⟩
  · rintro ⟨hcore, hcells, hip⟩
    exact ⟨hcore.registers, hcore.stack, hcells, hip, fun i _ a ha => i.target_lt hcore ha,
      fun i _ a ha => i.address_lt hcore ha⟩

variable [Console κ] {s : Session κ} {image : List Cell}

theorem registers_next_lt (h : s.core.Small) (hload : s.LoadsLiteral) (r : Register) :
    (s.next.core.registers.get r).toNat < modulus := by
  by_cases hexec : ∃ i, s.Executes i
  · obtain ⟨i, hi⟩ := hexec
    rw [core, next_of_executes hi, Machine.settle_core, Machine.effect, registers_execute]
    split
    · next dst value hreceived =>
      rw [Registers.get_set]
      split
      · refine i.received_lt h ?_ hreceived
        rintro dst x v rfl
        exact hload dst x v hi
      · exact h.registers r
    · exact h.registers r
  · rw [(next_of_not_executes (not_exists.mp hexec)).2.1]
    exact h.registers r

theorem stack_next_lt (h : s.core.Small) (hsize : s.cells.size < modulus) :
    ∀ v ∈ s.next.stack, v.toNat < modulus := by
  have hold : ∀ v ∈ s.stack, v.toNat < modulus := h.stack
  rcases s.stack_next with hsame | ⟨w, hw⟩ | ⟨w, hw⟩
  · rwa [hsame]
  · rw [hw.stack_next, List.forall_mem_cons]
    refine ⟨?_, hold⟩
    cases hw with
    | push hi hvalue => exact hvalue ▸ h.value_lt _
    | call hi haddress =>
      -- the address to return to is no larger than the length of the program
      rw [haddress]
      exact Nat.lt_of_le_of_lt hi.2.next_le hsize
  · rw [hw.stack_eq, List.forall_mem_cons] at hold
    exact hold.2

/-- A cell that is too large for a literal after a step was there before. -/
theorem getElem?_of_next {p : Nat} {v : Cell} (h : s.core.Small) (hv : s.next.cells[p]? = some v)
    (hlarge : modulus ≤ v.toNat) : s.cells[p]? = some v := by
  rcases s.cells_next with hsame | ⟨x, value, hi⟩
  · rwa [hsame] at hv
  · rw [cells_next_of_store hi, Array.getElem?_setIfInBounds] at hv
    split at hv
    · split at hv
      · obtain rfl := Option.some.inj hv
        exact absurd (h.value_lt value) (Nat.not_lt_of_le hlarge)
      · cases hv
    · exact hv

theorem ip_next_lt (h : s.core.Small) (hsize : s.cells.size < modulus) (hip : s.ip < modulus) :
    s.next.ip < modulus := by
  rcases s.ip_next_cases with hsame | hle | ⟨i, -, a, ha, hjump⟩
  · rwa [hsame]
  · exact Nat.lt_of_le_of_lt hle hsize
  · rw [hjump]
    exact i.target_lt h ha

theorem WithinLiterals.next (h : s.WithinLiterals image) (hsize : s.cells.size < modulus)
    (hload : s.LoadsLiteral) : s.next.WithinLiterals image := by
  obtain ⟨hcore, hcells, hip⟩ := withinLiterals_iff.mp h
  have hcore' : s.next.core.Small := ⟨registers_next_lt hcore hload, stack_next_lt hcore hsize⟩
  refine withinLiterals_iff.mpr ⟨hcore', ?_, ip_next_lt hcore hsize hip⟩
  intro p v hv hlarge
  exact hcells p v (getElem?_of_next hcore hv hlarge) hlarge

/-- **A run from a program of fewer than 32768 cells stays within literals** as long as it loads
none but such values. -/
theorem withinLiterals_after (settings : Settings) (image : List UInt8) (console : κ) (n : Nat)
    (hlength : (Image.decode image).length ≤ 32767)
    (hloads : ∀ i < n, ((start settings (.ofImage image) console).after i).LoadsLiteral) :
    ∀ i ≤ n,
      ((start settings (.ofImage image) console).after i).WithinLiterals (Image.decode image) := by
  intro i
  induction i with
  | zero =>
    intro _
    refine withinLiterals_iff.mpr ⟨Core.small_initial, ?_, Nat.zero_lt_succ _⟩
    intro p v hv _
    exact (Array.getElem?_toList ..).trans hv
  | succ i ih =>
    intro hi
    refine (ih (Nat.le_of_succ_le hi)).next ?_ (hloads i hi)
    rw [size_after]
    exact Nat.lt_succ_of_le hlength

/-- A procedure that loads a value and returns. -/
theorem withinLiterals_after_ret :
    let image := Image.encode [17, 4, 0, 7, 15, 32768, 3, 18]
    let s := start {} (.ofImage image) (⟨.ofBytes [], .empty none⟩ : Terminal)
    (Image.decode image).length ≤ 32767 ∧ (∀ i < 3, (s.after i).LoadsLiteral) ∧
      (s.after 2).core = ⟨.set .zero ⟨0⟩ 7, [2]⟩ ∧ (s.after 2).Executes .ret ∧
      ∀ i ≤ 3, (s.after i).WithinLiterals (Image.decode image) := by
  intro image s
  have hlength : (Image.decode image).length ≤ 32767 := by decide +kernel
  have hcall : (s.after 0).Executes (.call (.literal 4 (by decide))) := by decide +kernel
  have hload : (s.after 1).Executes (.load ⟨0⟩ (.literal 3 (by decide))) := by decide +kernel
  have hret : (s.after 2).Executes .ret := by decide +kernel
  have hloads : ∀ i < 3, (s.after i).LoadsLiteral := by
    intro i hi
    match i, hi with
    | 0, _ => exact loadsLiteral_of_executes hcall rfl
    | 1, _ => exact loadsLiteral_of_executes hload (by decide +kernel)
    | 2, _ => exact loadsLiteral_of_executes hret rfl
  exact ⟨hlength, hloads, by decide +kernel, hret,
    withinLiterals_after {} image _ 3 hlength hloads⟩

end Session

end CellMachine
