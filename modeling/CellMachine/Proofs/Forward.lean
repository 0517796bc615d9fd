import CellMachine.Console.Terminal
import CellMachine.Proofs.Calls
import CellMachine.Proofs.Memory
import Mathlib.Tactic.ByContra

/-!
# Runs that do not go back

What is fetched lies within the program, and a step moves the instruction pointer past it unless it
jumps. So a run that never jumps back climbs through the program, however that is rewritten on the
way, and stops at its end at the latest.

## Main statements

* `ip_next_of_completes` — a step that completes goes on behind its instruction, or it jumps
* `add_le_ip_after` — how far the steps of a run that climbs have come
* `forward_run_bounded` — how long such a run can be, and what is in a longer one
-/

namespace CellMachine

/-- The opcodes of the instructions that can go on at another address than the next. -/
def Opcode.jumps : List Opcode := [.jump, .jumpIf, .jumpUnless, .call, .ret]

theorem Instruction.opcode_mem_jumps {i : Instruction} {core : Core} {a : Cell}
    (h : i.target? core = some a) : i.opcode ∈ Opcode.jumps := by
  cases i with
  | jump | jumpIf | jumpUnless | call | ret => simp [opcode, Opcode.jumps]
  | _ => cases h

namespace Session

variable {κ : Type} [Console κ]

/-! ## One step -/

/-- The next step goes on at an address that its instruction names: a `jump`, a jump whose
condition is met, a `call`, or a `ret`. -/
def JumpsTo (s : Session κ) (a : Cell) : Prop :=
  ∃ i, s.Executes i ∧ i.opcode ∈ Opcode.jumps ∧ i.target? s.core = some a ∧ s.next.ip = a.toNat

variable {s : Session κ}

theorem JumpsTo.ip_next {a : Cell} (h : s.JumpsTo a) : s.next.ip = a.toNat := by
  obtain ⟨_, _, _, _, hip⟩ := h
  exact hip

/-- An instruction that has been executed lies within the program. -/
theorem Completes.ip_lt_size (h : s.Completes) : s.ip < s.cells.size := by
  obtain ⟨i, hi⟩ := h.executes
  have hle := hi.2.next_le
  exact Nat.lt_of_lt_of_le (Nat.lt_of_lt_of_le (Nat.lt_succ_self s.ip) (Nat.le_add_right _ _)) hle

/-- **A step that completes goes on behind its instruction, or it jumps.** -/
theorem ip_next_of_completes (h : s.Completes) :
    (∃ i, s.Executes i ∧ s.next.ip = s.ip + 1 + i.opcode.arity) ∨ ∃ a, s.JumpsTo a := by
  obtain ⟨i, hi⟩ := h.executes
  have hip : s.next.ip = (s.machine.effect s.console i).program.ip := by
    rw [ip, next_of_executes hi, Machine.settle_program]
  let fetched := s.machine.program.jump (s.ip + 1 + i.opcode.arity)
  rcases ip_execute_cases s.machine.settings.endOfInput fetched s.core s.console i with
    hon | ⟨a, ha, hjump⟩
  · exact Or.inl ⟨i, hi, hip.trans hon⟩
  · exact Or.inr ⟨a, i, hi, Instruction.opcode_mem_jumps ha, ha, hip.trans hjump⟩

/-! ## Runs -/

/-- The first `n` steps complete, and each of them leaves the instruction pointer above where it
was. -/
def Climbs (s : Session κ) (n : Nat) : Prop :=
  ∀ i < n, (s.after i).Completes ∧ (s.after i).ip < (s.after (i + 1)).ip

theorem add_le_ip_after {n : Nat} (h : s.Climbs n) : s.ip + n ≤ (s.after n).ip := by
  induction n with
  | zero => exact Nat.le_refl _
  | succ n ih =>
    have hbefore := ih fun i hi => h i (Nat.lt_succ_of_lt hi)
    have hlast := (h n (Nat.lt_succ_self n)).2
    omega

theorem Climbs.le_size_sub {n : Nat} (h : s.Climbs n) : n ≤ s.cells.size - s.ip := by
  cases n with
  | zero => exact Nat.zero_le _
  | succ n =>
    have hbefore : s.ip + n ≤ (s.after n).ip :=
      add_le_ip_after fun i hi => h i (Nat.lt_succ_of_lt hi)
    have hlast := (h n (Nat.lt_succ_self n)).1.ip_lt_size
    have hsize : (s.after n).cells.size = s.cells.size := size_after s n
    omega

/-- A run that is longer than the rest of the program jumps back somewhere. -/
theorem exists_jumpsTo_le {n : Nat} (hn : s.cells.size - s.ip < n)
    (h : ∀ i < n, (s.after i).Completes) :
    ∃ i < n, ∃ a, (s.after i).JumpsTo a ∧ a.toNat ≤ (s.after i).ip := by
  by_contra hnone
  have hclimbs : s.Climbs n := by
    intro i hi
    refine ⟨h i hi, ?_⟩
    rcases ip_next_of_completes (h i hi) with ⟨instruction, -, hip⟩ | ⟨a, ha⟩
    · rw [after_succ, hip]
      omega
    · by_contra hle
      exact hnone ⟨i, hi, a, ha, ha.ip_next ▸ Nat.le_of_not_lt hle⟩
  exact absurd hclimbs.le_size_sub (Nat.not_le_of_lt hn)

/-- A run that does not jump back comes to an end, after no more steps than there are cells before
it and one. -/
theorem exists_run_of_not_jumpsTo_le
    (h : ∀ i a, (s.after i).JumpsTo a → (s.after i).ip < a.toNat) :
    ∃ result, ∃ n ≤ s.cells.size - s.ip, s.run = some (result, s.after (n + 1)) := by
  -- so many steps cannot all complete
  have hbound (n : Nat) (hn : ∀ i < n, (s.after i).Completes) : n ≤ s.cells.size - s.ip := by
    by_contra hlt
    obtain ⟨i, -, a, hjump, hle⟩ := exists_jumpsTo_le (Nat.lt_of_not_le hlt) hn
    exact absurd (h i a hjump) (Nat.not_lt_of_le hle)
  cases hrun : s.run with
  | none =>
    have hall := run_eq_none_iff.mp hrun
    exact absurd (hbound (s.cells.size - s.ip + 1) fun i _ => hall i) (Nat.not_succ_le_self _)
  | some stopped =>
    obtain ⟨result, t⟩ := stopped
    obtain ⟨n, hbefore, hstep⟩ := run_eq_some_iff.mp hrun
    have ht : s.after (n + 1) = t := congrArg Prod.snd hstep
    exact ⟨result, n, hbound n hbefore, by rw [ht]⟩

/-- **A run that does not go back stops.** Steps that complete and climb are no more than the cells
from the instruction pointer to the end of the program. Any longer run has a `jump`, a `call` or a
`ret` in it that goes on at or below its own address; and a run without one comes to an end. -/
theorem forward_run_bounded (s : Session κ) :
    (∀ n, (∀ i < n, (s.after i).Completes ∧ (s.after i).ip < (s.after (i + 1)).ip) →
        n ≤ s.cells.size - s.ip) ∧
      (∀ n, s.cells.size - s.ip < n → (∀ i < n, (s.after i).Completes) →
        ∃ i < n, ∃ a, (s.after i).JumpsTo a ∧ a.toNat ≤ (s.after i).ip) ∧
      ((∀ i a, (s.after i).JumpsTo a → (s.after i).ip < a.toNat) →
        ∃ result, ∃ n ≤ s.cells.size - s.ip, s.run = some (result, s.after (n + 1))) :=
  ⟨fun _ => Climbs.le_size_sub, fun _ => exists_jumpsTo_le, exists_run_of_not_jumpsTo_le⟩

/-- A program that rewrites its second instruction into a jump to the first and then goes round; one
of as many steps as cells; and one that jumps forward to its end. -/
theorem forward_run_bounded_rewritten :
    let begin (cells : List Cell) :=
      start {} (.ofImage (Image.encode cells)) (⟨.ofBytes [], .empty none⟩ : Terminal)
    let loop := begin [16, 3, 6, 21, 0]
    let line := begin [21, 21, 21]
    let skip := begin [6, 3, 21, 0]
    (∀ i < 6, (loop.after i).Completes) ∧
      (∃ i < 6, ∃ a, (loop.after i).JumpsTo a ∧ a.toNat ≤ (loop.after i).ip) ∧
      (∀ i < 3, (line.after i).Completes ∧ (line.after i).ip < (line.after (i + 1)).ip) ∧
      3 ≤ line.cells.size - line.ip ∧
      ∃ result, ∃ n ≤ 4, skip.run = some (result, skip.after (n + 1)) := by
  intro begin loop line skip
  have hloop : ∀ i < 6, (loop.after i).Completes :=
    (status_after_eq_running_iff rfl 6).mp (by decide +kernel)
  have hcompletes : ∀ i < 3, (line.after i).Completes :=
    (status_after_eq_running_iff rfl 3).mp (by decide +kernel)
  have hclimbs : ∀ i < 3, (line.after i).ip < (line.after (i + 1)).ip := by decide +kernel
  have hline : ∀ i < 3, (line.after i).Completes ∧ (line.after i).ip < (line.after (i + 1)).ip :=
    fun i hi => ⟨hcompletes i hi, hclimbs i hi⟩
  have hskip : ∀ i a, (skip.after i).JumpsTo a → (skip.after i).ip < a.toNat := by
    rintro i a ⟨instruction, hi, -, htarget, -⟩
    match i with
    | 0 =>
      have hjump : (skip.after 0).Executes (.jump (.literal 3 (by decide))) := by decide +kernel
      obtain rfl := hi.unique hjump
      obtain rfl := Option.some.inj htarget
      decide +kernel
    | 1 =>
      have hhalt : (skip.after 1).Executes .halt := by decide +kernel
      obtain rfl := hi.unique hhalt
      cases htarget
    | i + 2 =>
      have hstopped : (skip.after 2).machine.status ≠ .running := by decide +kernel
      rw [after_of_le_of_ne_running hstopped (Nat.le_add_left 2 i)] at hi
      exact absurd hi.1 hstopped
  obtain ⟨-, hback, -⟩ := forward_run_bounded loop
  obtain ⟨hbound, -, -⟩ := forward_run_bounded line
  obtain ⟨-, -, hends⟩ := forward_run_bounded skip
  exact ⟨hloop, hback 6 (by decide +kernel) hloop, hline, hbound 3 hline, hends hskip⟩

end Session

end CellMachine
