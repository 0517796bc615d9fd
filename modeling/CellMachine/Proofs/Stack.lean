import CellMachine.Console.Terminal
import CellMachine.Proofs.Run
import Mathlib.Data.List.Basic

/-!
# The stack over a run

Data and return addresses share one stack. A step puts one value on it, takes one off, or leaves it
alone; so what lies below the lowest point of a run is never touched, and a value that has been put
on the stack is the one that is taken off when the stack is back at its height.

## Main statements

* `stack_next` — the three things a step can do to the stack
* `pushes_iff`, `pops_iff` — which steps put a value on it, and which take one off
* `bottom_after` — the part of the stack that a run does not reach
* `push_pop_matched` — the value that comes off is the one that went on
-/

namespace CellMachine.Session

variable {κ : Type}

/-! ## The bottom of the stack -/

/-- The lowest `j` values of the stack, from the bottom up. -/
def bottom (s : Session κ) (j : Nat) : List Cell := s.stack.reverse.take j

theorem bottom_length (s : Session κ) : s.bottom s.stack.length = s.stack.reverse := by
  rw [bottom, ← List.length_reverse, List.take_length]

theorem take_reverse_cons {j : Nat} {l : List Cell} (v : Cell) (h : j ≤ l.length) :
    (v :: l).reverse.take j = l.reverse.take j := by
  rw [List.reverse_cons, List.take_append_of_le_length (by rwa [List.length_reverse])]

/-! ## Putting on and taking off -/

/-- The next step puts the value on the stack: a `push`, or a `call` with the address after it. -/
inductive Pushes (s : Session κ) (v : Cell) : Prop
  | push {x : Operand} (executes : s.Executes (.push x)) (value : s.core.value x = v)
  | call {target : Operand} (executes : s.Executes (.call target)) (address : v.toNat = s.ip + 2)

/-- A call has put the address of the next instruction on the stack. -/
theorem Pushes.toNat_eq {s : Session κ} {v : Cell} {target : Operand} (hv : s.Pushes v)
    (h : s.Executes (.call target)) : v.toNat = s.ip + 2 := by
  cases hv with
  | push hi _ => cases hi.unique h
  | call _ haddress => exact haddress

variable [Console κ]

/-- The next step takes the value off the stack: a `pop`, to put it into its register, or a `ret`,
to go on there. -/
inductive Pops (s : Session κ) (v : Cell) : Prop
  | pop {dst : Register} (executes : s.Executes (.pop dst)) (top : s.stack.head? = some v)
    (received : s.next.core.registers.get dst = v)
  | ret (executes : s.Executes .ret) (top : s.stack.head? = some v)
    (received : s.next.ip = v.toNat)

variable {s : Session κ} {v : Cell}

/-- The stack after a step, given the instruction that the step executes. -/
theorem stack_next_of_executes {i : Instruction} :
    s.Executes i →
      s.next.stack =
        match i with
        | .push x => s.core.value x :: s.stack
        | .call _ => if s.ip + 2 < UInt16.size then .ofNat (s.ip + 2) :: s.stack else s.stack
        | .pop _ | .ret => s.stack.tail
        | _ => s.stack := by
  intro h
  rw [stack, next_of_executes h, Machine.settle_core, Machine.effect, stack_execute]
  cases i <;> rfl

theorem Pushes.stack_next (h : s.Pushes v) : s.next.stack = v :: s.stack := by
  cases h with
  | push hi hv =>
    rw [stack_next_of_executes hi]
    exact congrArg (· :: s.stack) hv
  | call hi hv =>
    have hlt : s.ip + 2 < UInt16.size := hv ▸ v.toNat_lt
    rw [stack_next_of_executes hi]
    simp only [if_pos hlt]
    rw [← hv, UInt16.ofNat_toNat]

theorem Pops.stack_eq (h : s.Pops v) : s.stack = v :: s.next.stack := by
  cases h with
  | pop hi htop _ =>
    rw [stack_next_of_executes hi]
    exact List.eq_cons_of_mem_head? htop
  | ret hi htop _ =>
    rw [stack_next_of_executes hi]
    exact List.eq_cons_of_mem_head? htop

/-- A `ret` goes on at the value that it takes off. -/
theorem Pops.ip_next (hv : s.Pops v) (h : s.Executes .ret) : s.next.ip = v.toNat := by
  cases hv with
  | pop hi _ _ => cases hi.unique h
  | ret _ _ hip => exact hip

/-- A `pop` that finds a value takes it off. -/
theorem pops_of_executes_pop {dst : Register} (h : s.Executes (.pop dst))
    (htop : s.stack.head? = some v) : s.Pops v := by
  have hstack : s.core.stack = v :: s.core.stack.tail := List.eq_cons_of_mem_head? htop
  refine .pop h htop ?_
  rw [core, next_of_executes h, Machine.settle_core, Machine.effect]
  simp only [execute, Core.pop?]
  rw [hstack]
  exact (Registers.get_set _ _ _ _).trans (if_pos rfl)

/-- A `ret` that finds a value takes it off. -/
theorem pops_of_executes_ret (h : s.Executes .ret) (htop : s.stack.head? = some v) :
    s.Pops v := by
  refine .ret h htop ?_
  rw [ip, next_of_executes h, Machine.settle_program, Machine.effect, ip_execute]
  show (s.stack.head?.map UInt16.toNat).getD _ = _
  rw [htop]
  rfl

/-- **A step leaves the stack alone, puts one value on it, or takes one off.** -/
theorem stack_next (s : Session κ) :
    s.next.stack = s.stack ∨ (∃ v, s.Pushes v) ∨ ∃ v, s.Pops v := by
  by_cases h : ∃ i, s.Executes i
  · obtain ⟨i, hi⟩ := h
    have hnext := stack_next_of_executes hi
    cases i with
    | push x => exact Or.inr (Or.inl ⟨_, .push hi rfl⟩)
    | call target =>
      by_cases hlt : s.ip + 2 < UInt16.size
      · exact Or.inr (Or.inl ⟨_, .call hi (UInt16.toNat_ofNat_of_lt hlt)⟩)
      · -- the address is too large for a cell, and the call fails
        simp only [if_neg hlt] at hnext
        exact Or.inl hnext
    | pop dst =>
      cases htop : s.stack.head? with
      | some v => exact Or.inr (Or.inr ⟨v, pops_of_executes_pop hi htop⟩)
      | none =>
        rw [List.head?_eq_none_iff] at htop
        exact Or.inl (by rw [hnext, htop]; rfl)
    | ret =>
      cases htop : s.stack.head? with
      | some v => exact Or.inr (Or.inr ⟨v, pops_of_executes_ret hi htop⟩)
      | none =>
        rw [List.head?_eq_none_iff] at htop
        exact Or.inl (by rw [hnext, htop]; rfl)
    | _ => exact Or.inl hnext
  · refine Or.inl ?_
    exact congrArg Core.stack (next_of_not_executes (not_exists.mp h)).2.1

/-- The steps that put a value on the stack are those after which it lies there. -/
theorem pushes_iff : s.Pushes v ↔ s.next.stack = v :: s.stack := by
  refine ⟨Pushes.stack_next, fun h => ?_⟩
  rcases s.stack_next with hsame | ⟨w, hw⟩ | ⟨w, hw⟩
  · rw [hsame] at h
    exact absurd h List.ne_cons_self
  · rw [hw.stack_next] at h
    rwa [← (List.cons.inj h).1]
  · have hlength := congrArg List.length (h ▸ hw.stack_eq)
    simp only [List.length_cons] at hlength
    omega

/-- The steps that take a value off the stack are those before which it lies there, and after which
the rest does. -/
theorem pops_iff : s.Pops v ↔ s.stack = v :: s.next.stack := by
  refine ⟨Pops.stack_eq, fun h => ?_⟩
  rcases s.stack_next with hsame | ⟨w, hw⟩ | ⟨w, hw⟩
  · rw [hsame] at h
    exact absurd h List.ne_cons_self
  · have hlength := congrArg List.length (h ▸ hw.stack_next)
    simp only [List.length_cons] at hlength
    omega
  · rw [hw.stack_eq] at h
    rwa [← (List.cons.inj h).1]

/-! ## What a run does not reach -/

/-- A step keeps the bottom of the stack, as much of it as is there before and after. -/
theorem bottom_next {j : Nat} (h : j ≤ s.stack.length) (h' : j ≤ s.next.stack.length) :
    s.next.bottom j = s.bottom j := by
  unfold bottom
  rcases s.stack_next with hsame | ⟨v, hv⟩ | ⟨v, hv⟩
  · rw [hsame]
  · rw [hv.stack_next, take_reverse_cons v h]
  · rw [hv.stack_eq, take_reverse_cons v h']

/-- **A run during which the stack is never lower than `j` keeps its bottom `j` values.** -/
theorem bottom_after {j n : Nat} (h : ∀ i ≤ n, j ≤ (s.after i).stack.length) :
    (s.after n).bottom j = s.bottom j := by
  induction n with
  | zero => rfl
  | succ n ih =>
    have hn : j ≤ (s.after n).stack.length := h n (Nat.le_succ n)
    rw [after_succ, bottom_next hn (h (n + 1) (Nat.le_refl _))]
    exact ih fun i hi => h i (Nat.le_succ_of_le hi)

/-! ## Matching -/

/-- As long as the stack is higher than it was, the value lies at that height. -/
theorem bottom_after_of_pushes {n : Nat} (hv : s.Pushes v)
    (h : ∀ i ≤ n, 1 ≤ i → s.stack.length < (s.after i).stack.length) (hn : 1 ≤ n) :
    (s.after n).bottom (s.stack.length + 1) = (v :: s.stack).reverse := by
  have hnext : (s.after 1).stack = v :: s.stack := hv.stack_next
  have hlength : s.stack.length + 1 = (s.after 1).stack.length := by
    rw [hnext, List.length_cons]
  have hsplit (i : Nat) : s.after (1 + i) = (s.after 1).after i := s.after_add 1 i
  obtain ⟨m, rfl⟩ := Nat.exists_eq_add_of_le hn
  -- from the first step on, the run never reaches below the value
  rw [hsplit, bottom_after, hlength, bottom_length, hnext]
  intro i hi
  rw [← hsplit]
  exact h (1 + i) (Nat.add_le_add_left hi 1) (Nat.le_add_right 1 i)

/-- The step that brings the stack back to its height takes off the value. -/
theorem pops_of_pushes {n : Nat} (hv : s.Pushes v)
    (h : ∀ i ≤ n, 1 ≤ i → s.stack.length < (s.after i).stack.length)
    (hback : (s.after (n + 1)).stack.length ≤ s.stack.length) :
    (s.after n).Pops v ∧ (s.after (n + 1)).stack = s.stack := by
  have hn : 1 ≤ n := by
    refine Nat.one_le_iff_ne_zero.mpr ?_
    rintro rfl
    have hnext : (s.after (0 + 1)).stack = v :: s.stack := hv.stack_next
    rw [hnext, List.length_cons] at hback
    omega
  have hhigh := h n (Nat.le_refl n) hn
  have hbottom := bottom_after_of_pushes hv h hn
  rw [after_succ] at hback ⊢
  rcases (s.after n).stack_next with hsame | ⟨w, hw⟩ | ⟨w, hw⟩
  · rw [hsame] at hback
    omega
  · rw [hw.stack_next, List.length_cons] at hback
    omega
  · have hstack := hw.stack_eq
    have hlength := congrArg List.length hstack
    rw [List.length_cons] at hlength
    -- one value came off, so that the stack was higher by exactly that one
    have htop : s.stack.length + 1 = (s.after n).stack.length := by omega
    rw [htop, bottom_length, List.reverse_inj, hstack] at hbottom
    obtain ⟨rfl, hrest⟩ := List.cons.inj hbottom
    exact ⟨hw, hrest⟩

/-- **What goes on the stack is what comes off.** When the stack is back at its height after a value
has been put on it, the last step has taken that value off, and the stack is what it was; a `ret`
that matches a `call` goes on after it. And whatever a run does above some height, the stack below
it is the same at the end. -/
theorem push_pop_matched (s : Session κ) :
    (∀ v n, s.Pushes v →
        (∀ i ≤ n, 1 ≤ i → s.stack.length < (s.after i).stack.length) →
        (s.after (n + 1)).stack.length ≤ s.stack.length →
        (s.after n).Pops v ∧ (s.after (n + 1)).stack = s.stack ∧
          ∀ target, s.Executes (.call target) → (s.after n).Executes .ret →
            (s.after (n + 1)).ip = s.ip + 2) ∧
      ∀ j n, (∀ i ≤ n, j ≤ (s.after i).stack.length) → (s.after n).bottom j = s.bottom j := by
  refine ⟨?_, fun j n h => bottom_after h⟩
  intro v n hv h hback
  obtain ⟨hpops, hstack⟩ := pops_of_pushes hv h hback
  refine ⟨hpops, hstack, ?_⟩
  intro target hcall hret
  rw [after_succ, hpops.ip_next hret, hv.toNat_eq hcall]

/-- A call at address 0 of a procedure that pushes and pops a value of its own, and returns. -/
theorem push_pop_matched_call :
    let s := start {} (.ofCells [17, 3, 0, 2, 7, 3, 32768, 18])
      (⟨.ofBytes [], .empty none⟩ : Terminal)
    s.Pushes 2 ∧ (s.after 3).Pops 2 ∧ (s.after 4).stack = [] ∧ (s.after 4).ip = 2 := by
  intro s
  have hcall : s.Executes (.call (.literal 3 (by decide))) := by decide
  have hpushes : s.Pushes 2 := .call hcall (by decide)
  obtain ⟨hpops, hstack, hip⟩ :=
    (push_pop_matched s).1 2 3 hpushes (by decide +kernel) (by decide +kernel)
  exact ⟨hpushes, hpops, hstack, hip _ hcall (by decide +kernel)⟩

end CellMachine.Session
