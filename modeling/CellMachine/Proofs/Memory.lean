import CellMachine.Console.Terminal
import CellMachine.Proofs.Run

/-!
# The memory over a run

Instructions and data are the same cells. A cell holds what the last store to it has put there, or
what the image has there if there was none; and whatever a step reads, be it its own instruction or
a value to load, it reads from the cells as the step before has left them.

The history of a run is told by `Stores` alone: which of its steps store what where. That a store
may change which stores come after it plays no part, since the histories are those of actual runs.

## Main statements

* `stores_iff` — a store succeeds wherever there is a cell
* `getElem?_after` — a cell holds the last value that was stored in it
* `last_write_wins` — the memory after any number of steps, and what the next step reads of it
-/

namespace CellMachine.Session

variable {κ : Type} [Console κ]

/-! ## Histories -/

/-- The next step stores the value in the cell at the address, and succeeds. -/
def Stores (s : Session κ) (p : Nat) (v : Cell) : Prop :=
  s.Completes ∧ ∃ address value, s.Executes (.store address value) ∧
    p = (s.core.value address).toNat ∧ v = s.core.value value

/-- None of the first `n` steps stores anything in the cell at the address. -/
def NeverStored (s : Session κ) (n p : Nat) : Prop := ∀ i < n, ∀ w, ¬(s.after i).Stores p w

/-- Of the first `n` steps, the last that stores anything in the cell at the address stores the
value. -/
def LastStored (s : Session κ) (n p : Nat) (v : Cell) : Prop :=
  ∃ i < n, (s.after i).Stores p v ∧ ∀ j < n, i < j → ∀ w, ¬(s.after j).Stores p w

/-- The value that was last stored at the address in the first `n` steps, or the one that was there
before if there was none. -/
def Latest (s : Session κ) (n p : Nat) (v : Cell) : Prop :=
  s.LastStored n p v ∨ s.NeverStored n p ∧ s.cells[p]? = some v

variable {s : Session κ} {n p : Nat} {v : Cell}

theorem latest_zero : s.Latest 0 p v ↔ s.cells[p]? = some v := by
  constructor
  · rintro (⟨i, hi, -⟩ | ⟨-, hv⟩)
    · exact absurd hi (Nat.not_lt_zero i)
    · exact hv
  · intro hv
    exact Or.inr ⟨fun i hi => absurd hi (Nat.not_lt_zero i), hv⟩

theorem latest_succ_of_stores (h : (s.after n).Stores p v) : s.Latest (n + 1) p v := by
  refine Or.inl ⟨n, Nat.lt_succ_self n, h, ?_⟩
  intro j hj hlt
  omega

theorem neverStored_succ (h : ∀ w, ¬(s.after n).Stores p w) :
    s.NeverStored (n + 1) p ↔ s.NeverStored n p := by
  constructor
  · intro hnever i hi
    exact hnever i (Nat.lt_succ_of_lt hi)
  · intro hnever i hi
    rcases Nat.lt_succ_iff_lt_or_eq.mp hi with hlt | rfl
    · exact hnever i hlt
    · exact h

theorem lastStored_succ (h : ∀ w, ¬(s.after n).Stores p w) :
    s.LastStored (n + 1) p v ↔ s.LastStored n p v := by
  constructor
  · rintro ⟨i, hi, hstores, hlater⟩
    rcases Nat.lt_succ_iff_lt_or_eq.mp hi with hlt | rfl
    · exact ⟨i, hlt, hstores, fun j hj => hlater j (Nat.lt_succ_of_lt hj)⟩
    · exact absurd hstores (h v)
  · rintro ⟨i, hi, hstores, hlater⟩
    refine ⟨i, Nat.lt_succ_of_lt hi, hstores, ?_⟩
    intro j hj hlt
    rcases Nat.lt_succ_iff_lt_or_eq.mp hj with hlt' | rfl
    · exact hlater j hlt' hlt
    · exact h

theorem latest_succ_of_not_stores (h : ∀ w, ¬(s.after n).Stores p w) :
    s.Latest (n + 1) p v ↔ s.Latest n p v := by
  unfold Latest
  rw [lastStored_succ h, neverStored_succ h]

/-! ## One step -/

theorem cells_next_of_store {address value : Operand} (h : s.Executes (.store address value)) :
    s.next.cells =
      s.cells.setIfInBounds (s.core.value address).toNat (s.core.value value) := by
  rw [cells, next_of_executes h, Machine.settle_program, Machine.effect, cells_execute]
  rfl

/-- **A step leaves the memory alone, or it is a store.** -/
theorem cells_next (s : Session κ) :
    s.next.cells = s.cells ∨ ∃ address value, s.Executes (.store address value) := by
  by_cases h : ∃ i, s.Executes i
  · obtain ⟨i, hi⟩ := h
    cases i with
    | store address value => exact Or.inr ⟨address, value, hi⟩
    | _ =>
      refine Or.inl ?_
      rw [cells, next_of_executes hi, Machine.settle_program, Machine.effect, cells_execute]
      rfl
  · exact Or.inl (next_of_not_executes (not_exists.mp h)).1

theorem completes_store_iff {address value : Operand} (h : s.Executes (.store address value)) :
    s.Completes ↔ (s.core.value address).toNat < s.cells.size := by
  rw [completes_iff_of_executes h, Machine.effect, flow_store]
  show (if (s.core.value address).toNat < s.cells.size then Flow.next else _) = _ ↔ _
  split
  · next hlt => exact iff_of_true rfl hlt
  · next hge => exact iff_of_false Flow.noConfusion hge

/-- Beside the memory a store changes only the instruction pointer. -/
theorem core_next_of_store {address value : Operand} (h : s.Executes (.store address value)) :
    s.next.core = s.core ∧ s.next.ip = s.ip + 3 := by
  rw [core, ip, next_of_executes h, Machine.settle_core, Machine.settle_program]
  constructor
  · simp only [Machine.effect, execute]
    split <;> rfl
  · rw [Machine.effect, ip_execute]
    rfl

/-- A store succeeds wherever there is a cell. -/
theorem stores_iff :
    s.Stores p v ↔ p < s.cells.size ∧ ∃ address value, s.Executes (.store address value) ∧
      p = (s.core.value address).toNat ∧ v = s.core.value value := by
  constructor
  · rintro ⟨hcompletes, address, value, hexec, rfl, rfl⟩
    exact ⟨(completes_store_iff hexec).mp hcompletes, address, value, hexec, rfl, rfl⟩
  · rintro ⟨hlt, address, value, hexec, rfl, rfl⟩
    exact ⟨(completes_store_iff hexec).mpr hlt, address, value, hexec, rfl, rfl⟩

theorem getElem?_next_of_stores (h : s.Stores p v) : s.next.cells[p]? = some v := by
  obtain ⟨hlt, address, value, hexec, rfl, rfl⟩ := stores_iff.mp h
  rw [cells_next_of_store hexec, Array.getElem?_setIfInBounds_self_of_lt hlt]

theorem getElem?_next_of_not_stores (h : ∀ w, ¬s.Stores p w) :
    s.next.cells[p]? = s.cells[p]? := by
  rcases s.cells_next with hsame | ⟨address, value, hexec⟩
  · rw [hsame]
  · rw [cells_next_of_store hexec]
    by_cases hp : (s.core.value address).toNat = p
    · -- the store is at the address, and can only have failed
      have hge : s.cells.size ≤ p := by
        refine Nat.le_of_not_lt fun hlt => ?_
        exact h _ (stores_iff.mpr ⟨hlt, address, value, hexec, hp.symm, rfl⟩)
      rw [hp, Array.setIfInBounds_eq_of_size_le hge]
    · rw [Array.getElem?_setIfInBounds_ne hp]

theorem size_next (s : Session κ) : s.next.cells.size = s.cells.size := by
  rcases s.cells_next with hsame | ⟨address, value, hexec⟩
  · rw [hsame]
  · rw [cells_next_of_store hexec, Array.size_setIfInBounds]

/-- What a load puts into its register is in the cell before the step. -/
theorem getElem?_of_load {dst : Register} {address : Operand}
    (h : s.Executes (.load dst address)) (hcompletes : s.Completes) :
    s.cells[(s.core.value address).toNat]? = some (s.next.core.registers.get dst) := by
  have hflow := (completes_iff_of_executes h).mp hcompletes
  have hcore : s.next.core = (s.machine.effect s.console (.load dst address)).core := by
    rw [core, next_of_executes h, Machine.settle_core]
  rw [hcore]
  simp only [Machine.effect, execute] at hflow ⊢
  cases hread : Program.read _ (s.machine.core.value address).toNat with
  | error e =>
    rw [hread] at hflow
    cases hflow
  | ok value =>
    refine (Program.read_eq_ok_iff.mp hread).trans ?_
    exact congrArg some ((Registers.get_set _ _ _ _).trans (if_pos rfl)).symm

/-! ## Many steps -/

theorem size_after (s : Session κ) (n : Nat) : (s.after n).cells.size = s.cells.size :=
  after_induction (P := fun t => t.cells.size = s.cells.size)
    (fun t ht => (size_next t).trans ht) rfl n

/-- **A cell holds the last value that was stored in it.** -/
theorem getElem?_after : (s.after n).cells[p]? = some v ↔ s.Latest n p v := by
  induction n generalizing v with
  | zero => exact latest_zero.symm
  | succ n ih =>
    rw [after_succ]
    by_cases hstores : ∃ w, (s.after n).Stores p w
    · -- the step just made is the last to store there
      obtain ⟨w, hw⟩ := hstores
      have hnext := getElem?_next_of_stores hw
      constructor
      · intro hv
        obtain rfl : w = v := Option.some.inj (hnext.symm.trans hv)
        exact latest_succ_of_stores hw
      · rintro (⟨i, hi, hv, hlater⟩ | ⟨hnever, -⟩)
        · rcases Nat.lt_succ_iff_lt_or_eq.mp hi with hlt | rfl
          · exact absurd hw (hlater n (Nat.lt_succ_self n) hlt w)
          · exact getElem?_next_of_stores hv
        · exact absurd hw (hnever n (Nat.lt_succ_self n) w)
    · -- nothing was stored there, and the history is the one before
      have hnot := not_exists.mp hstores
      rw [getElem?_next_of_not_stores hnot, latest_succ_of_not_stores hnot]
      exact ih

/-- The memory after `n` steps, and what the next step reads of it and writes to it. -/
structure LastWriteWins (s : Session κ) (n : Nat) : Prop where
  /-- The number of cells never changes. -/
  size : (s.after n).cells.size = s.cells.size
  /-- A cell holds what was last stored in it. -/
  cells : ∀ p v, (s.after n).cells[p]? = some v ↔ s.Latest n p v
  /-- An instruction is fetched from these cells. -/
  fetch : ∀ f q, (s.after n).machine.program.fetch = .ok (f, q) →
    f.address = (s.after n).ip ∧ f.operands.length = f.opcode.arity ∧
      ∀ k c, (f.opcode.cell :: f.operands)[k]? = some c → s.Latest n ((s.after n).ip + k) c
  /-- A value is loaded from these cells. -/
  load : ∀ dst address, (s.after n).Executes (.load dst address) → (s.after n).Completes →
    s.Latest n ((s.after n).core.value address).toNat ((s.after (n + 1)).core.registers.get dst)
  /-- A store uses the operands that it was fetched with, wherever it stores: into its own cells,
  too. -/
  store : ∀ address value, (s.after n).Executes (.store address value) →
    ((s.after n).Completes ↔ ((s.after n).core.value address).toNat < s.cells.size) ∧
      (s.after (n + 1)).cells =
        (s.after n).cells.setIfInBounds ((s.after n).core.value address).toNat
          ((s.after n).core.value value) ∧
      (s.after (n + 1)).core = (s.after n).core ∧ (s.after (n + 1)).ip = (s.after n).ip + 3

/-- **The last write wins**, from the image on, over any number of steps. -/
theorem last_write_wins (settings : Settings) (image : List UInt8) (console : κ) (n : Nat) :
    (start settings (.ofImage image) console).cells.toList = Image.decode image ∧
      (start settings (.ofImage image) console).LastWriteWins n := by
  refine ⟨rfl, ?_⟩
  generalize start settings (.ofImage image) console = s
  refine ⟨size_after s n, fun p v => getElem?_after, ?_, ?_, ?_⟩
  · intro f q hf
    obtain ⟨haddress, hlength, -⟩ :=
      Program.peek_eq_ok_iff_cells.mp (Program.fetch_eq_ok_iff.mp hf).1
    refine ⟨haddress, hlength, ?_⟩
    intro k c hc
    exact getElem?_after.mp (Program.getElem?_of_fetch hf hc)
  · intro dst address hexec hcompletes
    exact getElem?_after.mp (getElem?_of_load hexec hcompletes)
  · intro address value hexec
    refine ⟨?_, cells_next_of_store hexec, core_next_of_store hexec⟩
    rw [completes_store_iff hexec, size_after]

/-- A store of 2 at address 1, over the cell that tells the address: it is 2 that is stored, at
address 1 and nowhere else, and the next instruction is fetched after it. -/
theorem last_write_wins_own_operand :
    let s := start {} (.ofImage [16, 0, 1, 0, 2, 0, 0, 0]) (⟨.ofBytes [], .empty none⟩ : Terminal)
    s.Completes ∧ s.Latest 1 1 2 ∧ (s.after 1).cells = #[16, 2, 2, 0] ∧ (s.after 1).ip = 3 := by
  intro s
  have hstore : s.Executes (.store (.literal 1 (by decide)) (.literal 2 (by decide))) := by decide
  obtain ⟨hcompletes, hcells, -, hip⟩ :=
    (last_write_wins {} [16, 0, 1, 0, 2, 0, 0, 0] _ 0).2.store _ _ hstore
  refine ⟨hcompletes.mpr (by decide), ?_, hcells, hip⟩
  exact ((last_write_wins {} [16, 0, 1, 0, 2, 0, 0, 0] _ 1).2.cells 1 2).mp (by decide +kernel)

end CellMachine.Session
