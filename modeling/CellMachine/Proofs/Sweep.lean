import CellMachine.Proofs.Step

/-!
# Fetching without jumps

Where nothing is executed in between, calls of the fetch sweep over the program: the instructions
follow each other without a gap, and their cells are those of the program. A sweep ends with the
program, before a cell that is no opcode, or before an instruction that is cut short; and there it
stays, since a call that fails has moved nothing.

## Main statements

* `run_call` — what a call answers and what it leaves
* `exists_sweeps` — every sweep ends
* `Sweeps.drop_eq` — the cells that a sweep passes are those of its instructions
* `Sweeps.afterCalls` — the calls of a sweep, and those after it
* `endsFor_of_peek` — why a sweep ends where it does
* `sweep_partitions` — all calls, from anywhere in a program
-/

namespace CellMachine

/-- The cells of what has been fetched. -/
def Fetched.cells (f : Fetched) : List Cell := .ofNat f.opcode.number :: f.operands

theorem Fetched.length_cells {f : Fetched} (h : f.operands.length = f.opcode.arity) :
    f.cells.length = 1 + f.opcode.arity := by
  rw [cells, List.length_cons, h, Nat.add_comm]

namespace Program

/-! ## Calls -/

/-- A call of the fetch, as actions on the program. What can fail comes before what moves the
instruction pointer. -/
def call : ExceptT Error (StateM Program) Fetched := do
  let p ← get
  let f ← p.peek
  modify (·.jump f.next)
  return f

/-- The answer to a call. -/
def answer (p : Program) : Except Error Fetched := (call.run p).1

/-- The program that a call leaves, be it successful or not. -/
def called (p : Program) : Program := (call.run p).2

/-- The program after `n` calls. -/
def afterCalls (p : Program) : Nat → Program
  | 0 => p
  | n + 1 => (p.afterCalls n).called

variable {p q : Program} {f : Fetched} {fs : List Fetched} {e : Error}

/-- **What a call answers and what it leaves**: the instruction and the program behind it, or an
error and the program as it was. -/
theorem run_call (p : Program) :
    call.run p =
      match p.fetch with
      | .ok (f, q) => (.ok f, q)
      | .error e => (.error e, p) := by
  have hrun : call.run p =
      match p.peek with
      | .ok f => (.ok f, p.jump f.next)
      | .error e => (.error e, p) := by
    show (ExceptT.bindCont _ p.peek : StateM Program _) p = _
    cases p.peek <;> rfl
  rw [hrun, fetch]
  cases p.peek <;> rfl

theorem run_call_of_fetch (h : p.fetch = .ok (f, q)) : call.run p = (.ok f, q) := by
  rw [run_call, h]

theorem run_call_of_error (h : p.peek = .error e) : call.run p = (.error e, p) := by
  rw [run_call, fetch_eq_error_iff.mpr h]

theorem afterCalls_add (p : Program) (m n : Nat) :
    p.afterCalls (m + n) = (p.afterCalls m).afterCalls n := by
  induction n with
  | zero => rfl
  | succ n ih => rw [← Nat.add_assoc, afterCalls, ih, afterCalls]

/-- The first call is the call before the others. -/
theorem afterCalls_succ (p : Program) (n : Nat) : p.afterCalls (n + 1) = p.called.afterCalls n := by
  rw [Nat.add_comm, afterCalls_add]
  rfl

/-- Once a call has failed, all calls fail in the same way and leave the program as it is. -/
theorem afterCalls_of_error (h : p.peek = .error e) (n : Nat) : p.afterCalls n = p := by
  induction n with
  | zero => rfl
  | succ n ih => rw [afterCalls, ih, called, run_call_of_error h]

/-! ## Sweeps -/

/-- From one program to another, each call is successful, and these are the instructions. -/
inductive Sweeps : Program → List Fetched → Program → Prop
  | nil (p : Program) : Sweeps p [] p
  | cons {p q r : Program} {f : Fetched} {fs : List Fetched} (fetched : p.fetch = .ok (f, q))
    (rest : Sweeps q fs r) : Sweeps p (f :: fs) r

/-- A fetch moves the pointer behind the instruction, which is still in the program, and changes
nothing else. -/
theorem ip_of_fetch (h : p.fetch = .ok (f, q)) :
    f.address = p.ip ∧ q = p.jump (p.ip + 1 + f.opcode.arity) ∧
      p.ip + 1 + f.opcode.arity ≤ p.size := by
  obtain ⟨hpeek, rfl⟩ := fetch_eq_ok_iff.mp h
  obtain ⟨haddress, -, hle, -⟩ := peek_eq_ok_iff.mp hpeek
  rw [Fetched.next, haddress] at hle
  refine ⟨haddress, ?_, hle⟩
  rw [Fetched.next, haddress]

/-- **Every sweep ends.** The instructions get on in the program, and so come to its end at last. -/
theorem exists_sweeps (p : Program) : ∃ fs q e, p.Sweeps fs q ∧ q.peek = .error e := by
  induction hleft : p.size - p.ip using Nat.strongRecOn generalizing p with
  | ind left ih =>
    cases hfetch : p.fetch with
    | error e => exact ⟨[], p, e, .nil p, fetch_eq_error_iff.mp hfetch⟩
    | ok next =>
      obtain ⟨f, q⟩ := next
      obtain ⟨-, rfl, hle⟩ := ip_of_fetch hfetch
      have hlt : p.size - (p.ip + 1 + f.opcode.arity) < left := by omega
      obtain ⟨fs, r, e, hsweeps, hpeek⟩ := ih _ hlt (p.jump (p.ip + 1 + f.opcode.arity)) rfl
      exact ⟨f :: fs, r, e, .cons hfetch hsweeps, hpeek⟩

namespace Sweeps

theorem cells_eq (h : p.Sweeps fs q) : q.cells = p.cells := by
  induction h with
  | nil p => rfl
  | cons hfetch _ ih =>
    obtain ⟨-, rfl, -⟩ := ip_of_fetch hfetch
    rw [ih, cells_jump]

/-- The places of the instructions, and then the final one, are the first place and then the ends of
the instructions. -/
theorem addresses_eq (h : p.Sweeps fs q) :
    fs.map (·.address) ++ [q.ip] = p.ip :: fs.map (fun f => f.address + 1 + f.opcode.arity) := by
  induction h with
  | nil p => rfl
  | cons hfetch _ ih =>
    obtain ⟨haddress, rfl, -⟩ := ip_of_fetch hfetch
    rw [List.map_cons, List.cons_append, ih, ip_jump, List.map_cons, haddress]

theorem length_operands (h : p.Sweeps fs q) : ∀ f ∈ fs, f.operands.length = f.opcode.arity := by
  induction h with
  | nil p => exact nofun
  | cons hfetch _ ih =>
    have hlength := Program.length_operands (fetch_eq_ok_iff.mp hfetch).1
    exact List.forall_mem_cons.mpr ⟨hlength, ih⟩

theorem ip_le (h : p.Sweeps fs q) (hp : p.ip ≤ p.size) : q.ip ≤ q.size := by
  induction h with
  | nil p => exact hp
  | cons hfetch _ ih =>
    obtain ⟨-, rfl, hle⟩ := ip_of_fetch hfetch
    exact ih hle

/-- **The cells that a sweep passes are those of its instructions.** -/
theorem drop_eq (h : p.Sweeps fs q) :
    p.cells.toList.drop p.ip = fs.flatMap Fetched.cells ++ p.cells.toList.drop q.ip := by
  induction h with
  | nil p => rfl
  | @cons p q r f fs hfetch _ ih =>
    obtain ⟨-, rfl, -⟩ := ip_of_fetch hfetch
    obtain ⟨-, hlength, rest, hrest⟩ := peek_eq_ok_iff_cells.mp (fetch_eq_ok_iff.mp hfetch).1
    have hcells : f.cells ++ rest = p.cells.toList.drop p.ip := hrest
    -- what follows the instruction is what the pointer has been moved to
    have hbehind : rest = p.cells.toList.drop (p.ip + 1 + f.opcode.arity) := by
      rw [Nat.add_assoc, ← List.drop_drop, ← hcells, List.drop_left' (Fetched.length_cells hlength)]
    rw [cells_jump, ip_jump] at ih
    rw [← hcells, hbehind, ih, List.flatMap_cons, List.append_assoc]

theorem ip_eq (h : p.Sweeps fs q) : q.ip = p.ip + (fs.flatMap Fetched.cells).length := by
  induction h with
  | nil p => rfl
  | cons hfetch _ ih =>
    obtain ⟨-, rfl, -⟩ := ip_of_fetch hfetch
    have hlength := Program.length_operands (fetch_eq_ok_iff.mp hfetch).1
    rw [ih, ip_jump, List.flatMap_cons, List.length_append, Fetched.length_cells hlength]
    omega

theorem length_le (h : p.Sweeps fs q) : p.ip + fs.length ≤ q.ip := by
  induction h with
  | nil p => exact Nat.le_refl _
  | cons hfetch _ ih =>
    obtain ⟨-, rfl, -⟩ := ip_of_fetch hfetch
    rw [ip_jump] at ih
    rw [List.length_cons]
    omega

theorem flatMap_cells_eq (h : p.Sweeps fs q) :
    fs.flatMap Fetched.cells = (p.cells.extract p.ip q.ip).toList := by
  have hlength : (fs.flatMap Fetched.cells).length = q.ip - p.ip := by
    rw [h.ip_eq, Nat.add_sub_cancel_left]
  rw [Array.toList_extract, List.extract, h.drop_eq, List.take_left' hlength]

/-- **The calls of a sweep** answer with its instructions and come to its end. -/
theorem afterCalls (h : p.Sweeps fs q) :
    (∀ i f, fs[i]? = some f → (p.afterCalls i).answer = .ok f) ∧ p.afterCalls fs.length = q := by
  induction h with
  | nil p => exact ⟨nofun, rfl⟩
  | @cons p q r f fs hfetch _ ih =>
    have hcall := run_call_of_fetch hfetch
    have hcalled : p.called = q := by rw [called, hcall]
    constructor
    · intro i g hg
      cases i with
      | zero =>
        obtain rfl := Option.some.inj hg
        rw [Program.afterCalls, answer, hcall]
      | succ i =>
        rw [afterCalls_succ, hcalled]
        exact ih.1 i g hg
    · rw [List.length_cons, afterCalls_succ, hcalled, ih.2]

end Sweeps

/-! ## Why a sweep ends -/

/-- Why nothing more can be fetched. -/
structure EndsFor (p : Program) (e : Error) : Prop where
  /-- All cells have been consumed. -/
  outOfBounds_iff : e = .outOfBounds p.size p.size ↔ p.ip = p.size
  /-- The next cell is no opcode. -/
  unknownOpcode_iff : ∀ c, e = .unknownOpcode c ↔ p.cells[p.ip]? = some c ∧ 21 < c.toNat
  /-- The next cell is an opcode, and fewer cells follow than it has operands. -/
  truncated_iff : ∀ op available, e = .truncated op available ↔
    p.cells[p.ip]? = some (.ofNat op.number) ∧
      available = (p.cells.toList.drop (p.ip + 1)).length ∧ available < op.arity
  message_of_truncated : ∀ op available, e = .truncated op available →
    e.message = s!"`{op.mnemonic}` needs {op.arity} operands but the program ends after {available}"
  /-- There is no other reason. -/
  cases : e = .outOfBounds p.size p.size ∨ (∃ c, e = .unknownOpcode c) ∨
    ∃ op available, e = .truncated op available

/-- **Why a sweep ends**, by the cell that comes next. -/
theorem endsFor_of_peek (h : p.peek = .error e) (hp : p.ip ≤ p.size) : p.EndsFor e := by
  have herror (e' : Error) : e = e' ↔ p.peek = .error e' := by rw [h, Except.error.injEq]
  have hlength : (p.cells.toList.drop (p.ip + 1)).length = p.size - (p.ip + 1) := by
    rw [List.length_drop, Array.length_toList]
  constructor
  · rw [herror, peek_eq_outOfBounds_iff]
    omega
  · intro c
    rw [herror, peek_eq_unknownOpcode_iff]
  · intro op available
    rw [herror, peek_eq_truncated_iff, hlength]
    refine and_congr_right fun hcell => and_congr_right ?_
    rintro rfl
    have hlt : p.ip < p.size := (Array.getElem?_eq_some_iff.mp hcell).1
    omega
  · rintro op available rfl
    rfl
  · rcases peek_eq_error_iff.mp h with ⟨hle, rfl⟩ | ⟨c, -, hop | ⟨op, -, -, rfl⟩⟩
    · exact Or.inl (by rw [Nat.le_antisymm hp hle])
    · exact Or.inr (Or.inl ⟨c, (Opcode.ofCell_eq_error_iff.mp hop).2⟩)
    · exact Or.inr (Or.inr ⟨op, _, rfl⟩)

/-! ## All calls -/

/-- What the calls give from a program on: instructions one after the other, and then an error,
always the same, which leaves the program as it is. -/
structure Partition (p : Program) (fs : List Fetched) (q : Program) (e : Error) : Prop where
  succeed : ∀ i f, fs[i]? = some f → (p.afterCalls i).answer = .ok f
  fail : ∀ n, fs.length ≤ n → (p.afterCalls n).answer = .error e ∧ p.afterCalls n = q
  length_le : fs.length ≤ p.size - p.ip
  /-- The first instruction is where the program was, and each next one behind the one before. -/
  addresses : fs.map (·.address) ++ [q.ip] =
    p.ip :: fs.map (fun f => f.address + 1 + f.opcode.arity)
  length_operands : ∀ f ∈ fs, f.operands.length = f.opcode.arity
  /-- Nothing is left out of the cells up to the final place, and nothing taken twice. -/
  cells : fs.flatMap (fun f => .ofNat f.opcode.number :: f.operands) =
    (p.cells.extract p.ip q.ip).toList
  /-- The cells stay as they are, and the final place is not beyond them. -/
  cells_eq : q.cells = p.cells
  ip_le : q.ip ≤ p.size
  endsFor : q.EndsFor e

namespace Partition

/-- The instructions are those that the calls answer with. -/
theorem getElem?_eq_some_iff (h : p.Partition fs q e) {i : Nat} :
    fs[i]? = some f ↔ (p.afterCalls i).answer = .ok f := by
  constructor
  · exact h.succeed i f
  · intro hanswer
    rcases Nat.lt_or_ge i fs.length with hlt | hge
    · have hget := List.getElem?_eq_getElem hlt
      have heq := (h.succeed i _ hget).symm.trans hanswer
      rw [hget, Except.ok.inj heq]
    · cases hanswer.symm.trans (h.fail i hge).1

/-- A call that fails comes after all instructions, and its error is the one that stays. -/
theorem of_answer_eq_error (h : p.Partition fs q e) {n : Nat} {e' : Error}
    (hanswer : (p.afterCalls n).answer = .error e') : fs.length ≤ n ∧ e' = e := by
  rcases Nat.lt_or_ge n fs.length with hlt | hge
  · cases hanswer.symm.trans (h.succeed n _ (List.getElem?_eq_getElem hlt))
  · exact ⟨hge, Except.error.inj (hanswer.symm.trans (h.fail n hge).1)⟩

end Partition

/-- **Calls without jumps partition the program** into instructions, up to the place where no other
can be fetched. A call leaves the program as it is if it fails, and otherwise as the fetch does. -/
theorem sweep_partitions (p : Program) (h : p.ip ≤ p.size) :
    (∀ q : Program, call.run q =
        match q.fetch with
        | .ok (f, r) => (.ok f, r)
        | .error e => (.error e, q)) ∧
      ∃ fs q e, Partition p fs q e := by
  refine ⟨run_call, ?_⟩
  obtain ⟨fs, q, e, hsweeps, hpeek⟩ := p.exists_sweeps
  obtain ⟨hanswers, hend⟩ := hsweeps.afterCalls
  have hcells := hsweeps.cells_eq
  have hsize : q.size = p.size := congrArg Array.size hcells
  have hip := hsweeps.ip_le h
  refine ⟨fs, q, e, hanswers, ?_, ?_, hsweeps.addresses_eq, hsweeps.length_operands,
    hsweeps.flatMap_cells_eq, hcells, hsize ▸ hip, endsFor_of_peek hpeek hip⟩
  · intro n hn
    obtain ⟨k, rfl⟩ := Nat.exists_eq_add_of_le hn
    have hq : p.afterCalls (fs.length + k) = q := by
      rw [afterCalls_add, hend, afterCalls_of_error hpeek]
    exact ⟨by rw [hq, answer, run_call_of_error hpeek], hq⟩
  · have hle := hsweeps.length_le
    omega

/-- Two instructions, and a third that lacks one of its two operands. -/
theorem sweep_partitions_cut_short :
    let p : Program := .ofCells [9, 32768, 4, 4, 21, 1, 32768]
    p.ip ≤ p.size ∧ ∃ fs q, Partition p fs q (.truncated .set 1) ∧
      fs = [⟨0, .add, [32768, 4, 4]⟩, ⟨4, .noop, []⟩] ∧ q.ip = 5 := by
  intro p
  have hip : p.ip ≤ p.size := Nat.zero_le _
  obtain ⟨-, fs, q, e, hpartition⟩ := sweep_partitions p hip
  have hfirst : (p.afterCalls 0).answer = .ok ⟨0, .add, [32768, 4, 4]⟩ := rfl
  have hsecond : (p.afterCalls 1).answer = .ok ⟨4, .noop, []⟩ := rfl
  have hthird : (p.afterCalls 2).answer = .error (.truncated .set 1) := rfl
  obtain ⟨hlength, rfl⟩ := hpartition.of_answer_eq_error hthird
  have hfs : fs = [⟨0, .add, [32768, 4, 4]⟩, ⟨4, .noop, []⟩] := by
    apply List.ext_getElem?
    rintro (_ | _ | i)
    · exact hpartition.getElem?_eq_some_iff.mpr hfirst
    · exact hpartition.getElem?_eq_some_iff.mpr hsecond
    · exact List.getElem?_eq_none (by omega)
  have hq : p.afterCalls 2 = q := (hpartition.fail 2 hlength).2
  exact ⟨hip, fs, q, hpartition, hfs, hq ▸ rfl⟩

end Program

end CellMachine
