import CellMachine.Proofs.Consoles
import CellMachine.Proofs.Input

/-!
# Nothing is read ahead

A terminal takes the bytes that it needs to tell what it reads, and looks at no others: a character
that is malformed or too large is known from the bytes that are taken with it. Only the end of the
input shows by what is not there. So a run that has not met the end is the same on every input that
begins with the bytes it has taken.

## Main statements

* `Terminal.exists_taken` — what is read depends on the bytes that are taken
* `SameButInput.next`, `SameButInput.after` — a step and a run on two inputs
* `depends_on_consumed` — two runs from the image on, over any number of steps
-/

namespace CellMachine

/-! ## Reading and writing -/

namespace Terminal

variable {lead : UInt8} {bs chunk rest : List UInt8} {width : Nat}

/-- A lead byte, as many bytes as it announces, and what comes after them. -/
theorem readBytes_chunk (hwidth : Utf8.width? lead = some width)
    (hchunk : chunk.length = width - 1) :
    readBytes (lead :: (chunk ++ rest)) =
      (match Utf8.decode lead chunk with
        | .ok c => .ok (some c)
        | .error length => .error (.malformed length), rest) := by
  have hlong : ¬(chunk ++ rest).length < width - 1 := by
    rw [List.length_append]
    omega
  simp only [readBytes, hwidth, if_neg hlong, List.take_left' hchunk, List.drop_left' hchunk]
  cases Utf8.decode lead chunk <;> rfl

/-- **What is read depends on the bytes that are taken**, unless the input ends. -/
theorem exists_taken (hend : (readBytes bs).1 ≠ .ok none)
    (hcut : (readBytes bs).1 ≠ .error .cutOff) :
    ∃ taken, bs = taken ++ (readBytes bs).2 ∧
      ∀ rest, readBytes (taken ++ rest) = ((readBytes bs).1, rest) := by
  cases bs with
  | nil => exact absurd rfl hend
  | cons lead tail =>
    cases hwidth : Utf8.width? lead with
    | none =>
      refine ⟨[lead], ?_, ?_⟩
      · simp only [readBytes, hwidth, List.cons_append, List.nil_append]
      · intro rest
        simp only [readBytes, hwidth, List.cons_append, List.nil_append]
    | some width =>
      have hlong : ¬tail.length < width - 1 := by
        intro hshort
        apply hcut
        simp only [readBytes, hwidth, if_pos hshort]
      -- the bytes that the lead byte announces are all there
      obtain ⟨chunk, left, htail, hchunk⟩ :
          ∃ chunk left, tail = chunk ++ left ∧ chunk.length = width - 1 :=
        ⟨tail.take (width - 1), tail.drop (width - 1), (List.take_append_drop ..).symm, by
          rw [List.length_take]
          omega⟩
      subst htail
      refine ⟨lead :: chunk, ?_, ?_⟩
      · rw [readBytes_chunk hwidth hchunk, List.cons_append]
      · intro rest
        rw [List.cons_append, readBytes_chunk hwidth hchunk, readBytes_chunk hwidth hchunk]

theorem readBytes_suffix (bs : List UInt8) : (readBytes bs).2 <:+ bs := by
  cases bs with
  | nil => exact List.suffix_rfl
  | cons lead tail =>
    have hdrop (n : Nat) : tail.drop n <:+ lead :: tail :=
      (List.drop_suffix n tail).trans (List.suffix_cons lead tail)
    simp only [readBytes]
    split
    · exact hdrop 0
    · split
      · exact List.nil_suffix
      · split <;> exact hdrop _

/-- The outputs are the same. -/
def SameOutput (t t' : Terminal) : Prop := t'.output = t.output

theorem SameOutput.readsRelated {t t' : Terminal} (h : SameOutput t t')
    (hanswer : (readBytes t'.input.bytes).1 = (readBytes t.input.bytes).1) :
    ReadsRelated SameOutput t t' := by
  rw [← read_eq, ← read_eq] at hanswer
  exact ⟨hanswer, (output_read t').trans (h.trans (output_read t).symm)⟩

/-- What a write does depends on the output only. -/
theorem SameOutput.writesRelated {t t' : Terminal} (h : SameOutput t t') (c : Char) :
    WritesRelated SameOutput t t' c := by
  obtain ⟨input, output⟩ := t
  obtain ⟨input', output'⟩ := t'
  obtain rfl : output' = output := h
  show ((mk input' output').write c).1 = ((mk input output').write c).1 ∧
    ((mk input' output').write c).2.output = ((mk input output').write c).2.output
  unfold write
  dsimp only
  split <;> exact ⟨rfl, rfl⟩

end Terminal

namespace Session

variable {s t : Session Terminal} {taken rest : List UInt8}

/-! ## One step -/

theorem unread_next_suffix (s : Session Terminal) : s.next.unread <:+ s.unread := by
  by_cases hexec : ∃ dst, s.Executes (.input dst)
  · obtain ⟨dst, hi⟩ := hexec
    rw [unread_next_of_input hi]
    exact Terminal.readBytes_suffix _
  · exact unread_next_of_not_input hexec ▸ List.suffix_rfl

/-- The next step is an `in` that meets the end of the input, before a character or within one. -/
def MeetsEnd (s : Session Terminal) : Prop :=
  (∃ dst, s.Executes (.input dst)) ∧
    ((Console.read s.console).1 = .ok none ∨ (Console.read s.console).1 = .error .cutOff)

/-- Two sessions that differ at most in the input of their terminals. -/
def SameButInput (s t : Session Terminal) : Prop := s.Related Terminal.SameOutput t

theorem SameButInput.executes_iff (h : s.SameButInput t) {i : Instruction} :
    t.Executes i ↔ s.Executes i := by
  rw [Executes, h.machine]

/-- An `in` sees no more of its input than it takes. -/
theorem readBytes_unread {dst : Register} (hi : s.Executes (.input dst)) (hend : ¬s.MeetsEnd)
    (hs : s.unread = taken ++ s.next.unread) :
    Terminal.readBytes (taken ++ rest) = ((Terminal.readBytes s.unread).1, rest) := by
  have hread : (Console.read s.console).1 = (Terminal.readBytes s.unread).1 :=
    congrArg Prod.fst (read_eq s)
  obtain ⟨taken', htaken, hreads⟩ := Terminal.exists_taken
    (fun hnone => hend ⟨⟨dst, hi⟩, Or.inl (hread.trans hnone)⟩)
    (fun hcut => hend ⟨⟨dst, hi⟩, Or.inr (hread.trans hcut)⟩)
  rw [← unread_next_of_input hi] at htaken
  obtain rfl : taken = taken' := List.append_cancel_right (hs.symm.trans htaken)
  exact hreads rest

/-- **A step on two inputs**: what it takes of the one is all that it sees of the other. -/
theorem SameButInput.next (h : s.SameButInput t) (hend : ¬s.MeetsEnd)
    (hs : s.unread = taken ++ s.next.unread) (ht : t.unread = taken ++ rest) :
    t.step.1 = s.step.1 ∧ s.next.SameButInput t.next ∧ t.next.unread = rest := by
  have hreads (dst : Register) (hi : s.Executes (.input dst)) :
      Terminal.readBytes t.unread = ((Terminal.readBytes s.unread).1, rest) :=
    ht ▸ readBytes_unread hi hend hs
  obtain ⟨hanswer, hnext⟩ := step_related h
    (fun dst hi => h.console.readsRelated (by rw [hreads dst hi]))
    (fun x c _ _ => h.console.writesRelated c)
  refine ⟨hanswer, hnext, ?_⟩
  by_cases hexec : ∃ dst, s.Executes (.input dst)
  · obtain ⟨dst, hi⟩ := hexec
    rw [unread_next_of_input (h.executes_iff.mpr hi), hreads dst hi]
  · have hexec' : ¬∃ dst, t.Executes (.input dst) := fun ⟨dst, hi⟩ =>
      hexec ⟨dst, h.executes_iff.mp hi⟩
    rw [unread_next_of_not_input hexec] at hs
    obtain rfl : taken = [] := List.self_eq_append_left.mp hs
    exact (unread_next_of_not_input hexec').trans ht

/-! ## Many steps -/

theorem unread_after_suffix (s : Session Terminal) {m n : Nat} (h : m ≤ n) :
    (s.after n).unread <:+ (s.after m).unread := by
  obtain ⟨k, rfl⟩ := Nat.exists_eq_add_of_le h
  rw [after_add]
  exact after_induction (P := fun t => t.unread <:+ (s.after m).unread)
    (fun t ht => (unread_next_suffix t).trans ht) List.suffix_rfl k

/-- How many bytes the first `n` steps take. -/
def consumed (s : Session Terminal) (n : Nat) : Nat := s.unread.length - (s.after n).unread.length

/-- **A run on two inputs**: what it takes of the one is all that it sees of the other. -/
theorem SameButInput.after (h : s.SameButInput t) {n : Nat} (hend : ∀ i < n, ¬(s.after i).MeetsEnd)
    (hs : s.unread = taken ++ (s.after n).unread) (ht : t.unread = taken ++ rest) :
    (∀ i < n, (t.after i).step.1 = (s.after i).step.1) ∧ (s.after n).SameButInput (t.after n) ∧
      (t.after n).unread = rest := by
  induction n generalizing taken rest with
  | zero =>
    obtain rfl : taken = [] := List.self_eq_append_left.mp hs
    exact ⟨nofun, h, ht⟩
  | succ n ih =>
    -- what the last step takes comes after what the steps before it take
    obtain ⟨before, hbefore⟩ := s.unread_after_suffix (Nat.zero_le n)
    obtain ⟨last, hlast⟩ := s.unread_after_suffix (Nat.le_succ n)
    have htaken : taken = before ++ last := by
      have happend : taken ++ (s.after (n + 1)).unread =
          before ++ last ++ (s.after (n + 1)).unread := by
        rw [← hs, List.append_assoc, hlast, hbefore]
        rfl
      exact List.append_cancel_right happend
    rw [htaken, List.append_assoc] at ht
    obtain ⟨hanswers, hsame, hunread⟩ :=
      ih (fun i hi => hend i (Nat.lt_succ_of_lt hi)) hbefore.symm ht
    obtain ⟨hanswer, hnext, hrest⟩ := hsame.next (hend n (Nat.lt_succ_self n)) hlast.symm hunread
    exact ⟨Nat.forall_lt_succ_right.mpr ⟨hanswers, hanswer⟩, hnext, hrest⟩

theorem unread_after_eq_drop (s : Session Terminal) (n : Nat) :
    (s.after n).unread = s.unread.drop (s.consumed n) :=
  List.suffix_iff_eq_drop.mp (s.unread_after_suffix (Nat.zero_le n))

theorem consumed_mono (s : Session Terminal) {m n : Nat} (h : m ≤ n) :
    s.consumed m ≤ s.consumed n :=
  Nat.sub_le_sub_left (s.unread_after_suffix h).length_le _

/-- The same in terms of how many bytes are taken. -/
theorem SameButInput.after_of_take_eq (h : s.SameButInput t) {n : Nat}
    (hend : ∀ i < n, ¬(s.after i).MeetsEnd)
    (hagree : t.unread.take (s.consumed n) = s.unread.take (s.consumed n)) :
    (∀ i < n, (t.after i).step.1 = (s.after i).step.1) ∧ (s.after n).SameButInput (t.after n) ∧
      t.consumed n = s.consumed n := by
  have hs : s.unread = s.unread.take (s.consumed n) ++ (s.after n).unread := by
    rw [unread_after_eq_drop, List.take_append_drop]
  have ht : t.unread = s.unread.take (s.consumed n) ++ t.unread.drop (s.consumed n) := by
    rw [← hagree, List.take_append_drop]
  obtain ⟨hanswers, hsame, hunread⟩ := h.after hend hs ht
  refine ⟨hanswers, hsame, ?_⟩
  -- there are as many bytes to take of the other input
  have hlength := congrArg List.length hagree
  have hle : s.consumed n ≤ s.unread.length := Nat.sub_le _ _
  rw [List.length_take, List.length_take, Nat.min_eq_left hle] at hlength
  rw [consumed, hunread, List.length_drop]
  omega

/-- **A run depends on the input that it has consumed.** From the image on, as long as no `in` meets
the end of the input, the run is the same on every input that begins with the bytes consumed. -/
theorem depends_on_consumed (settings : Settings) (image : List UInt8) (input input' : Input)
    (output : Output) (n : Nat) :
    let s := start settings (.ofImage image) (⟨input, output⟩ : Terminal)
    let t := start settings (.ofImage image) (⟨input', output⟩ : Terminal)
    (∀ i < n, ¬(s.after i).MeetsEnd) →
      input'.bytes.take (s.consumed n) = input.bytes.take (s.consumed n) →
        (∀ i < n, (t.after i).step.1 = (s.after i).step.1) ∧
          ∀ i ≤ n, (s.after i).SameButInput (t.after i) ∧ t.consumed i = s.consumed i := by
  intro s t hend hagree
  have hst : s.SameButInput t := ⟨rfl, rfl, rfl⟩
  have hrun (i : Nat) (hi : i ≤ n) := by
    refine hst.after_of_take_eq (fun j hj => hend j (Nat.lt_of_lt_of_le hj hi)) ?_
    have htake := congrArg (List.take (s.consumed i)) hagree
    rwa [List.take_take, List.take_take, Nat.min_eq_left (s.consumed_mono hi)] at htake
  exact ⟨(hrun n (Nat.le_refl n)).1, fun i hi => (hrun i hi).2⟩

/-- A character of two bytes and a byte that begins none are read, and what comes after them makes
no difference, be it nothing. -/
theorem depends_on_consumed_two :
    let image := Image.encode [20, 32768, 20, 32769]
    let s := start {} (.ofImage image) (⟨.ofBytes [0xC3, 0xA9, 0xFF, 0x41], .empty none⟩ : Terminal)
    let t := start {} (.ofImage image) (⟨.ofBytes [0xC3, 0xA9, 0xFF], .empty none⟩ : Terminal)
    (∀ i < 3, ¬(s.after i).MeetsEnd) ∧ s.consumed 3 = 3 ∧
      (t.after 1).step.1 = .error ⟨2, .console .notUtf8⟩ ∧
      (t.after 3).machine = (s.after 3).machine ∧ t.consumed 3 = 3 := by
  intro image s t
  have hread (i : Nat) : (Console.read (s.after i).console).1 =
      (Terminal.readBytes (s.after i).unread).1 := congrArg Prod.fst (read_eq _)
  have hfirst : (Console.read (s.after 0).console).1 = .ok (some 'é') := by
    have hunread : (s.after 0).unread = [0xC3, 0xA9, 0xFF, 0x41] := by decide +kernel
    rw [hread, hunread]
    rfl
  have hsecond : (Console.read (s.after 1).console).1 = .error .notUtf8 := by
    have hunread : (s.after 1).unread = [0xFF, 0x41] := by decide +kernel
    rw [hread, hunread]
    rfl
  have hinput : (s.after 1).Executes (.input ⟨1⟩) := by decide +kernel
  have hip : (s.after 1).ip = 2 := by decide +kernel
  have hstopped : (s.after 2).machine.status ≠ .running := by decide +kernel
  have hend : ∀ i < 3, ¬(s.after i).MeetsEnd := by
    rintro i hi ⟨⟨dst, hexec⟩, hmeets⟩
    obtain rfl | rfl | rfl : i = 0 ∨ i = 1 ∨ i = 2 := by omega
    · rw [hfirst] at hmeets
      exact hmeets.elim nofun nofun
    · rw [hsecond] at hmeets
      exact hmeets.elim nofun nofun
    · exact hstopped hexec.1
  have hconsumed : s.consumed 3 = 3 := by decide +kernel
  have hanswer : (s.after 1).step.1 = .error ⟨2, .console .notUtf8⟩ := by
    rw [answer_of_input hinput, hsecond, hip]
    rfl
  have hagree : (Input.ofBytes [0xC3, 0xA9, 0xFF]).bytes.take (s.consumed 3) =
      (Input.ofBytes [0xC3, 0xA9, 0xFF, 0x41]).bytes.take (s.consumed 3) := by
    rw [hconsumed]
    rfl
  obtain ⟨hanswers, hafter⟩ := depends_on_consumed {} image (.ofBytes [0xC3, 0xA9, 0xFF, 0x41])
    (.ofBytes [0xC3, 0xA9, 0xFF]) (.empty none) 3 hend hagree
  obtain ⟨hsame, htaken⟩ := hafter 3 (Nat.le_refl 3)
  exact ⟨hend, hconsumed, (hanswers 1 (by decide)).trans hanswer, hsame.machine,
    htaken.trans hconsumed⟩

end Session

end CellMachine
