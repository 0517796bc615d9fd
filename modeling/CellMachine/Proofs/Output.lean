import CellMachine.Console.Terminal
import CellMachine.Proofs.Run

/-!
# What a program writes

Only `out` adds bytes to the output of a terminal. It adds the encoding of one character, the one
whose code point is its value, and a flush; a value that is not a code point makes it fail and adds
nothing. So the bytes that have been written, where there is room for all of them, are the encodings
of what has been printed.

What a write does to the output is told by the part of the encoding that fits (`write_of_fits`,
`write_of_not_fits`), for outputs with a limit as well.

## Main statements

* `printed?_eq_some_iff` — what a step prints
* `output_next` — the output after a step, in terms of what the step prints
* `written_after`, `flushes_after` — the same over a run
* `output_in_order` — the output at any point of a run
-/

namespace CellMachine

/-! ## Writing a character -/

theorem charOfCell?_eq_some_iff {v : Cell} {c : Char} :
    charOfCell? v = some c ↔ c.toNat = v.toNat := by
  by_cases h : v.toNat.isValidChar
  · have htoNat : (Char.ofNatAux v.toNat h).toNat = v.toNat := rfl
    rw [charOfCell?, dif_pos h, Option.some.injEq, ← Char.toNat_inj, htoNat, eq_comm]
  · rw [charOfCell?, dif_neg h]
    refine iff_of_false (Option.some_ne_none c).symm ?_
    intro hc
    exact h (hc ▸ c.valid)

theorem charOfCell?_eq_none_iff {v : Cell} : charOfCell? v = none ↔ ¬v.toNat.isValidChar := by
  by_cases h : v.toNat.isValidChar
  · rw [charOfCell?, dif_pos h]
    exact iff_of_false (Option.some_ne_none _) (not_not_intro h)
  · rw [charOfCell?, dif_neg h]
    exact iff_of_true rfl h

/-- The output with all the bytes of a character, passed on. -/
def Output.put (output : Output) (c : Char) : Output :=
  { output with bytes := output.bytes ++ Utf8.encode c, flushes := output.flushes + 1 }

namespace Terminal

variable {t : Terminal} {c : Char}

theorem write_of_fits (h : t.output.fitting (Utf8.encode c) = Utf8.encode c) :
    t.write c = (.ok (), ⟨t.input, t.output.put c⟩) := by
  obtain ⟨input, output⟩ := t
  simp only [write, Output.write, h, beq_self_eq_true, if_true]
  rfl

theorem write_of_not_fits
    (h : (t.output.fitting (Utf8.encode c)).length < (Utf8.encode c).length) :
    t.write c =
      (.error .full,
        ⟨t.input,
          { t.output with bytes := t.output.bytes ++ t.output.fitting (Utf8.encode c) }⟩) := by
  obtain ⟨input, output⟩ := t
  have hne : ((output.fitting (Utf8.encode c)).length == (Utf8.encode c).length) = false :=
    beq_false_of_ne (Nat.ne_of_lt h)
  simp only [write, Output.write, hne, Bool.false_eq_true, if_false]

/-- Without a limit there is room for everything. -/
theorem write_of_limit_eq_none (h : t.output.limit = none) :
    t.write c = (.ok (), ⟨t.input, t.output.put c⟩) :=
  write_of_fits (Output.fitting_of_limit_eq_none h _)

end Terminal

namespace Session

/-! ## What is printed -/

section Printed

variable {κ : Type} [Console κ]

/-- What the next step prints: the character of the value of an `out`. -/
def printed? (s : Session κ) : Option Char :=
  match s.machine.instruction?, s.step.1 with
  | some (.output x), .ok .running => charOfCell? (s.core.value x)
  | _, _ => none

/-- What the first `n` steps print, in their order. -/
def printed (s : Session κ) (n : Nat) : List Char :=
  (List.range n).filterMap fun i => (s.after i).printed?

variable {s : Session κ} {c : Char} {x : Operand}

/-- **A step prints a character if it is an `out`, completes, and has the code point of the
character as its value.** -/
theorem printed?_eq_some_iff :
    s.printed? = some c ↔
      s.Completes ∧ ∃ x, s.Executes (.output x) ∧ c.toNat = (s.core.value x).toNat := by
  constructor
  · intro h
    unfold printed? at h
    split at h
    · next x hi hstep =>
      exact ⟨hstep, x, Machine.instruction?_eq_some_iff.mp hi, charOfCell?_eq_some_iff.mp h⟩
    · cases h
  · rintro ⟨hstep, x, hi, hc⟩
    have hi' : s.machine.instruction? = some (.output x) := Machine.instruction?_eq_some_iff.mpr hi
    have hstep' : s.step.1 = .ok .running := hstep
    simp only [printed?, hi', hstep']
    exact charOfCell?_eq_some_iff.mpr hc

theorem printed_succ (s : Session κ) (n : Nat) :
    s.printed (n + 1) = s.printed n ++ (s.after n).printed?.toList :=
  filterMap_range_succ _ n

/-- A value that is not a code point makes an `out` fail. -/
theorem answer_of_output_of_none (h : s.Executes (.output x))
    (hc : charOfCell? (s.core.value x) = none) :
    s.step.1 = .error ⟨s.ip, .invalidCharacter (s.core.value x)⟩ := by
  rw [answer_of_executes h]
  simp only [Machine.effect, execute, hc, Flow.answer]

/-- Otherwise the console decides. -/
theorem answer_of_output_of_some (h : s.Executes (.output x))
    (hc : charOfCell? (s.core.value x) = some c) :
    s.step.1 =
      match (Console.write c s.console).1 with
      | .ok () => .ok .running
      | .error cause => .error ⟨s.ip, .console cause⟩ := by
  rw [answer_of_executes h]
  simp only [Machine.effect, execute, hc]
  obtain ⟨answer, console'⟩ := Console.write c s.console
  cases answer <;> rfl

/-- An `out` that completes has printed. -/
theorem exists_printed?_of_completes (h : s.Executes (.output x)) (hcompletes : s.Completes) :
    ∃ c, s.printed? = some c := by
  cases hc : charOfCell? (s.core.value x) with
  | none => exact absurd hcompletes (not_completes_of_error (answer_of_output_of_none h hc))
  | some c =>
    exact ⟨c, printed?_eq_some_iff.mpr ⟨hcompletes, x, h, charOfCell?_eq_some_iff.mp hc⟩⟩

theorem printed?_eq_none_iff :
    s.printed? = none ↔ ¬(s.Completes ∧ ∃ x, s.Executes (.output x)) := by
  constructor
  · rintro hnone ⟨hcompletes, x, hi⟩
    obtain ⟨c, hc⟩ := exists_printed?_of_completes hi hcompletes
    cases hnone.symm.trans hc
  · intro h
    refine Option.eq_none_iff_forall_ne_some.mpr fun c hc => ?_
    obtain ⟨hcompletes, x, hi, -⟩ := printed?_eq_some_iff.mp hc
    exact h ⟨hcompletes, x, hi⟩

end Printed

/-! ## One step at a terminal -/

/-- The bytes that have been written. -/
abbrev written (s : Session Terminal) : List UInt8 := s.console.output.bytes.toList

/-- How many times the output has been flushed. -/
abbrev flushes (s : Session Terminal) : Nat := s.console.output.flushes

/-- There is room for everything that will be written. -/
abbrev Unlimited (s : Session Terminal) : Prop := s.console.output.limit = none

variable {s : Session Terminal} {x : Operand} {c : Char}

/-- **Only `out` writes.** -/
theorem output_next_of_not_output (h : ∀ x, ¬s.Executes (.output x)) :
    s.next.console.output = s.console.output := by
  rcases s.console_next_cases with hsame | ⟨dst, -, hread⟩ | ⟨x, c, hi, -⟩
  · rw [hsame]
  · rw [hread]
    exact Terminal.output_read _
  · exact absurd hi (h x)

theorem output_next_of_output (h : s.Executes (.output x)) :
    s.next.console.output =
      match charOfCell? (s.core.value x) with
      | some c => (s.console.write c).2.output
      | none => s.console.output := by
  rw [console_next_of_executes h, Machine.effect, console_execute]
  dsimp only
  cases charOfCell? (s.core.value x) <;> rfl

/-- With room for everything, an `out` completes if its value is a code point. -/
theorem answer_of_output (hroom : s.Unlimited) (h : s.Executes (.output x)) :
    s.step.1 =
      if (s.core.value x).toNat.isValidChar then .ok .running
      else .error ⟨s.ip, .invalidCharacter (s.core.value x)⟩ := by
  cases hc : charOfCell? (s.core.value x) with
  | none =>
    rw [answer_of_output_of_none h hc, if_neg (charOfCell?_eq_none_iff.mp hc)]
  | some c =>
    have hvalid : (s.core.value x).toNat.isValidChar := charOfCell?_eq_some_iff.mp hc ▸ c.valid
    have hwrite : (Console.write c s.console).1 = .ok () :=
      congrArg Prod.fst (Terminal.write_of_limit_eq_none hroom)
    rw [answer_of_output_of_some h hc, hwrite, if_pos hvalid]

/-- **The output after a step** is the output with what the step prints. -/
theorem output_next (hroom : s.Unlimited) :
    s.next.console.output =
      match s.printed? with
      | some c => s.console.output.put c
      | none => s.console.output := by
  cases hprinted : s.printed? with
  | some c =>
    obtain ⟨-, x, hi, hc⟩ := printed?_eq_some_iff.mp hprinted
    rw [output_next_of_output hi, charOfCell?_eq_some_iff.mpr hc]
    exact congrArg (·.2.output) (Terminal.write_of_limit_eq_none hroom)
  | none =>
    by_cases hexec : ∃ x, s.Executes (.output x)
    · obtain ⟨x, hi⟩ := hexec
      -- the `out` has not completed, so that there is no character to write
      have hchar : charOfCell? (s.core.value x) = none := by
        refine charOfCell?_eq_none_iff.mpr fun hvalid => ?_
        have hcompletes : s.Completes := (answer_of_output hroom hi).trans (if_pos hvalid)
        exact printed?_eq_none_iff.mp hprinted ⟨hcompletes, x, hi⟩
      rw [output_next_of_output hi, hchar]
    · exact output_next_of_not_output (not_exists.mp hexec)

theorem unlimited_next (hroom : s.Unlimited) : s.next.Unlimited := by
  rw [Unlimited, output_next hroom]
  cases s.printed? <;> exact hroom

theorem written_next (hroom : s.Unlimited) :
    s.next.written = s.written ++ s.printed?.toList.flatMap Utf8.encode := by
  rw [written, output_next hroom]
  cases s.printed? with
  | none => simp
  | some c => simp [Output.put]

theorem flushes_next (hroom : s.Unlimited) :
    s.next.flushes = s.flushes + s.printed?.toList.length := by
  rw [flushes, output_next hroom]
  cases s.printed? <;> rfl

/-! ## Many steps -/

theorem unlimited_after (hroom : s.Unlimited) (n : Nat) : (s.after n).Unlimited :=
  after_induction (P := Unlimited) (fun _ => unlimited_next) hroom n

/-- **What has been written are the encodings of what has been printed.** -/
theorem written_after (hroom : s.Unlimited) (n : Nat) :
    (s.after n).written = s.written ++ (s.printed n).flatMap Utf8.encode := by
  induction n with
  | zero => simp [printed]
  | succ n ih =>
    rw [after_succ, written_next (unlimited_after hroom n), ih, printed_succ, List.flatMap_append,
      List.append_assoc]

theorem flushes_after (hroom : s.Unlimited) (n : Nat) :
    (s.after n).flushes = s.flushes + (s.printed n).length := by
  induction n with
  | zero => rfl
  | succ n ih =>
    rw [after_succ, flushes_next (unlimited_after hroom n), ih, printed_succ, List.length_append,
      Nat.add_assoc]

/-- Nothing that has been written is ever taken back. -/
theorem written_mono (hroom : s.Unlimited) {m n : Nat} (h : m ≤ n) :
    (s.after m).written <+: (s.after n).written := by
  obtain ⟨k, rfl⟩ := Nat.exists_eq_add_of_le h
  rw [after_add, written_after (unlimited_after hroom m)]
  exact List.prefix_append _ _

/-- The output after `n` steps from an empty one: what has been written, and what the next step adds
to it. -/
structure OutputInOrder (s : Session Terminal) (n : Nat) : Prop where
  /-- The bytes are the encodings of what has been printed. -/
  bytes : (s.after n).written = (s.printed n).flatMap Utf8.encode
  valid : ByteArray.IsValidUTF8 ⟨(s.after n).console.output.bytes⟩
  /-- There is one flush for each character. -/
  flushes : (s.after n).flushes = (s.printed n).length
  prefix_of_le : ∀ m ≤ n, (s.after m).written <+: (s.after n).written
  /-- If the next step is an `out` that completes, it prints the character of its value. -/
  next_of_completes : ∀ x, (s.after n).Executes (.output x) → (s.after n).Completes →
    ∃ c, c.toNat = ((s.after n).core.value x).toNat ∧ s.printed (n + 1) = s.printed n ++ [c] ∧
      (s.after (n + 1)).written = (s.after n).written ++ Utf8.encode c ∧
      (s.after (n + 1)).flushes = (s.after n).flushes + 1
  /-- If not, it prints nothing and leaves the output alone. -/
  next_of_not : ¬((s.after n).Completes ∧ ∃ x, (s.after n).Executes (.output x)) →
    s.printed (n + 1) = s.printed n ∧
      (s.after (n + 1)).console.output = (s.after n).console.output
  /-- An `out` does not complete if its value is not a code point. -/
  answer : ∀ x, (s.after n).Executes (.output x) →
    (s.after n).step.1 =
      if ((s.after n).core.value x).toNat.isValidChar then .ok .running
      else .error ⟨(s.after n).ip, .invalidCharacter ((s.after n).core.value x)⟩

/-- **The output is what has been printed, and nothing else**, from the image on, over any number of
steps. -/
theorem output_in_order (settings : Settings) (image : List UInt8) (input : Input) (n : Nat) :
    (start settings (.ofImage image) ⟨input, .empty none⟩).OutputInOrder n := by
  generalize hs : start settings (.ofImage image) (⟨input, .empty none⟩ : Terminal) = s
  have hroom : s.Unlimited := hs ▸ rfl
  have hroom' := unlimited_after hroom n
  have hbytes : (s.after n).written = (s.printed n).flatMap Utf8.encode := by
    rw [written_after hroom, ← hs]
    rfl
  constructor
  · exact hbytes
  · refine ⟨s.printed n, ByteArray.ext ?_⟩
    rw [List.utf8Encode, List.data_toByteArray]
    exact Array.toList_inj.mp hbytes
  · rw [flushes_after hroom, ← hs]
    exact Nat.zero_add _
  · intro m hm
    exact written_mono hroom hm
  · intro x hi hcompletes
    obtain ⟨c, hc⟩ := exists_printed?_of_completes hi hcompletes
    obtain ⟨-, y, hy, hvalue⟩ := printed?_eq_some_iff.mp hc
    obtain rfl : x = y := by injection hi.unique hy
    refine ⟨c, hvalue, ?_, ?_, ?_⟩
    · rw [printed_succ, hc, Option.toList_some]
    · rw [after_succ, written_next hroom', hc, Option.toList_some, List.flatMap_singleton]
    · rw [after_succ, flushes_next hroom', hc, Option.toList_some, List.length_singleton]
  · intro h
    have hnone := printed?_eq_none_iff.mpr h
    rw [printed_succ, after_succ, output_next hroom', hnone, Option.toList_none, List.append_nil]
    exact ⟨rfl, rfl⟩
  · intro x hi
    exact answer_of_output hroom' hi

/-- A character of one byte and one of three are printed, and then a surrogate is not, which has
come into its register from the memory. -/
theorem output_in_order_surrogate :
    let image := Image.encode [19, 104, 19, 20013, 15, 32768, 9, 19, 32768, 0xD800]
    let s := start {} (.ofImage image) (⟨.ofBytes [], .empty none⟩ : Terminal)
    s.printed 3 = ['h', '中'] ∧ (s.after 3).written = [0x68, 0xE4, 0xB8, 0xAD] ∧
      (s.after 3).flushes = 2 ∧ (s.after 3).Executes (.output (.register ⟨0⟩)) ∧
      (s.after 3).step.1 = .error ⟨7, .invalidCharacter 0xD800⟩ ∧
      (s.after 4).console.output = (s.after 3).console.output := by
  intro image s
  have horder : s.OutputInOrder 3 := output_in_order {} image (.ofBytes []) 3
  have hprinted : s.printed 3 = ['h', '中'] := by decide +kernel
  have hexec : (s.after 3).Executes (.output (.register ⟨0⟩)) := by decide +kernel
  have hvalue : (s.after 3).core.value (.register ⟨0⟩) = 0xD800 := by decide +kernel
  have hip : (s.after 3).ip = 7 := by decide +kernel
  have hstep : (s.after 3).step.1 = .error ⟨7, .invalidCharacter 0xD800⟩ := by
    rw [horder.answer _ hexec, hvalue, hip]
    exact if_neg (by decide)
  refine ⟨hprinted, ?_, ?_, hexec, hstep, ?_⟩
  · rw [horder.bytes, hprinted]
    decide +kernel
  · rw [horder.flushes, hprinted]
    rfl
  · refine (horder.next_of_not ?_).2
    rintro ⟨hcompletes, -⟩
    exact not_completes_of_error hstep hcompletes

end Session

end CellMachine
