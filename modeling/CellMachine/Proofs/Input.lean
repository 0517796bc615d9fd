import CellMachine.Proofs.Reading
import CellMachine.Proofs.Run

/-!
# How a program gets its input

Only `in` takes bytes from a terminal. It takes the encoding of one character and puts the code
point into its register, if a literal can hold that. So the bytes that there were at first are the
encodings of what has been delivered, followed by the bytes that are still unread, until an `in`
fails; and whether and how it fails is told by the unread bytes alone.

## Main statements

* `delivered?_eq_some_iff` — what a step delivers
* `unread_eq` — what a step takes of the unread bytes is what it delivers
* `unread_after` — the same over a run
* `inputEnds` — how an `in` ends
* `input_in_order` — the input at any point of a run
-/

namespace CellMachine

/-! ## Executing an `in` -/

/-- The bytes of the character whose code point is the value. -/
def utf8OfCell (v : Cell) : List UInt8 := Utf8.encode (.ofNat v.toNat)

theorem utf8OfCell_ofNat {c : Char} (h : c.toNat < modulus) :
    utf8OfCell (.ofNat c.toNat) = Utf8.encode c := by
  have hlt : c.toNat < 65536 := Nat.lt_trans h (by decide)
  rw [utf8OfCell, UInt16.toNat_ofNat', Nat.mod_eq_of_lt hlt, Char.ofNat_toNat]

/-- How an `in` at an address ends that sees the end of the input. -/
def EndOfInput.answer (address : Nat) : EndOfInput → Except Fault Status
  | .fail => .error ⟨address, .inputExhausted⟩
  | .halt => .ok (.halted .endOfInput)

/-- How an `in` at an address ends, by what it has read. -/
def answerOfRead (policy : EndOfInput) (address : Nat) :
    Except ConsoleError (Option Char) → Except Fault Status
  | .error cause => .error ⟨address, .console cause⟩
  | .ok none => policy.answer address
  | .ok (some c) =>
    if c.toNat < modulus then .ok .running else .error ⟨address, .unrepresentableInput c⟩

section AnswerOfRead

variable {policy : EndOfInput} {address : Nat} {read : Except ConsoleError (Option Char)}

theorem answerOfRead_eq_running_iff :
    answerOfRead policy address read = .ok .running ↔
      ∃ c, c.toNat < modulus ∧ read = .ok (some c) := by
  match read with
  | .error cause => simp [answerOfRead]
  | .ok none => cases policy <;> simp [answerOfRead, EndOfInput.answer]
  | .ok (some c) =>
    rw [answerOfRead]
    split <;> simp [*]

theorem answerOfRead_eq_end_iff :
    answerOfRead policy address read = policy.answer address ↔ read = .ok none := by
  match read with
  | .error cause => cases policy <;> simp [answerOfRead, EndOfInput.answer]
  | .ok none => exact iff_of_true rfl rfl
  | .ok (some c) =>
    rw [answerOfRead]
    split <;> cases policy <;> simp [EndOfInput.answer]

theorem answerOfRead_eq_unrepresentable_iff {c : Char} :
    answerOfRead policy address read = .error ⟨address, .unrepresentableInput c⟩ ↔
      modulus ≤ c.toNat ∧ read = .ok (some c) := by
  match read with
  | .error cause => simp [answerOfRead]
  | .ok none => cases policy <;> simp [answerOfRead, EndOfInput.answer]
  | .ok (some d) =>
    rw [answerOfRead]
    split
    · next hd =>
      refine iff_of_false nofun ?_
      rintro ⟨hc, hread⟩
      obtain rfl : d = c := Option.some.inj (Except.ok.inj hread)
      exact Nat.not_lt_of_le hc hd
    · next hd =>
      simp only [Except.error.injEq, Fault.mk.injEq, Error.unrepresentableInput.injEq, true_and,
        Except.ok.injEq, Option.some.injEq]
      constructor
      · rintro rfl
        exact ⟨Nat.le_of_not_lt hd, rfl⟩
      · exact And.right

theorem answerOfRead_eq_console_iff {cause : ConsoleError} :
    answerOfRead policy address read = .error ⟨address, .console cause⟩ ↔ read = .error cause := by
  match read with
  | .error cause => simp [answerOfRead]
  | .ok none => cases policy <;> simp [answerOfRead, EndOfInput.answer]
  | .ok (some c) =>
    rw [answerOfRead]
    split <;> simp

end AnswerOfRead

section Execute

variable {κ : Type} [Console κ] {policy : EndOfInput} {p : Program} {core : Core} {console : κ}
  {dst : Register}

theorem answer_execute_input (address : Nat) :
    (execute policy p core console (.input dst)).flow.answer address =
      answerOfRead policy address (Console.read console).1 := by
  simp only [execute]
  obtain ⟨read, console'⟩ := Console.read console
  cases read with
  | error cause => rfl
  | ok next =>
    cases next with
    | none => cases policy <;> rfl
    | some c =>
      by_cases hc : c.toNat < modulus
      · simp only [cellOfChar?, answerOfRead, if_pos hc]
        rfl
      · simp only [cellOfChar?, answerOfRead, if_neg hc]
        rfl

/-- The register of an `in` gets the code point of what has been read. -/
theorem get_registers_input {c : Char} (hread : (Console.read console).1 = .ok (some c))
    (hc : c.toNat < modulus) :
    (execute policy p core console (.input dst)).core.registers.get dst = .ofNat c.toNat := by
  have hreceived :
      (Instruction.input dst).received? p core console = some (dst, .ofNat c.toNat) := by
    simp only [Instruction.received?, hread, cellOfChar?, if_pos hc, Option.map_some]
  rw [registers_execute, hreceived]
  exact (Registers.get_set ..).trans (if_pos rfl)

end Execute

namespace Session

/-! ## What is delivered -/

section Delivered

variable {κ : Type} [Console κ]

/-- What the next step delivers: the value that an `in` puts into its register. -/
def delivered? (s : Session κ) : Option Cell :=
  match s.machine.instruction?, s.step.1 with
  | some (.input dst), .ok .running => some (s.next.core.registers.get dst)
  | _, _ => none

/-- What the first `n` steps deliver, in their order. -/
def delivered (s : Session κ) (n : Nat) : List Cell :=
  (List.range n).filterMap fun i => (s.after i).delivered?

/-- The next step is an `in` that fails. -/
def InputFails (s : Session κ) : Prop :=
  (∃ dst, s.Executes (.input dst)) ∧ ∃ fault, s.step.1 = .error fault

variable {s : Session κ} {v : Cell} {n : Nat}

theorem not_inputFails_of_completes (h : s.Completes) : ¬s.InputFails := by
  rintro ⟨-, fault, hfault⟩
  exact nomatch h.symm.trans hfault

theorem delivered?_eq_some_iff :
    s.delivered? = some v ↔
      s.Completes ∧ ∃ dst, s.Executes (.input dst) ∧ s.next.core.registers.get dst = v := by
  constructor
  · intro h
    unfold delivered? at h
    split at h
    · next dst hi hstep =>
      exact ⟨hstep, dst, Machine.instruction?_eq_some_iff.mp hi, Option.some.inj h⟩
    · cases h
  · rintro ⟨hstep, dst, hi, rfl⟩
    have hi' : s.machine.instruction? = some (.input dst) := Machine.instruction?_eq_some_iff.mpr hi
    have hstep' : s.step.1 = .ok .running := hstep
    simp only [delivered?, hi', hstep']

theorem delivered?_eq_none (h : ¬(s.Completes ∧ ∃ dst, s.Executes (.input dst))) :
    s.delivered? = none := by
  cases hv : s.delivered? with
  | none => rfl
  | some v =>
    obtain ⟨hstep, dst, hi, -⟩ := delivered?_eq_some_iff.mp hv
    exact absurd ⟨hstep, dst, hi⟩ h

theorem delivered_succ (s : Session κ) (n : Nat) :
    s.delivered (n + 1) = s.delivered n ++ (s.after n).delivered?.toList :=
  filterMap_range_succ _ n

theorem mem_delivered_iff : v ∈ s.delivered n ↔ ∃ i < n, (s.after i).delivered? = some v := by
  simp only [delivered, List.mem_filterMap, List.mem_range]

theorem answer_of_input {dst : Register} (h : s.Executes (.input dst)) :
    s.step.1 =
      answerOfRead s.machine.settings.endOfInput s.ip (Console.read s.console).1 := by
  rw [answer_of_executes h, Machine.effect, answer_execute_input]

end Delivered

/-! ## One step at a terminal -/

/-- The bytes that are still to be read. -/
abbrev unread (s : Session Terminal) : List UInt8 := s.console.input.bytes

variable {s : Session Terminal} {dst : Register}

theorem read_eq (s : Session Terminal) :
    ((Console.read s.console).1, (Console.read s.console).2.input.bytes) =
      Terminal.readBytes s.unread :=
  Terminal.read_eq s.console

theorem unread_next_of_input (h : s.Executes (.input dst)) :
    s.next.unread = (Terminal.readBytes s.unread).2 := by
  rw [← read_eq, unread, console_next_of_executes h, Machine.effect, console_execute]

/-- **Only `in` takes input**, be it from the bytes or from their buffers. -/
theorem input_next_of_not_input (h : ∀ dst, ¬s.Executes (.input dst)) :
    s.next.console.input = s.console.input := by
  rcases s.console_next_cases with hsame | ⟨dst, hi, -⟩ | ⟨x, c, -, -, hwrite⟩
  · rw [hsame]
  · exact absurd hi (h dst)
  · rw [hwrite]
    exact Terminal.input_write _ _

theorem unread_next_of_not_input (h : ¬∃ dst, s.Executes (.input dst)) :
    s.next.unread = s.unread :=
  congrArg Input.bytes (input_next_of_not_input (not_exists.mp h))

/-- What an `in` that completes takes and delivers. -/
theorem unread_of_completes (h : s.Executes (.input dst)) (hcompletes : s.Completes) :
    ∃ c, c.toNat < modulus ∧ s.unread = Utf8.encode c ++ s.next.unread ∧
      s.delivered? = some (.ofNat c.toNat) := by
  obtain ⟨c, hc, hread⟩ :=
    answerOfRead_eq_running_iff.mp ((answer_of_input h).symm.trans hcompletes)
  refine ⟨c, hc, ?_, ?_⟩
  · refine Terminal.readBytes_eq_char_iff.mp ?_
    rw [unread_next_of_input h, ← read_eq, ← hread]
  · refine delivered?_eq_some_iff.mpr ⟨hcompletes, dst, h, ?_⟩
    rw [core, next_of_executes h, Machine.settle_core]
    exact get_registers_input hread hc

/-- An `in` that neither completes nor fails has found the end of the input. -/
theorem unread_of_not_fails (h : s.Executes (.input dst)) (hcompletes : ¬s.Completes)
    (hfails : ¬s.InputFails) : s.unread = [] := by
  have hnofault (fault : Fault) : s.step.1 ≠ .error fault := fun hfault =>
    hfails ⟨⟨dst, h⟩, fault, hfault⟩
  rw [← Terminal.fst_readBytes_eq_end_iff, ← read_eq]
  rw [answer_of_input h] at hnofault
  -- of what can be read, only the end neither completes the `in` nor is a fault
  match hread : (Console.read s.console).1 with
  | .ok none => rfl
  | .error cause => exact absurd (answerOfRead_eq_console_iff.mpr hread) (hnofault _)
  | .ok (some c) =>
    rcases Nat.lt_or_ge c.toNat modulus with hc | hc
    · refine absurd ?_ hcompletes
      exact (answer_of_input h).trans (answerOfRead_eq_running_iff.mpr ⟨c, hc, hread⟩)
    · exact absurd (answerOfRead_eq_unrepresentable_iff.mpr ⟨hc, hread⟩) (hnofault _)

/-- **What a step takes of the unread bytes is what it delivers**, unless an `in` fails. -/
theorem unread_eq (h : ¬s.InputFails) :
    s.unread = s.delivered?.toList.flatMap utf8OfCell ++ s.next.unread := by
  by_cases hexec : ∃ dst, s.Executes (.input dst)
  · obtain ⟨dst, hi⟩ := hexec
    by_cases hcompletes : s.Completes
    · obtain ⟨c, hc, hunread, hdelivered⟩ := unread_of_completes hi hcompletes
      rw [hunread, hdelivered, Option.toList_some, List.flatMap_singleton, utf8OfCell_ofNat hc]
    · have hend := unread_of_not_fails hi hcompletes h
      rw [delivered?_eq_none fun hboth => hcompletes hboth.1, unread_next_of_input hi, hend]
      rfl
  · rw [delivered?_eq_none fun hboth => hexec hboth.2, unread_next_of_not_input hexec]
    rfl

theorem delivered?_lt {v : Cell} (h : s.delivered? = some v) : v.toNat < modulus := by
  obtain ⟨hcompletes, dst, hi, -⟩ := delivered?_eq_some_iff.mp h
  obtain ⟨c, hc, -, hdelivered⟩ := unread_of_completes hi hcompletes
  obtain rfl := Option.some.inj (h.symm.trans hdelivered)
  rw [UInt16.toNat_ofNat']
  exact Nat.lt_of_le_of_lt (Nat.mod_le _ _) hc

/-- How an `in` ends, in terms of the unread bytes. -/
structure InputEnds (s : Session Terminal) (policy : EndOfInput) : Prop where
  completes : s.Completes ↔ ∃ c, c.toNat < modulus ∧ Utf8.encode c <+: s.unread
  /-- It sees the end of the input. -/
  exhausted : s.step.1 = policy.answer s.ip ↔ s.unread = []
  /-- It has read a character that is too large. -/
  unrepresentable : ∀ c, s.step.1 = .error ⟨s.ip, .unrepresentableInput c⟩ ↔
    modulus ≤ c.toNat ∧ Utf8.encode c <+: s.unread
  /-- It has read no character, though there are bytes. -/
  unreadable : (∃ cause, s.step.1 = .error ⟨s.ip, .console cause⟩) ↔
    s.unread ≠ [] ∧ ∀ c, ¬Utf8.encode c <+: s.unread

theorem inputEnds (h : s.Executes (.input dst)) : s.InputEnds s.machine.settings.endOfInput := by
  have hend : s.unread = [] ↔ (Console.read s.console).1 = .ok none := by
    rw [← Terminal.fst_readBytes_eq_end_iff, ← read_eq]
  have hchar (c : Char) :
      Utf8.encode c <+: s.unread ↔ (Console.read s.console).1 = .ok (some c) := by
    rw [← Terminal.fst_readBytes_eq_char_iff, ← read_eq]
  -- the unread bytes tell what the console reads, and that tells the answer
  constructor
  · simp only [hchar]
    rw [Completes, answer_of_input h, answerOfRead_eq_running_iff]
  · rw [hend, answer_of_input h, answerOfRead_eq_end_iff]
  · intro c
    rw [hchar, answer_of_input h, answerOfRead_eq_unrepresentable_iff]
  · simp only [answer_of_input h, answerOfRead_eq_console_iff, ne_eq, hend, hchar]
    generalize (Console.read s.console).1 = read
    obtain cause | _ | c := read
    · simp
    · simp
    · simp

/-! ## Many steps -/

theorem unread_after {n : Nat} (h : ∀ i < n, ¬(s.after i).InputFails) :
    s.unread = (s.delivered n).flatMap utf8OfCell ++ (s.after n).unread := by
  induction n with
  | zero => rfl
  | succ n ih =>
    have hbefore : ∀ i < n, ¬(s.after i).InputFails := fun i hi => h i (Nat.lt_succ_of_lt hi)
    rw [ih hbefore, unread_eq (h n (Nat.lt_succ_self n)), delivered_succ, List.flatMap_append,
      List.append_assoc, after_succ]

/-- The input after `n` steps: what has been delivered of it, and how the next step uses it. -/
structure InputInOrder (s : Session Terminal) (n : Nat) : Prop where
  /-- The bytes from before are what has been delivered and what is still unread. -/
  bytes : (∀ i < n, ¬(s.after i).InputFails) →
    s.unread = (s.delivered n).flatMap utf8OfCell ++ (s.after n).unread
  /-- What has been delivered are values that a literal can hold. -/
  delivered_lt : ∀ v ∈ s.delivered n, v.toNat < modulus
  /-- The next step may be an `in`. -/
  ends : ∀ dst, (s.after n).Executes (.input dst) →
    (s.after n).InputEnds s.machine.settings.endOfInput
  /-- If it is another instruction, or none, it takes no input. -/
  input_next : (∀ dst, ¬(s.after n).Executes (.input dst)) →
    (s.after (n + 1)).console.input = (s.after n).console.input

/-- **The input is delivered once, in order and without loss**, from the image on, over any number
of steps. -/
theorem input_in_order (settings : Settings) (image : List UInt8) (t : Terminal) (n : Nat) :
    (start settings (.ofImage image) t).unread = t.input.bytes ∧
      (start settings (.ofImage image) t).InputInOrder n := by
  refine ⟨rfl, ?_⟩
  generalize start settings (.ofImage image) t = s
  refine ⟨unread_after, ?_, ?_, input_next_of_not_input⟩
  · intro v hv
    obtain ⟨i, -, hi⟩ := mem_delivered_iff.mp hv
    exact delivered?_lt hi
  · intro dst hi
    rw [← settings_after s n]
    exact inputEnds hi

/-- Two characters are delivered, the second from two bytes, and then a byte is left that begins no
character. -/
theorem input_in_order_two :
    let image := Image.encode [20, 32768, 20, 32769, 20, 32770]
    let t : Terminal := ⟨.ofBytes [0x68, 0xC3, 0xA9, 0xFF], .empty none⟩
    let s := start {} (.ofImage image) t
    (∀ i < 2, ¬(s.after i).InputFails) ∧ s.delivered 2 = [104, 233] ∧
      [0x68, 0xC3, 0xA9, 0xFF] = [104, 233].flatMap utf8OfCell ++ (s.after 2).unread ∧
      (s.after 2).Executes (.input ⟨2⟩) ∧ (s.after 2).step.1 = .error ⟨4, .console .notUtf8⟩ ∧
      ∀ c, ¬Utf8.encode c <+: (s.after 2).unread := by
  intro image t s
  have hfails : ∀ i < 2, ¬(s.after i).InputFails := by
    have hfirst : (s.after 0).delivered? = some 104 := by decide +kernel
    have hsecond : (s.after 1).delivered? = some 233 := by decide +kernel
    intro i hi
    match i, hi with
    | 0, _ => exact not_inputFails_of_completes (delivered?_eq_some_iff.mp hfirst).1
    | 1, _ => exact not_inputFails_of_completes (delivered?_eq_some_iff.mp hsecond).1
  have hdelivered : s.delivered 2 = [104, 233] := by decide +kernel
  have hinput : (s.after 2).Executes (.input ⟨2⟩) := by decide +kernel
  have hip : (s.after 2).ip = 4 := by decide +kernel
  have hstep : (s.after 2).step.1 = .error ⟨(s.after 2).ip, .console .notUtf8⟩ := by
    have hflow : ((s.after 2).machine.effect (s.after 2).console (.input ⟨2⟩)).flow =
        .fail (.console .notUtf8) := by decide +kernel
    rw [answer_of_executes hinput, hflow, Flow.answer]
  obtain ⟨hunread, horder⟩ : s.unread = t.input.bytes ∧ s.InputInOrder 2 :=
    input_in_order {} image t 2
  have hbytes := horder.bytes hfails
  rw [hdelivered] at hbytes
  refine ⟨hfails, hdelivered, ?_, hinput, by rw [hstep, hip], ?_⟩
  · exact (Input.bytes_ofBytes _).symm.trans (hunread.symm.trans hbytes)
  · exact ((horder.ends _ hinput).unreadable.mp ⟨_, hstep⟩).2

end Session

end CellMachine
