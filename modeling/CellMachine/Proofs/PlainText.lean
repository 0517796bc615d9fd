import CellMachine.Cli.Standard

/-!
# Texts without control characters

A text without control characters is one line, and a log shows it as it is. Numbers are written
without them, and so are characters between quotes, whichever they are.

## Main statements

* `plain_toString`, `plain_quote` — numbers and quoted characters
* `guarded_of_plain` — a message that is shown as it is
* `plain_text` — a line of a log that is one line of text
* `Logging.standard_rendersLines` — the standard host writes such lines as they are
-/

namespace CellMachine

namespace Text

/-- Whether a character is a control character. -/
def isControl (c : Char) : Bool := c.toNat < 0x20 || 0x7F ≤ c.toNat && c.toNat < 0xA0

/-- A text has no control characters. -/
def Plain (text : String) : Prop := ∀ c ∈ text.toList, isControl c = false

instance (text : String) : Decidable (Plain text) :=
  decidable_of_iff (text.toList.all (!isControl ·)) (by simp [Plain])

@[simp] theorem plain_append {s t : String} : Plain (s ++ t) ↔ Plain s ∧ Plain t := by
  simp only [Plain, String.toList_append, List.forall_mem_append]

theorem plain_join {texts : List String} (h : ∀ text ∈ texts, Plain text) :
    Plain (String.join texts) := by
  intro c hc
  rw [String.toList_join] at hc
  obtain ⟨text, htext, hc⟩ := List.mem_flatMap.mp hc
  exact h text htext c hc

theorem plain_intercalate {separator : String} (hseparator : Plain separator) {texts : List String}
    (h : ∀ text ∈ texts, Plain text) : Plain (separator.intercalate texts) := by
  induction texts with
  | nil => exact nofun
  | cons text texts ih =>
    obtain ⟨htext, htexts⟩ := List.forall_mem_cons.mp h
    cases texts with
    | nil => rwa [String.intercalate_singleton]
    | cons next texts =>
      rw [String.intercalate_cons_cons, plain_append, plain_append]
      exact ⟨⟨htext, hseparator⟩, ih htexts⟩

/-! ## Numbers -/

theorem isControl_digitChar (n : Nat) : isControl n.digitChar = false := by
  fun_cases Nat.digitChar n <;> rfl

theorem isControl_of_mem_toDigits {base n : Nat} {c : Char} (hbase : 1 < base)
    (h : c ∈ Nat.toDigits base n) : isControl c = false := by
  induction n using Nat.strongRecOn with
  | ind n ih =>
    rw [Nat.toDigits_eq_if hbase] at h
    split at h
    · obtain rfl := List.mem_singleton.mp h
      exact isControl_digitChar n
    · next hle =>
      have hlt : n / base < n := Nat.div_lt_self (by omega) hbase
      rcases List.mem_append.mp h with h | h
      · exact ih (n / base) hlt h
      · obtain rfl := List.mem_singleton.mp h
        exact isControl_digitChar _

@[simp] theorem plain_toString (n : Nat) : Plain (toString n) := by
  intro c hc
  rw [Nat.toString_eq_ofList_toDigits, String.toList_ofList] at hc
  exact isControl_of_mem_toDigits (by decide) hc

@[simp] theorem plain_toString_cell (c : UInt16) : Plain (toString c) := plain_toString c.toNat

theorem plain_toString_text {text : String} : Plain (toString text) ↔ Plain text := Iff.rfl

theorem plain_numbers (values : List UInt16) : Plain (numbers values) := by
  have hcomma : Plain ", " := by decide
  have hvalues : ∀ text ∈ values.map fun v => toString v.toNat, Plain text := by
    intro text htext
    obtain ⟨v, -, rfl⟩ := List.mem_map.mp htext
    exact plain_toString v.toNat
  rw [numbers, bracketed, plain_append, plain_append]
  exact ⟨⟨by decide, plain_intercalate hcomma hvalues⟩, by decide⟩

/-! ## Quoted characters -/

theorem isControl_of_isPrintable {c : Char} (h : isPrintable c) : isControl c = false := by
  cases hcontrol : isControl c with
  | false => rfl
  | true =>
    have hholds : unprintable.holds c := by
      rw [Ranges.holds_iff]
      simp only [isControl, Bool.or_eq_true, Bool.and_eq_true, decide_eq_true_eq] at hcontrol
      rcases hcontrol with hlt | hmid
      · exact ⟨(0x0, 0x1F), List.mem_cons_self, Nat.zero_le _, Nat.le_of_lt_succ hlt⟩
      · exact ⟨(0x7F, 0xA0), List.mem_cons_of_mem _ List.mem_cons_self, hmid.1,
          Nat.le_of_lt hmid.2⟩
    rw [isPrintable, hholds] at h
    cases h

theorem isControl_of_shortEscape? {c d : Char} (h : shortEscape? c = some d) :
    isControl d = false := by
  unfold shortEscape? at h
  split at h <;> cases h <;> rfl

/-- What would control a terminal is escaped. -/
theorem isControl_of_mem_escape {c d : Char} (h : d ∈ escape c) : isControl d = false := by
  unfold escape at h
  split at h
  · next e he =>
    simp only [List.mem_cons, List.not_mem_nil, or_false] at h
    rcases h with rfl | rfl
    · rfl
    · exact isControl_of_shortEscape? he
  · split at h
    · next hshows =>
      obtain rfl := List.mem_singleton.mp h
      simp only [showsItself, Bool.and_eq_true] at hshows
      exact isControl_of_isPrintable hshows.1.1
    · simp only [List.mem_append, List.mem_cons, List.not_mem_nil, or_false] at h
      rcases h with ((rfl | rfl | rfl) | h) | rfl
      · rfl
      · rfl
      · rfl
      · exact isControl_of_mem_toDigits (by decide) h
      · rfl

theorem plain_quote (c : Char) : Plain (quote c) := by
  intro d hd
  simp only [quote, String.toList_ofList, List.cons_append, List.mem_cons, List.mem_append,
    List.not_mem_nil, or_false] at hd
  rcases hd with rfl | hd | rfl
  · rfl
  · exact isControl_of_mem_escape hd
  · rfl

/-! ## Lines -/

/-- A text without control characters is one line. -/
theorem lines_of_plain {text : String} (h : Plain text) : lines text.toList = [text.toList] :=
  lines_of_not_mem (fun hmem => absurd (h _ hmem) (by decide))
    (fun hmem => absurd (h _ hmem) (by decide))

theorem plain_labelled {message : String} {fields : Fields} (hmessage : Plain message)
    (hfields : ∀ field ∈ fields, Plain field.1 ∧ Plain field.2) :
    Plain (labelled message fields) := by
  refine plain_append.mpr ⟨hmessage, plain_join ?_⟩
  intro text htext
  obtain ⟨field, hfield, rfl⟩ := List.mem_map.mp htext
  obtain ⟨hname, hvalue⟩ := hfields field hfield
  have hspace : Plain " " := by decide
  have hequals : Plain "=" := by decide
  exact plain_append.mpr ⟨plain_append.mpr ⟨plain_append.mpr ⟨hspace, hname⟩, hequals⟩, hvalue⟩

end Text

/-! ## What the machine says -/

theorem Opcode.plain_mnemonic (op : Opcode) : Text.Plain op.mnemonic := by
  cases op <;> decide

theorem Slot.plain_expectation (slot : Slot) : Text.Plain slot.expectation := by
  cases slot <;> decide

theorem Halt.plain_name (reason : Halt) : Text.Plain reason.name := by
  cases reason <;> decide

/-- The error is told in words of its console. No terminal has such errors. -/
def ConsoleError.isForeign : ConsoleError → Bool
  | .other .. => true
  | .notUtf8 | .malformed _ | .cutOff | .full => false

theorem ConsoleError.plain_message {cause : ConsoleError} (h : cause.isForeign = false) :
    Text.Plain cause.message := by
  cases cause with
  | other => cases h
  | malformed length =>
    have hbefore : Text.Plain "invalid utf-8 sequence of " := by decide
    have hafter : Text.Plain " bytes from index 0" := by decide
    have hlength := Text.plain_toString length
    exact Text.plain_append.mpr ⟨Text.plain_append.mpr ⟨hbefore, hlength⟩, hafter⟩
  | notUtf8 | cutOff | full => decide

/-- The error shows a text from outside: one that names nothing, or the words of a console. No
machine has such errors at a terminal. -/
def Error.isOfText : Error → Bool
  | .unknownMnemonic _ => true
  | .console cause => cause.isForeign
  | .invalidOperand .. | .unknownOpcode _ | .outOfBounds .. | .truncated .. | .divisionByZero
  | .invalidCharacter _ | .unrepresentableInput _ | .inputExhausted | .machineHalted => false

theorem Error.plain_message {e : Error} (h : e.isOfText = false) : Text.Plain e.message := by
  unfold message
  cases e with
  | unknownMnemonic => cases h
  | console cause => exact ConsoleError.plain_message h
  | invalidOperand cell slot =>
    simp only [Text.plain_append, Text.plain_toString_cell, Text.plain_toString_text,
      slot.plain_expectation]
    decide
  | truncated op available =>
    simp only [Text.plain_append, Text.plain_toString, Text.plain_toString_text, op.plain_mnemonic]
    decide
  | unrepresentableInput c =>
    simp only [Text.plain_append, Text.plain_toString_text, Text.plain_quote]
    decide
  | unknownOpcode | outOfBounds | invalidCharacter =>
    simp only [Text.plain_append, Text.plain_toString, Text.plain_toString_cell]
    decide
  | divisionByZero | inputExhausted | machineHalted => decide

theorem Fault.plain_message {fault : Fault} (h : fault.error.isOfText = false) :
    Text.Plain fault.message := by
  unfold message
  simp only [Text.plain_append, Text.plain_toString, Text.plain_toString_text,
    Error.plain_message h]
  decide

/-! ## Lines of a log -/

namespace Log

theorem guard_of_not_isControl {c : Char} (h : Text.isControl c = false) : guard c = [c] := by
  unfold guard
  split
  any_goals cases h
  next =>
    simp only [Text.isControl, Bool.or_eq_false_iff, Bool.and_eq_false_iff,
      decide_eq_false_iff_not] at h
    rw [if_neg]
    simp only [Bool.and_eq_true, decide_eq_true_eq]
    omega

/-- A message without control characters is shown as it is. -/
theorem guarded_of_plain {message : String} (h : Text.Plain message) :
    guarded message = message := by
  have hguard : message.toList.map guard = message.toList.map ([·]) :=
    List.map_congr_left fun c hc => guard_of_not_isControl (h c hc)
  rw [guarded, List.flatMap_def, hguard, ← List.flatMap_def, List.flatMap_singleton',
    String.ofList_toList]

/-- The line in words: its level, its message, and its values. -/
def Line.text (line : Line) : String :=
  s!"{line.level.name} {Text.labelled line.message line.fields}"

/-- A line of a log that is one line of text. -/
theorem Line.plain_text {line : Line} (hmessage : Text.Plain line.message)
    (hfields : ∀ field ∈ line.fields, Text.Plain field.1 ∧ Text.Plain field.2) :
    Text.Plain line.text := by
  have hlevel : Text.Plain line.level.name := by cases line.level <;> decide
  have hspace : Text.Plain " " := by decide
  have htext := Text.plain_labelled hmessage hfields
  exact Text.plain_append.mpr ⟨Text.plain_append.mpr ⟨hlevel, hspace⟩, htext⟩

theorem plain_message_event (event : Event) : Text.Plain event.message := by
  cases event with
  | exec => exact (by decide : Text.Plain "exec")
  | halted => exact (by decide : Text.Plain "machine halted")
  | faulted => exact (by decide : Text.Plain "machine faulted")

/-- A line about an event is the event in words. -/
theorem Line.text_ofEvent (event : Event) :
    (Line.ofEvent event).text = "DEBUG " ++ event.text := rfl

theorem plain_fields_event {event : Event}
    (h : ∀ address cycles e, event = .faulted address cycles e → e.isOfText = false) :
    ∀ field ∈ event.fields, Text.Plain field.1 ∧ Text.Plain field.2 := by
  cases event with
  | exec fetched core =>
    simp only [Event.fields, List.forall_mem_cons, Text.plain_toString, Text.plain_numbers,
      Opcode.plain_mnemonic]
    decide
  | halted address cycles reason =>
    simp only [Event.fields, List.forall_mem_cons, Text.plain_toString, reason.plain_name]
    decide
  | faulted address cycles e =>
    have hmessage := Error.plain_message (h address cycles e rfl)
    simp only [Event.fields, List.forall_mem_cons, Text.plain_toString, hmessage]
    decide

end Log

/-! ## Hosts -/

theorem Cli.printed_of_plain {text : String} (h : Text.Plain text) : printed text = [text] := by
  rw [printed, Text.lines_of_plain h, List.map_singleton, String.ofList_toList]

namespace Cli.Logging

/-- A line whose message has no control characters is written as it is. -/
def RendersLines (logging : Logging) : Prop :=
  ∀ line : Log.Line, Text.Plain line.message → logging.render line = line.text

theorem standard_rendersLines : standard.RendersLines := by
  intro line hmessage
  show s!"{line.level.name} {Text.labelled (Log.guarded line.message) line.fields}" = line.text
  rw [Log.guarded_of_plain hmessage, Log.Line.text]

end Cli.Logging

end CellMachine
