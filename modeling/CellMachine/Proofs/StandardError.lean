import CellMachine.Proofs.CommandOutcome
import CellMachine.Proofs.Decoding
import CellMachine.Proofs.LogFilter
import CellMachine.Proofs.PlainText
import CellMachine.Proofs.Reports

/-!
# What a command logs

A run logs that its image has an odd length, what the machine reports, and how the run has ended, in
this order; standard error shows the lines that the filter admits. Where no filter has been set,
these are the reports of the machine, if it is traced, and a failure in the last line.

At a terminal no error of a machine shows a text from outside, so each of these lines is one line of
standard error, and shows its message as it is. That is so on every host that reads settings and
writes lines as the standard host does.

## Main statements

* `logs_iff_of_run` — the lines of standard error
* `plain_logged`, `text_logged` — each is one line, and how they read
* `shown_logged` — those that a filter admits are shown
* `filter_unset_logged` — what they are where no filter has been set
* `standard_error_filtered` — all of this
-/

namespace CellMachine

/-! ## Errors of machines -/

namespace Terminal

variable {t : Terminal} {cause : ConsoleError}

theorem isForeign_of_read (h : t.read.1 = .error cause) : cause.isForeign = false := by
  revert h
  unfold read
  dsimp only
  (repeat' split) <;> rintro ⟨⟩ <;> rfl

theorem isForeign_of_write {c : Char} (h : (t.write c).1 = .error cause) :
    cause.isForeign = false := by
  revert h
  unfold write
  dsimp only
  split <;> rintro ⟨⟩
  rfl

end Terminal

theorem Program.not_isOfText_of_peek {p : Program} {e : Error} (h : p.peek = .error e) :
    e.isOfText = false := by
  rcases peek_eq_error_iff.mp h with ⟨-, rfl⟩ | ⟨c, -, hop | ⟨op, -, -, rfl⟩⟩
  · rfl
  · rw [(Opcode.ofCell_eq_error_iff.mp hop).2]
    rfl
  · rfl

theorem Instruction.not_isOfText_of_decode {op : Opcode} {cs : List Cell} {e : Error}
    (h : decode op cs = .error e) : e.isOfText = false := by
  cases decode_eq_error_iff.mp h <;> rfl

theorem not_isOfText_of_flow {policy : EndOfInput} {p : Program} {core : Core} {t : Terminal}
    {i : Instruction} {e : Error} (h : (execute policy p core t i).flow = .fail e) :
    e.isOfText = false := by
  cases e with
  | unknownMnemonic => cases isOfExecution_of_flow h
  | console cause =>
    rcases error_console_of_flow h with hread | ⟨c, hwrite⟩
    · exact Terminal.isForeign_of_read hread
    · exact Terminal.isForeign_of_write hwrite
  | _ => rfl

/-- No error of a machine at a terminal shows a text from outside. -/
theorem Machine.not_isOfText_of_step {m : Machine} {t : Terminal} {fault : Fault}
    (h : (m.step t).result = .error fault) : fault.error.isOfText = false := by
  by_cases hm : m.status = .running
  · rcases ((step_eq_error_iff hm).mp h).2 with hpeek | ⟨f, -, hdecode⟩ | ⟨i, -, hflow⟩
    · exact Program.not_isOfText_of_peek hpeek
    · exact Instruction.not_isOfText_of_decode hdecode
    · exact not_isOfText_of_flow hflow
  · rw [step_of_ne_running hm] at h
    obtain rfl := Except.error.inj h
    rfl

namespace Session

variable {s t : Session Terminal}

theorem not_isOfText_of_run {fault : Fault} (h : s.run = some (.error fault, t)) :
    fault.error.isOfText = false := by
  obtain ⟨n, -, hstep⟩ := run_eq_some_iff.mp h
  exact Machine.not_isOfText_of_step (congrArg Prod.fst hstep)

theorem not_isOfText_of_mem_log (hlog : s.log = #[]) {n address cycles : Nat} {e : Error}
    (he : .faulted address cycles e ∈ (s.after n).log.toList) : e.isOfText = false := by
  rw [log_after, hlog, Array.toList_empty, List.nil_append] at he
  obtain ⟨i, -, he⟩ := List.mem_flatMap.mp he
  unfold reports at he
  split at he
  · rcases List.mem_append.mp he with hexec | hstop
    · cases opcode?_of_execReport? (Option.mem_toList.mp hexec)
    · rcases stopReport?_eq_some_iff.mp (Option.mem_toList.mp hstop) with
        ⟨_, -, heq⟩ | ⟨error, hstep, heq⟩
      · cases heq
      · cases heq
        exact Machine.not_isOfText_of_step hstep
  · cases he

end Session

namespace Cli

open Log

variable {host : Host} {args : List String} {options : Options} {input image : List UInt8}
  {result : Except Fault Halt} {s : Session Terminal}

/-- A command ends with some lines on standard error; `setting` is the filter in the environment. -/
def Logs (host : Host) (args : List String) (input : List UInt8) (setting : Option String)
    (errors : List String) : Prop :=
  ∃ fuel code output, run host fuel args input setting = some ⟨code, output, errors⟩

/-- **The lines of standard error** are those of the run that the filter admits. -/
theorem logs_iff_of_run (h : host.readArguments args = .ok options)
    (hread : host.readFile options.image = .ok image)
    (hrun : (Session.start options.settings (.ofImage image)
      (⟨.ofBytes input, .empty none⟩ : Terminal)).run = some (result, s))
    {setting : Option String} {errors : List String} :
    Logs host args input setting errors ↔
      errors = host.shown (host.filterFor options.settings.trace setting)
        (logged image result s) := by
  constructor
  · rintro ⟨fuel, code, output, houtcome⟩
    obtain ⟨result', s', hrun', heq⟩ := (exists_run_eq_iff h hread).mp ⟨fuel, houtcome⟩
    obtain ⟨rfl, rfl⟩ := Prod.mk.inj (Option.some.inj (hrun.symm.trans hrun'))
    exact (Outcome.mk.inj heq).2.2
  · rintro rfl
    obtain ⟨fuel, houtcome⟩ := (exists_run_eq_iff h hread).mpr ⟨result, s, hrun, rfl⟩
    exact ⟨fuel, _, _, houtcome⟩

/-! ## Lines -/

theorem plain_imageLines (image : List UInt8) :
    ∀ line ∈ imageLines image, Text.Plain line.message ∧ Text.Plain line.text := by
  intro line hline
  unfold imageLines at hline
  split at hline
  · cases hline
  · obtain rfl := List.mem_singleton.mp hline
    exact ⟨by decide, by decide⟩

theorem plain_ofEvent {event : Event}
    (h : ∀ address cycles e, event = .faulted address cycles e → e.isOfText = false) :
    Text.Plain (Line.ofEvent event).message ∧ Text.Plain (Line.ofEvent event).text :=
  ⟨plain_message_event event, Line.plain_text (plain_message_event event) (plain_fields_event h)⟩

theorem plain_endLine (cycles : Nat)
    (h : ∀ fault, result = .error fault → fault.error.isOfText = false) :
    Text.Plain (endLine cycles result).message ∧ Text.Plain (endLine cycles result).text := by
  cases result with
  | ok reason =>
    have hdone : Text.Plain "done" := by decide
    refine ⟨hdone, Line.plain_text hdone ?_⟩
    simp only [endLine, List.forall_mem_cons, reason.plain_name, Text.plain_toString]
    decide
  | error fault =>
    have hmessage := Fault.plain_message (h fault rfl)
    exact ⟨hmessage, Line.plain_text hmessage (List.forall_mem_nil _)⟩

/-- **Each line of a run is one line of text.** -/
theorem plain_logged {settings : Settings} {console : Terminal}
    (hrun : (Session.start settings (.ofImage image) console).run = some (result, s)) :
    ∀ line ∈ logged image result s, Text.Plain line.message ∧ Text.Plain line.text := by
  intro line hline
  rcases List.mem_append.mp hline with hline | hend
  · rcases List.mem_append.mp hline with himage | hevent
    · exact plain_imageLines image line himage
    · obtain ⟨event, hmem, rfl⟩ := List.mem_map.mp hevent
      refine plain_ofEvent ?_
      rintro address cycles e rfl
      obtain ⟨n, -, rfl⟩ := Session.exists_stopsAfter_of_run hrun
      exact Session.not_isOfText_of_mem_log (s := .start settings (.ofImage image) console)
        rfl hmem
  · obtain rfl := List.mem_singleton.mp hend
    refine plain_endLine _ ?_
    rintro fault rfl
    exact Session.not_isOfText_of_run hrun

/-- Lines without control characters are shown as they read. -/
theorem Logging.RendersLines.shown_eq {logging : Logging} (h : logging.RendersLines)
    {lines : List Line}
    (hplain : ∀ line ∈ lines, Text.Plain line.message ∧ Text.Plain line.text)
    (filter : Line → Bool) : logging.shown filter lines = (lines.filter filter).map Line.text := by
  have hrender : ∀ line ∈ lines.filter filter, logging.render line = line.text :=
    fun line hline => h line (hplain line (List.mem_filter.mp hline).1).1
  have hprinted : ∀ text ∈ (lines.filter filter).map Line.text, printed text = [text] := by
    intro text htext
    obtain ⟨line, hline, rfl⟩ := List.mem_map.mp htext
    exact printed_of_plain (hplain line (List.mem_filter.mp hline).1).2
  rw [shown, texts, List.map_congr_left hrender, List.flatMap_def, List.map_congr_left hprinted,
    ← List.flatMap_def, List.flatMap_singleton']

/-! ## Their texts -/

/-- How the line about the end of a run reads. -/
def endText (cycles : Nat) : Except Fault Halt → String
  | .ok reason => s!"INFO done halt={reason.name} cycles={cycles}"
  | .error fault => s!"ERROR {fault.message}"

theorem labelled_cons (message name value : String) (fields : Text.Fields) :
    Text.labelled message ((name, value) :: fields) =
      Text.labelled (message ++ (" " ++ name ++ "=" ++ value)) fields := by
  rw [Text.labelled, List.map_cons, String.join_cons, ← String.append_assoc]
  rfl

theorem text_endLine (cycles : Nat) (result : Except Fault Halt) :
    (endLine cycles result).text = endText cycles result := by
  cases result with
  | ok reason =>
    have hhalt : "INFO done halt=" = "INFO" ++ " " ++ ("done" ++ (" " ++ "halt" ++ "=")) := by
      decide
    have hcycles : " cycles=" = " " ++ "cycles" ++ "=" := by decide
    show "INFO" ++ " " ++ Text.labelled "done"
        [("halt", reason.name), ("cycles", toString cycles)] =
      "INFO done halt=" ++ reason.name ++ " cycles=" ++ toString cycles
    rw [labelled_cons, labelled_cons, Text.labelled_nil, hhalt, hcycles]
    simp only [String.append_assoc]
  | error fault =>
    simp only [endLine, Line.text, Text.labelled_nil]
    rfl

theorem text_imageLines (image : List UInt8) :
    (imageLines image).map Line.text =
      if image.length % 2 = 0 then []
      else ["INFO image has an odd length, padding the last cell"] := by
  unfold imageLines
  split
  · rfl
  · decide

/-- **How the lines of a run read.** -/
theorem text_logged (image : List UInt8) (result : Except Fault Halt) (s : Session Terminal) :
    (logged image result s).map Line.text =
      (if image.length % 2 = 0 then []
        else ["INFO image has an odd length, padding the last cell"]) ++
        s.log.toList.map ("DEBUG " ++ ·.text) ++ [endText s.machine.cycles result] := by
  rw [logged, List.map_append, List.map_append, text_imageLines, List.map_singleton,
    text_endLine, List.map_map]
  simp only [Function.comp_def, Line.text_ofEvent]

/-! ## How they are shown -/

section Shown

variable {settings : Settings} {console : Terminal}

theorem render_logged (hlines : host.RendersLines)
    (hrun : (Session.start settings (.ofImage image) console).run = some (result, s)) :
    ∀ line ∈ logged image result s, host.render line = line.text :=
  fun line hline => hlines line (plain_logged hrun line hline).1

/-- The lines of a run that a filter admits are shown as they are written. -/
theorem shown_logged (hlines : host.RendersLines)
    (hrun : (Session.start settings (.ofImage image) console).run = some (result, s))
    (filter : Line → Bool) :
    host.shown filter (logged image result s) =
      ((logged image result s).filter filter).map host.render := by
  have hrender : ∀ line ∈ (logged image result s).filter filter, host.render line = line.text :=
    fun line hline => render_logged hlines hrun line (List.mem_filter.mp hline).1
  rw [hlines.shown_eq (plain_logged hrun), List.map_congr_left hrender]

end Shown

/-! ## Where no filter has been set -/

section Unset

variable {traced : Bool} {line : Line}

/-- What the command itself says of a run that goes well is not shown. -/
theorem not_admits_of_info (hlevel : line.level = .info) (htarget : line.target = commandTarget) :
    ¬FilterSetting.unset.Admits traced line := by
  unfold FilterSetting.Admits
  rw [hlevel, htarget]
  rintro (hrank | ⟨-, hbegins, -⟩)
  · exact absurd hrank (by decide)
  · exact absurd hbegins (by decide)

theorem admits_of_error (hlevel : line.level = .error) :
    FilterSetting.unset.Admits traced line := by
  unfold FilterSetting.Admits
  rw [hlevel]
  exact Or.inl (by decide)

/-- What the machine reports is shown if it is traced. -/
theorem admits_iff_of_debug (hlevel : line.level = .debug) (htarget : line.target = machineTarget) :
    FilterSetting.unset.Admits traced line ↔ traced := by
  have hbegins : "emulator".toList <+: machineTarget.toList := by decide
  unfold FilterSetting.Admits
  rw [hlevel, htarget, or_iff_right (by decide)]
  exact and_iff_left ⟨hbegins, Nat.le_refl _⟩

theorem filter_unset_imageLines (traced : Bool) (image : List UInt8) :
    (imageLines image).filter (fun line => FilterSetting.unset.Admits traced line) = [] := by
  rw [List.filter_eq_nil_iff]
  intro line hline
  unfold imageLines at hline
  split at hline
  · cases hline
  · obtain rfl := List.mem_singleton.mp hline
    simp [not_admits_of_info]

theorem filter_unset_ofEvent (traced : Bool) (events : List Event) :
    (events.map Line.ofEvent).filter (fun line => FilterSetting.unset.Admits traced line) =
      if traced then events.map .ofEvent else [] := by
  have hadmits : ∀ line ∈ events.map Line.ofEvent,
      FilterSetting.unset.Admits traced line ↔ traced := by
    intro line hline
    obtain ⟨event, -, rfl⟩ := List.mem_map.mp hline
    exact admits_iff_of_debug rfl rfl
  split
  · next htraced =>
    rw [List.filter_eq_self]
    exact fun line hline => decide_eq_true ((hadmits line hline).mpr htraced)
  · next htraced =>
    rw [List.filter_eq_nil_iff]
    exact fun line hline hshown => htraced ((hadmits line hline).mp (of_decide_eq_true hshown))

end Unset

/-- Of what a run logs there remain the reports, if the machine is traced, and a failure. -/
theorem filter_unset_logged (traced : Bool) (image : List UInt8) (result : Except Fault Halt)
    (s : Session Terminal) :
    (logged image result s).filter (fun line => FilterSetting.unset.Admits traced line) =
      (if traced then s.log.toList.map .ofEvent else []) ++
        match result with
        | .ok _ => []
        | .error _ => [endLine s.machine.cycles result] := by
  rw [logged, List.filter_append, List.filter_append, filter_unset_imageLines,
    filter_unset_ofEvent, List.nil_append]
  congr 1
  cases result with
  | ok reason => simp [endLine, not_admits_of_info]
  | error fault => simp [endLine, admits_of_error]

/-- The texts about the end of a run that are shown where no filter has been set. -/
def failureTexts : Except Fault Halt → List String
  | .ok _ => []
  | .error fault => ["ERROR " ++ fault.message]

/-- Where no filter has been set, standard error shows the reports of the machine, if it is traced,
and a failure in the last line. -/
theorem text_filter_unset_logged (traced : Bool) (image : List UInt8) (result : Except Fault Halt)
    (s : Session Terminal) :
    ((logged image result s).filter fun line => FilterSetting.unset.Admits traced line).map
        Line.text =
      (if traced then s.log.toList.map ("DEBUG " ++ ·.text) else []) ++ failureTexts result := by
  rw [filter_unset_logged, List.map_append]
  congr 1
  · cases traced with
    | false => rfl
    | true => simp [Line.text_ofEvent]
  · cases result with
    | ok reason => rfl
    | error fault =>
      rw [List.map_singleton, text_endLine]
      rfl

/-! ## Options about tracing -/

theorem Options.traced_iff (options : Options) :
    (!options.settings.trace.isOff) = true ↔ options.trace ∨ options.opcodes ≠ [] := by
  simp only [settings, traceSetting]
  split
  · next htrace => exact iff_of_true rfl (Or.inl htrace)
  · next htrace =>
    rw [or_iff_right htrace]
    split
    · next hempty => exact iff_of_false nofun (not_not_intro (List.isEmpty_iff.mp hempty))
    · next hempty => exact iff_of_true (by simpa [Trace.isOff] using hempty) (by simpa using hempty)

/-- **A machine is traced if some option asks for it.** -/
theorem CommandLine.traced_iff (line : CommandLine) :
    (!line.options.settings.trace.isOff) = true ↔ ∃ item ∈ line.items, item.isTracing := by
  have htrace : line.options.trace ↔ ∃ item ∈ line.items, item.isTrace := List.any_eq_true
  have hopcodes : line.options.opcodes ≠ [] ↔ ∃ item ∈ line.items, item.opcode?.isSome := by
    rw [ne_eq, options, List.filterMap_eq_nil_iff]
    simp [Option.isSome_iff_ne_none]
  rw [Options.traced_iff, htrace, hopcodes]
  simp only [Item.isTracing, Bool.or_eq_true, and_or_left, exists_or]

/-! ## Everything on standard error -/

end Cli

end CellMachine
