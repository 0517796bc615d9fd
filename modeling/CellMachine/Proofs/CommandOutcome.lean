import CellMachine.Cli.Run
import CellMachine.Proofs.CommandLine.Grammar
import CellMachine.Proofs.Output
import CellMachine.Proofs.Tracing

/-!
# What a command leaves

A command that asks for a run prints what the run prints, and its exit code says how the run ended.
The options about tracing and the filter in the environment have an influence on what is logged, and
on nothing else: two command lines that differ only in those options leave the same. That is so on
every host that reads command lines, whatever its files are and however it logs.

## Main statements

* `exists_run_eq_iff`, `ends_iff_of_no_image` — what is left of a command
* `ends_iff_of_image` — its exit code and its output, under any trace setting
* `CommandLine.image_eq`, `CommandLine.endOfInput_eq` — what does not depend on the options about
  tracing
* `command_reports_run` — all of this
-/

namespace CellMachine.Cli

/-! ## The end of a command -/

variable {host : Host} {args : List String} {options : Options} {input image : List UInt8}
  {setting : Option String} {code : Nat} {output : List UInt8}

/-- A command ends with an exit code and an output; `setting` is the filter in the environment. -/
def Ends (host : Host) (args : List String) (input : List UInt8) (setting : Option String)
    (code : Nat) (output : List UInt8) : Prop :=
  ∃ fuel errors, run host fuel args input setting = some ⟨code, output, errors⟩

theorem ends_iff_of_no_image (h : host.readArguments args = .ok options) {reason : String}
    (hread : host.readFile options.image = .error reason) :
    Ends host args input setting code output ↔ code = 1 ∧ output = [] := by
  have hrun (fuel : Nat) : ∃ errors, run host fuel args input setting = some ⟨1, [], errors⟩ := by
    simp only [run, h, hread]
    exact ⟨_, rfl⟩
  constructor
  · rintro ⟨fuel, errors, houtcome⟩
    obtain ⟨errors', hend⟩ := hrun fuel
    obtain ⟨rfl, rfl, -⟩ := Outcome.mk.inj (Option.some.inj (hend.symm.trans houtcome))
    exact ⟨rfl, rfl⟩
  · rintro ⟨rfl, rfl⟩
    exact ⟨0, hrun 0⟩

/-- What a run logs, before any lines are left out. -/
def logged (image : List UInt8) (result : Except Fault Halt) (s : Session Terminal) :
    List Log.Line :=
  imageLines image ++ s.log.toList.map Log.Line.ofEvent ++ [endLine s.machine.cycles result]

/-- A command with an image leaves what the run of the image leaves. -/
theorem exists_run_eq_iff (h : host.readArguments args = .ok options)
    (hread : host.readFile options.image = .ok image) {outcome : Outcome} :
    (∃ fuel, run host fuel args input setting = some outcome) ↔
      ∃ result s, (Session.start options.settings (.ofImage image)
          (⟨.ofBytes input, .empty none⟩ : Terminal)).run = some (result, s) ∧
        outcome = ⟨exitCode result, s.written,
          host.shown (host.filterFor options.settings.trace setting) (logged image result s)⟩ := by
  have hrun (fuel : Nat) : run host fuel args input setting =
      runImage host.toLogging fuel (host.filterFor options.settings.trace setting) options.settings
        image input := by
    simp only [run, h, hread]
  simp only [hrun, runImage, Session.run_eq_some_iff_runFor]
  constructor
  · rintro ⟨fuel, houtcome⟩
    split at houtcome
    · cases houtcome
    · rename_i result s hfuel
      exact ⟨result, s, ⟨fuel, hfuel⟩, (Option.some.inj houtcome).symm⟩
  · rintro ⟨result, s, ⟨fuel, hfuel⟩, rfl⟩
    refine ⟨fuel, ?_⟩
    rw [hfuel]
    rfl

theorem ends_iff_run (h : host.readArguments args = .ok options)
    (hread : host.readFile options.image = .ok image) :
    Ends host args input setting code output ↔
      ∃ result s, (Session.start options.settings (.ofImage image)
          (⟨.ofBytes input, .empty none⟩ : Terminal)).run = some (result, s) ∧
        s.written = output ∧ exitCode result = code := by
  constructor
  · rintro ⟨fuel, errors, houtcome⟩
    obtain ⟨result, s, hrun, heq⟩ := (exists_run_eq_iff h hread).mp ⟨fuel, houtcome⟩
    obtain ⟨rfl, rfl, -⟩ := Outcome.mk.inj heq
    exact ⟨result, s, hrun, rfl, rfl⟩
  · rintro ⟨result, s, hrun, rfl, rfl⟩
    obtain ⟨fuel, houtcome⟩ := (exists_run_eq_iff h hread).mpr ⟨result, s, hrun, rfl⟩
    exact ⟨fuel, _, houtcome⟩

/-- So it does under any other trace setting. -/
theorem ends_iff_of_image (h : host.readArguments args = .ok options)
    (hread : host.readFile options.image = .ok image) (trace : Trace) :
    Ends host args input setting code output ↔
      ∃ result s, (Session.start ⟨trace, options.endOfInput⟩ (.ofImage image)
          (⟨.ofBytes input, .empty none⟩ : Terminal)).run = some (result, s) ∧
        s.written = output ∧ exitCode result = code := by
  rw [ends_iff_run h hread]
  exact exists_congr fun result => Session.exists_run_iff_of_trace _ _ _
    (fun console : Terminal => console.output.bytes.toList = output ∧ exitCode result = code) _ _

/-! ## Options about tracing -/

namespace Item

theorem image?_of_isTracing (item : Item) (h : item.isTracing) : item.image? = none := by
  cases item with
  | image => cases h
  | trace | traceOp | onEof => rfl

theorem endOfInput?_of_isTracing (item : Item) (h : item.isTracing) : item.endOfInput? = none := by
  cases item with
  | onEof => cases h
  | image | trace | traceOp => rfl

end Item

namespace CommandLine

variable {line line' : CommandLine}

theorem filterMap_untraced {α : Type} {f : Item → Option α}
    (hf : ∀ item, item.isTracing → f item = none) (line : CommandLine) :
    line.untraced.1.filterMap f = line.items.filterMap f := by
  rw [untraced, List.filterMap_filter]
  congr 1
  funext item
  by_cases hitem : item.isTracing
  · simp [hitem, hf]
  · simp [hitem]

theorem image_eq (h : line'.untraced = line.untraced) : line'.image = line.image := by
  have hnone := Item.image?_of_isTracing
  have hitems : line'.items.filterMap Item.image? = line.items.filterMap Item.image? := by
    rw [← filterMap_untraced hnone, h, filterMap_untraced hnone]
  have himages := line'.images
  rw [hitems, (Prod.mk.inj h).2, line.images] at himages
  exact (List.singleton_inj.mp himages).symm

theorem endOfInput_eq (h : line'.untraced = line.untraced) :
    line'.endOfInput = line.endOfInput := by
  have hnone := Item.endOfInput?_of_isTracing
  rw [endOfInput, endOfInput, ← filterMap_untraced hnone, h, filterMap_untraced hnone]

end CommandLine

/-! ## What a command reports -/

/-- **A command reports what its run does**, and its log has no influence on that. Without an image
the exit code is 1 and nothing is output. Otherwise the command ends if and only if the run of the
image does, however that is traced; the output is that of the run, and the exit code is 0 if it has
halted and 2 if it has failed. Two command lines that differ only in what they say about tracing
leave the same, whichever filters are set. -/
theorem command_reports_run (hreads : host.ReadsCommandLines)
    (h : host.readArguments args = .ok options) (input : List UInt8) :
    (∃ line : CommandLine, line.arguments = args ∧ line.options = options) ∧
      (∀ reason, host.readFile options.image = .error reason → ∀ setting code output,
        Ends host args input setting code output ↔ code = 1 ∧ output = []) ∧
      (∀ image, host.readFile options.image = .ok image → ∀ trace setting code output,
        Ends host args input setting code output ↔
          ∃ result s, (Session.start ⟨trace, options.endOfInput⟩ (.ofImage image)
              (⟨.ofBytes input, .empty none⟩ : Terminal)).run = some (result, s) ∧
            s.written = output ∧ (match result with | .ok _ => 0 | .error _ => 2) = code) ∧
      ∀ line line' : CommandLine, line.arguments = args → line'.untraced = line.untraced →
        host.readArguments line'.arguments = .ok line'.options ∧
          ∀ setting setting' code output,
            Ends host line'.arguments input setting' code output ↔
              Ends host args input setting code output := by
  refine ⟨(hreads args options).mp h, ?_, ?_, ?_⟩
  · intro reason hread setting code output
    exact ends_iff_of_no_image h hread
  · intro image hread trace setting code output
    exact ends_iff_of_image h hread trace
  · rintro line line' rfl huntraced
    have h' : host.readArguments line'.arguments = .ok line'.options :=
      (hreads _ _).mpr ⟨line', rfl, rfl⟩
    refine ⟨h', ?_⟩
    intro setting setting' code output
    obtain rfl : line.options = options := by
      have hline := (hreads _ _).mpr ⟨line, rfl, rfl⟩
      exact Except.ok.inj (hline.symm.trans h)
    have himage : line'.options.image = line.options.image := CommandLine.image_eq huntraced
    have hend : line'.options.endOfInput = line.options.endOfInput :=
      CommandLine.endOfInput_eq huntraced
    cases hread : host.readFile line.options.image with
    | error reason => rw [ends_iff_of_no_image h hread, ends_iff_of_no_image h' (himage ▸ hread)]
    | ok image =>
      rw [ends_iff_of_image h hread .off, ends_iff_of_image h' (himage ▸ hread) .off, hend]

/-- A command that prints a letter, whichever way it is traced and logged, and stops at the end of
the input. -/
theorem command_reports_run_letter :
    let host : Host := .ofDirectory ⟨[("image", Image.encode [19, 65, 20, 32768])]⟩
    let args := ["--trace-op", "out", "image", "--on-eof=halt"]
    host.ReadsCommandLines ∧ host.readArguments args = .ok ⟨"image", false, [.output], .halt⟩ ∧
      Ends host args [] none 0 [65] ∧
      Ends host ["image", "--trace", "--on-eof=halt", "--trace-op=20"] [] (some "off") 0 [65] := by
  intro host args
  have hreads : host.ReadsCommandLines := Host.standard_readsCommandLines _
  have hargs : host.readArguments args = .ok ⟨"image", false, [.output], .halt⟩ := rfl
  obtain ⟨-, -, himage, hline⟩ := command_reports_run hreads hargs []
  have hends : Ends host args [] none 0 [65] :=
    (himage (Image.encode [19, 65, 20, 32768]) rfl .off none 0 [65]).mpr
      ⟨.ok .endOfInput, _, Session.run_eq_some_iff_runFor.mpr ⟨2, rfl⟩, by decide +kernel, rfl⟩
  let line : CommandLine :=
    { items := [.traceOp .apart "out" .output rfl, .image "image" rfl (by decide),
        .onEof .joined .halt]
      rest := none
      image := "image"
      images := rfl
      nonempty := by decide
      trace_once := by decide
      onEof_once := by decide }
  let line' : CommandLine :=
    { line with
      items := [.image "image" rfl (by decide), .trace, .onEof .joined .halt,
        .traceOp .joined "20" .input rfl]
      images := rfl
      trace_once := by decide
      onEof_once := by decide }
  obtain ⟨-, hsame⟩ := hline line line' rfl rfl
  exact ⟨hreads, hargs, hends, (hsame none (some "off") 0 [65]).mpr hends⟩

end CellMachine.Cli
