import CellMachine.Cli.Standard
import CellMachine.Proofs.WhiteSpace

/-!
# What a filter shows

A filter may be set to a level, for all that is logged, or to the beginning of a target's name and a
level. Such a setting is read for what it says, and decides by itself. Where none has been set,
warnings are shown and what is worse, and if the machine is traced also what it reports.

## Main statements

* `Directive.parse?_target` — a name and a level are read for what they say
* `Logging.standard_readsSettings` — so the standard host reads settings for what they say
* `FilterSetting.admits_filterFor_iff` — the lines that are shown, on any host that does
-/

namespace CellMachine

/-! ## White space -/

namespace Text

theorem not_isBlank_of_isAlphanumeric {c : Char} (h : isAlphanumeric c) : ¬isBlank c := by
  rw [isAlphanumeric, Bool.or_eq_true] at h
  rcases h with h | h
  · exact Ranges.not_holds_of_disjoint (by decide +kernel) h
  · exact Ranges.not_holds_of_disjoint (by decide +kernel) h

end Text

/-! ## Directives -/

namespace Log

/-- A level as a setting names it; `off` is below all of them. -/
def levelName : Option Level → String
  | none => "off"
  | some .error => "error"
  | some .warn => "warn"
  | some .info => "info"
  | some .debug => "debug"
  | some .trace => "trace"

theorem comma_notMem_levelName (least : Option Level) : ',' ∉ (levelName least).toList := by
  cases least with
  | none => decide
  | some level => cases level <;> decide

/-- A text that can stand for targets in a setting. -/
def IsTargetName (name : String) : Prop :=
  (∃ c ∈ name.toList.head?, Directive.isFirst c) ∧ ∀ c ∈ name.toList, c ≠ '=' ∧ c ≠ '[' ∧ c ≠ ','

instance (name : String) : Decidable (IsTargetName name) :=
  decidable_of_iff
    (name.toList.head?.any Directive.isFirst ∧
      name.toList.all fun c => c ≠ '=' && c ≠ '[' && c ≠ ',')
    (by simp [IsTargetName, Option.any_eq_true, and_assoc])

namespace Directive

theorem not_isBlank_of_isFirst {c : Char} (h : isFirst c) : ¬Text.isBlank c := by
  simp only [isFirst, Bool.or_eq_true, decide_eq_true_eq] at h
  rcases h with ((rfl | rfl) | rfl) | h
  · decide
  · decide
  · decide
  · exact Text.not_isBlank_of_isAlphanumeric h

theorem parse?_levelName (least : Option Level) :
    parse? (levelName least).toList = some (general least) := by
  cases least with
  | none => decide +kernel
  | some level => cases level <;> decide +kernel

theorem level?_levelName (least : Option Level) : level? (levelName least).toList = some least := by
  cases least with
  | none => decide +kernel
  | some level => cases level <;> decide +kernel

theorem getLast?_levelName (least : Option Level) :
    ∃ c, (levelName least).toList.getLast? = some c ∧ ¬Text.isBlank c := by
  cases least with
  | none => exact ⟨'f', by decide, by decide⟩
  | some level =>
    cases level with
    | error => exact ⟨'r', by decide, by decide⟩
    | warn => exact ⟨'n', by decide, by decide⟩
    | info => exact ⟨'o', by decide, by decide⟩
    | debug => exact ⟨'g', by decide, by decide⟩
    | trace => exact ⟨'e', by decide, by decide⟩

theorem size_append (cs ds : List Char) : size (cs ++ ds) = size cs + size ds := by
  induction cs with
  | nil => exact (Nat.zero_add _).symm
  | cons c cs ih => rw [List.cons_append, size, size, ih, Nat.add_assoc]

theorem levelFrom?_levelName (before : List Char) (least : Option Level) :
    levelFrom? (before ++ (levelName least).toList) (size before) = some least := by
  have hlevel := level?_levelName least
  obtain ⟨c, hlast, -⟩ := getLast?_levelName least
  simp only [levelFrom?, cutFrom?_size_append, Option.bind_eq_bind, Option.bind_some]
  split
  · next hnil =>
    rw [hnil] at hlast
    cases hlast
  · exact hlevel

theorem levelFrom?_target (name : List Char) (least : Option Level) :
    levelFrom? (name ++ '=' :: (levelName least).toList) (size name + 1) = some least := by
  have hsize : size (name ++ ['=']) = size name + 1 := size_append name ['=']
  rw [← hsize, List.append_cons]
  exact levelFrom?_levelName _ least

theorem trim_target {first : Char} (hfirst : isFirst first) (rest : List Char)
    (least : Option Level) :
    Text.trim (first :: rest ++ '=' :: (levelName least).toList) =
      first :: rest ++ '=' :: (levelName least).toList := by
  obtain ⟨last, hlast, hblank⟩ := getLast?_levelName least
  refine Text.trim_of_not_isBlank ?_ ?_
  · rintro c ⟨⟩
    exact not_isBlank_of_isFirst hfirst
  · rw [List.getLast?_append, List.getLast?_cons, hlast]
    rintro c ⟨⟩
    exact hblank

/-- **A name and a level are read for what they say.** -/
theorem parse?_target {name : String} (h : IsTargetName name) (least : Option Level) :
    parse? (name.toList ++ '=' :: (levelName least).toList) = some ⟨some name, .every, least⟩ := by
  obtain ⟨⟨first, hhead, hfirst⟩, hplain⟩ := h
  have hne : first ≠ '=' ∧ first ≠ '[' ∧ first ≠ ',' := hplain first (List.mem_of_head? hhead)
  obtain ⟨rest, hname⟩ := List.head?_eq_some_iff.mp hhead
  -- the name goes up to the equals sign
  have hends : ∀ c ∈ name.toList, (!(decide (c = '=') || decide (c = '['))) = true := by
    intro c hc
    simp [hplain c hc]
  rw [hname] at hends ⊢
  simp only [parse?, trim_target hfirst, List.takeWhile_append_of_pos hends,
    List.dropWhile_append_of_pos hends]
  simp only [List.takeWhile_cons, List.dropWhile_cons, decide_true, Bool.true_or, Bool.not_true,
    Bool.false_eq_true, if_false, List.append_nil, cutTo?_size_append, levelFrom?_target]
  split
  · next heq => cases heq
  · next heq => exact absurd (List.cons.inj heq).1 hne.1
  · next heq => exact absurd (List.cons.inj heq).1 hne.2.1
  · next heq =>
    obtain ⟨rfl, -⟩ := List.cons.inj heq
    simp only [hfirst, Bool.not_true, Bool.false_eq_true, if_false]
    show some (⟨some (.ofList (first :: rest)), .every, least⟩ : Directive) = _
    rw [← hname, String.ofList_toList]

end Directive

theorem Filter.parse?_of_notMem {text : String} {d : Directive} (hcomma : ',' ∉ text.toList)
    (h : Directive.parse? text.toList = some d) : parse? text = some [d] := by
  have hne : text.toList ≠ [] := by
    intro hnil
    rw [hnil] at h
    cases h
  have hpieces : pieces text = [text.toList] := by
    rw [pieces, Text.split_of_not_mem hcomma]
    exact List.filter_eq_self.mpr (by simp [hne])
  rw [parse?, hpieces, List.mapM_cons, h]
  rfl

theorem Directive.concerns_target_iff {name : String} {least : Option Level} {line : Line} :
    (⟨some name, .every, least⟩ : Directive).concerns line ↔
      name.toList <+: line.target.toList := by
  simp [concerns, Scope.covers]

theorem Directive.shows_iff {d : Directive} {level : Level} :
    d.shows level ↔ ∃ least ∈ d.level, level.rank ≤ least.rank := by
  simp [shows, Option.any_eq_true]

namespace Filter

theorem admits_general_iff {least : Option Level} {line : Line} :
    Filter.admits [.general least] line ↔ ∃ l ∈ least, line.level.rank ≤ l.rank :=
  Directive.shows_iff (d := .general least)

theorem admits_target_iff {name : String} {least : Option Level} {line : Line} :
    Filter.admits [⟨some name, .every, least⟩] line ↔
      name.toList <+: line.target.toList ∧ ∃ l ∈ least, line.level.rank ≤ l.rank := by
  let d : Directive := ⟨some name, .every, least⟩
  have hname : d.concerns line ↔ name.toList <+: line.target.toList :=
    Directive.concerns_target_iff
  have hdeciding : Filter.deciding? [d] line = if d.concerns line then some d else none := by
    cases hconcerns : d.concerns line <;> simp [deciding?, hconcerns]
  rw [← hname, admits, hdeciding]
  split
  · next h =>
    rw [and_iff_right h]
    exact Directive.shows_iff (d := d)
  · next h =>
    exact iff_of_false nofun (fun hshown => h hshown.1)

/-- A directive for some targets decides on their lines rather than one for all. -/
theorem admits_general_target_iff {level least : Option Level} {name : String} {line : Line} :
    Filter.admits [.general level, ⟨some name, .every, least⟩] line ↔
      if name.toList <+: line.target.toList then ∃ l ∈ least, line.level.rank ≤ l.rank
      else ∃ l ∈ level, line.level.rank ≤ l.rank := by
  let d : Directive := ⟨some name, .every, least⟩
  have hname : d.concerns line ↔ name.toList <+: line.target.toList :=
    Directive.concerns_target_iff
  have hdeciding : Filter.deciding? [.general level, d] line =
      if d.concerns line then some d else some (.general level) := by
    have houtranked : (Directive.general level).outranks d = false := by
      simp [Directive.outranks, Directive.precision, Directive.general, d]
    have hconcerned : [Directive.general level, d].filter (·.concerns line) =
        if d.concerns line then [.general level, d] else [.general level] := by
      simp only [List.filter_cons, Directive.concerns_general, List.filter_nil, if_true]
      split <;> rfl
    rw [deciding?, hconcerned]
    split
    · simp [houtranked]
    · rfl
  simp only [← hname]
  rw [admits, hdeciding]
  split
  · exact Directive.shows_iff (d := d)
  · exact Directive.shows_iff (d := .general level)

end Filter

end Log

/-! ## Settings -/

namespace Cli

open Log

/-- What a filter is set to. -/
inductive FilterSetting
  | unset
  /-- Everything is shown up to a level. -/
  | upTo (least : Option Level)
  /-- What the targets log whose names begin in some way is shown up to a level. -/
  | target (name : String) (isName : IsTargetName name) (least : Option Level)

namespace FilterSetting

/-- The setting as it stands in the environment, if it stands there. -/
def text : FilterSetting → Option String
  | unset => none
  | upTo least => some (levelName least)
  | target name _ least => some (name ++ "=" ++ levelName least)

/-- The lines that are shown. If nothing is set, these are warnings and errors, and if the machine
is traced also what it reports. -/
def Admits (traced : Bool) (line : Line) : FilterSetting → Prop
  | unset =>
    line.level.rank ≤ Level.warn.rank ∨
      traced ∧ "emulator".toList <+: line.target.toList ∧ line.level.rank ≤ Level.debug.rank
  | upTo least => ∃ level ∈ least, line.level.rank ≤ level.rank
  | target name _ least =>
    name.toList <+: line.target.toList ∧ ∃ level ∈ least, line.level.rank ≤ level.rank

instance (traced : Bool) (line : Line) :
    (setting : FilterSetting) → Decidable (setting.Admits traced line)
  | unset => inferInstanceAs (Decidable (_ ∨ _ ∧ _ ∧ _))
  | upTo least =>
    decidable_of_iff (least.any (line.level.rank ≤ ·.rank)) (by simp [Admits, Option.any_eq_true])
  | target name _ least =>
    decidable_of_iff
      (name.toList <+: line.target.toList ∧ least.any (line.level.rank ≤ ·.rank))
      (by simp [Admits, Option.any_eq_true])

end FilterSetting

/-! ## Hosts -/

namespace Logging

/-- A level, and a beginning of targets with a level, are read for what they say. So are the filters
that are used when none has been set: a line is shown if one of their directives is for its target,
or for all, and has a level that shows it. -/
structure ReadsSettings (logging : Logging) : Prop where
  upTo : ∀ least, ∃ filter, logging.filter? (levelName least) = some filter ∧
    ∀ line, filter line ↔ ∃ level ∈ least, line.level.rank ≤ level.rank
  target : ∀ name, IsTargetName name → ∀ least, ∃ filter,
    logging.filter? (name ++ "=" ++ levelName least) = some filter ∧
      ∀ line, filter line ↔
        name.toList <+: line.target.toList ∧ ∃ level ∈ least, line.level.rank ≤ level.rank
  warnings : ∀ line, logging.filterOf "warn" line ↔ line.level.rank ≤ Level.warn.rank
  reports : ∀ line, logging.filterOf "warn,emulator=debug" line ↔
    line.level.rank ≤ Level.warn.rank ∨
      "emulator".toList <+: line.target.toList ∧ line.level.rank ≤ Level.debug.rank

theorem standard_readsSettings : standard.ReadsSettings := by
  have hlevel (line : Line) (least : Level) :
      (∃ l ∈ some least, line.level.rank ≤ l.rank) ↔ line.level.rank ≤ least.rank := by
    simp
  constructor
  · intro least
    have hparse := Filter.parse?_of_notMem (comma_notMem_levelName least)
      (Directive.parse?_levelName least)
    refine ⟨Filter.admits [.general least], ?_, fun line => Filter.admits_general_iff⟩
    simp only [standard, hparse, Option.map_some]
  · intro name h least
    have hname : ',' ∉ name.toList := fun hmem => (h.2 _ hmem).2.2 rfl
    have htext : (name ++ "=" ++ levelName least).toList =
        name.toList ++ '=' :: (levelName least).toList := by
      simp
    have hparse : Filter.parse? (name ++ "=" ++ levelName least) =
        some [⟨some name, .every, least⟩] := by
      refine Filter.parse?_of_notMem ?_ ?_
      · rw [htext]
        simp [hname, comma_notMem_levelName]
      · rw [htext]
        exact Directive.parse?_target h least
    refine ⟨Filter.admits [⟨some name, .every, least⟩], ?_, fun line => Filter.admits_target_iff⟩
    simp only [standard, hparse, Option.map_some]
  · intro line
    have htext : Filter.ofText "warn" = [.general (some .warn)] := by decide +kernel
    show (Filter.ofText "warn").admits line ↔ _
    rw [htext, Filter.admits_general_iff, hlevel]
  · intro line
    have htext : Filter.ofText "warn,emulator=debug" =
        [.general (some .warn), ⟨some "emulator", .every, some .debug⟩] := by decide +kernel
    have hranks : line.level.rank ≤ Level.warn.rank → line.level.rank ≤ Level.debug.rank :=
      fun h => Nat.le_trans h (by decide)
    show (Filter.ofText "warn,emulator=debug").admits line ↔ _
    rw [htext, Filter.admits_general_target_iff, hlevel, hlevel]
    split
    · next h => exact ⟨fun hle => Or.inr ⟨h, hle⟩, fun hle => hle.elim hranks And.right⟩
    · next h => exact ⟨Or.inl, fun hle => hle.elim id fun htarget => absurd htarget.1 h⟩

end Logging

/-- **The lines that are shown** on a host that reads settings for what they say. -/
theorem FilterSetting.admits_filterFor_iff {logging : Logging} (h : logging.ReadsSettings)
    (trace : Trace) (setting : FilterSetting) (line : Line) :
    logging.filterFor trace setting.text line ↔ setting.Admits (!trace.isOff) line := by
  cases setting with
  | unset =>
    show logging.filterOf (defaultFilter trace) line ↔ _
    unfold defaultFilter
    split
    · next hoff =>
      rw [h.warnings, hoff]
      exact (or_iff_left nofun).symm
    · next hoff =>
      rw [h.reports, Bool.eq_false_iff.mpr hoff]
      exact or_congr_right (and_iff_right rfl).symm
  | upTo least =>
    obtain ⟨filter, hfilter, hadmits⟩ := h.upTo least
    simp only [Logging.filterFor, text, Option.bind_some, hfilter, Option.getD_some]
    exact hadmits line
  | target name hname least =>
    obtain ⟨filter, hfilter, hadmits⟩ := h.target name hname least
    simp only [Logging.filterFor, text, Option.bind_some, hfilter, Option.getD_some]
    exact hadmits line

theorem FilterSetting.filterFor_text {logging : Logging} (h : logging.ReadsSettings)
    (trace : Trace) (setting : FilterSetting) :
    logging.filterFor trace setting.text =
      fun line => decide (setting.Admits (!trace.isOff) line) := by
  funext line
  rw [Bool.eq_iff_iff, setting.admits_filterFor_iff h, decide_eq_true_iff]

end Cli

end CellMachine
