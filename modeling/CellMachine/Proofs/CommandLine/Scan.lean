import CellMachine.Proofs.CommandLine.Basic

/-!
# Scanning one argument after the other

An image, and a value that is an argument of its own, stay pending until the next argument has been
recognised. Where nothing is wrong they might as well be settled before it (`Settles`), so it is
enough to follow scans with nothing pending. Those take an option with its value, or an image, at
once.

## Main statements

* `Scan.arguments_eq_ok_iff_settle` — what is pending may be settled first
* `Scan.arguments_image`, `Scan.arguments_spell` — an image, and an option with its value
* `Scan.exists_value` — an option that needs its value takes the next argument
-/

namespace CellMachine.Cli

namespace Scan

variable {s s₀ : Scan} {α β : Type}

/-! ## Values -/

theorem accept_traceOp_eq_ok_iff {text : String} :
    s.accept text .traceOp = .ok s₀ ↔
      ∃ op, Opcode.parse text = .ok op ∧ s₀ = { s with opcodes := s.opcodes ++ [op] } := by
  cases hparse : Opcode.parse text with
  | error e => simp [accept, hparse]
  | ok op => simp [accept, hparse, eq_comm]

theorem accept_onEof_eq_ok_iff {value : String} :
    s.accept value .onEof = .ok s₀ ↔
      ∃ choice, value = onEofValue choice ∧ s.endOfInput = none ∧
        s₀ = { s with endOfInput := some choice } := by
  constructor
  · intro h
    simp only [accept] at h
    split at h
    · cases h
    · rename_i hgiven
      have hnone : s.endOfInput = none := by simpa using hgiven
      split at h
      · exact ⟨.fail, rfl, hnone, (Except.ok.inj h).symm⟩
      · exact ⟨.halt, rfl, hnone, (Except.ok.inj h).symm⟩
      · cases h
      · cases h
  · rintro ⟨choice, rfl, hnone, rfl⟩
    cases choice <;> simp [accept, hnone, onEofValue]

theorem accept_keeps {o : ValueOption} {value : String} (h : s.accept value o = .ok s₀) :
    s₀.pending = s.pending ∧ s₀.image = s.image := by
  cases o with
  | traceOp =>
    obtain ⟨op, -, rfl⟩ := accept_traceOp_eq_ok_iff.mp h
    exact ⟨rfl, rfl⟩
  | onEof =>
    obtain ⟨choice, -, -, rfl⟩ := accept_onEof_eq_ok_iff.mp h
    exact ⟨rfl, rfl⟩

/-! ## Settling first -/

theorem settle_of_pending_none (h : s.pending = none) : s.settle = .ok s := by
  rw [settle, h]

/-- What is left when nothing is pending any more. -/
theorem pending_and_hasImage_of_settle (h : s.settle = .ok s₀) :
    s₀.pending = none ∧ s₀.hasImage = s.hasImage := by
  unfold settle at h
  split at h <;> rename_i hpending
  · obtain rfl := Except.ok.inj h
    exact ⟨hpending, rfl⟩
  · cases h
  · obtain ⟨hnone, himage⟩ := accept_keeps h
    exact ⟨hnone, by simp [hasImage, hnone, himage, hpending]⟩
  · cases h
  · obtain rfl := Except.ok.inj h
    exact ⟨rfl, by simp [hasImage, hpending]⟩

theorem pending_of_settle (h : s.settle = .ok s₀) : s₀.pending = none :=
  (pending_and_hasImage_of_settle h).1

/-- Reading on from a scan comes out well just as if it had been settled before. -/
def Settles (f : Scan → Except UsageError α) : Prop :=
  ∀ s a, f s = .ok a ↔ ∃ s₀, s.settle = .ok s₀ ∧ f s₀ = .ok a

theorem bind_eq_ok_iff {x : Except UsageError α} {f : α → Except UsageError β} {b : β} :
    x >>= f = .ok b ↔ ∃ a, x = .ok a ∧ f a = .ok b := by
  cases x with
  | error e => exact ⟨nofun, nofun⟩
  | ok a => exact ⟨fun h => ⟨a, rfl, h⟩, fun ⟨_, rfl, h⟩ => h⟩

theorem settles_settle : Settles settle := by
  intro s a
  constructor
  · intro h
    exact ⟨a, h, settle_of_pending_none (pending_of_settle h)⟩
  · rintro ⟨s₀, hs, h⟩
    rw [settle_of_pending_none (pending_of_settle hs)] at h
    rw [hs, h]

theorem Settles.bind {f : Scan → Except UsageError α} (hf : Settles f)
    (g : α → Except UsageError β) : Settles fun s => f s >>= g := by
  intro s b
  simp only [bind_eq_ok_iff, hf s]
  constructor
  · rintro ⟨a, ⟨s₀, hs, hfs⟩, hg⟩
    exact ⟨s₀, hs, a, hfs, hg⟩
  · rintro ⟨s₀, hs, a, hfs, hg⟩
    exact ⟨a, ⟨s₀, hs, hfs⟩, hg⟩

theorem settles_error (e : UsageError) : Settles fun _ => (.error e : Except UsageError α) :=
  fun _ _ => ⟨nofun, nofun⟩

theorem settles_finish : Settles finish := settles_settle.bind _

theorem settles_valueOption (o : ValueOption) (value : Option String) :
    Settles (·.valueOption o value) :=
  settles_settle.bind _

theorem settles_traceOption (value : Option String) : Settles (·.traceOption value) := by
  cases value with
  | none => exact settles_settle.bind _
  | some value => exact settles_error _

theorem settles_helpOption (form : HelpForm) (value : Option String) :
    Settles (·.helpOption form value) := by
  cases value with
  | none => exact settles_settle.bind _
  | some value => exact settles_error _

theorem settles_positional (arg : String) : Settles (·.positional arg) := by
  intro s t
  constructor
  · intro h
    simp only [positional] at h
    split at h
    · cases h
    · rename_i hno
      cases hs : s.settle with
      | error e => rw [hs] at h; cases h
      | ok s₀ =>
        obtain ⟨hnone, himage⟩ := pending_and_hasImage_of_settle hs
        refine ⟨s₀, rfl, ?_⟩
        rw [hs] at h
        simp only [positional, himage, hno, settle_of_pending_none hnone]
        exact h
  · rintro ⟨s₀, hs, h⟩
    obtain ⟨hnone, himage⟩ := pending_and_hasImage_of_settle hs
    simp only [positional, himage, settle_of_pending_none hnone] at h
    simp only [positional, hs]
    exact h

theorem restPositional_cons {path : String} {paths : List String} :
    s.restPositional (path :: paths) = s.positional path >>= (·.restPositional paths) := by
  simp only [restPositional, List.foldlM_cons, bind_assoc]

theorem settles_restPositional (paths : List String) : Settles (·.restPositional paths) := by
  cases paths with
  | nil => exact settles_finish
  | cons path paths =>
    have hcons : (·.restPositional (path :: paths)) =
        fun s : Scan => s.positional path >>= (·.restPositional paths) :=
      funext fun s => restPositional_cons
    rw [hcons]
    exact (settles_positional path).bind _

/-- Whatever is pending is checked before the next option or the separator. -/
theorem settles_arguments_cons {arg : String} (h : Token.ofArgument arg ≠ .plain)
    (args : List String) : Settles (·.arguments (arg :: args)) := by
  simp only [arguments]
  split
  · exact settles_restPositional args
  · exact absurd ‹_› h
  · exact settles_helpOption .brief none
  · exact settles_error _
  · exact (settles_traceOption _).bind _
  · exact settles_helpOption .full _
  · exact (settles_valueOption _ _).bind _
  · exact (settles_valueOption _ _).bind _
  · exact settles_error _

theorem plain_of_pending {arg : String} (h : ∀ o, s.pending ≠ some (.option o none)) :
    s.plain arg = s.positional arg := by
  unfold plain
  split
  · exact absurd ‹_› (h _)
  · rfl

theorem arguments_of_plain {arg : String} (h : Token.ofArgument arg = .plain) (args : List String) :
    s.arguments (arg :: args) = s.plain arg >>= (·.arguments args) := by
  rw [arguments, h]

/-- **What is pending may be settled first**, unless it is an option that still needs its value. -/
theorem arguments_eq_ok_iff_settle (h : ∀ o, s.pending ≠ some (.option o none))
    {args : List String} {c : Command} :
    s.arguments args = .ok c ↔ ∃ s₀, s.settle = .ok s₀ ∧ s₀.arguments args = .ok c := by
  cases args with
  | nil => exact settles_finish s c
  | cons arg args =>
    by_cases harg : Token.ofArgument arg = .plain
    · rw [arguments_of_plain harg, plain_of_pending h,
        (settles_positional arg).bind (·.arguments args) s c]
      refine exists_congr fun s₀ => and_congr_right fun hs => ?_
      have hnone := pending_of_settle hs
      rw [arguments_of_plain harg, plain_of_pending fun o => by simp [hnone]]
    · exact settles_arguments_cons harg args s c

/-! ## Single arguments -/

variable {c : Command} {args : List String}

theorem arguments_option (o : ValueOption) (value : Option String) :
    s.arguments (longOption o.name value :: args) =
      s.valueOption o value >>= (·.arguments args) := by
  rw [arguments, Token.ofArgument_name]
  cases o <;> rfl

theorem traceOption_none (hs : s.pending = none) :
    s.traceOption none =
      if s.trace then .error (.repeated .trace) else .ok { s with trace := true } := by
  have htrace : s.traceOption none = s.settle >>= fun s =>
      if s.trace then .error (.repeated .trace) else .ok { s with trace := true } := rfl
  rw [htrace, settle_of_pending_none hs]
  rfl

theorem arguments_trace :
    s.arguments (longOption "trace" none :: args) = s.traceOption none >>= (·.arguments args) := by
  rw [arguments, Token.ofArgument_longOption (by decide) (by decide)]
  rfl

theorem settle_image (hs : s.pending = none) {path : String} :
    { s with pending := some (.image path) }.settle =
      if path = "" then .error (.valueRequired .image) else .ok { s with image := some path } := by
  obtain ⟨image, trace, opcodes, endOfInput, pending⟩ := s
  obtain rfl : pending = none := hs
  simp only [settle]
  split <;> simp_all

theorem settle_value (hs : s.pending = none) (o : ValueOption) (value : String) :
    { s with pending := some (.option o (some value)) }.settle = s.accept value o := by
  obtain ⟨image, trace, opcodes, endOfInput, pending⟩ := s
  obtain rfl : pending = none := hs
  rfl

/-- An image is taken if there is none yet, and if what follows lets it be settled first. -/
theorem positional_bind_eq_ok_iff (hs : s.pending = none) {path : String}
    {f : Scan → Except UsageError Command}
    (hf : f { s with pending := some (.image path) } = .ok c ↔
      ∃ t, { s with pending := some (.image path) }.settle = .ok t ∧ f t = .ok c) :
    s.positional path >>= f = .ok c ↔
      path ≠ "" ∧ s.image = none ∧ f { s with image := some path } = .ok c := by
  rw [positional, settle_of_pending_none hs]
  cases himage : s.image with
  | some image => simp [hasImage, himage, bind_eq_ok_iff]
  | none =>
    have hno : s.hasImage = false := by simp [hasImage, himage, hs]
    rw [hno, if_neg (by simp)]
    show f { s with pending := some (.image path) } = .ok c ↔ _
    rw [hf, settle_image hs]
    by_cases hempty : path = "" <;> simp [hempty]

/-- An argument that does not look like an option is the image. -/
theorem arguments_image (hs : s.pending = none) {path : String}
    (hpath : Token.ofArgument path = .plain) :
    s.arguments (path :: args) = .ok c ↔
      path ≠ "" ∧ s.image = none ∧ { s with image := some path }.arguments args = .ok c := by
  rw [arguments_of_plain hpath, plain_of_pending fun o => by simp [hs]]
  exact positional_bind_eq_ok_iff hs (arguments_eq_ok_iff_settle (by simp))

/-- An option that needs its value takes the next argument. -/
theorem exists_value {o : ValueOption} (hs : s.pending = some (.option o none))
    (h : s.arguments args = .ok c) :
    ∃ value rest, args = value :: rest ∧ Token.ofArgument value = .plain ∧
      { s with pending := some (.option o (some value)) }.arguments rest = .ok c := by
  have hsettle : s.settle = .error (.valueRequired (.option o)) := by rw [settle, hs]
  have hnot {α : Type} {f : Scan → Except UsageError α} (hf : Settles f) (a : α) : f s ≠ .ok a := by
    rw [ne_eq, hf s a, hsettle]
    exact nofun
  cases args with
  | nil => exact absurd h (hnot settles_finish c)
  | cons value rest =>
    by_cases hvalue : Token.ofArgument value = .plain
    · rw [arguments_of_plain hvalue, plain, hs] at h
      exact ⟨value, rest, rfl, hvalue, h⟩
    · exact absurd h (hnot (settles_arguments_cons hvalue rest) c)

/-- An option with its value, in either spelling. -/
theorem arguments_spell (hs : s.pending = none) {value : String}
    (hvalue : Token.ofArgument value = .plain) (o : ValueOption) (spelling : Spelling) :
    s.arguments (o.spell value spelling ++ args) = .ok c ↔
      ∃ t, s.accept value o = .ok t ∧ t.arguments args = .ok c := by
  cases spelling with
  | joined =>
    show s.arguments (longOption o.name (some value) :: args) = .ok c ↔ _
    rw [arguments_option, valueOption, settle_of_pending_none hs]
    exact bind_eq_ok_iff
  | apart =>
    show s.arguments (longOption o.name none :: value :: args) = .ok c ↔ _
    rw [arguments_option, valueOption, settle_of_pending_none hs]
    show { s with pending := some (.option o none) }.arguments (value :: args) = .ok c ↔ _
    rw [arguments_of_plain hvalue]
    show { s with pending := some (.option o (some value)) }.arguments args = .ok c ↔ _
    rw [arguments_eq_ok_iff_settle (by simp), settle_value hs]

end Scan

end CellMachine.Cli
