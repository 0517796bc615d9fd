import CellMachine.Cli.Standard
import CellMachine.Proofs.CommandLine.Scan
import Mathlib.Tactic.MkIffOfInductiveProp

/-!
# The grammar of command lines

A scan reads a command line item after item, and gains what each item gives. What has an end without
mistakes is made of items and a rest: at each point the next arguments make up an item, or else the
separator has been reached.

## Main statements

* `Scan.arguments_item`, `Scan.arguments_items` — what a scan makes of items
* `Scan.exists_items` — all that can be read are items and a rest
* `ofArguments_eq_run_iff` — a list of arguments asks for a run if and only if it is that of a
  command line, and for the run that the command line describes
* `Host.standard_readsCommandLines` — so the standard host reads command lines
-/

namespace CellMachine.Cli

namespace Scan

variable {s : Scan} {α : Type} {c : Command} {args : List String}

/-! ## Items -/

/-- One scan has what another has and, besides, what some items give. An image and a choice about
the end of the input can be had only once, and so can `--trace`. -/
@[mk_iff]
structure Gains (s : Scan) (items : List Item) (t : Scan) : Prop where
  image : t.image.toList = s.image.toList ++ items.filterMap Item.image?
  trace : t.trace.toNat = s.trace.toNat + items.countP Item.isTrace
  opcodes : t.opcodes = s.opcodes ++ items.filterMap Item.opcode?
  endOfInput : t.endOfInput.toList = s.endOfInput.toList ++ items.filterMap Item.endOfInput?
  pending : t.pending = none

theorem toList_eq_append_singleton_iff {o p : Option α} {a : α} :
    p.toList = o.toList ++ [a] ↔ o = none ∧ p = some a := by
  cases o <;> cases p <;> simp

theorem toNat_eq_add_one_iff {b c : Bool} : c.toNat = b.toNat + 1 ↔ b = false ∧ c = true := by
  cases b <;> cases c <;> decide

theorem toList_eq_iff {o p : Option α} : p.toList = o.toList ↔ p = o := by
  cases o <;> cases p <;> simp

theorem toNat_eq_iff {b c : Bool} : c.toNat = b.toNat ↔ c = b := by
  cases b <;> cases c <;> decide

theorem exists_toList_eq {l : List α} (h : l.length ≤ 1) : ∃ o : Option α, o.toList = l := by
  match l, h with
  | [], _ => exact ⟨none, rfl⟩
  | [a], _ => exact ⟨some a, rfl⟩

theorem exists_toNat_eq {n : Nat} (h : n ≤ 1) : ∃ b : Bool, b.toNat = n := by
  obtain rfl | rfl : n = 0 ∨ n = 1 := by omega
  · exact ⟨false, rfl⟩
  · exact ⟨true, rfl⟩

/-- What an option that has room for two lists holds has room for the first of them. -/
theorem length_le_one_of_append {o : Option α} {l m : List α} (h : o.toList = l ++ m) :
    l.length ≤ 1 := by
  have hlength := congrArg List.length h
  have hle : o.toList.length ≤ 1 := by cases o <;> simp
  rw [List.length_append] at hlength
  omega

theorem gains_append_iff (items items' : List Item) {u : Scan} :
    s.Gains (items ++ items') u ↔ ∃ t, s.Gains items t ∧ t.Gains items' u := by
  constructor
  · rintro ⟨himage, htrace, hopcodes, hend, hnone⟩
    rw [List.filterMap_append, ← List.append_assoc] at himage hopcodes hend
    rw [List.countP_append, ← Nat.add_assoc] at htrace
    obtain ⟨image, hi⟩ := exists_toList_eq (length_le_one_of_append himage)
    obtain ⟨trace, ht⟩ := exists_toNat_eq (n := s.trace.toNat + items.countP Item.isTrace) (by
      have hle := u.trace.toNat_le
      omega)
    obtain ⟨endOfInput, he⟩ := exists_toList_eq (length_le_one_of_append hend)
    refine ⟨⟨image, trace, s.opcodes ++ items.filterMap Item.opcode?, endOfInput, none⟩,
      ⟨hi, ht, rfl, he, rfl⟩, ⟨?_, ?_, hopcodes, ?_, hnone⟩⟩
    · rw [himage, hi]
    · rw [htrace, ht]
    · rw [hend, he]
  · rintro ⟨t, h, h'⟩
    refine ⟨?_, ?_, ?_, ?_, h'.pending⟩
    · rw [h'.image, h.image, List.filterMap_append, List.append_assoc]
    · rw [h'.trace, h.trace, List.countP_append, Nat.add_assoc]
    · rw [h'.opcodes, h.opcodes, List.filterMap_append, List.append_assoc]
    · rw [h'.endOfInput, h.endOfInput, List.filterMap_append, List.append_assoc]

theorem gains_nil_iff (hs : s.pending = none) {t : Scan} : s.Gains [] t ↔ t = s := by
  obtain ⟨image, trace, opcodes, endOfInput, pending⟩ := s
  obtain rfl : pending = none := hs
  obtain ⟨image', trace', opcodes', endOfInput', pending'⟩ := t
  simp [gains_iff, toList_eq_iff, toNat_eq_iff]

/-- What a scan has after one item. -/
theorem gains_singleton_iff (hs : s.pending = none) {item : Item} {t : Scan} :
    s.Gains [item] t ↔
      match item with
      | .image path _ _ => s.image = none ∧ t = { s with image := some path }
      | .trace => s.trace = false ∧ t = { s with trace := true }
      | .traceOp _ _ op _ => t = { s with opcodes := s.opcodes ++ [op] }
      | .onEof _ choice => s.endOfInput = none ∧ t = { s with endOfInput := some choice } := by
  obtain ⟨image, trace, opcodes, endOfInput, pending⟩ := s
  obtain rfl : pending = none := hs
  obtain ⟨image', trace', opcodes', endOfInput', pending'⟩ := t
  rw [gains_iff]
  cases item <;>
    simp only [List.filterMap_cons, List.filterMap_nil, List.countP_singleton, Item.image?,
      Item.isTrace, Item.opcode?, Item.endOfInput?, List.append_nil, toList_eq_iff,
      toList_eq_append_singleton_iff, toNat_eq_iff, toNat_eq_add_one_iff, mk.injEq, if_true,
      if_false, Bool.false_eq_true, Nat.add_zero, and_assoc, and_left_comm, and_comm]

/-- **A scan reads an item** if it can have what the item gives, and goes on with it. -/
theorem arguments_item (hs : s.pending = none) (item : Item) :
    s.arguments (item.arguments ++ args) = .ok c ↔
      ∃ t, s.Gains [item] t ∧ t.arguments args = .ok c := by
  simp only [gains_singleton_iff hs]
  cases item with
  | image path hplain hnonempty =>
    rw [Item.arguments, List.singleton_append, arguments_image hs hplain]
    simp [hnonempty, and_assoc]
  | trace =>
    rw [Item.arguments, List.singleton_append, arguments_trace, traceOption_none hs]
    cases s.trace <;> simp [bind_eq_ok_iff]
  | traceOp spelling text op hop =>
    rw [Item.arguments, arguments_spell hs (Token.ofArgument_of_parse hop)]
    simp [accept_traceOp_eq_ok_iff, hop]
  | onEof spelling choice =>
    rw [Item.arguments, arguments_spell hs (Token.ofArgument_onEofValue choice)]
    simp [accept_onEof_eq_ok_iff, onEofValue_inj, and_assoc]

/-- **A scan reads items** one after the other, and keeps nothing but what they give. -/
theorem arguments_items (hs : s.pending = none) (items : List Item) :
    s.arguments (items.flatMap Item.arguments ++ args) = .ok c ↔
      ∃ t, s.Gains items t ∧ t.arguments args = .ok c := by
  induction items generalizing s with
  | nil => simp [gains_nil_iff hs]
  | cons item items ih =>
    rw [List.flatMap_cons, List.append_assoc, arguments_item hs]
    have hcons (u : Scan) : s.Gains (item :: items) u ↔ _ := gains_append_iff [item] items
    constructor
    · rintro ⟨t, ht, h⟩
      obtain ⟨u, hu, h⟩ := (ih ht.pending).mp h
      exact ⟨u, (hcons u).mpr ⟨t, ht, hu⟩, h⟩
    · rintro ⟨u, hu, h⟩
      obtain ⟨t, ht, hu⟩ := (hcons u).mp hu
      exact ⟨t, ht, (ih ht.pending).mpr ⟨u, hu, h⟩⟩

/-! ## The end of the arguments -/

/-- What a scan that has an image ends with. -/
def command (s : Scan) (image : String) : Command :=
  .run ⟨image, s.trace, s.opcodes, s.endOfInput.getD .fail⟩

theorem finish_of_pending_none (hs : s.pending = none) :
    s.finish = s.image.elim (.error .missingImage) fun image => .ok (s.command image) := by
  have hfinish : s.finish = s.settle >>= fun s =>
      s.image.elim (.error .missingImage) fun image => .ok (s.command image) := by
    unfold finish
    congr 1
    funext t
    cases t.image <;> rfl
  rw [hfinish, settle_of_pending_none hs]
  rfl

/-- With what follows the separator there must be one image. -/
theorem restPositional_eq_ok_iff (hs : s.pending = none) {paths : List String} :
    s.restPositional paths = .ok c ↔
      ∃ image, s.image.toList ++ paths = [image] ∧ "" ∉ paths ∧ s.command image = c := by
  induction paths generalizing s with
  | nil =>
    show s.finish = .ok c ↔ _
    rw [finish_of_pending_none hs]
    cases s.image <;> simp
  | cons path paths ih =>
    have htail := ih (s := { s with image := some path }) hs
    rw [restPositional_cons, positional_bind_eq_ok_iff hs (settles_restPositional paths _ c), htail]
    cases himage : s.image with
    | some image => simp
    | none =>
      have hcommand (image : String) :
          { s with image := some path }.command image = s.command image := rfl
      simp only [hcommand, Option.toList, List.singleton_append, List.nil_append, List.mem_cons,
        not_or, true_and]
      constructor
      · rintro ⟨hpath, image, hpaths, hrest, hc⟩
        exact ⟨image, hpaths, ⟨hpath.symm, hrest⟩, hc⟩
      · rintro ⟨image, hpaths, ⟨hpath, hrest⟩, hc⟩
        exact ⟨Ne.symm hpath, image, hpaths, hrest, hc⟩

theorem arguments_restArguments (rest : Option (List String)) :
    s.arguments (restArguments rest) = s.restPositional (rest.getD []) := by
  cases rest <;> rfl

/-! ## All that can be read -/

theorem exists_item_of_accept {o : ValueOption} {value : String} {t : Scan}
    (h : s.accept value o = .ok t) (spelling : Spelling) :
    ∃ item : Item, item.arguments = o.spell value spelling := by
  cases o with
  | traceOp =>
    obtain ⟨op, hop, -⟩ := accept_traceOp_eq_ok_iff.mp h
    exact ⟨.traceOp spelling value op hop, rfl⟩
  | onEof =>
    obtain ⟨choice, rfl, -⟩ := accept_onEof_eq_ok_iff.mp h
    exact ⟨.onEof spelling choice, rfl⟩

theorem exists_item_of_valueOption (hs : s.pending = none) {o : ValueOption} {value : Option String}
    (h : s.valueOption o value >>= (·.arguments args) = .ok c) :
    ∃ (item : Item) (rest : List String),
      longOption o.name value :: args = item.arguments ++ rest := by
  rw [valueOption, settle_of_pending_none hs] at h
  cases value with
  | some value =>
    obtain ⟨t, ht, -⟩ := bind_eq_ok_iff.mp h
    obtain ⟨item, hitem⟩ := exists_item_of_accept ht .joined
    exact ⟨item, args, by rw [hitem]; rfl⟩
  | none =>
    obtain ⟨value, rest, rfl, -, h⟩ :=
      exists_value (s := { s with pending := some (.option o none) }) rfl h
    obtain ⟨t, ht, -⟩ := (arguments_eq_ok_iff_settle (by simp)).mp h
    rw [settle_value hs] at ht
    obtain ⟨item, hitem⟩ := exists_item_of_accept ht .apart
    exact ⟨item, rest, by rw [hitem]; rfl⟩

theorem helpOption_ne_run {form : HelpForm} {value : Option String} {options : Options} :
    s.helpOption form value ≠ .ok (.run options) := by
  intro h
  cases value with
  | some value => cases h
  | none =>
    obtain ⟨t, -, ht⟩ := bind_eq_ok_iff.mp h
    cases ht

/-- Where a run is asked for, the next argument is the separator or begins an item. -/
theorem exists_item {arg : String} {options : Options} (hs : s.pending = none)
    (h : s.arguments (arg :: args) = .ok (.run options)) :
    arg = "--" ∨ ∃ (item : Item) (rest : List String), arg :: args = item.arguments ++ rest := by
  have hread := h
  rw [arguments] at h
  -- the cases of `arguments`, in its order
  split at h <;> rename_i htoken
  · exact .inl (Token.eq_of_separator htoken)
  · obtain ⟨hnonempty, -⟩ := (arguments_image hs htoken).mp hread
    exact .inr ⟨.image arg htoken hnonempty, args, rfl⟩
  · exact absurd h helpOption_ne_run
  · cases h
  · rename_i value
    obtain rfl := Token.eq_of_long htoken
    cases value with
    | none => exact .inr ⟨.trace, args, rfl⟩
    | some value => cases h
  · exact absurd h helpOption_ne_run
  · obtain rfl := Token.eq_of_long htoken
    exact .inr (exists_item_of_valueOption hs h)
  · obtain rfl := Token.eq_of_long htoken
    exact .inr (exists_item_of_valueOption hs h)
  · cases h

/-- **All that can be read** are items and, perhaps, a separator with what follows it. -/
theorem exists_items {options : Options} (hs : s.pending = none)
    (h : s.arguments args = .ok (.run options)) :
    ∃ (items : List Item) (rest : Option (List String)),
      args = items.flatMap Item.arguments ++ restArguments rest := by
  -- the arguments of an item are one or two, so this is an induction on how many are left
  induction hlength : args.length using Nat.strongRecOn generalizing s args with
  | ind n ih =>
    cases args with
    | nil => exact ⟨[], none, rfl⟩
    | cons arg args =>
      obtain rfl | ⟨item, rest, hitem⟩ := exists_item hs h
      · exact ⟨[], some args, rfl⟩
      · rw [hitem] at h hlength ⊢
        obtain ⟨t, ht, h⟩ := (arguments_item hs item).mp h
        have hshorter : rest.length < n := by
          have hpos : 0 < item.arguments.length := item.length_arguments_pos
          rw [List.length_append] at hlength
          omega
        obtain ⟨items, more, rfl⟩ := ih rest.length hshorter ht.pending h rfl
        exact ⟨item :: items, more, by rw [List.flatMap_cons, List.append_assoc]⟩

end Scan

/-! ## The command line that has been read -/

theorem Item.ne_of_mem_images {items : List Item} {path : String}
    (h : path ∈ items.filterMap Item.image?) : path ≠ "" := by
  obtain ⟨item, -, hitem⟩ := List.mem_filterMap.mp h
  cases item with
  | image other hplain hnonempty =>
    obtain rfl : other = path := Option.some.inj hitem
    exact hnonempty
  | trace => cases hitem
  | traceOp => cases hitem
  | onEof => cases hitem

namespace CommandLine

/-- A scan from the beginning can have what the items give. -/
theorem exists_gains (line : CommandLine) : ∃ t, ({} : Scan).Gains line.items t := by
  have himages : (some line.image).toList = line.items.filterMap Item.image? ++ line.rest.getD [] :=
    line.images.symm
  obtain ⟨image, hi⟩ := Scan.exists_toList_eq (Scan.length_le_one_of_append himages)
  obtain ⟨trace, ht⟩ := Scan.exists_toNat_eq line.trace_once
  obtain ⟨endOfInput, he⟩ := Scan.exists_toList_eq line.onEof_once
  exact ⟨⟨image, trace, line.items.filterMap Item.opcode?, endOfInput, none⟩, hi,
    ht.trans (Nat.zero_add _).symm, rfl, he, rfl⟩

/-- What a scan from the beginning has gained makes a command line, if there is one image. -/
theorem exists_of_gains {items : List Item} {rest : Option (List String)} {image : String}
    {t : Scan} (h : ({} : Scan).Gains items t) (himages : t.image.toList ++ rest.getD [] = [image])
    (hrest : "" ∉ rest.getD []) :
    ∃ line : CommandLine, line.items = items ∧ line.rest = rest ∧ line.image = image := by
  rw [h.image] at himages
  have hnonempty : image ≠ "" := by
    have hmem : image ∈ items.filterMap Item.image? ++ rest.getD [] :=
      himages ▸ List.mem_singleton_self image
    obtain hitem | hpath := List.mem_append.mp hmem
    · exact Item.ne_of_mem_images hitem
    · rintro rfl
      exact hrest hpath
  have htrace : items.countP Item.isTrace ≤ 1 := by
    have hcount : t.trace.toNat = items.countP Item.isTrace := h.trace.trans (Nat.zero_add _)
    exact hcount ▸ t.trace.toNat_le
  have hend : t.endOfInput.toList = items.filterMap Item.endOfInput? ++ [] :=
    h.endOfInput.trans (List.append_nil _).symm
  exact ⟨⟨items, rest, image, himages, hnonempty, htrace, Scan.length_le_one_of_append hend⟩,
    rfl, rfl, rfl⟩

theorem command_of_gains (line : CommandLine) {t : Scan} (h : ({} : Scan).Gains line.items t) :
    t.command line.image = .run line.options := by
  have htrace : t.trace = line.items.any Item.isTrace := by
    have hcount : t.trace.toNat = line.items.countP Item.isTrace := h.trace.trans (Nat.zero_add _)
    rw [Bool.eq_iff_iff, List.any_eq_true, ← List.countP_pos_iff, ← hcount]
    cases t.trace <;> simp
  have hend : t.endOfInput = (line.items.filterMap Item.endOfInput?).head? := by
    have hlist : t.endOfInput.toList = line.items.filterMap Item.endOfInput? := h.endOfInput
    rw [← hlist]
    cases t.endOfInput <;> rfl
  have hopcodes : t.opcodes = line.items.filterMap Item.opcode? := h.opcodes
  rw [Scan.command, htrace, hopcodes, hend]
  rfl

theorem empty_notMem_rest (line : CommandLine) : "" ∉ line.rest.getD [] := by
  intro hempty
  have hmem : "" ∈ line.items.filterMap Item.image? ++ line.rest.getD [] :=
    List.mem_append_right _ hempty
  rw [line.images, List.mem_singleton] at hmem
  exact line.nonempty hmem.symm

end CommandLine

/-- **The arguments of a run are those of a command line**, and the run is the one that the command
line describes. -/
theorem ofArguments_eq_run_iff {args : List String} {options : Options} :
    Command.ofArguments args = .ok (.run options) ↔
      ∃ line : CommandLine, line.arguments = args ∧ line.options = options := by
  constructor
  · intro h
    obtain ⟨items, rest, rfl⟩ := Scan.exists_items rfl h
    obtain ⟨t, ht, h⟩ := (Scan.arguments_items rfl items).mp h
    rw [Scan.arguments_restArguments, Scan.restPositional_eq_ok_iff ht.pending] at h
    obtain ⟨image, himages, hrest, hcommand⟩ := h
    obtain ⟨line, rfl, rfl, rfl⟩ := CommandLine.exists_of_gains ht himages hrest
    exact ⟨line, rfl, Command.run.inj ((line.command_of_gains ht).symm.trans hcommand)⟩
  · rintro ⟨line, rfl, rfl⟩
    obtain ⟨t, ht⟩ := line.exists_gains
    refine (Scan.arguments_items rfl line.items).mpr ⟨t, ht, ?_⟩
    rw [Scan.arguments_restArguments, Scan.restPositional_eq_ok_iff ht.pending]
    refine ⟨line.image, ?_, line.empty_notMem_rest, line.command_of_gains ht⟩
    rw [ht.image]
    exact line.images

/-! ## Hosts -/

namespace Host

/-- The host reads command lines, for what they give, and no other arguments. -/
def ReadsCommandLines (host : Host) : Prop :=
  ∀ args options, host.readArguments args = .ok options ↔
    ∃ line : CommandLine, line.arguments = args ∧ line.options = options

theorem standard_readsCommandLines (readFile : String → Except String (List UInt8)) :
    (standard readFile).ReadsCommandLines := by
  intro args options
  rw [← ofArguments_eq_run_iff]
  simp only [standard, standardArguments]
  split <;> simp [*]

end Host

end CellMachine.Cli
