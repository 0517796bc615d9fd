import CellMachine.Cli.Arguments

/-!
# Command lines

A command line is a sequence of items — an image, or an option with its value in either spelling —
and perhaps a separator with what follows it. Between the items and the rest there is one image;
`--trace` and `--on-eof` are given at most once, `--trace-op` as often as one likes.

The names of opcodes and of choices never look like options, so they may stand as arguments of their
own.

## Main statements

* `Token.eq_of_long`, `Token.ofArgument_longOption` — options and their tokens
* `Token.ofArgument_of_parse` — a text that names an opcode does not look like an option
-/

namespace CellMachine.Cli

/-! ## Command lines -/

/-- How an option and its value are written: as two arguments, or as one with an equals sign. -/
inductive Spelling
  | apart
  | joined

/-- An option as it is written, `--name` or `--name=value`. -/
def longOption (name : String) (value : Option String) : String :=
  "--" ++ name ++ value.elim "" ("=" ++ ·)

/-- The name of an option that has a value. -/
def ValueOption.name : ValueOption → String
  | .traceOp => "trace-op"
  | .onEof => "on-eof"

/-- The arguments for an option and its value. -/
def ValueOption.spell (o : ValueOption) (value : String) : Spelling → List String
  | .apart => [longOption o.name none, value]
  | .joined => [longOption o.name (some value)]

/-- The value of `--on-eof` that stands for a choice. -/
def onEofValue : EndOfInput → String
  | .fail => "fail"
  | .halt => "halt"

theorem onEofValue_inj {choice other : EndOfInput} :
    onEofValue choice = onEofValue other ↔ choice = other := by
  cases choice <;> cases other <;> simp [onEofValue]

/-- What arguments before the separator stand for. -/
inductive Item
  | image (path : String) (plain : Token.ofArgument path = .plain) (nonempty : path ≠ "")
  | trace
  | traceOp (spelling : Spelling) (text : String) (op : Opcode) (names : Opcode.parse text = .ok op)
  | onEof (spelling : Spelling) (choice : EndOfInput)

namespace Item

/-- An item as it is written. -/
def arguments : Item → List String
  | image path _ _ => [path]
  | trace => [longOption "trace" none]
  | traceOp spelling text _ _ => ValueOption.traceOp.spell text spelling
  | onEof spelling choice => ValueOption.onEof.spell (onEofValue choice) spelling

theorem length_arguments_pos (item : Item) : 0 < item.arguments.length := by
  cases item with
  | image => exact Nat.one_pos
  | trace => exact Nat.one_pos
  | traceOp spelling => cases spelling <;> exact Nat.succ_pos _
  | onEof spelling => cases spelling <;> exact Nat.succ_pos _

def image? : Item → Option String
  | image path _ _ => some path
  | trace | traceOp .. | onEof .. => none

def opcode? : Item → Option Opcode
  | traceOp _ _ op _ => some op
  | image .. | trace | onEof .. => none

def endOfInput? : Item → Option EndOfInput
  | onEof _ choice => some choice
  | image .. | trace | traceOp .. => none

def isTrace : Item → Bool
  | trace => true
  | image .. | traceOp .. | onEof .. => false

/-- Whether an item is about what is traced. -/
def isTracing (item : Item) : Bool := item.isTrace || item.opcode?.isSome

end Item

/-- The arguments that end a command line: those after the separator, if there is one. -/
def restArguments : Option (List String) → List String
  | none => []
  | some paths => "--" :: paths

/-- A command line that asks for a run. -/
structure CommandLine where
  items : List Item
  /-- What follows the separator, if there is one. -/
  rest : Option (List String)
  image : String
  images : items.filterMap Item.image? ++ rest.getD [] = [image]
  nonempty : image ≠ ""
  trace_once : items.countP Item.isTrace ≤ 1
  onEof_once : (items.filterMap Item.endOfInput?).length ≤ 1

namespace CommandLine

/-- The arguments. -/
def arguments (line : CommandLine) : List String :=
  line.items.flatMap Item.arguments ++ restArguments line.rest

/-- What reading past the end of the input is to do. -/
def endOfInput (line : CommandLine) : EndOfInput :=
  (line.items.filterMap Item.endOfInput?).head?.getD .fail

/-- What the command line gives. -/
def options (line : CommandLine) : Options :=
  ⟨line.image, line.items.any Item.isTrace, line.items.filterMap Item.opcode?, line.endOfInput⟩

/-- What is left of a command line without the options about tracing. -/
def untraced (line : CommandLine) : List Item × Option (List String) :=
  (line.items.filter (!·.isTracing), line.rest)

end CommandLine

/-! ## Tokens -/

namespace Token

theorem eq_of_separator {arg : String} (h : ofArgument arg = .separator) : arg = "--" := by
  unfold ofArgument at h
  split at h
  · exact String.ext ‹_›
  · dsimp only at h
    split at h <;> cases h
  · cases h
  · cases h

/-- An argument that begins with two dashes and goes on. -/
theorem ofArgument_of_dashes {arg : String} {cs : List Char} (h : arg.toList = '-' :: '-' :: cs)
    (hcs : cs ≠ []) :
    ofArgument arg = .long (.ofList (cs.takeWhile (· ≠ '=')))
      ((cs.dropWhile (· ≠ '=')).tail?.map .ofList) := by
  obtain ⟨c, cs, rfl⟩ := List.exists_cons_of_ne_nil hcs
  cases hdrop : (c :: cs).dropWhile (· ≠ '=') with
  | nil =>
    simp only [ofArgument, h, hdrop]
    rfl
  | cons _ value =>
    simp only [ofArgument, h, hdrop]
    rfl

theorem toList_longOption (name : String) (value : Option String) :
    (longOption name value).toList =
      '-' :: '-' :: (name.toList ++ value.elim [] ('=' :: ·.toList)) := by
  cases value <;> simp [longOption]

/-- What is left behind a name begins with the equals sign. -/
theorem dropWhile_ne_equals (cs : List Char) :
    cs.dropWhile (· ≠ '=') = (cs.dropWhile (· ≠ '=')).tail?.elim [] ('=' :: ·) := by
  have hhead := List.head?_dropWhile_not (· ≠ '=') cs
  cases hdrop : cs.dropWhile (· ≠ '=') with
  | nil => rfl
  | cons c value =>
    rw [hdrop] at hhead
    obtain rfl : c = '=' := by simpa using hhead
    rfl

theorem eq_of_long {arg name : String} {value : Option String}
    (h : ofArgument arg = .long name value) : arg = longOption name value := by
  obtain ⟨cs, harg, hcs⟩ : ∃ cs, arg.toList = '-' :: '-' :: cs ∧ cs ≠ [] := by
    unfold ofArgument at h
    split at h
    · cases h
    · exact ⟨_, ‹_›, ‹_›⟩
    · cases h
    · cases h
  rw [ofArgument_of_dashes harg hcs] at h
  obtain ⟨rfl, rfl⟩ := Token.long.inj h
  apply String.ext
  rw [toList_longOption, harg, String.toList_ofList]
  have hvalue : ((cs.dropWhile (· ≠ '=')).tail?.map String.ofList).elim [] ('=' :: ·.toList) =
      cs.dropWhile (· ≠ '=') := by
    rw [Option.elim_map]
    simp only [Function.comp_def, String.toList_ofList]
    exact (dropWhile_ne_equals cs).symm
  rw [hvalue, List.takeWhile_append_dropWhile]

theorem ofArgument_longOption {name : String} (hequals : '=' ∉ name.toList) (hname : name ≠ "")
    (value : Option String) : ofArgument (longOption name value) = .long name value := by
  have hall : ∀ c ∈ name.toList, decide (c ≠ '=') = true := by
    intro c hc
    exact decide_eq_true (ne_of_mem_of_not_mem hc hequals)
  rw [ofArgument_of_dashes (toList_longOption name value) (by simp [hname]),
    List.takeWhile_append_of_pos hall, List.dropWhile_append_of_pos hall]
  cases value <;> simp

theorem ofArgument_of_head?_ne {arg : String} (h : arg.toList.head? ≠ some '-') :
    ofArgument arg = .plain := by
  unfold ofArgument
  split
  · exact absurd (by simp [*]) h
  · exact absurd (by simp [*]) h
  · exact absurd (by simp [*]) h
  · rfl

theorem exists_trim_dash (cs : List Char) : ∃ ds, Text.trim ('-' :: cs) = '-' :: ds := by
  have hdash : Text.isBlank '-' = false := by decide
  rw [Text.trim, List.dropWhile_cons_of_neg (by simp [hdash]), List.reverse_cons,
    List.dropWhile_append]
  split
  · exact ⟨[], by simp [hdash]⟩
  · exact ⟨(cs.reverse.dropWhile Text.isBlank).reverse, by simp⟩

/-- No text that names an opcode looks like an option. -/
theorem ofArgument_of_parse {text : String} {op : Opcode} (h : Opcode.parse text = .ok op) :
    ofArgument text = .plain := by
  refine ofArgument_of_head?_ne fun hhead => ?_
  obtain ⟨cs, hcs⟩ := List.head?_eq_some_iff.mp hhead
  obtain ⟨ds, hds⟩ := exists_trim_dash cs
  have hnumeral : Opcode.cellNumeral? ('-' :: ds) = none := by
    simp [Opcode.cellNumeral?, Text.numeral?, Text.unsigned]
  rw [Opcode.parse, hcs, hds, hnumeral] at h
  simp only [Opcode.ofName] at h
  split at h
  · rename_i o ho
    have hname := congrArg String.toList (Opcode.ofMnemonic?_eq_some_iff.mp ho)
    rw [String.toList_ofList, List.map_cons] at hname
    cases o <;> exact absurd hname (by simp [Opcode.mnemonic])
  · cases h

theorem ofArgument_onEofValue (choice : EndOfInput) : ofArgument (onEofValue choice) = .plain := by
  cases choice <;> rfl

theorem ofArgument_name (o : ValueOption) (value : Option String) :
    ofArgument (longOption o.name value) = .long o.name value := by
  cases o <;> exact ofArgument_longOption (by decide) (by decide) value

end Token

end CellMachine.Cli
