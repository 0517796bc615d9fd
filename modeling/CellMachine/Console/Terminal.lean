import CellMachine.Console.Basic
import CellMachine.Console.Input
import CellMachine.Console.Output
import CellMachine.Utf8

/-!
# Terminals

A terminal is a console over bytes: it reads and writes characters in UTF-8, and flushes its output
after each.

## Main statements

* `output_read`, `input_write` — reading keeps the output, and writing the input
* `bytes_write` — a write that fails, too, only adds bytes
-/

namespace CellMachine

/-- Bytes to be read and bytes that have been written. -/
structure Terminal where
  input : Input
  output : Output
  deriving DecidableEq, Repr

namespace Terminal

/-- Reads a character: a lead byte, and then as many bytes as it announces, which are gone even if
they turn out not to be a character. -/
def read (t : Terminal) : Except ConsoleError (Option Char) × Terminal :=
  let (first, input) := t.input.take 1
  let t := { t with input }
  match first with
  | [] => (.ok none, t)
  | lead :: _ =>
    match Utf8.width? lead with
    | none => (.error .notUtf8, t)
    | some width =>
      let (rest, input) := t.input.take (width - 1)
      let t := { t with input }
      if rest.length < width - 1 then (.error .cutOff, t)
      else
        match Utf8.decode lead rest with
        | .ok c => (.ok (some c), t)
        | .error length => (.error (.malformed length), t)

/-- How many bytes at least have to arrive before a character can be read. -/
def missing (t : Terminal) : Nat :=
  match t.input.bytes with
  | [] => 1
  | lead :: rest => ((Utf8.width? lead).getD 1 - 1) - rest.length

/-- Writes a character, and flushes if there was room for all of it. -/
def write (c : Char) (t : Terminal) : Except ConsoleError Unit × Terminal :=
  let ⟨input, output⟩ := t
  let (complete, output) := output.write (Utf8.encode c)
  if complete then (.ok (), ⟨input, output.flush⟩) else (.error .full, ⟨input, output⟩)

instance : Console Terminal := ⟨read, write⟩

theorem output_read (t : Terminal) : t.read.2.output = t.output := by
  unfold read
  dsimp only
  split
  · rfl
  · split
    · rfl
    · split
      · rfl
      · split <;> rfl

theorem input_write (c : Char) (t : Terminal) : (t.write c).2.input = t.input := by
  unfold write
  dsimp only
  split <;> rfl

theorem bytes_write (c : Char) (t : Terminal) :
    (t.write c).2.output.bytes.toList =
      t.output.bytes.toList ++ t.output.fitting (Utf8.encode c) := by
  rw [← Output.toList_bytes_write]
  unfold write
  dsimp only
  split <;> rfl

end Terminal

end CellMachine
