import CellMachine.Opcode.Basic

/-!
# Settings

Two things about a machine can be chosen: which instructions it reports before it executes them,
and what it does when it reads past the end of the input.
-/

namespace CellMachine

/-- Which instructions are reported. -/
inductive Trace
  | off
  | all
  | only (opcodes : List Opcode)
  deriving DecidableEq, Repr

namespace Trace

/-- Whether the instructions with an opcode are reported. -/
def covers : Trace → Opcode → Bool
  | off, _ => false
  | all, _ => true
  | only opcodes, op => opcodes.contains op

/-- Whether no instruction is ever reported. -/
def isOff : Trace → Bool
  | off => true
  | all => false
  | only opcodes => opcodes.isEmpty

theorem isOff_iff {trace : Trace} : trace.isOff ↔ ∀ op, trace.covers op = false := by
  cases trace with
  | off => simp [isOff, covers]
  | all => exact ⟨nofun, fun h => nomatch h .halt⟩
  | only opcodes =>
    cases opcodes with
    | nil => simp [isOff, covers]
    | cons op ops => exact ⟨nofun, fun h => absurd (h op) (by simp [covers])⟩

end Trace

/-- What reading past the end of the input does. -/
inductive EndOfInput
  /-- It is an error. -/
  | fail
  /-- It stops the machine as `halt` would. -/
  | halt
  deriving DecidableEq, Repr

/-- The choices for one machine. -/
structure Settings where
  trace : Trace := .off
  endOfInput : EndOfInput := .fail
  deriving DecidableEq, Repr

end CellMachine
