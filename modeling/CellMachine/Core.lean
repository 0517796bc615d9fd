import CellMachine.Cell

/-!
# Registers and stack

What the machine holds besides its program: eight registers, all zero at first, and one stack that
data and return addresses share.
-/

namespace CellMachine

/-- The values of the eight registers. -/
structure Registers where
  values : Vector Cell 8
  deriving DecidableEq, Repr

namespace Registers

/-- All registers zero. -/
def zero : Registers := ⟨.replicate 8 0⟩

/-- The value of a register. -/
def get (rs : Registers) (r : Register) : Cell := rs.values[r.index]

/-- Puts a value into a register. -/
def set (rs : Registers) (r : Register) (value : Cell) : Registers :=
  ⟨rs.values.set r.index value⟩

/-- The values in the order of the registers. -/
def toList (rs : Registers) : List Cell := rs.values.toList

theorem get_set (rs : Registers) (r s : Register) (value : Cell) :
    (rs.set r value).get s = if s = r then value else rs.get s := by
  simp only [get, set, Fin.getElem_fin, Vector.getElem_set]
  split
  · next h =>
    have : s = r := by
      cases s; cases r
      simp_all [Fin.ext_iff]
    simp [this]
  · next h =>
    have : s ≠ r := by
      rintro rfl
      exact h rfl
    simp [this]

end Registers

/-- Registers and stack. -/
structure Core where
  registers : Registers
  /-- The stack, its top first. -/
  stack : List Cell
  deriving DecidableEq, Repr

namespace Core

/-- All registers zero and nothing on the stack. -/
def initial : Core := ⟨.zero, []⟩

/-- The value of an operand. -/
def value (core : Core) : Operand → Cell
  | .literal value _ => value
  | .register r => core.registers.get r

/-- Puts a value into a register. -/
def set (core : Core) (r : Register) (value : Cell) : Core :=
  { core with registers := core.registers.set r value }

/-- Puts a value on the stack. -/
def push (core : Core) (value : Cell) : Core := { core with stack := value :: core.stack }

/-- Takes the top of the stack, if there is one. -/
def pop? (core : Core) : Option (Cell × Core) :=
  match core.stack with
  | [] => none
  | value :: rest => some (value, { core with stack := rest })

end Core

end CellMachine
