/-!
# Byte output

Bytes are appended to those already written. The output may have room for a limited number of them;
a write that does not fit leaves the bytes that do, and fails.
-/

namespace CellMachine

/-- The bytes written so far. -/
structure Output where
  bytes : Array UInt8
  /-- How many bytes there can ever be; without a limit, any number. -/
  limit : Option Nat
  /-- How many times the bytes have been passed on to whoever waits for them. -/
  flushes : Nat
  deriving DecidableEq, Repr

namespace Output

/-- Nothing written yet. -/
def empty (limit : Option Nat) : Output := ⟨#[], limit, 0⟩

/-- The part of some bytes for which there is room. -/
def fitting (output : Output) (bs : List UInt8) : List UInt8 :=
  match output.limit with
  | none => bs
  | some limit => bs.take (limit - output.bytes.size)

/-- Appends the bytes that fit; tells whether all do. -/
def write (bs : List UInt8) (output : Output) : Bool × Output :=
  let fit := output.fitting bs
  (fit.length == bs.length, { output with bytes := output.bytes ++ fit })

/-- Passes on the bytes written so far. -/
def flush (output : Output) : Output := { output with flushes := output.flushes + 1 }

theorem toList_bytes_write (bs : List UInt8) (output : Output) :
    (output.write bs).2.bytes.toList = output.bytes.toList ++ output.fitting bs := by
  simp [write]

theorem fitting_of_limit_eq_none {output : Output} (h : output.limit = none) (bs : List UInt8) :
    output.fitting bs = bs := by
  simp [fitting, h]

end Output

end CellMachine
