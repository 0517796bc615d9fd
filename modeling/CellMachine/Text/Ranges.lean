/-!
# Tables of code points

A property of characters is given as a table: ranges of code points in ascending order.
-/

namespace CellMachine.Text

/-- Ranges of code points, each with its first and its last member. -/
abbrev Ranges := List (Nat × Nat)

/-- Whether a character is in one of the ranges. -/
def Ranges.holds (ranges : Ranges) (c : Char) : Bool :=
  ranges.any fun (first, last) => first ≤ c.toNat && c.toNat ≤ last

theorem Ranges.holds_iff {ranges : Ranges} {c : Char} :
    ranges.holds c ↔ ∃ r ∈ ranges, r.1 ≤ c.toNat ∧ c.toNat ≤ r.2 := by
  simp [Ranges.holds]

end CellMachine.Text
