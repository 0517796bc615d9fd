/-!
# Messages with values

A message may be followed by values, each with its name: `done halt=Instruction cycles=2`.
-/

namespace CellMachine.Text

/-- Values with their names. -/
abbrev Fields := List (String × String)

/-- A message and the values after it. -/
def labelled (message : String) (fields : Fields) : String :=
  message ++ String.join (fields.map fun (name, value) => s!" {name}={value}")

theorem labelled_nil (message : String) : labelled message [] = message := by
  simp [labelled]

end CellMachine.Text
