import CellMachine.Settings

/-!
# Options

What a command line gives, and the settings that it stands for.
-/

namespace CellMachine.Cli

/-- What a command line gives: the path of an image, whether everything is to be traced, the opcodes
that are to be traced, and what is to be done at the end of the input. -/
structure Options where
  image : String
  trace : Bool
  opcodes : List Opcode
  endOfInput : EndOfInput
  deriving DecidableEq, Repr

namespace Options

/-- What is traced. To trace everything goes before single opcodes. -/
def traceSetting (options : Options) : Trace :=
  if options.trace then .all
  else if options.opcodes.isEmpty then .off
  else .only options.opcodes

/-- The settings of the machine. -/
def settings (options : Options) : Settings := ⟨options.traceSetting, options.endOfInput⟩

end Options

end CellMachine.Cli
