import CellMachine.Cli.Arguments

/-!
# Help texts
-/

namespace CellMachine.Cli

/-- What both forms begin with. -/
def helpHead : List String :=
  ["Run a 16 bit cell program image",
   "",
   "Usage: synacor [OPTIONS] <IMAGE>",
   "",
   "Arguments:"]

/-- The lines of a help text. -/
def helpLines : HelpForm → List String
  | .brief => helpHead ++
    ["  <IMAGE>  Path to the little-endian program image",
     "",
     "Options:",
     "      --trace            Trace every instruction before it executes",
     "      --trace-op <OP>    Trace only these instructions, by mnemonic or number",
     "      --on-eof <ON_EOF>  What `in` does once stdin is exhausted [default: fail]" ++
       " [possible values: fail, halt]",
     "  -h, --help             Print help (see more with '--help')"]
  | .full => helpHead ++
    ["  <IMAGE>",
     "          Path to the little-endian program image",
     "",
     "Options:",
     "      --trace",
     "          Trace every instruction before it executes",
     "",
     "      --trace-op <OP>",
     "          Trace only these instructions, by mnemonic or number",
     "",
     "      --on-eof <ON_EOF>",
     "          What `in` does once stdin is exhausted",
     "",
     "          Possible values:",
     "          - fail: Stop with an error",
     "          - halt: Stop as if the program had halted",
     "          ",
     "          [default: fail]",
     "",
     "  -h, --help",
     "          Print help (see a summary with '-h')"]

/-- A help text. -/
def helpText (form : HelpForm) : String :=
  String.join ((helpLines form).map (· ++ "\n"))

end CellMachine.Cli
