import CellMachine.Main
import CellMachine.Proofs.Memory
import CellMachine.Proofs.Run
import CellMachine.Proofs.Stack
import CellMachine.Proofs.Stopping
import CellMachine.Proofs.Table.Refinement
import CellMachine.Proofs.Bounds
import CellMachine.Proofs.Tracing
import CellMachine.Proofs.Literals
import CellMachine.Proofs.Input
import CellMachine.Proofs.Output
import CellMachine.Proofs.Consoles
import CellMachine.Proofs.OutputLimit
import CellMachine.Proofs.Calls
import CellMachine.Proofs.Extension
import CellMachine.Proofs.EndOfInput
import CellMachine.Proofs.Lookahead
import CellMachine.Proofs.Checked.Refinement
import CellMachine.Proofs.ReadOutcomes
import CellMachine.Proofs.ConsoleRoundTrip
import CellMachine.Proofs.Echo
import CellMachine.Proofs.Decoding
import CellMachine.Proofs.Forward
import CellMachine.Proofs.Reports
import CellMachine.Proofs.CommandLine.Basic
import CellMachine.Proofs.CommandLine.Grammar
import CellMachine.Proofs.CommandOutcome
import CellMachine.Proofs.LogFilter
import CellMachine.Proofs.PlainText
import CellMachine.Proofs.StandardError
import CellMachine.Proofs.Sweep
import CellMachine.Proofs.OpcodeNames
import CellMachine.Proofs.Images
import CellMachine.Proofs.Buffers
