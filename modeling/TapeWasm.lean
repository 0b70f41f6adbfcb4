import TapeWasm.Main
import TapeWasm.Session
import TapeWasm.Text.Template
import TapeWasm.Proofs.Codec.Decoder
import TapeWasm.Proofs.Codec.Instr
import TapeWasm.Proofs.Codec.Entry
import TapeWasm.Proofs.Codec.Module
import TapeWasm.Proofs.Codec.NormalForm
import TapeWasm.Proofs.Codec.InstructionSet
import TapeWasm.Proofs.Machine.Memory
import TapeWasm.Proofs.Machine.Output
import TapeWasm.Proofs.Machine.Run
import TapeWasm.Proofs.Source.Brackets
import TapeWasm.Proofs.Tape.Machine
import TapeWasm.Proofs.Emit.Code
import TapeWasm.Proofs.Emit.Module
import TapeWasm.Proofs.Tape.Simulation
import TapeWasm.Proofs.Tape.Refinement
import TapeWasm.Proofs.Typing.Checks
import TapeWasm.Proofs.Typing.Nesting
import TapeWasm.Proofs.Machine.Replace
import TapeWasm.Proofs.Peephole.Rules
import TapeWasm.Proofs.Typing.Safety
import TapeWasm.Proofs.Peephole.Effect
import TapeWasm.Proofs.Peephole.Meaning
import TapeWasm.Proofs.Peephole.Size
import TapeWasm.Proofs.Peephole.Traps
import TapeWasm.Proofs.Peephole.Typing
import TapeWasm.Proofs.Typing.Validate
import TapeWasm.Proofs.Typing.TypeSafety
import TapeWasm.Proofs.Typing.Rules
import TapeWasm.Proofs.Typing.Operands
import TapeWasm.Proofs.Typing.Instructions
import TapeWasm.Proofs.Typing.Decision
import TapeWasm.Proofs.Peephole.Validity
import TapeWasm.Proofs.Source.Filter
import TapeWasm.Proofs.Emit.Validity
import TapeWasm.Proofs.Build.Stages
import TapeWasm.Proofs.Build.Calls
import TapeWasm.Proofs.Build.History
import TapeWasm.Proofs.Build.Release
import TapeWasm.Proofs.Tape.Buffering
import TapeWasm.Proofs.Source.Matching
import TapeWasm.Proofs.Emit.Faults
import TapeWasm.Proofs.Codec.Cut
import TapeWasm.Proofs.Emit.Readable
import TapeWasm.Proofs.Peephole.Reading
import TapeWasm.Proofs.Peephole.Length
import TapeWasm.Proofs.Peephole.Pieces
import TapeWasm.Proofs.Peephole.Shrink
import TapeWasm.Proofs.Peephole.NormalForm
import TapeWasm.Proofs.Codec.Width
import TapeWasm.Proofs.Typing.BranchTable
import TapeWasm.Proofs.Settings.Choices
import TapeWasm.Proofs.Source.Positions
import TapeWasm.Proofs.Fault.Wrapping
import TapeWasm.Proofs.Session.Runs
import TapeWasm.Proofs.Build.Faults
import TapeWasm.Proofs.Command.Outcome
import TapeWasm.Proofs.Typing.Discipline
import TapeWasm.Proofs.Typing.Numbering
import TapeWasm.Proofs.Tape.Addresses
