import TapeWasm.Fault.Stage
import TapeWasm.Source.Program

/-!
Bracket matching. A program is well formed when every `]` closes the innermost `[` still open and
none stays open at the end.
-/
namespace TapeWasm

/-- A bracket without a partner, by its index among the symbols. -/
inductive BracketFault where
  | unmatched (index : Nat)
  | unclosed (index : Nat)
  deriving DecidableEq, Repr

namespace BracketFault

def detail : BracketFault → String
  | unmatched _ => "unmatched ']'"
  | unclosed _ => "unclosed '['"

def index : BracketFault → Nat
  | unmatched i => i
  | unclosed i => i

def report (f : BracketFault) (p : Program) : Fault :=
  .malformedProgram (p.position f.index) f.detail

end BracketFault

namespace Program

/-- Matches brackets from symbol `i` on, with the indices of the open ones, innermost first. The
first `]` that closes nothing is at fault; without one, the innermost `[` left open. -/
def bracketFaultFrom : Bytes → Nat → List Nat → Option BracketFault
  | [], _, [] => none
  | [], _, i :: _ => some (.unclosed i)
  | b :: r, i, opened =>
    match Symbol.ofByte? b with
    | some .opening => bracketFaultFrom r (i + 1) (i :: opened)
    | some .closing =>
      match opened with
      | [] => some (.unmatched i)
      | _ :: outer => bracketFaultFrom r (i + 1) outer
    | _ => bracketFaultFrom r (i + 1) opened

def bracketFault? (p : Program) : Option BracketFault :=
  bracketFaultFrom p.symbols 0 []

def check (p : Program) : Except Fault Unit :=
  match p.bracketFault? with
  | none => .ok ()
  | some f => .error (f.report p)

def parse (text : Bytes) : Except Fault Program := do
  let p := filter text
  p.check
  return p

end Program
end TapeWasm
