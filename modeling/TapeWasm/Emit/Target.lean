import TapeWasm.Fault.Stage
import TapeWasm.Text.Character

/-!
The environments that programs are compiled for.
-/
namespace TapeWasm

inductive Target where
  | wasi
  | browser
  | other (number : Int)
  deriving DecidableEq, Repr

namespace Target

def ofNumber : Int → Target
  | 0 => wasi
  | 1 => browser
  | n => other n

def number : Target → Int
  | wasi => 0
  | browser => 1
  | other n => n

def name : Target → String
  | wasi => "wasi"
  | browser => "browser"
  | other n => "target(" ++ toString n ++ ")"

/-- The target of a name; case and surrounding white space do not matter, and no name means the
default. -/
def parse (name : String) : Except Fault Target :=
  match Text.lower (Text.trim name) with
  | "wasi" | "" => .ok wasi
  | "browser" => .ok browser
  | _ =>
    .error (.invalidInput Phase.generate
      ("unknown target " ++ Text.quote name ++ " (want wasi or browser)"))

end Target
end TapeWasm
