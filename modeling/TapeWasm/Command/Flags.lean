import TapeWasm.Text.Duration
import TapeWasm.Text.Quoted

/-!
Flags of a command line. A flag is written with one or two dashes; its value follows in the same
argument after an equals sign or as the next argument. The first argument that is no flag ends the
flags, and so does a bare pair of dashes.
-/
namespace TapeWasm.Command

inductive FlagKind where
  | text (initial : String)
  | switch
  | duration
  deriving DecidableEq, Repr

structure Flag where
  name : String
  kind : FlagKind
  usage : String
  deriving DecidableEq, Repr

inductive FlagValue where
  | text (s : String)
  | switch (b : Bool)
  | duration (d : Duration)
  deriving DecidableEq, Repr

namespace Flag

def kindName (f : Flag) : String :=
  match f.kind with
  | .text _ => "string"
  | .switch => ""
  | .duration => "duration"

def help (f : Flag) : String :=
  let head := "  -" ++ f.name ++ (if f.kindName = "" then "" else " " ++ f.kindName)
  let gap := if head.utf8ByteSize ≤ 4 then "\t" else "\n    \t"
  let initial :=
    match f.kind with
    | .text s => if s = "" then "" else " (default " ++ Text.quote s ++ ")"
    | _ => ""
  head ++ gap ++ f.usage ++ initial ++ "\n"

def truth? : String → Option Bool
  | "1" | "t" | "T" | "TRUE" | "true" | "True" => some true
  | "0" | "f" | "F" | "FALSE" | "false" | "False" => some false
  | _ => none

/-- Reads the value of a flag, or says what is wrong with it. -/
def read (f : Flag) (s : String) : Except String FlagValue :=
  match f.kind with
  | .text _ => .ok (.text s)
  | .switch =>
    match truth? s with
    | some b => .ok (.switch b)
    | none =>
      .error ("invalid boolean value " ++ Text.quote s ++ " for -" ++ f.name ++ ": parse error")
  | .duration =>
    match Duration.parse? s with
    | some d => .ok (.duration d)
    | none =>
      .error ("invalid value " ++ Text.quote s ++ " for flag -" ++ f.name ++ ": parse error")

end Flag

def flagsHelp (flags : List Flag) : String :=
  String.join ((flags.mergeSort fun a b => a.name ≤ b.name).map Flag.help)

/-- Why no flags could be read: help was asked for, or something is wrong. -/
inductive FlagStop where
  | help
  | wrong (message : String)
  deriving DecidableEq, Repr

/-- Values by the names of their flags, the latest first. -/
abbrev FlagValues := List (String × FlagValue)

namespace FlagValues

def text (vs : FlagValues) (flags : List Flag) (name : String) : String :=
  match vs.lookup name with
  | some (.text s) => s
  | _ =>
    match (flags.find? fun f => f.name = name).map Flag.kind with
    | some (.text s) => s
    | _ => ""

def switch (vs : FlagValues) (name : String) : Bool :=
  match vs.lookup name with
  | some (.switch b) => b
  | _ => false

def duration (vs : FlagValues) (name : String) : Duration :=
  match vs.lookup name with
  | some (.duration d) => d
  | _ => ⟨0⟩

end FlagValues

/-- What an argument is, where flags are still expected. -/
inductive Argument where
  | plain
  | endOfFlags
  | malformed
  | flag (name : String) (value : Option String)
  deriving DecidableEq, Repr

/-- The name of a flag and the value after its equals sign, which is never the first character. -/
def splitFlag (cs : List Char) : String × Option String :=
  match cs with
  | [] => ("", none)
  | c :: r =>
    let name := c :: r.takeWhile (· ≠ '=')
    match r.dropWhile (· ≠ '=') with
    | _ :: value => (String.ofList name, some (String.ofList value))
    | [] => (String.ofList name, none)

def Argument.ofText (s : String) : Argument :=
  match s.toList with
  | '-' :: r =>
    match r with
    | [] => .plain
    | ['-'] => .endOfFlags
    | '-' :: r' | r' =>
      match r' with
      | [] | '-' :: _ | '=' :: _ => .malformed
      | cs =>
        let (name, value) := splitFlag cs
        .flag name value
  | _ => .plain

/-- Reads flags from the front of the arguments; what is left comes with the values. -/
def parseFlags (flags : List Flag) : List String → FlagValues →
    Except FlagStop (FlagValues × List String)
  | [], vs => .ok (vs, [])
  | arg :: rest, vs =>
    match Argument.ofText arg with
    | .plain => .ok (vs, arg :: rest)
    | .endOfFlags => .ok (vs, rest)
    | .malformed => .error (.wrong ("bad flag syntax: " ++ arg))
    | .flag name value =>
      match flags.find? fun f => f.name = name with
      | none =>
        if name = "help" ∨ name = "h" then .error .help
        else .error (.wrong ("flag provided but not defined: -" ++ name))
      | some f =>
        let set (s : String) : Except FlagStop FlagValue :=
          match f.read s with
          | .ok v => .ok v
          | .error why => .error (.wrong why)
        match value, f.kind with
        | some s, _ =>
          match set s with
          | .ok v => parseFlags flags rest ((name, v) :: vs)
          | .error e => .error e
        | none, .switch => parseFlags flags rest ((name, .switch true) :: vs)
        | none, _ =>
          match rest with
          | [] => .error (.wrong ("flag needs an argument: -" ++ name))
          | s :: rest' =>
            match set s with
            | .ok v => parseFlags flags rest' ((name, v) :: vs)
            | .error e => .error e

end TapeWasm.Command
