import TapeWasm.Settings
import TapeWasm.Settings.Document
import TapeWasm.Settings.Expr.Evaluate

/-!
Reading settings from a file: the document, the settings in it, then the check of all settings
together.
-/
namespace TapeWasm.Settings

namespace Expr

/-- An expression where a text is wanted; numbers and truth values have one. -/
def asText? (e : Expr) : Option String :=
  (e.value?.bind (·.convert? .text)).bind Value.text?

/-- An expression where a list of texts is wanted; no value means no list. -/
def asTexts? (e : Expr) : Option (Option (List String)) :=
  match e.value?.bind (·.convert? (.list .text)) with
  | some (.null _) => some none
  | some (.list _ vs) => (vs.mapM Value.text?).map some
  | _ => none

/-- An expression where a word of 32 bits is wanted; a text may hold the number. -/
def asWord? (e : Expr) : Option UInt32 :=
  match e.value?.bind (·.convert? .number) with
  | some (.number x) => (x.below? UInt32.size).map UInt32.ofNat
  | _ => none

end Expr

/-- Reads a body that holds attributes only, each into a record. -/
def attributes (set : String → Expr → α → Option α) : List Item → α → Option α
  | [], a => some a
  | .attribute name e :: r, a =>
    match set name e a with
    | some a' => attributes set r a'
    | none => none
  | .block _ _ _ :: _, _ => none

def setOptimizer (name : String) (e : Expr) (s : OptimizerSettings) : Option OptimizerSettings :=
  match name with
  | "kind" => e.asText?.map fun kind => { s with kind }
  | "path" => e.asText?.map fun path => { s with path }
  | "flags" => e.asTexts?.map fun flags => { s with flags }
  | "temp_dir" => e.asText?.map fun tempDir => { s with tempDir }
  | _ => none

def setEngine (name : String) (e : Expr) (s : EngineSettings) : Option EngineSettings :=
  match name with
  | "strategy" => e.asText?.map fun strategy => { s with strategy }
  | "cache_dir" => e.asText?.map fun cacheDir => { s with cacheDir }
  | "memory_limit_pages" => e.asWord?.map fun memoryLimitPages => { s with memoryLimitPages }
  | _ => none

def setLog (name : String) (e : Expr) (s : LogSettings) : Option LogSettings :=
  match name with
  | "level" => e.asText?.map fun level => { s with level }
  | "format" => e.asText?.map fun format => { s with format }
  | _ => none

def setItem (item : Item) (s : Settings) : Option Settings :=
  match item with
  | .attribute "target" e => e.asText?.map fun target => { s with target }
  | .block "optimizer" false items =>
    (attributes setOptimizer items {}).map fun optimizer => { s with optimizer }
  | .block "engine" false items =>
    (attributes setEngine items {}).map fun engine => { s with engine }
  | .block "log" false items => (attributes setLog items {}).map fun log => { s with log }
  | _ => none

/-- The settings given in a document. No block comes twice. -/
def fromItems? : List Item → List String → Settings → Option Settings
  | [], _, s => some s
  | item :: r, seen, s =>
    match setItem item s with
    | none => none
    | some s' =>
      match item with
      | .attribute _ _ => fromItems? r seen s'
      | .block name _ _ => if seen.contains name then none else fromItems? r (name :: seen) s'

/-- Which half of reading a document failed, and what is said about it. -/
structure Diagnosis where
  stage : String
  text : String
  deriving DecidableEq, Repr

/-- What finds the settings given in a document. -/
abbrev DocumentReader := Bytes → Except Diagnosis Settings

/-- The reader for this format of documents. Where a document is wrong it does not say. -/
def readDocument : DocumentReader := fun source =>
  match Document.parse? source with
  | none => .error ⟨"parse", "unusable settings"⟩
  | some items =>
    match fromItems? items [] {} with
    | none => .error ⟨"decode", "unusable settings"⟩
    | some given => .ok given

def Diagnosis.fault (d : Diagnosis) (file : String) : Fault :=
  .stage
    { phase := Phase.config
      kind := Kind.invalidInput
      file
      detail := "failed to " ++ d.stage ++ " HCL: " ++ d.text } none

def inSettingsFile (file : String) : Fault → Fault
  | .stage label cause => .stage { label with file } cause
  | f => f

def parse (reader : DocumentReader) (source : Bytes) (file : String) : Except Fault Settings :=
  match reader source with
  | .error d => .error (d.fault file)
  | .ok given =>
    let s := default.withGiven given
    match s.validate with
    | .ok () => .ok s
    | .error f => .error (inSettingsFile file f)

end TapeWasm.Settings
