import TapeWasm.Session
import TapeWasm.Text.Utf8

/-!
Plain fields, which are written into at the end only: no key moves about in them.
-/
namespace TapeWasm

structure Field where
  content : String := ""
  isFocused : Bool := false
  deriving DecidableEq, Repr

/-- Keys by what is on them, and keys that type a text. -/
inductive Stroke where
  | key (name : String)
  | typed (text : String)
  deriving DecidableEq, Repr

/-- A typed text has itself for a name. -/
def Stroke.name : Stroke → String
  | key name => name
  | typed text => text

namespace Field

/-- Control characters, which no field keeps. -/
def isControl (c : Char) : Bool :=
  c.toNat < 0x20 || (0x7f ≤ c.toNat && c.toNat < 0xa0)

/-- Text as a field keeps it, line ends and tabs having texts of their own. -/
def clean (lineEnd tab : List Char) (cs : List Char) : List Char :=
  cs.flatMap fun c =>
    if c = '\n' ∨ c = '\r' then lineEnd
    else if c = '\t' then tab
    else if isControl c ∨ c = '�' then []
    else [c]

/-- The most lines that a program can have, and can get by the enter key. -/
def maxLines : Nat := 10000
def maxEnteredLines : Nat := 99

def lineCount (content : String) : Nat :=
  content.toList.count '\n' + 1

/-- Of some lines, those that still fit behind a text. -/
def fittingLines (content : String) (lines : List Char) : String :=
  let given := Text.splitLines lines []
  if lineCount content + given.length - 1 ≤ maxLines then String.ofList lines
  else "\n".intercalate ((given.take (maxLines + 1 - lineCount content)).map String.ofList)

/-- Typed text in the field for programs, which has many lines. -/
def addLines (f : Field) (cs : List Char) : Field :=
  { f with content :=
      f.content ++ fittingLines f.content (clean ['\n'] [' ', ' ', ' ', ' '] cs) }

/-- Typed text in the field for input, which has one line. -/
def addLine (f : Field) (cs : List Char) : Field :=
  { f with content := f.content ++ String.ofList (clean [' '] [' '] cs) }

def eraseLast (f : Field) : Field :=
  { f with content := String.ofList f.content.toList.dropLast }

def takeProgram (f : Field) : Stroke → Field
  | .key "enter" =>
    if maxEnteredLines ≤ lineCount f.content then f else { f with content := f.content ++ "\n" }
  | .key "backspace" => f.eraseLast
  | .key _ => f
  | .typed text => f.addLines text.toList

def takeInput (f : Field) : Stroke → Field
  | .key "backspace" => f.eraseLast
  | .key _ => f
  | .typed text => f.addLine text.toList

/-- A field is a widget by what strokes do to it; without the focus it takes none. -/
def widget (take : Field → Stroke → Field) : Widget Stroke Field where
  text f := Bytes.ofString f.content
  isFocused f := f.isFocused
  focus f := { f with isFocused := true }
  blur f := { f with isFocused := false }
  take f m := if f.isFocused then { take f m with isFocused := true } else f

end Field

def Screen.plain : Screen Stroke Field Field where
  keyName? m := some m.name
  program := Field.widget Field.takeProgram
  input := Field.widget Field.takeInput
  openProgram b :=
    Field.addLines {} ((Text.glyphs b).filterMap fun
      | .char c => some c
      | .stray _ => none)
  openInput := {}

end TapeWasm
