import TapeWasm.Text.CombiningClass
import TapeWasm.Text.Decomposition

/-!
The composed normal form of texts: texts that look the same become the same. Letters with marks are
taken apart, the marks put in order, and everything put together again. Runs of marks are cut so
that none is longer than thirty.
-/
namespace TapeWasm.Text

/-- Characters without a combining class that still join the one before them. -/
def attachedRanges : Ranges :=
  [(0x9be, 0x9be), (0x9d7, 0x9d7), (0xb3e, 0xb3e), (0xb56, 0xb57), (0xbbe, 0xbbe), (0xbd7, 0xbd7),
   (0xcc2, 0xcc2), (0xcd5, 0xcd6), (0xd3e, 0xd3e), (0xd57, 0xd57), (0xdcf, 0xdcf), (0xddf, 0xddf),
   (0x102e, 0x102e), (0x1161, 0x1175), (0x11a7, 0x11c2), (0x1b35, 0x1b35), (0x11127, 0x11127),
   (0x1133e, 0x1133e), (0x11357, 0x11357), (0x114b0, 0x114b0), (0x114ba, 0x114ba),
   (0x114bd, 0x114bd), (0x115af, 0x115af), (0x11930, 0x11930)]

/-- Characters that look like a mark of their own kind and are counted as one. -/
def likeMarkRanges : Ranges :=
  [(0x3133, 0x3133), (0x3135, 0x3136), (0x313a, 0x313f), (0x314f, 0x3163), (0xff9e, 0xff9f),
   (0xffa3, 0xffa3), (0xffa5, 0xffa6), (0xffaa, 0xffaf), (0xffc2, 0xffc7), (0xffca, 0xffcf),
   (0xffd2, 0xffd7), (0xffda, 0xffdc)]

/-- Characters that look like a letter with so many marks behind it. -/
def likeMarkedRuns : List (Nat × Nat × Nat) :=
  [(0xa8, 0xa8, 1), (0xaf, 0xaf, 1), (0xb4, 0xb4, 1), (0xb8, 0xb8, 1), (0x1c4, 0x1c6, 1),
   (0x2d8, 0x2dd, 1), (0x37a, 0x37a, 1), (0x384, 0x384, 1), (0x385, 0x385, 2), (0xf77, 0xf77, 2),
   (0xf79, 0xf79, 2), (0x1fbd, 0x1fbd, 1), (0x1fbf, 0x1fc0, 1), (0x1fc1, 0x1fc1, 2),
   (0x1fcd, 0x1fcf, 2), (0x1fdd, 0x1fdf, 2), (0x1fed, 0x1fee, 2), (0x1ffd, 0x1ffe, 1),
   (0x2017, 0x2017, 1), (0x203e, 0x203e, 1), (0x309b, 0x309c, 1), (0x326e, 0x327e, 1),
   (0x3304, 0x3304, 1), (0x3307, 0x3307, 1), (0x3310, 0x3310, 1), (0x331e, 0x331e, 1),
   (0x3321, 0x3321, 1), (0x3332, 0x3332, 1), (0x333b, 0x333b, 1), (0x3340, 0x3340, 1),
   (0x334b, 0x334b, 1), (0x334e, 0x334e, 1), (0xfba4, 0xfba5, 1), (0xfbb0, 0xfbb1, 1),
   (0xfc5b, 0xfc5d, 1), (0xfc5e, 0xfc63, 2), (0xfc90, 0xfc90, 1), (0xfcd9, 0xfcd9, 1),
   (0xfcf2, 0xfcf4, 2), (0xfd3c, 0xfd3d, 1), (0xfe49, 0xfe4c, 1), (0xfe70, 0xfe72, 1),
   (0xfe74, 0xfe74, 1), (0xfe76, 0xfe7f, 1), (0xfe81, 0xfe8c, 1), (0xfef5, 0xfefa, 1),
   (0xffe3, 0xffe3, 1), (0x1f213, 0x1f213, 1)]

def isMark (n : Nat) : Bool :=
  combiningClass n != 0 || attachedRanges.contains n

def marksBefore (n : Nat) : Nat :=
  if n < 0x300 then 0
  else if likeMarkRanges.contains n then 1
  else ((decomposed n).takeWhile isMark).length

def marksBehind (n : Nat) : Nat :=
  if n < 0xa8 then 0
  else
    match likeMarkedRuns.find? fun (lo, hi, _) => lo ≤ n && n ≤ hi with
    | some (_, _, count) => count
    | none => ((decomposed n).reverse.takeWhile isMark).length

def maxMarks : Nat := 30

/-- Takes one more character, with a separator before it if the run of marks would be too long. The
text so far is reversed; the number counts its last marks. -/
def addSpaced : List Nat × Nat → Nat → List Nat × Nat
  | (acc, count), n =>
    let before := marksBefore n
    if maxMarks < count + before then (n :: 0x34f :: acc, before)
    else if before = 0 then (n :: acc, marksBehind n)
    else (n :: acc, count + before)

/-- The text with its runs of marks cut. -/
def spaced (ns : List Nat) : List Nat :=
  (ns.foldl addSpaced ([], 0)).1.reverse

/-- Puts a mark of a class to its place in a reversed text: behind the last character of no higher
class. -/
def insertMark (n k : Nat) : List Nat → List Nat
  | [] => [n]
  | m :: r => if k < combiningClass m then m :: insertMark n k r else n :: m :: r

def addOrdered (acc : List Nat) (n : Nat) : List Nat :=
  match combiningClass n with
  | 0 => n :: acc
  | k => insertMark n k acc

/-- The text with the marks of each letter in the order of their classes. -/
def ordered (ns : List Nat) : List Nat :=
  (ns.foldl addOrdered []).reverse

/-- A text on its way to be composed: what is finished, the letter that marks may still join, and the
marks behind it that did not. The lists are reversed. -/
structure Composing where
  finished : List Nat := []
  letter : Option Nat := none
  marks : List Nat := []

namespace Composing

def characters (s : Composing) : List Nat :=
  s.marks ++ s.letter.toList ++ s.finished

/-- Whether a mark that did not join keeps a character of this class away from the letter. -/
def isBlocked (s : Composing) (k : Nat) : Bool :=
  match s.marks with
  | [] => false
  | m :: _ => k ≤ combiningClass m

/-- Takes a character that does not join the letter. -/
def keep (s : Composing) (n k : Nat) : Composing :=
  if k = 0 then { finished := s.characters, letter := some n }
  else if s.letter.isNone then { s with finished := n :: s.finished }
  else { s with marks := n :: s.marks }

def add (s : Composing) (n : Nat) : Composing :=
  let k := combiningClass n
  match s.letter.bind fun letter => if s.isBlocked k then none else composite? letter n with
  | some whole => { s with letter := some whole }
  | none => s.keep n k

end Composing

/-- The text with every letter joined to the marks behind it, where there is a character for it. -/
def composed (ns : List Nat) : List Nat :=
  (ns.foldl Composing.add {}).characters.reverse

/-- The composed normal form of a text. -/
def normalForm (s : String) : String :=
  let ns := s.toList.map Char.toNat
  String.ofList ((composed (ordered ((spaced ns).flatMap decomposed))).map Char.ofNat)

end TapeWasm.Text
