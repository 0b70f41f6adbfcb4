import TapeWasm.Text.BreakClass

/-!
Where visible characters end: clusters of characters that a reader takes for one, by the rules of
Unicode 15.
-/
namespace TapeWasm.Text

/-- What the characters of a cluster so far mean for the next character. -/
inductive Context where
  | plain
  | carriageReturn
  | control
  | prepended
  | leading
  | vowel
  | trailing
  | picture
  /-- A picture with a joiner after it. -/
  | joinedPicture
  | flagHalf
  | flag
  deriving DecidableEq, Repr

namespace Context

/-- The context behind one more character. -/
def after (k : Context) : BreakClass → Context
  | .carriageReturn => carriageReturn
  | .lineFeed | .control => control
  | .prepended => prepended
  | .leading => leading
  | .vowel | .openSyllable => vowel
  | .trailing | .closedSyllable => trailing
  | .picture => picture
  | .extend => if k = picture then picture else plain
  | .joiner => if k = picture then joinedPicture else plain
  | .flagHalf => if k = flagHalf then flag else flagHalf
  | .spacing | .other => plain

def joins : Context → BreakClass → Bool
  | carriageReturn, .lineFeed => true
  | carriageReturn, _ | control, _ => false
  | _, .carriageReturn | _, .lineFeed | _, .control => false
  | _, .extend | _, .joiner | _, .spacing => true
  | prepended, _ => true
  | leading, .leading | leading, .vowel | leading, .openSyllable | leading, .closedSyllable => true
  | vowel, .vowel | vowel, .trailing | trailing, .trailing => true
  | joinedPicture, .picture => true
  | flagHalf, .flagHalf => true
  | _, _ => false

end Context
end TapeWasm.Text
