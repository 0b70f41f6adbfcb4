import TapeWasm.Bytes

/-!
Control sequences in a text that goes to a terminal: which bytes a terminal takes as orders and does
not show.
-/
namespace TapeWasm.Text

/-- Where a terminal stands in a control sequence. -/
inductive ControlState where
  | ground
  | escape
  /-- Behind an intermediate byte of an escape sequence. -/
  | escapeTail
  /-- Among the parameters of a control sequence. -/
  | sequence
  | sequenceTail
  /-- In a command to the operating system, which may hold any text. -/
  | command
  /-- In a string that only other programs look at. -/
  | string
  /-- At the start of a string for the device. -/
  | device
  | deviceParameters
  | deviceTail
  | deviceString
  deriving DecidableEq, Repr

namespace ControlState

/-- Whether the bytes of any character, not only those of ASCII, belong to the sequence. -/
def holdsText : ControlState → Bool
  | command | deviceString => true
  | _ => false

/-- What a byte above ASCII starts where no text is held. -/
def introducedBy (n : Nat) : ControlState :=
  if n = 0x90 then device
  else if n = 0x9b then sequence
  else if n = 0x9d then command
  else if n = 0x98 ∨ n = 0x9e ∨ n = 0x9f then string
  else ground

/-- What the byte behind an escape starts. -/
def escapedBy (n : Nat) : ControlState :=
  if n < 0x30 then escapeTail
  else if n = 0x50 then device
  else if n = 0x5b then sequence
  else if n = 0x5d then command
  else if n = 0x58 ∨ n = 0x5e ∨ n = 0x5f then string
  else ground

/-- A byte of ASCII, no escape and no cancel, where no text is held. -/
def stepAscii (s : ControlState) (n : Nat) : ControlState :=
  let isControl := n < 0x20 ∨ n = 0x7f
  match s with
  | escape => if isControl then s else escapedBy n
  | escapeTail => if isControl ∨ n < 0x30 then s else ground
  | sequence => if isControl then s else if n < 0x30 then sequenceTail else if n < 0x40 then s else ground
  | sequenceTail => if isControl ∨ n < 0x30 then s else ground
  | device =>
    if 0x08 ≤ n ∧ n ≤ 0x0d then deviceString
    else if isControl then s
    else if n < 0x30 then deviceTail
    else if n < 0x40 then deviceParameters
    else deviceString
  | deviceParameters =>
    if isControl then s else if n < 0x30 then deviceTail else if n < 0x40 then s else deviceString
  | deviceTail => if isControl ∨ n < 0x30 then s else deviceString
  | ground | command | string | deviceString => s

/-- Takes one more byte. Cancel and substitute end every sequence, an escape starts a new one. -/
def step (s : ControlState) (b : UInt8) : ControlState :=
  let n := b.toNat
  if n = 0x18 ∨ n = 0x1a then ground
  else if n = 0x1b then if s = device then deviceString else escape
  else if s.holdsText then
    if n = 0x9c ∨ s = command ∧ n = 0x07 then ground else s
  else if 0x80 ≤ n then introducedBy n
  else stepAscii s n

@[simp] theorem step_cancel (s : ControlState) : s.step 0x18 = ground := rfl

end ControlState
end TapeWasm.Text
