/-!
# Reading bytes as text

Bytes that should be UTF-8, read so that a defect spoils no more than itself: each longest beginning
of a character that goes wrong becomes one replacement character.

## Main definitions

- `Text.decodeLossy` — the text of a byte string, defects replaced
- `Text.upperAscii` — a byte string with its ASCII letters in upper case
-/

namespace PubSub.Text

/-- How many bytes follow a first byte, and the bounds of the first of them. -/
def continuation (b : Nat) : Option (Nat × Nat × Nat) :=
  if 0xC2 ≤ b && b ≤ 0xDF then some (1, 0x80, 0xBF)
  else if b == 0xE0 then some (2, 0xA0, 0xBF)
  else if b == 0xED then some (2, 0x80, 0x9F)
  else if 0xE1 ≤ b && b ≤ 0xEF then some (2, 0x80, 0xBF)
  else if b == 0xF0 then some (3, 0x90, 0xBF)
  else if b == 0xF4 then some (3, 0x80, 0x8F)
  else if 0xF1 ≤ b && b ≤ 0xF3 then some (3, 0x80, 0xBF)
  else none

/-- The replacement for a defect. -/
def replacement : Char := Char.ofNat 0xFFFD

/-- A character that lacks some of its bytes. -/
structure Unfinished where
  value : Nat
  missing : Nat
  /-- The least value of the next byte. -/
  low : Nat
  /-- The greatest value of the next byte. -/
  high : Nat

/-- The text and the open character after a byte that begins something new. -/
def beginChar (out : List Char) (b : Nat) : List Char × Option Unfinished :=
  if b < 0x80 then (Char.ofNat b :: out, none)
  else
    match continuation b with
    | some (missing, low, high) => (out, some ⟨b % Nat.pow 2 (6 - missing), missing, low, high⟩)
    | none => (replacement :: out, none)

/-- The text, last character first, and the open character after one more byte. -/
def decodeByte : List Char × Option Unfinished → Nat → List Char × Option Unfinished
  | (out, none), b => beginChar out b
  | (out, some p), b =>
    if p.low ≤ b && b ≤ p.high then
      let value := p.value * 64 + b % 64
      if p.missing == 1 then (Char.ofNat value :: out, none)
      else (out, some ⟨value, p.missing - 1, 0x80, 0xBF⟩)
    else beginChar (replacement :: out) b

/-- The text of a byte string, with one replacement character for each defect. -/
def decodeLossy (bytes : ByteArray) : String :=
  match bytes.foldl (fun state b => decodeByte state b.toNat) ([], none) with
  | (out, none) => String.ofList out.reverse
  | (out, some _) => String.ofList (replacement :: out).reverse

/-- A byte with an ASCII letter in upper case. -/
def upperByte (b : UInt8) : UInt8 := if 0x61 ≤ b && b ≤ 0x7A then b - 0x20 else b

/-- A byte string with its ASCII letters in upper case. -/
def upperAscii (bytes : ByteArray) : ByteArray :=
  bytes.foldl (fun out b => out.push (upperByte b)) ByteArray.empty

end PubSub.Text
