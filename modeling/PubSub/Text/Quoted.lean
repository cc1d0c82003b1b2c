import PubSub.Text.Printable

/-!
# Quoted text

How texts, optional values and byte strings are shown inside messages: between double quotes, with
escapes for what a reader could not see.

## Main definitions

- `Text.quote` — a text between double quotes
- `Text.quoteBytes` — a byte string between double quotes, marked by a leading `b`
- `Text.showOption` — an optional value as `None` or `Some(…)`

## Design notes

A quoted text escapes the double quote, the backslash, tab, carriage return, line feed and NUL by a
letter of their own, and every other character that is not printable by its code point in
hexadecimal between braces. A quoted byte string escapes the same bytes by letter and every other
byte outside printable ASCII by two hexadecimal digits.
-/

namespace PubSub.Text

/-- The digits of a number in base sixteen, in lower case and without padding. -/
def hex (n : Nat) : String := String.ofList (Nat.toDigits 16 n)

/-- A byte as exactly two lower-case hexadecimal digits. -/
def hexByte (b : UInt8) : String :=
  String.ofList [Nat.digitChar (b.toNat / 16), Nat.digitChar (b.toNat % 16)]

/-- The form of one character inside a quoted text. -/
def quoteChar (c : Char) : String :=
  match c with
  | '"' => "\\\""
  | '\\' => "\\\\"
  | '\t' => "\\t"
  | '\r' => "\\r"
  | '\n' => "\\n"
  | '\x00' => "\\0"
  | c => if isPrintable c then c.toString else "\\u\x7b" ++ hex c.toNat ++ "\x7d"

/-- A text between double quotes, with its invisible characters escaped. -/
def quote (s : String) : String := "\"" ++ s.foldl (fun out c => out ++ quoteChar c) "" ++ "\""

/-- The form of one byte inside a quoted byte string. -/
def quoteByte (b : UInt8) : String :=
  if b == 0x22 then "\\\""
  else if b == 0x5C then "\\\\"
  else if b == 0x09 then "\\t"
  else if b == 0x0D then "\\r"
  else if b == 0x0A then "\\n"
  else if b == 0x00 then "\\0"
  else if 0x20 ≤ b && b < 0x7F then (Char.ofNat b.toNat).toString
  else "\\x" ++ hexByte b

/-- A byte string between double quotes, marked by a leading `b`. -/
def quoteBytes (bytes : ByteArray) : String :=
  "b\"" ++ bytes.foldl (fun out b => out ++ quoteByte b) "" ++ "\""

/-- An optional value, shown as `None` or `Some(…)` around its own form. -/
def showOption {α : Type} (form : α → String) : Option α → String
  | none => "None"
  | some a => "Some(" ++ form a ++ ")"

/-- An optional text, quoted when present. -/
def quoteOption (s : Option String) : String := showOption quote s

end PubSub.Text
