import PubSub.CommandLine

/-!
# Spellings of options

How an option and its value can stand on a line of arguments.

## Main definitions

- `CommandLine.Field.name`, `CommandLine.Field.letter?` — the names of an option
- `CommandLine.Spelling` — the ways to write an option, and `Spelling.arguments` for a value
- `CommandLine.Given` — an option with a number that a value can have
- `CommandLine.line` — the arguments for a list of options
- `CommandLine.given?` — the number that a list of options gives for one of them
-/

namespace PubSub.CommandLine

/-- The long name of an option. -/
def Field.name : Field → String
  | messages => "messages"
  | max => "max"
  | timeout => "timeout-ms"

/-- The letter that stands for an option, if there is one. -/
def Field.letter? : Field → Option Char
  | messages => some 'm'
  | max => none
  | timeout => some 't'

/-- A way to write an option and its value. -/
inductive Spelling (field : Field) where
  /-- The value is the next argument. -/
  | longSeparate
  /-- The value follows an equals sign. -/
  | longJoined
  | shortSeparate (letter : Char) (h : field.letter? = some letter)
  /-- The value follows the letter. -/
  | shortAttached (letter : Char) (h : field.letter? = some letter)
  | shortJoined (letter : Char) (h : field.letter? = some letter)

/-- The arguments that give an option a value. -/
def Spelling.arguments {field : Field} (value : String) : Spelling field → List String
  | longSeparate => ["--" ++ field.name, value]
  | longJoined => ["--" ++ field.name ++ "=" ++ value]
  | shortSeparate letter _ => ["-" ++ letter.toString, value]
  | shortAttached letter _ => ["-" ++ letter.toString ++ value]
  | shortJoined letter _ => ["-" ++ letter.toString ++ "=" ++ value]

/-- An option with a number that a value can have. -/
structure Given where
  field : Field
  spelling : Spelling field
  value : Nat
  value_le : value ≤ greatest := by decide

/-- The arguments of an option, its number written in decimal. -/
def Given.arguments (g : Given) : List String := g.spelling.arguments (toString g.value)

/-- The arguments for a list of options. -/
def line (options : List Given) : List String := options.flatMap Given.arguments

/-- The number that a list of options gives for one of them. -/
def given? (options : List Given) (field : Field) : Option Nat :=
  (options.find? (·.field = field)).map (·.value)

end PubSub.CommandLine
