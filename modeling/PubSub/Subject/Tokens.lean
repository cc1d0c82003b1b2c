import PubSub.Subject

/-!
# Tokens

The dots of a subject divide it into tokens.

## Main definitions

- `Subject.tokens` — the tokens of a subject or of a pattern
- `Subject.TokenCovers` — the last token of a pattern stands for a last token of a subject
-/

namespace PubSub.Subject

/-- The tokens of a subject; without a dot there is one, and two dots in a row have an empty one
between them. -/
def tokens (s : String) : List (List Char) := s.toList.splitOn '.'

/-- A token stands for itself, and one that ends in a star for whatever begins as it does up to the
star and goes on from there. -/
def TokenCovers (p t : List Char) : Prop :=
  p = t ∨ ∃ stem rest, p = stem ++ ['*'] ∧ rest ≠ [] ∧ t = stem ++ rest

end PubSub.Subject
