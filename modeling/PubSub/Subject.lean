import PubSub.Text.WhiteSpace

/-!
# Subjects

Subjects are dotted names. A pattern is a subject, or one whose last character is a star that
stands for the rest of one final token.

## Main definitions

- `Subject.isValid` — a subject that may be sent: not empty, no white space
- `Subject.afterStem` — what follows a given beginning
- `Subject.matchesPattern` — whether a pattern covers a subject
-/

namespace PubSub.Subject

/-- A subject that may be sent: not empty and without white space. -/
def isValid (s : String) : Bool := Text.isWord s

/-- What follows `stem` in `s`, when `s` begins with it. -/
def afterStem : (stem s : List Char) → Option (List Char)
  | [], s => some s
  | _ :: _, [] => none
  | a :: stem, b :: s => if a = b then afterStem stem s else none

/-- Whether `pattern` covers `subject`: a final star stands for one or more characters of the last
token, and a pattern without one covers itself alone. -/
def matchesPattern (pattern subject : String) : Bool :=
  match pattern.toList.getLast? with
  | some '*' =>
    match afterStem pattern.toList.dropLast subject.toList with
    | some rest => !rest.isEmpty && !rest.contains '.'
    | none => false
  | _ => pattern == subject

theorem afterStem_eq_some_iff {stem s rest : List Char} :
    afterStem stem s = some rest ↔ s = stem ++ rest := by
  induction stem generalizing s with
  | nil => simp [afterStem]
  | cons a stem ih =>
    cases s with
    | nil => simp [afterStem]
    | cons b s =>
      by_cases h : a = b
      · subst h; simp [afterStem, ih]
      · simp [afterStem, h, Ne.symm h]

end PubSub.Subject
