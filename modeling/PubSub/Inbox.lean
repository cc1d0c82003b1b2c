import PubSub.Subject

/-!
# Inboxes

The reply subjects of one connection: a common beginning, made of a prefix and a token of the
connection's own, followed by the number of the request.

## Main definitions

- `Inbox` — the beginning and how many subjects were handed out
- `Inbox.next` — the next unused reply subject
- `Inbox.wildcard` — the pattern that covers all of them
- `Inbox.owns` — whether a subject begins like one of them
-/

namespace PubSub

/-- The reply subjects of one connection. -/
structure Inbox where
  /-- What every subject begins with, the final dot included. -/
  base : String
  issued : Nat := 0
  deriving DecidableEq

namespace Inbox

/-- The inbox for a prefix and a token that no other connection has. -/
def create (start token : String) : Inbox := { base := start ++ "." ++ token ++ "." }

/-- The `n`-th reply subject; the first has number one. -/
def subject (inbox : Inbox) (n : Nat) : String := inbox.base ++ toString n

/-- Hands out the next unused reply subject. -/
def next (inbox : Inbox) : String × Inbox :=
  (inbox.subject (inbox.issued + 1), { inbox with issued := inbox.issued + 1 })

/-- The pattern that covers every reply subject. -/
def wildcard (inbox : Inbox) : String := inbox.base ++ "*"

/-- Whether a subject begins like one of this inbox. -/
def owns (inbox : Inbox) (s : String) : Bool :=
  (Subject.afterStem inbox.base.toList s.toList).isSome

theorem owns_iff {inbox : Inbox} {s : String} :
    inbox.owns s = true ↔ ∃ rest, s.toList = inbox.base.toList ++ rest := by
  simp [owns, Option.isSome_iff_exists, Subject.afterStem_eq_some_iff]

/-- Every subject of an inbox is owned by it. -/
theorem owns_subject (inbox : Inbox) (n : Nat) : inbox.owns (inbox.subject n) = true :=
  owns_iff.2 ⟨(toString n).toList, by simp [subject]⟩

/-- Handing subjects out keeps their common beginning. -/
@[simp] theorem base_next (inbox : Inbox) : inbox.next.2.base = inbox.base := rfl

end Inbox

end PubSub
