import PubSub.Inbox

/-!
# What inboxes hand out

## Main definitions

- `Inbox.IsToken` — a text that can tell one inbox from others
- `Inbox.handedOut` — the reply subjects that a number of calls hand out
-/

namespace PubSub.Inbox

/-- Thirty-two hexadecimal digits. -/
def IsToken (token : String) : Prop :=
  token.length = 32 ∧ ∀ c ∈ token.toList, c ∈ "0123456789abcdefABCDEF".toList

instance (token : String) : Decidable (IsToken token) := inferInstanceAs (Decidable (_ ∧ _))

/-- The reply subjects that `n` calls hand out, one after the other. -/
def handedOut (inbox : Inbox) : Nat → List String
  | 0 => []
  | n + 1 => inbox.next.1 :: inbox.next.2.handedOut n

end PubSub.Inbox
