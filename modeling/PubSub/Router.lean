import PubSub.Frame
import PubSub.Subject

/-!
# Loopback routing

A router that plays the server for a single client: it remembers who listens to what and feeds
published frames back as messages.

## Main definitions

- `Router` — the interest it knows of
- `Router.route` — what becomes of one frame

## Design notes

Interest is kept by subject, and a later announcement of the same subject replaces the earlier one.
A withdrawal that is limited to further messages is left to the client. A request that nobody
listens to is answered by the signal for that.
-/

namespace PubSub

/-- What a loopback router knows. -/
structure Router where
  /-- Who listens to each subject. -/
  interest : List (String × Sid) := []

namespace Router

/-- Remembers that `sid` listens to a subject. -/
def learn (r : Router) (subject : String) (sid : Sid) : Router :=
  { r with interest := r.interest.filter (·.1 != subject) ++ [(subject, sid)] }

/-- Forgets whatever `sid` listens to. -/
def forget (r : Router) (sid : Sid) : Router :=
  { r with interest := r.interest.filter (·.2 != sid) }

/-- Somebody who listens to a subject. -/
def listener? (r : Router) (subject : String) : Option Sid :=
  (r.interest.find? fun entry => Subject.matchesPattern entry.1 subject).map (·.2)

/-- What the router learns from a frame, and the message it feeds back. -/
def route (r : Router) : Frame → Option Message × Router
  | .subscribe sid subject _ => (none, r.learn subject sid)
  | .unsubscribe sid none => (none, r.forget sid)
  | .unsubscribe _ (some _) => (none, r)
  | .publish subject replyTo payload =>
    match r.listener? subject with
    | some sid => (some { subject, sid, replyTo, payload }, r)
    | none => (replyTo.map Message.noResponders, r)

end Router

end PubSub
