import PubSub.Message

/-!
# Outbound frames

What a connection says to its server.

## Main definitions

- `Frame` — announce interest, withdraw it, or publish
- `Frame.Kind` — which of the three a frame is
- `Outgoing` — a frame on its way, with the subscription on whose behalf it was sent
-/

namespace PubSub

/-- One operation for the server. -/
inductive Frame where
  | subscribe (sid : Sid) (subject : String) (queueGroup : Option String)
  /-- Withdraw the interest of `sid`, perhaps only after `max` further messages. -/
  | unsubscribe (sid : Sid) (max : Option Nat)
  | publish (subject : String) (replyTo : Option String) (payload : ByteArray)
  deriving DecidableEq

/-- The three sorts of frames. -/
inductive Frame.Kind where
  | subscribe
  | unsubscribe
  | publish
  deriving DecidableEq

/-- Which sort a frame is. -/
def Frame.kind : Frame → Frame.Kind
  | .subscribe .. => .subscribe
  | .unsubscribe .. => .unsubscribe
  | .publish .. => .publish

/-- A frame on its way to the server. -/
structure Outgoing where
  frame : Frame
  /-- The subscription whose message a handler was working on when it published. -/
  onBehalfOf : Option Sid := none
  deriving DecidableEq

/-- The subscription that a frame belongs to: the one it names, or the one it was sent for. -/
def Outgoing.source (o : Outgoing) : Option Sid :=
  match o.frame with
  | .subscribe sid .. => some sid
  | .unsubscribe sid _ => some sid
  | .publish .. => o.onBehalfOf

end PubSub
