import PubSub.Connection.Basic

/-!
# Inbound messages

How a message that arrived finds its way to a queue or to a request. None of this sends a frame or
runs a handler.

## Main definitions

- `Connection.deliverTo` — into the queue of a given subscription
- `Connection.deliver` — by number, through the table
- `Connection.resolveReply` — to the request that waits under a key
- `Connection.processInbound` — by subject or by number
-/

namespace PubSub.Connection

/-- Puts a message into the queue of a subscription; whether it was accepted. -/
def deliverTo (c : Connection) (s : Subscription) (m : Message) : Bool × Connection :=
  if !s.valid then (false, c.drop s.sid m .noSubscription)
  else
    match s.enqueue m with
    | some s' => (true, (c.modifySubscription s.sid fun _ => s').log (.accepted s.sid m))
    | none => (false, c.drop s.sid m .queueClosed)

/-- Routes a message to the live subscription with a number; whether it was accepted. -/
def deliver (c : Connection) (sid : Sid) (m : Message) : Bool × Connection :=
  match c.lookup sid with
  | some s => c.deliverTo s m
  | none => (false, c.drop sid m .noSubscription)

/-- Resolves the request that waits under a key; whether one did. -/
def resolveReply (c : Connection) (key : String) (m : Message) : Bool × Connection :=
  let (won, registry) := c.registry.resolveReply key m
  (won, { c with registry := registry })

/-- Routes a message: one on a reply subject of this connection to its request, any other to the
subscription it names. -/
def processInbound (c : Connection) (m : Message) : Bool × Connection :=
  if c.inbox.owns m.subject then c.resolveReply m.subject m else c.deliver m.sid m

end PubSub.Connection
