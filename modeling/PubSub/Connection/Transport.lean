import PubSub.Connection.Delivery
import PubSub.Connection.Lifecycle

/-!
# The transport of a connection

How a frame reaches the outbound channel. The transport may react to a frame before it accepts it:
it may close the connection or its subscriptions, or feed an answer back. A gate in front of the
channel may bar the way of any frame.

## Main definitions

- `Gate` — which frames are barred, and when
- `Connection.offer`, `Connection.offerThrough` — a frame goes to the channel, past a gate
- `Connection.react`, `Connection.reactTo` — what a reaction does, over a given transport
- `Connection.transportAt`, `Connection.gated` — the transport with its reactions and a gate
- `Connection.transport` — the transport with its reactions

## Design notes

A reaction may send frames of its own, to which the transport reacts again. Every such frame
withdraws the interest of a subscription that was valid until then, so one level of nesting for each
subscription, and one for the first frame, is enough. A gate sees the whole connection, its journal
included, so it can bar any pattern of frames.
-/

namespace PubSub

/-- The error with which a frame is barred, if it is. -/
abbrev Gate := Outgoing → Connection → Option TransportError

/-- A gate that bars nothing. -/
def Gate.clear : Gate := fun _ _ => none

namespace Connection

/-- Offers a frame to the outbound channel. -/
def offer (o : Outgoing) (c : Connection) : Except TransportError Unit × Connection :=
  match c.outbound.send o with
  | .ok outbound => (.ok (), { c with outbound := outbound }.log (.offered o (.ok ())))
  | .error e => (.error e, c.log (.offered o (.error e)))

/-- Offers a frame to the outbound channel, past a gate. -/
def offerThrough (gate : Gate) (o : Outgoing) (c : Connection) :
    Except TransportError Unit × Connection :=
  match gate o c with
  | some e => (.error e, c.log (.offered o (.error e)))
  | none => c.offer o

/-- Closes every subscription that the application holds. -/
def closeHeld (t : Transport) (c : Connection) : Connection :=
  ((c.subscriptions.filter (·.held)).map (·.sid)).foldl (fun c sid => c.closeSubscription t sid) c

/-- What the transport does with a frame before accepting it; what came of it, if anything. -/
def react (t : Transport) (c : Connection) (frame : Frame) :
    Reaction.Deed → Option Reaction.Finding × Connection
  | .closeConnection => (some .done, c.close t)
  | .reply payload =>
    match frame with
    | .publish _ (some replyTo) _ =>
      let (taken, c) := c.processInbound { subject := replyTo, payload := payload }
      (some (.replied taken), c)
    | _ => (none, c)
  | .closeSubscriptions => (some (.held c.heldCount), c.closeHeld t)
  | .look => (some (.seen c.closed c.subscriptionCount c.pendingRequests), c)

/-- The connection when the transport has reacted to a frame, which it does if the handle it reacts
through still exists. -/
def reactTo (t : Transport) (reaction : Reaction) (o : Outgoing) (c : Connection) : Connection :=
  if c.opener ∈ c.handles then
    match c.react t o.frame reaction.deed with
    | (some finding, c) => c.log (.reacted o.frame.kind finding)
    | (none, c) => c
  else c

/-- The frame's way past a reaction: the transport reacts, and then refuses the frame or offers it to
the channel. -/
def sendReacting (gate : Gate) (t : Transport) (reaction : Reaction) (o : Outgoing)
    (c : Connection) : Except TransportError Unit × Connection :=
  let c := c.reactTo t reaction o
  match reaction.refusal with
  | some e => (.error e, c.log (.offered o (.error e)))
  | none => c.offerThrough gate o

/-- The transport that still reacts within `depth` nested reactions. -/
def transportAt (gate : Gate) : Nat → Transport
  | 0 => offerThrough gate
  | depth + 1 => fun o c =>
    match c.reaction? o.frame.kind with
    | none => c.offerThrough gate o
    | some reaction => c.sendReacting gate (transportAt gate depth) reaction o

/-- The transport of a connection, with a gate. -/
def gated (gate : Gate) : Transport := fun o c => transportAt gate (c.subscriptions.length + 1) o c

/-- The transport of a connection. -/
def transport : Transport := gated .clear

end Connection

end PubSub
