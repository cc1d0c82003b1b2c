import PubSub.Connection.Isolation
import PubSub.Connection.Story

/-!
# Parts of a connection

A connection seen from one of its subscriptions, or from its desk, where requests are dealt with: only
what concerns that part is left of it. Counts and the outbound channel concern all parts and are left
out.

## Main definitions

- `Part` — one subscription, or the desk
- `Part.holds`, `Part.hears` — the subscriptions and the events that concern a part
- `Subscription.seen` — a subscription without the order in which its workers line up
- `Connection.within` — what is left of a connection
- `Connection.Alike` — two connections of which the same is left

## Design notes

At most one worker of a subscription was not told to end, so it does not matter whether a worker that
waits for the receiving end has lined up for it yet, and one that was told to end has as good as ended.
-/

namespace PubSub

/-- A part of a connection. -/
inductive Part where
  | subscription (sid : Sid)
  /-- Where requests are dealt with. -/
  | desk

/-- The subscription that an event is about, or the frame that it is about. -/
def Event.about? : Event → Option Sid
  | .offered o _ => o.frame.sid?
  | e => e.sid?

namespace Part

/-- Whether the subscription with a number belongs to the part. -/
def holds : Part → Sid → Bool
  | .subscription sid, other => other == sid
  | .desk, _ => false

/-- The first of some subscriptions that belongs to the part. -/
def find? (part : Part) (l : List Subscription) : Option Subscription :=
  match part with
  | .subscription sid => l.find? (·.sid == sid)
  | .desk => none

/-- Whether an event concerns the part. -/
def hears (part : Part) (e : Event) : Bool := e.about?.any part.holds

/-- What of a registry concerns the part. -/
def registry : Part → Registry → Registry
  | .subscription _, _ => {}
  | .desk, reg => reg

/-- What of the sweeper concerns the part; all workers look at its stop sign. -/
def sweeper : Part → Sweeper → Sweeper
  | .subscription _, sw => { sw with phase := .planning }
  | .desk, sw => sw

end Part

/-- The worker without whether it has lined up yet. -/
def Worker.seen (w : Worker) : Worker :=
  match w.phase with
  | .starting | .waiting => { w with phase := if w.cancelled then .finished else .starting }
  | .receiving | .handling _ | .finished => w

/-- The subscription without the order in which its workers line up. -/
def Subscription.seen (s : Subscription) : Subscription :=
  { s with workers := s.workers.map Worker.seen }

namespace Connection

/-- What is left of a connection when only one part of it is looked at. -/
def within (c : Connection) (part : Part) : Connection :=
  { c with
    registry := part.registry c.registry
    sweeper := part.sweeper c.sweeper
    subscriptions := ((part.find? c.subscriptions).map Subscription.seen).toList
    table := c.table.filter part.holds
    outbound := Outbound.ofCapacity 0
    counts := {}
    journal := c.journal.filter part.hears
    eventCount := (c.journal.filter part.hears).length }

/-- Two connections of which the same is left when only one part is looked at. -/
def Alike (part : Part) (c d : Connection) : Prop := c.within part = d.within part

end Connection

end PubSub
