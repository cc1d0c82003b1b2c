/-!
# Metrics

What a client counts: messages delivered and dropped, handler failures, requests outstanding and
resolved, connections in use.

## Main definitions

- `Gauge` — a value that goes up and down, and remembers that it was used
- `DropReason`, `FailureKind`, `Resolution` — what the labelled counters distinguish
- `RequestCounts`, `DeliveryCounts` — the metrics of a registry and of a set of subscriptions
- `Metrics.report` — every metric touched, under its public name, sorted by name

## Design notes

A gauge counts its rises and falls apart; its value is their difference. A metric is reported once
it was touched, even when its value is back at zero.
-/

namespace PubSub

/-- A value that rises and falls by one. -/
structure Gauge where
  rises : Nat := 0
  falls : Nat := 0
  deriving DecidableEq

namespace Gauge

/-- One up. -/
def rise (g : Gauge) : Gauge := { g with rises := g.rises + 1 }

/-- One down. -/
def fall (g : Gauge) : Gauge := { g with falls := g.falls + 1 }

/-- The current value. -/
def value (g : Gauge) : Int := (g.rises : Int) - g.falls

/-- Whether it was ever used. -/
def isTouched (g : Gauge) : Bool := 0 < g.rises || 0 < g.falls

/-- Two gauges taken together. -/
def add (a b : Gauge) : Gauge := ⟨a.rises + b.rises, a.falls + b.falls⟩

@[simp] theorem value_rise (g : Gauge) : g.rise.value = g.value + 1 := by
  simp only [value, rise]; omega

@[simp] theorem value_fall (g : Gauge) : g.fall.value = g.value - 1 := by
  simp only [value, fall]; omega

end Gauge

/-- Why an inbound message never reached a handler. -/
inductive DropReason where
  | noSubscription
  | noHandler
  | queueClosed
  deriving DecidableEq

/-- How a handler failed. -/
inductive FailureKind where
  | error
  | panic
  deriving DecidableEq

/-- The word for a kind of failure. -/
def FailureKind.word : FailureKind → String
  | error => "error"
  | panic => "panic"

/-- How a request was resolved. -/
inductive Resolution where
  | fulfilled
  | closing
  | timedOut
  | noResponders
  deriving DecidableEq

/-- The label of a resolution. -/
def Resolution.label : Resolution → String
  | fulfilled => "fulfilled"
  | closing => "cancelled_closing"
  | timedOut => "cancelled_timed_out"
  | noResponders => "no_responders"

/-- The metrics of a registry of requests. -/
structure RequestCounts where
  outstanding : Gauge := {}
  fulfilled : Nat := 0
  closing : Nat := 0
  timedOut : Nat := 0
  noResponders : Nat := 0
  deriving DecidableEq

namespace RequestCounts

/-- Counts one resolution. -/
def resolved (c : RequestCounts) : Resolution → RequestCounts
  | .fulfilled => { c with fulfilled := c.fulfilled + 1 }
  | .closing => { c with closing := c.closing + 1 }
  | .timedOut => { c with timedOut := c.timedOut + 1 }
  | .noResponders => { c with noResponders := c.noResponders + 1 }

/-- One more request waits. -/
def entered (c : RequestCounts) : RequestCounts := { c with outstanding := c.outstanding.rise }

/-- One request less waits. -/
def left (c : RequestCounts) : RequestCounts := { c with outstanding := c.outstanding.fall }

/-- How many requests were resolved in a given way. -/
def count (c : RequestCounts) : Resolution → Nat
  | .fulfilled => c.fulfilled
  | .closing => c.closing
  | .timedOut => c.timedOut
  | .noResponders => c.noResponders

/-- Two sets of counts taken together. -/
def add (a b : RequestCounts) : RequestCounts where
  outstanding := a.outstanding.add b.outstanding
  fulfilled := a.fulfilled + b.fulfilled
  closing := a.closing + b.closing
  timedOut := a.timedOut + b.timedOut
  noResponders := a.noResponders + b.noResponders

end RequestCounts

/-- The metrics of message delivery. -/
structure DeliveryCounts where
  delivered : Nat := 0
  noSubscription : Nat := 0
  noHandler : Nat := 0
  queueClosed : Nat := 0
  errors : Nat := 0
  panics : Nat := 0
  deriving DecidableEq

namespace DeliveryCounts

/-- Counts one message that never reached a handler. -/
def dropped (c : DeliveryCounts) : DropReason → DeliveryCounts
  | .noSubscription => { c with noSubscription := c.noSubscription + 1 }
  | .noHandler => { c with noHandler := c.noHandler + 1 }
  | .queueClosed => { c with queueClosed := c.queueClosed + 1 }

/-- Counts one message handed to a handler. -/
def handed (c : DeliveryCounts) : DeliveryCounts := { c with delivered := c.delivered + 1 }

/-- Counts one failed handler invocation. -/
def failed (c : DeliveryCounts) : FailureKind → DeliveryCounts
  | .error => { c with errors := c.errors + 1 }
  | .panic => { c with panics := c.panics + 1 }

/-- Two sets of counts taken together. -/
def add (a b : DeliveryCounts) : DeliveryCounts where
  delivered := a.delivered + b.delivered
  noSubscription := a.noSubscription + b.noSubscription
  noHandler := a.noHandler + b.noHandler
  queueClosed := a.queueClosed + b.queueClosed
  errors := a.errors + b.errors
  panics := a.panics + b.panics

end DeliveryCounts

/-- All metrics of a client. -/
structure Metrics where
  connections : Gauge := {}
  deliveries : DeliveryCounts := {}
  requests : RequestCounts := {}
  deriving DecidableEq

namespace Metrics

/-- Two sets of metrics taken together. -/
def add (a b : Metrics) : Metrics where
  connections := a.connections.add b.connections
  deliveries := a.deliveries.add b.deliveries
  requests := a.requests.add b.requests

/-- The public name of a metric, with its label if it has one. -/
def nameOf (stem : String) (label : Option (String × String)) : String :=
  match label with
  | none => "streamlink_" ++ stem
  | some (key, value) => "streamlink_" ++ stem ++ "\x7b" ++ key ++ "=" ++ value ++ "\x7d"

/-- A gauge under its name, if it was used. -/
def gaugeEntry (stem : String) (g : Gauge) : Option (String × Int) :=
  if g.isTouched then some (nameOf stem none, g.value) else none

/-- A counter under its name, if it was used. -/
def counterEntry (stem : String) (label : Option (String × String)) (n : Nat) :
    Option (String × Int) :=
  if n = 0 then none else some (nameOf stem label, n)

/-- Every metric touched, sorted by name. -/
def report (m : Metrics) : List (String × Int) :=
  let drop (reason : String) := counterEntry "messages_dropped_total" (some ("reason", reason))
  let failure (kind : FailureKind) :=
    counterEntry "handler_failures_total" (some ("kind", kind.word))
  let outcome (r : Resolution) :=
    counterEntry "requests_resolved_total" (some ("outcome", r.label)) (m.requests.count r)
  [gaugeEntry "connections_active" m.connections,
    failure .error m.deliveries.errors,
    failure .panic m.deliveries.panics,
    counterEntry "messages_delivered_total" none m.deliveries.delivered,
    drop "no_handler" m.deliveries.noHandler,
    drop "no_subscription" m.deliveries.noSubscription,
    drop "queue_closed" m.deliveries.queueClosed,
    gaugeEntry "requests_outstanding" m.requests.outstanding,
    outcome .closing,
    outcome .timedOut,
    outcome .fulfilled,
    outcome .noResponders].filterMap id

end Metrics

end PubSub
