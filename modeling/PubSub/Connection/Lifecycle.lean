import PubSub.Connection.Basic

/-!
# Starting and ending subscriptions

The operations on a subscription that send a frame, and the close of a connection. All of them go
through a given transport.

## Main definitions

- `Connection.teardown`, `Connection.closeSubscription`, `Connection.unsubscribe` — the ends
- `Connection.startSubscription`, `Connection.autoUnsubscribe` — announcing, and setting a ceiling
- `Connection.enable`, `Connection.disable` — the worker of a subscription
- `Connection.close` — the end of everything

## Design notes

A subscription is torn down once: it becomes invalid, loses its connection and its place in the
table, and only then is its interest withdrawn. A transport may react to a frame by closing things
itself, so every operation first changes the state and then sends.
-/

namespace PubSub.Connection

/-- Starts a worker of a subscription unless one is running. -/
def enable (c : Connection) (sid : Sid) : Bool × Connection :=
  match c.subscription? sid with
  | none => (false, c)
  | some s =>
    let (started, s') := s.enable c.isStopping
    (started, c.modifySubscription sid fun _ => s')

/-- Stops the worker of a subscription; whether one was running. -/
def disable (c : Connection) (sid : Sid) : Bool × Connection :=
  match c.subscription? sid with
  | none => (false, c)
  | some s =>
    let (stopped, s') := s.disable
    (stopped, c.modifySubscription sid fun _ => s')

/-- Sends a frame on behalf of a subscription, if it is attached. -/
def sendFor (t : Transport) (c : Connection) (sid : Sid) (frame : Frame) :
    Except SubscriptionError Unit × Connection :=
  match c.subscription? sid with
  | none => (.error .detached, c)
  | some s =>
    if s.attached then
      let (verdict, c) := t { frame := frame } c
      (verdict.mapError .transport, c)
    else (.error .detached, c)

/-- The connection in which a subscription is invalid, detached and out of the table. -/
def invalidate (c : Connection) (sid : Sid) : Connection :=
  { c.modifySubscription sid fun s => { s with valid := false, attached := false } with
    table := c.table.filter (· != sid) }

/-- Invalidates a subscription and withdraws its interest. Only the first call does anything. -/
def teardown (t : Transport) (c : Connection) (sid : Sid) :
    Except SubscriptionError Unit × Connection :=
  match c.subscription? sid with
  | none => (.ok (), c)
  | some s =>
    if !s.valid then (.ok (), c)
    else if s.attached then
      let (verdict, c) := t { frame := .unsubscribe sid none } (c.invalidate sid)
      (verdict.mapError .transport, c)
    else (.ok (), c.invalidate sid)

/-- Tears a subscription down, whether or not the server learns of it, and stops its worker. -/
def closeSubscription (t : Transport) (c : Connection) (sid : Sid) : Connection :=
  ((c.teardown t sid).2.disable sid).2

/-- Tears a subscription down and stops its worker. -/
def unsubscribe (t : Transport) (c : Connection) (sid : Sid) :
    Except SubscriptionError Unit × Connection :=
  let (result, c) := c.teardown t sid
  (result, (c.disable sid).2)

/-- Starts the worker of a subscription and announces its interest; an announcement that is refused
stops the worker again. -/
def startSubscription (t : Transport) (c : Connection) (sid : Sid) :
    Except SubscriptionError Unit × Connection :=
  match c.subscription? sid with
  | none => (.error (.invalidState sid), c)
  | some s =>
    if !s.valid then (.error (.invalidState sid), c)
    else
      match c.enable sid with
      | (false, c) => (.ok (), c)
      | (true, c) =>
        match c.sendFor t sid (.subscribe sid s.subject s.queueGroup) with
        | (.ok (), c) => (.ok (), c)
        | (.error e, c) => (.error e, (c.disable sid).2)

/-- Limits a subscription to `max` deliveries in total; zero is no limit. A ceiling that is reached
already ends the subscription, any other is told to the server. -/
def autoUnsubscribe (t : Transport) (c : Connection) (sid : Sid) (max : Nat) :
    Except SubscriptionError Unit × Connection :=
  match c.subscription? sid with
  | none => (.error (.invalidState sid), c)
  | some s =>
    if !s.valid then (.error (.invalidState sid), c)
    else
      let c := (c.modifySubscription sid fun s => { s with max := max }).log (.ceilingSet sid max)
      if max = 0 then (.ok (), c)
      else if max ≤ s.delivered then c.unsubscribe t sid
      else c.sendFor t sid (.unsubscribe sid (some max))

/-- Puts a handler in place; it takes effect with the next message. -/
def setHandler (c : Connection) (sid : Sid) (handler : Handler) : Connection :=
  match c.subscription? sid with
  | none => c
  | some _ =>
    (c.modifySubscription sid fun s => { s with handler := some handler }).log
      (.handlerSet sid handler)

/-- Tells every worker and the sweeper to end. -/
def stopWorkers (c : Connection) : Connection :=
  { c with
    subscriptions := c.subscriptions.map Subscription.cancelWorkers
    sweeper := { c.sweeper with shutdown := true } }

/-- Closes the connection: every pending request is given up, every live subscription closed, every
worker told to end. Only the first call does anything. -/
def close (t : Transport) (c : Connection) : Connection :=
  if c.closed then c
  else
    let (cancelled, registry) := c.registry.cancelAll
    let live := c.table
    let c := { c with closed := true, registry := registry }
    let c := live.foldl (fun c sid => c.closeSubscription t sid) c
    c.stopWorkers.log (.closed c.id cancelled live.length)

end PubSub.Connection
