import PubSub.Connection.Lifecycle

/-!
# Publishing, asking, subscribing

What an application asks of a connection: to publish, to request, and to make subscriptions. What
sends a frame goes through a given transport.

## Main definitions

- `Connection.publish`, `Connection.publishFor` — a frame without a reply, perhaps for a handler
- `Connection.request` — a request under a fresh reply subject
- `Connection.isAnswered`, `Connection.tryResult` — what its caller can see of a request
- `SubscriptionPlan` — the description of a subscription to be
- `Connection.register`, `Connection.build`, `Connection.subscribe` — registering it, and starting it
  too

## Design notes

Subjects are checked before the connection's state, and both before anything is changed. The server
is told about the reply subjects once, before the first request; an announcement that is refused is
tried again by the next request. A request whose frame is refused is given up at once.
-/

namespace PubSub

/-- The description of a subscription to be. -/
structure SubscriptionPlan where
  subject : String
  queueGroup : Option String := none
  /-- The ceiling; zero is no limit. -/
  max : Nat := 0
  handler : Option Handler := none
  options : Option SubscribeOptions := none

namespace Connection

/-- Publishes on behalf of a subscription's handler, or of nobody. -/
def publishFor (t : Transport) (c : Connection) (onBehalfOf : Option Sid) (subject : String)
    (payload : ByteArray) : Except ConnectionError Unit × Connection :=
  if !Subject.isValid subject then (.error (.invalidSubject subject), c)
  else if c.closed then (.error .closed, c)
  else
    let (verdict, c) := t { frame := .publish subject none payload, onBehalfOf := onBehalfOf } c
    (verdict.mapError .transport, c)

/-- Publishes without asking for a reply. -/
def publish (t : Transport) (c : Connection) (subject : String) (payload : ByteArray) :
    Except ConnectionError Unit × Connection :=
  c.publishFor t none subject payload

/-- Tells the server about the reply subjects, unless it was told. -/
def announceInbox (t : Transport) (c : Connection) : Except TransportError Unit × Connection :=
  if c.announced then (.ok (), c)
  else
    match t { frame := .subscribe replySid c.inbox.wildcard none } c with
    | (.ok (), c) => (.ok (), { c with announced := true })
    | (.error e, c) => (.error e, c)

/-- Gives up the request that waits under a key. -/
def abandon (c : Connection) (key : String) : Connection :=
  { c with registry := (c.registry.abandon key).2 }

/-- Sends a request under a fresh reply subject; answers its number. -/
def request (t : Transport) (c : Connection) (subject : String) (payload : ByteArray)
    (options : RequestOptions) : Except RequestError Nat × Connection :=
  if !Subject.isValid subject then (.error (.invalidSubject subject), c)
  else if c.closed then (.error .connectionClosed, c)
  else
    match c.announceInbox t with
    | (.error e, c) => (.error (.transport e), c)
    | (.ok (), c) =>
      let (key, inbox) := c.inbox.next
      let (number, registry) := c.registry.register key options c.config.requestTimeout c.clock
      let c := { c with inbox := inbox, registry := registry }
      if c.closed then (.error .connectionClosed, c.abandon key)
      else
        match t { frame := .publish subject (some key) payload } c with
        | (.ok (), c) => (.ok number, c)
        | (.error e, c) => (.error (.transport e), c.abandon key)

/-- One look at the request with a number by its caller. -/
def tryResult (c : Connection) (number : Nat) : Option Settlement × Connection :=
  let (result, registry) := c.registry.tryResult number
  (result, { c with registry := registry })

/-- Whether the request with a number was resolved. -/
def isAnswered (c : Connection) (number : Nat) : Bool :=
  ((c.registry.request? number).map (·.isDone)).getD false

/-- The connection with a new subscription, which is live. -/
def register (c : Connection) (s : Subscription) : Connection :=
  let c := { c with
    issuedSids := s.sid
    subscriptions := c.subscriptions ++ [s]
    table := c.table ++ [s.sid] }
  c.log (.registered s.sid s.handler s.max)

/-- Registers a subscription without starting it; answers its number. -/
def build (c : Connection) (handle : Nat) (plan : SubscriptionPlan) :
    Except ConnectionError Sid × Connection :=
  if !Subject.isValid plan.subject then (.error (.invalidSubject plan.subject), c)
  else
    match plan.queueGroup.filter fun group => !Subject.isValid group with
    | some group => (.error (.invalidSubject group), c)
    | none =>
      if c.closed then (.error .closed, c)
      else
        let sid := c.issuedSids + 1
        let s : Subscription := {
          sid := sid
          subject := plan.subject
          queueGroup := plan.queueGroup
          options := plan.options
          handler := plan.handler
          max := plan.max
          via := handle }
        (.ok sid, c.register s)

/-- Hands a subscription over to the application. -/
def hold (c : Connection) (sid : Sid) : Connection :=
  c.modifySubscription sid fun s => { s with held := true }

/-- A subscription that was made is handed over. -/
def handOver (made : Except ConnectionError Sid × Connection) :
    Except ConnectionError Sid × Connection :=
  match made.1 with
  | .ok sid => (made.1, made.2.hold sid)
  | .error _ => made

/-- The application lets go of a subscription, which goes on without it. -/
def letGo (c : Connection) (sid : Sid) : Connection :=
  c.modifySubscription sid fun s => { s with held := false }

/-- Registers a subscription and starts it; one that cannot be announced is closed again. -/
def subscribe (t : Transport) (c : Connection) (handle : Nat) (plan : SubscriptionPlan) :
    Except ConnectionError Sid × Connection :=
  match c.build handle plan with
  | (.error e, c) => (.error e, c)
  | (.ok sid, c) =>
    match c.startSubscription t sid with
    | (.ok (), c) => (.ok sid, c)
    | (.error e, c) => (.error (.subscription e), c.closeSubscription t sid)

/-- Adds a handle to the connection. -/
def addHandle (c : Connection) (handle : Nat) : Connection :=
  { c with handles := c.handles ++ [handle] }

/-- Takes a handle away; with the last one the connection closes. -/
def dropHandle (t : Transport) (c : Connection) (handle : Nat) : Connection :=
  let c := { c with handles := c.handles.filter (· != handle) }
  if c.handles.isEmpty then c.close t else c

end Connection

end PubSub
