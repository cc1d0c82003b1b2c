import PubSub.Channel.Outbound
import PubSub.Connection.Config
import PubSub.Frame
import PubSub.Inbox
import PubSub.Request.Sweeper
import PubSub.Subscription

/-!
# Connections

The state of one client connection, and the journal of what it did.

## Main definitions

- `Reaction` — what a transport does when it is offered a frame, before it accepts it
- `Event` — one entry of the journal
- `Connection` — the whole state
- `Connection.subscription?`, `Connection.modifySubscription` — one subscription of a connection
- `Connection.lookup` — a live subscription, through the table

## Design notes

A connection keeps every subscription it ever made; the table says which of them are live. The
journal holds the newest event first; its length is kept beside it, so that what was added to it can
be told without walking through it.
-/

namespace PubSub

/-- What a transport does from inside a send. -/
inductive Reaction.Deed where
  | closeConnection
  /-- Answer a publish that has a reply subject, as if the answer had arrived. -/
  | reply (payload : ByteArray)
  /-- Close every subscription the application holds. -/
  | closeSubscriptions
  | look
  deriving DecidableEq

/-- How a transport reacts to a frame before it is queued. -/
structure Reaction where
  deed : Reaction.Deed
  /-- The error it then refuses the frame with, if any. -/
  refusal : Option TransportError := none
  deriving DecidableEq

/-- What came of a reaction. -/
inductive Reaction.Finding where
  | done
  /-- Whether the answer was taken. -/
  | replied (taken : Bool)
  /-- How many subscriptions the application holds. -/
  | held (count : Nat)
  | seen (closed : Bool) (subscriptions pendingRequests : Nat)
  deriving DecidableEq

/-- Who is told about a failed handler. -/
inductive FailureHook where
  | absent
  | record
  | panic
  deriving DecidableEq

/-- Something a connection did. -/
inductive Event where
  | offered (outgoing : Outgoing) (verdict : Except TransportError Unit)
  | reacted (kind : Frame.Kind) (finding : Reaction.Finding)
  | registered (sid : Sid) (handler : Option Handler) (max : Nat)
  | handlerSet (sid : Sid) (handler : Handler)
  | ceilingSet (sid : Sid) (max : Nat)
  /-- A message entered the queue of a subscription. -/
  | accepted (sid : Sid) (message : Message)
  /-- A message left the queue of a subscription. -/
  | taken (sid : Sid) (message : Message)
  /-- A handler of a subscription was given a message. -/
  | began (sid : Sid) (handler : Handler) (delivery : Delivery)
  | dropped (sid : Sid) (message : Message) (reason : DropReason)
  | noted (sid : Sid) (note : Note)
  | ended (sid : Sid) (failure : Option Failure)
  /-- An invocation failed; the subject is the subscription's. -/
  | warned (sid : Sid) (subject : String) (failure : Failure)
  | observed (sid : Sid) (failure : Failure)
  | hookFailed (sid : Sid) (text : String)
  | closed (id cancelledRequests closedSubscriptions : Nat)

/-- One client connection. -/
structure Connection where
  id : Nat
  config : Config
  inbox : Inbox
  clock : Instant
  closed : Bool := false
  /-- Whether the server was told about the reply subjects. -/
  announced : Bool := false
  registry : Registry := {}
  /-- The task that lets requests expire; its stop sign is that of all workers. -/
  sweeper : Sweeper
  /-- Every subscription it made, in the order of their numbers. -/
  subscriptions : List Subscription := []
  /-- How many subscription numbers were given out. -/
  issuedSids : Nat := 0
  /-- The numbers of the live subscriptions. -/
  table : List Sid := []
  outbound : Outbound Outgoing
  reactions : List (Frame.Kind × Reaction) := []
  hook : FailureHook := .absent
  counts : DeliveryCounts := {}
  handles : List Nat := []
  /-- The handle that the transport's reactions go through. -/
  opener : Nat := 0
  /-- What it did, newest first. -/
  journal : List Event := []
  /-- The length of the journal. -/
  eventCount : Nat := 0

/-- The subscription number that stands for a connection's own reply subjects. -/
def replySid : Sid := 0

namespace Connection

/-- A fresh connection over an empty channel. -/
def create (id : Nat) (config : Config) (token : String) (clock : Instant) (capacity : Nat)
    (handle : Nat) : Connection where
  id := id
  config := config
  inbox := Inbox.create config.inboxStart token
  clock := clock
  sweeper := { interval := config.sweepInterval }
  outbound := Outbound.ofCapacity capacity
  handles := [handle]
  opener := handle

/-- Writes an event into the journal. -/
def log (c : Connection) (e : Event) : Connection :=
  { c with journal := e :: c.journal, eventCount := c.eventCount + 1 }

/-- The subscription with a number, live or not. -/
def subscription? (c : Connection) (sid : Sid) : Option Subscription :=
  c.subscriptions.find? (·.sid == sid)

/-- Changes the subscription with a number. -/
def modifySubscription (c : Connection) (sid : Sid) (f : Subscription → Subscription) :
    Connection :=
  { c with subscriptions := c.subscriptions.map fun s => if s.sid = sid then f s else s }

/-- The live subscription with a number. -/
def lookup (c : Connection) (sid : Sid) : Option Subscription :=
  if sid ∈ c.table then c.subscription? sid else none

/-- How many subscriptions are live. -/
def subscriptionCount (c : Connection) : Nat := c.table.length

/-- How many requests wait for a reply. -/
def pendingRequests (c : Connection) : Nat := c.registry.size

/-- Whether the workers were told to end. -/
def isStopping (c : Connection) : Bool := c.sweeper.shutdown

/-- Counts a message that never reaches a handler. -/
def drop (c : Connection) (sid : Sid) (m : Message) (reason : DropReason) : Connection :=
  { c with counts := c.counts.dropped reason }.log (.dropped sid m reason)

/-- How the transport reacts to a sort of frame. -/
def reaction? (c : Connection) (kind : Frame.Kind) : Option Reaction := c.reactions.lookup kind

/-- How many subscriptions the application holds. -/
def heldCount (c : Connection) : Nat := (c.subscriptions.filter (·.held)).length

/-- All metrics of the connection, while it exists or after. -/
def metrics (c : Connection) (dropped : Bool) : Metrics where
  connections := { rises := 1, falls := dropped.toNat }
  deliveries := c.counts
  requests := c.registry.counts

/-- The fields of a connection that a reader is shown. -/
def describe (c : Connection) : String :=
  "Connection \x7b id: ConnectionId(" ++ toString c.id ++ "), closed: " ++ toString c.closed ++
    ", subscriptions: " ++ toString c.subscriptionCount ++ ", pending_requests: " ++
    toString c.pendingRequests ++ ", .. \x7d"

end Connection

/-- The way of a frame to the server, from the point of view of whoever sends it. -/
abbrev Transport := Outgoing → Connection → Except TransportError Unit × Connection

end PubSub
