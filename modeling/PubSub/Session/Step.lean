import PubSub.Executor

/-!
# Steps of a session

What the driver of a session can ask for, and what it is told.

## Main definitions

- `Session.Step` — one thing to do
- `Session.Answer` — the direct answer to a step
- `Session.Observation` — the answer together with everything that became visible meanwhile

## Design notes

Connections, subscriptions and requests are named by the order in which the session came by them. A
name that leads nowhere is answered by `missing`.
-/

namespace PubSub.Session

/-- How a connection is opened. -/
structure Opening where
  config : Config := {}
  token : String
  capacity : Nat := 1024
  hook : FailureHook := .absent
  reactions : List (Frame.Kind × Reaction) := []

/-- The connection that is opened so, with a number and a first handle. -/
def Opening.connect (o : Opening) (id : Nat) (clock : Instant) (handle : Nat) : Connection :=
  { Connection.create id o.config o.token clock o.capacity handle with
    hook := o.hook
    reactions := o.reactions }

/-- Something to do with a subscription. -/
inductive SubscriptionStep where
  | start
  | unsubscribe
  | autoUnsubscribe (max : Nat)
  | close
  | enable
  | disable
  /-- Give the name up; the subscription goes on. -/
  | letGo
  | setHandler (handler : Handler)
  | look
  /-- Put a message into its queue, whatever number the message bears. -/
  | deliver (message : Message)

/-- Something to do with a connection. -/
inductive ConnectionStep where
  | share
  /-- Give the name up; with its last name the connection closes. -/
  | letGo
  | look
  | close
  /-- Close it and wait until its tasks have ended. -/
  | shutdown
  /-- Make a subscription, and start it or not. -/
  | subscribe (plan : SubscriptionPlan) (options : Option (List SubscribeOptions.Call))
      (start : Bool)
  /-- Deliver a message to a subscription, by default to the one that the message names. -/
  | deliver (sid : Option Sid) (message : Message)
  /-- Deliver a number of messages to one subscription; their payloads count from zero. -/
  | deliverMany (sid : Sid) (subject : String) (count : Nat)
  | process (message : Message)
  /-- Answer the request that waits under a key. -/
  | resolve (key : String) (message : Message)
  | publish (subject : String) (payload : ByteArray)
  | request (subject : String) (payload : ByteArray) (options : RequestOptions)
  | receive (count : Option Nat)
  | closeReceiver
  | dropReceiver
  | loopback

/-- Something to do with a request. -/
inductive RequestStep where
  | look
  | tryResult
  | await (limit : Duration)
  /-- Give the name up; the request goes on. -/
  | letGo

/-- One step of a session. -/
inductive Step where
  | connect (opening : Opening)
  | onConnection (name : Nat) (step : ConnectionStep)
  | onSubscription (name : Nat) (step : SubscriptionStep)
  | onRequest (name : Nat) (step : RequestStep)
  | countActive
  /-- Let all tasks go on as far as they can without time passing. -/
  | settle
  | advance (span : Duration)

/-- The direct answer to a step. -/
inductive Answer where
  | nothing
  /-- The name leads nowhere. -/
  | missing
  | yes (b : Bool)
  | count (n : Nat)
  | time (t : Duration)
  | elapsed (t : Duration)
  | connected (name : Nat)
  | subscribed (name : Nat) (sid : Sid)
  | requested (name : Nat) (key : String)
  | subscriptionResult (r : Except SubscriptionError Unit)
  | connectionResult (r : Except ConnectionError Unit)
  | requestFailed (e : RequestError)
  | optionsRefused (e : OptionsError)
  | settlement (r : Option Settlement)
  | awaited (r : Option Settlement) (elapsed : Duration)
  | connection (c : Connection)
  | subscription (s : Subscription)
  | request (r : Request)
  /-- Frames in the order they are shown. -/
  | frames (frames : List Outgoing)

/-- What a step made visible. -/
structure Observation where
  answer : Answer
  /-- The frames sent meanwhile, each with the name of its connection. -/
  frames : List (Nat × Outgoing) := []
  /-- What handlers made visible, by the name of their subscription. -/
  notes : List (Nat × List Note) := []
  failures : List (Sid × Failure) := []
  reactions : List (Frame.Kind × Reaction.Finding) := []
  logs : List String := []

end PubSub.Session
