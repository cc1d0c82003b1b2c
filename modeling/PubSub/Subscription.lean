import PubSub.Channel.Dispatch
import PubSub.Consumer.Options
import PubSub.Handler
import PubSub.Duration

/-!
# Subscriptions

The state of one subscription: what it is, what waits for it, and the workers that were started for
it.

## Main definitions

- `Invocation` — a handler at work on one message
- `Worker` — a task that drains the queue, with its stop sign
- `Subscription` — the whole state
- `Subscription.enable`, `Subscription.disable` — starting and stopping a worker
- `Subscription.enqueue` — putting an inbound message into the queue
- `Subscription.isReady` — whether a worker can go on

## Design notes

A worker that was started goes on once in any case: it then gets hold of the receiving end of the
queue or lines up for it. Only the worker that has the receiving end takes messages; the others wait
for it in the order they were started. A stop sign interrupts waiting, never a handler at work. A
worker that ended stays in the list, so that the number of a worker is its position.
-/

namespace PubSub

/-- A handler at work on one message. -/
structure Invocation where
  delivery : Delivery
  script : List Action
  /-- The ceiling as it was when the message was taken. -/
  ceiling : Nat
  /-- The number of this delivery. -/
  count : Nat
  wakeAt : Option Instant := none

/-- What a worker is at. -/
inductive Worker.Phase where
  | starting
  /-- It waits for the receiving end of the queue. -/
  | waiting
  /-- It has the receiving end and waits for a message. -/
  | receiving
  /-- It has the receiving end and a handler is at work. -/
  | handling (invocation : Invocation)
  | finished

/-- A task that drains the queue of a subscription. -/
structure Worker where
  cancelled : Bool
  phase : Worker.Phase := .starting

namespace Worker

/-- Whether the worker has the receiving end of the queue. -/
def hasReceiver (w : Worker) : Bool :=
  match w.phase with
  | .receiving | .handling _ => true
  | .starting | .waiting | .finished => false

/-- Whether the worker waits for the receiving end and was not told to end. -/
def isCandidate (w : Worker) : Bool :=
  match w.phase with
  | .waiting => !w.cancelled
  | _ => false

/-- Whether the worker has ended. -/
def isFinished (w : Worker) : Bool :=
  match w.phase with
  | .finished => true
  | _ => false

/-- The handler at work, if there is one. -/
def invocation? (w : Worker) : Option Invocation :=
  match w.phase with
  | .handling invocation => some invocation
  | _ => none

/-- The end of the sleep that the worker's handler is in. -/
def timer? (w : Worker) : Option Instant := w.invocation?.bind (·.wakeAt)

end Worker

/-- One subscription. -/
structure Subscription where
  sid : Sid
  subject : String
  queueGroup : Option String := none
  options : Option SubscribeOptions := none
  handler : Option Handler := none
  /-- Whether it can still send through its connection. -/
  attached : Bool := true
  /-- How many messages it may handle in total; zero is no limit. -/
  max : Nat := 0
  /-- How many messages were handed to a handler. -/
  delivered : Nat := 0
  valid : Bool := true
  queue : Dispatch Delivery := {}
  /-- Every worker ever started. -/
  workers : List Worker := []
  /-- The worker that `disable` stops. -/
  current : Option Nat := none
  /-- The application's handle to the connection that the subscription was made through. -/
  via : Nat := 0
  held : Bool := false

namespace Subscription

/-- Changes the worker with a number. -/
def modifyWorker (s : Subscription) (i : Nat) (f : Worker → Worker) : Subscription :=
  { s with workers := s.workers.modify i f }

/-- Puts the worker with a number into a phase. -/
def setPhase (s : Subscription) (i : Nat) (phase : Worker.Phase) : Subscription :=
  s.modifyWorker i fun w => { w with phase := phase }

/-- Whether the worker that `disable` would stop is running. -/
def isStarted (s : Subscription) : Bool :=
  match s.current.bind (s.workers[·]?) with
  | some w => !w.cancelled
  | none => false

/-- Starts a worker unless one is running. The worker is told to end at once when its connection has
been told to. -/
def enable (s : Subscription) (stopping : Bool) : Bool × Subscription :=
  if s.isStarted then (false, s)
  else (true, { s with
    workers := s.workers ++ [{ cancelled := stopping }]
    current := some s.workers.length })

/-- Tells the running worker to end; whether there was one. -/
def disable (s : Subscription) : Bool × Subscription :=
  match s.current with
  | none => (false, s)
  | some i =>
    (s.isStarted,
      { s.modifyWorker i (fun w => { w with cancelled := true }) with current := none })

/-- Tells every worker to end. -/
def cancelWorkers (s : Subscription) : Subscription :=
  { s with workers := s.workers.map fun w => { w with cancelled := true } }

/-- Puts an inbound message into the queue, with the connection attached right now. -/
def enqueue (s : Subscription) (m : Message) : Option Subscription :=
  match s.queue.enqueue ⟨m, s.attached⟩ with
  | .ok queue => some { s with queue := queue }
  | .error _ => none

/-- Whether a worker could have the receiving end: nobody has it, and no worker started earlier
waits for it. -/
def receiverIsFree (s : Subscription) (i : Nat) : Bool :=
  !s.workers.any Worker.hasReceiver && !(s.workers.take i).any Worker.isCandidate

/-- Whether the worker with a number can go on at `now`. -/
def isReady (s : Subscription) (i : Nat) (now : Instant) : Bool :=
  match s.workers[i]? with
  | none => false
  | some w =>
    match w.phase with
    | .starting => true
    | .waiting => w.cancelled || s.receiverIsFree i
    | .receiving => w.cancelled || !s.queue.entries.isEmpty || s.queue.isClosed
    | .handling invocation =>
      match invocation.wakeAt with
      | some wakeAt => wakeAt ≤ now
      | none => true
    | .finished => false

/-- What a worker that waits for the receiving end, or begins to, is at next. -/
def lineUp (s : Subscription) (i : Nat) (w : Worker) : Worker.Phase :=
  if w.cancelled then .finished else if s.receiverIsFree i then .receiving else .waiting

/-- Counts one more delivery unless the ceiling is reached; zero is no ceiling. -/
def claim (s : Subscription) (ceiling : Nat) : Option (Nat × Subscription) :=
  if ceiling = 0 ∨ s.delivered < ceiling then
    some (s.delivered + 1, { s with delivered := s.delivered + 1 })
  else none

/-- Whether a handler of the subscription is at work. -/
def isHandling (s : Subscription) : Bool := s.workers.any fun w => w.invocation?.isSome

/-- The fields of a subscription that a reader is shown. -/
def describe (s : Subscription) : String :=
  "AsyncSubscription \x7b sid: Sid(" ++ toString s.sid ++ "), subject: " ++ Text.quote s.subject ++
    ", delivered: " ++ toString s.delivered ++ ", valid: " ++ toString s.valid ++ ", .. \x7d"

end Subscription

end PubSub
