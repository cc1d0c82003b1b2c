import PubSub.Connection.Transport
import PubSub.Connection.Worker

/-!
# Runs of a connection

What can be done to a connection, by the application, by the network, by its own tasks and by the
clock, and doing many such things in any order.

## Main definitions

- `Connection.Move` — one thing to do
- `Connection.performOver`, `Connection.runOver` — doing it over a given transport, and doing many
- `Connection.perform`, `Connection.run` — doing it over the connection's own transport
- `Connection.isEnabling` — whether a thing to do is to start a worker of a given subscription
- `Connection.enablesValid`, `Connection.enablesValidOver` — whether a worker of it is started so only
  while it is valid
- `Connection.disturbs` — whether a thing to do is to end a given subscription or to limit it
- `Connection.undisturbed` — whether nothing of that sort is done
- `Connection.turns` — how often a given worker goes on
- `Connection.isDisabling`, `Connection.neverDisables` — whether the worker of a subscription is
  stopped as such
-/

namespace PubSub.Connection

/-- Something done to a connection. -/
inductive Move where
  /-- Register a subscription and hand it over to the application. -/
  | build (handle : Nat) (plan : SubscriptionPlan)
  | subscribe (handle : Nat) (plan : SubscriptionPlan)
  | letGo (sid : Sid)
  | start (sid : Sid)
  /-- End a subscription and tell whether the server learned of it. -/
  | unsubscribe (sid : Sid)
  | autoUnsubscribe (sid : Sid) (max : Nat)
  | closeSubscription (sid : Sid)
  | enable (sid : Sid)
  | disable (sid : Sid)
  | setHandler (sid : Sid) (handler : Handler)
  /-- Deliver a message by number, through the table. -/
  | deliver (sid : Sid) (message : Message)
  /-- Deliver a message to a given subscription, live or not. -/
  | deliverTo (sid : Sid) (message : Message)
  | process (message : Message)
  | resolve (key : String) (message : Message)
  | publish (subject : String) (payload : ByteArray)
  | request (subject : String) (payload : ByteArray) (options : RequestOptions)
  | tryResult (number : Nat)
  | addHandle (handle : Nat)
  | dropHandle (handle : Nat)
  | close
  /-- Take at most a number of frames out of the channel. -/
  | receive (count : Nat)
  /-- Let the channel refuse further frames. -/
  | closeReceiver
  /-- Give up the reading end of the channel. -/
  | dropReceiver
  | stepWorker (sid : Sid) (number : Nat)
  | stepSweeper
  | setClock (now : Instant)

/-- The connection after something was done over a given transport. -/
def performOver (t : Transport) (c : Connection) : Move → Connection
  | .build handle plan => (handOver (c.build handle plan)).2
  | .subscribe handle plan => (handOver (c.subscribe t handle plan)).2
  | .letGo sid => c.letGo sid
  | .start sid => (c.startSubscription t sid).2
  | .unsubscribe sid => (c.unsubscribe t sid).2
  | .autoUnsubscribe sid max => (c.autoUnsubscribe t sid max).2
  | .closeSubscription sid => c.closeSubscription t sid
  | .enable sid => (c.enable sid).2
  | .disable sid => (c.disable sid).2
  | .setHandler sid handler => c.setHandler sid handler
  | .deliver sid m => (c.deliver sid m).2
  | .deliverTo sid m =>
    match c.subscription? sid with
    | some s => (c.deliverTo s m).2
    | none => c
  | .process m => (c.processInbound m).2
  | .resolve key m => (c.resolveReply key m).2
  | .publish subject payload => (c.publish t subject payload).2
  | .request subject payload options => (c.request t subject payload options).2
  | .tryResult number => (c.tryResult number).2
  | .addHandle handle => c.addHandle handle
  | .dropHandle handle => c.dropHandle t handle
  | .close => c.close t
  | .receive count => { c with outbound := (c.outbound.takeUpTo count).2 }
  | .closeReceiver => { c with outbound := c.outbound.close }
  | .dropReceiver => { c with outbound := c.outbound.dropReceiver }
  | .stepWorker sid i => (c.stepWorker t sid i).2
  | .stepSweeper => c.stepSweeper
  | .setClock now => { c with clock := now }

/-- The connection after something was done. -/
def perform (c : Connection) (move : Move) : Connection := c.performOver transport move

/-- The connection after a list of things was done, in order. -/
def run (c : Connection) (moves : List Move) : Connection := moves.foldl perform c

/-- The connection after a list of things was done over a given transport, in order. -/
def runOver (t : Transport) (c : Connection) (moves : List Move) : Connection :=
  moves.foldl (performOver t) c

@[simp] theorem runOver_nil (t : Transport) (c : Connection) : c.runOver t [] = c := rfl

@[simp] theorem runOver_cons (t : Transport) (c : Connection) (move : Move) (moves : List Move) :
    c.runOver t (move :: moves) = (c.performOver t move).runOver t moves := rfl

@[simp] theorem run_nil (c : Connection) : c.run [] = c := rfl

@[simp] theorem run_cons (c : Connection) (move : Move) (moves : List Move) :
    c.run (move :: moves) = (c.perform move).run moves := rfl

@[simp] theorem run_append (c : Connection) (moves moves' : List Move) :
    c.run (moves ++ moves') = (c.run moves).run moves' := List.foldl_append

/-- Whether the next step of a worker is that its handler starts a worker: the subscription is held,
the worker can go on, and that action comes next. -/
def enablesNext (c : Connection) (s : Subscription) (i : Nat) : Bool :=
  s.held && s.isReady i c.clock &&
    match (s.workers[i]?).bind Worker.invocation? with
    | some invocation =>
      match invocation.script with
      | .enable :: _ => true
      | _ => false
    | none => false

/-- Whether a thing to do is to start a worker of a subscription as such: by the application, or as
the next action of a handler. Starting the subscription is not meant; it is refused when the
subscription is invalid. -/
def isEnabling (c : Connection) (sid : Sid) : Move → Bool
  | .enable other => other == sid
  | .stepWorker other i => other == sid && (c.subscription? sid).any fun s => c.enablesNext s i
  | _ => false

/-- Whether, along a run, a worker of a subscription is started as such only while the subscription
is valid. -/
def enablesValid (c : Connection) (sid : Sid) : List Move → Bool
  | [] => true
  | move :: moves =>
    (!c.isEnabling sid move || (c.subscription? sid).all (·.valid)) &&
      (c.perform move).enablesValid sid moves

/-- The same along a run over a given transport. -/
def enablesValidOver (t : Transport) (c : Connection) (sid : Sid) : List Move → Bool
  | [] => true
  | move :: moves =>
    (!c.isEnabling sid move || (c.subscription? sid).all (·.valid)) &&
      (c.performOver t move).enablesValidOver t sid moves

/-- Whether a thing to do is a step of a given worker, which can go on. -/
def isTurn (c : Connection) (sid : Sid) (i : Nat) : Move → Bool
  | .stepWorker other j =>
    other == sid && j == i && (c.subscription? sid).any fun s => s.isReady i c.clock
  | _ => false

/-- How many such steps there are along a run. -/
def turns (c : Connection) (sid : Sid) (i : Nat) : List Move → Nat
  | [] => 0
  | move :: moves => (c.isTurn sid i move).toNat + (c.perform move).turns sid i moves

/-- What the handler that a worker runs does next, if the worker can go on. -/
def nextAction? (c : Connection) (s : Subscription) (i : Nat) : Option Action :=
  if s.isReady i c.clock then
    ((s.workers[i]?).bind Worker.invocation?).bind (·.script.head?)
  else none

/-- Whether a thing to do is to stop the worker of a subscription as such: by the application, or as
the next action of a handler. -/
def isDisabling (c : Connection) (sid : Sid) : Move → Bool
  | .disable other => other == sid
  | .stepWorker other i =>
    other == sid && (c.subscription? sid).any fun s => s.held && (c.nextAction? s i).any fun action =>
      match action with
      | .disable => true
      | _ => false
  | _ => false

/-- Whether, along a run over a given transport, nothing of that sort is done. -/
def neverDisables (t : Transport) (c : Connection) (sid : Sid) : List Move → Bool
  | [] => true
  | move :: moves => !c.isDisabling sid move && (c.performOver t move).neverDisables t sid moves

/-- Whether an action of a handler of `s` is to end the subscription with a number or to limit
it. -/
def actionDisturbs (c : Connection) (s : Subscription) (sid : Sid) : Action → Bool
  | .close | .unsubscribe | .autoUnsubscribe _ => s.sid == sid && s.held
  | .closeConnection => c.handles.contains s.via
  | _ => false

/-- Whether a thing to do is to end a subscription, its connection included, or to limit it: by the
application, or as the next action of a handler. -/
def disturbs (c : Connection) (sid : Sid) : Move → Bool
  | .unsubscribe other | .autoUnsubscribe other _ | .closeSubscription other => other == sid
  | .close => true
  | .dropHandle handle => (c.handles.filter (· != handle)).isEmpty
  | .stepWorker other i =>
    (c.subscription? other).any fun s => (c.nextAction? s i).any (c.actionDisturbs s sid)
  | _ => false

/-- Whether, along a run, nothing is done to end a subscription or to limit it. -/
def undisturbed (c : Connection) (sid : Sid) : List Move → Bool
  | [] => true
  | move :: moves => !c.disturbs sid move && (c.perform move).undisturbed sid moves

end PubSub.Connection
