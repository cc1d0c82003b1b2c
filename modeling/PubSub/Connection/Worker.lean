import PubSub.Connection.Delivery
import PubSub.Connection.Outgoing
import PubSub.Response

/-!
# Workers

One step of a worker: it gets hold of the queue, takes a message, lets the handler do one action,
or ends.

## Main definitions

- `Pace` — whether a task goes on after a step or lets others go first
- `Connection.respond` — an answer to a message
- `Connection.act` — one action of a script, and whether the invocation is over
- `Connection.takeNext`, `Connection.finishInvocation` — before and after an invocation
- `Connection.stepWorker` — one step of a worker

## Design notes

The ceiling is read when a message is taken and compared with the number of that delivery when the
invocation is over, whatever the handler did in between. A message taken while there is no handler
is dropped. A stop sign is looked at before each message, never during an invocation.
-/

namespace PubSub

/-- How a task goes on after a step. -/
inductive Pace where
  /-- At once, unless it has to wait for something. -/
  | steady
  /-- After everything else that is ready. -/
  | yielding
  deriving DecidableEq

/-- What one action leads to. -/
inductive Progress where
  | next (rest : List Action)
  | pause (rest : List Action)
  | sleep (wakeAt : Instant) (rest : List Action)
  | over (failure : Option Failure)

namespace Connection

/-- Answers a message through the connection it arrived with. -/
def respond (t : Transport) (c : Connection) (d : Delivery) (payload : ByteArray) :
    Except SubscriptionError Unit × Connection :=
  match d.response payload with
  | .error e => (.error e, c)
  | .ok o =>
    let (verdict, c) := t o c
    (verdict.mapError .transport, c)

/-- Notes something that a handler of a subscription made visible. -/
def note (c : Connection) (sid : Sid) (n : Note) : Connection := c.log (.noted sid n)

/-- Does something with a subscription that the application holds, and notes when it does not. -/
def whenHeld (c : Connection) (sid : Sid) (action : String) (f : Subscription → Connection) :
    Connection :=
  match c.subscription? sid with
  | some s => if s.held then f s else c.note sid (.missing action)
  | none => c.note sid (.missing action)

/-- Does something with the connection if the handle that the subscription was made through still
exists, and notes when it does not. -/
def whenReachable (c : Connection) (sid : Sid) (action : String) (f : Connection) : Connection :=
  match c.subscription? sid with
  | some s => if s.via ∈ c.handles then f else c.note sid (.missing action)
  | none => c.note sid (.missing action)

/-- Answers a message, and fails the invocation when that is impossible. -/
def respondOrFail (t : Transport) (c : Connection) (d : Delivery) (payload : ByteArray)
    (rest : List Action) : Progress × Connection :=
  match c.respond t d payload with
  | (.ok (), c) => (.next rest, c)
  | (.error e, c) => (.over (some ⟨.error, e.message⟩), c)

/-- An operation on the subscription, with its result noted. -/
def noteResult (sid : Sid) (action : String)
    (outcome : Except SubscriptionError Unit × Connection) : Connection :=
  outcome.2.note sid (.result action outcome.1)

/-- A question to the subscription or connection, with the answer noted. -/
def noteAnswer (sid : Sid) (action : String) (outcome : Bool × Connection) : Connection :=
  outcome.2.note sid (.answer action outcome.1)

/-- One action of a script, done for a subscription and one of its messages. -/
def act (t : Transport) (c : Connection) (sid : Sid) (d : Delivery) (action : Action)
    (rest : List Action) : Progress × Connection :=
  match action with
  | .fail cause => (.over (some ⟨.error, cause⟩), c)
  | .panic payload => (.over (some ⟨.panic, payload.message⟩), c)
  | .respond payload => (.next rest, noteResult sid "respond" (c.respond t d payload))
  | .respondStrict payload => c.respondOrFail t d payload rest
  | .respondUpper => c.respondOrFail t d (Text.upperAscii d.message.payload) rest
  | .close => (.next rest, c.whenHeld sid "close" fun _ => c.closeSubscription t sid)
  | .unsubscribe =>
    (.next rest, c.whenHeld sid "unsubscribe" fun _ =>
      noteResult sid "unsubscribe" (c.unsubscribe t sid))
  | .autoUnsubscribe max =>
    (.next rest, c.whenHeld sid "auto_unsubscribe" fun _ =>
      noteResult sid "auto_unsubscribe" (c.autoUnsubscribe t sid max))
  | .start =>
    (.next rest, c.whenHeld sid "start" fun _ =>
      noteResult sid "start" (c.startSubscription t sid))
  | .disable =>
    (.next rest, c.whenHeld sid "disable" fun _ => noteAnswer sid "disable" (c.disable sid))
  | .enable =>
    (.next rest, c.whenHeld sid "enable" fun _ => noteAnswer sid "enable" (c.enable sid))
  | .setHandler handler =>
    (.next rest, c.whenHeld sid "set_handler" fun _ => c.setHandler sid handler)
  | .yield 0 => (.next rest, c)
  | .yield (times + 1) => (.pause (.yield times :: rest), c)
  | .sleep span => (.sleep (c.clock + span) rest, c)
  | .remark text => (.next rest, c.note sid (.remark text))
  | .info =>
    (.next rest, c.whenHeld sid "info" fun s =>
      c.note sid (.info s.delivered s.queue.pending s.valid s.isStarted))
  | .publish subject payload =>
    let (outcome, c') := c.publishFor t (some d.message.sid) subject payload
    (.next rest, c.whenReachable sid "publish" (c'.note sid (.published outcome)))
  | .deliver message =>
    (.next rest, c.whenReachable sid "deliver"
      (noteAnswer sid "deliver" (c.deliver message.sid message)))
  | .closeConnection => (.next rest, c.whenReachable sid "close_conn" (c.close t))

/-- Puts a worker of a subscription into a phase. -/
def setPhase (c : Connection) (sid : Sid) (i : Nat) (phase : Worker.Phase) : Connection :=
  c.modifySubscription sid fun s => s.setPhase i phase

/-- Ends a worker that has the receiving end of the queue. The queue of an invalid subscription
takes no more entries from then on. -/
def exitWorker (c : Connection) (sid : Sid) (i : Nat) : Connection :=
  c.modifySubscription sid fun s =>
    let s := s.setPhase i .finished
    if s.valid then s else { s with queue := s.queue.close }

/-- Begins an invocation: the handler is given the message. -/
def beginInvocation (c : Connection) (s : Subscription) (i : Nat) (handler : Handler)
    (d : Delivery) (count : Nat) : Connection :=
  let invocation : Invocation := {
    delivery := d
    script := handler.script d.message.payload
    ceiling := s.max
    count := count }
  let c := { c.setPhase s.sid i (.handling invocation) with counts := c.counts.handed }
  (c.log (.began s.sid handler d)).note s.sid (.seen handler.name d)

/-- What a worker does with a message it has taken: drop it, end, or hand it to the handler. -/
def process (t : Transport) (c : Connection) (s : Subscription) (i : Nat) (d : Delivery) :
    Connection :=
  match s.handler with
  | none => c.drop s.sid d.message .noHandler
  | some handler =>
    if !s.attached then c.exitWorker s.sid i
    else
      match s.claim s.max with
      | none => (c.closeSubscription t s.sid).exitWorker s.sid i
      | some (count, s') =>
        (c.modifySubscription s.sid fun _ => s').beginInvocation s' i handler d count

/-- Takes the next message, or ends when there will be none. -/
def takeNext (t : Transport) (c : Connection) (s : Subscription) (i : Nat) : Connection :=
  match s.queue.recv with
  | (.entry d, queue) =>
    let s := { s with queue := queue }
    ((c.modifySubscription s.sid fun _ => s).log (.taken s.sid d.message)).process t s i d
  | (.ended, _) => c.exitWorker s.sid i
  | (.pending, _) => c

/-- Counts and reports a failed invocation. -/
def reportFailure (c : Connection) (s : Subscription) (f : Failure) : Connection :=
  let c := { c.log (.warned s.sid s.subject f) with counts := c.counts.failed f.kind }
  match c.hook with
  | .absent => c
  | .record => c.log (.observed s.sid f)
  | .panic =>
    c.log (.hookFailed s.sid ("hook failed on " ++ toString s.sid ++ ": " ++ f.message))

/-- The end of an invocation is noted, and a failure reported. -/
def endInvocation (c : Connection) (s : Subscription) (failure : Option Failure) : Connection :=
  let c := c.log (.ended s.sid failure)
  match failure with
  | some f => c.reportFailure s f
  | none => c

/-- What a worker does when an invocation is over: report a failure, and end if the delivery was the
last one under the ceiling. -/
def finishInvocation (t : Transport) (c : Connection) (s : Subscription) (i : Nat)
    (invocation : Invocation) (failure : Option Failure) : Connection :=
  let c := c.endInvocation s failure
  if invocation.ceiling ≠ 0 ∧ invocation.count = invocation.ceiling then
    (c.closeSubscription t s.sid).exitWorker s.sid i
  else c.setPhase s.sid i .receiving

/-- One step of a handler at work. -/
def stepInvocation (t : Transport) (c : Connection) (s : Subscription) (i : Nat)
    (invocation : Invocation) : Pace × Connection :=
  match invocation.script with
  | [] => (.steady, c.finishInvocation t s i invocation none)
  | action :: rest =>
    let goOn (c : Connection) (script : List Action) (wakeAt : Option Instant) : Connection :=
      c.setPhase s.sid i
        (.handling { invocation with script := script, wakeAt := wakeAt })
    match c.act t s.sid invocation.delivery action rest with
    | (.next rest, c) => (.steady, goOn c rest none)
    | (.pause rest, c) => (.yielding, goOn c rest none)
    | (.sleep wakeAt rest, c) => (.steady, goOn c rest (some wakeAt))
    | (.over failure, c) => (.steady, c.finishInvocation t s i invocation failure)

/-- One step of a worker; nothing happens when it cannot go on. -/
def stepWorker (t : Transport) (c : Connection) (sid : Sid) (i : Nat) : Pace × Connection :=
  match c.subscription? sid with
  | none => (.steady, c)
  | some s =>
    match s.workers[i]? with
    | none => (.steady, c)
    | some w =>
      if !s.isReady i c.clock then (.steady, c)
      else
        match w.phase with
        | .starting | .waiting => (.steady, c.setPhase sid i (s.lineUp i w))
        | .receiving =>
          (.steady, if w.cancelled then c.exitWorker sid i else c.takeNext t s i)
        | .handling invocation => c.stepInvocation t s i invocation
        | .finished => (.steady, c)

/-- One step of the sweeper; nothing happens when it cannot go on. -/
def stepSweeper (c : Connection) : Connection :=
  let (sweeper, registry) := c.sweeper.step c.registry c.clock
  { c with sweeper := sweeper, registry := registry }

end Connection

end PubSub
