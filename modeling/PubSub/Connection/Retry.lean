import PubSub.Connection.Play
import PubSub.Connection.Run

/-!
# Runs with starts that fail

A start that is refused leaves a worker behind that was told to end before it ever ran, and a line
in the journal. Here is what remains of a connection without such leftovers, and the runs in which
starts fail, messages arrive and tasks go on between them.

## Main definitions

- `Worker.isSpent` — whether all that a worker can still do is end
- `Connection.pruned` — a connection without spent workers and without refused announcements
- `Gate.Heedless` — a gate that takes no notice of either
- `Connection.Direct` — a way to the channel on which a frame can be rejected but nothing reacts to
  it
- `Connection.Go`, `Connection.Goes`, `Connection.GoesOn` — the turn of a task that matters, and
  many
- `Connection.Trial`, `Connection.Tries` — a run with starts that fail
- `Connection.Matches` — what two connections have in common that went through such runs
- `Connection.Unstarted`, `Connection.Unmade` — what a start that failed leaves

## Design notes

Workers are numbered as they were started, so the same worker has different numbers with and without
a failed start before it. A turn is therefore told by the subscription and by whether the worker was
told to end: of those that are not spent, at most one was and at most one was not. In which order
the tasks take turns is part of a run; spent workers may take theirs at any time in between.

A start that fails may meet a gate of its own, so that it can fail at any time and with any error,
the channel's own included.
-/

namespace PubSub

/-- Whether the worker was told to end and does not have the receiving end of the queue, so that all
it can still do is end. -/
def Worker.isSpent (w : Worker) : Bool := w.cancelled && !w.hasReceiver

namespace Subscription

/-- What the workers are at that have the receiving end of the queue. -/
def receivers (s : Subscription) : List Worker.Phase :=
  (s.workers.filter Worker.hasReceiver).map (·.phase)

/-- The worker that `disable` would stop, unless it was told to end already. -/
def runner? (s : Subscription) : Option Worker :=
  (s.current.bind (s.workers[·]?)).filter fun w => !w.cancelled

/-- The subscription with those workers only that have the receiving end, and with the one that
`disable` would stop. -/
def pruned (s : Subscription) : Subscription :=
  { s with
    workers := s.receivers.map (Worker.mk true) ++ s.runner?.toList
    current := none }

end Subscription

/-- Whether an event is that the interest of a subscription could not be announced. -/
def Event.isRefusedStart : Event → Bool
  | .offered o (.error _) =>
    match o.frame with
    | .subscribe .. => true
    | _ => false
  | _ => false

/-- The connection without spent workers, and without announcements that were refused. -/
def Connection.pruned (c : Connection) : Connection :=
  { c with
    subscriptions := c.subscriptions.map Subscription.pruned
    journal := c.journal.filter (!·.isRefusedStart)
    eventCount := 0 }

/-- A gate that takes no notice of spent workers and of announcements that were refused. -/
def Gate.Heedless (gate : Gate) : Prop :=
  ∀ (o : Outgoing) (c d : Connection), c.pruned = d.pruned → gate o c = gate o d

namespace Connection

/-- A way past a gate to the channel on which nothing reacts to a frame. -/
inductive Direct (c : Connection) (bar : Gate) : Transport → Prop where
  | bare : Direct c bar (offerThrough bar)
  | own (h : c.reactions = []) : Direct c bar (gated bar)

/-- A task that takes its turn. -/
inductive Go where
  | sweeper
  /-- A worker of a subscription that was told to end, or was not. -/
  | worker (sid : Sid) (told : Bool)
  deriving DecidableEq

/-- A task goes on that is not a spent worker. -/
inductive Goes (t : Transport) : Connection → Go → Connection → Prop where
  | sweeper (c : Connection) : Goes t c .sweeper c.stepSweeper
  | worker {c : Connection} {sid : Sid} {s : Subscription} {i : Nat} {w : Worker}
    (hs : c.subscription? sid = some s) (hw : s.workers[i]? = some w) (hlive : w.isSpent = false) :
    Goes t c (.worker sid w.cancelled) (c.stepWorker t sid i).2

/-- Tasks go on in a given order, and spent workers at any time. -/
inductive GoesOn (t : Transport) : Connection → List Go → Connection → Prop where
  | rest (c : Connection) : GoesOn t c [] c
  | spent {c c' : Connection} {sid : Sid} {s : Subscription} {i : Nat} {w : Worker}
    {order : List Go} (hs : c.subscription? sid = some s) (hw : s.workers[i]? = some w)
    (hspent : w.isSpent = true) (h : GoesOn t (c.stepWorker t sid i).2 order c') :
    GoesOn t c order c'
  | go {c c₁ c' : Connection} {go : Go} {order : List Go} (hgo : Goes t c go c₁)
    (h : GoesOn t c₁ order c') : GoesOn t c (go :: order) c'

/-- Whether no task can go on. -/
def isIdle (c : Connection) : Bool :=
  !c.sweeper.isReady c.registry c.clock && c.subscriptions.all fun s =>
    (List.range s.workers.length).all fun i => !s.isReady i c.clock

/-- One part of a run with starts that fail. -/
inductive Trial where
  /-- A start of a subscription is rejected with an error of the transport. -/
  | fail (sid : Sid) (e : TransportError)
  | move (m : Move)
  /-- All tasks go on as far as they can without time passing, in a given order. -/
  | settle (order : List Go)

/-- Whether it is a start that fails. -/
def Trial.isFailure : Trial → Bool
  | .fail .. => true
  | .move _ | .settle _ => false

/-- The same run without the starts that fail. -/
def Trial.succeeding (trials : List Trial) : List Trial := trials.filter (!·.isFailure)

/-- What a connection comes to by such a run. -/
inductive Tries (t : Transport) : Connection → List Trial → Connection → Prop where
  | done (c : Connection) : Tries t c [] c
  | fail {c c₁ c' : Connection} {bar : Gate} {t' : Transport} {sid : Sid} {e : TransportError}
    {trials : List Trial} (ht : c.Direct bar t')
    (hfail : c.startSubscription t' sid = (.error (.transport e), c₁)) (h : Tries t c₁ trials c') :
    Tries t c (.fail sid e :: trials) c'
  /-- Something is done, but workers go on only when all tasks do. -/
  | move {c c' : Connection} {m : Move} {trials : List Trial}
    (hm : ∀ sid i, m ≠ .stepWorker sid i) (h : Tries t (c.performOver t m) trials c') :
    Tries t c (.move m :: trials) c'
  | settle {c c₁ c' : Connection} {order : List Go} {trials : List Trial}
    (hs : GoesOn t c order c₁) (hidle : c₁.isIdle = true) (h : Tries t c₁ trials c') :
    Tries t c (.settle order :: trials) c'

/-- What two connections have in common that differ in starts that failed. -/
structure Matches (c d : Connection) : Prop where
  /-- The same frames were accepted, in the same order. -/
  accepted : c.accepted = d.accepted
  /-- The same messages were given to handlers, in the same order. -/
  handled : c.handled = d.handled
  delivered : ∀ sid,
    (c.subscription? sid).map (·.delivered) = (d.subscription? sid).map (·.delivered)
  pending : ∀ sid,
    (c.subscription? sid).map (·.queue.pending) = (d.subscription? sid).map (·.queue.pending)
  valid : ∀ sid, (c.subscription? sid).map (·.valid) = (d.subscription? sid).map (·.valid)
  started : ∀ sid, (c.subscription? sid).map (·.isStarted) = (d.subscription? sid).map (·.isStarted)

/-- What a rejected start makes of a subscription. -/
structure Unstarted (sid : Sid) (c c' : Connection) : Prop where
  valid : (c'.subscription? sid).map (·.valid) = some true
  started : (c'.subscription? sid).map (·.isStarted) = some false
  queue : (c'.subscription? sid).map (·.queue) = (c.subscription? sid).map (·.queue)

/-- What is left of the making of a subscription whose announcement was rejected by a gate, or by
the channel behind it. -/
structure Unmade (bar : Gate) (c c' : Connection) : Prop where
  table : c'.table = c.table
  others : ∀ sid, sid ≠ c.issuedSids + 1 → c'.subscription? sid = c.subscription? sid
  registry : c'.registry = c.registry
  /-- One number was used up. -/
  issued : c'.issuedSids = c.issuedSids + 1
  /-- The channel rejects what withdraws the interest, too. -/
  accepted : bar = .clear → c'.accepted = c.accepted ∧ c'.outbound = c.outbound

end Connection

end PubSub
