import Mathlib.Logic.Relation
import PubSub.Connection.Play

/-!
# Runs in which one subscription is left to itself

A run of a connection from outside: things are done to it, then its tasks go on as far as they can, or
time passes. In which order the tasks take their turns is open. One subscription is free: its handler
may be suspended for as long as it pleases, and end as it pleases; nobody waits for its workers, and
they may take turns or not. Two such runs are compared by what is not addressed to that subscription.

## Main definitions

- `Transport.Accepts`, `Transport.recording` — every frame is accepted, and nothing else happens
- `Action.isPlain` — what a handler may do that concerns only its own message
- `Connection.Turn`, `Connection.Settles`, `Connection.Passes` — one task goes on, all of them go on as
  far as they can, and time passes
- `Connection.Cue`, `Connection.Unfolds` — one thing that happens to a connection from outside, and
  what it comes to
- `Connection.Cue.isFor`, `Connection.Cue.apart` — whether it is addressed to a given subscription,
  and those cues that are not
- `Connection.AgreesApart` — what two connections have in common, one subscription apart
- `Connection.KeptUp` — whether every other subscription has dealt with its messages

## Design notes

Time passes an instant at a time, and at each instant the tasks go on as far as they can. At most
instants there is nothing to do, so this is the same as to pass from timer to timer.
-/

namespace PubSub

/-- Every frame is accepted, and nothing happens but that it is. -/
def Transport.Accepts (t : Transport) : Prop :=
  ∀ (o : Outgoing) (c : Connection), ∃ outbound : Outbound Outgoing,
    t o c = (.ok (), { c with outbound := outbound }.log (.offered o (.ok ())))

/-- The transport that records every frame. -/
def Transport.recording : Transport := fun o c =>
  (.ok (), { c with
    outbound := { c.outbound with entries := c.outbound.entries ++ [o] } }.log (.offered o (.ok ())))

/-- Whether an action of a handler is to be suspended, to end, to answer its own message, or to
observe. -/
def Action.isPlain : Action → Bool
  | .fail _ | .panic _ | .respond _ | .respondStrict _ | .respondUpper | .yield _ | .sleep _
  | .remark _ | .info => true
  | _ => false

namespace Connection

/-- Whether a thing to do is done from outside, and not by a task or by the clock. -/
def Move.isExternal : Move → Bool
  | .stepWorker .. | .stepSweeper | .setClock _ => false
  | _ => true

/-- Whether a thing to do is to shut the connection down. -/
def shutsDown (c : Connection) : Move → Bool
  | .close => true
  | .dropHandle handle => (c.handles.filter (· != handle)).isEmpty
  | _ => false

/-- Whether a thing to do is addressed to the subscription with a number, on a connection with the
given inbox. -/
def Move.isFor (inbox : Inbox) (sid : Sid) : Move → Bool
  | .letGo other | .start other | .unsubscribe other | .autoUnsubscribe other _
  | .closeSubscription other | .enable other | .disable other | .setHandler other _
  | .deliver other _ | .deliverTo other _ => other == sid
  | .process m => !inbox.owns m.subject && m.sid == sid
  | _ => false

/-- Something that happens to a connection from outside. -/
inductive Cue where
  | move (m : Move)
  /-- All tasks go on as far as they can without time passing. -/
  | settle
  /-- Time passes until an instant. -/
  | advance (target : Instant)

/-- Whether a cue is a thing to do that is addressed to the subscription with a number. -/
def Cue.isFor (inbox : Inbox) (sid : Sid) : Cue → Bool
  | .move m => m.isFor inbox sid
  | .settle | .advance _ => false

/-- The cues that are not addressed to the subscription with a number. -/
def Cue.apart (inbox : Inbox) (sid : Sid) (cues : List Cue) : List Cue :=
  cues.filter fun cue => !cue.isFor inbox sid

/-- Whether what a worker does next, if its handler is at work, is plain. -/
def isMild (c : Connection) (sid : Sid) (i : Nat) : Bool :=
  (c.subscription? sid).all fun s => (c.nextAction? s i).all Action.isPlain

/-- Whether a thing to do is that a task goes on, and nothing but what is plain comes of it. -/
def isMildTurn (c : Connection) : Move → Bool
  | .stepWorker sid i => c.isMild sid i
  | .stepSweeper => true
  | _ => false

/-- Whether this is so of each of some things to do, one after the other. -/
def areMildTurns (t : Transport) (c : Connection) : List Move → Bool
  | [] => true
  | m :: moves => c.isMildTurn m && (c.performOver t m).areMildTurns t moves

/-- One task goes on, or the handler of the free subscription turns out to have something else left
to do. -/
inductive Turn (t : Transport) (free : Sid) : Connection → Connection → Prop where
  | worker (c : Connection) {sid : Sid} {i : Nat} (h : c.isMild sid i = true) :
    Turn t free c (c.stepWorker t sid i).2
  | sweeper (c : Connection) : Turn t free c c.stepSweeper
  | sway (c : Connection) {i : Nat} {invocation : Invocation}
    (h : c.invocationAt? free i = some invocation) (script : List Action)
    (wakeAt : Option Instant) : Turn t free c
      (c.setPhase free i (.handling { invocation with script := script, wakeAt := wakeAt }))

/-- Whether no task can go on, except perhaps workers of the free subscription. -/
def isAtRest (c : Connection) (free : Sid) : Bool :=
  !c.sweeper.isReady c.registry c.clock &&
    c.subscriptions.all fun s => s.sid == free ||
      (List.range s.workers.length).all fun i => !s.isReady i c.clock

/-- No other subscription lags behind: where one is started and its handler is not at work, none of
its messages is still queued. -/
def KeptUp (c : Connection) (free : Sid) : Prop :=
  ∀ sid s, sid ≠ free → c.subscription? sid = some s → s.valid = true → s.isStarted = true →
    s.isHandling = false → s.queue.entries = []

/-- The tasks go on as far as they can, in any order. -/
structure Settles (t : Transport) (free : Sid) (c c' : Connection) : Prop where
  turns : Relation.ReflTransGen (Turn t free) c c'
  rest : c'.isAtRest free = true

/-- Time passes until an instant. -/
inductive Passes (t : Transport) (free : Sid) (target : Instant) :
    Connection → Connection → Prop where
  | arrive {c c' : Connection} (h : target ≤ c.clock) (hs : Settles t free c c') :
    Passes t free target c c'
  | tick {c c₁ c' : Connection} (h : c.clock < target) (hs : Settles t free c c₁)
    (hp : Passes t free target { c₁ with clock := c.clock + 1 } c') : Passes t free target c c'

/-- What a connection comes to by a list of cues, none of which shuts it down. -/
inductive Unfolds (t : Transport) (free : Sid) :
    Connection → List Cue → Connection → Prop where
  | done (c : Connection) : Unfolds t free c [] c
  | move {c c' : Connection} {m : Move} {cues : List Cue} (hexternal : m.isExternal = true)
    (hopen : c.shutsDown m = false) (h : Unfolds t free (c.performOver t m) cues c') :
    Unfolds t free c (.move m :: cues) c'
  /-- The free subscription need not be started when it is made. -/
  | make {c c' : Connection} {handle : Nat} {plan : SubscriptionPlan} {cues : List Cue}
    (hfree : c.issuedSids + 1 = free)
    (h : Unfolds t free (c.performOver t (.build handle plan)) cues c') :
    Unfolds t free c (.move (.subscribe handle plan) :: cues) c'
  | settle {c c₁ c' : Connection} {cues : List Cue} (hs : Settles t free c c₁)
    (h : Unfolds t free c₁ cues c') : Unfolds t free c (.settle :: cues) c'
  | advance {c c₁ c' : Connection} {target : Instant} {cues : List Cue}
    (hp : Passes t free target c c₁) (h : Unfolds t free c₁ cues c') :
    Unfolds t free c (.advance target :: cues) c'

/-- The messages that the handler of a subscription was given, oldest first. -/
def handledBy (c : Connection) (sid : Sid) : List Message :=
  c.handled.filterMap fun entry => if entry.1 = sid then some entry.2 else none

/-- The frames that name a subscription, with what became of them, oldest first. -/
def trafficOf (c : Connection) (sid : Sid) : List (Frame × Except TransportError Unit) :=
  c.traffic.filter fun offer => offer.1.sid? == some sid

/-- What two connections have in common, one subscription apart. -/
structure AgreesApart (free : Sid) (c c' : Connection) : Prop where
  /-- Every other handler was given the same messages, in the same order. -/
  handled : ∀ sid, sid ≠ free → c'.handledBy sid = c.handledBy sid
  delivered : ∀ sid, sid ≠ free →
    (c'.subscription? sid).map (·.delivered) = (c.subscription? sid).map (·.delivered)
  pending : ∀ sid, sid ≠ free →
    (c'.subscription? sid).map (·.queue.pending) = (c.subscription? sid).map (·.queue.pending)
  valid : ∀ sid, sid ≠ free →
    (c'.subscription? sid).map (·.valid) = (c.subscription? sid).map (·.valid)
  started : ∀ sid, sid ≠ free →
    (c'.subscription? sid).map (·.isStarted) = (c.subscription? sid).map (·.isStarted)
  /-- The same frames that name another subscription were offered, in the same order. -/
  traffic : ∀ sid, sid ≠ free → c'.trafficOf sid = c.trafficOf sid
  registry : c'.registry = c.registry

end Connection

end PubSub
