import PubSub.Connection.Tame
import PubSub.Connection.Traffic

/-!
# Runs whose handlers end as they please

A run in which every invocation is free in how long it is suspended and in how it ends: at any time
what is left of its script may be exchanged for another one that is tame alike, and so may every
handler, even the hook. A run is told by the things that are done to the connection, without the
steps of workers in which a handler is merely suspended, and by the failures of its invocations in the
order in which they end.

## Main definitions

- `Connection.suspends` — whether a thing to do leaves a handler suspended
- `Connection.failing?` — the failure in which an invocation ends when a thing is done
- `Connection.Sways` — the handlers turn out to be others that are tame alike
- `Connection.Plays` — a run, with what is done in it and with its failures
- `Connection.handled`, `Connection.hookCalls` — the messages given to handlers, and the hook's calls
- `Connection.Agrees` — what two connections have in common whose handlers end differently
-/

namespace PubSub

/-- Whether an event is that the failure hook was called. -/
def Event.isHookCall : Event → Bool
  | .observed .. | .hookFailed .. => true
  | _ => false

/-- How the failure hook shows that it was called about a subscription and a failure. It may have
panicked itself. -/
inductive Event.Tells (failed : Sid × Failure) : Event → Prop where
  | observed : Tells failed (.observed failed.1 failed.2)
  | hookFailed : Tells failed
    (.hookFailed failed.1 ("hook failed on " ++ toString failed.1 ++ ": " ++ failed.2.message))

/-- The subscription and the message that a handler was given. -/
def Event.begun? : Event → Option (Sid × Message)
  | .began sid _ d => some (sid, d.message)
  | _ => none

namespace Connection

/-- The invocation that a worker is at. -/
def invocationAt? (c : Connection) (sid : Sid) (i : Nat) : Option Invocation :=
  ((c.subscription? sid).bind (·.workers[i]?)).bind Worker.invocation?

/-- Whether a thing to do is a step of a worker whose handler is asleep, or is to be suspended
next. -/
def suspends (c : Connection) : Move → Bool
  | .stepWorker sid i =>
    (c.invocationAt? sid i).any fun invocation =>
      invocation.wakeAt.any (c.clock < ·) ||
        invocation.script.head?.any Action.suspends
  | _ => false

/-- The failure of a handler that has to answer a message, and cannot. -/
def unanswered? (t : Transport) (c : Connection) (d : Delivery) (payload : ByteArray) :
    Option Failure :=
  match (c.respond t d payload).1 with
  | .ok () => none
  | .error e => some ⟨.error, e.message⟩

/-- The failure that an action of a handler amounts to. -/
def failure? (t : Transport) (c : Connection) (d : Delivery) : Action → Option Failure
  | .fail cause => some ⟨.error, cause⟩
  | .panic payload => some ⟨.panic, payload.message⟩
  | .respondStrict payload => c.unanswered? t d payload
  | .respondUpper => c.unanswered? t d (Text.upperAscii d.message.payload)
  | _ => none

/-- The failure in which an invocation ends when a thing is done, with the subscription it is of. -/
def failing? (t : Transport) (c : Connection) : Move → Option (Sid × Failure)
  | .stepWorker sid i =>
    (c.invocationAt? sid i).bind fun invocation =>
      invocation.script.head?.bind fun action =>
        (c.failure? t invocation.delivery action).map (Prod.mk sid)
  | _ => none

/-- The same connection, whose handlers will end otherwise than they would have. A hook stays, but
may from now on panic or no longer do so. -/
structure Sways (c c' : Connection) : Prop where
  tame : c'.tame = c.tame
  journal : c'.journal = c.journal
  counts : c'.counts = c.counts
  hook : c'.hook = .absent ↔ c.hook = .absent

/-- What becomes of a connection when some things are done to it whose handlers end as they please,
and which invocations failed, in the order in which they ended. -/
inductive Plays (t : Transport) :
    Connection → List Move → List (Sid × Failure) → Connection → Prop where
  | rest (c : Connection) : Plays t c [] [] c
  | sway {c c₁ c' : Connection} {moves : List Move} {failures : List (Sid × Failure)}
    (h : c.Sways c₁) (hplays : Plays t c₁ moves failures c') : Plays t c moves failures c'
  | suspend {c c' : Connection} {move : Move} {moves : List Move} {failures : List (Sid × Failure)}
    (h : c.suspends move = true) (hplays : Plays t (c.performOver t move) moves failures c') :
    Plays t c moves failures c'
  | perform {c c' : Connection} {move : Move} {moves : List Move} {failures : List (Sid × Failure)}
    (h : c.suspends move = false) (hplays : Plays t (c.performOver t move) moves failures c') :
    Plays t c (move :: moves) ((c.failing? t move).toList ++ failures) c'

/-- Every message that a handler was given, with the subscription, oldest first. -/
def handled (c : Connection) : List (Sid × Message) := c.journal.reverse.filterMap Event.begun?

/-- The calls of the failure hook, oldest first. -/
def hookCalls (c : Connection) : List Event := c.journal.reverse.filter Event.isHookCall

/-- What two connections have in common whose handlers end differently. -/
structure Agrees (c c' : Connection) : Prop where
  /-- The same messages were given to handlers, in the same order. -/
  handled : c'.handled = c.handled
  delivered : ∀ sid, (c'.subscription? sid).map (·.delivered) = (c.subscription? sid).map (·.delivered)
  pending : ∀ sid,
    (c'.subscription? sid).map (·.queue.pending) = (c.subscription? sid).map (·.queue.pending)
  valid : ∀ sid, (c'.subscription? sid).map (·.valid) = (c.subscription? sid).map (·.valid)
  started : ∀ sid,
    (c'.subscription? sid).map (·.isStarted) = (c.subscription? sid).map (·.isStarted)
  /-- The same frames were offered to the transport, in the same order and with the same success. -/
  traffic : c'.traffic = c.traffic
  registry : c'.registry = c.registry

end Connection

end PubSub
