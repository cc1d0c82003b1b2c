import PubSub.Connection.Basic

/-!
# The story of a subscription

What the journal of a connection says about one of its subscriptions: which messages its queue
accepted, which of them its workers took and what became of those, and which handler and ceiling
were set last.

## Main definitions

- `Story` — the part of a journal that is about one subscription, newest event first
- `Connection.story` — that part of a connection's journal
- `Story.accepted`, `Story.taken` — the messages that entered and left the queue, oldest first
- `Story.handler?`, `Story.ceiling` — the handler and the ceiling set last
- `Story.dues`, `Story.fates` — what should become of the messages taken, and what did
-/

namespace PubSub

/-- Events about one subscription, newest first. -/
abbrev Story := List Event

/-- The subscription to whose story an event belongs. A message that was never accepted belongs to
no story. -/
def Event.sid? : Event → Option Sid
  | .registered sid _ _ | .handlerSet sid _ | .ceilingSet sid _ | .accepted sid _ | .taken sid _
  | .began sid _ _ | .dropped sid _ .noHandler => some sid
  | _ => none

/-- The story of the subscription with a number. -/
def Connection.story (c : Connection) (sid : Sid) : Story :=
  c.journal.filter fun e => e.sid? == some sid

namespace Story

/-- The messages that entered the queue, oldest first. -/
def accepted : Story → List Message
  | [] => []
  | .accepted _ m :: rest => accepted rest ++ [m]
  | _ :: rest => accepted rest

/-- The messages that left the queue, oldest first. -/
def taken : Story → List Message
  | [] => []
  | .taken _ m :: rest => taken rest ++ [m]
  | _ :: rest => taken rest

/-- The handler set last, if any was. -/
def handler? : Story → Option Handler
  | [] => none
  | .handlerSet _ handler :: _ => some handler
  | .registered _ handler _ :: _ => handler
  | _ :: rest => handler? rest

/-- How many handler invocations began. -/
def begun : Story → Nat
  | [] => 0
  | .began _ _ _ :: rest => begun rest + 1
  | _ :: rest => begun rest

/-- The ceiling set last, and how many invocations had begun by then. -/
def ceiling : Story → Nat × Nat
  | [] => (0, 0)
  | .ceilingSet _ max :: rest => (max, begun rest)
  | .registered _ _ max :: rest => (max, begun rest)
  | _ :: rest => ceiling rest

/-- Each message that left the queue, with the handler set last when it did, oldest first. -/
def dues : Story → List (Message × Option Handler)
  | [] => []
  | .taken _ m :: rest => dues rest ++ [(m, handler? rest)]
  | _ :: rest => dues rest

/-- What became of messages that left the queue, oldest first: which handler was given it, or none
when it was dropped for want of a handler. -/
def fates : Story → List (Message × Option Handler)
  | [] => []
  | .began _ handler d :: rest => fates rest ++ [(d.message, some handler)]
  | .dropped _ m .noHandler :: rest => fates rest ++ [(m, none)]
  | _ :: rest => fates rest

end Story

end PubSub
