import PubSub.Connection.Run

/-!
# Handlers without their endings

A handler may be done with a message, return an error or panic, and it may have been suspended
before. What is left when all of this is taken out of its scripts is tame. A connection is tame when
its handlers are, and when nobody is told about failures, which are not counted either.

## Main definitions

- `Action.ends`, `Action.suspends` — the actions that are taken out
- `Action.tame`, `Handler.tame` — actions and handlers without suspensions and endings
- `Event.tame?` — what of an event does not depend on how an invocation ended
- `Connection.tame` — the connection with all handlers tame and all failures forgotten
- `Connection.Move.tame` — a thing to do, with the handlers that it brings in tame

## Design notes

A script is cut off where it fails or panics, for nothing after that is ever done. A handler that puts
another one in place when it is run puts a tame one in place when it is tame.
-/

namespace PubSub

/-- Whether an action is that the handler fails. -/
def Action.ends : Action → Bool
  | .fail _ | .panic _ => true
  | _ => false

/-- Whether an action is that the handler is suspended. -/
def Action.suspends : Action → Bool
  | .yield _ | .sleep _ => true
  | _ => false

mutual

/-- The action, with a tame handler if it puts one in place. -/
def Action.tame : Action → Action
  | .setHandler handler => .setHandler handler.tame
  | action => action

/-- The handler with tame scripts. -/
def Handler.tame : Handler → Handler
  | .mk name scripts otherwise => .mk name (tameScripts scripts) (tameScript otherwise)

/-- The script without suspensions, up to where it fails or panics. -/
def tameScript : List Action → List Action
  | [] => []
  | .fail _ :: _ | .panic _ :: _ => []
  | .yield _ :: rest | .sleep _ :: rest => tameScript rest
  | action :: rest => action.tame :: tameScript rest

/-- The scripts for certain payloads, each of them tame. -/
def tameScripts : List (String × List Action) → List (String × List Action)
  | [] => []
  | (payload, script) :: rest => (payload, tameScript script) :: tameScripts rest

end

/-- The invocation with a tame script, which never sleeps. -/
def Invocation.tame (invocation : Invocation) : Invocation :=
  { invocation with script := tameScript invocation.script, wakeAt := none }

/-- The phase with a tame invocation, if there is one. -/
def Worker.Phase.tame : Worker.Phase → Worker.Phase
  | .handling invocation => .handling invocation.tame
  | phase => phase

/-- The worker in the tame phase. -/
def Worker.tame (w : Worker) : Worker := { w with phase := w.phase.tame }

/-- The subscription with a tame handler, also where it is at work. -/
def Subscription.tame (s : Subscription) : Subscription :=
  { s with handler := s.handler.map Handler.tame, workers := s.workers.map Worker.tame }

/-- The plan with a tame handler. -/
def SubscriptionPlan.tame (plan : SubscriptionPlan) : SubscriptionPlan :=
  { plan with handler := plan.handler.map Handler.tame }

/-- What of an event does not depend on how an invocation ended, with all handlers tame. -/
def Event.tame? : Event → Option Event
  | .registered sid handler max => some (.registered sid (handler.map Handler.tame) max)
  | .handlerSet sid handler => some (.handlerSet sid handler.tame)
  | .began sid handler d => some (.began sid handler.tame d)
  | .ended sid _ => some (.ended sid none)
  | .warned .. | .observed .. | .hookFailed .. => none
  | e => some e

namespace Connection

/-- The connection with all handlers tame and all failures forgotten. -/
def tame (c : Connection) : Connection :=
  { c with
    subscriptions := c.subscriptions.map Subscription.tame
    hook := .absent
    counts := { c.counts with errors := 0, panics := 0 }
    journal := c.journal.filterMap Event.tame?
    eventCount := (c.journal.filterMap Event.tame?).length }

/-- A thing to do, with the handlers that it brings in tame. -/
def Move.tame : Move → Move
  | .build handle plan => .build handle plan.tame
  | .subscribe handle plan => .subscribe handle plan.tame
  | .setHandler sid handler => .setHandler sid handler.tame
  | move => move

end Connection

end PubSub
