import PubSub.Channel.Dispatch
import PubSub.Request.Options

/-!
# Requests

A request in flight: a cell that is assigned once, and the slot through which its outcome reaches
the caller.

## Main definitions

- `Slot` — a hand-over that is filled once and emptied once
- `Slot.receive` — one look at a hand-over by somebody who would wait
- `Request` — key, options, deadline, state cell, slot, and what the caller has received
- `Request.resolve` — one attempt to assign the cell
- `Request.tryResult`, `Request.poll` — one look by the caller, who does not wait or would
- `Request.flags` — what the state cell tells

## Design notes

The first attempt to resolve a request wins; every later one changes nothing. The slot can be
emptied only once, so the caller keeps what came out of it and answers from there ever after.

A deadline is one that the clock can hold (`Instant.horizon`); a call that asks for a later one gives
no answer at all, and is left out.
-/

namespace PubSub

/-- A hand-over of one value. -/
inductive Slot (α : Type) where
  | vacant
  | filled (a : α)
  | emptied
  deriving DecidableEq

/-- One look at a hand-over by somebody who would wait: what is in it comes out once, and after that
there is nothing to wait for. -/
def Slot.receive {α : Type} : Slot α → Received α × Slot α
  | .vacant => (.pending, .vacant)
  | .filled a => (.entry a, .emptied)
  | .emptied => (.ended, .emptied)

/-- Extra time granted past a request's timeout, for a reply already on its way. -/
def graceMargin : Duration := Duration.ofMillis 10

/-- A request in flight. -/
structure Request where
  key : String
  options : RequestOptions
  /-- From this instant on a sweep cancels it. -/
  expiresAt : Instant
  /-- The state cell: how the request was resolved, if it was. -/
  state : Option Resolution := none
  /-- The way of the outcome to the caller. -/
  slot : Slot Outcome := .vacant
  /-- What the caller has taken out of the slot. -/
  received : Option Outcome := none
  deriving DecidableEq

/-- What a caller can ask about a request without looking for its result. -/
structure Request.Flags where
  done : Bool
  fulfilled : Bool
  closing : Bool
  timedOut : Bool
  deriving DecidableEq

namespace Request

/-- A request made at `now`: it expires after its own timeout, or else the default one, and the
grace margin. -/
def create (key : String) (options : RequestOptions) (defaultTimeout : Duration) (now : Instant) :
    Request where
  key := key
  options := options
  expiresAt := now + options.timeout.getD defaultTimeout + graceMargin

/-- Whether the request was resolved. -/
def isDone (r : Request) : Bool := r.state.isSome

/-- Whether the deadline has come. -/
def isDue (r : Request) (now : Instant) : Bool := r.expiresAt ≤ now

/-- One attempt to resolve the request: it succeeds on a pending request only. -/
def resolve (r : Request) (o : Outcome) : Bool × Request :=
  match r.state with
  | some _ => (false, r)
  | none => (true, { r with state := some o.resolution, slot := .filled o })

/-- One look by the caller: nothing while the request is pending, and the same settlement at every
look after that. -/
def tryResult (r : Request) : Option Settlement × Request :=
  match r.received with
  | some o => (some (r.options.settle o), r)
  | none =>
    match r.slot with
    | .vacant => (none, r)
    | .filled o => (some (r.options.settle o), { r with slot := .emptied, received := some o })
    | .emptied =>
      let o := Outcome.cancelled .closing
      (some (r.options.settle o), { r with received := some o })

/-- The caller keeps what came out of the slot, and answers from there. -/
def keep (r : Request) (slot : Slot Outcome) (o : Outcome) : Option Settlement × Request :=
  (some (r.options.settle o), { r with slot := slot, received := some o })

/-- One look by a caller that waits for the request: nothing yet, or the settlement. -/
def poll (r : Request) : Option Settlement × Request :=
  match r.received with
  | some o => (some (r.options.settle o), r)
  | none =>
    match r.slot.receive with
    | (.pending, _) => (none, r)
    | (.entry o, slot) => r.keep slot o
    | (.ended, slot) => r.keep slot (.cancelled .closing)

/-- What the state cell tells. -/
def flags (r : Request) : Flags where
  done := r.isDone
  fulfilled := r.state = some .fulfilled
  closing := r.state = some .closing
  timedOut := r.state = some .timedOut

/-- The fields of a request that its caller is shown. -/
def describe (r : Request) : String :=
  "RequestHandle \x7b correlation_key: " ++ Text.quote r.key ++ ", done: " ++ toString r.isDone ++
    ", .. \x7d"

end Request

end PubSub
