import PubSub.Request.Basic

/-!
# Exchanges

A request between those who may resolve it and the caller who holds it.

## Main definitions

- `Exchange` — a request, and whether its caller still holds it
- `Exchange.Op`, `Exchange.Answer` — what can be done, and what that answers
- `Exchange.perform`, `Exchange.run` — doing one thing, and a list of things in order
- `Exchange.attempts` — the outcomes that were offered, in order

## Design notes

Whoever resolves a request does not know whether its caller still holds it. The caller can look for
the result, wait for it, or ask what the state cell tells, in any order and as often as it likes,
until it lets go.
-/

namespace PubSub

/-- A request and its caller. -/
structure Exchange where
  request : Request
  /-- Whether the caller still holds the request. -/
  held : Bool := true

namespace Exchange

/-- Something done to a request, by those who may resolve it or by its caller. -/
inductive Op where
  | attempt (outcome : Outcome)
  | tryResult
  | poll
  | flags
  | letGo

/-- The direct answer to something done. -/
inductive Answer where
  /-- Whether an attempt assigned the state cell. -/
  | won (yes : Bool)
  | result (result : Option Settlement)
  | flags (flags : Request.Flags)
  | nothing
  /-- The caller no longer holds the request. -/
  | missing

/-- A request that was just made. -/
def start (key : String) (options : RequestOptions) (defaultTimeout : Duration) (now : Instant) :
    Exchange where
  request := Request.create key options defaultTimeout now

/-- Something that only a caller who holds the request can do. -/
def byCaller (x : Exchange) (f : Request → Answer × Request) : Answer × Exchange :=
  if x.held then
    let (answer, r) := f x.request
    (answer, { x with request := r })
  else (.missing, x)

/-- One thing done, and its answer. -/
def perform (x : Exchange) : Op → Answer × Exchange
  | .attempt o =>
    let (won, r) := x.request.resolve o
    (.won won, { x with request := r })
  | .tryResult => x.byCaller fun r => (.result r.tryResult.1, r.tryResult.2)
  | .poll => x.byCaller fun r => (.result r.poll.1, r.poll.2)
  | .flags => x.byCaller fun r => (.flags r.flags, r)
  | .letGo => (.nothing, { x with held := false })

/-- The exchange after a list of things was done, in order. -/
def run (x : Exchange) (ops : List Op) : Exchange := ops.foldl (fun x op => (x.perform op).2) x

/-- The outcomes that were offered, in order. -/
def attempts (ops : List Op) : List Outcome :=
  ops.filterMap fun op =>
    match op with
    | .attempt o => some o
    | _ => none

@[simp] theorem run_nil (x : Exchange) : x.run [] = x := rfl

@[simp] theorem run_cons (x : Exchange) (op : Op) (ops : List Op) :
    x.run (op :: ops) = (x.perform op).2.run ops := rfl

end Exchange

end PubSub
