import PubSub.Request.Registry

/-!
# Histories of a registry

What can be done to a registry of requests, one thing after the other.

## Main definitions

- `Registry.Op` — one thing to do, and `Registry.Op.registered?` whether that is to register
- `Registry.perform`, `Registry.run` — doing one thing, and a list of things in order
- `Registry.Exit`, `Registry.leave`, `Registry.leaveAll` — requests that leave one by one, by a
  reply or given up, with what each answers
- `Registry.leaveAround` — the same with one sweep somewhere between

## Design notes

Looking at a request and waiting for it are the same to the registry. A caller that lets go of its
request changes nothing either: the registry does not know who looks at its requests.
-/

namespace PubSub.Registry

/-- Something done to a registry. -/
inductive Op where
  | register (key : String) (options : RequestOptions) (defaultTimeout : Duration) (now : Instant)
  | resolveReply (key : String) (reply : Message)
  | abandon (key : String)
  | cancelAll
  /-- Requests expire whose deadline is at or before an instant. -/
  | sweepExpired (now : Instant)
  /-- The caller of a request looks at it or polls it. -/
  | look (number : Nat)
  | letGo (number : Nat)

/-- The key under which a request is registered, if that is what is done. -/
def Op.registered? : Op → Option String
  | .register key _ _ _ => some key
  | _ => none

/-- The registry after something was done to it. -/
def perform (reg : Registry) : Op → Registry
  | .register key options defaultTimeout now => (reg.register key options defaultTimeout now).2
  | .resolveReply key reply => (reg.resolveReply key reply).2
  | .abandon key => (reg.abandon key).2
  | .cancelAll => reg.cancelAll.2
  | .sweepExpired now => (reg.sweepExpired now).2
  | .look number => (reg.tryResult number).2
  | .letGo _ => reg

/-- The registry after a list of things was done to it, in order. -/
def run (reg : Registry) (ops : List Op) : Registry := ops.foldl perform reg

@[simp] theorem run_nil (reg : Registry) : reg.run [] = reg := rfl

@[simp] theorem run_cons (reg : Registry) (op : Op) (ops : List Op) :
    reg.run (op :: ops) = (reg.perform op).run ops := rfl

@[simp] theorem run_append (reg : Registry) (ops ops' : List Op) :
    reg.run (ops ++ ops') = (reg.run ops).run ops' := List.foldl_append

/-! ## One by one -/

/-- A way out for the request that waits under a key, if one does. -/
inductive Exit where
  | reply (key : String) (m : Message)
  | abandon (key : String)

/-- The key that something wants to leave. -/
def Exit.key : Exit → String
  | .reply key _ => key
  | .abandon key => key

/-- What becomes of the request that leaves. -/
def Exit.outcome : Exit → Outcome
  | .reply _ m => .ofReply m
  | .abandon _ => .cancelled .closing

/-- One way out is taken; whether a request left by it. -/
def leave (reg : Registry) : Exit → Bool × Registry
  | .reply key m => reg.resolveReply key m
  | .abandon key => reg.abandon key

/-- A list of ways out, taken in order, each with its answer. -/
def leaveAll (reg : Registry) : List Exit → List (Exit × Bool) × Registry
  | [] => ([], reg)
  | x :: xs =>
    let rest := (reg.leave x).2.leaveAll xs
    ((x, (reg.leave x).1) :: rest.1, rest.2)

/-- Ways out before and after a sweep at `now`: what they answer, how many requests the sweep let
expire, and what is left. -/
def leaveAround (reg : Registry) (now : Instant) (before after : List Exit) :
    List (Exit × Bool) × Nat × Registry :=
  let first := reg.leaveAll before
  let swept := first.2.sweepExpired now
  let last := swept.2.leaveAll after
  (first.1 ++ last.1, swept.1, last.2)

end PubSub.Registry
