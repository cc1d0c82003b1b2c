import PubSub.Request.Sweeper

/-!
# A registry under its sweeper

A registry of requests together with the task that lets them expire, on a clock of their own. What
the application does takes no time; time passes only when it waits. The sweeper goes on step by step
between the things that the application does, and before any time passes it has gone as far as it can.

## Main definitions

- `Watched` — sweeper, registry and clock
- `Watched.Op`, `Watched.perform`, `Watched.run` — one thing to do, doing it, and doing many
-/

namespace PubSub

/-- A registry and its sweeper at an instant. -/
structure Watched where
  sweeper : Sweeper
  registry : Registry := {}
  now : Instant := 0

namespace Watched

/-- Something done to a registry under its sweeper. -/
inductive Op where
  | register (key : String) (options : RequestOptions) (defaultTimeout : Duration)
  | resolveReply (key : String) (reply : Message)
  | abandon (key : String)
  | cancelAll
  /-- The caller of a request looks at it or polls it. -/
  | look (number : Nat)
  | step
  /-- The sweeper goes on as far as it can without time passing. -/
  | settle
  | advance (span : Duration)

/-- A fresh sweeper over an empty registry. -/
def start (interval : Duration) (now : Instant) : Watched where
  sweeper := { interval := interval }
  now := now

/-- The same with another registry. -/
def withRegistry (w : Watched) (reg : Registry) : Watched := { w with registry := reg }

/-- The same with what the sweeper made of itself and of the registry. -/
def sweptTo (w : Watched) (swept : Sweeper × Registry) : Watched :=
  { w with sweeper := swept.1, registry := swept.2 }

/-- The state after something was done. -/
def perform (w : Watched) : Op → Watched
  | .register key options defaultTimeout =>
    w.withRegistry (w.registry.register key options defaultTimeout w.now).2
  | .resolveReply key reply => w.withRegistry (w.registry.resolveReply key reply).2
  | .abandon key => w.withRegistry (w.registry.abandon key).2
  | .cancelAll => w.withRegistry w.registry.cancelAll.2
  | .look number => w.withRegistry (w.registry.tryResult number).2
  | .step => w.sweptTo (w.sweeper.step w.registry w.now)
  | .settle => w.sweptTo (w.sweeper.settle w.registry w.now)
  | .advance span =>
    { w.sweptTo (w.sweeper.advance w.registry w.now (w.now + span)) with now := w.now + span }

/-- The state after a list of things was done, in order. -/
def run (w : Watched) (ops : List Op) : Watched := ops.foldl perform w

@[simp] theorem run_nil (w : Watched) : w.run [] = w := rfl

@[simp] theorem run_cons (w : Watched) (op : Op) (ops : List Op) :
    w.run (op :: ops) = (w.perform op).run ops := rfl

@[simp] theorem run_append (w : Watched) (ops ops' : List Op) :
    w.run (ops ++ ops') = (w.run ops).run ops' := List.foldl_append

end Watched

end PubSub
