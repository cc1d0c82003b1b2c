import PubSub.Demo

/-!
# The demo in any order

The demo's parties take turns: the client's task, the router, the workers and the sweeper. Any party
that can go on may be the next one to do so; time passes only when none of them can, and then until
the first moment at which one of them wants to be woken.

## Main definitions

- `Demo.Scene` — the client's task, its connection and the router
- `Demo.Actor` — one of those who take turns
- `Demo.Scene.isReady`, `Demo.Scene.step` — whether an actor can go on, and one step of it
- `Demo.Scene.Turn` — one step of any actor that can go on, or time that passes
- `Demo.Scene.isOver` — the client's task has ended and so have all tasks of its connection
- `Demo.Scene.Ends` — the demo comes to an end, whoever's turn it is each time, and leaves a report
- `Demo.opening` — the demo before anybody's first turn

## Design notes

The end of the demo is that of the client's task together with that of the workers and the sweeper,
for which the client's task waits when it shuts its connection down. The router is not waited for:
it may have frames left.
-/

namespace PubSub.Demo

/-- The client's task and its surroundings. -/
structure Scene where
  client : Client
  node : Node

/-- One of those who take turns. -/
inductive Actor where
  | client
  | task (task : Task)
  deriving DecidableEq

/-- A fresh connection under a token, with a router that reads its frames; nobody had a turn yet. -/
def opening (settings : CommandLine.Settings) (token : String) : Scene :=
  let config : Config := { requestTimeout := Duration.ofMillis settings.timeoutMs }
  let c := (Connection.create 1 config token 0 1024 handle).addHandle routerHandle
  { client := { settings }
    node := { connection := { c with hook := .record }, router := some {} } }

namespace Scene

/-- Whether an actor can go on. -/
def isReady (x : Scene) : Actor → Bool
  | .client => x.client.isReady x.node.connection
  | .task task => x.node.isReady task

/-- One step of an actor. -/
def step (x : Scene) : Actor → Scene
  | .client =>
    let (k, c) := x.client.step x.node.connection
    { client := k, node := { x.node with connection := c } }
  | .task task => { x with node := (x.node.stepTask task).2 }

/-- When an actor that waits for time can go on. -/
def timer? (x : Scene) : Actor → Option Instant
  | .client =>
    match x.client.stage with
    | .pausing wakeAt => some wakeAt
    | _ => none
  | .task task => x.node.timer? task

/-- Every actor. -/
def actors (x : Scene) : List Actor := .client :: x.node.tasks.map .task

/-- The next instant at which an actor can go on. -/
def nextTimer? (x : Scene) : Option Instant := (x.actors.filterMap x.timer?).min?

/-- The same at a later instant. -/
def setClock (x : Scene) (now : Instant) : Scene := { x with node := x.node.setClock now }

/-- What may happen next: an actor that can go on does one step, or, when there is none, time passes
until there may be one. -/
inductive Turn (x : Scene) : Scene → Prop where
  | act (a : Actor) (hready : x.isReady a = true) : Turn x (x.step a)
  | wait (now : Instant) (hrest : ∀ a, x.isReady a = false) (hnext : x.nextTimer? = some now) :
    Turn x (x.setClock now)

/-- Whether the client's task has ended, and so have all workers and the sweeper. -/
def isOver (x : Scene) : Bool := x.client.isOver && x.node.isQuiet

/-- Whatever happens, the demo comes to an end, and this is what it leaves behind. -/
inductive Ends : Scene → Report → Prop where
  | stops {x : Scene} (hover : x.isOver = true) : Ends x x.client.report
  | goesOn {x : Scene} {report : Report} (hnot : x.isOver = false) (hgoes : ∃ y, x.Turn y)
    (hall : ∀ y, x.Turn y → Ends y report) : Ends x report

end Scene

end PubSub.Demo
