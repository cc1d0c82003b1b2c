import PubSub.Connection.Transport
import PubSub.Connection.Worker
import PubSub.Router

/-!
# The executor

Several connections on one thread and one clock. Tasks that can go on are run first come, first
served; time passes only when nobody can go on.

## Main definitions

- `Task`, `TaskRef` — a worker, a sweeper or a router, and where it belongs
- `Node` — a connection with the router that may be attached to it
- `Executor` — nodes, clock, and the tasks that wait for their turn
- `Executor.step`, `Executor.settle` — one step of one task, and all steps that need no time
- `Executor.advanceTo`, `Executor.runUntil` — letting time pass

## Design notes

A task goes on until it has to wait. A task that yields goes behind every task that is ready, also
behind those that become ready in the meantime. The order of waiting is derived: after each step the
tasks that have become able to go on are appended in the order in which they began to wait for time,
or else in the order of nodes, sweeper, router and workers. Handlers may feed each other messages
without end, so the number of steps at one instant is limited.
-/

namespace PubSub

/-- A background task of a connection. -/
inductive Task where
  | sweeper
  | router
  | worker (sid : Sid) (number : Nat)
  deriving DecidableEq

/-- A task and the node it belongs to. -/
structure TaskRef where
  node : Nat
  task : Task
  deriving DecidableEq

/-- A connection with its surroundings. -/
structure Node where
  connection : Connection
  router : Option Router := none
  /-- Whether the connection is gone. -/
  dropped : Bool := false

namespace Node

/-- The worker tasks of a subscription. -/
def workerTasks (s : Subscription) : List Task :=
  (List.range s.workers.length).map (Task.worker s.sid)

/-- Every task of the node. -/
def tasks (n : Node) : List Task :=
  .sweeper :: .router :: n.connection.subscriptions.flatMap workerTasks

/-- Whether a task can go on. -/
def isReady (n : Node) : Task → Bool
  | .sweeper => n.connection.sweeper.isReady n.connection.registry n.connection.clock
  | .router => n.router.isSome && !n.connection.outbound.entries.isEmpty
  | .worker sid i =>
    match n.connection.subscription? sid with
    | some s => s.isReady i n.connection.clock
    | none => false

/-- When a task that waits for time can go on. -/
def timer? (n : Node) : Task → Option Instant
  | .sweeper => n.connection.sweeper.timer?
  | .router => none
  | .worker sid i =>
    match n.connection.subscription? sid with
    | some s => (s.workers[i]?).bind Worker.timer?
    | none => none

/-- One step of the router: it takes a frame and feeds back what becomes of it. -/
def stepRouter (n : Node) : Node :=
  match n.router with
  | none => n
  | some router =>
    match n.connection.outbound.tryRecv with
    | (none, _) => n
    | (some o, outbound) =>
      let (fed, router) := router.route o.frame
      let c := { n.connection with outbound := outbound }
      let c := match fed with
        | some m => (c.processInbound m).2
        | none => c
      { n with connection := c, router := some router }

/-- One step of a task. -/
def stepTask (n : Node) : Task → Pace × Node
  | .sweeper => (.steady, { n with connection := n.connection.stepSweeper })
  | .router => (.steady, n.stepRouter)
  | .worker sid i =>
    let (pace, c) := n.connection.stepWorker Connection.transport sid i
    (pace, { n with connection := c })

/-- The same at a later instant. -/
def setClock (n : Node) (now : Instant) : Node :=
  { n with connection := { n.connection with clock := now } }

/-- Whether all workers and the sweeper have ended. -/
def isQuiet (n : Node) : Bool :=
  n.connection.sweeper.phase = .stopped &&
    n.connection.subscriptions.all fun s => s.workers.all Worker.isFinished

end Node

/-- Connections that share a thread and a clock. -/
structure Executor where
  now : Instant := 0
  nodes : List Node := []
  /-- The tasks whose turn comes, the next one first. -/
  ready : List TaskRef := []
  /-- The tasks that let all others go first. -/
  yielded : List TaskRef := []
  /-- The tasks that wait for time, in the order they began to. -/
  sleepers : List (TaskRef × Instant) := []
  /-- What all connections did, newest first, with the position of the connection. -/
  journal : List (Nat × Event) := []

namespace Executor

/-- The node at a position. -/
def node? (x : Executor) (i : Nat) : Option Node := x.nodes[i]?

/-- Whether a task can go on. -/
def isReady (x : Executor) (ref : TaskRef) : Bool :=
  match x.node? ref.node with
  | some n => n.isReady ref.task
  | none => false

/-- When a task that waits for time can go on. -/
def timer? (x : Executor) (ref : TaskRef) : Option Instant :=
  (x.node? ref.node).bind (·.timer? ref.task)

/-- Every task of every node. -/
def tasks (x : Executor) : List TaskRef :=
  (List.range x.nodes.length).flatMap fun i =>
    match x.node? i with
    | some n => n.tasks.map (TaskRef.mk i)
    | none => []

/-- The tasks that wait for time after now, in the order they began to. -/
def updateSleepers (x : Executor) (tasks : List TaskRef) : Executor :=
  let pairs := tasks.filterMap fun ref => (x.timer? ref).map (Prod.mk ref)
  let waiting := pairs.filter (x.now < ·.2)
  let kept := x.sleepers.filter (waiting.contains ·)
  { x with sleepers := kept ++ waiting.filter (!kept.contains ·) }

/-- Gives every task that has become able to go on its place in the order. -/
def collect (x : Executor) : Executor :=
  let tasks := x.tasks
  let ordered := x.sleepers.map (·.1) ++ tasks.filter fun ref => !(x.sleepers.any (·.1 == ref))
  let fresh := ordered.filter fun ref =>
    x.isReady ref && !x.ready.contains ref && !x.yielded.contains ref
  { x with ready := x.ready ++ fresh }.updateSleepers tasks

/-- Replaces the node at a position and takes over what its journal has gained. -/
def setNode (x : Executor) (i : Nat) (n : Node) : Executor :=
  match x.node? i with
  | none => x
  | some old =>
    let gained :=
      n.connection.journal.take (n.connection.eventCount - old.connection.eventCount)
    { x with
      nodes := x.nodes.set i n
      journal := gained.map (Prod.mk i) ++ x.journal }.collect

/-- Changes the connection at a position and answers what the change says. -/
def onConnection {α : Type} (x : Executor) (i : Nat) (absent : α)
    (f : Connection → α × Connection) : α × Executor :=
  match x.node? i with
  | none => (absent, x)
  | some n =>
    let (a, c) := f n.connection
    (a, x.setNode i { n with connection := c })

/-- Adds a connection. -/
def addNode (x : Executor) (n : Node) : Executor := { x with nodes := x.nodes ++ [n] }.collect

/-- How many connections are not gone. -/
def activeCount (x : Executor) : Nat := (x.nodes.filter (!·.dropped)).length

/-- One step of the task whose turn it is, or nothing when nobody can go on. -/
def step (x : Executor) : Option Executor :=
  match x.ready with
  | ref :: rest =>
    match x.node? ref.node with
    | none => some { x with ready := rest }
    | some n =>
      if n.isReady ref.task then
        let (pace, n) := n.stepTask ref.task
        let x := match pace with
          | .yielding => { x with ready := rest, yielded := x.yielded ++ [ref] }
          | .steady => x
        some (x.setNode ref.node n)
      else some { x with ready := rest }
  | [] =>
    match x.yielded with
    | [] => none
    | yielded => some { x with ready := yielded, yielded := [] }

/-- At most `fuel` steps at one instant. -/
def steps (x : Executor) : Nat → Executor
  | 0 => x
  | fuel + 1 =>
    match x.step with
    | some x => x.steps fuel
    | none => x

/-- The most steps at one instant. -/
def stepLimit : Nat := 1000000

/-- All steps that need no time. -/
def settle (x : Executor) : Executor := x.steps stepLimit

/-- The same at a later instant. -/
def setClock (x : Executor) (now : Instant) : Executor :=
  { x with
    now := now
    nodes := x.nodes.map (Node.setClock · now) }.collect

/-- The next instant at which a task can go on. -/
def nextTimer? (x : Executor) : Option Instant := (x.sleepers.map (·.2)).min?

/-- Settles and passes to the next instant, at most `fuel` times, until something holds or `limit`
is reached; whether it came to hold. When it holds at once, or there is no time, nobody goes on. -/
def runBy (x : Executor) (holds : Executor → Bool) (limit : Instant) : Nat → Bool × Executor
  | 0 => (holds x, x)
  | fuel + 1 =>
    if holds x then (true, x)
    else if limit ≤ x.now then (false, x)
    else
      let x := x.settle
      if holds x then (true, x)
      else
        match x.nextTimer? with
        | some wakeAt =>
          if wakeAt < limit then (x.setClock wakeAt).runBy holds limit fuel
          else (false, x.setClock limit)
        | none => (false, x.setClock limit)

/-- Lets time pass until something holds, but not beyond `limit`. Each pass moves the clock forward,
so there are no more passes than instants. -/
def runUntil (x : Executor) (holds : Executor → Bool) (limit : Instant) : Bool × Executor :=
  x.runBy holds limit (limit - x.now + 1)

/-- Lets time pass until an instant, every timer at its own moment. -/
def advanceTo (x : Executor) (target : Instant) : Executor :=
  (x.runUntil (fun _ => false) target).2.settle

end Executor

end PubSub
