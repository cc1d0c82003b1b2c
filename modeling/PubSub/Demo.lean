import PubSub.CommandLine
import PubSub.Executor

/-!
# The demo

A client talks to itself through a loopback router: it publishes events to a subscription of its
own, makes a request that is answered in upper case, and one that nobody listens to.

## Main definitions

- `Demo.Stage`, `Demo.Client` — the client's own task, which goes through a fixed list of stages
- `Demo.Client.isReady`, `Demo.Client.step` — whether the task can go on, and one step of it
- `Demo.run` — the whole demo for given settings
- `Demo.start` — the demo for a line of arguments
- `Demo.Report` — what the demo writes and its exit code

## Design notes

The client's task touches nothing but its connection, so it can be put among the router and the
workers in any order. A whole run lets it go first: the others get their turn only when it waits.
-/

namespace PubSub.Demo

/-- What the demo leaves behind. -/
structure Report where
  code : Nat
  lines : List String
  complaint : String := ""
  deriving DecidableEq

/-- The position of the only connection. -/
def node : Nat := 0

/-- The application's handle to the connection. -/
def handle : Nat := 1

/-- The router's handle to the connection. -/
def routerHandle : Nat := 0

/-- A handler that takes note of events. -/
def eventHandler : Handler := .mk "events" [] []

/-- A handler that answers in upper case. -/
def echoHandler : Handler := .mk "echo" [] [.respondUpper]

/-- The subscription to the events. -/
def eventPlan (max : Nat) : SubscriptionPlan :=
  { subject := "demo.events", max := max, handler := eventHandler }

/-- The subscription that answers requests. -/
def echoPlan : SubscriptionPlan := { subject := "demo.echo", handler := echoHandler }

/-- The body of an event. -/
def eventBody (n : Nat) : ByteArray := ("event " ++ toString n).toUTF8

/-- The body of both requests. -/
def greeting : ByteArray := "hello".toUTF8

/-- How long the client waits before it counts. -/
def pause : Duration := Duration.ofMillis 50

/-- What the client's task is at. -/
inductive Stage where
  | listening
  | offering
  /-- It has published this many events. -/
  | publishing (count : Nat)
  | askingEcho
  | awaitingEcho (number : Nat)
  | askingNobody
  | awaitingNobody (number : Nat)
  /-- It sleeps until an instant. -/
  | pausing (wakeAt : Instant)
  /-- It has ended with an exit code, and perhaps with an error. -/
  | over (code : Nat) (complaint : String)
  deriving DecidableEq

/-- The client's task. -/
structure Client where
  settings : CommandLine.Settings
  stage : Stage := .listening
  /-- The subscription to the events. -/
  events : Sid := 0
  lines : List String := []
  deriving DecidableEq

/-- The line about the request that is answered, if there is an answer. -/
def echoLines : Option Message → List String
  | some reply => ["echo replied: " ++ Text.decodeLossy reply.payload]
  | none => []

/-- The line about the request that nobody listens to. -/
def nobodyLine : Settlement → String
  | .ok _ => "unexpected reply from demo.nobody"
  | .error e => "demo.nobody: " ++ e.message

/-- The line about the events. -/
def countLine (delivered messages : Nat) : String :=
  "demo.events delivered " ++ toString delivered ++ " of " ++ toString messages ++ " messages"

/-- How many messages the subscription with a number has handled. -/
def deliveredTo (c : Connection) (sid : Sid) : Nat :=
  ((c.subscription? sid).map (·.delivered)).getD 0

namespace Client

/-- The task at another stage. -/
def enter (k : Client) (stage : Stage) : Client := { k with stage := stage }

/-- The task after it wrote some lines. -/
def write (k : Client) (lines : List String) : Client := { k with lines := k.lines ++ lines }

/-- The task after an error that ends the demo. -/
def fail (k : Client) (complaint : String) : Client := k.enter (.over 1 complaint)

/-- Makes a request. -/
def ask (k : Client) (c : Connection) (subject : String) (wait : Nat → Stage) :
    Client × Connection :=
  match c.request Connection.transport subject greeting {} with
  | (.error e, c) => (k.fail e.message, c)
  | (.ok number, c) => (k.enter (wait number), c)

/-- Whether the task has ended. -/
def isOver (k : Client) : Bool :=
  match k.stage with
  | .over .. => true
  | _ => false

/-- Whether the task can go on. -/
def isReady (k : Client) (c : Connection) : Bool :=
  match k.stage with
  | .awaitingEcho number | .awaitingNobody number => c.isAnswered number
  | .pausing wakeAt => wakeAt ≤ c.clock
  | .over .. => false
  | _ => true

/-- One step of the task; nothing happens when it cannot go on. -/
def step (k : Client) (c : Connection) : Client × Connection :=
  match k.stage with
  | .listening =>
    match c.subscribe Connection.transport handle (eventPlan k.settings.max) with
    | (.error e, c) => (k.fail e.message, c)
    | (.ok sid, c) => ({ k with events := sid, stage := .offering }, c)
  | .offering =>
    match c.subscribe Connection.transport handle echoPlan with
    | (.error e, c) => (k.fail e.message, c)
    | (.ok _, c) => (k.enter (.publishing 0), c)
  | .publishing count =>
    if count < k.settings.messages then
      match c.publish Connection.transport "demo.events" (eventBody count) with
      | (.error e, c) => (k.fail e.message, c)
      | (.ok (), c) => (k.enter (.publishing (count + 1)), c)
    else (k.enter .askingEcho, c)
  | .askingEcho => k.ask c "demo.echo" .awaitingEcho
  | .awaitingEcho number =>
    match c.tryResult number with
    | (none, c) => (k, c)
    | (some (.error e), c) => (k.fail e.message, c)
    | (some (.ok reply), c) => ((k.write (echoLines reply)).enter .askingNobody, c)
  | .askingNobody => k.ask c "demo.nobody" .awaitingNobody
  | .awaitingNobody number =>
    match c.tryResult number with
    | (none, c) => (k, c)
    | (some result, c) => ((k.write [nobodyLine result]).enter (.pausing (c.clock + pause)), c)
  | .pausing wakeAt =>
    if wakeAt ≤ c.clock then
      let line := countLine (deliveredTo c k.events) k.settings.messages
      ((k.write [line]).enter (.over 0 ""), c.close Connection.transport)
    else (k, c)
  | .over .. => (k, c)

/-- Until when the task may have to wait at most. -/
def patience (k : Client) (now : Instant) : Instant :=
  match k.stage with
  | .pausing wakeAt => wakeAt
  | _ => now + Duration.ages

/-- What the task leaves behind. -/
def report (k : Client) : Report :=
  match k.stage with
  | .over code complaint => { code := code, lines := k.lines, complaint := complaint }
  | _ => { code := 0, lines := k.lines }

end Client

/-- A fresh connection with a router that reads its frames. -/
def setUp (settings : CommandLine.Settings) : Executor :=
  let config : Config := { requestTimeout := Duration.ofMillis settings.timeoutMs }
  let c := (Connection.create 1 config "demo" 0 1024 handle).addHandle routerHandle
  ({} : Executor).addNode { connection := { c with hook := .record }, router := some {} }

/-- Whether the client's task can go on. -/
def canGoOn (k : Client) (x : Executor) : Bool := (x.node? node).any (k.isReady ·.connection)

/-- At most `turns` turns of the client's task until it is over; the others go on while it waits. -/
def drive (k : Client) (x : Executor) : Nat → Client
  | 0 => k
  | turns + 1 =>
    if k.isOver then k
    else
      let x := (x.runUntil (canGoOn k) (k.patience x.now)).2
      let (k, x) := x.onConnection node k k.step
      drive k x turns

/-- The whole demo. The client's task has one turn for each event and eight for the rest. -/
def run (settings : CommandLine.Settings) : Report :=
  (drive { settings } (setUp settings) (settings.messages + 8)).report

/-- The lines of a text that ends with a line feed. -/
def linesOf (text : String) : List String := (text.splitOn "\n").dropLast

/-- The demo for a line of arguments. -/
def start (arguments : List String) : Report :=
  match CommandLine.parse arguments with
  | .ok settings => run settings
  | .error .help => { code := 0, lines := linesOf CommandLine.helpText }
  | .error .version => { code := 0, lines := linesOf CommandLine.versionText }
  | .error stop => { code := 2, lines := [], complaint := stop.message }

end PubSub.Demo
