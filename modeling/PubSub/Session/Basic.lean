import PubSub.Session.Step

/-!
# Sessions

A session drives connections step by step and observes them.

## Main definitions

- `Session` — the executor and the names that the session has given
- `Session.observe` — what a stretch of the journal shows
- `Session.perform`, `Session.after` — one step, and a list of steps from the beginning
- `Session.metrics` — the metrics once everything is closed and dropped

## Design notes

Background tasks run only in the steps that let them: settling, advancing, awaiting and shutting
down. Unless frames are left for the session to receive, every step ends by taking the frames out of
all channels.
-/

namespace PubSub

/-- A name for a connection, a subscription or a request. -/
structure Session.Slot (α : Type) where
  target : α
  held : Bool := true

/-- A session. -/
structure Session where
  /-- Whether frames stay in their channels until the session receives them. -/
  manual : Bool := false
  executor : Executor := {}
  /-- The names of connections, with their nodes. -/
  connections : List (Session.Slot Nat) := []
  /-- The names of subscriptions, with node and number; none for one that failed. -/
  subscriptions : List (Option (Session.Slot (Nat × Sid))) := []
  /-- The names of requests, with node and number. -/
  requests : List (Session.Slot (Nat × Nat)) := []
  steps : Nat := 0
  /-- For each connection, in which step each frame in its channel was sent, oldest first. -/
  stamps : List (List Nat) := []

/-- The router's own handle to its connection. -/
def routerHandle : Nat := 0

namespace Session

/-- The handle that goes with the name of a connection. -/
def handleOf (name : Nat) : Nat := name + 1

/-- The line that an event leaves in the log, with `active` connections in use. -/
def logLine? (active : Nat) : Event → Option String
  | .closed id cancelled subscriptions =>
    some ("INFO connection closed: id=conn-" ++ toString id ++ ", cancelled_requests=" ++
      toString cancelled ++ ", closed_subscriptions=" ++ toString subscriptions ++
      ", streamlink_active_connections=" ++ toString active)
  | .warned sid subject f =>
    some ("WARN message handler failed sid=" ++ toString sid ++ " subject=" ++ Text.quote subject ++
      " kind=" ++ Text.quote f.kind.word ++ " error=" ++ f.message)
  | .hookFailed sid text =>
    some ("WARN handler failure hook panicked sid=" ++ toString sid ++ " panic=" ++ text)
  | _ => none

/-- The line that an opened connection leaves in the log. -/
def openedLine (id active : Nat) : String :=
  "INFO connection opened: id=conn-" ++ toString id ++ ", streamlink_active_connections=" ++
    toString active

/-- Where a frame stands among those of one step: by subscription, the others last. -/
def before (a b : Outgoing) : Bool :=
  match a.source, b.source with
  | some i, some j => i ≤ j
  | some _, none => true
  | none, some _ => false
  | none, none => true

/-- The name of a subscription. -/
def nameOf? (s : Session) (node : Nat) (sid : Sid) : Option Nat :=
  s.subscriptions.findIdx? fun slot =>
    match slot with
    | some slot => slot.target == (node, sid)
    | none => false

/-- The notes of the subscription with a name among events of several connections. -/
def notesOf (s : Session) (events : List (Nat × Event)) (name : Nat) : List Note :=
  events.filterMap fun (node, e) =>
    match e with
    | .noted sid note => if s.nameOf? node sid == some name then some note else none
    | _ => none

/-- What a list of events shows, oldest first. -/
def observe (s : Session) (answer : Answer) (active : Nat) (events : List (Nat × Event)) :
    Observation where
  answer := answer
  notes := (List.range s.subscriptions.length).filterMap fun name =>
    match s.notesOf events name with
    | [] => none
    | notes => some (name, notes)
  failures :=
    let told := events.filterMap fun (_, e) =>
      match e with
      | .observed sid f => some (sid, f)
      | _ => none
    told.mergeSort fun a b => a.1 ≤ b.1
  reactions := events.filterMap fun (_, e) =>
    match e with
    | .reacted kind finding => some (kind, finding)
    | _ => none
  logs := events.filterMap fun (_, e) => logLine? active e

/-- The node behind the name of a connection that the session holds. -/
def connection? (s : Session) (name : Nat) : Option Nat :=
  match s.connections[name]? with
  | some slot => if slot.held then some slot.target else none
  | none => none

/-- Node and number behind the name of a subscription that the session holds. -/
def subscription? (s : Session) (name : Nat) : Option (Nat × Sid) :=
  match s.subscriptions[name]? with
  | some (some slot) => if slot.held then some slot.target else none
  | _ => none

/-- Node and number behind the name of a request that the session holds. -/
def request? (s : Session) (name : Nat) : Option (Nat × Nat) :=
  match s.requests[name]? with
  | some slot => if slot.held then some slot.target else none
  | none => none

/-- The request with a number on a node. -/
def requestOn? (x : Executor) (node number : Nat) : Option Request :=
  (x.node? node).bind fun n => n.connection.registry.request? number

/-- The first name of a node. -/
def nameOfNode (s : Session) (node : Nat) : Nat :=
  s.connections.findIdx fun slot => slot.target == node

/-- Changes the connection of a node. -/
def alter {α : Type} (s : Session) (node : Nat) (absent : α) (f : Connection → α × Connection) :
    α × Session :=
  let (a, x) := s.executor.onConnection node absent f
  (a, { s with executor := x })

/-- Takes all frames out of the channels that no router reads. -/
def drain (s : Session) : List (Nat × Outgoing) × Session :=
  if s.manual then ([], s)
  else
    let taken := s.executor.nodes.mapIdx fun i n =>
      if n.router.isSome then []
      else n.connection.outbound.entries.map fun o => (s.nameOfNode i, o)
    let nodes := s.executor.nodes.map fun n =>
      if n.router.isSome then n
      else
        let outbound := (n.connection.outbound.takeUpTo n.connection.outbound.entries.length).2
        { n with connection := { n.connection with outbound := outbound } }
    (taken.flatten.mergeSort fun a b => before a.2 b.2,
      { s with executor := { s.executor with nodes := nodes } })

/-- The stamps of a channel that holds `held` frames after step number `step`. -/
def stamped (step held : Nat) (stamps : List Nat) : List Nat :=
  stamps.take held ++ List.replicate (held - stamps.length) step

/-- Counts a step, and stamps the frames that it left in the channels. -/
def stamp (s : Session) : Session :=
  { s with
    steps := s.steps + 1
    stamps := s.executor.nodes.mapIdx fun i n =>
      stamped s.steps n.connection.outbound.entries.length (s.stamps[i]?.getD []) }

/-- The order in which frames are received: by the step that sent them, and as `before` says
among those of one step. -/
def stampedBefore (a b : Nat × Outgoing) : Bool :=
  a.1 < b.1 || (a.1 == b.1 && before a.2 b.2)

/-- Takes at most `count` frames, or all, out of the channel of a node. -/
def receive (s : Session) (node : Nat) (count : Option Nat) : List Outgoing × Session :=
  let (frames, s) := s.alter node [] fun c =>
    let (frames, outbound) := c.outbound.takeUpTo (count.getD c.outbound.entries.length)
    (frames, { c with outbound := outbound })
  let stamps := s.stamps[node]?.getD []
  let sorted := ((stamps.take frames.length).zip frames).mergeSort stampedBefore
  (sorted.map (·.2), { s with stamps := s.stamps.set node (stamps.drop frames.length) })

/-- Opens a connection. -/
def connect (s : Session) (o : Opening) : Answer × Session :=
  match o.config.check true with
  | .error e => (.connectionResult (.error e), s)
  | .ok () =>
    let name := s.connections.length
    let node := s.executor.nodes.length
    let c := o.connect (node + 1) s.executor.now (handleOf name)
    (.connected name, { s with
      connections := s.connections ++ [{ target := node }]
      executor := s.executor.addNode { connection := c } })

/-- Makes a subscription, and starts it if so told. -/
def subscribe (s : Session) (name node : Nat) (plan : SubscriptionPlan) (start : Bool) :
    Answer × Session :=
  let (result, s) := s.alter node (.error .closed) fun c =>
    Connection.handOver (if start then c.subscribe Connection.transport (handleOf name) plan
      else c.build (handleOf name) plan)
  let (slot, answer) : Option (Session.Slot (Nat × Sid)) × Answer :=
    match result with
    | .ok sid => (some { target := (node, sid) }, .subscribed s.subscriptions.length sid)
    | .error e => (none, .connectionResult (.error e))
  (answer, { s with subscriptions := s.subscriptions ++ [slot] })

/-- Puts `count` numbered messages into the queue of a subscription; answers how many were
accepted. -/
def deliverMany (sid : Sid) (subject : String) : Nat → Nat → Connection → Nat × Connection
  | 0, _, c => (0, c)
  | count + 1, n, c =>
    let (accepted, c) := c.deliver sid { subject, sid, payload := (toString n).toUTF8 }
    let (more, c) := deliverMany sid subject count (n + 1) c
    (more + accepted.toNat, c)

/-- Takes the name of a connection away, and the connection itself with the last of them. -/
def letConnectionGo (s : Session) (name node : Nat) : Session :=
  let s := (s.alter node () fun c => ((), c.dropHandle Connection.transport (handleOf name))).2
  let nodes := s.executor.nodes.modify node fun n =>
    { n with dropped := n.connection.handles.isEmpty }
  { s with
    connections := s.connections.modify name fun slot => { slot with held := false }
    executor := { s.executor with nodes := nodes } }

/-- A step on a connection. -/
def onConnection (s : Session) (name node : Nat) (n : Node) : ConnectionStep → Answer × Session
  | .share =>
    let handle := s.connections.length
    let s := (s.alter node () fun c => ((), c.addHandle (handleOf handle))).2
    (.connected handle, { s with connections := s.connections ++ [{ target := node }] })
  | .letGo => (.nothing, s.letConnectionGo name node)
  | .look => (.connection n.connection, s)
  | .close => (.nothing, (s.alter node () fun c => ((), c.close Connection.transport)).2)
  | .shutdown =>
    let s := (s.alter node () fun c => ((), c.close Connection.transport)).2
    let quiet (x : Executor) := (x.node? node).all Node.isQuiet
    let x := (s.executor.runUntil quiet (s.executor.now + Duration.ages)).2
    (.elapsed (x.now - s.executor.now), { s with executor := x.settle })
  | .subscribe plan calls start =>
    match calls.mapM SubscribeOptions.ofCalls with
    | .error e => (.optionsRefused e, s)
    | .ok options => s.subscribe name node { plan with options := options } start
  | .deliver sid m =>
    let (accepted, s) := s.alter node false fun c => c.deliver (sid.getD m.sid) m
    (.yes accepted, s)
  | .deliverMany sid subject count =>
    let (accepted, s) := s.alter node 0 (deliverMany sid subject count 0)
    (.count accepted, s)
  | .process m =>
    let (taken, s) := s.alter node false fun c => c.processInbound m
    (.yes taken, s)
  | .resolve key m =>
    let (taken, s) := s.alter node false fun c => c.resolveReply key m
    (.yes taken, s)
  | .publish subject payload =>
    let (result, s) := s.alter node (.ok ()) fun c =>
      c.publish Connection.transport subject payload
    (.connectionResult result, s)
  | .request subject payload options =>
    let (result, s) := s.alter node (.error .connectionClosed) fun c =>
      c.request Connection.transport subject payload options
    match result with
    | .error e => (.requestFailed e, s)
    | .ok number =>
      let key := ((requestOn? s.executor node number).map (·.key)).getD ""
      (.requested s.requests.length key,
        { s with requests := s.requests ++ [{ target := (node, number) }] })
  | .receive count =>
    if n.router.isSome then (.missing, s)
    else
      let (frames, s) := s.receive node count
      (.frames frames, s)
  | .closeReceiver =>
    if n.router.isSome then (.missing, s)
    else (.nothing, (s.alter node () fun c => ((), { c with outbound := c.outbound.close })).2)
  | .dropReceiver =>
    if n.router.isSome then (.missing, s)
    else
      (.nothing, (s.alter node () fun c => ((), { c with outbound := c.outbound.dropReceiver })).2)
  | .loopback =>
    if n.router.isSome then (.missing, s)
    else
      let n := { n with router := some {}, connection := n.connection.addHandle routerHandle }
      (.nothing, { s with executor := s.executor.setNode node n })

/-- A step on a subscription. -/
def onSubscription (s : Session) (name node : Nat) (sid : Sid) (sub : Subscription) :
    SubscriptionStep → Answer × Session
  | .start =>
    let (result, s) := s.alter node (.ok ()) fun c => c.startSubscription Connection.transport sid
    (.subscriptionResult result, s)
  | .unsubscribe =>
    let (result, s) := s.alter node (.ok ()) fun c => c.unsubscribe Connection.transport sid
    (.subscriptionResult result, s)
  | .autoUnsubscribe max =>
    let (result, s) := s.alter node (.ok ()) fun c =>
      c.autoUnsubscribe Connection.transport sid max
    (.subscriptionResult result, s)
  | .close =>
    (.nothing, (s.alter node () fun c => ((), c.closeSubscription Connection.transport sid)).2)
  | .enable =>
    let (started, s) := s.alter node false fun c => c.enable sid
    (.yes started, s)
  | .disable =>
    let (stopped, s) := s.alter node false fun c => c.disable sid
    (.yes stopped, s)
  | .letGo =>
    let s := (s.alter node () fun c => ((), c.letGo sid)).2
    (.nothing, { s with
      subscriptions := s.subscriptions.modify name
        (Option.map fun slot => { slot with held := false }) })
  | .setHandler handler => (.nothing, (s.alter node () fun c => ((), c.setHandler sid handler)).2)
  | .look => (.subscription sub, s)
  | .deliver m =>
    let (accepted, s) := s.alter node false fun c => c.deliverTo sub m
    (.yes accepted, s)

/-- A step on a request. -/
def onRequest (s : Session) (name node number : Nat) (r : Request) : RequestStep → Answer × Session
  | .look => (.request r, s)
  | .tryResult =>
    let (result, s) := s.alter node none (·.tryResult number)
    (.settlement result, s)
  | .await limit =>
    let start := s.executor.now
    let done (x : Executor) := (x.node? node).any (·.connection.isAnswered number)
    let x := (s.executor.runUntil done (start + limit)).2
    let (result, s) := { s with executor := x }.alter node none (·.tryResult number)
    (.awaited result (x.now - start), { s with executor := s.executor.settle })
  | .letGo =>
    (.nothing, { s with
      requests := s.requests.modify name fun slot => { slot with held := false } })

/-- The direct effect of a step. -/
def run (s : Session) : Step → Answer × Session
  | .connect o => s.connect o
  | .onConnection name step =>
    match s.connection? name with
    | none => (.missing, s)
    | some node =>
      match s.executor.node? node with
      | none => (.missing, s)
      | some n => s.onConnection name node n step
  | .onSubscription name step =>
    match s.subscription? name with
    | none => (.missing, s)
    | some (node, sid) =>
      match (s.executor.node? node).bind (·.connection.subscription? sid) with
      | none => (.missing, s)
      | some sub => s.onSubscription name node sid sub step
  | .onRequest name step =>
    match s.request? name with
    | none => (.missing, s)
    | some (node, number) =>
      match requestOn? s.executor node number with
      | none => (.missing, s)
      | some r => s.onRequest name node number r step
  | .countActive => (.count s.executor.activeCount, s)
  | .settle => (.nothing, { s with executor := s.executor.settle })
  | .advance span =>
    let x := s.executor.advanceTo (s.executor.now + span)
    (.time x.now, { s with executor := x })

/-- One step, and all that it made visible. -/
def perform (s : Session) (step : Step) : Observation × Session :=
  let (answer, s') := s.run step
  let events :=
    s'.executor.journal.take (s'.executor.journal.length - s.executor.journal.length)
  let seen := s'.observe answer s.executor.activeCount events.reverse
  let (frames, s'') := s'.drain
  let opened :=
    match answer with
    | .connected _ =>
      if s.executor.nodes.length < s'.executor.nodes.length then
        [openedLine s'.executor.nodes.length s'.executor.activeCount]
      else []
    | _ => []
  ({ seen with frames := frames, logs := seen.logs ++ opened }, s''.stamp)

/-- The session after a list of steps, from the beginning. -/
def after (manual : Bool) (steps : List Step) : Session :=
  steps.foldl (fun s step => (s.perform step).2) { manual := manual }

/-- The metrics once everything is closed and dropped. -/
def metrics (s : Session) : Metrics :=
  s.executor.nodes.foldl
    (fun m n => m.add ((n.connection.close Connection.transport).metrics true)) {}

end Session

end PubSub
