import PubSub.Demo.Schedule
import PubSub.Proofs.Registry.Last

/-!
# How far the demo has got

The client's frames and the answer to its request leave in a fixed order, whoever's turn it is: the
request is answered only after everything before it was read, and the second request made only after
the answer. One frame has no place in this order: the withdrawal of the events' subscription, which
its worker sends when it reaches the ceiling. So a scene of the demo is told by a few numbers and by
what each party is at. `Plot` is this data, and `Plot.scene` the scene that it tells; the journal
and the metrics of deliveries, which nobody reads, stand apart in a `Ledger`.

## Main definitions

- `Demo.script` — the frames that leave in a fixed order
- `Demo.Plot`, `Demo.Plot.scene` — how far the demo has got, and the scene
- `Demo.Plot.Sound` — what holds of every plot that the demo comes to before its client ends
- `Demo.Plot.rank` — a bound on the steps that are left at the present instant
- `Demo.Plot.Follows`, `Demo.Plot.Advances` — one step of anybody at the same instant, and of the
  client
-/

namespace PubSub

namespace Demo

/-! ## Frames -/

/-- The reply subject of the request with a number, which counts from one. -/
def key (token : String) (number : Nat) : String := (Inbox.create "_INBOX" token).subject number

/-- The answer to the first request. -/
def shout : ByteArray := Text.upperAscii greeting

/-- The frames that leave in a fixed order. -/
def script (messages : Nat) (token : String) (i : Nat) : Outgoing :=
  if i = 0 then { frame := .subscribe 1 "demo.events" none }
  else if i = 1 then { frame := .subscribe 2 "demo.echo" none }
  else if i < messages + 2 then { frame := .publish "demo.events" none (eventBody (i - 2)) }
  else if i = messages + 2 then
    { frame := .subscribe replySid (Inbox.create "_INBOX" token).wildcard none }
  else if i = messages + 3 then { frame := .publish "demo.echo" (some (key token 1)) greeting }
  else if i = messages + 4 then
    { frame := .publish (key token 1) none shout, onBehalfOf := some 2 }
  else { frame := .publish "demo.nobody" (some (key token 2)) greeting }

theorem script_event {messages i : Nat} (token : String) (h : 2 ≤ i) (hlt : i < messages + 2) :
    script messages token i = { frame := .publish "demo.events" none (eventBody (i - 2)) } := by
  have hzero : i ≠ 0 := by omega
  have hone : i ≠ 1 := by omega
  simp [script, hzero, hone, hlt]

theorem script_inbox (messages : Nat) (token : String) : script messages token (messages + 2) =
    { frame := .subscribe replySid (Inbox.create "_INBOX" token).wildcard none } := by
  simp [script]

theorem script_question (messages : Nat) (token : String) : script messages token (messages + 3) =
    { frame := .publish "demo.echo" (some (key token 1)) greeting } := by
  simp [script]

theorem script_answer (messages : Nat) (token : String) : script messages token (messages + 4) =
    { frame := .publish (key token 1) none shout, onBehalfOf := some 2 } := by
  simp [script]

theorem script_nobody (messages : Nat) (token : String) : script messages token (messages + 5) =
    { frame := .publish "demo.nobody" (some (key token 2)) greeting } := by
  simp [script]

/-- The frame that withdraws the events' subscription. -/
def withdrawal : Outgoing := { frame := .unsubscribe 1 none }

/-- What has become of the frame that withdraws the events' subscription. -/
inductive Notice where
  | unsent
  /-- It waits before the frame with a number. -/
  | waiting (next : Nat)
  | routed
  deriving DecidableEq

/-! ## Subscriptions -/

/-- A subscription that was started for a plan and is live, with its only worker. -/
def started (sid : Sid) (plan : SubscriptionPlan) (delivered : Nat) (queue : Dispatch Delivery)
    (phase : Worker.Phase) : Subscription where
  sid := sid
  subject := plan.subject
  handler := plan.handler
  max := plan.max
  delivered := delivered
  queue := queue
  workers := [{ cancelled := false, phase := phase }]
  current := some 0
  via := handle

/-- What the worker of the events is at. -/
inductive Doing where
  | starting
  | receiving
  | handling (d : Delivery)

/-- The events' subscription while it is live. -/
structure Lane where
  delivered : Nat := 0
  queue : Dispatch Delivery := {}
  doing : Doing := .starting

/-- The worker's phase. -/
def Lane.phase (max : Nat) (lane : Lane) : Worker.Phase :=
  match lane.doing with
  | .starting => .starting
  | .receiving => .receiving
  | .handling d => .handling {
      delivery := d, script := [], ceiling := max, count := lane.delivered }

/-- The events' subscription. -/
inductive Events where
  | absent
  | live (lane : Lane)
  /-- It reached its ceiling; this is what was left in its queue. -/
  | ended (queue : Dispatch Delivery)

/-- The events' subscription, when it was made. -/
def Events.subscriptions (max : Nat) : Events → List Subscription
  | absent => []
  | live lane => [started 1 (eventPlan max) lane.delivered lane.queue (lane.phase max)]
  | ended queue => [{
      sid := 1, subject := "demo.events", handler := eventHandler, attached := false, max := max,
      delivered := max, valid := false, queue := queue,
      workers := [{ cancelled := true, phase := .finished }], via := handle }]

/-- A bound on the steps of the events' worker, and on what they lead to. -/
def Events.rank : Events → Nat
  | absent => 0
  | live lane => 10 + 4 * lane.queue.entries.length + match lane.doing with
    | .starting => 1
    | .receiving => 0
    | .handling _ => 3
  | ended _ => 0

/-- What the subscription that answers is at. -/
inductive Echo where
  | absent
  /-- No request has come; whether the worker has started. -/
  | idle (started : Bool)
  /-- The request is in the queue. -/
  | asked (started : Bool)
  /-- The handler is about to answer. -/
  | answering
  /-- The handler has answered. -/
  | answered
  | done

/-- The request as it is delivered. -/
def question (token : String) : Delivery where
  message := {
    subject := "demo.echo", sid := 2, replyTo := some (key token 1), payload := greeting }
  connected := true

/-- The phase of a worker that waits for messages once it has started. -/
def ready (started : Bool) : Worker.Phase := if started then .receiving else .starting

/-- The subscription that answers, when it was made. -/
def Echo.subscriptions (token : String) : Echo → List Subscription
  | absent => []
  | idle hasStarted => [started 2 echoPlan 0 {} (ready hasStarted)]
  | asked hasStarted =>
    [started 2 echoPlan 0 { entries := [question token], pending := 1 } (ready hasStarted)]
  | answering => [started 2 echoPlan 1 {} (.handling {
      delivery := question token, script := [.respondUpper], ceiling := 0, count := 1 })]
  | answered => [started 2 echoPlan 1 {} (.handling {
      delivery := question token, script := [], ceiling := 0, count := 1 })]
  | done => [started 2 echoPlan 1 {} .receiving]

/-- A bound on the steps of the worker that answers. -/
def Echo.rank : Echo → Nat
  | absent | done | idle true => 0
  | idle false | answered => 1
  | answering => 2
  | asked hasStarted => if hasStarted then 3 else 4

/-! ## Plots -/

/-- How far the demo has got. -/
structure Plot where
  settings : CommandLine.Settings
  token : String
  stage : Stage := .listening
  clock : Instant := 0
  /-- How many frames of the script were sent. -/
  sent : Nat := 0
  /-- How many frames of the script the router has read. -/
  routed : Nat := 0
  notice : Notice := .unsent
  events : Events := .absent
  echo : Echo := .absent
  registry : Registry := {}
  sweeper : Sweeper.Phase := .planning

/-- What is written down and not read again. -/
structure Ledger where
  counts : DeliveryCounts := {}
  journal : List Event := []
  eventCount : Nat := 0

/-- The line about the answer. -/
def echoLine : String := "echo replied: HELLO"

/-- The line about the request that nobody listens to. -/
def cancelLine : String := "demo.nobody: request cancelled: no responders"

namespace Plot

/-- The frames of the script from one number up to another. -/
def stretch (p : Plot) (a b : Nat) : List Outgoing :=
  (List.range' a (b - a)).map (script p.settings.messages p.token)

/-- The frames that wait for the router. -/
def frames (p : Plot) : List Outgoing :=
  match p.notice with
  | .unsent | .routed => p.stretch p.routed p.sent
  | .waiting next => p.stretch p.routed next ++ withdrawal :: p.stretch next p.sent

/-- What the router knows. -/
def interest (p : Plot) : List (String × Sid) :=
  (if 1 ≤ p.routed ∧ p.notice ≠ .routed then [("demo.events", 1)] else []) ++
    (if 2 ≤ p.routed then [("demo.echo", 2)] else []) ++
    if p.settings.messages + 3 ≤ p.routed then
      [((Inbox.create "_INBOX" p.token).wildcard, replySid)]
    else []

/-- Every subscription that was made. -/
def subscriptions (p : Plot) : List Subscription :=
  p.events.subscriptions p.settings.max ++ p.echo.subscriptions p.token

/-- What the client has written. -/
def lines (p : Plot) : List String :=
  match p.stage with
  | .askingNobody | .awaitingNobody _ => [echoLine]
  | .pausing _ => [echoLine, cancelLine]
  | _ => []

/-- The client's task. -/
def client (p : Plot) : Client where
  settings := p.settings
  stage := p.stage
  events := match p.stage with
    | .listening => 0
    | _ => 1
  lines := p.lines

/-- How long a request waits. -/
def timeout (p : Plot) : Duration := Duration.ofMillis p.settings.timeoutMs

/-- The connection. -/
def connection (p : Plot) (l : Ledger) : Connection where
  id := 1
  config := { requestTimeout := p.timeout }
  inbox := { Inbox.create "_INBOX" p.token with issued := p.registry.requests.length }
  clock := p.clock
  announced := p.settings.messages + 3 ≤ p.sent
  registry := p.registry
  sweeper := { interval := Duration.ofSecs 5, phase := p.sweeper }
  subscriptions := p.subscriptions
  issuedSids := p.subscriptions.length
  table := (p.subscriptions.filter (·.valid)).map (·.sid)
  outbound := { entries := p.frames, capacity := 1024 }
  hook := .record
  counts := l.counts
  handles := [handle, routerHandle]
  opener := handle
  journal := l.journal
  eventCount := l.eventCount

/-- The scene that a plot tells. -/
def scene (p : Plot) (l : Ledger) : Scene where
  client := p.client
  node := { connection := p.connection l, router := some { interest := p.interest } }

/-- The request with a number as it is made, at the start of the clock. -/
def request (p : Plot) (number : Nat) : Request :=
  Request.create (key p.token (number + 1)) {} p.timeout 0

/-- The answer to the first request as it arrives. -/
def answer (p : Plot) : Message := { subject := key p.token 1, payload := shout }

/-- How many events the router has read. -/
def eventsRouted (p : Plot) : Nat := min (p.routed - 2) p.settings.messages

/-! ## What holds of them -/

/-- How far the frames and the requests are when the client's task is at a stage. -/
def Staged (p : Plot) : Prop :=
  match p.stage with
  | .listening => p.sent = 0 ∧ p.registry.entries = [] ∧ p.registry.requests = []
  | .offering => p.sent = 1 ∧ p.registry.entries = [] ∧ p.registry.requests = []
  | .publishing count =>
    p.sent = count + 2 ∧ count ≤ p.settings.messages ∧
      p.registry.entries = [] ∧ p.registry.requests = []
  | .askingEcho =>
    p.sent = p.settings.messages + 2 ∧ p.registry.entries = [] ∧ p.registry.requests = []
  | .awaitingEcho number =>
    number = 0 ∧ p.settings.messages + 4 ≤ p.sent ∧ p.sent ≤ p.settings.messages + 5 ∧
      (p.routed ≤ p.settings.messages + 4 ∧ p.registry.Awaits 0 (p.request 0) ∨
        p.routed = p.settings.messages + 5 ∧
          p.registry.Answered 0 ((p.request 0).settled (.ofReply p.answer)))
  | .askingNobody =>
    p.sent = p.settings.messages + 5 ∧ p.routed = p.settings.messages + 5 ∧
      p.registry.entries = [] ∧ p.registry.requests.length = 1
  | .awaitingNobody number =>
    number = 1 ∧ p.sent = p.settings.messages + 6 ∧
      (p.routed = p.settings.messages + 5 ∧ p.registry.Awaits 1 (p.request 1) ∨
        p.routed = p.settings.messages + 6 ∧
          p.registry.Answered 1 ((p.request 1).settled (.cancelled .noResponders)))
  | .pausing wakeAt =>
    wakeAt = pause ∧ p.sent = p.settings.messages + 6 ∧ p.routed = p.settings.messages + 6 ∧
      p.registry.entries = []
  | .over .. => False

/-- How many events were delivered, and when the subscription has reached its ceiling. -/
def Counted (p : Plot) : Prop :=
  match p.events with
  | .absent => p.sent = 0 ∧ p.notice = .unsent
  | .live lane => 1 ≤ p.sent ∧ p.notice = .unsent ∧ lane.queue.receiver = .accepting ∧
      lane.delivered + lane.queue.entries.length = p.eventsRouted ∧
      (p.settings.max = 0 ∨ lane.delivered < p.settings.max ∨
        lane.delivered = p.settings.max ∧ ∃ d, lane.doing = .handling d)
  | .ended _ => p.settings.max ≠ 0 ∧ p.settings.max ≤ p.eventsRouted ∧ p.notice ≠ .unsent

/-- When the request is on its way, and when it was answered. -/
def Echoed (p : Plot) : Prop :=
  match p.echo with
  | .absent => p.sent ≤ 1
  | .idle _ => 2 ≤ p.sent ∧ p.sent ≤ p.settings.messages + 4 ∧ p.routed ≤ p.settings.messages + 3
  | .asked _ | .answering => p.sent = p.settings.messages + 4 ∧ p.routed = p.settings.messages + 4
  | .answered | .done => p.settings.messages + 5 ≤ p.sent ∧ p.settings.messages + 4 ≤ p.routed

/-- The withdrawal has its place among the frames that wait. -/
def Placed (p : Plot) : Prop :=
  p.routed ≤ p.sent ∧ ∀ next, p.notice = .waiting next → p.routed ≤ next ∧ next ≤ p.sent

/-- Nobody has anything to do except the client, which sleeps, and the sweeper. -/
structure Resting (p : Plot) : Prop where
  stage : p.stage = .pausing pause
  notice : ∀ next, p.notice ≠ .waiting next
  events : ∀ lane, p.events = .live lane → lane.doing = .receiving ∧ lane.queue.entries = []
  echo : p.echo = .done

/-- What holds of every plot that the demo comes to before its client ends. -/
structure Sound (p : Plot) : Prop where
  /-- There is room for all frames. -/
  messages : p.settings.messages ≤ 1020
  staged : p.Staged
  counted : p.Counted
  echoed : p.Echoed
  placed : p.Placed
  sweeper : p.sweeper ≠ .stopped
  clock : p.clock ≤ pause
  /-- Time passes only when everything is done. -/
  resting : p.clock = 0 ∨ p.Resting

/-! ## Steps that are left -/

/-- A bound on the client's steps. -/
def stagesLeft (p : Plot) : Nat :=
  match p.stage with
  | .listening => p.settings.messages + 9
  | .offering => p.settings.messages + 8
  | .publishing count => p.settings.messages - count + 7
  | .askingEcho => 6
  | .awaitingEcho _ => 5
  | .askingNobody => 4
  | .awaitingNobody _ => 3
  | .pausing _ => 2
  | .over .. => 0

/-- A bound on the sweeper's steps. -/
def sweepsLeft (p : Plot) : Nat :=
  (match p.sweeper with
    | .planning => 1
    | .sleeping wakeAt => if wakeAt ≤ p.clock then 2 else 0
    | .stopped => 0) +
  if p.registry.signalled then 2 else 0

/-- A bound on the steps that are left at the present instant. Every frame counts for more than what
it leads to; the answer, which a handler sends, is counted in advance. -/
def rank (p : Plot) : Nat :=
  20 * p.stagesLeft + 5 * p.frames.length + (if p.sent < p.settings.messages + 5 then 10 else 0) +
    p.events.rank + p.echo.rank + p.sweepsLeft

/-- One step of somebody, while the clock stands still. -/
structure Follows (p p' : Plot) : Prop where
  sound : p'.Sound
  settings : p'.settings = p.settings
  clock : p'.clock = p.clock
  rank : p'.rank < p.rank

/-- One step of the client, which goes to a later stage. -/
structure Advances (p p' : Plot) : Prop extends p.Follows p' where
  stages : p'.stagesLeft < p.stagesLeft

/-! ## Frames that wait -/

variable {p : Plot} {a b : Nat}

@[simp] theorem stretch_self (p : Plot) (a : Nat) : p.stretch a a = [] := by
  simp [stretch]

theorem stretch_of_lt (h : a < b) :
    p.stretch a b = script p.settings.messages p.token a :: p.stretch (a + 1) b := by
  have hlength : b - a = b - (a + 1) + 1 := by omega
  rw [stretch, hlength, List.range'_succ, List.map_cons]
  rfl

theorem stretch_succ (h : a ≤ b) :
    p.stretch a (b + 1) = p.stretch a b ++ [script p.settings.messages p.token b] := by
  have hlength : b + 1 - a = b - a + 1 := by omega
  have hlast : a + (b - a) = b := by omega
  rw [stretch, hlength, List.range'_1_concat, List.map_append, hlast]
  rfl

@[simp] theorem length_stretch (p : Plot) (a b : Nat) : (p.stretch a b).length = b - a := by
  simp [stretch]

/-- A frame of the script is sent. -/
theorem frames_send (h : p.Placed) : { p with sent := p.sent + 1 }.frames =
    p.frames ++ [script p.settings.messages p.token p.sent] := by
  obtain ⟨hle, hnext⟩ := h
  unfold frames
  cases hnotice : p.notice with
  | unsent | routed => exact stretch_succ hle
  | waiting next =>
    have hlast := stretch_succ (p := p) (hnext next hnotice).2
    calc p.stretch p.routed next ++ withdrawal :: p.stretch next (p.sent + 1)
        = p.stretch p.routed next ++ withdrawal ::
            (p.stretch next p.sent ++ [script p.settings.messages p.token p.sent]) := by rw [hlast]
      _ = _ := by simp

theorem length_frames_send (h : p.Placed) :
    { p with sent := p.sent + 1 }.frames.length = p.frames.length + 1 := by
  rw [frames_send h, List.length_append, List.length_singleton]

/-- The withdrawal is sent. -/
theorem frames_withdraw (h : p.notice = .unsent) :
    { p with notice := .waiting p.sent }.frames = p.frames ++ [withdrawal] := by
  have hlast : p.stretch p.sent p.sent = [] := p.stretch_self p.sent
  unfold frames
  rw [h]
  exact congrArg (p.stretch p.routed p.sent ++ withdrawal :: ·) hlast

/-- The router reads the withdrawal. -/
theorem frames_of_waiting (h : p.notice = .waiting p.routed) :
    p.frames = withdrawal :: { p with notice := .routed }.frames := by
  unfold frames
  rw [h]
  simp only [stretch_self, List.nil_append]
  rfl

/-- The router reads the next frame of the script. -/
theorem frames_of_lt (h : p.Placed) (hlt : p.routed < p.sent)
    (hnotice : p.notice ≠ .waiting p.routed) : p.frames =
      script p.settings.messages p.token p.routed :: { p with routed := p.routed + 1 }.frames := by
  unfold frames
  cases hnow : p.notice with
  | unsent | routed => exact stretch_of_lt hlt
  | waiting next =>
    have hnext : p.routed < next := by
      have hle := (h.2 next hnow).1
      rcases Nat.lt_or_eq_of_le hle with hlt | heq
      · exact hlt
      · rw [← heq] at hnow
        exact absurd hnow hnotice
    calc p.stretch p.routed next ++ withdrawal :: p.stretch next p.sent
        = script p.settings.messages p.token p.routed :: p.stretch (p.routed + 1) next ++
            withdrawal :: p.stretch next p.sent := by rw [stretch_of_lt hnext]
      _ = _ := rfl

theorem frames_eq_nil (h : p.routed = p.sent) (hnotice : ∀ next, p.notice ≠ .waiting next) :
    p.frames = [] := by
  unfold frames
  cases hnow : p.notice with
  | unsent | routed => rw [h, stretch_self]
  | waiting next => exact absurd hnow (hnotice next)

theorem length_frames (h : p.Placed) : p.frames.length =
    p.sent - p.routed + match p.notice with
      | .waiting _ => 1
      | _ => 0 := by
  unfold frames
  cases hnow : p.notice with
  | unsent | routed => simp
  | waiting next =>
    have hplace := h.2 next hnow
    simp only [List.length_append, List.length_cons, length_stretch]
    omega

theorem Sound.sent_le (hp : p.Sound) : p.sent ≤ p.settings.messages + 6 := by
  have hstaged := hp.staged
  unfold Staged at hstaged
  cases hstage : p.stage <;> rw [hstage] at hstaged <;> dsimp only at hstaged <;> omega

/-- The clock stands still until the client goes to sleep. -/
theorem Sound.clock_of_stage (hp : p.Sound) (h : p.stage ≠ .pausing pause) : p.clock = 0 :=
  hp.resting.resolve_right fun hrest => h hrest.stage

/-- A request makes the sweeper plan its sleep once more. -/
theorem sweepsLeft_le (p : Plot) (registry : Registry) :
    { p with registry := registry }.sweepsLeft ≤ p.sweepsLeft + 2 := by
  have hsign : (if registry.signalled then 2 else 0) ≤ 2 := by split <;> omega
  simp only [sweepsLeft]
  omega

/-- A step of the client may cost less than a stage. -/
theorem advances_of_cost {p' : Plot} (hsound : p'.Sound) (hsettings : p'.settings = p.settings)
    (hclock : p'.clock = p.clock) (hsent : p.sent ≤ p'.sent) (hstages : p'.stagesLeft < p.stagesLeft)
    (hcost : 5 * p'.frames.length + p'.events.rank + p'.echo.rank + p'.sweepsLeft <
      5 * p.frames.length + p.events.rank + p.echo.rank + p.sweepsLeft + 20) : p.Advances p' := by
  have hahead : (if p'.sent < p'.settings.messages + 5 then 10 else 0) ≤
      if p.sent < p.settings.messages + 5 then 10 else 0 := by
    rw [hsettings]
    split <;> split <;> omega
  refine ⟨⟨hsound, hsettings, hclock, ?_⟩, hstages⟩
  unfold rank
  omega

end Plot

end Demo

end PubSub
