import PubSub.Proofs.Demo.Working

/-!
# The client's turns in the demo

The client sends its frames in order, takes the two outcomes, and sleeps.

## Main results

- `Connection.subscribe_of_room` — a subscription is made and started while its frame has room
- `Connection.request_of_room` — a request is made while its frame has room and none waits
- `Demo.Plot.exists_advances_client` — a client that is awake gets to its next stage
-/

namespace PubSub

namespace Connection

variable {c : Connection}

/-- The connection with a new subscription, whose worker has yet to start. -/
def enlisted (c : Connection) (plan : SubscriptionPlan) : Connection :=
  { c with
    issuedSids := c.issuedSids + 1
    subscriptions := c.subscriptions ++ [Demo.started (c.issuedSids + 1) plan 0 {} .starting]
    table := c.table ++ [c.issuedSids + 1] }.log
      (.registered (c.issuedSids + 1) plan.handler plan.max)

/-- The subscription that a plan makes, before it is started. -/
def drafted (c : Connection) (plan : SubscriptionPlan) : Subscription where
  sid := c.issuedSids + 1
  subject := plan.subject
  handler := plan.handler
  max := plan.max
  via := Demo.handle

/-- A subscription under a new number is found behind those that were there. -/
theorem find?_append_fresh {subscriptions : List Subscription} {s : Subscription}
    (hnew : ∀ s' ∈ subscriptions, s'.sid ≠ s.sid) :
    (subscriptions ++ [s]).find? (·.sid == s.sid) = some s := by
  have hfresh : subscriptions.find? (·.sid == s.sid) = none := by
    rw [List.find?_eq_none]
    intro s' hs'
    simpa using hnew s' hs'
  rw [List.find?_append, hfresh]
  simp

/-- A subscription that is just registered starts. -/
theorem enable_register (plan : SubscriptionPlan) (hstopping : c.isStopping = false)
    (hnew : ∀ s ∈ c.subscriptions, s.sid ≠ c.issuedSids + 1) :
    (c.register (c.drafted plan)).enable (c.issuedSids + 1) = (true, c.enlisted plan) := by
  let s := c.drafted plan
  let s' := Demo.started s.sid plan 0 {} .starting
  have hs : (c.register s).subscription? s.sid = some s := find?_append_fresh hnew
  have hstop : (c.register s).isStopping = false := hstopping
  have hstart : s.enable false = (true, s') := by
    simp [Subscription.enable, Subscription.isStarted, s, s', drafted, Demo.started]
  have hkeep : c.subscriptions.map (fun s₀ => if s₀.sid = s.sid then s' else s₀) =
      c.subscriptions :=
    (List.map_congr_left fun s₀ hs₀ => if_neg (hnew s₀ hs₀)).trans (List.map_id' _)
  have hmap : (c.subscriptions ++ [s]).map (fun s₀ => if s₀.sid = s.sid then s' else s₀) =
      c.subscriptions ++ [s'] := by
    rw [List.map_append, hkeep]
    simp
  change (c.register s).enable s.sid = _
  rw [enable, hs]
  dsimp only
  rw [hstop, hstart]
  simp only [modifySubscription, register, log, hmap, enlisted]
  rfl

/-- A subscription is made and started while there is room for its announcement. -/
theorem subscribe_of_room (plan : SubscriptionPlan) (hvalid : Subject.isValid plan.subject = true)
    (hgroup : plan.queueGroup = none) (hoptions : plan.options = none) (hclosed : c.closed = false)
    (hstopping : c.isStopping = false)
    (hnew : ∀ s ∈ c.subscriptions, s.sid ≠ c.issuedSids + 1) (hreactions : c.reactions = [])
    (haccepts : c.outbound.receiver = .accepting)
    (hroom : c.outbound.entries.length < c.outbound.capacity) :
    c.subscribe transport Demo.handle plan = (.ok (c.issuedSids + 1),
      (c.enlisted plan).posted { frame := .subscribe (c.issuedSids + 1) plan.subject none }) := by
  let s := c.drafted plan
  have hbuild : c.build Demo.handle plan = (.ok s.sid, c.register s) := by
    simp [build, hvalid, hgroup, hclosed, hoptions, s, drafted]
  have hs : (c.register s).subscription? s.sid = some s := find?_append_fresh hnew
  have hs' : (c.enlisted plan).subscription? s.sid =
      some (Demo.started s.sid plan 0 {} .starting) :=
    find?_append_fresh (s := Demo.started s.sid plan 0 {} .starting) hnew
  have henable : (c.register s).enable s.sid = (true, c.enlisted plan) :=
    enable_register plan hstopping hnew
  have hsend := transport_of_room (c := c.enlisted plan) hreactions haccepts hroom
    { frame := .subscribe (c.issuedSids + 1) plan.subject none }
  have hstart : (c.register s).startSubscription transport s.sid = (.ok (),
      (c.enlisted plan).posted { frame := .subscribe s.sid plan.subject none }) := by
    simp only [startSubscription, hs, henable, sendFor, hs']
    simp [s, drafted, Demo.started, hsend, Except.mapError]
  simp only [subscribe, hbuild, hstart]
  rfl

/-- A frame is published while there is room for it. -/
theorem publish_of_room {subject : String} (hvalid : Subject.isValid subject = true)
    (hclosed : c.closed = false) (hreactions : c.reactions = [])
    (haccepts : c.outbound.receiver = .accepting)
    (hroom : c.outbound.entries.length < c.outbound.capacity) (payload : ByteArray) :
    c.publish transport subject payload =
      (.ok (), c.posted { frame := .publish subject none payload }) := by
  have hsend := transport_of_room hreactions haccepts hroom
    { frame := .publish subject none payload }
  simp [publish, publishFor, hvalid, hclosed, hsend, Except.mapError]

/-- The reply subjects are announced while there is room for that. -/
theorem announceInbox_of_room (hnot : c.announced = false) (hreactions : c.reactions = [])
    (haccepts : c.outbound.receiver = .accepting)
    (hroom : c.outbound.entries.length < c.outbound.capacity) :
    c.announceInbox transport = (.ok (), { c.posted
      { frame := .subscribe replySid c.inbox.wildcard none } with announced := true }) := by
  have hsend := transport_of_room hreactions haccepts hroom
    { frame := .subscribe replySid c.inbox.wildcard none }
  simp only [announceInbox, hnot, hsend, Bool.false_eq_true, if_false]

/-- A request is made under a new reply subject, while none waits and its frame has room. -/
theorem request_of_room {c' : Connection} {subject : String}
    (hannounced : c.announceInbox transport = (.ok (), c'))
    (hvalid : Subject.isValid subject = true)
    (hclosed : c.closed = false) (hclosed' : c'.closed = false) (hreactions : c'.reactions = [])
    (haccepts : c'.outbound.receiver = .accepting)
    (hroom : c'.outbound.entries.length < c'.outbound.capacity) (payload : ByteArray)
    (options : RequestOptions) (hempty : c'.registry.entries = []) :
    c.request transport subject payload options = (.ok c'.registry.requests.length,
      { c' with
        inbox := c'.inbox.next.2
        registry := (c'.registry.register c'.inbox.next.1 options c'.config.requestTimeout
          c'.clock).2 }.posted { frame := .publish subject (some c'.inbox.next.1) payload }) := by
  have hsend := transport_of_room (c := { c' with
      inbox := c'.inbox.next.2
      registry := (c'.registry.register c'.inbox.next.1 options c'.config.requestTimeout
        c'.clock).2 })
    hreactions haccepts hroom { frame := .publish subject (some c'.inbox.next.1) payload }
  have hnumber : (c'.registry.register c'.inbox.next.1 options c'.config.requestTimeout
      c'.clock).1 = c'.registry.requests.length := by rw [Registry.register_of_empty hempty]
  unfold request
  rw [if_neg (by simp [hvalid]), if_neg (by simp [hclosed]), hannounced]
  dsimp only
  rw [if_neg (by simp [hclosed']), hsend]
  simp only [hnumber]

end Connection

namespace Demo.Plot

variable {p p' : Plot} {l : Ledger}

/-- A step of the client's task concerns the task and the connection. -/
theorem step_client {l' : Ledger}
    (h : p.client.step (p.connection l) = (p'.client, p'.connection l'))
    (hinterest : p'.interest = p.interest) : (p.scene l).step .client = p'.scene l' := by
  simp only [Scene.step, scene, h, hinterest]

/-! ## Announcements and events -/

theorem enlisted_events (hevents : p.events = .absent) (hecho : p.echo = .absent) :
    ∃ l', (p.connection l).enlisted (eventPlan p.settings.max) =
      { p with events := .live {} }.connection l' := by
  obtain ⟨settings, token, stage, clock, sent, routed, notice, events, echo, registry, sweeper⟩ := p
  dsimp only at hevents hecho
  subst hevents hecho
  exact ⟨⟨_, _, _⟩, rfl⟩

theorem enlisted_echo (hevents : p.events ≠ .absent) (hecho : p.echo = .absent) :
    ∃ l', (p.connection l).enlisted echoPlan = { p with echo := .idle false }.connection l' := by
  obtain ⟨settings, token, stage, clock, sent, routed, notice, events, echo, registry, sweeper⟩ := p
  dsimp only at hevents hecho
  subst hecho
  cases events with
  | absent => exact absurd rfl hevents
  | live | ended => exact ⟨⟨_, _, _⟩, rfl⟩

/-- The client announces the events' subscription. -/
theorem step_listening (hp : p.Placed) (hstage : p.stage = .listening) (hsent : p.sent = 0)
    (hevents : p.events = .absent) (hecho : p.echo = .absent) (hroom : p.frames.length < 1024) :
    ∃ l', (p.scene l).step .client =
      { p with stage := .offering, sent := p.sent + 1, events := .live {} }.scene l' := by
  have hnone : p.subscriptions = [] := by
    simp [subscriptions, hevents, hecho, Events.subscriptions, Echo.subscriptions]
  have hsubscribe := Connection.subscribe_of_room (c := p.connection l)
    (eventPlan p.settings.max) (show Subject.isValid "demo.events" = true by decide) rfl rfl rfl
    rfl (by simp [connection, hnone]) rfl rfl hroom
  have hissued : (p.connection l).issuedSids = 0 := by simp [connection, hnone]
  obtain ⟨l₁, henlisted⟩ := enlisted_events (l := l) hevents hecho
  obtain ⟨l', hposted⟩ := connection_posted (p := { p with events := .live {} }) hp
    (by dsimp only; omega) l₁
  have hframe : script p.settings.messages p.token p.sent =
      { frame := .subscribe 1 "demo.events" none } := by rw [hsent]; rfl
  rw [hframe] at hposted
  rw [hissued, henlisted] at hsubscribe
  have hsubscribed := hsubscribe.trans (congrArg (Prod.mk _) hposted)
  refine ⟨l', step_client ?_ rfl⟩
  simp only [Client.step, client, hstage, hsubscribed, lines]
  rfl

/-- The client announces the subscription that answers. -/
theorem step_offering (hp : p.Placed) (hstage : p.stage = .offering) (hsent : p.sent = 1)
    (hevents : p.events ≠ .absent) (hecho : p.echo = .absent) (hroom : p.frames.length < 1024) :
    ∃ l', (p.scene l).step .client =
      { p with stage := .publishing 0, sent := p.sent + 1, echo := .idle false }.scene l' := by
  obtain ⟨s, hs, hsid⟩ : ∃ s, p.subscriptions = [s] ∧ s.sid = 1 := by
    unfold subscriptions
    cases hnow : p.events with
    | absent => exact absurd hnow hevents
    | live | ended =>
      rw [hecho]
      exact ⟨_, rfl, rfl⟩
  have hissued : (p.connection l).issuedSids = 1 := by simp [connection, hs]
  have hsubscribe := Connection.subscribe_of_room (c := p.connection l) echoPlan
    (show Subject.isValid "demo.echo" = true by decide) rfl rfl rfl rfl
    (by rw [hissued]; simp [connection, hs, hsid]) rfl rfl hroom
  obtain ⟨l₁, henlisted⟩ := enlisted_echo (l := l) hevents hecho
  obtain ⟨l', hposted⟩ := connection_posted (p := { p with echo := .idle false }) hp
    (by dsimp only; omega) l₁
  have hframe : script p.settings.messages p.token p.sent =
      { frame := .subscribe 2 "demo.echo" none } := by rw [hsent]; rfl
  rw [hframe] at hposted
  rw [hissued, henlisted] at hsubscribe
  have hsubscribed := hsubscribe.trans (congrArg (Prod.mk _) hposted)
  refine ⟨l', step_client ?_ rfl⟩
  simp only [Client.step, client, hstage, hsubscribed, lines, Client.enter]
  rfl

/-- The client publishes an event. -/
theorem step_publishing (hp : p.Placed) {count : Nat} (hstage : p.stage = .publishing count)
    (hcount : count < p.settings.messages) (hsent : p.sent = count + 2)
    (hroom : p.frames.length < 1024) : ∃ l', (p.scene l).step .client =
      { p with stage := .publishing (count + 1), sent := p.sent + 1 }.scene l' := by
  have hpublish := Connection.publish_of_room (c := p.connection l)
    (show Subject.isValid "demo.events" = true by decide) rfl rfl rfl hroom (eventBody count)
  obtain ⟨l', hposted⟩ := connection_posted hp (by omega) l
  have hframe : script p.settings.messages p.token p.sent =
      { frame := .publish "demo.events" none (eventBody count) } := by
    rw [script_event p.token (by omega) (by omega), hsent]
    rfl
  rw [hframe] at hposted
  refine ⟨l', step_client ?_ rfl⟩
  simp only [Client.step, client, hstage, if_pos hcount, hpublish, hposted, lines, Client.enter]
  rfl

/-- All events are published. -/
theorem step_published (hstage : p.stage = .publishing p.settings.messages) :
    (p.scene l).step .client = { p with stage := .askingEcho }.scene l := by
  refine step_client ?_ rfl
  simp only [Client.step, client, hstage, Nat.lt_irrefl, if_false, lines, Client.enter]
  rfl

/-! ## Requests -/

/-- The reply subjects are announced, which is a frame of the script. -/
theorem announceInbox_script (hp : p.Placed) (hsent : p.sent = p.settings.messages + 2)
    (hroom : p.frames.length < 1024) (l : Ledger) :
    ∃ l', (p.connection l).announceInbox Connection.transport =
      (.ok (), { p with sent := p.sent + 1 }.connection l') := by
  have hnot : (p.connection l).announced = false := decide_eq_false (by omega)
  let o : Outgoing := { frame := .subscribe replySid (Inbox.create "_INBOX" p.token).wildcard none }
  have hframes : { p with sent := p.sent + 1 }.frames = p.frames ++ [o] :=
    (frames_send hp).trans (by rw [hsent, script_inbox])
  have hafter : decide (p.settings.messages + 3 ≤ p.sent + 1) = true := decide_eq_true (by omega)
  refine ⟨⟨l.counts, .offered o (.ok ()) :: l.journal, l.eventCount + 1⟩, ?_⟩
  rw [Connection.announceInbox_of_room hnot rfl rfl hroom]
  refine congrArg (Prod.mk _) (Eq.trans ?_ (connection_of_frames hframes _).symm)
  simp only [connection, hafter]
  rfl

/-- A request is made whose frame is the next of the script. -/
theorem request_script {c : Connection} {subject : String} (hp : p.Placed)
    (hannounced : c.announceInbox Connection.transport = (.ok (), p.connection l))
    (hvalid : Subject.isValid subject = true) (hclosed : c.closed = false)
    (hsent : p.settings.messages + 3 ≤ p.sent) (hentries : p.registry.entries = [])
    (hscript : script p.settings.messages p.token p.sent =
      { frame := .publish subject (some (key p.token (p.registry.requests.length + 1))) greeting })
    (hroom : p.frames.length < 1024) :
    ∃ l', c.request Connection.transport subject greeting {} = (.ok p.registry.requests.length,
      { p with
        sent := p.sent + 1
        registry := (p.registry.register (key p.token (p.registry.requests.length + 1)) {} p.timeout
          p.clock).2 }.connection l') := by
  let o : Outgoing := {
    frame := .publish subject (some (key p.token (p.registry.requests.length + 1))) greeting }
  let registry := (p.registry.register (key p.token (p.registry.requests.length + 1)) {} p.timeout
    p.clock).2
  have hframes : { p with sent := p.sent + 1, registry := registry }.frames = p.frames ++ [o] :=
    (frames_send hp).trans (by rw [hscript])
  have hafter : decide (p.settings.messages + 3 ≤ p.sent + 1) =
      decide (p.settings.messages + 3 ≤ p.sent) := decide_eq_decide.2 (by omega)
  have hlength : registry.requests.length = p.registry.requests.length + 1 := by
    simp only [registry, Registry.register_of_empty hentries]
    exact List.length_append
  refine ⟨⟨l.counts, .offered o (.ok ()) :: l.journal, l.eventCount + 1⟩, ?_⟩
  rw [Connection.request_of_room hannounced hvalid hclosed rfl rfl rfl hroom greeting {} hentries]
  refine congrArg (Prod.mk _) (Eq.trans ?_ (connection_of_frames hframes _).symm)
  simp only [connection, hafter, hlength]
  rfl

/-- The client makes the request that is answered. -/
theorem step_askingEcho (hp : p.Placed) (hstage : p.stage = .askingEcho)
    (hsent : p.sent = p.settings.messages + 2)
    (hentries : p.registry.entries = []) (hrequests : p.registry.requests = [])
    (hroom : p.frames.length + 1 < 1024) : ∃ l', (p.scene l).step .client = { p with
      stage := .awaitingEcho 0, sent := p.sent + 2,
      registry := (p.registry.register (key p.token 1) {} p.timeout p.clock).2 }.scene l' := by
  have hnone : p.registry.requests.length = 0 := by rw [hrequests, List.length_nil]
  have hsent' : p.sent + 1 = p.settings.messages + 3 := by omega
  have hframes : { p with sent := p.sent + 1 }.frames.length = p.frames.length + 1 := by
    rw [frames_send hp, List.length_append, List.length_singleton]
  obtain ⟨l₁, hannounced⟩ := announceInbox_script hp hsent (by omega) l
  obtain ⟨l', hrequest⟩ := request_script (p := { p with sent := p.sent + 1 }) hp.send hannounced
    (show Subject.isValid "demo.echo" = true by decide) rfl (Nat.le_of_eq hsent'.symm) hentries
    (by rw [hsent', hnone]; exact script_question ..) (hframes ▸ hroom)
  rw [hnone] at hrequest
  refine ⟨l', step_client ?_ rfl⟩
  simp only [Client.step, Client.ask, client, hstage, hrequest, lines, Client.enter]
  rfl

/-- The client makes the request that nobody listens to. -/
theorem step_askingNobody (hp : p.Placed) (hstage : p.stage = .askingNobody)
    (hsent : p.sent = p.settings.messages + 5)
    (hentries : p.registry.entries = []) (hrequests : p.registry.requests.length = 1)
    (hroom : p.frames.length < 1024) : ∃ l', (p.scene l).step .client = { p with
      stage := .awaitingNobody 1, sent := p.sent + 1,
      registry := (p.registry.register (key p.token 2) {} p.timeout p.clock).2 }.scene l' := by
  have hannounced : (p.connection l).announceInbox Connection.transport =
      (.ok (), p.connection l) := by
    simp [Connection.announceInbox, connection, hsent]
  obtain ⟨l', hrequest⟩ := request_script hp hannounced
    (show Subject.isValid "demo.nobody" = true by decide) rfl (by omega) hentries
    (by rw [hsent, hrequests]; exact script_nobody ..) hroom
  rw [hrequests] at hrequest
  refine ⟨l', step_client ?_ rfl⟩
  simp only [Client.step, Client.ask, client, hstage, hrequest, lines, Client.enter]
  rfl

/-! ## Outcomes -/

/-- The answer fulfils the request, and is in upper case. -/
theorem echoLines_answer (p : Plot) :
    ({} : RequestOptions).settle (.ofReply p.answer) = .ok (some p.answer) ∧
      echoLines (some p.answer) = [echoLine] := by
  have htext : "echo replied: " ++ Text.decodeLossy shout = echoLine := by decide +kernel
  exact ⟨rfl, congrArg (· :: []) htext⟩

theorem nobodyLine_noResponders :
    nobodyLine (({} : RequestOptions).settle (.cancelled .noResponders)) = cancelLine := by
  decide +kernel

/-- The client takes the answer. -/
theorem step_awaitingEcho (hstage : p.stage = .awaitingEcho 0)
    (hanswered : p.registry.Answered 0 ((p.request 0).settled (.ofReply p.answer))) :
    ∃ registry : Registry, registry.entries = [] ∧
      registry.requests.length = p.registry.requests.length ∧
      registry.signalled = p.registry.signalled ∧
      (p.scene l).step .client =
        { p with stage := .askingNobody, registry := registry }.scene l := by
  obtain ⟨registry, htaken, hentries, hlength, hsignalled⟩ := hanswered.tryResult rfl rfl
  obtain ⟨hsettle, hlines⟩ := p.echoLines_answer
  have hresult : (p.connection l).tryResult 0 = (some (.ok (some p.answer)),
      { p with registry := registry }.connection l) := by
    have hlook : (p.connection l).registry.tryResult 0 = (some (.ok (some p.answer)), registry) :=
      htaken.trans (congrArg (fun a => (some a, registry)) hsettle)
    simp only [Connection.tryResult, hlook]
    simp only [connection, hlength]
    rfl
  refine ⟨registry, hentries, hlength, hsignalled, step_client ?_ rfl⟩
  simp only [Client.step, client, hstage, hresult, hlines, lines, Client.enter, Client.write]
  rfl

/-- The client is told that nobody listens, and goes to sleep. -/
theorem step_awaitingNobody (hstage : p.stage = .awaitingNobody 1)
    (hanswered : p.registry.Answered 1 ((p.request 1).settled (.cancelled .noResponders))) :
    ∃ registry : Registry, registry.entries = [] ∧ registry.signalled = p.registry.signalled ∧
      (p.scene l).step .client =
        { p with stage := .pausing (p.clock + pause), registry := registry }.scene l := by
  obtain ⟨registry, htaken, hentries, hlength, hsignalled⟩ := hanswered.tryResult rfl rfl
  have hresult : (p.connection l).tryResult 1 =
      (some (({} : RequestOptions).settle (.cancelled .noResponders)),
        { p with registry := registry }.connection l) := by
    have hlook : (p.connection l).registry.tryResult 1 =
        (some (({} : RequestOptions).settle (.cancelled .noResponders)), registry) := htaken
    simp only [Connection.tryResult, hlook]
    simp only [connection, hlength]
    rfl
  refine ⟨registry, hentries, hsignalled, step_client ?_ rfl⟩
  simp only [Client.step, client, hstage, hresult, nobodyLine_noResponders, lines, Client.enter,
    Client.write]
  rfl

/-! ## Turns -/

theorem Sound.events_absent (hp : p.Sound) (hsent : p.sent = 0) : p.events = .absent := by
  have hcounted := hp.counted
  have hle := hp.placed.1
  unfold Counted eventsRouted at hcounted
  cases hevents : p.events <;> rw [hevents] at hcounted <;> dsimp only at hcounted
  · omega
  · omega

theorem Sound.events_ne_absent (hp : p.Sound) (hsent : p.sent ≠ 0) : p.events ≠ .absent := by
  intro hevents
  have hcounted := hp.counted
  rw [Counted, hevents] at hcounted
  exact hsent hcounted.1

theorem Sound.echo_absent (hp : p.Sound) (hsent : p.sent ≤ 1) : p.echo = .absent := by
  have hechoed := hp.echoed
  unfold Echoed at hechoed
  cases hecho : p.echo <;> rw [hecho] at hechoed <;> dsimp only at hechoed <;> first | rfl | omega

/-- Until the request is sent, the subscription that answers is idle. -/
theorem Sound.echo_idle (hp : p.Sound) (hsent : 2 ≤ p.sent)
    (hle : p.sent ≤ p.settings.messages + 3) : ∃ hasStarted, p.echo = .idle hasStarted := by
  have hechoed := hp.echoed
  unfold Echoed at hechoed
  cases hecho : p.echo <;> rw [hecho] at hechoed <;> dsimp only at hechoed <;>
    first | exact ⟨_, rfl⟩ | omega

theorem exists_advances_listening (hp : p.Sound) (hstage : p.stage = .listening) :
    ∃ p' l', p.Advances p' ∧ (p.scene l).step .client = p'.scene l' := by
  have hstaged := hp.staged
  rw [Staged, hstage] at hstaged
  obtain ⟨hsent, hentries, hrequests⟩ := hstaged
  have hevents := hp.events_absent hsent
  have hecho := hp.echo_absent (by omega)
  have hcounted := hp.counted
  rw [Counted, hevents] at hcounted
  have hnothing : 0 + ([] : List Delivery).length = p.eventsRouted := by
    have hle := hp.placed.1
    simp only [eventsRouted, List.length_nil]
    omega
  have hlimit : p.settings.max = 0 ∨ 0 < p.settings.max := Nat.eq_zero_or_pos _
  have hone : p.sent + 1 = 1 := by omega
  obtain ⟨l', hstep⟩ := step_listening (l := l) hp.placed hstage hsent hevents hecho
    (hp.room (Or.inl (by omega)))
  let p' : Plot := { p with stage := .offering, sent := p.sent + 1, events := .live {} }
  have hechoed : p'.Echoed := by
    simp only [p', Echoed, hecho]
    omega
  have hframes : p'.frames.length = p.frames.length + 1 := length_frames_send hp.placed
  have hrank : p.events.rank = 0 := by rw [hevents, Events.rank]
  have hrank' : p'.events.rank = 11 := rfl
  have hkeeps : p'.echo.rank = p.echo.rank ∧ p'.sweepsLeft = p.sweepsLeft := ⟨rfl, rfl⟩
  exact ⟨p', l', advances_of_cost ⟨hp.messages, ⟨hone, hentries, hrequests⟩,
    ⟨Nat.le_add_left .., hcounted.2, rfl, hnothing, hlimit.imp_right Or.inl⟩, hechoed,
    hp.placed.send, hp.sweeper, hp.clock, Or.inl (hp.clock_of_stage (by simp [hstage]))⟩ rfl rfl
    (Nat.le_succ _) (by simp only [p', stagesLeft, hstage]; omega) (by omega), hstep⟩

theorem exists_advances_offering (hp : p.Sound) (hstage : p.stage = .offering) :
    ∃ p' l', p.Advances p' ∧ (p.scene l).step .client = p'.scene l' := by
  have hstaged := hp.staged
  rw [Staged, hstage] at hstaged
  obtain ⟨hsent, hentries, hrequests⟩ := hstaged
  have hecho := hp.echo_absent (by omega)
  have hle := hp.placed.1
  have htwo : p.sent + 1 = 0 + 2 := by omega
  have hechoed : 2 ≤ p.sent + 1 ∧ p.sent + 1 ≤ p.settings.messages + 4 ∧
      p.routed ≤ p.settings.messages + 3 := by omega
  obtain ⟨l', hstep⟩ := step_offering (l := l) hp.placed hstage hsent
    (hp.events_ne_absent (by omega)) hecho (hp.room (Or.inl (by omega)))
  let p' : Plot := { p with stage := .publishing 0, sent := p.sent + 1, echo := .idle false }
  have hframes : p'.frames.length = p.frames.length + 1 := length_frames_send hp.placed
  have hrank' : p'.echo.rank = 1 := rfl
  have hkeeps : p'.events.rank = p.events.rank ∧ p'.sweepsLeft = p.sweepsLeft := ⟨rfl, rfl⟩
  exact ⟨p', l', advances_of_cost ⟨hp.messages, ⟨htwo, Nat.zero_le _, hentries, hrequests⟩,
    hp.counted_of_sent (by omega) (Nat.le_succ _), hechoed, hp.placed.send, hp.sweeper, hp.clock,
    Or.inl (hp.clock_of_stage (by simp [hstage]))⟩ rfl rfl (Nat.le_succ _)
    (by simp only [p', stagesLeft, hstage]; omega) (by omega), hstep⟩

theorem exists_advances_publishing (hp : p.Sound) {count : Nat}
    (hstage : p.stage = .publishing count) :
    ∃ p' l', p.Advances p' ∧ (p.scene l).step .client = p'.scene l' := by
  have hstaged := hp.staged
  rw [Staged, hstage] at hstaged
  obtain ⟨hsent, hle, hentries, hrequests⟩ := hstaged
  have hzero := hp.clock_of_stage (by simp [hstage])
  rcases Nat.lt_or_eq_of_le hle with hlt | rfl
  · obtain ⟨hasStarted, hecho⟩ := hp.echo_idle (by omega) (by omega)
    obtain ⟨l', hstep⟩ := step_publishing (l := l) hp.placed hstage hlt hsent
      (hp.room (Or.inl (by omega)))
    let p' : Plot := { p with stage := .publishing (count + 1), sent := p.sent + 1 }
    have hechoed : p'.Echoed := by
      have hrouted := hp.placed.1
      simp only [p', Echoed, hecho]
      omega
    have hnext : p.sent + 1 = count + 1 + 2 := by omega
    have hframes : p'.frames.length = p.frames.length + 1 := length_frames_send hp.placed
    have hkeeps : p'.events.rank = p.events.rank ∧ p'.echo.rank = p.echo.rank ∧
      p'.sweepsLeft = p.sweepsLeft := ⟨rfl, rfl, rfl⟩
    exact ⟨p', l', advances_of_cost ⟨hp.messages, ⟨hnext, hlt, hentries, hrequests⟩,
      hp.counted_of_sent (by omega) (Nat.le_succ _), hechoed, hp.placed.send, hp.sweeper, hp.clock,
      Or.inl hzero⟩ rfl rfl (Nat.le_succ _) (by simp only [p', stagesLeft, hstage]; omega)
      (by omega), hstep⟩
  · let p' : Plot := { p with stage := .askingEcho }
    have hkeeps : p'.frames = p.frames ∧ p'.events.rank = p.events.rank ∧
      p'.echo.rank = p.echo.rank ∧ p'.sweepsLeft = p.sweepsLeft := ⟨rfl, rfl, rfl, rfl⟩
    exact ⟨p', l, advances_of_cost ⟨hp.messages, ⟨hsent, hentries, hrequests⟩, hp.counted, hp.echoed,
      hp.placed, hp.sweeper, hp.clock, Or.inl hzero⟩ rfl rfl (Nat.le_refl _)
      (by simp only [p', stagesLeft, hstage]; omega) (by rw [hkeeps.1]; omega),
      step_published hstage⟩

/-- At the start of the clock, a request is registered that waits. -/
theorem awaits_request (hzero : p.clock = 0) (hentries : p.registry.entries = []) :
    (p.registry.register (key p.token (p.registry.requests.length + 1)) {} p.timeout p.clock).2.Awaits
      p.registry.requests.length (p.request p.registry.requests.length) := by
  have hmade := Registry.awaits_register hentries
    (key p.token (p.registry.requests.length + 1)) {} p.timeout p.clock
  rwa [hzero] at hmade ⊢

theorem exists_advances_askingEcho (hp : p.Sound) (hstage : p.stage = .askingEcho) :
    ∃ p' l', p.Advances p' ∧ (p.scene l).step .client = p'.scene l' := by
  have hstaged := hp.staged
  rw [Staged, hstage] at hstaged
  obtain ⟨hsent, hentries, hrequests⟩ := hstaged
  have hzero := hp.clock_of_stage (by simp [hstage])
  have hmessages := hp.messages
  have hle := hp.length_frames_le
  have hrouted := hp.placed.1
  obtain ⟨hasStarted, hecho⟩ := hp.echo_idle (by omega) (by omega)
  obtain ⟨l', hstep⟩ := step_askingEcho (l := l) hp.placed hstage hsent hentries hrequests
    (by omega)
  have hawaits := awaits_request hzero hentries
  rw [hrequests] at hawaits
  let p' : Plot := { p with
    stage := .awaitingEcho 0
    sent := p.sent + 2
    registry := (p.registry.register (key p.token 1) {} p.timeout p.clock).2 }
  have hechoed : p'.Echoed := by
    simp only [p', Echoed, hecho]
    omega
  have hsent' : p.settings.messages + 4 ≤ p.sent + 2 ∧ p.sent + 2 ≤ p.settings.messages + 5 ∧
    p.routed ≤ p.settings.messages + 4 := by omega
  have hframes : p'.frames.length = p.frames.length + 1 + 1 :=
    (length_frames_send hp.placed.send).trans (congrArg (· + 1) (length_frames_send hp.placed))
  have hsweeps : p'.sweepsLeft ≤ p.sweepsLeft + 2 := p.sweepsLeft_le _
  have hkeeps : p'.events.rank = p.events.rank ∧ p'.echo.rank = p.echo.rank := ⟨rfl, rfl⟩
  exact ⟨p', l', advances_of_cost ⟨hp.messages,
    ⟨rfl, hsent'.1, hsent'.2.1, Or.inl ⟨hsent'.2.2, hawaits⟩⟩,
    hp.counted_of_sent (by omega) (Nat.le_add_right ..), hechoed, hp.placed.send.send, hp.sweeper,
    hp.clock, Or.inl hzero⟩ rfl rfl (Nat.le_add_right ..)
    (by simp only [p', stagesLeft, hstage]; omega) (by omega), hstep⟩

theorem exists_advances_askingNobody (hp : p.Sound) (hstage : p.stage = .askingNobody) :
    ∃ p' l', p.Advances p' ∧ (p.scene l).step .client = p'.scene l' := by
  have hstaged := hp.staged
  rw [Staged, hstage] at hstaged
  obtain ⟨hsent, hrouted, hentries, hrequests⟩ := hstaged
  have hzero := hp.clock_of_stage (by simp [hstage])
  obtain ⟨l', hstep⟩ := step_askingNobody (l := l) hp.placed hstage hsent hentries hrequests
    (hp.room (Or.inr (Or.inr (by omega))))
  have hawaits := awaits_request hzero hentries
  rw [hrequests] at hawaits
  let p' : Plot := { p with
    stage := .awaitingNobody 1
    sent := p.sent + 1
    registry := (p.registry.register (key p.token 2) {} p.timeout p.clock).2 }
  have hechoed : p'.Echoed := by
    have hechoed := hp.echoed
    unfold Echoed at hechoed ⊢
    cases hecho : p.echo <;> simp only [p', hecho] at hechoed ⊢ <;> omega
  have hsent' : p.sent + 1 = p.settings.messages + 6 := by omega
  have hframes : p'.frames.length = p.frames.length + 1 := length_frames_send hp.placed
  have hsweeps : p'.sweepsLeft ≤ p.sweepsLeft + 2 := p.sweepsLeft_le _
  have hkeeps : p'.events.rank = p.events.rank ∧ p'.echo.rank = p.echo.rank := ⟨rfl, rfl⟩
  exact ⟨p', l', advances_of_cost ⟨hp.messages, ⟨rfl, hsent', Or.inl ⟨hrouted, hawaits⟩⟩,
    hp.counted_of_sent (by omega) (Nat.le_succ _), hechoed, hp.placed.send, hp.sweeper, hp.clock,
    Or.inl hzero⟩ rfl rfl (Nat.le_succ _) (by simp only [p', stagesLeft, hstage]; omega)
    (by omega), hstep⟩

/-- A request that waits is not answered. -/
theorem not_isReady_of_awaits {number : Nat} (hstage : p.stage = .awaitingEcho number ∨
    p.stage = .awaitingNobody number) {r : Request} (h : p.registry.Awaits number r) :
    (p.scene l).isReady .client = false := by
  have hanswered : (p.connection l).isAnswered number = false := by
    have hlook : (p.connection l).registry.request? number = some r := h.request?
    simp [Connection.isAnswered, hlook, Request.isDone_eq_false_iff.2 h.pending]
  rcases hstage with hstage | hstage <;>
    simp only [Scene.isReady, scene, Client.isReady, client, hstage, hanswered]

/-- The client goes to another stage, with what it took out of the registry. -/
theorem Sound.advances_outcome (hp : p.Sound) (hzero : p.clock = 0) (stage : Stage)
    {registry : Registry} (hstaged : { p with stage := stage, registry := registry }.Staged)
    (hsignalled : registry.signalled = p.registry.signalled)
    (hleft : { p with stage := stage }.stagesLeft < p.stagesLeft) :
    p.Advances { p with stage := stage, registry := registry } := by
  let p' : Plot := { p with stage := stage, registry := registry }
  have hsweeps : p'.sweepsLeft = p.sweepsLeft := by simp only [p', sweepsLeft, hsignalled]
  have hkeeps : p'.frames = p.frames ∧ p'.events.rank = p.events.rank ∧
    p'.echo.rank = p.echo.rank := ⟨rfl, rfl, rfl⟩
  show p.Advances p'
  exact advances_of_cost ⟨hp.messages, hstaged, hp.counted, hp.echoed, hp.placed, hp.sweeper,
    hp.clock, Or.inl hzero⟩ rfl rfl (Nat.le_refl _) hleft (by rw [hkeeps.1]; omega)

theorem exists_advances_awaitingEcho (hp : p.Sound) {number : Nat}
    (hstage : p.stage = .awaitingEcho number) (hready : (p.scene l).isReady .client = true) :
    ∃ p' l', p.Advances p' ∧ (p.scene l).step .client = p'.scene l' := by
  have hstaged := hp.staged
  rw [Staged, hstage] at hstaged
  obtain ⟨rfl, -, hsent, ⟨-, hawaits⟩ | ⟨hrouted, hanswered⟩⟩ := hstaged
  · rw [not_isReady_of_awaits (Or.inl hstage) hawaits] at hready
    cases hready
  · obtain ⟨old, hold, hrequests⟩ := hanswered.requests
    obtain ⟨registry, hentries, hlength, hsignalled, hstep⟩ :=
      step_awaitingEcho (l := l) hstage hanswered
    have hone : registry.requests.length = 1 := by
      rw [hlength, hrequests, List.length_append, hold, List.length_singleton]
    have hsent' : p.sent = p.settings.messages + 5 := by
      have hle := hp.placed.1
      omega
    exact ⟨_, l, hp.advances_outcome (hp.clock_of_stage (by simp [hstage])) .askingNobody
      ⟨hsent', hrouted, hentries, hone⟩ hsignalled (by simp [stagesLeft, hstage]), hstep⟩

theorem exists_advances_awaitingNobody (hp : p.Sound) {number : Nat}
    (hstage : p.stage = .awaitingNobody number) (hready : (p.scene l).isReady .client = true) :
    ∃ p' l', p.Advances p' ∧ (p.scene l).step .client = p'.scene l' := by
  have hstaged := hp.staged
  rw [Staged, hstage] at hstaged
  obtain ⟨rfl, hsent, ⟨-, hawaits⟩ | ⟨hrouted, hanswered⟩⟩ := hstaged
  · rw [not_isReady_of_awaits (Or.inr hstage) hawaits] at hready
    cases hready
  · have hzero := hp.clock_of_stage (by simp [hstage])
    obtain ⟨registry, hentries, hsignalled, hstep⟩ := step_awaitingNobody (l := l) hstage hanswered
    rw [hzero] at hstep
    have hpause : 0 + pause = pause := Nat.zero_add _
    exact ⟨_, l, hp.advances_outcome hzero (.pausing (0 + pause))
      ⟨hpause, hsent, hrouted, hentries⟩ hsignalled (by simp [stagesLeft, hstage]),
      hzero ▸ hstep⟩

/-- Whatever the client does before it sleeps, the demo goes on. -/
theorem exists_advances_client (hp : p.Sound) (hstage : ∀ wakeAt, p.stage ≠ .pausing wakeAt)
    (hready : (p.scene l).isReady .client = true) :
    ∃ p' l', p.Advances p' ∧ (p.scene l).step .client = p'.scene l' := by
  match hnow : p.stage with
  | .listening => exact exists_advances_listening hp hnow
  | .offering => exact exists_advances_offering hp hnow
  | .publishing _ => exact exists_advances_publishing hp hnow
  | .askingEcho => exact exists_advances_askingEcho hp hnow
  | .awaitingEcho _ => exact exists_advances_awaitingEcho hp hnow hready
  | .askingNobody => exact exists_advances_askingNobody hp hnow
  | .awaitingNobody _ => exact exists_advances_awaitingNobody hp hnow hready
  | .pausing wakeAt => exact absurd hnow (hstage wakeAt)
  | .over .. =>
    have hstaged := hp.staged
    rw [Staged, hnow] at hstaged
    exact hstaged.elim

end Demo.Plot

end PubSub
