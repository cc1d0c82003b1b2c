import PubSub.Proofs.Demo.Plot
import PubSub.Proofs.Connection.FailedStart

/-!
# The workers' turns in the demo

The worker of the events takes note of one event after the other until it reaches the ceiling; then
it ends its subscription. The worker that answers does so once.

## Main results

- `Demo.Plot.Sound.room` — no frame of the demo finds the channel full
- `Demo.Plot.exists_follows_eventsWorker` — the worker of the events brings the demo forward
- `Demo.Plot.exists_follows_echoWorker` — so does the worker that answers
-/

namespace PubSub

namespace Connection

variable {c : Connection} {t : Transport} {s : Subscription} {i : Nat} {d : Delivery}

/-- The connection after a frame went into its channel. -/
def posted (c : Connection) (o : Outgoing) : Connection :=
  { c with outbound := { c.outbound with entries := c.outbound.entries ++ [o] } }.log
    (.offered o (.ok ()))

/-- A frame is accepted when nothing reacts to it and there is room. -/
theorem transport_of_room (hreactions : c.reactions = [])
    (haccepts : c.outbound.receiver = .accepting)
    (hroom : c.outbound.entries.length < c.outbound.capacity) (o : Outgoing) :
    transport o c = (.ok (), c.posted o) := by
  have hopen : c.outbound.isClosed = false := by simp [Outbound.isClosed, haccepts]
  have hsend : c.outbound.send o =
      .ok { c.outbound with entries := c.outbound.entries ++ [o] } := by
    simp [Outbound.send, hopen, Nat.not_le_of_lt hroom]
  rw [transport, gated_of_still hreactions]
  simp only [offerThrough, Gate.clear, offer, hsend, posted]

/-- A live subscription is closed while there is room for the frame that withdraws it. -/
theorem closeSubscription_of_room {sid : Sid} (hs : c.subscription? sid = some s)
    (hvalid : s.valid = true) (hattached : s.attached = true) (hreactions : c.reactions = [])
    (haccepts : c.outbound.receiver = .accepting)
    (hroom : c.outbound.entries.length < c.outbound.capacity) :
    c.closeSubscription transport sid =
      (((c.invalidate sid).posted { frame := .unsubscribe sid none }).disable sid).2 := by
  have hsend := transport_of_room (c := c.invalidate sid) hreactions haccepts hroom
  simp [closeSubscription, teardown, hs, hvalid, hattached, hsend]

/-- A message is handed to the handler while the ceiling is not reached. -/
theorem process_of_room (handler : Handler) (hhandler : s.handler = some handler)
    (hattached : s.attached = true) (hroom : s.max = 0 ∨ s.delivered < s.max) :
    c.process t s i d =
      let s' := { s with delivered := s.delivered + 1 }
      (c.modifySubscription s.sid fun _ => s').beginInvocation s' i handler d
        (s.delivered + 1) := by
  simp [process, hhandler, hattached, Subscription.claim, hroom]

/-- The end of a script ends the invocation of a subscription's only worker. -/
theorem stepWorker_of_over {sid : Sid} (hs : c.subscription? sid = some s) {invocation : Invocation}
    (hworkers : s.workers = [{ cancelled := false, phase := .handling invocation }])
    (hscript : invocation.script = []) (hawake : invocation.wakeAt = none) :
    (c.stepWorker t sid 0).2 = c.finishInvocation t s 0 invocation none := by
  simp [stepWorker, hs, hworkers, Subscription.isReady, hawake, stepInvocation, hscript]

/-- An answer that can be sent is sent. -/
theorem stepWorker_of_respond {sid : Sid} (hs : c.subscription? sid = some s)
    {invocation : Invocation}
    (hworkers : s.workers = [{ cancelled := false, phase := .handling invocation }])
    {rest : List Action} (hscript : invocation.script = .respondUpper :: rest)
    (hawake : invocation.wakeAt = none) {o : Outgoing}
    (hresponse : invocation.delivery.response
      (Text.upperAscii invocation.delivery.message.payload) = .ok o)
    (hreactions : c.reactions = []) (haccepts : c.outbound.receiver = .accepting)
    (hroom : c.outbound.entries.length < c.outbound.capacity) :
    (c.stepWorker transport sid 0).2 = (c.posted o).setPhase s.sid 0
      (.handling { invocation with script := rest }) := by
  have hsend := transport_of_room hreactions haccepts hroom o
  simp [stepWorker, hs, hworkers, Subscription.isReady, hawake, stepInvocation, hscript, act,
    respondOrFail, respond, hresponse, hsend, Except.mapError]

end Connection

namespace Demo.Plot

variable {p p' : Plot} {l : Ledger} {lane : Lane}

/-- A worker's step concerns the connection only. -/
theorem step_worker {l' : Ledger} {sid : Sid} {i : Nat}
    (h : ((p.connection l).stepWorker Connection.transport sid i).2 = p'.connection l')
    (hclient : p'.client = p.client) (hinterest : p'.interest = p.interest) :
    (p.scene l).step (.task (.worker sid i)) = p'.scene l' := by
  simp only [Scene.step, Node.stepTask, scene, h, hclient, hinterest]

/-- A connection with its frames spelled out. -/
theorem connection_of_frames {frames : List Outgoing} (h : p.frames = frames) (l : Ledger) :
    p.connection l =
      { p.connection l with outbound := { entries := frames, capacity := 1024 } } := by
  rw [← h]
  rfl

/-! ## Room for frames -/

/-- The next frame of the script is sent, which is not the announcement of the reply subjects. -/
theorem connection_posted (hp : p.Placed)
    (hannounced : p.settings.messages + 3 ≤ p.sent + 1 ↔ p.settings.messages + 3 ≤ p.sent)
    (l : Ledger) : ∃ l', (p.connection l).posted (script p.settings.messages p.token p.sent) =
      { p with sent := p.sent + 1 }.connection l' := by
  have hframes := frames_send hp
  let offer : Event := .offered (script p.settings.messages p.token p.sent) (.ok ())
  refine ⟨⟨l.counts, offer :: l.journal, l.eventCount + 1⟩, ?_⟩
  rw [connection_of_frames hframes]
  simp only [connection, hannounced]
  rfl

/-- The withdrawal is sent after an event was read. -/
theorem Sound.three_le_routed (hp : p.Sound) {next : Nat} (hnotice : p.notice = .waiting next) :
    3 ≤ p.routed := by
  have hcounted := hp.counted
  unfold Counted eventsRouted at hcounted
  cases hevents : p.events <;> simp [hevents, hnotice] at hcounted
  omega

/-- As many frames wait as were sent of the script at most: the withdrawal takes the place of those
that were read before. -/
theorem Sound.length_frames_le (hp : p.Sound) : p.frames.length ≤ p.sent := by
  have hle := hp.placed.1
  rw [length_frames hp.placed]
  cases hnotice : p.notice with
  | unsent | routed => exact Nat.sub_le ..
  | waiting next =>
    have hread := hp.three_le_routed hnotice
    dsimp only
    omega

/-- There is room in the channel while the client makes its announcements, for the withdrawal once
an event was read, and when the router has caught up. -/
theorem Sound.room (hp : p.Sound) (h : p.sent ≤ p.settings.messages + 3 ∨
      3 ≤ p.routed ∧ p.notice = .unsent ∨ p.sent ≤ p.routed) : p.frames.length < 1024 := by
  have hmessages := hp.messages
  have hsent := hp.sent_le
  rcases h with hfew | ⟨hread, hunsent⟩ | hcaught
  · have hle := hp.length_frames_le
    omega
  · rw [length_frames hp.placed, hunsent]
    dsimp only
    omega
  · rw [length_frames hp.placed]
    split <;> omega

/-! ## The events -/

theorem subscription?_live (hevents : p.events = .live lane) : (p.connection l).subscription? 1 =
    some (started 1 (eventPlan p.settings.max) lane.delivered lane.queue
      (lane.phase p.settings.max)) := by
  simp only [Connection.subscription?, connection, subscriptions, hevents]
  rfl

theorem stepWorker_starting (hevents : p.events = .live lane) (hdoing : lane.doing = .starting) :
    ((p.connection l).stepWorker Connection.transport 1 0).2 =
      { p with events := .live { lane with doing := .receiving } }.connection l := by
  obtain ⟨delivered, queue, doing⟩ := lane
  obtain ⟨settings, token, stage, clock, sent, routed, notice, events, echo, registry, sweeper⟩ := p
  dsimp only at hevents hdoing
  subst hevents hdoing
  cases echo <;> rfl

theorem stepWorker_receiving (hevents : p.events = .live lane) (hdoing : lane.doing = .receiving)
    {d : Delivery} {rest : List Delivery} (hentries : lane.queue.entries = d :: rest)
    (hroom : p.settings.max = 0 ∨ lane.delivered < p.settings.max) :
    ∃ l', ((p.connection l).stepWorker Connection.transport 1 0).2 = { p with events := .live {
      delivered := lane.delivered + 1,
      queue := { lane.queue with entries := rest, pending := lane.queue.pending - 1 },
      doing := .handling d } }.connection l' := by
  obtain ⟨delivered, ⟨entries, pending, receiver, senders⟩, doing⟩ := lane
  obtain ⟨settings, token, stage, clock, sent, routed, notice, events, echo, registry, sweeper⟩ := p
  dsimp only at hevents hdoing hentries hroom
  subst hevents hdoing hentries
  let s : Subscription :=
    started 1 (eventPlan settings.max) delivered ⟨rest, pending - 1, receiver, senders⟩ .receiving
  -- the message leaves the queue, and then the ceiling is looked at
  have hprocess (c : Connection) : c.process Connection.transport s 0 d =
      (c.modifySubscription 1 fun _ => { s with delivered := delivered + 1 }).beginInvocation
        { s with delivered := delivered + 1 } 0 eventHandler d (delivered + 1) :=
    Connection.process_of_room eventHandler rfl rfl hroom
  cases echo <;> exact ⟨⟨_, _, _⟩, (hprocess _).trans rfl⟩

theorem stepWorker_handling {d : Delivery} (hevents : p.events = .live lane)
    (hdoing : lane.doing = .handling d)
    (hbelow : ¬(p.settings.max ≠ 0 ∧ lane.delivered = p.settings.max)) :
    ∃ l', ((p.connection l).stepWorker Connection.transport 1 0).2 =
      { p with events := .live { lane with doing := .receiving } }.connection l' := by
  have hover := Connection.stepWorker_of_over (t := Connection.transport)
    (subscription?_live (l := l) hevents) (by rw [Lane.phase, hdoing]; rfl) rfl rfl
  rw [hover, Connection.finishInvocation, if_neg hbelow]
  obtain ⟨delivered, queue, doing⟩ := lane
  obtain ⟨settings, token, stage, clock, sent, routed, notice, events, echo, registry, sweeper⟩ := p
  dsimp only at hevents hdoing
  subst hevents hdoing
  cases echo <;> exact ⟨⟨_, _, _⟩, rfl⟩

/-- The worker that has reached the ceiling withdraws the subscription and ends. -/
theorem stepWorker_last {d : Delivery} (hevents : p.events = .live lane)
    (hdoing : lane.doing = .handling d) (haccepts : lane.queue.receiver = .accepting)
    (hmax : p.settings.max ≠ 0) (hlast : lane.delivered = p.settings.max)
    (hunsent : p.notice = .unsent) (hroom : p.frames.length < 1024) :
    ∃ l', ((p.connection l).stepWorker Connection.transport 1 0).2 = { p with
      events := .ended lane.queue.close, notice := .waiting p.sent }.connection l' := by
  have hframes : { p with events := .ended lane.queue.close, notice := .waiting p.sent }.frames =
      p.frames ++ [withdrawal] := frames_withdraw hunsent
  have hover := Connection.stepWorker_of_over (t := Connection.transport)
    (subscription?_live (l := l) hevents) (by rw [Lane.phase, hdoing]; rfl) rfl rfl
  have hclose : ((p.connection l).log (.ended 1 none)).closeSubscription Connection.transport 1 =
      (((((p.connection l).log (.ended 1 none)).invalidate 1).posted withdrawal).disable 1).2 :=
    Connection.closeSubscription_of_room (c := (p.connection l).log _)
      (subscription?_live (l := l) hevents) rfl rfl rfl rfl hroom
  rw [hover, Connection.finishInvocation, if_pos ⟨hmax, hlast⟩]
  show ∃ l', (((p.connection l).log (.ended 1 none)).closeSubscription
    Connection.transport 1).exitWorker 1 0 = _
  rw [hclose]
  obtain ⟨delivered, ⟨entries, pending, receiver, senders⟩, doing⟩ := lane
  obtain ⟨settings, token, stage, clock, sent, routed, notice, events, echo, registry, sweeper⟩ := p
  dsimp only at hevents hdoing haccepts hmax hlast hunsent
  subst hevents hdoing haccepts hunsent hlast
  cases echo <;> exact ⟨⟨_, _, _⟩, Eq.trans rfl (connection_of_frames hframes ⟨_, _, _⟩).symm⟩

/-! ## The answer -/

theorem subscription?_echo (l : Ledger) (s : Subscription)
    (hecho : p.echo.subscriptions p.token = [s]) (hsid : s.sid = 2) :
    (p.connection l).subscription? 2 = some s := by
  simp only [Connection.subscription?, connection, subscriptions, hecho]
  cases p.events <;> simp [Events.subscriptions, started, hsid]

theorem stepWorker_idle (hecho : p.echo = .idle false) :
    ((p.connection l).stepWorker Connection.transport 2 0).2 =
      { p with echo := .idle true }.connection l := by
  obtain ⟨settings, token, stage, clock, sent, routed, notice, events, echo, registry, sweeper⟩ := p
  dsimp only at hecho
  subst hecho
  cases events <;> rfl

theorem stepWorker_waiting (hecho : p.echo = .asked false) :
    ((p.connection l).stepWorker Connection.transport 2 0).2 =
      { p with echo := .asked true }.connection l := by
  obtain ⟨settings, token, stage, clock, sent, routed, notice, events, echo, registry, sweeper⟩ := p
  dsimp only at hecho
  subst hecho
  cases events <;> rfl

theorem stepWorker_asked (hecho : p.echo = .asked true) :
    ∃ l', ((p.connection l).stepWorker Connection.transport 2 0).2 =
      { p with echo := .answering }.connection l' := by
  obtain ⟨settings, token, stage, clock, sent, routed, notice, events, echo, registry, sweeper⟩ := p
  dsimp only at hecho
  subst hecho
  have hprocess (c : Connection) :=
    Connection.process_of_room (c := c) (t := Connection.transport) (i := 0) (d := question token)
      (s := started 2 echoPlan 0 {} .receiving) echoHandler rfl rfl (Or.inl rfl)
  cases events <;> exact ⟨⟨_, _, _⟩, (hprocess _).trans rfl⟩

/-- The handler sends its answer. -/
theorem stepWorker_answering (hp : p.Placed) (hecho : p.echo = .answering)
    (hsent : p.sent = p.settings.messages + 4) (hroom : p.frames.length < 1024) :
    ∃ l', ((p.connection l).stepWorker Connection.transport 2 0).2 =
      { p with sent := p.sent + 1, echo := .answered }.connection l' := by
  have hs := subscription?_echo l _ (by rw [hecho]; rfl) rfl
  have hrespond : ((p.connection l).stepWorker Connection.transport 2 0).2 =
      ((p.connection l).posted
        { frame := .publish (key p.token 1) none shout, onBehalfOf := some 2 }).setPhase 2 0
          (.handling { delivery := question p.token, script := [], ceiling := 0, count := 1 }) :=
    Connection.stepWorker_of_respond hs rfl rfl rfl rfl rfl rfl hroom
  obtain ⟨l', hposted⟩ := connection_posted hp (by omega) l
  rw [hsent, script_answer] at hposted
  refine ⟨l', ?_⟩
  rw [hrespond, hposted]
  obtain ⟨settings, token, stage, clock, sent, routed, notice, events, echo, registry, sweeper⟩ := p
  dsimp only at hecho hsent
  subst hecho hsent
  cases events <;> rfl

theorem stepWorker_answered (hecho : p.echo = .answered) :
    ∃ l', ((p.connection l).stepWorker Connection.transport 2 0).2 =
      { p with echo := .done }.connection l' := by
  have hs := subscription?_echo l _ (by rw [hecho]; rfl) rfl
  have hover := Connection.stepWorker_of_over (t := Connection.transport) hs rfl rfl rfl
  rw [hover, Connection.finishInvocation, if_neg (by simp)]
  obtain ⟨settings, token, stage, clock, sent, routed, notice, events, echo, registry, sweeper⟩ := p
  dsimp only at hecho
  subst hecho
  cases events <;> exact ⟨⟨_, _, _⟩, rfl⟩

/-! ## Turns -/

/-- A worker has something to do only while the clock is at its start. -/
theorem Sound.clock_of_events (hp : p.Sound) (hevents : p.events = .live lane)
    (hready : lane.doing ≠ .receiving ∨ lane.queue.entries ≠ []) : p.clock = 0 := by
  refine hp.resting.resolve_right fun hrest => ?_
  obtain ⟨hdoing, hentries⟩ := hrest.events lane hevents
  exact hready.elim (· hdoing) (· hentries)

theorem Sound.clock_of_echo (hp : p.Sound) (hready : p.echo ≠ .done) : p.clock = 0 :=
  hp.resting.resolve_right fun hrest => hready hrest.echo

theorem Placed.send (hp : p.Placed) : { p with sent := p.sent + 1 }.Placed :=
  ⟨Nat.le_succ_of_le hp.1, fun next hnext =>
    ⟨(hp.2 next hnext).1, Nat.le_succ_of_le (hp.2 next hnext).2⟩⟩

theorem Sound.counted_of_sent (hp : p.Sound) (hsent : p.sent ≠ 0) {sent : Nat}
    (hle : p.sent ≤ sent) : { p with sent := sent }.Counted := by
  have hcounted := hp.counted
  unfold Counted at hcounted ⊢
  dsimp only at hcounted ⊢
  cases hevents : p.events <;> rw [hevents] at hcounted <;> dsimp only at hcounted ⊢
  · exact absurd hcounted.1 hsent
  · exact ⟨Nat.le_trans hcounted.1 hle, hcounted.2⟩
  · exact hcounted

theorem Sound.follows_events (hp : p.Sound) (hzero : p.clock = 0) (events : Events)
    (hcounted : { p with events := events }.Counted) (hrank : events.rank < p.events.rank) :
    p.Follows { p with events := events } := by
  refine ⟨⟨hp.messages, hp.staged, hcounted, hp.echoed, hp.placed, hp.sweeper, hp.clock,
    Or.inl hzero⟩, rfl, rfl, ?_⟩
  have hframes : { p with events := events }.frames = p.frames := rfl
  simp only [rank, hframes, stagesLeft, sweepsLeft]
  omega

theorem Sound.follows_echo (hp : p.Sound) (hzero : p.clock = 0) (echo : Echo)
    (hechoed : { p with echo := echo }.Echoed) (hrank : echo.rank < p.echo.rank) :
    p.Follows { p with echo := echo } := by
  refine ⟨⟨hp.messages, hp.staged, hp.counted, hechoed, hp.placed, hp.sweeper, hp.clock,
    Or.inl hzero⟩, rfl, rfl, ?_⟩
  have hframes : { p with echo := echo }.frames = p.frames := rfl
  simp only [rank, hframes, stagesLeft, sweepsLeft]
  omega

/-- The worker takes the next event while the ceiling is not reached. -/
theorem exists_follows_receiving (hp : p.Sound) (hevents : p.events = .live lane)
    (hdoing : lane.doing = .receiving) (hentries : lane.queue.entries ≠ []) :
    ∃ p' l', p.Follows p' ∧ (p.scene l).step (.task (.worker 1 0)) = p'.scene l' := by
  have hzero := hp.clock_of_events hevents (Or.inr hentries)
  have hcounted := hp.counted
  rw [Counted, hevents] at hcounted
  obtain ⟨hsent, hunsent, haccepts, hcount, hlimit⟩ := hcounted
  simp only [hdoing, reduceCtorEq, exists_false, and_false, or_false] at hlimit
  obtain ⟨d, rest, hentries⟩ := List.exists_cons_of_ne_nil hentries
  obtain ⟨l', hstep⟩ := stepWorker_receiving (l := l) hevents hdoing hentries hlimit
  rw [hentries, List.length_cons] at hcount
  have hcount' : lane.delivered + 1 + rest.length = p.eventsRouted := by omega
  have hlimit' : p.settings.max = 0 ∨ lane.delivered + 1 < p.settings.max ∨
      lane.delivered + 1 = p.settings.max ∧ ∃ d', Doing.handling d = .handling d' :=
    hlimit.imp_right fun hlt => (Nat.lt_or_eq_of_le hlt).imp_right fun heq => ⟨heq, d, rfl⟩
  refine ⟨_, l', hp.follows_events hzero (.live {
    delivered := lane.delivered + 1,
    queue := { lane.queue with entries := rest, pending := lane.queue.pending - 1 },
    doing := .handling d }) ⟨hsent, hunsent, haccepts, hcount', hlimit'⟩ ?_,
    step_worker hstep rfl rfl⟩
  simp only [hevents, Events.rank, hdoing, hentries, List.length_cons]
  omega

/-- The worker that has reached the ceiling ends. -/
theorem exists_follows_ceiling (hp : p.Sound) (hevents : p.events = .live lane) {d : Delivery}
    (hdoing : lane.doing = .handling d) (hmax : p.settings.max ≠ 0)
    (hlast : lane.delivered = p.settings.max) :
    ∃ p' l', p.Follows p' ∧ (p.scene l).step (.task (.worker 1 0)) = p'.scene l' := by
  have hzero := hp.clock_of_events hevents (Or.inl (by simp [hdoing]))
  have hcounted := hp.counted
  rw [Counted, hevents] at hcounted
  obtain ⟨-, hunsent, haccepts, hcount, -⟩ := hcounted
  have hread : 3 ≤ p.routed := by
    unfold eventsRouted at hcount
    omega
  have hroom := hp.room (Or.inr (Or.inl ⟨hread, hunsent⟩))
  obtain ⟨l', hstep⟩ := stepWorker_last (l := l) hevents hdoing haccepts hmax hlast hunsent hroom
  have hframes : { p with events := .ended lane.queue.close, notice := .waiting p.sent }.frames =
      p.frames ++ [withdrawal] := frames_withdraw hunsent
  have hcounted' : p.settings.max ≤ p.eventsRouted := by omega
  have hplaced : ∀ next, Notice.waiting p.sent = .waiting next → p.routed ≤ next ∧ next ≤ p.sent := by
    rintro next heq
    obtain rfl := Notice.waiting.inj heq
    exact ⟨hp.placed.1, Nat.le_refl _⟩
  refine ⟨{ p with events := .ended lane.queue.close, notice := .waiting p.sent }, l',
    ⟨⟨hp.messages, hp.staged, ⟨hmax, hcounted', by simp⟩, hp.echoed, ⟨hp.placed.1, hplaced⟩,
      hp.sweeper, hp.clock, Or.inl hzero⟩, rfl, rfl, ?_⟩,
    step_worker hstep rfl (by simp [interest, hunsent])⟩
  simp only [rank, hframes, hevents, Events.rank, hdoing, stagesLeft, sweepsLeft, List.length_append,
    List.length_singleton]
  omega

/-- The worker of the events goes on. -/
theorem exists_follows_eventsWorker (hp : p.Sound) (hevents : p.events = .live lane)
    (hready : lane.doing ≠ .receiving ∨ lane.queue.entries ≠ []) :
    ∃ p' l', p.Follows p' ∧ (p.scene l).step (.task (.worker 1 0)) = p'.scene l' := by
  have hzero := hp.clock_of_events hevents hready
  have hcounted := hp.counted
  rw [Counted, hevents] at hcounted
  obtain ⟨hsent, hunsent, haccepts, hcount, hlimit⟩ := hcounted
  cases hdoing : lane.doing with
  | starting =>
    simp only [hdoing, reduceCtorEq, exists_false, and_false, or_false] at hlimit
    refine ⟨{ p with events := .live { lane with doing := .receiving } }, l,
      hp.follows_events hzero _ ⟨hsent, hunsent, haccepts, hcount, by tauto⟩ ?_,
      step_worker (stepWorker_starting hevents hdoing) rfl rfl⟩
    simp [hevents, Events.rank, hdoing]
  | receiving =>
    exact exists_follows_receiving hp hevents hdoing (hready.resolve_left (· hdoing))
  | handling d =>
    by_cases hlast : p.settings.max ≠ 0 ∧ lane.delivered = p.settings.max
    · exact exists_follows_ceiling hp hevents hdoing hlast.1 hlast.2
    · obtain ⟨l', hstep⟩ := stepWorker_handling (l := l) hevents hdoing hlast
      refine ⟨{ p with events := .live { lane with doing := .receiving } }, l',
        hp.follows_events hzero _ ⟨hsent, hunsent, haccepts, hcount, by tauto⟩ ?_,
        step_worker hstep rfl rfl⟩
      simp [hevents, Events.rank, hdoing]

/-- While the answer is on its way, the client waits for it. -/
theorem Sound.staged_of_answering (hp : p.Sound) (hsent : p.sent = p.settings.messages + 4) :
    { p with sent := p.sent + 1, echo := .answered }.Staged := by
  have hstaged := hp.staged
  unfold Staged at hstaged ⊢
  dsimp only
  cases hstage : p.stage <;> rw [hstage] at hstaged <;> dsimp only at hstaged ⊢
  case awaitingEcho number =>
    obtain ⟨hnumber, -, -, hwaits⟩ := hstaged
    exact ⟨hnumber, by omega, by omega, hwaits⟩
  all_goals omega

/-- The answer is sent. -/
theorem exists_follows_answering (hp : p.Sound) (hecho : p.echo = .answering) :
    ∃ p' l', p.Follows p' ∧ (p.scene l).step (.task (.worker 2 0)) = p'.scene l' := by
  have hzero : p.clock = 0 := hp.clock_of_echo (by simp [hecho])
  have hechoed := hp.echoed
  rw [Echoed, hecho] at hechoed
  obtain ⟨hsent, hrouted⟩ := hechoed
  have hroom := hp.room (Or.inr (Or.inr (by omega)))
  obtain ⟨l', hstep⟩ := stepWorker_answering (l := l) hp.placed hecho hsent hroom
  have hframes : { p with sent := p.sent + 1, echo := .answered }.frames.length =
      p.frames.length + 1 := length_frames_send hp.placed
  have hbefore : p.sent < p.settings.messages + 5 := by omega
  have hafter : ¬p.sent + 1 < p.settings.messages + 5 := by omega
  refine ⟨{ p with sent := p.sent + 1, echo := .answered }, l', ⟨⟨hp.messages,
    hp.staged_of_answering hsent, hp.counted_of_sent (by omega) (Nat.le_succ _),
    ⟨Nat.le_of_not_lt hafter, Nat.le_of_eq hrouted.symm⟩, hp.placed.send, hp.sweeper, hp.clock,
    Or.inl hzero⟩, rfl, rfl, ?_⟩, step_worker hstep rfl rfl⟩
  simp only [rank, hframes, hecho, Echo.rank, stagesLeft, sweepsLeft, if_pos hbefore, if_neg hafter]
  omega

/-- The worker that answers goes on. -/
theorem exists_follows_echoWorker (hp : p.Sound)
    (hready : p.echo = .idle false ∨ (∃ hasStarted, p.echo = .asked hasStarted) ∨
      p.echo = .answering ∨ p.echo = .answered) :
    ∃ p' l', p.Follows p' ∧ (p.scene l).step (.task (.worker 2 0)) = p'.scene l' := by
  have hzero : p.clock = 0 := hp.clock_of_echo fun hdone => by simp [hdone] at hready
  have hechoed := hp.echoed
  unfold Echoed at hechoed
  rcases hready with hecho | ⟨hasStarted, hecho⟩ | hecho | hecho <;> rw [hecho] at hechoed
  · exact ⟨_, l, hp.follows_echo hzero (.idle true) hechoed (by simp [hecho, Echo.rank]),
      step_worker (stepWorker_idle hecho) rfl rfl⟩
  · cases hasStarted
    · exact ⟨_, l, hp.follows_echo hzero (.asked true) hechoed (by simp [hecho, Echo.rank]),
        step_worker (stepWorker_waiting hecho) rfl rfl⟩
    · obtain ⟨l', hstep⟩ := stepWorker_asked (l := l) hecho
      exact ⟨_, l', hp.follows_echo hzero .answering hechoed (by simp [hecho, Echo.rank]),
        step_worker hstep rfl rfl⟩
  · exact exists_follows_answering hp hecho
  · obtain ⟨l', hstep⟩ := stepWorker_answered (l := l) hecho
    exact ⟨_, l', hp.follows_echo hzero .done hechoed (by simp [hecho, Echo.rank]),
      step_worker hstep rfl rfl⟩

end Demo.Plot

end PubSub
