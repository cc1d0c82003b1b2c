import PubSub.Proofs.Demo.Plot
import PubSub.Proofs.Inbox.Ownership

/-!
# The router's turns in the demo

What the router does with each frame of the demo. The events, the request and the answer are fed
back as messages; for the request to nobody it feeds back the signal that nobody listens.

## Main results

- `Demo.Plot.Sound.follows_route` — what a turn of the router has to leave as it was
- `Demo.Plot.exists_follows_router` — whatever frame comes next, the router brings the demo forward
-/

namespace PubSub

theorem Subject.matchesPattern_of_plain {pattern : String} (h : pattern.toList.getLast? ≠ some '*')
    (subject : String) : matchesPattern pattern subject = (pattern == subject) := by
  unfold matchesPattern
  split
  · next hstar => exact absurd hstar h
  · rfl

namespace Demo

/-! ## Reply subjects -/

/-- What does not begin like a reply subject is not one. -/
theorem not_owns (token : String) {s : String} (h : s.toList.head? ≠ some '_') :
    (Inbox.create "_INBOX" token).owns s = false := by
  rw [← Bool.not_eq_true, Inbox.owns_iff]
  rintro ⟨rest, hrest⟩
  rw [hrest] at h
  exact h (by simp [Inbox.create])

theorem owns_key (token : String) (n : Nat) :
    (Inbox.create "_INBOX" token).owns (key token n) = true :=
  (Inbox.create "_INBOX" token).owns_subject n

theorem key_ne (token : String) (n : Nat) {s : String} (h : s.toList.head? ≠ some '_') :
    key token n ≠ s := by
  rintro rfl
  have howns := owns_key token n
  rw [not_owns token h] at howns
  cases howns

theorem wildcard_ne (token : String) {s : String} (h : s.toList.head? ≠ some '_') :
    (Inbox.create "_INBOX" token).wildcard ≠ s := by
  rintro rfl
  have howns : (Inbox.create "_INBOX" token).owns (Inbox.create "_INBOX" token).wildcard = true :=
    Inbox.owns_iff.2 ⟨['*'], String.toList_append⟩
  rw [not_owns token h] at howns
  cases howns

theorem not_matches_wildcard (token : String) {s : String} (h : s.toList.head? ≠ some '_') :
    Subject.matchesPattern (Inbox.create "_INBOX" token).wildcard s = false := by
  rw [← Bool.not_eq_true]
  intro hmatches
  have howns := Inbox.owns_of_matchesPattern hmatches
  rw [not_owns token h] at howns
  cases howns

/-- The queue after an entry was put into it. -/
def Lane.put (lane : Lane) (d : Delivery) : Lane :=
  { lane with queue := { lane.queue with
      entries := lane.queue.entries ++ [d], pending := lane.queue.pending + 1 } }

/-- An event as it is fed back. -/
def eventMessage (n : Nat) : Message :=
  { subject := "demo.events", sid := 1, payload := eventBody n }

namespace Plot

variable {p p' : Plot} {l : Ledger}

/-! ## Who listens -/

theorem listener?_events (h : 1 ≤ p.routed) :
    Router.listener? ⟨p.interest⟩ "demo.events" = if p.notice = .routed then none else some 1 := by
  have hevents : Subject.matchesPattern "demo.events" "demo.events" = true := by decide
  have hecho : Subject.matchesPattern "demo.echo" "demo.events" = false := by decide
  have hwildcard := not_matches_wildcard p.token (s := "demo.events") (by decide)
  by_cases hnotice : p.notice = .routed <;> by_cases htwo : 2 ≤ p.routed <;>
    by_cases hinbox : p.settings.messages + 3 ≤ p.routed <;>
    simp [Router.listener?, interest, *]

theorem listener?_echo (h : 2 ≤ p.routed) : Router.listener? ⟨p.interest⟩ "demo.echo" = some 2 := by
  have hevents : Subject.matchesPattern "demo.events" "demo.echo" = false := by decide
  have hecho : Subject.matchesPattern "demo.echo" "demo.echo" = true := by decide
  by_cases hnotice : 1 ≤ p.routed ∧ p.notice ≠ .routed <;> simp [Router.listener?, interest, *]

theorem listener?_key (h : p.settings.messages + 3 ≤ p.routed) (n : Nat) :
    Router.listener? ⟨p.interest⟩ (key p.token n) = some replySid := by
  have hevents : Subject.matchesPattern "demo.events" (key p.token n) = false := by
    rw [Subject.matchesPattern_of_plain (by decide)]
    exact beq_false_of_ne (key_ne p.token n (by decide)).symm
  have hecho : Subject.matchesPattern "demo.echo" (key p.token n) = false := by
    rw [Subject.matchesPattern_of_plain (by decide)]
    exact beq_false_of_ne (key_ne p.token n (by decide)).symm
  have hwildcard : Subject.matchesPattern _ (key p.token n) = true :=
    (Inbox.create "_INBOX" p.token).matchesPattern_subject n
  have htwo : 2 ≤ p.routed := by omega
  by_cases hnotice : 1 ≤ p.routed ∧ p.notice ≠ .routed <;> simp [Router.listener?, interest, *]

theorem listener?_nobody : Router.listener? ⟨p.interest⟩ "demo.nobody" = none := by
  have hevents : Subject.matchesPattern "demo.events" "demo.nobody" = false := by decide
  have hecho : Subject.matchesPattern "demo.echo" "demo.nobody" = false := by decide
  have hwildcard := not_matches_wildcard p.token (s := "demo.nobody") (by decide)
  by_cases hnotice : 1 ≤ p.routed ∧ p.notice ≠ .routed <;> by_cases htwo : 2 ≤ p.routed <;>
    by_cases hinbox : p.settings.messages + 3 ≤ p.routed <;>
    simp [Router.listener?, interest, *]

/-! ## What is fed back -/

/-- What becomes of a connection when the router feeds back a message, or none. -/
def fed (c : Connection) : Option Message → Connection
  | some m => (c.processInbound m).2
  | none => c

/-- The router takes the first frame, learns from it, and feeds back what becomes of it. -/
theorem step_router {o : Outgoing} {rest : List Outgoing} (h : p.frames = o :: rest) :
    (p.scene l).step (.task .router) =
      let c := { p.connection l with outbound := { entries := rest, capacity := 1024 } }
      let routed := Router.route ⟨p.interest⟩ o.frame
      { client := p.client
        node := { connection := fed c routed.1, router := some routed.2 } } := by
  simp only [Scene.step, scene, Node.stepTask, Node.stepRouter, Outbound.tryRecv, connection, h]
  generalize Router.route _ _ = routed
  obtain ⟨m?, r⟩ := routed
  cases m? <;> rfl

/-- An event enters the queue of a subscription that is live. -/
theorem fed_live {lane : Lane} (hevents : p.events = .live lane)
    (haccepts : lane.queue.receiver = .accepting) (n : Nat) :
    ∃ l', fed (p.connection l) (some (eventMessage n)) =
      { p with events := .live (lane.put ⟨eventMessage n, true⟩) }.connection l' := by
  have howns : (p.connection l).inbox.owns "demo.events" = false := not_owns p.token (by decide)
  rw [fed, Connection.processInbound, eventMessage]
  simp only [howns]
  obtain ⟨delivered, ⟨entries, pending, receiver, senders⟩, doing⟩ := lane
  obtain ⟨settings, token, stage, clock, sent, routed, notice, events, echo, registry, sweeper⟩ := p
  dsimp only at hevents haccepts
  subst hevents haccepts
  cases echo <;> exact ⟨⟨_, _, _⟩, rfl⟩

/-- An event is dropped when the subscription has ended. -/
theorem fed_ended {queue : Dispatch Delivery} (hevents : p.events = .ended queue) (n : Nat) :
    ∃ l', fed (p.connection l) (some (eventMessage n)) = p.connection l' := by
  have howns : (p.connection l).inbox.owns "demo.events" = false := not_owns p.token (by decide)
  rw [fed, Connection.processInbound, eventMessage]
  simp only [howns]
  obtain ⟨settings, token, stage, clock, sent, routed, notice, events, echo, registry, sweeper⟩ := p
  dsimp only at hevents
  subst hevents
  cases echo <;> exact ⟨⟨_, _, _⟩, rfl⟩

/-- The request enters the queue of the subscription that answers. -/
theorem fed_question {hasStarted : Bool} (hecho : p.echo = .idle hasStarted) :
    ∃ l', fed (p.connection l) (some (question p.token).message) =
      { p with echo := .asked hasStarted }.connection l' := by
  have howns : (p.connection l).inbox.owns "demo.echo" = false := not_owns p.token (by decide)
  rw [fed, Connection.processInbound, question]
  simp only [howns]
  obtain ⟨settings, token, stage, clock, sent, routed, notice, events, echo, registry, sweeper⟩ := p
  dsimp only at hecho
  subst hecho
  cases events <;> exact ⟨⟨_, _, _⟩, rfl⟩

/-- A reply goes to the request that waits. -/
theorem fed_reply {m : Message} {number n : Nat} {r : Request} (h : p.registry.Awaits number r)
    (hkey : r.key = key p.token n) (hsubject : m.subject = r.key) :
    fed (p.connection l) (some m) =
      { p with registry := (p.registry.resolveReply r.key m).2 }.connection l := by
  have howns : (p.connection l).inbox.owns m.subject = true := by
    rw [hsubject, hkey]
    exact owns_key p.token n
  have hlength := (h.resolveReply m).2.1
  rw [fed, Connection.processInbound, if_pos howns, hsubject]
  simp only [Connection.resolveReply, connection, hlength]
  rfl

/-! ## Turns -/

/-- A frame that waits is read while the clock is at its start. -/
theorem Sound.clock_of_frames (hp : p.Sound) (h : p.frames ≠ []) : p.clock = 0 := by
  refine hp.resting.resolve_right fun hrest => h (frames_eq_nil ?_ hrest.notice)
  have hstaged := hp.staged
  rw [Staged, hrest.stage] at hstaged
  omega

/-- The router reads a frame of the script. What it feeds back concerns one of three: the events,
the subscription that answers, or a request. -/
theorem Sound.follows_route (hp : p.Sound) (hlt : p.routed < p.sent)
    (hnotice : p.notice ≠ .waiting p.routed) {events : Events} {echo : Echo} {registry : Registry}
    (hp' : p' = { p with
      routed := p.routed + 1, events := events, echo := echo, registry := registry })
    (hstaged : p'.Staged) (hcounted : p'.Counted) (hechoed : p'.Echoed)
    (hrank : events.rank + echo.rank ≤ p.events.rank + p.echo.rank + 4)
    (hsignalled : registry.signalled = p.registry.signalled) : p.Follows p' := by
  have hframes := frames_of_lt hp.placed hlt hnotice
  have hzero : p.clock = 0 := hp.clock_of_frames (by simp [hframes])
  subst hp'
  refine ⟨⟨hp.messages, hstaged, hcounted, hechoed, ⟨hlt, fun next hnext => ?_⟩, hp.sweeper,
    hp.clock, Or.inl hzero⟩, rfl, rfl, ?_⟩
  · obtain ⟨hle, hsent⟩ := hp.placed.2 next hnext
    have hne : p.routed ≠ next := fun heq => hnotice (heq ▸ hnext)
    exact ⟨Nat.lt_of_le_of_ne hle hne, hsent⟩
  · have hlength : p.frames.length =
        { p with routed := p.routed + 1 }.frames.length + 1 := by rw [hframes, List.length_cons]
    have hsame : { p with
        routed := p.routed + 1, events := events, echo := echo, registry := registry }.frames =
      { p with routed := p.routed + 1 }.frames := rfl
    simp only [rank, hlength, hsame, stagesLeft, sweepsLeft, hsignalled]
    omega

/-- Before the first event is read, the events' subscription has not ended. -/
theorem Sound.notice_of_early (hp : p.Sound) (h : p.routed ≤ 2) : p.notice = .unsent := by
  have hcounted := hp.counted
  unfold Counted at hcounted
  split at hcounted
  · exact hcounted.2
  · exact hcounted.2.1
  · have hnone : p.eventsRouted = 0 := by
      unfold eventsRouted
      omega
    omega

/-- While the router has not come to the request, a frame that it reads changes neither what is
known of the requests nor of the answer. -/
theorem Sound.staged_of_early (hp : p.Sound) (hearly : p.routed ≤ p.settings.messages + 3)
    (events : Events) (echo : Echo) :
    { p with routed := p.routed + 1, events := events, echo := echo }.Staged := by
  have hstaged := hp.staged
  unfold Staged at hstaged ⊢
  dsimp only at hstaged ⊢
  cases hstage : p.stage <;> rw [hstage] at hstaged <;> dsimp only at hstaged ⊢
  case awaitingEcho number =>
    obtain ⟨hnumber, hle, hsent, ⟨-, hawaits⟩ | ⟨hrouted, -⟩⟩ := hstaged
    · exact ⟨hnumber, hle, hsent, Or.inl ⟨by omega, hawaits⟩⟩
    · omega
  case askingNobody => omega
  case awaitingNobody number =>
    obtain ⟨-, -, ⟨hrouted, -⟩ | ⟨hrouted, -⟩⟩ := hstaged <;> omega
  case pausing wakeAt => omega
  all_goals exact hstaged

theorem Sound.echoed_of_early (hp : p.Sound) (hearly : p.routed ≤ p.settings.messages + 2)
    (events : Events) : { p with routed := p.routed + 1, events := events }.Echoed := by
  have hechoed := hp.echoed
  unfold Echoed at hechoed ⊢
  dsimp only at hechoed ⊢
  cases hecho : p.echo <;> rw [hecho] at hechoed <;> dsimp only at hechoed ⊢ <;> omega

/-- The number of events that were delivered has to do only with frames that are events. -/
theorem Sound.counted_of_same (hp : p.Sound)
    (hsame : { p with routed := p.routed + 1 }.eventsRouted = p.eventsRouted) (echo : Echo)
    (registry : Registry) :
    { p with routed := p.routed + 1, echo := echo, registry := registry }.Counted := by
  have hcounted := hp.counted
  unfold Counted at hcounted ⊢
  dsimp only at hcounted ⊢
  have hevents : eventsRouted { p with
      routed := p.routed + 1, echo := echo, registry := registry } = p.eventsRouted := hsame
  rw [hevents]
  exact hcounted

/-! ### One frame each -/

theorem exists_follows_withdrawal (hp : p.Sound) (hnotice : p.notice = .waiting p.routed) :
    ∃ p', p.Follows p' ∧ (p.scene l).step (.task .router) = p'.scene l := by
  have hframes := frames_of_waiting hnotice
  have hzero : p.clock = 0 := hp.clock_of_frames (by simp [hframes])
  refine ⟨{ p with notice := .routed }, ⟨⟨hp.messages, hp.staged, ?_, hp.echoed, ⟨hp.placed.1, ?_⟩,
    hp.sweeper, hp.clock, Or.inl hzero⟩, rfl, rfl, ?_⟩, ?_⟩
  · have hcounted := hp.counted
    unfold Counted at hcounted ⊢
    dsimp only at hcounted ⊢
    cases hevents : p.events <;> rw [hevents] at hcounted <;> dsimp only at hcounted ⊢
    · rw [hnotice] at hcounted
      cases hcounted.2
    · rw [hnotice] at hcounted
      cases hcounted.2.1
    · exact ⟨hcounted.1, hcounted.2.1, by simp⟩
  · intro next hnext
    cases hnext
  · have hlength : p.frames.length = { p with notice := .routed }.frames.length + 1 := by
      rw [hframes, List.length_cons]
    simp only [rank, hlength, stagesLeft, sweepsLeft]
    omega
  · have hforget : Router.forget ⟨p.interest⟩ 1 = ⟨{ p with notice := .routed }.interest⟩ := by
      unfold Router.forget interest
      by_cases hone : 1 ≤ p.routed <;> by_cases htwo : 2 ≤ p.routed <;>
        by_cases hinbox : p.settings.messages + 3 ≤ p.routed <;> simp [*, replySid]
    rw [step_router hframes]
    simp only [withdrawal, Router.route, hforget]
    rfl

/-- The router reads an announcement. -/
theorem exists_follows_learn (hp : p.Sound) (hlt : p.routed < p.sent)
    (hnotice : p.notice ≠ .waiting p.routed) (hearly : p.routed ≤ p.settings.messages + 2)
    (sid : Sid) (subject : String)
    (hframe : script p.settings.messages p.token p.routed =
      { frame := .subscribe sid subject none })
    (hlearn : Router.learn ⟨p.interest⟩ subject sid = ⟨{ p with routed := p.routed + 1 }.interest⟩)
    (hsame : { p with routed := p.routed + 1 }.eventsRouted = p.eventsRouted) :
    ∃ p', p.Follows p' ∧ (p.scene l).step (.task .router) = p'.scene l := by
  refine ⟨{ p with routed := p.routed + 1 }, hp.follows_route hlt hnotice rfl
    (hp.staged_of_early (by omega) _ _) (hp.counted_of_same hsame _ _) (hp.echoed_of_early hearly _)
    (by omega) rfl, ?_⟩
  rw [step_router (frames_of_lt hp.placed hlt hnotice), hframe]
  simp only [Router.route, hlearn]
  rfl

theorem learn_inbox (h : p.routed = p.settings.messages + 2) :
    Router.learn ⟨p.interest⟩ (Inbox.create "_INBOX" p.token).wildcard replySid =
      ⟨{ p with routed := p.routed + 1 }.interest⟩ := by
  have hevents := wildcard_ne p.token (s := "demo.events") (by decide)
  have hecho := wildcard_ne p.token (s := "demo.echo") (by decide)
  by_cases hnow : p.notice = .routed <;>
    simp [Router.learn, interest, h, hnow, hevents.symm, hecho.symm]

/-- The router reads something that is published, and learns nothing from it. -/
theorem step_publish (hp : p.Placed) (hlt : p.routed < p.sent)
    (hnotice : p.notice ≠ .waiting p.routed) (htwo : 2 ≤ p.routed)
    (hinbox : p.routed ≠ p.settings.messages + 2) {subject : String} {replyTo : Option String}
    {payload : ByteArray} {onBehalfOf : Option Sid}
    (hframe : script p.settings.messages p.token p.routed =
      { frame := .publish subject replyTo payload, onBehalfOf := onBehalfOf }) :
    (p.scene l).step (.task .router) =
      let p' := { p with routed := p.routed + 1 }
      let fedBack : Option Message :=
        match Router.listener? ⟨p.interest⟩ subject with
        | some sid => some { subject, sid, replyTo, payload }
        | none => replyTo.map Message.noResponders
      { client := p'.client, node := {
          connection := fed (p'.connection l) fedBack, router := some ⟨p'.interest⟩ } } := by
  have hinterest : { p with routed := p.routed + 1 }.interest = p.interest := by
    have hthree : p.settings.messages + 3 ≤ p.routed + 1 ↔ p.settings.messages + 3 ≤ p.routed := by
      omega
    have hone : 1 ≤ p.routed := by omega
    have htwo' : 2 ≤ p.routed + 1 := by omega
    simp [interest, hthree, hone, htwo, htwo']
  rw [step_router (frames_of_lt hp hlt hnotice), hframe]
  simp only [Router.route]
  cases Router.listener? ⟨p.interest⟩ subject with
  | none =>
    simp only [hinterest]
    rfl
  | some sid =>
    simp only [hinterest]
    rfl

theorem eventsRouted_succ (htwo : 2 ≤ p.routed) (hevent : p.routed < p.settings.messages + 2) :
    { p with routed := p.routed + 1 }.eventsRouted = p.eventsRouted + 1 := by
  simp only [eventsRouted]
  omega

/-- The router reads an event, and feeds it back unless it knows that nobody listens any more. -/
theorem step_event (hp : p.Placed) (hlt : p.routed < p.sent) (hnotice : p.notice ≠ .waiting p.routed)
    (htwo : 2 ≤ p.routed) (hevent : p.routed < p.settings.messages + 2) :
    (p.scene l).step (.task .router) =
      let p' := { p with routed := p.routed + 1 }
      let fedBack := if p.notice = .routed then none else some (eventMessage (p.routed - 2))
      { client := p'.client, node := {
          connection := fed (p'.connection l) fedBack, router := some ⟨p'.interest⟩ } } := by
  rw [step_publish hp hlt hnotice htwo (by omega) (script_event p.token htwo hevent),
    listener?_events (by omega)]
  by_cases hrouted : p.notice = .routed <;> simp only [hrouted, if_true, if_false] <;> rfl

theorem exists_follows_event_live (hp : p.Sound) (hlt : p.routed < p.sent)
    (hnotice : p.notice ≠ .waiting p.routed) (htwo : 2 ≤ p.routed)
    (hevent : p.routed < p.settings.messages + 2) {lane : Lane} (hevents : p.events = .live lane) :
    ∃ p' l', p.Follows p' ∧ (p.scene l).step (.task .router) = p'.scene l' := by
  have hcounted := hp.counted
  rw [Counted, hevents] at hcounted
  obtain ⟨hsent, hunsent, haccepts, hcount, hlimit⟩ := hcounted
  have hmore := eventsRouted_succ htwo hevent
  have hstep := step_event (l := l) hp.placed hlt hnotice htwo hevent
  let lane' := lane.put ⟨eventMessage (p.routed - 2), true⟩
  have hqueued : lane'.queue.entries.length = lane.queue.entries.length + 1 := by
    simp [lane', Lane.put]
  obtain ⟨l', hfed⟩ := fed_live (p := { p with routed := p.routed + 1 }) (l := l) hevents haccepts
    (p.routed - 2)
  refine ⟨{ p with routed := p.routed + 1, events := .live lane' }, l',
    hp.follows_route hlt hnotice rfl (hp.staged_of_early (by omega) _ _)
      ⟨hsent, hunsent, haccepts, ?_, hlimit⟩ (hp.echoed_of_early (by omega) _) ?_ rfl, ?_⟩
  · calc lane.delivered + lane'.queue.entries.length
        = p.eventsRouted + 1 := by omega
      _ = _ := hmore.symm
  · simp only [hevents, Events.rank, hqueued]
    simp only [lane', Lane.put]
    omega
  · rw [if_neg (by simp [hunsent])] at hstep
    exact hstep.trans (congrArg (Scene.mk p.client { connection := ·, router := _ }) hfed)

theorem exists_follows_event_ended (hp : p.Sound) (hlt : p.routed < p.sent)
    (hnotice : p.notice ≠ .waiting p.routed) (htwo : 2 ≤ p.routed)
    (hevent : p.routed < p.settings.messages + 2) {queue : Dispatch Delivery}
    (hevents : p.events = .ended queue) :
    ∃ p' l', p.Follows p' ∧ (p.scene l).step (.task .router) = p'.scene l' := by
  have hcounted := hp.counted
  rw [Counted, hevents] at hcounted
  obtain ⟨hmax, hcount, hsent⟩ := hcounted
  have hmore := eventsRouted_succ htwo hevent
  have hstep := step_event (l := l) hp.placed hlt hnotice htwo hevent
  have hle : p.settings.max ≤ { p with routed := p.routed + 1 }.eventsRouted := by omega
  have hfollows : p.Follows { p with routed := p.routed + 1 } := by
    refine hp.follows_route hlt hnotice rfl (hp.staged_of_early (by omega) _ _) ?_
      (hp.echoed_of_early (by omega) _) (by omega) rfl
    rw [Counted, hevents]
    exact ⟨hmax, hle, hsent⟩
  by_cases hrouted : p.notice = .routed
  · rw [if_pos hrouted] at hstep
    exact ⟨_, l, hfollows, hstep⟩
  · rw [if_neg hrouted] at hstep
    obtain ⟨l', hfed⟩ := fed_ended (p := { p with routed := p.routed + 1 }) (l := l) hevents
      (p.routed - 2)
    exact ⟨_, l', hfollows, hstep.trans
      (congrArg (Scene.mk p.client { connection := ·, router := _ }) hfed)⟩

/-- The router reads an event. -/
theorem exists_follows_event (hp : p.Sound) (hlt : p.routed < p.sent)
    (hnotice : p.notice ≠ .waiting p.routed) (htwo : 2 ≤ p.routed)
    (hevent : p.routed < p.settings.messages + 2) :
    ∃ p' l', p.Follows p' ∧ (p.scene l).step (.task .router) = p'.scene l' := by
  cases hevents : p.events with
  | absent =>
    have hcounted := hp.counted
    rw [Counted, hevents] at hcounted
    omega
  | live lane => exact exists_follows_event_live hp hlt hnotice htwo hevent hevents
  | ended queue => exact exists_follows_event_ended hp hlt hnotice htwo hevent hevents

/-- The router reads the request that is answered. -/
theorem exists_follows_question (hp : p.Sound) (hlt : p.routed < p.sent)
    (hnotice : p.notice ≠ .waiting p.routed) (hquestion : p.routed = p.settings.messages + 3) :
    ∃ p' l', p.Follows p' ∧ (p.scene l).step (.task .router) = p'.scene l' := by
  have hframe : script p.settings.messages p.token p.routed =
      { frame := .publish "demo.echo" (some (key p.token 1)) greeting } := by
    rw [hquestion, script_question]
  have hstep := step_publish (l := l) hp.placed hlt hnotice (by omega) (by omega) hframe
  rw [listener?_echo (by omega)] at hstep
  have hechoed := hp.echoed
  -- no other request comes, so the subscription that answers is idle
  obtain ⟨hasStarted, hecho⟩ : ∃ hasStarted, p.echo = .idle hasStarted := by
    unfold Echoed at hechoed
    cases hecho : p.echo <;> rw [hecho] at hechoed <;> dsimp only at hechoed
    case idle hasStarted => exact ⟨hasStarted, rfl⟩
    all_goals omega
  have hsent : p.sent = p.settings.messages + 4 := by
    rw [Echoed, hecho] at hechoed
    omega
  obtain ⟨l', hfed⟩ := fed_question (p := { p with routed := p.routed + 1 }) (l := l) hecho
  refine ⟨{ p with routed := p.routed + 1, echo := .asked hasStarted }, l',
    hp.follows_route hlt hnotice rfl (hp.staged_of_early (by omega) _ _)
      (hp.counted_of_same ?_ _ _) ⟨hsent, congrArg (· + 1) hquestion⟩ ?_ rfl, ?_⟩
  · simp only [eventsRouted]
    omega
  · cases hasStarted <;> simp [hecho, Echo.rank]
  · exact hstep.trans (congrArg (Scene.mk p.client { connection := ·, router := _ }) hfed)

/-- Once the answer was sent, what is left of the answering subscription does not depend on what the
router reads. -/
theorem Sound.echoed_of_late (hp : p.Sound) (hlate : p.settings.messages + 4 ≤ p.routed)
    (hlt : p.routed < p.sent) (registry : Registry) :
    { p with routed := p.routed + 1, registry := registry }.Echoed := by
  have hechoed := hp.echoed
  unfold Echoed at hechoed ⊢
  dsimp only at hechoed ⊢
  cases hecho : p.echo <;> rw [hecho] at hechoed <;> dsimp only at hechoed ⊢ <;> omega

/-- The router reads the answer. -/
theorem exists_follows_answer (hp : p.Sound) (hlt : p.routed < p.sent)
    (hnotice : p.notice ≠ .waiting p.routed) (hanswer : p.routed = p.settings.messages + 4) :
    ∃ p', p.Follows p' ∧ (p.scene l).step (.task .router) = p'.scene l := by
  have hframe : script p.settings.messages p.token p.routed =
      { frame := .publish (key p.token 1) none shout, onBehalfOf := some 2 } := by
    rw [hanswer, script_answer]
  have hstep := step_publish (l := l) hp.placed hlt hnotice (by omega) (by omega) hframe
  rw [listener?_key (by omega)] at hstep
  have hstaged := hp.staged
  -- the client waits for the answer
  obtain ⟨hstage, hsent, hawaits⟩ : p.stage = .awaitingEcho 0 ∧ p.sent = p.settings.messages + 5 ∧
      p.registry.Awaits 0 (p.request 0) := by
    unfold Staged at hstaged
    cases hstage : p.stage <;> rw [hstage] at hstaged <;> dsimp only at hstaged
    case awaitingEcho number =>
      obtain ⟨rfl, -, hsent, ⟨-, hawaits⟩ | ⟨hrouted, -⟩⟩ := hstaged
      · exact ⟨rfl, by omega, hawaits⟩
      · omega
    all_goals omega
  have hle : p.settings.messages + 4 ≤ p.sent := by omega
  obtain ⟨hanswered, -, hsignalled⟩ := hawaits.resolveReply p.answer
  have hfed := fed_reply (p := { p with routed := p.routed + 1 }) (l := l) (m := p.answer) (n := 1)
    hawaits rfl rfl
  refine ⟨{ p with
      routed := p.routed + 1, registry := (p.registry.resolveReply (p.request 0).key p.answer).2 },
    hp.follows_route hlt hnotice rfl ?_ (hp.counted_of_same ?_ _ _)
      (hp.echoed_of_late (by omega) hlt _) (by omega) hsignalled, ?_⟩
  · rw [Staged, hstage]
    exact ⟨rfl, hle, Nat.le_of_eq hsent, Or.inr ⟨congrArg (· + 1) hanswer, hanswered⟩⟩
  · simp only [eventsRouted]
    omega
  · exact hstep.trans (congrArg (Scene.mk p.client { connection := ·, router := _ }) hfed)

/-- The router reads the request that nobody listens to. -/
theorem exists_follows_nobody (hp : p.Sound) (hlt : p.routed < p.sent)
    (hnotice : p.notice ≠ .waiting p.routed) (hnobody : p.routed = p.settings.messages + 5) :
    ∃ p', p.Follows p' ∧ (p.scene l).step (.task .router) = p'.scene l := by
  have hframe : script p.settings.messages p.token p.routed =
      { frame := .publish "demo.nobody" (some (key p.token 2)) greeting } := by
    rw [hnobody, script_nobody]
  have hstep := step_publish (l := l) hp.placed hlt hnotice (by omega) (by omega) hframe
  rw [listener?_nobody] at hstep
  have hstaged := hp.staged
  obtain ⟨hstage, hsent, hawaits⟩ : p.stage = .awaitingNobody 1 ∧ p.sent = p.settings.messages + 6 ∧
      p.registry.Awaits 1 (p.request 1) := by
    unfold Staged at hstaged
    cases hstage : p.stage <;> rw [hstage] at hstaged <;> dsimp only at hstaged
    case awaitingNobody number =>
      obtain ⟨rfl, hsent, ⟨-, hawaits⟩ | ⟨hrouted, -⟩⟩ := hstaged
      · exact ⟨rfl, hsent, hawaits⟩
      · omega
    all_goals omega
  let signal : Message := .noResponders (key p.token 2)
  obtain ⟨hanswered, -, hsignalled⟩ := hawaits.resolveReply signal
  have houtcome : Outcome.ofReply signal = .cancelled .noResponders := by
    simp [Outcome.ofReply, signal]
  rw [houtcome] at hanswered
  have hfed := fed_reply (p := { p with routed := p.routed + 1 }) (l := l) (m := signal) (n := 2)
    hawaits rfl rfl
  refine ⟨{ p with
      routed := p.routed + 1, registry := (p.registry.resolveReply (p.request 1).key signal).2 },
    hp.follows_route hlt hnotice rfl ?_ (hp.counted_of_same ?_ _ _)
      (hp.echoed_of_late (by omega) hlt _) (by omega) hsignalled, ?_⟩
  · rw [Staged, hstage]
    exact ⟨rfl, hsent, Or.inr ⟨congrArg (· + 1) hnobody, hanswered⟩⟩
  · simp only [eventsRouted]
    omega
  · exact hstep.trans (congrArg (Scene.mk p.client { connection := ·, router := _ }) hfed)

/-- The router that has a frame to read, and not the withdrawal, is behind the client. -/
theorem Placed.routed_lt (hp : p.Placed) (hframes : p.frames ≠ [])
    (hnotice : p.notice ≠ .waiting p.routed) : p.routed < p.sent := by
  refine Nat.lt_of_le_of_ne hp.1 fun heq => hframes (frames_eq_nil heq fun next hnext => ?_)
  obtain ⟨hle, hle'⟩ := hp.2 next hnext
  have hnow : next = p.routed := by omega
  exact hnotice (hnow ▸ hnext)

/-- Whatever frame the router reads next, the demo goes on. -/
theorem exists_follows_router (hp : p.Sound)
    (hready : (p.scene l).isReady (.task .router) = true) :
    ∃ p' l', p.Follows p' ∧ (p.scene l).step (.task .router) = p'.scene l' := by
  have hframes : p.frames ≠ [] := by
    intro hnil
    simp [Scene.isReady, Node.isReady, scene, connection, hnil] at hready
  by_cases hnotice : p.notice = .waiting p.routed
  · obtain ⟨p', hp', hstep⟩ := exists_follows_withdrawal (l := l) hp hnotice
    exact ⟨p', l, hp', hstep⟩
  · have hlt : p.routed < p.sent := hp.placed.routed_lt hframes hnotice
    have hsent := hp.sent_le
    obtain h | h | ⟨h, h'⟩ | h | h | h | h : p.routed = 0 ∨ p.routed = 1 ∨
        2 ≤ p.routed ∧ p.routed < p.settings.messages + 2 ∨ p.routed = p.settings.messages + 2 ∨
        p.routed = p.settings.messages + 3 ∨ p.routed = p.settings.messages + 4 ∨
        p.routed = p.settings.messages + 5 := by omega
    · obtain ⟨p', hp', hstep⟩ := exists_follows_learn (l := l) hp hlt hnotice (by omega)
        1 "demo.events" (by rw [h]; rfl)
        (by simp [Router.learn, interest, h, hp.notice_of_early]) (by simp [eventsRouted, h])
      exact ⟨p', l, hp', hstep⟩
    · obtain ⟨p', hp', hstep⟩ := exists_follows_learn (l := l) hp hlt hnotice (by omega)
        2 "demo.echo" (by rw [h]; rfl)
        (by simp [Router.learn, interest, h, hp.notice_of_early]) (by simp [eventsRouted, h])
      exact ⟨p', l, hp', hstep⟩
    · exact exists_follows_event hp hlt hnotice h h'
    · obtain ⟨p', hp', hstep⟩ := exists_follows_learn (l := l) hp hlt hnotice (by omega)
        _ _ (by rw [h, script_inbox]) (learn_inbox h) (by simp only [eventsRouted]; omega)
      exact ⟨p', l, hp', hstep⟩
    · exact exists_follows_question hp hlt hnotice h
    · obtain ⟨p', hp', hstep⟩ := exists_follows_answer (l := l) hp hlt hnotice h
      exact ⟨p', l, hp', hstep⟩
    · obtain ⟨p', hp', hstep⟩ := exists_follows_nobody (l := l) hp hlt hnotice h
      exact ⟨p', l, hp', hstep⟩

end Plot

end Demo

end PubSub
