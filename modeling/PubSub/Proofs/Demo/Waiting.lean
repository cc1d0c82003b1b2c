import PubSub.Proofs.Demo.Routing
import PubSub.Proofs.Demo.Speaking
import PubSub.Proofs.Demo.Sweeping

/-!
# Who can go on in the demo

Before the client ends, whoever can go on brings the demo forward; and when nobody can, everything
is done except that the client sleeps, so time may pass.

## Main results

- `Demo.Plot.Sound.exists_follows` — whoever can go on brings the demo forward
- `Demo.Plot.Sound.resting_of_rest` — when nobody can, everything is done
- `Demo.Plot.Sound.later` — nothing changes when time passes then
-/

namespace PubSub

/-- A subscription with one worker has no other. -/
theorem Subscription.isReady_single {s : Subscription} {w : Worker} (hworkers : s.workers = [w])
    {i : Nat} {now : Instant} (hready : s.isReady i now = true) : i = 0 := by
  cases i with
  | zero => rfl
  | succ i => simp [isReady, hworkers] at hready

namespace Demo.Plot

variable {p : Plot} {l : Ledger} {lane : Lane} {s : Subscription} {sid : Sid} {i : Nat}

/-! ## Workers that can go on -/

/-- There are no subscriptions but these two. -/
theorem subscription?_eq_some (h : (p.connection l).subscription? sid = some s) :
    sid = 1 ∧ p.events.subscriptions p.settings.max = [s] ∨
      sid = 2 ∧ p.echo.subscriptions p.token = [s] := by
  have hsid : s.sid = sid := by simpa using List.find?_some h
  have hmem : s ∈ p.events.subscriptions p.settings.max ++ p.echo.subscriptions p.token :=
    List.mem_of_find?_eq_some h
  rw [← hsid]
  rcases List.mem_append.1 hmem with hmem | hmem
  · refine Or.inl ?_
    cases hevents : p.events <;> simp_all [Events.subscriptions, started]
  · refine Or.inr ?_
    cases hecho : p.echo <;> simp_all [Echo.subscriptions, started]

theorem exists_worker (h : (p.connection l).subscription? sid = some s) : ∃ w, s.workers = [w] := by
  rcases subscription?_eq_some h with ⟨-, hevents⟩ | ⟨-, hecho⟩
  · cases hnow : p.events <;> simp [hnow, Events.subscriptions] at hevents <;>
      exact ⟨_, congrArg Subscription.workers hevents.symm⟩
  · cases hnow : p.echo <;> simp [hnow, Echo.subscriptions] at hecho <;>
      exact ⟨_, congrArg Subscription.workers hecho.symm⟩

theorem isReady_eventsWorker (hevents : p.events = .live lane) (hready : lane.doing ≠ .receiving ∨
    lane.queue.entries ≠ []) : (p.scene l).isReady (.task (.worker 1 0)) = true := by
  have hs : (p.scene l).node.connection.subscription? 1 = _ := subscription?_live (l := l) hevents
  simp only [Scene.isReady, Node.isReady, hs, started, Subscription.isReady]
  cases hdoing : lane.doing <;> simp [Lane.phase, hdoing]
  exact Or.inl (hready.resolve_left (· hdoing))

theorem isReady_echoWorker (hecho : p.echo.subscriptions p.token = [s]) (hsid : s.sid = 2)
    (hready : s.isReady 0 p.clock = true) : (p.scene l).isReady (.task (.worker 2 0)) = true := by
  have hs : (p.scene l).node.connection.subscription? 2 = some s :=
    subscription?_echo l s hecho hsid
  simp only [Scene.isReady, Node.isReady, hs]
  exact hready

/-- The worker of the events has something to do when it can go on. -/
theorem Sound.busy_of_isReady (hp : p.Sound) (hevents : p.events = .live lane)
    (hready : (started 1 (eventPlan p.settings.max) lane.delivered lane.queue
      (lane.phase p.settings.max)).isReady 0 p.clock = true) :
    lane.doing ≠ .receiving ∨ lane.queue.entries ≠ [] := by
  have hcounted := hp.counted
  rw [Counted, hevents] at hcounted
  have hopen : lane.queue.isClosed = false := by simp [Dispatch.isClosed, hcounted.2.2.1]
  by_cases hdoing : lane.doing = .receiving
  · simp [Subscription.isReady, started, Lane.phase, hdoing, hopen] at hready
    exact Or.inr hready
  · exact Or.inl hdoing

/-- The worker that answers has something to do when it can go on. -/
theorem busy_of_isReady_echo (hecho : p.echo.subscriptions p.token = [s])
    (hready : s.isReady 0 p.clock = true) : p.echo = .idle false ∨
      (∃ hasStarted, p.echo = .asked hasStarted) ∨ p.echo = .answering ∨ p.echo = .answered := by
  cases hnow : p.echo <;> rw [hnow] at hecho
  case absent => simp [Echo.subscriptions] at hecho
  case idle hasStarted =>
    obtain rfl := List.singleton_inj.1 hecho
    cases hasStarted
    · exact Or.inl rfl
    · simp [Subscription.isReady, started, ready, Dispatch.isClosed] at hready
  case done =>
    obtain rfl := List.singleton_inj.1 hecho
    simp [Subscription.isReady, started, Dispatch.isClosed] at hready
  case asked hasStarted => exact Or.inr (Or.inl ⟨hasStarted, rfl⟩)
  case answering => exact Or.inr (Or.inr (Or.inl rfl))
  case answered => exact Or.inr (Or.inr (Or.inr rfl))

/-- A worker that can go on brings the demo forward. -/
theorem Sound.exists_follows_worker (hp : p.Sound)
    (hready : (p.scene l).isReady (.task (.worker sid i)) = true) :
    ∃ p' l', p.Follows p' ∧ (p.scene l).step (.task (.worker sid i)) = p'.scene l' := by
  obtain ⟨s, hs, hgoes⟩ : ∃ s, (p.connection l).subscription? sid = some s ∧
      s.isReady i p.clock = true := by
    simp only [Scene.isReady, Node.isReady, scene] at hready
    cases hs : (p.connection l).subscription? sid with
    | none => simp [hs] at hready
    | some s =>
      rw [hs] at hready
      exact ⟨s, rfl, hready⟩
  obtain ⟨w, hworkers⟩ := exists_worker hs
  obtain rfl := Subscription.isReady_single hworkers hgoes
  rcases subscription?_eq_some hs with ⟨rfl, hevents⟩ | ⟨rfl, hecho⟩
  · cases hnow : p.events with
    | absent => simp [hnow, Events.subscriptions] at hevents
    | live lane =>
      rw [hnow] at hevents
      obtain rfl := List.singleton_inj.1 hevents
      exact exists_follows_eventsWorker hp hnow (hp.busy_of_isReady hnow hgoes)
    | ended queue =>
      rw [hnow] at hevents
      obtain rfl := List.singleton_inj.1 hevents
      simp [Subscription.isReady] at hgoes
  · exact exists_follows_echoWorker hp (busy_of_isReady_echo hecho hgoes)

/-- Whoever can go on brings the demo forward, except the client that wakes. -/
theorem Sound.exists_follows (hp : p.Sound) {a : Actor} (hready : (p.scene l).isReady a = true)
    (hwakes : a = .client → ∀ wakeAt, p.stage ≠ .pausing wakeAt) :
    ∃ p' l', p.Follows p' ∧ (p.scene l).step a = p'.scene l' := by
  match a with
  | .client =>
    obtain ⟨p', l', hadvances, hstep⟩ := exists_advances_client hp (hwakes rfl) hready
    exact ⟨p', l', hadvances.toFollows, hstep⟩
  | .task .sweeper =>
    obtain ⟨p', hfollows, hstep⟩ := exists_follows_sweeper hp hready
    exact ⟨p', l, hfollows, hstep⟩
  | .task .router => exact exists_follows_router hp hready
  | .task (.worker sid i) => exact hp.exists_follows_worker hready

/-! ## When nobody can go on -/

/-- When nobody can go on, the router has read everything. -/
theorem frames_of_rest (hrest : (p.scene l).isReady (.task .router) = false) : p.frames = [] := by
  simpa [Scene.isReady, Node.isReady, scene, connection] using hrest

theorem Sound.caught_up (hp : p.Sound) (hframes : p.frames = []) :
    p.routed = p.sent ∧ ∀ next, p.notice ≠ .waiting next := by
  have hle := hp.placed.1
  have hlength := length_frames hp.placed
  rw [hframes, List.length_nil] at hlength
  cases hnotice : p.notice with
  | unsent | routed =>
    rw [hnotice] at hlength
    dsimp only at hlength
    exact ⟨by omega, by simp⟩
  | waiting next =>
    rw [hnotice] at hlength
    dsimp only at hlength
    omega

/-- A request that was settled can be looked at. -/
theorem isReady_of_answered {number : Nat} (hstage : p.stage = .awaitingEcho number ∨
    p.stage = .awaitingNobody number) {r : Request} {o : Outcome}
    (h : p.registry.Answered number (r.settled o)) : (p.scene l).isReady .client = true := by
  have hanswered : (p.connection l).isAnswered number = true := by
    have hlook : (p.connection l).registry.request? number = some (r.settled o) := h.request?
    simp [Connection.isAnswered, hlook, Request.isDone, Request.settled]
  rcases hstage with hstage | hstage <;>
    simp only [Scene.isReady, scene, Client.isReady, client, hstage, hanswered]

theorem events_of_rest (hrest : ∀ a, (p.scene l).isReady a = false)
    (hevents : p.events = .live lane) : lane.doing = .receiving ∧ lane.queue.entries = [] := by
  by_contra hbusy
  have hready := isReady_eventsWorker (l := l) hevents (by tauto)
  rw [hrest] at hready
  cases hready

/-- When nobody can go on and the answer is on its way, it has been given. -/
theorem Sound.echo_of_rest (hp : p.Sound) (hrest : ∀ a, (p.scene l).isReady a = false)
    (hsent : p.settings.messages + 4 ≤ p.sent) (hrouted : p.routed = p.sent) : p.echo = .done := by
  have hechoed := hp.echoed
  have hidle (s : Subscription) (hecho : p.echo.subscriptions p.token = [s]) (hsid : s.sid = 2) :
      s.isReady 0 p.clock = false := by
    rw [← Bool.not_eq_true]
    intro hready
    have hgoes := isReady_echoWorker (l := l) hecho hsid hready
    rw [hrest] at hgoes
    cases hgoes
  unfold Echoed at hechoed
  cases hnow : p.echo <;> rw [hnow] at hechoed hidle <;> dsimp only at hechoed
  case asked hasStarted =>
    have hwaits := hidle _ rfl rfl
    cases hasStarted <;> simp [Subscription.isReady, started, ready] at hwaits
  case answering | answered =>
    have hwaits := hidle _ rfl rfl
    simp [Subscription.isReady, started] at hwaits
  all_goals first | rfl | omega

/-- When nobody can go on, everything is done, and the client sleeps. -/
theorem Sound.resting_of_rest (hp : p.Sound) (hrest : ∀ a, (p.scene l).isReady a = false) :
    p.Resting := by
  obtain ⟨hrouted, hnotice⟩ := hp.caught_up (frames_of_rest (hrest _))
  have hclient := hrest .client
  have hstaged := hp.staged
  unfold Staged at hstaged
  cases hstage : p.stage <;> rw [hstage] at hstaged <;> dsimp only at hstaged
  case pausing wakeAt =>
    obtain ⟨rfl, hsent, -, -⟩ := hstaged
    exact ⟨hstage, hnotice, fun lane => events_of_rest hrest,
      hp.echo_of_rest hrest (by omega) hrouted⟩
  case awaitingEcho number =>
    obtain ⟨rfl, hsent, -, ⟨hle, -⟩ | ⟨-, hanswered⟩⟩ := hstaged
    · have hechoed := hp.echoed
      rw [Echoed, hp.echo_of_rest hrest hsent hrouted] at hechoed
      dsimp only at hechoed
      omega
    · rw [isReady_of_answered (Or.inl hstage) hanswered] at hclient
      cases hclient
  case awaitingNobody number =>
    obtain ⟨rfl, hsent, ⟨hbefore, -⟩ | ⟨-, hanswered⟩⟩ := hstaged
    · omega
    · rw [isReady_of_answered (Or.inr hstage) hanswered] at hclient
      cases hclient
  all_goals simp [Scene.isReady, scene, Client.isReady, client, hstage] at hclient hstaged

/-! ## Time -/

/-- When nobody can go on, the client and the sweeper wait for later instants. -/
theorem Sound.timers_of_rest (hp : p.Sound) (hrest : ∀ a, (p.scene l).isReady a = false) :
    p.clock < pause ∧ ∃ wakeAt, p.sweeper = .sleeping wakeAt ∧ p.clock < wakeAt := by
  have hstage := (hp.resting_of_rest hrest).stage
  have hclient := hrest .client
  have hsweeper := hrest (.task .sweeper)
  have hstopped := hp.sweeper
  have hbefore : p.clock < pause := by
    simpa [Scene.isReady, scene, Client.isReady, client, connection, hstage] using hclient
  refine ⟨hbefore, ?_⟩
  simp only [Scene.isReady, Node.isReady, scene, connection, Sweeper.isReady] at hsweeper
  cases hphase : p.sweeper with
  | planning => simp [hphase] at hsweeper
  | sleeping wakeAt =>
    refine ⟨wakeAt, rfl, ?_⟩
    simp only [hphase, Bool.or_eq_false_iff] at hsweeper
    exact Nat.lt_of_not_le (of_decide_eq_false hsweeper.1.2)
  | stopped => exact absurd hphase hstopped

/-- No worker waits for time. -/
theorem timer?_worker (p : Plot) (l : Ledger) (sid : Sid) (i : Nat) :
    (p.scene l).timer? (.task (.worker sid i)) = none := by
  simp only [Scene.timer?, Node.timer?, scene]
  cases hs : (p.connection l).subscription? sid with
  | none => rfl
  | some s =>
    obtain ⟨w, hworkers⟩ := exists_worker hs
    have hw : w.timer? = none := by
      rcases subscription?_eq_some hs with ⟨-, hevents⟩ | ⟨-, hecho⟩
      · cases hnow : p.events with
        | absent => simp [hnow, Events.subscriptions] at hevents
        | live lane =>
          rw [hnow] at hevents
          obtain rfl := List.singleton_inj.1 hevents
          obtain rfl := List.singleton_inj.1 hworkers
          cases hdoing : lane.doing <;> simp [Worker.timer?, Worker.invocation?, Lane.phase, hdoing]
        | ended queue =>
          rw [hnow] at hevents
          obtain rfl := List.singleton_inj.1 hevents
          obtain rfl := List.singleton_inj.1 hworkers
          rfl
      · cases hnow : p.echo <;> simp [hnow, Echo.subscriptions] at hecho <;> subst hecho <;>
          obtain rfl := List.singleton_inj.1 hworkers
        case idle hasStarted | asked hasStarted => cases hasStarted <;> rfl
        all_goals rfl
    cases i <;> simp [hworkers, hw]

/-- The timers that run are that of the client and that of the sweeper. -/
theorem Sound.nextTimer? (hp : p.Sound) (hrest : ∀ a, (p.scene l).isReady a = false) :
    ∃ now, (p.scene l).nextTimer? = some now ∧ p.clock < now ∧ now ≤ pause := by
  have hresting := hp.resting_of_rest hrest
  obtain ⟨hpause, wakeAt, hsleeping, hlater⟩ := hp.timers_of_rest hrest
  let workers := (p.connection l).subscriptions.flatMap Node.workerTasks
  have hworkers : (workers.map Actor.task).filterMap (p.scene l).timer? = [] := by
    rw [List.filterMap_eq_nil_iff]
    intro a ha
    obtain ⟨task, htask, rfl⟩ := List.mem_map.1 ha
    obtain ⟨s, -, hmem⟩ := List.mem_flatMap.1 htask
    obtain ⟨i, -, rfl⟩ := List.mem_map.1 hmem
    exact p.timer?_worker l s.sid i
  have hclient : (p.scene l).timer? .client = some pause := by
    simp [Scene.timer?, scene, client, hresting.stage]
  have hsweeper : (p.scene l).timer? (.task .sweeper) = some wakeAt := by
    simp [Scene.timer?, Node.timer?, scene, connection, Sweeper.timer?, hsleeping]
  have hrouter : (p.scene l).timer? (.task .router) = none := rfl
  have htimers : (p.scene l).actors.filterMap (p.scene l).timer? = [pause, wakeAt] := by
    show (Actor.client :: .task .sweeper :: .task .router :: workers.map Actor.task).filterMap _ = _
    simp only [List.filterMap_cons, hclient, hsweeper, hrouter, hworkers]
  refine ⟨min pause wakeAt, ?_, Nat.lt_min.2 ⟨hpause, hlater⟩, Nat.min_le_left ..⟩
  rw [Scene.nextTimer?, htimers]
  rfl

/-- Time passes while everybody waits. -/
theorem Sound.later (hp : p.Sound) (hresting : p.Resting) {now : Instant} (hle : now ≤ pause) :
    { p with clock := now }.Sound :=
  ⟨hp.messages, hp.staged, hp.counted, hp.echoed, hp.placed, hp.sweeper, hle,
    Or.inr ⟨hresting.stage, hresting.notice, hresting.events, hresting.echo⟩⟩

/-- The sweeper may have to plan its sleep again. -/
theorem rank_later_le (p : Plot) (now : Instant) : { p with clock := now }.rank ≤ p.rank + 2 := by
  have hframes : { p with clock := now }.frames = p.frames := rfl
  have hsweeps : { p with clock := now }.sweepsLeft ≤ p.sweepsLeft + 2 := by
    cases hphase : p.sweeper <;> simp only [sweepsLeft, hphase] <;> split <;> omega
  simp only [rank, hframes, stagesLeft]
  omega

end Demo.Plot

end PubSub
