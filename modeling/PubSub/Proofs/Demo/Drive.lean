import PubSub.Proofs.Demo.Ending
import PubSub.Proofs.Session.Rest

/-!
# The demo as it is run

The executor lets the tasks go on in the order in which they became ready, and the client when it is
its turn. It never loses sight of a task, and has done with all of them long before its limit of
steps; so whenever the client gets its turn, it can go on.

## Main definitions

- `Demo.Plot.Runs` — the executor is where a plot says
- `Demo.Plot.stepsLeft` — a bound on the executor's steps at one instant
- `Demo.Plot.Awakens` — the client can go on by a limit

## Main results

- `Demo.Plot.Runs.steps` — the tasks go on until none of them can
- `Demo.Plot.Runs.drive` — the client gets to its end
-/

namespace PubSub

namespace Executor

variable {x : Executor}

/-- Giving the tasks their places adds no more turns than there are tasks and sleepers. -/
theorem length_ready_collect (x : Executor) :
    x.collect.ready.length ≤ x.ready.length + (x.sleepers.length + x.tasks.length) := by
  have hready : x.collect.ready = x.ready ++ (x.sleepers.map (·.1) ++ x.tasks.filter fun ref =>
      !(x.sleepers.any (·.1 == ref))).filter fun ref =>
        x.isReady ref && !x.ready.contains ref && !x.yielded.contains ref := rfl
  rw [hready, List.length_append]
  refine Nat.add_le_add_left (Nat.le_trans (List.length_filter_le ..) ?_) _
  rw [List.length_append, List.length_map]
  exact Nat.add_le_add_left (List.length_filter_le ..) _

/-- The tasks that wait for time. -/
def timers (x : Executor) : List (TaskRef × Instant) :=
  x.tasks.filterMap fun ref => (x.timer? ref).map (Prod.mk ref)

theorem sleepers_collect (x : Executor) : x.collect.sleepers =
    (x.sleepers.filter ((x.timers.filter (x.now < ·.2)).contains ·)) ++
      (x.timers.filter (x.now < ·.2)).filter
        (!(x.sleepers.filter ((x.timers.filter (x.now < ·.2)).contains ·)).contains ·) := rfl

/-- Whoever sleeps wakes later. -/
theorem later_of_mem_sleepers_collect {sleeper : TaskRef × Instant}
    (h : sleeper ∈ x.collect.sleepers) : x.now < sleeper.2 := by
  rw [sleepers_collect] at h
  rcases List.mem_append.1 h with hmem | hmem
  · have hwaits := (List.mem_filter.1 hmem).2
    have hin : sleeper ∈ x.timers.filter (x.now < ·.2) := by simpa using hwaits
    simpa using (List.mem_filter.1 hin).2
  · simpa using (List.mem_filter.1 (List.mem_filter.1 hmem).1).2

/-- Nobody sleeps twice: with one timer there is one sleeper. -/
theorem length_sleepers_collect (hsleepers : x.sleepers.length ≤ 1)
    (htimers : x.timers.length ≤ 1) : x.collect.sleepers.length ≤ 1 := by
  rw [sleepers_collect]
  have hwaiting : (x.timers.filter (x.now < ·.2)).length ≤ 1 :=
    Nat.le_trans (List.length_filter_le ..) htimers
  generalize x.timers.filter (x.now < ·.2) = waiting at hwaiting
  match hx : x.sleepers, waiting with
  | [], _ => simpa using hwaiting
  | [s], [] => simp
  | [s], [t] => by_cases heq : s = t <;> simp [heq]
  | _ :: _ :: _, _ => simp [hx] at hsleepers
  | _, _ :: _ :: _ => simp at hwaiting

end Executor

namespace Demo

namespace Plot

variable {p p' : Plot} {l l' : Ledger} {x x' : Executor}

/-! ## Where the executor is -/

/-- A bound on the executor's steps at one instant. A turn may make a few tasks ready, and a task
that yields gets a turn twice. -/
def stepsLeft (p : Plot) (x : Executor) : Nat :=
  8 * p.rank + 2 * x.yielded.length + x.ready.length

/-- The executor is where a plot says, and has steps enough. -/
structure Runs (p : Plot) (l : Ledger) (x : Executor) : Prop where
  sound : p.Sound
  now : x.now = p.clock
  nodes : x.nodes = [(p.scene l).node]
  attentive : x.Attentive
  sleepers : x.sleepers.length ≤ 1
  later : ∀ sleeper ∈ x.sleepers, x.now < sleeper.2
  room : p.stepsLeft x < Executor.stepLimit

theorem node?_of_nodes (h : x.nodes = [(p.scene l).node]) : x.node? 0 = some (p.scene l).node := by
  simp [Executor.node?, h]

theorem tasks_of_nodes (h : x.nodes = [(p.scene l).node]) :
    x.tasks = (p.scene l).node.tasks.map (TaskRef.mk 0) := by
  simp [Executor.tasks, node?_of_nodes h, h]

/-- There are the sweeper, the router and two workers at most. -/
theorem length_tasks_le (p : Plot) (l : Ledger) : (p.scene l).node.tasks.length ≤ 4 := by
  have hevents : ((p.events.subscriptions p.settings.max).flatMap Node.workerTasks).length ≤ 1 := by
    cases p.events <;> simp [Events.subscriptions, started, Node.workerTasks]
  have hecho : ((p.echo.subscriptions p.token).flatMap Node.workerTasks).length ≤ 1 := by
    cases p.echo <;> simp [Echo.subscriptions, started, Node.workerTasks]
  have htasks : (p.scene l).node.tasks = Task.sweeper :: .router ::
      ((p.events.subscriptions p.settings.max).flatMap Node.workerTasks ++
        (p.echo.subscriptions p.token).flatMap Node.workerTasks) :=
    congrArg (fun tasks => Task.sweeper :: .router :: tasks) List.flatMap_append
  rw [htasks, List.length_cons, List.length_cons, List.length_append]
  omega

/-- Only the sweeper waits for time. -/
theorem length_timers_le (h : x.nodes = [(p.scene l).node]) : x.timers.length ≤ 1 := by
  have hworkers : (((p.connection l).subscriptions.flatMap Node.workerTasks).map
      (TaskRef.mk 0)).filterMap (fun ref => (x.timer? ref).map (Prod.mk ref)) = [] := by
    rw [List.filterMap_eq_nil_iff]
    intro ref href
    obtain ⟨task, htask, rfl⟩ := List.mem_map.1 href
    obtain ⟨s, -, hmem⟩ := List.mem_flatMap.1 htask
    obtain ⟨i, -, rfl⟩ := List.mem_map.1 hmem
    have hnone : (p.scene l).node.timer? (.worker s.sid i) = none := p.timer?_worker l s.sid i
    simp [Executor.timer?, node?_of_nodes h, hnone]
  have hrouter : x.timer? ⟨0, .router⟩ = none := by
    simp [Executor.timer?, node?_of_nodes h, Node.timer?]
  have htasks : x.tasks = ⟨0, .sweeper⟩ :: ⟨0, .router⟩ ::
      ((p.connection l).subscriptions.flatMap Node.workerTasks).map (TaskRef.mk 0) :=
    tasks_of_nodes h
  rw [Executor.timers, htasks]
  simp only [List.filterMap_cons, hrouter, Option.map_none, hworkers]
  cases x.timer? ⟨0, .sweeper⟩ <;> simp

/-- The tasks are given their places. -/
theorem runs_collect (hp : p.Sound) (hnow : x.now = p.clock) (hnodes : x.nodes = [(p.scene l).node])
    (hsleepers : x.sleepers.length ≤ 1) (hroom : p.stepsLeft x + 5 < Executor.stepLimit) :
    p.Runs l x.collect ∧ p.stepsLeft x.collect ≤ p.stepsLeft x + 5 := by
  have hready := x.length_ready_collect
  have htasks := p.length_tasks_le l
  rw [← List.length_map (f := TaskRef.mk 0), ← tasks_of_nodes hnodes] at htasks
  have hless : p.stepsLeft x.collect ≤ p.stepsLeft x + 5 := by
    have hyielded : x.collect.yielded = x.yielded := rfl
    simp only [stepsLeft, hyielded]
    omega
  exact ⟨⟨hp, hnow, hnodes, x.attentive_collect,
    Executor.length_sleepers_collect hsleepers (length_timers_le hnodes),
    fun _ => Executor.later_of_mem_sleepers_collect, by omega⟩, hless⟩

/-- Somebody has done a step at the same instant. -/
theorem runs_setNode (hp : p'.Sound) (hnow : x.now = p'.clock)
    (hnodes : x.nodes = [(p.scene l).node]) (hsleepers : x.sleepers.length ≤ 1)
    (hroom : p'.stepsLeft x + 5 < Executor.stepLimit) (l' : Ledger) :
    p'.Runs l' (x.setNode 0 (p'.scene l').node) ∧
      p'.stepsLeft (x.setNode 0 (p'.scene l').node) ≤ p'.stepsLeft x + 5 := by
  simp only [Executor.setNode, node?_of_nodes hnodes]
  refine runs_collect hp hnow ?_ hsleepers hroom
  simp [hnodes]

/-! ## The tasks go on -/

/-- The executor has come from one plot to another at the same instant, without the client. -/
structure Resumes (p p' : Plot) (l' : Ledger) (x' : Executor) : Prop where
  runs : p'.Runs l' x'
  client : p'.client = p.client
  clock : p'.clock = p.clock

/-- A task does a step, whether or not it gives up its turn. -/
theorem Runs.act (h : p.Runs l x) {task : Task} (hready : (p.scene l).isReady (.task task) = true)
    {y : Executor} (hnow : y.now = x.now) (hnodes : y.nodes = x.nodes)
    (hsleepers : y.sleepers = x.sleepers) (hturns : 2 * y.yielded.length + y.ready.length ≤
      2 * x.yielded.length + x.ready.length + 1) :
    let x' := y.setNode 0 ((p.scene l).node.stepTask task).2
    ∃ p' l', Resumes p p' l' x' ∧ p'.stepsLeft x' < p.stepsLeft x := by
  have hroom := h.room
  obtain ⟨p', l', hfollows, hact⟩ :=
    h.sound.exists_follows (a := .task task) hready fun ha => by cases ha
  have hnode : ((p.scene l).node.stepTask task).2 = (p'.scene l').node := congrArg Scene.node hact
  have hrank := hfollows.rank
  have hless : p'.stepsLeft y + 5 < p.stepsLeft x := by
    unfold stepsLeft
    omega
  have hclock : y.now = p'.clock := by rw [hnow, h.now, hfollows.clock]
  obtain ⟨hruns, hle⟩ := runs_setNode hfollows.sound hclock (hnodes.trans h.nodes)
    (hsleepers ▸ h.sleepers) (Nat.lt_trans hless hroom) l'
  rw [hnode]
  exact ⟨p', l', ⟨hruns, (congrArg Scene.client hact).symm, hfollows.clock⟩,
    Nat.lt_of_le_of_lt hle hless⟩

/-- The tasks that have a turn change, and nothing else. -/
theorem Runs.pass (h : p.Runs l x) {ready yielded : List TaskRef}
    (hattentive : Executor.Attentive { x with ready := ready, yielded := yielded })
    (hturns : 2 * yielded.length + ready.length < 2 * x.yielded.length + x.ready.length) :
    let x' : Executor := { x with ready := ready, yielded := yielded }
    ∃ p' l', Resumes p p' l' x' ∧ p'.stepsLeft x' < p.stepsLeft x := by
  have hless : p.stepsLeft { x with ready := ready, yielded := yielded } < p.stepsLeft x := by
    unfold stepsLeft
    dsimp only
    omega
  exact ⟨p, l, ⟨⟨h.sound, h.now, h.nodes, hattentive, h.sleepers, h.later,
    Nat.lt_trans hless h.room⟩, rfl, rfl⟩, hless⟩

/-- One step of the executor. -/
theorem Runs.step (h : p.Runs l x) (hstep : x.step = some x') :
    ∃ p' l', Resumes p p' l' x' ∧ p'.stepsLeft x' < p.stepsLeft x := by
  have hattentive := h.attentive.step hstep
  unfold Executor.step at hstep
  split at hstep
  · next ref rest hturns =>
    have hskip (hx' : some { x with ready := rest } = some x') :
        ∃ p' l', Resumes p p' l' x' ∧ p'.stepsLeft x' < p.stepsLeft x := by
      obtain rfl := Option.some.inj hx'
      exact h.pass hattentive (by rw [hturns, List.length_cons]; omega)
    obtain ⟨i, task⟩ := ref
    cases i with
    | succ i =>
      have hnone : x.node? (i + 1) = none := by simp [Executor.node?, h.nodes]
      rw [hnone] at hstep
      exact hskip hstep
    | zero =>
      simp only [node?_of_nodes h.nodes] at hstep
      split at hstep
      · next hready =>
        obtain rfl := Option.some.inj hstep
        cases ((p.scene l).node.stepTask task).1 with
        | steady => exact h.act hready rfl rfl rfl (Nat.le_succ _)
        | yielding =>
          refine h.act hready rfl rfl rfl ?_
          simp only [hturns, List.length_append, List.length_cons, List.length_nil]
          omega
      · exact hskip hstep
  · next hturns =>
    split at hstep
    · cases hstep
    · next hyielded =>
      obtain rfl := Option.some.inj hstep
      have hsome : x.yielded ≠ [] := fun hnil => hyielded hnil
      have hpos : 0 < x.yielded.length := List.length_pos_iff.2 hsome
      exact h.pass hattentive (by simp only [hturns, List.length_nil]; omega)

/-- All steps that need no time: after that no task can go on. -/
theorem Runs.steps (h : p.Runs l x) {fuel : Nat} (hfuel : p.stepsLeft x < fuel) :
    (x.steps fuel).step = none ∧ ∃ p' l', Resumes p p' l' (x.steps fuel) := by
  induction fuel generalizing p l x with
  | zero => exact absurd hfuel (Nat.not_lt_zero _)
  | succ fuel ih =>
    unfold Executor.steps
    cases hstep : x.step with
    | none => exact ⟨hstep, p, l, h, rfl, rfl⟩
    | some x' =>
      obtain ⟨p', l', hresumes, hless⟩ := h.step hstep
      obtain ⟨hrest, q, l'', hlast⟩ := ih hresumes.runs (by omega)
      exact ⟨hrest, q, l'', hlast.runs, hlast.client.trans hresumes.client,
        hlast.clock.trans hresumes.clock⟩

theorem Runs.settle (h : p.Runs l x) : x.settle.step = none ∧ ∃ p' l', Resumes p p' l' x.settle :=
  h.steps h.room

/-! ## Time passes -/

/-- The steps at one instant are far fewer than the executor allows. -/
theorem Sound.rank_le (hp : p.Sound) : p.rank ≤ 40000 := by
  have hmessages := hp.messages
  have hsent := hp.sent_le
  have hframes := hp.length_frames_le
  have hstages : p.stagesLeft ≤ p.settings.messages + 9 := by
    unfold stagesLeft
    split <;> omega
  have hevents : p.events.rank ≤ 13 + 4 * p.settings.messages := by
    have hcounted := hp.counted
    unfold Counted eventsRouted at hcounted
    cases hnow : p.events with
    | absent | ended _ => exact Nat.zero_le _
    | live lane =>
      rw [hnow] at hcounted
      simp only [Events.rank]
      split <;> omega
  have hecho : p.echo.rank ≤ 4 := by
    unfold Echo.rank
    split <;> first | omega | split <;> omega
  have hsweeps : p.sweepsLeft ≤ 4 := by
    unfold sweepsLeft
    split <;> split <;> first | omega | split <;> omega
  have hahead : (if p.sent < p.settings.messages + 5 then 10 else 0) ≤ 10 := by split <;> omega
  unfold rank
  omega

/-- Time passes when no task can go on. -/
theorem Runs.setClock (h : p.Runs l x) (hrest : x.step = none) (hresting : p.Resting)
    {now : Instant} (hle : now ≤ pause) : { p with clock := now }.Runs l (x.setClock now) := by
  obtain ⟨hready, hyielded⟩ := Executor.turns_of_rest hrest
  have hlater := h.sound.later hresting hle
  have hrank := hlater.rank_le
  let y : Executor := { x with now := now, nodes := x.nodes.map (Node.setClock · now) }
  have hnodes : y.nodes = [({ p with clock := now }.scene l).node] :=
    congrArg (List.map (Node.setClock · now)) h.nodes
  refine (runs_collect (x := y) hlater rfl hnodes h.sleepers ?_).1
  simp only [stepsLeft, y, hready, hyielded, List.length_nil, Executor.stepLimit]
  omega

theorem Runs.canGoOn_eq (h : p.Runs l x) : canGoOn p.client x = (p.scene l).isReady .client := by
  have hnode : x.node? node = some (p.scene l).node := node?_of_nodes h.nodes
  rw [canGoOn, hnode]
  rfl

/-- Nobody can go on when the executor has nobody to let go on, and the client waits. -/
theorem Runs.rest (h : p.Runs l x) (hrest : x.step = none) (hwaits : canGoOn p.client x ≠ true)
    (a : Actor) : (p.scene l).isReady a = false := by
  cases a with
  | client => rwa [h.canGoOn_eq, ne_eq, Bool.not_eq_true] at hwaits
  | task task =>
    have hnot := h.attentive.isReady_eq_false hrest ⟨0, task⟩
    rwa [Executor.isReady, node?_of_nodes h.nodes] at hnot

/-- The client that sleeps wakes at the end of the pause. -/
theorem isReady_of_pause (hstage : p.stage = .pausing pause) (hclock : pause ≤ p.clock)
    (l : Ledger) : (p.scene l).isReady .client = true := by
  simpa [Scene.isReady, scene, Client.isReady, client, hstage, connection] using hclock

/-- The next instant at which somebody wakes is later than now. -/
theorem Runs.lt_nextTimer (h : p.Runs l x) {wakeAt : Instant} (hnext : x.nextTimer? = some wakeAt) :
    x.now < wakeAt := by
  obtain ⟨sleeper, hmem, rfl⟩ := List.mem_map.1 (List.min?_mem hnext)
  exact h.later sleeper hmem

/-- The client that can go on by a limit: it sleeps until then, or the limit lies ahead. -/
def Awakens (p : Plot) (now limit : Instant) : Prop :=
  p.stage = .pausing pause ∧ limit = pause ∨ (∀ wakeAt, p.stage ≠ .pausing wakeAt) ∧ now < limit

/-- A client that cannot go on has not reached its limit. -/
theorem Runs.not_limit_le (h : p.Runs l x) {limit : Instant} (hlimit : p.Awakens x.now limit)
    (hwaits : canGoOn p.client x ≠ true) : ¬limit ≤ x.now := by
  intro hle
  rcases hlimit with ⟨hstage, rfl⟩ | ⟨-, hlt⟩
  · rw [h.now] at hle
    exact hwaits (h.canGoOn_eq.trans (isReady_of_pause hstage hle l))
  · exact absurd hlt (Nat.not_lt_of_le hle)

/-- The client that sleeps while everything is done wakes at the end of the pause. -/
theorem Runs.wake (h : p.Runs l x) (hrest : x.step = none) (hresting : p.Resting) :
    { p with clock := pause }.Runs l (x.setClock pause) ∧
      ({ p with clock := pause }.scene l).isReady .client = true :=
  ⟨h.setClock hrest hresting (Nat.le_refl _),
    isReady_of_pause (p := { p with clock := pause }) hresting.stage (Nat.le_refl _) l⟩

/-- Time passes until the client can go on. -/
theorem Runs.runBy (h : p.Runs l x) {limit : Instant} {fuel : Nat}
    (hlimit : p.Awakens x.now limit) (hfuel : limit - x.now < fuel) :
    ∃ (p' : Plot) (l' : Ledger), p'.Runs l' (x.runBy (canGoOn p.client) limit fuel).2 ∧
      p'.client = p.client ∧ (p'.scene l').isReady .client = true := by
  induction fuel generalizing p l x with
  | zero => exact absurd hfuel (Nat.not_lt_zero _)
  | succ fuel ih =>
    unfold Executor.runBy
    split
    · next hready => exact ⟨p, l, h, rfl, h.canGoOn_eq ▸ hready⟩
    next hwaits =>
    obtain ⟨hrest, p₁, l₁, hruns, hclient, hclock⟩ := h.settle
    rw [if_neg (h.not_limit_le hlimit hwaits)]
    dsimp only
    split
    · next hready => exact ⟨p₁, l₁, hruns, hclient, hruns.canGoOn_eq ▸ hclient ▸ hready⟩
    next hwaits₁ =>
    -- everything is done, so the client sleeps
    have hresting := hruns.sound.resting_of_rest (hruns.rest hrest (hclient ▸ hwaits₁))
    have hstage : p.stage = .pausing pause :=
      (congrArg Client.stage hclient).symm.trans hresting.stage
    obtain ⟨-, rfl⟩ := hlimit.resolve_right fun hawake => hawake.1 pause hstage
    obtain ⟨hend, hready⟩ := hruns.wake hrest hresting
    split
    · next wakeAt hnext =>
      have hlater : x.now < wakeAt := by
        rw [h.now, ← hclock, ← hruns.now]
        exact hruns.lt_nextTimer hnext
      split
      · next hbefore =>
        have hless : Nat.sub pause wakeAt < fuel := Nat.lt_of_lt_of_le
          (Nat.sub_lt_sub_left (Nat.lt_trans hlater hbefore) hlater) (Nat.le_of_lt_succ hfuel)
        obtain ⟨p', l', hruns', hclient', hready'⟩ :=
          ih (hruns.setClock hrest hresting (Nat.le_of_lt hbefore)) (Or.inl ⟨hresting.stage, rfl⟩)
            hless
        have hsame : { p₁ with clock := wakeAt }.client = p.client := hclient
        exact ⟨p', l', hsame ▸ hruns', hclient'.trans hclient, hready'⟩
      · exact ⟨_, l₁, hend, hclient, hready⟩
    · exact ⟨_, l₁, hend, hclient, hready⟩

/-- The client gets its turn when it can go on. -/
theorem Runs.runUntil (h : p.Runs l x) : ∃ (p' : Plot) (l' : Ledger),
    p'.Runs l' (x.runUntil (canGoOn p.client) (p.client.patience x.now)).2 ∧ p'.client = p.client ∧
      (p'.scene l').isReady .client = true := by
  refine h.runBy ?_ (Nat.lt_succ_self _)
  have hages : 0 < Duration.ages := by decide
  have hstaged := h.sound.staged
  unfold Staged at hstaged
  unfold Awakens
  cases hstage : p.stage <;> rw [hstage] at hstaged <;>
    simp only [Client.patience, client, hstage]
  case pausing wakeAt => exact Or.inl ⟨congrArg Stage.pausing hstaged.1, hstaged.1⟩
  all_goals exact Or.inr ⟨by simp, Nat.lt_add_of_pos_right hages⟩

/-! ## The client gets to its end -/

/-- The client does a step in its surroundings. -/
theorem onConnection_client (hnodes : x.nodes = [(p.scene l).node]) :
    x.onConnection node p.client p.client.step =
      (((p.scene l).step .client).client, x.setNode 0 ((p.scene l).step .client).node) := by
  have hnode : x.node? node = some (p.scene l).node := node?_of_nodes hnodes
  simp only [Executor.onConnection, hnode]
  rfl

theorem drive_of_over {k : Client} (hover : k.isOver = true) (x : Executor) (turns : Nat) :
    drive k x turns = k := by
  cases turns with
  | zero => rfl
  | succ turns => rw [drive, if_pos hover]

theorem Sound.two_le_stagesLeft (hp : p.Sound) : 2 ≤ p.stagesLeft := by
  have hstaged := hp.staged
  unfold Staged at hstaged
  unfold stagesLeft
  cases hstage : p.stage <;> rw [hstage] at hstaged <;> dsimp only at hstaged ⊢ <;> omega

theorem Sound.not_isOver (hp : p.Sound) : p.client.isOver = false := by
  have hstaged := hp.staged
  unfold Staged at hstaged
  cases hstage : p.stage <;> rw [hstage] at hstaged <;> simp_all [Client.isOver, client]

/-- The client has turns enough to get to its end. -/
theorem Runs.drive (h : p.Runs l x) {turns : Nat} (hturns : p.stagesLeft ≤ turns + 1) :
    (drive p.client x turns).report = outcome p.settings := by
  induction turns generalizing p l x with
  | zero =>
    have htwo := h.sound.two_le_stagesLeft
    omega
  | succ turns ih =>
    obtain ⟨p₁, l₁, hruns, hclient, hready⟩ := h.runUntil
    have hsettings : p₁.settings = p.settings := congrArg Client.settings hclient
    have hstages : p₁.stagesLeft = p.stagesLeft := congrArg
      (fun k : Client => { p with settings := k.settings, stage := k.stage }.stagesLeft) hclient
    unfold Demo.drive
    rw [if_neg (by simp [h.sound.not_isOver])]
    dsimp only
    rw [← hclient] at hruns ⊢
    rw [onConnection_client hruns.nodes, ← hsettings]
    by_cases hwakes : ∃ wakeAt, p₁.stage = .pausing wakeAt
    · obtain ⟨wakeAt, hstage⟩ := hwakes
      obtain ⟨hclosing, hreport⟩ := hruns.sound.closing_of_wakes hstage hready
      rw [drive_of_over hclosing.ended, hreport]
    · obtain ⟨p₂, l₂, hadvances, hstep⟩ := exists_advances_client hruns.sound
        (fun wakeAt hstage => hwakes ⟨wakeAt, hstage⟩) hready
      rw [hstep, ← hadvances.settings]
      have hlater := hadvances.stages
      have hrank := hadvances.rank
      have hroom := hruns.room
      exact ih (runs_setNode hadvances.sound (hruns.now.trans hadvances.clock.symm) hruns.nodes
        hruns.sleepers (by unfold stepsLeft at hroom ⊢; omega) l₂).1 (by omega)

end Plot

/-- The demo as it is run leaves the same behind. -/
theorem run_eq {settings : CommandLine.Settings} (h : settings.messages ≤ 1020) :
    run settings = outcome settings := by
  have hsound := sound_overture "demo" h
  let x : Executor := { nodes := [((overture settings "demo").scene {}).node] }
  have hsetUp : setUp settings = x.collect :=
    congrArg (fun scene : Scene => Executor.collect { nodes := [scene.node] })
      (scene_overture settings "demo")
  have hruns := (Plot.runs_collect (x := x) hsound rfl rfl (Nat.zero_le _) ?_).1
  · rw [run, hsetUp]
    exact hruns.drive (Nat.le_refl _)
  · have hrank := hsound.rank_le
    simp only [Plot.stepsLeft, x, List.length_nil, Executor.stepLimit]
    omega

/-- The demo with at most 1020 messages, whatever the ceiling, the timeout and the token. Whoever's
turn it is each time, it comes to an end with exit code 0 and has written three lines: the answer,
that nobody listens to the other request, and how many events were delivered, which are all of them or
as many as the ceiling lets through. The same is left behind when the executor gives the turns, from
any line of arguments with these settings. -/
theorem ends_alike (settings : CommandLine.Settings) (token : String)
    (h : settings.messages ≤ 1020) :
    let delivered :=
      if settings.max = 0 then settings.messages else min settings.messages settings.max
    let report : Report := {
      code := 0
      lines := [
        "echo replied: HELLO",
        "demo.nobody: request cancelled: no responders",
        "demo.events delivered " ++ toString delivered ++ " of " ++ toString settings.messages ++
          " messages"] }
    (opening settings token).Ends report ∧ run settings = report ∧
      ∀ arguments, CommandLine.parse arguments = .ok settings → start arguments = report := by
  intro delivered report
  have hrun : run settings = report := run_eq h
  refine ⟨ends_opening token h, hrun, fun arguments hparse => ?_⟩
  rw [start, hparse]
  exact hrun

/-- The theorem applies to twelve messages of which the ceiling lets three through, and a timeout of
zero. -/
theorem ends_alike_three :
    let settings : CommandLine.Settings := { messages := 12, max := 3, timeoutMs := 0 }
    let report : Report := {
      code := 0
      lines := ["echo replied: HELLO", "demo.nobody: request cancelled: no responders",
        "demo.events delivered 3 of 12 messages"] }
    settings.messages ≤ 1020 ∧ (opening settings "t").Ends report ∧ run settings = report ∧
      start ["--messages", "12", "--max=3", "--timeout-ms", "0"] = report := by
  intro settings report
  have hmessages : settings.messages ≤ 1020 := by decide
  have hreport : outcome settings = report := by decide +kernel
  have hparse : CommandLine.parse ["--messages", "12", "--max=3", "--timeout-ms", "0"] =
    .ok settings := by decide +kernel
  obtain ⟨hends, hrun, hstart⟩ := ends_alike settings "t" hmessages
  exact ⟨hmessages, hreport ▸ hends, hreport ▸ hrun, hreport ▸ hstart _ hparse⟩

end Demo

end PubSub
