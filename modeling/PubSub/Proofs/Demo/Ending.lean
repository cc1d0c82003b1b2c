import PubSub.Proofs.Demo.Closing

/-!
# How the demo ends

Whoever's turn it is each time, the demo comes to an end, and it always writes the same three lines.

## Main definitions

- `Demo.outcome` — what the demo leaves behind
- `Demo.Plot.effort` — a bound on the turns that are left

## Main results

- `Demo.Plot.Sound.closing_of_wakes` — the client that wakes has its three lines
- `Demo.Plot.Sound.ends` — from each plot the demo comes to its end
-/

namespace PubSub.Demo

/-- How many events the ceiling lets through. -/
def letThrough (settings : CommandLine.Settings) : Nat :=
  if settings.max = 0 then settings.messages else min settings.messages settings.max

/-- What the demo leaves behind. -/
def outcome (settings : CommandLine.Settings) : Report where
  code := 0
  lines := [echoLine, cancelLine, countLine (letThrough settings) settings.messages]

namespace Plot

variable {p : Plot} {l : Ledger}

/-- When the client wakes, the worker of the events has taken note of all it is let through. -/
theorem Sound.deliveredTo_events (hp : p.Sound) (hresting : p.Resting) (l : Ledger) :
    deliveredTo (p.connection l) 1 = letThrough p.settings := by
  have hstaged := hp.staged
  rw [Staged, hresting.stage] at hstaged
  obtain ⟨-, -, hrouted, -⟩ := hstaged
  have hread : p.eventsRouted = p.settings.messages := by
    unfold eventsRouted
    omega
  have hcounted := hp.counted
  unfold Counted at hcounted
  cases hevents : p.events <;> rw [hevents] at hcounted <;> dsimp only at hcounted
  case absent =>
    have hle := hp.placed.1
    omega
  case live lane =>
    obtain ⟨hdoing, hentries⟩ := hresting.events lane hevents
    obtain ⟨-, -, -, hcount, hlimit⟩ := hcounted
    rw [hentries, hread, List.length_nil] at hcount
    simp only [hdoing, reduceCtorEq, exists_false, and_false, or_false] at hlimit
    have hdelivered : deliveredTo (p.connection l) 1 = lane.delivered := by
      rw [deliveredTo, subscription?_live hevents]
      rfl
    rw [hdelivered, letThrough]
    split <;> omega
  case ended queue =>
    have hdelivered : deliveredTo (p.connection l) 1 = p.settings.max := by
      simp only [deliveredTo, Connection.subscription?, connection, subscriptions, hevents]
      rfl
    rw [hdelivered, letThrough, if_neg hcounted.1]
    omega

/-- While everything rests, no handler is at work. -/
theorem Sound.idle_of_resting (hp : p.Sound) (hresting : p.Resting) (l : Ledger) :
    (p.connection l).Idle := by
  have hstaged := hp.staged
  rw [Staged, hresting.stage] at hstaged
  obtain ⟨-, hsent, hrouted, -⟩ := hstaged
  have hnone : p.frames = [] := frames_eq_nil (by omega) hresting.notice
  have hsubscriptions : (p.subscriptions.map (·.sid)).Nodup ∧ ∀ s ∈ p.subscriptions, s.Idle := by
    unfold subscriptions
    rw [hresting.echo]
    cases hevents : p.events with
    | absent => simp [Events.subscriptions, Echo.subscriptions, started, Subscription.Idle]
    | live lane =>
      have hphase : lane.phase p.settings.max = .receiving := by
        simp [Lane.phase, (hresting.events lane hevents).1]
      simp [Events.subscriptions, Echo.subscriptions, started, Subscription.Idle, hphase]
    | ended queue => simp [Events.subscriptions, Echo.subscriptions, started, Subscription.Idle]
  refine ⟨rfl, hsubscriptions.1, hsubscriptions.2, fun o ho => ?_⟩
  have hmem : o ∈ p.frames := ho
  rw [hnone] at hmem
  cases hmem

/-- The client wakes, counts the events and closes its connection. -/
theorem Sound.closing_of_wakes (hp : p.Sound) {wakeAt : Instant}
    (hstage : p.stage = .pausing wakeAt) (hready : (p.scene l).isReady .client = true) :
    ((p.scene l).step .client).Closing ∧
      ((p.scene l).step .client).client.report = outcome p.settings := by
  have hawake : wakeAt ≤ p.clock := by
    simpa [Scene.isReady, scene, Client.isReady, client, hstage, connection] using hready
  have hresting : p.Resting := by
    have hstaged := hp.staged
    rw [Staged, hstage] at hstaged
    have hpause : 0 < pause := by decide
    refine hp.resting.resolve_left fun hzero => ?_
    rw [hzero, hstaged.1] at hawake
    exact absurd hawake (Nat.not_le_of_lt hpause)
  obtain ⟨hidle, hcancelled, hshutdown⟩ := (hp.idle_of_resting hresting l).close rfl
  have hcount := hp.deliveredTo_events hresting l
  have hstep : (p.scene l).step .client = {
      client := {
        settings := p.settings
        events := 1
        stage := .over 0 ""
        lines := (outcome p.settings).lines },
      node := { (p.scene l).node with
        connection := (p.connection l).close Connection.transport } } := by
    have hclock : wakeAt ≤ (p.connection l).clock := hawake
    simp only [Scene.step, scene, Client.step, client, hstage, if_pos hclock, hcount, Client.enter,
      Client.write, lines]
    rfl
  rw [hstep]
  exact ⟨⟨rfl, hidle, hcancelled, hshutdown⟩, rfl⟩

/-- A bound on the turns that are left: a step lowers the rank, and time raises it by less than what
it takes away from the pause. -/
def effort (p : Plot) : Nat := p.rank + 3 * Nat.sub pause p.clock

theorem Follows.effort_lt {p' : Plot} (h : p.Follows p') : p'.effort < p.effort := by
  rw [effort, effort, h.clock]
  exact Nat.add_lt_add_right h.rank _

theorem effort_later_lt {now : Instant} (hlater : p.clock < now) (hle : now ≤ pause) :
    { p with clock := now }.effort < p.effort := by
  have hrank := p.rank_later_le now
  have hless : Nat.sub pause now < Nat.sub pause p.clock :=
    Nat.sub_lt_sub_left (Nat.lt_of_lt_of_le hlater hle) hlater
  unfold effort
  dsimp only
  omega

/-- Whoever's turn it is each time, the demo comes to an end from here. -/
theorem Sound.ends (hp : p.Sound) : (p.scene l).Ends (outcome p.settings) := by
  induction hleft : p.effort using Nat.strongRecOn generalizing p l with
  | ind n ih =>
    have hnot : (p.scene l).isOver = false := by
      have hstaged := hp.staged
      unfold Staged at hstaged
      cases hstage : p.stage <;> rw [hstage] at hstaged <;>
        simp_all [Scene.isOver, scene, Client.isOver, client]
    refine .goesOn hnot ?_ fun y hy => ?_
    · by_cases hsome : ∃ a, (p.scene l).isReady a = true
      · obtain ⟨a, ha⟩ := hsome
        exact ⟨_, .act a ha⟩
      · have hrest (a : Actor) : (p.scene l).isReady a = false := by
          rw [← Bool.not_eq_true]
          exact fun ha => hsome ⟨a, ha⟩
        obtain ⟨now, hnext, -⟩ := hp.nextTimer? hrest
        exact ⟨_, .wait now hrest hnext⟩
    · cases hy with
      | act a hready =>
        by_cases hwakes : a = .client ∧ ∃ wakeAt, p.stage = .pausing wakeAt
        · obtain ⟨rfl, wakeAt, hstage⟩ := hwakes
          obtain ⟨hclosing, hreport⟩ := hp.closing_of_wakes hstage hready
          exact hreport ▸ hclosing.ends
        · obtain ⟨p', l', hfollows, hstep⟩ := hp.exists_follows hready
            fun ha wakeAt hstage => hwakes ⟨ha, wakeAt, hstage⟩
          rw [hstep, ← hfollows.settings]
          exact ih _ (hleft ▸ hfollows.effort_lt) hfollows.sound rfl
      | wait now hrest hnext =>
        obtain ⟨now', hnext', hlater, hle⟩ := hp.nextTimer? hrest
        obtain rfl : now' = now := Option.some.inj (hnext'.symm.trans hnext)
        exact ih _ (hleft ▸ effort_later_lt hlater hle) (hp.later (hp.resting_of_rest hrest) hle)
          rfl

end Plot

/-- Nobody had a turn yet. -/
def overture (settings : CommandLine.Settings) (token : String) : Plot :=
  { settings := settings, token := token }

theorem scene_overture (settings : CommandLine.Settings) (token : String) :
    opening settings token = (overture settings token).scene {} := by
  have hinterest : (overture settings token).interest = [] := by simp [overture, Plot.interest]
  simp only [Plot.scene, hinterest]
  rfl

theorem sound_overture {settings : CommandLine.Settings} (token : String)
    (h : settings.messages ≤ 1020) : (overture settings token).Sound where
  messages := h
  staged := ⟨rfl, rfl, rfl⟩
  counted := ⟨rfl, rfl⟩
  echoed := Nat.zero_le _
  placed := ⟨Nat.le_refl _, by simp [overture]⟩
  sweeper := by simp [overture]
  clock := Nat.zero_le _
  resting := Or.inl rfl

/-- Whoever's turn it is each time, the demo comes to an end. -/
theorem ends_opening {settings : CommandLine.Settings} (token : String)
    (h : settings.messages ≤ 1020) : (opening settings token).Ends (outcome settings) := by
  rw [scene_overture]
  exact (sound_overture token h).ends

end PubSub.Demo
