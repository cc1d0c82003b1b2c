import PubSub.Connection.Config
import PubSub.Proofs.Registry.Pending
import PubSub.Proofs.Sweeper.Plan

/-!
# The sweeper comes to rest

At one instant the sweeper takes a few steps and then sleeps, whatever waits in its registry: a sweep
leaves no request that is due, a registration is taken note of once, and a sleep that is planned then
ends later than now. It is never planned to end later than its interval from now (`Sweeper.Near`),
for a sweeper that goes on at all plans its sleep anew. All this as long as the clock can hold the
instant that lies the interval from now: a plan that is made later ends the sweeper.

## Main results

- `Sweeper.steps_add` — further steps go on from where the first ones led
- `Sweeper.near_steps` — how far away the end of a sleep can be
- `Sweeper.steps_of_le` — a sweeper that outlives the clock ends
- `Sweeper.comes_to_rest` — where the steps of one instant lead
-/

namespace PubSub.Sweeper

variable {sw : Sweeper} {reg : Registry} {now : Nat}

/-- A sweeper that cannot go on takes no step. -/
theorem steps_of_not_isReady (h : sw.isReady reg now = false) (n : Nat) :
    sw.steps reg now n = (sw, reg) := by
  cases n with
  | zero => rfl
  | succ n => simp [steps, h]

/-- A sweeper that has a plan cannot go on before its sleep ends. -/
theorem Planned.isReady_eq {wakeAt : Nat} (h : sw.Planned reg now wakeAt) :
    sw.isReady reg now = false := by
  simp [isReady, h.phase, h.running, h.noticed, h.later]

/-- Further steps go on from where the first ones led. -/
theorem steps_add (sw : Sweeper) (reg : Registry) (now m n : Nat) :
    sw.steps reg now (m + n) = (sw.steps reg now m).1.steps (sw.steps reg now m).2 now n := by
  induction m generalizing sw reg with
  | zero => rw [Nat.zero_add, steps]
  | succ m ih =>
    cases h : sw.isReady reg now with
    | true =>
      rw [Nat.add_right_comm, steps, steps, if_pos h, if_pos h]
      exact ih _ _
    | false => rw [steps_of_not_isReady h, steps_of_not_isReady h, steps_of_not_isReady h]

/-! ## How long it sleeps -/

/-- The sleep the sweeper is in, if it is, ends within its interval. -/
def Near (sw : Sweeper) (now : Nat) : Prop :=
  ∀ wakeAt, sw.phase = .sleeping wakeAt → wakeAt ≤ now + sw.interval

theorem wakeAt_le (sw : Sweeper) (reg : Registry) (now : Instant) :
    sw.wakeAt reg now ≤ now + sw.interval := by
  simp only [wakeAt]
  split
  · exact Nat.min_le_right _ _
  · exact Nat.le_refl _

/-- A step that is possible ends a sleep, or plans one anew. -/
theorem near_step (h : sw.isReady reg now = true) : (sw.step reg now).1.Near now := by
  intro wakeAt hphase
  have hinterval : (sw.step reg now).1.interval = sw.interval := by rw [sw.step_eq reg now]
  rw [hinterval]
  cases hp : sw.phase with
  | planning =>
    simp only [step, hp] at hphase
    split at hphase
    · rw [← Phase.sleeping.inj hphase]
      exact sw.wakeAt_le reg now
    · cases hphase
  | sleeping wakeAt' =>
    -- something woke it, so that it does not sleep on
    simp only [isReady, hp, Bool.or_eq_true, decide_eq_true_eq] at h
    simp only [step, hp] at hphase
    split at hphase
    · cases hphase
    · split at hphase
      · cases hphase
      · split at hphase
        · cases hphase
        · next hrunning hlater hunsigned =>
          exact absurd h (not_or_intro (not_or_intro hrunning hlater) hunsigned)
  | stopped => simp [isReady, hp] at h

theorem Near.steps (h : sw.Near now) (reg : Registry) (n : Nat) :
    (sw.steps reg now n).1.Near now := by
  induction n generalizing sw reg with
  | zero => exact h
  | succ n ih =>
    rw [Sweeper.steps]
    split
    · next hready => exact ih (near_step hready) _
    · exact h

/-- The steps of one instant lead to no sleep that ends later than the interval from now, if there is
any step to take. -/
theorem near_steps (h : sw.isReady reg now = true) (n : Nat) :
    (sw.steps reg now (n + 1)).1.Near now := by
  rw [steps, if_pos h]
  exact (near_step h).steps _ n

/-! ## Where the steps of one instant lead -/

/-- A sweeper that runs and can go on will hear of whatever is due. -/
theorem alert_of_isReady (h : sw.isReady reg now = true) (hs : sw.shutdown = false)
    (hi : 0 < sw.interval) : sw.Alert reg now := by
  refine ⟨hi, hs, ?_⟩
  cases hp : sw.phase with
  | planning => exact Or.inl rfl
  | sleeping wakeAt =>
    simp only [isReady, hp, hs, Bool.false_or, Bool.or_eq_true, decide_eq_true_eq] at h
    exact Or.inr ⟨wakeAt, rfl, h.imp_right Or.inl⟩
  | stopped => simp [isReady, hp] at h

theorem steps_of_stopped (h : sw.phase = .stopped) (n : Nat) : sw.steps reg now n = (sw, reg) := by
  apply steps_of_not_isReady
  simp [isReady, h]

/-- A sweeper that is to stop does so before it sweeps anything. -/
theorem steps_of_shutdown (h : sw.shutdown = true) (n : Nat) :
    sw.steps reg now (n + 2) = ({ sw with phase := .stopped }, reg) := by
  have hstop (sw : Sweeper) (h : sw.shutdown = true) (wakeAt : Instant) (n : Nat) :
      (sw.asleep wakeAt).steps reg now (n + 1) = ({ sw with phase := .stopped }, reg) := by
    simp only [steps, isReady, step, asleep, h, Bool.true_or, if_true]
    exact steps_of_stopped rfl n
  cases hp : sw.phase with
  | planning =>
    by_cases hfits : now + sw.interval < Instant.horizon
    · rw [steps_awake hp hfits]
      exact hstop sw h _ n
    · rw [steps_awake_of_le hp (Nat.le_of_not_lt hfits)]
      exact steps_of_stopped rfl _
  | sleeping wakeAt =>
    have hasleep : sw.asleep wakeAt = sw := by rw [asleep, ← hp]
    rw [← hasleep]
    exact hstop sw h wakeAt (n + 1)
  | stopped =>
    rw [steps_of_stopped hp, ← hp]

/-- A sweeper that runs and can go on, when the clock cannot hold the end of its longest sleep, makes
one more sweep or takes note of a registration, if it slept, and ends. -/
theorem steps_of_le (h : sw.isReady reg now = true) (hs : sw.shutdown = false)
    (hends : Instant.horizon ≤ now + sw.interval) :
    ∃ reg', (sw.phase = .planning → reg' = reg) ∧
      ∀ n, 2 ≤ n → sw.steps reg now n = ({ sw with phase := .stopped }, reg') := by
  have hplan (sw : Sweeper) (reg : Registry) (hp : sw.phase = .planning)
      (hends : Instant.horizon ≤ now + sw.interval) (n : Nat) :
      sw.steps reg now (n + 1) = ({ sw with phase := .stopped }, reg) := by
    rw [steps_awake_of_le hp hends]
    exact steps_of_stopped rfl n
  cases hp : sw.phase with
  | planning =>
    refine ⟨reg, fun _ => rfl, fun n hn => ?_⟩
    obtain ⟨n, rfl⟩ := Nat.exists_eq_add_of_le' (Nat.le_of_succ_le hn)
    exact hplan sw reg hp hends n
  | sleeping wakeAt =>
    by_cases hdue : wakeAt ≤ now
    · refine ⟨(reg.sweepExpired now).2, nofun, fun n hn => ?_⟩
      obtain ⟨n, rfl⟩ := Nat.exists_eq_add_of_le' hn
      rw [steps_due hp hs hdue]
      exact hplan sw.awake _ rfl hends n
    · -- before the end of its sleep only a registration lets it go on
      have hsign : reg.signalled = true := by
        simpa [isReady, hp, hs, hdue] using h
      refine ⟨reg.noticed, nofun, fun n hn => ?_⟩
      obtain ⟨n, rfl⟩ := Nat.exists_eq_add_of_le' hn
      rw [steps_signalled hp hs (Nat.lt_of_not_le hdue) hsign]
      exact hplan sw.awake _ rfl hends n
  | stopped => simp [isReady, hp] at h

/-- Whatever was done to its registry, and whether or not it heard of every registration, a sweeper
that starts, whose sleep is over or that hears of a registration takes no more than six steps at one
instant, if its interval is not zero and the clock can hold the instant that lies the interval from
now. Then it sleeps, until an instant that is later than now, no later than its interval from now and
no later than the deadline of any request that still waits. What was due has expired and no
registration is left to hear of. When the clock cannot hold that instant, the sweeper ends instead,
and one that had yet to plan its sleep sweeps nothing before. If it is to stop, it stops and sweeps
nothing. -/
theorem comes_to_rest (interval : Duration) (phase : Phase) (ops : List Registry.Op)
    (signalled : Bool) (now : Instant) (hi : 0 < interval) :
    let reg : Registry := { Registry.run {} ops with signalled := signalled }
    let sw : Sweeper := { interval := interval, phase := phase }
    (now + interval < Instant.horizon → sw.isReady reg now = true →
      ∃ (wakeAt : Instant) (reg' : Registry),
      (∀ n, 6 ≤ n → sw.steps reg now n = ({ sw with phase := .sleeping wakeAt }, reg')) ∧
      isReady { sw with phase := .sleeping wakeAt } reg' now = false ∧
      now < wakeAt ∧ wakeAt ≤ now + interval ∧
      reg' = { (reg.sweepExpired now).2 with signalled := false } ∧
      ∀ key i, (key, i) ∈ reg'.entries →
        ∃ r, reg'.request? i = some r ∧ now < r.expiresAt ∧ wakeAt ≤ r.expiresAt) ∧
    (Instant.horizon ≤ now + interval → sw.isReady reg now = true →
      ∃ reg' : Registry, (phase = .planning → reg' = reg) ∧
        ∀ n, 2 ≤ n → sw.steps reg now n = ({ sw with phase := .stopped }, reg')) ∧
    ∀ n, 2 ≤ n → steps { sw with shutdown := true } reg now n =
      ({ sw with shutdown := true, phase := .stopped }, reg) := by
  intro reg sw
  have hco : reg.Coherent := (Registry.coherent_empty.run ops).of_eq rfl rfl
  refine ⟨fun hfits hready => ?_, fun hends hready => steps_of_le hready rfl hends, fun n hn => ?_⟩
  · obtain ⟨wakeAt, hsettle, hplan⟩ := (alert_of_isReady hready rfl hi).settle_eq hfits hco
    have hnear : (sw.settle reg now).1.Near now := near_steps hready 5
    rw [hsettle] at hnear
    refine ⟨wakeAt, _, fun n hn => ?_, ?_, hplan.later, hnear wakeAt rfl, rfl, fun key i hm => ?_⟩
    · -- six steps lead to a plan, and a plan to no further step
      obtain ⟨n, rfl⟩ := Nat.exists_eq_add_of_le hn
      have hfirst : sw.steps reg now 6 = _ := hsettle
      rw [steps_add, hfirst]
      exact hplan.steps_eq n
    · exact hplan.isReady_eq
    · have hco' : (reg.sweepExpired now).2.noticed.Coherent := (hco.sweepExpired_spec now).1.noticed
      obtain ⟨r, hr, -, -⟩ := (hco'.waiting key i).1 hm
      have hearly := hplan.early r.expiresAt (Registry.mem_deadlines.2 ⟨(key, i), hm, r, hr, rfl⟩)
      exact ⟨r, hr, Nat.lt_of_lt_of_le hplan.later hearly, hearly⟩
  · obtain ⟨n, rfl⟩ := Nat.exists_eq_add_of_le' hn
    exact steps_of_shutdown rfl n

/-- The theorem applies to a sweeper that starts late, over a registry in which one request is due,
another is not, and neither registration was heard of. -/
theorem comes_to_rest_late :
    let reg : Registry := { Registry.run {} [
        .register "short" { timeout := some (Duration.ofMillis 20) } 0 0,
        .register "long" { timeout := some (Duration.ofMillis 300) } 0 0] with signalled := true }
    let sw : Sweeper := { interval := Duration.ofMillis 5000, phase := .planning }
    let now : Instant := Duration.ofMillis 100
    0 < sw.interval ∧ now + sw.interval < Instant.horizon ∧ sw.isReady reg now = true ∧
      ∃ (wakeAt : Instant) (reg' : Registry),
      sw.steps reg now 6 = ({ sw with phase := .sleeping wakeAt }, reg') ∧
      now < wakeAt ∧ wakeAt ≤ now + sw.interval := by
  intro reg sw now
  have hi : 0 < sw.interval := by decide
  have hfits : now + sw.interval < Instant.horizon := by decide
  obtain ⟨wakeAt, reg', hsteps, -, hlater, hnear, -⟩ :=
    (comes_to_rest sw.interval .planning [
      .register "short" { timeout := some (Duration.ofMillis 20) } 0 0,
      .register "long" { timeout := some (Duration.ofMillis 300) } 0 0] true now hi).1 hfits rfl
  exact ⟨hi, hfits, rfl, wakeAt, reg', hsteps 6 (Nat.le_refl 6), hlater, hnear⟩

/-- A connection can be built whose sweeper does not come to rest: its interval is the longest span
there is. It ends at its first turn, without having been told to, and a request that waits then is
still pending long after its deadline. -/
theorem rest_lost :
    let config : Config := { sweepInterval := Duration.ofSecs 18446744073709551615 + 999999999 }
    let reg := Registry.run {} [.register "inbox" { timeout := some (Duration.ofMillis 20) } 0 0]
    let sw : Sweeper := { interval := config.sweepInterval }
    config.check true = .ok () ∧ 0 < sw.interval ∧ sw.isReady reg 0 = true ∧ sw.shutdown = false ∧
      (∀ n wakeAt, 1 ≤ n → (sw.steps reg 0 n).1.phase ≠ .sleeping wakeAt) ∧
      ((sw.advance reg 0 (Duration.ofSecs 10)).2.request? 0).any (fun r =>
        r.state = none && r.expiresAt ≤ Duration.ofSecs 10) = true := by
  intro config reg sw
  have hends : Instant.horizon ≤ 0 + sw.interval := by decide
  refine ⟨rfl, by decide, rfl, rfl, fun n wakeAt hn => ?_, by decide +kernel⟩
  obtain ⟨n, rfl⟩ := Nat.exists_eq_add_of_le' hn
  rw [steps_awake_of_le rfl hends, steps_of_stopped rfl]
  nofun

end PubSub.Sweeper
