import PubSub.Proofs.Registry.Sweep
import PubSub.Request.Sweeper

/-!
# The plan of the sweeper

When the sweeper has done all it can at one instant, it sleeps towards an instant that is later and
that no waiting request's deadline precedes, and no registration is left unnoticed: it is
`Sweeper.Planned`. Before that it may be anything that a sleeper is between two such moments
(`Sweeper.Alert`): its plan may be missing, over, or out of date, but a plan that is out of date
comes with the sign that a request was registered.

The steps at one instant amount to one sweep (`Sweeper.settle_eq`), whatever they are one by one.
-/

namespace PubSub

namespace Registry

/-- The registry after the sweeper took note of the registrations. -/
def noticed (reg : Registry) : Registry := { reg with signalled := false }

@[simp] theorem entries_noticed (reg : Registry) : reg.noticed.entries = reg.entries := rfl

@[simp] theorem request?_noticed (reg : Registry) (i : Nat) :
    reg.noticed.request? i = reg.request? i := rfl

@[simp] theorem deadlines_noticed (reg : Registry) : reg.noticed.deadlines = reg.deadlines := rfl

theorem Coherent.noticed {reg : Registry} (h : reg.Coherent) : reg.noticed.Coherent :=
  h.of_eq rfl rfl

theorem mem_deadlines {reg : Registry} {d : Instant} :
    d ∈ reg.deadlines ↔ ∃ e ∈ reg.entries, ∃ r, reg.request? e.2 = some r ∧ r.expiresAt = d := by
  simp [deadlines, Option.map_eq_some_iff]

/-- The deadlines are those of the pending requests. -/
theorem Coherent.mem_deadlines_iff {reg : Registry} (h : reg.Coherent) {d : Instant} :
    d ∈ reg.deadlines ↔ ∃ i r, reg.request? i = some r ∧ r.state = none ∧ r.expiresAt = d := by
  rw [mem_deadlines]
  constructor
  · rintro ⟨⟨key, i⟩, hm, r, hr, hd⟩
    obtain ⟨r', hr', -, hs⟩ := (h.waiting key i).1 hm
    rw [hr] at hr'
    obtain rfl := Option.some.inj hr'
    exact ⟨i, r, hr, hs, hd⟩
  · rintro ⟨i, r, hr, hs, hd⟩
    exact ⟨(r.key, i), (h.waiting r.key i).2 ⟨r, hr, rfl, hs⟩, r, hr, hd⟩

/-- Nothing is due when every deadline is later. -/
theorem isDueEntry_eq_false {reg : Registry} {now : Instant} (h : ∀ d ∈ reg.deadlines, now < d)
    {e : String × Nat} (he : e ∈ reg.entries) : reg.isDueEntry now e = false := by
  cases hr : reg.request? e.2 with
  | none => simp [isDueEntry, hr]
  | some r =>
    have := h r.expiresAt (mem_deadlines.2 ⟨e, he, r, hr, rfl⟩)
    simp [isDueEntry, hr, Request.isDue, this]

/-- After a sweep every deadline is later, and was a deadline before. -/
theorem Coherent.lt_of_mem_deadlines_sweepExpired {reg : Registry} (h : reg.Coherent)
    {now d : Instant} (hd : d ∈ (reg.sweepExpired now).2.deadlines) :
    now < d ∧ d ∈ reg.deadlines := by
  obtain ⟨-, hen, hrq⟩ := h.sweepExpired_spec now
  obtain ⟨e, he, r, hr, rfl⟩ := mem_deadlines.1 hd
  rw [hen, List.mem_filter] at he
  obtain ⟨he, hfresh⟩ := he
  rw [hrq] at hr
  cases hr0 : reg.request? e.2 with
  | none => simp [hr0] at hr
  | some r0 =>
    have hexp : r.expiresAt = r0.expiresAt := by
      rw [hr0, Option.map_some, Option.some.injEq] at hr
      subst hr
      split <;> rfl
    rw [hexp]
    refine ⟨?_, mem_deadlines.2 ⟨e, he, r0, hr0, rfl⟩⟩
    simpa [isDueEntry, hr0, Request.isDue] using hfresh

/-- A sweep does not look at the sign for the sweeper. -/
theorem Coherent.sweepExpired_noticed {reg : Registry} (h : reg.Coherent) (now : Instant) :
    (reg.noticed.sweepExpired now).2 = (reg.sweepExpired now).2.noticed := by
  obtain ⟨-, he, hr⟩ := h.sweepExpired_spec now
  obtain ⟨-, hc, -⟩ := h.sweepExpired_count now
  obtain ⟨-, he', hr'⟩ := h.noticed.sweepExpired_spec now
  obtain ⟨-, hc', hs'⟩ := h.noticed.sweepExpired_count now
  refine ext_request? (fun i => ?_) (he'.trans ?_) (hc'.trans ?_) hs'
  · rw [hr', request?_noticed, request?_noticed, hr]
  · rw [entries_noticed, entries_noticed, he]
    rfl
  · exact hc.symm

end Registry

namespace Sweeper

/-- The sweeper put to sleep. -/
def asleep (sw : Sweeper) (wakeAt : Instant) : Sweeper := { sw with phase := .sleeping wakeAt }

/-- The sweeper about to plan its sleep. -/
def awake (sw : Sweeper) : Sweeper := { sw with phase := .planning }

/-- The sweeper has done all it can at `now`. -/
structure Planned (sw : Sweeper) (reg : Registry) (now wakeAt : Nat) : Prop where
  /-- It sleeps. -/
  phase : sw.phase = .sleeping wakeAt
  running : sw.shutdown = false
  /-- It noticed every registration. -/
  noticed : reg.signalled = false
  later : now < wakeAt
  /-- No request is due before its sleep ends. -/
  early : ∀ d ∈ reg.deadlines, wakeAt ≤ d

/-- What the sweeper can be at any time while it runs: if it sleeps, then its sleep is over, or it
will hear of a registration, or no request is due before its sleep ends. -/
structure Alert (sw : Sweeper) (reg : Registry) (now : Instant) : Prop where
  interval : 0 < sw.interval
  running : sw.shutdown = false
  /-- It plans, or it sleeps and will wake in time. -/
  phase : sw.phase = .planning ∨ ∃ wakeAt, sw.phase = .sleeping wakeAt ∧
    (wakeAt ≤ now ∨ reg.signalled = true ∨ ∀ d ∈ reg.deadlines, wakeAt ≤ d)

theorem wakeAt_le_of_mem {sw : Sweeper} {reg : Registry} {now d : Instant}
    (hd : d ∈ reg.deadlines) : sw.wakeAt reg now ≤ d := by
  unfold wakeAt Registry.nextExpiry
  cases hm : reg.deadlines.min? with
  | none =>
    rw [List.min?_eq_none_iff.1 hm] at hd
    cases hd
  | some m =>
    have := (List.min?_eq_some_iff.1 hm).2 d hd
    exact Nat.le_trans (Nat.min_le_left _ _) this

/-- A sleep planned when nothing is due ends later. -/
theorem lt_wakeAt {sw : Sweeper} {reg : Registry} {now : Instant} (hi : 0 < sw.interval)
    (hf : ∀ d ∈ reg.deadlines, now < d) : now < sw.wakeAt reg now := by
  unfold wakeAt Registry.nextExpiry
  cases hm : reg.deadlines.min? with
  | none => exact Nat.lt_add_of_pos_right hi
  | some m =>
    have := hf m (List.min?_eq_some_iff.1 hm).1
    exact Nat.lt_min.2 ⟨this, Nat.lt_add_of_pos_right hi⟩

@[simp] theorem wakeAt_noticed (sw : Sweeper) (reg : Registry) (now : Instant) :
    sw.wakeAt reg.noticed now = sw.wakeAt reg now := rfl

/-! ## What a step can do -/

/-- A step of the sweeper changes its phase only. -/
theorem step_eq (sw : Sweeper) (reg : Registry) (now : Instant) :
    (sw.step reg now).1 = { sw with phase := (sw.step reg now).1.phase } := by
  unfold step
  split
  · split <;> rfl
  · split
    · rfl
    · split
      · rfl
      · split <;> rfl
  · rfl

/-- A step of the sweeper leaves its stop sign alone, and sweeps, takes note or does nothing. -/
theorem step_keeps (sw : Sweeper) (reg : Registry) (now : Instant) :
    (sw.step reg now).1.shutdown = sw.shutdown ∧
      ((sw.step reg now).2 = reg ∨ (sw.step reg now).2 = (reg.sweepExpired now).2 ∨
        (sw.step reg now).2 = reg.noticed) := by
  refine ⟨by rw [sw.step_eq reg now], ?_⟩
  unfold step
  split
  · split <;> exact Or.inl rfl
  · split
    · exact Or.inl rfl
    · split
      · exact Or.inr (Or.inl rfl)
      · split
        · exact Or.inr (Or.inr rfl)
        · exact Or.inl rfl
  · exact Or.inl rfl

variable {sw : Sweeper} {reg : Registry} {now wakeAt : Nat}

/-- What a step leaves of the registry has whatever sweeps now and notes of registrations keep. -/
theorem step_induction {P : Registry → Prop} (hsweep : ∀ reg, P reg → P (reg.sweepExpired now).2)
    (hnote : ∀ reg, P reg → P reg.noticed) (h : P reg) : P (sw.step reg now).2 := by
  rcases (sw.step_keeps reg now).2 with heq | heq | heq <;> rw [heq]
  · exact h
  · exact hsweep reg h
  · exact hnote reg h

/-- The same after any number of steps at one instant. -/
theorem steps_induction {P : Registry → Prop} (hsweep : ∀ reg, P reg → P (reg.sweepExpired now).2)
    (hnote : ∀ reg, P reg → P reg.noticed) (h : P reg) (n : Nat) : P (sw.steps reg now n).2 := by
  induction n generalizing sw reg with
  | zero => exact h
  | succ n ih =>
    rw [steps]
    split
    · exact ih (step_induction hsweep hnote h)
    · exact h

/-! ## Steps at one instant -/

theorem asleep_inj {a b : Instant} : sw.asleep a = sw.asleep b ↔ a = b := by
  simp [asleep]

/-- A plan whose longest sleep the clock can hold. -/
theorem steps_awake (h : sw.phase = .planning) (hfits : now + sw.interval < Instant.horizon)
    (fuel : Nat) :
    sw.steps reg now (fuel + 1) = (sw.asleep (sw.wakeAt reg now)).steps reg now fuel := by
  simp [steps, isReady, step, h, hfits, asleep]

/-- A plan whose longest sleep it cannot hold ends the task. -/
theorem steps_awake_of_le (h : sw.phase = .planning) (hends : Instant.horizon ≤ now + sw.interval)
    (fuel : Nat) :
    sw.steps reg now (fuel + 1) = steps { sw with phase := .stopped } reg now fuel := by
  simp [steps, isReady, step, h, Nat.not_lt_of_le hends]

theorem steps_due (h : sw.phase = .sleeping wakeAt) (hs : sw.shutdown = false) (hd : wakeAt ≤ now)
    (fuel : Nat) :
    sw.steps reg now (fuel + 1) = sw.awake.steps (reg.sweepExpired now).2 now fuel := by
  simp [steps, isReady, step, h, hs, hd, awake]

theorem steps_signalled (h : sw.phase = .sleeping wakeAt) (hs : sw.shutdown = false)
    (hd : now < wakeAt) (hn : reg.signalled = true) (fuel : Nat) :
    sw.steps reg now (fuel + 1) = sw.awake.steps reg.noticed now fuel := by
  simp [steps, isReady, step, h, hs, Nat.not_le_of_lt hd, hn, awake, Registry.noticed]

/-- A sweeper that has a plan does nothing before its sleep ends. -/
theorem Planned.steps_eq (h : sw.Planned reg now wakeAt) (fuel : Nat) :
    sw.steps reg now fuel = (sw, reg) := by
  cases fuel with
  | zero => rfl
  | succ fuel =>
    have hready : sw.isReady reg now = false := by
      simp [isReady, h.phase, h.running, h.noticed, h.later]
    simp [steps, hready]

theorem Planned.mono (h : sw.Planned reg now wakeAt) {later : Nat} (hlt : later < wakeAt) :
    sw.Planned reg later wakeAt :=
  ⟨h.phase, h.running, h.noticed, hlt, h.early⟩

theorem noticed_of_not_signalled {reg : Registry} (h : reg.signalled = false) :
    reg.noticed = reg := by
  cases reg
  simp_all [Registry.noticed]

/-- From planning, when nothing is due: the sweeper plans, and once more if a registration had
not been noticed. -/
theorem steps_awake_fresh (h : sw.phase = .planning) (hs : sw.shutdown = false)
    (hi : 0 < sw.interval) (hfits : now + sw.interval < Instant.horizon)
    (hf : ∀ d ∈ reg.deadlines, now < d) (fuel : Nat) :
    sw.steps reg now (fuel + 3) = (sw.asleep (sw.wakeAt reg now), reg.noticed) ∧
      (sw.asleep (sw.wakeAt reg now)).Planned reg.noticed now (sw.wakeAt reg now) := by
  have hlt := lt_wakeAt hi hf
  -- the plan does not depend on the sign, so a second plan is the first one again
  have hplan : (sw.asleep (sw.wakeAt reg now)).Planned reg.noticed now (sw.wakeAt reg now) :=
    ⟨rfl, hs, rfl, hlt, fun d hd => wakeAt_le_of_mem hd⟩
  refine ⟨?_, hplan⟩
  rw [steps_awake h hfits]
  cases hn : reg.signalled with
  | false =>
    have hplan' := hplan
    rw [noticed_of_not_signalled hn] at hplan' ⊢
    exact hplan'.steps_eq _
  | true =>
    have hrun : (sw.asleep (sw.wakeAt reg now)).shutdown = false := hs
    have hsign : (sw.asleep (sw.wakeAt reg now)).steps reg now (fuel + 2) =
        sw.awake.steps reg.noticed now (fuel + 1) :=
      steps_signalled rfl hrun hlt hn (fuel + 1)
    have hawake : now + sw.awake.interval < Instant.horizon := hfits
    have hagain : sw.awake.steps reg.noticed now (fuel + 1) =
        (sw.asleep (sw.wakeAt reg now)).steps reg.noticed now fuel :=
      steps_awake rfl hawake fuel
    rw [hsign, hagain]
    exact hplan.steps_eq _

/-- From planning, whatever is due: what the sweeper leaves is what one sweep would leave. -/
theorem steps_awake_eq (h : sw.phase = .planning) (hs : sw.shutdown = false)
    (hi : 0 < sw.interval) (hfits : now + sw.interval < Instant.horizon) (hc : reg.Coherent)
    (fuel : Nat) :
    ∃ wakeAt : Nat, sw.steps reg now (fuel + 5) =
        (sw.asleep wakeAt, (reg.sweepExpired now).2.noticed) ∧
      (sw.asleep wakeAt).Planned (reg.sweepExpired now).2.noticed now wakeAt := by
  by_cases hlt : now < sw.wakeAt reg now
  · have hf : ∀ d ∈ reg.deadlines, now < d :=
      fun d hd => Nat.lt_of_lt_of_le hlt (wakeAt_le_of_mem hd)
    -- nothing is due, so it only plans
    have hsame : (reg.sweepExpired now).2 = reg :=
      hc.sweepExpired_of_fresh fun e he => Registry.isDueEntry_eq_false hf he
    rw [hsame]
    exact ⟨_, steps_awake_fresh h hs hi hfits hf (fuel + 2)⟩
  · -- the sleep it plans is over at once, so it sweeps and plans again
    have hf : ∀ d ∈ (reg.sweepExpired now).2.deadlines, now < d :=
      fun d hd => (hc.lt_of_mem_deadlines_sweepExpired hd).1
    have hrun : (sw.asleep (sw.wakeAt reg now)).shutdown = false := hs
    have hdue : (sw.asleep (sw.wakeAt reg now)).steps reg now (fuel + 4) =
        sw.awake.steps (reg.sweepExpired now).2 now (fuel + 3) :=
      steps_due rfl hrun (Nat.le_of_not_lt hlt) (fuel + 3)
    have hawake : sw.awake.shutdown = false := hs
    rw [steps_awake h hfits, hdue]
    exact ⟨_, steps_awake_fresh rfl hawake hi hfits hf fuel⟩

/-- All that the sweeper does at one instant amounts to one sweep, after which it has a plan. -/
theorem Alert.settle_eq (h : sw.Alert reg now) (hfits : now + sw.interval < Instant.horizon)
    (hc : reg.Coherent) :
    ∃ wakeAt : Nat, sw.settle reg now = (sw.asleep wakeAt, (reg.sweepExpired now).2.noticed) ∧
      (sw.asleep wakeAt).Planned (reg.sweepExpired now).2.noticed now wakeAt := by
  have hawake : sw.awake.shutdown = false := h.running
  have hi : 0 < sw.awake.interval := h.interval
  rcases h.phase with hp | ⟨wakeAt, hp, hwake⟩
  · exact steps_awake_eq hp h.running h.interval hfits hc 1
  · by_cases hle : wakeAt ≤ now
    · have hf : ∀ d ∈ (reg.sweepExpired now).2.deadlines, now < d :=
        fun d hd => (hc.lt_of_mem_deadlines_sweepExpired hd).1
      rw [settle, steps_due hp h.running hle]
      exact ⟨_, steps_awake_fresh rfl hawake hi hfits hf 2⟩
    · have hlt : now < wakeAt := Nat.lt_of_not_le hle
      cases hn : reg.signalled with
      | true =>
        have hsweep := hc.sweepExpired_noticed now
        obtain ⟨w, hsteps, hplan⟩ : ∃ w, sw.awake.steps reg.noticed now 5 =
              (sw.asleep w, (reg.noticed.sweepExpired now).2.noticed) ∧
            (sw.asleep w).Planned (reg.noticed.sweepExpired now).2.noticed now w :=
          steps_awake_eq rfl hawake hi hfits hc.noticed 0
        rw [hsweep] at hsteps hplan
        rw [settle, steps_signalled hp h.running hlt hn]
        exact ⟨w, hsteps, hplan⟩
      | false =>
        -- the plan is good, so nothing is due and nothing happens
        have hearly : ∀ d ∈ reg.deadlines, wakeAt ≤ d := by
          rcases hwake with hover | hsign | hearly
          · exact absurd hover hle
          · rw [hn] at hsign
            cases hsign
          · exact hearly
        have hsame : (reg.sweepExpired now).2 = reg :=
          hc.sweepExpired_of_fresh fun e he =>
            Registry.isDueEntry_eq_false (fun d hd => Nat.lt_of_lt_of_le hlt (hearly d hd)) he
        have hsw : sw.asleep wakeAt = sw := by
          cases sw
          simp_all [asleep]
        have hplan : sw.Planned reg now wakeAt := ⟨hp, h.running, hn, hlt, hearly⟩
        rw [hsame, noticed_of_not_signalled hn]
        exact ⟨wakeAt, by rw [hsw]; exact hplan.steps_eq 6, by rw [hsw]; exact hplan⟩

end Sweeper

end PubSub
