import PubSub.Proofs.Sweeper.Expiry

/-!
# Requests expire on time

Whatever is done to a registry under its sweeper, at every instant a request that timed out has had
its deadline (`Registry.Fair`), and as long as the clock can hold the end of the sweeper's longest
sleep, a request whose deadline has come is not pending any more (`Watched.Timely`). What the
application does takes no time and never lets a request time out, one step of the sweeper lets only
those time out whose deadline has come, and letting time pass amounts to one sweep at its end.

## Main results

- `Watched.fair_run` — no request times out early, even when the clock ends
- `Watched.Timely.run` — none times out late before that
-/

namespace PubSub

/-- A reply never lets a request time out. -/
theorem Outcome.resolution_ofReply_ne_timedOut (m : Message) :
    (Outcome.ofReply m).resolution ≠ .timedOut := by
  unfold Outcome.ofReply
  split <;> simp [Outcome.resolution, CancelReason.resolution]

namespace Registry

/-- No request timed out before its deadline. -/
structure Fair (reg : Registry) (now : Instant) : Prop where
  /-- The pending requests are those that wait. -/
  coherent : reg.Coherent
  /-- The deadline of a request that timed out has come. -/
  timedOut : ∀ i r, reg.request? i = some r → r.state = some .timedOut → r.expiresAt ≤ now

variable {reg reg' : Registry} {now later : Instant}

theorem Fair.mono (h : reg.Fair now) (hle : now ≤ later) : reg.Fair later :=
  ⟨h.coherent, fun i r hr ht => Nat.le_trans (h.timedOut i r hr ht) hle⟩

theorem Fair.noticed (h : reg.Fair now) : reg.noticed.Fair now := ⟨h.coherent.noticed, h.timedOut⟩

/-- Changes that let nothing time out. -/
theorem Fair.extends {Q : Request → Prop} (h : reg.Fair now) (hc : reg'.Coherent)
    (he : reg.Extends (· ≠ .timedOut) Q reg') : reg'.Fair now := by
  refine ⟨hc, fun i r' hr' ht => ?_⟩
  have hallowed : ¬(Resolution.timedOut ≠ .timedOut) := fun hne => hne rfl
  rcases he.origin i r' hr' with ⟨r, hr, hx⟩ | ⟨-, r, -, hst, hx⟩
  · rw [hx.expiresAt]
    exact h.timedOut i r hr (hx.state_of_not hallowed ht)
  · -- a new request is pending
    have hs := hx.state_of_not hallowed ht
    rw [hst] at hs
    cases hs

/-- A sweep lets only those time out whose deadline has come. -/
theorem Fair.sweepExpired (h : reg.Fair later) (hle : now ≤ later) :
    (reg.sweepExpired now).2.Fair later := by
  obtain ⟨hco, -, hrq⟩ := h.coherent.sweepExpired_spec now
  refine ⟨hco, fun i r' hr' ht => ?_⟩
  rw [hrq] at hr'
  obtain ⟨r, hr, rfl⟩ := Option.map_eq_some_iff.1 hr'
  split at ht
  · next hdue =>
    rw [if_pos hdue]
    exact Nat.le_trans (Request.isDue_iff.1 hdue.2) hle
  · next hfresh =>
    rw [if_neg hfresh]
    exact h.timedOut i r hr ht

end Registry

namespace Watched

variable {w : Watched}

/-! ## What the application does -/

/-- Whether it is the application that does something; that takes no time. -/
def Op.isApplication : Op → Bool
  | .step | .settle | .advance _ => false
  | _ => true

/-- What the application does lets nothing time out, and makes only requests whose deadline is still
to come. -/
theorem exists_withRegistry (hc : w.registry.Coherent) {op : Op} (hop : op.isApplication = true) :
    ∃ reg, w.perform op = w.withRegistry reg ∧ reg.Coherent ∧
      w.registry.Extends (· ≠ .timedOut) (w.now < ·.expiresAt) reg := by
  have hclosing : Resolution.closing ≠ .timedOut := by decide
  cases op with
  | register key options defaultTimeout =>
    have hlater : w.now < (Request.create key options defaultTimeout w.now).expiresAt := by
      have hgrace : 0 < graceMargin := by decide
      have := Nat.lt_add_of_pos_right hgrace (n := w.now + options.timeout.getD defaultTimeout)
      exact Nat.lt_of_le_of_lt (Nat.le_add_right _ _) this
    exact ⟨_, rfl, hc.register key options defaultTimeout w.now,
      w.registry.extends_register key options defaultTimeout w.now hclosing hlater⟩
  | resolveReply key reply =>
    exact ⟨_, rfl, hc.resolveReply key reply,
      w.registry.extends_resolveReply key reply (Outcome.resolution_ofReply_ne_timedOut reply)⟩
  | abandon key => exact ⟨_, rfl, hc.abandon key, w.registry.extends_abandon key hclosing⟩
  | cancelAll => exact ⟨_, rfl, hc.abandonAll _, w.registry.extends_abandonAll _ hclosing⟩
  | look number => exact ⟨_, rfl, hc.tryResult number, w.registry.extends_tryResult number⟩
  | step | settle | advance => cases hop

/-- What sweeps on the way and notes of registrations keep, the sweeper keeps, whatever it does. -/
theorem sweeper_induction {P : Registry → Prop} {op : Op} (hop : op.isApplication = false)
    (hsweep : ∀ reg later, w.now ≤ later → later ≤ (w.perform op).now → P reg →
      P (reg.sweepExpired later).2)
    (hnote : ∀ reg, P reg → P reg.noticed) (h : P w.registry) : P (w.perform op).registry := by
  cases op with
  | step =>
    exact Sweeper.step_induction (hsweep · w.now (Nat.le_refl _) (Nat.le_refl _)) hnote h
  | settle =>
    exact Sweeper.steps_induction (hsweep · w.now (Nat.le_refl _) (Nat.le_refl _)) hnote h 6
  | advance span => exact Sweeper.advance_induction hsweep hnote (Nat.le_add_right _ _) h
  | _ => cases hop

theorem now_le_perform (w : Watched) (op : Op) : w.now ≤ (w.perform op).now := by
  cases op with
  | advance span => exact Nat.le_add_right _ _
  | _ => exact Nat.le_refl _

theorem now_le_run (w : Watched) (ops : List Op) : w.now ≤ (w.run ops).now := by
  induction ops generalizing w with
  | nil => exact Nat.le_refl _
  | cons op ops ih => exact Nat.le_trans (w.now_le_perform op) (ih _)

/-! ## Nothing times out early -/

theorem fair_perform (h : w.registry.Fair w.now) (op : Op) :
    (w.perform op).registry.Fair (w.perform op).now := by
  cases hop : op.isApplication with
  | true =>
    obtain ⟨reg, heq, hc, he⟩ := exists_withRegistry h.coherent hop
    rw [heq]
    exact h.extends hc he
  | false =>
    exact sweeper_induction (P := (Registry.Fair · (w.perform op).now)) hop
      (fun _ _ _ hle hreg => hreg.sweepExpired hle) (fun _ hreg => hreg.noticed)
      (h.mono (w.now_le_perform op))

theorem fair_run (h : w.registry.Fair w.now) (ops : List Op) :
    (w.run ops).registry.Fair (w.run ops).now := by
  induction ops generalizing w with
  | nil => exact h
  | cons op ops ih => exact ih (fair_perform h op)

theorem fair_start (interval : Duration) (begin : Instant) :
    (start interval begin).registry.Fair begin where
  coherent := Registry.coherent_empty
  timedOut := by
    intro i r hr
    simp [start, Registry.request?] at hr

/-- Every request stays, with its key and its deadline, whatever is done. -/
theorem kept_perform (hc : w.registry.Coherent) (op : Op) {i : Nat} {r : Request}
    (hr : w.registry.request? i = some r) :
    ∃ r', (w.perform op).registry.request? i = some r' ∧ r.Extends (fun _ => True) r' := by
  cases hop : op.isApplication with
  | true =>
    obtain ⟨reg, heq, -, he⟩ := exists_withRegistry hc hop
    obtain ⟨r', hr', hx⟩ := he.kept i r hr
    rw [heq]
    exact ⟨r', hr', hx.mono fun _ _ => trivial⟩
  | false =>
    refine sweeper_induction hop (P := fun reg => ∃ r', reg.request? i = some r' ∧ r.Extends _ r')
      (fun reg later _ _ hreg => ?_) (fun _ hreg => hreg) ⟨r, hr, .refl r⟩
    obtain ⟨r₁, hr₁, hx₁⟩ := hreg
    obtain ⟨r', hr', hx'⟩ := (reg.extends_perform (.sweepExpired later)).kept i r₁ hr₁
    exact ⟨r', hr', hx₁.trans hx'⟩

theorem kept_run (h : w.registry.Fair w.now) (ops : List Op) {i : Nat} {r : Request}
    (hr : w.registry.request? i = some r) :
    ∃ r', (w.run ops).registry.request? i = some r' ∧ r.Extends (fun _ => True) r' := by
  induction ops generalizing w r with
  | nil => exact ⟨r, hr, .refl r⟩
  | cons op ops ih =>
    obtain ⟨r₁, hr₁, he₁⟩ := kept_perform h.coherent op hr
    obtain ⟨r₂, hr₂, he₂⟩ := ih (fair_perform h op) hr₁
    exact ⟨r₂, hr₂, he₁.trans he₂⟩

/-! ## Nothing times out late -/

/-- At this instant all requests are on time, and will be: the clock can hold the end of the longest
sleep of the sweeper. -/
structure Timely (w : Watched) (interval : Duration) : Prop where
  fair : w.registry.Fair w.now
  interval_eq : w.sweeper.interval = interval
  fits : w.now + interval < Instant.horizon
  /-- The sweeper will wake in time. -/
  alert : w.sweeper.Alert w.registry w.now
  /-- The deadline of a pending request is still to come. -/
  pending : ∀ i r, w.registry.request? i = some r → r.state = none → w.now < r.expiresAt

variable {interval : Duration}

theorem timely_start {begin : Instant} (hi : 0 < interval)
    (hfits : begin + interval < Instant.horizon) : (start interval begin).Timely interval where
  fair := fair_start interval begin
  interval_eq := rfl
  fits := hfits
  alert := ⟨hi, rfl, Or.inl rfl⟩
  pending := by
    intro i r hr
    simp [start, Registry.request?] at hr

/-- What the application does leaves the sweeper alert, and the deadlines of pending requests are
still to come. -/
theorem Timely.withRegistry (h : w.Timely interval) {reg : Registry} (hc : reg.Coherent)
    (he : w.registry.Extends (· ≠ .timedOut) (w.now < ·.expiresAt) reg) :
    (w.withRegistry reg).Timely interval := by
  refine ⟨h.fair.extends hc he, h.interval_eq, h.fits, ⟨h.alert.interval, h.alert.running, ?_⟩, ?_⟩
  · rcases h.alert.phase with hp | ⟨wakeAt, hp, hwake⟩
    · exact Or.inl hp
    · refine Or.inr ⟨wakeAt, hp, ?_⟩
      rcases hwake with hover | hsign | hearly
      · exact Or.inl hover
      · exact Or.inr (Or.inl (he.signalled hsign))
      · by_cases hs : reg.signalled = true
        · exact Or.inr (Or.inl hs)
        · -- nothing was registered, so no deadline came to those there were
          refine Or.inr (Or.inr fun d hd => hearly d ?_)
          obtain ⟨i, r', hr', hn, rfl⟩ := hc.mem_deadlines_iff.1 hd
          rcases he.origin i r' hr' with ⟨r, hr, hx⟩ | ⟨hs', -⟩
          · exact h.fair.coherent.mem_deadlines_iff.2 ⟨i, r, hr, hx.pending hn, hx.expiresAt.symm⟩
          · exact absurd hs' hs
  · intro i r' hr' hn
    rcases he.origin i r' hr' with ⟨r, hr, hx⟩ | ⟨-, r, hq, -, hx⟩
    · rw [hx.expiresAt]
      exact h.pending i r hr (hx.pending hn)
    · rw [hx.expiresAt]
      exact hq

/-- After a sweep every deadline of a pending request is later. -/
theorem lt_of_sweepExpired {reg : Registry} (hc : reg.Coherent) {now : Instant} {i : Nat}
    {r : Request} (hr : (reg.sweepExpired now).2.request? i = some r) (hn : r.state = none) :
    now < r.expiresAt := by
  obtain ⟨-, -, hrq⟩ := hc.sweepExpired_spec now
  rw [hrq] at hr
  obtain ⟨r₀, -, rfl⟩ := Option.map_eq_some_iff.1 hr
  split at hn
  · exact absurd hn r₀.state_expired_ne_none
  · next hfresh =>
    rw [if_neg hfresh]
    simpa [hn, Request.isDue] using hfresh

/-- At the current instant nothing is due, so a sweep changes nothing. -/
theorem Timely.sweepExpired_now (h : w.Timely interval) :
    (w.registry.sweepExpired w.now).2 = w.registry := by
  refine h.fair.coherent.sweepExpired_of_fresh fun e he =>
    Registry.isDueEntry_eq_false (fun d hd => ?_) he
  obtain ⟨i, r, hr, hn, rfl⟩ := h.fair.coherent.mem_deadlines_iff.1 hd
  exact h.pending i r hr hn

/-- The clock holds the end of the sweeper's longest sleep from now. -/
theorem Timely.sweeper_fits (h : w.Timely interval) :
    w.now + w.sweeper.interval < Instant.horizon := by
  rw [h.interval_eq]
  exact h.fits

/-- One step of the sweeper takes note of a registration or leaves the registry alone, for nothing
is due at the current instant. -/
theorem Timely.step_eq (h : w.Timely interval) :
    ∃ sw reg, w.perform .step = w.sweptTo (sw, reg) ∧ sw.interval = w.sweeper.interval ∧
      sw.Alert reg w.now ∧ (reg = w.registry ∨ reg = w.registry.noticed) := by
  rcases h.alert.phase with hp | ⟨wakeAt, hp, hwake⟩
  · -- it plans, and no deadline precedes the end of the sleep it plans
    have hs : w.sweeper.step w.registry w.now =
        (w.sweeper.asleep (w.sweeper.wakeAt w.registry w.now), w.registry) := by
      simp [Sweeper.step, hp, h.sweeper_fits, Sweeper.asleep]
    refine ⟨_, _, congrArg w.sweptTo hs, rfl,
      ⟨h.alert.interval, h.alert.running, Or.inr ⟨_, rfl, ?_⟩⟩, Or.inl rfl⟩
    exact Or.inr (Or.inr fun d hd => Sweeper.wakeAt_le_of_mem hd)
  · have hawake : ∀ reg, w.sweeper.awake.Alert reg w.now := fun reg =>
      ⟨h.alert.interval, h.alert.running, Or.inl rfl⟩
    by_cases hle : wakeAt ≤ w.now
    · have hs : w.sweeper.step w.registry w.now =
          (w.sweeper.awake, (w.registry.sweepExpired w.now).2) := by
        simp [Sweeper.step, hp, h.alert.running, hle, Sweeper.awake]
      exact ⟨_, _, congrArg w.sweptTo hs, rfl, hawake _, Or.inl h.sweepExpired_now⟩
    · -- before the end of its sleep only a registration lets it go on
      by_cases hn : w.registry.signalled = true
      · have hs : w.sweeper.step w.registry w.now = (w.sweeper.awake, w.registry.noticed) := by
          simp [Sweeper.step, hp, h.alert.running, hle, hn, Sweeper.awake, Registry.noticed]
        exact ⟨_, _, congrArg w.sweptTo hs, rfl, hawake _, Or.inr rfl⟩
      · have hs : w.sweeper.step w.registry w.now = (w.sweeper, w.registry) := by
          simp [Sweeper.step, hp, h.alert.running, hle, hn]
        exact ⟨_, _, congrArg w.sweptTo hs, rfl, h.alert, Or.inl rfl⟩

/-- Settling amounts to one sweep now, and leaves the sweeper with a plan. -/
theorem Timely.settle_eq (h : w.Timely interval) :
    ∃ wakeAt : Nat, w.perform .settle =
        { sweeper := w.sweeper.asleep wakeAt, registry := w.registry.noticed, now := w.now } ∧
      (w.sweeper.asleep wakeAt).Planned w.registry.noticed w.now wakeAt := by
  obtain ⟨wakeAt, hs, hplan⟩ := h.alert.settle_eq h.sweeper_fits h.fair.coherent
  rw [h.sweepExpired_now] at hs hplan
  refine ⟨wakeAt, ?_, hplan⟩
  show w.sweptTo (w.sweeper.settle w.registry w.now) = _
  rw [hs]
  rfl

/-- Letting time pass amounts to one sweep at its end, and leaves the sweeper with a plan. -/
theorem Timely.advance_eq (h : w.Timely interval) {span : Nat}
    (hfits : w.now + span + interval < Instant.horizon) :
    ∃ wakeAt : Nat, w.perform (.advance span) =
        { sweeper := w.sweeper.asleep wakeAt
          registry := (w.registry.sweepExpired (w.now + span)).2.noticed
          now := w.now + span } ∧
      (w.sweeper.asleep wakeAt).Planned (w.registry.sweepExpired (w.now + span)).2.noticed
        (w.now + span) wakeAt := by
  rw [← h.interval_eq] at hfits
  obtain ⟨wakeAt, hs, hplan⟩ :=
    Sweeper.advance_eq h.alert hfits h.fair.coherent (Nat.le_add_right w.now span)
  refine ⟨wakeAt, ?_, hplan⟩
  show { w.sweptTo (w.sweeper.advance w.registry w.now (w.now + span)) with now := w.now + span } = _
  rw [hs]
  rfl

/-! ## Steps and runs -/

/-- Everything stays on time, whatever is done, as long as the clock goes on. -/
theorem Timely.perform (h : w.Timely interval) (op : Op)
    (hfits : (w.perform op).now + interval < Instant.horizon) : (w.perform op).Timely interval := by
  have hfair := fair_perform h.fair op
  cases hop : op.isApplication with
  | true =>
    obtain ⟨reg, heq, hc, he⟩ := exists_withRegistry h.fair.coherent hop
    rw [heq]
    exact h.withRegistry hc he
  | false =>
    cases op with
    | step =>
      obtain ⟨sw, reg, heq, hinterval, ha, hreg⟩ := h.step_eq
      rw [heq] at hfair ⊢
      refine ⟨hfair, hinterval.trans h.interval_eq, h.fits, ha, ?_⟩
      rcases hreg with rfl | rfl <;> exact h.pending
    | settle =>
      obtain ⟨wakeAt, heq, hplan⟩ := h.settle_eq
      rw [heq] at hfair ⊢
      exact ⟨hfair, h.interval_eq, h.fits, hplan.alert h.alert.interval _, h.pending⟩
    | advance span =>
      obtain ⟨wakeAt, heq, hplan⟩ := h.advance_eq hfits
      rw [heq] at hfair ⊢
      exact ⟨hfair, h.interval_eq, hfits, hplan.alert h.alert.interval _,
        fun _ _ => lt_of_sweepExpired h.fair.coherent⟩
    | _ => cases hop

theorem Timely.run (h : w.Timely interval) (ops : List Op)
    (hfits : (w.run ops).now + interval < Instant.horizon) : (w.run ops).Timely interval := by
  induction ops generalizing w with
  | nil => exact h
  | cons op ops ih =>
    have hlater : (w.perform op).now ≤ ((w.perform op).run ops).now := now_le_run _ ops
    exact ih (h.perform op (Nat.lt_of_le_of_lt (Nat.add_le_add_right hlater _) hfits)) hfits

/-- What becomes of a pending request when time passes and nothing else is done. -/
theorem Timely.advance_pending (h : w.Timely interval) {span : Nat}
    (hfits : w.now + span + interval < Instant.horizon) {i : Nat} {r : Request}
    (hr : w.registry.request? i = some r) (hn : r.state = none) :
    ∃ r', (w.perform (.advance span)).registry.request? i = some r' ∧ r'.expiresAt = r.expiresAt ∧
      r'.state = if r.expiresAt ≤ w.now + span then some .timedOut else none := by
  obtain ⟨wakeAt, heq, -⟩ := h.advance_eq hfits
  obtain ⟨-, -, hrq⟩ := h.fair.coherent.sweepExpired_spec (w.now + span)
  rw [heq, Registry.request?_noticed, hrq, hr]
  refine ⟨_, rfl, ?_⟩
  beta_reduce
  by_cases hd : r.expiresAt ≤ w.now + span
  · rw [if_pos hd, if_pos ⟨hn, Request.isDue_iff.2 hd⟩]
    exact ⟨rfl, rfl⟩
  · rw [if_neg hd, if_neg fun hdue => hd (Request.isDue_iff.1 hdue.2)]
    exact ⟨rfl, hn⟩

/-- Time may be cut into pieces at any instant. -/
theorem Timely.advance_add (h : w.Timely interval) {span span' : Nat}
    (hfits : w.now + (span + span') + interval < Instant.horizon) :
    w.perform (.advance (span + span')) =
      (w.perform (.advance span)).perform (.advance span') := by
  have hend : w.now + (span + span') = w.now + span + span' := (Nat.add_assoc _ _ _).symm
  rw [← h.interval_eq, hend] at hfits
  have hcut := Sweeper.advance_advance h.alert hfits h.fair.coherent (Nat.le_add_right w.now span)
    (Nat.le_add_right (w.now + span) span')
  show { w.sweptTo (w.sweeper.advance w.registry w.now (w.now + (span + span')))
      with now := w.now + (span + span') } = _
  rw [hend, ← hcut]
  rfl

/-- Settling is letting no time pass. -/
theorem Timely.settle_eq_advance (h : w.Timely interval) :
    w.perform .settle = w.perform (.advance 0) := by
  obtain ⟨wakeAt, hplan, hsettle, hadvance⟩ :=
    Sweeper.advance_step h.alert h.sweeper_fits h.fair.coherent (Nat.le_refl _)
  rw [if_neg (Nat.not_le_of_lt hplan.later), ← hsettle] at hadvance
  show w.sweptTo _ = { w.sweptTo (w.sweeper.advance w.registry w.now w.now) with now := w.now }
  rw [hadvance]
  rfl

/-- A registry under a sweeper that runs, whatever is done to it: each request has its deadline at
its creation plus its own or else the default timeout plus the grace margin, and at every moment the
requests that timed out have had their deadline. As long as the clock can hold the end of the longest
sleep: those that are pending, which are all that wait, have their deadline still to come; a pending
request with which nothing is done while time passes times out if and only if its deadline comes,
however long the interval of the sweeper is; and time may be cut into pieces at any instant, so this
says when each request times out. -/
theorem expires_on_time (interval : Duration) (begin : Instant) (ops : List Op)
    (hi : 0 < interval) :
    let w := (start interval begin).run ops
    (∀ earlier key options defaultTimeout later,
      ops = earlier ++ .register key options defaultTimeout :: later →
      let made := (start interval begin).run earlier
      ∃ r, w.registry.request?
          (made.registry.register key options defaultTimeout made.now).1 = some r ∧
        r.key = key ∧
        r.expiresAt = made.now + options.timeout.getD defaultTimeout + Duration.ofMillis 10) ∧
    (∀ i r, w.registry.request? i = some r → r.state = some .timedOut → r.expiresAt ≤ w.now) ∧
    (w.now + interval < Instant.horizon →
      (∀ i r, w.registry.request? i = some r → r.state = none → w.now < r.expiresAt) ∧
      (∀ key i, (key, i) ∈ w.registry.entries →
        ∃ r, w.registry.request? i = some r ∧ r.key = key ∧ w.now < r.expiresAt) ∧
      (∀ span, w.now + span + interval < Instant.horizon →
        (w.perform (.advance span)).now = w.now + span ∧
        ∀ i r, w.registry.request? i = some r → r.state = none →
          ∃ r', (w.perform (.advance span)).registry.request? i = some r' ∧
            r'.expiresAt = r.expiresAt ∧
            r'.state = if r.expiresAt ≤ w.now + span then some .timedOut else none) ∧
      (∀ span span', w.now + (span + span') + interval < Instant.horizon →
        w.perform (.advance (span + span')) =
          (w.perform (.advance span)).perform (.advance span')) ∧
      w.perform .settle = w.perform (.advance 0)) := by
  intro w
  have hstart : (start interval begin).registry.Fair begin := fair_start interval begin
  have hfair : w.registry.Fair w.now := fair_run hstart ops
  refine ⟨?_, hfair.timedOut, fun hfits => ?_⟩
  · intro earlier key options defaultTimeout later hops made
    have hmade : (made.perform (.register key options defaultTimeout)).registry.Fair made.now :=
      fair_perform (fair_run hstart earlier) _
    have hw : w = (made.perform (.register key options defaultTimeout)).run later := by
      show (start interval begin).run ops = _
      rw [hops, run_append, run_cons]
    have hnew : (made.perform (.register key options defaultTimeout)).registry.request?
        (made.registry.register key options defaultTimeout made.now).1 =
          some (Request.create key options defaultTimeout made.now) := by
      simp [Watched.perform, Watched.withRegistry, Registry.register, Registry.request?]
    obtain ⟨r, hr, he⟩ := kept_run hmade later hnew
    rw [← hw] at hr
    exact ⟨r, hr, he.key, he.expiresAt⟩
  · have hbegin : begin ≤ w.now := (start interval begin).now_le_run ops
    have hearly : begin + interval < Instant.horizon :=
      Nat.lt_of_le_of_lt (Nat.add_le_add_right hbegin _) hfits
    have h : w.Timely interval := (timely_start hi hearly).run ops hfits
    refine ⟨h.pending, fun key i hm => ?_,
      fun span hspan => ⟨rfl, fun i r hr hn => h.advance_pending hspan hr hn⟩,
      fun span span' hspan => h.advance_add hspan, h.settle_eq_advance⟩
    obtain ⟨r, hr, hk, hn⟩ := (h.fair.coherent.waiting key i).1 hm
    exact ⟨r, hr, hk, h.pending i r hr hn⟩

/-- The theorem applies to a sweeper that sleeps for up to a minute, and a request that has to
expire much sooner. -/
theorem expires_on_time_minute :
    let w := (start (Duration.ofMillis 60000) 0).run
      [.register "inbox" { timeout := some (Duration.ofMillis 20) } 0,
        .advance (Duration.ofMillis 30)]
    0 < Duration.ofMillis 60000 ∧ w.now + Duration.ofMillis 60000 < Instant.horizon ∧
      ∀ i r, w.registry.request? i = some r →
        (r.state = some .timedOut → r.expiresAt ≤ w.now) ∧
          (r.state = none → w.now < r.expiresAt) := by
  intro w
  have hi : 0 < Duration.ofMillis 60000 := by decide
  have hfits : w.now + Duration.ofMillis 60000 < Instant.horizon := by decide
  obtain ⟨-, hearly, hlate⟩ := expires_on_time (Duration.ofMillis 60000) 0
    [.register "inbox" { timeout := some (Duration.ofMillis 20) } 0, .advance (Duration.ofMillis 30)]
    hi
  exact ⟨hi, hfits, fun i r hr => ⟨hearly i r hr, (hlate hfits).1 i r hr⟩⟩

end Watched

end PubSub
