import PubSub.Proofs.Connection.AllOrNothing
import PubSub.Proofs.Connection.LiveTurn

/-!
# What a start that failed leaves

A start starts a worker before it knows whether the announcement is accepted. If it is rejected, the
worker is told to end before it ever ran, and the subscription is as it was but for that worker. A
subscription that was made to be started is given up instead, and all that is left of it is its
number.

## Main definitions

- `Connection.Touches` — nothing was changed but one subscription

## Main results

- `Connection.akin_of_failed`, `Connection.unstarted_of_failed` — a start that failed
- `Connection.unmade_of_failed` — a subscription that was made and given up again
-/

namespace PubSub.Connection

variable {c c' c'' : Connection} {t t' : Transport} {sid : Sid} {bar : Gate} {s : Subscription}

/-! ## A start that fails -/

theorem isStarted_disable (s : Subscription) : s.disable.2.isStarted = false := by
  unfold Subscription.disable
  split
  · next hcurrent => simp only [Subscription.isStarted, hcurrent, Option.bind_none]
  · rfl

/-- What a frame that is sent on behalf of a subscription comes to when it is rejected. -/
theorem sendFor_of_error (ht : t.Plain) {frame : Frame} {e : TransportError}
    (h : c.sendFor t sid frame = (.error (.transport e), c')) :
    t { frame := frame } c = (.error e, c') ∧
      c' = c.log (.offered { frame := frame } (.error e)) := by
  unfold sendFor at h
  split at h
  · cases h
  · split at h
    · cases hsent : t { frame := frame } c with
      | mk verdict c₁ =>
        rw [hsent] at h
        cases verdict with
        | ok => cases h
        | error e' =>
          cases h
          exact ⟨rfl, ht.eq_of_error hsent⟩
    · cases h

/-- A start that is rejected on a way on which nothing reacts has started a worker and stopped it
again. -/
theorem startSubscription_of_error (ht : t.Plain) {e : TransportError}
    (h : c.startSubscription t sid = (.error (.transport e), c')) :
    ∃ s, c.subscription? sid = some s ∧ s.valid = true ∧ s.isStarted = false ∧
      (t { frame := .subscribe sid s.subject s.queueGroup } (c.enable sid).2).1 = .error e ∧
      c' = (((c.enable sid).2.log (.offered
        { frame := .subscribe sid s.subject s.queueGroup } (.error e))).disable sid).2 := by
  unfold startSubscription at h
  split at h
  · cases h
  · next s hs =>
    split at h
    · cases h
    · next hvalid =>
      split at h
      · cases h
      · next c₁ hmade =>
        have hidle : s.isStarted = false := by
          simp only [enable, hs, Subscription.enable] at hmade
          cases hstarted : s.isStarted with
          | true => simp [hstarted] at hmade
          | false => rfl
        split at h
        · cases h
        · next e' c₂ hsent =>
          cases h
          obtain ⟨hrejected, hrest⟩ := sendFor_of_error ht hsent
          rw [hmade]
          exact ⟨s, hs, by simpa using hvalid, hidle, by rw [hrejected], by rw [hrest]⟩

/-- The subscription is found as it is when a worker was started and stopped again. -/
theorem subscription?_of_failed (ht : t.Plain) {e : TransportError}
    (h : c.startSubscription t sid = (.error (.transport e), c')) :
    ∃ s, c.subscription? sid = some s ∧ s.valid = true ∧
      c'.subscription? sid = some (s.enable c.isStopping).2.disable.2 := by
  obtain ⟨s, hs, hvalid, -, -, rfl⟩ := startSubscription_of_error ht h
  have hfound : ((c.enable sid).2.log (.offered
      { frame := .subscribe sid s.subject s.queueGroup } (.error e))).subscription? sid =
        some (s.enable c.isStopping).2 := subscription?_enable hs
  exact ⟨s, hs, hvalid, subscription?_disable hfound⟩

/-- Nothing but a spent worker and a refused announcement is left of a start that failed. -/
theorem akin_of_failed (ht : t.Plain) (hc : c.Trim) {e : TransportError}
    (h : c.startSubscription t sid = (.error (.transport e), c')) : c.Akin c' := by
  obtain ⟨s, hs, -, hidle, -, rfl⟩ := startSubscription_of_error ht h
  -- the announcement leaves nothing, so that the worker is stopped as soon as it was started
  have hrefused := (akin_log (c.enable sid).2
    (e := .offered { frame := .subscribe sid s.subject s.queueGroup } (.error e)) rfl).disable sid
  refine Akin.trans ?_ hrefused.snd
  have hsid : (s.enable c.isStopping).2.sid = sid :=
    (s.enable_keeps c.isStopping).1.trans (sid_of_subscription? hs)
  have hstopped : ((c.enable sid).2.disable sid).2 =
      c.modifySubscription sid fun _ => (s.enable c.isStopping).2.disable.2 := by
    have henable : (c.enable sid).2 =
        c.modifySubscription sid fun _ => (s.enable c.isStopping).2 := by
      simp only [Connection.enable, hs]
    have hfound := subscription?_enable hs
    simp only [Connection.disable, hfound]
    rw [henable, modifySubscription_modifySubscription c sid fun _ _ => hsid]
  rw [hstopped]
  exact akin_replace hc.nodup hs (Subscription.pruned_disable_enable hidle c.isStopping)

/-- A start that failed leaves the subscription valid, not started and with its queue. -/
theorem unstarted_of_failed (ht : t.Plain) {e : TransportError}
    (h : c.startSubscription t sid = (.error (.transport e), c')) : Unstarted sid c c' := by
  obtain ⟨s, hs, hvalid, hfound⟩ := subscription?_of_failed ht h
  obtain ⟨-, hvalid₁, -, -, -, hqueue₁, -⟩ := s.enable_keeps c.isStopping
  obtain ⟨-, hvalid₂, -, -, -, hqueue₂, -⟩ := (s.enable c.isStopping).2.disable_keeps
  constructor
  · rw [hfound, Option.map_some, hvalid₂, hvalid₁, hvalid]
  · rw [hfound, Option.map_some, isStarted_disable]
  · rw [hfound, hs, Option.map_some, Option.map_some, hqueue₂, hqueue₁]

/-! ## Ways on which nothing reacts -/

theorem gated_of_still (h : c.reactions = []) (bar : Gate) (o : Outgoing) :
    gated bar o c = offerThrough bar o c := by
  simp only [gated, transportAt, reaction?, h, List.lookup_nil]

theorem sendFor_congr (h : ∀ o, t o c = t' o c) (sid : Sid) (frame : Frame) :
    c.sendFor t sid frame = c.sendFor t' sid frame := by
  simp only [sendFor, h]

theorem startSubscription_congr (h : ∀ o, t o (c.enable sid).2 = t' o (c.enable sid).2) :
    c.startSubscription t sid = c.startSubscription t' sid := by
  unfold startSubscription
  generalize c.enable sid = made at h ⊢
  obtain ⟨started, c₁⟩ := made
  have hsend := sendFor_congr (c := c₁) h sid
  cases started <;> simp only [hsend]

theorem closeSubscription_congr (h : ∀ o, t o (c.invalidate sid) = t' o (c.invalidate sid)) :
    c.closeSubscription t sid = c.closeSubscription t' sid := by
  simp only [closeSubscription, teardown, h]

/-- It does not matter on which such way a subscription is started. -/
theorem Direct.startSubscription (h : c.Direct bar t) (sid : Sid) :
    c.startSubscription t sid = c.startSubscription (offerThrough bar) sid := by
  cases h with
  | bare => rfl
  | own hstill =>
    refine startSubscription_congr fun o => gated_of_still ?_ bar o
    have hflow : c.Flow (fun _ => True) (c.enable sid).2 := flow_enable c sid
    exact hflow.reactions.trans hstill

/-- Nor does it when a subscription is made. -/
theorem Direct.subscribe (h : c.Direct bar t) (handle : Nat) (plan : SubscriptionPlan) :
    c.subscribe t handle plan = c.subscribe (offerThrough bar) handle plan := by
  cases h with
  | bare => rfl
  | own hstill =>
    have hbuilt := (course_build (p := .all) c handle plan).flow.reactions.trans hstill
    unfold Connection.subscribe
    generalize c.build handle plan = made at hbuilt ⊢
    obtain ⟨result, c₁⟩ := made
    cases result with
    | error e => rfl
    | ok sid =>
      have hstarted : (c₁.startSubscription (offerThrough bar) sid).2.reactions = [] :=
        (course_startSubscription (p := .all) (sends_transportAt bar 0) (suits_all c₁)
          sid).flow.reactions.trans hbuilt
      simp only [Direct.startSubscription (.own (c := c₁) hbuilt) sid]
      generalize c₁.startSubscription (offerThrough bar) sid = started at hstarted ⊢
      obtain ⟨result, c₂⟩ := started
      cases result with
      | ok => rfl
      | error e =>
        have hclosed : c₂.closeSubscription (gated bar) sid =
            c₂.closeSubscription (offerThrough bar) sid :=
          closeSubscription_congr fun o => gated_of_still (c := c₂.invalidate sid) hstarted bar o
        simp only [hclosed]

/-! ## A subscription that is made and given up again -/

/-- Nothing was changed but one subscription, and its place in the table. -/
structure Touches (sid : Sid) (c c' : Connection) : Prop where
  others : ∀ other, other ≠ sid → c'.subscription? other = c.subscription? other
  table : c'.table.filter (· != sid) = c.table.filter (· != sid)
  registry : c'.registry = c.registry
  issued : c'.issuedSids = c.issuedSids
  sids : c'.subscriptions.map (·.sid) = c.subscriptions.map (·.sid)
  /-- A channel that takes no frame stays as it is. -/
  accepted : (∀ o, ∃ e, c.outbound.send o = .error e) →
    c'.accepted = c.accepted ∧ c'.outbound = c.outbound

theorem Touches.trans (h : Touches sid c c') (h' : Touches sid c' c'') : Touches sid c c'' where
  others other ho := (h'.others other ho).trans (h.others other ho)
  table := h'.table.trans h.table
  registry := h'.registry.trans h.registry
  issued := h'.issued.trans h.issued
  sids := h'.sids.trans h.sids
  accepted hfull := by
    obtain ⟨haccepted, houtbound⟩ := h.accepted hfull
    obtain ⟨haccepted', houtbound'⟩ := h'.accepted (houtbound ▸ hfull)
    exact ⟨haccepted'.trans haccepted, houtbound'.trans houtbound⟩

theorem Touches.refl (sid : Sid) (c : Connection) : Touches sid c c :=
  ⟨fun _ _ => rfl, rfl, rfl, rfl, rfl, fun _ => ⟨rfl, rfl⟩⟩

theorem touches_modify (c : Connection) {f : Subscription → Subscription}
    (hf : ∀ s, s.sid = sid → (f s).sid = sid) : Touches sid c (c.modifySubscription sid f) where
  others other ho := by rw [subscription?_modifySubscription c sid hf, if_neg ho]
  table := rfl
  registry := rfl
  issued := rfl
  sids := sids_modifySubscription c sid hf
  accepted _ := ⟨rfl, rfl⟩

theorem touches_enable (c : Connection) (sid : Sid) : Touches sid c (c.enable sid).2 := by
  obtain ⟨f, hf, -, heq⟩ := c.enable_eq sid
  rw [heq]
  exact touches_modify c hf

theorem touches_disable (c : Connection) (sid : Sid) : Touches sid c (c.disable sid).2 := by
  obtain ⟨f, hf, -, heq⟩ := c.disable_eq sid
  rw [heq]
  exact touches_modify c hf

theorem touches_invalidate (c : Connection) (sid : Sid) : Touches sid c (c.invalidate sid) := by
  have hmodified : Touches sid c (c.modifySubscription sid fun s =>
      { s with valid := false, attached := false }) := touches_modify c fun _ hs => hs
  exact { hmodified with table := by simp [invalidate, List.filter_filter] }

theorem touches_send (ht : t.Plain) (o : Outgoing) (c : Connection) : Touches sid c (t o c).2 := by
  rcases ht o c with ⟨e, heq⟩ | ⟨outbound, hsend, heq⟩
  · rw [heq]
    exact ⟨fun _ _ => rfl, rfl, rfl, rfl, rfl, fun _ => ⟨accepted_offered_error c o e _, rfl⟩⟩
  · rw [heq]
    refine ⟨fun _ _ => rfl, rfl, rfl, rfl, rfl, fun hfull => ?_⟩
    obtain ⟨e, he⟩ := hfull o
    rw [hsend] at he
    cases he

theorem touches_closeSubscription (ht : t.Plain) (c : Connection) (sid : Sid) :
    Touches sid c (c.closeSubscription t sid) := by
  refine Touches.trans ?_ (touches_disable _ sid)
  unfold teardown
  split
  · exact .refl sid c
  · split
    · exact .refl sid c
    · split
      · exact (touches_invalidate c sid).trans (touches_send ht _ _)
      · exact touches_invalidate c sid

theorem touches_of_failed (ht : t.Plain) {e : TransportError}
    (h : c.startSubscription t sid = (.error (.transport e), c')) : Touches sid c c' := by
  obtain ⟨s, -, -, -, -, rfl⟩ := startSubscription_of_error ht h
  have hrefused : Touches sid (c.enable sid).2 ((c.enable sid).2.offered
      { frame := .subscribe sid s.subject s.queueGroup } (.error e) (c.enable sid).2.outbound) :=
    ⟨fun _ _ => rfl, rfl, rfl, rfl, rfl, fun _ => ⟨accepted_offered_error _ _ e _, rfl⟩⟩
  exact ((touches_enable c sid).trans hrefused).trans (touches_disable _ sid)

/-- Whether a channel takes a frame does not depend on the frame. -/
theorem send_error_all {o : Outgoing} {e : TransportError} (h : c.outbound.send o = .error e)
    (o' : Outgoing) : ∃ e', c.outbound.send o' = .error e' := by
  unfold Outbound.send at h ⊢
  split at h
  · exact ⟨_, if_pos ‹_›⟩
  · next hopen =>
    rw [if_neg hopen]
    split at h
    · exact ⟨_, if_pos ‹_›⟩
    · cases h

theorem error_of_clear {o : Outgoing} {e : TransportError}
    (h : (offerThrough .clear o c).1 = .error e) : c.outbound.send o = .error e := by
  have hoffered : (c.offer o).1 = .error e := h
  unfold offer at hoffered
  split at hoffered
  · cases hoffered
  · next e' hsend =>
    obtain rfl : e' = e := Except.error.inj hoffered
    exact hsend

/-- A valid subscription that can send fails to start only because its announcement is rejected. -/
theorem transport_of_error {e : SubscriptionError} (hs : c.subscription? sid = some s)
    (hvalid : s.valid = true) (hattached : s.attached = true)
    (h : c.startSubscription t sid = (.error e, c')) : ∃ e', e = .transport e' := by
  have hfound := subscription?_enable hs
  have hattached' := (s.enable_keeps c.isStopping).2.2.1.trans hattached
  simp only [startSubscription, hs, hvalid, Bool.not_true, Bool.false_eq_true, if_false] at h
  generalize c.enable sid = made at h hfound
  obtain ⟨started, c₁⟩ := made
  cases started with
  | false => cases h
  | true =>
    simp only [sendFor, hfound, hattached', if_true] at h
    generalize t { frame := .subscribe sid s.subject s.queueGroup } c₁ = sent at h
    obtain ⟨verdict, c₂⟩ := sent
    cases verdict with
    | ok => cases h
    | error e' =>
      cases h
      exact ⟨e', rfl⟩

/-- A subscription is registered or refused before it is started. -/
theorem build_ne_subscription {handle : Nat} {plan : SubscriptionPlan} {e : SubscriptionError} :
    c.build handle plan ≠ (.error (.subscription e), c') := by
  intro h
  unfold build at h
  split at h
  · cases h
  · split at h
    · cases h
    · split at h <;> cases h

theorem trim_build (hc : c.Trim) (handle : Nat) (plan : SubscriptionPlan) :
    (c.build handle plan).2.Trim where
  sound := hc.sound.build handle plan
  sids := (course_build (p := .all) c handle plan).flow.sids hc.sids

/-- A subscription that is closed after its start failed is taken out of the table. -/
theorem table_of_failed (ht : t.Plain) (hc : c.Trim) {e : TransportError}
    (h : c.startSubscription t sid = (.error (.transport e), c')) (hattached : s.attached = true)
    (hs : c.subscription? sid = some s) :
    (c'.closeSubscription t sid).table = c.table.filter (· != sid) := by
  obtain ⟨s₀, hs₀, hvalid, hs'⟩ := subscription?_of_failed ht h
  rw [hs] at hs₀
  obtain rfl := Option.some.inj hs₀
  obtain ⟨-, hvalid₁, hattached₁, -⟩ := s.enable_keeps c.isStopping
  obtain ⟨-, hvalid₂, hattached₂, -⟩ := (s.enable c.isStopping).2.disable_keeps
  have hnodup : (c'.subscriptions.map (·.sid)).Nodup := (touches_of_failed ht h).sids ▸ hc.nodup
  obtain ⟨verdict, outbound, hclosed⟩ := closeSubscription_of_live ht hnodup hs'
    (by rw [hvalid₂, hvalid₁, hvalid]) (by rw [hattached₂, hattached₁, hattached])
  rw [hclosed, ← (touches_of_failed ht h).table]
  show c'.table.filter (· ∉ [sid]) = c'.table.filter (· != sid)
  refine List.filter_congr fun other _ => ?_
  by_cases ho : other = sid <;> simp [ho]

/-- The channel that rejected an announcement rejects what comes after it. -/
theorem accepted_of_failed {e : TransportError} (htouches : Touches sid (c.register s) c'')
    (h : (c.register s).startSubscription (offerThrough .clear) sid = (.error (.transport e), c')) :
    c''.accepted = c.accepted ∧ c''.outbound = c.outbound := by
  obtain ⟨s₁, -, -, -, hrejected, -⟩ := startSubscription_of_error (plain_offerThrough .clear) h
  have hsame : ((c.register s).enable sid).2.outbound = (c.register s).outbound := by
    obtain ⟨f, -, -, heq⟩ := (c.register s).enable_eq sid
    rw [heq]
    rfl
  have hfull := send_error_all (c := c.register s) (hsame ▸ error_of_clear hrejected)
  obtain ⟨haccepted, houtbound⟩ := htouches.accepted hfull
  have hregistered : (c.register s).accepted = c.accepted :=
    congrArg acceptedOf ((traffic_log _ _).trans (List.append_nil _))
  exact ⟨haccepted.trans hregistered, houtbound⟩

/-- All that is left of a subscription that could not be announced is its number. -/
theorem unmade_of_failed (hc : c.Trim) (h : c.Direct bar t) {handle : Nat}
    {plan : SubscriptionPlan} {e : SubscriptionError}
    (hfail : c.subscribe t handle plan = (.error (.subscription e), c')) : Unmade bar c c' := by
  have ht : Transport.Plain (offerThrough bar) := plain_offerThrough bar
  rw [h.subscribe] at hfail
  have hbuilt := trim_build hc handle plan
  unfold Connection.subscribe at hfail
  split at hfail
  · next e' c₁ hbuild =>
    cases hfail
    exact absurd hbuild build_ne_subscription
  · next sid c₁ hbuild =>
    rw [hbuild] at hbuilt
    obtain ⟨-, hsid, s, rfl, hnew, rfl, -⟩ := build_of_ok hbuild
    have hblank := hc.sound.blank s.sid
      (hc.sound.fresh s.sid (hsid ▸ Nat.lt_succ_self c.issuedSids))
    have hs := subscription?_of_record? (record?_register hblank)
    have htable : (c.table ++ [s.sid]).filter (· != s.sid) = c.table := by
      have hnot : s.sid ∉ c.table := by simpa [List.contains_eq_mem] using hblank.table
      have hkept : c.table.filter (· != s.sid) = c.table :=
        List.filter_eq_self.2 fun other ho => by
          simpa using fun heq : other = s.sid => hnot (heq ▸ ho)
      rw [List.filter_append, hkept]
      simp
    split at hfail
    · cases hfail
    · next e' c₂ hstart =>
      cases hfail
      obtain ⟨e', rfl⟩ := transport_of_error hs hnew.valid hnew.attached hstart
      have htouches := (touches_of_failed ht hstart).trans (touches_closeSubscription ht c₂ s.sid)
      exact {
        table := (table_of_failed ht hbuilt hstart hnew.attached hs).trans htable
        others := fun other ho =>
          (htouches.others other (hsid ▸ ho)).trans (sameAt_register c s (hsid ▸ ho)).subscription?
        registry := htouches.registry
        issued := htouches.issued.trans hsid
        accepted := by
          rintro rfl
          exact accepted_of_failed htouches hstart }

end PubSub.Connection
