import PubSub.Proofs.Connection.Closed

/-!
# Control frames of a subscription

A subscription is announced when it is started and withdrawn when it ends. What is offered about it
over a stretch of time is told by where it stands before and after (`Stretch`), and stretches can be
put together. Every course is such a stretch, provided that the worker of the subscription is not
stopped while it is valid, for whatever is started again is announced again.

While a frame is on its way the transport may end the subscription that it is about; the withdrawal
is then offered first. If the transport never does so, nothing about a subscription follows its
withdrawal.

## Main definitions

- `Stretch` — what may be offered about a subscription over a stretch of time
- `Connection.Governed` — what is offered is such a stretch

## Main results

- `Stretch.append` — two stretches, one after the other
- `Connection.Course.governed` — whatever is done to a connection
-/

namespace PubSub

/-- A frame announces a subscription. -/
def Frame.subscribes (sid : Sid) : Frame → Bool
  | .subscribe other _ _ => other == sid
  | _ => false

/-- How often the withdrawal of a subscription is among some frames. -/
def withdrawals (sid : Sid) (l : List (Frame × Except TransportError Unit)) : Nat :=
  l.countP fun offer => offer.1 == .unsubscribe sid none

/-- How often the announcement of a subscription is accepted among some frames. -/
def announcements (sid : Sid) (l : List (Frame × Except TransportError Unit)) : Nat :=
  (Connection.acceptedOf l).countP (Frame.subscribes sid)

/-- What may be offered about a subscription over a stretch of time, given what was permitted, and
whether it had ended and whether it had been started or ended, before and after. -/
structure Stretch (p : Permit) (sid : Sid) (ended ended' engaged engaged' : Bool)
    (new : List (Frame × Except TransportError Unit)) : Prop where
  /-- It is withdrawn when it ends. -/
  withdrawn : withdrawals sid new + ended.toNat = ended'.toNat
  /-- It is announced when it is started. -/
  announced : ¬p.stops sid → announcements sid new + engaged.toNat ≤ engaged'.toNat
  silent : ended = true → ∀ offer ∈ new, offer.1.sid? ≠ some sid
  order : ¬p.reenters →
    new.Pairwise fun x y => x.1 = .unsubscribe sid none → y.1.sid? ≠ some sid

/-! ## Counting -/

variable {sid : Sid} {f : Frame} {verdict : Except TransportError Unit}
variable {l l' : List (Frame × Except TransportError Unit)}

theorem withdrawals_append (sid : Sid) (l l' : List (Frame × Except TransportError Unit)) :
    withdrawals sid (l ++ l') = withdrawals sid l + withdrawals sid l' := List.countP_append

theorem announcements_append (sid : Sid) (l l' : List (Frame × Except TransportError Unit)) :
    announcements sid (l ++ l') = announcements sid l + announcements sid l' := by
  unfold announcements
  rw [Connection.acceptedOf_append, List.countP_append]

theorem withdrawals_singleton (sid : Sid) (f : Frame) (verdict : Except TransportError Unit) :
    withdrawals sid [(f, verdict)] = (f == .unsubscribe sid none).toNat := by
  unfold withdrawals
  rw [List.countP_singleton]
  cases f == .unsubscribe sid none <;> rfl

theorem announcements_of_not_subscribes (h : f.subscribes sid = false)
    (verdict : Except TransportError Unit) : announcements sid [(f, verdict)] = 0 := by
  unfold announcements
  cases verdict with
  | ok =>
    show [f].countP (Frame.subscribes sid) = 0
    rw [List.countP_singleton, h]
    rfl
  | error => rfl

/-- Not every withdrawal that is offered is accepted. -/
theorem count_acceptedOf_le (sid : Sid) (l : List (Frame × Except TransportError Unit)) :
    (Connection.acceptedOf l).count (.unsubscribe sid none) ≤ withdrawals sid l := by
  unfold Connection.acceptedOf withdrawals List.count
  rw [List.countP_filterMap]
  refine List.countP_mono_left fun offer _ h => ?_
  obtain ⟨f, verdict⟩ := offer
  cases verdict with
  | ok => exact h
  | error => cases h

theorem subscribes_eq_false (h : f.sid? ≠ some sid) : f.subscribes sid = false := by
  cases f with
  | subscribe other => exact beq_eq_false_iff_ne.2 fun heq => h (congrArg some heq)
  | unsubscribe | publish => rfl

/-! ## Stretches -/

namespace Stretch

variable {p : Permit} {ended ended' ended'' engaged engaged' engaged'' : Bool}

theorem nil (h : ¬p.stops sid → engaged = true → engaged' = true) :
    Stretch p sid ended ended engaged engaged' [] where
  withdrawn := Nat.zero_add _
  announced hstop := by
    cases engaged with
    | false => exact Nat.zero_le _
    | true => rw [h hstop rfl]; exact Nat.le_refl _
  silent _ _ h := absurd h List.not_mem_nil
  order _ := .nil

/-- When it was withdrawn, or had ended before, it has ended. -/
theorem ended_eq_true (h : Stretch p sid ended ended' engaged engaged' l)
    (hpos : 0 < withdrawals sid l + ended.toNat) : ended' = true := by
  have hsum := h.withdrawn
  cases ended' with
  | true => rfl
  | false =>
    rw [Bool.toNat_false] at hsum
    omega

theorem append (h : Stretch p sid ended ended' engaged engaged' l)
    (h' : Stretch p sid ended' ended'' engaged' engaged'' l') :
    Stretch p sid ended ended'' engaged engaged'' (l ++ l') where
  withdrawn := by
    rw [withdrawals_append]
    have h₁ := h.withdrawn
    have h₂ := h'.withdrawn
    omega
  announced hstop := by
    rw [announcements_append]
    have h₁ := h.announced hstop
    have h₂ := h'.announced hstop
    omega
  silent hended offer ho := by
    have hended' : ended' = true := h.ended_eq_true (by rw [hended]; exact Nat.succ_pos _)
    exact (List.mem_append.1 ho).elim (h.silent hended offer) (h'.silent hended' offer)
  order hr := by
    refine List.pairwise_append.2 ⟨h.order hr, h'.order hr, fun x hx y hy hwithdraw => ?_⟩
    -- when it was withdrawn it had ended, and what came later is silent about it
    have hpos : 0 < withdrawals sid l := List.countP_pos_iff.2 ⟨x, hx, beq_iff_eq.2 hwithdraw⟩
    exact h'.silent (h.ended_eq_true (Nat.add_pos_left hpos _)) y hy

/-- A frame about something else. -/
theorem aside (h : f.sid? ≠ some sid) (verdict : Except TransportError Unit) :
    Stretch p sid ended ended engaged engaged [(f, verdict)] where
  withdrawn := by
    have hne : (f == .unsubscribe sid none) = false :=
      beq_eq_false_iff_ne.2 fun heq => h (congrArg Frame.sid? heq)
    rw [withdrawals_singleton, hne]
    exact Nat.zero_add _
  announced _ := by
    rw [announcements_of_not_subscribes (subscribes_eq_false h)]
    exact Nat.le_of_eq (Nat.zero_add _)
  silent _ offer ho := by
    rw [List.mem_singleton.1 ho]
    exact h
  order _ := List.pairwise_singleton _ _

/-- The server is told the ceiling of a subscription that had not ended. -/
theorem tell (h : Stretch p sid false ended' engaged engaged' l) (hl : ¬p.reenters → l = [])
    (max : Nat) (verdict : Except TransportError Unit) :
    Stretch p sid false ended' engaged engaged'
      (l ++ [(.unsubscribe sid (some max), verdict)]) where
  withdrawn := by
    rw [withdrawals_append, withdrawals_singleton, beq_eq_false_iff_ne.2 (by simp)]
    exact h.withdrawn
  announced hstop := by
    rw [announcements_append, announcements_of_not_subscribes rfl]
    exact h.announced hstop
  silent hended := by cases hended
  order hr := by
    rw [hl hr]
    exact List.pairwise_singleton _ _

/-- The withdrawal of a subscription that had ended just before. -/
theorem withdraw (h : Stretch p sid true ended' true engaged' l)
    (verdict : Except TransportError Unit) :
    Stretch p sid false ended' engaged engaged' (l ++ [(.unsubscribe sid none, verdict)]) where
  withdrawn := by
    rw [withdrawals_append, withdrawals_singleton, beq_self_eq_true]
    exact h.withdrawn
  announced hstop := by
    rw [announcements_append, announcements_of_not_subscribes rfl]
    have h₁ := h.announced hstop
    have h₂ := engaged.toNat_le
    rw [Bool.toNat_true] at h₁
    omega
  silent hended := by cases hended
  order hr := by
    refine List.pairwise_append.2 ⟨h.order hr, List.pairwise_singleton _ _, fun x hx _ _ heq => ?_⟩
    -- it had ended, so it was not withdrawn before
    have hsilent := h.silent rfl x hx
    rw [heq] at hsilent
    exact absurd rfl hsilent

/-- The announcement of a subscription that had been started just before; when it is rejected the
subscription need not go on. -/
theorem start (h : Stretch p sid false ended' true engaged' l) {subject : String}
    {queueGroup : Option String} (hl : ¬p.reenters → l = [])
    (hengaged : verdict = .ok () → engaged'' = engaged') :
    Stretch p sid false ended' false engaged''
      (l ++ [(.subscribe sid subject queueGroup, verdict)]) where
  withdrawn := by
    rw [withdrawals_append, withdrawals_singleton, beq_eq_false_iff_ne.2 (by simp)]
    exact h.withdrawn
  announced hstop := by
    rw [announcements_append]
    have h₁ := h.announced hstop
    have h₂ := engaged'.toNat_le
    rw [Bool.toNat_true] at h₁
    rw [Bool.toNat_false, Nat.add_zero]
    cases verdict with
    | ok =>
      have hone : announcements sid [(.subscribe sid subject queueGroup, .ok ())] = 1 := by
        show [Frame.subscribe sid subject queueGroup].countP (Frame.subscribes sid) = 1
        rw [List.countP_singleton]
        exact if_pos (beq_self_eq_true sid)
      rw [hone, hengaged rfl]
      exact h₁
    | error e =>
      have hzero : announcements sid [(.subscribe sid subject queueGroup, .error e)] = 0 := rfl
      rw [hzero]
      omega
  silent hended := by cases hended
  order hr := by
    rw [hl hr]
    exact List.pairwise_singleton _ _

end Stretch

namespace Connection

/-- A subscription exists and is not valid. -/
def hasEnded (c : Connection) (sid : Sid) : Bool := (c.subscription? sid).any fun s => !s.valid

/-- A subscription was started and its worker goes on, or it has ended. -/
def isEngaged (c : Connection) (sid : Sid) : Bool :=
  (c.subscription? sid).any fun s => s.isStarted || !s.valid

/-- What is offered about a subscription is as it may be. -/
def Governed (p : Permit) (sid : Sid) (c c' : Connection) : Prop :=
  ∃ new, c'.traffic = c.traffic ++ new ∧ Stretch p sid (c.hasEnded sid) (c'.hasEnded sid)
    (c.isEngaged sid) (c'.isEngaged sid) new

variable {p : Permit} {c c' c'' : Connection} {s : Subscription}

theorem hasEnded_of_subscription? (hs : c.subscription? sid = some s) :
    c.hasEnded sid = !s.valid := by
  rw [hasEnded, hs]
  rfl

theorem isEngaged_of_subscription? (hs : c.subscription? sid = some s) :
    c.isEngaged sid = (s.isStarted || !s.valid) := by
  rw [isEngaged, hs]
  rfl

namespace Governed

theorem trans (h : Governed p sid c c') (h' : Governed p sid c' c'') : Governed p sid c c'' := by
  obtain ⟨new, hnew, hstretch⟩ := h
  obtain ⟨new', hnew', hstretch'⟩ := h'
  exact ⟨new ++ new', by rw [hnew', hnew, List.append_assoc], hstretch.append hstretch'⟩

/-- No frame is offered, and the subscription neither ends nor is its worker stopped. -/
theorem of_kept (ht : c'.traffic = c.traffic)
    (hnone : c.subscription? sid = none → c'.hasEnded sid = false)
    (hsome : ∀ s, c.subscription? sid = some s → ∃ s', c'.subscription? sid = some s' ∧
      s'.valid = s.valid ∧ (¬p.stops sid → s.valid = true → s.isStarted = true →
        s'.isStarted = true)) : Governed p sid c c' := by
  refine ⟨[], by rw [ht, List.append_nil], ?_⟩
  cases hs : c.subscription? sid with
  | none =>
    have hended : c.hasEnded sid = false := by
      rw [hasEnded, hs]
      rfl
    have hidle : c.isEngaged sid = false := by
      rw [isEngaged, hs]
      rfl
    rw [hnone hs, hended, hidle]
    exact .nil fun _ => nofun
  | some s =>
    obtain ⟨s', hs', hvalid, hstarted⟩ := hsome s hs
    rw [hasEnded_of_subscription? hs, hasEnded_of_subscription? hs', hvalid]
    refine .nil fun hstop hengaged => ?_
    rw [isEngaged_of_subscription? hs] at hengaged
    rw [isEngaged_of_subscription? hs', hvalid]
    cases hv : s.valid with
    | false => simp
    | true =>
      rw [hv] at hengaged
      simp [hstarted hstop hv (by simpa using hengaged)]

theorem of_eq (ht : c'.traffic = c.traffic) (hs : c'.subscriptions = c.subscriptions) :
    Governed p sid c c' := by
  have hsame : c'.subscription? sid = c.subscription? sid := by
    rw [subscription?, hs]
    rfl
  refine of_kept ht (fun hnone => ?_) fun s hs => ⟨s, hsame.trans hs, rfl, fun _ _ h => h⟩
  rw [hasEnded, hsame, hnone]
  rfl

theorem refl (c : Connection) : Governed p sid c c := of_eq rfl rfl

/-- One subscription is changed. -/
theorem modify {other : Sid} {f : Subscription → Subscription}
    (hf : ∀ s, s.sid = other → (f s).sid = other)
    (h : other = sid → ∀ s, c.subscription? sid = some s → (f s).valid = s.valid ∧
      (¬p.stops sid → s.valid = true → s.isStarted = true → (f s).isStarted = true)) :
    Governed p sid c (c.modifySubscription other f) := by
  refine of_kept rfl (fun hnone => ?_) fun s hs => ?_
  · rw [hasEnded, (subscription?_modifySubscription_eq_none hf).2 hnone]
    rfl
  · rw [subscription?_modifySubscription c other hf]
    split
    · next ho =>
      subst ho
      obtain ⟨hvalid, hstarted⟩ := h rfl s hs
      exact ⟨f s, by rw [hs, Option.map_some], hvalid, hstarted⟩
    · exact ⟨s, hs, rfl, fun _ _ h => h⟩

theorem log (c : Connection) {e : Event} (h : e.offer? = none) : Governed p sid c (c.log e) :=
  of_eq (by rw [traffic_log, h]; exact List.append_nil _) rfl

/-- A frame about something else. -/
theorem offered (c : Connection) {o : Outgoing} (h : o.frame.sid? ≠ some sid)
    (verdict : Except TransportError Unit) (outbound : Outbound Outgoing) :
    Governed p sid c (c.offered o verdict outbound) :=
  ⟨_, traffic_offered c o verdict outbound, .aside h verdict⟩

theorem disable_other (c : Connection) {other : Sid} (h : other ≠ sid) :
    Governed p sid c (c.disable other).2 := by
  obtain ⟨f, hf, -, heq⟩ := c.disable_eq other
  rw [heq]
  exact modify hf fun ho => absurd ho h

theorem enable_other (c : Connection) {other : Sid} (h : other ≠ sid) :
    Governed p sid c (c.enable other).2 := by
  obtain ⟨f, hf, -, heq⟩ := c.enable_eq other
  rw [heq]
  exact modify hf fun ho => absurd ho h

end Governed

/-! ## Courses -/

theorem traffic_enable (c : Connection) (sid : Sid) : (c.enable sid).2.traffic = c.traffic := by
  obtain ⟨f, -, -, heq⟩ := c.enable_eq sid
  rw [heq]
  rfl

theorem traffic_announcedFor (c : Connection) (sid : Sid)
    (verdict : Except TransportError Unit) : (c.announcedFor sid verdict).traffic = c.traffic := by
  cases verdict with
  | ok => rfl
  | error =>
    show (c.disable sid).2.traffic = c.traffic
    obtain ⟨f, -, -, heq⟩ := c.disable_eq sid
    rw [heq]
    rfl

theorem hasEnded_announcedFor (c : Connection) (sid : Sid)
    (verdict : Except TransportError Unit) :
    (c.announcedFor sid verdict).hasEnded sid = c.hasEnded sid := by
  cases verdict with
  | ok => rfl
  | error =>
    show (c.disable sid).2.hasEnded sid = c.hasEnded sid
    cases hs : c.subscription? sid with
    | none => rw [disable_of_absent hs]
    | some s =>
      rw [hasEnded_of_subscription? (subscription?_disable hs), hasEnded_of_subscription? hs,
        s.disable_keeps.2.1]

theorem isStarted_enable (h : s.isStarted = false) : (s.enable false).2.isStarted = true := by
  unfold Subscription.enable
  rw [h]
  simp [Subscription.isStarted]

theorem Governed.announcedFor_other (c : Connection) {other : Sid} (h : other ≠ sid)
    (verdict : Except TransportError Unit) : Governed p sid c (c.announcedFor other verdict) := by
  cases verdict with
  | ok => exact refl c
  | error => exact disable_other c h

/-- A subscription ends, and the server is told. -/
theorem governed_withdraw (hs : c.subscription? sid = some s) (hvalid : s.valid = true)
    (h : Governed p sid (c.invalidate sid) c') (verdict : Except TransportError Unit)
    (outbound : Outbound Outgoing) :
    Governed p sid c (c'.offered { frame := .unsubscribe sid none } verdict outbound) := by
  have hs' : (c.invalidate sid).subscription? sid =
      some { s with valid := false, attached := false } := by
    show (c.modifySubscription sid fun s =>
      { s with valid := false, attached := false }).subscription? sid = _
    rw [subscription?_modifySubscription c sid
      (f := fun s => { s with valid := false, attached := false }) fun _ h => h, if_pos rfl, hs]
    rfl
  obtain ⟨new, hnew, hstretch⟩ := h
  rw [hasEnded_of_subscription? hs', isEngaged_of_subscription? hs', Bool.not_false,
    Bool.or_true] at hstretch
  refine ⟨new ++ [(.unsubscribe sid none, verdict)], ?_, ?_⟩
  · rw [traffic_offered, hnew, List.append_assoc]
    rfl
  · rw [hasEnded_of_subscription? hs, hvalid]
    exact hstretch.withdraw verdict

/-- A subscription is started while workers run, and announced. -/
theorem governed_start (hs : c.subscription? sid = some s) (hvalid : s.valid = true)
    (hidle : s.isStarted = false) (hrun : c.isStopping = false)
    (h : Governed p sid (c.enable sid).2 c') (hquiet : p.reenters ∨ (c.enable sid).2.Quiet c')
    (verdict : Except TransportError Unit) (outbound : Outbound Outgoing) :
    Governed p sid c ((c'.offered { frame := .subscribe sid s.subject s.queueGroup } verdict
      outbound).announcedFor sid verdict) := by
  have hs' := subscription?_enable hs
  obtain ⟨new, hnew, hstretch⟩ := h
  rw [hasEnded_of_subscription? hs', isEngaged_of_subscription? hs', hrun, isStarted_enable hidle,
    (s.enable_keeps false).2.1, hvalid, Bool.true_or] at hstretch
  have hnone : ¬p.reenters → new = [] := fun hr =>
    List.append_right_eq_self.1 (hnew.symm.trans (hquiet.resolve_left hr).traffic)
  refine ⟨new ++ [(.subscribe sid s.subject s.queueGroup, verdict)], ?_, ?_⟩
  · rw [traffic_announcedFor, traffic_offered, hnew, traffic_enable, List.append_assoc]
  · rw [hasEnded_announcedFor, hasEnded_of_subscription? hs, isEngaged_of_subscription? hs, hvalid,
      hidle]
    exact hstretch.start hnone fun hok => by rw [hok]; rfl

/-- Other subscriptions that end are none of the subscription's business. -/
theorem Governed.invalidate_other (c : Connection) {other : Sid} (h : other ≠ sid) :
    Governed p sid c (c.invalidate other) := by
  have hmodify : Governed p sid c (c.modifySubscription other fun s =>
      { s with valid := false, attached := false }) :=
    modify (fun _ h => h) fun heq => absurd heq h
  exact hmodify.trans (of_eq rfl rfl)

theorem Governed.register (c : Connection) {s : Subscription} (hnew : s.IsNew) :
    Governed p sid c (c.register s) := by
  refine of_kept ((traffic_log _ _).trans (List.append_nil _)) (fun hnone => ?_) fun s₀ hs₀ =>
    ⟨s₀, subscription?_register c s hs₀, rfl, fun _ _ hrun => hrun⟩
  show ((c.subscriptions ++ [s]).find? (·.sid == sid)).any _ = false
  have hnone' : c.subscriptions.find? (·.sid == sid) = none := hnone
  rw [List.find?_append, hnone', Option.none_or, List.find?_singleton]
  split
  · rw [Option.any_some, hnew.valid]
    rfl
  · rfl

/-- While workers are told to end nothing is valid any more. -/
theorem Governed.stopWorkers (c : Connection)
    (h : ∀ s, c.subscription? sid = some s → s.valid = false) :
    Governed p sid c c.stopWorkers := by
  refine of_kept rfl (fun hnone => ?_) fun s hs => ?_
  · rw [hasEnded, subscription?_stopWorkers, hnone]
    rfl
  · refine ⟨s.cancelWorkers, by rw [subscription?_stopWorkers, hs, Option.map_some], rfl, ?_⟩
    intro _ hvalid
    rw [h s hs] at hvalid
    cases hvalid

/-- A frame is sent while nothing else changes. -/
theorem governed_send {o : Outgoing} (h : c.Sendable p o.frame) (hsid : sid ≠ replySid)
    (hcourse : Governed p sid c c') (hquiet : p.reenters ∨ c.Quiet c')
    (verdict : Except TransportError Unit) (outbound : Outbound Outgoing) :
    Governed p sid c (c'.offered o verdict outbound) := by
  by_cases ho : o.frame.sid? = some sid
  · obtain ⟨new, hnew, hstretch⟩ := hcourse
    have hnone : ¬p.reenters → new = [] := fun hr =>
      List.append_right_eq_self.1 (hnew.symm.trans (hquiet.resolve_left hr).traffic)
    refine ⟨new ++ [(o.frame, verdict)], by rw [traffic_offered, hnew, List.append_assoc], ?_⟩
    cases hframe : o.frame with
    | publish =>
      rw [hframe] at ho
      cases ho
    | subscribe =>
      -- only the reply subjects are announced so
      rw [hframe] at h ho
      cases h with
      | announce => exact absurd (Option.some.inj ho).symm hsid
    | unsubscribe other max =>
      rw [hframe] at h ho
      obtain rfl : other = sid := Option.some.inj ho
      cases h with
      | tell hs hvalid max =>
        rw [hasEnded_of_subscription? hs, hvalid] at hstretch ⊢
        exact hstretch.tell hnone max verdict
  · exact hcourse.trans (.offered c' ho verdict outbound)

/-- Whatever is done to a connection. -/
theorem Course.governed (h : c.Course p c') (hsid : sid ≠ replySid)
    (hi : c.Intact) (hq : c.Quiescent) : Governed p sid c c' := by
  induction h with
  | refl c => exact .refl c
  | trans h _ ih ih' =>
    exact (ih hi hq).trans (ih' (h.flow.intact hi) (h.flow.quiescent hi hq))
  | @log c e h =>
    refine .log c ?_
    cases e with
    | offered => exact h.elim
    | _ => rfl
  | @tell c e h =>
    have hcount : Governed p sid c { c with counts := c.counts.told e } := .of_eq rfl rfl
    refine hcount.trans (.log _ ?_)
    cases e with
    | offered => exact h.elim
    | _ => rfl
  | refuse c _ hs hvalid hclosed m =>
    have hcount : Governed p sid c { c with counts := c.counts.dropped .queueClosed } :=
      .of_eq rfl rfl
    exact hcount.trans (.log _ rfl)
  | @shift c other f hf h hstarted =>
    refine .modify hf fun ho s hs => ?_
    subst ho
    have hkeeps : s.Keeps False (f s) := (h s hs).keeps
    exact ⟨hkeeps.valid not_false, fun hstop hvalid hrun =>
      (hstarted s hs hvalid hrun).resolve_right hstop⟩
  | limit c _ max =>
    exact .modify (f := fun s => { s with max := max }) (fun _ h => h) fun _ s _ =>
      ⟨rfl, fun _ _ hrun => hrun⟩
  | register c _ _ hnew => exact .register c hnew
  | send h _ hquiet verdict outbound ih =>
    exact governed_send h hsid (ih hi hq) hquiet verdict outbound
  | @withdraw c c' other s h hs hvalid _ _ verdict outbound ih =>
    have hinvalidate : c.Flow p.ends (c.invalidate other) := .invalidate c h
    have hcourse := ih (hinvalidate.intact hi) (hinvalidate.quiescent hi hq)
    by_cases ho : other = sid
    · subst ho
      exact governed_withdraw hs hvalid hcourse verdict outbound
    · have hne : ({ frame := .unsubscribe other none } : Outgoing).frame.sid? ≠ some sid :=
        fun heq => ho (Option.some.inj heq)
      exact ((Governed.invalidate_other c ho).trans hcourse).trans
        (.offered c' hne verdict outbound)
  | @start c c' other s hs hvalid hidle _ hquiet verdict outbound ih =>
    have henable : c.Flow p.ends (c.enable other).2 := flow_enable c other
    have hcourse := ih (henable.intact hi) (henable.quiescent hi hq)
    by_cases ho : other = sid
    · subst ho
      refine governed_start hs hvalid hidle ?_ hcourse hquiet verdict outbound
      -- the workers are told to end only when nothing is valid
      rw [← Bool.not_eq_true]
      intro hstopping
      rw [(hq hstopping).2 other s hs] at hvalid
      cases hvalid
    · have hne : ({ frame := .subscribe other s.subject s.queueGroup } : Outgoing).frame.sid? ≠
          some sid := fun heq => ho (Option.some.inj heq)
      exact ((Governed.enable_other c ho).trans hcourse).trans
        ((Governed.offered c' hne verdict outbound).trans (.announcedFor_other _ ho verdict))
  | detach c _ hs hvalid hdetached | startDetached c hs hvalid _ hdetached =>
    -- a valid subscription can send
    rw [(hi.sane _ _ hs).attached, hvalid] at hdetached
    cases hdetached
  | @close c c' h hcourse hends ih =>
    have hmark : Governed p sid c
        { c with closed := true, registry := c.registry.cancelAll.2 } := .of_eq rfl rfl
    have hended := ih (hi.of_eq rfl rfl rfl rfl) fun hstopping => by
      rw [(hq hstopping).1] at h
      cases h
    refine (hmark.trans hended).trans (.stopWorkers c' fun s hs => ?_)
    exact hcourse.flow.invalid_of_close hi rfl rfl hends hs
  | aside | consult | sweep | herald | enrol | forgo => exact .of_eq rfl rfl

end Connection

end PubSub
