import PubSub.Proofs.Connection.Part

/-!
# What operations make of a part of a connection

An operation on one subscription is no concern of the other parts (`alike_…`), and what it makes of the
part it concerns depends on that part alone (`Alike.…`). Frames are accepted throughout.

## Main results

- `Connection.Alike.performOver` — whatever is done from outside, short of a shutdown
- `Connection.alike_performOver_of_isFor` — what is addressed to a subscription outside the part
-/

namespace PubSub.Connection

variable {part : Part} {c d : Connection} {sid : Sid} {t : Transport}

/-! ## Inbound messages -/

theorem alike_drop (c : Connection) (m : Message) {reason : DropReason}
    (h : reason ≠ .noHandler ∨ part.holds sid = false) : c.Alike part (c.drop sid m reason) := by
  refine alike_log { c with counts := c.counts.dropped reason } ?_
  rcases h with hreason | hp
  · cases reason with
    | noHandler => exact absurd rfl hreason
    | _ => rfl
  · cases reason <;> simp [Part.hears, Event.about?, Event.sid?, hp]

theorem Alike.drop (h : c.Alike part d) (sid : Sid) (m : Message) (reason : DropReason) :
    (c.drop sid m reason).Alike part (d.drop sid m reason) :=
  Alike.log (c := { c with counts := c.counts.dropped reason })
    (d := { d with counts := d.counts.dropped reason }) h _

theorem alike_deliverTo (c : Connection) {s : Subscription} (hp : part.holds s.sid = false)
    (m : Message) : c.Alike part (c.deliverTo s m).2 := by
  unfold deliverTo
  split
  · exact alike_drop c m (Or.inr hp)
  · split
    · next s' hs' =>
      have hsid : s'.sid = s.sid := by
        obtain ⟨-, rfl⟩ := Subscription.enqueue_eq hs'
        rfl
      exact (alike_replace c hsid hp).trans
        (alike_log _ (by simp [Part.hears, Event.about?, Event.sid?, hp]))
    · exact alike_drop c m (Or.inr hp)

theorem Alike.deliverTo (h : c.Alike part d) {s s' : Subscription} (hs : s.seen = s'.seen)
    (m : Message) : (c.deliverTo s m).2.Alike part (d.deliverTo s' m).2 := by
  have henqueue := Subscription.seen_enqueue hs m
  have hvalid : s'.valid = s.valid := by rw [Subscription.eq_of_seen_eq hs]
  have hsid : s'.sid = s.sid := by rw [Subscription.eq_of_seen_eq hs]
  simp only [Connection.deliverTo, hvalid, hsid]
  split
  · exact h.drop _ _ _
  · cases he : s.enqueue m with
    | none =>
      cases he' : s'.enqueue m with
      | none => exact h.drop _ _ _
      | some s₁' => simp [he, he'] at henqueue
    | some s₁ =>
      cases he' : s'.enqueue m with
      | none => simp [he, he'] at henqueue
      | some s₁' =>
        rw [he, he'] at henqueue
        have hsid₁ : s₁.sid = s.sid := by
          obtain ⟨-, rfl⟩ := Subscription.enqueue_eq he
          rfl
        exact (h.replace (Option.some.inj henqueue) hsid₁).log _

/-- To a given subscription, live or not. -/
theorem alike_deliverToSid (c : Connection) (hp : part.holds sid = false) (m : Message) :
    c.Alike part (c.performOver t (.deliverTo sid m)) := by
  simp only [performOver]
  split
  · next s hs => exact alike_deliverTo c (sid_of_subscription? hs ▸ hp) m
  · exact .refl part c

theorem Alike.deliverToSid (h : c.Alike part d) (sid : Sid) (m : Message) :
    (c.performOver t (.deliverTo sid m)).Alike part (d.performOver t (.deliverTo sid m)) := by
  refine h.at sid (f := fun c => c.performOver t (.deliverTo sid m))
    (fun hp c => alike_deliverToSid c hp m) (fun c hc => ?_) fun hp s s' hc hd hs => ?_
  · simp only [Connection.performOver, hc]
    exact .refl part c
  · simp only [Connection.performOver, hc, hd]
    exact h.deliverTo hs m

theorem alike_deliver (c : Connection) (m : Message) (hp : part.holds sid = false) :
    c.Alike part (c.deliver sid m).2 := by
  unfold deliver
  split
  · next s hs =>
    have hsid : s.sid = sid := by
      unfold lookup at hs
      split at hs
      · exact sid_of_subscription? hs
      · cases hs
    exact alike_deliverTo c (hsid ▸ hp) m
  · exact alike_drop c m (Or.inr hp)

theorem Alike.deliver (h : c.Alike part d) (sid : Sid) (m : Message) :
    (c.deliver sid m).2.Alike part (d.deliver sid m).2 := by
  refine h.at sid (f := fun c => (c.deliver sid m).2) (fun hp c => alike_deliver c m hp)
    (fun c hc => ?_) fun hp s s' hc hd hs => ?_
  · have hlookup : c.lookup sid = none := by simp [lookup, hc]
    simp only [Connection.deliver, hlookup]
    exact alike_drop c m (Or.inl (by simp))
  · simp only [Connection.deliver, lookup, hc, hd, h.mem_table hp]
    by_cases hmem : sid ∈ d.table
    · simp only [hmem, if_true]
      exact h.deliverTo hs m
    · simp only [hmem, if_false]
      exact h.drop sid m .noSubscription

theorem Alike.processInbound (h : c.Alike part d) (m : Message) :
    (c.processInbound m).2.Alike part (d.processInbound m).2 := by
  simp only [Connection.processInbound, h.inbox]
  split
  · exact h.onRegistry fun reg => (reg.resolveReply m.subject m).2
  · exact h.deliver m.sid m

/-! ## Workers, and the ends of a subscription -/

theorem alike_enable (c : Connection) (hp : part.holds sid = false) :
    c.Alike part (c.enable sid).2 := by
  unfold enable
  split
  · exact .refl part c
  · next s hs =>
    refine alike_elsewhere c (fun _ _ => ?_) hp
    exact (s.enable_keeps c.isStopping).1.trans (sid_of_subscription? hs)

theorem Alike.enable (h : c.Alike part d) (sid : Sid) :
    (c.enable sid).2.Alike part (d.enable sid).2 := by
  refine h.at sid (f := fun c => (c.enable sid).2) (fun hp c => alike_enable c hp)
    (fun c hc => ?_) fun hp s s' hc hd hs => ?_
  · simp only [Connection.enable, hc]
    exact .refl part c
  · simp only [Connection.enable, hc, hd, h.isStopping]
    refine h.replace (Subscription.seen_enable hs _).2 ?_
    exact (s.enable_keeps d.isStopping).1.trans (sid_of_subscription? hc)

theorem alike_disable (c : Connection) (hp : part.holds sid = false) :
    c.Alike part (c.disable sid).2 := by
  unfold disable
  split
  · exact .refl part c
  · next s hs =>
    exact alike_elsewhere c (fun _ _ => s.disable_keeps.1.trans (sid_of_subscription? hs)) hp

theorem Alike.disable (h : c.Alike part d) (sid : Sid) :
    (c.disable sid).2.Alike part (d.disable sid).2 := by
  refine h.at sid (f := fun c => (c.disable sid).2) (fun hp c => alike_disable c hp)
    (fun c hc => ?_) fun hp s s' hc hd hs => ?_
  · simp only [Connection.disable, hc]
    exact .refl part c
  · simp only [Connection.disable, hc, hd]
    exact h.replace (Subscription.seen_disable hs).2
      (s.disable_keeps.1.trans (sid_of_subscription? hc))

theorem alike_sendFor (ht : t.Accepts) (c : Connection) (frame : Frame)
    (hframe : frame.sid? = some sid) (hp : part.holds sid = false) :
    c.Alike part (c.sendFor t sid frame).2 := by
  unfold sendFor
  split
  · exact .refl part c
  · split
    · exact alike_send ht c (by simp [hframe, hp])
    · exact .refl part c

theorem Alike.sendFor (ht : t.Accepts) (h : c.Alike part d) (sid : Sid) (frame : Frame)
    (hframe : frame.sid? = some sid) :
    (c.sendFor t sid frame).2.Alike part (d.sendFor t sid frame).2 := by
  refine h.at sid (f := fun c => (c.sendFor t sid frame).2) (fun hp c => alike_sendFor ht c frame hframe hp)
    (fun c hc => ?_) fun hp s s' hc hd hs => ?_
  · simp only [Connection.sendFor, hc]
    exact .refl part c
  · have hattached : s'.attached = s.attached := by rw [Subscription.eq_of_seen_eq hs]
    simp only [Connection.sendFor, hc, hd, hattached]
    split
    · exact h.send ht _
    · exact h

theorem alike_invalidate (c : Connection) (hp : part.holds sid = false) :
    c.Alike part (c.invalidate sid) := by
  have hmodified := alike_elsewhere c
    (f := fun s => { s with valid := false, attached := false }) (fun _ hs => hs) hp
  have htable : (c.table.filter (· != sid)).filter part.holds = c.table.filter part.holds := by
    rw [List.filter_filter]
    refine List.filter_congr fun other _ => ?_
    by_cases ho : other = sid <;> simp [ho, hp]
  refine hmodified.trans ?_
  show _ = ({ (c.modifySubscription sid fun s => { s with valid := false, attached := false }).within
    part with table := (c.table.filter (· != sid)).filter part.holds } : Connection)
  rw [htable]
  rfl

theorem Alike.invalidate (h : c.Alike part d) (sid : Sid) :
    (c.invalidate sid).Alike part (d.invalidate sid) := by
  have hmodified : (c.modifySubscription sid fun s =>
        { s with valid := false, attached := false }).Alike part
      (d.modifySubscription sid fun s => { s with valid := false, attached := false }) :=
    h.update (fun s => { s with valid := false, attached := false }) (fun _ => rfl) fun _ => rfl
  have htable : (c.table.filter (· != sid)).filter part.holds =
      (d.table.filter (· != sid)).filter part.holds := by
    have hall : c.table.filter part.holds = d.table.filter part.holds :=
      congrArg Connection.table h.within
    have hswap : ∀ table : List Sid, (table.filter (· != sid)).filter part.holds =
        (table.filter part.holds).filter (· != sid) := by
      simp [List.filter_filter, Bool.and_comm]
    rw [hswap, hall, hswap]
  show ({ (c.modifySubscription sid fun s => { s with valid := false, attached := false }).within
      part with table := (c.table.filter (· != sid)).filter part.holds } : Connection) =
    { (d.modifySubscription sid fun s => { s with valid := false, attached := false }).within
      part with table := (d.table.filter (· != sid)).filter part.holds }
  rw [hmodified.within, htable]

theorem alike_teardown (ht : t.Accepts) (c : Connection) (hp : part.holds sid = false) :
    c.Alike part (c.teardown t sid).2 := by
  unfold teardown
  split
  · exact .refl part c
  · split
    · exact .refl part c
    · split
      · exact (alike_invalidate c hp).trans
          (alike_send ht (c.invalidate sid) (o := { frame := .unsubscribe sid none })
            (by simp [Frame.sid?, hp]))
      · exact alike_invalidate c hp

theorem Alike.teardown (ht : t.Accepts) (h : c.Alike part d) (sid : Sid) :
    (c.teardown t sid).2.Alike part (d.teardown t sid).2 := by
  refine h.at sid (f := fun c => (c.teardown t sid).2) (fun hp c => alike_teardown ht c hp)
    (fun c hc => ?_) fun hp s s' hc hd hs => ?_
  · simp only [Connection.teardown, hc]
    exact .refl part c
  · have hvalid : s'.valid = s.valid := by rw [Subscription.eq_of_seen_eq hs]
    have hattached : s'.attached = s.attached := by rw [Subscription.eq_of_seen_eq hs]
    simp only [Connection.teardown, hc, hd, hvalid, hattached]
    split
    · exact h
    · split
      · exact (h.invalidate sid).send ht _
      · exact h.invalidate sid

theorem alike_closeSubscription (ht : t.Accepts) (c : Connection) (hp : part.holds sid = false) :
    c.Alike part (c.closeSubscription t sid) :=
  (alike_teardown ht c hp).trans (alike_disable _ hp)

theorem Alike.closeSubscription (ht : t.Accepts) (h : c.Alike part d) (sid : Sid) :
    (c.closeSubscription t sid).Alike part (d.closeSubscription t sid) :=
  (h.teardown ht sid).disable sid

/-! ## The start of a subscription, its ceiling and its handler -/

theorem Alike.fst_sendFor (ht : t.Accepts) (h : c.Alike part d) (hp : part.holds sid = true)
    (frame : Frame) : (c.sendFor t sid frame).1 = (d.sendFor t sid frame).1 := by
  rcases h.subscription?_cases hp with ⟨hc, hd⟩ | ⟨s, s', hc, hd, hs⟩
  · simp only [Connection.sendFor, hc, hd]
  · have hattached : s'.attached = s.attached := by rw [Subscription.eq_of_seen_eq hs]
    simp only [Connection.sendFor, hc, hd, hattached, fst_of_accepts ht]
    split <;> rfl

theorem alike_startSubscription (ht : t.Accepts) (c : Connection) (hp : part.holds sid = false) :
    c.Alike part (c.startSubscription t sid).2 := by
  unfold startSubscription
  split
  · exact .refl part c
  · next s hs =>
    split
    · exact .refl part c
    · have henable := alike_enable c hp
      split
      · next c₁ heq =>
        rw [heq] at henable
        exact henable
      · next c₁ heq =>
        rw [heq] at henable
        have hsend := alike_sendFor ht c₁ (.subscribe sid s.subject s.queueGroup) rfl hp
        split
        · next c₂ heq₂ =>
          rw [heq₂] at hsend
          exact henable.trans hsend
        · next e c₂ heq₂ =>
          rw [heq₂] at hsend
          exact henable.trans (hsend.trans (alike_disable c₂ hp))

/-- Whoever is held learns the same of the start. -/
theorem Alike.startSubscription (ht : t.Accepts) (h : c.Alike part d) (sid : Sid) :
    (c.startSubscription t sid).2.Alike part (d.startSubscription t sid).2 ∧
      (part.holds sid = true →
        (c.startSubscription t sid).1 = (d.startSubscription t sid).1) := by
  cases hp : part.holds sid with
  | false =>
    exact ⟨(alike_startSubscription ht c hp).symm.trans (h.trans (alike_startSubscription ht d hp)),
      fun hf => by cases hf⟩
  | true =>
    rcases h.subscription?_cases hp with ⟨hc, hd⟩ | ⟨s, s', hc, hd, hs⟩
    · simp only [Connection.startSubscription, hc, hd]
      exact ⟨h, fun _ => trivial⟩
    · have hvalid : s'.valid = s.valid := by rw [Subscription.eq_of_seen_eq hs]
      have hsubject : s'.subject = s.subject := by rw [Subscription.eq_of_seen_eq hs]
      have hgroup : s'.queueGroup = s.queueGroup := by rw [Subscription.eq_of_seen_eq hs]
      have hstarted : (c.enable sid).1 = (d.enable sid).1 := by
        simp only [Connection.enable, hc, hd, h.isStopping]
        exact (Subscription.seen_enable hs d.isStopping).1
      obtain ⟨started, c₁, d₁, hmade, hmade', henable⟩ := exists_of_fst_eq hstarted (h.enable sid)
      simp only [Connection.startSubscription, hc, hd, hvalid, hsubject, hgroup, hmade, hmade']
      split
      · exact ⟨h, fun _ => rfl⟩
      · cases started with
        | false => exact ⟨henable, fun _ => rfl⟩
        | true =>
          obtain ⟨result, c₂, d₂, hsent, hsent', hsend⟩ := exists_of_fst_eq
            (henable.fst_sendFor ht hp (.subscribe sid s.subject s.queueGroup))
            (henable.sendFor ht sid (.subscribe sid s.subject s.queueGroup) rfl)
          simp only [hsent, hsent']
          cases result with
          | ok => exact ⟨hsend, fun _ => rfl⟩
          | error e => exact ⟨hsend.disable sid, fun _ => rfl⟩

theorem alike_autoUnsubscribe (ht : t.Accepts) (c : Connection) (hp : part.holds sid = false)
    (max : Nat) : c.Alike part (c.autoUnsubscribe t sid max).2 := by
  have hset : c.Alike part ((c.modifySubscription sid fun s => { s with max := max }).log
      (.ceilingSet sid max)) :=
    (alike_elsewhere c (f := fun s => { s with max := max }) (fun _ hs => hs) hp).trans
      (alike_log _ (by simp [Part.hears, Event.about?, Event.sid?, hp]))
  unfold autoUnsubscribe
  split
  · exact .refl part c
  · split
    · exact .refl part c
    · dsimp only
      split
      · exact hset
      · split
        · exact hset.trans (alike_closeSubscription ht _ hp)
        · exact hset.trans (alike_sendFor ht _ _ rfl hp)

theorem Alike.autoUnsubscribe (ht : t.Accepts) (h : c.Alike part d) (sid : Sid) (max : Nat) :
    (c.autoUnsubscribe t sid max).2.Alike part (d.autoUnsubscribe t sid max).2 := by
  refine h.at sid (f := fun c => (c.autoUnsubscribe t sid max).2)
    (fun hp c => alike_autoUnsubscribe ht c hp max) (fun c hc => ?_) fun hp s s' hc hd hs => ?_
  · simp only [Connection.autoUnsubscribe, hc]
    exact .refl part c
  · have hvalid : s'.valid = s.valid := by rw [Subscription.eq_of_seen_eq hs]
    have hdelivered : s'.delivered = s.delivered := by rw [Subscription.eq_of_seen_eq hs]
    have hset : ((c.modifySubscription sid fun s => { s with max := max }).log
          (.ceilingSet sid max)).Alike part
        ((d.modifySubscription sid fun s => { s with max := max }).log (.ceilingSet sid max)) :=
      (h.update (fun s => { s with max := max }) (fun _ => rfl) fun _ => rfl).log _
    simp only [Connection.autoUnsubscribe, hc, hd, hvalid, hdelivered]
    split
    · exact h
    · split
      · exact hset
      · split
        · exact hset.closeSubscription ht sid
        · exact hset.sendFor ht _ _ rfl

theorem alike_setHandler (c : Connection) (hp : part.holds sid = false) (handler : Handler) :
    c.Alike part (c.setHandler sid handler) := by
  unfold setHandler
  split
  · exact .refl part c
  · have hset : c.Alike part (c.modifySubscription sid fun s => { s with handler := some handler }) :=
      alike_elsewhere c (fun _ hs => hs) hp
    exact hset.trans (alike_log _ (by simp [Part.hears, Event.about?, Event.sid?, hp]))

theorem Alike.setHandler (h : c.Alike part d) (sid : Sid) (handler : Handler) :
    (c.setHandler sid handler).Alike part (d.setHandler sid handler) := by
  refine h.at sid (f := fun c => c.setHandler sid handler)
    (fun hp c => alike_setHandler c hp handler) (fun c hc => ?_) fun hp s s' hc hd _ => ?_
  · simp only [Connection.setHandler, hc]
    exact .refl part c
  · simp only [Connection.setHandler, hc, hd]
    exact (h.update (fun s => { s with handler := some handler }) (fun _ => rfl) fun _ => rfl).log _

theorem Alike.setHeld (h : c.Alike part d) (sid : Sid) (held : Bool) :
    (c.modifySubscription sid fun s => { s with held := held }).Alike part
      (d.modifySubscription sid fun s => { s with held := held }) :=
  h.update (fun s => { s with held := held }) (fun _ => rfl) fun _ => rfl

theorem alike_setHeld (c : Connection) (hp : part.holds sid = false) (held : Bool) :
    c.Alike part (c.modifySubscription sid fun s => { s with held := held }) :=
  alike_elsewhere c (f := fun s => { s with held := held }) (fun _ hs => hs) hp

/-! ## Making subscriptions -/

theorem Alike.register (h : c.Alike part d) (s : Subscription) :
    (c.register s).Alike part (d.register s) := by
  have hfound : ∀ l : List Subscription, (part.find? (l ++ [s])).map Subscription.seen =
      ((part.find? l).map Subscription.seen).or
        (if part.holds s.sid then some s.seen else none) := by
    intro l
    cases part with
    | desk => rfl
    | subscription other =>
      simp only [Part.find?, List.find?_append, Part.holds]
      by_cases hs : s.sid = other <;> cases l.find? (·.sid == other) <;> simp [hs]
  have hadded : ({ c with subscriptions := c.subscriptions ++ [s] } : Connection).Alike part
      { d with subscriptions := d.subscriptions ++ [s] } :=
    h.withSubscriptions (by rw [hfound, hfound, h.seen])
  have hlisted : ∀ c : Connection, ({ c with
      issuedSids := s.sid
      subscriptions := c.subscriptions ++ [s]
      table := c.table ++ [s.sid] } : Connection).within part =
        { ({ c with subscriptions := c.subscriptions ++ [s] } : Connection).within part with
          issuedSids := s.sid
          table := (c.within part).table ++ [s.sid].filter part.holds } := by
    intro c
    simp only [Connection.within, List.filter_append]
  refine Alike.log ?_ _
  rw [Alike, hlisted, hlisted, hadded.within, h.within]

/-- Whoever makes a subscription gets the same number. -/
theorem Alike.build (h : c.Alike part d) (handle : Nat) (plan : SubscriptionPlan) :
    (c.build handle plan).1 = (d.build handle plan).1 ∧
      (c.build handle plan).2.Alike part (d.build handle plan).2 := by
  simp only [Connection.build, h.closed, h.issuedSids]
  split
  · exact ⟨rfl, h⟩
  · split
    · exact ⟨rfl, h⟩
    · split
      · exact ⟨rfl, h⟩
      · exact ⟨rfl, h.register _⟩

theorem sid_of_build {handle : Nat} {plan : SubscriptionPlan} (h : (c.build handle plan).1 = .ok sid) :
    sid = c.issuedSids + 1 := by
  simp only [build] at h
  split at h
  · cases h
  · split at h
    · cases h
    · split at h
      · cases h
      · exact (Except.ok.inj h).symm

theorem Alike.handOver {made made' : Except ConnectionError Sid × Connection}
    (hfst : made.1 = made'.1) (h : made.2.Alike part made'.2) :
    (handOver made).2.Alike part (handOver made').2 := by
  simp only [Connection.handOver, ← hfst]
  split
  · exact h.setHeld _ true
  · exact h

theorem alike_handOver {made : Except ConnectionError Sid × Connection}
    (hp : ∀ sid, made.1 = .ok sid → part.holds sid = false) :
    made.2.Alike part (Connection.handOver made).2 := by
  simp only [Connection.handOver]
  split
  · next sid heq => exact alike_setHeld _ (hp sid heq) true
  · exact .refl part _

/-- The number that a subscription gets decides whether it is a concern of the part. -/
theorem alike_subscribe (ht : t.Accepts) (c : Connection) (handle : Nat) (plan : SubscriptionPlan)
    (hp : part.holds (c.issuedSids + 1) = false) :
    (Connection.handOver (c.build handle plan)).2.Alike part
      (Connection.handOver (c.subscribe t handle plan)).2 := by
  have hbuild : (c.build handle plan).2.Alike part (Connection.handOver (c.build handle plan)).2 :=
    alike_handOver fun sid heq => sid_of_build heq ▸ hp
  have hstart : (c.build handle plan).2.Alike part (c.subscribe t handle plan).2 ∧
      ∀ sid, (c.subscribe t handle plan).1 = .ok sid → part.holds sid = false := by
    unfold Connection.subscribe
    split
    · next e c₁ heq =>
      rw [heq]
      exact ⟨.refl part c₁, fun sid hsid => by cases hsid⟩
    · next sid c₁ heq =>
      rw [heq]
      have hmade : (c.build handle plan).1 = .ok sid := by rw [heq]
      have hsid : part.holds sid = false := sid_of_build hmade ▸ hp
      have hstarted := alike_startSubscription ht c₁ hsid
      split
      · next c₂ heq₂ =>
        rw [heq₂] at hstarted
        exact ⟨hstarted, fun sid' hsid' => Except.ok.inj hsid' ▸ hsid⟩
      · next e c₂ heq₂ =>
        rw [heq₂] at hstarted
        exact ⟨hstarted.trans (alike_closeSubscription ht c₂ hsid), fun sid' hsid' => by cases hsid'⟩
  exact hbuild.symm.trans (hstart.1.trans (alike_handOver hstart.2))

theorem Alike.subscribe (ht : t.Accepts) (h : c.Alike part d) (handle : Nat)
    (plan : SubscriptionPlan) : (Connection.handOver (c.subscribe t handle plan)).2.Alike part
      (Connection.handOver (d.subscribe t handle plan)).2 := by
  obtain ⟨hmade, hbuild⟩ := h.build handle plan
  cases hp : part.holds (c.issuedSids + 1) with
  | false =>
    have hp' : part.holds (d.issuedSids + 1) = false := h.issuedSids ▸ hp
    exact (alike_subscribe ht c handle plan hp).symm.trans
      ((Alike.handOver hmade hbuild).trans (alike_subscribe ht d handle plan hp'))
  | true =>
    obtain ⟨result, c₁, d₁, hc, hd, hbuilt⟩ := exists_of_fst_eq hmade hbuild
    simp only [Connection.subscribe, hc, hd]
    cases result with
    | error e => exact Alike.handOver rfl hbuilt
    | ok sid =>
      have hnumber : (c.build handle plan).1 = .ok sid := by rw [hc]
      have hsid : part.holds sid = true := sid_of_build hnumber ▸ hp
      obtain ⟨hstart, hfst⟩ := hbuilt.startSubscription ht sid
      obtain ⟨answer, c₂, d₂, hc₂, hd₂, hstarted⟩ := exists_of_fst_eq (hfst hsid) hstart
      simp only [hc₂, hd₂]
      cases answer with
      | ok => exact Alike.handOver rfl hstarted
      | error e => exact Alike.handOver rfl (hstarted.closeSubscription ht sid)

/-! ## Publishing and asking -/

theorem Alike.publishFor (ht : t.Accepts) (h : c.Alike part d) (onBehalfOf : Option Sid)
    (subject : String) (payload : ByteArray) :
    (c.publishFor t onBehalfOf subject payload).2.Alike part
      (d.publishFor t onBehalfOf subject payload).2 := by
  simp only [Connection.publishFor, h.closed]
  split
  · exact h
  · split
    · exact h
    · exact h.send ht _

theorem Alike.announceInbox (ht : t.Accepts) (h : c.Alike part d) :
    (c.announceInbox t).1 = .ok () ∧ (d.announceInbox t).1 = .ok () ∧
      (c.announceInbox t).2.Alike part (d.announceInbox t).2 := by
  simp only [Connection.announceInbox, h.announced]
  split
  · exact ⟨rfl, rfl, h⟩
  · have hsent := h.send ht { frame := .subscribe replySid c.inbox.wildcard none }
    obtain ⟨outbound, hc⟩ := ht { frame := .subscribe replySid c.inbox.wildcard none } c
    obtain ⟨outbound', hd⟩ := ht { frame := .subscribe replySid c.inbox.wildcard none } d
    rw [hc, hd] at hsent
    rw [← h.inbox, hc, hd]
    refine ⟨rfl, rfl, ?_⟩
    exact congrArg (fun c : Connection => { c with announced := true }) hsent.within

theorem Alike.enrolled (h : c.Alike part d) (options : RequestOptions) :
    (c.enrolled options).Alike part (d.enrolled options) := by
  have hregistered := h.onRegistry fun reg =>
    (reg.register d.inbox.next.1 options d.config.requestTimeout d.clock).2
  have hinbox : (c.enrolled options).within part = { ({ c with
      registry := (c.registry.register d.inbox.next.1 options d.config.requestTimeout d.clock).2 }
        : Connection).within part with inbox := d.inbox.next.2 } := by
    rw [← h.inbox, ← h.config, ← h.clock]
    rfl
  rw [Alike, hinbox, hregistered.within]
  rfl

theorem Alike.abandon (h : c.Alike part d) (key : String) :
    (c.abandon key).Alike part (d.abandon key) := h.onRegistry fun reg => (reg.abandon key).2

/-- A request is announced, registered and sent, in this order. -/
theorem snd_request (ht : t.Accepts) (c : Connection) {subject : String}
    (hvalid : Subject.isValid subject = true) (hopen : c.closed = false) (payload : ByteArray)
    (options : RequestOptions) : (c.request t subject payload options).2 =
      let announced := (c.announceInbox t).2
      let key := announced.inbox.next.1
      if (announced.enrolled options).closed then (announced.enrolled options).abandon key
      else (t { frame := .publish subject (some key) payload } (announced.enrolled options)).2 := by
  have hfst := ((Alike.refl .desk c).announceInbox ht).1
  simp only [request, hvalid, hopen]
  generalize c.announceInbox t = announced at hfst ⊢
  obtain ⟨result, c₁⟩ := announced
  change result = .ok () at hfst
  subst hfst
  show Prod.snd (if c₁.closed then _ else _) = if c₁.closed then _ else _
  split
  · rfl
  · have hsent := fst_of_accepts ht { frame := .publish subject (some c₁.inbox.next.1) payload }
      (c₁.enrolled options)
    simp only [enrolled] at hsent ⊢
    split
    · next heq =>
      rw [heq]
    · next heq =>
      rw [heq] at hsent
      cases hsent

theorem Alike.request (ht : t.Accepts) (h : c.Alike part d) (subject : String)
    (payload : ByteArray) (options : RequestOptions) :
    (c.request t subject payload options).2.Alike part
      (d.request t subject payload options).2 := by
  cases hvalid : Subject.isValid subject with
  | false =>
    simp only [Connection.request, hvalid]
    exact h
  | true =>
    cases hclosed : c.closed with
    | true =>
      have hclosed' : d.closed = true := h.closed ▸ hclosed
      simp only [Connection.request, hvalid, hclosed, hclosed']
      exact h
    | false =>
      have hannounced := (h.announceInbox ht).2.2
      have henrolled := hannounced.enrolled options
      rw [snd_request ht c hvalid hclosed, snd_request ht d hvalid (h.closed ▸ hclosed)]
      simp only [henrolled.closed, hannounced.inbox]
      split
      · exact henrolled.abandon _
      · exact henrolled.send ht _

/-! ## Whatever is done from outside -/

theorem Alike.dropHandle (h : c.Alike part d) {handle : Nat}
    (hopen : (c.handles.filter (· != handle)).isEmpty = false) :
    (c.dropHandle t handle).Alike part (d.dropHandle t handle) := by
  have hopen' : (d.handles.filter (· != handle)).isEmpty = false := h.handles ▸ hopen
  simp only [Connection.dropHandle, hopen, hopen']
  have hdropped := congrArg (fun c : Connection =>
    { c with handles := c.handles.filter (· != handle) }) h.within
  exact hdropped

/-- Whatever is done from outside, short of a shutdown, is the same for parts that are. -/
theorem Alike.performOver (ht : t.Accepts) (h : c.Alike part d) {m : Move}
    (hexternal : m.isExternal = true) (hopen : c.shutsDown m = false) :
    (c.performOver t m).Alike part (d.performOver t m) := by
  cases m with
  | build handle plan =>
    obtain ⟨hmade, hbuild⟩ := h.build handle plan
    exact Alike.handOver hmade hbuild
  | subscribe handle plan => exact h.subscribe ht handle plan
  | letGo sid => exact h.setHeld sid false
  | start sid => exact (h.startSubscription ht sid).1
  | unsubscribe sid | closeSubscription sid => exact h.closeSubscription ht sid
  | autoUnsubscribe sid max => exact h.autoUnsubscribe ht sid max
  | enable sid => exact h.enable sid
  | disable sid => exact h.disable sid
  | setHandler sid handler => exact h.setHandler sid handler
  | deliver sid m => exact h.deliver sid m
  | deliverTo sid m => exact h.deliverToSid sid m
  | process m => exact h.processInbound m
  | resolve key m => exact h.onRegistry fun reg => (reg.resolveReply key m).2
  | publish subject payload => exact h.publishFor ht none subject payload
  | request subject payload options => exact h.request ht subject payload options
  | tryResult number => exact h.onRegistry fun reg => (reg.tryResult number).2
  | addHandle handle =>
    exact congrArg (fun c : Connection => { c with handles := c.handles ++ [handle] }) h.within
  | dropHandle handle => exact h.dropHandle hopen
  | close => cases hopen
  | receive | closeReceiver | dropReceiver => exact h
  | stepWorker | stepSweeper | setClock => cases hexternal

/-- What is addressed to a subscription outside the part does not concern it. -/
theorem alike_performOver_of_isFor (ht : t.Accepts) (c : Connection) {inbox : Inbox} {m : Move}
    (hinbox : inbox.base = c.inbox.base) (hm : m.isFor inbox sid = true)
    (hp : part.holds sid = false) : c.Alike part (c.performOver t m) := by
  have heq : ∀ {other : Sid}, (other == sid) = true → part.holds other = false := by
    intro other ho
    rw [eq_of_beq ho]
    exact hp
  cases m with
  | letGo other => exact alike_setHeld c (heq hm) false
  | start other => exact alike_startSubscription ht c (heq hm)
  | unsubscribe other | closeSubscription other => exact alike_closeSubscription ht c (heq hm)
  | autoUnsubscribe other max => exact alike_autoUnsubscribe ht c (heq hm) max
  | enable other => exact alike_enable c (heq hm)
  | disable other => exact alike_disable c (heq hm)
  | setHandler other handler => exact alike_setHandler c (heq hm) handler
  | deliver other m => exact alike_deliver c m (heq hm)
  | deliverTo other m => exact alike_deliverToSid c (heq hm) m
  | process m =>
    obtain ⟨hnot, hsid⟩ := Bool.and_eq_true_iff.1 hm
    have howns : c.inbox.owns m.subject = inbox.owns m.subject := by
      simp only [Inbox.owns, hinbox]
    have hforeign : c.inbox.owns m.subject = false := by
      rw [howns]
      simpa using hnot
    show c.Alike part (c.processInbound m).2
    simp only [processInbound, hforeign]
    exact alike_deliver c m (heq hsid)
  | _ => cases hm

end PubSub.Connection
