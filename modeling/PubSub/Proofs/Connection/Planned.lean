import PubSub.Proofs.Connection.Operation
import PubSub.Proofs.Connection.Sound

/-!
# Handlers and ceilings are those that were set

The story of a subscription names a handler and a ceiling (`Story.handler?`, `Story.ceiling`). When
the subscription is made these are the ones that were planned for it, and when another handler is put
in place the story names that one from then on.

## Main results

- `Connection.Sound.asPlanned` — a subscription that was made
- `Connection.named_setHandler` — another handler that is put in place
-/

namespace PubSub

namespace Record

variable {calm : Prop} {v v' : Record} {plan : SubscriptionPlan}

/-- A subscription has the handler and the ceiling that were planned, and its story names them and
tells of no delivery before. -/
structure AsPlanned (v : Record) (plan : SubscriptionPlan) : Prop where
  handler : v.sub.handler = plan.handler
  max : v.sub.max = plan.max
  named : v.story.handler? = plan.handler
  ceiling : v.story.ceiling = (plan.max, 0)

theorem Drifts.asPlanned (h : v.Drifts calm v') (hv : v.AsPlanned plan) : v'.AsPlanned plan :=
  ⟨h.handler.trans hv.handler, h.max.trans hv.max, h.handler?_story.trans hv.named,
    h.ceiling_story.trans hv.ceiling⟩

theorem AsPlanned.enable (hv : v.AsPlanned plan) (stopping : Bool) :
    (v.update fun s => (s.enable stopping).2).AsPlanned plan := by
  have hkeep : (v.sub.enable stopping).2.handler = v.sub.handler ∧
      (v.sub.enable stopping).2.max = v.sub.max := by
    rcases workers_enable v.sub stopping with heq | ⟨-, heq⟩ <;> rw [heq] <;> exact ⟨rfl, rfl⟩
  exact ⟨hkeep.1.trans hv.handler, hkeep.2.trans hv.max, hv.named, hv.ceiling⟩

end Record

namespace Connection

variable {strict : Sid → Prop} {c c' : Connection} {t : Transport} {sid : Sid}
variable {handle : Nat} {plan : SubscriptionPlan}

theorem Sound.asPlanned_build (h : c.Sound strict) (hmade : c.build handle plan = (.ok sid, c')) :
    ∃ v, c'.record? sid = some v ∧ v.AsPlanned plan := by
  obtain ⟨-, hsid, s, rfl, -, rfl, hhandler, hmax⟩ := build_of_ok hmade
  have hblank := h.blank s.sid (h.fresh s.sid (hsid ▸ Nat.lt_succ_self c.issuedSids))
  exact ⟨_, record?_register hblank, hhandler, hmax, hhandler, congrArg (·, 0) hmax⟩

theorem asPlanned_startSubscription (ht : t.Drifts) {v : Record} (hv : c.record? sid = some v)
    (hplan : v.AsPlanned plan) :
    ∃ v', (c.startSubscription t sid).2.record? sid = some v' ∧ v'.AsPlanned plan := by
  have hs := subscription?_of_record? hv
  have henable := alters_enable hs
  rw [Option.some.inj (hv.symm.trans henable.before)] at hplan
  have hafter : ∀ c', (c.enable sid).2.Drifts (fun _ => True) c' →
      ∃ v', c'.record? sid = some v' ∧ v'.AsPlanned plan := by
    intro c' hd
    obtain ⟨v', hv', hdrift⟩ := hd.record sid _ henable.after
    exact ⟨v', hv', hdrift.asPlanned (hplan.enable c.isStopping)⟩
  unfold startSubscription
  simp only [hs]
  split
  · exact ⟨_, henable.before, hplan⟩
  · split
    · next c₁ heq =>
      rw [heq] at hafter
      exact hafter c₁ (.refl c₁)
    · next c₁ heq =>
      rw [heq] at hafter
      have hsend := drifts_sendFor ht c₁ sid (.subscribe sid v.sub.subject v.sub.queueGroup)
      split
      · next c₂ hsent =>
        rw [hsent] at hsend
        exact hafter c₂ hsend
      · next e c₂ hsent =>
        rw [hsent] at hsend
        exact hafter _ (hsend.trans (drifts_disable c₂ sid))

theorem Sound.asPlanned_subscribe (ht : t.Drifts) (h : c.Sound strict)
    (hmade : c.subscribe t handle plan = (.ok sid, c')) :
    ∃ v, c'.record? sid = some v ∧ v.AsPlanned plan := by
  unfold Connection.subscribe at hmade
  split at hmade
  · cases hmade
  · next new c₁ hbuild =>
    obtain ⟨v, hv, hplan⟩ := h.asPlanned_build hbuild
    have hstart := asPlanned_startSubscription ht hv hplan
    split at hmade
    · next c₂ heq =>
      cases hmade
      rw [heq] at hstart
      exact hstart
    · cases hmade

/-- A subscription that was made is as it was planned, whether or not it was started too. -/
theorem Sound.asPlanned (ht : t.Drifts) (h : c.Sound strict)
    (hmade : c.build handle plan = (.ok sid, c') ∨ c.subscribe t handle plan = (.ok sid, c')) :
    ∃ v, c'.record? sid = some v ∧ v.AsPlanned plan :=
  hmade.elim h.asPlanned_build (h.asPlanned_subscribe ht)

/-- A handler that is put in place is the one that the story names. -/
theorem named_setHandler {s : Subscription} (hs : c.subscription? sid = some s)
    (handler : Handler) :
    ∃ s', (c.setHandler sid handler).subscription? sid = some s' ∧ s'.handler = some handler ∧
      ((c.setHandler sid handler).story sid).handler? = some handler := by
  have hset := ((Alters.of_subscription? hs).modify
    (f := fun s => { s with handler := some handler }) fun _ h => h).log
      (e := .handlerSet sid handler) rfl
  have heq : c.setHandler sid handler = (c.modifySubscription sid fun s =>
      { s with handler := some handler }).log (.handlerSet sid handler) := by
    simp only [setHandler, hs]
  rw [heq]
  obtain ⟨hsub, -, hstory⟩ := record?_eq_some_iff.1 hset.after
  exact ⟨_, hsub, rfl, congrArg Story.handler? hstory⟩

end Connection

end PubSub
