import PubSub.Proofs.Connection.Lifecycle
import PubSub.Proofs.Connection.Operation

/-!
# Mundane frames

Frames that are not about replies are mundane. Whatever is done to a connection but to ask offers no
other frame, and while a frame is on its way none but mundane ones are offered before it.

## Main definitions

- `Frame.Mundane`, `Connection.Mundane` — no frame that is offered is about replies

## Main results

- `Connection.Course.mundane` — whatever is done but to ask offers mundane frames only
- `Connection.offers_of_sends` — what is offered when a frame is sent
-/

namespace PubSub

/-- A frame is not about replies. -/
structure Frame.Mundane (f : Frame) : Prop where
  sid : f.sid? ≠ some replySid
  asks : f.asks = false

/-- Everything but to ask may be done. -/
def Permit.unasking : Permit := { Permit.all with asks := False }

namespace Connection

/-- All that is offered is mundane. -/
structure Mundane (c c' : Connection) : Prop where
  traffic : c.OffersOnly Frame.Mundane c'
  announced : c'.announced = c.announced
  inbox : c'.inbox = c.inbox

variable {c c' c'' : Connection} {t : Transport} {sid : Sid} {s : Subscription}

theorem Mundane.of_eq (hj : c'.journal = c.journal) (ha : c'.announced = c.announced)
    (hi : c'.inbox = c.inbox) : c.Mundane c' where
  traffic := .of_eq hj
  announced := ha
  inbox := hi

theorem Mundane.refl (c : Connection) : c.Mundane c := .of_eq rfl rfl rfl

theorem Mundane.trans (h : c.Mundane c') (h' : c'.Mundane c'') : c.Mundane c'' where
  traffic := h.traffic.trans h'.traffic
  announced := h'.announced.trans h.announced
  inbox := h'.inbox.trans h.inbox

/-- An event about no frame. -/
theorem mundane_log (c : Connection) {e : Event} (h : e.offer? = none) : c.Mundane (c.log e) where
  traffic := .log c h
  announced := rfl
  inbox := rfl

theorem mundane_offered (c : Connection) {o : Outgoing} (h : o.frame.Mundane)
    (verdict : Except TransportError Unit) (outbound : Outbound Outgoing) :
    c.Mundane (c.offered o verdict outbound) where
  traffic := .offered c h verdict outbound
  announced := rfl
  inbox := rfl

theorem mundane_disable (c : Connection) (sid : Sid) : c.Mundane (c.disable sid).2 := by
  obtain ⟨f, -, -, heq⟩ := c.disable_eq sid
  rw [heq]
  exact .of_eq rfl rfl rfl

theorem mundane_enable (c : Connection) (sid : Sid) : c.Mundane (c.enable sid).2 := by
  obtain ⟨f, -, -, heq⟩ := c.enable_eq sid
  rw [heq]
  exact .of_eq rfl rfl rfl

theorem mundane_announcedFor (c : Connection) (sid : Sid) (verdict : Except TransportError Unit) :
    c.Mundane (c.announcedFor sid verdict) := by
  cases verdict with
  | ok => exact .refl c
  | error => exact mundane_disable c sid

/-- No subscription has the reserved number. -/
theorem Intact.ne_replySid (hi : c.Intact) (hs : c.subscription? sid = some s) :
    sid ≠ replySid := by
  have hmem : s.sid ∈ c.subscriptions.map (·.sid) :=
    List.mem_map_of_mem (List.mem_of_find?_eq_some hs)
  rw [hi.sids, sid_of_subscription? hs, List.mem_range'_1] at hmem
  exact Nat.ne_of_gt hmem.1

theorem suits_unasking (c : Connection) : c.Suits .unasking :=
  ⟨permits_all c, fun _ _ _ _ _ => trivial⟩

theorem Sendable.mundane {f : Frame} (h : c.Sendable .unasking f) (hi : c.Intact) : f.Mundane := by
  cases h with
  | publish | answer => exact ⟨nofun, rfl⟩
  | ask h | announce h => exact h.elim
  | tell hs => exact ⟨fun heq => hi.ne_replySid hs (Option.some.inj heq), rfl⟩

/-- Whatever is done but to ask offers mundane frames only. -/
theorem Course.mundane (h : c.Course .unasking c') (hi : c.Intact) : c.Mundane c' := by
  induction h with
  | refl c => exact .refl c
  | trans h _ ih ih' => exact (ih hi).trans (ih' (h.flow.intact hi))
  | @log c e h =>
    refine mundane_log c ?_
    cases e with
    | offered => exact h.elim
    | _ => rfl
  | @tell c e h =>
    have hcount : c.Mundane { c with counts := c.counts.told e } := .of_eq rfl rfl rfl
    refine hcount.trans (mundane_log _ ?_)
    cases e with
    | offered => exact h.elim
    | _ => rfl
  | refuse c _ hs hvalid hclosed m =>
    have hcount : c.Mundane { c with counts := c.counts.dropped .queueClosed } := .of_eq rfl rfl rfl
    exact hcount.trans (mundane_log _ rfl)
  | @register c s h hsid hnew =>
    have hnew : c.Mundane { c with
        issuedSids := s.sid
        subscriptions := c.subscriptions ++ [s]
        table := c.table ++ [s.sid] } := .of_eq rfl rfl rfl
    exact hnew.trans (mundane_log _ rfl)
  | herald _ h | enrol _ h | forgo _ h => exact h.elim
  | send h _ _ verdict outbound ih =>
    exact (ih hi).trans (mundane_offered _ (h.mundane hi) verdict outbound)
  | @withdraw c c' sid s _ hs _ _ _ verdict outbound ih =>
    have hinvalidate : c.Mundane (c.invalidate sid) := .of_eq rfl rfl rfl
    have hf : (Frame.unsubscribe sid none).Mundane :=
      ⟨fun heq => hi.ne_replySid hs (Option.some.inj heq), rfl⟩
    exact hinvalidate.trans ((ih (hi.invalidate sid)).trans (mundane_offered _ hf verdict outbound))
  | @start c c' sid s hs _ _ _ _ verdict outbound ih =>
    have henable : c.Flow (fun _ => True) (c.enable sid).2 := flow_enable c sid
    have hf : (Frame.subscribe sid s.subject s.queueGroup).Mundane :=
      ⟨fun heq => hi.ne_replySid hs (Option.some.inj heq), rfl⟩
    exact (mundane_enable c sid).trans ((ih (henable.intact hi)).trans
      ((mundane_offered _ hf verdict outbound).trans (mundane_announcedFor _ sid verdict)))
  | @startDetached c sid => exact (mundane_enable c sid).trans (mundane_disable _ sid)
  | @close c c' h _ _ ih =>
    have hmark : c.Mundane { c with closed := true, registry := c.registry.cancelAll.2 } :=
      .of_eq rfl rfl rfl
    have hstop : c'.Mundane c'.stopWorkers := .of_eq rfl rfl rfl
    exact hmark.trans ((ih (hi.of_eq rfl rfl rfl rfl)).trans hstop)
  | aside | consult | sweep | shift | limit | detach => exact .of_eq rfl rfl rfl

/-- What is offered when a frame is sent: mundane frames, and then the frame itself. -/
theorem offers_of_sends (ht : t.Sends .unasking) (hi : c.Intact) (o : Outgoing) :
    ∃ c', c.Mundane c' ∧ (t o c).2.traffic = c'.traffic ++ [(o.frame, (t o c).1)] ∧
      (t o c).2.announced = c'.announced ∧ (t o c).2.inbox = c'.inbox := by
  obtain ⟨c', outbound, hcourse, -, heq⟩ := ht o c (suits_unasking c) (Or.inl trivial)
  refine ⟨c', hcourse.mundane hi, ?_⟩
  rw [heq]
  exact ⟨traffic_offered c' o _ outbound, rfl, rfl⟩

end Connection

end PubSub
