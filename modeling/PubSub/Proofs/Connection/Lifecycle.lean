import Mathlib.Data.List.Nodup
import PubSub.Proofs.Connection.Operation
import PubSub.Proofs.Connection.Sound

/-!
# The life of a subscription

Whether a subscription is valid is kept in three places: in its own mark, in the table, and in
whether it can send through its connection. They agree at every time, and a subscription that is
not valid never becomes so again. While it is valid its queue takes messages, and every message it
holds or handles came in while it could send.

## Main results

- `Connection.Flow.intact` — whatever becomes of a connection keeps this
- `Connection.Intact.deliver` — what a delivery by number then does
-/

namespace PubSub

/-- What holds of a subscription at every time. -/
structure Subscription.Sane (s : Subscription) : Prop where
  attached : s.attached = s.valid
  accepting : s.valid = true → s.queue.isClosed = false
  queued : ∀ d ∈ s.queue.entries, d.connected = true
  handled : ∀ i invocation, s.phase? i = some (.handling invocation) →
    invocation.delivery.connected = true

theorem Dispatch.recv_entry {α : Type} {q q' : Dispatch α} {a : α} (h : q.recv = (.entry a, q')) :
    q.entries = a :: q'.entries ∧ q'.isClosed = q.isClosed := by
  unfold Dispatch.recv at h
  split at h
  · next b rest heq =>
    cases h
    exact ⟨heq, rfl⟩
  · split at h <;> cases h

namespace Subscription

variable {stopping : Bool} {s s' : Subscription}

theorem IsNew.sane (h : s.IsNew) : s.Sane where
  attached := h.attached.trans h.valid.symm
  accepting _ := by rw [h.queue]; rfl
  queued d hd := by simp [h.queue] at hd
  handled i invocation hi := by simp [phase?, h.workers] at hi

/-- A change that adds neither messages nor invocations. -/
theorem Sane.of_eq (h : s.Sane) (hvalid : s'.valid = s.valid) (hattached : s'.attached = s.attached)
    (hqueue : s'.queue = s.queue)
    (hphase : ∀ i invocation, s'.phase? i = some (.handling invocation) →
      s.phase? i = some (.handling invocation)) : s'.Sane where
  attached := by rw [hattached, hvalid, h.attached]
  accepting hv := by rw [hqueue]; exact h.accepting (hvalid ▸ hv)
  queued := by rw [hqueue]; exact h.queued
  handled i invocation hi := h.handled i invocation (hphase i invocation hi)

/-- A worker goes to something else. -/
theorem Sane.setPhase (h : s.Sane) (i : Nat) {p : Worker.Phase}
    (hp : ∀ invocation, p = .handling invocation → invocation.delivery.connected = true) :
    (s.setPhase i p).Sane := by
  refine ⟨h.attached, h.accepting, h.queued, fun j invocation hj => ?_⟩
  rcases Record.handling_setPhase hj with ⟨-, hold⟩ | ⟨-, hnew⟩
  · exact h.handled j invocation hold
  · exact hp invocation hnew

/-- A message leaves the queue. -/
theorem Sane.take (h : s.Sane) {d : Delivery} {q : Dispatch Delivery}
    (hrecv : s.queue.recv = (.entry d, q)) : ({ s with queue := q } : Subscription).Sane := by
  obtain ⟨hentries, hclosed⟩ := Dispatch.recv_entry hrecv
  refine ⟨h.attached, fun hv => hclosed.trans (h.accepting hv), fun d' hd' => ?_, h.handled⟩
  exact h.queued d' (by rw [hentries]; exact List.mem_cons_of_mem _ hd')

theorem Sane.enqueue (h : s.Sane) (hvalid : s.valid = true) {m : Message}
    (hs : s.enqueue m = some s') : s'.Sane := by
  obtain ⟨hopen, rfl⟩ := enqueue_eq hs
  refine ⟨h.attached, fun _ => hopen, fun d hd => ?_, h.handled⟩
  rcases List.mem_append.1 hd with hold | hnew
  · exact h.queued d hold
  · rw [List.mem_singleton.1 hnew]
    exact h.attached.trans hvalid

theorem Sane.exited (h : s.Sane) (i : Nat) : (s.exited i).Sane := by
  have hfinished : (s.setPhase i .finished).Sane := h.setPhase i (by simp)
  unfold Subscription.exited
  dsimp only
  split
  · exact hfinished
  · next hinvalid =>
    refine ⟨hfinished.attached, fun hv => absurd hv hinvalid, fun d hd => ?_, hfinished.handled⟩
    have hd' : d ∈ s.queue.close.entries := hd
    rw [Record.entries_close] at hd'
    exact h.queued d hd'

theorem Shifts.sane (h : s.Shifts stopping s') (hs : s.Sane) : s'.Sane := by
  cases h with
  | hold | setHandler => exact { hs with }
  | enable =>
    obtain ⟨-, hvalid, hattached, -, -, hqueue, hphase⟩ := s.enable_keeps stopping
    exact hs.of_eq hvalid hattached hqueue hphase
  | disable =>
    obtain ⟨-, hvalid, hattached, -, -, hqueue, hphase⟩ := s.disable_keeps
    exact hs.of_eq hvalid hattached hqueue fun i _ hi => (hphase i).symm.trans hi
  | accept hvalid h => exact hs.enqueue hvalid h
  | turn i h =>
    refine hs.setPhase i fun invocation hp => ?_
    obtain ⟨old, hold, hdelivery, -⟩ := h invocation hp
    rw [hdelivery]
    exact hs.handled i old hold
  | exit i => exact hs.exited i
  | take h => exact hs.take h
  | @begin i d q invocation h hdelivery hceiling =>
    -- the message was in the queue, so it came in while the subscription could send
    obtain ⟨hentries, -⟩ := Dispatch.recv_entry h
    have hclaimed : ({ s with queue := q, delivered := s.delivered + 1 } : Subscription).Sane :=
      { hs.take h with }
    refine hclaimed.setPhase i fun invocation' heq => ?_
    cases heq
    rw [hdelivery]
    exact hs.queued d (by rw [hentries]; exact List.mem_cons_self)

end Subscription

namespace Connection

/-- What holds of a connection at every time. -/
structure Intact (c : Connection) : Prop where
  /-- Numbers are given out in order, from one on. -/
  sids : c.subscriptions.map (·.sid) = List.range' 1 c.issuedSids
  /-- The table lists the valid subscriptions. -/
  listed : ∀ sid s, c.subscription? sid = some s → (sid ∈ c.table ↔ s.valid = true)
  known : ∀ sid ∈ c.table, ∃ s, c.subscription? sid = some s
  sane : ∀ sid s, c.subscription? sid = some s → s.Sane
  /-- No valid subscription ever refused a message. -/
  refusals : c.counts.queueClosed = 0

variable {exposed : Sid → Prop} {c c' : Connection} {sid : Sid} {s : Subscription}

/-- Every subscription is found under its number. -/
theorem subscription?_of_mem (h : (c.subscriptions.map (·.sid)).Nodup) (hs : s ∈ c.subscriptions) :
    c.subscription? s.sid = some s := by
  cases hfind : c.subscription? s.sid with
  | none =>
    have hne := List.find?_eq_none.1 hfind s hs
    simp at hne
  | some s' =>
    have hmem : s' ∈ c.subscriptions := List.mem_of_find?_eq_some hfind
    rw [List.inj_on_of_nodup_map h hmem hs (sid_of_subscription? hfind)]

/-- Of all subscriptions one is changed, and keeps its number. -/
theorem sids_modifySubscription (c : Connection) (sid : Sid) {f : Subscription → Subscription}
    (hf : ∀ s, s.sid = sid → (f s).sid = sid) :
    (c.modifySubscription sid f).subscriptions.map (·.sid) = c.subscriptions.map (·.sid) := by
  show (c.subscriptions.map fun s => if s.sid = sid then f s else s).map (·.sid) = _
  rw [List.map_map]
  refine List.map_congr_left fun s _ => ?_
  by_cases hs : s.sid = sid
  · simp [hs, hf s hs]
  · simp [hs]

namespace Intact

theorem nodup (h : c.Intact) : (c.subscriptions.map (·.sid)).Nodup := by
  rw [h.sids]
  exact List.nodup_range'

/-- The numbers in use are those given out. -/
theorem sid_le (h : c.Intact) (hs : c.subscription? sid = some s) : sid ≤ c.issuedSids := by
  have hmem : s.sid ∈ c.subscriptions.map (·.sid) :=
    List.mem_map_of_mem (List.mem_of_find?_eq_some hs)
  rw [h.sids, sid_of_subscription? hs, List.mem_range'_1] at hmem
  exact Nat.lt_one_add_iff.1 hmem.2

theorem connect (o : Session.Opening) (id : Nat) (clock : Instant) (handle : Nat) :
    (o.connect id clock handle).Intact where
  sids := rfl
  listed sid s hs := by cases hs
  known sid hsid := by cases hsid
  sane sid s hs := by cases hs
  refusals := rfl

/-- Only subscriptions, their numbers, the table and one count matter. -/
theorem of_eq (h : c.Intact) (hs : c'.subscriptions = c.subscriptions)
    (hi : c'.issuedSids = c.issuedSids) (ht : c'.table = c.table)
    (hc : c'.counts.queueClosed = c.counts.queueClosed) : c'.Intact := by
  have hfind : ∀ sid, c'.subscription? sid = c.subscription? sid := by
    intro sid
    rw [subscription?, hs]
    rfl
  refine ⟨by rw [hs, hi, h.sids], fun sid s hsub => ?_, fun sid hsid => ?_, fun sid s hsub => ?_,
    hc.trans h.refusals⟩
  · rw [ht]
    exact h.listed sid s (hfind sid ▸ hsub)
  · rw [hfind]
    exact h.known sid (ht ▸ hsid)
  · exact h.sane sid s (hfind sid ▸ hsub)

/-- One subscription is changed, and stays valid or invalid. -/
theorem modify (h : c.Intact) {f : Subscription → Subscription}
    (hf : ∀ s, s.sid = sid → (f s).sid = sid)
    (hs : ∀ s, c.subscription? sid = some s → (f s).valid = s.valid ∧ (f s).Sane) :
    (c.modifySubscription sid f).Intact := by
  refine ⟨(sids_modifySubscription c sid hf).trans h.sids, fun other s' hs' => ?_,
    fun other hother => ?_, fun other s' hs' => ?_, h.refusals⟩
  · rcases modifySubscription_cases hf hs' with ⟨rfl, s, hsub, rfl⟩ | ⟨-, hsub⟩
    · rw [(hs s hsub).1]
      exact h.listed other s hsub
    · exact h.listed other s' hsub
  · obtain ⟨s, hsub⟩ := h.known other hother
    have hne : (c.modifySubscription sid f).subscription? other ≠ none := by
      intro hnone
      rw [(subscription?_modifySubscription_eq_none hf).1 hnone] at hsub
      cases hsub
    exact Option.ne_none_iff_exists'.1 hne
  · rcases modifySubscription_cases hf hs' with ⟨-, s, hsub, rfl⟩ | ⟨-, hsub⟩
    · exact (hs s hsub).2
    · exact h.sane other s' hsub

theorem invalidate (h : c.Intact) (sid : Sid) : (c.invalidate sid).Intact := by
  have hf : ∀ s : Subscription, s.sid = sid →
      ({ s with valid := false, attached := false } : Subscription).sid = sid := fun _ hs => hs
  have htable : ∀ other, other ∈ (c.invalidate sid).table ↔ other ∈ c.table ∧ other ≠ sid := by
    intro other
    show other ∈ c.table.filter (· != sid) ↔ _
    rw [List.mem_filter, bne_iff_ne]
  refine ⟨(sids_modifySubscription c sid hf).trans h.sids, fun other s' hs' => ?_,
    fun other hother => ?_, fun other s' hs' => ?_, h.refusals⟩
  · rw [htable]
    rcases modifySubscription_cases hf hs' with ⟨rfl, s, -, rfl⟩ | ⟨ho, hsub⟩
    · simp
    · rw [and_iff_left ho]
      exact h.listed other s' hsub
  · obtain ⟨hold, ho⟩ := (htable other).1 hother
    obtain ⟨s, hs⟩ := h.known other hold
    exact ⟨s, (sameAt_modifySubscription c hf ho).subscription?.trans hs⟩
  · rcases modifySubscription_cases hf hs' with ⟨-, s, hsub, rfl⟩ | ⟨-, hsub⟩
    · have hsane := h.sane sid s hsub
      exact ⟨rfl, fun hv => (Bool.false_ne_true hv).elim, hsane.queued, hsane.handled⟩
    · exact h.sane other s' hsub

theorem register (h : c.Intact) (hsid : s.sid = c.issuedSids + 1) (hnew : s.IsNew) :
    (c.register s).Intact := by
  -- the next number is larger than all that are in use
  have habsent : c.subscription? s.sid = none := by
    cases hs : c.subscription? s.sid with
    | none => rfl
    | some s' =>
      have hle := h.sid_le hs
      rw [hsid] at hle
      exact absurd hle (Nat.not_succ_le_self _)
  have hself : (c.register s).subscription? s.sid = some s := by
    show (c.subscriptions ++ [s]).find? (·.sid == s.sid) = some s
    have hnone : c.subscriptions.find? (·.sid == s.sid) = none := habsent
    rw [List.find?_append, hnone]
    simp
  have hother : ∀ other, other ≠ s.sid →
      (c.register s).subscription? other = c.subscription? other :=
    fun other ho => (sameAt_register c s ho).subscription?
  have htable : ∀ other, other ∈ (c.register s).table ↔ other ∈ c.table ∨ other = s.sid := by
    intro other
    show other ∈ c.table ++ [s.sid] ↔ _
    rw [List.mem_append, List.mem_singleton]
  refine ⟨?_, fun other s' hs' => ?_, fun other hin => ?_, fun other s' hs' => ?_, h.refusals⟩
  · show (c.subscriptions ++ [s]).map (·.sid) = List.range' 1 s.sid
    rw [List.map_append, h.sids, hsid, List.range'_1_concat, Nat.add_comm]
    simp [hsid]
  · rw [htable]
    by_cases ho : other = s.sid
    · subst ho
      obtain rfl := Option.some.inj (hself.symm.trans hs')
      simp [hnew.valid]
    · rw [hother other ho] at hs'
      simp [h.listed other s' hs', ho]
  · by_cases ho : other = s.sid
    · exact ⟨s, ho ▸ hself⟩
    · rw [hother other ho]
      exact h.known other (((htable other).1 hin).resolve_right ho)
  · by_cases ho : other = s.sid
    · subst ho
      obtain rfl := Option.some.inj (hself.symm.trans hs')
      exact hnew.sane
    · exact h.sane other s' ((hother other ho).symm.trans hs')

theorem stopWorkers (h : c.Intact) : c.stopWorkers.Intact := by
  refine ⟨?_, fun sid s' hs' => ?_, fun sid hsid => ?_, fun sid s' hs' => ?_, h.refusals⟩
  · show (c.subscriptions.map Subscription.cancelWorkers).map (·.sid) = _
    rw [List.map_map]
    exact h.sids
  · rw [subscription?_stopWorkers] at hs'
    obtain ⟨s, hs, rfl⟩ := Option.map_eq_some_iff.1 hs'
    exact h.listed sid s hs
  · obtain ⟨s, hs⟩ := h.known sid hsid
    exact ⟨s.cancelWorkers, by rw [subscription?_stopWorkers, hs, Option.map_some]⟩
  · rw [subscription?_stopWorkers] at hs'
    obtain ⟨s, hs, rfl⟩ := Option.map_eq_some_iff.1 hs'
    exact (h.sane sid s hs).of_eq rfl rfl rfl fun i _ hi => (s.phase?_cancelWorkers i).symm.trans hi

end Intact

/-- Whatever becomes of a connection. -/
theorem Flow.intact (h : c.Flow exposed c') (hc : c.Intact) : c'.Intact := by
  induction h with
  | refl => exact hc
  | trans _ _ ih ih' => exact ih' (ih hc)
  | log | aside | consult | sweep | enrol | forgo => exact hc.of_eq rfl rfl rfl rfl
  | tally c h => exact hc.of_eq rfl rfl rfl h
  | refuse c hs hvalid hclosed m =>
    -- the queue of a valid subscription takes messages
    rw [(hc.sane _ _ hs).accepting hvalid] at hclosed
    cases hclosed
  | @shift c sid f hf h =>
    refine hc.modify hf fun s hs => ?_
    have hkeeps : s.Keeps False (f s) := (h s hs).keeps
    exact ⟨hkeeps.valid fun hf => hf, (h s hs).sane (hc.sane sid s hs)⟩
  | limit c h max => exact hc.modify (fun _ h => h) fun s hs => ⟨rfl, { hc.sane _ s hs with }⟩
  | @invalidate c sid h => exact hc.invalidate sid
  | register c h hsid hnew => exact hc.register hsid hnew
  | close _ _ _ ih => exact (ih (hc.of_eq rfl rfl rfl rfl)).stopWorkers

/-- A subscription is live exactly while it is valid. -/
theorem Intact.lookup_eq_some_iff (h : c.Intact) :
    c.lookup sid = some s ↔ c.subscription? sid = some s ∧ s.valid = true := by
  unfold lookup
  split
  · next hsid => exact ⟨fun hs => ⟨hs, (h.listed sid s hs).1 hsid⟩, And.left⟩
  · next hsid =>
    refine ⟨fun hs => (by cases hs), fun ⟨hs, hvalid⟩ => ?_⟩
    exact absurd ((h.listed sid s hs).2 hvalid) hsid

/-- A message is refused only for want of a valid subscription. -/
theorem Intact.deliver (h : c.Intact) (sid : Sid) (m : Message) :
    ((c.deliver sid m).1 = true ↔ ∃ s ∈ c.subscriptions, s.sid = sid ∧ s.valid = true) ∧
      ((c.deliver sid m).1 = false → (c.deliver sid m).2 = c.drop sid m .noSubscription) := by
  unfold Connection.deliver
  cases hl : c.lookup sid with
  | none =>
    have hnone : ¬∃ s ∈ c.subscriptions, s.sid = sid ∧ s.valid = true := by
      rintro ⟨s, hs, rfl, hvalid⟩
      have hlive := h.lookup_eq_some_iff.2 ⟨subscription?_of_mem h.nodup hs, hvalid⟩
      rw [hl] at hlive
      cases hlive
    exact ⟨iff_of_false Bool.false_ne_true hnone, fun _ => rfl⟩
  | some s =>
    obtain ⟨hs, hvalid⟩ := h.lookup_eq_some_iff.1 hl
    have htaken : (c.deliverTo s m).1 = true := by
      have hopen := (h.sane sid s hs).accepting hvalid
      simp [deliverTo, hvalid, Subscription.enqueue, Dispatch.enqueue, hopen]
    have hsome : ∃ s ∈ c.subscriptions, s.sid = sid ∧ s.valid = true :=
      ⟨s, List.mem_of_find?_eq_some hs, sid_of_subscription? hs, hvalid⟩
    refine ⟨iff_of_true htaken hsome, fun hrefused => ?_⟩
    rw [htaken] at hrefused
    cases hrefused

/-- A message that came in while its subscription could send can be answered. -/
theorem respond_ne_detached (t : Transport) (c : Connection) {d : Delivery}
    (h : d.connected = true) (payload : ByteArray) :
    (c.respond t d payload).1 ≠ .error .detached := by
  unfold respond Delivery.response
  cases d.message.replyTo with
  | none => simp
  | some replyTo =>
    simp only [h, if_true]
    cases (t { frame := .publish replyTo none payload, onBehalfOf := some d.message.sid } c).1 <;>
      simp [Except.mapError]

/-- A subscription that is started was built. -/
theorem ok_build_of_subscribe {t : Transport} {handle : Nat} {plan : SubscriptionPlan}
    (h : (c.subscribe t handle plan).1 = .ok sid) : (c.build handle plan).1 = .ok sid := by
  unfold subscribe at h
  split at h
  · cases h
  · next other c₁ heq =>
    rw [heq]
    split at h
    · exact h
    · cases h

/-- Along every run, with every subscription ever made still in the list: their numbers are those
from one on, in order, and a new one gets the next. Of each, being valid, being in the table and
having a connection to send through are the same, and once invalid it is so ever after; every
message in its queue, and every message that a handler of it is given, can be answered through a
connection. A delivery by number is accepted if and only if a valid subscription has the number, and
otherwise changes nothing but that one message is counted as dropped for that reason; no message is
ever dropped because a queue refused it. -/
theorem lifecycle_holds (o : Session.Opening) (id : Nat) (clock : Instant) (handle : Nat)
    (moves later : List Move) :
    let c := (o.connect id clock handle).run moves
    let c' := c.run later
    c.subscriptions.map (·.sid) = List.range' 1 c.issuedSids ∧
    (∀ handle plan sid, (c.build handle plan).1 = .ok sid ∨
        (c.subscribe transport handle plan).1 = .ok sid →
      sid = c.issuedSids + 1 ∧ ∀ s ∈ c.subscriptions, s.sid ≠ sid) ∧
    (∀ s ∈ c.subscriptions,
      (s.valid = true ↔ c.lookup s.sid = some s) ∧
      (s.valid = true ↔ s.sid ∈ c.table) ∧
      (s.valid = true ↔ s.attached = true) ∧
      (∃ s' ∈ c'.subscriptions, s'.sid = s.sid ∧
        (s.valid = false → s'.valid = false ∧ s'.sid ∉ c'.table ∧ s'.attached = false)) ∧
      (∀ d ∈ s.queue.entries, d.connected = true) ∧
      ∀ w ∈ s.workers, ∀ invocation, w.phase = .handling invocation →
        invocation.delivery.connected = true ∧
          ∀ (t : Transport) (c₀ : Connection) (payload : ByteArray),
            (c₀.respond t invocation.delivery payload).1 ≠ .error .detached) ∧
    (∀ sid m,
      ((c.deliver sid m).1 = true ↔ ∃ s ∈ c.subscriptions, s.sid = sid ∧ s.valid = true) ∧
      ((c.deliver sid m).1 = false → (c.deliver sid m).2 = { c with
        counts := { c.counts with noSubscription := c.counts.noSubscription + 1 } }.log
          (.dropped sid m .noSubscription))) ∧
    c.counts.queueClosed = 0 := by
  intro c c'
  have hc : c.Intact := (flow_run _ moves).intact (.connect o id clock handle)
  have hlater : c.Flow (fun _ => True) c' := flow_run c later
  refine ⟨hc.sids, fun handle plan sid hmade => ?_, fun s hs => ?_, hc.deliver, hc.refusals⟩
  · have hbuilt : (c.build handle plan).1 = .ok sid :=
      hmade.elim (fun h => h) ok_build_of_subscribe
    obtain ⟨-, hsid, -⟩ := build_of_ok (Prod.ext hbuilt rfl)
    refine ⟨hsid, fun s hs heq => ?_⟩
    have hle := hc.sid_le (subscription?_of_mem hc.nodup hs)
    rw [heq, hsid] at hle
    exact absurd hle (Nat.not_succ_le_self _)
  · have hsub := subscription?_of_mem hc.nodup hs
    have hsane := hc.sane s.sid s hsub
    refine ⟨?_, (hc.listed s.sid s hsub).symm, by rw [hsane.attached], ?_, hsane.queued,
      fun w hw invocation hp => ?_⟩
    · rw [hc.lookup_eq_some_iff]
      exact ⟨fun hvalid => ⟨hsub, hvalid⟩, And.right⟩
    · have hc' : c'.Intact := hlater.intact hc
      obtain ⟨s', hs', hkeeps⟩ := hlater.kept hsub
      refine ⟨s', List.mem_of_find?_eq_some hs', hkeeps.sid, fun hinvalid => ?_⟩
      have hinvalid' := hkeeps.invalid hinvalid
      refine ⟨hinvalid', fun hlisted => ?_, (hc'.sane s.sid s' hs').attached.trans hinvalid'⟩
      rw [hkeeps.sid, hc'.listed s.sid s' hs', hinvalid'] at hlisted
      cases hlisted
    · obtain ⟨i, hi⟩ := List.getElem?_of_mem hw
      have hconnected := hsane.handled i invocation (Subscription.phase?_eq_some_iff.2 ⟨w, hi, hp⟩)
      exact ⟨hconnected, fun t c₀ payload => respond_ne_detached t c₀ hconnected payload⟩

/-- The theorem applies to a subscription that ended while its handler was at work: it is not live,
and the handler can still answer. -/
theorem lifecycle_holds_ended :
    let handler := Handler.mk "" [] [.yield 1, .respond .empty]
    let moves : List Move := [.subscribe 1 { subject := "a", handler := some handler },
      .deliver 1 { subject := "a", replyTo := some "b" }, .stepWorker 1 0, .stepWorker 1 0,
      .closeSubscription 1]
    let c := (Session.Opening.connect { token := "" } 0 0 1).run moves
    ∃ s ∈ c.subscriptions, s.valid = false ∧ c.lookup s.sid ≠ some s ∧
      ∃ w ∈ s.workers, ∃ invocation, w.phase = .handling invocation ∧
        invocation.delivery.connected = true := by
  intro handler moves c
  have hany : (c.subscriptions.any fun s => !s.valid && s.workers.any fun w =>
      w.invocation?.isSome) = true := by decide +kernel
  obtain ⟨s, hs, hprops⟩ := List.any_eq_true.1 hany
  obtain ⟨hinvalid, hwork⟩ := Bool.and_eq_true_iff.1 hprops
  obtain ⟨w, hw, hhandling⟩ := List.any_eq_true.1 hwork
  obtain ⟨invocation, hinvocation⟩ := Option.isSome_iff_exists.1 hhandling
  have hp := Worker.invocation?_eq_some_iff.1 hinvocation
  have h := (lifecycle_holds { token := "" } 0 0 1 moves []).2.2.1 s hs
  have hvalid : s.valid = false := by simpa using hinvalid
  refine ⟨s, hs, hvalid, fun hlive => ?_, w, hw, invocation, hp,
    (h.2.2.2.2.2 w hw invocation hp).1⟩
  rw [h.1.2 hlive] at hvalid
  cases hvalid

end Connection

end PubSub
