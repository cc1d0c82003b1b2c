import PubSub.Connection.Transport
import PubSub.Proofs.Connection.Record

/-!
# What sending a frame can do to a subscription

A transport may react to a frame by closing things or by feeding a message back, and a reaction may
send frames of its own. Whatever comes of it, a subscription keeps its handler, its ceiling and its
count of deliveries, and its workers stay at what they are at; messages may enter its queue, and it
may be torn down and its workers told to end (`Record.Drifts`).

## Main results

- `Connection.drifts_closeSubscription`, `Connection.drifts_close` — the ends, over any transport
  that only drifts
- `Connection.drifts_gated` — so does the transport of a connection, whatever its gate bars
-/

namespace PubSub

namespace Subscription

/-- Only the worker that `disable` stops was not told to end. -/
def Disciplined (s : Subscription) : Prop :=
  ∀ i w, s.workers[i]? = some w → w.cancelled = false → s.current = some i

/-- Every worker was told to end. -/
def Stopped (s : Subscription) : Prop := ∀ w ∈ s.workers, w.cancelled = true

end Subscription

/-- What becomes of a subscription that is not worked on itself; if `calm`, it is not left invalid
with a worker that was not told to end. -/
structure Record.Drifts (calm : Prop) (v v' : Record) : Prop where
  sid : v'.sub.sid = v.sub.sid
  handler : v'.sub.handler = v.sub.handler
  max : v'.sub.max = v.sub.max
  delivered : v'.sub.delivered = v.sub.delivered
  phases : v'.sub.workers.map (·.phase) = v.sub.workers.map (·.phase)
  /-- Messages may have entered the queue. -/
  messages : ∃ ms : List Message,
    v'.story = ms.reverse.map (Event.accepted v.sub.sid) ++ v.story ∧
      v'.sub.queue.entries.map (·.message) = v.sub.queue.entries.map (·.message) ++ ms
  invalid : v.sub.valid = false → v'.sub.valid = false
  attached : v.sub.attached = v.sub.valid → v'.sub.attached = v'.sub.valid
  live : v.live = v.sub.valid → v'.live = v'.sub.valid
  disciplined : v.sub.Disciplined → v'.sub.Disciplined
  quiet : calm → v.sub.Disciplined → (v.sub.valid = false → v.sub.Stopped) →
    v'.sub.valid = false → v'.sub.Stopped

namespace Record

variable {calm calm' : Prop} {v v' v'' : Record}

theorem Drifts.refl (calm : Prop) (v : Record) : v.Drifts calm v where
  sid := rfl
  handler := rfl
  max := rfl
  delivered := rfl
  phases := rfl
  messages := ⟨[], rfl, by simp⟩
  invalid := id
  attached := id
  live := id
  disciplined := id
  quiet _ _ h := h

theorem Drifts.trans (h : v.Drifts calm v') (h' : v'.Drifts calm v'') : v.Drifts calm v'' where
  sid := h'.sid.trans h.sid
  handler := h'.handler.trans h.handler
  max := h'.max.trans h.max
  delivered := h'.delivered.trans h.delivered
  phases := h'.phases.trans h.phases
  messages := by
    obtain ⟨ms, hst, hq⟩ := h.messages
    obtain ⟨ms', hst', hq'⟩ := h'.messages
    refine ⟨ms ++ ms', ?_, ?_⟩
    · rw [hst', hst, h.sid]
      simp
    · rw [hq', hq, List.append_assoc]
  invalid := h'.invalid ∘ h.invalid
  attached := h'.attached ∘ h.attached
  live := h'.live ∘ h.live
  disciplined := h'.disciplined ∘ h.disciplined
  quiet hc hd hq := h'.quiet hc (h.disciplined hd) (h.quiet hc hd hq)

theorem Drifts.mono (h : v.Drifts calm v') (hc : calm' → calm) : v.Drifts calm' v' :=
  { h with quiet := h.quiet ∘ hc }

/-- A message enters the queue. -/
theorem drifts_accept (calm : Prop) {s : Subscription} {m : Message}
    (h : v.sub.enqueue m = some s) :
    v.Drifts calm { v with sub := s, story := .accepted v.sub.sid m :: v.story } := by
  obtain ⟨q, hq, rfl⟩ : ∃ q, v.sub.queue.enqueue ⟨m, v.sub.attached⟩ = .ok q ∧
      s = { v.sub with queue := q } := by
    unfold Subscription.enqueue at h
    split at h
    · next q hq => exact ⟨q, hq, (Option.some.inj h).symm⟩
    · cases h
  have hentries : q.entries = v.sub.queue.entries ++ [⟨m, v.sub.attached⟩] := by
    unfold Dispatch.enqueue at hq
    split at hq
    · cases hq
    · cases hq
      rfl
  exact {
    sid := rfl
    handler := rfl
    max := rfl
    delivered := rfl
    phases := rfl
    messages := ⟨[m], rfl, by simp [hentries]⟩
    invalid := id
    attached := id
    live := id
    disciplined := id
    quiet := fun _ _ h => h }

/-- Telling one worker to end. -/
theorem phases_modify_cancelled (s : Subscription) (i : Nat) :
    (s.modifyWorker i fun w => { w with cancelled := true }).workers.map (·.phase) =
      s.workers.map (·.phase) := by
  refine List.ext_getElem? fun j => ?_
  simp only [Subscription.modifyWorker, List.getElem?_map, List.getElem?_modify]
  cases s.workers[j]? with
  | none => simp
  | some w => by_cases hij : i = j <;> simp [hij]

/-- After `disable` every worker was told to end. -/
theorem stopped_disable {s : Subscription} (h : s.Disciplined) : s.disable.2.Stopped := by
  intro w hw
  rw [← Bool.not_eq_false]
  intro hc
  obtain ⟨j, hj⟩ := List.getElem?_of_mem hw
  unfold Subscription.disable at hj
  split at hj
  · next hn =>
    have := h j w hj hc
    rw [hn] at this
    cases this
  · next i hi =>
    simp only [Subscription.modifyWorker, List.getElem?_modify] at hj
    obtain ⟨w', hw', rfl⟩ := Option.map_eq_some_iff.1 hj
    by_cases hij : i = j
    · simp [hij] at hc
    · -- a worker other than the current one was told to end before
      rw [if_neg hij] at hc
      have := h j w' hw' hc
      rw [hi] at this
      exact hij (Option.some.inj this)

theorem disciplined_of_stopped {s : Subscription} (h : s.Stopped) : s.Disciplined := by
  intro i w hw hc
  rw [h w (List.mem_of_getElem? hw)] at hc
  cases hc

theorem drifts_disable (calm : Prop) (v : Record) :
    v.Drifts calm (v.update fun s => s.disable.2) := by
  have hkeep : (v.update fun s => s.disable.2).sub = v.sub ∨
      ∃ i, (v.update fun s => s.disable.2).sub =
        { v.sub.modifyWorker i (fun w => { w with cancelled := true }) with current := none } := by
    rw [sub_update, Subscription.disable]
    split
    · exact Or.inl rfl
    · exact Or.inr ⟨_, rfl⟩
  refine ⟨?_, ?_, ?_, ?_, ?_, ⟨[], rfl, ?_⟩, ?_, ?_, ?_,
    fun hd => disciplined_of_stopped (stopped_disable hd), fun _ hd _ _ => stopped_disable hd⟩
  all_goals obtain hk | ⟨i, hk⟩ := hkeep
  all_goals rw [hk]
  all_goals first
    | rfl
    | exact id
    | exact phases_modify_cancelled v.sub i
    | exact (List.append_nil _).symm

theorem drifts_cancelWorkers (calm : Prop) (v : Record) :
    v.Drifts calm (v.update Subscription.cancelWorkers) := by
  have hstop : v.sub.cancelWorkers.Stopped := by
    intro w hw
    obtain ⟨w', -, rfl⟩ := List.mem_map.1 hw
    rfl
  exact {
    sid := rfl
    handler := rfl
    max := rfl
    delivered := rfl
    phases := by simp [Subscription.cancelWorkers, Function.comp_def]
    messages := ⟨[], rfl, (List.append_nil _).symm⟩
    invalid := id
    attached := id
    live := id
    disciplined := fun _ => disciplined_of_stopped hstop
    quiet := fun _ _ _ _ => hstop }

/-- The record of a subscription that was just torn down. -/
def invalidated (v : Record) : Record :=
  { v with sub := { v.sub with valid := false, attached := false }, live := false }

/-- Tearing a subscription down leaves its worker running. -/
theorem drifts_invalidated (v : Record) : v.Drifts False v.invalidated where
  sid := rfl
  handler := rfl
  max := rfl
  delivered := rfl
  phases := rfl
  messages := ⟨[], rfl, (List.append_nil _).symm⟩
  invalid _ := rfl
  attached _ := rfl
  live _ := rfl
  disciplined := id
  quiet hf := hf.elim

end Record

/-- What becomes of the subscriptions that are not worked on themselves; those that are `calm` are
not left invalid with a worker that was not told to end. -/
abbrev Connection.Drifts (calm : Sid → Prop) : Connection → Connection → Prop :=
  Connection.Each fun sid => Record.Drifts (calm sid)

/-- Whatever is sent, all subscriptions only drift. -/
def Transport.Drifts (t : Transport) : Prop :=
  ∀ (o : Outgoing) (c : Connection), c.Drifts (fun _ => True) (t o c).2

namespace Connection

variable {calm calm' : Sid → Prop} {c c' c'' : Connection} {t : Transport}

theorem Drifts.of_same (hi : c'.issuedSids = c.issuedSids) (hs : ∀ sid, c.SameAt c' sid) :
    c.Drifts calm c' :=
  Each.of_same (fun sid v => .refl (calm sid) v) hi hs

theorem Drifts.refl (c : Connection) : c.Drifts calm c := .of_same rfl (SameAt.refl c)

theorem Drifts.trans (h : c.Drifts calm c') (h' : c'.Drifts calm c'') : c.Drifts calm c'' :=
  Each.trans (fun _ _ _ _ h h' => h.trans h') h h'

theorem Drifts.mono (h : c.Drifts calm c') (hc : ∀ sid, calm' sid → calm sid) :
    c.Drifts calm' c' :=
  Each.mono (fun sid _ _ h => h.mono (hc sid)) h

/-- One record drifts and the others stay. -/
theorem Alters.drifts {sid : Sid} {v v' : Record} (h : Alters sid c v c' v')
    (hd : v.Drifts (calm sid) v') : c.Drifts calm c' :=
  h.each (fun sid v => .refl (calm sid) v) hd

/-- Events of no subscription's story. -/
theorem drifts_log (c : Connection) {e : Event} (h : e.sid? = none) : c.Drifts calm (c.log e) :=
  .of_same rfl fun sid => sameAt_log c (by simp [h])

theorem drifts_offer (o : Outgoing) (c : Connection) : c.Drifts calm (c.offer o).2 := by
  unfold offer
  split
  · next outbound _ =>
    have hout : c.Drifts calm { c with outbound := outbound } :=
      .of_same rfl fun _ => .of_eq rfl rfl rfl
    exact hout.trans (drifts_log _ rfl)
  · exact drifts_log c rfl

/-- Only the registry, the inbox or the like changes. -/
theorem drifts_of_eq (hi : c'.issuedSids = c.issuedSids)
    (hs : c'.subscriptions = c.subscriptions) (ht : c'.table = c.table)
    (hj : c'.journal = c.journal) : c.Drifts calm c' :=
  .of_same hi fun _ => .of_eq hs ht hj

/-! ## Inbound messages -/

theorem drifts_drop (c : Connection) (sid : Sid) (m : Message) {reason : DropReason}
    (h : reason ≠ .noHandler) : c.Drifts calm (c.drop sid m reason) := by
  have hcount : c.Drifts calm { c with counts := c.counts.dropped reason } :=
    drifts_of_eq rfl rfl rfl rfl
  refine hcount.trans (drifts_log _ ?_)
  cases reason with
  | noHandler => exact absurd rfl h
  | _ => rfl

theorem sid_of_enqueue {s s' : Subscription} {m : Message} (h : s.enqueue m = some s') :
    s'.sid = s.sid := by
  unfold Subscription.enqueue at h
  split at h
  · cases h
    rfl
  · cases h

theorem drifts_deliverTo {s : Subscription} {sid : Sid} (h : c.subscription? sid = some s)
    (m : Message) : c.Drifts calm (c.deliverTo s m).2 := by
  obtain rfl : s.sid = sid := sid_of_subscription? h
  unfold deliverTo
  split
  · exact drifts_drop c s.sid m (by decide)
  · split
    · next s' hs =>
      have halters := ((Alters.of_subscription? h).replace (sid_of_enqueue hs)).log
        (e := .accepted s.sid m) rfl
      exact halters.drifts (Record.drifts_accept _ hs)
    · exact drifts_drop c s.sid m (by decide)

theorem drifts_deliver (c : Connection) (sid : Sid) (m : Message) :
    c.Drifts calm (c.deliver sid m).2 := by
  unfold deliver lookup
  split
  · next s hs =>
    split at hs
    · exact drifts_deliverTo hs m
    · cases hs
  · exact drifts_drop c sid m (by decide)

theorem drifts_processInbound (c : Connection) (m : Message) :
    c.Drifts calm (c.processInbound m).2 := by
  unfold processInbound
  split
  · exact drifts_of_eq rfl rfl rfl rfl
  · exact drifts_deliver c m.sid m

/-! ## Ending subscriptions -/

theorem alters_disable {v : Record} {sid : Sid} (hv : c.record? sid = some v) :
    Alters sid c v (c.disable sid).2 (v.update fun s => s.disable.2) := by
  have hs := subscription?_of_record? hv
  have hsid : v.sub.disable.2.sid = sid :=
    (Record.drifts_disable True v).sid.trans (sid_of_record? hv)
  have heq : (c.disable sid).2 = c.modifySubscription sid fun _ => v.sub.disable.2 := by
    simp only [disable, hs]
  rw [heq]
  exact (Alters.refl hv).replace hsid

theorem disable_of_absent {sid : Sid} (h : c.subscription? sid = none) :
    (c.disable sid).2 = c := by
  simp only [disable, h]

theorem drifts_disable (c : Connection) (sid : Sid) : c.Drifts calm (c.disable sid).2 := by
  cases hs : c.subscription? sid with
  | none =>
    rw [disable_of_absent hs]
    exact .refl c
  | some s =>
    exact (alters_disable (record?_of_subscription? hs)).drifts (Record.drifts_disable _ _)

theorem alters_invalidate {v : Record} {sid : Sid} (hv : c.record? sid = some v) :
    Alters sid c v (c.invalidate sid) v.invalidated := by
  have hmod := (Alters.refl hv).modify
    (f := fun s => { s with valid := false, attached := false }) fun _ hs => hs
  obtain ⟨hs, -, hst⟩ := record?_eq_some_iff.1 hmod.after
  refine ⟨hv, record?_eq_some_iff.2 ⟨hs, ?_, hst⟩, rfl, fun other ho => ?_⟩
  · show (c.table.filter (· != sid)).contains sid = false
    simp [List.contains_eq_mem]
  · refine ⟨(hmod.same other ho).subscription?, ?_, rfl⟩
    show (c.table.filter (· != sid)).contains other = _
    simp [List.contains_eq_mem, ho]

theorem drifts_teardown (ht : t.Drifts) (c : Connection) (sid : Sid) :
    c.Drifts (· ≠ sid) (c.teardown t sid).2 := by
  unfold teardown
  cases hs : c.subscription? sid with
  | none => exact .refl c
  | some s =>
    have hinv : c.Drifts (· ≠ sid) (c.invalidate sid) :=
      (alters_invalidate (record?_of_subscription? hs)).drifts
        ((Record.drifts_invalidated _).mono fun h => h rfl)
    simp only
    split
    · exact .refl c
    · split
      · exact hinv.trans ((ht _ _).mono fun _ _ => trivial)
      · exact hinv

/-- After it was torn down a subscription is invalid. -/
theorem invalid_teardown (ht : t.Drifts) {sid : Sid} {v : Record} (hv : c.record? sid = some v) :
    ∃ v', (c.teardown t sid).2.record? sid = some v' ∧ v.Drifts False v' ∧
      v'.sub.valid = false := by
  have hs := subscription?_of_record? hv
  unfold teardown
  simp only [hs]
  split
  · next hvalid => exact ⟨v, hv, .refl _ v, by simpa using hvalid⟩
  · have hinv := (alters_invalidate hv).after
    have hdrift := Record.drifts_invalidated v
    split
    · obtain ⟨v', hv', hd⟩ := (ht { frame := .unsubscribe sid none } (c.invalidate sid)).record
        sid _ hinv
      exact ⟨v', hv', hdrift.trans (hd.mono fun h => h.elim), hd.invalid rfl⟩
    · exact ⟨_, hinv, hdrift, rfl⟩

/-- A closed subscription is invalid and, unless several workers ran, all of them were told to
end. -/
theorem closeSubscription_eq (ht : t.Drifts) {sid : Sid} {v : Record}
    (hv : c.record? sid = some v) :
    ∃ v', (c.closeSubscription t sid).record? sid = some v' ∧ v.Drifts True v' ∧
      v'.sub.valid = false ∧ (v.sub.Disciplined → v'.sub.Stopped) := by
  obtain ⟨v₁, hv₁, hd₁, hinvalid⟩ := invalid_teardown ht hv
  have hv₂ := (alters_disable hv₁).after
  have hd₂ := Record.drifts_disable False v₁
  have hstop : v.sub.Disciplined → (v₁.update fun s => s.disable.2).sub.Stopped :=
    fun hd => Record.stopped_disable (hd₁.disciplined hd)
  have hd := hd₁.trans hd₂
  exact ⟨_, hv₂, { hd with quiet := fun _ hdis _ _ => hstop hdis }, hd₂.invalid hinvalid, hstop⟩

theorem drifts_closeSubscription (ht : t.Drifts) (c : Connection) (sid : Sid) :
    c.Drifts calm (c.closeSubscription t sid) := by
  have hd : c.Drifts (· ≠ sid) (c.closeSubscription t sid) :=
    (drifts_teardown ht c sid).trans (drifts_disable _ sid)
  -- in between the subscription is invalid and its worker still runs, so its own record is
  -- followed through both steps at once
  refine ⟨hd.issued, hd.blank, fun other v hv => ?_⟩
  by_cases ho : other = sid
  · subst ho
    obtain ⟨v', hv', hd', -, -⟩ := closeSubscription_eq ht hv
    exact ⟨v', hv', hd'.mono fun _ => trivial⟩
  · obtain ⟨v', hv', hd'⟩ := hd.record other v hv
    exact ⟨v', hv', hd'.mono fun _ => ho⟩

theorem drifts_foldl_closeSubscription (ht : t.Drifts) (sids : List Sid) (c : Connection) :
    c.Drifts calm (sids.foldl (fun c sid => c.closeSubscription t sid) c) := by
  induction sids generalizing c with
  | nil => exact .refl c
  | cons sid sids ih => exact (drifts_closeSubscription ht c sid).trans (ih _)

theorem subscription?_stopWorkers (c : Connection) (sid : Sid) :
    c.stopWorkers.subscription? sid = (c.subscription? sid).map Subscription.cancelWorkers := by
  show (c.subscriptions.map Subscription.cancelWorkers).find? (·.sid == sid) = _
  rw [List.find?_map]
  rfl

theorem drifts_stopWorkers (c : Connection) : c.Drifts calm c.stopWorkers := by
  refine ⟨rfl, fun sid hb => ⟨?_, hb.table, hb.story⟩, fun sid v hv => ?_⟩
  · rw [subscription?_stopWorkers, hb.absent]
    rfl
  · obtain ⟨hs, hl, hst⟩ := record?_eq_some_iff.1 hv
    refine ⟨v.update Subscription.cancelWorkers, record?_eq_some_iff.2 ⟨?_, hl, hst⟩,
      Record.drifts_cancelWorkers _ v⟩
    rw [subscription?_stopWorkers, hs]
    rfl

theorem drifts_close (ht : t.Drifts) (c : Connection) : c.Drifts calm (c.close t) := by
  unfold close
  split
  · exact .refl c
  · have hmark : c.Drifts calm { c with closed := true, registry := c.registry.cancelAll.2 } :=
      drifts_of_eq rfl rfl rfl rfl
    have hends := hmark.trans (drifts_foldl_closeSubscription ht c.table _)
    exact (hends.trans (drifts_stopWorkers _)).trans (drifts_log _ rfl)

/-! ## The transport of a connection -/

theorem drifts_react (ht : t.Drifts) (c : Connection) (frame : Frame) (deed : Reaction.Deed) :
    c.Drifts calm (c.react t frame deed).2 := by
  cases deed with
  | closeConnection => exact drifts_close ht c
  | reply payload =>
    cases frame with
    | publish subject replyTo body =>
      cases replyTo with
      | some key => exact drifts_processInbound c _
      | none => exact .refl c
    | subscribe => exact .refl c
    | unsubscribe => exact .refl c
  | closeSubscriptions => exact drifts_foldl_closeSubscription ht _ c
  | look => exact .refl c

theorem drifts_reactTo (ht : t.Drifts) (reaction : Reaction) (o : Outgoing) (c : Connection) :
    c.Drifts calm (c.reactTo t reaction o) := by
  unfold reactTo
  split
  · have hd : c.Drifts calm (c.react t o.frame reaction.deed).2 :=
      drifts_react ht c o.frame reaction.deed
    split
    · next finding c' heq =>
      rw [heq] at hd
      exact hd.trans (drifts_log _ rfl)
    · next c' heq =>
      rw [heq] at hd
      exact hd
  · exact .refl c

theorem drifts_offerThrough (gate : Gate) (o : Outgoing) (c : Connection) :
    c.Drifts calm (c.offerThrough gate o).2 := by
  unfold offerThrough
  split
  · exact drifts_log c rfl
  · exact drifts_offer o c

theorem drifts_sendReacting (gate : Gate) (ht : t.Drifts) (reaction : Reaction) (o : Outgoing)
    (c : Connection) : c.Drifts calm (c.sendReacting gate t reaction o).2 := by
  have hreact : c.Drifts calm (c.reactTo t reaction o) := drifts_reactTo ht reaction o c
  unfold sendReacting
  cases reaction.refusal with
  | some e => exact hreact.trans (drifts_log _ rfl)
  | none => exact hreact.trans (drifts_offerThrough gate o _)

theorem drifts_transportAt (gate : Gate) (depth : Nat) : (transportAt gate depth).Drifts := by
  -- what a reaction sends goes through a transport of less depth
  induction depth with
  | zero => exact fun o c => drifts_offerThrough gate o c
  | succ depth ih =>
    intro o c
    unfold transportAt
    split
    · exact drifts_offerThrough gate o c
    · next reaction _ => exact drifts_sendReacting gate ih reaction o c

theorem drifts_gated (gate : Gate) : (gated gate).Drifts := fun o c => drifts_transportAt gate _ o c

theorem drifts_transport : transport.Drifts := drifts_gated .clear

end Connection

end PubSub
