import PubSub.Connection.Part
import PubSub.Proofs.Connection.Flow

/-!
# How a part of a connection is seen

What is seen of a subscription settles everything about it but its workers, and of those it settles
what becomes of them. A change that has to do with one subscription only can then be looked at in
three cases: it lies outside the part, it is not there, or it is there and seen to be the same.

## Main results

- `Subscription.eq_of_seen_eq` — subscriptions that are seen alike differ in their workers only
- `Connection.Alike.at` — a change that has to do with one subscription only
- `Connection.Alike.modify`, `Connection.Alike.log`, `Connection.Alike.send` — the basic changes
-/

namespace PubSub

/-! ## How workers are seen -/

namespace Worker

@[simp] theorem cancelled_seen (w : Worker) : w.seen.cancelled = w.cancelled := by
  obtain ⟨cancelled, phase⟩ := w
  cases phase <;> rfl

@[simp] theorem hasReceiver_seen (w : Worker) : w.seen.hasReceiver = w.hasReceiver := by
  obtain ⟨cancelled, phase⟩ := w
  cases cancelled <;> cases phase <;> rfl

/-- A worker that goes to a phase looks as it did before only in whether it was told to end. -/
theorem seen_goTo {w w' : Worker} (h : w.seen = w'.seen) (p : Phase) :
    ({ w with phase := p } : Worker).seen = ({ w' with phase := p } : Worker).seen := by
  have hcancelled : w.cancelled = w'.cancelled := by
    rw [← cancelled_seen w, h, cancelled_seen]
  simp only [seen, hcancelled]

theorem seen_cancel {w w' : Worker} (h : w.seen = w'.seen) :
    ({ w with cancelled := true } : Worker).seen = ({ w' with cancelled := true } : Worker).seen := by
  have hidem : ∀ w : Worker, ({ w with cancelled := true } : Worker).seen =
      ({ w.seen with cancelled := true } : Worker).seen := by
    intro w
    obtain ⟨cancelled, phase⟩ := w
    cases cancelled <;> cases phase <;> rfl
  rw [hidem w, h, ← hidem w']

end Worker

namespace Subscription

variable {s s' : Subscription}

/-- Subscriptions that are seen alike differ in their workers only. -/
theorem eq_of_seen_eq (h : s.seen = s'.seen) : s' = { s with workers := s'.workers } := by
  obtain ⟨⟩ := s
  obtain ⟨⟩ := s'
  simp only [seen, mk.injEq] at h
  simp [h]

theorem workers_of_seen_eq (h : s.seen = s'.seen) :
    s.workers.map Worker.seen = s'.workers.map Worker.seen := congrArg workers h

theorem worker_of_seen_eq (h : s.seen = s'.seen) (i : Nat) :
    (s.workers[i]?).map Worker.seen = (s'.workers[i]?).map Worker.seen := by
  have hi := congrArg (·[i]?) (workers_of_seen_eq h)
  simpa using hi

theorem isStarted_of_seen_eq (h : s.seen = s'.seen) : s.isStarted = s'.isStarted := by
  have hcurrent : s.seen.current = s'.seen.current := congrArg current h
  change s.current = s'.current at hcurrent
  simp only [isStarted, hcurrent]
  cases s'.current with
  | none => rfl
  | some i =>
    have hi := worker_of_seen_eq h i
    simp only [Option.bind_some]
    cases hw : s.workers[i]? with
    | none =>
      cases hw' : s'.workers[i]? with
      | none => rfl
      | some w' => simp [hw, hw'] at hi
    | some w =>
      cases hw' : s'.workers[i]? with
      | none => simp [hw, hw'] at hi
      | some w' =>
        have hcancelled : w.seen.cancelled = w'.seen.cancelled := by
          simp only [hw, hw', Option.map_some, Option.some.injEq] at hi
          rw [hi]
        simpa using hcancelled

/-- The same change of one worker. -/
theorem seen_modifyWorker (h : s.seen = s'.seen) (i : Nat) {f : Worker → Worker}
    (hf : ∀ w w', w.seen = w'.seen → (f w).seen = (f w').seen) :
    (s.modifyWorker i f).seen = (s'.modifyWorker i f).seen := by
  have hworkers : (s.workers.modify i f).map Worker.seen = (s'.workers.modify i f).map Worker.seen := by
    refine List.ext_getElem? fun j => ?_
    have hj := worker_of_seen_eq h j
    simp only [List.getElem?_map, List.getElem?_modify]
    cases hw : s.workers[j]? <;> cases hw' : s'.workers[j]? <;> simp only [hw, hw'] at hj ⊢
    · cases hj
    · cases hj
    · next w w' =>
      have heq : w.seen = w'.seen := Option.some.inj hj
      by_cases hij : i = j <;> simp [hij, hf w w' heq, heq]
  rw [eq_of_seen_eq h]
  simp only [modifyWorker, seen, hworkers]

theorem seen_setPhase (h : s.seen = s'.seen) (i : Nat) (p : Worker.Phase) :
    (s.setPhase i p).seen = (s'.setPhase i p).seen :=
  seen_modifyWorker h i fun _ _ hw => Worker.seen_goTo hw p

theorem seen_enable (h : s.seen = s'.seen) (stopping : Bool) :
    (s.enable stopping).1 = (s'.enable stopping).1 ∧
      (s.enable stopping).2.seen = (s'.enable stopping).2.seen := by
  have hstarted := isStarted_of_seen_eq h
  have hlength : s.workers.length = s'.workers.length := by
    simpa using congrArg List.length (workers_of_seen_eq h)
  simp only [enable, hstarted]
  split
  · exact ⟨rfl, h⟩
  · refine ⟨rfl, ?_⟩
    rw [eq_of_seen_eq h]
    simp only [seen, List.map_append, workers_of_seen_eq h, hlength]

theorem seen_disable (h : s.seen = s'.seen) :
    s.disable.1 = s'.disable.1 ∧ s.disable.2.seen = s'.disable.2.seen := by
  have hstarted := isStarted_of_seen_eq h
  have hcurrent : s.seen.current = s'.seen.current := congrArg current h
  change s.current = s'.current at hcurrent
  simp only [disable, hstarted, hcurrent]
  cases s'.current with
  | none => exact ⟨rfl, h⟩
  | some i =>
    refine ⟨rfl, ?_⟩
    have hmodified := seen_modifyWorker h i fun _ _ => Worker.seen_cancel
    exact congrArg (fun s : Subscription => { s with current := none }) hmodified

theorem seen_enqueue (h : s.seen = s'.seen) (m : Message) :
    (s.enqueue m).map seen = (s'.enqueue m).map seen := by
  have hworkers := workers_of_seen_eq h
  rw [eq_of_seen_eq h]
  simp only [enqueue]
  split
  · simp [seen, hworkers]
  · rfl

theorem seen_claim (h : s.seen = s'.seen) (ceiling : Nat) :
    (s.claim ceiling).map (Prod.map id seen) = (s'.claim ceiling).map (Prod.map id seen) := by
  have hworkers := workers_of_seen_eq h
  rw [eq_of_seen_eq h]
  simp only [claim]
  split
  · simp [seen, hworkers]
  · rfl

theorem seen_exited (h : s.seen = s'.seen) (i : Nat) : (s.exited i).seen = (s'.exited i).seen := by
  have hphase := seen_setPhase h i .finished
  have hvalid : s'.valid = s.valid := by rw [eq_of_seen_eq h]
  simp only [exited]
  show (if s.valid then _ else _ : Subscription).seen = (if s'.valid then _ else _ : Subscription).seen
  rw [hvalid]
  split
  · exact hphase
  · have hqueue : s'.queue = s.queue := by rw [eq_of_seen_eq h]
    show ({ s.setPhase i .finished with queue := s.queue.close } : Subscription).seen =
      ({ s'.setPhase i .finished with queue := s'.queue.close } : Subscription).seen
    rw [hqueue]
    exact congrArg (fun s' : Subscription => { s' with queue := s.queue.close }) hphase

end Subscription

/-! ## Connections that are alike -/

namespace Connection

variable {part : Part} {c d e : Connection} {sid : Sid}

theorem Alike.refl (part : Part) (c : Connection) : c.Alike part c := rfl

theorem Alike.symm (h : c.Alike part d) : d.Alike part c := Eq.symm h

theorem Alike.trans (h : c.Alike part d) (h' : d.Alike part e) : c.Alike part e := Eq.trans h h'

theorem Alike.within (h : c.Alike part d) : c.within part = d.within part := h

/-- What two operations come to that answer the same. -/
theorem exists_of_fst_eq {α : Type} {x y : α × Connection} (hfst : x.1 = y.1)
    (h : x.2.Alike part y.2) : ∃ a c d, x = (a, c) ∧ y = (a, d) ∧ c.Alike part d :=
  ⟨x.1, x.2, y.2, rfl, Prod.ext hfst.symm rfl, h⟩

/-- What is left as it is agrees. -/
theorem Alike.get {α : Type} (h : c.Alike part d) {f : Connection → α}
    (hf : ∀ c : Connection, f (c.within part) = f c) : f c = f d :=
  (hf c).symm.trans ((congrArg f h.within).trans (hf d))

theorem Alike.closed (h : c.Alike part d) : c.closed = d.closed :=
  h.get (f := Connection.closed) fun _ => rfl

theorem Alike.announced (h : c.Alike part d) : c.announced = d.announced :=
  h.get (f := Connection.announced) fun _ => rfl

theorem Alike.clock (h : c.Alike part d) : c.clock = d.clock :=
  h.get (f := Connection.clock) fun _ => rfl

theorem Alike.config (h : c.Alike part d) : c.config = d.config :=
  h.get (f := Connection.config) fun _ => rfl

theorem Alike.inbox (h : c.Alike part d) : c.inbox = d.inbox :=
  h.get (f := Connection.inbox) fun _ => rfl

theorem Alike.handles (h : c.Alike part d) : c.handles = d.handles :=
  h.get (f := Connection.handles) fun _ => rfl

theorem Alike.issuedSids (h : c.Alike part d) : c.issuedSids = d.issuedSids :=
  h.get (f := Connection.issuedSids) fun _ => rfl

theorem Alike.journal (h : c.Alike part d) :
    c.journal.filter part.hears = d.journal.filter part.hears :=
  congrArg Connection.journal h.within

theorem Alike.registry (h : c.Alike part d) : part.registry c.registry = part.registry d.registry :=
  congrArg Connection.registry h.within

theorem Alike.sweeper (h : c.Alike part d) : part.sweeper c.sweeper = part.sweeper d.sweeper :=
  congrArg Connection.sweeper h.within

theorem Alike.isStopping (h : c.Alike part d) : c.isStopping = d.isStopping := by
  have hshutdown := congrArg Sweeper.shutdown h.sweeper
  cases part <;> exact hshutdown

theorem Alike.mem_table (h : c.Alike part d) (hp : part.holds sid = true) :
    sid ∈ c.table ↔ sid ∈ d.table := by
  have htable : c.table.filter part.holds = d.table.filter part.holds :=
    congrArg Connection.table h.within
  have hmem : ∀ table : List Sid, sid ∈ table ↔ sid ∈ table.filter part.holds := by
    simp [List.mem_filter, hp]
  rw [hmem, htable, ← hmem]

/-- The subscription of the part is the only one that it holds. -/
theorem eq_of_holds (hp : part.holds sid = true) : part = .subscription sid := by
  cases part with
  | subscription other => rw [eq_of_beq hp]
  | desk => cases hp

theorem Alike.seen (h : c.Alike part d) : (part.find? c.subscriptions).map Subscription.seen =
    (part.find? d.subscriptions).map Subscription.seen := by
  have hlist := congrArg (fun c : Connection => c.subscriptions.head?) h.within
  simpa [Connection.within] using hlist

theorem Alike.subscription? (h : c.Alike part d) (hp : part.holds sid = true) :
    (c.subscription? sid).map Subscription.seen = (d.subscription? sid).map Subscription.seen := by
  have hseen := h.seen
  rw [eq_of_holds hp] at hseen
  exact hseen

/-- Either both have the subscription, and see the same of it, or neither has it. -/
theorem Alike.subscription?_cases (h : c.Alike part d) (hp : part.holds sid = true) :
    c.subscription? sid = none ∧ d.subscription? sid = none ∨
      ∃ s s', c.subscription? sid = some s ∧ d.subscription? sid = some s' ∧ s.seen = s'.seen := by
  have hsub := h.subscription? hp
  cases hc : c.subscription? sid with
  | none =>
    rw [hc] at hsub
    exact Or.inl ⟨rfl, Option.map_eq_none_iff.1 hsub.symm⟩
  | some s =>
    rw [hc] at hsub
    obtain ⟨s', hd, hs⟩ := Option.map_eq_some_iff.1 hsub.symm
    exact Or.inr ⟨s, s', rfl, hd, hs.symm⟩

/-- What only one subscription has to do with: nothing happens elsewhere, nothing happens without it,
and what happens depends on how it is seen. -/
theorem Alike.at (h : c.Alike part d) (sid : Sid) {f : Connection → Connection}
    (helsewhere : part.holds sid = false → ∀ c : Connection, c.Alike part (f c))
    (habsent : ∀ c : Connection, c.subscription? sid = none → c.Alike part (f c))
    (hpresent : part.holds sid = true → ∀ s s', c.subscription? sid = some s →
      d.subscription? sid = some s' → s.seen = s'.seen → (f c).Alike part (f d)) :
    (f c).Alike part (f d) := by
  have hboth : c.Alike part (f c) → d.Alike part (f d) → (f c).Alike part (f d) :=
    fun hc hd => hc.symm.trans (h.trans hd)
  cases hp : part.holds sid with
  | false => exact hboth (helsewhere hp c) (helsewhere hp d)
  | true =>
    rcases h.subscription?_cases hp with ⟨hc, hd⟩ | ⟨s, s', hc, hd, hs⟩
    · exact hboth (habsent c hc) (habsent d hd)
    · exact hpresent hp s s' hc hd hs

/-! ## Basic changes -/

theorem within_log (c : Connection) (part : Part) (e : Event) :
    (c.log e).within part = if part.hears e then (c.within part).log e else c.within part := by
  cases he : part.hears e <;> simp [log, within, he]

theorem alike_log (c : Connection) {e : Event} (he : part.hears e = false) :
    c.Alike part (c.log e) := by
  rw [Alike, within_log, he]
  rfl

theorem Alike.log (h : c.Alike part d) (e : Event) : (c.log e).Alike part (d.log e) := by
  rw [Alike, within_log, within_log, h]

/-- The registry is looked at by the desk only. -/
theorem Alike.onRegistry (h : c.Alike part d) (f : Registry → Registry) :
    ({ c with registry := f c.registry } : Connection).Alike part
      { d with registry := f d.registry } := by
  have hregistry : part.registry (f c.registry) = part.registry (f d.registry) := by
    cases part with
    | subscription sid => rfl
    | desk => exact congrArg f h.registry
  show ({ c.within part with registry := part.registry (f c.registry) } : Connection) =
    { d.within part with registry := part.registry (f d.registry) }
  rw [h, hregistry]

theorem find?_modifySubscription (part : Part) (c : Connection)
    {f : Subscription → Subscription} (hf : ∀ s, s.sid = sid → (f s).sid = sid) :
    part.find? (c.modifySubscription sid f).subscriptions =
      if part.holds sid then (c.subscription? sid).map f else part.find? c.subscriptions := by
  cases part with
  | desk => rfl
  | subscription other =>
    simp only [Part.holds, beq_iff_eq, eq_comm (a := sid)]
    exact subscription?_modifySubscription c sid hf other

/-- Other subscriptions, with the same one in the part. -/
theorem Alike.withSubscriptions (h : c.Alike part d) {l l' : List Subscription}
    (hl : (part.find? l).map Subscription.seen = (part.find? l').map Subscription.seen) :
    ({ c with subscriptions := l } : Connection).Alike part { d with subscriptions := l' } := by
  have heq : ∀ (c : Connection) (l : List Subscription),
      ({ c with subscriptions := l } : Connection).within part = { c.within part with
        subscriptions := ((part.find? l).map Subscription.seen).toList } := fun _ _ => rfl
  rw [Alike, heq c l, heq d l', hl, h.within]

theorem alike_modifySubscription (c : Connection) {f : Subscription → Subscription}
    (hf : ∀ s, s.sid = sid → (f s).sid = sid)
    (h : part.holds sid = true → ∀ s, c.subscription? sid = some s → (f s).seen = s.seen) :
    c.Alike part (c.modifySubscription sid f) := by
  refine (Alike.refl part c).withSubscriptions (l := c.subscriptions) ?_
  show _ = (part.find? (c.modifySubscription sid f).subscriptions).map _
  rw [find?_modifySubscription part c hf]
  split
  · next hp =>
    rw [eq_of_holds hp]
    show (c.subscription? sid).map _ = _
    cases hs : c.subscription? sid with
    | none => rfl
    | some s => exact congrArg some (h hp s hs).symm
  · rfl

theorem alike_elsewhere (c : Connection) {f : Subscription → Subscription}
    (hf : ∀ s, s.sid = sid → (f s).sid = sid) (hp : part.holds sid = false) :
    c.Alike part (c.modifySubscription sid f) :=
  alike_modifySubscription c hf fun hp' => by
    rw [hp] at hp'
    cases hp'

theorem alike_replace (c : Connection) {s : Subscription} (hs : s.sid = sid)
    (hp : part.holds sid = false) : c.Alike part (c.modifySubscription sid fun _ => s) :=
  alike_elsewhere c (fun _ _ => hs) hp

/-- The same is done to a subscription. -/
theorem Alike.modify (h : c.Alike part d) {f g : Subscription → Subscription}
    (hf : ∀ s, s.sid = sid → (f s).sid = sid) (hg : ∀ s, s.sid = sid → (g s).sid = sid)
    (hfg : ∀ s s', s.seen = s'.seen → (f s).seen = (g s').seen) :
    (c.modifySubscription sid f).Alike part (d.modifySubscription sid g) := by
  refine h.withSubscriptions ?_
  show (part.find? (c.modifySubscription sid f).subscriptions).map _ =
    (part.find? (d.modifySubscription sid g).subscriptions).map _
  rw [find?_modifySubscription part c hf, find?_modifySubscription part d hg]
  split
  · next hp =>
    rcases h.subscription?_cases hp with ⟨hc, hd⟩ | ⟨s, s', hc, hd, hs⟩
    · rw [hc, hd]
      rfl
    · rw [hc, hd]
      exact congrArg some (hfg s s' hs)
  · exact h.seen

theorem Alike.replace (h : c.Alike part d) {s s' : Subscription} (hs : s.seen = s'.seen)
    (hsid : s.sid = sid) : (c.modifySubscription sid fun _ => s).Alike part
      (d.modifySubscription sid fun _ => s') := by
  have hsid' : s'.seen.sid = sid := hs ▸ hsid
  exact h.modify (fun _ _ => hsid) (fun _ _ => hsid') fun _ _ _ => hs

/-- The same is done to a subscription, and not to its workers. -/
theorem Alike.update (h : c.Alike part d) (f : Subscription → Subscription)
    (hf : ∀ s, (f s).sid = s.sid) (hseen : ∀ s, (f s).seen = f s.seen) :
    (c.modifySubscription sid f).Alike part (d.modifySubscription sid f) :=
  h.modify (fun s hs => (hf s).trans hs) (fun s hs => (hf s).trans hs) fun s s' hs => by
    rw [hseen, hseen, hs]

/-! ## Frames -/

variable {t : Transport}

theorem fst_of_accepts (ht : t.Accepts) (o : Outgoing) (c : Connection) : (t o c).1 = .ok () := by
  obtain ⟨outbound, heq⟩ := ht o c
  rw [heq]

theorem Alike.send (ht : t.Accepts) (h : c.Alike part d) (o : Outgoing) :
    (t o c).2.Alike part (t o d).2 := by
  obtain ⟨outbound, hc⟩ := ht o c
  obtain ⟨outbound', hd⟩ := ht o d
  rw [hc, hd]
  exact Alike.log (c := { c with outbound := outbound }) (d := { d with outbound := outbound' }) h _

/-- A frame that names no subscription of the part. -/
theorem alike_send (ht : t.Accepts) (c : Connection) {o : Outgoing}
    (ho : o.frame.sid?.any part.holds = false) : c.Alike part (t o c).2 := by
  obtain ⟨outbound, hc⟩ := ht o c
  rw [hc]
  exact alike_log { c with outbound := outbound } ho

end Connection

end PubSub
