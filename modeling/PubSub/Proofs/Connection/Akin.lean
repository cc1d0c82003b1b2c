import PubSub.Proofs.Connection.Pruned

/-!
# Connections that differ in spent workers

Whatever is done to two connections of which the same is left without spent workers and refused
announcements answers the same and leaves the same again, as long as the transport takes no notice
of the difference either.

## Main results

- `Connection.Akin.performOver` — whatever is done from outside
- `Connection.heedless_gated` — the transport of a connection, with a gate that takes no notice
-/

namespace PubSub

namespace Connection

/-- Two connections that differ in spent workers and refused announcements only. -/
def Akin (c d : Connection) : Prop := c.pruned = d.pruned

/-- Two results that answer the same and leave connections that differ in no more than that. -/
structure Twin {α : Type} (x y : α × Connection) : Prop where
  fst : x.1 = y.1
  snd : x.2.Akin y.2

end Connection

/-- A transport that takes no notice of spent workers and of announcements that were refused. -/
def Transport.Heedless (t : Transport) : Prop :=
  ∀ (o : Outgoing) (c d : Connection), c.Akin d → Connection.Twin (t o c) (t o d)

namespace Connection

variable {α : Type} {c d e : Connection} {sid : Sid} {t : Transport}

theorem Akin.refl (c : Connection) : c.Akin c := rfl

theorem Akin.symm (h : c.Akin d) : d.Akin c := Eq.symm h

theorem Akin.trans (h : c.Akin d) (h' : d.Akin e) : c.Akin e := Eq.trans h h'

theorem Akin.pruned (h : c.Akin d) : c.pruned = d.pruned := h

/-- The common answer, and what it leaves. -/
theorem Twin.exists {x y : α × Connection} (h : Twin x y) :
    ∃ a c d, x = (a, c) ∧ y = (a, d) ∧ c.Akin d :=
  ⟨x.1, x.2, y.2, rfl, Prod.ext h.fst.symm rfl, h.snd⟩

/-- What is left as it is agrees. -/
theorem Akin.get (h : c.Akin d) {f : Connection → α} (hf : ∀ c : Connection, f c.pruned = f c) :
    f c = f d := (hf c).symm.trans ((congrArg f h.pruned).trans (hf d))

theorem Akin.closed (h : c.Akin d) : c.closed = d.closed :=
  h.get (f := Connection.closed) fun _ => rfl

theorem Akin.announced (h : c.Akin d) : c.announced = d.announced :=
  h.get (f := Connection.announced) fun _ => rfl

theorem Akin.clock (h : c.Akin d) : c.clock = d.clock :=
  h.get (f := Connection.clock) fun _ => rfl

theorem Akin.config (h : c.Akin d) : c.config = d.config :=
  h.get (f := Connection.config) fun _ => rfl

theorem Akin.inbox (h : c.Akin d) : c.inbox = d.inbox :=
  h.get (f := Connection.inbox) fun _ => rfl

theorem Akin.handles (h : c.Akin d) : c.handles = d.handles :=
  h.get (f := Connection.handles) fun _ => rfl

theorem Akin.opener (h : c.Akin d) : c.opener = d.opener :=
  h.get (f := Connection.opener) fun _ => rfl

theorem Akin.issuedSids (h : c.Akin d) : c.issuedSids = d.issuedSids :=
  h.get (f := Connection.issuedSids) fun _ => rfl

theorem Akin.registry (h : c.Akin d) : c.registry = d.registry :=
  h.get (f := Connection.registry) fun _ => rfl

theorem Akin.sweeper (h : c.Akin d) : c.sweeper = d.sweeper :=
  h.get (f := Connection.sweeper) fun _ => rfl

theorem Akin.table (h : c.Akin d) : c.table = d.table :=
  h.get (f := Connection.table) fun _ => rfl

theorem Akin.outbound (h : c.Akin d) : c.outbound = d.outbound :=
  h.get (f := Connection.outbound) fun _ => rfl

theorem Akin.reactions (h : c.Akin d) : c.reactions = d.reactions :=
  h.get (f := Connection.reactions) fun _ => rfl

theorem Akin.hook (h : c.Akin d) : c.hook = d.hook :=
  h.get (f := Connection.hook) fun _ => rfl

theorem Akin.id (h : c.Akin d) : c.id = d.id :=
  h.get (f := Connection.id) fun _ => rfl

theorem Akin.isStopping (h : c.Akin d) : c.isStopping = d.isStopping :=
  h.get (f := Connection.isStopping) fun _ => rfl

theorem Akin.journal (h : c.Akin d) :
    c.journal.filter (!·.isRefusedStart) = d.journal.filter (!·.isRefusedStart) :=
  congrArg Connection.journal h.pruned

theorem Akin.subscriptions (h : c.Akin d) :
    c.subscriptions.map Subscription.pruned = d.subscriptions.map Subscription.pruned :=
  congrArg Connection.subscriptions h.pruned

theorem subscription?_pruned (c : Connection) (sid : Sid) :
    c.pruned.subscription? sid = (c.subscription? sid).map Subscription.pruned :=
  List.find?_map

/-- Either both have the subscription, and the same is left of it, or neither has it. -/
theorem Akin.subscription?_cases (h : c.Akin d) (sid : Sid) :
    c.subscription? sid = none ∧ d.subscription? sid = none ∨
      ∃ s s', c.subscription? sid = some s ∧ d.subscription? sid = some s' ∧
        s.pruned = s'.pruned := by
  have hsub : (c.subscription? sid).map Subscription.pruned =
      (d.subscription? sid).map Subscription.pruned := by
    rw [← subscription?_pruned, ← subscription?_pruned, h.pruned]
  cases hc : c.subscription? sid with
  | none =>
    rw [hc] at hsub
    exact Or.inl ⟨rfl, Option.map_eq_none_iff.1 hsub.symm⟩
  | some s =>
    rw [hc] at hsub
    obtain ⟨s', hd, hs⟩ := Option.map_eq_some_iff.1 hsub.symm
    exact Or.inr ⟨s, s', rfl, hd, hs.symm⟩

theorem Akin.pruned_of_found (h : c.Akin d) {s s' : Subscription}
    (hs : c.subscription? sid = some s) (hs' : d.subscription? sid = some s') :
    s.pruned = s'.pruned := by
  rcases h.subscription?_cases sid with ⟨hnone, -⟩ | ⟨s₁, s₁', h₁, h₁', heq⟩
  · rw [hs] at hnone
    cases hnone
  · rw [hs] at h₁
    rw [hs'] at h₁'
    rw [Option.some.inj h₁, Option.some.inj h₁', heq]

/-! ## Basic changes -/

theorem pruned_log (c : Connection) (e : Event) :
    (c.log e).pruned = if e.isRefusedStart then c.pruned
      else { c.pruned with journal := e :: c.pruned.journal } := by
  cases he : e.isRefusedStart <;> simp [log, pruned, he]

/-- An announcement that is refused leaves nothing. -/
theorem akin_log (c : Connection) {e : Event} (he : e.isRefusedStart = true) :
    c.Akin (c.log e) := by
  rw [Akin, pruned_log, he]
  rfl

theorem Akin.log (h : c.Akin d) (e : Event) : (c.log e).Akin (d.log e) := by
  rw [Akin, pruned_log, pruned_log, h.pruned]

theorem Akin.log_of_eq (h : c.Akin d) {e e' : Event} (he : e = e') : (c.log e).Akin (d.log e') :=
  he ▸ h.log e

/-- What has nothing to do with workers and the journal. -/
theorem Akin.change (h : c.Akin d) (f : Connection → Connection)
    (hf : ∀ c : Connection, (f c).pruned = f c.pruned) : (f c).Akin (f d) := by
  rw [Akin, hf, hf, h.pruned]

theorem Akin.withSubscriptions (h : c.Akin d) {l l' : List Subscription}
    (hl : l.map Subscription.pruned = l'.map Subscription.pruned) :
    ({ c with subscriptions := l } : Connection).Akin { d with subscriptions := l' } := by
  have heq : ∀ (c : Connection) (l : List Subscription),
      ({ c with subscriptions := l } : Connection).pruned =
        { c.pruned with subscriptions := l.map Subscription.pruned } := fun _ _ => rfl
  rw [Akin, heq c l, heq d l', hl, h.pruned]

/-- Every subscription is changed. -/
theorem Akin.mapSubscriptions (h : c.Akin d) {f g : Subscription → Subscription}
    (hfg : ∀ s s', s.pruned = s'.pruned → (f s).pruned = (g s').pruned) :
    (c.subscriptions.map f).map Subscription.pruned =
      (d.subscriptions.map g).map Subscription.pruned := by
  have hlist := h.subscriptions
  generalize c.subscriptions = l at hlist ⊢
  generalize d.subscriptions = l' at hlist ⊢
  induction l generalizing l' with
  | nil =>
    obtain rfl := List.map_eq_nil_iff.1 hlist.symm
    rfl
  | cons s l ih =>
    cases l' with
    | nil => cases hlist
    | cons s' l' =>
      obtain ⟨hs, hrest⟩ := List.cons.inj hlist
      rw [List.map_cons, List.map_cons, List.map_cons, List.map_cons, hfg s s' hs, ih l' hrest]

theorem sid_of_pruned_eq {s s' : Subscription} (h : s.pruned = s'.pruned) : s'.sid = s.sid := by
  rw [Subscription.eq_of_pruned_eq h]

/-- The same is done to a subscription. -/
theorem Akin.modify (h : c.Akin d) {f g : Subscription → Subscription}
    (hfg : ∀ s s', s.pruned = s'.pruned → (f s).pruned = (g s').pruned) :
    (c.modifySubscription sid f).Akin (d.modifySubscription sid g) := by
  refine h.withSubscriptions (h.mapSubscriptions fun s s' hs => ?_)
  rw [sid_of_pruned_eq hs]
  split
  · exact hfg s s' hs
  · exact hs

theorem Akin.replace (h : c.Akin d) {s s' : Subscription} (hs : s.pruned = s'.pruned) :
    (c.modifySubscription sid fun _ => s).Akin (d.modifySubscription sid fun _ => s') :=
  h.modify fun _ _ _ => hs

/-- The same is done to a subscription, and not to its workers. -/
theorem Akin.update (h : c.Akin d) (f : Subscription → Subscription)
    (hf : ∀ s, (f s).pruned = f s.pruned) :
    (c.modifySubscription sid f).Akin (d.modifySubscription sid f) :=
  h.modify fun s s' hs => by rw [hf, hf, hs]

/-! ## Inbound messages -/

theorem Akin.drop (h : c.Akin d) (sid : Sid) (m : Message) (reason : DropReason) :
    (c.drop sid m reason).Akin (d.drop sid m reason) :=
  (h.change (fun c => { c with counts := c.counts.dropped reason }) fun _ => rfl).log _

theorem Akin.deliverTo (h : c.Akin d) {s s' : Subscription} (hs : s.pruned = s'.pruned)
    (m : Message) : Twin (c.deliverTo s m) (d.deliverTo s' m) := by
  obtain ⟨workers, current, rfl⟩ := Subscription.exists_of_pruned_eq hs
  simp only [Connection.deliverTo, Subscription.enqueue]
  split
  · exact ⟨rfl, h.drop _ _ _⟩
  · split
    · next s₁ heq =>
      split at heq
      · next queue hq =>
        obtain rfl := Option.some.inj heq
        refine ⟨rfl, Akin.log (h.replace ?_) _⟩
        exact congrArg (fun s : Subscription => { s with queue := queue }) hs
      · cases heq
    · next heq =>
      split at heq
      · cases heq
      · exact ⟨rfl, h.drop _ _ _⟩

theorem Akin.deliver (h : c.Akin d) (sid : Sid) (m : Message) :
    Twin (c.deliver sid m) (d.deliver sid m) := by
  simp only [Connection.deliver, lookup, h.table]
  by_cases hmem : sid ∈ d.table
  · simp only [hmem, if_true]
    rcases h.subscription?_cases sid with ⟨hc, hd⟩ | ⟨s, s', hc, hd, hs⟩
    · simp only [hc, hd]
      exact ⟨rfl, h.drop _ _ _⟩
    · simp only [hc, hd]
      exact h.deliverTo hs m
  · simp only [hmem, if_false]
    exact ⟨rfl, h.drop _ _ _⟩

theorem Akin.resolveReply (h : c.Akin d) (key : String) (m : Message) :
    Twin (c.resolveReply key m) (d.resolveReply key m) :=
  ⟨by simp only [Connection.resolveReply, h.registry],
    h.change (fun c => { c with registry := (c.registry.resolveReply key m).2 }) fun _ => rfl⟩

theorem Akin.processInbound (h : c.Akin d) (m : Message) :
    Twin (c.processInbound m) (d.processInbound m) := by
  simp only [Connection.processInbound, h.inbox]
  split
  · exact h.resolveReply m.subject m
  · exact h.deliver m.sid m

/-! ## Workers, and the ends of a subscription -/

theorem Akin.enable (h : c.Akin d) (sid : Sid) : Twin (c.enable sid) (d.enable sid) := by
  rcases h.subscription?_cases sid with ⟨hc, hd⟩ | ⟨s, s', hc, hd, hs⟩
  · simp only [Connection.enable, hc, hd]
    exact ⟨rfl, h⟩
  · have hstarted := Subscription.isStarted_of_pruned_eq hs
    simp only [Connection.enable, hc, hd, h.isStopping]
    refine ⟨?_, h.replace ?_⟩
    · simp only [Subscription.enable, hstarted]
      split <;> rfl
    · rw [Subscription.pruned_enable, Subscription.pruned_enable, hstarted, hs,
        Subscription.receivers_eq hs]

theorem Akin.disable (h : c.Akin d) (sid : Sid) : Twin (c.disable sid) (d.disable sid) := by
  rcases h.subscription?_cases sid with ⟨hc, hd⟩ | ⟨s, s', hc, hd, hs⟩
  · simp only [Connection.disable, hc, hd]
    exact ⟨rfl, h⟩
  · simp only [Connection.disable, hc, hd]
    refine ⟨?_, h.replace ?_⟩
    · rw [Subscription.fst_disable, Subscription.fst_disable,
        Subscription.isStarted_of_pruned_eq hs]
    · rw [Subscription.pruned_disable, Subscription.pruned_disable, hs,
        Subscription.receivers_eq hs]

theorem Akin.sendFor (ht : t.Heedless) (h : c.Akin d) (sid : Sid) (frame : Frame) :
    Twin (c.sendFor t sid frame) (d.sendFor t sid frame) := by
  rcases h.subscription?_cases sid with ⟨hc, hd⟩ | ⟨s, s', hc, hd, hs⟩
  · simp only [Connection.sendFor, hc, hd]
    exact ⟨rfl, h⟩
  · have hattached : s'.attached = s.attached := by rw [Subscription.eq_of_pruned_eq hs]
    simp only [Connection.sendFor, hc, hd, hattached]
    split
    · obtain ⟨verdict, c₁, d₁, hsent, hsent', h₁⟩ := (ht { frame := frame } c d h).exists
      simp only [hsent, hsent']
      exact ⟨rfl, h₁⟩
    · exact ⟨rfl, h⟩

theorem Akin.invalidate (h : c.Akin d) (sid : Sid) :
    (c.invalidate sid).Akin (d.invalidate sid) := by
  have hmodified : (c.modifySubscription sid fun s =>
        { s with valid := false, attached := false }).Akin
      (d.modifySubscription sid fun s => { s with valid := false, attached := false }) :=
    h.update (fun s => { s with valid := false, attached := false }) fun _ => rfl
  exact hmodified.change (fun c => { c with table := c.table.filter (· != sid) }) fun _ => rfl

theorem Akin.teardown (ht : t.Heedless) (h : c.Akin d) (sid : Sid) :
    Twin (c.teardown t sid) (d.teardown t sid) := by
  rcases h.subscription?_cases sid with ⟨hc, hd⟩ | ⟨s, s', hc, hd, hs⟩
  · simp only [Connection.teardown, hc, hd]
    exact ⟨rfl, h⟩
  · have hvalid : s'.valid = s.valid := by rw [Subscription.eq_of_pruned_eq hs]
    have hattached : s'.attached = s.attached := by rw [Subscription.eq_of_pruned_eq hs]
    simp only [Connection.teardown, hc, hd, hvalid, hattached]
    split
    · exact ⟨rfl, h⟩
    · split
      · obtain ⟨verdict, c₁, d₁, hsent, hsent', h₁⟩ :=
          (ht { frame := .unsubscribe sid none } _ _ (h.invalidate sid)).exists
        simp only [hsent, hsent']
        exact ⟨rfl, h₁⟩
      · exact ⟨rfl, h.invalidate sid⟩

theorem Akin.closeSubscription (ht : t.Heedless) (h : c.Akin d) (sid : Sid) :
    (c.closeSubscription t sid).Akin (d.closeSubscription t sid) :=
  ((h.teardown ht sid).snd.disable sid).snd

theorem Akin.unsubscribe (ht : t.Heedless) (h : c.Akin d) (sid : Sid) :
    Twin (c.unsubscribe t sid) (d.unsubscribe t sid) :=
  ⟨(h.teardown ht sid).fst, h.closeSubscription ht sid⟩

/-! ## The start of a subscription, its ceiling and its handler -/

theorem Akin.startSubscription (ht : t.Heedless) (h : c.Akin d) (sid : Sid) :
    Twin (c.startSubscription t sid) (d.startSubscription t sid) := by
  rcases h.subscription?_cases sid with ⟨hc, hd⟩ | ⟨s, s', hc, hd, hs⟩
  · simp only [Connection.startSubscription, hc, hd]
    exact ⟨rfl, h⟩
  · have hvalid : s'.valid = s.valid := by rw [Subscription.eq_of_pruned_eq hs]
    have hsubject : s'.subject = s.subject := by rw [Subscription.eq_of_pruned_eq hs]
    have hgroup : s'.queueGroup = s.queueGroup := by rw [Subscription.eq_of_pruned_eq hs]
    obtain ⟨started, c₁, d₁, hmade, hmade', h₁⟩ := (h.enable sid).exists
    simp only [Connection.startSubscription, hc, hd, hvalid, hsubject, hgroup, hmade, hmade']
    split
    · exact ⟨rfl, h⟩
    · cases started with
      | false => exact ⟨rfl, h₁⟩
      | true =>
        obtain ⟨result, c₂, d₂, hsent, hsent', h₂⟩ :=
          (h₁.sendFor ht sid (.subscribe sid s.subject s.queueGroup)).exists
        simp only [hsent, hsent']
        cases result with
        | ok => exact ⟨rfl, h₂⟩
        | error e => exact ⟨rfl, (h₂.disable sid).snd⟩

theorem Akin.autoUnsubscribe (ht : t.Heedless) (h : c.Akin d) (sid : Sid) (max : Nat) :
    Twin (c.autoUnsubscribe t sid max) (d.autoUnsubscribe t sid max) := by
  rcases h.subscription?_cases sid with ⟨hc, hd⟩ | ⟨s, s', hc, hd, hs⟩
  · simp only [Connection.autoUnsubscribe, hc, hd]
    exact ⟨rfl, h⟩
  · have hvalid : s'.valid = s.valid := by rw [Subscription.eq_of_pruned_eq hs]
    have hdelivered : s'.delivered = s.delivered := by rw [Subscription.eq_of_pruned_eq hs]
    have hset : ((c.modifySubscription sid fun s => { s with max := max }).log
          (.ceilingSet sid max)).Akin
        ((d.modifySubscription sid fun s => { s with max := max }).log (.ceilingSet sid max)) :=
      (h.update (fun s => { s with max := max }) fun _ => rfl).log _
    simp only [Connection.autoUnsubscribe, hc, hd, hvalid, hdelivered]
    split
    · exact ⟨rfl, h⟩
    · split
      · exact ⟨rfl, hset⟩
      · split
        · exact hset.unsubscribe ht sid
        · exact hset.sendFor ht sid _

theorem Akin.setHandler (h : c.Akin d) (sid : Sid) (handler : Handler) :
    (c.setHandler sid handler).Akin (d.setHandler sid handler) := by
  rcases h.subscription?_cases sid with ⟨hc, hd⟩ | ⟨s, s', hc, hd, hs⟩
  · simp only [Connection.setHandler, hc, hd]
    exact h
  · simp only [Connection.setHandler, hc, hd]
    exact (h.update (fun s => { s with handler := some handler }) fun _ => rfl).log _

/-! ## The close of a connection -/

theorem Akin.closeSubscriptions (ht : t.Heedless) (h : c.Akin d) {sids sids' : List Sid}
    (hsids : sids = sids') : (sids.foldl (fun c sid => c.closeSubscription t sid) c).Akin
      (sids'.foldl (fun c sid => c.closeSubscription t sid) d) := by
  subst hsids
  induction sids generalizing c d with
  | nil => exact h
  | cons sid sids ih => exact ih (h.closeSubscription ht sid)

theorem Akin.stopWorkers (h : c.Akin d) : c.stopWorkers.Akin d.stopWorkers := by
  have hlist : (c.subscriptions.map Subscription.cancelWorkers).map Subscription.pruned =
      (d.subscriptions.map Subscription.cancelWorkers).map Subscription.pruned := by
    refine h.mapSubscriptions fun s s' hs => ?_
    rw [Subscription.pruned_cancelWorkers, Subscription.pruned_cancelWorkers, hs,
      Subscription.receivers_eq hs]
  exact (h.withSubscriptions hlist).change
    (fun c => { c with sweeper := { c.sweeper with shutdown := true } }) fun _ => rfl

theorem Akin.close (ht : t.Heedless) (h : c.Akin d) : (c.close t).Akin (d.close t) := by
  simp only [Connection.close, h.closed]
  split
  · exact h
  · have hmarked := h.change
      (fun c => { c with closed := true, registry := c.registry.cancelAll.2 }) fun _ => rfl
    have hclosed := hmarked.closeSubscriptions ht h.table
    refine hclosed.stopWorkers.log_of_eq ?_
    rw [hclosed.id, h.registry, h.table]

/-! ## The transport -/

variable {gate : Gate}

theorem Akin.offer (h : c.Akin d) (o : Outgoing) : Twin (c.offer o) (d.offer o) := by
  simp only [Connection.offer, h.outbound]
  split
  · next outbound _ =>
    exact ⟨rfl, (h.change (fun c => { c with outbound := outbound }) fun _ => rfl).log _⟩
  · exact ⟨rfl, h.log _⟩

theorem heedless_offerThrough (hgate : gate.Heedless) : Transport.Heedless (offerThrough gate) := by
  intro o c d h
  simp only [offerThrough, hgate o c d h]
  split
  · exact ⟨rfl, h.log _⟩
  · exact h.offer o

theorem held_eq (h : c.Akin d) :
    (c.subscriptions.filter (·.held)).map (·.sid) =
      (d.subscriptions.filter (·.held)).map (·.sid) := by
  have hpruned : ∀ l : List Subscription, (l.filter (·.held)).map (·.sid) =
      ((l.map Subscription.pruned).filter (·.held)).map (·.sid) := by
    intro l
    rw [List.filter_map, List.map_map]
    rfl
  rw [hpruned, h.subscriptions, ← hpruned]

theorem heldCount_eq (h : c.Akin d) : c.heldCount = d.heldCount := by
  have hlength := congrArg List.length (held_eq h)
  simpa [heldCount] using hlength

theorem Akin.react (ht : t.Heedless) (h : c.Akin d) (frame : Frame) (deed : Reaction.Deed) :
    Twin (c.react t frame deed) (d.react t frame deed) := by
  cases deed with
  | closeConnection => exact ⟨rfl, h.close ht⟩
  | reply payload =>
    cases frame with
    | publish subject replyTo body =>
      cases replyTo with
      | none => exact ⟨rfl, h⟩
      | some replyTo =>
        obtain ⟨taken, c₁, d₁, hmade, hmade', h₁⟩ :=
          (h.processInbound { subject := replyTo, payload := payload }).exists
        simp only [Connection.react, hmade, hmade']
        exact ⟨rfl, h₁⟩
    | subscribe => exact ⟨rfl, h⟩
    | unsubscribe => exact ⟨rfl, h⟩
  | closeSubscriptions =>
    refine ⟨?_, h.closeSubscriptions ht (held_eq h)⟩
    simp only [Connection.react, heldCount_eq h]
  | look =>
    refine ⟨?_, h⟩
    simp only [Connection.react, h.closed, subscriptionCount, h.table, pendingRequests, h.registry]

theorem Akin.reactTo (ht : t.Heedless) (h : c.Akin d) (reaction : Reaction) (o : Outgoing) :
    (c.reactTo t reaction o).Akin (d.reactTo t reaction o) := by
  obtain ⟨finding, c₁, d₁, hmade, hmade', h₁⟩ := (h.react ht o.frame reaction.deed).exists
  simp only [Connection.reactTo, h.opener, h.handles, hmade, hmade']
  split
  · cases finding with
    | none => exact h₁
    | some finding => exact h₁.log _
  · exact h

theorem Akin.sendReacting (hgate : gate.Heedless) (ht : t.Heedless) (h : c.Akin d)
    (reaction : Reaction) (o : Outgoing) :
    Twin (c.sendReacting gate t reaction o) (d.sendReacting gate t reaction o) := by
  have hreacted := h.reactTo ht reaction o
  simp only [Connection.sendReacting]
  split
  · exact ⟨rfl, hreacted.log _⟩
  · exact heedless_offerThrough hgate o _ _ hreacted

theorem heedless_transportAt (hgate : gate.Heedless) (depth : Nat) :
    Transport.Heedless (transportAt gate depth) := by
  induction depth with
  | zero => exact heedless_offerThrough hgate
  | succ depth ih =>
    intro o c d h
    simp only [transportAt, reaction?, h.reactions]
    split
    · exact heedless_offerThrough hgate o c d h
    · exact h.sendReacting hgate ih _ o

theorem heedless_gated (hgate : gate.Heedless) : Transport.Heedless (gated gate) := by
  intro o c d h
  have hlength : c.subscriptions.length = d.subscriptions.length := by
    simpa using congrArg List.length h.subscriptions
  simp only [gated, hlength]
  exact heedless_transportAt hgate _ o c d h

/-! ## Publishing, asking, subscribing -/

theorem Akin.publishFor (ht : t.Heedless) (h : c.Akin d) (onBehalfOf : Option Sid)
    (subject : String) (payload : ByteArray) :
    Twin (c.publishFor t onBehalfOf subject payload)
      (d.publishFor t onBehalfOf subject payload) := by
  obtain ⟨verdict, c₁, d₁, hsent, hsent', h₁⟩ := (ht
    { frame := .publish subject none payload, onBehalfOf := onBehalfOf } c d h).exists
  simp only [Connection.publishFor, h.closed, hsent, hsent']
  split
  · exact ⟨rfl, h⟩
  · split
    · exact ⟨rfl, h⟩
    · exact ⟨rfl, h₁⟩

theorem Akin.announceInbox (ht : t.Heedless) (h : c.Akin d) :
    Twin (c.announceInbox t) (d.announceInbox t) := by
  obtain ⟨verdict, c₁, d₁, hsent, hsent', h₁⟩ := (ht
    { frame := .subscribe replySid d.inbox.wildcard none } c d h).exists
  simp only [Connection.announceInbox, h.announced, h.inbox, hsent, hsent']
  split
  · exact ⟨rfl, h⟩
  · cases verdict with
    | ok => exact ⟨rfl, h₁.change (fun c => { c with announced := true }) fun _ => rfl⟩
    | error e => exact ⟨rfl, h₁⟩

theorem Akin.abandon (h : c.Akin d) (key : String) : (c.abandon key).Akin (d.abandon key) :=
  h.change (fun c => { c with registry := (c.registry.abandon key).2 }) fun _ => rfl

/-- A request that is registered is sent unless the connection was closed meanwhile. -/
theorem Akin.sendRequest (ht : t.Heedless) (h : c.Akin d) (subject : String) (payload : ByteArray)
    {number number' : Nat} (hnumber : number = number') {key key' : String} (hkey : key = key') :
    Twin
      (if c.closed then ((.error .connectionClosed : Except RequestError Nat), c.abandon key)
        else match t { frame := .publish subject (some key) payload } c with
          | (.ok (), c) => (.ok number, c)
          | (.error e, c) => (.error (.transport e), c.abandon key))
      (if d.closed then (.error .connectionClosed, d.abandon key')
        else match t { frame := .publish subject (some key') payload } d with
          | (.ok (), d) => (.ok number', d)
          | (.error e, d) => (.error (.transport e), d.abandon key')) := by
  subst hkey
  obtain ⟨verdict, c₁, d₁, hsent, hsent', h₁⟩ :=
    (ht { frame := .publish subject (some key) payload } c d h).exists
  rw [h.closed, hsent, hsent', hnumber]
  split
  · exact ⟨rfl, h.abandon key⟩
  · cases verdict with
    | ok => exact ⟨rfl, h₁⟩
    | error e => exact ⟨rfl, h₁.abandon key⟩

theorem Akin.request (ht : t.Heedless) (h : c.Akin d) (subject : String) (payload : ByteArray)
    (options : RequestOptions) :
    Twin (c.request t subject payload options) (d.request t subject payload options) := by
  simp only [Connection.request, h.closed]
  split
  · exact ⟨rfl, h⟩
  · split
    · exact ⟨rfl, h⟩
    · obtain ⟨verdict, c₁, d₁, hmade, hmade', h₁⟩ := (h.announceInbox ht).exists
      simp only [hmade, hmade']
      cases verdict with
      | error e => exact ⟨rfl, h₁⟩
      | ok =>
        have hregistered := h₁.change (fun c => { c with
          inbox := c.inbox.next.2
          registry := (c.registry.register c.inbox.next.1 options c.config.requestTimeout
            c.clock).2 }) fun _ => rfl
        have hnumber : (c₁.registry.register c₁.inbox.next.1 options c₁.config.requestTimeout
            c₁.clock).1 = (d₁.registry.register d₁.inbox.next.1 options d₁.config.requestTimeout
              d₁.clock).1 := by
          rw [h₁.registry, h₁.inbox, h₁.config, h₁.clock]
        have hkey : c₁.inbox.next.1 = d₁.inbox.next.1 := by rw [h₁.inbox]
        exact hregistered.sendRequest ht subject payload hnumber hkey

theorem Akin.register (h : c.Akin d) (s : Subscription) : (c.register s).Akin (d.register s) := by
  have hlist : (c.subscriptions ++ [s]).map Subscription.pruned =
      (d.subscriptions ++ [s]).map Subscription.pruned := by
    rw [List.map_append, List.map_append, h.subscriptions]
  exact ((h.withSubscriptions hlist).change
    (fun c => { c with issuedSids := s.sid, table := c.table ++ [s.sid] }) fun _ => rfl).log _

theorem Akin.build (h : c.Akin d) (handle : Nat) (plan : SubscriptionPlan) :
    Twin (c.build handle plan) (d.build handle plan) := by
  simp only [Connection.build, h.closed, h.issuedSids]
  split
  · exact ⟨rfl, h⟩
  · split
    · exact ⟨rfl, h⟩
    · split
      · exact ⟨rfl, h⟩
      · exact ⟨rfl, h.register _⟩

theorem Akin.hold (h : c.Akin d) (sid : Sid) : (c.hold sid).Akin (d.hold sid) :=
  h.update (fun s => { s with held := true }) fun _ => rfl

theorem Akin.letGo (h : c.Akin d) (sid : Sid) : (c.letGo sid).Akin (d.letGo sid) :=
  h.update (fun s => { s with held := false }) fun _ => rfl

theorem Twin.handOver {made made' : Except ConnectionError Sid × Connection}
    (h : Twin made made') : Twin (handOver made) (handOver made') := by
  obtain ⟨result, c₁, d₁, rfl, rfl, h₁⟩ := h.exists
  cases result with
  | ok sid => exact ⟨rfl, h₁.hold sid⟩
  | error e => exact h

theorem Akin.subscribe (ht : t.Heedless) (h : c.Akin d) (handle : Nat) (plan : SubscriptionPlan) :
    Twin (c.subscribe t handle plan) (d.subscribe t handle plan) := by
  obtain ⟨made, c₁, d₁, hmade, hmade', h₁⟩ := (h.build handle plan).exists
  simp only [Connection.subscribe, hmade, hmade']
  cases made with
  | error e => exact ⟨rfl, h₁⟩
  | ok sid =>
    obtain ⟨result, c₂, d₂, hstarted, hstarted', h₂⟩ := (h₁.startSubscription ht sid).exists
    simp only [hstarted, hstarted']
    cases result with
    | ok => exact ⟨rfl, h₂⟩
    | error e => exact ⟨rfl, h₂.closeSubscription ht sid⟩

theorem Akin.addHandle (h : c.Akin d) (handle : Nat) :
    (c.addHandle handle).Akin (d.addHandle handle) :=
  h.change (fun c => { c with handles := c.handles ++ [handle] }) fun _ => rfl

theorem Akin.dropHandle (ht : t.Heedless) (h : c.Akin d) (handle : Nat) :
    (c.dropHandle t handle).Akin (d.dropHandle t handle) := by
  have hdropped := h.change (fun c => { c with handles := c.handles.filter (· != handle) })
    fun _ => rfl
  simp only [Connection.dropHandle, h.handles]
  split
  · exact (h.handles ▸ hdropped).close ht
  · exact h.handles ▸ hdropped

theorem Akin.stepSweeper (h : c.Akin d) : c.stepSweeper.Akin d.stepSweeper :=
  h.change (fun c => c.stepSweeper) fun _ => rfl

/-- Whatever is done from outside. -/
theorem Akin.performOver (ht : t.Heedless) (h : c.Akin d) {m : Move}
    (hm : ∀ sid i, m ≠ .stepWorker sid i) : (c.performOver t m).Akin (d.performOver t m) := by
  cases m with
  | build handle plan => exact (h.build handle plan).handOver.snd
  | subscribe handle plan => exact (h.subscribe ht handle plan).handOver.snd
  | letGo sid => exact h.letGo sid
  | start sid => exact (h.startSubscription ht sid).snd
  | unsubscribe sid => exact (h.unsubscribe ht sid).snd
  | autoUnsubscribe sid max => exact (h.autoUnsubscribe ht sid max).snd
  | closeSubscription sid => exact h.closeSubscription ht sid
  | enable sid => exact (h.enable sid).snd
  | disable sid => exact (h.disable sid).snd
  | setHandler sid handler => exact h.setHandler sid handler
  | deliver sid m => exact (h.deliver sid m).snd
  | deliverTo sid m =>
    rcases h.subscription?_cases sid with ⟨hc, hd⟩ | ⟨s, s', hc, hd, hs⟩
    · simp only [Connection.performOver, hc, hd]
      exact h
    · simp only [Connection.performOver, hc, hd]
      exact (h.deliverTo hs m).snd
  | process m => exact (h.processInbound m).snd
  | resolve key m => exact (h.resolveReply key m).snd
  | publish subject payload => exact (h.publishFor ht none subject payload).snd
  | request subject payload options => exact (h.request ht subject payload options).snd
  | tryResult number =>
    exact h.change (fun c => { c with registry := (c.registry.tryResult number).2 }) fun _ => rfl
  | addHandle handle => exact h.addHandle handle
  | dropHandle handle => exact h.dropHandle ht handle
  | close => exact h.close ht
  | receive count =>
    exact h.change (fun c => { c with outbound := (c.outbound.takeUpTo count).2 }) fun _ => rfl
  | closeReceiver => exact h.change (fun c => { c with outbound := c.outbound.close }) fun _ => rfl
  | dropReceiver =>
    exact h.change (fun c => { c with outbound := c.outbound.dropReceiver }) fun _ => rfl
  | stepWorker sid i => exact absurd rfl (hm sid i)
  | stepSweeper => exact h.stepSweeper
  | setClock now => exact h.change (fun c => { c with clock := now }) fun _ => rfl

end Connection

end PubSub
