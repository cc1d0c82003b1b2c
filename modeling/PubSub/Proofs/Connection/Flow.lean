import PubSub.Connection.Run
import PubSub.Proofs.Connection.Limit
import PubSub.Request.History

/-!
# The flow of a connection

Everything that is ever done to a connection is made of a few sorts of changes, each of them with
what the code checks before it (`Connection.Flow`). An invariant of connections is proved once for
each sort. The close of a connection is a bracket: other changes happen while it is under way, and
only when it is over has everything come to rest.

A flow tells which subscriptions are exposed: only those may be torn down or get another ceiling.

## Main definitions

- `Subscription.Shifts` — a change of one subscription that neither ends nor limits it
- `Connection.Flow` — what becomes of a connection

## Main results

- `Connection.Flow.kept` — every subscription stays, and what of it does not change
- `Connection.Flow.permits` — a transport goes on to react as it did
-/

namespace PubSub

/-- A change of a subscription that neither ends nor limits it, while the workers of its connection
were told to end or not. -/
inductive Subscription.Shifts (stopping : Bool) : Subscription → Subscription → Prop where
  | hold (s : Subscription) (held : Bool) : Shifts stopping s { s with held := held }
  | setHandler (s : Subscription) (handler : Handler) :
    Shifts stopping s { s with handler := some handler }
  | enable (s : Subscription) : Shifts stopping s (s.enable stopping).2
  | disable (s : Subscription) : Shifts stopping s s.disable.2
  /-- A message enters the queue. -/
  | accept {s s' : Subscription} {m : Message} (hvalid : s.valid = true)
    (h : s.enqueue m = some s') : Shifts stopping s s'
  /-- A worker goes on to something, and to an invocation only if it is the one it was at. -/
  | turn (s : Subscription) (i : Nat) {p : Worker.Phase}
    (h : ∀ invocation, p = .handling invocation → ∃ old, s.phase? i = some (.handling old) ∧
      invocation.delivery = old.delivery ∧ invocation.ceiling = old.ceiling ∧
      invocation.count = old.count) : Shifts stopping s (s.setPhase i p)
  | exit (s : Subscription) (i : Nat) : Shifts stopping s (s.exited i)
  /-- A message leaves the queue and is lost. -/
  | take (s : Subscription) {d : Delivery} {q : Dispatch Delivery}
    (h : s.queue.recv = (.entry d, q)) : Shifts stopping s { s with queue := q }
  /-- A message leaves the queue and is given to the handler. -/
  | begin (s : Subscription) (i : Nat) {d : Delivery} {q : Dispatch Delivery}
    {invocation : Invocation} (h : s.queue.recv = (.entry d, q))
    (hdelivery : invocation.delivery = d) (hceiling : invocation.ceiling = s.max) :
    Shifts stopping s (s.began i invocation q)

/-- A subscription that was just made. -/
structure Subscription.IsNew (s : Subscription) : Prop where
  valid : s.valid = true
  attached : s.attached = true
  queue : s.queue = {}
  workers : s.workers = []
  subject : Subject.isValid s.subject = true
  queueGroup : ∀ group, s.queueGroup = some group → Subject.isValid group = true

/-- The worker comes to the end of what the ceiling allows. -/
def Subscription.AtLimit (s : Subscription) (i : Nat) : Prop :=
  s.max ≠ 0 ∧ s.max ≤ s.delivered ∨
    ∃ invocation, s.phase? i = some (.handling invocation) ∧ invocation.ceiling ≠ 0 ∧
      invocation.count = invocation.ceiling

/-- Whether a transport that does this may end subscriptions. -/
def Reaction.Deed.closes : Reaction.Deed → Bool
  | .closeConnection | .closeSubscriptions => true
  | .reply _ | .look => false

namespace Connection

/-- The connection that has sent for a fresh reply subject and registered a request under it. -/
def enrolled (c : Connection) (options : RequestOptions) : Connection :=
  { c with
    inbox := c.inbox.next.2
    registry :=
      (c.registry.register c.inbox.next.1 options c.config.requestTimeout c.clock).2 }

/-- What becomes of a connection when only the `exposed` subscriptions may be ended or limited. -/
inductive Flow (exposed : Sid → Prop) : Connection → Connection → Prop where
  | refl (c : Connection) : Flow exposed c c
  | trans {c c' c'' : Connection} (h : Flow exposed c c') (h' : Flow exposed c' c'') :
    Flow exposed c c''
  | log (c : Connection) (e : Event) : Flow exposed c (c.log e)
  /-- Announcement, handles, channel and clock are nobody else's concern. -/
  | aside (c : Connection) (announced : Bool) (handles : List Nat) (outbound : Outbound Outgoing)
    (clock : Instant) : Flow exposed c { c with
      announced := announced, handles := handles, outbound := outbound, clock := clock }
  | tally (c : Connection) {counts : DeliveryCounts}
    (h : counts.queueClosed = c.counts.queueClosed) : Flow exposed c { c with counts := counts }
  /-- A valid subscription refuses a message, for its queue is closed. -/
  | refuse (c : Connection) {sid : Sid} {s : Subscription} (hs : c.subscription? sid = some s)
    (hvalid : s.valid = true) (hclosed : s.queue.isClosed = true) (m : Message) :
    Flow exposed c (c.drop sid m .queueClosed)
  /-- Something is done to the registry, but no request is made. -/
  | consult (c : Connection) (op : Registry.Op)
    (h : ∀ key options timeout now, op ≠ .register key options timeout now) :
    Flow exposed c { c with registry := c.registry.perform op }
  | sweep (c : Connection) : Flow exposed c c.stepSweeper
  | enrol (c : Connection) (options : RequestOptions) (h : c.closed = false) :
    Flow exposed c (c.enrolled options)
  /-- A request that is made when the connection was closed meanwhile is given up at once. -/
  | forgo (c : Connection) (options : RequestOptions) (h : c.closed = true) :
    Flow exposed c ((c.enrolled options).abandon c.inbox.next.1)
  | shift (c : Connection) {sid : Sid} {f : Subscription → Subscription}
    (hf : ∀ s, s.sid = sid → (f s).sid = sid)
    (h : ∀ s, c.subscription? sid = some s → s.Shifts c.isStopping (f s)) :
    Flow exposed c (c.modifySubscription sid f)
  | limit (c : Connection) {sid : Sid} (h : exposed sid) (max : Nat) :
    Flow exposed c (c.modifySubscription sid fun s => { s with max := max })
  | invalidate (c : Connection) {sid : Sid} (h : exposed sid) : Flow exposed c (c.invalidate sid)
  | register (c : Connection) {s : Subscription} (h : c.closed = false)
    (hsid : s.sid = c.issuedSids + 1) (hnew : s.IsNew) : Flow exposed c (c.register s)
  /-- Every request is given up, everything in the table is closed, and then all workers are told to
  end. -/
  | close {c c' : Connection} (h : c.closed = false)
    (hflow : Flow exposed { c with closed := true, registry := c.registry.cancelAll.2 } c')
    (hends : ∀ sid ∈ c.table, ∀ s, c.subscription? sid = some s →
      ∃ s', c'.subscription? sid = some s' ∧ s'.valid = false) : Flow exposed c c'.stopWorkers

end Connection

/-! ## What stays of a subscription -/

/-- What stays of a subscription; if it is not `exposed`, this includes its validity and its
ceiling, and invocations that begin know that ceiling. -/
structure Subscription.Keeps (exposed : Prop) (s s' : Subscription) : Prop where
  sid : s'.sid = s.sid
  invalid : s.valid = false → s'.valid = false
  delivered : s.delivered ≤ s'.delivered
  valid : ¬exposed → s'.valid = s.valid
  max : ¬exposed → s'.max = s.max
  /-- An invocation at work was so before, or began under the ceiling. -/
  invocation : ¬exposed → ∀ i invocation, s'.phase? i = some (.handling invocation) →
    invocation.ceiling = s.max ∨ ∃ old, s.phase? i = some (.handling old) ∧
      invocation.ceiling = old.ceiling ∧ invocation.count = old.count

namespace Subscription

variable {exposed : Prop} {stopping : Bool} {s s' s'' : Subscription}

theorem Keeps.refl (exposed : Prop) (s : Subscription) : s.Keeps exposed s where
  sid := rfl
  invalid := id
  delivered := Nat.le_refl _
  valid _ := rfl
  max _ := rfl
  invocation _ _ invocation hi := Or.inr ⟨invocation, hi, rfl, rfl⟩

theorem Keeps.trans (h : s.Keeps exposed s') (h' : s'.Keeps exposed s'') :
    s.Keeps exposed s'' where
  sid := h'.sid.trans h.sid
  invalid := h'.invalid ∘ h.invalid
  delivered := Nat.le_trans h.delivered h'.delivered
  valid hn := (h'.valid hn).trans (h.valid hn)
  max hn := (h'.max hn).trans (h.max hn)
  invocation hn i invocation hi := by
    rcases h'.invocation hn i invocation hi with hmax | ⟨old, hold, hceiling, hcount⟩
    · exact Or.inl (hmax.trans (h.max hn))
    · rcases h.invocation hn i old hold with hmax | ⟨older, holder, hceiling', hcount'⟩
      · exact Or.inl (hceiling.trans hmax)
      · exact Or.inr ⟨older, holder, hceiling.trans hceiling', hcount.trans hcount'⟩

/-- Of a subscription that is exposed little has to stay. -/
theorem Keeps.of_exposed (h : exposed) (hsid : s'.sid = s.sid)
    (hinvalid : s.valid = false → s'.valid = false) (hdelivered : s.delivered ≤ s'.delivered) :
    s.Keeps exposed s' where
  sid := hsid
  invalid := hinvalid
  delivered := hdelivered
  valid hn := absurd h hn
  max hn := absurd h hn
  invocation hn := absurd h hn

/-- A change that leaves alone what the workers are at. -/
theorem Keeps.of_phase? (hsid : s'.sid = s.sid) (hvalid : s'.valid = s.valid)
    (hdelivered : s'.delivered = s.delivered) (hmax : s'.max = s.max)
    (hphase : ∀ i invocation, s'.phase? i = some (.handling invocation) →
      s.phase? i = some (.handling invocation)) : s.Keeps exposed s' where
  sid := hsid
  invalid := by rw [hvalid]; exact id
  delivered := Nat.le_of_eq hdelivered.symm
  valid _ := hvalid
  max _ := hmax
  invocation _ i invocation hi := Or.inr ⟨invocation, hphase i invocation hi, rfl, rfl⟩

/-- A worker goes to something else. -/
theorem Keeps.setPhase (h : s.Keeps exposed s') (i : Nat) {p : Worker.Phase}
    (hp : ∀ invocation, p = .handling invocation → invocation.ceiling = s.max ∨
      ∃ old, s.phase? i = some (.handling old) ∧ invocation.ceiling = old.ceiling ∧
        invocation.count = old.count) : s.Keeps exposed (s'.setPhase i p) := by
  refine ⟨h.sid, h.invalid, h.delivered, h.valid, h.max, fun hn j invocation hj => ?_⟩
  rcases Record.handling_setPhase hj with ⟨-, hold⟩ | ⟨rfl, hnew⟩
  · exact h.invocation hn j invocation hold
  · exact hp invocation hnew

/-- What `disable` leaves alone. -/
theorem disable_keeps (s : Subscription) :
    s.disable.2.sid = s.sid ∧ s.disable.2.valid = s.valid ∧ s.disable.2.attached = s.attached ∧
      s.disable.2.delivered = s.delivered ∧ s.disable.2.max = s.max ∧
      s.disable.2.queue = s.queue ∧ ∀ i, s.disable.2.phase? i = s.phase? i := by
  unfold Subscription.disable
  split
  · exact ⟨rfl, rfl, rfl, rfl, rfl, rfl, fun _ => rfl⟩
  · next j _ =>
    refine ⟨rfl, rfl, rfl, rfl, rfl, rfl, fun i => ?_⟩
    have hphases := congrArg (fun l => l[i]?) (Record.phases_modify_cancelled s j)
    simpa [Subscription.phase?] using hphases

/-- What `enable` leaves alone; a worker that it starts has done nothing yet. -/
theorem enable_keeps (s : Subscription) (stopping : Bool) :
    (s.enable stopping).2.sid = s.sid ∧ (s.enable stopping).2.valid = s.valid ∧
      (s.enable stopping).2.attached = s.attached ∧
      (s.enable stopping).2.delivered = s.delivered ∧ (s.enable stopping).2.max = s.max ∧
      (s.enable stopping).2.queue = s.queue ∧
      ∀ i invocation, (s.enable stopping).2.phase? i = some (.handling invocation) →
        s.phase? i = some (.handling invocation) := by
  have hphase : ∀ i invocation, (s.enable stopping).2.phase? i = some (.handling invocation) →
      s.phase? i = some (.handling invocation) := by
    intro i invocation hi
    have hevolves : Record.Evolves False ⟨s, true, []⟩ _ :=
      .enable ⟨s, true, []⟩ stopping fun hf => hf.elim
    rcases hevolves.phase? i with hsame | ⟨-, hnew⟩
    · exact hsame.symm.trans hi
    · cases hnew.symm.trans hi
  rcases Record.workers_enable s stopping with heq | ⟨-, heq⟩
  · rw [heq] at hphase ⊢
    exact ⟨rfl, rfl, rfl, rfl, rfl, rfl, hphase⟩
  · rw [heq] at hphase ⊢
    exact ⟨rfl, rfl, rfl, rfl, rfl, rfl, hphase⟩

theorem exited_keeps (s : Subscription) (i : Nat) :
    (s.exited i).attached = s.attached ∧ (s.exited i).delivered = s.delivered ∧
      (s.exited i).max = s.max := by
  unfold Subscription.exited
  dsimp only
  split <;> exact ⟨rfl, rfl, rfl⟩

theorem phase?_exited (s : Subscription) (i j : Nat) :
    (s.exited i).phase? j = (s.setPhase i .finished).phase? j := by
  rw [Subscription.phase?, Subscription.workers_exited]
  rfl

/-- Telling workers to end does not move them. -/
theorem phase?_cancelWorkers (s : Subscription) (i : Nat) :
    s.cancelWorkers.phase? i = s.phase? i := by
  simp [phase?, cancelWorkers, Function.comp_def]

theorem enqueue_eq {m : Message} (h : s.enqueue m = some s') :
    s.queue.isClosed = false ∧ s' = { s with queue := { s.queue with
      entries := s.queue.entries ++ [⟨m, s.attached⟩], pending := s.queue.pending + 1 } } := by
  unfold Subscription.enqueue Dispatch.enqueue at h
  cases hclosed : s.queue.isClosed with
  | true => simp [hclosed] at h
  | false =>
    rw [hclosed] at h
    exact ⟨rfl, (Option.some.inj h).symm⟩

theorem Shifts.keeps (h : s.Shifts stopping s') : s.Keeps exposed s' := by
  cases h with
  | hold | setHandler | take => exact .of_phase? rfl rfl rfl rfl fun _ _ hi => hi
  | enable =>
    obtain ⟨hsid, hvalid, -, hdelivered, hmax, -, hphase⟩ := s.enable_keeps stopping
    exact .of_phase? hsid hvalid hdelivered hmax hphase
  | disable =>
    obtain ⟨hsid, hvalid, -, hdelivered, hmax, -, hphase⟩ := s.disable_keeps
    exact .of_phase? hsid hvalid hdelivered hmax fun i _ hi => (hphase i).symm.trans hi
  | accept _ h =>
    obtain ⟨-, rfl⟩ := enqueue_eq h
    exact .of_phase? rfl rfl rfl rfl fun _ _ hi => hi
  | turn i h =>
    refine (Keeps.refl exposed s).setPhase i fun invocation hp => Or.inr ?_
    obtain ⟨old, hold, -, hceiling, hcount⟩ := h invocation hp
    exact ⟨old, hold, hceiling, hcount⟩
  | exit i =>
    obtain ⟨-, hdelivered, hmax⟩ := s.exited_keeps i
    refine .of_phase? (s.sid_exited i) (s.valid_exited i) hdelivered hmax fun j invocation hj => ?_
    rw [phase?_exited] at hj
    rcases Record.handling_setPhase hj with ⟨-, hold⟩ | ⟨-, hnew⟩
    · exact hold
    · cases hnew
  | @begin i d q invocation h hdelivery hceiling =>
    have hclaimed : s.Keeps exposed { s with queue := q, delivered := s.delivered + 1 } :=
      ⟨rfl, id, Nat.le_succ _, fun _ => rfl, fun _ => rfl,
        fun _ _ old hold => Or.inr ⟨old, hold, rfl, rfl⟩⟩
    refine hclaimed.setPhase i fun invocation' heq => Or.inl ?_
    cases heq
    exact hceiling

end Subscription

namespace Connection

variable {exposed : Sid → Prop} {c c' c'' : Connection}

theorem subscription?_register (c : Connection) (s : Subscription) {sid : Sid} {s₀ : Subscription}
    (h : c.subscription? sid = some s₀) : (c.register s).subscription? sid = some s₀ := by
  show (c.subscriptions ++ [s]).find? (·.sid == sid) = some s₀
  have h' : c.subscriptions.find? (·.sid == sid) = some s₀ := h
  rw [List.find?_append, h']
  rfl

/-- What is found after one subscription was changed: it, or another that is as before. -/
theorem modifySubscription_cases {sid other : Sid} {f : Subscription → Subscription}
    {s' : Subscription} (hf : ∀ s, s.sid = sid → (f s).sid = sid)
    (h : (c.modifySubscription sid f).subscription? other = some s') :
    (other = sid ∧ ∃ s, c.subscription? sid = some s ∧ s' = f s) ∨
      (other ≠ sid ∧ c.subscription? other = some s') := by
  rw [subscription?_modifySubscription c sid hf] at h
  split at h
  · next ho =>
    obtain ⟨s, hs, rfl⟩ := Option.map_eq_some_iff.1 h
    exact Or.inl ⟨ho, s, hs, rfl⟩
  · next ho => exact Or.inr ⟨ho, h⟩

/-- Changing one subscription makes none and loses none. -/
theorem subscription?_modifySubscription_eq_none {sid other : Sid}
    {f : Subscription → Subscription} (hf : ∀ s, s.sid = sid → (f s).sid = sid) :
    (c.modifySubscription sid f).subscription? other = none ↔ c.subscription? other = none := by
  rw [subscription?_modifySubscription c sid hf]
  split
  · next ho => rw [ho, Option.map_eq_none_iff]
  · exact Iff.rfl

/-- A subscription stays when one is changed, and if it is that one, so does what the change keeps. -/
theorem kept_modifySubscription {sid other : Sid} {f : Subscription → Subscription}
    {s : Subscription} {e : Prop} (hf : ∀ s, s.sid = other → (f s).sid = other)
    (hs : c.subscription? sid = some s) (h : sid = other → s.Keeps e (f s)) :
    ∃ s', (c.modifySubscription other f).subscription? sid = some s' ∧ s.Keeps e s' := by
  rw [subscription?_modifySubscription c other hf]
  split
  · next ho =>
    subst ho
    exact ⟨f s, by rw [hs, Option.map_some], h rfl⟩
  · exact ⟨s, hs, .refl e s⟩

/-- Every subscription stays; one that is not exposed keeps its validity and its ceiling. -/
theorem Flow.kept (h : c.Flow exposed c') {sid : Sid} {s : Subscription}
    (hs : c.subscription? sid = some s) :
    ∃ s', c'.subscription? sid = some s' ∧ s.Keeps (exposed sid) s' := by
  induction h generalizing s with
  | refl | log | aside | tally | refuse | consult | sweep | enrol | forgo =>
    exact ⟨s, hs, .refl _ s⟩
  | trans _ _ ih ih' =>
    obtain ⟨s', hs', hkeeps⟩ := ih hs
    obtain ⟨s'', hs'', hkeeps'⟩ := ih' hs'
    exact ⟨s'', hs'', hkeeps.trans hkeeps'⟩
  | shift c hf h =>
    refine kept_modifySubscription hf hs fun ho => ?_
    subst ho
    exact (h s hs).keeps
  | limit c h max =>
    refine kept_modifySubscription (f := fun s => { s with max := max }) (fun _ h => h) hs
      fun ho => ?_
    subst ho
    exact .of_exposed h rfl (fun hv => hv) (Nat.le_refl _)
  | invalidate c h =>
    refine kept_modifySubscription (f := fun s => { s with valid := false, attached := false })
      (fun _ h => h) hs fun ho => ?_
    subst ho
    exact .of_exposed h rfl (fun _ => rfl) (Nat.le_refl _)
  | @register c s₀ _ _ _ => exact ⟨s, subscription?_register c s₀ hs, .refl _ s⟩
  | close _ _ _ ih =>
    obtain ⟨s', hs', hkeeps⟩ := ih hs
    refine ⟨s'.cancelWorkers, by rw [subscription?_stopWorkers, hs', Option.map_some],
      hkeeps.trans (.of_phase? rfl rfl rfl rfl fun i invocation hi => ?_)⟩
    exact (s'.phase?_cancelWorkers i).symm.trans hi

/-- A transport that ends subscriptions exposes all of them. -/
def Permits (exposed : Sid → Prop) (c : Connection) : Prop :=
  ∀ kind reaction, c.reaction? kind = some reaction → reaction.deed.closes = true →
    ∀ sid, exposed sid

/-- The transport goes on to react as it did. -/
theorem Flow.reactions (h : c.Flow exposed c') : c'.reactions = c.reactions := by
  induction h with
  | trans _ _ ih ih' => exact ih'.trans ih
  | close _ _ _ ih => exact ih
  | _ => rfl

/-- The reply subjects begin as they always did. -/
theorem Flow.base (h : c.Flow exposed c') :
    c'.inbox.base = c.inbox.base := by
  induction h with
  | trans _ _ ih ih' => exact ih'.trans ih
  | close _ _ _ ih => exact ih
  | _ => rfl

theorem Flow.permits (h : c.Flow exposed c') (hp : c.Permits exposed) : c'.Permits exposed := by
  intro kind reaction hr
  rw [reaction?, h.reactions] at hr
  exact hp kind reaction hr

theorem permits_all (c : Connection) : c.Permits fun _ => True := fun _ _ _ _ _ => trivial

/-- The transport never ends subscriptions of its own accord. -/
def Passive (c : Connection) : Prop := ∀ entry ∈ c.reactions, entry.2.deed.closes = false

theorem Passive.permits (h : c.Passive) (exposed : Sid → Prop) : c.Permits exposed := by
  intro kind reaction hr hcloses
  obtain ⟨l₁, l₂, heq, -⟩ := List.lookup_eq_some_iff.1 hr
  have hmem : (kind, reaction) ∈ c.reactions := by
    rw [heq]
    simp
  rw [h _ hmem] at hcloses
  cases hcloses

end Connection

end PubSub
