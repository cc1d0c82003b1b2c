import PubSub.Proofs.Connection.Lifecycle
import PubSub.Proofs.Connection.Silence

/-!
# Subscriptions at rest

A worker of a valid subscription ends only after it was told to (`Subscription.Tended`). So while a
subscription is started somebody looks after its queue: the worker that was not told to end, or an
older one that still has the receiving end. When none of its workers can go on and no handler is at
work, whoever has the receiving end waits for a message, and the queue is empty.

## Main definitions

- `Subscription.Changes` — whatever can become of a subscription in one change
- `Subscription.Tended` — the count of queued messages is right, and workers end when told to

## Main results

- `Connection.Flow.about` — what holds of a subscription as long as every change keeps it
- `Subscription.Tended.queue_eq_nil` — nothing is left in the queue at rest
- `Connection.tended_runOver`, `Connection.nothing_queued_runOver` — every subscription is tended at
  every time, and so this is true of it
-/

namespace PubSub

/-! ## Changes of one subscription -/

/-- Whatever can become of a subscription in one change. -/
inductive Subscription.Changes : Subscription → Subscription → Prop where
  | shift {stopping : Bool} {s s' : Subscription} (h : s.Shifts stopping s') : Changes s s'
  | limit (s : Subscription) (max : Nat) : Changes s { s with max := max }
  | invalidate (s : Subscription) : Changes s { s with valid := false, attached := false }
  | cancelWorkers (s : Subscription) : Changes s s.cancelWorkers

namespace Connection

variable {exposed : Sid → Prop} {c c' : Connection} {sid : Sid}

theorem subscription?_register_eq (c : Connection) (s : Subscription) (sid : Sid) :
    (c.register s).subscription? sid =
      (c.subscription? sid).or (if s.sid = sid then some s else none) := by
  show (c.subscriptions ++ [s]).find? (·.sid == sid) = _
  rw [List.find?_append]
  by_cases h : s.sid = sid <;> simp [h, subscription?]

/-- What is true of a number, whether or not a subscription bears it, stays true if it is so of a new
subscription and every change keeps it. -/
theorem Flow.about {Q : Option Subscription → Prop} (h : c.Flow exposed c')
    (hnew : ∀ s : Subscription, s.IsNew → Q none → Q (some s))
    (hchange : ∀ s s' : Subscription, s.Changes s' → Q (some s) → Q (some s'))
    (hc : Q (c.subscription? sid)) : Q (c'.subscription? sid) := by
  have hmodify : ∀ (c : Connection) (other : Sid) (f : Subscription → Subscription),
      (∀ s, s.sid = other → (f s).sid = other) →
      (∀ s, c.subscription? other = some s → s.Changes (f s)) → Q (c.subscription? sid) →
      Q ((c.modifySubscription other f).subscription? sid) := by
    intro c other f hf hchanges hq
    rw [subscription?_modifySubscription c other hf]
    split
    · next ho =>
      subst ho
      cases hs : c.subscription? sid with
      | none =>
        rw [hs] at hq
        exact hq
      | some s =>
        rw [hs] at hq
        exact hchange s (f s) (hchanges s hs) hq
    · exact hq
  induction h with
  | refl | log | aside | tally | refuse | consult | sweep | enrol | forgo => exact hc
  | trans _ _ ih ih' => exact ih' (ih hc)
  | shift c hf h => exact hmodify c _ _ hf (fun s hs => .shift (h s hs)) hc
  | limit c _ max => exact hmodify c _ _ (fun _ h => h) (fun s _ => .limit s max) hc
  | invalidate c _ => exact hmodify c _ _ (fun _ h => h) (fun s _ => .invalidate s) hc
  | register c _ _ hnew' =>
    rw [subscription?_register_eq]
    cases hs : c.subscription? sid with
    | some s =>
      rw [hs] at hc
      exact hc
    | none =>
      rw [hs] at hc
      rw [Option.none_or]
      split
      · exact hnew _ hnew' hc
      · exact hc
  | close _ _ _ ih =>
    rename_i c c' _ _ _
    have hq := ih hc
    rw [subscription?_stopWorkers]
    cases hs : c'.subscription? sid with
    | none =>
      rw [hs] at hq
      exact hq
    | some s =>
      rw [hs] at hq
      exact hchange s _ (.cancelWorkers s) hq

end Connection

/-! ## What is kept -/

namespace Subscription

variable {s s' : Subscription} {i : Nat}

/-- The worker with a number was told to end. -/
def Dismissed (s : Subscription) (i : Nat) : Prop :=
  ∃ w, s.workers[i]? = some w ∧ w.cancelled = true

theorem Dismissed.modifyWorker (h : s.Dismissed i) (j : Nat) {f : Worker → Worker}
    (hf : ∀ w, w.cancelled = true → (f w).cancelled = true) :
    (s.modifyWorker j f).Dismissed i := by
  obtain ⟨w, hw, hc⟩ := h
  refine ⟨if j = i then f w else w, ?_, ?_⟩
  · show (s.workers.modify j f)[i]? = _
    rw [List.getElem?_modify, hw]
    split <;> rfl
  · split
    · exact hf w hc
    · exact hc

theorem Dismissed.setPhase (h : s.Dismissed i) (j : Nat) (p : Worker.Phase) :
    (s.setPhase j p).Dismissed i := h.modifyWorker j fun _ hc => hc

/-- A worker that was told to end stays so. -/
theorem Changes.dismissed (h : s.Changes s') (hd : s.Dismissed i) : s'.Dismissed i := by
  cases h with
  | limit | invalidate => exact hd
  | cancelWorkers =>
    obtain ⟨w, hw, -⟩ := hd
    refine ⟨{ w with cancelled := true }, ?_, rfl⟩
    show (s.workers.map fun w => { w with cancelled := true })[i]? = _
    rw [List.getElem?_map, hw]
    rfl
  | @shift stopping _ _ h =>
    cases h with
    | hold | setHandler | take => exact hd
    | enable =>
      rcases Record.workers_enable s stopping with heq | ⟨-, heq⟩
      · rw [heq]
        exact hd
      · obtain ⟨w, hw, hc⟩ := hd
        rw [heq]
        exact ⟨w, (List.getElem?_append_left (List.getElem?_eq_some_iff.1 hw).1).trans hw, hc⟩
    | disable =>
      unfold Subscription.disable
      split
      · exact hd
      · exact hd.modifyWorker _ fun _ _ => rfl
    | accept _ h =>
      obtain ⟨-, rfl⟩ := enqueue_eq h
      exact hd
    | turn j => exact hd.setPhase j _
    | exit j =>
      unfold Dismissed
      rw [workers_exited]
      exact hd.setPhase j .finished
    | @begin j d q invocation =>
      have hclaimed : ({ s with queue := q, delivered := s.delivered + 1 } : Subscription).Dismissed
        i := hd
      exact hclaimed.setPhase j _

end Subscription

/-- The count of the entries of a queue is right, and somebody can still send. -/
structure Dispatch.Counted {α : Type} (q : Dispatch α) : Prop where
  pending : q.pending = q.entries.length
  senders : q.senders ≠ 0

theorem Dispatch.Counted.recv {α : Type} {q q' : Dispatch α} {a : α} (h : q.Counted)
    (hrecv : q.recv = (.entry a, q')) : q'.Counted := by
  unfold Dispatch.recv at hrecv
  split at hrecv
  · next b rest heq =>
    obtain ⟨-, rfl⟩ := Prod.mk.inj hrecv
    refine ⟨?_, h.senders⟩
    show q.pending - 1 = rest.length
    rw [h.pending, heq]
    rfl
  · split at hrecv <;> cases hrecv

theorem Subscription.Changes.counted {s s' : Subscription} (h : s.Changes s')
    (hq : s.queue.Counted) : s'.queue.Counted := by
  cases h with
  | limit | invalidate | cancelWorkers => exact hq
  | @shift stopping _ _ h =>
    cases h with
    | hold | setHandler | turn => exact hq
    | enable =>
      obtain ⟨-, -, -, -, -, hqueue, -⟩ := s.enable_keeps stopping
      exact hqueue ▸ hq
    | disable =>
      obtain ⟨-, -, -, -, -, hqueue, -⟩ := s.disable_keeps
      exact hqueue ▸ hq
    | accept _ h =>
      obtain ⟨-, rfl⟩ := Subscription.enqueue_eq h
      refine ⟨?_, hq.senders⟩
      show s.queue.pending + 1 = (s.queue.entries ++ [_]).length
      rw [hq.pending, List.length_append]
      rfl
    | exit i =>
      unfold Subscription.exited Dispatch.close
      dsimp only
      split
      · exact hq
      · split
        · exact ⟨hq.pending, hq.senders⟩
        · exact hq
    | take h => exact hq.recv h
    | begin i h => exact hq.recv h

/-- What holds of a subscription at every time: its queue is counted, and while it is valid none of
its workers ended that was not told to. -/
structure Subscription.Tended (s : Subscription) : Prop where
  counted : s.queue.Counted
  ended : s.valid = true → ∀ i, s.phase? i = some .finished → s.Dismissed i

namespace Subscription

variable {s : Subscription}

theorem IsNew.tended (h : s.IsNew) : s.Tended where
  counted := by
    rw [h.queue]
    exact ⟨rfl, Nat.one_ne_zero⟩
  ended _ i hi := by simp [phase?, h.workers] at hi

theorem isStarted_iff (h : s.Disciplined) :
    s.isStarted = true ↔ ∃ w ∈ s.workers, w.cancelled = false := by
  constructor
  · intro hstarted
    unfold isStarted at hstarted
    split at hstarted
    · next w hw =>
      obtain ⟨i, -, hi⟩ := Option.bind_eq_some_iff.1 hw
      exact ⟨w, List.mem_of_getElem? hi, by simpa using hstarted⟩
    · cases hstarted
  · rintro ⟨w, hw, hc⟩
    obtain ⟨i, hi⟩ := List.getElem?_of_mem hw
    simp [isStarted, h i w hi hc, hi, hc]

/-- Whoever has the receiving end waits for a message, so none is queued. -/
theorem queue_eq_nil_of_receiving {i : Nat} {now : Instant} {w : Worker}
    (hw : s.workers[i]? = some w) (hp : w.phase = .receiving) (hready : s.isReady i now = false) :
    s.queue.entries = [] := by
  unfold isReady at hready
  simp only [hw, hp, Bool.or_eq_false_iff, Bool.not_eq_false'] at hready
  exact List.isEmpty_iff.1 hready.1.2

/-- When no worker of a started subscription can go on and no handler is at work, nothing is
queued. -/
theorem Tended.queue_eq_nil (h : s.Tended) (hd : s.Disciplined) {now : Instant}
    (hrest : ∀ i, s.isReady i now = false) (hvalid : s.valid = true) (hstarted : s.isStarted = true)
    (hidle : s.isHandling = false) : s.queue.entries = [] := by
  obtain ⟨w, hmem, hc⟩ := (isStarted_iff hd).1 hstarted
  obtain ⟨i, hw⟩ := List.getElem?_of_mem hmem
  have hnot : ∀ w' ∈ s.workers, ∀ invocation, w'.phase ≠ .handling invocation := by
    intro w' hw' invocation hp
    have hnone := List.any_eq_false.1 hidle w' hw'
    simp [Worker.invocation?, hp] at hnone
  have hready := hrest i
  cases hp : w.phase with
  | starting => simp [isReady, hw, hp] at hready
  | receiving => exact queue_eq_nil_of_receiving hw hp hready
  | handling invocation => exact absurd hp (hnot w hmem invocation)
  | finished =>
    obtain ⟨w', hw', hc'⟩ :=
      h.ended hvalid i (Subscription.phase?_eq_some_iff.2 ⟨w, hw, hp⟩)
    obtain rfl := Option.some.inj (hw.symm.trans hw')
    rw [hc] at hc'
    cases hc'
  | waiting =>
    -- somebody keeps the worker from the receiving end, and not one that lined up before it: of
    -- those all were told to end
    have hbusy : s.receiverIsFree i = false := by simpa [isReady, hw, hp, hc] using hready
    unfold receiverIsFree at hbusy
    rcases Bool.and_eq_false_iff.1 hbusy with hhas | hwaits
    · rw [Bool.not_eq_false'] at hhas
      obtain ⟨w', hw', hreceiver⟩ := List.any_eq_true.1 hhas
      obtain ⟨j, hj⟩ := List.getElem?_of_mem hw'
      cases hp' : w'.phase with
      | receiving => exact queue_eq_nil_of_receiving hj hp' (hrest j)
      | handling invocation => exact absurd hp' (hnot w' hw' invocation)
      | starting | waiting | finished => simp [Worker.hasReceiver, hp'] at hreceiver
    · rw [Bool.not_eq_false'] at hwaits
      obtain ⟨w', hw', hcandidate⟩ := List.any_eq_true.1 hwaits
      obtain ⟨j, hj⟩ := List.getElem?_of_mem hw'
      rw [List.getElem?_take] at hj
      split at hj
      · next hlt =>
        have hc' : w'.cancelled = false := by
          unfold Worker.isCandidate at hcandidate
          split at hcandidate
          · simpa using hcandidate
          · cases hcandidate
        have hsame : some j = some i := (hd j w' hj hc').symm.trans (hd i w hw hc)
        exact absurd (Option.some.inj hsame) (Nat.ne_of_lt hlt)
      · cases hj

end Subscription

/-! ## Steps of a worker -/

namespace Connection

variable {exposed : Sid → Prop} {strict : Sid → Prop} {active : Sid → Nat → Prop}
variable {c c' : Connection} {t : Transport} {sid : Sid} {i : Nat} {s : Subscription}

/-- The subscription is there, and if the worker has ended, it is invalid. -/
def EndsWith (c : Connection) (sid : Sid) (i : Nat) : Prop :=
  ∃ s, c.subscription? sid = some s ∧ (s.phase? i = some .finished → s.valid = false)

theorem endsWith_setPhase (hs : c.subscription? sid = some s) {p : Worker.Phase}
    (hp : p ≠ .finished) : (c.setPhase sid i p).EndsWith sid i := by
  refine ⟨s.setPhase i p, ?_, fun hf => ?_⟩
  · unfold Connection.setPhase
    rw [subscription?_modifySubscription c sid (f := fun s => s.setPhase i p) fun _ h => h,
      if_pos rfl, hs]
    rfl
  · rw [Subscription.phase?_setPhase, if_pos rfl] at hf
    obtain ⟨-, -, hpf⟩ := Option.map_eq_some_iff.1 hf
    exact absurd hpf hp

theorem endsWith_exitWorker (hs : c.subscription? sid = some s) (hinvalid : s.valid = false) :
    (c.exitWorker sid i).EndsWith sid i := by
  refine ⟨s.exited i, ?_, fun _ => (s.valid_exited i).trans hinvalid⟩
  exact subscription?_of_record? (alters_exitWorker (record?_of_subscription? hs) i).after

theorem endsWith_closeSubscription (ht : t.Drifts) (hs : c.subscription? sid = some s) :
    ((c.closeSubscription t sid).exitWorker sid i).EndsWith sid i := by
  obtain ⟨v', hv', -, hinvalid, -⟩ := closeSubscription_eq ht (record?_of_subscription? hs)
  exact endsWith_exitWorker (subscription?_of_record? hv') hinvalid

theorem endsWith_process (ht : t.Drifts) (hs : c.subscription? s.sid = some s)
    (hattached : s.attached = s.valid) (hphase : s.phase? i = some .receiving) (d : Delivery) :
    (c.process t s i d).EndsWith s.sid i := by
  unfold process
  split
  · refine ⟨s, hs, fun hf => ?_⟩
    rw [hphase] at hf
    cases hf
  · next handler _ =>
    split
    · next ha => exact endsWith_exitWorker hs (by rw [← hattached]; simpa using ha)
    · split
      · exact endsWith_closeSubscription ht hs
      · next count s' hclaim =>
        obtain ⟨-, -, rfl⟩ := claim_eq_some hclaim
        have hclaimed := (Alters.of_subscription? hs).replace
          (s := { s with delivered := s.delivered + 1 }) rfl
        exact endsWith_setPhase (subscription?_of_record? hclaimed.after) (by simp)

theorem endsWith_takeNext (ht : t.Drifts) (hs : c.subscription? s.sid = some s) (hsane : s.Sane)
    (hq : s.queue.Counted) (hphase : s.phase? i = some .receiving) :
    (c.takeNext t s i).EndsWith s.sid i := by
  cases hentries : s.queue.entries with
  | cons d rest =>
    obtain ⟨q, hrecv⟩ : ∃ q, s.queue.recv = (.entry d, q) := by
      rw [Dispatch.recv, hentries]
      exact ⟨_, rfl⟩
    have htake := subscription?_of_record? (alters_take hs q d.message).after
    unfold takeNext
    rw [hrecv]
    exact endsWith_process (s := { s with queue := q }) ht htake hsane.attached hphase d
  | nil =>
    have hsenders : (s.queue.senders == 0) = false := by simpa using hq.senders
    simp only [takeNext, Dispatch.recv, hentries, hsenders, Bool.or_false]
    cases hclosed : s.queue.isClosed with
    | true =>
      -- only the queue of an invalid subscription is ever closed
      refine endsWith_exitWorker hs (Bool.eq_false_iff.2 fun hvalid => ?_)
      rw [hsane.accepting hvalid] at hclosed
      cases hclosed
    | false =>
      refine ⟨s, hs, fun hf => ?_⟩
      rw [hphase] at hf
      cases hf

theorem endsWith_finishInvocation (ht : t.Drifts) {v : Record} (hv : c.record? s.sid = some v)
    (invocation : Invocation) (failure : Option Failure) :
    (c.finishInvocation t s i invocation failure).EndsWith s.sid i := by
  have hended := subscription?_of_record? (alters_endInvocation hv s failure).after
  unfold finishInvocation
  dsimp only
  split
  · exact endsWith_closeSubscription ht hended
  · exact endsWith_setPhase hended (by simp)

/-- When a worker has ended by a step, it was told to, or its subscription is invalid. -/
theorem ended_of_stepWorker (ht : t.Drifts) (hs : c.subscription? sid = some s) (hsane : s.Sane)
    (hq : s.queue.Counted) {s' : Subscription}
    (hs' : (c.stepWorker t sid i).2.subscription? sid = some s')
    (hf : s'.phase? i = some .finished) (hvalid : s'.valid = true) :
    s.phase? i = some .finished ∨ s.Dismissed i := by
  obtain rfl : s.sid = sid := sid_of_subscription? hs
  have hidle : (c.stepWorker t s.sid i).2 = c → s.phase? i = some .finished ∨ s.Dismissed i := by
    intro heq
    rw [heq, hs] at hs'
    exact Or.inl (Option.some.inj hs' ▸ hf)
  have hends : (c.stepWorker t s.sid i).2.EndsWith s.sid i →
      s.phase? i = some .finished ∨ s.Dismissed i := by
    rintro ⟨s'', hs'', hinvalid⟩
    obtain rfl := Option.some.inj (hs'.symm.trans hs'')
    rw [hinvalid hf] at hvalid
    cases hvalid
  cases hw : s.workers[i]? with
  | none => exact hidle (by simp [stepWorker, hs, hw])
  | some w =>
    have hphase : ∀ {p}, w.phase = p → s.phase? i = some p := fun hp =>
      Subscription.phase?_eq_some_iff.2 ⟨w, hw, hp⟩
    cases hready : s.isReady i c.clock with
    | false => exact hidle (by simp [stepWorker, hs, hw, hready])
    | true =>
      by_cases hc : w.cancelled = true
      · exact Or.inr ⟨w, hw, hc⟩
      · refine (em (w.phase = .finished)).imp hphase fun hnot => ?_
        refine (hends ?_).resolve_left fun hfin => ?_
        · unfold stepWorker
          simp only [hs, hw, hready, Bool.not_true, Bool.false_eq_true, if_false]
          cases hp : w.phase with
          | starting | waiting =>
            refine endsWith_setPhase hs ?_
            unfold Subscription.lineUp
            rw [if_neg hc]
            split <;> simp
          | receiving =>
            dsimp only
            rw [if_neg hc]
            exact endsWith_takeNext ht hs hsane hq (hphase hp)
          | handling invocation =>
            obtain ⟨c₁, -, he, hnext⟩ :=
              @stepInvocation_eq (fun _ => False) c t ht s i invocation fun hf => hf.elim
            obtain ⟨v₁, hv₁, -, -⟩ :=
              phase?_of_evolves he (record?_of_subscription? hs) (hphase hp)
            dsimp only
            rcases hnext with ⟨invocation', -, heq⟩ | ⟨failure, heq⟩
            · rw [heq]
              exact endsWith_setPhase (subscription?_of_record? hv₁) (by simp)
            · rw [heq]
              exact endsWith_finishInvocation ht hv₁ invocation failure
          | finished => exact absurd hp hnot
        · obtain ⟨w', hw', hp'⟩ := Subscription.phase?_eq_some_iff.1 hfin
          obtain rfl := Option.some.inj (hw.symm.trans hw')
          exact hnot hp'

/-! ## Runs -/

/-- Every subscription is tended. -/
def Tended (c : Connection) : Prop := ∀ sid s, c.subscription? sid = some s → s.Tended

/-- Subscriptions stay tended while no worker ends that was not told to. -/
theorem Tended.steps (h : c.Tended) (hsound : c.Sound fun _ => False)
    (hflow : c.Flow exposed c') (hsteps : c.Steps strict active c')
    (hactive : ∀ sid i s s', active sid i → c.subscription? sid = some s →
      c'.subscription? sid = some s' → s'.valid = true → s'.phase? i = some .finished →
      s.phase? i = some .finished ∨ s.Dismissed i) : c'.Tended := by
  intro sid s' hs'
  cases hs : c.subscription? sid with
  | none =>
    have hblank := (hsteps.blank sid (hsound.blank sid hs)).absent
    rw [hs'] at hblank
    cases hblank
  | some s =>
    have hcounted : ∀ s'', c'.subscription? sid = some s'' → s''.queue.Counted := by
      refine hflow.about (Q := fun o => ∀ s'' : Subscription, o = some s'' → s''.queue.Counted)
        (fun s₀ hnew _ s'' heq => Option.some.inj heq ▸ hnew.tended.counted)
        (fun s₁ s₂ hchange hq s'' heq => Option.some.inj heq ▸ hchange.counted (hq s₁ rfl)) ?_
      exact fun s'' hs'' => (h sid s'' hs'').counted
    refine ⟨hcounted s' hs', fun hvalid i hf => ?_⟩
    obtain ⟨s'', hs'', hkeeps⟩ := hflow.kept hs
    obtain rfl := Option.some.inj (hs'.symm.trans hs'')
    have hwas : s.valid = true := by
      rw [← Bool.not_eq_false]
      intro hinvalid
      rw [hkeeps.invalid hinvalid] at hvalid
      cases hvalid
    have hended : s.phase? i = some .finished ∨ s.Dismissed i := by
      by_cases hi : active sid i
      · exact hactive sid i s s' hi hs hs' hvalid hf
      · obtain ⟨v', hv', hsteps'⟩ := hsteps.record sid _ (record?_of_subscription? hs)
        have hsub := subscription?_of_record? hv'
        obtain rfl := Option.some.inj (hs'.symm.trans hsub)
        rcases Record.Steps.phase?_of_idle hsteps' hi with heq | ⟨-, hstarting⟩
        · exact Or.inl (heq.symm.trans hf)
        · cases hstarting.symm.trans hf
    have hdismissed : s.Dismissed i := hended.elim ((h sid s hs).ended hwas i) fun hd => hd
    -- whatever happened meanwhile, nobody takes the stop sign back
    have hlater : ∃ s'' : Subscription, c'.subscription? sid = some s'' ∧ s''.Dismissed i := hflow.about
      (Q := fun o => ∃ s'' : Subscription, o = some s'' ∧ s''.Dismissed i)
      (fun _ _ ⟨_, hnone, _⟩ => by cases hnone)
      (fun s₁ s₂ hchange ⟨s₀, heq, hd⟩ =>
        ⟨s₂, rfl, hchange.dismissed (Option.some.inj heq ▸ hd)⟩)
      ⟨s, hs, hdismissed⟩
    obtain ⟨s'', heq, hd⟩ := hlater
    obtain rfl := Option.some.inj (hs'.symm.trans heq)
    exact hd

/-- Nothing that moves no worker leaves a subscription untended. -/
theorem Tended.evolves (h : c.Tended) (hsound : c.Sound fun _ => False) (hflow : c.Flow exposed c')
    (hevolves : c.Evolves (fun _ => False) c') : c'.Tended :=
  have hsteps : c.Steps (fun _ => False) (fun _ _ => False) c' := hevolves.steps
  h.steps hsound hflow hsteps fun _ _ _ _ hf => hf.elim

theorem Tended.build (h : c.Tended) (handle : Nat) (plan : SubscriptionPlan) :
    (c.build handle plan).2.Tended := by
  cases hbuild : c.build handle plan with
  | mk made c' =>
    cases made with
    | error e =>
      obtain rfl := build_of_error hbuild
      exact h
    | ok new =>
      obtain ⟨-, -, s, rfl, hnew, rfl, -⟩ := build_of_ok hbuild
      intro sid s' hs'
      have hs'' : (c.register s).subscription? sid = some s' := hs'
      rw [subscription?_register_eq] at hs''
      cases hs : c.subscription? sid with
      | some s₀ =>
        rw [hs, Option.some_or] at hs''
        exact Option.some.inj hs'' ▸ h sid s₀ hs
      | none =>
        rw [hs, Option.none_or] at hs''
        split at hs''
        · exact Option.some.inj hs'' ▸ hnew.tended
        · cases hs''

theorem Tended.subscribe (hsends : t.Sends .all) (ht : t.Drifts) (h : c.Tended)
    (hsound : c.Sound fun _ => False) (handle : Nat) (plan : SubscriptionPlan) :
    (c.subscribe t handle plan).2.Tended := by
  have hbuild := h.build handle plan
  have hsound₁ := hsound.build handle plan
  unfold Connection.subscribe
  split
  · next e c₁ heq =>
    rw [heq] at hbuild
    exact hbuild
  · next new c₁ heq =>
    rw [heq] at hbuild hsound₁
    have hevolves : c₁.Evolves (fun _ => False) (c₁.startSubscription t new).2 :=
      evolves_startSubscription ht c₁ new
    have hflow := (course_startSubscription hsends (suits_all c₁) new).flow
    have hstart := hbuild.evolves hsound₁ hflow hevolves
    have hsound₂ := hsound₁.steps hevolves.steps
    split
    · next c₂ heq₂ =>
      rw [heq₂] at hstart
      exact hstart
    · next e c₂ heq₂ =>
      rw [heq₂] at hstart hsound₂
      exact hstart.evolves hsound₂
        (course_closeSubscription hsends ht (suits_all c₂) trivial).flow
        (drifts_closeSubscription ht c₂ new).evolves

theorem Tended.handOver {made : Except ConnectionError Sid × Connection} (h : made.2.Tended)
    (hsound : made.2.Sound fun _ => False) : (handOver made).2.Tended := by
  unfold Connection.handOver
  split
  · exact h.evolves hsound (course_hold (p := .all) _ _ true).flow (evolves_hold _ _ true)
  · exact h

/-- Whatever is done to a connection leaves its subscriptions tended. -/
theorem Tended.performOver (hsends : t.Sends .all) (ht : t.Drifts) (h : c.Tended)
    (hsound : c.Sound fun _ => False) (hi : c.Intact) (move : Move) :
    (c.performOver t move).Tended := by
  by_cases hbuild : ∀ handle plan, move ≠ .build handle plan ∧ move ≠ .subscribe handle plan
  · have hsteps : c.Steps (fun _ => False) (fun sid i => move = .stepWorker sid i)
        (c.performOver t move) :=
      steps_performOver ht c move (fun _ _ heq => heq) hbuild fun _ hf => hf.elim
    refine h.steps hsound (course_performOver hsends ht (suits_all c) (allows_all c move)).flow
      hsteps fun sid i s s' hmove hs hs' hvalid hf => ?_
    subst hmove
    exact ended_of_stepWorker ht hs (hi.sane sid s hs) (h sid s hs).counted hs' hf hvalid
  · cases move with
    | build handle plan => exact (h.build handle plan).handOver (hsound.build handle plan)
    | subscribe handle plan =>
      exact (h.subscribe hsends ht hsound handle plan).handOver (hsound.subscribe ht handle plan)
    | _ => simp at hbuild

theorem Tended.runOver (hsends : t.Sends .all) (ht : t.Drifts) (h : c.Tended)
    (hsound : c.Sound fun _ => False) (hi : c.Intact) (moves : List Move) :
    (c.runOver t moves).Tended := by
  induction moves generalizing c with
  | nil => exact h
  | cons move moves ih =>
    exact ih (h.performOver hsends ht hsound hi move)
      (hsound.performOver ht move fun _ hf => hf.elim)
      ((course_performOver hsends ht (suits_all c) (allows_all c move)).flow.intact hi)

/-- Every subscription is tended at every time. -/
theorem tended_runOver (hsends : t.Sends .all) (ht : t.Drifts) (o : Session.Opening) (id : Nat)
    (clock : Instant) (handle : Nat) (moves : List Move) :
    ((o.connect id clock handle).runOver t moves).Tended :=
  Tended.runOver hsends ht (fun _ _ hs => by cases hs) (sound_connect o id clock handle)
    (Intact.connect o id clock handle) moves

/-- Nothing is queued for a subscription that is looked after, when none of its workers can go on. -/
theorem nothing_queued_runOver (hsends : t.Sends .all) (ht : t.Drifts) (o : Session.Opening)
    (id : Nat) (clock : Instant) (handle : Nat) (moves : List Move)
    (hs : ((o.connect id clock handle).runOver t moves).subscription? sid = some s) {now : Instant}
    (hrest : ∀ i, s.isReady i now = false) (hvalid : s.valid = true)
    (hstarted : s.isStarted = true) (hidle : s.isHandling = false) :
    s.queue.entries = [] ∧ s.queue.pending = 0 := by
  have htended := tended_runOver hsends ht o id clock handle moves sid s hs
  have hsound : ((o.connect id clock handle).runOver t moves).Sound fun _ => False :=
    (sound_connect o id clock handle).runOver ht moves fun _ hf => hf.elim
  have hdisciplined := (hsound.record sid _ (record?_of_subscription? hs)).orderly.disciplined
  have hempty := htended.queue_eq_nil hdisciplined hrest hvalid hstarted hidle
  refine ⟨hempty, ?_⟩
  rw [htended.counted.pending, hempty]
  rfl

end Connection

end PubSub
