import PubSub.Proofs.Connection.Akin
import PubSub.Proofs.Connection.Contained
import PubSub.Proofs.Connection.Shutdown

/-!
# Turns of connections that differ in spent workers

A worker that is not spent makes the same of two connections that differ in spent workers, whatever
its number is in each of them. It is told by its number while its handler is at work; that nobody
else has the receiving end of the queue stays so whatever the handler does.

## Main definitions

- `Connection.Attends` — a worker has the receiving end, and nobody else has it

## Main results

- `Connection.Akin.stepWorker` — the turn of a worker that is not spent
- `Connection.akin_stepWorker_of_spent` — a spent worker ends unnoticed
-/

namespace PubSub

theorem Record.Evolves.receivesAt {strict : Prop} {v v' : Record} {i : Nat}
    (h : v.Evolves strict v') (hi : v.sub.ReceivesAt i) : v'.sub.ReceivesAt i := by
  obtain ⟨hone, w, hw, hr⟩ := hi
  have hphase : v'.sub.phase? i = some w.phase :=
    h.phase?_eq_some (Subscription.phase?_eq_some_iff.2 ⟨w, hw, rfl⟩)
  obtain ⟨w', hw', hp⟩ := Subscription.phase?_eq_some_iff.1 hphase
  refine ⟨hone.of_phase? fun j q hj hq => ?_, w', hw', ?_⟩
  · rcases h.phase? j with heq | ⟨-, hnew⟩
    · exact ⟨q, heq.symm.trans hj, hq⟩
    · rw [hnew] at hj
      obtain rfl := Option.some.inj hj
      cases hq
  · rw [Worker.hasReceiver_iff, hp]
    exact w.hasReceiver_iff.1 hr

namespace Connection

variable {c c' d : Connection} {t : Transport} {sid : Sid} {i i' : Nat} {s s' : Subscription}

/-- The worker of a subscription with a number has the receiving end, and nobody else has it. -/
structure Attends (c : Connection) (sid : Sid) (i : Nat) : Prop where
  /-- Numbers are given out in order, from one on. -/
  sids : c.subscriptions.map (·.sid) = List.range' 1 c.issuedSids
  receives : ∃ s, c.subscription? sid = some s ∧ s.ReceivesAt i

theorem Attends.of_eq (h : c.Attends sid i) (hs : c'.subscriptions = c.subscriptions)
    (hi : c'.issuedSids = c.issuedSids) : c'.Attends sid i where
  sids := by rw [hs, hi, h.sids]
  receives := by
    unfold subscription?
    rw [hs]
    exact h.receives

theorem Attends.log (h : c.Attends sid i) (e : Event) : (c.log e).Attends sid i := h.of_eq rfl rfl

theorem Attends.replace (h : c.Attends sid i) (hsid : s.sid = sid) (hs : s.ReceivesAt i) :
    (c.modifySubscription sid fun _ => s).Attends sid i where
  sids := (sids_modifySubscription c sid fun _ _ => hsid).trans h.sids
  receives := by
    obtain ⟨s₀, hs₀, -⟩ := h.receives
    refine ⟨s, ?_, hs⟩
    rw [subscription?_modifySubscription c sid fun _ _ => hsid, if_pos rfl, hs₀, Option.map_some]

/-- Nothing that is done to a subscription moves a worker on. -/
theorem Attends.evolve (h : c.Attends sid i) {exposed : Sid → Prop} (hflow : c.Flow exposed c')
    (he : c.Evolves (fun _ => False) c') : c'.Attends sid i where
  sids := hflow.sids h.sids
  receives := by
    obtain ⟨s, hs, hi⟩ := h.receives
    obtain ⟨v', hv', hv⟩ := he.record sid _ (record?_of_subscription? hs)
    exact ⟨v'.sub, subscription?_of_record? hv', hv.receivesAt hi⟩

theorem Attends.closeSubscription (ht : t.Sends .all) (hd : t.Drifts) (h : c.Attends sid i) :
    (c.closeSubscription t sid).Attends sid i :=
  h.evolve (course_closeSubscription ht hd (suits_all c) trivial).flow
    (drifts_closeSubscription hd c sid).evolves

theorem Attends.act (ht : t.Sends .all) (hd : t.Drifts) (h : c.Attends sid i) (m : Delivery)
    (action : Action) (rest : List Action) : (c.act t sid m action rest).2.Attends sid i := by
  obtain ⟨s, hs, -⟩ := h.receives
  obtain rfl : s.sid = sid := sid_of_subscription? hs
  have hallows : c.AllowsAction .all s m action :=
    ⟨fun _ _ => trivial, fun _ _ => trivial, fun _ _ _ => trivial, fun _ _ => trivial⟩
  exact h.evolve (course_act ht hd (suits_all c) hs hallows rest).flow
    (evolves_act hd c s.sid m action rest fun _ hstrict => hstrict.elim)

/-- A subscription is changed and the same is left of it. -/
theorem akin_replace (hnodup : (c.subscriptions.map (·.sid)).Nodup)
    (hs : c.subscription? sid = some s) (h : s'.pruned = s.pruned) :
    c.Akin (c.modifySubscription sid fun _ => s') := by
  have hsame : (c.modifySubscription sid fun _ => s) = c := by
    rw [← modifySubscription_of_found hnodup hs fun s => s]
    simp [modifySubscription]
  have hreplaced : (c.modifySubscription sid fun _ => s).Akin
      (c.modifySubscription sid fun _ => s') := (Akin.refl c).replace h.symm
  rw [hsame] at hreplaced
  exact hreplaced

/-- The same worker is changed in the same way. -/
theorem Akin.modifyAttended (h : c.Akin d) (hc : c.Attends sid i) (hd : d.Attends sid i')
    {f g : Subscription → Subscription} (hfg : ∀ s s', s.pruned = s'.pruned → s.ReceivesAt i →
      s'.ReceivesAt i' → (f s).pruned = (g s').pruned) :
    (c.modifySubscription sid f).Akin (d.modifySubscription sid g) := by
  obtain ⟨s, hs, hi⟩ := hc.receives
  obtain ⟨s', hs', hi'⟩ := hd.receives
  rw [modifySubscription_of_found (hc.sids ▸ List.nodup_range') hs,
    modifySubscription_of_found (hd.sids ▸ List.nodup_range') hs']
  exact h.replace (hfg s s' (h.pruned_of_found hs hs') hi hi')

theorem Akin.setPhase (h : c.Akin d) (hc : c.Attends sid i) (hd : d.Attends sid i')
    (phase : Worker.Phase) : (c.setPhase sid i phase).Akin (d.setPhase sid i' phase) :=
  h.modifyAttended hc hd fun _ _ hs hi hi' =>
    Subscription.pruned_setPhase_of_receivesAt hs hi hi' phase

theorem Akin.exitWorker (h : c.Akin d) (hc : c.Attends sid i) (hd : d.Attends sid i') :
    (c.exitWorker sid i).Akin (d.exitWorker sid i') :=
  h.modifyAttended (f := fun s => s.exited i) (g := fun s => s.exited i') hc hd fun _ _ hs hi hi' =>
    Subscription.pruned_exited hs hi hi'

/-! ## What a handler does -/

theorem Akin.respond (ht : t.Heedless) (h : c.Akin d) (m : Delivery) (payload : ByteArray) :
    Twin (c.respond t m payload) (d.respond t m payload) := by
  unfold Connection.respond
  split
  · exact ⟨rfl, h⟩
  · next o _ =>
    obtain ⟨verdict, c₁, d₁, hsent, hsent', h₁⟩ := (ht o c d h).exists
    simp only [hsent, hsent']
    exact ⟨rfl, h₁⟩

theorem Akin.respondOrFail (ht : t.Heedless) (h : c.Akin d) (m : Delivery) (payload : ByteArray)
    (rest : List Action) :
    Twin (c.respondOrFail t m payload rest) (d.respondOrFail t m payload rest) := by
  obtain ⟨result, c₁, d₁, hsent, hsent', h₁⟩ := (h.respond ht m payload).exists
  simp only [Connection.respondOrFail, hsent, hsent']
  cases result with
  | ok => exact ⟨rfl, h₁⟩
  | error e => exact ⟨rfl, h₁⟩

theorem Akin.whenHeld (h : c.Akin d) (sid : Sid) (action : String)
    {f g : Subscription → Connection} (hfg : ∀ s s', s.pruned = s'.pruned → (f s).Akin (g s')) :
    (c.whenHeld sid action f).Akin (d.whenHeld sid action g) := by
  rcases h.subscription?_cases sid with ⟨hc, hd⟩ | ⟨s, s', hc, hd, hs⟩
  · simp only [Connection.whenHeld, hc, hd]
    exact h.log _
  · have hheld : s'.held = s.held := by rw [Subscription.eq_of_pruned_eq hs]
    simp only [Connection.whenHeld, hc, hd, hheld]
    split
    · exact hfg s s' hs
    · exact h.log _

theorem Akin.whenReachable (h : c.Akin d) (sid : Sid) (action : String) {c' d' : Connection}
    (h' : c'.Akin d') : (c.whenReachable sid action c').Akin (d.whenReachable sid action d') := by
  rcases h.subscription?_cases sid with ⟨hc, hd⟩ | ⟨s, s', hc, hd, hs⟩
  · simp only [Connection.whenReachable, hc, hd]
    exact h.log _
  · have hvia : s'.via = s.via := by rw [Subscription.eq_of_pruned_eq hs]
    simp only [Connection.whenReachable, hc, hd, hvia, h.handles]
    split
    · exact h'
    · exact h.log _

theorem Twin.noteResult {x y : Except SubscriptionError Unit × Connection} (h : Twin x y)
    (sid : Sid) (action : String) :
    (Connection.noteResult sid action x).Akin (Connection.noteResult sid action y) := by
  unfold Connection.noteResult
  rw [h.fst]
  exact h.snd.log _

theorem Twin.noteAnswer {x y : Bool × Connection} (h : Twin x y) (sid : Sid) (action : String) :
    (Connection.noteAnswer sid action x).Akin (Connection.noteAnswer sid action y) := by
  unfold Connection.noteAnswer
  rw [h.fst]
  exact h.snd.log _

theorem Akin.act (ht : t.Heedless) (h : c.Akin d) (sid : Sid) (m : Delivery) (action : Action)
    (rest : List Action) : Twin (c.act t sid m action rest) (d.act t sid m action rest) := by
  cases action with
  | fail | panic => exact ⟨rfl, h⟩
  | respond payload => exact ⟨rfl, (h.respond ht m payload).noteResult sid "respond"⟩
  | respondStrict payload => exact h.respondOrFail ht m payload rest
  | respondUpper => exact h.respondOrFail ht m _ rest
  | close => exact ⟨rfl, h.whenHeld sid "close" fun _ _ _ => h.closeSubscription ht sid⟩
  | unsubscribe =>
    exact ⟨rfl, h.whenHeld sid "unsubscribe" fun _ _ _ =>
      (h.unsubscribe ht sid).noteResult sid "unsubscribe"⟩
  | autoUnsubscribe max =>
    exact ⟨rfl, h.whenHeld sid "auto_unsubscribe" fun _ _ _ =>
      (h.autoUnsubscribe ht sid max).noteResult sid "auto_unsubscribe"⟩
  | start =>
    exact ⟨rfl, h.whenHeld sid "start" fun _ _ _ =>
      (h.startSubscription ht sid).noteResult sid "start"⟩
  | disable =>
    exact ⟨rfl, h.whenHeld sid "disable" fun _ _ _ => (h.disable sid).noteAnswer sid "disable"⟩
  | enable =>
    exact ⟨rfl, h.whenHeld sid "enable" fun _ _ _ => (h.enable sid).noteAnswer sid "enable"⟩
  | setHandler handler =>
    exact ⟨rfl, h.whenHeld sid "set_handler" fun _ _ _ => h.setHandler sid handler⟩
  | yield times => cases times <;> exact ⟨rfl, h⟩
  | sleep span =>
    refine ⟨?_, h⟩
    simp only [Connection.act, h.clock]
  | remark text => exact ⟨rfl, h.log _⟩
  | info =>
    refine ⟨rfl, h.whenHeld sid "info" fun s s' hs => h.log_of_eq ?_⟩
    rw [Subscription.isStarted_of_pruned_eq hs, Subscription.eq_of_pruned_eq hs]
  | publish subject payload =>
    obtain ⟨outcome, c₁, d₁, hsent, hsent', h₁⟩ :=
      (h.publishFor ht (some m.message.sid) subject payload).exists
    simp only [Connection.act, hsent, hsent']
    exact ⟨rfl, h.whenReachable sid "publish" (h₁.log _)⟩
  | deliver message =>
    exact ⟨rfl, h.whenReachable sid "deliver"
      ((h.deliver message.sid message).noteAnswer sid "deliver")⟩
  | closeConnection => exact ⟨rfl, h.whenReachable sid "close_conn" (h.close ht)⟩

/-! ## Before and after an invocation -/

theorem Akin.beginInvocation (h : c.Akin d) (hs : s.pruned = s'.pruned)
    (hc : c.Attends s.sid i) (hd : d.Attends s.sid i') (handler : Handler) (m : Delivery)
    (count : Nat) :
    (c.beginInvocation s i handler m count).Akin (d.beginInvocation s' i' handler m count) := by
  have hsid : s'.sid = s.sid := by rw [Subscription.eq_of_pruned_eq hs]
  have hmax : s'.max = s.max := by rw [Subscription.eq_of_pruned_eq hs]
  have hphase := h.setPhase hc hd (.handling {
    delivery := m, script := handler.script m.message.payload, ceiling := s.max, count := count })
  simp only [Connection.beginInvocation, hsid, hmax]
  refine Akin.log ?_ _
  refine Akin.log ?_ _
  exact hphase.change (fun c => { c with counts := c.counts.handed }) fun _ => rfl

theorem Akin.process (ht : t.Heedless) (hsends : t.Sends .all) (hdrifts : t.Drifts) (h : c.Akin d)
    (hs : s.pruned = s'.pruned) (hi : s.ReceivesAt i) (hi' : s'.ReceivesAt i')
    (hc : c.Attends s.sid i) (hd : d.Attends s.sid i') (m : Delivery) :
    (c.process t s i m).Akin (d.process t s' i' m) := by
  obtain ⟨workers, current, rfl⟩ := Subscription.exists_of_pruned_eq hs
  simp only [Connection.process]
  split
  · exact h.drop _ _ _
  · next handler _ =>
    split
    · exact h.exitWorker hc hd
    · simp only [Subscription.claim]
      split
      · next hclaim =>
        split at hclaim
        · cases hclaim
        · next hfull =>
          simp only [hfull, if_false]
          exact (h.closeSubscription ht s.sid).exitWorker (hc.closeSubscription hsends hdrifts)
            (hd.closeSubscription hsends hdrifts)
      · next count s₁ hclaim =>
        split at hclaim
        · next hroom =>
          obtain ⟨rfl, rfl⟩ := Prod.mk.inj (Option.some.inj hclaim)
          simp only [hroom, if_true]
          have hclaimed : ({ s with delivered := s.delivered + 1 } : Subscription).pruned =
              ({ s with delivered := s.delivered + 1, workers := workers, current := current } :
                Subscription).pruned :=
            congrArg (fun s : Subscription => { s with delivered := s.delivered + 1 }) hs
          have hc' := hc.replace (s := { s with delivered := s.delivered + 1 }) rfl hi
          have hd' := hd.replace (s := { s with
            delivered := s.delivered + 1, workers := workers, current := current }) rfl hi'
          exact (h.replace hclaimed).beginInvocation hclaimed hc' hd' handler m _
        · cases hclaim

theorem Akin.takeNext (ht : t.Heedless) (hsends : t.Sends .all) (hdrifts : t.Drifts) (h : c.Akin d)
    (hs : s.pruned = s'.pruned) (hi : s.ReceivesAt i) (hi' : s'.ReceivesAt i')
    (hc : c.Attends s.sid i) (hd : d.Attends s.sid i') :
    (c.takeNext t s i).Akin (d.takeNext t s' i') := by
  obtain ⟨workers, current, rfl⟩ := Subscription.exists_of_pruned_eq hs
  simp only [Connection.takeNext]
  split
  · next m queue _ =>
    have htaken : ({ s with queue := queue } : Subscription).pruned =
        ({ s with queue := queue, workers := workers, current := current } : Subscription).pruned :=
      congrArg (fun s : Subscription => { s with queue := queue }) hs
    have hc' := hc.replace (s := { s with queue := queue }) rfl hi
    have hd' := hd.replace (s := { s with
      queue := queue, workers := workers, current := current }) rfl hi'
    exact ((h.replace htaken).log _).process ht hsends hdrifts htaken hi hi' (hc'.log _)
      (hd'.log _) m
  · exact h.exitWorker hc hd
  · exact h

theorem Akin.reportFailure (h : c.Akin d) (hs : s.pruned = s'.pruned) (f : Failure) :
    (c.reportFailure s f).Akin (d.reportFailure s' f) := by
  have hsid : s'.sid = s.sid := by rw [Subscription.eq_of_pruned_eq hs]
  have hsubject : s'.subject = s.subject := by rw [Subscription.eq_of_pruned_eq hs]
  have hwarned : ({ c.log (.warned s.sid s.subject f) with counts := c.counts.failed f.kind } :
      Connection).Akin
        { d.log (.warned s.sid s.subject f) with counts := d.counts.failed f.kind } :=
    (h.log _).change (fun c => { c with counts := c.counts.failed f.kind }) fun _ => rfl
  unfold Connection.reportFailure
  rw [hsid, hsubject]
  generalize ({ c.log (.warned s.sid s.subject f) with counts := c.counts.failed f.kind } :
    Connection) = c₁ at hwarned ⊢
  generalize ({ d.log (.warned s.sid s.subject f) with counts := d.counts.failed f.kind } :
    Connection) = d₁ at hwarned ⊢
  simp only [hwarned.hook]
  split
  · exact hwarned
  · exact hwarned.log _
  · exact hwarned.log _

theorem Akin.endInvocation (h : c.Akin d) (hs : s.pruned = s'.pruned) (failure : Option Failure) :
    (c.endInvocation s failure).Akin (d.endInvocation s' failure) := by
  have hsid : s'.sid = s.sid := by rw [Subscription.eq_of_pruned_eq hs]
  simp only [Connection.endInvocation, hsid]
  cases failure with
  | none => exact h.log _
  | some f => exact (h.log _).reportFailure hs f

theorem subscriptions_endInvocation (c : Connection) (s : Subscription) (failure : Option Failure) :
    (c.endInvocation s failure).subscriptions = c.subscriptions ∧
      (c.endInvocation s failure).issuedSids = c.issuedSids := by
  cases failure with
  | none => exact ⟨rfl, rfl⟩
  | some f =>
    simp only [endInvocation, reportFailure]
    split <;> exact ⟨rfl, rfl⟩

theorem Attends.endInvocation (h : c.Attends sid i) (s : Subscription) (failure : Option Failure) :
    (c.endInvocation s failure).Attends sid i :=
  h.of_eq (subscriptions_endInvocation c s failure).1 (subscriptions_endInvocation c s failure).2

theorem Akin.finishInvocation (ht : t.Heedless) (hsends : t.Sends .all) (hdrifts : t.Drifts)
    (h : c.Akin d) (hs : s.pruned = s'.pruned) (hc : c.Attends s.sid i) (hd : d.Attends s.sid i')
    (invocation : Invocation) (failure : Option Failure) :
    (c.finishInvocation t s i invocation failure).Akin
      (d.finishInvocation t s' i' invocation failure) := by
  have hsid : s'.sid = s.sid := by rw [Subscription.eq_of_pruned_eq hs]
  have hended := h.endInvocation hs failure
  have hc' := hc.endInvocation s failure
  have hd' := hd.endInvocation s' failure
  simp only [Connection.finishInvocation, hsid]
  split
  · exact (hended.closeSubscription ht s.sid).exitWorker (hc'.closeSubscription hsends hdrifts)
      (hd'.closeSubscription hsends hdrifts)
  · exact hended.setPhase hc' hd' .receiving

theorem Akin.stepInvocation (ht : t.Heedless) (hsends : t.Sends .all) (hdrifts : t.Drifts)
    (h : c.Akin d) (hs : s.pruned = s'.pruned) (hc : c.Attends s.sid i) (hd : d.Attends s.sid i')
    (invocation : Invocation) :
    (c.stepInvocation t s i invocation).2.Akin (d.stepInvocation t s' i' invocation).2 := by
  have hsid : s'.sid = s.sid := by rw [Subscription.eq_of_pruned_eq hs]
  unfold Connection.stepInvocation
  split
  · exact h.finishInvocation ht hsends hdrifts hs hc hd invocation none
  · next action rest _ =>
    have hc' := hc.act hsends hdrifts invocation.delivery action rest
    have hd' := hd.act hsends hdrifts invocation.delivery action rest
    obtain ⟨progress, c₁, d₁, hmade, hmade', h₁⟩ :=
      (h.act ht s.sid invocation.delivery action rest).exists
    simp only [hsid, hmade, hmade'] at hc' hd' ⊢
    cases progress with
    | next rest => exact h₁.setPhase hc' hd' _
    | pause rest => exact h₁.setPhase hc' hd' _
    | sleep wakeAt rest => exact h₁.setPhase hc' hd' _
    | «over» failure => exact h₁.finishInvocation ht hsends hdrifts hs hc' hd' invocation failure

/-! ## Turns -/

/-- What holds of a connection at every time: its subscriptions are in order, and so are their
numbers. -/
structure Trim (c : Connection) : Prop where
  sound : c.Sound fun _ => False
  /-- Numbers are given out in order, from one on. -/
  sids : c.subscriptions.map (·.sid) = List.range' 1 c.issuedSids

theorem Trim.nodup (h : c.Trim) : (c.subscriptions.map (·.sid)).Nodup :=
  h.sids ▸ List.nodup_range'

theorem Trim.orderly (h : c.Trim) (hs : c.subscription? sid = some s) :
    s.Disciplined ∧ s.OneReceiver := by
  have horderly := (h.sound.record sid _ (record?_of_subscription? hs)).orderly
  exact ⟨horderly.disciplined, horderly.receiver⟩

theorem Trim.attends (h : c.Trim) (hs : c.subscription? sid = some s) {w : Worker}
    (hw : s.workers[i]? = some w) (hr : w.hasReceiver = true) : c.Attends sid i :=
  ⟨h.sids, s, hs, (h.orderly hs).2, w, hw, hr⟩

theorem Trim.performOver (hsends : t.Sends .all) (hdrifts : t.Drifts) (h : c.Trim) (m : Move) :
    (c.performOver t m).Trim where
  sound := h.sound.performOver hdrifts m fun _ hf => hf.elim
  sids := (course_performOver hsends hdrifts (suits_all c) (allows_all c m)).flow.sids h.sids

/-- The same worker, which is not spent, takes its turn in both connections. -/
theorem Akin.stepWorker (ht : t.Heedless) (hsends : t.Sends .all) (hdrifts : t.Drifts)
    (h : c.Akin d) (hc : c.Trim) (hd : d.Trim) {w : Worker} (hs : c.subscription? sid = some s)
    (hs' : d.subscription? sid = some s') (hw : s.workers[i]? = some w)
    (hw' : s'.workers[i']? = some w) (hlive : w.isSpent = false) :
    (c.stepWorker t sid i).2.Akin (d.stepWorker t sid i').2 := by
  have hpruned := h.pruned_of_found hs hs'
  obtain ⟨hdisciplined, hone⟩ := hc.orderly hs
  obtain ⟨hdisciplined', hone'⟩ := hd.orderly hs'
  have hready := Subscription.isReady_eq hpruned hdisciplined hdisciplined' hw hw' hlive c.clock
  obtain rfl : s.sid = sid := sid_of_subscription? hs
  have hline : w.hasReceiver = false → w.cancelled = false →
      (c.setPhase s.sid i (s.lineUp i w)).Akin (d.setPhase s.sid i' (s'.lineUp i' w)) := by
    intro hr hrunning
    simp only [Connection.setPhase]
    rw [modifySubscription_of_found hc.nodup hs, modifySubscription_of_found hd.nodup hs']
    exact h.replace
      (Subscription.pruned_lineUp hpruned hdisciplined hdisciplined' hw hw' hrunning hr)
  simp only [Connection.stepWorker, hs, hs', hw, hw', ← h.clock, hready]
  split
  · exact h
  · cases hphase : w.phase with
    | starting | waiting =>
      have hr : w.hasReceiver = false := by simp only [Worker.hasReceiver, hphase]
      have hrunning : w.cancelled = false := by simpa [Worker.isSpent, hr] using hlive
      exact hline hr hrunning
    | receiving =>
      have hr : w.hasReceiver = true := by simp only [Worker.hasReceiver, hphase]
      have hattends := hc.attends hs hw hr
      have hattends' := hd.attends hs' hw' hr
      dsimp only
      split
      · exact h.exitWorker hattends hattends'
      · exact h.takeNext ht hsends hdrifts hpruned ⟨hone, w, hw, hr⟩ ⟨hone', w, hw', hr⟩ hattends
          hattends'
    | handling invocation =>
      have hr : w.hasReceiver = true := by simp only [Worker.hasReceiver, hphase]
      exact h.stepInvocation ht hsends hdrifts hpruned (hc.attends hs hw hr) (hd.attends hs' hw' hr)
        invocation
    | finished => exact h

/-- A spent worker ends unnoticed. -/
theorem stepWorker_of_spent (t : Transport) (hnodup : (c.subscriptions.map (·.sid)).Nodup)
    {w : Worker} (hs : c.subscription? sid = some s) (hw : s.workers[i]? = some w)
    (hspent : w.isSpent = true) : (c.stepWorker t sid i).2 = c ∧ w.phase = .finished ∨
      (c.stepWorker t sid i).2 = c.modifySubscription sid fun _ => s.setPhase i .finished := by
  obtain ⟨hcancelled, hr⟩ : w.cancelled = true ∧ w.hasReceiver = false := by
    simpa [Worker.isSpent] using hspent
  have hline : s.lineUp i w = .finished := by rw [Subscription.lineUp, if_pos hcancelled]
  have hended : c.setPhase sid i .finished = c.modifySubscription sid fun _ =>
      s.setPhase i .finished := modifySubscription_of_found hnodup hs _
  simp only [stepWorker, hs, hw, Subscription.isReady]
  cases hphase : w.phase with
  | starting => exact Or.inr (by simpa [hline] using hended)
  | waiting => exact Or.inr (by simpa [hline, hcancelled] using hended)
  | receiving | handling => simp [Worker.hasReceiver, hphase] at hr
  | finished => exact Or.inl ⟨by simp, rfl⟩

theorem akin_stepWorker_of_spent (t : Transport) (hc : c.Trim) {w : Worker}
    (hs : c.subscription? sid = some s) (hw : s.workers[i]? = some w)
    (hspent : w.isSpent = true) : c.Akin (c.stepWorker t sid i).2 := by
  rcases stepWorker_of_spent t hc.nodup hs hw hspent with ⟨heq, -⟩ | heq
  · rw [heq]
    exact .refl c
  · rw [heq]
    exact akin_replace hc.nodup hs
      (Subscription.pruned_setPhase_of_spent hw hspent (p := .finished) rfl)

end Connection

end PubSub
