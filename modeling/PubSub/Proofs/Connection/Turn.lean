import PubSub.Proofs.Connection.Alike
import PubSub.Proofs.Connection.Sound

/-!
# What a turn makes of a part of a connection

A turn of a worker is no concern of the parts that its subscription does not belong to, and what it
makes of its own subscription depends on that alone. At any time only one task of a part can change
what is seen of it.

## Main results

- `Connection.alike_stepWorker` — a turn of another subscription is no concern of the part
- `Connection.alike_stepWorker_of_not_mayAct` — nor is one of a worker that only lines up
- `Connection.Alike.stepWorker` — any other turn depends on what is seen of the part
- `Subscription.MayAct.unique` — at most one worker at a time takes such a turn
-/

namespace PubSub

namespace Connection

variable {part : Part} {c d : Connection} {sid : Sid} {t : Transport}

/-! ## What a handler does -/

theorem sid?_of_response {d : Delivery} {payload : ByteArray} {o : Outgoing}
    (h : d.response payload = .ok o) : o.frame.sid? = none := by
  unfold Delivery.response at h
  split at h
  · cases h
  · split at h
    · cases h
      rfl
    · cases h

theorem alike_respond (ht : t.Accepts) (c : Connection) (d : Delivery) (payload : ByteArray) :
    c.Alike part (c.respond t d payload).2 := by
  unfold respond
  split
  · exact .refl part c
  · next o ho => exact alike_send ht c (by simp [sid?_of_response ho])

/-- The answer goes out, or not, whatever the connection is at. -/
theorem fst_respond (ht : t.Accepts) (c c' : Connection) (d : Delivery) (payload : ByteArray) :
    (c.respond t d payload).1 = (c'.respond t d payload).1 := by
  unfold respond
  split
  · rfl
  · next o _ => simp only [fst_of_accepts ht]

theorem alike_note (c : Connection) (sid : Sid) (n : Note) : c.Alike part (c.note sid n) :=
  alike_log c rfl

theorem alike_respondOrFail (ht : t.Accepts) (c : Connection) (d : Delivery) (payload : ByteArray)
    (rest : List Action) : c.Alike part (c.respondOrFail t d payload rest).2 := by
  have hrespond : c.Alike part (c.respond t d payload).2 := alike_respond ht c d payload
  unfold respondOrFail
  split
  · next c' heq =>
    rw [heq] at hrespond
    exact hrespond
  · next e c' heq =>
    rw [heq] at hrespond
    exact hrespond

theorem fst_respondOrFail_eq (ht : t.Accepts) (c c' : Connection) (d : Delivery)
    (payload : ByteArray) (rest : List Action) :
    (c.respondOrFail t d payload rest).1 = (c'.respondOrFail t d payload rest).1 := by
  have hfst := fst_respond ht c c' d payload
  unfold respondOrFail
  generalize c.respond t d payload = answered at hfst ⊢
  generalize c'.respond t d payload = answered' at hfst ⊢
  obtain ⟨result, c₁⟩ := answered
  obtain ⟨result', c₁'⟩ := answered'
  change result = result' at hfst
  subst hfst
  cases result <;> rfl

/-- A plain action concerns no part. -/
theorem alike_act (ht : t.Accepts) (c : Connection) (sid : Sid) (d : Delivery) {action : Action}
    (h : action.isPlain = true) (rest : List Action) :
    c.Alike part (c.act t sid d action rest).2 := by
  cases action with
  | fail | panic | sleep => exact .refl part c
  | respond payload => exact (alike_respond ht c d payload).trans (alike_note _ sid _)
  | respondStrict payload => exact alike_respondOrFail ht c d payload rest
  | respondUpper => exact alike_respondOrFail ht c d _ rest
  | yield times => cases times <;> exact .refl part c
  | remark text => exact alike_note c sid _
  | info =>
    show c.Alike part (c.whenHeld sid "info" _)
    unfold whenHeld
    split
    · split <;> exact alike_note c sid _
    · exact alike_note c sid _
  | _ => cases h

/-- What a plain action leads to depends on the clock at most. -/
theorem fst_act_eq (ht : t.Accepts) {c c' : Connection} (hclock : c.clock = c'.clock) (sid : Sid)
    (d : Delivery) {action : Action} (h : action.isPlain = true) (rest : List Action) :
    (c.act t sid d action rest).1 = (c'.act t sid d action rest).1 := by
  cases action with
  | fail | panic | respond | remark | info => rfl
  | respondStrict payload => exact fst_respondOrFail_eq ht c c' d payload rest
  | respondUpper => exact fst_respondOrFail_eq ht c c' d _ rest
  | yield times => cases times <;> rfl
  | sleep span => simp only [act, hclock]
  | _ => cases h

/-! ## Before and after an invocation -/

theorem alike_setPhase (c : Connection) (hp : part.holds sid = false) (i : Nat)
    (phase : Worker.Phase) : c.Alike part (c.setPhase sid i phase) :=
  alike_elsewhere c (fun _ hs => hs) hp

theorem Alike.setPhase (h : c.Alike part d) (sid : Sid) (i : Nat) (phase : Worker.Phase) :
    (c.setPhase sid i phase).Alike part (d.setPhase sid i phase) :=
  h.modify (fun _ hs => hs) (fun _ hs => hs) fun _ _ hs => Subscription.seen_setPhase hs i phase

theorem alike_exitWorker (c : Connection) (hp : part.holds sid = false) (i : Nat) :
    c.Alike part (c.exitWorker sid i) :=
  alike_elsewhere c (f := fun s => s.exited i) (fun s hs => (s.sid_exited i).trans hs) hp

theorem Alike.exitWorker (h : c.Alike part d) (sid : Sid) (i : Nat) :
    (c.exitWorker sid i).Alike part (d.exitWorker sid i) :=
  h.modify (f := fun s => s.exited i) (g := fun s => s.exited i)
    (fun s hs => (s.sid_exited i).trans hs) (fun s hs => (s.sid_exited i).trans hs)
    fun _ _ hs => Subscription.seen_exited hs i

theorem alike_beginInvocation (c : Connection) {s : Subscription} (hp : part.holds s.sid = false)
    (i : Nat) (handler : Handler) (d : Delivery) (count : Nat) :
    c.Alike part (c.beginInvocation s i handler d count) := by
  have hphase : c.Alike part (c.setPhase s.sid i (.handling {
      delivery := d, script := handler.script d.message.payload, ceiling := s.max,
      count := count })) := alike_setPhase c hp i _
  refine Alike.trans ?_ (alike_note _ s.sid _)
  refine Alike.trans ?_ (alike_log _ (by simp [Part.hears, Event.about?, Event.sid?, hp]))
  exact hphase

theorem Alike.beginInvocation (h : c.Alike part d) {s s' : Subscription} (hs : s.seen = s'.seen)
    (i : Nat) (handler : Handler) (m : Delivery) (count : Nat) :
    (c.beginInvocation s i handler m count).Alike part
      (d.beginInvocation s' i handler m count) := by
  have hsid : s'.sid = s.sid := by rw [Subscription.eq_of_seen_eq hs]
  have hmax : s'.max = s.max := by rw [Subscription.eq_of_seen_eq hs]
  have hphase := h.setPhase s.sid i (.handling {
    delivery := m, script := handler.script m.message.payload, ceiling := s.max, count := count })
  simp only [Connection.beginInvocation, hsid, hmax]
  refine Alike.log ?_ _
  refine Alike.log ?_ _
  exact hphase

theorem alike_process (ht : t.Accepts) (c : Connection) {s : Subscription}
    (hp : part.holds s.sid = false) (i : Nat) (d : Delivery) :
    c.Alike part (c.process t s i d) := by
  unfold process
  split
  · exact alike_drop c d.message (Or.inr hp)
  · split
    · exact alike_exitWorker c hp i
    · split
      · exact (alike_closeSubscription ht c hp).trans (alike_exitWorker _ hp i)
      · next count s' hclaim =>
        obtain ⟨-, -, rfl⟩ := claim_eq_some hclaim
        have hclaimed := alike_replace c (s := { s with delivered := s.delivered + 1 }) rfl hp
        exact hclaimed.trans (alike_beginInvocation _ hp i _ d _)

theorem Alike.process (ht : t.Accepts) (h : c.Alike part d) {s s' : Subscription}
    (hs : s.seen = s'.seen) (i : Nat) (m : Delivery) :
    (c.process t s i m).Alike part (d.process t s' i m) := by
  have hclaim := Subscription.seen_claim hs s.max
  have hsid : s'.sid = s.sid := by rw [Subscription.eq_of_seen_eq hs]
  have hmax : s'.max = s.max := by rw [Subscription.eq_of_seen_eq hs]
  have hhandler : s'.handler = s.handler := by rw [Subscription.eq_of_seen_eq hs]
  have hattached : s'.attached = s.attached := by rw [Subscription.eq_of_seen_eq hs]
  simp only [Connection.process, hsid, hmax, hhandler, hattached]
  split
  · exact h.drop _ _ _
  · next handler _ =>
    split
    · exact h.exitWorker _ i
    · cases hc : s.claim s.max with
      | none =>
        cases hd : s'.claim s.max with
        | none => exact (h.closeSubscription ht _).exitWorker _ i
        | some claimed' => simp [hc, hd] at hclaim
      | some claimed =>
        cases hd : s'.claim s.max with
        | none => simp [hc, hd] at hclaim
        | some claimed' =>
          obtain ⟨count, s₁⟩ := claimed
          obtain ⟨count', s₁'⟩ := claimed'
          simp only [hc, hd, Option.map_some, Prod.map_apply, id_eq, Option.some.injEq,
            Prod.mk.injEq] at hclaim
          obtain ⟨rfl, hseen⟩ := hclaim
          have hsid₁ : s₁.sid = s.sid := by
            obtain ⟨-, -, rfl⟩ := claim_eq_some hc
            rfl
          exact (h.replace hseen hsid₁).beginInvocation hseen i handler m count

theorem alike_takeNext (ht : t.Accepts) (c : Connection) {s : Subscription}
    (hp : part.holds s.sid = false) (i : Nat) : c.Alike part (c.takeNext t s i) := by
  unfold takeNext
  split
  · next d queue _ =>
    have hheard : part.hears (.taken s.sid d.message) = false := by
      simp [Part.hears, Event.about?, Event.sid?, hp]
    have htaken := (alike_replace c (s := { s with queue := queue }) rfl hp).trans
      (alike_log _ hheard)
    exact htaken.trans (alike_process ht _ (s := { s with queue := queue }) hp i d)
  · exact alike_exitWorker c hp i
  · exact .refl part c

theorem Alike.takeNext (ht : t.Accepts) (h : c.Alike part d) {s s' : Subscription}
    (hs : s.seen = s'.seen) (i : Nat) : (c.takeNext t s i).Alike part (d.takeNext t s' i) := by
  obtain ⟨workers, rfl⟩ : ∃ workers, s' = { s with workers := workers } :=
    ⟨_, Subscription.eq_of_seen_eq hs⟩
  simp only [Connection.takeNext]
  split
  · next m queue _ =>
    have hseen : ({ s with queue := queue } : Subscription).seen =
        ({ s with queue := queue, workers := workers } : Subscription).seen :=
      congrArg (fun s : Subscription => { s with queue := queue }) hs
    have htaken := (h.replace hseen rfl).log (.taken s.sid m.message)
    exact htaken.process ht hseen i m
  · exact h.exitWorker _ i
  · exact h

theorem alike_reportFailure (c : Connection) (s : Subscription) (f : Failure) :
    c.Alike part (c.reportFailure s f) := by
  have hwarned : c.Alike part ({ c.log (.warned s.sid s.subject f) with
      counts := c.counts.failed f.kind } : Connection) := alike_log c rfl
  unfold reportFailure
  dsimp only
  split
  · exact hwarned
  · exact hwarned.trans (alike_log _ rfl)
  · exact hwarned.trans (alike_log _ rfl)

/-- How an invocation ended is no concern of any part. -/
theorem alike_endInvocation (c : Connection) (s : Subscription) (failure : Option Failure) :
    c.Alike part (c.endInvocation s failure) := by
  have hended : c.Alike part (c.log (.ended s.sid failure)) := alike_log c rfl
  cases failure with
  | none => exact hended
  | some f => exact hended.trans (alike_reportFailure _ s f)

theorem alike_finishInvocation (ht : t.Accepts) (c : Connection) {s : Subscription}
    (hp : part.holds s.sid = false) (i : Nat) (invocation : Invocation) (failure : Option Failure) :
    c.Alike part (c.finishInvocation t s i invocation failure) := by
  have hended : c.Alike part (c.endInvocation s failure) := alike_endInvocation c s failure
  unfold finishInvocation
  dsimp only
  split
  · exact hended.trans ((alike_closeSubscription ht _ hp).trans (alike_exitWorker _ hp i))
  · exact hended.trans (alike_setPhase _ hp i .receiving)

theorem Alike.finishInvocation (ht : t.Accepts) (h : c.Alike part d) {s s' : Subscription}
    (hs : s.seen = s'.seen) (i : Nat) (invocation : Invocation) (failure : Option Failure) :
    (c.finishInvocation t s i invocation failure).Alike part
      (d.finishInvocation t s' i invocation failure) := by
  have hsid : s'.sid = s.sid := by rw [Subscription.eq_of_seen_eq hs]
  have hended : (c.endInvocation s failure).Alike part (d.endInvocation s' failure) :=
    (alike_endInvocation c s failure).symm.trans (h.trans (alike_endInvocation d s' failure))
  simp only [Connection.finishInvocation, hsid]
  split
  · exact (hended.closeSubscription ht _).exitWorker _ i
  · exact hended.setPhase _ i _

theorem alike_stepInvocation (ht : t.Accepts) (c : Connection) {s : Subscription}
    (hp : part.holds s.sid = false) (i : Nat) {invocation : Invocation}
    (hplain : invocation.script.head?.all Action.isPlain = true) :
    c.Alike part (c.stepInvocation t s i invocation).2 := by
  unfold stepInvocation
  split
  · exact alike_finishInvocation ht c hp i invocation none
  · next action rest hscript =>
    have haction : action.isPlain = true := by simpa [hscript] using hplain
    have hact : c.Alike part (c.act t s.sid invocation.delivery action rest).2 :=
      alike_act ht c s.sid _ haction rest
    dsimp only
    generalize c.act t s.sid invocation.delivery action rest = acted at hact ⊢
    obtain ⟨progress, c₁⟩ := acted
    refine Alike.trans hact ?_
    cases progress with
    | next rest => exact alike_setPhase c₁ hp i _
    | pause rest => exact alike_setPhase c₁ hp i _
    | sleep wakeAt rest => exact alike_setPhase c₁ hp i _
    | «over» failure => exact alike_finishInvocation ht c₁ hp i invocation failure

theorem Alike.stepInvocation (ht : t.Accepts) (h : c.Alike part d) {s s' : Subscription}
    (hs : s.seen = s'.seen) (i : Nat) {invocation : Invocation}
    (hplain : invocation.script.head?.all Action.isPlain = true) :
    (c.stepInvocation t s i invocation).2.Alike part (d.stepInvocation t s' i invocation).2 := by
  have hsid : s'.sid = s.sid := by rw [Subscription.eq_of_seen_eq hs]
  unfold Connection.stepInvocation
  split
  · exact h.finishInvocation ht hs i invocation none
  · next action rest hscript =>
    have haction : action.isPlain = true := by simpa [hscript] using hplain
    have hact : (c.act t s.sid invocation.delivery action rest).2.Alike part
        (d.act t s.sid invocation.delivery action rest).2 :=
      (alike_act ht c s.sid _ haction rest).symm.trans
        (h.trans (alike_act ht d s.sid _ haction rest))
    obtain ⟨progress, c₁, d₁, hc, hd, hacted⟩ :=
      exists_of_fst_eq (fst_act_eq ht h.clock s.sid invocation.delivery haction rest) hact
    simp only [hsid, hc, hd]
    cases progress with
    | next rest => exact hacted.setPhase _ i _
    | pause rest => exact hacted.setPhase _ i _
    | sleep wakeAt rest => exact hacted.setPhase _ i _
    | «over» failure => exact hacted.finishInvocation ht hs i invocation failure

/-! ## One turn of a worker -/

variable {i : Nat} {s s' : Subscription} {w : Worker}

theorem plain_of_isMild (h : c.isMild sid i = true) (hs : c.subscription? sid = some s)
    (hw : s.workers[i]? = some w) (hready : s.isReady i c.clock = true) {invocation : Invocation}
    (hp : w.phase = .handling invocation) :
    invocation.script.head?.all Action.isPlain = true := by
  simpa [isMild, hs, nextAction?, hready, hw, Worker.invocation?, hp] using h

theorem alike_stepWorker (ht : t.Accepts) (c : Connection) (hp : part.holds sid = false)
    (hmild : c.isMild sid i = true) : c.Alike part (c.stepWorker t sid i).2 := by
  unfold stepWorker
  split
  · exact .refl part c
  · next s hs =>
    have hheld : part.holds s.sid = false := (sid_of_subscription? hs).symm ▸ hp
    split
    · exact .refl part c
    · next w hw =>
      split
      · exact .refl part c
      · next hready =>
        split
        · exact alike_setPhase c hp i _
        · exact alike_setPhase c hp i _
        · dsimp only
          split
          · exact alike_exitWorker c hp i
          · exact alike_takeNext ht c hheld i
        · next invocation hphase =>
          exact alike_stepInvocation ht c hheld i
            (plain_of_isMild hmild hs hw (by simpa using hready) hphase)
        · exact .refl part c

end Connection

namespace Subscription

variable {s s' : Subscription} {i j : Nat} {w : Worker}

/-- A worker that has the receiving end is seen as it is. -/
theorem worker_of_hasReceiver (h : s.seen = s'.seen) (hw : s.workers[i]? = some w)
    (hr : w.hasReceiver = true) : s'.workers[i]? = some w := by
  have hi := worker_of_seen_eq h i
  rw [hw] at hi
  obtain ⟨w', hw', heq⟩ := Option.map_eq_some_iff.1 hi.symm
  rw [hw']
  refine congrArg some ?_
  have hr' : w'.hasReceiver = true := by
    rw [← Worker.hasReceiver_seen, heq, Worker.hasReceiver_seen, hr]
  have hsame : ∀ w : Worker, w.hasReceiver = true → w.seen = w := by
    intro w hr
    obtain ⟨cancelled, phase⟩ := w
    cases phase with
    | receiving | handling => rfl
    | starting | waiting | finished => cases hr
  rw [← hsame w' hr', heq, hsame w hr]

/-- A worker whose turn can be seen: it has the receiving end, or it was not told to end and nobody
has it. -/
def MayAct (s : Subscription) (i : Nat) : Prop :=
  ∃ w, s.workers[i]? = some w ∧ w.seen.isFinished = false ∧
    (w.hasReceiver = true ∨ s.workers.any Worker.hasReceiver = false)

theorem MayAct.of_hasReceiver (hw : s.workers[i]? = some w) (hr : w.hasReceiver = true) :
    s.MayAct i := by
  refine ⟨w, hw, ?_, Or.inl hr⟩
  obtain ⟨cancelled, phase⟩ := w
  cases phase with
  | receiving | handling => rfl
  | starting | waiting | finished => cases hr

/-- A worker whose turn cannot be seen goes on waiting, or ends as it was told to. -/
theorem seen_lineUp (hw : s.workers[i]? = some w) (hphase : w.phase = .starting ∨ w.phase = .waiting)
    (h : ¬s.MayAct i) : ({ w with phase := s.lineUp i w } : Worker).seen = w.seen := by
  obtain ⟨cancelled, phase⟩ := w
  cases cancelled with
  | true => rcases hphase with rfl | rfl <;> rfl
  | false =>
    -- somebody has the receiving end, or the turn could be seen
    have hany : s.workers.any Worker.hasReceiver = true := by
      rw [← Bool.not_eq_false]
      intro hnone
      exact h ⟨_, hw, by rcases hphase with rfl | rfl <;> rfl, Or.inr hnone⟩
    have hwaiting : s.lineUp i ⟨false, phase⟩ = .waiting := by
      simp [lineUp, receiverIsFree, hany]
    rw [hwaiting]
    rcases hphase with rfl | rfl <;> rfl

theorem any_hasReceiver_of_seen_eq (h : s.seen = s'.seen) :
    s.workers.any Worker.hasReceiver = s'.workers.any Worker.hasReceiver := by
  have hany : ∀ s : Subscription, s.workers.any Worker.hasReceiver =
      s.seen.workers.any Worker.hasReceiver := by
    intro s
    simp [seen, List.any_map, Function.comp_def]
  rw [hany s, h, ← hany s']

theorem MayAct.of_seen_eq (h : s.MayAct i) (hs : s.seen = s'.seen) : s'.MayAct i := by
  obtain ⟨w, hw, hf, hr⟩ := h
  have hi := worker_of_seen_eq hs i
  rw [hw] at hi
  obtain ⟨w', hw', heq⟩ := Option.map_eq_some_iff.1 hi.symm
  refine ⟨w', hw', heq ▸ hf, ?_⟩
  rw [← any_hasReceiver_of_seen_eq hs, ← Worker.hasReceiver_seen w', heq, Worker.hasReceiver_seen]
  exact hr

/-- A worker that waits, or is about to, and was not told to end. -/
theorem MayAct.idle (hw : s.workers[i]? = some w) (hf : w.seen.isFinished = false)
    (hr : w.hasReceiver = false) :
    w.cancelled = false ∧ (w.phase = .starting ∨ w.phase = .waiting) := by
  obtain ⟨cancelled, phase⟩ := w
  cases phase with
  | starting => cases cancelled <;> first | exact ⟨rfl, Or.inl rfl⟩ | cases hf
  | waiting => cases cancelled <;> first | exact ⟨rfl, Or.inr rfl⟩ | cases hf
  | receiving | handling => cases hr
  | finished => cases hf

/-- There is at most one such worker. -/
theorem MayAct.unique (hi : s.MayAct i) (hj : s.MayAct j) (hdisciplined : s.Disciplined)
    (hreceiver : s.OneReceiver) : i = j := by
  obtain ⟨w, hw, hf, hr⟩ := hi
  obtain ⟨w', hw', hf', hr'⟩ := hj
  have hany : ∀ {k : Nat} {w : Worker}, s.workers[k]? = some w → w.hasReceiver = true →
      s.workers.any Worker.hasReceiver = true :=
    fun hk hr => List.any_eq_true.2 ⟨_, List.mem_of_getElem? hk, hr⟩
  cases hreceives : w.hasReceiver with
  | true =>
    have hreceives' : w'.hasReceiver = true := hr'.resolve_right (by simp [hany hw hreceives])
    exact hreceiver i j _ _ (phase?_eq_some_iff.2 ⟨w, hw, rfl⟩)
      (phase?_eq_some_iff.2 ⟨w', hw', rfl⟩) (w.hasReceiver_iff.1 hreceives)
      (w'.hasReceiver_iff.1 hreceives')
  | false =>
    have hnone : s.workers.any Worker.hasReceiver = false :=
      hr.resolve_left (by simp [hreceives])
    have hreceives' : w'.hasReceiver = false := by
      rw [← Bool.not_eq_true]
      intro hr'
      simp [hany hw' hr'] at hnone
    have hcurrent := hdisciplined i w hw (MayAct.idle hw hf hreceives).1
    have hcurrent' := hdisciplined j w' hw' (MayAct.idle hw' hf' hreceives').1
    exact Option.some.inj (hcurrent.symm.trans hcurrent')

theorem seen_setPhase_of_seen (hw : s.workers[i]? = some w) {p : Worker.Phase}
    (hp : ({ w with phase := p } : Worker).seen = w.seen) : (s.setPhase i p).seen = s.seen := by
  have hworkers : (s.workers.modify i fun w => { w with phase := p }).map Worker.seen =
      s.workers.map Worker.seen := by
    refine List.ext_getElem? fun j => ?_
    simp only [List.getElem?_map, List.getElem?_modify]
    by_cases hij : i = j
    · subst hij
      simp [hw, hp]
    · cases s.workers[j]? <;> simp [hij]
  simp only [setPhase, modifyWorker, seen, hworkers]

/-- Nobody has the receiving end, and nobody who was not told to end waits for it. -/
theorem receiverIsFree_of_disciplined (hw : s.workers[i]? = some w) (hc : w.cancelled = false)
    (hdisciplined : s.Disciplined) (hnone : s.workers.any Worker.hasReceiver = false) :
    s.receiverIsFree i = true := by
  have hearlier : (s.workers.take i).any Worker.isCandidate = false := by
    rw [← Bool.not_eq_true]
    intro hany
    obtain ⟨w', hw', hcandidate⟩ := List.any_eq_true.1 hany
    obtain ⟨j, hj⟩ := List.getElem?_of_mem hw'
    rw [List.getElem?_take] at hj
    split at hj
    case isFalse => cases hj
    next hlt =>
    have hrunning : w'.cancelled = false := by
      obtain ⟨cancelled, phase⟩ := w'
      cases phase with
      | waiting => simpa [Worker.isCandidate] using hcandidate
      | starting | receiving | handling | finished => cases hcandidate
    have heq : some j = some i := (hdisciplined j w' hj hrunning).symm.trans (hdisciplined i w hw hc)
    exact absurd (Option.some.inj heq) (Nat.ne_of_lt hlt)
  simp [receiverIsFree, hnone, hearlier]

end Subscription

namespace Connection

variable {part : Part} {c d : Connection} {sid : Sid} {t : Transport}
variable {i : Nat} {s s' : Subscription} {w : Worker}

/-- The turn of any other worker cannot be seen. -/
theorem alike_stepWorker_of_not_mayAct (hs : c.subscription? sid = some s) (h : ¬s.MayAct i) :
    c.Alike part (c.stepWorker t sid i).2 := by
  have hstays : ∀ (w : Worker) (p : Worker.Phase), s.workers[i]? = some w →
      ({ w with phase := p } : Worker).seen = w.seen → c.Alike part (c.setPhase sid i p) := by
    intro w p hw hp
    refine alike_modifySubscription c (fun _ hs => hs) fun _ s₁ hs₁ => ?_
    rw [hs] at hs₁
    obtain rfl := Option.some.inj hs₁
    exact Subscription.seen_setPhase_of_seen hw hp
  unfold stepWorker
  simp only [hs]
  split
  · exact .refl part c
  · next w hw =>
    split
    · exact .refl part c
    · cases hphase : w.phase with
      | starting => exact hstays w _ hw (Subscription.seen_lineUp hw (Or.inl hphase) h)
      | waiting => exact hstays w _ hw (Subscription.seen_lineUp hw (Or.inr hphase) h)
      | receiving => exact absurd (.of_hasReceiver hw (by simp [Worker.hasReceiver, hphase])) h
      | handling invocation =>
        exact absurd (.of_hasReceiver hw (by simp [Worker.hasReceiver, hphase])) h
      | finished => exact .refl part c

/-- A worker that was not told to end gets hold of the receiving end when nobody has it. -/
theorem stepWorker_of_idle (hs : c.subscription? sid = some s) (hdisciplined : s.Disciplined)
    (hw : s.workers[i]? = some w) (hf : w.seen.isFinished = false) (hr : w.hasReceiver = false)
    (hnone : s.workers.any Worker.hasReceiver = false) :
    (c.stepWorker t sid i).2 = c.setPhase sid i .receiving := by
  obtain ⟨hrunning, hphase⟩ := Subscription.MayAct.idle hw hf hr
  have hfree := Subscription.receiverIsFree_of_disciplined hw hrunning hdisciplined hnone
  have hlineUp : s.lineUp i w = .receiving := by simp [Subscription.lineUp, hrunning, hfree]
  rcases hphase with hp | hp
  · simp [stepWorker, hs, hw, Subscription.isReady, hp, hlineUp]
  · simp [stepWorker, hs, hw, Subscription.isReady, hp, hlineUp, hfree]

theorem isReady_of_hasReceiver (hs : s.seen = s'.seen) (hw : s.workers[i]? = some w)
    (hr : w.hasReceiver = true) (now : Instant) : s'.isReady i now = s.isReady i now := by
  have hw' := Subscription.worker_of_hasReceiver hs hw hr
  have hqueue : s'.queue = s.queue := by rw [Subscription.eq_of_seen_eq hs]
  simp only [Subscription.isReady, hw, hw', hqueue]
  obtain ⟨cancelled, phase⟩ := w
  cases phase with
  | receiving | handling => rfl
  | starting | waiting | finished => cases hr

/-- A turn that can be seen depends only on what is seen. -/
theorem Alike.stepWorker (ht : t.Accepts) (h : c.Alike part d)
    (hc : c.subscription? sid = some s) (hd : d.subscription? sid = some s') (hs : s.seen = s'.seen)
    (hdisciplined : s.Disciplined) (hdisciplined' : s'.Disciplined) (hacts : s.MayAct i)
    (hmild : c.isMild sid i = true) :
    (c.stepWorker t sid i).2.Alike part (d.stepWorker t sid i).2 := by
  obtain ⟨w, hw, hf, hr⟩ := hacts
  cases hreceives : w.hasReceiver with
  | false =>
    have hnone := hr.resolve_left (by simp [hreceives])
    obtain ⟨w', hw', hf', hr'⟩ := Subscription.MayAct.of_seen_eq ⟨w, hw, hf, hr⟩ hs
    have hnone' : s'.workers.any Worker.hasReceiver = false := by
      rw [← Subscription.any_hasReceiver_of_seen_eq hs, hnone]
    have hreceives' : w'.hasReceiver = false := by
      rw [← Bool.not_eq_true]
      intro hr'
      have hany := List.any_eq_true.2 ⟨w', List.mem_of_getElem? hw', hr'⟩
      simp [hany] at hnone'
    rw [stepWorker_of_idle hc hdisciplined hw hf hreceives hnone,
      stepWorker_of_idle hd hdisciplined' hw' hf' hreceives' hnone']
    exact h.setPhase sid i .receiving
  | true =>
    have hw' := Subscription.worker_of_hasReceiver hs hw hreceives
    have hready := isReady_of_hasReceiver hs hw hreceives d.clock
    simp only [Connection.stepWorker, hc, hd, hw, hw', hready, h.clock]
    split
    · exact h
    · next hnot =>
      have hgo : s.isReady i c.clock = true := by
        rw [h.clock]
        simpa using hnot
      cases hphase : w.phase with
      | receiving =>
        dsimp only
        split
        · exact h.exitWorker sid i
        · exact h.takeNext ht hs i
      | handling invocation =>
        exact h.stepInvocation ht hs i (plain_of_isMild hmild hc hw hgo hphase)
      | starting => simp [Worker.hasReceiver, hphase] at hreceives
      | waiting => simp [Worker.hasReceiver, hphase] at hreceives
      | finished => simp [Worker.hasReceiver, hphase] at hreceives

end Connection

end PubSub
