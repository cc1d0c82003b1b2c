import PubSub.Proofs.Connection.Ceiling
import PubSub.Proofs.Connection.Lifecycle
import PubSub.Proofs.Registry.Cancel
import PubSub.Proofs.Registry.Pending
import PubSub.Proofs.Sweeper.Plan

/-!
# Closed for good

When the close of a connection is over, nothing waits in its registry, none of its subscriptions is
valid, and all its workers were told to end (`Connection.Shut`). Nothing that is done later changes
this, for whatever would make a request or a subscription looks at the mark first.

## Main results

- `Connection.Shut.flow` — whatever becomes of a connection that is shut
- `Connection.Flow.shut` — whatever becomes of a connection, it is shut when it is closed
-/

namespace PubSub

theorem Subscription.Shifts.stopped {s s' : Subscription} (h : s.Shifts true s')
    (hs : s.Stopped) : s'.Stopped := by
  cases h with
  | hold | setHandler | take => exact hs
  | enable =>
    rcases Record.workers_enable s true with heq | ⟨-, heq⟩
    · rw [heq]
      exact hs
    · rw [heq]
      intro w hw
      rcases List.mem_append.1 hw with hold | hnew
      · exact hs w hold
      · rw [List.mem_singleton.1 hnew]
  | disable => exact Record.stopped_disable (Record.disciplined_of_stopped hs)
  | accept _ h =>
    obtain ⟨-, rfl⟩ := Subscription.enqueue_eq h
    exact hs
  | turn i => exact hs.setPhase i _
  | exit i =>
    intro w hw
    rw [Subscription.workers_exited] at hw
    exact hs.setPhase i .finished w hw
  | @begin i d q invocation =>
    have hclaimed : ({ s with queue := q, delivered := s.delivered + 1 } : Subscription).Stopped := hs
    exact hclaimed.setPhase i _

/-- The first name in a plan that is malformed: the subject, or else the queue group. -/
def SubscriptionPlan.malformed? (plan : SubscriptionPlan) : Option String :=
  if !Subject.isValid plan.subject then some plan.subject
  else plan.queueGroup.filter fun group => !Subject.isValid group

namespace Connection

/-- What holds of a connection when its close is over. -/
structure Shut (c : Connection) : Prop where
  stopping : c.isStopping = true
  /-- No request waits. -/
  entries : c.registry.entries = []
  ended : ∀ sid s, c.subscription? sid = some s → s.valid = false ∧ s.Stopped

variable {exposed : Sid → Prop} {c c' : Connection} {sid : Sid}

theorem entries_stepSweeper (h : c.registry.entries = []) :
    c.stepSweeper.registry.entries = [] := by
  rcases (c.sweeper.step_keeps c.registry c.clock).2 with heq | heq | heq
  · exact (congrArg Registry.entries heq).trans h
  · exact (congrArg Registry.entries heq).trans
      (Registry.perform_of_empty h (.sweepExpired c.clock) (by simp))
  · exact (congrArg Registry.entries heq).trans h

/-- The registry stays coherent. -/
theorem Flow.coherent (h : c.Flow exposed c') (hc : c.registry.Coherent) :
    c'.registry.Coherent := by
  induction h with
  | trans _ _ ih ih' => exact ih' (ih hc)
  | consult c op _ => exact hc.perform op
  | sweep c =>
    show (c.sweeper.step c.registry c.clock).2.Coherent
    rcases (c.sweeper.step_keeps c.registry c.clock).2 with heq | heq | heq
    · rw [heq]
      exact hc
    · rw [heq]
      exact hc.perform (.sweepExpired c.clock)
    · rw [heq]
      exact hc.noticed
  | enrol c options _ => exact hc.register _ options _ _
  | forgo c options _ => exact (hc.register _ options _ _).abandon _
  | close _ _ _ ih => exact ih (hc.perform .cancelAll)
  | _ => exact hc

/-- A connection that is marked as closed stays so, makes no subscriptions, and no request waits in
it once none did. -/
theorem Flow.closed (h : c.Flow exposed c') (hc : c.closed = true) :
    c'.closed = true ∧ (∀ sid, c.subscription? sid = none → c'.subscription? sid = none) ∧
      (c.registry.entries = [] → c'.registry.entries = []) := by
  induction h with
  | refl | log | aside | tally | refuse => exact ⟨hc, fun _ h => h, fun h => h⟩
  | trans _ _ ih ih' =>
    obtain ⟨hc', hnone, hentries⟩ := ih hc
    obtain ⟨hc'', hnone', hentries'⟩ := ih' hc'
    exact ⟨hc'', fun sid h => hnone' sid (hnone sid h), fun h => hentries' (hentries h)⟩
  | consult c op hop => exact ⟨hc, fun _ h => h, fun h => Registry.perform_of_empty h op hop⟩
  | sweep => exact ⟨hc, fun _ h => h, entries_stepSweeper⟩
  | forgo c options _ =>
    exact ⟨hc, fun _ h => h, fun h => Registry.entries_abandon_register h _ _ _ _⟩
  | shift c hf _ =>
    exact ⟨hc, fun _ => (subscription?_modifySubscription_eq_none hf).2, fun h => h⟩
  | @limit c sid _ max =>
    exact ⟨hc, fun _ => (subscription?_modifySubscription_eq_none
      (f := fun s => { s with max := max }) fun _ h => h).2, fun h => h⟩
  | @invalidate c sid _ =>
    exact ⟨hc, fun _ => (subscription?_modifySubscription_eq_none
      (f := fun s => { s with valid := false, attached := false }) fun _ h => h).2, fun h => h⟩
  | enrol _ _ h | register _ h | close h =>
    rw [h] at hc
    cases hc

/-- One subscription is changed, and does not come to life. -/
theorem Shut.modify (h : c.Shut) {f : Subscription → Subscription}
    (hf : ∀ s, s.sid = sid → (f s).sid = sid)
    (hs : ∀ s, c.subscription? sid = some s → (f s).valid = false ∧ (f s).Stopped) :
    (c.modifySubscription sid f).Shut := by
  refine ⟨h.stopping, h.entries, fun other s' hs' => ?_⟩
  rcases modifySubscription_cases hf hs' with ⟨-, s, hsub, rfl⟩ | ⟨-, hsub⟩
  · exact hs s hsub
  · exact h.ended other s' hsub

/-- Whatever becomes of a connection that is shut. -/
theorem Shut.flow (hs : c.Shut) (hc : c.closed = true) (h : c.Flow exposed c') : c'.Shut := by
  induction h with
  | refl | log | aside | tally | refuse => exact { hs with }
  | trans h _ ih ih' => exact ih' (ih hs hc) (h.closed hc).1
  | consult c op hop => exact { hs with entries := Registry.perform_of_empty hs.entries op hop }
  | sweep c =>
    exact { hs with
      stopping := (c.sweeper.step_keeps c.registry c.clock).1.trans hs.stopping
      entries := entries_stepSweeper hs.entries }
  | forgo c options _ =>
    exact { hs with entries := Registry.entries_abandon_register hs.entries _ _ _ _ }
  | @shift c sid f hf h =>
    refine hs.modify hf fun s hsub => ?_
    obtain ⟨hinvalid, hstopped⟩ := hs.ended sid s hsub
    have hshifts := h s hsub
    rw [hs.stopping] at hshifts
    have hkeeps : s.Keeps True (f s) := hshifts.keeps
    exact ⟨hkeeps.invalid hinvalid, hshifts.stopped hstopped⟩
  | @limit c sid _ max => exact hs.modify (fun _ h => h) fun s hsub => hs.ended sid s hsub
  | @invalidate c sid _ =>
    have hmodify : (c.modifySubscription sid fun s =>
        { s with valid := false, attached := false }).Shut :=
      hs.modify (fun _ h => h) fun s hsub => ⟨rfl, (hs.ended sid s hsub).2⟩
    exact { hmodify with }
  | enrol _ _ h | register _ h | close h =>
    rw [h] at hc
    cases hc

/-- When everything in the table was closed, no subscription is valid. -/
theorem Flow.invalid_of_close {marked : Connection} (h : marked.Flow exposed c') (hi : c.Intact)
    (hmarked : marked.closed = true) (hsame : marked.subscriptions = c.subscriptions)
    (hends : ∀ sid ∈ c.table, ∀ s, c.subscription? sid = some s →
      ∃ s', c'.subscription? sid = some s' ∧ s'.valid = false) {s' : Subscription}
    (hs' : c'.subscription? sid = some s') : s'.valid = false := by
  have hold : marked.subscription? sid = c.subscription? sid := by
    rw [subscription?, hsame]
    rfl
  cases hs : c.subscription? sid with
  | none =>
    have hn := (h.closed hmarked).2.1 sid (hold.trans hs)
    rw [hs'] at hn
    cases hn
  | some s =>
    cases hvalid : s.valid with
    | true =>
      -- it was in the table when the close began
      obtain ⟨s'', hs'', hinvalid⟩ := hends sid ((hi.listed sid s hs).2 hvalid) s hs
      obtain rfl := Option.some.inj (hs'.symm.trans hs'')
      exact hinvalid
    | false =>
      obtain ⟨s'', hs'', hkeeps⟩ := h.kept (hold.trans hs)
      obtain rfl := Option.some.inj (hs'.symm.trans hs'')
      exact hkeeps.invalid hvalid

/-- Whatever becomes of a connection, it is shut when it is closed, if it was. -/
theorem Flow.shut (h : c.Flow exposed c') (hi : c.Intact) (hs : c.closed = true → c.Shut)
    (hc' : c'.closed = true) : c'.Shut := by
  -- a close that is under way is none of the cases but its own, so a change is looked at as a whole
  cases hc : c.closed with
  | true => exact (hs hc).flow hc h
  | false =>
    induction h with
    | trans h h' ih ih' =>
      rename_i c c₁ c₂
      cases hc₁ : c₁.closed with
      | true => exact (ih hi hs hc₁ hc).flow hc₁ h'
      | false => exact ih' (h.intact hi) (fun h => absurd hc₁ (by simp [h])) hc' hc₁
    | @close c c' h hflow hends _ =>
      obtain ⟨-, -, hentries⟩ := hflow.closed rfl
      refine ⟨rfl, hentries (Registry.entries_cancelAll c.registry), fun sid s hsub => ?_⟩
      rw [subscription?_stopWorkers] at hsub
      obtain ⟨s', hs', rfl⟩ := Option.map_eq_some_iff.1 hsub
      have hinvalid : s'.valid = false := hflow.invalid_of_close hi rfl rfl hends hs'
      refine ⟨hinvalid, fun w hw => ?_⟩
      obtain ⟨w', -, rfl⟩ := List.mem_map.1 hw
      rfl
    | forgo _ _ h =>
      rw [h] at hc
      cases hc
    | _ => exact absurd (hc.symm.trans hc') Bool.false_ne_true -- nothing else sets the mark

/-- Once the workers were told to end, the connection is closed and no subscription is valid. -/
def Quiescent (c : Connection) : Prop :=
  c.isStopping = true → c.closed = true ∧ ∀ sid s, c.subscription? sid = some s → s.valid = false

theorem Quiescent.modify (h : c.Quiescent) {f : Subscription → Subscription}
    (hf : ∀ s, s.sid = sid → (f s).sid = sid)
    (hs : ∀ s, c.subscription? sid = some s → s.valid = false → (f s).valid = false) :
    (c.modifySubscription sid f).Quiescent := by
  intro hstop
  obtain ⟨hclosed, hinvalid⟩ := h hstop
  refine ⟨hclosed, fun other s' hs' => ?_⟩
  rcases modifySubscription_cases hf hs' with ⟨-, s, hsub, rfl⟩ | ⟨-, hsub⟩
  · exact hs s hsub (hinvalid sid s hsub)
  · exact hinvalid other s' hsub

/-- No subscription is made or comes to life while workers are told to end. -/
theorem Flow.quiescent (h : c.Flow exposed c') (hi : c.Intact) (hq : c.Quiescent) :
    c'.Quiescent := by
  induction h with
  | trans h _ ih ih' => exact ih' (h.intact hi) (ih hi hq)
  | sweep c => exact fun hstop => hq ((c.sweeper.step_keeps c.registry c.clock).1.symm.trans hstop)
  | shift c hf h =>
    refine hq.modify hf fun s hs hinvalid => ?_
    have hkeeps : s.Keeps True _ := (h s hs).keeps
    exact hkeeps.invalid hinvalid
  | @limit c sid _ max =>
    exact hq.modify (f := fun s => { s with max := max }) (fun _ h => h) fun _ _ h => h
  | @invalidate c sid _ =>
    exact hq.modify (f := fun s => { s with valid := false, attached := false }) (fun _ h => h)
      fun _ _ _ => rfl
  | register c h =>
    intro hstop
    rw [(hq hstop).1] at h
    cases h
  | @close c c' h hflow hends _ =>
    refine fun _ => ⟨(hflow.closed rfl).1, fun sid s hs => ?_⟩
    rw [subscription?_stopWorkers] at hs
    obtain ⟨s', hs', rfl⟩ := Option.map_eq_some_iff.1 hs
    have hinvalid : s'.valid = false := hflow.invalid_of_close hi rfl rfl hends hs'
    exact hinvalid
  | _ => exact hq

/-! ## What a shut connection answers -/

/-- Nothing waits in a coherent registry that is empty, so every request was resolved. -/
theorem isDone_of_empty (hc : c.registry.Coherent) (h : c.registry.entries = []) {r : Request}
    (hr : r ∈ c.registry.requests) : r.isDone = true := by
  obtain ⟨i, hi⟩ := List.getElem?_of_mem hr
  rw [← Bool.not_eq_false, Request.isDone_eq_false_iff]
  intro hpending
  have hwaits : (r.key, i) ∈ c.registry.entries := (hc.waiting r.key i).2 ⟨r, hi, rfl, hpending⟩
  rw [h] at hwaits
  cases hwaits

theorem Shut.table (h : c.Shut) (hi : c.Intact) : c.table = [] := by
  refine List.eq_nil_iff_forall_not_mem.2 fun sid hsid => ?_
  obtain ⟨s, hs⟩ := hi.known sid hsid
  have hvalid := (hi.listed sid s hs).1 hsid
  rw [(h.ended sid s hs).1] at hvalid
  cases hvalid

theorem Shut.deliver (h : c.Shut) (hi : c.Intact) (sid : Sid) (m : Message) :
    c.deliver sid m = (false, c.drop sid m .noSubscription) := by
  unfold Connection.deliver lookup
  rw [h.table hi]
  rfl

theorem Shut.resolveReply (h : c.Shut) (key : String) (m : Message) :
    c.resolveReply key m = (false, c) := by
  unfold Connection.resolveReply
  rw [Registry.resolveReply_of_empty h.entries]

theorem Shut.processInbound (h : c.Shut) (hi : c.Intact) (m : Message) :
    c.processInbound m =
      (false, if c.inbox.owns m.subject then c else c.drop m.sid m .noSubscription) := by
  unfold Connection.processInbound
  split
  · exact h.resolveReply m.subject m
  · exact h.deliver hi m.sid m

theorem build_of_closed (h : c.closed = true) (handle : Nat) (plan : SubscriptionPlan) :
    c.build handle plan = (.error (plan.malformed?.elim .closed .invalidSubject), c) := by
  unfold build SubscriptionPlan.malformed?
  split
  · rfl
  · split
    · next group heq => rw [heq, Option.elim_some]
    · next heq => rw [heq, Option.elim_none]

theorem subscribe_of_closed (h : c.closed = true) (t : Transport) (handle : Nat)
    (plan : SubscriptionPlan) :
    c.subscribe t handle plan = (.error (plan.malformed?.elim .closed .invalidSubject), c) := by
  unfold subscribe
  rw [build_of_closed h]

theorem publish_of_closed (h : c.closed = true) (t : Transport) (subject : String)
    (payload : ByteArray) :
    c.publish t subject payload =
      (.error (if Subject.isValid subject then .closed else .invalidSubject subject), c) := by
  unfold publish publishFor
  cases Subject.isValid subject with
  | true => simp [h]
  | false => simp

theorem request_of_closed (h : c.closed = true) (t : Transport) (subject : String)
    (payload : ByteArray) (options : RequestOptions) :
    c.request t subject payload options =
      (.error (if Subject.isValid subject then .connectionClosed
        else .invalidSubject subject), c) := by
  unfold request
  cases Subject.isValid subject with
  | true => simp [h]
  | false => simp

theorem Shut.startSubscription (h : c.Shut) (t : Transport) (sid : Sid) :
    c.startSubscription t sid = (.error (.invalidState sid), c) := by
  unfold Connection.startSubscription
  split
  · rfl
  · next s hs => simp [(h.ended sid s hs).1]

theorem Shut.autoUnsubscribe (h : c.Shut) (t : Transport) (sid : Sid) (max : Nat) :
    c.autoUnsubscribe t sid max = (.error (.invalidState sid), c) := by
  unfold Connection.autoUnsubscribe
  split
  · rfl
  · next s hs => simp [(h.ended sid s hs).1]

/-- An end is granted, though there is nothing left to end. -/
theorem Shut.unsubscribe (h : c.Shut) (t : Transport) (sid : Sid) :
    ∃ subscriptions, c.unsubscribe t sid = (.ok (), { c with subscriptions := subscriptions }) := by
  have hteardown : c.teardown t sid = (.ok (), c) := by
    unfold teardown
    split
    · rfl
    · next s hs => simp [(h.ended sid s hs).1]
  have hdisable : ∃ subscriptions,
      (c.disable sid).2 = { c with subscriptions := subscriptions } := by
    unfold disable
    split
    · exact ⟨c.subscriptions, rfl⟩
    · exact ⟨_, rfl⟩
  obtain ⟨subscriptions, heq⟩ := hdisable
  refine ⟨subscriptions, ?_⟩
  rw [Connection.unsubscribe, hteardown]
  exact congrArg (Prod.mk _) heq

/-- From the first moment at which a connection is closed, along every run: no request waits and
each that was ever made is done; the table is empty, and no subscription is valid or started. No
message is accepted. To build, to subscribe, to publish, to ask, to start and to limit is refused,
for a name that is malformed or else because of the close, and changes nothing at all; to unsubscribe
is granted and changes at most which workers were told to end. All this is so over every transport,
so no frame is sent. -/
theorem closed_for_good (o : Session.Opening) (id : Nat) (clock : Instant) (handle : Nat)
    (moves later : List Move) (h : ((o.connect id clock handle).run moves).closed = true) :
    let c := ((o.connect id clock handle).run moves).run later
    c.closed = true ∧
    c.registry.entries = [] ∧
    (∀ r ∈ c.registry.requests, r.isDone = true) ∧
    c.table = [] ∧
    (∀ s ∈ c.subscriptions, s.valid = false ∧ s.isStarted = false) ∧
    (∀ sid m, c.deliver sid m = (false, c.drop sid m .noSubscription)) ∧
    (∀ key m, c.resolveReply key m = (false, c)) ∧
    (∀ m, c.processInbound m =
      (false, if c.inbox.owns m.subject then c else c.drop m.sid m .noSubscription)) ∧
    (∀ handle plan, c.build handle plan =
      (.error (plan.malformed?.elim .closed .invalidSubject), c)) ∧
    ∀ t : Transport,
      (∀ handle plan, c.subscribe t handle plan =
        (.error (plan.malformed?.elim .closed .invalidSubject), c)) ∧
      (∀ subject payload, c.publish t subject payload =
        (.error (if Subject.isValid subject then .closed else .invalidSubject subject), c)) ∧
      (∀ subject payload options, c.request t subject payload options =
        (.error (if Subject.isValid subject then .connectionClosed
          else .invalidSubject subject), c)) ∧
      (∀ sid, c.startSubscription t sid = (.error (.invalidState sid), c)) ∧
      (∀ sid max, c.autoUnsubscribe t sid max = (.error (.invalidState sid), c)) ∧
      ∀ sid, ∃ subscriptions,
        c.unsubscribe t sid = (.ok (), { c with subscriptions := subscriptions }) := by
  intro c
  let start := o.connect id clock handle
  have hfirst : start.Flow (fun _ => True) (start.run moves) := flow_run start moves
  have hall : start.Flow (fun _ => True) c := hfirst.trans (flow_run _ later)
  have hi : c.Intact := hall.intact (.connect o id clock handle)
  have hclosed : c.closed = true := ((flow_run (start.run moves) later).closed h).1
  have hshut : c.Shut := hall.shut (.connect o id clock handle) (fun hf => by cases hf) hclosed
  have hcoherent : c.registry.Coherent := hall.coherent Registry.coherent_empty
  refine ⟨hclosed, hshut.entries, fun r hr => isDone_of_empty hcoherent hshut.entries hr,
    hshut.table hi, fun s hs => ?_, hshut.deliver hi, hshut.resolveReply, hshut.processInbound hi,
    build_of_closed hclosed, fun t => ⟨subscribe_of_closed hclosed t, publish_of_closed hclosed t,
      request_of_closed hclosed t, hshut.startSubscription t, hshut.autoUnsubscribe t,
      hshut.unsubscribe t⟩⟩
  obtain ⟨hinvalid, hstopped⟩ := hshut.ended s.sid s (subscription?_of_mem hi.nodup hs)
  exact ⟨hinvalid, hstopped.isStarted⟩

/-- The theorem applies to a connection that a handler closes while it is at work and a request
waits: after the next step of the handler, that request is done. -/
theorem closed_for_good_handler :
    let handler := Handler.mk "" [] [.closeConnection, .start]
    let moves : List Move := [.subscribe 1 { subject := "a", handler := some handler },
      .request "b" .empty {}, .deliver 1 { subject := "a" }, .stepWorker 1 0, .stepWorker 1 0,
      .stepWorker 1 0]
    let c := (Session.Opening.connect { token := "" } 0 0 1).run moves
    c.closed = true ∧ c.registry.requests.length = 1 ∧
      ∀ r ∈ (c.run [.stepWorker 1 0]).registry.requests, r.isDone = true := by
  refine ⟨by decide +kernel, by decide +kernel, ?_⟩
  refine (closed_for_good { token := "" } 0 0 1 _ [.stepWorker 1 0] ?_).2.2.1
  decide +kernel

end Connection

end PubSub
