import PubSub.Connection.Admission
import PubSub.Proofs.Connection.Sends

/-!
# Everything done to a connection is a course

Each operation, over any transport that does no more than is permitted while a frame is on its way,
and under which subscriptions only drift. What ends or limits a subscription needs permission; a new
subscription needs it too, for it is closed again when it cannot be announced.

## Main results

- `Connection.course_performOver` — whatever is done to a connection, over any transport
- `Connection.flow_perform`, `Connection.flow_run` — whatever is done to a connection is a flow
-/

namespace PubSub

namespace Subscription

theorem isStarted_eq (s : Subscription) :
    s.isStarted = (s.current.bind (s.workers[·]?)).any fun w => !w.cancelled := by
  unfold isStarted
  cases s.current.bind (s.workers[·]?) <;> rfl

/-- What a worker is at does not matter to whether it runs. -/
theorem isStarted_setPhase (s : Subscription) (i : Nat) (phase : Worker.Phase) :
    (s.setPhase i phase).isStarted = s.isStarted := by
  rw [isStarted_eq, isStarted_eq]
  show (s.current.bind ((s.workers.modify i fun w => { w with phase := phase })[·]?)).any _ = _
  cases s.current with
  | none => rfl
  | some j =>
    simp only [Option.bind_some, List.getElem?_modify]
    cases s.workers[j]? with
    | none => rfl
    | some w => by_cases hij : i = j <;> simp [hij]

theorem isStarted_exited (s : Subscription) (i : Nat) : (s.exited i).isStarted = s.isStarted := by
  rw [← s.isStarted_setPhase i .finished]
  unfold exited
  dsimp only
  split <;> rfl

theorem isStarted_began (s : Subscription) (i : Nat) (invocation : Invocation)
    (q : Dispatch Delivery) : (s.began i invocation q).isStarted = s.isStarted :=
  isStarted_setPhase { s with queue := q, delivered := s.delivered + 1 } i _

end Subscription

namespace Connection

variable {exposed : Sid → Prop} {p : Permit} {c c' : Connection} {t : Transport} {sid : Sid}
variable {i : Nat}

/-! ## Operations on a subscription -/

/-- What a start leaves of a valid subscription whose worker does not run. -/
theorem startSubscription_of_idle (t : Transport) {s : Subscription}
    (hs : c.subscription? sid = some s) (hvalid : s.valid = true) (hidle : s.isStarted = false) :
    (c.startSubscription t sid).2 =
      if s.attached then
        let sent := t { frame := .subscribe sid s.subject s.queueGroup } (c.enable sid).2
        sent.2.announcedFor sid sent.1
      else ((c.enable sid).2.disable sid).2 := by
  have henable : c.enable sid = (true, (c.enable sid).2) := by
    simp [enable, hs, Subscription.enable, hidle]
  have hs' := subscription?_enable hs
  have hattached := (s.enable_keeps c.isStopping).2.2.1
  simp only [startSubscription, hs, hvalid, Bool.not_true, Bool.false_eq_true, if_false]
  rw [henable]
  simp only [sendFor, hs', hattached]
  cases s.attached with
  | false => rfl
  | true =>
    simp only [if_true]
    generalize t { frame := .subscribe sid s.subject s.queueGroup } (c.enable sid).2 = sent
    obtain ⟨verdict, c'⟩ := sent
    cases verdict <;> rfl

theorem course_startSubscription (ht : t.Sends p) (hp : c.Suits p) (sid : Sid) :
    c.Course p (c.startSubscription t sid).2 := by
  cases hs : c.subscription? sid with
  | none =>
    simp only [startSubscription, hs]
    exact .refl c
  | some s =>
    cases hvalid : s.valid with
    | false =>
      simp only [startSubscription, hs, hvalid]
      exact .refl c
    | true =>
      cases hrun : s.isStarted with
      | true =>
        have henable : (c.startSubscription t sid).2 = (c.enable sid).2 := by
          simp [startSubscription, enable, hs, hvalid, Subscription.enable_of_isStarted hrun]
        rw [henable]
        exact course_enable c sid
      | false =>
        rw [startSubscription_of_idle t hs hvalid hrun]
        split
        · obtain ⟨c', outbound, hcourse, hquiet, heq⟩ :=
            ht { frame := .subscribe sid s.subject s.queueGroup } (c.enable sid).2
              ((course_enable c sid).suits hp) (Or.inr (asksOwn_of_asks rfl))
          dsimp only
          rw [heq]
          exact .start hs hvalid hrun hcourse hquiet _ outbound
        · next hdetached => exact .startDetached c hs hvalid hrun (by simpa using hdetached)

theorem course_tell (ht : t.Sends p) (hp : c.Suits p) {s : Subscription}
    (hs : c.subscription? sid = some s) (hvalid : s.valid = true) (max : Nat) :
    c.Course p (c.sendFor t sid (.unsubscribe sid (some max))).2 := by
  unfold sendFor
  simp only [hs]
  split
  · exact course_send ht hp (.tell hs hvalid max)
  · exact .refl c

theorem course_autoUnsubscribe (ht : t.Sends p) (hd : t.Drifts) (hp : c.Suits p) (h : p.ends sid)
    (max : Nat) : c.Course p (c.autoUnsubscribe t sid max).2 := by
  unfold autoUnsubscribe
  split
  · exact .refl c
  · next s hs =>
    split
    · exact .refl c
    · next hinvalid =>
      have hset : c.Course p ((c.modifySubscription sid fun s => { s with max := max }).log
          (.ceilingSet sid max)) := (Course.limit c h max).trans (.log _ trivial)
      split
      · exact hset
      · split
        · exact hset.trans (course_closeSubscription ht hd (hset.suits hp) h)
        · have hs' : ((c.modifySubscription sid fun s => { s with max := max }).log
              (.ceilingSet sid max)).subscription? sid = some { s with max := max } := by
            show (c.modifySubscription sid fun s => { s with max := max }).subscription? sid = _
            rw [subscription?_modifySubscription c sid (f := fun s => { s with max := max })
              fun _ h => h, if_pos rfl, hs, Option.map_some]
          exact hset.trans (course_tell ht (hset.suits hp) hs' (by simpa using hinvalid) max)

theorem course_setHandler (c : Connection) (sid : Sid) (handler : Handler) :
    c.Course p (c.setHandler sid handler) := by
  unfold setHandler
  split
  · exact .refl c
  · have hset : c.Course p
        (c.modifySubscription sid fun s => { s with handler := some handler }) :=
      .shift c (fun _ h => h) (fun s _ => .setHandler s handler) fun _ _ _ hrun => Or.inl hrun
    exact hset.trans (.log _ trivial)

theorem course_hold (c : Connection) (sid : Sid) (held : Bool) :
    c.Course p (c.modifySubscription sid fun s => { s with held := held }) :=
  .shift c (fun _ h => h) (fun s _ => .hold s held) fun _ _ _ hrun => Or.inl hrun

/-! ## Publishing -/

theorem course_publishFor (ht : t.Sends p) (hp : c.Suits p) (onBehalfOf : Option Sid)
    (subject : String) (payload : ByteArray) :
    c.Course p (c.publishFor t onBehalfOf subject payload).2 := by
  unfold publishFor
  split
  · exact .refl c
  · next hsubject =>
    split
    · exact .refl c
    · exact course_send ht hp (.publish (by simpa using hsubject) payload)

/-- The reply subjects are announced, unless they were. -/
theorem course_announceInbox (ht : t.Sends p) (hp : c.Suits p) (h : p.asks) :
    c.Course p (c.announceInbox t).2 := by
  unfold announceInbox
  split
  · exact .refl c
  · have hsend : c.Course p (t { frame := c.announcement } c).2 :=
      course_send ht hp (o := { frame := c.announcement }) (.announce h)
    unfold announcement at hsend
    split
    · next c' heq =>
      rw [heq] at hsend
      exact hsend.trans (.herald c' h)
    · next e c' heq =>
      rw [heq] at hsend
      exact hsend

theorem course_request (ht : t.Sends p) (hp : c.Suits p) (h : p.asks) (subject : String)
    (payload : ByteArray) (options : RequestOptions) :
    c.Course p (c.request t subject payload options).2 := by
  have hannounce := course_announceInbox ht hp h
  unfold request
  split
  · exact .refl c
  · next hsubject =>
    split
    · exact .refl c
    · split
      · next e c₁ heq =>
        rw [heq] at hannounce
        exact hannounce
      · next c₁ heq =>
        rw [heq] at hannounce
        dsimp only
        -- the announcement may have closed the connection
        split
        · next hclosed => exact hannounce.trans (.forgo c₁ h options hclosed)
        · next hclosed =>
          have henrol := hannounce.trans (.enrol c₁ h options (by simpa using hclosed))
          have hsend := course_send ht (henrol.suits hp)
            (o := { frame := .publish subject (some c₁.inbox.next.1) payload })
            (.ask h (by simpa using hsubject) (c₁.inbox.issued + 1) payload)
          unfold enrolled at henrol hsend
          split
          · next c₂ heq₂ =>
            rw [heq₂] at hsend
            exact henrol.trans hsend
          · next e c₂ heq₂ =>
            rw [heq₂] at hsend
            exact (henrol.trans hsend).trans
              (.consult c₂ (.abandon c₁.inbox.next.1) (by simp))

/-! ## Actions of a handler -/

/-- An answer asks for no reply itself. -/
theorem frame_response {d : Delivery} {payload : ByteArray} {o : Outgoing}
    (h : d.response payload = .ok o) :
    ∃ subject, d.message.replyTo = some subject ∧ o.frame = .publish subject none payload := by
  unfold Delivery.response at h
  split at h
  · cases h
  · next replyTo hreply =>
    split at h
    · cases h
      exact ⟨replyTo, hreply, rfl⟩
    · cases h

theorem course_respond (ht : t.Sends p) (hp : c.Suits p) {d : Delivery}
    (h : ∀ subject, d.message.replyTo = some subject → p.answers subject) (payload : ByteArray) :
    c.Course p (c.respond t d payload).2 := by
  unfold respond
  split
  · exact .refl c
  · next o ho =>
    obtain ⟨subject, hreply, hframe⟩ := frame_response ho
    refine course_send ht hp ?_
    rw [hframe]
    exact .answer (h subject hreply) payload

theorem course_respondOrFail (ht : t.Sends p) (hp : c.Suits p) {d : Delivery}
    (h : ∀ subject, d.message.replyTo = some subject → p.answers subject) (payload : ByteArray)
    (rest : List Action) : c.Course p (c.respondOrFail t d payload rest).2 := by
  have hrespond : c.Course p (c.respond t d payload).2 := course_respond ht hp h payload
  unfold respondOrFail
  split
  · next c' heq =>
    rw [heq] at hrespond
    exact hrespond
  · next e c' heq =>
    rw [heq] at hrespond
    exact hrespond

theorem course_whenHeld {s : Subscription} (hs : c.subscription? sid = some s) (action : String)
    {f : Subscription → Connection} (h : s.held = true → c.Course p (f s)) :
    c.Course p (c.whenHeld sid action f) := by
  unfold whenHeld
  rw [hs]
  dsimp only
  split
  · next hheld => exact h hheld
  · exact .log c trivial

theorem course_whenReachable {s : Subscription} (hs : c.subscription? sid = some s)
    (action : String) (h : s.via ∈ c.handles → c.Course p c') :
    c.Course p (c.whenReachable sid action c') := by
  unfold whenReachable
  rw [hs]
  dsimp only
  split
  · next hvia => exact h hvia
  · exact .log c trivial

/-- What has to be permitted for a handler to do an action. -/
structure AllowsAction (p : Permit) (c : Connection) (s : Subscription) (d : Delivery)
    (action : Action) : Prop where
  ends : ∀ sid, c.actionDisturbs s sid action = true → p.ends sid
  stops : action = .disable → s.held = true → p.stops s.sid
  delivers : ∀ m, action = .deliver m → s.via ∈ c.handles → p.delivers
  answers : ∀ subject, d.answeredOn? action = some subject → p.answers subject

/-- One action of a handler, whichever it is. -/
theorem course_act (ht : t.Sends p) (hd : t.Drifts) (hp : c.Suits p) {s : Subscription}
    (hs : c.subscription? s.sid = some s) {d : Delivery} {action : Action}
    (h : c.AllowsAction p s d action) (rest : List Action) :
    c.Course p (c.act t s.sid d action rest).2 := by
  have hnote : ∀ {c' : Connection} (n : Note), c.Course p c' →
      c.Course p (c'.note s.sid n) := fun n h => h.trans (.log _ trivial)
  have hown : s.held = true → (∀ sid, c.actionDisturbs s sid action = (s.sid == sid && s.held)) →
      p.ends s.sid := by
    intro hheld heq
    exact h.ends s.sid (by rw [heq, hheld, beq_self_eq_true, Bool.and_self])
  cases action with
  | fail | panic | sleep => exact .refl c
  | respond payload => exact hnote _ (course_respond ht hp h.answers payload)
  | respondStrict payload => exact course_respondOrFail ht hp h.answers payload rest
  | respondUpper => exact course_respondOrFail ht hp h.answers _ rest
  | close =>
    exact course_whenHeld hs _ fun hheld =>
      course_closeSubscription ht hd hp (hown hheld fun _ => rfl)
  | unsubscribe =>
    exact course_whenHeld hs _ fun hheld =>
      hnote _ (course_closeSubscription ht hd hp (hown hheld fun _ => rfl))
  | autoUnsubscribe max =>
    exact course_whenHeld hs _ fun hheld =>
      hnote _ (course_autoUnsubscribe ht hd hp (hown hheld fun _ => rfl) max)
  | start => exact course_whenHeld hs _ fun _ => hnote _ (course_startSubscription ht hp s.sid)
  | disable =>
    exact course_whenHeld hs _ fun hheld =>
      hnote _ (course_disable c s.sid fun _ _ _ => h.stops rfl hheld)
  | enable => exact course_whenHeld hs _ fun _ => hnote _ (course_enable c s.sid)
  | setHandler handler => exact course_whenHeld hs _ fun _ => course_setHandler c s.sid handler
  | yield times =>
    cases times with
    | zero => exact .refl c
    | succ times => exact .refl c
  | remark text => exact .log c trivial
  | info => exact course_whenHeld hs _ fun _ => .log c trivial
  | publish subject payload =>
    exact course_whenReachable hs _ fun _ =>
      hnote _ (course_publishFor ht hp (some d.message.sid) subject payload)
  | deliver m =>
    exact course_whenReachable hs _ fun hvia =>
      hnote _ (course_deliver (h.delivers m rfl hvia) c m.sid m)
  | closeConnection =>
    refine course_whenReachable hs _ fun hvia => course_close ht hd hp fun sid => h.ends sid ?_
    exact List.contains_iff_mem.2 hvia

/-! ## Workers -/

/-- A worker goes on to something that is no invocation. -/
theorem course_setPhase (c : Connection) (sid : Sid) (i : Nat) {phase : Worker.Phase}
    (h : ∀ invocation, phase ≠ .handling invocation) :
    c.Course p (c.setPhase sid i phase) :=
  .shift c (fun _ hs => hs)
    (fun s _ => .turn s i fun invocation heq => absurd heq (h invocation))
    fun s _ _ hrun => Or.inl ((s.isStarted_setPhase i phase).trans hrun)

theorem course_exitWorker (c : Connection) (sid : Sid) (i : Nat) :
    c.Course p (c.exitWorker sid i) :=
  .shift c (fun s hs => (s.sid_exited i).trans hs) (fun s _ => .exit s i)
    fun s _ _ hrun => Or.inl ((s.isStarted_exited i).trans hrun)

/-- Of two changes of one subscription the second finds what the first left. -/
theorem modifySubscription_modifySubscription (c : Connection) (sid : Sid)
    {f g : Subscription → Subscription} (hf : ∀ s, s.sid = sid → (f s).sid = sid) :
    (c.modifySubscription sid f).modifySubscription sid g =
      c.modifySubscription sid fun s => g (f s) := by
  unfold modifySubscription
  simp only [List.map_map]
  congr 2
  funext s
  by_cases hs : s.sid = sid
  · simp [hs, hf s hs]
  · simp [hs]

/-- The message that is next is given to the handler. -/
theorem course_begin {s : Subscription} (hs : c.subscription? s.sid = some s) (i : Nat)
    {d : Delivery} {q : Dispatch Delivery} (hrecv : s.queue.recv = (.entry d, q))
    (handler : Handler) :
    c.Course p ((((c.modifySubscription s.sid fun _ => { s with queue := q }).log
      (.taken s.sid d.message)).modifySubscription s.sid fun _ =>
        { s with queue := q, delivered := s.delivered + 1 }).beginInvocation
      { s with queue := q, delivered := s.delivered + 1 } i handler d (s.delivered + 1)) := by
  let invocation : Invocation := {
    delivery := d
    script := handler.script d.message.payload
    ceiling := s.max
    count := s.delivered + 1 }
  have hbegin : c.Course p (c.modifySubscription s.sid fun _ => s.began i invocation q) :=
    .replace hs rfl (.begin s i hrecv rfl rfl) fun hrun => (s.isStarted_began i _ q).trans hrun
  have htaken := hbegin.trans (.log _ (e := .taken s.sid d.message) trivial)
  have hbegan := htaken.trans (.tell _ (e := .began s.sid handler d) trivial)
  have hnoted := hbegan.trans (.log _ (e := .noted s.sid (.seen handler.name d)) trivial)
  -- three changes of the subscription make up the one above
  have hsubs : ((c.modifySubscription s.sid fun _ => { s with queue := q }).modifySubscription s.sid
      fun _ => { s with queue := q, delivered := s.delivered + 1 }).modifySubscription s.sid
        (fun s => s.setPhase i (.handling invocation)) =
      c.modifySubscription s.sid fun _ => s.began i invocation q := by
    rw [modifySubscription_modifySubscription c s.sid (f := fun _ => { s with queue := q })
        fun _ _ => rfl,
      modifySubscription_modifySubscription c s.sid
        (f := fun _ => { s with queue := q, delivered := s.delivered + 1 }) fun _ _ => rfl]
    rfl
  rw [← hsubs] at hnoted
  exact hnoted

theorem course_takeNext (ht : t.Sends p) (hd : t.Drifts) (hp : c.Suits p) {s : Subscription}
    (hs : c.subscription? s.sid = some s)
    (i : Nat) (hlimit : s.AtLimit i → p.ends s.sid) : c.Course p (c.takeNext t s i) := by
  unfold takeNext
  split
  · next d q hrecv =>
    have hqueue : c.Course p (c.modifySubscription s.sid fun _ => { s with queue := q }) :=
      .replace hs rfl (.take s hrecv) fun hrun => hrun
    have htake := hqueue.trans (.log _ (e := .taken s.sid d.message) trivial)
    unfold process
    dsimp only
    split
    · exact htake.trans (.tell _ (e := .dropped s.sid d.message .noHandler) trivial)
    · next handler _ =>
      split
      · exact htake.trans (course_exitWorker _ s.sid i)
      · split
        · next hclaim =>
          have hreached := claim_eq_none hclaim
          exact htake.trans ((course_closeSubscription ht hd (htake.suits hp)
            (hlimit (Or.inl hreached))).trans
            (course_exitWorker _ s.sid i))
        · next count s' hclaim =>
          obtain ⟨-, rfl, rfl⟩ := claim_eq_some hclaim
          exact course_begin hs i hrecv handler
  · exact course_exitWorker c s.sid i
  · exact .refl c

theorem course_endInvocation (hr : p.reports) (c : Connection) (s : Subscription)
    (failure : Option Failure) : c.Course p (c.endInvocation s failure) := by
  have hended : c.Course p (c.log (.ended s.sid failure)) := .log c trivial
  unfold endInvocation
  cases failure with
  | none => exact hended
  | some f =>
    have hwarned := hended.trans (.tell _ (e := .warned s.sid s.subject f) hr)
    unfold reportFailure
    dsimp only
    split
    · exact hwarned
    · exact hwarned.trans (.log _ hr)
    · exact hwarned.trans (.log _ hr)

theorem course_finishInvocation (ht : t.Sends p) (hd : t.Drifts) (hp : c.Suits p) (hr : p.reports)
    (s : Subscription) (i : Nat) (invocation : Invocation) (failure : Option Failure)
    (hlimit : invocation.ceiling ≠ 0 → invocation.count = invocation.ceiling → p.ends s.sid) :
    c.Course p (c.finishInvocation t s i invocation failure) := by
  have hended : c.Course p (c.endInvocation s failure) := course_endInvocation hr c s failure
  unfold finishInvocation
  dsimp only
  split
  · next hlast =>
    have hclose := course_closeSubscription ht hd (hended.suits hp) (hlimit hlast.1 hlast.2)
    exact hended.trans (hclose.trans (course_exitWorker _ s.sid i))
  · exact hended.trans (course_setPhase _ s.sid i (by simp))

theorem course_stepInvocation (ht : t.Sends p) (hd : t.Drifts) (hp : c.Suits p) (hr : p.reports)
    {s : Subscription} (hs : c.subscription? s.sid = some s) {invocation : Invocation}
    (hphase : s.phase? i = some (.handling invocation))
    (haction : ∀ action, invocation.script.head? = some action →
      c.AllowsAction p s invocation.delivery action)
    (hlimit : s.AtLimit i → p.ends s.sid) :
    c.Course p (c.stepInvocation t s i invocation).2 := by
  have hlast : invocation.ceiling ≠ 0 → invocation.count = invocation.ceiling → p.ends s.sid :=
    fun hne heq => hlimit (Or.inr ⟨invocation, hphase, hne, heq⟩)
  obtain ⟨c₁, hacted, hevolves, hnext⟩ :=
    @stepInvocation_eq (fun _ => False) c t hd s i invocation fun hf => hf.elim
  have hact : c.Course p c₁ := by
    rcases hacted with rfl | ⟨action, rest, hscript, rfl⟩
    · exact .refl c₁
    · exact course_act ht hd hp hs (haction action (by rw [hscript]; rfl)) rest
  rcases hnext with ⟨invocation', hnext, heq⟩ | ⟨failure, heq⟩
  · -- the handler does not move the worker that it runs in
    obtain ⟨v, hv, -, hphase'⟩ := phase?_of_evolves hevolves (record?_of_subscription? hs) hphase
    have hturn : c₁.Course p (c₁.setPhase s.sid i (.handling invocation')) := by
      refine .shift _ (fun _ h => h) (fun s' hs' => .turn s' i fun inv hinv => ?_)
        fun s' _ _ hrun => Or.inl ((s'.isStarted_setPhase i _).trans hrun)
      obtain rfl := Option.some.inj ((subscription?_of_record? hv).symm.trans hs')
      cases hinv
      exact ⟨invocation, hphase', hnext.delivery, hnext.ceiling, hnext.count⟩
    rw [heq]
    exact hact.trans hturn
  · rw [heq]
    exact hact.trans (course_finishInvocation ht hd (hact.suits hp) hr s i invocation failure hlast)

theorem course_stepWorker (ht : t.Sends p) (hd : t.Drifts) (hp : c.Suits p) (sid : Sid) (i : Nat)
    (hends : ∀ other, c.disturbs other (.stepWorker sid i) = true → p.ends other)
    (hstop : c.isDisabling sid (.stepWorker sid i) = true → p.stops sid)
    (hlimit : ∀ s, c.subscription? sid = some s → s.AtLimit i → p.ends sid)
    (hreports : ∀ s invocation, c.subscription? sid = some s →
      s.phase? i = some (.handling invocation) → p.reports)
    (hdelivers : c.admissions (.stepWorker sid i) ≠ [] → p.delivers)
    (hanswers : ∀ subject, c.answering? (.stepWorker sid i) = some subject → p.answers subject) :
    c.Course p (c.stepWorker t sid i).2 := by
  unfold stepWorker
  cases hs : c.subscription? sid with
  | none => exact .refl c
  | some s =>
    obtain rfl : s.sid = sid := sid_of_subscription? hs
    dsimp only
    cases hw : s.workers[i]? with
    | none => exact .refl c
    | some w =>
      dsimp only
      split
      · exact .refl c
      · next hready =>
        have hgo : s.isReady i c.clock = true := by simpa using hready
        have hlineUp : c.Course p (c.setPhase s.sid i (s.lineUp i w)) :=
          course_setPhase c s.sid i (Record.not_handling_lineUp s i w)
        cases hphase : w.phase with
        | starting => exact hlineUp
        | waiting => exact hlineUp
        | finished => exact .refl c
        | receiving =>
          dsimp only
          split
          · exact course_exitWorker c s.sid i
          · exact course_takeNext ht hd hp hs i (hlimit s hs)
        | handling invocation =>
          have hnext : ∀ action, invocation.script.head? = some action →
              c.nextAction? s i = some action := by
            intro action hscript
            simp [nextAction?, hgo, hw, Worker.invocation?, hphase, hscript]
          have hacting : ∀ action, invocation.script.head? = some action →
              c.acting? (.stepWorker s.sid i) = some (s, invocation.delivery, action) := by
            intro action hscript
            simp [acting?, hs, hw, Worker.invocation?, hphase, hnext action hscript]
          have hphase' := Subscription.phase?_eq_some_iff.2 ⟨w, hw, hphase⟩
          refine course_stepInvocation ht hd hp (hreports s invocation hs hphase') hs hphase'
            (fun action hscript => ⟨?_, ?_, ?_, ?_⟩) (hlimit s hs)
          · intro other h
            refine hends other ?_
            simp [disturbs, hs, hnext action hscript, h]
          · rintro rfl hheld
            refine hstop ?_
            simp [isDisabling, hs, hheld, hnext _ hscript]
          · rintro m rfl hvia
            refine hdelivers ?_
            simp [admissions, hacting _ hscript, hvia]
          · intro subject h
            refine hanswers subject ?_
            simp [answering?, hacting action hscript, h]

/-! ## New subscriptions -/

/-- A subscription that is built is new, has the next number, and is as it was planned. -/
theorem build_of_ok {handle : Nat} {plan : SubscriptionPlan}
    (h : c.build handle plan = (.ok sid, c')) :
    c.closed = false ∧ sid = c.issuedSids + 1 ∧
      ∃ s : Subscription, s.sid = sid ∧ s.IsNew ∧ c' = c.register s ∧
        s.handler = plan.handler ∧ s.max = plan.max := by
  unfold build at h
  split at h
  · cases h
  · next hsubject =>
    split at h
    · cases h
    · next hgroup =>
      split at h
      · cases h
      · next hclosed =>
        cases h
        exact ⟨by simpa using hclosed, rfl, _, rfl, ⟨rfl, rfl, rfl, rfl, by simpa using hsubject,
          by simpa using hgroup⟩, rfl, rfl, rfl⟩

theorem build_of_error {handle : Nat} {plan : SubscriptionPlan} {e : ConnectionError}
    (h : c.build handle plan = (.error e, c')) : c' = c := by
  unfold build at h
  split at h
  · cases h
    rfl
  · split at h
    · cases h
      rfl
    · split at h
      · cases h
        rfl
      · cases h

theorem course_build (c : Connection) (handle : Nat) (plan : SubscriptionPlan) :
    c.Course p (c.build handle plan).2 := by
  cases hbuild : c.build handle plan with
  | mk made c' =>
    cases made with
    | error e =>
      obtain rfl := build_of_error hbuild
      exact .refl c'
    | ok sid =>
      obtain ⟨hopen, hsid, s, rfl, hnew, rfl, -⟩ := build_of_ok hbuild
      exact .register c hopen hsid hnew

theorem course_subscribe (ht : t.Sends p) (hd : t.Drifts) (hp : c.Suits p) (handle : Nat)
    (plan : SubscriptionPlan) (hnew : p.ends (c.issuedSids + 1)) :
    c.Course p (c.subscribe t handle plan).2 := by
  have hbuild : c.Course p (c.build handle plan).2 := course_build c handle plan
  unfold subscribe
  split
  · next e c₁ heq =>
    rw [heq] at hbuild
    exact hbuild
  · next sid c₁ heq =>
    obtain ⟨-, rfl, -⟩ := build_of_ok heq
    rw [heq] at hbuild
    have hstart : c₁.Course p (c₁.startSubscription t (c.issuedSids + 1)).2 :=
      course_startSubscription ht (hbuild.suits hp) _
    split
    · next c₂ heq₂ =>
      rw [heq₂] at hstart
      exact hbuild.trans hstart
    · next e c₂ heq₂ =>
      rw [heq₂] at hstart
      exact (hbuild.trans hstart).trans
        (course_closeSubscription ht hd ((hbuild.trans hstart).suits hp) hnew)

theorem course_handOver {made : Except ConnectionError Sid × Connection}
    (h : c.Course p made.2) : c.Course p (handOver made).2 := by
  unfold handOver
  split
  · exact h.trans (course_hold _ _ true)
  · exact h

/-! ## Runs -/

/-- What has to be permitted for a thing to be done. -/
structure Allows (p : Permit) (c : Connection) (move : Move) : Prop where
  ends : ∀ sid, c.disturbs sid move = true → p.ends sid
  /-- A new subscription is closed again when it cannot be announced. -/
  fresh : p.ends (c.issuedSids + 1)
  limit : ∀ sid i s, move = .stepWorker sid i → c.subscription? sid = some s → s.AtLimit i →
    p.ends sid
  stops : ∀ sid, c.isDisabling sid move = true → p.stops sid
  asks : ∀ subject payload options, move = .request subject payload options → p.asks
  reports : ∀ sid i s invocation, move = .stepWorker sid i → c.subscription? sid = some s →
    s.phase? i = some (.handling invocation) → p.reports
  delivers : c.admissions move ≠ [] → p.delivers
  answers : ∀ subject, c.answering? move = some subject → p.answers subject

/-- Whatever is done to a connection. -/
theorem course_performOver (ht : t.Sends p) (hd : t.Drifts) (hp : c.Suits p) {move : Move}
    (h : c.Allows p move) : c.Course p (c.performOver t move) := by
  cases move with
  | build handle plan => exact course_handOver (course_build c handle plan)
  | subscribe handle plan => exact course_handOver (course_subscribe ht hd hp handle plan h.fresh)
  | letGo sid => exact course_hold c sid false
  | start sid => exact course_startSubscription ht hp sid
  | unsubscribe sid | closeSubscription sid =>
    exact course_closeSubscription ht hd hp (h.ends sid (beq_self_eq_true sid))
  | autoUnsubscribe sid max =>
    exact course_autoUnsubscribe ht hd hp (h.ends sid (beq_self_eq_true sid)) max
  | enable sid => exact course_enable c sid
  | disable sid => exact course_disable c sid fun _ _ _ => h.stops sid (beq_self_eq_true sid)
  | setHandler sid handler => exact course_setHandler c sid handler
  | deliver sid m => exact course_deliver (h.delivers (List.cons_ne_nil _ _)) c sid m
  | deliverTo sid m =>
    simp only [performOver]
    split
    · next s hs =>
      obtain rfl : s.sid = sid := sid_of_subscription? hs
      exact course_deliverTo (h.delivers (by simp [admissions, hs])) hs m
    · exact .refl c
  | process m =>
    refine course_processInbound c ?_
    cases howns : c.inbox.owns m.subject with
    | true => exact Or.inr rfl
    | false => exact Or.inl (h.delivers (by simp [admissions, howns]))
  | resolve key m => exact .consult c (.resolveReply key m) (by simp)
  | publish subject payload => exact course_publishFor ht hp none subject payload
  | request subject payload options =>
    exact course_request ht hp (h.asks _ _ _ rfl) subject payload options
  | tryResult number => exact .consult c (.look number) (by simp)
  | addHandle handle => exact .aside c (c.handles ++ [handle]) c.outbound c.clock
  | dropHandle handle =>
    have hdrop : c.Course p { c with handles := c.handles.filter (· != handle) } :=
      .aside c (c.handles.filter (· != handle)) c.outbound c.clock
    show c.Course p (c.dropHandle t handle)
    unfold dropHandle
    dsimp only
    split
    · next hempty =>
      exact hdrop.trans (course_close ht hd (hdrop.suits hp) fun sid => h.ends sid hempty)
    · exact hdrop
  | close => exact course_close ht hd hp fun sid => h.ends sid rfl
  | receive count => exact .aside c c.handles (c.outbound.takeUpTo count).2 c.clock
  | closeReceiver => exact .aside c c.handles c.outbound.close c.clock
  | dropReceiver => exact .aside c c.handles c.outbound.dropReceiver c.clock
  | stepWorker sid i =>
    exact course_stepWorker ht hd hp sid i h.ends (h.stops sid)
      (fun s hs => h.limit sid i s rfl hs) (fun s invocation => h.reports sid i s invocation rfl)
      h.delivers h.answers
  | stepSweeper => exact .sweep c
  | setClock now => exact .aside c c.handles c.outbound now

theorem allows_all (c : Connection) (move : Move) : c.Allows .all move where
  ends _ _ := trivial
  fresh := trivial
  limit _ _ _ _ _ _ := trivial
  stops _ _ := trivial
  asks _ _ _ _ := trivial
  reports _ _ _ _ _ _ _ := trivial
  delivers _ := trivial
  answers _ _ := trivial

/-- Whatever is done to a connection. -/
theorem flow_perform (hp : c.Permits exposed) (move : Move)
    (hdisturbs : ∀ sid, c.disturbs sid move = true → exposed sid)
    (hnew : exposed (c.issuedSids + 1))
    (hlimit : ∀ sid i s, move = .stepWorker sid i → c.subscription? sid = some s → s.AtLimit i →
      exposed sid) : c.Flow exposed (c.perform move) := by
  let p : Permit := { Permit.all with ends := exposed }
  have hallows : c.Allows p move := { allows_all c move with
    ends := hdisturbs
    fresh := hnew
    limit := hlimit }
  have hsuits : c.Suits p := ⟨hp, fun _ _ _ _ _ => trivial⟩
  exact (course_performOver sends_transport drifts_transport hsuits hallows).flow

/-- Whatever is done to a connection over a transport, in any order. -/
theorem flow_runOver (ht : t.Sends .all) (hd : t.Drifts) (c : Connection) (moves : List Move) :
    c.Flow (fun _ => True) (c.runOver t moves) := by
  induction moves generalizing c with
  | nil => exact .refl c
  | cons move moves ih =>
    exact (course_performOver ht hd (suits_all c) (allows_all c move)).flow.trans (ih _)

/-- Whatever is done to a connection, in any order, behind a gate. -/
theorem flow_gated (gate : Gate) (c : Connection) (moves : List Move) :
    c.Flow (fun _ => True) (c.runOver (gated gate) moves) :=
  flow_runOver (sends_gated gate) (drifts_gated gate) c moves

theorem flow_run (c : Connection) (moves : List Move) : c.Flow (fun _ => True) (c.run moves) :=
  flow_gated .clear c moves

end Connection

end PubSub
