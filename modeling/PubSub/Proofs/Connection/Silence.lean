import PubSub.Proofs.Connection.Operation
import PubSub.Proofs.Connection.Sound

/-!
# No delivery after the end

A subscription that is not valid begins no invocation, whatever is done to its connection: a worker
gives a message to the handler only while the subscription is attached, which it is only while it is
valid. An invocation that is at work when the subscription ends goes on, step by step, and ends.

## Main results

- `Record.Steps.silent` — what becomes of a subscription that is not valid
- `Connection.invocation_run` — an invocation at work goes on or is over
-/

namespace PubSub

namespace Story

theorem begun_append (l l' : Story) : begun (l ++ l') = begun l + begun l' := by
  induction l with
  | nil => simp [begun]
  | cons e l ih => cases e <;> simp only [List.cons_append, begun, ih, Nat.add_right_comm]

theorem begun_pos {l : Story} {sid : Sid} {handler : Handler} {d : Delivery}
    (h : Event.began sid handler d ∈ l) : 0 < begun l := by
  obtain ⟨l₁, l₂, rfl⟩ := List.append_of_mem h
  rw [begun_append, begun]
  omega

end Story

/-- What becomes of a subscription that is not valid: it stays so, and no invocation begins. -/
structure Record.Silent (v v' : Record) : Prop where
  invalid : v'.sub.valid = false
  delivered : v'.sub.delivered = v.sub.delivered
  /-- An invocation at work was so before. -/
  invocation : ∀ i invocation, v'.sub.phase? i = some (.handling invocation) →
    ∃ old, v.sub.phase? i = some (.handling old) ∧ invocation.delivery = old.delivery ∧
      invocation.count = old.count

/-- The delivery is the last one under the ceiling that there was when it began. -/
def Invocation.IsLast (invocation : Invocation) : Prop :=
  invocation.ceiling ≠ 0 ∧ invocation.count = invocation.ceiling

theorem Invocation.Next.isLast {invocation invocation' : Invocation}
    (h : invocation.Next invocation') (hl : invocation.IsLast) : invocation'.IsLast := by
  unfold Invocation.IsLast
  rw [h.ceiling, h.count]
  exact hl

/-- A handler at work can go on unless it sleeps. -/
theorem Subscription.isReady_of_handling {s : Subscription} {i : Nat} {invocation : Invocation}
    (h : s.phase? i = some (.handling invocation)) {now : Instant}
    (hawake : ∀ wakeAt, invocation.wakeAt = some wakeAt → wakeAt ≤ now) :
    s.isReady i now = true := by
  obtain ⟨w, hw, hp⟩ := phase?_eq_some_iff.1 h
  simp only [isReady, hw, hp]
  split
  · next wakeAt heq => exact decide_eq_true (hawake wakeAt heq)
  · rfl

namespace Record

variable {strict : Prop} {active : Nat → Prop} {v v' v'' : Record} {i j : Nat}

theorem Silent.trans (h : v.Silent v') (h' : v'.Silent v'') : v.Silent v'' where
  invalid := h'.invalid
  delivered := h'.delivered.trans h.delivered
  invocation i invocation hi := by
    obtain ⟨old, hold, hdelivery, hcount⟩ := h'.invocation i invocation hi
    obtain ⟨older, holder, hdelivery', hcount'⟩ := h.invocation i old hold
    exact ⟨older, holder, hdelivery.trans hdelivery', hcount.trans hcount'⟩

/-- A change that begins nothing. -/
theorem Silent.of_phase? (hinvalid : v'.sub.valid = false)
    (hdelivered : v'.sub.delivered = v.sub.delivered)
    (h : ∀ i invocation, v'.sub.phase? i = some (.handling invocation) →
      v.sub.phase? i = some (.handling invocation)) : v.Silent v' where
  invalid := hinvalid
  delivered := hdelivered
  invocation i invocation hi := ⟨invocation, h i invocation hi, rfl, rfl⟩

theorem Evolves.silent (h : v.Evolves strict v') (hv : v.sub.valid = false) : v.Silent v' := by
  induction h with
  | drift h =>
    exact .of_phase? (h.invalid hv) h.delivered fun i _ hi => (h.phase? i).symm.trans hi
  | trans _ _ ih ih' => exact (ih hv).trans (ih' (ih hv).invalid)
  | hold | setHandler | setCeiling => exact .of_phase? hv rfl fun _ _ hi => hi
  | enable v stopping _ =>
    obtain ⟨-, hvalid, -, hdelivered, -, -, hphase⟩ := v.sub.enable_keeps stopping
    exact .of_phase? (hvalid.trans hv) hdelivered hphase
  | exhaust max hd hinvalid =>
    exact .of_phase? hinvalid hd.delivered fun i _ hi => (hd.phase? i).symm.trans hi

/-- A worker gives a message to the handler only while the subscription is attached. -/
theorem Works.silent (h : v.Works i v') (ho : v.Orderly) (hv : v.sub.valid = false) :
    v.Silent v' := by
  cases h with
  | lineUp hw hp =>
    refine .of_phase? hv rfl fun j invocation hj => ?_
    rcases handling_setPhase hj with ⟨-, hold⟩ | ⟨-, hnew⟩
    · exact hold
    · exact absurd hnew (not_handling_lineUp v.sub i _ invocation)
  | exit =>
    refine .of_phase? ((v.sub.valid_exited i).trans hv) (v.sub.exited_keeps i).2.1
      fun j invocation hj => ?_
    rw [sub_update, Subscription.phase?_exited] at hj
    rcases handling_setPhase hj with ⟨-, hold⟩ | ⟨-, hnew⟩
    · exact hold
    · cases hnew
  | discard | waste => exact .of_phase? hv rfl fun _ _ hi => hi
  | begin _ _ ha =>
    rw [ho.attached, hv] at ha
    cases ha
  | @goOn invocation invocation' h hnext =>
    refine ⟨hv, rfl, fun j inv hj => ?_⟩
    rcases handling_setPhase hj with ⟨-, hold⟩ | ⟨rfl, hnew⟩
    · exact ⟨inv, hold, rfl, rfl⟩
    · cases hnew
      exact ⟨invocation, h, hnext.delivery, hnext.count⟩
  | finish =>
    refine .of_phase? hv rfl fun j invocation hj => ?_
    rcases handling_setPhase hj with ⟨-, hold⟩ | ⟨-, hnew⟩
    · exact hold
    · cases hnew

theorem Steps.silent (h : v.Steps strict active v') (hs : v.Sound strict)
    (hv : v.sub.valid = false) : v.Silent v' := by
  induction h with
  | refl => exact .of_phase? hv rfl fun _ _ hi => hi
  | tail hprefix hstep ih =>
    have ho := (Steps.sound hprefix hs).orderly
    rcases hstep with he | ⟨i, -, hw⟩
    · exact ih.trans (he.silent ih.invalid)
    · exact ih.trans (hw.silent ho ih.invalid)

/-- A step of one worker does not move another. -/
theorem Works.phase?_of_ne (h : v.Works i v') (hij : i ≠ j) :
    v'.sub.phase? j = v.sub.phase? j := by
  cases h with
  | exit =>
    rw [sub_update, Subscription.phase?_exited]
    exact phase?_setPhase_of_ne hij
  | discard | waste => rfl
  | lineUp | begin | goOn | finish => exact phase?_setPhase_of_ne hij

/-- A worker that does not go on stays at what it is at, and a new one has done nothing yet. -/
theorem Steps.phase?_of_idle (h : v.Steps strict active v') (hi : ¬active i) :
    v'.sub.phase? i = v.sub.phase? i ∨
      v.sub.phase? i = none ∧ v'.sub.phase? i = some .starting := by
  induction h with
  | refl => exact Or.inl rfl
  | tail _ hstep ih =>
    rcases hstep with he | ⟨j, hj, hw⟩
    · rcases ih with heq | ⟨hnone, hstarting⟩
      · rw [← heq]
        exact he.phase? i
      · exact Or.inr ⟨hnone, he.phase?_eq_some hstarting⟩
    · have hne : j ≠ i := fun hji => hi (hji ▸ hj)
      rw [hw.phase?_of_ne hne]
      exact ih

/-- A worker that is there and does not go on stays at what it is at. -/
theorem Steps.phase?_of_not_active (h : v.Steps strict active v') (hi : ¬active i)
    {phase : Worker.Phase} (hp : v.sub.phase? i = some phase) : v'.sub.phase? i = some phase := by
  rcases Steps.phase?_of_idle h hi with heq | ⟨hnone, -⟩
  · exact heq.trans hp
  · rw [hp] at hnone
    cases hnone

/-- A worker that has ended does nothing any more. -/
theorem Works.finished (h : v.Works j v') (hp : v.sub.phase? i = some .finished) :
    v'.sub.phase? i = some .finished := by
  by_cases hij : j = i
  · subst hij
    have hno : ∀ {p : Worker.Phase}, v.sub.phase? j = some p → p ≠ .finished → False :=
      fun hp' hne => hne (Option.some.inj (hp'.symm.trans hp))
    cases h with
    | lineUp hw hstart =>
      refine (hno (Subscription.phase?_eq_some_iff.2 ⟨_, hw, rfl⟩) ?_).elim
      rcases hstart with h | h <;> rw [h] <;> simp
    | exit =>
      rw [sub_update, Subscription.phase?_exited, Subscription.phase?_setPhase, if_pos rfl, hp]
      rfl
    | discard htakes | waste htakes | begin htakes => exact (hno htakes.phase? (by simp)).elim
    | goOn hphase | finish hphase => exact (hno hphase (by simp)).elim
  · exact (h.phase?_of_ne hij).trans hp

theorem Steps.finished (h : v.Steps strict active v') (hp : v.sub.phase? i = some .finished) :
    v'.sub.phase? i = some .finished := by
  induction h with
  | refl => exact hp
  | tail _ hstep ih =>
    rcases hstep with he | ⟨j, -, hw⟩
    · exact he.phase?_eq_some ih
    · exact hw.finished ih

/-- A worker has ended, and with it the subscription. -/
structure Ended (v : Record) (i : Nat) : Prop where
  invalid : v.sub.valid = false
  live : v.live = false
  finished : v.sub.phase? i = some .finished

theorem Steps.ended (h : v.Steps strict active v') (hs : v.Sound strict) (hv : v.Ended i) :
    v'.Ended i := by
  have hinvalid := (Steps.silent h hs hv.invalid).invalid
  exact ⟨hinvalid, (Steps.sound h hs).orderly.live.trans hinvalid, Steps.finished h hv.finished⟩

end Record

namespace Connection

/-- What becomes of the subscriptions there are, whether or not new ones are made, when only the
`active` workers go on. -/
def Follows (active : Sid → Nat → Prop) (c c' : Connection) : Prop :=
  ∀ sid v, c.record? sid = some v →
    ∃ v', c'.record? sid = some v' ∧ v.Steps False (active sid) v'

variable {active : Sid → Nat → Prop} {exposed : Sid → Prop} {c c' c'' : Connection}
variable {t : Transport} {sid : Sid} {s : Subscription} {i : Nat}

theorem Steps.follows (h : c.Steps (fun _ => False) active c') : c.Follows active c' := h.record

theorem Follows.trans (h : c.Follows active c') (h' : c'.Follows active c'') :
    c.Follows active c'' := by
  intro sid v hv
  obtain ⟨v', hv', hsteps⟩ := h sid v hv
  obtain ⟨v'', hv'', hsteps'⟩ := h' sid v' hv'
  exact ⟨v'', hv'', hsteps.trans hsteps'⟩

theorem Follows.refl (c : Connection) : c.Follows active c := (Steps.refl c).follows

theorem Follows.handOver {made : Except ConnectionError Sid × Connection}
    (h : c.Follows active made.2) : c.Follows active (handOver made).2 := by
  unfold Connection.handOver
  split
  · exact h.trans (evolves_hold _ _ true).steps.follows
  · exact h

theorem Sound.follows_build (h : c.Sound fun _ => False) (handle : Nat) (plan : SubscriptionPlan) :
    c.Follows active (c.build handle plan).2 := by
  cases hbuild : c.build handle plan with
  | mk made c' =>
    cases made with
    | error e =>
      obtain rfl := build_of_error hbuild
      exact .refl c'
    | ok new =>
      obtain ⟨-, hnew, s, rfl, -, rfl, -⟩ := build_of_ok hbuild
      intro sid v hv
      -- the number that is given out is that of no subscription
      have hne : sid ≠ s.sid := by
        rintro rfl
        have hsub := subscription?_of_record? hv
        rw [h.fresh s.sid (hnew ▸ Nat.lt_succ_self _)] at hsub
        cases hsub
      exact ⟨v, (sameAt_register c s hne).record?.trans hv, .refl⟩

theorem Sound.follows_subscribe (ht : t.Drifts) (h : c.Sound fun _ => False) (handle : Nat)
    (plan : SubscriptionPlan) : c.Follows active (c.subscribe t handle plan).2 := by
  have hbuild : c.Follows active (c.build handle plan).2 := h.follows_build handle plan
  unfold Connection.subscribe
  split
  · next e c₁ heq =>
    rw [heq] at hbuild
    exact hbuild
  · next new c₁ heq =>
    rw [heq] at hbuild
    have hstart : c₁.Follows active (c₁.startSubscription t new).2 :=
      (evolves_startSubscription ht c₁ new).steps.follows
    split
    · next c₂ heq₂ =>
      rw [heq₂] at hstart
      exact hbuild.trans hstart
    · next e c₂ heq₂ =>
      rw [heq₂] at hstart
      exact hbuild.trans
        (hstart.trans (drifts_closeSubscription ht c₂ new).evolves.steps.follows)

/-- Whatever is done to a connection; a worker goes on only if it is the one that makes a step. -/
theorem Sound.follows_performOver (ht : t.Drifts) (h : c.Sound fun _ => False) (move : Move) :
    c.Follows (fun sid i => move = .stepWorker sid i) (c.performOver t move) := by
  by_cases hbuild : ∀ handle plan, move ≠ .build handle plan ∧ move ≠ .subscribe handle plan
  · exact (steps_performOver ht c move (fun _ _ heq => heq) hbuild fun _ hf => hf.elim).follows
  · cases move with
    | build handle plan => exact (h.follows_build handle plan).handOver
    | subscribe handle plan => exact (h.follows_subscribe ht handle plan).handOver
    | _ => simp at hbuild

theorem Sound.follows_perform (h : c.Sound fun _ => False) (move : Move) :
    c.Follows (fun sid i => move = .stepWorker sid i) (c.perform move) :=
  h.follows_performOver drifts_transport move

/-- The journal only grows. -/
theorem Flow.journal (h : c.Flow exposed c') : c.journal <:+ c'.journal := by
  induction h with
  | trans _ _ ih ih' => exact ih.trans ih'
  | log c e => exact List.suffix_cons e c.journal
  | refuse c _ _ _ m => exact List.suffix_cons _ c.journal
  | register c _ _ _ => exact List.suffix_cons _ c.journal
  | close _ _ _ ih => exact ih
  | _ => exact List.suffix_refl _

/-! ## An invocation at work -/

/-- Since `c` an invocation of a subscription ended. -/
def EndedSince (c : Connection) (sid : Sid) (c' : Connection) : Prop :=
  ∃ failure journal, c.journal <:+ journal ∧ (.ended sid failure :: journal) <:+ c'.journal

theorem EndedSince.later (h : c.EndedSince sid c') (hsuffix : c'.journal <:+ c''.journal) :
    c.EndedSince sid c'' := by
  obtain ⟨failure, journal, hbefore, hended⟩ := h
  exact ⟨failure, journal, hbefore, hended.trans hsuffix⟩

theorem EndedSince.earlier (h : c'.EndedSince sid c'') (hsuffix : c.journal <:+ c'.journal) :
    c.EndedSince sid c'' := by
  obtain ⟨failure, journal, hbefore, hended⟩ := h
  exact ⟨failure, journal, hsuffix.trans hbefore, hended⟩

theorem endedSince_endInvocation (c : Connection) (s : Subscription) (failure : Option Failure) :
    c.EndedSince s.sid (c.endInvocation s failure) := by
  refine ⟨failure, c.journal, List.suffix_refl _, ?_⟩
  unfold endInvocation
  cases failure with
  | none => exact List.suffix_refl _
  | some f =>
    unfold reportFailure
    dsimp only
    split
    · exact List.suffix_cons _ _
    · exact (List.suffix_cons _ _).trans (List.suffix_cons _ _)
    · exact (List.suffix_cons _ _).trans (List.suffix_cons _ _)

theorem endedSince_finishInvocation (ht : t.Sends .all) (hd : t.Drifts) (c : Connection)
    (s : Subscription) (i : Nat) (invocation : Invocation) (failure : Option Failure) :
    c.EndedSince s.sid (c.finishInvocation t s i invocation failure) := by
  have hended := endedSince_endInvocation c s failure
  unfold finishInvocation
  dsimp only
  split
  · have hclose : (c.endInvocation s failure).Course .all
        ((c.endInvocation s failure).closeSubscription t s.sid) :=
      course_closeSubscription ht hd (suits_all _) trivial
    have hexit := hclose.trans (course_exitWorker _ s.sid i)
    exact hended.later hexit.flow.journal
  · have hreceiving : (c.endInvocation s failure).Course .all
        ((c.endInvocation s failure).setPhase s.sid i .receiving) :=
      course_setPhase _ s.sid i (by simp)
    exact hended.later hreceiving.flow.journal

/-- The end of the last invocation under a ceiling. -/
theorem ended_finishInvocation (ht : t.Drifts) {v : Record} (hv : c.record? sid = some v)
    (ho : v.Orderly) {s : Subscription} (hs : s.sid = sid) {invocation : Invocation}
    (hphase : v.sub.phase? i = some (.handling invocation)) (hlast : invocation.IsLast)
    (failure : Option Failure) :
    ∃ v', (c.finishInvocation t s i invocation failure).record? sid = some v' ∧ v'.Ended i ∧
      v'.sub.Stopped := by
  subst hs
  obtain ⟨v₁, hv₁, hd, hinvalid, hstopped⟩ :=
    closeSubscription_eq ht (alters_endInvocation hv s failure).after
  have hexit := alters_exitWorker hv₁ i
  unfold Invocation.IsLast at hlast
  unfold finishInvocation
  dsimp only
  rw [if_pos hlast]
  refine ⟨_, hexit.after, ⟨(v₁.sub.valid_exited i).trans hinvalid, ?_, ?_⟩, ?_⟩
  · exact ((hd.orderly ho).live).trans hinvalid
  · have hold : v₁.sub.phase? i = some (.handling invocation) := (hd.phase? i).trans hphase
    rw [Record.sub_update, Subscription.phase?_exited, Subscription.phase?_setPhase, if_pos rfl,
      hold]
    rfl
  · intro w hw
    rw [Record.sub_update, Subscription.workers_exited] at hw
    exact (hstopped ho.disciplined).setPhase i .finished w hw

/-- A handler that is at work and can go on makes one of the steps that are left to it, or is done;
with the last delivery under a ceiling its worker has ended then, and the subscription. -/
theorem turn_stepWorker (ht : t.Sends .all) (hd : t.Drifts)
    (hs : c.subscription? sid = some s)
    (ho : Record.Orderly ⟨s, c.table.contains sid, c.story sid⟩) {invocation : Invocation}
    (hphase : s.phase? i = some (.handling invocation)) (hready : s.isReady i c.clock = true) :
    (∃ s' invocation', (c.stepWorker t sid i).2.subscription? sid = some s' ∧
        s'.phase? i = some (.handling invocation') ∧ invocation.Next invocation') ∨
      (c.EndedSince sid (c.stepWorker t sid i).2 ∧ (invocation.IsLast →
        ∃ v, (c.stepWorker t sid i).2.record? sid = some v ∧ v.Ended i ∧ v.sub.Stopped)) := by
  obtain rfl : s.sid = sid := sid_of_subscription? hs
  obtain ⟨w, hw, hp⟩ := Subscription.phase?_eq_some_iff.1 hphase
  have hstep : c.stepWorker t s.sid i = c.stepInvocation t s i invocation := by
    simp [stepWorker, hs, hw, hready, hp]
  rw [hstep]
  obtain ⟨c₁, hacted, he, hnext⟩ :=
    @stepInvocation_eq (fun _ => False) c t hd s i invocation fun hf => hf.elim
  have hflow : c.Flow (fun _ => True) c₁ := by
    rcases hacted with rfl | ⟨action, rest, -, rfl⟩
    · exact .refl c₁
    · have hallows : c.AllowsAction .all s invocation.delivery action :=
        ⟨fun _ _ => trivial, fun _ _ => trivial, fun _ _ _ => trivial, fun _ _ => trivial⟩
      exact (course_act ht hd (suits_all c) hs hallows rest).flow
  obtain ⟨v, hv, hevolves, hphase₁⟩ := phase?_of_evolves he (record?_of_subscription? hs) hphase
  rcases hnext with ⟨invocation', hnext, heq⟩ | ⟨failure, heq⟩
  · refine Or.inl ⟨v.sub.setPhase i (.handling invocation'), invocation', ?_, ?_, hnext⟩
    · rw [heq]
      exact subscription?_of_record? (alters_setPhase hv i _).after
    · rw [Subscription.phase?_setPhase, if_pos rfl, hphase₁]
      rfl
  · rw [heq]
    exact Or.inr
      ⟨(endedSince_finishInvocation ht hd c₁ s i invocation failure).earlier hflow.journal,
        fun hlast => ended_finishInvocation hd hv (hevolves.orderly ho) rfl hphase₁ hlast failure⟩

/-- A worker that cannot go on does nothing. -/
theorem stepWorker_of_not_isReady (hs : c.subscription? sid = some s)
    (h : s.isReady i c.clock = false) : (c.stepWorker t sid i).2 = c := by
  simp only [stepWorker, hs]
  split
  · rfl
  · rw [h, if_pos (by rfl)]

/-- A worker that makes no step stays at what it is at. -/
theorem phase?_perform (hsound : c.Sound fun _ => False) (hs : c.subscription? sid = some s)
    {phase : Worker.Phase} (hphase : s.phase? i = some phase) {move : Move}
    (hmove : c.isTurn sid i move = false) :
    ∃ s', (c.perform move).subscription? sid = some s' ∧ s'.phase? i = some phase := by
  by_cases hstep : move = .stepWorker sid i
  · -- the worker cannot go on, so nothing happens
    have hready : s.isReady i c.clock = false := by simpa [hstep, isTurn, hs] using hmove
    have hidle : c.perform move = c := by
      rw [hstep]
      exact stepWorker_of_not_isReady hs hready
    exact ⟨s, by rw [hidle, hs], hphase⟩
  · obtain ⟨v, hv, hsteps⟩ := hsound.follows_perform move sid _ (record?_of_subscription? hs)
    exact ⟨v.sub, subscription?_of_record? hv, hsteps.phase?_of_not_active hstep hphase⟩

/-- A worker that has ended with its subscription stays ended. -/
theorem ended_run (hsound : c.Sound fun _ => False) {v : Record} (hv : c.record? sid = some v)
    (hended : v.Ended i) (moves : List Move) :
    ∃ v', (c.run moves).record? sid = some v' ∧ v'.Ended i := by
  induction moves generalizing c v with
  | nil => exact ⟨v, hv, hended⟩
  | cons move moves ih =>
    obtain ⟨v₁, hv₁, hsteps⟩ := hsound.follows_perform move sid v hv
    exact ih (hsound.perform move fun _ hf => hf.elim) hv₁
      (hsteps.ended (hsound.record sid v hv) hended)

/-- An invocation that was at work in `c` is over: since then its end was noted, and if it was the
last one under its ceiling then its worker has ended, and with it the subscription. -/
structure Over (c : Connection) (sid : Sid) (i : Nat) (invocation : Invocation) (c' : Connection) :
    Prop where
  ended : c.EndedSince sid c'
  last : invocation.IsLast → ∃ v, c'.record? sid = some v ∧ v.Ended i

theorem Over.earlier {invocation invocation' : Invocation} (h : c'.Over sid i invocation' c'')
    (hsuffix : c.journal <:+ c'.journal) (hlast : invocation.IsLast → invocation'.IsLast) :
    c.Over sid i invocation c'' :=
  ⟨h.ended.earlier hsuffix, fun hl => h.last (hlast hl)⟩

/-- Along every run an invocation at work has made as many of the steps that were left to it as its
worker went on, or is over. -/
theorem invocation_run (hsound : c.Sound fun _ => False) (hs : c.subscription? sid = some s)
    {invocation : Invocation} (hphase : s.phase? i = some (.handling invocation))
    (moves : List Move) :
    (∃ s' invocation', (c.run moves).subscription? sid = some s' ∧
        s'.phase? i = some (.handling invocation') ∧
        invocation'.delivery = invocation.delivery ∧ invocation'.count = invocation.count ∧
        invocation'.steps + c.turns sid i moves = invocation.steps) ∨
      c.Over sid i invocation (c.run moves) := by
  induction moves generalizing c s invocation with
  | nil => exact Or.inl ⟨s, invocation, hs, hphase, rfl, rfl, rfl⟩
  | cons move moves ih =>
    have hsound' := hsound.perform move fun _ hf => hf.elim
    have hsuffix : c.journal <:+ (c.perform move).journal := (flow_run c [move]).journal
    cases hturn : c.isTurn sid i move with
    | false =>
      obtain ⟨s₁, hs₁, hphase₁⟩ := phase?_perform hsound hs hphase hturn
      refine (ih hsound' hs₁ hphase₁).imp ?_ fun hover => hover.earlier hsuffix fun hl => hl
      rintro ⟨s', invocation', hs', hp, hdelivery, hcount, hsteps⟩
      refine ⟨s', invocation', hs', hp, hdelivery, hcount, ?_⟩
      simpa only [turns, hturn, Bool.toNat_false, Nat.zero_add] using hsteps
    | true =>
      obtain ⟨rfl, hready⟩ : move = .stepWorker sid i ∧ s.isReady i c.clock = true := by
        unfold isTurn at hturn
        split at hturn
        · simpa [hs, Bool.and_eq_true, and_assoc] using hturn
        · cases hturn
      have ho := (hsound.record sid _ (record?_of_subscription? hs)).orderly
      rcases turn_stepWorker sends_transport drifts_transport hs ho hphase hready with
        ⟨s₁, invocation₁, hs₁, hphase₁, hnext⟩ | ⟨hended, hlast⟩
      · refine (ih hsound' hs₁ hphase₁).imp ?_ fun hover => hover.earlier hsuffix hnext.isLast
        rintro ⟨s', invocation', hs', hp, hdelivery, hcount, hsteps⟩
        refine ⟨s', invocation', hs', hp, hdelivery.trans hnext.delivery,
          hcount.trans hnext.count, ?_⟩
        have hstep := hnext.steps
        simp only [turns, hturn, Bool.toNat_true]
        omega
      · refine Or.inr ⟨hended.later (flow_run _ moves).journal, fun hl => ?_⟩
        obtain ⟨v, hv, hv', -⟩ := hlast hl
        exact ended_run hsound' hv hv' moves

/-- Whatever is done to a connection, a subscription that is not valid begins nothing. -/
theorem silent_run (hsound : c.Sound fun _ => False) {v : Record} (hv : c.record? sid = some v)
    (hinvalid : v.sub.valid = false) (moves : List Move) :
    ∃ v', (c.run moves).record? sid = some v' ∧ v.Silent v' := by
  induction moves generalizing c v with
  | nil => exact ⟨v, hv, .of_phase? hinvalid rfl fun _ _ hi => hi⟩
  | cons move moves ih =>
    obtain ⟨v₁, hv₁, hsteps⟩ := hsound.follows_perform move sid v hv
    have hsilent : v.Silent v₁ := hsteps.silent (hsound.record sid v hv) hinvalid
    obtain ⟨v', hv', hlater⟩ :=
      ih (hsound.perform move fun _ hf => hf.elim) hv₁ hsilent.invalid
    exact ⟨v', hv', hsilent.trans hlater⟩

/-- From the first moment at which a subscription is not valid, along every run: it stays so, the
number of its deliveries stays as it is, no invocation of a handler of it begins, and each that is at
work was at work at that moment. One that was at work then is still, on the same message and under
the same number, with as many of its steps behind it as its worker went on, and can go on unless it
sleeps; or it has ended. -/
theorem silent_after_end (o : Session.Opening) (id : Nat) (clock : Instant) (handle : Nat)
    (moves later : List Move) (sid : Sid) (s : Subscription)
    (hs : ((o.connect id clock handle).run moves).subscription? sid = some s)
    (hinvalid : s.valid = false) :
    let c := (o.connect id clock handle).run moves
    let c' := c.run later
    ∃ s' new, c'.subscription? sid = some s' ∧ c'.journal = new ++ c.journal ∧
      s'.valid = false ∧ s'.delivered = s.delivered ∧
      (∀ handler d, Event.began sid handler d ∉ new) ∧
      (∀ i invocation', s'.phase? i = some (.handling invocation') →
        ∃ invocation, s.phase? i = some (.handling invocation) ∧
          invocation'.delivery = invocation.delivery ∧ invocation'.count = invocation.count) ∧
      ∀ i invocation, s.phase? i = some (.handling invocation) →
        (∃ invocation', s'.phase? i = some (.handling invocation') ∧
          invocation'.delivery = invocation.delivery ∧ invocation'.count = invocation.count ∧
          invocation'.steps + c.turns sid i later = invocation.steps ∧
          ∀ now, (∀ wakeAt, invocation'.wakeAt = some wakeAt → wakeAt ≤ now) →
            s'.isReady i now = true) ∨
        ∃ failure, Event.ended sid failure ∈ new := by
  intro c c'
  have hsound : c.Sound fun _ => False :=
    (sound_connect o id clock handle).run moves fun _ hf => hf.elim
  have hsound' : c'.Sound fun _ => False := hsound.run later fun _ hf => hf.elim
  have hv := record?_of_subscription? hs
  obtain ⟨v', hv', hsilent⟩ := silent_run hsound hv hinvalid later
  have hs' := subscription?_of_record? hv'
  obtain ⟨new, hnew⟩ := (flow_run c later).journal
  refine ⟨v'.sub, new, hs', hnew.symm, hsilent.invalid, hsilent.delivered, fun handler d hbegan => ?_,
    hsilent.invocation, fun i invocation hphase => ?_⟩
  · -- the count of deliveries is that of the invocations begun
    have hbefore := (hsound.record sid _ hv).orderly.delivered
    have hafter := (hsound'.record sid v' hv').orderly.delivered
    have hstory : v'.story = (new.filter fun e => e.sid? == some sid) ++ c.story sid := by
      rw [← (record?_eq_some_iff.1 hv').2.2]
      show (c'.journal.filter _) = _
      rw [← hnew, List.filter_append]
      rfl
    have hpos : 0 < Story.begun (new.filter fun e => e.sid? == some sid) :=
      Story.begun_pos (List.mem_filter.2 ⟨hbegan, beq_self_eq_true _⟩)
    rw [hsilent.delivered, hstory, Story.begun_append] at hafter
    have hbefore' : s.delivered = Story.begun (c.story sid) := hbefore
    have hafter' : s.delivered = _ + Story.begun (c.story sid) := hafter
    omega
  · rcases invocation_run hsound hs hphase later with
      ⟨s'', invocation', hs'', hp, hdelivery, hcount, hsteps⟩ | hover
    · obtain rfl := Option.some.inj (hs'.symm.trans hs'')
      exact Or.inl ⟨invocation', hp, hdelivery, hcount, hsteps,
        fun _ => Subscription.isReady_of_handling hp⟩
    · obtain ⟨failure, journal, ⟨old, hold⟩, ⟨young, hyoung⟩⟩ := hover.ended
      have hsplit : (young ++ .ended sid failure :: old) ++ c.journal = new ++ c.journal := by
        rw [hnew, ← hyoung, ← hold]
        simp
      refine Or.inr ⟨failure, ?_⟩
      rw [← List.append_cancel_right hsplit]
      simp

/-- The theorem applies to a subscription that is closed while its handler is suspended and another
message waits: though it gets a handler and a worker again, the handler at work comes to its end and
the other message is never handled. -/
theorem silent_after_end_suspended :
    let handler := Handler.mk "" [] [.yield 1]
    let moves : List Move := [.subscribe 1 { subject := "a", handler := some handler },
      .deliver 1 { subject := "a" }, .deliver 1 { subject := "b" }, .stepWorker 1 0,
      .stepWorker 1 0, .stepWorker 1 0, .closeSubscription 1]
    let later : List Move := [.setHandler 1 handler, .enable 1, .stepWorker 1 1, .stepWorker 1 0,
      .stepWorker 1 0, .stepWorker 1 0, .stepWorker 1 1, .stepWorker 1 1]
    let c := (Session.Opening.connect { token := "" } 0 0 1).run moves
    ∃ new failure, (c.run later).journal = new ++ c.journal ∧ .ended 1 failure ∈ new ∧
      ∀ handler d, Event.began 1 handler d ∉ new := by
  intro handler moves later c
  have hsome : ((c.subscription? 1).any fun s => !s.valid &&
      ((s.workers[0]?).bind Worker.invocation?).any fun invocation => invocation.steps == 2) =
        true := by decide +kernel
  have hturns : 2 ≤ c.turns 1 0 later := by decide +kernel
  obtain ⟨s, hs, hprops⟩ := (Option.any_eq_true _ _).1 hsome
  obtain ⟨hinvalid, hwork⟩ := Bool.and_eq_true_iff.1 hprops
  obtain ⟨invocation, hinvocation, hsteps⟩ := (Option.any_eq_true _ _).1 hwork
  have hphase : s.phase? 0 = some (.handling invocation) := by
    obtain ⟨w, hw, hp⟩ := Option.bind_eq_some_iff.1 hinvocation
    exact Subscription.phase?_eq_some_iff.2 ⟨w, hw, Worker.invocation?_eq_some_iff.1 hp⟩
  obtain ⟨s', new, -, hnew, -, -, hbegan, -, hends⟩ :=
    silent_after_end { token := "" } 0 0 1 moves later 1 s hs (by simpa using hinvalid)
  rcases hends 0 invocation hphase with ⟨invocation', -, -, -, hleft, -⟩ | ⟨failure, hended⟩
  · -- the handler had two steps left, and its worker made both
    have htwo : invocation.steps = 2 := by simpa using hsteps
    have hpos : 0 < invocation'.steps := Nat.succ_pos _
    have hleft' : invocation'.steps + c.turns 1 0 later = invocation.steps := hleft
    omega
  · exact ⟨new, failure, hnew, hended, hbegan⟩

end Connection

end PubSub
