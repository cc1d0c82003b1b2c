import PubSub.Proofs.Connection.Limit
import PubSub.Session.Step

/-!
# Runs are sound

Every subscription of every connection is in order and keeps to its ceiling at every time. If its
workers are started only while it is valid, it is settled as well: once invalid it has no worker left
that would take a message, so no message that was taken is ever lost (`Record.Settled`).

## Main results

- `Record.Steps.sound` — one subscription, in the long run
- `Connection.Sound.performOver`, `Connection.Sound.runOver` — whatever is done to a connection
-/

namespace PubSub

/-- What holds of a subscription whose workers are started only while it is valid. -/
structure Record.Settled (v : Record) : Prop where
  /-- Once it is invalid, every worker was told to end. -/
  quiet : v.sub.valid = false → v.sub.Stopped
  /-- Every message taken met the fate that it was due. -/
  fates : v.story.fates = v.story.dues

theorem Subscription.Stopped.setPhase {s : Subscription} (h : s.Stopped) (i : Nat)
    (p : Worker.Phase) : (s.setPhase i p).Stopped := by
  intro w hw
  obtain ⟨j, hj⟩ := List.getElem?_of_mem hw
  have hj' : (s.workers.modify i fun w => { w with phase := p })[j]? = some w := hj
  rw [List.getElem?_modify] at hj'
  obtain ⟨w', hw', rfl⟩ := Option.map_eq_some_iff.1 hj'
  have hc := h w' (List.mem_of_getElem? hw')
  split <;> exact hc

namespace Record

variable {strict : Prop} {v v' : Record} {i : Nat}

theorem settled_registered {s : Subscription} (hv : s.valid = true) :
    Settled ⟨s, true, [.registered s.sid s.handler s.max]⟩ where
  quiet h := by
    have h' : s.valid = false := h
    rw [hv] at h'
    cases h'
  fates := rfl

theorem Drifts.settled (h : v.Drifts True v') (ho : v.Orderly) (hs : v.Settled) : v'.Settled := by
  obtain ⟨ms, hstory, -⟩ := h.messages
  obtain ⟨-, -, -, -, -, hdues, hfates⟩ := Story.append_accepted v.sub.sid ms v.story
  rw [← hstory] at hdues hfates
  exact ⟨h.quiet trivial ho.disciplined hs.quiet, by rw [hfates, hdues, hs.fates]⟩

theorem Evolves.settled (h : v.Evolves strict v') (hstrict : strict) (ho : v.Orderly)
    (hs : v.Settled) : v'.Settled := by
  induction h with
  | drift h => exact h.settled ho hs
  | trans h _ ih ih' => exact ih' (h.orderly ho) (ih ho hs)
  | hold | setHandler | setCeiling => exact { hs with }
  | enable v stopping h =>
    refine ⟨fun hinvalid => ?_, hs.fates⟩
    have hvalid := h hstrict
    rcases workers_enable v.sub stopping with heq | ⟨-, heq⟩
    all_goals
      rw [sub_update, heq] at hinvalid
      rw [hvalid] at hinvalid
      cases hinvalid
  | exhaust max hd _ =>
    exact hd.settled { ho with } { hs with }

/-- A worker that can take a message works for a valid subscription, and the ceiling leaves room. -/
theorem Settled.of_takes (hs : v.Settled) (ho : v.Orderly) (hl : v.Limited) {d : Delivery}
    {q : Dispatch Delivery} (h : v.sub.Takes i d q) :
    v.sub.attached = true ∧ (v.sub.max = 0 ∨ v.sub.delivered < v.sub.max) := by
  obtain ⟨w, hw, -, hrunning⟩ := h.worker
  have hvalid : v.sub.valid = true := by
    rw [← Bool.not_eq_false]
    intro hinvalid
    have := hs.quiet hinvalid w (List.mem_of_getElem? hw)
    rw [hrunning] at this
    cases this
  refine ⟨ho.attached.trans hvalid, ?_⟩
  by_cases hmax : v.sub.max = 0
  · exact Or.inl hmax
  · refine Or.inr (Nat.lt_of_not_le fun hle => ?_)
    -- the worker whose invocation will end the subscription has the receiving end
    obtain ⟨j, invocation, hj, -, -⟩ := hl.reached hvalid hmax hle
    have hi := h.phase?
    obtain rfl : i = j := ho.receiver i j _ _ hi hj trivial trivial
    rw [hi] at hj
    cases hj

theorem Works.settled (h : v.Works i v') (ho : v.Orderly) (hl : v.Limited) (hs : v.Settled) :
    v'.Settled := by
  cases h with
  | lineUp | goOn | finish => exact ⟨fun h => (hs.quiet h).setPhase i _, hs.fates⟩
  | exit h =>
    refine ⟨fun hinvalid => ?_, hs.fates⟩
    intro w hw
    rw [sub_update, Subscription.workers_exited] at hw
    rw [sub_update, Subscription.valid_exited] at hinvalid
    exact (hs.quiet hinvalid).setPhase i _ w hw
  | @discard d q h hh =>
    refine ⟨hs.quiet, ?_⟩
    show v.story.fates ++ [(d.message, none)] = v.story.dues ++ [(d.message, v.story.handler?)]
    rw [hs.fates, ← ho.handler, hh]
  | waste h hl' =>
    -- neither reason to lose the message can be
    obtain ⟨hattached, hroom⟩ := hs.of_takes ho hl h
    rcases hl' with hdetached | ⟨hmax, hle⟩
    · rw [hattached] at hdetached
      cases hdetached
    · exact absurd hle (Nat.not_le_of_lt (hroom.resolve_left hmax))
  | @begin d q handler invocation h hh ha hm hceiling hcount =>
    refine ⟨fun hinvalid => (hs.quiet hinvalid).setPhase i _, ?_⟩
    show v.story.fates ++ [(d.message, some handler)] =
      v.story.dues ++ [(d.message, v.story.handler?)]
    rw [hs.fates, ← ho.handler, hh]

/-- What holds of a subscription at every time. -/
structure Sound (strict : Prop) (v : Record) : Prop where
  orderly : v.Orderly
  limited : v.Limited
  settled : strict → v.Settled

theorem Steps.sound {active : Nat → Prop} (h : v.Steps strict active v') (hv : v.Sound strict) :
    v'.Sound strict := by
  -- ceilings rest on order, and the fates of messages on both
  induction h with
  | refl => exact hv
  | tail _ hstep ih =>
    rcases hstep with he | ⟨i, -, hw⟩
    · exact ⟨he.orderly ih.orderly, he.limited ih.orderly ih.limited,
        fun hstrict => he.settled hstrict ih.orderly (ih.settled hstrict)⟩
    · exact ⟨hw.orderly ih.orderly, hw.limited ih.orderly ih.limited,
        fun hstrict => hw.settled ih.orderly ih.limited (ih.settled hstrict)⟩

end Record

/-- Every subscription of a connection is sound, and nothing is known of any other. -/
structure Connection.Sound (strict : Sid → Prop) (c : Connection) : Prop where
  blank : ∀ sid, c.subscription? sid = none → c.Blank sid
  fresh : ∀ sid, c.issuedSids < sid → c.subscription? sid = none
  record : ∀ sid v, c.record? sid = some v → v.Sound (strict sid)

namespace Connection

variable {strict : Sid → Prop} {c c' : Connection}

theorem sound_connect (o : Session.Opening) (id : Nat) (clock : Instant) (handle : Nat) :
    (o.connect id clock handle).Sound strict where
  blank _ h := ⟨h, rfl, rfl⟩
  fresh _ _ := rfl
  record sid v hv := by cases hv

/-- Every record stays sound that is sound. -/
theorem Sound.each (h : c.Sound strict)
    (hs : c.Each (fun sid v v' => v.Sound (strict sid) → v'.Sound (strict sid)) c') :
    c'.Sound strict := by
  have habsent : ∀ sid, c'.subscription? sid = none → c.subscription? sid = none := by
    intro sid hn
    cases hsub : c.subscription? sid with
    | none => rfl
    | some s =>
      obtain ⟨v', hv', -⟩ := hs.record sid _ (record?_of_subscription? hsub)
      rw [subscription?_of_record? hv'] at hn
      cases hn
  -- a subscription that is there now was there before, for no number was given out
  refine ⟨fun sid hn => hs.blank sid (h.blank sid (habsent sid hn)), fun sid hlt => ?_,
    fun sid v' hv' => ?_⟩
  · rw [hs.issued] at hlt
    exact (hs.blank sid (h.blank sid (h.fresh sid hlt))).absent
  · cases hsub : c.subscription? sid with
    | none =>
      have hb := (hs.blank sid (h.blank sid hsub)).absent
      rw [subscription?_of_record? hv'] at hb
      cases hb
    | some s =>
      have hv := record?_of_subscription? hsub
      obtain ⟨w, hw, hsound⟩ := hs.record sid _ hv
      rw [hv'] at hw
      obtain rfl := Option.some.inj hw
      exact hsound (h.record sid _ hv)

theorem Sound.steps (h : c.Sound strict) (hs : c.Steps strict (fun _ _ => True) c') :
    c'.Sound strict := h.each (Each.mono (fun _ _ _ hsteps hv => hsteps.sound hv) hs)

theorem sameAt_register (c : Connection) (s : Subscription) {other : Sid} (ho : other ≠ s.sid) :
    c.SameAt (c.register s) other := by
  refine ⟨?_, ?_, ?_⟩
  · show (c.subscriptions ++ [s]).find? (·.sid == other) = _
    rw [List.find?_append]
    simp [ho.symm, subscription?]
  · show (c.table ++ [s.sid]).contains other = _
    simp [List.contains_eq_mem, ho]
  · show (Connection.log _ _).story other = _
    rw [story_log, if_neg (by simpa [Event.sid?] using ho.symm)]
    rfl

theorem record?_register {s : Subscription} (hb : c.Blank s.sid) :
    (c.register s).record? s.sid = some ⟨s, true, [.registered s.sid s.handler s.max]⟩ := by
  refine record?_eq_some_iff.2 ⟨?_, ?_, ?_⟩
  · show (c.subscriptions ++ [s]).find? (·.sid == s.sid) = _
    have hn : c.subscriptions.find? (·.sid == s.sid) = none := hb.absent
    rw [List.find?_append, hn]
    simp
  · show (c.table ++ [s.sid]).contains s.sid = true
    simp [List.contains_eq_mem]
  · show (Connection.log _ _).story s.sid = _
    have hsid : (Event.registered s.sid s.handler s.max).sid? = some s.sid := rfl
    rw [story_log, if_pos hsid]
    exact congrArg (Event.registered s.sid s.handler s.max :: ·) hb.story

theorem Sound.register (h : c.Sound strict) {s : Subscription} (hsid : s.sid = c.issuedSids + 1)
    (ha : s.attached = s.valid) (hv : s.valid = true) (hw : s.workers = [])
    (hq : s.queue.entries = []) (hd : s.delivered = 0) : (c.register s).Sound strict := by
  have hb : c.Blank s.sid :=
    h.blank s.sid (h.fresh s.sid (by rw [hsid]; exact Nat.lt_succ_self _))
  have hrecord := record?_register hb
  refine ⟨fun sid hn => ?_, fun sid hlt => ?_, fun sid v hvr => ?_⟩
  · have ho : sid ≠ s.sid := by
      rintro rfl
      rw [subscription?_of_record? hrecord] at hn
      cases hn
    have hsame := sameAt_register c s ho
    exact hsame.blank (h.blank sid (hsame.subscription?.symm.trans hn))
  · have hlt' : s.sid < sid := hlt
    have ho : sid ≠ s.sid := Nat.ne_of_gt hlt'
    rw [(sameAt_register c s ho).subscription?]
    refine h.fresh sid (Nat.lt_of_succ_lt ?_)
    rw [hsid] at hlt'
    exact hlt'
  · by_cases ho : sid = s.sid
    · subst ho
      rw [hrecord] at hvr
      obtain rfl := Option.some.inj hvr
      exact ⟨Record.orderly_registered ha hv hw hq hd, Record.limited_registered hw hd,
        fun _ => Record.settled_registered hv⟩
    · exact h.record sid v ((sameAt_register c s ho).record?.symm.trans hvr)

theorem Sound.build (h : c.Sound strict) (handle : Nat) (plan : SubscriptionPlan) :
    (c.build handle plan).2.Sound strict := by
  unfold Connection.build
  split
  · exact h
  · split
    · exact h
    · split
      · exact h
      · exact h.register (s := {
          sid := c.issuedSids + 1
          subject := plan.subject
          queueGroup := plan.queueGroup
          options := plan.options
          handler := plan.handler
          max := plan.max
          via := handle }) rfl rfl rfl rfl rfl rfl

theorem Sound.subscribe {t : Transport} (ht : t.Drifts) (h : c.Sound strict) (handle : Nat)
    (plan : SubscriptionPlan) : (c.subscribe t handle plan).2.Sound strict := by
  have hbuild := h.build handle plan
  unfold Connection.subscribe
  split
  · next e c₁ heq =>
    rw [heq] at hbuild
    exact hbuild
  · next sid c₁ heq =>
    rw [heq] at hbuild
    have hstart := hbuild.steps (evolves_startSubscription ht c₁ sid).steps
    split
    · next c₂ heq₂ =>
      rw [heq₂] at hstart
      exact hstart
    · next e c₂ heq₂ =>
      rw [heq₂] at hstart
      exact hstart.steps (drifts_closeSubscription ht c₂ sid).evolves.steps

theorem Sound.handOver {made : Except ConnectionError Sid × Connection}
    (h : made.2.Sound strict) : (handOver made).2.Sound strict := by
  unfold Connection.handOver
  split
  · exact h.steps (evolves_hold _ _ true).steps
  · exact h

/-! ## Runs -/

/-- A `strict` subscription is valid when a worker of it is started as such. -/
theorem Sound.performOver {t : Transport} (ht : t.Drifts) (h : c.Sound strict) (move : Move)
    (henables : ∀ sid, strict sid → c.isEnabling sid move = true →
      ∀ s, c.subscription? sid = some s → s.valid = true) :
    (c.performOver t move).Sound strict := by
  by_cases hbuild : ∀ handle plan, move ≠ .build handle plan ∧ move ≠ .subscribe handle plan
  · exact h.steps (steps_performOver ht c move (fun _ _ _ => trivial) hbuild henables)
  · cases move with
    | build handle plan => exact (h.build handle plan).handOver
    | subscribe handle plan => exact (h.subscribe ht handle plan).handOver
    | _ => simp at hbuild

theorem Sound.perform (h : c.Sound strict) (move : Move)
    (henables : ∀ sid, strict sid → c.isEnabling sid move = true →
      ∀ s, c.subscription? sid = some s → s.valid = true) : (c.perform move).Sound strict :=
  h.performOver drifts_transport move henables

theorem Sound.runOver {t : Transport} (ht : t.Drifts) (h : c.Sound strict) (moves : List Move)
    (henables : ∀ sid, strict sid → c.enablesValidOver t sid moves = true) :
    (c.runOver t moves).Sound strict := by
  induction moves generalizing c with
  | nil => exact h
  | cons move moves ih =>
    have hsplit : ∀ sid, strict sid →
        (c.isEnabling sid move = true → ∀ s, c.subscription? sid = some s → s.valid = true) ∧
          (c.performOver t move).enablesValidOver t sid moves = true := by
      intro sid hstrict
      obtain ⟨hnow, hlater⟩ := Bool.and_eq_true_iff.1 (henables sid hstrict)
      refine ⟨fun henabling s hs => ?_, hlater⟩
      simpa [henabling, hs] using hnow
    exact ih (h.performOver ht move fun sid hstrict => (hsplit sid hstrict).1)
      fun sid hstrict => (hsplit sid hstrict).2

theorem enablesValidOver_transport (c : Connection) (sid : Sid) (moves : List Move) :
    c.enablesValidOver transport sid moves = c.enablesValid sid moves := by
  induction moves generalizing c with
  | nil => rfl
  | cons move moves ih =>
    unfold enablesValidOver enablesValid
    rw [ih]
    rfl

theorem Sound.run (h : c.Sound strict) (moves : List Move)
    (henables : ∀ sid, strict sid → c.enablesValid sid moves = true) :
    (c.run moves).Sound strict :=
  h.runOver drifts_transport moves fun sid hstrict =>
    (c.enablesValidOver_transport sid moves).trans (henables sid hstrict)

end Connection

end PubSub
