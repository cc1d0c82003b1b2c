import PubSub.Proofs.Connection.Planned

/-!
# First in, first out, and nothing lost

The messages that a subscription accepted are those its workers took followed by those in its queue,
in order; every message that was taken was given to the handler set last, or dropped if there was
none; and no two handlers of one subscription are ever at work at the same time.
-/

namespace PubSub.Connection

/-- A delivery adds the message to what its subscription accepted if it says so, and changes nothing
else that any subscription accepted. -/
theorem accepted_deliverTo (c : Connection) (s : Subscription) (m : Message) (sid : Sid) :
    ((c.deliverTo s m).2.story sid).accepted =
      (c.story sid).accepted ++ if s.sid = sid ∧ (c.deliverTo s m).1 = true then [m] else [] := by
  have hdrop : ∀ reason : DropReason, reason ≠ .noHandler →
      (c.drop s.sid m reason).story sid = c.story sid := by
    intro reason hreason
    show (Connection.log _ _).story sid = _
    have he : (Event.dropped s.sid m reason).sid? ≠ some sid := by
      cases reason with
      | noHandler => exact absurd rfl hreason
      | _ => simp [Event.sid?]
    rw [story_log, if_neg he]
    rfl
  unfold deliverTo
  split
  · rw [hdrop _ (by decide)]
    simp
  · split
    · rw [story_log]
      by_cases hsid : s.sid = sid
      · have he : (Event.accepted s.sid m).sid? = some sid := congrArg some hsid
        rw [if_pos he, if_pos ⟨hsid, rfl⟩]
        rfl
      · have he : (Event.accepted s.sid m).sid? ≠ some sid := fun h => hsid (Option.some.inj h)
        rw [if_neg he, if_neg fun h => hsid h.1, List.append_nil]
        rfl
    · rw [hdrop _ (by decide)]
      simp

theorem accepted_deliver (c : Connection) (other : Sid) (m : Message) (sid : Sid) :
    ((c.deliver other m).2.story sid).accepted =
      (c.story sid).accepted ++
        if other = sid ∧ (c.deliver other m).1 = true then [m] else [] := by
  unfold deliver lookup
  split
  · next s hs =>
    split at hs
    · obtain rfl : s.sid = other := sid_of_subscription? hs
      exact accepted_deliverTo c s m sid
    · cases hs
  · have hstory : (c.drop other m .noSubscription).story sid = c.story sid := by
      show (Connection.log _ _).story sid = _
      have he : (Event.dropped other m .noSubscription).sid? ≠ some sid := by simp [Event.sid?]
      rw [story_log, if_neg he]
      rfl
    rw [hstory]
    simp

/-- Along every run in which workers of a subscription are started only while it is valid: its
messages leave the queue in the order in which they entered it, none is lost or taken twice, each
that left was given to the handler set last by then or, when none was set, dropped, and at most one
handler is at work. What entered the queue is what a delivery accepted. The handler set last is the
one that was put in place last, and of a new subscription the one that was planned for it. -/
theorem delivers_in_order (o : Session.Opening) (id : Nat) (clock : Instant) (handle : Nat)
    (moves : List Move) (sid : Sid)
    (h : (o.connect id clock handle).enablesValid sid moves = true) :
    let c := (o.connect id clock handle).run moves
    (∀ s, c.subscription? sid = some s →
      (c.story sid).accepted = (c.story sid).taken ++ s.queue.entries.map (·.message) ∧
      (c.story sid).fates = (c.story sid).dues ∧
      ∀ (i j : Nat) (w w' : Worker), s.workers[i]? = some w → s.workers[j]? = some w' →
        w.invocation?.isSome → w'.invocation?.isSome → i = j) ∧
    (∀ other m, ((c.deliver other m).2.story sid).accepted =
      (c.story sid).accepted ++
        if other = sid ∧ (c.deliver other m).1 = true then [m] else []) ∧
    (∀ s m, ((c.deliverTo s m).2.story sid).accepted =
      (c.story sid).accepted ++
        if s.sid = sid ∧ (c.deliverTo s m).1 = true then [m] else []) ∧
    (∀ s handler, c.subscription? sid = some s →
      ∃ s', (c.setHandler sid handler).subscription? sid = some s' ∧ s'.handler = some handler ∧
        ((c.setHandler sid handler).story sid).handler? = some handler) ∧
    ∀ handle plan new c', c.build handle plan = (.ok new, c') ∨
        c.subscribe transport handle plan = (.ok new, c') →
      ∃ s', c'.subscription? new = some s' ∧ s'.handler = plan.handler ∧
        (c'.story new).handler? = plan.handler := by
  intro c
  have hsound : c.Sound (· = sid) := by
    refine (sound_connect o id clock handle).run moves ?_
    rintro other rfl
    exact h
  refine ⟨fun s hs => ?_, fun other m => accepted_deliver c other m sid,
    fun s m => accepted_deliverTo c s m sid, fun _ handler hs => named_setHandler hs handler,
    fun handle plan new c' hmade => ?_⟩
  · have hv := hsound.record sid _ (record?_of_subscription? hs)
    refine ⟨hv.orderly.messages, (hv.settled rfl).fates, fun i j w w' hw hw' hi hj => ?_⟩
    have hphase : ∀ k x, s.workers[k]? = some x → x.invocation?.isSome →
        ∃ p, s.phase? k = some p ∧ p.Receives := by
      intro k x hx hwork
      obtain ⟨invocation, hinvocation⟩ := Option.isSome_iff_exists.1 hwork
      have hp := Worker.invocation?_eq_some_iff.1 hinvocation
      exact ⟨.handling invocation, Subscription.phase?_eq_some_iff.2 ⟨x, hx, hp⟩, trivial⟩
    obtain ⟨p, hp, hr⟩ := hphase i w hw hi
    obtain ⟨p', hp', hr'⟩ := hphase j w' hw' hj
    exact hv.orderly.receiver i j p p' hp hp' hr hr'
  · obtain ⟨v, hv, hplan⟩ := hsound.asPlanned drifts_transport hmade
    obtain ⟨hs', -, hstory⟩ := record?_eq_some_iff.1 hv
    exact ⟨v.sub, hs', hplan.handler, by rw [hstory, hplan.named]⟩

/-- The theorem applies to a run in which a handler stops its own worker and starts another, which
waits behind it and takes the second message. -/
theorem delivers_in_order_restart :
    let handler := Handler.mk "" [] [.disable, .enable]
    let moves : List Move := [.build 1 { subject := "a", handler := some handler }, .enable 1,
      .deliver 1 { subject := "a" }, .deliver 1 { subject := "b" }, .stepWorker 1 0,
      .stepWorker 1 0, .stepWorker 1 0, .stepWorker 1 0, .stepWorker 1 1, .stepWorker 1 0,
      .stepWorker 1 0, .stepWorker 1 1, .stepWorker 1 1]
    let c := (Session.Opening.connect { token := "" } 0 0 1).run moves
    (Session.Opening.connect { token := "" } 0 0 1).enablesValid 1 moves = true ∧
      ∀ s, c.subscription? 1 = some s →
        (c.story 1).accepted = (c.story 1).taken ++ s.queue.entries.map (·.message) ∧
          (c.story 1).fates = (c.story 1).dues := by
  intro handler moves c
  have henables : (Session.Opening.connect { token := "" } 0 0 1).enablesValid 1 moves = true := by
    decide +kernel
  refine ⟨henables, fun s hs => ?_⟩
  have h := (delivers_in_order { token := "" } 0 0 1 moves 1 henables).1 s hs
  exact ⟨h.1, h.2.1⟩

end PubSub.Connection
