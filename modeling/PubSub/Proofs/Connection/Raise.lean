import PubSub.Proofs.Connection.Operation
import PubSub.Proofs.Connection.Sound

/-!
# Raising a ceiling

A ceiling that is raised or removed holds from then on, unless a handler is at work on what was the
last delivery under the ceiling that it began with: that delivery ends the subscription when it is
over, for the worker looks at the ceiling only before it calls the handler.

## Main results

- `Connection.raised_autoUnsubscribe` — raising a ceiling between deliveries
- `Connection.raised_run` — what is not ended or limited lives until its ceiling is reached
-/

namespace PubSub

/-- Whether a handler is at work on the last delivery under the ceiling that it began with. -/
def Subscription.isFinishing (s : Subscription) : Bool :=
  s.workers.any fun w => w.invocation?.any fun invocation =>
    invocation.ceiling != 0 && invocation.count == invocation.ceiling

/-- A valid subscription with the ceiling `n`, which no handler at work will end for another
ceiling, or one that has reached `n`. -/
def Subscription.Raised (s : Subscription) (n : Nat) : Prop :=
  (s.valid = true ∧ s.max = n ∧ ∀ i invocation, s.phase? i = some (.handling invocation) →
      invocation.ceiling ≠ 0 → invocation.count = invocation.ceiling → invocation.ceiling = n) ∨
    n ≠ 0 ∧ n ≤ s.delivered

namespace Subscription

variable {s s' : Subscription} {n : Nat}

theorem not_last_of_isFinishing (h : s.isFinishing = false) {i : Nat} {invocation : Invocation}
    (hi : s.phase? i = some (.handling invocation)) (hne : invocation.ceiling ≠ 0) :
    invocation.count ≠ invocation.ceiling := by
  obtain ⟨w, hw, hp⟩ := phase?_eq_some_iff.1 hi
  intro heq
  have hnot := List.any_eq_false.1 h w (List.mem_of_getElem? hw)
  simp [Worker.invocation?, hp, hne, heq] at hnot

/-- What does not end or limit a subscription leaves it as it is. -/
theorem Raised.keeps (h : s.Raised n) (hkeeps : s.Keeps False s') : s'.Raised n := by
  rcases h with ⟨hvalid, hmax, hlast⟩ | ⟨hn, hle⟩
  · refine Or.inl ⟨(hkeeps.valid id).trans hvalid, (hkeeps.max id).trans hmax, ?_⟩
    intro i invocation hi hne heq
    rcases hkeeps.invocation id i invocation hi with hceiling | ⟨old, hold, hceiling, hcount⟩
    · exact hceiling.trans hmax
    · rw [hceiling] at hne ⊢
      rw [hceiling, hcount] at heq
      exact hlast i old hold hne heq
  · exact Or.inr ⟨hn, Nat.le_trans hle hkeeps.delivered⟩

end Subscription

namespace Connection

variable {c : Connection} {sid : Sid} {s : Subscription} {n : Nat}

theorem Passive.run (h : c.Passive) (moves : List Move) : (c.run moves).Passive := by
  unfold Passive
  rw [(flow_run c moves).reactions]
  exact h

/-- One thing is done that does not end the subscription or limit it. -/
theorem raised_perform (hsound : c.Sound fun _ => False) (hpassive : c.Passive)
    (hs : c.subscription? sid = some s) (h : s.Raised n) {move : Move}
    (hmove : c.disturbs sid move = false) :
    ∃ s', (c.perform move).subscription? sid = some s' ∧ s'.Raised n := by
  by_cases hreached : n ≠ 0 ∧ n ≤ s.delivered
  · -- deliveries are never undone
    have hflow : c.Flow (fun _ => True) (c.perform move) :=
      flow_perform (permits_all c) move (fun _ _ => trivial) trivial fun _ _ _ _ _ _ => trivial
    obtain ⟨s', hs', hkeeps⟩ := hflow.kept hs
    exact ⟨s', hs', Or.inr ⟨hreached.1, Nat.le_trans hreached.2 hkeeps.delivered⟩⟩
  · obtain ⟨hvalid, hmax, hlast⟩ := h.resolve_right hreached
    have hlimited := (hsound.record sid _ (record?_of_subscription? hs)).limited
    have hroom : ∀ i, ¬s.AtLimit i := by
      rintro i (⟨hne, hle⟩ | ⟨invocation, hi, hne, heq⟩)
      · rw [hmax] at hne hle
        exact hreached ⟨hne, hle⟩
      · -- the last delivery under the ceiling is the last one made
        have hn := hlast i invocation hi hne heq
        have hcount := (hlimited.invocation i invocation hi).1
        rw [heq, hn] at hcount
        exact hreached ⟨hn ▸ hne, Nat.le_of_eq hcount⟩
    -- so nothing that is done now may end or limit this subscription
    have hflow : c.Flow (· ≠ sid) (c.perform move) := by
      refine flow_perform (hpassive.permits _) move (fun other hother ho => ?_) (fun hnew => ?_)
        fun other i s' _ hs' hlimit ho => ?_
      · rw [ho, hmove] at hother
        cases hother
      · rw [hsound.fresh sid (by rw [← hnew]; exact Nat.lt_succ_self _)] at hs
        cases hs
      · subst ho
        obtain rfl := Option.some.inj (hs'.symm.trans hs)
        exact hroom i hlimit
    obtain ⟨s', hs', hkeeps⟩ := hflow.kept hs
    exact ⟨s', hs', h.keeps (by simpa using hkeeps)⟩

/-- What is not ended or limited lives until its ceiling is reached. -/
theorem raised_run (hsound : c.Sound fun _ => False) (hpassive : c.Passive)
    (hs : c.subscription? sid = some s) (h : s.Raised n) {moves : List Move}
    (hmoves : c.undisturbed sid moves = true) :
    ∃ s', (c.run moves).subscription? sid = some s' ∧ s'.Raised n := by
  induction moves generalizing c s with
  | nil => exact ⟨s, hs, h⟩
  | cons move moves ih =>
    obtain ⟨hmove, hrest⟩ := Bool.and_eq_true_iff.1 hmoves
    obtain ⟨s', hs', h'⟩ := raised_perform hsound hpassive hs h (by simpa using hmove)
    exact ih (hsound.perform move fun _ hf => hf.elim) (hpassive.run [move]) hs' h' hrest

/-- A valid subscription gets a ceiling that is not reached, whether or not the server learns of
it. -/
theorem raised_autoUnsubscribe (hpassive : c.Passive) (hs : c.subscription? sid = some s)
    (hvalid : s.valid = true) (hroom : n = 0 ∨ s.delivered < n) (hlast : s.isFinishing = false) :
    ∃ s', (c.autoUnsubscribe transport sid n).2.subscription? sid = some s' ∧ s'.Raised n := by
  let c₁ := (c.modifySubscription sid fun s => { s with max := n }).log (.ceilingSet sid n)
  have hset : c₁.subscription? sid = some { s with max := n } := by
    show (c.modifySubscription sid fun s => { s with max := n }).subscription? sid = _
    rw [subscription?_modifySubscription c sid (f := fun s => { s with max := n }) fun _ h => h,
      if_pos rfl, hs, Option.map_some]
  have hraised : ({ s with max := n } : Subscription).Raised n := by
    refine Or.inl ⟨hvalid, rfl, fun i invocation hi hne heq => ?_⟩
    exact absurd heq (Subscription.not_last_of_isFinishing hlast hi hne)
  unfold autoUnsubscribe
  simp only [hs, hvalid, Bool.not_true, Bool.false_eq_true, if_false]
  split
  · exact ⟨_, hset, hraised⟩
  · next hne =>
    rw [if_neg (Nat.not_le_of_lt (hroom.resolve_left hne))]
    have hpassive₁ : c₁.Passive := hpassive
    have htell : c₁.Course { Permit.all with ends := (· ≠ sid), reenters := False }
        (c₁.sendFor transport sid (.unsubscribe sid (some n))).2 :=
      course_tell sends_transport ⟨hpassive₁.permits _, hpassive₁.permits _⟩ hset hvalid n
    obtain ⟨s', hs', hkeeps⟩ := htell.flow.kept hset
    exact ⟨s', hs', hraised.keeps (by simpa using hkeeps)⟩

/-- Along every run, while a subscription is valid and no handler is at work on the last delivery
under the ceiling that it began with: the ceiling that the subscription has holds, and so does any
that it gets now and has not reached. In every run in which from then on it is neither ended nor
limited again, by the application, a handler or the transport, it stays valid until it has made as
many deliveries; zero is no ceiling. -/
theorem raise_holds (o : Session.Opening) (id : Nat) (clock : Instant) (handle : Nat)
    (moves : List Move) (sid : Sid) (s : Subscription)
    (hpassive : ∀ entry ∈ o.reactions, entry.2.deed.closes = false)
    (hs : ((o.connect id clock handle).run moves).subscription? sid = some s)
    (hvalid : s.valid = true) (hlast : s.isFinishing = false) :
    let c := (o.connect id clock handle).run moves
    (∀ later, c.undisturbed sid later = true →
      ∃ s', (c.run later).subscription? sid = some s' ∧
        (s'.valid = true ∨ s.max ≠ 0 ∧ s.max ≤ s'.delivered)) ∧
    ∀ n, n = 0 ∨ s.delivered < n →
      let c' := (c.autoUnsubscribe transport sid n).2
      ∀ later, c'.undisturbed sid later = true →
        ∃ s', (c'.run later).subscription? sid = some s' ∧
          (s'.valid = true ∨ n ≠ 0 ∧ n ≤ s'.delivered) := by
  intro c
  have hpassive : c.Passive := by
    have hstart : (o.connect id clock handle).Passive := hpassive
    exact hstart.run moves
  have hsound : c.Sound fun _ => False :=
    (sound_connect o id clock handle).run moves fun _ hf => hf.elim
  refine ⟨fun later hlater => ?_, ?_⟩
  · have hraised : s.Raised s.max := by
      refine Or.inl ⟨hvalid, rfl, fun i invocation hi hne heq => ?_⟩
      exact absurd heq (Subscription.not_last_of_isFinishing hlast hi hne)
    obtain ⟨s', hs', hraised'⟩ := raised_run hsound hpassive hs hraised hlater
    exact ⟨s', hs', hraised'.imp And.left fun h => h⟩
  · intro n hroom c' later hlater
    have hsound' : c'.Sound fun _ => False :=
      hsound.perform (.autoUnsubscribe sid n) fun _ hf => hf.elim
    have hpassive' : c'.Passive := hpassive.run [.autoUnsubscribe sid n]
    obtain ⟨s₁, hs₁, hraised⟩ := raised_autoUnsubscribe hpassive hs hvalid hroom hlast
    obtain ⟨s', hs', hraised'⟩ := raised_run hsound' hpassive' hs₁ hraised hlater
    exact ⟨s', hs', hraised'.imp And.left fun h => h⟩

/-- The theorem applies to a ceiling of two that is raised to three during the first delivery. -/
theorem raise_holds_first :
    let handler := Handler.mk "" [] []
    let moves : List Move := [.subscribe 1 { subject := "a", max := 2, handler := some handler },
      .deliver 1 { subject := "a" }, .deliver 1 { subject := "a" }, .stepWorker 1 0,
      .stepWorker 1 0]
    let later : List Move := [.stepWorker 1 0, .stepWorker 1 0, .stepWorker 1 0]
    let c := (Session.Opening.connect { token := "" } 0 0 1).run moves
    (∃ s, c.subscription? 1 = some s ∧ s.valid = true ∧ s.delivered = 1 ∧ s.isFinishing = false) ∧
      ∃ s', ((c.autoUnsubscribe transport 1 3).2.run later).subscription? 1 = some s' ∧
        (s'.valid = true ∨ 3 ≠ 0 ∧ 3 ≤ s'.delivered) := by
  intro handler moves later c
  have hsome : ((c.subscription? 1).any fun s =>
      s.valid && s.delivered == 1 && !s.isFinishing) = true := by decide +kernel
  have hlater : (c.autoUnsubscribe transport 1 3).2.undisturbed 1 later = true := by decide +kernel
  obtain ⟨s, hs, hprops⟩ := (Option.any_eq_true _ _).1 hsome
  simp only [Bool.and_eq_true, beq_iff_eq, Bool.not_eq_true'] at hprops
  obtain ⟨⟨hvalid, hdelivered⟩, hlast⟩ := hprops
  have hroom : 3 = 0 ∨ s.delivered < 3 := Or.inr (by omega)
  exact ⟨⟨s, hs, hvalid, hdelivered, hlast⟩,
    (raise_holds { token := "" } 0 0 1 moves 1 s (by simp) hs hvalid hlast).2 3 hroom later hlater⟩

/-- A ceiling that is removed during the last delivery under it, with success: the subscription,
which is valid and has no ceiling, ends with the next step of its worker, though nothing is done to
end it. -/
theorem raise_lost :
    let handler := Handler.mk "" [] [.autoUnsubscribe 0]
    let moves : List Move := [.subscribe 1 { subject := "a", max := 1, handler := some handler },
      .deliver 1 { subject := "a" }, .stepWorker 1 0, .stepWorker 1 0, .stepWorker 1 0]
    let c := (Session.Opening.connect { token := "" } 0 0 1).run moves
    (c.journal.head?.any fun e =>
        match e with
        | .noted 1 (.result "auto_unsubscribe" (.ok ())) => true
        | _ => false) = true ∧
      (c.subscription? 1).map (fun s => (s.valid, s.max, s.delivered)) = some (true, 0, 1) ∧
      c.undisturbed 1 [.stepWorker 1 0] = true ∧
      ((c.run [.stepWorker 1 0]).subscription? 1).map (·.valid) = some false := by
  refine ⟨?_, ?_, ?_, ?_⟩ <;> decide +kernel

end Connection

end PubSub
