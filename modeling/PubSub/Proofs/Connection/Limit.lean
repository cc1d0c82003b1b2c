import PubSub.Proofs.Connection.Order

/-!
# Ceilings hold

What holds of the ceiling of every subscription at every time (`Record.Limited`). The delicate part
is that a ceiling is looked at twice, when a message is taken and when its invocation is over, and may
move in between: a valid subscription that has reached its ceiling has an invocation at work that will
end it.
-/

namespace PubSub

/-- What holds of a ceiling and of the deliveries under it. -/
structure Record.Limited (v : Record) : Prop where
  /-- The ceiling is the one set last. -/
  ceiling : v.sub.max = v.story.ceiling.1
  /-- It is not exceeded by deliveries made since. -/
  limit : v.sub.max ≠ 0 → v.sub.delivered ≤ max v.story.ceiling.2 v.sub.max
  /-- If it was reached when it was set, the subscription ended. -/
  exhausted : v.sub.max ≠ 0 → v.sub.max ≤ v.story.ceiling.2 → v.sub.valid = false
  /-- An invocation at work is the last delivery, and knows the ceiling unless that was set since. -/
  invocation : ∀ i invocation, v.sub.phase? i = some (.handling invocation) →
    invocation.count = v.sub.delivered ∧
      (invocation.count ≤ v.story.ceiling.2 ∨ invocation.ceiling = v.sub.max)
  /-- If it is reached while the subscription is valid, an invocation at work will end that. -/
  reached : v.sub.valid = true → v.sub.max ≠ 0 → v.sub.max ≤ v.sub.delivered →
    ∃ i invocation, v.sub.phase? i = some (.handling invocation) ∧ invocation.ceiling ≠ 0 ∧
      invocation.count = invocation.ceiling

namespace Record

variable {calm strict : Prop} {v v' : Record} {i : Nat}

/-- A new subscription. -/
theorem limited_registered {s : Subscription} (hw : s.workers = []) (hd : s.delivered = 0) :
    Limited ⟨s, true, [.registered s.sid s.handler s.max]⟩ where
  ceiling := rfl
  limit _ := by simp [hd]
  exhausted hmax hle := absurd (Nat.le_zero.1 hle) hmax
  invocation i invocation hi := by simp [Subscription.phase?, hw] at hi
  reached _ hmax hle := by
    have hle' : s.max ≤ s.delivered := hle
    rw [hd] at hle'
    exact absurd (Nat.le_zero.1 hle') hmax

/-- Ceiling and deliveries stay, what was at work still is and nothing else is, and the subscription
does not become valid. -/
theorem Limited.of_phase? (hl : v.Limited) (hmax : v'.sub.max = v.sub.max)
    (hdelivered : v'.sub.delivered = v.sub.delivered) (hceiling : v'.story.ceiling = v.story.ceiling)
    (hvalid : v'.sub.valid = true → v.sub.valid = true)
    (hafter : ∀ j invocation, v'.sub.phase? j = some (.handling invocation) →
      v.sub.phase? j = some (.handling invocation))
    (hbefore : v'.sub.valid = true → ∀ j invocation, v.sub.phase? j = some (.handling invocation) →
      v'.sub.phase? j = some (.handling invocation)) : v'.Limited where
  ceiling := by rw [hmax, hceiling, hl.ceiling]
  limit h := by
    rw [hmax] at h ⊢
    rw [hdelivered, hceiling]
    exact hl.limit h
  exhausted h hle := by
    rw [hmax] at h hle
    rw [hceiling] at hle
    have hinvalid := hl.exhausted h hle
    cases hv : v'.sub.valid with
    | false => rfl
    | true => rw [hvalid hv] at hinvalid; cases hinvalid
  invocation j invocation hj := by
    rw [hmax, hdelivered, hceiling]
    exact hl.invocation j invocation (hafter j invocation hj)
  reached hv h hle := by
    rw [hmax] at h hle
    rw [hdelivered] at hle
    obtain ⟨j, invocation, hj, hrest⟩ := hl.reached (hvalid hv) h hle
    exact ⟨j, invocation, hbefore hv j invocation hj, hrest⟩

theorem Drifts.limited (h : v.Drifts calm v') (hl : v.Limited) : v'.Limited := by
  refine hl.of_phase? h.max h.delivered h.ceiling_story (fun hv => ?_)
    (fun j _ hj => (h.phase? j).symm.trans hj) fun _ j _ hj => (h.phase? j).trans hj
  cases hv' : v.sub.valid with
  | true => rfl
  | false => rw [h.invalid hv'] at hv; cases hv

/-- No invocation at work began after a ceiling that was just set. -/
theorem Orderly.invocation_of_ceilingSet (ho : v.Orderly) (hl : v.Limited) (max : Nat) (i : Nat)
    (invocation : Invocation) (hi : v.sub.phase? i = some (.handling invocation)) :
    invocation.count = v.sub.delivered ∧
      (invocation.count ≤ v.story.begun ∨ invocation.ceiling = max) := by
  have hcount := (hl.invocation i invocation hi).1
  exact ⟨hcount, Or.inl (Nat.le_of_eq (hcount.trans ho.delivered))⟩

theorem Evolves.limited (h : v.Evolves strict v') (ho : v.Orderly) (hl : v.Limited) :
    v'.Limited := by
  induction h with
  | drift h => exact h.limited hl
  | trans h _ ih ih' => exact ih' (h.orderly ho) (ih ho hl)
  | hold | setHandler => exact { hl with }
  | enable v stopping hs =>
    have henable : v.Evolves strict (v.update fun s => (s.enable stopping).2) :=
      .enable v stopping hs
    have hkeep : ∀ (v' : Record), v' = (v.update fun s => (s.enable stopping).2) →
        v'.sub.max = v.sub.max ∧ v'.sub.delivered = v.sub.delivered ∧
          v'.sub.valid = v.sub.valid := by
      rintro v' rfl
      rcases workers_enable v.sub stopping with heq | ⟨-, heq⟩
      · rw [sub_update, heq]
        exact ⟨rfl, rfl, rfl⟩
      · rw [sub_update, heq]
        exact ⟨rfl, rfl, rfl⟩
    obtain ⟨hmax, hdelivered, hvalid⟩ := hkeep _ rfl
    refine hl.of_phase? hmax hdelivered rfl (fun hv => hvalid ▸ hv) (fun j inv hj => ?_)
      fun _ j inv hj => ?_
    · rcases henable.phase? j with hsame | ⟨-, hnew⟩
      · exact hsame.symm.trans hj
      · cases hj.symm.trans hnew
    · exact henable.phase?_eq_some hj
  | setCeiling v max h =>
    -- whatever began did so before the ceiling was set, and there is room below it
    refine ⟨rfl, fun _ => ?_, fun hmax hle => ?_, ho.invocation_of_ceilingSet hl max,
      fun _ hmax hle => ?_⟩
    · show v.sub.delivered ≤ Nat.max v.story.begun max
      rw [ho.delivered]
      exact Nat.le_max_left _ _
    · have hle' : max ≤ v.story.begun := hle
      rw [← ho.delivered] at hle'
      exact absurd hle' (Nat.not_le_of_lt (h.resolve_left hmax))
    · exact absurd hle (Nat.not_le_of_lt (h.resolve_left hmax))
  | @exhaust v v' max hd hinvalid =>
    -- the ceiling is set and the subscription ended before anybody looks
    have hset : Limited ((v.update fun s => { s with max := max }).tell
        (.ceilingSet v.sub.sid max)).invalidated := by
      refine ⟨rfl, fun _ => ?_, fun _ _ => rfl, ho.invocation_of_ceilingSet hl max,
        fun hv => by cases hv⟩
      show v.sub.delivered ≤ Nat.max v.story.begun max
      rw [ho.delivered]
      exact Nat.le_max_left _ _
    have hend : v'.sub.valid = true → False := fun hv => by
      rw [hinvalid] at hv
      cases hv
    exact hset.of_phase? hd.max hd.delivered hd.ceiling_story
      (fun hv => (hend hv).elim) (fun j _ hj => (hd.phase? j).symm.trans hj)
      fun hv => (hend hv).elim

/-- What is at work when a worker goes from one thing to another. -/
theorem handling_setPhase {s : Subscription} {p : Worker.Phase} {j : Nat} {invocation : Invocation}
    (h : (s.setPhase i p).phase? j = some (.handling invocation)) :
    i ≠ j ∧ s.phase? j = some (.handling invocation) ∨ i = j ∧ p = .handling invocation := by
  rw [Subscription.phase?_setPhase] at h
  split at h
  · next hij =>
    obtain ⟨-, -, heq⟩ := Option.map_eq_some_iff.1 h
    exact Or.inr ⟨hij, heq⟩
  · next hij => exact Or.inl ⟨hij, h⟩

theorem phase?_setPhase_of_ne {s : Subscription} {p : Worker.Phase} {j : Nat} (h : i ≠ j) :
    (s.setPhase i p).phase? j = s.phase? j := by
  rw [Subscription.phase?_setPhase, if_neg h]

/-- A worker without an invocation goes to something else without one. -/
theorem Limited.setPhase (hl : v.Limited) {p : Worker.Phase}
    (hp : ∀ invocation, p ≠ .handling invocation)
    (hi : v.sub.valid = true → ∀ invocation, v.sub.phase? i ≠ some (.handling invocation)) :
    (v.update fun s => s.setPhase i p).Limited := by
  refine hl.of_phase? rfl rfl rfl id (fun j inv hj => ?_) fun hv j inv hj => ?_
  · rcases handling_setPhase hj with ⟨-, hold⟩ | ⟨-, hnew⟩
    · exact hold
    · exact absurd hnew (hp inv)
  · have hij : i ≠ j := by
      rintro rfl
      exact hi hv inv hj
    exact (phase?_setPhase_of_ne hij).trans hj

theorem not_handling_lineUp (s : Subscription) (i : Nat) (w : Worker) (invocation : Invocation) :
    s.lineUp i w ≠ .handling invocation := by
  unfold Subscription.lineUp
  split
  · simp
  · split <;> simp

/-- An invocation that is the same delivery under the same ceiling goes on. -/
theorem Limited.resume (hl : v.Limited) {invocation invocation' : Invocation}
    (h : v.sub.phase? i = some (.handling invocation))
    (hceiling : invocation'.ceiling = invocation.ceiling)
    (hcount : invocation'.count = invocation.count) :
    (v.update fun s => s.setPhase i (.handling invocation')).Limited := by
  have hself : (v.sub.setPhase i (.handling invocation')).phase? i =
      some (.handling invocation') := by
    rw [Subscription.phase?_setPhase, if_pos rfl, h]
    rfl
  refine ⟨hl.ceiling, hl.limit, hl.exhausted, fun j inv hj => ?_, fun hv hmax hle => ?_⟩
  · rcases handling_setPhase hj with ⟨-, hold⟩ | ⟨-, hnew⟩
    · exact hl.invocation j inv hold
    · cases hnew
      have hi := hl.invocation i invocation h
      rw [← hceiling, ← hcount] at hi
      exact hi
  · obtain ⟨j, inv, hj, hne, heq⟩ := hl.reached hv hmax hle
    by_cases hij : i = j
    · -- the invocation that will end the subscription is the one that goes on
      subst hij
      rw [h] at hj
      cases hj
      rw [← hceiling] at hne
      rw [← hceiling, ← hcount] at heq
      exact ⟨i, invocation', hself, hne, heq⟩
    · exact ⟨j, inv, (phase?_setPhase_of_ne hij).trans hj, hne, heq⟩

theorem Works.limited (h : v.Works i v') (ho : v.Orderly) (hl : v.Limited) : v'.Limited := by
  cases h with
  | @lineUp w hw hp =>
    refine hl.setPhase (not_handling_lineUp v.sub i w) fun _ inv hi => ?_
    obtain ⟨w', hw', hp'⟩ := Subscription.phase?_eq_some_iff.1 hi
    obtain rfl := Option.some.inj (hw.symm.trans hw')
    rcases hp with hp | hp <;> rw [hp] at hp' <;> cases hp'
  | exit h =>
    have hset : (v.update fun s => s.setPhase i .finished).Limited := by
      refine hl.setPhase (by simp) fun hv inv hi => ?_
      rcases h with hinvalid | hreceiving
      · rw [hinvalid] at hv
        cases hv
      · rw [hreceiving] at hi
        cases hi
    rw [Record.update] at hset ⊢
    unfold Subscription.exited
    dsimp only
    split
    · exact hset
    · exact { hset with }
  | discard | waste => exact { hl with }
  | @begin d q handler invocation h hh ha hm hceiling hcount =>
    refine ⟨hl.ceiling, fun hmax => ?_, hl.exhausted, fun j inv hj => ?_, fun _ hmax hle =>
      ⟨i, invocation, ?_, ?_, ?_⟩⟩
    · exact Nat.le_trans (hm.resolve_left hmax) (Nat.le_max_right _ _)
    · rcases handling_setPhase hj with ⟨hij, hold⟩ | ⟨-, hnew⟩
      · -- the worker that takes a message is the one that has the receiving end
        exact absurd (ho.receiver i j _ _ (h.phase?) hold trivial trivial) hij
      · cases hnew
        exact ⟨hcount, Or.inr hceiling⟩
    · show (Subscription.setPhase _ i _).phase? i = _
      rw [Subscription.phase?_setPhase, if_pos rfl]
      have hi : v.sub.phase? i = some .receiving := h.phase?
      exact congrArg (Option.map fun _ => Worker.Phase.handling invocation) hi
    · rw [hceiling]
      exact hmax
    · rw [hceiling, hcount]
      exact Nat.le_antisymm (hm.resolve_left hmax) hle
  | goOn h hnext => exact hl.resume h hnext.ceiling hnext.count
  | @finish invocation h hm =>
    refine ⟨hl.ceiling, hl.limit, hl.exhausted, fun j inv hj => ?_, fun hv hmax hle => ?_⟩
    · rcases handling_setPhase hj with ⟨-, hold⟩ | ⟨-, hnew⟩
      · exact hl.invocation j inv hold
      · cases hnew
    · obtain ⟨j, inv, hj, hne, heq⟩ := hl.reached hv hmax hle
      by_cases hij : i = j
      · subst hij
        rw [h] at hj
        cases hj
        -- had it been the last delivery, the subscription would have ended here
        exact absurd ⟨hne, heq⟩ hm
      · exact ⟨j, inv, (phase?_setPhase_of_ne hij).trans hj, hne, heq⟩

end Record

end PubSub
