import PubSub.Connection.Retry
import PubSub.Proofs.Connection.Turn

/-!
# What is left of a subscription without its spent workers

A spent worker never gets hold of the receiving end and is not the one that `disable` stops, so
nothing that happens to a subscription depends on it. What is left (`Subscription.pruned`) tells who
has the receiving end (`Subscription.receivers`) and which worker is running
(`Subscription.runner?`), and what an operation leaves is told by what was left before.

Starting and stopping workers needs no more than that. To tell a worker by what is left, at most one
may have the receiving end and at most one may run, which is so of every subscription at every time.

## Main results

- `Subscription.pruned_enable`, `Subscription.pruned_disable` — workers come and go
- `Subscription.pruned_setPhase_of_receivesAt`, `Subscription.pruned_lineUp` — workers go on
- `Subscription.pruned_setPhase_of_spent` — spent workers do so unnoticed
- `Subscription.exists_live`, `Subscription.eq_of_live` — other workers are told by what is left
-/

namespace PubSub

/-! ## Workers that change -/

/-- When one entry of a list changes and no other is chosen, whether that one is decides all. -/
theorem filter_modify_of_unique {α : Type} {p : α → Bool} {f : α → α} {l : List α} {i : Nat} {a : α}
    (ha : l[i]? = some a) (hunique : ∀ j b, l[j]? = some b → p b = true → j = i) :
    (l.modify i f).filter p = [f a].filter p := by
  induction l generalizing i with
  | nil => cases ha
  | cons b l ih =>
    cases i with
    | zero =>
      obtain rfl : b = a := Option.some.inj ha
      have hnone : l.filter p = [] := by
        refine List.filter_eq_nil_iff.2 fun b' hb' hp => ?_
        obtain ⟨j, hj⟩ := List.getElem?_of_mem hb'
        cases hunique (j + 1) b' hj hp
      rw [List.modify_zero_cons, List.filter_cons, List.filter_cons, hnone]
      rfl
    | succ i =>
      have hb : ¬p b = true := fun hp => by cases hunique 0 b rfl hp
      rw [List.modify_succ_cons, List.filter_cons_of_neg hb]
      refine ih ha fun j b' hj hp => ?_
      exact Nat.succ.inj (hunique (j + 1) b' hj hp)

/-- When an entry of a list changes that is not chosen before or after, nothing changes. -/
theorem filter_modify_of_not {α : Type} {p : α → Bool} {f : α → α} {l : List α} {i : Nat}
    (h : ∀ a, l[i]? = some a → p a = false ∧ p (f a) = false) :
    (l.modify i f).filter p = l.filter p := by
  induction l generalizing i with
  | nil => rw [List.modify_nil]
  | cons b l ih =>
    cases i with
    | zero =>
      obtain ⟨hb, hfb⟩ := h b rfl
      rw [List.modify_zero_cons, List.filter_cons_of_neg (by simp [hfb]),
        List.filter_cons_of_neg (by simp [hb])]
    | succ i => rw [List.modify_succ_cons, List.filter_cons, List.filter_cons, ih h]

namespace Subscription

variable {s s' : Subscription} {i : Nat} {w : Worker}

theorem isStarted_eq_isSome (s : Subscription) : s.isStarted = s.runner?.isSome := by
  unfold isStarted runner?
  cases s.current.bind (s.workers[·]?) with
  | none => rfl
  | some w => cases hw : w.cancelled <;> simp [Option.filter, hw]

/-- Whether a worker was stopped is whether one was running. -/
theorem fst_disable (s : Subscription) : s.disable.1 = s.isStarted := by
  unfold disable
  split
  · next hcurrent => simp [isStarted, hcurrent]
  · rfl

theorem runner?_eq_some_iff :
    s.runner? = some w ↔
      ∃ i, s.current = some i ∧ s.workers[i]? = some w ∧ w.cancelled = false := by
  simp only [runner?, Option.filter_eq_some_iff, Option.bind_eq_some_iff, Bool.not_eq_true']
  constructor
  · rintro ⟨⟨i, hi, hw⟩, hc⟩
    exact ⟨i, hi, hw, hc⟩
  · rintro ⟨i, hi, hw, hc⟩
    exact ⟨⟨i, hi, hw⟩, hc⟩

/-- What is left of two subscriptions is the same if they differ in workers only, and not in those
that are left. -/
theorem pruned_congr (h : s' = { s with workers := s'.workers, current := s'.current })
    (hreceivers : s.receivers = s'.receivers) (hrunner : s.runner? = s'.runner?) :
    s.pruned = s'.pruned := by
  obtain ⟨workers, current, rfl⟩ : ∃ workers current,
    s' = { s with workers := workers, current := current } := ⟨_, _, h⟩
  simp only [pruned, hreceivers, hrunner]

theorem receivers_of_pruned (s : Subscription) :
    s.receivers = (s.pruned.workers.filter (·.cancelled)).map (·.phase) := by
  have hrunner : s.runner?.toList.filter (·.cancelled) = [] := by
    refine List.filter_eq_nil_iff.2 fun w hw => ?_
    obtain ⟨-, -, -, hc⟩ := runner?_eq_some_iff.1 (Option.mem_toList.1 hw)
    simp [hc]
  have hreceivers : (s.receivers.map (Worker.mk true)).filter (·.cancelled) =
      s.receivers.map (Worker.mk true) := by
    refine List.filter_eq_self.2 fun w hw => ?_
    obtain ⟨-, -, rfl⟩ := List.mem_map.1 hw
    rfl
  simp only [pruned, List.filter_append, hrunner, hreceivers, List.append_nil, List.map_map]
  exact (List.map_id _).symm

theorem runner?_of_pruned (s : Subscription) :
    s.runner? = s.pruned.workers.find? (!·.cancelled) := by
  have hreceivers : (s.receivers.map (Worker.mk true)).find? (!·.cancelled) = none := by
    refine List.find?_eq_none.2 fun w hw => ?_
    obtain ⟨-, -, rfl⟩ := List.mem_map.1 hw
    simp
  rw [pruned, List.find?_append, hreceivers, Option.none_or]
  cases hrunner : s.runner? with
  | none => rfl
  | some w =>
    obtain ⟨-, -, -, hc⟩ := runner?_eq_some_iff.1 hrunner
    simp [hc]

/-! ## Subscriptions of which the same is left -/

theorem receivers_eq (h : s.pruned = s'.pruned) : s.receivers = s'.receivers := by
  rw [receivers_of_pruned, h, ← receivers_of_pruned]

theorem runner?_eq (h : s.pruned = s'.pruned) : s.runner? = s'.runner? := by
  rw [runner?_of_pruned, h, ← runner?_of_pruned]

theorem isStarted_of_pruned_eq (h : s.pruned = s'.pruned) : s.isStarted = s'.isStarted := by
  rw [isStarted_eq_isSome, runner?_eq h, ← isStarted_eq_isSome]

theorem eq_of_pruned_eq (h : s.pruned = s'.pruned) :
    s' = { s with workers := s'.workers, current := s'.current } := by
  obtain ⟨⟩ := s
  obtain ⟨⟩ := s'
  simp only [pruned, mk.injEq] at h
  simp [h]

theorem exists_of_pruned_eq (h : s.pruned = s'.pruned) :
    ∃ workers current, s' = { s with workers := workers, current := current } :=
  ⟨_, _, eq_of_pruned_eq h⟩

/-! ## Workers come and go -/

/-- Who has the receiving end is told by what the workers are at. -/
theorem receivers_of_phases (h : s.workers.map (·.phase) = s'.workers.map (·.phase)) :
    s.receivers = s'.receivers := by
  have hphases : ∀ s : Subscription, s.receivers =
      (s.workers.map (·.phase)).filter fun p => (Worker.mk true p).hasReceiver := by
    intro s
    rw [List.filter_map]
    rfl
  rw [hphases, h, ← hphases]

/-- A worker that was just started does not have the receiving end. -/
theorem receivers_enable (s : Subscription) (stopping : Bool) :
    (s.enable stopping).2.receivers = s.receivers := by
  unfold enable
  split
  · rfl
  · simp [receivers, Worker.hasReceiver]

theorem pruned_enable (s : Subscription) (stopping : Bool) : (s.enable stopping).2.pruned =
    if s.isStarted then s.pruned
    else { s.pruned with
      workers := s.receivers.map (Worker.mk true) ++
        if stopping then [] else [⟨false, .starting⟩] } := by
  have hreceivers := s.receivers_enable stopping
  unfold enable at hreceivers ⊢
  split
  · rfl
  · next hstarted =>
    rw [if_neg hstarted] at hreceivers
    have hrunner : ({ s with
        workers := s.workers ++ [{ cancelled := stopping }]
        current := some s.workers.length } : Subscription).runner? =
          if stopping then none else some ⟨false, .starting⟩ := by
      cases stopping <;> simp [runner?, Option.filter]
    unfold pruned
    rw [hreceivers, hrunner]
    cases stopping <;> rfl

/-- When the running worker is told to end, only those are left that have the receiving end. -/
theorem pruned_of_stopped (h : s' = { s with workers := s'.workers, current := s'.current })
    (hphases : s'.workers.map (·.phase) = s.workers.map (·.phase)) (hrunner : s'.runner? = none) :
    s'.pruned = { s.pruned with workers := s.receivers.map (Worker.mk true) } := by
  have hreceivers := receivers_of_phases hphases
  obtain ⟨workers, current, rfl⟩ : ∃ workers current,
    s' = { s with workers := workers, current := current } := ⟨_, _, h⟩
  unfold pruned
  rw [hreceivers, hrunner]
  simp

theorem pruned_disable (s : Subscription) : s.disable.2.pruned =
    { s.pruned with workers := s.receivers.map (Worker.mk true) } := by
  unfold disable
  cases hcurrent : s.current with
  | none => exact pruned_of_stopped rfl rfl (by simp [runner?, hcurrent])
  | some i => exact pruned_of_stopped rfl (Record.phases_modify_cancelled s i) rfl

/-- Nothing but a spent worker is left of one that was started and is stopped again. -/
theorem pruned_disable_enable (h : s.isStarted = false) (stopping : Bool) :
    (s.enable stopping).2.disable.2.pruned = s.pruned := by
  have hrunner : s.runner? = none := by
    rw [isStarted_eq_isSome] at h
    simpa using h
  rw [pruned_disable, pruned_enable, receivers_enable, if_neg (by simp [h])]
  unfold pruned
  rw [hrunner]
  simp

theorem pruned_cancelWorkers (s : Subscription) : s.cancelWorkers.pruned =
    { s.pruned with workers := s.receivers.map (Worker.mk true) } := by
  refine pruned_of_stopped rfl (by simp [cancelWorkers, Function.comp_def]) ?_
  refine Option.eq_none_iff_forall_ne_some.2 fun w hrunner => ?_
  obtain ⟨i, -, hw, hc⟩ := runner?_eq_some_iff.1 hrunner
  obtain ⟨w', -, rfl⟩ := List.mem_map.1 (List.mem_of_getElem? hw)
  cases hc

/-! ## Workers go on -/

theorem runner?_setPhase (s : Subscription) (i : Nat) (p : Worker.Phase) :
    (s.setPhase i p).runner? =
      if s.current = some i then s.runner?.map fun w => { w with phase := p } else s.runner? := by
  unfold runner? setPhase modifyWorker
  cases hcurrent : s.current with
  | none => simp
  | some k =>
    simp only [Option.bind_some, List.getElem?_modify, Option.some.injEq, eq_comm (a := k)]
    cases hw : s.workers[k]? with
    | none => simp
    | some w =>
      by_cases hik : i = k <;> cases hc : w.cancelled <;> simp [Option.filter, hik, hc]

/-- What a spent worker is at does not show unless it gets hold of the receiving end. -/
theorem pruned_setPhase_of_spent (hw : s.workers[i]? = some w) (hspent : w.isSpent = true)
    {p : Worker.Phase} (hp : (Worker.mk true p).hasReceiver = false) :
    (s.setPhase i p).pruned = s.pruned := by
  obtain ⟨hcancelled, hreceiver⟩ : w.cancelled = true ∧ w.hasReceiver = false := by
    simpa [Worker.isSpent] using hspent
  refine Eq.symm (pruned_congr rfl ?_ ?_)
  · refine congrArg (List.map _) (Eq.symm (filter_modify_of_not fun w' hw' => ?_))
    rw [hw] at hw'
    obtain rfl := Option.some.inj hw'
    exact ⟨hreceiver, hp⟩
  · rw [runner?_setPhase]
    split
    · next hcurrent =>
      have hnone : s.runner? = none := by
        simp [runner?, hcurrent, hw, Option.filter, hcancelled]
      rw [hnone]
      rfl
    · rfl

/-- The worker with a number has the receiving end, and nobody else has it. -/
def ReceivesAt (s : Subscription) (i : Nat) : Prop :=
  s.OneReceiver ∧ ∃ w, s.workers[i]? = some w ∧ w.hasReceiver = true

theorem ReceivesAt.unique (h : s.ReceivesAt i) {j : Nat} (hw : s.workers[j]? = some w)
    (hr : w.hasReceiver = true) : j = i := by
  obtain ⟨hone, w', hw', hr'⟩ := h
  exact hone j i _ _ (phase?_eq_some_iff.2 ⟨w, hw, rfl⟩) (phase?_eq_some_iff.2 ⟨w', hw', rfl⟩)
    (w.hasReceiver_iff.1 hr) (w'.hasReceiver_iff.1 hr')

/-- The worker that has the receiving end goes to a phase. -/
theorem setPhase_of_receivesAt (h : s.ReceivesAt i) (p : Worker.Phase) :
    (s.setPhase i p).receivers = [p].filter (fun p => (Worker.mk true p).hasReceiver) ∧
      (s.setPhase i p).runner? =
        s.runner?.map fun w => if w.hasReceiver then { w with phase := p } else w := by
  obtain ⟨hone, w, hw, hr⟩ := h
  constructor
  · have hfilter := filter_modify_of_unique (p := Worker.hasReceiver)
      (f := fun w => { w with phase := p }) hw fun j w' hw' hr' =>
        ReceivesAt.unique ⟨hone, w, hw, hr⟩ hw' hr'
    refine (congrArg (List.map (·.phase)) hfilter).trans ?_
    cases p <;> rfl
  · rw [runner?_setPhase]
    cases hrunner : s.runner? with
    | none => split <;> rfl
    | some w' =>
      obtain ⟨k, hcurrent, hw', -⟩ := runner?_eq_some_iff.1 hrunner
      cases hr' : w'.hasReceiver with
      | true =>
        obtain rfl := ReceivesAt.unique ⟨hone, w, hw, hr⟩ hw' hr'
        rw [if_pos hcurrent, Option.map_some, Option.map_some, if_pos hr']
      | false =>
        have hne : s.current ≠ some i := by
          intro heq
          rw [heq] at hcurrent
          obtain rfl := Option.some.inj hcurrent
          rw [hw] at hw'
          obtain rfl := Option.some.inj hw'
          rw [hr] at hr'
          cases hr'
        rw [if_neg hne, Option.map_some, hr']
        rfl

variable {i' : Nat} {w' : Worker}

theorem pruned_setPhase_of_receivesAt (h : s.pruned = s'.pruned) (hi : s.ReceivesAt i)
    (hi' : s'.ReceivesAt i') (p : Worker.Phase) :
    (s.setPhase i p).pruned = (s'.setPhase i' p).pruned := by
  obtain ⟨hreceivers, hrunner⟩ := setPhase_of_receivesAt hi p
  obtain ⟨hreceivers', hrunner'⟩ := setPhase_of_receivesAt hi' p
  refine pruned_congr ?_ (hreceivers.trans hreceivers'.symm) ?_
  · obtain ⟨workers, current, rfl⟩ := exists_of_pruned_eq h
    rfl
  · rw [hrunner, hrunner', runner?_eq h]

theorem pruned_exited (h : s.pruned = s'.pruned) (hi : s.ReceivesAt i) (hi' : s'.ReceivesAt i') :
    (s.exited i).pruned = (s'.exited i').pruned := by
  have hphase := pruned_setPhase_of_receivesAt h hi hi' .finished
  have hvalid : s'.valid = s.valid := by rw [eq_of_pruned_eq h]
  have hqueue : s'.queue = s.queue := by rw [eq_of_pruned_eq h]
  simp only [exited]
  show (if s.valid then _ else _ : Subscription).pruned =
    (if s'.valid then _ else _ : Subscription).pruned
  rw [hvalid]
  split
  · exact hphase
  · show ({ s.setPhase i .finished with queue := s.queue.close } : Subscription).pruned =
      ({ s'.setPhase i' .finished with queue := s'.queue.close } : Subscription).pruned
    rw [hqueue]
    exact congrArg (fun s₁ : Subscription => { s₁ with queue := s.queue.close }) hphase

/-! ## Workers that are not spent -/

theorem runner?_of_running (hd : s.Disciplined) (hw : s.workers[i]? = some w)
    (hc : w.cancelled = false) : s.runner? = some w :=
  runner?_eq_some_iff.2 ⟨i, hd i w hw hc, hw, hc⟩

theorem mem_receivers {p : Worker.Phase} : p ∈ s.receivers ↔
    ∃ (i : Nat) (w : Worker), s.workers[i]? = some w ∧ w.hasReceiver = true ∧ w.phase = p := by
  rw [receivers, List.mem_map]
  constructor
  · rintro ⟨w, hw, hp⟩
    obtain ⟨hmem, hr⟩ := List.mem_filter.1 hw
    obtain ⟨i, hi⟩ := List.getElem?_of_mem hmem
    exact ⟨i, w, hi, hr, hp⟩
  · rintro ⟨i, w, hw, hr, hp⟩
    exact ⟨w, List.mem_filter.2 ⟨List.mem_of_getElem? hw, hr⟩, hp⟩

theorem hasReceiver_of_live (hlive : w.isSpent = false) (hc : w.cancelled = true) :
    w.hasReceiver = true := by
  simpa [Worker.isSpent, hc] using hlive

/-- A worker that is not spent is found where the same is left. -/
theorem exists_live (h : s.pruned = s'.pruned) (hone : s.OneReceiver) (hd' : s'.Disciplined)
    (hd : s.Disciplined) (hw : s.workers[i]? = some w) (hlive : w.isSpent = false) :
    ∃ i' : Nat, s'.workers[i']? = some w := by
  cases hc : w.cancelled with
  | false =>
    have hrunner := runner?_of_running hd hw hc
    rw [runner?_eq h] at hrunner
    obtain ⟨i', -, hw', -⟩ := runner?_eq_some_iff.1 hrunner
    exact ⟨i', hw'⟩
  | true =>
    have hr := hasReceiver_of_live hlive hc
    have hmem : w.phase ∈ s.receivers := mem_receivers.2 ⟨i, w, hw, hr, rfl⟩
    rw [receivers_eq h] at hmem
    obtain ⟨i', w', hw', hr', hp⟩ := mem_receivers.1 hmem
    have hc' : w'.cancelled = true := by
      rw [← Bool.not_eq_false]
      intro hrunning
      -- it would run here too, and have the receiving end
      have hrunner := runner?_of_running hd' hw' hrunning
      rw [← runner?_eq h] at hrunner
      obtain ⟨k, -, hk, -⟩ := runner?_eq_some_iff.1 hrunner
      obtain rfl := ReceivesAt.unique ⟨hone, w, hw, hr⟩ hk hr'
      rw [hw] at hk
      obtain rfl := Option.some.inj hk
      rw [hc] at hrunning
      cases hrunning
    obtain ⟨cancelled, phase⟩ := w
    obtain ⟨cancelled', phase'⟩ := w'
    obtain rfl : phase' = phase := hp
    obtain rfl : cancelled = true := hc
    obtain rfl : cancelled' = true := hc'
    exact ⟨i', hw'⟩

/-- Of the workers that are not spent, at most one was told to end and at most one was not. -/
theorem eq_of_live (h : s.pruned = s'.pruned) (hone : s.OneReceiver) (hd : s.Disciplined)
    (hd' : s'.Disciplined) (hw : s.workers[i]? = some w) (hlive : w.isSpent = false)
    (hw' : s'.workers[i']? = some w') (hlive' : w'.isSpent = false)
    (hsame : w'.cancelled = w.cancelled) : w' = w := by
  cases hc : w.cancelled with
  | false =>
    have hrunner := runner?_of_running hd hw hc
    have hrunner' := runner?_of_running hd' hw' (hsame.trans hc)
    rw [runner?_eq h, hrunner'] at hrunner
    exact Option.some.inj hrunner
  | true =>
    have hr := hasReceiver_of_live hlive hc
    have hr' := hasReceiver_of_live hlive' (hsame.trans hc)
    have hmem : w'.phase ∈ s'.receivers := mem_receivers.2 ⟨i', w', hw', hr', rfl⟩
    rw [← receivers_eq h] at hmem
    obtain ⟨k, w₁, hk, hr₁, hp⟩ := mem_receivers.1 hmem
    obtain rfl := ReceivesAt.unique ⟨hone, w, hw, hr⟩ hk hr₁
    rw [hw] at hk
    obtain rfl := Option.some.inj hk
    obtain ⟨cancelled, phase⟩ := w
    obtain ⟨cancelled', phase'⟩ := w'
    obtain rfl : cancelled' = cancelled := hsame
    obtain rfl : phase = phase' := hp
    rfl

theorem receiverIsFree_eq (hd : s.Disciplined) (hw : s.workers[i]? = some w)
    (hc : w.cancelled = false) : s.receiverIsFree i = s.receivers.isEmpty := by
  cases hany : s.workers.any Worker.hasReceiver with
  | true =>
    have hne : s.receivers ≠ [] := by
      obtain ⟨w', hw', hr⟩ := List.any_eq_true.1 hany
      obtain ⟨k, hk⟩ := List.getElem?_of_mem hw'
      exact List.ne_nil_of_mem (mem_receivers.2 ⟨k, w', hk, hr, rfl⟩)
    simp [receiverIsFree, hany, hne]
  | false =>
    have hnone : s.receivers = [] := by
      rw [receivers, List.map_eq_nil_iff, List.filter_eq_nil_iff]
      exact fun w hw => by simpa using List.any_eq_false.1 hany w hw
    rw [receiverIsFree_of_disciplined hw hc hd hany, hnone]
    rfl

/-- The same worker can go on where the same is left, and goes on to the same. -/
theorem isReady_eq (h : s.pruned = s'.pruned) (hd : s.Disciplined) (hd' : s'.Disciplined)
    (hw : s.workers[i]? = some w) (hw' : s'.workers[i']? = some w) (hlive : w.isSpent = false)
    (now : Instant) : s.isReady i now = s'.isReady i' now := by
  have hqueue : s'.queue = s.queue := by rw [eq_of_pruned_eq h]
  simp only [isReady, hw, hw', hqueue]
  cases hphase : w.phase with
  | waiting =>
    have hc : w.cancelled = false := by
      simpa [Worker.isSpent, Worker.hasReceiver, hphase] using hlive
    simp only [hc, Bool.false_or, receiverIsFree_eq hd hw hc, receiverIsFree_eq hd' hw' hc,
      receivers_eq h]
  | starting | receiving | handling | finished => rfl

theorem lineUp_eq (h : s.pruned = s'.pruned) (hd : s.Disciplined) (hd' : s'.Disciplined)
    (hw : s.workers[i]? = some w) (hw' : s'.workers[i']? = some w) (hc : w.cancelled = false) :
    s.lineUp i w = s'.lineUp i' w := by
  simp only [lineUp, receiverIsFree_eq hd hw hc, receiverIsFree_eq hd' hw' hc, receivers_eq h]

/-- The running worker gets hold of the receiving end, or waits for it. -/
theorem setPhase_of_runner (hd : s.Disciplined) (hw : s.workers[i]? = some w)
    (hc : w.cancelled = false) (hr : w.hasReceiver = false) :
    (s.setPhase i (s.lineUp i w)).receivers =
        (if s.receivers.isEmpty then [.receiving] else s.receivers) ∧
      (s.setPhase i (s.lineUp i w)).runner? = some { w with phase := s.lineUp i w } := by
  constructor
  · rw [lineUp, if_neg (by simp [hc]), receiverIsFree_eq hd hw hc]
    split
    · next hempty =>
      have hnone : ∀ j w', s.workers[j]? = some w' → w'.hasReceiver = true → j = i := by
        intro j w' hw' hr'
        have hmem := mem_receivers.2 ⟨j, w', hw', hr', rfl⟩
        rw [List.isEmpty_iff.1 hempty] at hmem
        cases hmem
      exact congrArg (List.map Worker.phase) (filter_modify_of_unique hw hnone)
    · have hkept : ∀ w', s.workers[i]? = some w' → w'.hasReceiver = false ∧
          ({ w' with phase := .waiting } : Worker).hasReceiver = false := by
        intro w' hw'
        rw [hw] at hw'
        obtain rfl := Option.some.inj hw'
        exact ⟨hr, rfl⟩
      exact congrArg (List.map Worker.phase) (filter_modify_of_not hkept)
  · rw [runner?_setPhase, if_pos (hd i w hw hc), runner?_of_running hd hw hc]
    rfl

theorem pruned_lineUp (h : s.pruned = s'.pruned) (hd : s.Disciplined) (hd' : s'.Disciplined)
    (hw : s.workers[i]? = some w) (hw' : s'.workers[i']? = some w) (hc : w.cancelled = false)
    (hr : w.hasReceiver = false) :
    (s.setPhase i (s.lineUp i w)).pruned = (s'.setPhase i' (s'.lineUp i' w)).pruned := by
  obtain ⟨hreceivers, hrunner⟩ := setPhase_of_runner hd hw hc hr
  obtain ⟨hreceivers', hrunner'⟩ := setPhase_of_runner hd' hw' hc hr
  refine pruned_congr ?_ ?_ ?_
  · obtain ⟨workers, current, rfl⟩ := exists_of_pruned_eq h
    rfl
  · rw [hreceivers, hreceivers', receivers_eq h]
  · rw [hrunner, hrunner', lineUp_eq h hd hd' hw hw' hc]

end Subscription

end PubSub
