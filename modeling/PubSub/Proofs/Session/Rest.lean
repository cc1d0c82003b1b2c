import PubSub.Proofs.Connection.Ceiling
import PubSub.Proofs.Connection.Rest
import PubSub.Proofs.Session.Reach

/-!
# Sessions at rest

The executor never loses sight of a task: every task that can go on has its turn coming, or has
yielded it (`Executor.Attentive`). So when it has nobody left to let go on, as at the end of every
settling that comes to an end, no task can go on at all. Subscriptions that are valid and started and
have no handler at work have then nothing queued.

## Main definitions

- `Executor.Attentive` — every task that can go on has its turn coming

## Main results

- `Session.attentive_run` — the executor of every session is attentive
- `Session.none_stranded` — nothing is left in the queue of a subscription that is looked after
-/

namespace PubSub

theorem Node.mem_tasks_of_isReady {n : Node} {task : Task} (h : n.isReady task = true) :
    task ∈ n.tasks := by
  cases task with
  | sweeper => exact List.mem_cons_self
  | router => exact List.mem_cons_of_mem _ List.mem_cons_self
  | worker sid i =>
    refine List.mem_cons_of_mem _ (List.mem_cons_of_mem _ (List.mem_flatMap.2 ?_))
    unfold Node.isReady at h
    dsimp only at h
    split at h
    · next s hs =>
      have hsid := Connection.sid_of_subscription? hs
      have hlt : i < s.workers.length := by
        by_contra hge
        have hnone := List.getElem?_eq_none (Nat.le_of_not_lt hge)
        simp [Subscription.isReady, hnone] at h
      refine ⟨s, List.mem_of_find?_eq_some hs, List.mem_map.2 ⟨i, List.mem_range.2 hlt, ?_⟩⟩
      rw [hsid]
    · cases h

namespace Executor

/-- Every task that can go on has its turn coming. -/
def Attentive (x : Executor) : Prop :=
  ∀ ref, x.isReady ref = true → ref ∈ x.ready ∨ ref ∈ x.yielded

variable {x x' : Executor}

theorem mem_tasks_of_isReady {ref : TaskRef} (h : x.isReady ref = true) : ref ∈ x.tasks := by
  unfold isReady at h
  split at h
  · next n hn =>
    refine List.mem_flatMap.2 ⟨ref.node, List.mem_range.2 ?_, ?_⟩
    · exact (List.getElem?_eq_some_iff.1 hn).1
    · rw [hn]
      exact List.mem_map_of_mem (f := TaskRef.mk ref.node) (Node.mem_tasks_of_isReady h)
  · cases h

/-- Giving every task its place makes the executor attentive, whatever it was. -/
theorem attentive_collect (x : Executor) : x.collect.Attentive := by
  intro ref h
  have hready : x.isReady ref = true := h
  by_cases hin : ref ∈ x.ready ∨ ref ∈ x.yielded
  · exact hin.imp_left fun hmem => List.mem_append_left _ hmem
  · obtain ⟨hnotready, hnotyielded⟩ := not_or.1 hin
    refine Or.inl (List.mem_append_right _ (List.mem_filter.2 ⟨?_, ?_⟩))
    · -- it waited for time, or else it stands where the order of all tasks puts it
      by_cases hslept : x.sleepers.any (·.1 == ref) = true
      · obtain ⟨pair, hpair, heq⟩ := List.any_eq_true.1 hslept
        exact List.mem_append_left _ (List.mem_map.2 ⟨pair, hpair, eq_of_beq heq⟩)
      · rw [Bool.not_eq_true] at hslept
        refine List.mem_append_right _ (List.mem_filter.2 ⟨mem_tasks_of_isReady hready, ?_⟩)
        rw [hslept]
        rfl
    · simp [hready, hnotready, hnotyielded]

/-- When the executor has nobody to let go on, nobody's turn comes. -/
theorem turns_of_rest (hrest : x.step = none) : x.ready = [] ∧ x.yielded = [] := by
  unfold step at hrest
  split at hrest
  · split at hrest
    · cases hrest
    · split at hrest <;> cases hrest
  · next hready =>
    split at hrest
    · next hyielded => exact ⟨hready, hyielded⟩
    · cases hrest

/-- Nothing can go on when nobody's turn comes. -/
theorem Attentive.isReady_eq_false (h : x.Attentive) (hrest : x.step = none) (ref : TaskRef) :
    x.isReady ref = false := by
  obtain ⟨hready, hyielded⟩ := turns_of_rest hrest
  rw [← Bool.not_eq_true]
  intro href
  have hturn := h ref href
  rw [hready, hyielded] at hturn
  simp at hturn

theorem Attentive.setNode (h : x.Attentive) (i : Nat) (n : Node) : (x.setNode i n).Attentive := by
  unfold Executor.setNode
  split
  · exact h
  · exact attentive_collect _

/-- A turn that leads to nothing is used up by a task that cannot go on. -/
theorem Attentive.skip (h : x.Attentive) {ref : TaskRef} {rest : List TaskRef}
    (hturns : x.ready = ref :: rest) (hnot : x.isReady ref = false) :
    Attentive { x with ready := rest } := by
  intro other hother
  have hother' : x.isReady other = true := hother
  refine (h other hother').imp_left fun hmem => ?_
  rw [hturns] at hmem
  rcases List.mem_cons.1 hmem with rfl | hrest
  · rw [hnot] at hother'
    cases hother'
  · exact hrest

theorem Attentive.step (h : x.Attentive) (hstep : x.step = some x') : x'.Attentive := by
  unfold Executor.step at hstep
  split at hstep
  · next ref rest hturns =>
    split at hstep
    · next hn =>
      obtain rfl := Option.some.inj hstep
      exact h.skip hturns (by simp [isReady, hn])
    · next n hn =>
      split at hstep
      · obtain rfl := Option.some.inj hstep
        -- where the task lines up does not matter, since every task is looked at again
        have hset : ∀ y : Executor, y.node? ref.node = some n → (y.setNode ref.node
            (n.stepTask ref.task).2).Attentive := by
          intro y hy
          simp only [Executor.setNode, hy]
          exact attentive_collect _
        refine hset _ ?_
        split <;> exact hn
      · next hnot =>
        obtain rfl := Option.some.inj hstep
        exact h.skip hturns (by simpa [isReady, hn] using hnot)
  · next hturns =>
    split at hstep
    · cases hstep
    · obtain rfl := Option.some.inj hstep
      intro ref href
      have hturn := h ref href
      rw [hturns] at hturn
      exact Or.inl (hturn.resolve_left (List.not_mem_nil))

theorem Attentive.change (h : x.Attentive) (hchange : x.Change x') : x'.Attentive := by
  cases hchange with
  | setNode => exact h.setNode _ _
  | addNode | setClock => exact attentive_collect _
  | step hstep => exact h.step hstep
  | aside nodes halike =>
    intro ref href
    refine h ref ?_
    unfold isReady at href ⊢
    split at href
    · next n' hn' =>
      obtain ⟨n, hn, -, hready⟩ := halike ref.node n' hn'
      rw [hn]
      exact (hready ref.task).symm.trans href
    · cases href

theorem Attentive.changes (h : x.Attentive) (hchanges : x.Changes x') : x'.Attentive := by
  induction hchanges with
  | refl => exact h
  | tail _ hstep ih => exact ih.change hstep

/-- Nothing is left in the queue of a subscription that is looked after, when nobody can go on. -/
theorem queue_eq_nil (hx : x.Attentive) (hreachable : x.Reachable) (hrest : x.step = none)
    {node : Nat} {n : Node} (hn : x.node? node = some n) {sid : Sid} {s : Subscription}
    (hs : n.connection.subscription? sid = some s) (hvalid : s.valid = true)
    (hstarted : s.isStarted = true) (hidle : s.isHandling = false) :
    s.queue.entries = [] ∧ s.queue.pending = 0 := by
  have hworkers : ∀ i, s.isReady i n.connection.clock = false := by
    intro i
    have hnot := hx.isReady_eq_false hrest ⟨node, .worker sid i⟩
    simpa [isReady, hn, Node.isReady, hs] using hnot
  obtain ⟨o, id, clock, handle, moves, heq⟩ := hreachable node n hn
  rw [heq] at hs
  exact Connection.nothing_queued_runOver Connection.sends_transport Connection.drifts_transport
    o id clock handle moves hs hworkers hvalid hstarted hidle

end Executor

namespace Session

/-- The executor of every session is attentive. -/
theorem attentive_run (manual : Bool) (steps : List Step) :
    (Session.after manual steps).executor.Attentive :=
  invariant_run (fun ref href => by simp [Executor.isReady, Executor.node?] at href)
    (fun hchanges hx => hx.changes hchanges) manual steps

/-- Along every run of a connection, whatever its transport does to frames and whichever of them are
barred: at most one worker of a subscription was not told to end, the subscription is started exactly
when there is one, and if its workers are started as such only while it is valid, it is not started
once it is invalid; when none of its workers can go on, it is valid and started and no handler is at
work, then nothing is queued. In every session, when a settling has come to an end, every
subscription that is valid and started and has no handler at work has nothing queued. -/
theorem none_stranded :
    (∀ (gate : Gate) (o : Opening) (id : Nat) (clock : Instant) (handle : Nat)
        (moves : List Connection.Move) (sid : Sid) (s : Subscription),
      let t := Connection.gated gate
      let c := (o.connect id clock handle).runOver t moves
      c.subscription? sid = some s →
        (∀ (i j : Nat) (w w' : Worker), s.workers[i]? = some w → s.workers[j]? = some w' →
          w.cancelled = false → w'.cancelled = false → i = j) ∧
        (s.isStarted = true ↔ ∃ w ∈ s.workers, w.cancelled = false) ∧
        ((o.connect id clock handle).enablesValidOver t sid moves = true → s.valid = false →
          s.isStarted = false) ∧
        ((∀ i, s.isReady i c.clock = false) → s.valid = true → s.isStarted = true →
          s.isHandling = false → s.queue.entries = [] ∧ s.queue.pending = 0)) ∧
    ∀ (manual : Bool) (steps : List Step) (node : Nat) (n : Node) (sid : Sid) (s : Subscription),
      let x := (Session.after manual steps).executor.settle
      x.step = none → x.node? node = some n → n.connection.subscription? sid = some s →
        s.valid = true → s.isStarted = true → s.isHandling = false →
        s.queue.entries = [] ∧ s.queue.pending = 0 := by
  constructor
  · intro gate o id clock handle moves sid s t c hs
    have ht := Connection.drifts_gated gate
    have hrecord := Connection.record?_of_subscription? hs
    have hsound : c.Sound fun _ => False :=
      (Connection.sound_connect o id clock handle).runOver ht moves fun _ hf => hf.elim
    have hdisciplined := (hsound.record sid _ hrecord).orderly.disciplined
    refine ⟨fun i j w w' hw hw' hc hc' => ?_, Subscription.isStarted_iff hdisciplined,
      fun henables hinvalid => ?_, fun hrest hvalid hstarted hidle => ?_⟩
    · exact Option.some.inj ((hdisciplined i w hw hc).symm.trans (hdisciplined j w' hw' hc'))
    · have hstrict : c.Sound (· = sid) :=
        (Connection.sound_connect o id clock handle).runOver ht moves fun _ heq => heq ▸ henables
      have hstopped : s.Stopped := ((hstrict.record sid _ hrecord).settled rfl).quiet hinvalid
      exact hstopped.isStarted
    · exact Connection.nothing_queued_runOver (Connection.sends_gated gate) ht o id clock handle moves
        hs hrest hvalid hstarted hidle
  · intro manual steps node n sid s x hrest hn hs hvalid hstarted hidle
    have hchanges := (Session.after manual steps).executor.changes_settle
    exact Executor.queue_eq_nil ((attentive_run manual steps).changes hchanges)
      ((reachable_run manual steps).changes hchanges) hrest hn hs hvalid hstarted hidle

/-- The theorem applies to a session in which a worker is stopped and another started while a handler
is at work: the new worker waits for the receiving end, and takes the messages that are left when the
handler is done. -/
theorem none_stranded_restart :
    let handler := Handler.mk "" [] [.sleep (Duration.ofSecs 5)]
    let steps : List Step := [.connect { token := "" },
      .onConnection 0 (.subscribe { subject := "a", handler := some handler } none true),
      .onSubscription 0 (.deliver { subject := "a" }), .settle, .onSubscription 0 .disable,
      .onSubscription 0 .enable, .onSubscription 0 (.deliver { subject := "b" }),
      .onSubscription 0 (.deliver { subject := "c" }), .settle, .advance (Duration.ofSecs 20)]
    let x := (Session.after false steps).executor.settle
    ∃ n ∈ x.nodes, ∃ s ∈ n.connection.subscriptions,
      s.delivered = 3 ∧ s.isStarted = true ∧ s.queue.pending = 0 := by
  intro handler steps x
  have hrest : x.step.isNone = true := by decide +kernel
  have hsome : (x.nodes[0]?.any fun n => (n.connection.subscription? 1).any fun s =>
      s.delivered == 3 && s.valid && s.isStarted && !s.isHandling) = true := by decide +kernel
  obtain ⟨n, hn, hsub⟩ := (Option.any_eq_true _ _).1 hsome
  obtain ⟨s, hs, hprops⟩ := (Option.any_eq_true _ _).1 hsub
  simp only [Bool.and_eq_true, beq_iff_eq, Bool.not_eq_true'] at hprops
  obtain ⟨⟨⟨hdelivered, hvalid⟩, hstarted⟩, hidle⟩ := hprops
  have h := none_stranded.2 false steps 0 n 1 s (Option.isNone_iff_eq_none.1 hrest) hn hs hvalid
    hstarted hidle
  exact ⟨n, List.mem_of_getElem? hn, s, List.mem_of_find?_eq_some hs, hdelivered, hstarted, h.2⟩

end Session

end PubSub
