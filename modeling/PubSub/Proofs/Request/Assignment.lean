import PubSub.Proofs.Registry.Coherence
import PubSub.Request.Exchange

/-!
# Single assignment

A request has three copies of its outcome: the state cell that is assigned, the slot through which
the outcome travels, and what the caller keeps of it. They are filled one after the other and never
disagree (`Request.Stage`), whichever way the caller looks and however often. So the first outcome
that is offered is what everybody sees from then on, and the caller never finds the slot emptied
before it has the outcome.
-/

namespace PubSub

namespace Request

/-- How far the first outcome offered to a request has come. -/
inductive Stage (r : Request) : Option Outcome → Prop where
  /-- Nothing was offered. -/
  | pending (hstate : r.state = none) (hslot : r.slot = .vacant) (hreceived : r.received = none) :
    Stage r none
  /-- The outcome is on its way to the caller. -/
  | assigned {o : Outcome} (hstate : r.state = some o.resolution) (hslot : r.slot = .filled o)
    (hreceived : r.received = none) : Stage r (some o)
  /-- The caller has it. -/
  | received {o : Outcome} (hstate : r.state = some o.resolution) (hslot : r.slot = .emptied)
    (hreceived : r.received = some o) : Stage r (some o)

variable {r : Request} {first : Option Outcome}

theorem Stage.state (h : r.Stage first) : r.state = first.map Outcome.resolution := by
  cases h with
  | pending hstate => exact hstate
  | assigned hstate | received hstate => exact hstate

/-- An attempt succeeds if and only if it is the first one. -/
theorem Stage.resolve (h : r.Stage first) (o : Outcome) :
    (r.resolve o).1 = first.isNone ∧ (r.resolve o).2.Stage (first.or (some o)) ∧
      (r.resolve o).2.options = r.options := by
  cases h with
  | pending hstate hslot hreceived =>
    rw [resolve_of_pending hstate]
    exact ⟨rfl, .assigned rfl rfl hreceived, rfl⟩
  | @assigned o' hstate hslot hreceived =>
    have heq : r.resolve o = (false, r) := by simp only [Request.resolve, hstate]
    rw [heq]
    exact ⟨rfl, .assigned hstate hslot hreceived, rfl⟩
  | @received o' hstate hslot hreceived =>
    have heq : r.resolve o = (false, r) := by simp only [Request.resolve, hstate]
    rw [heq]
    exact ⟨rfl, .received hstate hslot hreceived, rfl⟩

/-- A look tells the settlement of the first outcome, and moves that outcome on at most. -/
theorem Stage.tryResult (h : r.Stage first) :
    r.tryResult.1 = first.map r.options.settle ∧ r.tryResult.2.Stage first ∧
      r.tryResult.2.options = r.options := by
  cases h with
  | pending hstate hslot hreceived =>
    have heq : r.tryResult = (none, r) := by simp only [Request.tryResult, hreceived, hslot]
    rw [heq]
    exact ⟨rfl, .pending hstate hslot hreceived, rfl⟩
  | @assigned o hstate hslot hreceived =>
    have heq : r.tryResult =
        (some (r.options.settle o), { r with slot := .emptied, received := some o }) := by
      simp only [Request.tryResult, hreceived, hslot]
    rw [heq]
    exact ⟨rfl, .received hstate rfl rfl, rfl⟩
  | @received o hstate hslot hreceived =>
    have heq : r.tryResult = (some (r.options.settle o), r) := by
      simp only [Request.tryResult, hreceived]
    rw [heq]
    exact ⟨rfl, .received hstate hslot hreceived, rfl⟩

/-- Waiting and not waiting for a request come to the same: each takes the outcome out of the slot
if nobody did before, and keeps it. -/
theorem poll_eq_tryResult (r : Request) : r.poll = r.tryResult := by
  unfold Request.poll Request.tryResult Slot.receive keep
  cases r.received with
  | some o => rfl
  | none =>
    cases hslot : r.slot with
    | vacant | filled => rfl
    | emptied => simp only [← hslot]

/-- The flags tell how the first attempt went; being told that nobody listens raises none of the last
three. -/
theorem Stage.flags (h : r.Stage first) :
    (r.flags.done = true ↔ first.isSome = true) ∧
      (r.flags.fulfilled = true ↔ ∃ m, first = some (.fulfilled m)) ∧
      (r.flags.closing = true ↔ first = some (.cancelled .closing)) ∧
      (r.flags.timedOut = true ↔ first = some (.cancelled .timedOut)) := by
  unfold Request.flags isDone
  rw [h.state]
  rcases first with _ | (m | (_ | _ | _)) <;> simp [Outcome.resolution, CancelReason.resolution]

/-- A caller that has nothing yet does not find the slot emptied. -/
theorem Stage.slot_ne_emptied (h : r.Stage first) (hnone : r.received = none) :
    r.slot ≠ .emptied := by
  cases h with
  | pending _ hslot _ | assigned _ hslot _ =>
    rw [hslot]
    simp
  | received _ _ hreceived =>
    rw [hnone] at hreceived
    cases hreceived

end Request

namespace Exchange

variable {x : Exchange} {first : Option Outcome}

/-- What is done to a request moves the first outcome on, or offers it. -/
theorem stage_perform (h : x.request.Stage first) (op : Op) :
    (x.perform op).2.request.Stage (first.or (attempts [op]).head?) ∧
      (x.perform op).2.request.options = x.request.options := by
  have hcaller : ∀ f : Request → Answer × Request,
      ((f x.request).2.Stage first ∧ (f x.request).2.options = x.request.options) →
      (x.byCaller f).2.request.Stage first ∧
        (x.byCaller f).2.request.options = x.request.options := by
    intro f hf
    unfold byCaller
    split
    · exact hf
    · exact ⟨h, rfl⟩
  cases op with
  | attempt o => exact (h.resolve o).2
  | tryResult =>
    rw [show attempts [.tryResult] = [] from rfl, List.head?_nil, Option.or_none]
    exact hcaller _ h.tryResult.2
  | poll =>
    rw [show attempts [.poll] = [] from rfl, List.head?_nil, Option.or_none]
    refine hcaller _ ?_
    rw [Request.poll_eq_tryResult]
    exact h.tryResult.2
  | flags =>
    rw [show attempts [.flags] = [] from rfl, List.head?_nil, Option.or_none]
    exact hcaller _ ⟨h, rfl⟩
  | letGo =>
    rw [show attempts [.letGo] = [] from rfl, List.head?_nil, Option.or_none]
    exact ⟨h, rfl⟩

theorem attempts_cons (op : Op) (ops : List Op) :
    attempts (op :: ops) = attempts [op] ++ attempts ops := by
  unfold attempts
  rw [← List.filterMap_append]
  rfl

theorem stage_run (h : x.request.Stage first) (ops : List Op) :
    (x.run ops).request.Stage (first.or (attempts ops).head?) ∧
      (x.run ops).request.options = x.request.options := by
  induction ops generalizing x first with
  | nil =>
    rw [show attempts [] = [] from rfl, List.head?_nil, Option.or_none]
    exact ⟨h, rfl⟩
  | cons op ops ih =>
    obtain ⟨hstage, hoptions⟩ := stage_perform h op
    obtain ⟨hstage', hoptions'⟩ := ih hstage
    rw [attempts_cons, List.head?_append, ← Option.or_assoc]
    exact ⟨hstage', hoptions'.trans hoptions⟩

theorem stage_start (key : String) (options : RequestOptions) (defaultTimeout : Duration)
    (now : Instant) : (start key options defaultTimeout now).request.Stage none :=
  .pending rfl rfl rfl

theorem held_run (ops : List Op) : (x.run ops).held = true ↔ x.held = true ∧ .letGo ∉ ops := by
  induction ops generalizing x with
  | nil => simp
  | cons op ops ih =>
    have hkeep : ∀ f : Request → Answer × Request, (x.byCaller f).2.held = x.held := by
      intro f
      unfold byCaller
      split <;> rfl
    rw [run_cons, ih, List.mem_cons, not_or, ← and_assoc]
    refine and_congr_left fun _ => ?_
    cases op with
    | attempt o => simp [perform]
    | tryResult | poll | flags => simp [perform, hkeep]
    | letGo => simp [perform]

/-- After any sequence of attempts to resolve a request, looks by its caller, waits, questions and
letting go, with `first` the first outcome that was offered: a further attempt succeeds if and only
if there was none; while the caller holds the request, both a look and a wait answer nothing before
the first attempt, and ever after it the settlement of that outcome; the flags tell how the first
attempt went, to the caller as well; and the slot is never found emptied by a caller who has nothing
yet, so the answer that is kept for that case is never given. -/
theorem settled_by_first_attempt (key : String) (options : RequestOptions)
    (defaultTimeout : Duration) (now : Instant) (ops : List Op) :
    let x := (start key options defaultTimeout now).run ops
    let first := (attempts ops).head?
    (∀ o, (x.perform (.attempt o)).1 = .won first.isNone) ∧
    (.letGo ∉ ops →
      (x.perform .tryResult).1 = .result (first.map options.settle) ∧
      (x.perform .poll).1 = .result (first.map options.settle) ∧
      (x.perform .flags).1 = .flags x.request.flags) ∧
    (x.request.flags.done = true ↔ first.isSome = true) ∧
    (x.request.flags.fulfilled = true ↔ ∃ m, first = some (.fulfilled m)) ∧
    (x.request.flags.closing = true ↔ first = some (.cancelled .closing)) ∧
    (x.request.flags.timedOut = true ↔ first = some (.cancelled .timedOut)) ∧
    (x.request.received = none → x.request.slot ≠ .emptied) := by
  intro x first
  obtain ⟨hstage, hoptions⟩ := stage_run (stage_start key options defaultTimeout now) ops
  rw [Option.none_or] at hstage
  have hoptions' : x.request.options = options := hoptions
  refine ⟨fun o => ?_, fun hkept => ?_, hstage.flags.1, hstage.flags.2.1, hstage.flags.2.2.1,
    hstage.flags.2.2.2, hstage.slot_ne_emptied⟩
  · exact congrArg Answer.won (hstage.resolve o).1
  · have hheld : x.held = true := held_run ops |>.2 ⟨rfl, hkept⟩
    have hlook : x.request.tryResult.1 = first.map options.settle := by
      rw [← hoptions']
      exact hstage.tryResult.1
    refine ⟨?_, ?_, ?_⟩
    · simp only [perform, byCaller, hheld, if_true, hlook]
    · simp only [perform, byCaller, hheld, if_true, Request.poll_eq_tryResult, hlook]
    · simp only [perform, byCaller, hheld, if_true]

/-- The theorem applies to a request that is waited for before it times out and after the close of
its connection came too late. -/
theorem settled_by_first_attempt_late :
    let ops : List Op :=
      [.poll, .attempt (.cancelled .timedOut), .tryResult, .attempt (.cancelled .closing)]
    let x := (start "k" {} 5 0).run ops
    .letGo ∉ ops ∧ (x.perform .poll).1 = .result (some (.error .timedOut)) := by
  intro ops x
  have hkept : .letGo ∉ ops := by simp [ops]
  have h := settled_by_first_attempt "k" {} 5 0 ops
  exact ⟨hkept, (h.2.1 hkept).2.1⟩

end Exchange

end PubSub
