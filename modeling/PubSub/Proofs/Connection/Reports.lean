import Mathlib.Data.List.Forall2
import PubSub.Connection.Play
import PubSub.Proofs.Connection.Operation

/-!
# What is made known about failures

Each invocation that fails is counted once by its kind, and the failure hook, if there is one, is
called about it once. Nothing else counts failures or calls the hook: whatever is done without
permission to report failures leaves both alone (`Connection.Course.unreported`), and the end of an
invocation does it once for its failure (`Connection.reports_performOver`).

## Main definitions

- `DeliveryCounts.failures` — the count of failures of a kind
- `Connection.Reports` — between two states of a connection, some failures were made known

## Main results

- `Connection.reports_performOver` — whatever is done, the failure it ends in is made known
-/

namespace PubSub

/-- How many handler invocations failed in a given way. -/
def DeliveryCounts.failures (c : DeliveryCounts) : FailureKind → Nat
  | .error => c.errors
  | .panic => c.panics

@[simp] theorem DeliveryCounts.failures_failed (c : DeliveryCounts) (kind other : FailureKind) :
    (c.failed kind).failures other = c.failures other + if kind = other then 1 else 0 := by
  cases kind <;> cases other <;> rfl

/-- The failure in which an invocation is over, if it is and if it failed. -/
def Progress.failure? : Progress → Option Failure
  | .over failure => failure
  | _ => none

/-- Everything may be done but to report failures. -/
def Permit.unreporting : Permit := { Permit.all with reports := False }

namespace Connection

variable {c c' c'' : Connection} {t : Transport} {sid : Sid} {s : Subscription} {i : Nat}
variable {failures failures' : List (Sid × Failure)}

/-- From one state of a connection to another, some failures were made known: the hook was called
about each of them in their order, if there is a hook, and they were counted. -/
structure Reports (failures : List (Sid × Failure)) (c c' : Connection) : Prop where
  hook : c'.hook = .absent ↔ c.hook = .absent
  calls : ∃ calls, c'.hookCalls = c.hookCalls ++ calls ∧
    (c.hook ≠ .absent → List.Forall₂ Event.Tells failures calls) ∧ (c.hook = .absent → calls = [])
  counted : ∀ kind, c'.counts.failures kind =
    c.counts.failures kind + failures.countP fun failed => failed.2.kind = kind

theorem hookCalls_log (c : Connection) (e : Event) :
    (c.log e).hookCalls = c.hookCalls ++ if e.isHookCall then [e] else [] := by
  simp only [hookCalls, log, List.reverse_cons, List.filter_append]
  cases h : e.isHookCall <;> simp [h]

namespace Reports

/-- Nothing was made known. -/
theorem of_eq (hhook : c'.hook = .absent ↔ c.hook = .absent) (hj : c'.journal = c.journal)
    (hcounts : ∀ kind, c'.counts.failures kind = c.counts.failures kind) : Reports [] c c' where
  hook := hhook
  calls := ⟨[], by simp [hookCalls, hj], fun _ => .nil, fun _ => rfl⟩
  counted kind := by simp [hcounts kind]

theorem refl (c : Connection) : Reports [] c c := .of_eq .rfl rfl fun _ => rfl

theorem trans (h : Reports failures c c') (h' : Reports failures' c' c'') :
    Reports (failures ++ failures') c c'' where
  hook := h'.hook.trans h.hook
  calls := by
    obtain ⟨calls, heq, htold, huntold⟩ := h.calls
    obtain ⟨calls', heq', htold', huntold'⟩ := h'.calls
    refine ⟨calls ++ calls', by rw [heq', heq, List.append_assoc], fun hhook => ?_, fun hhook => ?_⟩
    · exact List.rel_append (htold hhook) (htold' fun habsent => hhook (h.hook.1 habsent))
    · rw [huntold hhook, huntold' (h.hook.2 hhook), List.append_nil]
  counted kind := by rw [h'.counted, h.counted, List.countP_append, Nat.add_assoc]

/-- An event that is no call of the hook. -/
theorem log (c : Connection) {e : Event} (h : e.isHookCall = false) : Reports [] c (c.log e) where
  hook := .rfl
  calls := ⟨[], by rw [hookCalls_log, h]; rfl, fun _ => .nil, fun _ => rfl⟩
  counted kind := by simp [Connection.log]

/-- Nothing was made known before or after. -/
theorem after (h : Reports failures c' c'') (hnone : Reports [] c c') : Reports failures c c'' :=
  hnone.trans h

theorem before (h : Reports failures c c') (hnone : Reports [] c' c'') : Reports failures c c'' := by
  simpa using h.trans hnone

end Reports

theorem reports_disable (c : Connection) (sid : Sid) : Reports [] c (c.disable sid).2 := by
  obtain ⟨f, -, -, heq⟩ := c.disable_eq sid
  rw [heq]
  exact .of_eq .rfl rfl fun _ => rfl

theorem reports_enable (c : Connection) (sid : Sid) : Reports [] c (c.enable sid).2 := by
  obtain ⟨f, -, -, heq⟩ := c.enable_eq sid
  rw [heq]
  exact .of_eq .rfl rfl fun _ => rfl

theorem reports_offered (c : Connection) (o : Outgoing) (verdict : Except TransportError Unit)
    (outbound : Outbound Outgoing) : Reports [] c (c.offered o verdict outbound) :=
  (Reports.log { c with outbound := outbound } rfl).after (.of_eq .rfl rfl fun _ => rfl)

/-- Without permission to report failures nothing is made known of any. -/
theorem Course.unreported {p : Permit} (hp : ¬p.reports) (h : c.Course p c') : Reports [] c c' := by
  induction h with
  | refl c => exact .refl c
  | trans _ _ ih ih' => exact ih.trans ih'
  | @log c e h =>
    refine .log c ?_
    cases e with
    | observed | hookFailed => exact absurd h hp
    | _ => rfl
  | @tell c e h =>
    have hcounted : Reports [] c { c with counts := c.counts.told e } := by
      refine .of_eq .rfl rfl fun kind => ?_
      cases e with
      | dropped _ _ reason => cases reason <;> cases kind <;> rfl
      | warned => exact absurd h hp
      | _ => cases kind <;> rfl
    refine hcounted.trans (.log _ ?_)
    cases e with
    | observed | hookFailed => exact h.elim
    | _ => rfl
  | refuse c _ _ _ _ m =>
    have hcounted : Reports [] c { c with counts := c.counts.dropped .queueClosed } :=
      .of_eq .rfl rfl fun kind => by cases kind <;> rfl
    exact hcounted.trans (.log _ rfl)
  | @register c s =>
    have hadded : Reports [] c { c with
        issuedSids := s.sid
        subscriptions := c.subscriptions ++ [s]
        table := c.table ++ [s.sid] } := .of_eq .rfl rfl fun _ => rfl
    exact hadded.trans (.log _ rfl)
  | send _ _ _ verdict outbound ih => exact ih.trans (reports_offered _ _ verdict outbound)
  | @withdraw c c' sid _ _ _ _ _ _ verdict outbound ih =>
    have hinvalidate : Reports [] c (c.invalidate sid) := .of_eq .rfl rfl fun _ => rfl
    exact hinvalidate.trans (ih.trans (reports_offered _ _ verdict outbound))
  | @start c c' sid s _ _ _ _ _ verdict outbound ih =>
    have hsent := (reports_enable c sid).trans (ih.trans (reports_offered c'
      { frame := .subscribe sid s.subject s.queueGroup } verdict outbound))
    cases verdict with
    | ok => exact hsent
    | error => exact hsent.trans (reports_disable _ sid)
  | @startDetached c sid => exact (reports_enable c sid).trans (reports_disable _ sid)
  | @close c c' _ _ _ ih =>
    have hmark : Reports [] c { c with closed := true, registry := c.registry.cancelAll.2 } :=
      .of_eq .rfl rfl fun _ => rfl
    have hstop : Reports [] c' c'.stopWorkers := .of_eq .rfl rfl fun _ => rfl
    exact hmark.trans (ih.trans hstop)
  | aside | consult | sweep | shift | limit | herald | enrol | forgo | detach =>
    exact .of_eq .rfl rfl fun _ => rfl

theorem suits_unreporting (c : Connection) : c.Suits .unreporting :=
  ⟨permits_all c, fun _ _ _ _ _ => trivial⟩

theorem unreported (h : c.Course .unreporting c') : Reports [] c c' := h.unreported fun hf => hf

/-! ## The end of an invocation -/

/-- The failure in which an invocation ends, if it does, is made known. -/
theorem reports_endInvocation (c : Connection) (s : Subscription) (failure : Option Failure) :
    Reports (failure.map (Prod.mk s.sid)).toList c (c.endInvocation s failure) := by
  have hended : Reports [] c (c.log (.ended s.sid failure)) := .log c rfl
  cases failure with
  | none => exact hended
  | some f =>
    let counted : Connection :=
      { (c.log (.ended s.sid (some f))).log (.warned s.sid s.subject f) with
        counts := c.counts.failed f.kind }
    have hcalls : counted.hookCalls = c.hookCalls := by
      show ((c.log (.ended s.sid (some f))).log (.warned s.sid s.subject f)).hookCalls = _
      rw [hookCalls_log, hookCalls_log]
      simp [Event.isHookCall]
    have hcounted (kind : FailureKind) : counted.counts.failures kind =
        c.counts.failures kind + List.countP (fun failed => failed.2.kind = kind) [(s.sid, f)] := by
      simp [counted, List.countP_singleton]
    -- what the hook is, if there is one
    have htold (e : Event) (hcall : e.isHookCall = true) (htells : Event.Tells (s.sid, f) e)
        (hhook : c.hook ≠ .absent) : Reports [(s.sid, f)] c (counted.log e) :=
      ⟨.rfl, ⟨[e], by rw [hookCalls_log, hcalls, hcall]; rfl, fun _ => .cons htells .nil,
        fun habsent => absurd habsent hhook⟩, hcounted⟩
    show Reports [(s.sid, f)] c ((c.log (.ended s.sid (some f))).reportFailure s f)
    unfold reportFailure
    dsimp only
    split
    · next habsent =>
      exact ⟨.rfl, ⟨[], by rw [List.append_nil]; exact hcalls, fun hhook => absurd habsent hhook,
        fun _ => rfl⟩, hcounted⟩
    · next hrecord =>
      exact htold _ rfl .observed fun habsent => by cases habsent.symm.trans hrecord
    · next hpanic =>
      exact htold _ rfl .hookFailed fun habsent => by cases habsent.symm.trans hpanic

/-- What is done after the end of an invocation makes nothing known. -/
theorem reports_finishInvocation (ht : t.Sends .unreporting) (hd : t.Drifts) (c : Connection)
    (s : Subscription) (i : Nat) (invocation : Invocation) (failure : Option Failure) :
    Reports (failure.map (Prod.mk s.sid)).toList c
      (c.finishInvocation t s i invocation failure) := by
  have hended := reports_endInvocation c s failure
  unfold finishInvocation
  dsimp only
  split
  · have hclose : (c.endInvocation s failure).Course .unreporting
        ((c.endInvocation s failure).closeSubscription t s.sid) :=
      course_closeSubscription ht hd (suits_unreporting _) trivial
    exact hended.before (unreported (hclose.trans (course_exitWorker _ s.sid i)))
  · exact hended.before (unreported (course_setPhase _ s.sid i (by simp)))

/-- An action ends an invocation in the failure that it amounts to. -/
theorem failure?_eq (t : Transport) (c : Connection) (sid : Sid) (d : Delivery) (action : Action)
    (rest : List Action) : c.failure? t d action = (c.act t sid d action rest).1.failure? := by
  have hrespond (payload : ByteArray) :
      c.unanswered? t d payload = (c.respondOrFail t d payload rest).1.failure? := by
    unfold unanswered? respondOrFail
    cases c.respond t d payload with
    | mk verdict c₁ => cases verdict <;> rfl
  cases action with
  | respondStrict payload => exact hrespond payload
  | respondUpper => exact hrespond _
  | yield times => cases times <;> rfl
  | _ => rfl

/-! ## Steps of a handler -/

theorem invocationAt?_eq_some_iff {invocation : Invocation} :
    c.invocationAt? sid i = some invocation ↔ ∃ s w, c.subscription? sid = some s ∧
      s.workers[i]? = some w ∧ w.phase = .handling invocation := by
  simp only [invocationAt?, Option.bind_eq_some_iff, Worker.invocation?_eq_some_iff]
  constructor
  · rintro ⟨w, ⟨s, hs, hw⟩, hphase⟩
    exact ⟨s, w, hs, hw, hphase⟩
  · rintro ⟨s, w, hs, hw, hphase⟩
    exact ⟨w, ⟨s, hs, hw⟩, hphase⟩

/-- A worker whose handler is asleep does nothing, and any other lets its handler go on. -/
theorem stepWorker_of_handling (t : Transport) {w : Worker} {invocation : Invocation}
    (hs : c.subscription? sid = some s) (hw : s.workers[i]? = some w)
    (hphase : w.phase = .handling invocation) : (c.stepWorker t sid i).2 =
      if invocation.wakeAt.any (c.clock < ·) then c else (c.stepInvocation t s i invocation).2 := by
  have hready : s.isReady i c.clock = !invocation.wakeAt.any (c.clock < ·) := by
    simp only [Subscription.isReady, hw, hphase]
    cases invocation.wakeAt with
    | none => rfl
    | some wakeAt =>
      by_cases hlt : c.clock < wakeAt
      · simp [hlt, Nat.not_le.2 hlt]
      · simp [hlt, Nat.not_lt.1 hlt]
  simp only [stepWorker, hs, hw, hphase, hready, Bool.not_not]
  split <;> rfl

/-- A handler that is to be suspended next goes on to be so, and to nothing else. -/
theorem stepInvocation_of_suspends (t : Transport) (c : Connection) (s : Subscription) (i : Nat)
    {invocation : Invocation} (h : invocation.script.head?.any Action.suspends = true) :
    ∃ script wakeAt, (c.stepInvocation t s i invocation).2 =
        c.setPhase s.sid i (.handling { invocation with script := script, wakeAt := wakeAt }) ∧
      tameScript script = tameScript invocation.script := by
  obtain ⟨action, haction, hsuspends⟩ := (Option.any_eq_true _ _).1 h
  obtain ⟨rest, hscript⟩ := List.head?_eq_some_iff.1 haction
  rw [hscript]
  cases action with
  | yield times =>
    cases times with
    | zero => exact ⟨rest, none, by simp [stepInvocation, hscript, act], rfl⟩
    | succ times =>
      exact ⟨.yield times :: rest, none, by simp [stepInvocation, hscript, act], rfl⟩
  | sleep span => exact ⟨rest, some (c.clock + span), by simp [stepInvocation, hscript, act], rfl⟩
  | _ => cases hsuspends

/-- What suspends a handler does nothing else. -/
theorem performOver_of_suspends (t : Transport) {move : Move} (h : c.suspends move = true) :
    c.performOver t move = c ∨ ∃ sid i s w invocation script wakeAt,
      c.subscription? sid = some s ∧ s.workers[i]? = some w ∧ w.phase = .handling invocation ∧
      tameScript script = tameScript invocation.script ∧ c.performOver t move =
        c.setPhase sid i (.handling { invocation with script := script, wakeAt := wakeAt }) := by
  cases move with
  | stepWorker sid i =>
    obtain ⟨invocation, hinvocation, h⟩ := (Option.any_eq_true _ _).1 h
    obtain ⟨s, w, hs, hw, hphase⟩ := invocationAt?_eq_some_iff.1 hinvocation
    simp only [performOver, stepWorker_of_handling t hs hw hphase]
    cases hasleep : invocation.wakeAt.any (c.clock < ·) with
    | true => exact Or.inl rfl
    | false =>
      rw [hasleep, Bool.false_or] at h
      obtain ⟨script, wakeAt, heq, htame⟩ := stepInvocation_of_suspends t c s i h
      rw [sid_of_subscription? hs] at heq
      exact Or.inr ⟨sid, i, s, w, invocation, script, wakeAt, hs, hw, hphase, htame, heq⟩
  | _ => cases h

/-- While a handler is suspended nothing is made known. -/
theorem reports_of_suspends (t : Transport) {move : Move} (h : c.suspends move = true) :
    Reports [] c (c.performOver t move) := by
  obtain heq | ⟨sid, i, s, w, invocation, script, wakeAt, -, -, -, -, heq⟩ :=
    performOver_of_suspends t h
  · rw [heq]
    exact .refl c
  · rw [heq]
    exact .of_eq .rfl rfl fun _ => rfl

theorem reports_stepInvocation (ht : t.Sends .unreporting) (hd : t.Drifts) (c : Connection)
    (hs : c.subscription? s.sid = some s) (i : Nat) (invocation : Invocation) :
    Reports ((invocation.script.head?.bind (c.failure? t invocation.delivery)).map
      (Prod.mk s.sid)).toList c (c.stepInvocation t s i invocation).2 := by
  have hgoOn (c : Connection) (phase : Worker.Phase) : Reports [] c (c.setPhase s.sid i phase) :=
    .of_eq .rfl rfl fun _ => rfl
  cases hscript : invocation.script with
  | nil =>
    simp only [stepInvocation, hscript]
    exact reports_finishInvocation ht hd c s i invocation none
  | cons action rest =>
    have hallows : c.AllowsAction .unreporting s invocation.delivery action :=
      ⟨fun _ _ => trivial, fun _ _ => trivial, fun _ _ _ => trivial, fun _ _ => trivial⟩
    have hact := unreported (course_act ht hd (suits_unreporting c) hs hallows rest)
    have hfailure := failure?_eq t c s.sid invocation.delivery action rest
    simp only [stepInvocation, hscript, List.head?_cons, Option.bind_some, hfailure]
    revert hact
    cases c.act t s.sid invocation.delivery action rest with
    | mk progress c₁ =>
      intro hact
      cases progress with
      | next | pause | sleep => exact hact.trans (hgoOn c₁ _)
      | «over» failure => exact (reports_finishInvocation ht hd c₁ s i invocation failure).after hact

/-- Whatever is done, the failure that an invocation ends in is made known, if there is one, and
nothing else. -/
theorem reports_performOver (ht : t.Sends .unreporting) (hd : t.Drifts) (c : Connection) {move : Move}
    (h : c.suspends move = false) :
    Reports (c.failing? t move).toList c (c.performOver t move) := by
  by_cases hwork : ∃ sid i invocation, move = .stepWorker sid i ∧
      c.invocationAt? sid i = some invocation
  · obtain ⟨sid, i, invocation, rfl, hinvocation⟩ := hwork
    obtain ⟨s, w, hs, hw, hphase⟩ := invocationAt?_eq_some_iff.1 hinvocation
    obtain rfl := sid_of_subscription? hs
    simp only [suspends, hinvocation, Option.any_some, Bool.or_eq_false_iff] at h
    have hstep := reports_stepInvocation ht hd c hs i invocation
    have hfailing : c.failing? t (.stepWorker s.sid i) =
        (invocation.script.head?.bind (c.failure? t invocation.delivery)).map (Prod.mk s.sid) := by
      simp only [failing?, hinvocation, Option.bind_some, Option.map_bind]
      rfl
    rw [hfailing, performOver, stepWorker_of_handling t hs hw hphase, h.1]
    exact hstep
  · have hallows : c.Allows .unreporting move := { allows_all c move with
      reports := fun sid i s invocation heq hs hphase => by
        obtain ⟨w, hw, hphase⟩ := Subscription.phase?_eq_some_iff.1 hphase
        exact hwork ⟨sid, i, invocation, heq, invocationAt?_eq_some_iff.2 ⟨s, w, hs, hw, hphase⟩⟩ }
    have hcourse := course_performOver ht hd (suits_unreporting c) hallows
    have hnone : c.failing? t move = none := by
      cases move with
      | stepWorker sid i =>
        cases hinvocation : c.invocationAt? sid i with
        | none => simp [failing?, hinvocation]
        | some invocation => exact absurd ⟨sid, i, invocation, rfl, hinvocation⟩ hwork
      | _ => rfl
    rw [hnone]
    exact unreported hcourse

end Connection

end PubSub
