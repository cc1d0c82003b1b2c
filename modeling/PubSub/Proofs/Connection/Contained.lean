import PubSub.Proofs.Connection.Accounts
import PubSub.Proofs.Connection.Lifecycle
import PubSub.Proofs.Connection.Reports
import PubSub.Proofs.Connection.Tame

/-!
# Failures of handlers are contained

How an invocation ends is nobody else's concern. Two runs in which the same things are done come to
connections that are tame alike, however long their handlers are suspended and however they end, and
what connections that are tame alike have in common is all that can be seen of one but the failures
themselves. What each run makes known of its own failures is the matter of
`PubSub.Proofs.Connection.Reports`.

## Main definitions

- `Connection.Discloses` — a connection has made known some failures, and no others

## Main results

- `Connection.Plays.tame` — the tame connection at the end of a run
- `Connection.failures_contained` — two runs that differ in how invocations end
-/

namespace PubSub.Connection

variable {c c' : Connection} {t : Transport} {sid : Sid} {s : Subscription} {i : Nat}

/-- A worker goes on to a phase that is the one it is at but for suspensions. -/
theorem tame_setPhase_of_alike (hnodup : (c.subscriptions.map (·.sid)).Nodup)
    (hs : c.subscription? sid = some s) {w : Worker} (hw : s.workers[i]? = some w)
    {phase : Worker.Phase} (hphase : phase.tame = w.phase.tame) :
    (c.setPhase sid i phase).tame = c.tame := by
  have hsubscription : (s.setPhase i phase).tame = s.tame := by
    have hworkers : (s.workers.modify i fun w => { w with phase := phase }).map Worker.tame =
        s.workers.map Worker.tame := by
      refine List.ext_getElem? fun j => ?_
      simp only [List.getElem?_map, List.getElem?_modify]
      by_cases hij : i = j
      · subst hij
        simp [hw, Worker.tame, hphase]
      · simp [hij]
    simp only [Subscription.setPhase, Subscription.modifyWorker, Subscription.tame, hworkers]
  have hsubscriptions : (c.setPhase sid i phase).subscriptions.map Subscription.tame =
      c.subscriptions.map Subscription.tame := by
    simp only [setPhase, modifySubscription, List.map_map]
    refine List.map_congr_left fun s' hs' => ?_
    by_cases hsid : s'.sid = sid
    · -- no other subscription has this number
      have hfound := subscription?_of_mem hnodup hs'
      rw [hsid, hs] at hfound
      obtain rfl := Option.some.inj hfound
      simp [hsid, hsubscription]
    · simp [hsid]
  exact congrArg (fun subscriptions => { c.tame with subscriptions := subscriptions }) hsubscriptions

/-- A handler that is asleep, or is merely suspended, leaves the tame connection as it is. -/
theorem tame_of_suspends (t : Transport) (hnodup : (c.subscriptions.map (·.sid)).Nodup) {move : Move}
    (h : c.suspends move = true) : (c.performOver t move).tame = c.tame := by
  obtain heq | ⟨sid, i, s, w, invocation, script, wakeAt, hs, hw, hphase, htame, heq⟩ :=
    performOver_of_suspends t h
  · rw [heq]
  · rw [heq]
    refine tame_setPhase_of_alike hnodup hs hw ?_
    simp only [hphase, Worker.Phase.tame, Invocation.tame, htame]

/-- Subscriptions are numbered in order along every flow. -/
theorem Flow.sids {exposed : Sid → Prop} (h : c.Flow exposed c')
    (hc : c.subscriptions.map (·.sid) = List.range' 1 c.issuedSids) :
    c'.subscriptions.map (·.sid) = List.range' 1 c'.issuedSids := by
  induction h with
  | refl => exact hc
  | trans _ _ ih ih' => exact ih' (ih hc)
  | log | aside | tally | refuse | consult | sweep | enrol | forgo => exact hc
  | shift c hf => exact (sids_modifySubscription c _ hf).trans hc
  | @limit c sid _ max =>
    exact (sids_modifySubscription c sid (f := fun s => { s with max := max }) fun _ h => h).trans hc
  | @invalidate c sid =>
    exact (sids_modifySubscription c sid
      (f := fun s => { s with valid := false, attached := false }) fun _ h => h).trans hc
  | @register c s _ hsid =>
    show (c.subscriptions ++ [s]).map (·.sid) = List.range' 1 s.sid
    rw [List.map_append, hc, hsid, List.range'_1_concat, Nat.add_comm]
    simp [hsid]
  | @close c c' _ _ _ ih =>
    have hsids : (c'.subscriptions.map Subscription.cancelWorkers).map (·.sid) =
        c'.subscriptions.map (·.sid) := by simp [Subscription.cancelWorkers, Function.comp_def]
    exact hsids.trans (ih hc)

/-! ## Runs whose handlers end as they please -/

/-- The failures of a run are made known in it. -/
theorem Plays.reports {moves : List Move} {failures : List (Sid × Failure)} (ht : t.Sends .unreporting)
    (hd : t.Drifts) (h : Plays t c moves failures c') : c.Reports failures c' := by
  induction h with
  | rest c => exact .refl c
  | sway h _ ih =>
    refine ih.after (.of_eq h.hook h.journal fun kind => ?_)
    rw [h.counts]
  | suspend h _ ih => exact ih.after (reports_of_suspends t h)
  | @perform c _ _ _ _ h _ ih => exact (reports_performOver ht hd c h).trans ih

/-- The tame connection at the end of a run is told by the tame connection at its beginning, and by
what was done, with tame handlers. -/
theorem Plays.tame {moves : List Move} {failures : List (Sid × Failure)} (ht : t.Blind)
    (hsends : t.Sends .all) (hd : t.Drifts)
    (hc : c.subscriptions.map (·.sid) = List.range' 1 c.issuedSids)
    (h : Plays t c moves failures c') :
    c'.tame = (moves.map Move.tame).foldl (fun c move => (c.performOver t move).tame) c.tame := by
  have hflow (c : Connection) (move : Move) : c.Flow (fun _ => True) (c.performOver t move) :=
    (course_performOver hsends hd (suits_all c) (allows_all c move)).flow
  induction h with
  | rest c => rfl
  | @sway c c₁ _ _ _ h _ ih =>
    have hsids : c₁.subscriptions.map (·.sid) = c.subscriptions.map (·.sid) := by
      have hmap (c : Connection) : c.tame.subscriptions.map (·.sid) = c.subscriptions.map (·.sid) := by
        simp [Function.comp_def]
      rw [← hmap c₁, h.tame, hmap c]
    have hissued : c₁.issuedSids = c.issuedSids := by
      show c₁.tame.issuedSids = c.tame.issuedSids
      rw [h.tame]
    rw [ih (by rw [hsids, hissued, hc]), h.tame]
  | @suspend c _ move _ _ h _ ih =>
    rw [ih ((hflow c move).sids hc), tame_of_suspends t (hc ▸ List.nodup_range') h]
  | @perform c _ move _ _ h _ ih =>
    rw [ih ((hflow c move).sids hc), List.map_cons, List.foldl_cons, performOver_tame ht c h]

/-- Every run is one whose handlers end as they please. -/
theorem exists_plays_runOver (t : Transport) (c : Connection) (moves : List Move) :
    ∃ done failures, Plays t c done failures (c.runOver t moves) := by
  induction moves generalizing c with
  | nil => exact ⟨_, _, .rest c⟩
  | cons move moves ih =>
    obtain ⟨done, failures, hplays⟩ := ih (c.performOver t move)
    cases h : c.suspends move with
    | true => exact ⟨_, _, .suspend h hplays⟩
    | false => exact ⟨_, _, .perform h hplays⟩

@[simp] theorem handled_tame (c : Connection) : c.tame.handled = c.handled := by
  have hbegun (e : Event) : e.tame?.bind Event.begun? = e.begun? := by cases e <;> rfl
  simp only [handled, tame, ← List.filterMap_reverse, List.filterMap_filterMap, hbegun]

/-- Connections that are tame alike agree. -/
theorem agrees_of_tame (h : c'.tame = c.tame) : c.Agrees c' := by
  have hsubscription {α : Type} (f : Subscription → α) (hf : ∀ s, f s.tame = f s) (sid : Sid) :
      (c'.subscription? sid).map f = (c.subscription? sid).map f := by
    have hmap (c : Connection) : (c.tame.subscription? sid).map f = (c.subscription? sid).map f := by
      simp [Function.comp_def, hf]
    rw [← hmap c', h, hmap c]
  exact {
    handled := by rw [← handled_tame c', h, handled_tame]
    delivered := hsubscription _ fun _ => rfl
    pending := hsubscription _ fun _ => rfl
    valid := hsubscription _ fun _ => rfl
    started := hsubscription _ Subscription.isStarted_tame
    traffic := by rw [← traffic_tame c', h, traffic_tame]
    registry := by rw [← registry_tame c', h, registry_tame] }

/-- A connection has made known some failures, and no others: its hook, if it has one, was called about
each of them once and in their order, and the metrics count them by their kind. -/
structure Discloses (hook : FailureHook) (failures : List (Sid × Failure)) (c : Connection) : Prop where
  told : hook ≠ .absent → List.Forall₂ Event.Tells failures c.hookCalls
  untold : hook = .absent → c.hookCalls = []
  counted : ∀ (kind : FailureKind) (dropped : Bool),
    (c.metrics dropped).reported
        (Metrics.nameOf "handler_failures_total" (some ("kind", kind.word))) =
      failures.countP fun failed => failed.2.kind = kind

/-- What was made known since nothing was. -/
theorem Reports.discloses {failures : List (Sid × Failure)} (h : c.Reports failures c')
    (hcalls : c.hookCalls = []) (hcounts : c.counts = {}) : c'.Discloses c.hook failures := by
  obtain ⟨calls, heq, htold, huntold⟩ := h.calls
  rw [hcalls, List.nil_append] at heq
  refine ⟨fun hhook => heq ▸ htold hhook, fun hhook => heq ▸ huntold hhook, fun kind dropped => ?_⟩
  have hnone : c.counts.failures kind = 0 := by
    rw [hcounts]
    cases kind <;> rfl
  rw [Metrics.reported_failures]
  show (c'.counts.failures kind : Int) = _
  rw [h.counted, hnone, Nat.zero_add]

/-- Two runs over a transport that reacts to frames and may bar any of them, in view of those before.
The same things are done in both, but in each of them every invocation is free in how long it is
suspended and in how it ends, and each has a failure hook of its own, or none. Then both agree, and
each makes known its own failures. Since every beginning of such a run is such a run, this is so at
every step. -/
theorem failures_contained
    (rule : List (Frame × Except TransportError Unit) → Outgoing → Option TransportError)
    (o : Session.Opening) (id : Nat) (clock : Instant) (handle : Nat) (hook hook' : FailureHook)
    {moves moves' : List Move} {failures failures' : List (Sid × Failure)} {c c' : Connection}
    (h : Plays (gated fun out c => rule c.traffic out)
      ({ o with hook := hook }.connect id clock handle) moves failures c)
    (h' : Plays (gated fun out c => rule c.traffic out)
      ({ o with hook := hook' }.connect id clock handle) moves' failures' c')
    (hmoves : moves'.map Move.tame = moves.map Move.tame) :
    c.Agrees c' ∧ c.Discloses hook failures ∧ c'.Discloses hook' failures' := by
  have hblind : (gated fun out c => rule c.traffic out).Blind :=
    blind_gated fun out c => congrArg (rule · out) (traffic_tame c)
  have hdrifts : (gated fun out c => rule c.traffic out).Drifts := drifts_gated _
  have hend := h.tame hblind (sends_gated _) hdrifts rfl
  have hend' := h'.tame hblind (sends_gated _) hdrifts rfl
  have htame : c'.tame = c.tame := by
    rw [hend', hend, hmoves]
    rfl
  exact ⟨agrees_of_tame htame, (h.reports (sends_gated _) hdrifts).discloses rfl rfl,
    (h'.reports (sends_gated _) hdrifts).discloses rfl rfl⟩

/-- The theorem applies to a handler that yields and then returns an error to two messages, the second
of them the last under its ceiling, while a hook records it, and to one that panics at once and is
then exchanged for one that succeeds, while the hook panics too. -/
theorem failures_contained_early :
    let rule : List (Frame × Except TransportError Unit) → Outgoing → Option TransportError :=
      fun _ _ => none
    let t := gated fun out c => rule c.traffic out
    let start (hook : FailureHook) := Session.Opening.connect { token := "", hook := hook } 0 0 1
    let moves (first second : Handler) : List Move :=
      [.build 1 { subject := "a", handler := some first }, .autoUnsubscribe 1 2, .start 1,
        .deliver 1 { subject := "a" }, .deliver 1 { subject := "a" }, .stepWorker 1 0,
        .stepWorker 1 0, .stepWorker 1 0, .setHandler 1 second, .stepWorker 1 0, .stepWorker 1 0]
    let slow : Handler := .mk "" [] [.yield 1, .fail "late"]
    ∃ failures failures' c c', Plays t (start .record) (moves slow slow) failures c ∧
      Plays t (start .panic) (moves (.mk "" [] [.panic (.text "early")]) (.mk "" [] [])) failures' c' ∧
      failures.length = 2 ∧ failures'.length = 1 ∧ c.Agrees c' ∧ c.Discloses .record failures ∧
      c'.Discloses .panic failures' := by
  intro rule t start moves slow
  have hslow : ∃ failures c, Plays t (start .record) (moves slow slow) failures c ∧
      failures.length = 2 :=
    ⟨_, _, .perform (by decide +kernel) <| .perform (by decide +kernel) <|
      .perform (by decide +kernel) <| .perform (by decide +kernel) <| .perform (by decide +kernel) <|
      .perform (by decide +kernel) <| .perform (by decide +kernel) <|
      -- the handler yields, once when it is told to and once when it is at that again
      @Plays.suspend _ _ _ (.stepWorker 1 0) _ _ (by decide +kernel) <|
      @Plays.suspend _ _ _ (.stepWorker 1 0) _ _ (by decide +kernel) <|
      .perform (by decide +kernel) <| .perform (by decide +kernel) <| .perform (by decide +kernel) <|
      @Plays.suspend _ _ _ (.stepWorker 1 0) _ _ (by decide +kernel) <|
      @Plays.suspend _ _ _ (.stepWorker 1 0) _ _ (by decide +kernel) <|
      .perform (by decide +kernel) <| .rest _, by decide +kernel⟩
  have hearly : ∃ failures c, Plays t (start .panic)
      (moves (.mk "" [] [.panic (.text "early")]) (.mk "" [] [])) failures c ∧ failures.length = 1 :=
    ⟨_, _, .perform (by decide +kernel) <| .perform (by decide +kernel) <|
      .perform (by decide +kernel) <| .perform (by decide +kernel) <| .perform (by decide +kernel) <|
      .perform (by decide +kernel) <| .perform (by decide +kernel) <| .perform (by decide +kernel) <|
      .perform (by decide +kernel) <| .perform (by decide +kernel) <| .perform (by decide +kernel) <|
      .rest _, by decide +kernel⟩
  obtain ⟨failures, c, h, hlength⟩ := hslow
  obtain ⟨failures', c', h', hlength'⟩ := hearly
  exact ⟨failures, failures', c, c', h, h', hlength, hlength',
    failures_contained rule { token := "" } 0 0 1 .record .panic h h' rfl⟩

end PubSub.Connection
