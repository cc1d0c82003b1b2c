import PubSub.Proofs.Connection.FailedStart

/-!
# A start that failed can be tried again

A start that is rejected leaves a spent worker and an announcement that was refused, and nothing
else. Spent workers end unnoticed whenever it is their turn, so a run with starts that fail goes
along with the same run without them, turn for turn of the tasks that matter. Whatever the two runs
come to, the same is left of it without spent workers and refused announcements.

## Main results

- `Connection.akin_of_failed` — what a start that failed leaves
- `Connection.GoesOn.akin` — the order of the turns that matter settles what they come to
- `Connection.Tries.exists_succeeding`, `Connection.Tries.akin` — a run with starts that fail, and
  the same run without them
- `Connection.failed_starts_leave_no_trace` — both come to the same
-/

namespace PubSub.Connection

variable {c c' c₁ d d' : Connection} {t : Transport} {sid : Sid}

/-! ## Turns of tasks -/

theorem trim_connect (o : Session.Opening) (id : Nat) (clock : Instant) (handle : Nat) :
    (o.connect id clock handle).Trim where
  sound := sound_connect o id clock handle
  sids := rfl

theorem Trim.runOver (hsends : t.Sends .all) (hdrifts : t.Drifts) (h : c.Trim)
    (moves : List Move) : (c.runOver t moves).Trim := by
  induction moves generalizing c with
  | nil => exact h
  | cons move moves ih => exact ih (h.performOver hsends hdrifts move)

theorem Trim.stepWorker (hsends : t.Sends .all) (hdrifts : t.Drifts) (h : c.Trim) (sid : Sid)
    (i : Nat) : (c.stepWorker t sid i).2.Trim :=
  h.performOver hsends hdrifts (.stepWorker sid i)

theorem Goes.trim (hsends : t.Sends .all) (hdrifts : t.Drifts) {go : Go} (hgo : Goes t c go c')
    (h : c.Trim) : c'.Trim := by
  cases hgo with
  | sweeper => exact h.performOver hsends hdrifts .stepSweeper
  | worker => exact h.stepWorker hsends hdrifts _ _

/-- A task that is not a spent worker can take its turn in the other connection too. -/
theorem Goes.exists (ht : t.Heedless) (hsends : t.Sends .all) (hdrifts : t.Drifts) {go : Go}
    (hgo : Goes t c go c') (h : c.Akin d) (hc : c.Trim) (hd : d.Trim) :
    ∃ d', Goes t d go d' ∧ c'.Akin d' := by
  cases hgo with
  | sweeper => exact ⟨_, .sweeper d, h.stepSweeper⟩
  | @worker sid s i w hs hw hlive =>
    rcases h.subscription?_cases sid with ⟨hnone, -⟩ | ⟨s₁, s', h₁, hs', hpruned⟩
    · rw [hs] at hnone
      cases hnone
    · rw [hs] at h₁
      obtain rfl := Option.some.inj h₁
      obtain ⟨hdisciplined, hone⟩ := hc.orderly hs
      obtain ⟨i', hw'⟩ :=
        Subscription.exists_live hpruned hone (hd.orderly hs').1 hdisciplined hw hlive
      exact ⟨_, .worker hs' hw' hlive,
        h.stepWorker ht hsends hdrifts hc hd hs hs' hw hw' hlive⟩

/-- Whose turn it is settles what it comes to. -/
theorem Goes.akin (ht : t.Heedless) (hsends : t.Sends .all) (hdrifts : t.Drifts) {go : Go}
    (hgo : Goes t c go c') (hgo' : Goes t d go d') (h : c.Akin d) (hc : c.Trim) (hd : d.Trim) :
    c'.Akin d' := by
  cases hgo with
  | sweeper =>
    cases hgo'
    exact h.stepSweeper
  | @worker sid s i w hs hw hlive =>
    generalize hturn : Go.worker sid w.cancelled = go at hgo'
    cases hgo' with
    | sweeper => cases hturn
    | @worker _ s' i' w' hs' hw' hlive' =>
      obtain ⟨rfl, hsame⟩ := Go.worker.inj hturn
      obtain ⟨hdisciplined, hone⟩ := hc.orderly hs
      have heq := Subscription.eq_of_live (h.pruned_of_found hs hs') hone hdisciplined
        (hd.orderly hs').1 hw hlive hw' hlive' hsame.symm
      exact h.stepWorker ht hsends hdrifts hc hd hs hs' hw (heq ▸ hw') hlive

theorem GoesOn.trim (hsends : t.Sends .all) (hdrifts : t.Drifts) {order : List Go}
    (hgo : GoesOn t c order c') (h : c.Trim) : c'.Trim := by
  induction hgo with
  | rest => exact h
  | spent _ _ _ _ ih => exact ih (h.stepWorker hsends hdrifts _ _)
  | go hgo _ ih => exact ih (hgo.trim hsends hdrifts h)

theorem GoesOn.append {order : List Go} (h : GoesOn t c order c₁) (h' : GoesOn t c₁ [] c') :
    GoesOn t c order c' := by
  induction h with
  | rest => exact h'
  | spent hs hw hspent _ ih => exact .spent hs hw hspent (ih h')
  | go hgo _ ih => exact .go hgo (ih h')

/-- The tasks can go on in the other connection in the same order. -/
theorem GoesOn.exists (ht : t.Heedless) (hsends : t.Sends .all) (hdrifts : t.Drifts)
    {order : List Go} (hgo : GoesOn t c order c') (h : c.Akin d) (hc : c.Trim) (hd : d.Trim) :
    ∃ d', GoesOn t d order d' ∧ c'.Akin d' := by
  induction hgo generalizing d with
  | rest c => exact ⟨d, .rest d, h⟩
  | spent hs hw hspent _ ih =>
    exact ih ((akin_stepWorker_of_spent t hc hs hw hspent).symm.trans h)
      (hc.stepWorker hsends hdrifts _ _) hd
  | go hgo _ ih =>
    obtain ⟨d₁, hgo₁, h₁⟩ := hgo.exists ht hsends hdrifts h hc hd
    obtain ⟨d', hrest, h'⟩ := ih h₁ (hgo.trim hsends hdrifts hc) (hgo₁.trim hsends hdrifts hd)
    exact ⟨d', .go hgo₁ hrest, h'⟩

/-- Up to the first turn that matters, or to the end, only spent workers go on. -/
theorem GoesOn.skip (hsends : t.Sends .all) (hdrifts : t.Drifts) {order : List Go}
    (hgo : GoesOn t c order c') (hc : c.Trim) : order = [] ∧ c.Akin c' ∨
      ∃ go rest c₀ c₁, order = go :: rest ∧ c.Akin c₀ ∧ c₀.Trim ∧ Goes t c₀ go c₁ ∧
        GoesOn t c₁ rest c' := by
  induction hgo with
  | rest c => exact Or.inl ⟨rfl, .refl c⟩
  | @go c c₁ c' go order hgo hrest _ =>
    exact Or.inr ⟨go, order, c, c₁, rfl, .refl c, hc, hgo, hrest⟩
  | spent hs hw hspent _ ih =>
    have hakin := akin_stepWorker_of_spent t hc hs hw hspent
    rcases ih (hc.stepWorker hsends hdrifts _ _) with ⟨hnil, h'⟩ |
      ⟨go, rest, c₀, c₁, horder, h₀, hc₀, hgo, hrest⟩
    · exact Or.inl ⟨hnil, hakin.trans h'⟩
    · exact Or.inr ⟨go, rest, c₀, c₁, horder, hakin.trans h₀, hc₀, hgo, hrest⟩

/-- The order of the turns that matter settles what they come to. -/
theorem GoesOn.akin (ht : t.Heedless) (hsends : t.Sends .all) (hdrifts : t.Drifts)
    {order : List Go} (hgo : GoesOn t c order c') (hgo' : GoesOn t d order d') (h : c.Akin d)
    (hc : c.Trim) (hd : d.Trim) : c'.Akin d' := by
  induction order generalizing c d with
  | nil =>
    rcases hgo.skip hsends hdrifts hc with ⟨-, hend⟩ | ⟨_, _, _, _, heq, -⟩
    · rcases hgo'.skip hsends hdrifts hd with ⟨-, hend'⟩ | ⟨_, _, _, _, heq, -⟩
      · exact hend.symm.trans (h.trans hend')
      · cases heq
    · cases heq
  | cons go order ih =>
    rcases hgo.skip hsends hdrifts hc with ⟨heq, -⟩ | ⟨_, _, c₀, c₁, heq, h₀, hc₀, hturn, hrest⟩
    · cases heq
    · obtain ⟨rfl, rfl⟩ := List.cons.inj heq
      rcases hgo'.skip hsends hdrifts hd with ⟨heq, -⟩ |
        ⟨_, _, d₀, d₁, heq, h₀', hd₀, hturn', hrest'⟩
      · cases heq
      · obtain ⟨rfl, rfl⟩ := List.cons.inj heq
        exact ih hrest hrest'
          (hturn.akin ht hsends hdrifts hturn' (h₀.symm.trans (h.trans h₀')) hc₀ hd₀)
          (hturn.trim hsends hdrifts hc₀) (hturn'.trim hsends hdrifts hd₀)

/-! ## Spent workers come to an end -/

/-- The worker of a subscription with a number has ended if it was spent. -/
def Rid (c : Connection) (sid : Sid) (i : Nat) : Prop :=
  ∀ s w, c.subscription? sid = some s → s.workers[i]? = some w → w.isSpent = true →
    w.phase = .finished

/-- A worker that ended is gone, and others that are gone stay so. -/
theorem Rid.setPhase {s : Subscription} (hs : c.subscription? sid = some s) (i : Nat) :
    (c.modifySubscription sid fun _ => s.setPhase i .finished).Rid sid i ∧
      ∀ other j, c.Rid other j →
        (c.modifySubscription sid fun _ => s.setPhase i .finished).Rid other j := by
  have hfound : ∀ other,
      (c.modifySubscription sid fun _ => s.setPhase i .finished).subscription? other =
        if other = sid then some (s.setPhase i .finished) else c.subscription? other := by
    intro other
    have hsid : s.sid = sid := sid_of_subscription? hs
    rw [subscription?_modifySubscription c sid (f := fun _ => s.setPhase i .finished)
      fun _ _ => hsid]
    split
    · rw [hs, Option.map_some]
    · rfl
  have hworker : ∀ j w, (s.setPhase i .finished).workers[j]? = some w →
      w.phase = .finished ∨ i ≠ j ∧ s.workers[j]? = some w := by
    intro j w hw
    simp only [Subscription.setPhase, Subscription.modifyWorker, List.getElem?_modify] at hw
    obtain ⟨w', hw', rfl⟩ := Option.map_eq_some_iff.1 hw
    by_cases hij : i = j
    · exact Or.inl (by simp [hij])
    · exact Or.inr ⟨hij, by simpa [hij] using hw'⟩
  constructor
  · intro s' w hs' hw _
    rw [hfound, if_pos rfl] at hs'
    obtain rfl := Option.some.inj hs'
    rcases hworker i w hw with hphase | ⟨hne, -⟩
    · exact hphase
    · exact absurd rfl hne
  · intro other j hrid s' w hs' hw hspent
    rw [hfound] at hs'
    split at hs'
    · next heq =>
      obtain rfl := Option.some.inj hs'
      rcases hworker j w hw with hphase | ⟨-, hw'⟩
      · exact hphase
      · exact hrid s w (heq ▸ hs) hw' hspent
    · exact hrid s' w hs' hw hspent

/-- One more spent worker ends if it is its turn. -/
theorem exists_rid (t : Transport) (hc : c.Trim) (sid : Sid) (i : Nat) :
    ∃ c', GoesOn t c [] c' ∧ c.Akin c' ∧ c'.Rid sid i ∧
      ∀ other j, c.Rid other j → c'.Rid other j := by
  by_cases h : ∃ s w, c.subscription? sid = some s ∧ s.workers[i]? = some w ∧ w.isSpent = true
  · obtain ⟨s, w, hs, hw, hspent⟩ := h
    refine ⟨_, .spent hs hw hspent (.rest _), akin_stepWorker_of_spent t hc hs hw hspent, ?_⟩
    rcases stepWorker_of_spent t hc.nodup hs hw hspent with ⟨heq, hphase⟩ | heq
    · rw [heq]
      refine ⟨fun s' w' hs' hw' _ => ?_, fun _ _ hrid => hrid⟩
      rw [hs] at hs'
      obtain rfl := Option.some.inj hs'
      rw [hw] at hw'
      obtain rfl := Option.some.inj hw'
      exact hphase
    · rw [heq]
      exact Rid.setPhase hs i
  · refine ⟨c, .rest c, .refl c, fun s w hs hw hspent => ?_, fun _ _ hrid => hrid⟩
    exact absurd ⟨s, w, hs, hw, hspent⟩ h

/-- All spent workers may take their turns at the end. -/
theorem exists_rid_all (hsends : t.Sends .all) (hdrifts : t.Drifts) (hc : c.Trim) :
    ∃ c', GoesOn t c [] c' ∧ c.Akin c' ∧ ∀ sid i, c'.Rid sid i := by
  -- by induction on the places that may hold one
  have hplaces : ∀ (places : List (Sid × Nat)) (c : Connection), c.Trim → ∃ c', GoesOn t c [] c' ∧
      c.Akin c' ∧ ∀ sid i, c.Rid sid i ∨ (sid, i) ∈ places → c'.Rid sid i := by
    intro places
    induction places with
    | nil => exact fun c _ => ⟨c, .rest c, .refl c, fun sid i h => h.resolve_right (by simp)⟩
    | cons place places ih =>
      intro c hc
      obtain ⟨c₁, hgo, h₁, hrid, hkeeps⟩ := exists_rid t hc place.1 place.2
      obtain ⟨c', hgo', h', hrids⟩ := ih c₁ (hgo.trim hsends hdrifts hc)
      refine ⟨c', hgo.append hgo', h₁.trans h', fun sid i h => hrids sid i ?_⟩
      rcases h with h | h
      · exact Or.inl (hkeeps sid i h)
      · rcases List.mem_cons.1 h with rfl | h
        · exact Or.inl hrid
        · exact Or.inr h
  obtain ⟨c', hgo, h', hrids⟩ := hplaces
    (c.subscriptions.flatMap fun s => (List.range s.workers.length).map fun i => (s.sid, i)) c hc
  refine ⟨c', hgo, h', fun sid i => hrids sid i ?_⟩
  by_cases h : ∃ s, c.subscription? sid = some s ∧ i < s.workers.length
  · obtain ⟨s, hs, hlt⟩ := h
    refine Or.inr (List.mem_flatMap.2 ⟨s, List.mem_of_find?_eq_some hs, ?_⟩)
    rw [← sid_of_subscription? hs]
    exact List.mem_map.2 ⟨i, List.mem_range.2 hlt, rfl⟩
  · refine Or.inl fun s w hs hw _ => absurd ⟨s, hs, ?_⟩ h
    exact (List.getElem?_eq_some_iff.1 hw).1

/-- Nothing can go on where nothing can in the other connection and no spent worker is left. -/
theorem isIdle_of_rid (h : c.Akin d) (hc : c.Trim) (hd : d.Trim) (hidle : c.isIdle = true)
    (hrid : ∀ sid i, d.Rid sid i) : d.isIdle = true := by
  obtain ⟨hsweeper, hworkers⟩ := Bool.and_eq_true_iff.1 hidle
  refine Bool.and_eq_true_iff.2 ⟨?_, List.all_eq_true.2 fun s' hs' =>
    List.all_eq_true.2 fun i' _ => ?_⟩
  · rw [← h.sweeper, ← h.registry, ← h.clock]
    exact hsweeper
  · rw [Bool.not_eq_true']
    cases hw' : s'.workers[i']? with
    | none => simp only [Subscription.isReady, hw']
    | some w =>
      have hfound' := subscription?_of_mem hd.nodup hs'
      cases hspent : w.isSpent with
      | true =>
        have hphase := hrid s'.sid i' s' w hfound' hw' hspent
        simp only [Subscription.isReady, hw', hphase]
      | false =>
        rcases h.symm.subscription?_cases s'.sid with ⟨hnone, -⟩ | ⟨s₁, s, h₁, hs, hpruned⟩
        · rw [hfound'] at hnone
          cases hnone
        · rw [hfound'] at h₁
          obtain rfl := Option.some.inj h₁
          obtain ⟨hdisciplined', hone'⟩ := hd.orderly hfound'
          obtain ⟨hdisciplined, -⟩ := hc.orderly hs
          obtain ⟨i, hw⟩ :=
            Subscription.exists_live hpruned hone' hdisciplined hdisciplined' hw' hspent
          rw [Subscription.isReady_eq hpruned hdisciplined' hdisciplined hw' hw hspent, ← h.clock]
          have hall := List.all_eq_true.1 hworkers s (List.mem_of_find?_eq_some hs)
          have hi := List.all_eq_true.1 hall i
            (List.mem_range.2 (List.getElem?_eq_some_iff.1 hw).1)
          simpa using hi

/-! ## Runs with starts that fail -/

variable {gate : Gate} {trials : List Trial}

theorem Direct.trim {bar : Gate} (ht : c.Direct bar t) (hc : c.Trim) (sid : Sid) :
    (c.startSubscription t sid).2.Trim := by
  rw [ht.startSubscription]
  exact hc.performOver (sends_transportAt bar 0) (drifts_transportAt bar 0) (.start sid)

theorem Direct.akin {bar : Gate} {t' : Transport} (ht : c.Direct bar t') (hc : c.Trim)
    {e : TransportError} (h : c.startSubscription t' sid = (.error (.transport e), c')) :
    c.Akin c' ∧ c'.Trim := by
  have htrim := ht.trim hc sid
  rw [h] at htrim
  rw [ht.startSubscription] at h
  exact ⟨akin_of_failed (plain_offerThrough bar) hc h, htrim⟩

theorem Tries.trim (hsends : t.Sends .all) (hdrifts : t.Drifts) (h : Tries t c trials c')
    (hc : c.Trim) : c'.Trim := by
  induction h with
  | done => exact hc
  | fail ht hfail _ ih => exact ih (ht.akin hc hfail).2
  | move _ _ ih => exact ih (hc.performOver hsends hdrifts _)
  | settle hs _ _ ih => exact ih (hs.trim hsends hdrifts hc)

/-- The same run is possible without the starts that fail. -/
theorem Tries.exists_succeeding (ht : t.Heedless) (hsends : t.Sends .all) (hdrifts : t.Drifts)
    (htries : Tries t c trials c') (h : c.Akin d) (hc : c.Trim) (hd : d.Trim) :
    ∃ d', Tries t d (Trial.succeeding trials) d' := by
  induction htries generalizing d with
  | done => exact ⟨d, .done d⟩
  | fail hway hfail _ ih =>
    obtain ⟨hakin, htrim⟩ := hway.akin hc hfail
    exact ih (hakin.symm.trans h) htrim hd
  | move hm _ ih =>
    obtain ⟨d', htries'⟩ := ih (h.performOver ht hm) (hc.performOver hsends hdrifts _)
      (hd.performOver hsends hdrifts _)
    exact ⟨d', .move hm htries'⟩
  | settle hs hidle _ ih =>
    obtain ⟨d₁, hgo, h₁⟩ := hs.exists ht hsends hdrifts h hc hd
    have hc' := hs.trim hsends hdrifts hc
    -- what is left of the starts that failed may differ, so spent workers end last
    obtain ⟨d₂, hend, h₂, hrid⟩ := exists_rid_all hsends hdrifts (hgo.trim hsends hdrifts hd)
    have hd₂ := hend.trim hsends hdrifts (hgo.trim hsends hdrifts hd)
    obtain ⟨d', htries'⟩ := ih (h₁.trans h₂) hc' hd₂
    exact ⟨d', .settle (hgo.append hend) (isIdle_of_rid (h₁.trans h₂) hc' hd₂ hidle hrid) htries'⟩

/-- Whatever the run comes to without the starts that fail, it differs from what it comes to with
them in what they leave only. -/
theorem Tries.akin (ht : t.Heedless) (hsends : t.Sends .all) (hdrifts : t.Drifts)
    (htries : Tries t c trials c') (htries' : Tries t d (Trial.succeeding trials) d')
    (h : c.Akin d) (hc : c.Trim) (hd : d.Trim) : c'.Akin d' := by
  induction htries generalizing d with
  | done =>
    cases htries'
    exact h
  | fail hway hfail _ ih =>
    obtain ⟨hakin, htrim⟩ := hway.akin hc hfail
    exact ih htries' (hakin.symm.trans h) htrim hd
  | move hm _ ih =>
    cases htries' with
    | move _ hrest =>
      exact ih hrest (h.performOver ht hm) (hc.performOver hsends hdrifts _)
        (hd.performOver hsends hdrifts _)
  | settle hs _ _ ih =>
    cases htries' with
    | settle hs' _ hrest =>
      exact ih hrest (hs.akin ht hsends hdrifts hs' h hc hd) (hs.trim hsends hdrifts hc)
        (hs'.trim hsends hdrifts hd)

/-- What can be read off the events other than refused announcements. -/
theorem Akin.read {α : Type} (h : c.Akin d) {f : Event → Option α}
    (hf : ∀ e : Event, e.isRefusedStart = true → f e = none) :
    c.journal.reverse.filterMap f = d.journal.reverse.filterMap f := by
  have hkept : ∀ l : List Event, l.filterMap f = (l.filter (!·.isRefusedStart)).filterMap f := by
    intro l
    rw [List.filterMap_filter]
    refine List.filterMap_congr fun e _ => ?_
    cases he : e.isRefusedStart with
    | true => simp [hf e he]
    | false => simp
  rw [List.filterMap_reverse, List.filterMap_reverse, hkept, h.journal, ← hkept]

theorem Akin.accepted (h : c.Akin d) : c.accepted = d.accepted := by
  simp only [Connection.accepted, acceptedOf, traffic, List.filterMap_filterMap]
  refine h.read fun e he => ?_
  cases e with
  | offered o verdict =>
    cases verdict with
    | ok => cases he
    | error => rfl
  | _ => rfl

theorem Akin.handled (h : c.Akin d) : c.handled = d.handled := by
  refine h.read fun e he => ?_
  cases e with
  | began => cases he
  | _ => rfl

/-- What can be read off a subscription without its spent workers. -/
theorem Akin.map {α : Type} (h : c.Akin d) (sid : Sid) {f : Subscription → α}
    (hf : ∀ s s' : Subscription, s.pruned = s'.pruned → f s = f s') :
    (c.subscription? sid).map f = (d.subscription? sid).map f := by
  rcases h.subscription?_cases sid with ⟨hc, hd⟩ | ⟨s, s', hc, hd, hs⟩
  · rw [hc, hd]
  · rw [hc, hd]
    exact congrArg some (hf s s' hs)

theorem Akin.matches (h : c.Akin d) : c.Matches d where
  accepted := h.accepted
  handled := h.handled
  delivered sid := h.map sid fun _ _ hs => (congrArg Subscription.delivered hs :)
  pending sid := h.map sid fun _ _ hs => (congrArg (·.queue.pending) hs :)
  valid sid := h.map sid fun _ _ hs => (congrArg Subscription.valid hs :)
  started sid := h.map sid fun _ _ hs => Subscription.isStarted_of_pruned_eq hs

/-- A run in which starts are rejected, in between of anything else and any number of times, over a
transport that may react to frames and bar any of them but takes no notice of what such starts leave
behind. It comes to the same as the run without them, in which the tasks take their turns in the
same order, and a start that is tried next answers the same. Right after each of them the
subscription is valid, not started, and its queue is unchanged; and a subscription that is made to
be started leaves no more than its number when its announcement is rejected. -/
theorem failed_starts_leave_no_trace (hgate : gate.Heedless) (o : Session.Opening) (id : Nat)
    (clock : Instant) (handle : Nat) (moves : List Move)
    (h : Tries (gated gate) ((o.connect id clock handle).runOver (gated gate) moves) trials c) :
    (∃ d, Tries (gated gate) ((o.connect id clock handle).runOver (gated gate) moves)
        (Trial.succeeding trials) d) ∧
      (∀ d, Tries (gated gate) ((o.connect id clock handle).runOver (gated gate) moves)
          (Trial.succeeding trials) d → c.Matches d ∧ ∀ sid,
            (c.startSubscription (gated gate) sid).1 = (d.startSubscription (gated gate) sid).1) ∧
      (∀ bar t sid e c', c.Direct bar t →
        c.startSubscription t sid = (.error (.transport e), c') → Unstarted sid c c') ∧
      ∀ bar t handle plan e c', c.Direct bar t →
        c.subscribe t handle plan = (.error (.subscription e), c') → Unmade bar c c' := by
  have ht : Transport.Heedless (gated gate) := heedless_gated hgate
  have hsends : Transport.Sends .all (gated gate) := sends_gated gate
  have hdrifts : Transport.Drifts (gated gate) := drifts_gated gate
  have hstart := (trim_connect o id clock handle).runOver hsends hdrifts moves
  have htrim := h.trim hsends hdrifts hstart
  refine ⟨h.exists_succeeding ht hsends hdrifts (.refl _) hstart hstart, fun d h' => ?_,
    fun bar t sid e c' hway hfail => ?_, fun bar t handle plan e c' hway hfail => ?_⟩
  · have hakin := h.akin ht hsends hdrifts h' (.refl _) hstart hstart
    exact ⟨hakin.matches, fun sid => (hakin.startSubscription ht sid).fst⟩
  · rw [hway.startSubscription] at hfail
    exact unstarted_of_failed (plain_offerThrough bar) hfail
  · exact unmade_of_failed htrim hway hfail

/-! ## A run with starts that fail -/

theorem GoesOn.of_spent {order : List Go} (sid : Sid) (i : Nat)
    (h : (c.subscription? sid).any (fun s => (s.workers[i]?).any Worker.isSpent) = true)
    (hrest : GoesOn t (c.stepWorker t sid i).2 order c') : GoesOn t c order c' := by
  obtain ⟨s, hs, hworker⟩ := (Option.any_eq_true _ _).1 h
  obtain ⟨w, hw, hspent⟩ := (Option.any_eq_true _ _).1 hworker
  exact .spent hs hw hspent hrest

theorem GoesOn.of_live {order : List Go} (sid : Sid) (i : Nat) {told : Bool}
    (h : (c.subscription? sid).any (fun s =>
      (s.workers[i]?).any fun w => !w.isSpent && w.cancelled == told) = true)
    (hrest : GoesOn t (c.stepWorker t sid i).2 order c') :
    GoesOn t c (.worker sid told :: order) c' := by
  obtain ⟨s, hs, hworker⟩ := (Option.any_eq_true _ _).1 h
  obtain ⟨w, hw, hlive⟩ := (Option.any_eq_true _ _).1 hworker
  obtain ⟨hlive, htold⟩ := Bool.and_eq_true_iff.1 hlive
  obtain rfl := eq_of_beq htold
  exact .go (.worker hs hw (by simpa using hlive)) hrest

/-- A start over the connection's own transport, to whose frames nothing reacts. -/
theorem Tries.of_still {e : TransportError} (bar : Gate) (hstill : c.reactions = [])
    (hfail : (c.startSubscription (gated bar) sid).1 = .error (.transport e))
    (h : Tries t (c.startSubscription (gated bar) sid).2 trials c') :
    Tries t c (.fail sid e :: trials) c' :=
  .fail (.own hstill) (Prod.ext hfail rfl) h

/-- The theorem applies to a subscription whose start is rejected twice because the channel is full,
with a message that arrives in between. -/
theorem failed_starts_leave_no_trace_full :
    let start := Session.Opening.connect { token := "", capacity := 1 } 0 0 1
    let trials : List Trial := [
      .move (.build 1 { subject := "a", handler := some (.mk "" [] []) }),
      .move (.publish "b" .empty), .fail 1 .queueFull, .move (.deliver 1 { subject := "a" }),
      .settle [.sweeper], .fail 1 .queueFull, .move (.receive 1), .move (.start 1),
      .settle [.worker 1 false, .worker 1 false, .worker 1 false]]
    ∃ c d, Tries (gated .clear) start trials c ∧
      Tries (gated .clear) start (Trial.succeeding trials) d ∧
      (c.subscription? 1).any (·.workers.length = 3) = true ∧
      (d.subscription? 1).any (·.workers.length = 1) = true ∧
      c.handled.length = 1 ∧ c.Matches d := by
  intro start trials
  have hfailed : ∃ c, Tries (gated .clear) start trials c ∧
      (c.subscription? 1).any (·.workers.length = 3) = true ∧ c.handled.length = 1 :=
    ⟨_, .move nofun <| .move nofun <|
      .of_still .clear (by decide +kernel) (by decide +kernel) <| .move nofun <|
      .settle (.of_spent 1 0 (by decide +kernel) <| .go (.sweeper _) <| .rest _)
        (by decide +kernel) <|
      .of_still .clear (by decide +kernel) (by decide +kernel) <| .move nofun <| .move nofun <|
      -- the last worker is the one that runs, after the others ended
      .settle (.of_live 1 2 (by decide +kernel) <| .of_spent 1 1 (by decide +kernel) <|
        .of_live 1 2 (by decide +kernel) <| .of_live 1 2 (by decide +kernel) <| .rest _)
        (by decide +kernel) <| .done _,
      by decide +kernel, by decide +kernel⟩
  have hplain : ∃ d, Tries (gated .clear) start (Trial.succeeding trials) d ∧
      (d.subscription? 1).any (·.workers.length = 1) = true :=
    ⟨_, .move nofun <| .move nofun <| .move nofun <|
      .settle (.go (.sweeper _) <| .rest _) (by decide +kernel) <| .move nofun <| .move nofun <|
      .settle (.of_live 1 0 (by decide +kernel) <| .of_live 1 0 (by decide +kernel) <|
        .of_live 1 0 (by decide +kernel) <| .rest _) (by decide +kernel) <| .done _,
      by decide +kernel⟩
  obtain ⟨c, h, hworkers, hhandled⟩ := hfailed
  obtain ⟨d, h', hworkers'⟩ := hplain
  have hclear : Gate.Heedless .clear := fun _ _ _ _ => rfl
  have hleft := failed_starts_leave_no_trace hclear { token := "", capacity := 1 } 0 0 1 [] h
  exact ⟨c, d, h, h', hworkers, hworkers', hhandled, (hleft.2.1 d h').1⟩

end PubSub.Connection
