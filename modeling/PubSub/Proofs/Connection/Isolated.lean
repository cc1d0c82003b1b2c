import PubSub.Proofs.Connection.Reports
import PubSub.Proofs.Connection.Rest
import PubSub.Proofs.Connection.Turn
import PubSub.Proofs.Sweeper.Plan

/-!
# Subscriptions are isolated

In two runs that differ in what is addressed to one subscription, and in what its handler does, every
other part of the connection is seen to be the same. What is seen of a part changes in one way only:
at any time at most one task can change it (`Connection.Acts.alike`). So wherever the tasks of a part have
gone as far as they can, they have come to the same (`Connection.Settles.alike`).

## Main results

- `Connection.Unfolds.alike` — two runs make the same of every part but the free subscription
- `Connection.subscriptions_isolated` — what that says of messages, counts, frames and requests
-/

namespace PubSub

variable {t : Transport}

theorem Transport.Accepts.drifts (ht : t.Accepts) : t.Drifts := by
  intro o c
  obtain ⟨outbound, heq⟩ := ht o c
  rw [heq]
  have hout : c.Drifts (fun _ => True) { c with outbound := outbound } :=
    .of_same rfl fun _ => .of_eq rfl rfl rfl
  exact hout.trans (Connection.drifts_log _ rfl)

theorem Transport.Accepts.sends (ht : t.Accepts) : t.Sends .all := by
  intro o c _ _
  obtain ⟨outbound, heq⟩ := ht o c
  refine ⟨c, outbound, .refl c, Or.inl trivial, ?_⟩
  rw [heq]
  rfl

theorem Transport.accepts_recording : Transport.recording.Accepts := fun _ c =>
  ⟨{ c.outbound with entries := _ }, rfl⟩

/-- A worker that goes on to anything but its end leaves its subscription tended. -/
theorem Subscription.Tended.setPhase {s : Subscription} (h : s.Tended) (i : Nat)
    {p : Worker.Phase} (hp : p ≠ .finished) : (s.setPhase i p).Tended where
  counted := h.counted
  ended hvalid j hj := by
    rw [Subscription.phase?_setPhase] at hj
    split at hj
    · obtain ⟨-, -, hfinished⟩ := Option.map_eq_some_iff.1 hj
      exact absurd hfinished hp
    · exact (h.ended hvalid j hj).setPhase i p

/-- A sweeper that cannot go on does nothing. -/
theorem Sweeper.step_of_not_isReady {sw : Sweeper} {reg : Registry} {now : Instant}
    (h : sw.isReady reg now = false) : sw.step reg now = (sw, reg) := by
  unfold isReady at h
  unfold step
  split at h
  · cases h
  · next wakeAt hphase =>
    simp only [Bool.or_eq_false_iff] at h
    obtain ⟨⟨hshutdown, hlate⟩, hsignal⟩ := h
    simp [hshutdown, hsignal, of_decide_eq_false hlate]
  · rfl

namespace Connection

variable {part : Part} {free sid : Sid} {inbox : Inbox} {c c' d d' : Connection}

/-! ## What holds along every run -/

/-- What holds of a connection with the given reply subjects, whatever is done to it. -/
structure Steady (inbox : Inbox) (c : Connection) : Prop where
  sound : c.Sound fun _ => False
  intact : c.Intact
  tended : c.Tended
  base : c.inbox.base = inbox.base

theorem steady_connect (o : Session.Opening) (id : Nat) (clock : Instant) (handle : Nat) :
    (o.connect id clock handle).Steady (o.connect id clock handle).inbox where
  sound := sound_connect o id clock handle
  intact := .connect o id clock handle
  tended _ _ hs := by cases hs
  base := rfl

theorem Steady.performOver (ht : t.Accepts) (h : c.Steady inbox) (m : Move) :
    (c.performOver t m).Steady inbox :=
  have hflow := (course_performOver ht.sends ht.drifts (suits_all c) (allows_all c m)).flow
  { sound := h.sound.performOver ht.drifts m fun _ hf => hf.elim
    intact := hflow.intact h.intact
    tended := h.tended.performOver ht.sends ht.drifts h.sound h.intact m
    base := hflow.base.trans h.base }

/-- An invocation may have anything left to do. -/
theorem Steady.sway (h : c.Steady inbox) {i : Nat} {invocation : Invocation}
    (hi : c.invocationAt? sid i = some invocation) (script : List Action)
    (wakeAt : Option Instant) : (c.setPhase sid i
      (.handling { invocation with script := script, wakeAt := wakeAt })).Steady inbox := by
  obtain ⟨s, w, hs, hw, hp⟩ := invocationAt?_eq_some_iff.1 hi
  have hphase : s.phase? i = some (.handling invocation) :=
    Subscription.phase?_eq_some_iff.2 ⟨w, hw, hp⟩
  have halters := alters_setPhase (record?_of_subscription? hs) i
    (.handling { invocation with script := script, wakeAt := wakeAt })
  have hsound := h.sound.each <| halters.each (fun _ _ hv => hv) fun hv => {
    orderly := { hv.orderly with
      disciplined := hv.orderly.disciplined.setPhase i _
      receiver := hv.orderly.receiver.setPhase fun _ => ⟨_, hphase, trivial⟩ }
    limited := hv.limited.resume hphase rfl rfl
    settled := fun hf => hf.elim }
  have hflow : c.Flow (fun _ => True) (c.setPhase sid i
      (.handling { invocation with script := script, wakeAt := wakeAt })) := by
    refine .shift c (fun _ hs => hs) fun s' hs' => .turn s' i fun invocation' heq => ?_
    obtain rfl := Option.some.inj (hs.symm.trans hs')
    cases heq
    exact ⟨invocation, hphase, rfl, rfl, rfl⟩
  refine ⟨hsound, hflow.intact h.intact, fun other s' hs' => ?_, hflow.base.trans h.base⟩
  rcases modifySubscription_cases (f := fun s => s.setPhase i _) (fun _ hs => hs) hs' with
    ⟨-, s₀, hs₀, rfl⟩ | ⟨-, hsame⟩
  · exact (h.tended sid s₀ hs₀).setPhase i (by simp)
  · exact h.tended other s' hsame

theorem Steady.turn (ht : t.Accepts) (h : c.Steady inbox) (hturn : Turn t free c c') :
    c'.Steady inbox := by
  cases hturn with
  | worker hmild => exact h.performOver ht (.stepWorker _ _)
  | sweeper => exact h.performOver ht .stepSweeper
  | sway hi script wakeAt => exact h.sway hi script wakeAt

theorem Steady.settles (ht : t.Accepts) (h : c.Steady inbox) (hs : Settles t free c c') :
    c'.Steady inbox := by
  obtain ⟨hturns, -⟩ := hs
  induction hturns with
  | refl => exact h
  | tail _ hturn ih => exact ih.turn ht hturn

theorem Steady.passes (ht : t.Accepts) (h : c.Steady inbox) {target : Instant}
    (hp : Passes t free target c c') : c'.Steady inbox := by
  induction hp with
  | arrive _ hs => exact h.settles ht hs
  | tick _ hs _ ih => exact ih ((h.settles ht hs).performOver ht (.setClock _))

/-! ## At most one task can be seen to go on -/

theorem alike_stepSweeper (c : Connection) (sid : Sid) :
    c.Alike (.subscription sid) c.stepSweeper := by
  show c.within (.subscription sid) = { c.within (.subscription sid) with
    sweeper := { (c.sweeper.step c.registry c.clock).1 with phase := .planning } }
  rw [Sweeper.step_eq]
  rfl

theorem Alike.stepSweeper (h : c.Alike .desk d) : c.stepSweeper.Alike .desk d.stepSweeper := by
  have hregistry : c.registry = d.registry := h.registry
  have hsweeper : c.sweeper = d.sweeper := h.sweeper
  have heq : ∀ c : Connection, c.stepSweeper.within .desk = { c.within .desk with
      sweeper := (c.sweeper.step c.registry c.clock).1
      registry := (c.sweeper.step c.registry c.clock).2 } := fun _ => rfl
  rw [Alike, heq c, heq d, h.within, hregistry, hsweeper, h.clock]

/-- A task of a part goes on whose turn can be seen. -/
inductive Acts (t : Transport) : Part → Connection → Connection → Prop where
  | worker {c : Connection} {sid : Sid} {i : Nat} {s : Subscription}
    (hs : c.subscription? sid = some s) (h : s.MayAct i) (hmild : c.isMild sid i = true) :
    Acts t (.subscription sid) c (c.stepWorker t sid i).2
  | sweeper (c : Connection) : Acts t .desk c c.stepSweeper

/-- No other turn can be seen. -/
theorem Turn.acts (ht : t.Accepts) (hfree : part.holds free = false) (h : Turn t free c c')
    (hseen : ¬c.Alike part c') : Acts t part c c' := by
  cases h with
  | @worker sid i hmild =>
    cases hp : part.holds sid with
    | false => exact absurd (alike_stepWorker ht c hp hmild) hseen
    | true =>
      obtain rfl := eq_of_holds hp
      cases hs : c.subscription? sid with
      | none =>
        refine absurd ?_ hseen
        simp only [stepWorker, hs]
        exact .refl _ c
      | some s =>
        by_cases hacts : s.MayAct i
        · exact .worker hs hacts hmild
        · exact absurd (alike_stepWorker_of_not_mayAct hs hacts) hseen
  | sweeper =>
    cases part with
    | desk => exact .sweeper c
    | subscription sid => exact absurd (alike_stepSweeper c sid) hseen
  | sway => exact absurd (alike_setPhase c hfree _ _) hseen

theorem Steady.disciplined (h : c.Steady inbox) {s : Subscription}
    (hs : c.subscription? sid = some s) : s.Disciplined ∧ s.OneReceiver :=
  have ho := (h.sound.record sid _ (record?_of_subscription? hs)).orderly
  ⟨ho.disciplined, ho.receiver⟩

/-- Whichever task it is, it makes the same of parts that are seen to be the same. -/
theorem Acts.alike (ht : t.Accepts) (h : c.Alike part d) (hc : c.Steady inbox)
    (hd : d.Steady inbox) (ha : Acts t part c c') (hb : Acts t part d d') : c'.Alike part d' := by
  cases ha with
  | @worker _ sid i s hs hacts hmild =>
    cases hb with
    | @worker _ _ j s' hs' hacts' =>
      have hsub := h.subscription? (beq_self_eq_true sid)
      rw [hs, hs'] at hsub
      have hseen := Option.some.inj hsub
      obtain ⟨hdisciplined, hreceiver⟩ := hd.disciplined hs'
      obtain rfl : i = j := (hacts.of_seen_eq hseen).unique hacts' hdisciplined hreceiver
      exact h.stepWorker ht hs hs' hseen (hc.disciplined hs).1 hdisciplined hacts hmild
  | sweeper =>
    cases hb
    exact h.stepSweeper

/-- At rest only workers of the free subscription can go on. -/
theorem not_isReady_of_rest {s : Subscription} (hrest : c.isAtRest free = true)
    (hs : c.subscription? sid = some s) (hother : sid ≠ free) (i : Nat) :
    s.isReady i c.clock = false := by
  have hall := List.all_eq_true.1 (Bool.and_eq_true_iff.1 hrest).2 s (List.mem_of_find?_eq_some hs)
  have hne : (s.sid == free) = false := beq_false_of_ne (sid_of_subscription? hs ▸ hother)
  rw [hne, Bool.false_or, List.all_eq_true] at hall
  by_cases hlt : i < s.workers.length
  · simpa using hall i (List.mem_range.2 hlt)
  · simp only [Subscription.isReady, List.getElem?_eq_none (Nat.le_of_not_lt hlt)]

/-- What is delivered to another subscription does not wait for the free one. -/
theorem Steady.keptUp (h : c.Steady inbox) (hrest : c.isAtRest free = true) : c.KeptUp free :=
  fun sid s hother hs hvalid hstarted hidle =>
    (h.tended sid s hs).queue_eq_nil (h.disciplined hs).1 (not_isReady_of_rest hrest hs hother) hvalid
      hstarted hidle

/-- A task that cannot go on stays where it is. -/
theorem alike_of_rest (hfree : part.holds free = false) (hrest : c.isAtRest free = true)
    (hd : d.Steady inbox) (hc : c.Steady inbox) (ht : t.Accepts) (h : d.Alike part c)
    (ha : Acts t part d d') : d'.Alike part c := by
  cases ha with
  | @worker _ sid i s hs hacts hmild =>
    have hother : sid ≠ free := Ne.symm (by simpa [Part.holds] using hfree)
    rcases h.subscription?_cases (beq_self_eq_true sid) with ⟨hnone, -⟩ | ⟨s₀, s', hs₀, hs', hseen⟩
    · rw [hs] at hnone
      cases hnone
    · obtain rfl := Option.some.inj (hs.symm.trans hs₀)
      have hstep := h.stepWorker ht hs hs' hseen (hd.disciplined hs).1 (hc.disciplined hs').1 hacts
        hmild
      rw [stepWorker_of_not_isReady hs' (not_isReady_of_rest hrest hs' hother i)] at hstep
      exact hstep
  | sweeper =>
    have hnot : c.sweeper.isReady c.registry c.clock = false := by
      simpa using (Bool.and_eq_true_iff.1 hrest).1
    have hstays : c.stepSweeper = c := by simp only [stepSweeper, Sweeper.step_of_not_isReady hnot]
    have hstep := h.stepSweeper
    rw [hstays] at hstep
    exact hstep

/-! ## Settling -/

theorem turn_performOver {m : Move} (h : c.isMildTurn m = true) : Turn t free c (c.performOver t m) := by
  cases m with
  | stepWorker => exact .worker c h
  | stepSweeper => exact .sweeper c
  | _ => cases h

theorem turns_runOver {moves : List Move} (h : c.areMildTurns t moves = true) :
    Relation.ReflTransGen (Turn t free) c (c.runOver t moves) := by
  induction moves generalizing c with
  | nil => exact .refl
  | cons m moves ih =>
    obtain ⟨hm, hmoves⟩ := Bool.and_eq_true_iff.1 h
    exact .head (turn_performOver hm) (ih hmoves)

theorem settles_runOver (moves : List Move) (hturns : c.areMildTurns t moves = true)
    (hrest : (c.runOver t moves).isAtRest free = true) : Settles t free c (c.runOver t moves) :=
  ⟨turns_runOver hturns, hrest⟩

/-- What is seen of a part changes by a turn. -/
def Stirs (t : Transport) (inbox : Inbox) (free : Sid) (part : Part) (v v' : Connection) : Prop :=
  ∃ c c' : Connection, c.Steady inbox ∧ Turn t free c c' ∧ c.within part = v ∧
    c'.within part = v' ∧ v ≠ v'

theorem stirs_rightUnique (ht : t.Accepts) (hfree : part.holds free = false) :
    Relator.RightUnique (Stirs t inbox free part) := by
  rintro v v' v'' ⟨c, c', hc, hturn, rfl, rfl, hne⟩ ⟨d, d', hd, hturn', heq, rfl, hne'⟩
  have h : c.Alike part d := heq.symm
  rw [← heq] at hne'
  exact Acts.alike ht h hc hd (hturn.acts ht hfree hne) (hturn'.acts ht hfree hne')

theorem stirs_of_turns (part : Part) (ht : t.Accepts) (hc : c.Steady inbox)
    (h : Relation.ReflTransGen (Turn t free) c c') :
    Relation.ReflTransGen (Stirs t inbox free part) (c.within part) (c'.within part) := by
  have hboth : c'.Steady inbox ∧
      Relation.ReflTransGen (Stirs t inbox free part) (c.within part) (c'.within part) := by
    induction h with
    | refl => exact ⟨hc, .refl⟩
    | @tail c₁ c₂ _ hturn ih =>
      obtain ⟨hsteady, hstirs⟩ := ih
      refine ⟨hsteady.turn ht hturn, ?_⟩
      by_cases heq : c₁.within part = c₂.within part
      · rw [← heq]
        exact hstirs
      · exact hstirs.tail ⟨c₁, c₂, hsteady, hturn, rfl, rfl, heq⟩
  exact hboth.2

theorem not_stirs_of_rest (ht : t.Accepts) (hfree : part.holds free = false) (hc : c.Steady inbox)
    (hrest : c.isAtRest free = true) (v : Connection) :
    ¬Stirs t inbox free part (c.within part) v := by
  rintro ⟨d, d', hd, hturn, heq, rfl, hne⟩
  have h : d.Alike part c := heq
  rw [← heq] at hne
  exact hne (h.trans (alike_of_rest hfree hrest hd hc ht h (hturn.acts ht hfree hne)).symm)

/-- Wherever the tasks have gone as far as they can, they have come to the same. -/
theorem Settles.alike (ht : t.Accepts) (hfree : part.holds free = false) (h : c.Alike part d)
    (hc : c.Steady inbox) (hd : d.Steady inbox) (hs : Settles t free c c')
    (hs' : Settles t free d d') : c'.Alike part d' := by
  have hstirs := stirs_of_turns part ht hc hs.turns
  have hstirs' := stirs_of_turns part ht hd hs'.turns
  rw [← h.within] at hstirs'
  have hstuck := not_stirs_of_rest ht hfree (hc.settles ht hs) hs.rest
  have hstuck' := not_stirs_of_rest ht hfree (hd.settles ht hs') hs'.rest
  -- one of the two goes on to the other, and neither goes on at all
  rcases hstirs.total_of_right_unique (stirs_rightUnique ht hfree) hstirs' with hon | hon
  · rcases hon.cases_head with heq | ⟨v, hv, -⟩
    · exact heq
    · exact absurd hv (hstuck v)
  · rcases hon.cases_head with heq | ⟨v, hv, -⟩
    · exact heq.symm
    · exact absurd hv (hstuck' v)

theorem Alike.setClock (h : c.Alike part d) (now : Instant) :
    ({ c with clock := now } : Connection).Alike part { d with clock := now } :=
  congrArg (fun c : Connection => ({ c with clock := now } : Connection)) h.within

/-- The same holds while time passes. -/
theorem Passes.alike (ht : t.Accepts) (hfree : part.holds free = false) (h : c.Alike part d)
    (hc : c.Steady inbox) (hd : d.Steady inbox) {target : Instant} (hp : Passes t free target c c')
    (hp' : Passes t free target d d') : c'.Alike part d' := by
  induction hp generalizing d with
  | arrive harrived hs =>
    cases hp' with
    | arrive _ hs' => exact Settles.alike ht hfree h hc hd hs hs'
    | tick hlate => exact absurd (h.clock ▸ harrived) (Nat.not_le_of_lt hlate)
  | @tick c c₁ c' hlate hs _ ih =>
    cases hp' with
    | arrive harrived => exact absurd (h.clock ▸ harrived) (Nat.not_le_of_lt hlate)
    | @tick _ d₁ _ _ hs' hp' =>
      have hsettled := Settles.alike ht hfree h hc hd hs hs'
      rw [← h.clock] at hp'
      exact ih (hsettled.setClock _) ((hc.settles ht hs).performOver ht (.setClock _))
        ((hd.settles ht hs').performOver ht (.setClock _)) hp'

/-! ## Runs -/

/-- What one cue comes to, as far as a part can tell. -/
inductive Takes (t : Transport) (free : Sid) (part : Part) (c c' : Connection) : Cue → Prop where
  | move {m : Move} (hexternal : m.isExternal = true) (hopen : c.shutsDown m = false)
    (h : (c.performOver t m).Alike part c') : Takes t free part c c' (.move m)
  | settle (hs : Settles t free c c') : Takes t free part c c' .settle
  | advance {target : Instant} (hp : Passes t free target c c') :
    Takes t free part c c' (.advance target)

theorem Steady.unfolds (ht : t.Accepts) (h : c.Steady inbox) {cues : List Cue}
    (hu : Unfolds t free c cues c') : c'.Steady inbox := by
  induction hu with
  | done => exact h
  | move _ _ _ ih | make _ _ ih => exact ih (h.performOver ht _)
  | settle hs _ ih => exact ih (h.settles ht hs)
  | advance hp _ ih => exact ih (h.passes ht hp)

theorem Unfolds.takes (part : Part) (ht : t.Accepts) (hfree : part.holds free = false) {cue : Cue}
    {cues : List Cue} (h : Unfolds t free c (cue :: cues) c') (hc : c.Steady inbox) :
    ∃ c₁, c₁.Steady inbox ∧ Unfolds t free c₁ cues c' ∧ Takes t free part c c₁ cue := by
  cases h with
  | move hexternal hopen h => exact ⟨_, hc.performOver ht _, h, .move hexternal hopen (.refl part _)⟩
  | make hnumber h =>
    have hp : part.holds (c.issuedSids + 1) = false := hnumber ▸ hfree
    exact ⟨_, hc.performOver ht _, h, .move rfl rfl (alike_subscribe ht c _ _ hp).symm⟩
  | settle hs h => exact ⟨_, hc.settles ht hs, h, .settle hs⟩
  | advance hp h => exact ⟨_, hc.passes ht hp, h, .advance hp⟩

theorem Takes.alike (ht : t.Accepts) (hfree : part.holds free = false) (h : c.Alike part d)
    (hc : c.Steady inbox) (hd : d.Steady inbox) {cue : Cue} (hcue : Takes t free part c c' cue)
    (hcue' : Takes t free part d d' cue) : c'.Alike part d' := by
  cases hcue with
  | move hexternal hopen hperformed =>
    cases hcue' with
    | move _ _ hperformed' =>
      exact hperformed.symm.trans ((h.performOver ht hexternal hopen).trans hperformed')
  | settle hs =>
    cases hcue' with
    | settle hs' => exact Settles.alike ht hfree h hc hd hs hs'
  | advance hp =>
    cases hcue' with
    | advance hp' => exact Passes.alike ht hfree h hc hd hp hp'

/-- What is addressed to the free subscription is no concern of the part. -/
theorem Takes.alike_of_isFor (ht : t.Accepts) (hfree : part.holds free = false)
    (hc : c.Steady inbox) {cue : Cue} (hcue : Takes t free part c c' cue)
    (hfor : cue.isFor inbox free = true) : c.Alike part c' := by
  cases hcue with
  | move _ _ hperformed =>
    exact (alike_performOver_of_isFor ht c hc.base.symm hfor hfree).trans hperformed
  | settle | advance => cases hfor

/-- A run up to the first cue that is not addressed to the free subscription. -/
theorem Unfolds.skip (ht : t.Accepts) (hfree : part.holds free = false) {cues : List Cue}
    (h : Unfolds t free c cues c') (hc : c.Steady inbox) :
    c.Alike part c' ∧ Cue.apart inbox free cues = [] ∨
      ∃ c₁ cue rest, c₁.Steady inbox ∧ c.Alike part c₁ ∧ Unfolds t free c₁ (cue :: rest) c' ∧
        Cue.apart inbox free cues = cue :: Cue.apart inbox free rest := by
  induction cues generalizing c with
  | nil =>
    cases h
    exact Or.inl ⟨.refl part _, rfl⟩
  | cons cue cues ih =>
    cases hfor : cue.isFor inbox free with
    | false => exact Or.inr ⟨c, cue, cues, hc, .refl part c, h, by simp [Cue.apart, hfor]⟩
    | true =>
      obtain ⟨c₁, hc₁, hrest, htakes⟩ := h.takes part ht hfree hc
      have halike := htakes.alike_of_isFor ht hfree hc hfor
      have hdropped : Cue.apart inbox free (cue :: cues) = Cue.apart inbox free cues := by
        simp [Cue.apart, hfor]
      rw [hdropped]
      rcases ih hrest hc₁ with ⟨hend, hnone⟩ | ⟨c₂, cue', rest, hc₂, halike', hrun, heq⟩
      · exact Or.inl ⟨halike.trans hend, hnone⟩
      · exact Or.inr ⟨c₂, cue', rest, hc₂, halike.trans halike', hrun, heq⟩

/-- Runs that differ only in what is addressed to the free subscription, and in what its handler does,
make the same of every other part. -/
theorem Unfolds.alike (ht : t.Accepts) (hfree : part.holds free = false) {cues cues' : List Cue}
    (hcues : Cue.apart inbox free cues = Cue.apart inbox free cues') (h : Unfolds t free c cues c')
    (h' : Unfolds t free d cues' d') (hc : c.Steady inbox) (hd : d.Steady inbox)
    (hparts : c.Alike part d) : c'.Alike part d' := by
  -- the induction is on what both runs have in common
  generalize hcommon : Cue.apart inbox free cues = common at hcues
  induction common generalizing c d cues cues' with
  | nil =>
    rcases h.skip ht hfree hc with ⟨hend, -⟩ | ⟨_, _, _, _, _, _, heq⟩
    · rcases h'.skip ht hfree hd with ⟨hend', -⟩ | ⟨_, _, _, _, _, _, heq'⟩
      · exact hend.symm.trans (hparts.trans hend')
      · rw [heq'] at hcues
        cases hcues
    · rw [heq] at hcommon
      cases hcommon
  | cons cue common ih =>
    rcases h.skip ht hfree hc with ⟨-, hnone⟩ | ⟨c₁, cue₁, rest, hc₁, hskip, hrun, heq⟩
    · rw [hnone] at hcommon
      cases hcommon
    · rcases h'.skip ht hfree hd with ⟨-, hnone'⟩ | ⟨d₁, cue₁', rest', hd₁, hskip', hrun', heq'⟩
      · rw [hnone'] at hcues
        cases hcues
      · obtain ⟨rfl, hrest⟩ := List.cons.inj (heq.symm.trans hcommon)
        obtain ⟨rfl, hrest'⟩ := List.cons.inj (hcues.trans heq')
        have hparts₁ : c₁.Alike part d₁ := hskip.symm.trans (hparts.trans hskip')
        obtain ⟨c₂, hc₂, hlater, htakes⟩ := hrun.takes part ht hfree hc₁
        obtain ⟨d₂, hd₂, hlater', htakes'⟩ := hrun'.takes part ht hfree hd₁
        exact ih hlater hlater' hc₂ hd₂ (htakes.alike ht hfree hparts₁ hc₁ hd₁ htakes') hrest hrest'

/-! ## What is seen of a part -/

/-- What is read off the events that concern a part. -/
theorem Alike.read {α : Type} (h : c.Alike part d) {f : Event → Option α}
    (hf : ∀ e, part.hears e = false → f e = none) :
    c.journal.reverse.filterMap f = d.journal.reverse.filterMap f := by
  have hheard : ∀ l : List Event, l.filterMap f = (l.filter part.hears).filterMap f := by
    intro l
    rw [List.filterMap_filter]
    refine List.filterMap_congr fun e _ => ?_
    cases he : part.hears e with
    | true => simp
    | false => simp [hf e he]
  rw [List.filterMap_reverse, List.filterMap_reverse, hheard, h.journal, ← hheard]

theorem Alike.handledBy (h : c.Alike (.subscription sid) d) : c.handledBy sid = d.handledBy sid := by
  simp only [Connection.handledBy, Connection.handled, List.filterMap_filterMap]
  refine h.read fun e he => ?_
  cases e with
  | began other handler m =>
    have hne : other ≠ sid := by simpa [Part.hears, Event.about?, Event.sid?, Part.holds] using he
    simp [Event.begun?, hne]
  | _ => rfl

theorem Alike.trafficOf (h : c.Alike (.subscription sid) d) : c.trafficOf sid = d.trafficOf sid := by
  simp only [Connection.trafficOf, Connection.traffic, List.filter_filterMap]
  refine h.read fun e he => ?_
  cases e with
  | offered o verdict =>
    have hne : o.frame.sid? ≠ some sid := by
      intro hsid
      simp [Part.hears, Event.about?, hsid, Part.holds] at he
    simp [Event.offer?, hne]
  | _ => rfl

/-- What can be read off a subscription as it is seen. -/
theorem Alike.map {α : Type} (h : c.Alike (.subscription sid) d) {f : Subscription → α}
    (hf : ∀ s s' : Subscription, s.seen = s'.seen → f s = f s') :
    (c.subscription? sid).map f = (d.subscription? sid).map f := by
  rcases h.subscription?_cases (beq_self_eq_true sid) with ⟨hc, hd⟩ | ⟨s, s', hc, hd, hs⟩
  · rw [hc, hd]
  · rw [hc, hd]
    exact congrArg some (hf s s' hs)

/-- Connections of which everything is seen to be the same but one subscription agree apart from
it. -/
theorem agreesApart_of_alike (hsub : ∀ sid, sid ≠ free → d.Alike (.subscription sid) c)
    (hdesk : d.Alike .desk c) : c.AgreesApart free d where
  handled sid hne := (hsub sid hne).handledBy
  delivered sid hne := (hsub sid hne).map fun _ _ h => (congrArg Subscription.delivered h :)
  pending sid hne := (hsub sid hne).map fun _ _ h => (congrArg (·.queue.pending) h :)
  valid sid hne := (hsub sid hne).map fun _ _ h => (congrArg Subscription.valid h :)
  started sid hne := (hsub sid hne).map fun _ _ h => Subscription.isStarted_of_seen_eq h
  traffic sid hne := (hsub sid hne).trafficOf
  registry := hdesk.registry

/-- Two runs over a transport that accepts every frame, whose handlers only do what is plain. The same
is done in both, except that different things may be addressed to the free subscription, and its handler
is free in how long it is suspended and in how it ends. They agree apart from that subscription; since
every beginning of such a run is such a run, they do so wherever both settle. And there, whatever the
handler of the free subscription is at, no other subscription lags behind. -/
theorem subscriptions_isolated (ht : t.Accepts) (o : Session.Opening) (id : Nat) (clock : Instant)
    (handle : Nat) (free : Sid) {cues cues' : List Cue} {c c' : Connection}
    (hcues : Cue.apart (o.connect id clock handle).inbox free cues =
      Cue.apart (o.connect id clock handle).inbox free cues')
    (h : Unfolds t free (o.connect id clock handle) cues c)
    (h' : Unfolds t free (o.connect id clock handle) cues' c') :
    c.AgreesApart free c' ∧ (c.isAtRest free = true → c.KeptUp free) := by
  have hsteady := steady_connect o id clock handle
  refine ⟨agreesApart_of_alike (fun sid hne => ?_) ?_, fun hrest => ?_⟩
  · exact Unfolds.alike ht (beq_false_of_ne (Ne.symm hne)) hcues.symm h' h hsteady hsteady (.refl _ _)
  · exact Unfolds.alike ht rfl hcues.symm h' h hsteady hsteady (.refl _ _)
  · exact (hsteady.unfolds ht h).keptUp hrest

/-- The theorem applies to a handler that is still asleep when the time is up, and to the same run but
that it was exchanged for one that fails at once. The other handler is given its message in both. -/
theorem subscriptions_isolated_asleep :
    let start := Session.Opening.connect { token := "" } 0 0 1
    let plan (handler : Handler) : SubscriptionPlan := { subject := "a", handler := some handler }
    let before : List Cue := [.move (.subscribe 1 (plan (.mk "" [] [.sleep 5]))),
      .move (.subscribe 1 (plan (.mk "" [] [])))]
    let after : List Cue := [.move (.deliver 1 { subject := "a" }),
      .move (.deliver 2 { subject := "a" }), .settle, .advance 1]
    ∃ c c', Unfolds Transport.recording 1 start (before ++ after) c ∧
      Unfolds Transport.recording 1 start
        (before ++ .move (.setHandler 1 (.mk "" [] [.fail "early"])) :: after) c' ∧
      (c.subscription? 1).any (·.isHandling) = true ∧
      (c'.subscription? 1).any (·.isHandling) = false ∧
      (c.handledBy 2).length = 1 ∧ c.AgreesApart 1 c' ∧ c.KeptUp 1 := by
  intro start plan before after
  have hasleep : ∃ c, Unfolds Transport.recording 1 start (before ++ after) c ∧
      (c.subscription? 1).any (·.isHandling) = true ∧ (c.handledBy 2).length = 1 ∧
      c.isAtRest 1 = true :=
    ⟨_, .move rfl rfl <| .move rfl rfl <| .move rfl rfl <| .move rfl rfl <|
      .settle (settles_runOver [.stepSweeper, .stepWorker 1 0, .stepWorker 1 0, .stepWorker 1 0,
        .stepWorker 2 0, .stepWorker 2 0, .stepWorker 2 0, .stepWorker 2 0]
        (by decide +kernel) (by decide +kernel)) <|
      .advance (.tick (by decide +kernel) ⟨.refl, by decide +kernel⟩ <|
        .arrive (by decide +kernel) ⟨.refl, by decide +kernel⟩) <| .done _,
      by decide +kernel, by decide +kernel, by decide +kernel⟩
  have hearly : ∃ c', Unfolds Transport.recording 1 start
      (before ++ .move (.setHandler 1 (.mk "" [] [.fail "early"])) :: after) c' ∧
      (c'.subscription? 1).any (·.isHandling) = false :=
    ⟨_, .move rfl rfl <| .move rfl rfl <| .move rfl rfl <| .move rfl rfl <| .move rfl rfl <|
      -- the workers take their turns in another order
      .settle (settles_runOver [.stepWorker 2 0, .stepWorker 1 0, .stepWorker 2 0, .stepWorker 1 0,
        .stepWorker 2 0, .stepWorker 1 0, .stepWorker 2 0, .stepWorker 1 0, .stepSweeper]
        (by decide +kernel) (by decide +kernel)) <|
      .advance (.tick (by decide +kernel) ⟨.refl, by decide +kernel⟩ <|
        .arrive (by decide +kernel) ⟨.refl, by decide +kernel⟩) <| .done _,
      by decide +kernel⟩
  obtain ⟨c, h, hhandling, hhandled, hrest⟩ := hasleep
  obtain ⟨c', h', hidle⟩ := hearly
  obtain ⟨hagrees, hkept⟩ :=
    subscriptions_isolated Transport.accepts_recording { token := "" } 0 0 1 1 (by rfl) h h'
  exact ⟨c, c', h, h', hhandling, hidle, hhandled, hagrees, hkept hrest⟩

end Connection

end PubSub
