import PubSub.Proofs.Connection.Control

/-!
# Control frames in order

What a whole run offers about a subscription: one announcement that is accepted, after the
subscription was registered, and one withdrawal, when it ends.

## Main definitions

- `Connection.Vouched` — every frame about a subscription comes after its registration

## Main results

- `Connection.Course.vouched` — whatever is done to a connection
- `Connection.course_runOver` — a run is a course
-/

namespace PubSub

/-- Everything may be done, except to stop the worker of one subscription while that is valid. -/
def Permit.sparing (sid : Sid) : Permit := { Permit.all with stops := (· ≠ sid) }

namespace Connection

variable {p : Permit} {c c' : Connection} {sid : Sid} {s : Subscription}

/-! ## Registrations -/

/-- A subscription was registered before any frame about it was offered. -/
structure Vouched (sid : Sid) (c : Connection) : Prop where
  known : c.subscription? sid ≠ none → ∃ handler max, .registered sid handler max ∈ c.journal
  ordered : ∀ o verdict earlier, (.offered o verdict :: earlier) <:+ c.journal →
    o.frame.sid? = some sid → ∃ handler max, .registered sid handler max ∈ earlier

namespace Vouched

theorem of_eq (h : Vouched sid c) (hj : c'.journal = c.journal)
    (hs : c'.subscription? sid ≠ none → c.subscription? sid ≠ none) : Vouched sid c' where
  known hne := by
    rw [hj]
    exact h.known (hs hne)
  ordered := by
    rw [hj]
    exact h.ordered

theorem modify (h : Vouched sid c) {other : Sid} {f : Subscription → Subscription}
    (hf : ∀ s, s.sid = other → (f s).sid = other) : Vouched sid (c.modifySubscription other f) :=
  h.of_eq rfl (subscription?_modifySubscription_eq_none hf).not.1

/-- An event is added; if it offers a frame about the subscription, that one exists. -/
theorem log (h : Vouched sid c) {e : Event}
    (he : ∀ o verdict, e = .offered o verdict → o.frame.sid? = some sid →
      c.subscription? sid ≠ none) : Vouched sid (c.log e) where
  known hne := by
    obtain ⟨handler, max, hmem⟩ := h.known hne
    exact ⟨handler, max, List.mem_cons_of_mem e hmem⟩
  ordered o verdict earlier hsuffix hsid := by
    rcases List.suffix_cons_iff.1 hsuffix with heq | hold
    · obtain ⟨rfl, rfl⟩ := List.cons.inj heq
      exact h.known (he o verdict rfl hsid)
    · exact h.ordered o verdict earlier hold hsid

theorem offered (h : Vouched sid c) {o : Outgoing} (ho : o.frame.sid? = some sid →
    c.subscription? sid ≠ none) (verdict : Except TransportError Unit)
    (outbound : Outbound Outgoing) : Vouched sid (c.offered o verdict outbound) := by
  have haside : Vouched sid { c with outbound := outbound } := h.of_eq rfl fun hne => hne
  refine haside.log fun o' verdict' heq hsid => ?_
  cases heq
  exact ho hsid

theorem invalidate (h : Vouched sid c) (other : Sid) : Vouched sid (c.invalidate other) := by
  have hmodify : Vouched sid (c.modifySubscription other fun s =>
      { s with valid := false, attached := false }) := h.modify fun _ h => h
  exact hmodify.of_eq rfl fun hne => hne

theorem disable (h : Vouched sid c) (other : Sid) : Vouched sid (c.disable other).2 := by
  obtain ⟨f, hf, -, heq⟩ := c.disable_eq other
  rw [heq]
  exact h.modify hf

theorem enable (h : Vouched sid c) (other : Sid) : Vouched sid (c.enable other).2 := by
  obtain ⟨f, hf, -, heq⟩ := c.enable_eq other
  rw [heq]
  exact h.modify hf

theorem register (h : Vouched sid c) (s : Subscription) : Vouched sid (c.register s) := by
  by_cases hsid : s.sid = sid
  · subst hsid
    refine ⟨fun _ => ⟨s.handler, s.max, List.mem_cons_self⟩, fun o verdict earlier hsuffix => ?_⟩
    rcases List.suffix_cons_iff.1 hsuffix with heq | hold
    · cases heq
    · exact h.ordered o verdict earlier hold
  · have hsame : (c.register s).subscription? sid = c.subscription? sid :=
      (sameAt_register c s (Ne.symm hsid)).subscription?
    refine ⟨fun hne => ?_, fun o verdict earlier hsuffix => ?_⟩
    · rw [hsame] at hne
      obtain ⟨handler, max, hmem⟩ := h.known hne
      exact ⟨handler, max, List.mem_cons_of_mem _ hmem⟩
    · rcases List.suffix_cons_iff.1 hsuffix with heq | hold
      · cases heq
      · exact h.ordered o verdict earlier hold

end Vouched

/-- A subscription that exists stays. -/
theorem Flow.known {exposed : Sid → Prop} (h : c.Flow exposed c')
    (hs : c.subscription? sid = some s) : c'.subscription? sid ≠ none := by
  obtain ⟨s', hs', -⟩ := h.kept hs
  rw [hs']
  exact Option.some_ne_none s'

/-- Whatever is done to a connection, no frame is about a subscription that does not exist yet. -/
theorem Course.vouched (h : c.Course p c') (hsid : sid ≠ replySid) (hc : Vouched sid c) :
    Vouched sid c' := by
  induction h with
  | refl => exact hc
  | trans _ _ ih ih' => exact ih' (ih hc)
  | @log c e h =>
    refine hc.log fun o verdict heq => ?_
    rw [heq] at h
    exact h.elim
  | @tell c e h =>
    have hcount : Vouched sid { c with counts := c.counts.told e } := hc.of_eq rfl fun hne => hne
    refine hcount.log fun o verdict heq => ?_
    rw [heq] at h
    exact h.elim
  | refuse c _ hs hvalid hclosed m =>
    have hcount : Vouched sid { c with counts := c.counts.dropped .queueClosed } :=
      hc.of_eq rfl fun hne => hne
    exact hcount.log nofun
  | shift c hf => exact hc.modify hf
  | limit c _ max => exact hc.modify (f := fun s => { s with max := max }) fun _ h => h
  | register c => exact hc.register _
  | @send c c' o h hcourse _ verdict outbound ih =>
    refine (ih hc).offered (fun ho => ?_) verdict outbound
    cases hframe : o.frame with
    | publish =>
      rw [hframe] at ho
      cases ho
    | subscribe =>
      rw [hframe] at h ho
      cases h with
      | announce => exact absurd (Option.some.inj ho).symm hsid
    | unsubscribe =>
      rw [hframe] at h ho
      cases h with
      | tell hs =>
        rw [Option.some.inj ho] at hs
        exact hcourse.flow.known hs
  | @withdraw c c' other s h hs _ hcourse _ verdict outbound ih =>
    refine (ih (hc.invalidate other)).offered (fun ho => ?_) verdict outbound
    rw [Option.some.inj ho] at hs
    have hinvalidate : c.Flow p.ends (c.invalidate other) := .invalidate c h
    exact (hinvalidate.trans hcourse.flow).known hs
  | @detach c other => exact hc.invalidate other
  | @start c c' other s hs _ _ hcourse _ verdict outbound ih =>
    have hoffered : Vouched sid (c'.offered { frame := .subscribe other s.subject s.queueGroup }
        verdict outbound) := by
      refine (ih (hc.enable other)).offered (fun ho => ?_) verdict outbound
      rw [Option.some.inj ho] at hs
      have henable : c.Flow p.ends (c.enable other).2 := flow_enable c other
      exact (henable.trans hcourse.flow).known hs
    cases verdict with
    | ok => exact hoffered
    | error => exact hoffered.disable other
  | @startDetached c other => exact (hc.enable other).disable other
  | @close c c' _ _ _ ih =>
    refine (ih (hc.of_eq rfl fun hne => hne)).of_eq rfl fun hne => ?_
    rw [subscription?_stopWorkers] at hne
    exact fun hnone => hne (by rw [hnone, Option.map_none])
  | aside | consult | sweep | herald | enrol | forgo => exact hc.of_eq rfl fun hne => hne

/-! ## Runs -/

/-- Whatever is done in a run. -/
theorem course_runOver (gate : Gate) (hp : c.Suits p) (hends : ∀ sid, p.ends sid) (hasks : p.asks)
    {moves : List Move}
    (hstops : ∀ sid, p.stops sid ∨ c.neverDisables (gated gate) sid moves = true)
    (hreports : p.reports := by trivial) (hdelivers : p.delivers := by trivial)
    (hanswers : ∀ subject, p.answers subject := by exact fun _ => trivial) :
    c.Course p (c.runOver (gated gate) moves) := by
  induction moves generalizing c with
  | nil => exact .refl c
  | cons move moves ih =>
    have hallows : c.Allows p move := by
      refine ⟨fun sid _ => hends sid, hends _, fun sid _ _ _ _ _ => hends sid,
        fun sid hdisables => ?_, fun _ _ _ _ => hasks, fun _ _ _ _ _ _ _ => hreports,
        fun _ => hdelivers, fun subject _ => hanswers subject⟩
      refine (hstops sid).elim (fun h => h) fun hnever => ?_
      simp [neverDisables, hdisables] at hnever
    have hcourse := course_performOver (sends_gated gate) (drifts_gated gate) hp hallows
    refine hcourse.trans (ih (hcourse.suits hp) fun sid => (hstops sid).imp_right fun hnever => ?_)
    exact (Bool.and_eq_true_iff.1 hnever).2

/-- Along every run over a transport that reacts to frames and may reject any of them, for every
subscription: at most one withdrawal of it is accepted, and at most one announcement if its worker
is never stopped as such. A withdrawal is offered once when it ends, however it ends and whether or
not that is accepted, and never else. Every frame about it is offered after it was registered.
Whatever is done after its end offers nothing about it, and nothing about it is offered after its
withdrawal unless the transport closes something from inside a send. -/
theorem control_frames_in_order (gate : Gate) (o : Session.Opening) (id : Nat) (clock : Instant)
    (handle : Nat) (moves : List Move) (sid : Sid) (hsid : sid ≠ replySid) :
    let start := o.connect id clock handle
    let c := start.runOver (gated gate) moves
    (start.neverDisables (gated gate) sid moves = true →
      c.accepted.countP (Frame.subscribes sid) ≤ 1) ∧
    c.accepted.count (.unsubscribe sid none) ≤ 1 ∧
    (c.traffic.countP fun offer => offer.1 == .unsubscribe sid none) = (c.hasEnded sid).toNat ∧
    (∀ out verdict earlier, (.offered out verdict :: earlier) <:+ c.journal →
      out.frame.sid? = some sid → ∃ handler max, .registered sid handler max ∈ earlier) ∧
    (c.hasEnded sid = true → ∀ later : List Move,
      ∃ new, (c.runOver (gated gate) later).traffic = c.traffic ++ new ∧
        ∀ offer ∈ new, offer.1.sid? ≠ some sid) ∧
    ((∀ entry ∈ o.reactions, entry.2.deed.closes = false) →
      ∀ before verdict after, c.traffic = before ++ (.unsubscribe sid none, verdict) :: after →
        ∀ offer ∈ after, offer.1.sid? ≠ some sid) := by
  intro start c
  let p : Permit := { Permit.all with reenters := ¬start.Passive }
  have hi : start.Intact := .connect o id clock handle
  have hq : start.Quiescent := nofun
  have hsuits : start.Suits p :=
    ⟨fun _ _ _ _ _ => trivial, fun kind reaction hr hcloses other hpassive =>
      hpassive.permits (fun _ => False) kind reaction hr hcloses other⟩
  have hcourse : start.Course p c :=
    course_runOver gate hsuits (fun _ => trivial) trivial fun _ => Or.inl trivial
  obtain ⟨new, hnew, hstretch⟩ := hcourse.governed hsid hi hq
  obtain rfl : c.traffic = new := hnew
  have hvouched : Vouched sid c :=
    hcourse.vouched hsid ⟨fun h => absurd rfl h, fun _ _ _ h => by cases List.suffix_nil.1 h⟩
  refine ⟨fun hnever => ?_, ?_, hstretch.withdrawn, hvouched.ordered, fun hended later => ?_,
    fun hpassive before verdict after heq => ?_⟩
  · have hsparing : start.Course (.sparing sid) c := by
      refine course_runOver gate ⟨permits_all start, permits_all start⟩ (fun _ => trivial) trivial
        fun other => ?_
      by_cases ho : other = sid
      · subst ho
        exact Or.inr hnever
      · exact Or.inl ho
    obtain ⟨new, hnew, hstretch⟩ := hsparing.governed hsid hi hq
    obtain rfl : c.traffic = new := hnew
    exact Nat.le_trans (hstretch.announced fun h => h rfl) (Bool.toNat_le _)
  · calc c.accepted.count (.unsubscribe sid none)
        ≤ withdrawals sid c.traffic := count_acceptedOf_le sid c.traffic
      _ = (c.hasEnded sid).toNat := hstretch.withdrawn
      _ ≤ 1 := Bool.toNat_le _
  · have hlater : c.Course p (c.runOver (gated gate) later) :=
      course_runOver gate (hcourse.suits hsuits) (fun _ => trivial) trivial fun _ => Or.inl trivial
    obtain ⟨new, hnew, hstretch⟩ :=
      hlater.governed hsid (hcourse.flow.intact hi) (hcourse.flow.quiescent hi hq)
    exact ⟨new, hnew, hstretch.silent hended⟩
  · have hpassive' : start.Passive := hpassive
    have horder := hstretch.order fun h => h hpassive'
    rw [heq] at horder
    exact fun offer ho =>
      (List.pairwise_cons.1 (List.pairwise_append.1 horder).2.1).1 offer ho rfl

/-- The theorem applies to a subscription whose first announcement is rejected, which is started
twice again, and whose withdrawal is rejected when it has reached its ceiling. -/
theorem control_frames_in_order_rejected :
    let gate : Gate := fun out c =>
      if c.traffic.isEmpty || out.frame == .unsubscribe 1 none then some .queueFull else none
    let moves : List Move := [.build 1 { subject := "a", handler := some (.mk "" [] []) },
      .start 1, .start 1, .start 1, .autoUnsubscribe 1 1, .deliver 1 { subject := "a" },
      .stepWorker 1 1, .stepWorker 1 1, .stepWorker 1 1, .unsubscribe 1, .close]
    let start := Session.Opening.connect { token := "" } 0 0 1
    let c := start.runOver (gated gate) moves
    c.traffic.length = 4 ∧ c.accepted.countP (Frame.subscribes 1) ≤ 1 ∧
      (c.traffic.countP fun offer => offer.1 == .unsubscribe 1 none) = 1 ∧
      ∀ before verdict after, c.traffic = before ++ (.unsubscribe 1 none, verdict) :: after →
        ∀ offer ∈ after, offer.1.sid? ≠ some 1 := by
  intro gate moves start c
  obtain ⟨hannounced, -, hwithdrawn, -, -, horder⟩ :=
    control_frames_in_order gate { token := "" } 0 0 1 moves 1 (by decide)
  have hended : c.hasEnded 1 = true := by decide +kernel
  refine ⟨by decide +kernel, hannounced (by decide +kernel), hwithdrawn.trans ?_, horder nofun⟩
  exact congrArg Bool.toNat hended

end Connection

end PubSub
