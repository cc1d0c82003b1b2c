import PubSub.Proofs.Connection.Correlation
import PubSub.Proofs.Connection.Mundane

/-!
# Interest in replies comes before requests

Nothing but a request sends a frame that is about replies. A request announces the reply subjects
unless that was accepted before, and only then asks. So the accepted frames keep to a pattern
(`Heralded`), in which the mark of the announcement tells what the server knows.

## Main definitions

- `Heralded` — the pattern that accepted frames keep to
- `Connection.Requested` — what comes of a request

## Main results

- `Connection.requested` — what a request does, case by case
- `Connection.Requested.heralds` — a request keeps to the pattern
- `Connection.Requested.asked_of_ok` — the frame that a request adds
- `Connection.Requested.traffic` — a request tries an announcement that was not accepted yet
-/

namespace PubSub

/-- Frames as they may be accepted, given the one announcement and whether it was accepted. -/
inductive Heralded (announcement : Frame) : Bool → List Frame → Prop where
  | nil : Heralded announcement false []
  | mundane {told : Bool} {l : List Frame} {f : Frame} (h : Heralded announcement told l)
    (hf : f.Mundane) : Heralded announcement told (l ++ [f])
  | announce {l : List Frame} (h : Heralded announcement false l) :
    Heralded announcement true (l ++ [announcement])
  /-- A frame that asks for a reply. -/
  | ask {l : List Frame} {f : Frame} (h : Heralded announcement true l) (hf : f.asks = true) :
    Heralded announcement true (l ++ [f])

theorem Frame.sid?_of_asks {f : Frame} (h : f.asks = true) : f.sid? = none := by
  cases f with
  | publish => rfl
  | subscribe | unsubscribe => cases h

namespace Heralded

variable {a : Frame} {told : Bool} {l l' : List Frame}

theorem append (h : Heralded a told l) (hl' : ∀ f ∈ l', f.Mundane) : Heralded a told (l ++ l') := by
  induction l' generalizing l with
  | nil => rwa [List.append_nil]
  | cons f l' ih =>
    have hstep := ih (h.mundane (hl' f List.mem_cons_self))
      fun g hg => hl' g (List.mem_cons_of_mem f hg)
    rwa [List.append_assoc] at hstep

/-- Only the announcement carries the reserved number. -/
theorem eq_of_sid? (h : Heralded a told l) {f : Frame} (hf : f ∈ l)
    (hsid : f.sid? = some replySid) : f = a := by
  induction h with
  | nil => cases hf
  | mundane _ hm ih =>
    rcases List.mem_append.1 hf with hold | hnew
    · exact ih hold
    · obtain rfl := List.mem_singleton.1 hnew
      exact absurd hsid hm.sid
  | announce _ ih =>
    rcases List.mem_append.1 hf with hold | hnew
    · exact ih hold
    · exact List.mem_singleton.1 hnew
  | ask _ hasks ih =>
    rcases List.mem_append.1 hf with hold | hnew
    · exact ih hold
    · obtain rfl := List.mem_singleton.1 hnew
      rw [Frame.sid?_of_asks hasks] at hsid
      cases hsid

/-- The announcement was accepted at most once, and the mark tells whether it was. -/
theorem countP_sid? (h : Heralded a told l) (ha : a.sid? = some replySid) :
    l.countP (fun f => f.sid? == some replySid) = told.toNat := by
  induction h with
  | nil => rfl
  | mundane _ hm ih =>
    have hne : ¬(_ == some replySid) = true := fun h => hm.sid (beq_iff_eq.1 h)
    rw [List.countP_append, ih, List.countP_singleton, if_neg hne, Nat.add_zero]
  | announce _ ih =>
    rw [List.countP_append, ih, List.countP_singleton, if_pos (by rw [ha]; rfl)]
    rfl
  | ask _ hasks ih =>
    rw [List.countP_append, ih, List.countP_singleton, Frame.sid?_of_asks hasks]
    rfl

theorem mem (h : Heralded a true l) (ha : a.sid? = some replySid) : a ∈ l := by
  have hpos : 0 < l.countP (fun f => f.sid? == some replySid) := by
    rw [h.countP_sid? ha]
    exact Nat.one_pos
  obtain ⟨f, hf, hsid⟩ := List.countP_pos_iff.1 hpos
  rwa [h.eq_of_sid? hf (beq_iff_eq.1 hsid)] at hf

/-- The announcement comes before every frame that asks for a reply. -/
theorem mem_of_asks (h : Heralded a told l) (ha : a.sid? = some replySid) {f : Frame}
    {before after : List Frame} (hl : l = before ++ f :: after) (hf : f.asks = true) :
    a ∈ before := by
  -- the newest frame is the last one, so it is either the one in question or comes after it
  induction h generalizing after with
  | nil => simp at hl
  | @mundane told l g _ hm ih =>
    rcases List.eq_nil_or_concat after with rfl | ⟨after', g', rfl⟩
    · obtain ⟨-, rfl⟩ := List.append_singleton_inj.1 hl
      rw [hm.asks] at hf
      cases hf
    · rw [List.concat_eq_append, ← List.cons_append, ← List.append_assoc] at hl
      exact ih (List.append_singleton_inj.1 hl).1
  | @announce l _ ih =>
    rcases List.eq_nil_or_concat after with rfl | ⟨after', g', rfl⟩
    · obtain ⟨-, rfl⟩ := List.append_singleton_inj.1 hl
      rw [Frame.sid?_of_asks hf] at ha
      cases ha
    · rw [List.concat_eq_append, ← List.cons_append, ← List.append_assoc] at hl
      exact ih (List.append_singleton_inj.1 hl).1
  | @ask l g hold _ ih =>
    rcases List.eq_nil_or_concat after with rfl | ⟨after', g', rfl⟩
    · obtain ⟨rfl, -⟩ := List.append_singleton_inj.1 hl
      exact hold.mem ha
    · rw [List.concat_eq_append, ← List.cons_append, ← List.append_assoc] at hl
      exact ih (List.append_singleton_inj.1 hl).1

end Heralded

namespace Connection

variable {c c' : Connection} {t : Transport}

/-! ## Frames that are sent keep to the pattern -/

/-- What is accepted keeps to the pattern. -/
def Heralds (c : Connection) : Prop := Heralded c.announcement c.announced c.accepted

theorem Heralds.of_eq (hc : c.Heralds) (haccepted : c'.accepted = c.accepted)
    (hannounced : c'.announced = c.announced) (hbase : c'.inbox.base = c.inbox.base) :
    c'.Heralds := by
  unfold Heralds announcement Inbox.wildcard
  rw [haccepted, hannounced, hbase]
  exact hc

theorem accepted_of_traffic {new : List (Frame × Except TransportError Unit)}
    (h : c'.traffic = c.traffic ++ new) : c'.accepted = c.accepted ++ acceptedOf new := by
  rw [accepted, h, acceptedOf_append]
  rfl

theorem Mundane.accepted (h : c.Mundane c') :
    ∃ new, c'.accepted = c.accepted ++ new ∧ ∀ f ∈ new, f.Mundane := by
  obtain ⟨new, hnew, hm⟩ := h.traffic
  exact ⟨acceptedOf new, accepted_of_traffic hnew, fun f hf => hm _ (mem_of_mem_acceptedOf hf)⟩

theorem Mundane.heralds (h : c.Mundane c') (hc : c.Heralds) : c'.Heralds := by
  obtain ⟨new, hnew, hm⟩ := h.accepted
  unfold Heralds announcement
  rw [hnew, h.announced, h.inbox]
  exact hc.append hm

theorem Mundane.asked (h : c.Mundane c') : c'.asked = c.asked := by
  obtain ⟨new, hnew, hm⟩ := h.accepted
  have hnone : new.filter Frame.asks = [] :=
    List.filter_eq_nil_iff.2 fun f hf => by simp [(hm f hf).asks]
  rw [Connection.asked, hnew, List.filter_append, hnone, List.append_nil]
  rfl

/-- What is accepted when a frame is sent: mundane frames, and then the frame itself. -/
theorem accepted_of_ok (ht : t.Sends .unasking) (hi : c.Intact) {o : Outgoing}
    (h : t o c = (.ok (), c')) :
    ∃ c₁, c.Mundane c₁ ∧ c'.accepted = c₁.accepted ++ [o.frame] ∧ c'.announced = c₁.announced ∧
      c'.inbox = c₁.inbox := by
  obtain ⟨c₁, hbefore, htraffic, hrest⟩ := offers_of_sends ht hi o
  rw [h] at htraffic hrest
  exact ⟨c₁, hbefore, accepted_of_traffic htraffic, hrest⟩

/-- What is accepted when a frame is rejected: mundane frames. -/
theorem accepted_of_error (ht : t.Sends .unasking) (hi : c.Intact) {o : Outgoing}
    {e : TransportError} (h : t o c = (.error e, c')) :
    ∃ c₁, c.Mundane c₁ ∧ c'.accepted = c₁.accepted ∧ c'.announced = c₁.announced ∧
      c'.inbox = c₁.inbox := by
  obtain ⟨c₁, hbefore, htraffic, hrest⟩ := offers_of_sends ht hi o
  rw [h] at htraffic hrest
  exact ⟨c₁, hbefore, (accepted_of_traffic htraffic).trans (List.append_nil _), hrest⟩

/-- A frame that is rejected changes nothing about the pattern. -/
theorem heralds_of_error (ht : t.Sends .unasking) (hi : c.Intact) {o : Outgoing}
    {e : TransportError} (h : t o c = (.error e, c')) (hc : c.Heralds) :
    c'.Heralds ∧ c'.asked = c.asked := by
  obtain ⟨c₁, hbefore, haccepted, hannounced, hinbox⟩ := accepted_of_error ht hi h
  refine ⟨(hbefore.heralds hc).of_eq haccepted hannounced (congrArg Inbox.base hinbox), ?_⟩
  rw [← hbefore.asked, asked, haccepted]
  rfl

/-! ## Requests -/

/-- The server was told about the reply subjects, before or just now. -/
inductive Announces (t : Transport) (c : Connection) : Connection → Prop where
  | known (h : c.announced = true) : Announces t c c
  | told {c' : Connection} (h : c.announced = false)
    (hsent : t { frame := c.announcement } c = (.ok (), c')) :
    Announces t c { c' with announced := true }

/-- What comes of a request. -/
inductive Requested (t : Transport) (c : Connection) (subject : String) (payload : ByteArray)
    (options : RequestOptions) : Except RequestError Nat → Connection → Prop where
  /-- Its subject is malformed or the connection closed. -/
  | refused {e : RequestError}
    (h : Subject.isValid subject = false ∧ e = .invalidSubject subject ∨
      c.closed = true ∧ e = .connectionClosed) :
    Requested t c subject payload options (.error e) c
  /-- The announcement is rejected. -/
  | unannounced {e : TransportError} {c' : Connection} (h : c.announced = false)
    (hsent : t { frame := c.announcement } c = (.error e, c')) :
    Requested t c subject payload options (.error (.transport e)) c'
  /-- The connection was closed by the announcement. -/
  | forgone {c₁ : Connection} (hopen : c.closed = false) (h : Announces t c c₁)
    (hclosed : c₁.closed = true) :
    Requested t c subject payload options (.error .connectionClosed)
      ((c₁.enrolled options).abandon c₁.inbox.next.1)
  /-- Its own frame is rejected. -/
  | unsent {c₁ c' : Connection} {e : TransportError} (h : Announces t c c₁)
    (hsent : t { frame := .publish subject (some c₁.inbox.next.1) payload } (c₁.enrolled options) =
      (.error e, c')) :
    Requested t c subject payload options (.error (.transport e)) (c'.abandon c₁.inbox.next.1)
  | sent {c₁ c' : Connection} (h : Announces t c c₁)
    (hsent : t { frame := .publish subject (some c₁.inbox.next.1) payload } (c₁.enrolled options) =
      (.ok (), c')) :
    Requested t c subject payload options (.ok (c₁.registry.register c₁.inbox.next.1 options
      c₁.config.requestTimeout c₁.clock).1) c'

theorem announces_of_ok (h : c.announceInbox t = (.ok (), c')) : Announces t c c' := by
  unfold announceInbox at h
  split at h
  · next hknown =>
    cases h
    exact .known hknown
  · next hunknown =>
    split at h
    · next c₁ heq =>
      cases h
      exact .told (by simpa using hunknown) heq
    · cases h

theorem announceInbox_of_error {e : TransportError} (h : c.announceInbox t = (.error e, c')) :
    c.announced = false ∧ t { frame := c.announcement } c = (.error e, c') := by
  unfold announceInbox at h
  split at h
  · cases h
  · next hunknown =>
    split at h
    · cases h
    · next e c₁ heq =>
      cases h
      exact ⟨by simpa using hunknown, heq⟩

/-- What a request does, case by case. -/
theorem requested (t : Transport) (c : Connection) (subject : String) (payload : ByteArray)
    (options : RequestOptions) :
    Requested t c subject payload options (c.request t subject payload options).1
      (c.request t subject payload options).2 := by
  unfold request
  split
  · next hmalformed => exact .refused (Or.inl ⟨by simpa using hmalformed, rfl⟩)
  · split
    · next hclosed => exact .refused (Or.inr ⟨hclosed, rfl⟩)
    · next hopen =>
      split
      · next e c₁ heq =>
        obtain ⟨hunknown, hsent⟩ := announceInbox_of_error heq
        exact .unannounced hunknown hsent
      · next c₁ heq =>
        have hannounces := announces_of_ok heq
        dsimp only
        split
        · next hclosed => exact .forgone (by simpa using hopen) hannounces hclosed
        · split
          · next c₂ heq₂ => exact .sent hannounces heq₂
          · next e c₂ heq₂ => exact .unsent hannounces heq₂

/-! ## Requests keep to the pattern -/

variable {c₁ : Connection} {subject : String} {payload : ByteArray} {options : RequestOptions}

theorem Announces.flow (h : Announces t c c₁) (ht : t.Sends .unasking) :
    c.Flow (fun _ => True) c₁ := by
  cases h with
  | known => exact .refl c
  | @told c' h hsent =>
    have hflow : c.Flow (fun _ => True) (t { frame := c.announcement } c).2 :=
      flow_of_sends ht (suits_unasking c) (Or.inl trivial)
    rw [hsent] at hflow
    exact hflow.trans (.aside c' true c'.handles c'.outbound c'.clock)

theorem Announces.intact_enrolled (h : Announces t c c₁) (ht : t.Sends .unasking) (hi : c.Intact)
    (options : RequestOptions) : (c₁.enrolled options).Intact :=
  ((h.flow ht).intact hi).of_eq rfl rfl rfl rfl

theorem Announces.heralds (h : Announces t c c₁) (ht : t.Sends .unasking) (hi : c.Intact)
    (hc : c.Heralds) : c₁.Heralds ∧ c₁.announced = true ∧ c₁.asked = c.asked := by
  cases h with
  | known h => exact ⟨hc, h, rfl⟩
  | @told c' hunknown hsent =>
    obtain ⟨c₁, hbefore, haccepted, -, hinbox⟩ := accepted_of_ok ht hi hsent
    refine ⟨?_, rfl, ?_⟩
    · have hpattern : Heralded c₁.announcement c₁.announced c₁.accepted := hbefore.heralds hc
      have hsame : c₁.announcement = c.announcement := by
        rw [announcement, hbefore.inbox]
        rfl
      rw [hbefore.announced, hunknown, hsame] at hpattern
      show Heralded c'.announcement true c'.accepted
      rw [announcement, hinbox, haccepted, hbefore.inbox]
      exact hpattern.announce
    · show c'.accepted.filter Frame.asks = _
      rw [haccepted, List.filter_append, ← hbefore.asked]
      exact List.append_nil _

theorem Heralds.enrolled (h : c.Heralds) (options : RequestOptions) :
    (c.enrolled options).Heralds := h.of_eq rfl rfl rfl

theorem Requested.heralds {result : Except RequestError Nat}
    (h : Requested t c subject payload options result c') (ht : t.Sends .unasking) (hi : c.Intact)
    (hc : c.Heralds) : c'.Heralds := by
  cases h with
  | refused => exact hc
  | unannounced _ hsent => exact (heralds_of_error ht hi hsent hc).1
  | forgone _ h =>
    obtain ⟨hc₁, -⟩ := h.heralds ht hi hc
    exact hc₁.of_eq rfl rfl rfl
  | @unsent c₁ c' e h hsent =>
    obtain ⟨hc₁, -⟩ := h.heralds ht hi hc
    have hi₁ := h.intact_enrolled ht hi options
    have hc' := (heralds_of_error ht hi₁ hsent (hc₁.enrolled options)).1
    exact hc'.of_eq rfl rfl rfl
  | @sent c₁ c' h hsent =>
    obtain ⟨hc₁, htold, -⟩ := h.heralds ht hi hc
    have hi₁ := h.intact_enrolled ht hi options
    obtain ⟨c₂, hbefore, haccepted, hannounced, hinbox⟩ := accepted_of_ok ht hi₁ hsent
    have htold₂ : c₂.announced = true := hbefore.announced.trans htold
    have hpattern : Heralded c₂.announcement c₂.announced c₂.accepted :=
      hbefore.heralds (hc₁.enrolled options)
    rw [htold₂] at hpattern
    unfold Heralds announcement
    rw [hannounced, htold₂, hinbox, haccepted]
    exact hpattern.ask rfl

/-- A request that fails adds no frame that asks for a reply. -/
theorem Requested.asked_of_error {e : RequestError}
    (h : Requested t c subject payload options (.error e) c') (ht : t.Sends .unasking)
    (hi : c.Intact) (hc : c.Heralds) : c'.asked = c.asked := by
  cases h with
  | refused => rfl
  | unannounced _ hsent => exact (heralds_of_error ht hi hsent hc).2
  | forgone _ h => exact (h.heralds ht hi hc).2.2
  | @unsent c₁ c' e h hsent =>
    obtain ⟨hc₁, -, hasked⟩ := h.heralds ht hi hc
    have hi₁ := h.intact_enrolled ht hi options
    exact (heralds_of_error ht hi₁ hsent (hc₁.enrolled options)).2.trans hasked

/-- A request that is made adds one frame that asks for a reply, under its own key. -/
theorem Requested.asked_of_ok {n : Nat} (h : Requested t c subject payload options (.ok n) c')
    (ht : t.Sends .unasking) (hi : c.Intact) (hc : c.Heralds) (hn : c.Numbered) :
    ∃ key, c'.registry.keys[n]? = some key ∧
      c'.asked = c.asked ++ [.publish subject (some key) payload] := by
  cases h with
  | @sent c₁ c' h hsent =>
    obtain ⟨hc₁, -, hasked⟩ := h.heralds ht hi hc
    have hn₁ : c₁.Numbered := (h.flow ht).numbered hn
    have hi₁ := h.intact_enrolled ht hi options
    obtain ⟨c₂, hbefore, haccepted, -, hinbox⟩ := accepted_of_ok ht hi₁ hsent
    refine ⟨c₁.inbox.next.1, ?_, ?_⟩
    · -- no subject was handed out meanwhile, so the keys are those of the moment of registration
      have hflow : (c₁.enrolled options).Flow (fun _ => True) _ :=
        flow_of_sends (o := { frame := .publish subject (some c₁.inbox.next.1) payload }) ht
          (suits_unasking _) (Or.inl trivial)
      rw [hsent] at hflow
      have hn' : c'.Numbered := hflow.numbered (hn₁.enrolled options)
      have hsame : c'.registry.keys = c₁.registry.keys ++ [c₁.inbox.next.1] := by
        rw [← c₁.registry.keys_register _ options c₁.config.requestTimeout c₁.clock]
        exact (hn'.trans (by rw [hinbox, hbefore.inbox])).trans (hn₁.enrolled options).symm
      have hnumber : (c₁.registry.register c₁.inbox.next.1 options c₁.config.requestTimeout
          c₁.clock).1 = c₁.registry.keys.length := by
        rw [← c₁.registry.keys_perform (.abandon c₁.inbox.next.1) (by simp)]
        exact (List.length_map _).symm
      rw [hsame, hnumber, List.getElem?_concat_length]
    · rw [asked, haccepted, List.filter_append, ← hasked]
      refine congrArg (· ++ _) ?_
      exact hbefore.asked

/-- A frame that is sent is the last that is offered. -/
theorem traffic_of_sent (ht : t.Sends .unasking) (hi : c.Intact) {o : Outgoing}
    {verdict : Except TransportError Unit} (h : t o c = (verdict, c')) :
    ∃ new, c'.traffic = c.traffic ++ new ∧ (o.frame, verdict) ∈ new := by
  obtain ⟨c₁, hbefore, htraffic, -⟩ := offers_of_sends ht hi o
  obtain ⟨new, hnew, -⟩ := hbefore.traffic
  rw [h] at htraffic
  refine ⟨new ++ [(o.frame, verdict)], ?_, by simp⟩
  rw [← List.append_assoc, ← hnew]
  exact htraffic

theorem Announces.traffic (h : Announces t c c₁) (ht : t.Sends .unasking) (hi : c.Intact)
    (hunknown : c.announced = false) :
    ∃ new, c₁.traffic = c.traffic ++ new ∧ (c.announcement, .ok ()) ∈ new := by
  cases h with
  | known h =>
    rw [h] at hunknown
    cases hunknown
  | told _ hsent => exact traffic_of_sent ht hi hsent

/-- A request on an open connection tries the announcement, if that was not accepted yet. -/
theorem Requested.traffic {result : Except RequestError Nat}
    (h : Requested t c subject payload options result c') (ht : t.Sends .unasking) (hi : c.Intact)
    (hvalid : Subject.isValid subject = true) (hopen : c.closed = false)
    (hunknown : c.announced = false) :
    ∃ new verdict, c'.traffic = c.traffic ++ new ∧ (c.announcement, verdict) ∈ new := by
  have hgrows : ∀ {c₁ c' : Connection} {o : Outgoing} {verdict : Except TransportError Unit},
      Announces t c c₁ → t o (c₁.enrolled options) = (verdict, c') →
      ∃ new verdict, c'.traffic = c.traffic ++ new ∧ (c.announcement, verdict) ∈ new := by
    intro c₁ c' o verdict h hsent
    have hi₁ := h.intact_enrolled ht hi options
    obtain ⟨new, hnew, hmem⟩ := h.traffic ht hi hunknown
    obtain ⟨later, hlater, -⟩ := traffic_of_sent ht hi₁ hsent
    refine ⟨new ++ later, .ok (), ?_, List.mem_append_left _ hmem⟩
    rw [hlater, ← List.append_assoc, ← hnew]
    rfl
  cases h with
  | refused h =>
    rcases h with ⟨h, -⟩ | ⟨h, -⟩
    · rw [h] at hvalid
      cases hvalid
    · rw [h] at hopen
      cases hopen
  | unannounced _ hsent =>
    obtain ⟨new, hnew, hmem⟩ := traffic_of_sent ht hi hsent
    exact ⟨new, _, hnew, hmem⟩
  | forgone _ h =>
    obtain ⟨new, hnew, hmem⟩ := h.traffic ht hi hunknown
    exact ⟨new, _, hnew, hmem⟩
  | unsent h hsent =>
    obtain ⟨new, verdict, hnew, hmem⟩ := hgrows h hsent
    exact ⟨new, verdict, hnew, hmem⟩
  | sent h hsent => exact hgrows h hsent

/-! ## Runs -/

/-- Whatever is done but to request offers mundane frames only. -/
theorem mundane_performOver (gate : Gate) (hi : c.Intact) {move : Move}
    (h : ∀ subject payload options, move ≠ .request subject payload options) :
    c.Mundane (c.performOver (gated gate) move) := by
  have hallows : c.Allows .unasking move := { allows_all c move with
    asks := fun subject payload options heq => h subject payload options heq }
  have hcourse :=
    course_performOver (sends_gated gate) (drifts_gated gate) (suits_unasking c) hallows
  exact hcourse.mundane hi

theorem heralds_performOver (gate : Gate) (hi : c.Intact) (hc : c.Heralds) (move : Move) :
    (c.performOver (gated gate) move).Heralds := by
  by_cases h : ∃ subject payload options, move = .request subject payload options
  · obtain ⟨subject, payload, options, rfl⟩ := h
    exact (requested _ c subject payload options).heralds (sends_gated gate) hi hc
  · exact (mundane_performOver gate hi fun subject payload options heq =>
      h ⟨subject, payload, options, heq⟩).heralds hc

theorem heralds_runOver (gate : Gate) (hi : c.Intact) (hc : c.Heralds) (moves : List Move) :
    (c.runOver (gated gate) moves).Heralds := by
  induction moves generalizing c with
  | nil => exact hc
  | cons move moves ih =>
    have hmove : c.Flow (fun _ => True) (c.performOver (gated gate) move) :=
      flow_gated gate c [move]
    exact ih (hmove.intact hi) (heralds_performOver gate hi hc move)

/-- Along every run over a transport that reacts to frames and may reject any of them: of the
frames that it accepted, at most one carries the number that is reserved for replies; that one
subscribes to the wildcard of the inbox, without a queue group, and it was accepted before every
frame that asks for a reply. A request that succeeds adds one frame that asks for a reply, under the
key of the request that it answers; a request that fails adds none. Nothing else even offers one. As
long as the subscription was not accepted, a request for a valid subject on the open connection
offers it. -/
theorem interest_precedes_requests (gate : Gate) (o : Session.Opening) (id : Nat) (clock : Instant)
    (handle : Nat) (moves : List Move) :
    let c := (o.connect id clock handle).runOver (gated gate) moves
    let interest := Frame.subscribe replySid c.inbox.wildcard none
    c.accepted.countP (fun f => f.sid? == some replySid) ≤ 1 ∧
    (∀ f ∈ c.accepted, f.sid? = some replySid → f = interest) ∧
    (∀ before f after, c.accepted = before ++ f :: after → f.asks = true → interest ∈ before) ∧
    (∀ subject payload options,
      let outcome := c.request (gated gate) subject payload options
      (∀ n, outcome.1 = .ok n → ∃ r, outcome.2.registry.request? n = some r ∧
        outcome.2.asked = c.asked ++ [.publish subject (some r.key) payload]) ∧
      (∀ e, outcome.1 = .error e → outcome.2.asked = c.asked) ∧
      (interest ∉ c.accepted → Subject.isValid subject = true → c.closed = false →
        ∃ new verdict, outcome.2.traffic = c.traffic ++ new ∧ (interest, verdict) ∈ new)) ∧
    ∀ move : Move, (∀ subject payload options, move ≠ .request subject payload options) →
      ∃ new, (c.performOver (gated gate) move).traffic = c.traffic ++ new ∧
        ∀ offer ∈ new, offer.1.asks = false ∧ offer.1.sid? ≠ some replySid := by
  intro c interest
  have ht : (gated gate).Sends .unasking := sends_gated gate
  have hflow : (o.connect id clock handle).Flow (fun _ => True) c := flow_gated gate _ moves
  have hi : c.Intact := hflow.intact (.connect o id clock handle)
  have hn : c.Numbered := hflow.numbered rfl
  have hc : c.Heralds := heralds_runOver gate (.connect o id clock handle) .nil moves
  have hsid : interest.sid? = some replySid := rfl
  refine ⟨?_, fun f hf h => hc.eq_of_sid? hf h, fun before f after heq h =>
    hc.mem_of_asks hsid heq h, fun subject payload options => ?_, fun move hmove => ?_⟩
  · rw [hc.countP_sid? hsid]
    exact Bool.toNat_le _
  · intro outcome
    have hrequested : Requested (gated gate) c subject payload options outcome.1 outcome.2 :=
      requested _ c subject payload options
    refine ⟨fun n heq => ?_, fun e heq => ?_, fun hunknown hvalid hopen => ?_⟩
    · rw [heq] at hrequested
      obtain ⟨key, hkey, hasked⟩ := hrequested.asked_of_ok ht hi hc hn
      rw [Registry.getElem?_keys] at hkey
      obtain ⟨r, hr, rfl⟩ := Option.map_eq_some_iff.1 hkey
      exact ⟨r, hr, hasked⟩
    · rw [heq] at hrequested
      exact hrequested.asked_of_error ht hi hc
    · refine hrequested.traffic ht hi hvalid hopen ?_
      rw [← Bool.not_eq_true]
      intro htold
      have hpattern : Heralded c.announcement c.announced c.accepted := hc
      rw [htold] at hpattern
      exact hunknown (hpattern.mem hsid)
  · obtain ⟨new, hnew, hm⟩ := (mundane_performOver gate hi hmove).traffic
    exact ⟨new, hnew, fun offer ho => ⟨(hm offer ho).asks, (hm offer ho).sid⟩⟩

/-- The theorem applies when the first frame of all is rejected: the first request fails, and the
second one announces the reply subjects and asks. -/
theorem interest_precedes_requests_rejected :
    let gate : Gate := fun _ c => if c.journal.isEmpty then some .queueFull else none
    let c := (Session.Opening.connect { token := "" } 0 0 1).runOver (gated gate)
      [.request "a" .empty {}]
    let interest := Frame.subscribe replySid c.inbox.wildcard none
    let outcome := c.request (gated gate) "b" .empty {}
    c.traffic = [(interest, .error .queueFull)] ∧
      (∃ new verdict, outcome.2.traffic = c.traffic ++ new ∧ (interest, verdict) ∈ new) ∧
      ∃ r, outcome.2.registry.request? 0 = some r ∧
        outcome.2.asked = [.publish "b" (some r.key) .empty] := by
  intro gate c interest outcome
  obtain ⟨-, -, -, hrequests, -⟩ := interest_precedes_requests gate { token := "" } 0 0 1
    [.request "a" .empty {}]
  obtain ⟨hok, -, hretry⟩ := hrequests "b" .empty {}
  have hfirst : c.traffic = [(interest, .error .queueFull)] := by decide +kernel
  have hunknown : interest ∉ c.accepted := by
    rw [accepted, hfirst]
    exact List.not_mem_nil
  refine ⟨hfirst, hretry hunknown (by decide +kernel) (by decide +kernel), ?_⟩
  obtain ⟨r, hr, hasked⟩ := hok 0 (by decide +kernel)
  refine ⟨r, hr, hasked.trans ?_⟩
  rw [asked, accepted, hfirst]
  rfl

end Connection

end PubSub
