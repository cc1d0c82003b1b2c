import PubSub.Proofs.Connection.Course

/-!
# Sending a frame

What happens while a frame is on its way, which is what the transport of a connection may do: hand a
message in, close things, look. Over a transport that does nothing else, all of this is a course; so
the transport of a connection, which reacts over a transport of less depth, is one of these.

## Main results

- `Connection.course_close`, `Connection.course_processInbound` — what a reaction may do
- `Connection.sends_gated` — what the transport of a connection does while a frame is on its way
-/

namespace PubSub

namespace Subscription

variable {s s' : Subscription}

theorem isStarted_enqueue {m : Message} (h : s.enqueue m = some s') :
    s'.isStarted = s.isStarted := by
  obtain ⟨-, rfl⟩ := enqueue_eq h
  rfl

/-- A worker that runs goes on to run. -/
theorem enable_of_isStarted (h : s.isStarted = true) (stopping : Bool) :
    s.enable stopping = (false, s) := by
  unfold enable
  rw [if_pos h]

end Subscription

namespace Connection

variable {p : Permit} {c c' : Connection} {t : Transport} {sid : Sid}

/-- One subscription shifts, given what it was and what it becomes; its worker is not stopped. -/
theorem Course.replace {s s' : Subscription} (hs : c.subscription? sid = some s)
    (hsid : s'.sid = s.sid) (h : s.Shifts c.isStopping s')
    (hstarted : s.isStarted = true → s'.isStarted = true) :
    c.Course p (c.modifySubscription sid fun _ => s') := by
  have hsame : ∀ s₀, c.subscription? sid = some s₀ → s₀ = s := fun s₀ hs₀ =>
    Option.some.inj (hs₀.symm.trans hs)
  refine .shift c (fun _ _ => hsid.trans (sid_of_subscription? hs)) (fun s₀ hs₀ => ?_)
    fun s₀ hs₀ _ hrun => ?_
  · rw [hsame s₀ hs₀]
    exact h
  · rw [hsame s₀ hs₀] at hrun
    exact Or.inl (hstarted hrun)

/-! ## Inbound messages -/

theorem course_deliverTo (h : p.delivers) {s : Subscription} (hs : c.subscription? s.sid = some s)
    (m : Message) : c.Course p (c.deliverTo s m).2 := by
  unfold deliverTo
  split
  · exact .tell c (e := .dropped s.sid m .noSubscription) h
  · next hinvalid =>
    have hvalid : s.valid = true := by simpa using hinvalid
    split
    · next s' hs' =>
      have haccept : c.Course p (c.modifySubscription s.sid fun _ => s') :=
        .replace hs (sid_of_enqueue hs') (.accept hvalid hs') fun h =>
          (Subscription.isStarted_enqueue hs').trans h
      exact haccept.trans (.log _ h)
    · next hs' =>
      refine .refuse c h hs hvalid ?_ m
      unfold Subscription.enqueue Dispatch.enqueue at hs'
      cases hclosed : s.queue.isClosed with
      | true => rfl
      | false => simp [hclosed] at hs'

theorem course_deliver (h : p.delivers) (c : Connection) (sid : Sid) (m : Message) :
    c.Course p (c.deliver sid m).2 := by
  unfold deliver lookup
  split
  · next s hs =>
    split at hs
    · obtain rfl : s.sid = sid := sid_of_subscription? hs
      exact course_deliverTo h hs m
    · cases hs
  · exact .tell c (e := .dropped sid m .noSubscription) h

theorem course_processInbound (c : Connection) {m : Message}
    (h : p.delivers ∨ c.inbox.owns m.subject = true) : c.Course p (c.processInbound m).2 := by
  unfold processInbound
  split
  · exact .consult c (.resolveReply m.subject m) (by simp)
  · next hforeign => exact course_deliver (h.resolve_right hforeign) c m.sid m

/-! ## Workers on and off -/

/-- The worker of a subscription is stopped, by permission or when the subscription has ended. -/
theorem course_disable (c : Connection) (sid : Sid)
    (h : ∀ s, c.subscription? sid = some s → s.valid = true → p.stops sid) :
    c.Course p (c.disable sid).2 := by
  obtain ⟨f, hf, hdisable, heq⟩ := c.disable_eq sid
  rw [heq]
  exact .shift c hf (fun s hs => hdisable s hs ▸ .disable s)
    fun s hs hvalid _ => Or.inr (h s hs hvalid)

theorem course_enable (c : Connection) (sid : Sid) : c.Course p (c.enable sid).2 := by
  obtain ⟨f, hf, henable, heq⟩ := c.enable_eq sid
  rw [heq]
  refine .shift c hf (fun s hs => henable s hs ▸ .enable s) fun s hs _ hrun => Or.inl ?_
  rw [henable s hs, Subscription.enable_of_isStarted hrun]
  exact hrun

/-! ## Ends -/

/-- A frame is sent. -/
theorem course_send (ht : t.Sends p) (hp : c.Suits p) {o : Outgoing} (h : c.Sendable p o.frame) :
    c.Course p (t o c).2 := by
  obtain ⟨c', outbound, hcourse, hquiet, heq⟩ := ht o c hp (Or.inr h.asksOwn)
  rw [heq]
  exact .send h hcourse hquiet _ outbound

theorem course_teardown (ht : t.Sends p) (hp : c.Suits p) (h : p.ends sid) :
    c.Course p (c.teardown t sid).2 := by
  unfold teardown
  split
  · exact .refl c
  · next s hs =>
    split
    · exact .refl c
    · next hinvalid =>
      have hvalid : s.valid = true := by simpa using hinvalid
      split
      · obtain ⟨c', outbound, hcourse, hquiet, heq⟩ :=
          ht { frame := .unsubscribe sid none } (c.invalidate sid) ⟨hp.ends, hp.reenters⟩
            (Or.inr (asksOwn_of_asks rfl))
        dsimp only
        rw [heq]
        exact .withdraw h hs hvalid hcourse hquiet _ outbound
      · next hdetached => exact .detach c h hs hvalid (by simpa using hdetached)

theorem course_closeSubscription (ht : t.Sends p) (hd : t.Drifts) (hp : c.Suits p)
    (h : p.ends sid) : c.Course p (c.closeSubscription t sid) := by
  refine (course_teardown ht hp h).trans (course_disable _ sid fun s' hs' hvalid => ?_)
  -- what was torn down is not valid
  cases hs : c.subscription? sid with
  | none =>
    have hsame : (c.teardown t sid).2 = c := by simp only [teardown, hs]
    rw [hsame, hs] at hs'
    cases hs'
  | some s =>
    obtain ⟨v, hv, -, hinvalid⟩ := invalid_teardown hd (record?_of_subscription? hs)
    obtain rfl := Option.some.inj ((subscription?_of_record? hv).symm.trans hs')
    rw [hinvalid] at hvalid
    cases hvalid

theorem course_foldl_closeSubscription (ht : t.Sends p) (hd : t.Drifts) (hp : c.Suits p)
    (sids : List Sid) (h : ∀ sid ∈ sids, p.ends sid) :
    c.Course p (sids.foldl (fun c sid => c.closeSubscription t sid) c) := by
  induction sids generalizing c with
  | nil => exact .refl c
  | cons sid sids ih =>
    have hclose := course_closeSubscription ht hd hp (h sid List.mem_cons_self)
    exact hclose.trans (ih (hclose.suits hp) fun other hm => h other (List.mem_cons_of_mem _ hm))

/-- Of several subscriptions that are closed in turn, each is invalid in the end. -/
theorem invalid_foldl_closeSubscription (hd : t.Drifts) {sids : List Sid} (hsid : sid ∈ sids)
    {s : Subscription} (hs : c.subscription? sid = some s) :
    ∃ s', (sids.foldl (fun c sid => c.closeSubscription t sid) c).subscription? sid = some s' ∧
      s'.valid = false := by
  induction sids generalizing c s with
  | nil => cases hsid
  | cons other sids ih =>
    by_cases ho : sid = other
    · subst ho
      obtain ⟨v, hv, -, hinvalid, -⟩ := closeSubscription_eq hd (record?_of_subscription? hs)
      have hrest : (c.closeSubscription t sid).Drifts (fun _ => True) _ :=
        drifts_foldl_closeSubscription hd sids _
      obtain ⟨v', hv', hdrift⟩ := hrest.record sid v hv
      exact ⟨v'.sub, subscription?_of_record? hv', hdrift.invalid hinvalid⟩
    · have hclose : c.Drifts (fun _ => True) (c.closeSubscription t other) :=
        drifts_closeSubscription hd c other
      obtain ⟨v, hv, -⟩ := hclose.record sid _ (record?_of_subscription? hs)
      exact ih ((List.mem_cons.1 hsid).resolve_left ho) (subscription?_of_record? hv)

theorem course_close (ht : t.Sends p) (hd : t.Drifts) (hp : c.Suits p) (h : ∀ sid, p.ends sid) :
    c.Course p (c.close t) := by
  unfold close
  split
  · exact .refl c
  · next hopen =>
    have hmarked : Suits p { c with closed := true, registry := c.registry.cancelAll.2 } :=
      ⟨hp.ends, hp.reenters⟩
    have hcourse := course_foldl_closeSubscription ht hd hmarked c.table fun sid _ => h sid
    have hends : c.Course p _ :=
      .close (by simpa using hopen) hcourse fun sid hsid s hs =>
        invalid_foldl_closeSubscription hd hsid hs
    exact hends.trans (.log _ trivial)

/-! ## Reactions -/

/-- Closing what the application holds, or all there is, takes permission. -/
theorem course_react (ht : t.Sends p) (hd : t.Drifts) (hp : c.Suits p) {frame : Frame}
    (hframe : p.delivers ∨ c.AsksOwn frame) (deed : Reaction.Deed)
    (h : deed.closes = true → ∀ sid, p.ends sid) : c.Course p (c.react t frame deed).2 := by
  cases deed with
  | closeConnection => exact course_close ht hd hp (h rfl)
  | reply payload =>
    cases frame with
    | publish subject replyTo body =>
      cases replyTo with
      | some key => exact course_processInbound c (hframe.imp_right fun h => h subject key body rfl)
      | none => exact .refl c
    | subscribe => exact .refl c
    | unsubscribe => exact .refl c
  | closeSubscriptions => exact course_foldl_closeSubscription ht hd hp _ fun sid _ => h rfl sid
  | look => exact .refl c

theorem course_reactTo (ht : t.Sends p) (hd : t.Drifts) (hp : c.Suits p) {reaction : Reaction}
    {o : Outgoing} (hframe : p.delivers ∨ c.AsksOwn o.frame)
    (h : reaction.deed.closes = true → ∀ sid, p.ends sid) :
    c.Course p (c.reactTo t reaction o) := by
  unfold reactTo
  split
  · have hreact : c.Course p _ := course_react ht hd hp hframe reaction.deed h
    split
    · next finding c' heq =>
      rw [heq] at hreact
      exact hreact.trans (.log _ trivial)
    · next c' heq =>
      rw [heq] at hreact
      exact hreact
  · exact .refl c

/-! ## Reactions that close nothing -/

theorem Quiet.refl (c : Connection) : c.Quiet c := ⟨rfl, fun _ => rfl⟩

theorem Quiet.trans {c'' : Connection} (h : c.Quiet c') (h' : c'.Quiet c'') : c.Quiet c'' :=
  ⟨h'.traffic.trans h.traffic, fun sid => (h'.valid sid).trans (h.valid sid)⟩

/-- An event about no frame is quiet. -/
theorem quiet_log (c : Connection) {e : Event} (h : e.offer? = none) : c.Quiet (c.log e) :=
  ⟨by rw [traffic_log, h]; exact List.append_nil _, fun _ => rfl⟩

theorem quiet_drop (c : Connection) (sid : Sid) (m : Message) (reason : DropReason) :
    c.Quiet (c.drop sid m reason) := by
  have hcounts : c.Quiet { c with counts := c.counts.dropped reason } := ⟨rfl, fun _ => rfl⟩
  exact hcounts.trans (quiet_log _ rfl)

/-- One subscription changes, and stays as valid as it is. -/
theorem quiet_replace {s s' : Subscription} (hs : c.subscription? sid = some s)
    (hsid : s'.sid = s.sid) (hvalid : s'.valid = s.valid) :
    c.Quiet (c.modifySubscription sid fun _ => s') := by
  refine ⟨rfl, fun other => ?_⟩
  rw [subscription?_modifySubscription c sid fun _ _ => hsid.trans (sid_of_subscription? hs)]
  split
  · next ho => rw [ho, hs, Option.map_some, Option.map_some, Option.map_some, hvalid]
  · rfl

theorem quiet_deliverTo {s : Subscription} (hs : c.subscription? s.sid = some s) (m : Message) :
    c.Quiet (c.deliverTo s m).2 := by
  unfold deliverTo
  split
  · exact quiet_drop c s.sid m _
  · split
    · next s' hs' =>
      obtain ⟨-, rfl⟩ := Subscription.enqueue_eq hs'
      exact (quiet_replace hs (by rfl) (by rfl)).trans (quiet_log _ rfl)
    · exact quiet_drop c s.sid m _

theorem quiet_processInbound (c : Connection) (m : Message) :
    c.Quiet (c.processInbound m).2 := by
  unfold processInbound
  split
  · exact ⟨rfl, fun _ => rfl⟩
  · unfold deliver lookup
    split
    · next s hs =>
      split at hs
      · rw [← sid_of_subscription? hs] at hs
        exact quiet_deliverTo hs m
      · cases hs
    · exact quiet_drop c m.sid m _

/-- A reaction that closes nothing is quiet. -/
theorem quiet_reactTo (t : Transport) {reaction : Reaction} (o : Outgoing) (c : Connection)
    (h : reaction.deed.closes = false) : c.Quiet (c.reactTo t reaction o) := by
  have hreact : c.Quiet (c.react t o.frame reaction.deed).2 := by
    cases hdeed : reaction.deed with
    | closeConnection | closeSubscriptions =>
      rw [hdeed] at h
      cases h
    | reply payload =>
      unfold react
      dsimp only
      split
      · exact quiet_processInbound c _
      · exact .refl c
    | look => exact .refl c
  unfold reactTo
  split
  · split
    · next finding c' heq =>
      rw [heq] at hreact
      exact hreact.trans (quiet_log c' rfl)
    · next c' heq =>
      rw [heq] at hreact
      exact hreact
  · exact .refl c

/-! ## Offers -/

theorem offered_offer (c : Connection) (o : Outgoing) :
    ∃ outbound, (c.offer o).2 = c.offered o (c.offer o).1 outbound := by
  unfold offer
  split
  · next outbound _ => exact ⟨outbound, rfl⟩
  · exact ⟨c.outbound, rfl⟩

theorem offered_offerThrough (gate : Gate) (c : Connection) (o : Outgoing) :
    ∃ outbound, (c.offerThrough gate o).2 = c.offered o (c.offerThrough gate o).1 outbound := by
  unfold offerThrough
  split
  · exact ⟨c.outbound, rfl⟩
  · exact offered_offer c o

theorem plain_offerThrough (gate : Gate) : Transport.Plain (offerThrough gate) := by
  intro o c
  unfold offerThrough offer
  cases hgate : gate o c with
  | some e => exact Or.inl ⟨e, rfl⟩
  | none =>
    cases hsend : c.outbound.send o with
    | ok outbound => exact Or.inr ⟨outbound, rfl, rfl⟩
    | error e => exact Or.inl ⟨e, rfl⟩

theorem sends_transportAt (gate : Gate) (depth : Nat) : (transportAt gate depth).Sends p := by
  -- what a reaction sends goes through a transport of less depth
  induction depth with
  | zero =>
    intro o c _ _
    obtain ⟨outbound, heq⟩ := offered_offerThrough gate c o
    exact ⟨c, outbound, .refl c, Or.inr (.refl c), heq⟩
  | succ depth ih =>
    intro o c hp hframe
    unfold transportAt
    split
    · obtain ⟨outbound, heq⟩ := offered_offerThrough gate c o
      exact ⟨c, outbound, .refl c, Or.inr (.refl c), heq⟩
    · next reaction hr =>
      have hreact : c.Course p (c.reactTo (transportAt gate depth) reaction o) :=
        course_reactTo ih (drifts_transportAt gate depth) hp hframe (hp.ends _ reaction hr)
      have hquiet : p.reenters ∨ c.Quiet (c.reactTo (transportAt gate depth) reaction o) := by
        cases hcloses : reaction.deed.closes with
        | true => exact Or.inl (hp.reenters _ reaction hr hcloses 0)
        | false => exact Or.inr (quiet_reactTo _ o c hcloses)
      unfold sendReacting
      cases reaction.refusal with
      | some e =>
        exact ⟨_, (c.reactTo (transportAt gate depth) reaction o).outbound, hreact, hquiet, rfl⟩
      | none =>
        obtain ⟨outbound, heq⟩ := offered_offerThrough gate
          (c.reactTo (transportAt gate depth) reaction o) o
        exact ⟨_, outbound, hreact, hquiet, heq⟩

theorem sends_gated (gate : Gate) : (gated gate).Sends p :=
  fun o c hp => sends_transportAt gate _ o c hp

theorem sends_transport : transport.Sends p := sends_gated .clear

end Connection

namespace Transport.Plain

variable {t : Transport} {o : Outgoing} {c c' : Connection}

theorem eq_of_error (ht : t.Plain) {e : TransportError} (h : t o c = (.error e, c')) :
    c' = c.offered o (.error e) c.outbound := by
  obtain ⟨e', heq⟩ | ⟨outbound, -, heq⟩ := ht o c
  · cases h.symm.trans heq
    rfl
  · cases h.symm.trans heq

theorem eq_of_ok (ht : t.Plain) (h : t o c = (.ok (), c')) :
    ∃ outbound, c.outbound.send o = .ok outbound ∧ c' = c.offered o (.ok ()) outbound := by
  obtain ⟨e', heq⟩ | ⟨outbound, hsend, heq⟩ := ht o c
  · cases h.symm.trans heq
  · cases h.symm.trans heq
    exact ⟨outbound, hsend, rfl⟩

/-- Whether it accepts the frame or not. -/
theorem eq_offered (ht : t.Plain) (o : Outgoing) (c : Connection) :
    ∃ verdict outbound, (t o c).2 = c.offered o verdict outbound := by
  obtain ⟨e, heq⟩ | ⟨outbound, -, heq⟩ := ht o c
  · exact ⟨.error e, c.outbound, congrArg Prod.snd heq⟩
  · exact ⟨.ok (), outbound, congrArg Prod.snd heq⟩

end Transport.Plain

end PubSub
