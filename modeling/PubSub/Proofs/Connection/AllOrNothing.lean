import PubSub.Proofs.Connection.Interest
import PubSub.Proofs.Registry.Accounts

/-!
# Requests are made whole or undone

A request that fails after its registration is given up at once, and what is left of it is a request
that was cancelled: its key was free before, so taking it out leaves the entries as they were, and the
gauge that rose falls again. What the announcement of the reply subjects did stays, for it is true
whether or not a request follows it.

## Main definitions

- `Registry.afterUndone` — a registry in which a request was made and given up
- `Connection.Undone` — everything that a failed request may change
- `Connection.FailsFor` — what it can fail for
- `Connection.Made` — everything that a request which is sent changes

## Main results

- `Registry.Coherent.abandon_register` — giving up a new request undoes its registration
- `Connection.request_whole_or_undone` — every request over a transport that accepts or rejects
-/

namespace PubSub

namespace Registry

variable {reg : Registry} {key : String}

/-- The registry after a request was registered and given up as closing. -/
def afterUndone (reg : Registry) (r : Request) : Registry :=
  { reg with
    requests := reg.requests ++ [r.settled (.cancelled .closing)]
    counts := reg.counts.entered.left.resolved .closing
    signalled := true }

/-- What a registration under a free key adds. -/
theorem register_adds (h : reg.find? key = none) (options : RequestOptions) (timeout : Duration)
    (now : Instant) :
    (reg.register key options timeout now).1 = reg.requests.length ∧
      (reg.register key options timeout now).2.requests =
        reg.requests ++ [Request.create key options timeout now] ∧
      (reg.register key options timeout now).2.entries =
        reg.entries ++ [(key, (reg.register key options timeout now).1)] := by
  rw [register_of_free h]
  exact ⟨rfl, rfl, rfl⟩

/-- Nothing that waits has a free key. -/
theorem filter_entries_of_free (h : reg.find? key = none) :
    reg.entries.filter (·.1 != key) = reg.entries := by
  rw [← entries_abandon, abandon, h]

/-- Giving up a request that was registered under a key at which nothing waited takes exactly what
the registration put in. -/
theorem Coherent.abandon_register (h : reg.Coherent) (hfree : reg.find? key = none)
    (options : RequestOptions) (timeout : Duration) (now : Instant) :
    ((reg.register key options timeout now).2.abandon key).2 =
      reg.afterUndone (Request.create key options timeout now) := by
  have hfind := (h.find?_register key options timeout now).2
  have hfound := request?_append reg (Request.create key options timeout now)
    (reg.entries ++ [(key, reg.requests.length)]) reg.counts.entered
  rw [register_of_free hfree options timeout now] at hfind ⊢
  rw [Registry.abandon, hfind]
  dsimp only
  rw [release_of_pending ((hfound _).trans (if_pos rfl)) rfl]
  refine ext_request? (fun i => ?_) ?_ rfl rfl
  · rw [afterUndone, request?_append]
    refine (request?_modify _ _ _ i).trans ?_
    by_cases hi : i = reg.requests.length
    · rw [if_pos hi.symm, if_pos hi, hi]
      exact congrArg (Option.map _) ((hfound _).trans (if_pos rfl))
    · rw [if_neg (Ne.symm hi), if_neg hi]
      exact (hfound i).trans (if_neg hi)
  · show (reg.entries ++ [(key, reg.requests.length)]).filter (·.1 != key) = reg.entries
    rw [List.filter_append, filter_entries_of_free hfree, List.filter_cons_of_neg (by simp)]
    exact List.append_nil _

end Registry

namespace Connection

/-- What a request that fails may change. -/
structure Undone (c c' : Connection) : Prop where
  entries : c'.registry.entries = c.registry.entries
  earlier : ∀ i r, c.registry.request? i = some r → c'.registry.request? i = some r
  outstanding : c'.registry.counts.outstanding.value = c.registry.counts.outstanding.value
  /-- No frame was accepted but the announcement, and it only if it was missing. -/
  accepted : c'.announced = c.announced ∧ c'.accepted = c.accepted ∧ c'.outbound = c.outbound ∨
    c.announced = false ∧ c'.announced = true ∧
      c'.accepted = c.accepted ++ [.subscribe replySid c.inbox.wildcard none] ∧
      c.outbound.send { frame := .subscribe replySid c.inbox.wildcard none } = .ok c'.outbound
  /-- One number was used up, for a request that was cancelled and counted, or none. -/
  number : c'.inbox = c.inbox ∧ c'.registry = c.registry ∨
    c'.inbox = c.inbox.next.2 ∧
      (∃ r, c'.registry.requests = c.registry.requests ++ [r] ∧ r.key = c.inbox.next.1 ∧
        r.state = some .closing) ∧
      ∀ x, c'.registry.counts.count x = c.registry.counts.count x + if x = .closing then 1 else 0
  rest : c' = { c with
    announced := c'.announced
    inbox := c'.inbox
    registry := c'.registry
    outbound := c'.outbound
    journal := c'.journal
    eventCount := c'.eventCount }

/-- What a request can fail for: its subject, the end of the connection, or a frame of its own that was
rejected. -/
def FailsFor (c : Connection) (subject : String) (e : RequestError) (c' : Connection) : Prop :=
  Subject.isValid subject = false ∧ e = .invalidSubject subject ∨
  c.closed = true ∧ e = .connectionClosed ∨
  ∃ error before frame, e = .transport error ∧
    c'.traffic = c.traffic ++ before ++ [(frame, .error error)]

/-- What a request that is sent changes. -/
structure Made (c : Connection) (subject : String) (payload : ByteArray) (options : RequestOptions)
    (number : Nat) (c' : Connection) : Prop where
  /-- Its key is none that a request ever had. -/
  fresh : c.inbox.next.1 ∉ c.registry.keys
  entries : c'.registry.entries = c.registry.entries ++ [(c.inbox.next.1, number)]
  request : number = c.registry.requests.length ∧ ∃ r,
    c'.registry.requests = c.registry.requests ++ [r] ∧ r.key = c.inbox.next.1 ∧ r.state = none ∧
      r.expiresAt =
        c.clock + options.timeout.getD c.config.requestTimeout + Duration.ofMillis 10
  accepted : c'.accepted = c.accepted ++
    (if c.announced then [] else [.subscribe replySid c.inbox.wildcard none]) ++
      [.publish subject (some c.inbox.next.1) payload]

variable {t : Transport} {c c₁ c' : Connection} {subject : String} {payload : ByteArray}
  {options : RequestOptions}

/-! ## Sending -/

theorem accepted_offered_error (c : Connection) (o : Outgoing) (e : TransportError)
    (outbound : Outbound Outgoing) : (c.offered o (.error e) outbound).accepted = c.accepted :=
  (accepted_of_traffic (traffic_offered c o (.error e) outbound)).trans (List.append_nil _)

theorem accepted_offered_ok (c : Connection) (o : Outgoing) (outbound : Outbound Outgoing) :
    (c.offered o (.ok ()) outbound).accepted = c.accepted ++ [o.frame] :=
  accepted_of_traffic (traffic_offered c o (.ok ()) outbound)

/-- What was offered, and the channel, when the announcement was made if it was missing. -/
def Opens (c : Connection) (before : List (Frame × Except TransportError Unit))
    (outbound : Outbound Outgoing) : Prop :=
  c.announced = true ∧ before = [] ∧ outbound = c.outbound ∨
    c.announced = false ∧ before = [(c.announcement, .ok ())] ∧
      c.outbound.send { frame := c.announcement } = .ok outbound

variable {before : List (Frame × Except TransportError Unit)} {outbound : Outbound Outgoing}

theorem Opens.accepted (h : c.Opens before outbound) :
    acceptedOf before = if c.announced then [] else [c.announcement] := by
  obtain ⟨hknown, rfl, -⟩ | ⟨hunknown, rfl, -⟩ := h
  · rw [if_pos hknown]
    rfl
  · rw [if_neg (by rw [hunknown]; decide)]
    rfl

/-- Before a request is registered, the announcement is made if it is missing, and nothing else. -/
theorem Announces.opens (h : Announces t c c₁) (ht : t.Plain) :
    ∃ before outbound journal count, c.Opens before outbound ∧
      c₁.traffic = c.traffic ++ before ∧ c₁ = { c with
        announced := true
        outbound := outbound
        journal := journal
        eventCount := count } := by
  cases h with
  | known h =>
    exact ⟨[], c.outbound, c.journal, c.eventCount, Or.inl ⟨h, rfl, rfl⟩,
      (List.append_nil _).symm, by rw [← h]⟩
  | @told c' h hsent =>
    obtain ⟨outbound, hsend, rfl⟩ := ht.eq_of_ok hsent
    exact ⟨_, outbound, _, _, Or.inr ⟨h, rfl, hsend⟩, traffic_offered c _ (.ok ()) outbound, rfl⟩

/-! ## What a request leaves behind -/

theorem Undone.refl (c : Connection) : c.Undone c where
  entries := rfl
  earlier _ _ h := h
  outstanding := rfl
  accepted := Or.inl ⟨rfl, rfl, rfl⟩
  number := Or.inl ⟨rfl, rfl⟩
  rest := rfl

/-- The announcement was rejected. -/
theorem undone_offered (c : Connection) (o : Outgoing) (e : TransportError) :
    c.Undone (c.offered o (.error e) c.outbound) where
  entries := rfl
  earlier _ _ h := h
  outstanding := rfl
  accepted := Or.inl ⟨rfl, accepted_offered_error c o e c.outbound, rfl⟩
  number := Or.inl ⟨rfl, rfl⟩
  rest := rfl

/-- A request was registered and given up. -/
theorem undone_of_given_up (hcoherent : c.registry.Coherent)
    (hfresh : c.inbox.next.1 ∉ c.registry.keys) {journal : List Event} {count : Nat}
    (h : c' = { c with
      announced := true
      inbox := c.inbox.next.2
      registry := ((c.registry.register c.inbox.next.1 options c.config.requestTimeout
        c.clock).2.abandon c.inbox.next.1).2
      outbound := outbound
      journal := journal
      eventCount := count })
    (haccepted : c'.accepted = c.accepted ++ acceptedOf before) (hopens : c.Opens before outbound) :
    c.Undone c' := by
  rw [hcoherent.abandon_register (hcoherent.find?_of_not_mem_keys hfresh)] at h
  subst h
  refine ⟨rfl, fun i r hr => ?_, ?_, ?_, Or.inr ⟨rfl, ⟨_, rfl, rfl, rfl⟩, fun x => ?_⟩, rfl⟩
  · exact (List.getElem?_append_left (Registry.lt_length_of_request? hr)).trans hr
  · show (c.registry.counts.outstanding.rise.fall).value = _
    rw [Gauge.value_fall, Gauge.value_rise]
    omega
  · obtain ⟨hknown, rfl, hsame⟩ | ⟨hunknown, rfl, hsend⟩ := hopens
    · exact Or.inl ⟨hknown.symm, haccepted.trans (List.append_nil _), hsame⟩
    · exact Or.inr ⟨hunknown, rfl, haccepted, hsend⟩
  · cases x <;> rfl

theorem Requested.undone {e : RequestError}
    (h : Requested t c subject payload options (.error e) c') (ht : t.Plain)
    (hcoherent : c.registry.Coherent) (hfresh : c.inbox.next.1 ∉ c.registry.keys) :
    c.Undone c' ∧ c.FailsFor subject e c' := by
  cases h with
  | refused h => exact ⟨.refl c, h.imp_right Or.inl⟩
  | unannounced _ hsent =>
    obtain rfl := ht.eq_of_error hsent
    refine ⟨undone_offered c _ _, Or.inr (Or.inr ⟨_, [], c.announcement, rfl, ?_⟩)⟩
    rw [List.append_nil]
    exact traffic_offered c _ _ _
  | forgone hopen h hclosed =>
    -- what rejects or accepts a frame does not close the connection
    obtain ⟨_, _, _, _, -, -, rfl⟩ := h.opens ht
    exact absurd (hopen.symm.trans hclosed) (by decide)
  | @unsent c₁ c₂ e h hsent =>
    obtain rfl := ht.eq_of_error hsent
    obtain ⟨before, outbound, journal, count, hopens, hbefore, rfl⟩ := h.opens ht
    have htraffic := (traffic_offered _ { frame := .publish subject (some c.inbox.next.1) payload }
      (.error e) outbound).trans (congrArg (· ++ [_]) hbefore)
    refine ⟨undone_of_given_up hcoherent hfresh rfl ?_ hopens,
      Or.inr (Or.inr ⟨e, before, _, rfl, htraffic⟩)⟩
    refine (accepted_of_traffic (htraffic.trans (List.append_assoc _ _ _))).trans ?_
    rw [acceptedOf_append]
    exact congrArg (c.accepted ++ ·) (List.append_nil _)

theorem Requested.made {number : Nat} (h : Requested t c subject payload options (.ok number) c')
    (ht : t.Plain) (hcoherent : c.registry.Coherent)
    (hfresh : c.inbox.next.1 ∉ c.registry.keys) :
    c.Made subject payload options number c' := by
  obtain ⟨hnumber, hrequests, hentries⟩ := Registry.register_adds
    (hcoherent.find?_of_not_mem_keys hfresh) options c.config.requestTimeout c.clock
  cases h with
  | @sent c₁ c₂ h hsent =>
    obtain ⟨outbound, -, rfl⟩ := ht.eq_of_ok hsent
    have hmore := accepted_offered_ok (c₁.enrolled options)
      { frame := .publish subject (some c₁.inbox.next.1) payload } outbound
    have hbefore : c₁.accepted = c.accepted ++ if c.announced then [] else [c.announcement] := by
      obtain ⟨before, _, _, _, hopens, hbefore, -⟩ := h.opens ht
      rw [← hopens.accepted]
      exact accepted_of_traffic hbefore
    obtain ⟨_, _, journal, count, -, -, rfl⟩ := h.opens ht
    exact {
      fresh := hfresh
      entries := hentries
      request := ⟨hnumber, _, hrequests, rfl, rfl, rfl⟩
      accepted := hmore.trans (congrArg (· ++ _) hbefore) }

/-- When the reply subjects cannot be announced, the request comes to nothing before it is
registered. -/
theorem Requested.unregistered {result : Except RequestError Nat}
    (h : Requested t c subject payload options result c') (ht : t.Plain)
    (hno : ∀ c₁, ¬Announces t c c₁) :
    c'.inbox = c.inbox ∧ c'.registry = c.registry ∧ c'.announced = c.announced ∧
      c'.accepted = c.accepted := by
  cases h with
  | refused => exact ⟨rfl, rfl, rfl, rfl⟩
  | unannounced _ hsent =>
    obtain rfl := ht.eq_of_error hsent
    exact ⟨rfl, rfl, rfl, accepted_offered_error c _ _ _⟩
  | forgone _ h => exact absurd h (hno _)
  | unsent h => exact absurd h (hno _)
  | sent h => exact absurd h (hno _)

theorem not_announces_of_error (hunknown : c.announced = false) {e : TransportError}
    (h : (t { frame := c.announcement } c).1 = .error e) : ∀ c₁, ¬Announces t c c₁ := by
  intro c₁ hannounces
  cases hannounces with
  | known hknown => exact absurd (hunknown.symm.trans hknown) (by decide)
  | told _ hsent =>
    rw [hsent] at h
    cases h

/-- A request with a malformed subject, or on a connection that is closed, changes nothing. -/
theorem request_of_refused (h : Subject.isValid subject = false ∨ c.closed = true) (t : Transport)
    (payload : ByteArray) (options : RequestOptions) :
    (c.request t subject payload options).2 = c := by
  unfold request
  cases hvalid : Subject.isValid subject with
  | false => rfl
  | true =>
    rw [hvalid] at h
    rw [if_neg (by decide), if_pos (h.resolve_left (by decide))]

/-! ## Runs -/

/-- A request on a connection that was used in any way, over a transport that may reject any frame
but does nothing else. It fails only for its subject, the end of the connection or a frame that was
rejected, and then the registry holds what it held and no more than the announcement was accepted. If
its subject is malformed, the connection closed or the announcement rejected, it uses no number up
either. If it is made, exactly one request waits that did not wait before, under a new key. -/
theorem request_whole_or_undone (gate later : Gate) (o : Session.Opening) (id : Nat)
    (clock : Instant) (handle : Nat) (moves : List Move) (subject : String) (payload : ByteArray)
    (options : RequestOptions) :
    let c := (o.connect id clock handle).runOver (gated gate) moves
    let answer := c.request (offerThrough later) subject payload options
    (∀ e, answer.1 = .error e → c.Undone answer.2 ∧ c.FailsFor subject e answer.2) ∧
    (Subject.isValid subject = false ∨ c.closed = true → answer.2 = c) ∧
    (∀ e, c.announced = false →
      (c.offerThrough later { frame := .subscribe replySid c.inbox.wildcard none }).1 = .error e →
      answer.2.inbox = c.inbox ∧ answer.2.registry = c.registry ∧
        answer.2.announced = c.announced ∧ answer.2.accepted = c.accepted) ∧
    ∀ number, answer.1 = .ok number → c.Made subject payload options number answer.2 := by
  intro c answer
  have hflow : (o.connect id clock handle).Flow (fun _ => True) c := flow_gated gate _ moves
  have hcoherent : c.registry.Coherent := hflow.coherent Registry.coherent_empty
  have hnumbered : c.Numbered := hflow.numbered rfl
  have hplain := plain_offerThrough later
  have hrequested : Requested (offerThrough later) c subject payload options answer.1 answer.2 :=
    requested _ c subject payload options
  refine ⟨fun e he => ?_, fun hrefused => request_of_refused hrefused _ payload options,
    fun e hunknown he => hrequested.unregistered hplain (not_announces_of_error hunknown he),
    fun number hnumber => ?_⟩
  · rw [he] at hrequested
    exact hrequested.undone hplain hcoherent hnumbered.next_not_mem
  · rw [hnumber] at hrequested
    exact hrequested.made hplain hcoherent hnumbered.next_not_mem

/-- The frame of a first request is rejected after its announcement was accepted: the number is used
up and nothing waits. -/
example :
    let c := Session.Opening.connect { token := "" } 0 0 1
    let later : Gate := fun o _ => if o.frame.asks then some .queueFull else none
    let c' := (c.request (offerThrough later) "x" .empty {}).2
    c'.accepted = [.subscribe 0 "_INBOX..*" none] ∧ c'.inbox.issued = 1 ∧ c'.pendingRequests = 0 ∧
      c'.registry.requests.map (fun r => (r.key, r.state)) = [("_INBOX..1", some .closing)] := by
  decide +kernel

end Connection

end PubSub
