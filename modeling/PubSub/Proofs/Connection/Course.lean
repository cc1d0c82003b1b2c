import PubSub.Connection.Traffic
import PubSub.Proofs.Connection.Flow

/-!
# The course of a connection

A flow with every frame in sight (`Connection.Course`): which frames are offered, in which state,
and what the code checked before. While a frame is on its way the transport may do something itself,
so a frame is a bracket: what the transport does comes first, and then the verdict. What only
concerns subscriptions, requests and counts is told by the flow that a course is
(`Connection.Course.flow`); what concerns frames is proved about courses.

## Main definitions

- `Permit`, `Permit.all` — what may be done to a connection
- `DeliveryCounts.told` — what an event adds to the counts of messages
- `Permit.Logs`, `Permit.Tells` — the events that are only written down, and those that are counted
- `Connection.Sendable` — the frames that are offered while nothing else changes
- `Connection.Course` — what becomes of a connection
- `Transport.Sends` — nothing but what is permitted happens while a frame is on its way
- `Transport.Plain` — nothing at all happens meanwhile
- `Connection.OffersOnly` — the frames that are offered meanwhile have a property

## Main results

- `Connection.Course.flow` — a course is a flow
-/

namespace PubSub

/-- What may be done to a connection. -/
structure Permit where
  /-- Which subscriptions may be ended or limited. -/
  ends : Sid → Prop
  /-- Which subscriptions may be valid when their worker is stopped. -/
  stops : Sid → Prop
  /-- Whether requests may be made. -/
  asks : Prop
  /-- Whether anything may be ended while a frame is on its way. -/
  reenters : Prop
  /-- Whether failures of handlers may be reported. -/
  reports : Prop
  /-- Whether messages may be handed to subscriptions. -/
  delivers : Prop
  /-- The subjects on which messages may be answered. -/
  answers : String → Prop

/-- Everything may be done. -/
def Permit.all : Permit where
  ends _ := True
  stops _ := True
  asks := True
  reenters := True
  reports := True
  delivers := True
  answers _ := True

/-- The counts when an event has told of a message that was handed over or dropped, or of a handler
that failed. -/
def DeliveryCounts.told (counts : DeliveryCounts) : Event → DeliveryCounts
  | .began .. => counts.handed
  | .dropped _ _ reason => counts.dropped reason
  | .warned _ _ failure => counts.failed failure.kind
  | _ => counts

/-- The event is counted nowhere; no frame is offered and no subscription registered. -/
def Permit.Logs (p : Permit) : Event → Prop
  | .offered .. | .registered .. | .began .. | .dropped .. | .warned .. => False
  | .accepted .. => p.delivers
  | .observed .. | .hookFailed .. => p.reports
  | _ => True

/-- The event is counted; no queue refuses a message. -/
def Permit.Tells (p : Permit) : Event → Prop
  | .began .. | .dropped _ _ .noHandler => True
  | .dropped _ _ .noSubscription => p.delivers
  | .warned .. => p.reports
  | _ => False

namespace Connection

/-- An event is counted and written down. -/
def tell (c : Connection) (e : Event) : Connection :=
  { c with counts := c.counts.told e }.log e

/-- A frame was offered to the channel, with a verdict. -/
def offered (c : Connection) (o : Outgoing) (verdict : Except TransportError Unit)
    (outbound : Outbound Outgoing) : Connection :=
  { c with outbound := outbound }.log (.offered o verdict)

/-- The announcement of a subscription came back: if it was rejected, the worker is stopped. -/
def announcedFor (c : Connection) (sid : Sid) : Except TransportError Unit → Connection
  | .ok () => c
  | .error _ => (c.disable sid).2

/-- No frame is offered, and subscriptions stay as valid as they are. -/
structure Quiet (c c' : Connection) : Prop where
  traffic : c'.traffic = c.traffic
  valid : ∀ sid, (c'.subscription? sid).map (·.valid) = (c.subscription? sid).map (·.valid)

/-- If a frame asks for a reply, it does so on a subject of the connection's own. -/
def AsksOwn (c : Connection) (f : Frame) : Prop :=
  ∀ subject key payload, f = .publish subject (some key) payload → c.inbox.owns key = true

/-- What is offered while nothing else changes. -/
inductive Sendable (p : Permit) (c : Connection) : Frame → Prop where
  | publish {subject : String} (h : Subject.isValid subject = true) (payload : ByteArray) :
    Sendable p c (.publish subject none payload)
  | answer {subject : String} (h : p.answers subject) (payload : ByteArray) :
    Sendable p c (.publish subject none payload)
  | ask (h : p.asks) {subject : String} (hsubject : Subject.isValid subject = true) (n : Nat)
    (payload : ByteArray) : Sendable p c (.publish subject (some (c.inbox.subject n)) payload)
  | announce (h : p.asks) : Sendable p c c.announcement
  /-- The server is told the ceiling of a valid subscription. -/
  | tell {sid : Sid} {s : Subscription} (hs : c.subscription? sid = some s)
    (hvalid : s.valid = true) (max : Nat) : Sendable p c (.unsubscribe sid (some max))

/-- What becomes of a connection when only what is permitted is done. -/
inductive Course (p : Permit) : Connection → Connection → Prop where
  | refl (c : Connection) : Course p c c
  | trans {c c' c'' : Connection} (h : Course p c c') (h' : Course p c' c'') : Course p c c''
  | log (c : Connection) {e : Event} (h : p.Logs e) : Course p c (c.log e)
  /-- Handles, channel and clock are nobody else's concern. -/
  | aside (c : Connection) (handles : List Nat) (outbound : Outbound Outgoing) (clock : Instant) :
    Course p c { c with handles := handles, outbound := outbound, clock := clock }
  | tell (c : Connection) {e : Event} (h : p.Tells e) : Course p c (c.tell e)
  /-- A valid subscription refuses a message, for its queue is closed. -/
  | refuse (c : Connection) (h : p.delivers) {sid : Sid} {s : Subscription}
    (hs : c.subscription? sid = some s) (hvalid : s.valid = true)
    (hclosed : s.queue.isClosed = true) (m : Message) : Course p c (c.drop sid m .queueClosed)
  /-- Something is done to the registry, but no request is made. -/
  | consult (c : Connection) (op : Registry.Op)
    (h : ∀ key options timeout now, op ≠ .register key options timeout now) :
    Course p c { c with registry := c.registry.perform op }
  | sweep (c : Connection) : Course p c c.stepSweeper
  /-- A subscription shifts; only by permission is its worker stopped while it is valid. -/
  | shift (c : Connection) {sid : Sid} {f : Subscription → Subscription}
    (hf : ∀ s, s.sid = sid → (f s).sid = sid)
    (h : ∀ s, c.subscription? sid = some s → s.Shifts c.isStopping (f s))
    (hstarted : ∀ s, c.subscription? sid = some s → s.valid = true → s.isStarted = true →
      (f s).isStarted = true ∨ p.stops sid) : Course p c (c.modifySubscription sid f)
  | limit (c : Connection) {sid : Sid} (h : p.ends sid) (max : Nat) :
    Course p c (c.modifySubscription sid fun s => { s with max := max })
  | register (c : Connection) {s : Subscription} (h : c.closed = false)
    (hsid : s.sid = c.issuedSids + 1) (hnew : s.IsNew) : Course p c (c.register s)
  /-- The announcement of the reply subjects was accepted. -/
  | herald (c : Connection) (h : p.asks) : Course p c { c with announced := true }
  | enrol (c : Connection) (h : p.asks) (options : RequestOptions) (hopen : c.closed = false) :
    Course p c (c.enrolled options)
  /-- A request that is made when the connection was closed meanwhile is given up at once. -/
  | forgo (c : Connection) (h : p.asks) (options : RequestOptions) (hclosed : c.closed = true) :
    Course p c ((c.enrolled options).abandon c.inbox.next.1)
  | send {c c' : Connection} {o : Outgoing} (h : c.Sendable p o.frame) (hcourse : Course p c c')
    (hquiet : p.reenters ∨ c.Quiet c') (verdict : Except TransportError Unit)
    (outbound : Outbound Outgoing) : Course p c (c'.offered o verdict outbound)
  /-- A valid subscription ends, and the server is told. -/
  | withdraw {c c' : Connection} {sid : Sid} {s : Subscription} (h : p.ends sid)
    (hs : c.subscription? sid = some s) (hvalid : s.valid = true)
    (hcourse : Course p (c.invalidate sid) c') (hquiet : p.reenters ∨ (c.invalidate sid).Quiet c')
    (verdict : Except TransportError Unit) (outbound : Outbound Outgoing) :
    Course p c (c'.offered { frame := .unsubscribe sid none } verdict outbound)
  /-- A valid subscription ends that cannot send. -/
  | detach (c : Connection) {sid : Sid} {s : Subscription} (h : p.ends sid)
    (hs : c.subscription? sid = some s) (hvalid : s.valid = true) (hdetached : s.attached = false) :
    Course p c (c.invalidate sid)
  /-- A valid subscription whose worker does not run is started, and announced. -/
  | start {c c' : Connection} {sid : Sid} {s : Subscription} (hs : c.subscription? sid = some s)
    (hvalid : s.valid = true) (hidle : s.isStarted = false)
    (hcourse : Course p (c.enable sid).2 c') (hquiet : p.reenters ∨ (c.enable sid).2.Quiet c')
    (verdict : Except TransportError Unit) (outbound : Outbound Outgoing) :
    Course p c ((c'.offered { frame := .subscribe sid s.subject s.queueGroup } verdict
      outbound).announcedFor sid verdict)
  /-- A valid subscription is started that cannot be announced. -/
  | startDetached (c : Connection) {sid : Sid} {s : Subscription}
    (hs : c.subscription? sid = some s) (hvalid : s.valid = true) (hidle : s.isStarted = false)
    (hdetached : s.attached = false) : Course p c ((c.enable sid).2.disable sid).2
  /-- Every request is given up, everything in the table is closed, and then all workers are told to
  end. -/
  | close {c c' : Connection} (h : c.closed = false)
    (hcourse : Course p { c with closed := true, registry := c.registry.cancelAll.2 } c')
    (hends : ∀ sid ∈ c.table, ∀ s, c.subscription? sid = some s →
      ∃ s', c'.subscription? sid = some s' ∧ s'.valid = false) : Course p c c'.stopWorkers

/-- Whatever is offered meanwhile has a property. -/
def OffersOnly (P : Frame → Prop) (c c' : Connection) : Prop :=
  ∃ new, c'.traffic = c.traffic ++ new ∧ ∀ offer ∈ new, P offer.1

/-- What the transport may do while a frame is on its way is permitted. -/
structure Suits (p : Permit) (c : Connection) : Prop where
  ends : c.Permits p.ends
  reenters : c.Permits fun _ => p.reenters

end Connection

/-- While a frame is on its way, nothing happens but what is permitted. A transport that answers the
frame resolves a request, unless the frame asks for a reply elsewhere. -/
def Transport.Sends (p : Permit) (t : Transport) : Prop :=
  ∀ (o : Outgoing) (c : Connection), c.Suits p → p.delivers ∨ c.AsksOwn o.frame →
    ∃ c' outbound, c.Course p c' ∧ (p.reenters ∨ c.Quiet c') ∧
      (t o c).2 = c'.offered o (t o c).1 outbound

/-- A transport that does nothing with a frame but reject it or put it into the channel. -/
def Transport.Plain (t : Transport) : Prop :=
  ∀ (o : Outgoing) (c : Connection),
    (∃ e, t o c = (.error e, c.offered o (.error e) c.outbound)) ∨
    ∃ outbound, c.outbound.send o = .ok outbound ∧
      t o c = (.ok (), c.offered o (.ok ()) outbound)

namespace Connection

variable {exposed : Sid → Prop} {p : Permit} {c c' : Connection} {t : Transport} {sid : Sid}

theorem suits_all (c : Connection) : c.Suits .all := ⟨permits_all c, fun _ _ _ _ _ => trivial⟩

theorem asksOwn_of_asks {f : Frame} (h : f.asks = false) : c.AsksOwn f := by
  rintro subject key payload rfl
  cases h

theorem Sendable.asksOwn {f : Frame} (h : c.Sendable p f) : c.AsksOwn f := by
  rintro subject key payload rfl
  cases h with
  | ask _ _ n => exact c.inbox.owns_subject n

theorem traffic_offered (c : Connection) (o : Outgoing) (verdict : Except TransportError Unit)
    (outbound : Outbound Outgoing) :
    (c.offered o verdict outbound).traffic = c.traffic ++ [(o.frame, verdict)] :=
  traffic_log { c with outbound := outbound } (.offered o verdict)

/-! ## What is offered -/

namespace OffersOnly

variable {P : Frame → Prop} {c'' : Connection}

theorem of_eq (hj : c'.journal = c.journal) : OffersOnly P c c' := by
  refine ⟨[], ?_, fun _ h => absurd h List.not_mem_nil⟩
  rw [traffic, hj, List.append_nil]
  rfl

theorem refl (c : Connection) : OffersOnly P c c := of_eq rfl

theorem trans (h : OffersOnly P c c') (h' : OffersOnly P c' c'') : OffersOnly P c c'' := by
  obtain ⟨new, hnew, hP⟩ := h
  obtain ⟨new', hnew', hP'⟩ := h'
  refine ⟨new ++ new', by rw [hnew', hnew, List.append_assoc], fun offer ho => ?_⟩
  exact (List.mem_append.1 ho).elim (hP offer) (hP' offer)

/-- An event about no frame. -/
theorem log (c : Connection) {e : Event} (h : e.offer? = none) : OffersOnly P c (c.log e) :=
  ⟨[], by rw [traffic_log, h]; rfl, fun _ h => absurd h List.not_mem_nil⟩

theorem offered (c : Connection) {o : Outgoing} (h : P o.frame)
    (verdict : Except TransportError Unit) (outbound : Outbound Outgoing) :
    OffersOnly P c (c.offered o verdict outbound) :=
  ⟨_, traffic_offered c o verdict outbound,
    fun _ ho => by rw [List.mem_singleton.1 ho]; exact h⟩

theorem disable (c : Connection) (sid : Sid) : OffersOnly P c (c.disable sid).2 := by
  unfold Connection.disable
  split <;> exact of_eq rfl

theorem enable (c : Connection) (sid : Sid) : OffersOnly P c (c.enable sid).2 := by
  unfold Connection.enable
  split <;> exact of_eq rfl

end OffersOnly

/-! ## A course is a flow -/

theorem flow_offered (c : Connection) (o : Outgoing) (verdict : Except TransportError Unit)
    (outbound : Outbound Outgoing) : c.Flow exposed (c.offered o verdict outbound) :=
  (Flow.aside c c.announced c.handles outbound c.clock).trans (.log _ _)

/-- What is counted is no refusal. -/
theorem flow_tell (c : Connection) {e : Event} (h : p.Tells e) : c.Flow exposed (c.tell e) := by
  have hcounts : (c.counts.told e).queueClosed = c.counts.queueClosed := by
    cases e with
    | began => rfl
    | dropped sid m reason =>
      cases reason with
      | queueClosed => exact h.elim
      | _ => rfl
    | warned sid subject failure => cases hkind : failure.kind <;> simp [DeliveryCounts.told,
        DeliveryCounts.failed, hkind]
    | _ => exact h.elim
  exact (Flow.tally c hcounts).trans (.log _ e)

/-- Stopping the worker of a subscription changes that subscription, if it exists. -/
theorem disable_eq (c : Connection) (sid : Sid) :
    ∃ f : Subscription → Subscription, (∀ s, s.sid = sid → (f s).sid = sid) ∧
      (∀ s, c.subscription? sid = some s → f s = s.disable.2) ∧
      (c.disable sid).2 = c.modifySubscription sid f := by
  cases hs : c.subscription? sid with
  | none =>
    refine ⟨fun s => s, fun _ h => h, fun s h => ?_, by simp [disable, hs, modifySubscription]⟩
    cases h
  | some s =>
    refine ⟨fun _ => s.disable.2, fun _ _ => s.disable_keeps.1.trans (sid_of_subscription? hs),
      fun s' hs' => ?_, by simp only [disable, hs]⟩
    rw [Option.some.inj hs']

/-- Starting a worker of a subscription changes that subscription, if it exists. -/
theorem enable_eq (c : Connection) (sid : Sid) :
    ∃ f : Subscription → Subscription, (∀ s, s.sid = sid → (f s).sid = sid) ∧
      (∀ s, c.subscription? sid = some s → f s = (s.enable c.isStopping).2) ∧
      (c.enable sid).2 = c.modifySubscription sid f := by
  cases hs : c.subscription? sid with
  | none =>
    refine ⟨fun s => s, fun _ h => h, fun s h => ?_, by simp [enable, hs, modifySubscription]⟩
    cases h
  | some s =>
    refine ⟨fun _ => (s.enable c.isStopping).2, fun _ _ =>
      (s.enable_keeps c.isStopping).1.trans (sid_of_subscription? hs), fun s' hs' => ?_,
      by simp only [enable, hs]⟩
    rw [Option.some.inj hs']

theorem subscription?_disable {s : Subscription} (hs : c.subscription? sid = some s) :
    (c.disable sid).2.subscription? sid = some s.disable.2 := by
  obtain ⟨f, hf, hdisable, heq⟩ := c.disable_eq sid
  rw [heq, subscription?_modifySubscription c sid hf, if_pos rfl, hs, Option.map_some,
    hdisable s hs]

theorem subscription?_enable {s : Subscription} (hs : c.subscription? sid = some s) :
    (c.enable sid).2.subscription? sid = some (s.enable c.isStopping).2 := by
  obtain ⟨f, hf, henable, heq⟩ := c.enable_eq sid
  rw [heq, subscription?_modifySubscription c sid hf, if_pos rfl, hs, Option.map_some,
    henable s hs]

theorem flow_disable (c : Connection) (sid : Sid) : c.Flow exposed (c.disable sid).2 := by
  obtain ⟨f, hf, hdisable, heq⟩ := c.disable_eq sid
  rw [heq]
  exact .shift c hf fun s hs => hdisable s hs ▸ .disable s

theorem flow_enable (c : Connection) (sid : Sid) : c.Flow exposed (c.enable sid).2 := by
  obtain ⟨f, hf, henable, heq⟩ := c.enable_eq sid
  rw [heq]
  exact .shift c hf fun s hs => henable s hs ▸ .enable s

theorem flow_announcedFor (c : Connection) (sid : Sid) (verdict : Except TransportError Unit) :
    c.Flow exposed (c.announcedFor sid verdict) := by
  cases verdict with
  | ok => exact .refl c
  | error => exact flow_disable c sid

theorem Course.flow (h : c.Course p c') : c.Flow p.ends c' := by
  induction h with
  | refl c => exact .refl c
  | trans _ _ ih ih' => exact ih.trans ih'
  | log c => exact .log c _
  | aside c handles outbound clock => exact .aside c c.announced handles outbound clock
  | tell c h => exact flow_tell c h
  | refuse c _ hs hvalid hclosed m => exact .refuse c hs hvalid hclosed m
  | consult c op h => exact .consult c op h
  | sweep c => exact .sweep c
  | shift c hf h => exact .shift c hf h
  | limit c h max => exact .limit c h max
  | register c h hsid hnew => exact .register c h hsid hnew
  | herald c => exact .aside c true c.handles c.outbound c.clock
  | enrol c _ options h => exact .enrol c options h
  | forgo c _ options h => exact .forgo c options h
  | send _ _ _ verdict outbound ih => exact ih.trans (flow_offered _ _ verdict outbound)
  | withdraw h _ _ _ _ verdict outbound ih =>
    exact (Flow.invalidate _ h).trans (ih.trans (flow_offered _ _ verdict outbound))
  | detach c h => exact .invalidate c h
  | @start c c' sid _ _ _ _ _ _ verdict outbound ih =>
    exact (flow_enable c sid).trans
      ((ih.trans (flow_offered c' _ verdict outbound)).trans (flow_announcedFor _ sid verdict))
  | @startDetached c sid => exact (flow_enable c sid).trans (flow_disable _ sid)
  | close h _ hends ih => exact .close h ih hends

/-- The transport goes on to do what it may. -/
theorem Course.suits (h : c.Course p c') (hp : c.Suits p) : c'.Suits p := by
  refine ⟨h.flow.permits hp.ends, fun kind reaction hr => ?_⟩
  rw [reaction?, h.flow.reactions] at hr
  exact hp.reenters kind reaction hr

theorem flow_of_sends (ht : t.Sends p) (hp : c.Suits p) {o : Outgoing}
    (h : p.delivers ∨ c.AsksOwn o.frame) : c.Flow p.ends (t o c).2 := by
  obtain ⟨c', outbound, hcourse, -, heq⟩ := ht o c hp h
  rw [heq]
  exact hcourse.flow.trans (flow_offered c' o _ outbound)

end Connection

end PubSub
