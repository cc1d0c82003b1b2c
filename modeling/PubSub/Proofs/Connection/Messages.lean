import Mathlib.Algebra.BigOperators.Group.List.Basic
import Mathlib.Algebra.GroupWithZero.Nat
import PubSub.Proofs.Connection.Accounts
import PubSub.Proofs.Connection.Protocol
import PubSub.Proofs.Connection.Rest

/-!
# Messages are accounted for

Every count of messages tells what the journal tells (`Connection.Told`), and the journal tells of
every call that handed a message in for a subscription what it answered. What the journal tells of
handlers and queues is divided among the subscriptions, and each of them has handed over, dropped or
still queues what it accepted. So the counts balance.

## Main definitions

- `DeliveryCounts.ofJournal`, `Connection.Told` — counts that say what a journal says
- `Connection.admitted` — the answers of calls that handed a message in, as the journal tells them

## Main results

- `Connection.Course.told` — whatever is done, the counts say what the journal says
- `Connection.admitted_performOver` — one thing to do adds the answers of the calls it makes
- `Connection.countP_journal` — what a journal tells of subscriptions is divided among them
- `Connection.messages_accounted` — in every state of every run
-/

namespace PubSub

/-! ## What a journal tells -/

namespace Event

/-- Whether an event is that a message was dropped for a reason. -/
def isDropped (reason : DropReason) : Event → Bool
  | .dropped _ _ reason' => reason' = reason
  | _ => false

/-- What a call answered that handed a message in for a subscription, if an event is about one. -/
def admitted? : Event → Option Bool
  | .accepted .. => some true
  | .dropped _ _ .noSubscription | .dropped _ _ .queueClosed => some false
  | _ => none

end Event

namespace DeliveryCounts

/-- The counts that say what a journal says, newest event first. -/
def ofJournal : List Event → DeliveryCounts
  | [] => {}
  | e :: rest => (ofJournal rest).told e

theorem delivered_ofJournal (j : List Event) :
    (ofJournal j).delivered = j.countP fun e => e.begun?.isSome := by
  induction j with
  | nil => rfl
  | cons e j ih =>
    rw [List.countP_cons, ← ih, ofJournal]
    cases e with
    | dropped _ _ reason => cases reason <;> rfl
    | warned _ _ f => cases h : f.kind <;> simp [told, failed, h, Event.begun?]
    | _ => rfl

theorem noHandler_ofJournal (j : List Event) :
    (ofJournal j).noHandler = j.countP (Event.isDropped .noHandler) := by
  induction j with
  | nil => rfl
  | cons e j ih =>
    rw [List.countP_cons, ← ih, ofJournal]
    cases e with
    | dropped _ _ reason => cases reason <;> rfl
    | warned _ _ f => cases h : f.kind <;> simp [told, failed, h, Event.isDropped]
    | _ => rfl

/-- Every message that is turned away is counted for one of two reasons. -/
theorem refused_ofJournal (j : List Event) :
    (ofJournal j).noSubscription + (ofJournal j).queueClosed =
      j.countP fun e => e.admitted? == some false := by
  induction j with
  | nil => rfl
  | cons e j ih =>
    rw [List.countP_cons, ← ih, ofJournal]
    cases e with
    | dropped _ _ reason =>
      cases reason with
      | noHandler => rfl
      | noSubscription => exact Nat.succ_add _ _
      | queueClosed => rfl
    | warned _ _ f => cases h : f.kind <;> simp [told, failed, h, Event.admitted?]
    | _ => simp [told, handed, Event.admitted?]

end DeliveryCounts

namespace Connection

variable {p : Permit} {c c' : Connection} {t : Transport} {sid : Sid} {s : Subscription}

/-- The counts say what the journal says. -/
def Told (c : Connection) : Prop := c.counts = .ofJournal c.journal

namespace Told

theorem of_eq (h : c.Told) (hcounts : c'.counts = c.counts) (hj : c'.journal = c.journal) :
    c'.Told := by
  rw [Told, hcounts, hj]
  exact h

theorem tell (h : c.Told) (e : Event) : (c.tell e).Told :=
  congrArg (DeliveryCounts.told · e) h

/-- An event that is counted nowhere. -/
theorem log (h : c.Told) {e : Event} (he : c.counts.told e = c.counts) : (c.log e).Told := by
  have htell := h.tell e
  unfold Connection.tell at htell
  rwa [he] at htell

theorem offered (h : c.Told) (o : Outgoing) (verdict : Except TransportError Unit)
    (outbound : Outbound Outgoing) : (c.offered o verdict outbound).Told := by
  have hsent : Told { c with outbound := outbound } := h.of_eq rfl rfl
  exact hsent.log rfl

theorem enable (h : c.Told) (sid : Sid) : (c.enable sid).2.Told := by
  obtain ⟨f, -, -, heq⟩ := c.enable_eq sid
  rw [heq]
  exact h.of_eq rfl rfl

theorem disable (h : c.Told) (sid : Sid) : (c.disable sid).2.Told := by
  obtain ⟨f, -, -, heq⟩ := c.disable_eq sid
  rw [heq]
  exact h.of_eq rfl rfl

end Told

/-- Whatever is done to a connection, what is counted is written down and the other way round. -/
theorem Course.told (h : c.Course p c') (hc : c.Told) : c'.Told := by
  induction h with
  | refl => exact hc
  | trans _ _ ih ih' => exact ih' (ih hc)
  | @log c e h =>
    refine hc.log ?_
    cases e with
    | began | dropped | warned => exact h.elim
    | _ => rfl
  | @tell c e => exact hc.tell e
  | @refuse c _ sid s _ _ _ m => exact hc.tell (.dropped sid m .queueClosed)
  | @register c s =>
    have hadded : Told { c with
        issuedSids := s.sid
        subscriptions := c.subscriptions ++ [s]
        table := c.table ++ [s.sid] } := hc.of_eq rfl rfl
    exact hadded.log rfl
  | send _ _ _ verdict outbound ih => exact (ih hc).offered _ verdict outbound
  | withdraw _ _ _ _ _ verdict outbound ih =>
    exact (ih (hc.of_eq rfl rfl)).offered _ verdict outbound
  | @start c c' sid s _ _ _ _ _ verdict outbound ih =>
    have hsent := (ih (hc.enable sid)).offered { frame := .subscribe sid s.subject s.queueGroup }
      verdict outbound
    cases verdict with
    | ok => exact hsent
    | error => exact hsent.disable sid
  | @startDetached c sid => exact (hc.enable sid).disable sid
  | close _ _ _ ih => exact (ih (hc.of_eq rfl rfl)).of_eq rfl rfl
  | aside | consult | sweep | shift | limit | herald | enrol | forgo | detach =>
    exact hc.of_eq rfl rfl

/-! ## Calls that hand a message in -/

/-- What the calls answered that handed a message in for a subscription, oldest first. -/
def admitted (c : Connection) : List Bool := c.journal.reverse.filterMap Event.admitted?

theorem admitted_log (c : Connection) (e : Event) :
    (c.log e).admitted = c.admitted ++ e.admitted?.toList := by
  show (e :: c.journal).reverse.filterMap Event.admitted? = _
  rw [List.reverse_cons, List.filterMap_append]
  refine congrArg (c.admitted ++ ·) ?_
  cases h : e.admitted? <;> simp [h]

/-- An event that is about no such call. -/
theorem admitted_log_of_none (c : Connection) {e : Event} (h : e.admitted? = none) :
    (c.log e).admitted = c.admitted := by
  rw [admitted_log, h, Option.toList_none, List.append_nil]

theorem admitted_deliverTo (c : Connection) (s : Subscription) (m : Message) :
    (c.deliverTo s m).2.admitted = c.admitted ++ [(c.deliverTo s m).1] := by
  unfold deliverTo
  split
  · exact admitted_log _ _
  · split <;> exact admitted_log _ _

theorem admitted_deliver (c : Connection) (sid : Sid) (m : Message) :
    (c.deliver sid m).2.admitted = c.admitted ++ [(c.deliver sid m).1] := by
  unfold deliver
  split
  · next s _ => exact admitted_deliverTo c s m
  · exact admitted_log _ _

theorem admitted_enable (c : Connection) (sid : Sid) : (c.enable sid).2.admitted = c.admitted := by
  obtain ⟨f, -, -, heq⟩ := c.enable_eq sid
  rw [heq]
  rfl

theorem admitted_disable (c : Connection) (sid : Sid) :
    (c.disable sid).2.admitted = c.admitted := by
  obtain ⟨f, -, -, heq⟩ := c.disable_eq sid
  rw [heq]
  rfl

theorem admitted_offered (c : Connection) (o : Outgoing) (verdict : Except TransportError Unit)
    (outbound : Outbound Outgoing) : (c.offered o verdict outbound).admitted = c.admitted :=
  admitted_log_of_none { c with outbound := outbound } rfl

/-- Without permission to hand messages in there is no such call. -/
theorem Course.unadmitted (hp : ¬p.delivers) (h : c.Course p c') : c'.admitted = c.admitted := by
  induction h with
  | refl => rfl
  | trans _ _ ih ih' => exact ih'.trans ih
  | @log c e h =>
    refine admitted_log_of_none c ?_
    cases e with
    | accepted => exact absurd h hp
    | dropped => exact h.elim
    | _ => rfl
  | @tell c e h =>
    refine admitted_log_of_none { c with counts := c.counts.told e } ?_
    cases e with
    | accepted => exact h.elim
    | dropped _ _ reason =>
      cases reason with
      | noHandler => rfl
      | noSubscription => exact absurd h hp
      | queueClosed => exact h.elim
    | _ => rfl
  | refuse _ h => exact absurd h hp
  | register => exact admitted_log_of_none _ rfl
  | send _ _ _ verdict outbound ih => exact (admitted_offered _ _ verdict outbound).trans ih
  | withdraw _ _ _ _ _ verdict outbound ih =>
    exact (admitted_offered _ _ verdict outbound).trans ih
  | @start c c' sid s _ _ _ _ _ verdict outbound ih =>
    have hsent : (c'.offered { frame := .subscribe sid s.subject s.queueGroup } verdict
        outbound).admitted = c.admitted :=
      (admitted_offered c' _ verdict outbound).trans (ih.trans (admitted_enable c sid))
    cases verdict with
    | ok => exact hsent
    | error => exact (admitted_disable _ sid).trans hsent
  | @startDetached c sid => exact (admitted_disable _ sid).trans (admitted_enable c sid)
  | close _ _ _ ih => exact ih
  | aside | consult | sweep | shift | limit | herald | enrol | forgo | detach => rfl

/-- The handler that goes on is at work for a worker that can go on. -/
theorem of_acting? {i : Nat} {d : Delivery} {action : Action}
    (h : c.acting? (.stepWorker sid i) = some (s, d, action)) :
    c.subscription? sid = some s ∧ s.isReady i c.clock = true ∧ ∃ w invocation rest,
      s.workers[i]? = some w ∧ w.phase = .handling invocation ∧ invocation.delivery = d ∧
        invocation.script = action :: rest := by
  obtain ⟨s', hs, h⟩ := Option.bind_eq_some_iff.1 h
  obtain ⟨invocation, hwork, h⟩ := Option.bind_eq_some_iff.1 h
  obtain ⟨action', hnext, heq⟩ := Option.map_eq_some_iff.1 h
  obtain ⟨rfl, hd, rfl⟩ : s' = s ∧ invocation.delivery = d ∧ action' = action := by simpa using heq
  have hready : s'.isReady i c.clock = true := by
    rw [← Bool.not_eq_false]
    intro hready
    simp [nextAction?, hready] at hnext
  have hscript : invocation.script.head? = some action' := by
    rwa [nextAction?, if_pos hready, hwork] at hnext
  obtain ⟨w, hw, hphase⟩ := Option.bind_eq_some_iff.1 hwork
  obtain ⟨rest, hscript⟩ := List.head?_eq_some_iff.1 hscript
  exact ⟨hs, hready, w, invocation, rest, hw, Worker.invocation?_eq_some_iff.1 hphase, hd, hscript⟩

/-- A handler hands a message in, if it reaches its connection. -/
theorem admitted_stepWorker (t : Transport) {i : Nat} {d : Delivery} {m : Message}
    (h : c.acting? (.stepWorker sid i) = some (s, d, .deliver m)) (hvia : s.via ∈ c.handles) :
    (c.stepWorker t sid i).2.admitted = c.admitted ++ [(c.deliver m.sid m).1] := by
  obtain ⟨hs, hready, w, invocation, rest, hw, hphase, -, hscript⟩ := of_acting? h
  obtain rfl := sid_of_subscription? hs
  have hstep : (c.stepWorker t s.sid i).2 =
      (noteAnswer s.sid "deliver" (c.deliver m.sid m)).setPhase s.sid i
        (.handling { invocation with script := rest, wakeAt := none }) := by
    simp [stepWorker, hs, hw, hready, hphase, stepInvocation, hscript, act, whenReachable, hvia]
  rw [hstep]
  exact (admitted_log_of_none (c.deliver m.sid m).2 rfl).trans (admitted_deliver c m.sid m)

/-- Whatever is done to a connection, the journal tells of the calls it makes that hand a message in
for a subscription, and of no other: the transport hands in replies only. -/
theorem admitted_performOver (gate : Gate) (c : Connection) (move : Move) :
    (c.performOver (gated gate) move).admitted = c.admitted ++ c.admissions move := by
  cases hcalls : c.admissions move with
  | nil =>
    have hallows : c.Allows { Permit.all with delivers := False } move := { allows_all c move with
      delivers := fun hne => hne hcalls }
    have hcourse := course_performOver (sends_gated gate) (drifts_gated gate)
      ⟨permits_all c, permits_all c⟩ hallows
    rw [hcourse.unadmitted not_false, List.append_nil]
  | cons call calls =>
    rw [← hcalls]
    cases move with
    | deliver sid m => exact admitted_deliver c sid m
    | deliverTo sid m =>
      cases hs : c.subscription? sid with
      | none => simp [admissions, hs] at hcalls
      | some s => simpa [performOver, admissions, hs] using admitted_deliverTo c s m
    | process m =>
      cases howns : c.inbox.owns m.subject with
      | true => simp [admissions, howns] at hcalls
      | false => simpa [performOver, admissions, processInbound, howns] using
          admitted_deliver c m.sid m
    | stepWorker sid i =>
      simp only [admissions] at hcalls ⊢
      split at hcalls
      · next s d m hacting =>
        split at hcalls
        · next hvia =>
          simp only [if_pos hvia]
          exact admitted_stepWorker (gated gate) hacting hvia
        · cases hcalls
      · cases hcalls
    | _ => cases hcalls

theorem admitted_runOver (gate : Gate) (c : Connection) (moves : List Move) :
    (c.runOver (gated gate) moves).admitted =
      c.admitted ++ c.admissionsOver (gated gate) moves := by
  induction moves generalizing c with
  | nil => exact (List.append_nil _).symm
  | cons move moves ih =>
    rw [runOver_cons, ih, admitted_performOver, admissionsOver, List.append_assoc]

theorem count_admitted (c : Connection) (answer : Bool) :
    c.admitted.count answer = c.journal.countP fun e => e.admitted? == some answer := by
  rw [admitted, List.count, List.countP_filterMap, List.countP_reverse]
  refine List.countP_congr fun e _ => ?_
  cases e.admitted? <;> simp

end Connection

/-! ## The story of one subscription -/

namespace Story

theorem begun_eq_countP (l : Story) : l.begun = l.countP fun e => e.begun?.isSome := by
  induction l with
  | nil => rfl
  | cons e l ih =>
    rw [List.countP_cons, ← ih]
    cases e <;> rfl

theorem length_accepted (l : Story) :
    l.accepted.length = l.countP fun e => e.admitted? == some true := by
  induction l with
  | nil => rfl
  | cons e l ih =>
    rw [List.countP_cons, ← ih]
    cases e with
    | accepted => exact List.length_append
    | dropped _ _ reason => cases reason <;> rfl
    | _ => rfl

theorem length_dues (l : Story) : l.dues.length = l.taken.length := by
  induction l with
  | nil => rfl
  | cons e l ih => cases e <;> simp [dues, taken, ih]

theorem length_fates (l : Story) :
    l.fates.length = l.begun + l.countP (Event.isDropped .noHandler) := by
  induction l with
  | nil => rfl
  | cons e l ih =>
    rw [List.countP_cons]
    cases e with
    | began => simp [fates, begun, Event.isDropped, ih, Nat.add_right_comm]
    | dropped _ _ reason =>
      cases reason with
      | noHandler => simp [fates, begun, Event.isDropped, ih, Nat.add_assoc]
      | _ => exact ih
    | _ => exact ih

end Story

/-- What a subscription accepted was given to a handler, dropped for want of one, or is queued. -/
theorem Record.Sound.balanced {strict : Prop} {v : Record} (h : v.Sound strict) (hstrict : strict)
    (hq : v.sub.queue.Counted) :
    (v.story.countP fun e => e.admitted? == some true) =
      v.sub.delivered + v.story.countP (Event.isDropped .noHandler) + v.sub.queue.pending := by
  calc (v.story.countP fun e => e.admitted? == some true)
      = v.story.accepted.length := v.story.length_accepted.symm
    _ = v.story.taken.length + v.sub.queue.entries.length := by
      rw [h.orderly.messages, List.length_append, List.length_map]
    _ = v.story.fates.length + v.sub.queue.pending := by
      rw [(h.settled hstrict).fates, v.story.length_dues, hq.pending]
    _ = _ := by rw [v.story.length_fates, h.orderly.delivered]

namespace Connection

variable {c : Connection}

/-! ## All subscriptions together -/

/-- What a journal tells of numbers is divided among them. -/
theorem countP_eq_sum_filter {q : Event → Bool} {sids : List Sid} (hnd : sids.Nodup)
    {j : List Event} (h : ∀ e ∈ j, q e = true → ∃ sid ∈ sids, e.sid? = some sid) :
    j.countP q = (sids.map fun sid => (j.filter (·.sid? == some sid)).countP q).sum := by
  induction sids generalizing j with
  | nil =>
    refine List.countP_eq_zero.2 fun e he hq => ?_
    obtain ⟨sid, hsid, -⟩ := h e he hq
    cases hsid
  | cons sid sids ih =>
    obtain ⟨hfresh, hnd⟩ := List.nodup_cons.1 hnd
    -- what is not about the first number is about one of the others
    have hrest := @ih hnd (j.filter fun e => !(e.sid? == some sid)) fun e he hq => by
      obtain ⟨hej, hne⟩ := List.mem_filter.1 he
      obtain ⟨other, hother, heq⟩ := h e hej hq
      refine ⟨other, (List.mem_cons.1 hother).resolve_left ?_, heq⟩
      rintro rfl
      simp [heq] at hne
    rw [List.countP_eq_countP_filter_add j q (·.sid? == some sid), hrest, List.map_cons,
      List.sum_cons]
    congr 2
    refine List.map_congr_left fun other hother => ?_
    rw [List.filter_filter]
    refine congrArg (List.countP q) (List.filter_congr fun e _ => ?_)
    by_cases heq : e.sid? = some other
    · have hne : other ≠ sid := fun hsame => hfresh (hsame ▸ hother)
      simp [heq, hne]
    · simp [heq]

/-- What the journal tells of subscriptions is told in their stories. -/
theorem countP_journal {strict : Sid → Prop} (hi : c.Intact) (hsound : c.Sound strict)
    {q : Event → Bool} (hq : ∀ e, q e = true → e.sid?.isSome) :
    c.journal.countP q = (c.subscriptions.map fun s => (c.story s.sid).countP q).sum := by
  rw [countP_eq_sum_filter (q := q) hi.nodup, List.map_map]
  · rfl
  · intro e he hqe
    obtain ⟨sid, hsid⟩ := Option.isSome_iff_exists.1 (hq e hqe)
    refine ⟨sid, ?_, hsid⟩
    -- nothing is told of a number that no subscription has
    have hmem : e ∈ c.story sid := List.mem_filter.2 ⟨he, by simp [hsid]⟩
    cases hs : c.subscription? sid with
    | none =>
      rw [(hsound.blank sid hs).story] at hmem
      cases hmem
    | some s =>
      exact sid_of_subscription? hs ▸ List.mem_map_of_mem (List.mem_of_find?_eq_some hs)

/-- Every message that was accepted was delivered, dropped for want of a handler, or is queued. -/
theorem Told.balanced {strict : Sid → Prop} (h : c.Told) (hi : c.Intact) (hsound : c.Sound strict)
    (hstrict : ∀ s ∈ c.subscriptions, strict s.sid) (htended : c.Tended) :
    c.admitted.count true = (c.subscriptions.map (·.delivered)).sum + c.counts.noHandler +
      (c.subscriptions.map (·.queue.pending)).sum := by
  have hlost : c.counts.noHandler =
      (c.subscriptions.map fun s => (c.story s.sid).countP (Event.isDropped .noHandler)).sum := by
    rw [h, DeliveryCounts.noHandler_ofJournal]
    refine countP_journal hi hsound fun e he => ?_
    cases e with
    | dropped _ _ reason =>
      obtain rfl : reason = .noHandler := of_decide_eq_true he
      rfl
    | _ => cases he
  have heach : ∀ s ∈ c.subscriptions, ((c.story s.sid).countP fun e => e.admitted? == some true) =
      s.delivered + (c.story s.sid).countP (Event.isDropped .noHandler) + s.queue.pending := by
    intro s hs
    have hsub := subscription?_of_mem hi.nodup hs
    exact (hsound.record s.sid _ (record?_of_subscription? hsub)).balanced (hstrict s hs)
      (htended s.sid s hsub).counted
  calc c.admitted.count true
      = c.journal.countP fun e => e.admitted? == some true := count_admitted c true
    _ = (c.subscriptions.map fun s =>
          (c.story s.sid).countP fun e => e.admitted? == some true).sum := by
      refine countP_journal hi hsound fun e he => ?_
      cases e with
      | accepted => rfl
      | dropped _ _ reason => cases reason <;> cases he
      | _ => cases he
    _ = (c.subscriptions.map fun s => s.delivered +
          (c.story s.sid).countP (Event.isDropped .noHandler) + s.queue.pending).sum :=
      congrArg List.sum (List.map_congr_left heach)
    _ = _ := by rw [List.sum_map_add, List.sum_map_add, hlost]

/-- Along every run over a transport that reacts to frames and may reject any of them, in every
state: the metric of messages delivered is the sum of the deliveries of all subscriptions, and the
metric of messages dropped for want of a subscription is the number of calls, by the application, the
network or a handler, that handed a message in for a subscription and were answered that it was not
accepted. If a worker of each subscription is started as such only while it is valid, the number of
those answered that it was accepted is that of the messages delivered, of those dropped for want of a
handler, and of those queued, closed subscriptions included. -/
theorem messages_accounted (gate : Gate) (o : Session.Opening) (id : Nat) (clock : Instant)
    (handle : Nat) (moves : List Move) (dropped : Bool) :
    let start := o.connect id clock handle
    let c := start.runOver (gated gate) moves
    let admissions := start.admissionsOver (gated gate) moves
    let delivered := (c.metrics dropped).reported (Metrics.nameOf "messages_delivered_total" none)
    let lost (reason : String) := (c.metrics dropped).reported
      (Metrics.nameOf "messages_dropped_total" (some ("reason", reason)))
    delivered = (c.subscriptions.map (·.delivered)).sum ∧
    lost "no_subscription" = admissions.count false ∧
    ((∀ s ∈ c.subscriptions, start.enablesValidOver (gated gate) s.sid moves = true) →
      (admissions.count true : Int) =
        delivered + lost "no_handler" + (c.subscriptions.map (·.queue.pending)).sum) := by
  intro start c admissions delivered lost
  have hcourse : start.Course .all c :=
    course_runOver gate (suits_all start) (fun _ => trivial) trivial fun _ => Or.inl trivial
  have hi : c.Intact := hcourse.flow.intact (.connect o id clock handle)
  have hsound : c.Sound fun sid => start.enablesValidOver (gated gate) sid moves = true :=
    (sound_connect o id clock handle).runOver (drifts_gated gate) moves fun _ h => h
  have hcounts : c.counts = .ofJournal c.journal := hcourse.told rfl
  have hadmitted : c.admitted = admissions := admitted_runOver gate start moves
  have hrecord : ∀ s ∈ c.subscriptions,
      Record.Sound (start.enablesValidOver (gated gate) s.sid moves = true)
        ⟨s, c.table.contains s.sid, c.story s.sid⟩ := fun s hs =>
    hsound.record s.sid _ (record?_of_subscription? (subscription?_of_mem hi.nodup hs))
  have hdelivered : c.counts.delivered = (c.subscriptions.map (·.delivered)).sum := by
    rw [hcounts, DeliveryCounts.delivered_ofJournal,
      countP_journal hi hsound fun e he => by cases e <;> first | rfl | cases he]
    refine congrArg List.sum (List.map_congr_left fun s hs => ?_)
    exact ((hrecord s hs).orderly.delivered.trans (Story.begun_eq_countP _)).symm
  refine ⟨?_, ?_, fun henables => ?_⟩
  · exact (Metrics.reported_delivered _).trans (congrArg Int.ofNat hdelivered)
  · have hrefused : c.counts.noSubscription = admissions.count false := by
      have hcount := DeliveryCounts.refused_ofJournal c.journal
      rwa [← hcounts, hi.refusals, Nat.add_zero, ← count_admitted, hadmitted] at hcount
    exact (Metrics.reported_noSubscription _).trans (congrArg Int.ofNat hrefused)
  · have hbalanced := hcourse.told rfl |>.balanced hi hsound henables
      (tended_runOver (sends_gated gate) (drifts_gated gate) o id clock handle moves)
    rw [hadmitted, ← hdelivered] at hbalanced
    rw [show delivered = c.counts.delivered from Metrics.reported_delivered _,
      show lost "no_handler" = c.counts.noHandler from Metrics.reported_noHandler _, hbalanced]
    push_cast
    rfl

/-- The theorem applies to a run in which a handler hands a message on to a subscription that has no
handler, is suspended, and has its own subscription closed with two messages queued; after that, a
message for it is turned away. -/
theorem messages_accounted_closed :
    let handler := Handler.mk "" [] [.deliver { subject := "b", sid := 2 }, .yield 1]
    let moves : List Move := [.subscribe 1 { subject := "a", handler := some handler },
      .subscribe 1 { subject := "b" }, .deliver 1 { subject := "a" },
      .process { subject := "a", sid := 1 }, .deliverTo 1 { subject := "a" }, .stepWorker 1 0,
      .stepWorker 1 0, .stepWorker 1 0, .stepWorker 2 0, .stepWorker 2 0, .closeSubscription 1,
      .deliver 1 { subject := "a" }, .stepWorker 1 0, .stepWorker 1 0, .stepWorker 1 0]
    let start := Session.Opening.connect { token := "" } 0 0 1
    let c := start.runOver (gated .clear) moves
    (∀ s ∈ c.subscriptions, start.enablesValidOver (gated .clear) s.sid moves = true) ∧
      start.admissionsOver (gated .clear) moves = [true, true, true, true, false] ∧
      c.subscriptions.map (fun s => (s.valid, s.delivered, s.queue.pending)) =
        [(false, 1, 2), (true, 0, 0)] ∧
      (c.metrics false).reported
        (Metrics.nameOf "messages_dropped_total" (some ("reason", "no_handler"))) = 1 := by
  intro handler moves start c
  have henables : ∀ s ∈ c.subscriptions,
      start.enablesValidOver (gated .clear) s.sid moves = true := by decide +kernel
  have hadmissions : start.admissionsOver (gated .clear) moves = [true, true, true, true, false] := by
    decide +kernel
  have hsubscriptions : c.subscriptions.map (fun s => (s.valid, s.delivered, s.queue.pending)) =
      [(false, 1, 2), (true, 0, 0)] := by decide +kernel
  have hdelivered : (c.subscriptions.map (·.delivered)).sum = 1 := by decide +kernel
  have hpending : (c.subscriptions.map (·.queue.pending)).sum = 2 := by decide +kernel
  refine ⟨henables, hadmissions, hsubscriptions, ?_⟩
  obtain ⟨htotal, -, hbalance⟩ := messages_accounted .clear { token := "" } 0 0 1 moves false
  have haccepted : (4 : Int) = (start.admissionsOver (gated .clear) moves).count true := by
    rw [hadmissions]
    rfl
  rw [hbalance henables, htotal] at haccepted
  change (4 : Int) = (c.subscriptions.map (·.delivered)).sum + (c.metrics false).reported _ +
    (c.subscriptions.map (·.queue.pending)).sum at haccepted
  rw [hdelivered, hpending] at haccepted
  omega

end Connection

end PubSub
