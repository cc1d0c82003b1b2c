import PubSub.Proofs.Connection.Accounts
import PubSub.Proofs.Connection.Closed
import PubSub.Proofs.Registry.Closing

/-!
# What a close does

The close of a connection goes through the keys that wait and then through the live subscriptions, and
what it goes through changes under its hands: each subscription that is torn down leaves the table. It
comes to the same state in whatever order it goes, because each of its steps is about one key or one
subscription and leaves the others alone. Whether the server learns of an end makes no difference to
the connection, so a rejected frame stops nothing.

## Main definitions

- `Connection.closeInOrder` — a close that goes through keys and subscriptions in a given order
- `Connection.withdrawn` — the state after some live subscriptions were closed
- `Connection.closedDown` — the state in which a close leaves a connection

## Main results

- `Connection.closeInOrder_eq` — every order leads there
- `Connection.close_ends_all` — every close of a connection that is open
-/

namespace PubSub

/-- A subscription that was torn down and whose worker was told to end. -/
def Subscription.tornDown (s : Subscription) : Subscription :=
  ({ s with valid := false, attached := false } : Subscription).disable.2

/-- What the close of its connection makes of a subscription: a live one is torn down, and the workers
of all are told to end. -/
def Subscription.closedDown (s : Subscription) : Subscription :=
  (if s.valid then s.tornDown else s).cancelWorkers

theorem Subscription.sid_tornDown (s : Subscription) : s.tornDown.sid = s.sid :=
  (Subscription.disable_keeps { s with valid := false, attached := false }).1

/-- What becomes of a subscription when those with some numbers are torn down. -/
def Subscription.tornDownAmong (sids : List Sid) (s : Subscription) : Subscription :=
  if s.sid ∈ sids then s.tornDown else s

theorem Subscription.sid_tornDownAmong (sids : List Sid) (s : Subscription) :
    (s.tornDownAmong sids).sid = s.sid := by
  unfold tornDownAmong
  split
  · exact s.sid_tornDown
  · rfl

/-- Each subscription is torn down once. -/
theorem Subscription.tornDownAmong_tornDownAmong {sid : Sid} {sids : List Sid} (h : sid ∉ sids)
    (s : Subscription) :
    (s.tornDownAmong [sid]).tornDownAmong sids = s.tornDownAmong (sid :: sids) := by
  unfold tornDownAmong
  by_cases hsid : s.sid = sid
  · simp [hsid, s.sid_tornDown, h]
  · simp [hsid]

/-- The attempt to withdraw the interest of a subscription, with what became of it. -/
def Event.withdrawal (attempt : Sid × Except TransportError Unit) : Event :=
  .offered { frame := .unsubscribe attempt.1 none } attempt.2

namespace Connection

/-- The close of a connection, through the keys and the subscriptions in a given order. -/
def closeInOrder (t : Transport) (c : Connection) (keys : List String) (sids : List Sid) :
    Connection :=
  let (cancelled, registry) := c.registry.abandonAll keys
  let c := { c with closed := true, registry := registry }
  let c := sids.foldl (fun c sid => c.closeSubscription t sid) c
  c.stopWorkers.log (.closed c.id cancelled sids.length)

/-- The connection when everything that waited was given up and every live subscription torn down,
with the attempts to tell the server in the order in which they were made. -/
def closedDown (c : Connection) (attempts : List (Sid × Except TransportError Unit))
    (outbound : Outbound Outgoing) : Connection :=
  { c with
    closed := true
    registry := c.registry.closedDown
    sweeper := { c.sweeper with shutdown := true }
    subscriptions := c.subscriptions.map Subscription.closedDown
    table := []
    outbound := outbound
    journal := .closed c.id c.pendingRequests c.subscriptionCount ::
      ((attempts.map Event.withdrawal).reverse ++ c.journal)
    eventCount := c.eventCount + c.subscriptionCount + 1 }

variable {exposed : Sid → Prop} {t : Transport} {c c' : Connection} {sid : Sid} {s : Subscription}

theorem close_of_open (h : c.closed = false) (t : Transport) :
    c.close t = c.closeInOrder t (c.registry.entries.map (·.1)) c.table := by
  rw [close, if_neg (by rw [h]; decide)]
  rfl

theorem close_of_closed (h : c.closed = true) (t : Transport) : c.close t = c := if_pos h

theorem dropHandle_of_closed (h : c.closed = true) (t : Transport) (handle : Nat) :
    c.dropHandle t handle = { c with handles := c.handles.filter (· != handle) } := by
  unfold dropHandle
  dsimp only
  split
  · exact if_pos h
  · rfl

/-! ## The table lists nothing twice -/

/-- The table lists subscriptions in the order in which they were made. -/
theorem Flow.table_sublist (h : c.Flow exposed c')
    (hc : c.table.Sublist (c.subscriptions.map (·.sid))) :
    c'.table.Sublist (c'.subscriptions.map (·.sid)) := by
  induction h with
  | trans _ _ ih ih' => exact ih' (ih hc)
  | shift c hf =>
    rw [sids_modifySubscription c _ hf]
    exact hc
  | limit c _ max =>
    rw [sids_modifySubscription c _ (f := fun s => { s with max := max }) fun _ h => h]
    exact hc
  | @invalidate c sid =>
    show (c.table.filter _).Sublist ((c.modifySubscription sid _).subscriptions.map (·.sid))
    rw [sids_modifySubscription c sid
      (f := fun s => { s with valid := false, attached := false }) fun _ h => h]
    exact List.filter_sublist.trans hc
  | @register c s =>
    show (c.table ++ [s.sid]).Sublist ((c.subscriptions ++ [s]).map (·.sid))
    rw [List.map_append]
    exact hc.append (.refl _)
  | @close c c' _ _ _ ih =>
    show c'.table.Sublist ((c'.subscriptions.map Subscription.cancelWorkers).map (·.sid))
    rw [List.map_map]
    exact ih hc
  | _ => exact hc

/-! ## One subscription -/

/-- A change of a subscription is known by what it makes of that one. -/
theorem modifySubscription_congr {f g : Subscription → Subscription}
    (h : ∀ s ∈ c.subscriptions, s.sid = sid → f s = g s) :
    c.modifySubscription sid f = c.modifySubscription sid g := by
  unfold modifySubscription
  congr 1
  refine List.map_congr_left fun s hs => ?_
  by_cases hsid : s.sid = sid
  · rw [if_pos hsid, if_pos hsid, h s hs hsid]
  · rw [if_neg hsid, if_neg hsid]

/-- A subscription is found under its number, and it is the only one that is changed. -/
theorem modifySubscription_of_found (hnodup : (c.subscriptions.map (·.sid)).Nodup)
    (hs : c.subscription? sid = some s) (f : Subscription → Subscription) :
    c.modifySubscription sid f = c.modifySubscription sid fun _ => f s := by
  refine modifySubscription_congr fun s' hs' hsid => ?_
  rw [← hsid, subscription?_of_mem hnodup hs'] at hs
  rw [Option.some.inj hs]

theorem snd_disable (hnodup : (c.subscriptions.map (·.sid)).Nodup) (sid : Sid) :
    (c.disable sid).2 = c.modifySubscription sid fun s => s.disable.2 := by
  unfold disable
  cases hfind : c.subscription? sid with
  | none =>
    have hnone : ∀ s ∈ c.subscriptions, s.sid ≠ sid := by
      intro s hs hsid
      rw [← hsid, subscription?_of_mem hnodup hs] at hfind
      cases hfind
    have hsame : c.subscriptions = c.subscriptions.map fun s =>
        if s.sid = sid then s.disable.2 else s := by
      refine (List.map_id' _).symm.trans (List.map_congr_left fun s hs => ?_)
      exact (if_neg (hnone s hs)).symm
    show c = { c with subscriptions := _ }
    rw [← hsame]
  | some s => exact (modifySubscription_of_found hnodup hfind fun s => s.disable.2).symm

/-! ## Live subscriptions, one after the other -/

/-- The connection when some live subscriptions were torn down and the attempts were made to withdraw
their interest. -/
def withdrawn (c : Connection) (attempts : List (Sid × Except TransportError Unit))
    (outbound : Outbound Outgoing) : Connection :=
  { c with
    subscriptions := c.subscriptions.map (Subscription.tornDownAmong (attempts.map (·.1)))
    table := c.table.filter (· ∉ attempts.map (·.1))
    outbound := outbound
    journal := (attempts.map Event.withdrawal).reverse ++ c.journal
    eventCount := c.eventCount + attempts.length }

variable {attempts : List (Sid × Except TransportError Unit)}

/-- Connections that were made of one by changes in the same fields are equal if the changes are. -/
theorem eq_of_changes (c : Connection) (outbound : Outbound Outgoing)
    {subscriptions subscriptions' : List Subscription} {table table' : List Sid}
    {journal journal' : List Event} {count count' : Nat} (hsubscriptions : subscriptions = subscriptions')
    (htable : table = table') (hjournal : journal = journal') (hcount : count = count') :
    ({ c with
      subscriptions := subscriptions
      table := table
      outbound := outbound
      journal := journal
      eventCount := count } : Connection) = { c with
      subscriptions := subscriptions'
      table := table'
      outbound := outbound
      journal := journal'
      eventCount := count' } := by
  rw [hsubscriptions, htable, hjournal, hcount]

theorem sids_withdrawn (c : Connection) (attempts : List (Sid × Except TransportError Unit))
    (outbound : Outbound Outgoing) :
    (c.withdrawn attempts outbound).subscriptions.map (·.sid) = c.subscriptions.map (·.sid) :=
  List.map_map.trans (List.map_congr_left fun s _ => s.sid_tornDownAmong _)

/-- The others stay as they are. -/
theorem subscription?_withdrawn (hnodup : (c.subscriptions.map (·.sid)).Nodup)
    (h : sid ∉ attempts.map (·.1)) (hs : c.subscription? sid = some s)
    (outbound : Outbound Outgoing) :
    (c.withdrawn attempts outbound).subscription? sid = some s := by
  have hsid : s.sid = sid := sid_of_subscription? hs
  have hmem : s ∈ (c.withdrawn attempts outbound).subscriptions := by
    refine List.mem_map.2 ⟨s, List.mem_of_find?_eq_some hs, if_neg ?_⟩
    rw [hsid]
    exact h
  rw [← hsid]
  exact subscription?_of_mem (sids_withdrawn c attempts outbound ▸ hnodup) hmem

theorem withdrawn_nil (c : Connection) : c.withdrawn [] c.outbound = c := by
  have hsubscriptions : c.subscriptions.map (Subscription.tornDownAmong []) = c.subscriptions :=
    (List.map_congr_left fun s _ => if_neg List.not_mem_nil).trans (List.map_id' _)
  have htable : c.table.filter (· ∉ ([] : List Sid)) = c.table :=
    List.filter_eq_self.2 fun _ _ => decide_eq_true List.not_mem_nil
  exact eq_of_changes c c.outbound hsubscriptions htable rfl rfl

/-- One subscription is torn down, and then others. -/
theorem withdrawn_withdrawn {verdict : Except TransportError Unit} (h : sid ∉ attempts.map (·.1))
    (outbound outbound' : Outbound Outgoing) :
    (c.withdrawn [(sid, verdict)] outbound).withdrawn attempts outbound' =
      c.withdrawn ((sid, verdict) :: attempts) outbound' := by
  have hsubscriptions : (c.subscriptions.map (Subscription.tornDownAmong [sid])).map
      (Subscription.tornDownAmong (attempts.map (·.1))) =
      c.subscriptions.map (Subscription.tornDownAmong (sid :: attempts.map (·.1))) :=
    List.map_map.trans (List.map_congr_left fun s _ => s.tornDownAmong_tornDownAmong h)
  have htable : (c.table.filter (· ∉ [sid])).filter (· ∉ attempts.map (·.1)) =
      c.table.filter (· ∉ sid :: attempts.map (·.1)) := by
    rw [List.filter_filter]
    refine List.filter_congr fun other _ => ?_
    by_cases ho : other = sid <;> simp [ho]
  have hjournal : (attempts.map Event.withdrawal).reverse ++
      (Event.withdrawal (sid, verdict) :: c.journal) =
      (((sid, verdict) :: attempts).map Event.withdrawal).reverse ++ c.journal := by
    rw [List.map_cons, List.reverse_cons, List.append_assoc]
    rfl
  have hcount : c.eventCount + 1 + attempts.length =
      c.eventCount + ((sid, verdict) :: attempts).length := by
    rw [List.length_cons]
    omega
  exact eq_of_changes c outbound' hsubscriptions htable hjournal hcount

/-- A live subscription is torn down, whatever becomes of the frame. -/
theorem closeSubscription_of_live (ht : t.Plain) (hnodup : (c.subscriptions.map (·.sid)).Nodup)
    (hs : c.subscription? sid = some s) (hvalid : s.valid = true) (hattached : s.attached = true) :
    ∃ verdict outbound, c.closeSubscription t sid = c.withdrawn [(sid, verdict)] outbound := by
  obtain ⟨verdict, outbound, heq⟩ := ht.eq_offered { frame := .unsubscribe sid none }
    (c.invalidate sid)
  refine ⟨verdict, outbound, ?_⟩
  have hteardown : (c.teardown t sid).2 =
      (t { frame := .unsubscribe sid none } (c.invalidate sid)).2 := by
    unfold teardown
    rw [hs]
    simp only [hvalid, hattached, Bool.not_true, Bool.false_eq_true, if_false, if_true]
  have hkeep : ∀ s : Subscription, s.sid = sid →
      ({ s with valid := false, attached := false } : Subscription).sid = sid := fun _ h => h
  have hsids : (c.invalidate sid).subscriptions.map (·.sid) = c.subscriptions.map (·.sid) :=
    sids_modifySubscription c sid hkeep
  have hsubscriptions : ((c.invalidate sid).modifySubscription sid fun s => s.disable.2).subscriptions
      = c.subscriptions.map (Subscription.tornDownAmong [sid]) := by
    have hboth := modifySubscription_modifySubscription c sid (g := fun s => s.disable.2) hkeep
    refine (congrArg Connection.subscriptions hboth).trans (List.map_congr_left fun s _ => ?_)
    exact if_congr List.mem_singleton.symm rfl rfl
  have htable : c.table.filter (· != sid) = c.table.filter (· ∉ [sid]) :=
    List.filter_congr fun other _ => by by_cases ho : other = sid <;> simp [ho]
  unfold closeSubscription
  rw [hteardown, heq, snd_disable (hsids ▸ hnodup)]
  exact eq_of_changes c outbound hsubscriptions htable rfl rfl

/-- Different live subscriptions are closed: each is torn down once, and one attempt is made for each,
in order. -/
theorem foldl_closeSubscription (ht : t.Plain) (sids : List Sid) (hdifferent : sids.Nodup)
    (hnodup : (c.subscriptions.map (·.sid)).Nodup)
    (hlive : ∀ sid ∈ sids, ∃ s, c.subscription? sid = some s ∧ s.valid = true ∧
      s.attached = true) :
    ∃ attempts outbound, attempts.map (·.1) = sids ∧
      sids.foldl (fun c sid => c.closeSubscription t sid) c = c.withdrawn attempts outbound := by
  -- what is closed first leaves the others as they are, so they are still live
  induction sids generalizing c with
  | nil =>
    exact ⟨[], c.outbound, rfl, c.withdrawn_nil.symm⟩
  | cons sid sids ih =>
    obtain ⟨hnotin, hdifferent'⟩ := List.nodup_cons.1 hdifferent
    obtain ⟨s, hs, hvalid, hattached⟩ := hlive sid List.mem_cons_self
    obtain ⟨verdict, outbound, hfirst⟩ := closeSubscription_of_live ht hnodup hs hvalid hattached
    have hlive' : ∀ other ∈ sids, ∃ s,
        (c.withdrawn [(sid, verdict)] outbound).subscription? other = some s ∧ s.valid = true ∧
          s.attached = true := by
      intro other hother
      obtain ⟨s', hs', hlives⟩ := hlive other (List.mem_cons_of_mem _ hother)
      have hne : other ∉ [sid] := by
        intro hin
        rw [List.mem_singleton.1 hin] at hother
        exact hnotin hother
      exact ⟨s', subscription?_withdrawn hnodup hne hs' outbound, hlives⟩
    obtain ⟨attempts, outbound', rfl, hrest⟩ := ih hdifferent'
      (sids_withdrawn c [(sid, verdict)] outbound ▸ hnodup) hlive'
    refine ⟨(sid, verdict) :: attempts, outbound', rfl, ?_⟩
    rw [List.foldl_cons, hfirst, hrest]
    exact withdrawn_withdrawn hnotin outbound outbound'

/-! ## The whole close -/

theorem traffic_closedDown (c : Connection) (attempts : List (Sid × Except TransportError Unit))
    (outbound : Outbound Outgoing) : (c.closedDown attempts outbound).traffic =
      c.traffic ++ attempts.map fun attempt => (.unsubscribe attempt.1 none, attempt.2) := by
  have hoffers : (attempts.map Event.withdrawal).filterMap Event.offer? =
      attempts.map fun attempt => (.unsubscribe attempt.1 none, attempt.2) := by
    rw [List.filterMap_map, ← List.filterMap_eq_map]
    rfl
  show (Event.closed _ _ _ :: ((attempts.map Event.withdrawal).reverse ++ c.journal)).reverse.filterMap
    Event.offer? = _
  rw [List.reverse_cons, List.reverse_append, List.reverse_reverse, List.filterMap_append,
    List.filterMap_append, hoffers]
  exact List.append_nil _

/-- In whatever order the keys and the subscriptions are gone through, everything that waits is given
up and everything that is live is torn down. -/
theorem closeInOrder_eq (ht : t.Plain) (hi : c.Intact) (hcoherent : c.registry.Coherent)
    (htable : c.table.Nodup) {keys : List String} {sids : List Sid}
    (hkeys : keys.Perm (c.registry.entries.map (·.1))) (hsids : sids.Perm c.table) :
    ∃ (attempts : List (Sid × Except TransportError Unit)) (outbound : Outbound Outgoing),
      attempts.map (·.1) = sids ∧
      c.closeInOrder t keys sids = c.closedDown attempts outbound := by
  let marked : Connection := { c with closed := true, registry := c.registry.closedDown }
  have hlive : ∀ sid ∈ sids, ∃ s, marked.subscription? sid = some s ∧ s.valid = true ∧
      s.attached = true := by
    intro sid hsid
    have hlisted : sid ∈ c.table := hsids.mem_iff.1 hsid
    obtain ⟨s, hs⟩ := hi.known sid hlisted
    have hvalid := (hi.listed sid s hs).1 hlisted
    exact ⟨s, hs, hvalid, (hi.sane sid s hs).attached.trans hvalid⟩
  obtain ⟨attempts, outbound, hattempts, hfold⟩ :=
    foldl_closeSubscription ht sids (hsids.nodup_iff.2 htable) (c := marked) hi.nodup hlive
  refine ⟨attempts, outbound, hattempts, ?_⟩
  have hsubscriptions : (marked.withdrawn attempts outbound).subscriptions.map
      Subscription.cancelWorkers = c.subscriptions.map Subscription.closedDown := by
    refine List.map_map.trans (List.map_congr_left fun s hs => ?_)
    have hiff : s.sid ∈ attempts.map (·.1) ↔ s.valid = true := by
      rw [hattempts, hsids.mem_iff]
      exact hi.listed s.sid s (subscription?_of_mem hi.nodup hs)
    exact congrArg Subscription.cancelWorkers (if_congr hiff rfl rfl)
  have hempty : (marked.withdrawn attempts outbound).table = [] := by
    refine List.filter_eq_nil_iff.2 fun sid hsid hkept => ?_
    have hout : sid ∉ sids := hattempts ▸ of_decide_eq_true hkept
    exact hout (hsids.mem_iff.2 hsid)
  have hlength : attempts.length = c.subscriptionCount := by
    rw [← List.length_map, hattempts]
    exact hsids.length_eq
  unfold closeInOrder
  rw [hcoherent.abandonAll_perm hkeys]
  show (List.foldl _ marked sids).stopWorkers.log _ = _
  rw [hfold, hsids.length_eq]
  refine (eq_of_changes { marked with sweeper := { c.sweeper with shutdown := true } } outbound
    hsubscriptions hempty rfl ?_)
  show c.eventCount + attempts.length + 1 = _
  rw [hlength]

/-! ## Runs -/

/-- The close of an open connection that was used in any way, over a transport that may reject any
frame but does nothing else. Each request that is pending waits under a key, and each subscription
that is valid is in the table once. The requests that are pending are resolved as closing and the
others left as they are; the subscriptions that are live are torn down, and no others; and for each of
them one attempt is made to withdraw its interest. The order makes no difference but to the attempts.
Whatever happens after that, another close changes nothing, and neither does the last handle. -/
theorem close_ends_all (gate later : Gate) (o : Session.Opening) (id : Nat) (clock : Instant)
    (handle : Nat) (moves : List Move) :
    let c := (o.connect id clock handle).runOver (gated gate) moves
    c.closed = false →
    let c' := c.close (offerThrough later)
    c.registry.requests.countP (fun r => r.state = none) = c.pendingRequests ∧
    (c.table.Nodup ∧
      ∀ sid s, c.subscription? sid = some s → (sid ∈ c.table ↔ s.valid = true)) ∧
    (∃ attempts outbound, attempts.map (·.1) = c.table ∧ c' = c.closedDown attempts outbound ∧
      c'.traffic =
        c.traffic ++ attempts.map fun attempt => (.unsubscribe attempt.1 none, attempt.2)) ∧
    (∀ keys sids, keys.Perm (c.registry.entries.map (·.1)) → sids.Perm c.table →
      ∃ attempts outbound, attempts.map (·.1) = sids ∧
        c.closeInOrder (offerThrough later) keys sids = c.closedDown attempts outbound) ∧
    ∀ (last : Gate) (more : List Move), let d := c'.runOver (gated last) more
      ∀ t, d.close t = d ∧
        ∀ handle, d.dropHandle t handle = { d with handles := d.handles.filter (· != handle) } := by
  intro c hopen c'
  have hflow : (o.connect id clock handle).Flow (fun _ => True) c := flow_gated gate _ moves
  have hi : c.Intact := hflow.intact (.connect o id clock handle)
  have hcoherent : c.registry.Coherent := hflow.coherent Registry.coherent_empty
  have hbalanced : c.registry.Balanced :=
    hflow.balanced Registry.coherent_empty Registry.balanced_empty
  have htable : c.table.Nodup :=
    hi.nodup.sublist (hflow.table_sublist (.refl _))
  have hplain := plain_offerThrough later
  have hclose := close_of_open hopen (offerThrough later)
  refine ⟨hbalanced.pending, ⟨htable, hi.listed⟩, ?_, fun keys sids hkeys hsids =>
    closeInOrder_eq hplain hi hcoherent htable hkeys hsids, ?_⟩
  · obtain ⟨attempts, outbound, hattempts, heq⟩ :=
      closeInOrder_eq hplain hi hcoherent htable (.refl _) (.refl _)
    have hdown : c' = c.closedDown attempts outbound := hclose.trans heq
    refine ⟨attempts, outbound, hattempts, hdown, ?_⟩
    rw [hdown]
    exact traffic_closedDown c attempts outbound
  · intro last more d t
    obtain ⟨attempts, outbound, -, heq⟩ :=
      closeInOrder_eq hplain hi hcoherent htable (.refl _) (.refl _)
    have hclosed : c'.closed = true := congrArg Connection.closed (hclose.trans heq)
    have hlater : d.closed = true :=
      ((flow_gated last c' more).closed hclosed).1
    exact ⟨close_of_closed hlater t, dropHandle_of_closed hlater t⟩

/-- The theorem applies to a connection with a handler asleep and a message behind it, a subscription
that was never started, one that was closed, a request that was answered and one that was not; the
first of two withdrawals is rejected. -/
theorem close_ends_all_rejected :
    let handler := Handler.mk "" [] [.sleep (Duration.ofMillis 5)]
    let moves : List Move := [.subscribe 1 { subject := "a", handler := some handler },
      .build 1 { subject := "b" }, .subscribe 1 { subject := "c" }, .closeSubscription 3,
      .request "x" .empty {}, .request "y" .empty {}, .process { subject := "_INBOX..1" },
      .deliver 1 { subject := "a" }, .deliver 1 { subject := "a" }, .deliver 2 { subject := "b" },
      .stepWorker 1 0, .stepWorker 1 0]
    let c := (Session.Opening.connect { token := "" } 0 0 1).runOver (gated .clear) moves
    let later : Gate := fun o _ => if o.frame = .unsubscribe 1 none then some .queueFull else none
    c.closed = false ∧
      c.subscriptions.map (fun s => (s.valid, s.isHandling, s.isStarted, s.queue.pending)) =
        [(true, true, true, 1), (true, false, false, 1), (false, false, false, 0)] ∧
      c.registry.requests.map (fun r => (r.key, r.state)) =
        [("_INBOX..1", some .fulfilled), ("_INBOX..2", none)] ∧
      (∃ attempts outbound, attempts.map (·.1) = [1, 2] ∧
        c.close (offerThrough later) = c.closedDown attempts outbound) ∧
      (c.close (offerThrough later)).traffic.drop c.traffic.length =
        [(.unsubscribe 1 none, .error .queueFull), (.unsubscribe 2 none, .ok ())] := by
  intro handler moves c later
  have hopen : c.closed = false := by decide +kernel
  have hsubscriptions :
      c.subscriptions.map (fun s => (s.valid, s.isHandling, s.isStarted, s.queue.pending)) =
        [(true, true, true, 1), (true, false, false, 1), (false, false, false, 0)] := by
    decide +kernel
  have hrequests : c.registry.requests.map (fun r => (r.key, r.state)) =
      [("_INBOX..1", some .fulfilled), ("_INBOX..2", none)] := by decide +kernel
  have htable : c.table = [1, 2] := by decide +kernel
  obtain ⟨-, -, ⟨attempts, outbound, hattempts, hdown, -⟩, -⟩ :=
    close_ends_all .clear later { token := "" } 0 0 1 moves hopen
  exact ⟨hopen, hsubscriptions, hrequests, ⟨attempts, outbound, hattempts.trans htable, hdown⟩,
    by decide +kernel⟩

end Connection

end PubSub
