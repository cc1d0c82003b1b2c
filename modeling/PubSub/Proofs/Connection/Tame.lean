import PubSub.Connection.Play
import PubSub.Proofs.Connection.Flow

/-!
# Tame connections do the same

Whatever is done to a connection looks at handlers only to run them, at the failure hook only to call
it, and at the counts of failures only to raise them. So everything but the end of an invocation comes
to the same whether the connection is made tame before or after it.

Every lemma here is of the form `c.tame.f = (c.f).tame`, so that `simp` moves `tame` outwards.
-/

namespace PubSub

/-! ## Handlers -/

theorem lookup_tameScripts (scripts : List (String × List Action)) (key : String) :
    (tameScripts scripts).lookup key = (scripts.lookup key).map tameScript := by
  induction scripts with
  | nil => rfl
  | cons entry rest ih =>
    obtain ⟨payload, script⟩ := entry
    by_cases hkey : key == payload <;> simp [tameScripts, List.lookup_cons, hkey, ih]

@[simp] theorem Handler.name_tame (handler : Handler) : handler.tame.name = handler.name := by
  cases handler
  rfl

@[simp] theorem Handler.script_tame (handler : Handler) (payload : ByteArray) :
    handler.tame.script payload = tameScript (handler.script payload) := by
  obtain ⟨name, scripts, otherwise⟩ := handler
  simp only [Handler.tame, Handler.script, lookup_tameScripts]
  cases scripts.lookup (Text.decodeLossy payload) <;> rfl

theorem tameScript_of_ends {action : Action} (h : action.ends = true) (rest : List Action) :
    tameScript (action :: rest) = [] := by
  cases action <;> first | rfl | cases h

theorem tameScript_of_acts {action : Action} (hsuspends : action.suspends = false)
    (hends : action.ends = false) (rest : List Action) :
    tameScript (action :: rest) = action.tame :: tameScript rest := by
  cases action with
  | fail | panic => cases hends
  | yield | sleep => cases hsuspends
  | _ => rfl

mutual

theorem Handler.tame_tame : ∀ handler : Handler, handler.tame.tame = handler.tame
  | .mk name scripts otherwise => by
    simp only [Handler.tame, tameScripts_tameScripts scripts, tameScript_tameScript otherwise]

theorem tameScript_tameScript : ∀ script : List Action,
    tameScript (tameScript script) = tameScript script
  | [] => rfl
  | action :: rest => by
    have ih := tameScript_tameScript rest
    cases action with
    | fail | panic => rfl
    | yield | sleep => exact ih
    | setHandler handler => simp only [tameScript, Action.tame, handler.tame_tame, ih]
    | _ => exact congrArg (List.cons _) ih

theorem tameScripts_tameScripts : ∀ scripts : List (String × List Action),
    tameScripts (tameScripts scripts) = tameScripts scripts
  | [] => rfl
  | (payload, script) :: rest => by
    simp only [tameScripts, tameScript_tameScript script, tameScripts_tameScripts rest]

end

/-- What an action leads to, with a tame script if the invocation goes on. -/
def Progress.tame : Progress → Progress
  | .next rest => .next (tameScript rest)
  | .pause rest => .pause (tameScript rest)
  | .sleep wakeAt rest => .sleep wakeAt (tameScript rest)
  | .over failure => .over failure

/-! ## Subscriptions -/

@[simp] theorem Invocation.ceiling_tame (invocation : Invocation) :
    invocation.tame.ceiling = invocation.ceiling := rfl

@[simp] theorem Invocation.count_tame (invocation : Invocation) :
    invocation.tame.count = invocation.count := rfl

theorem Invocation.tame_tame (invocation : Invocation) : invocation.tame.tame = invocation.tame := by
  simp only [Invocation.tame, tameScript_tameScript]

theorem Worker.tame_tame (w : Worker) : w.tame.tame = w.tame := by
  obtain ⟨cancelled, phase⟩ := w
  cases phase with
  | handling invocation => simp only [Worker.tame, Worker.Phase.tame, invocation.tame_tame]
  | _ => rfl

theorem Subscription.tame_tame (s : Subscription) : s.tame.tame = s.tame := by
  simp [Subscription.tame, Function.comp_def, Handler.tame_tame, Worker.tame_tame]

theorem Event.tame?_tame? (e : Event) : e.tame?.bind Event.tame? = e.tame? := by
  cases e <;> simp [Event.tame?, Function.comp_def, Handler.tame_tame]

theorem Connection.tame_tame (c : Connection) : c.tame.tame = c.tame := by
  simp [Connection.tame, List.filterMap_filterMap, Function.comp_def, Subscription.tame_tame,
    Event.tame?_tame?]

namespace Worker

@[simp] theorem invocation?_tame (w : Worker) : w.tame.invocation? = w.invocation?.map (·.tame) := by
  obtain ⟨cancelled, phase⟩ := w
  cases phase <;> rfl

@[simp] theorem hasReceiver_tame (w : Worker) : w.tame.hasReceiver = w.hasReceiver := by
  obtain ⟨cancelled, phase⟩ := w
  cases phase <;> rfl

@[simp] theorem isCandidate_tame (w : Worker) : w.tame.isCandidate = w.isCandidate := by
  obtain ⟨cancelled, phase⟩ := w
  cases phase <;> rfl

end Worker

namespace Subscription

@[simp] theorem sid_tame (s : Subscription) : s.tame.sid = s.sid := rfl

@[simp] theorem subject_tame (s : Subscription) : s.tame.subject = s.subject := rfl

@[simp] theorem queueGroup_tame (s : Subscription) : s.tame.queueGroup = s.queueGroup := rfl

@[simp] theorem attached_tame (s : Subscription) : s.tame.attached = s.attached := rfl

@[simp] theorem valid_tame (s : Subscription) : s.tame.valid = s.valid := rfl

@[simp] theorem held_tame (s : Subscription) : s.tame.held = s.held := rfl

@[simp] theorem via_tame (s : Subscription) : s.tame.via = s.via := rfl

@[simp] theorem delivered_tame (s : Subscription) : s.tame.delivered = s.delivered := rfl

@[simp] theorem current_tame (s : Subscription) : s.tame.current = s.current := rfl

@[simp] theorem isStarted_tame (s : Subscription) : s.tame.isStarted = s.isStarted := by
  simp only [isStarted, tame, List.getElem?_map]
  cases s.current with
  | none => rfl
  | some i => cases h : s.workers[i]? <;> simp [h, Worker.tame]

@[simp] theorem modifyWorker_tame (s : Subscription) (i : Nat) {f g : Worker → Worker}
    (h : ∀ w, (f w).tame = g w.tame) : s.tame.modifyWorker i g = (s.modifyWorker i f).tame := by
  have hworkers : (s.workers.map Worker.tame).modify i g = (s.workers.modify i f).map Worker.tame := by
    refine List.ext_getElem? fun j => ?_
    simp only [List.getElem?_modify, List.getElem?_map]
    by_cases hij : i = j <;> cases s.workers[j]? <;> simp [hij, h]
  simp only [modifyWorker, tame, hworkers]

@[simp] theorem setPhase_tame (s : Subscription) (i : Nat) (phase : Worker.Phase) :
    s.tame.setPhase i phase.tame = (s.setPhase i phase).tame :=
  s.modifyWorker_tame i fun _ => rfl

@[simp] theorem enable_tame (s : Subscription) (stopping : Bool) :
    s.tame.enable stopping = ((s.enable stopping).1, (s.enable stopping).2.tame) := by
  simp only [enable, isStarted_tame]
  by_cases hstarted : s.isStarted = true
  · simp [hstarted]
  · simp [hstarted, tame, Worker.tame, Worker.Phase.tame]

@[simp] theorem disable_tame (s : Subscription) : s.tame.disable = (s.disable.1, s.disable.2.tame) := by
  have hworkers := s.modifyWorker_tame (f := fun w => { w with cancelled := true })
    (g := fun w => { w with cancelled := true }) (h := fun _ => rfl)
  simp only [disable, isStarted_tame, current_tame, hworkers]
  cases s.current <;> rfl

@[simp] theorem cancelWorkers_tame (s : Subscription) :
    s.tame.cancelWorkers = s.cancelWorkers.tame := by
  simp [cancelWorkers, tame, Worker.tame]

@[simp] theorem enqueue_tame (s : Subscription) (m : Message) :
    s.tame.enqueue m = (s.enqueue m).map tame := by
  simp only [enqueue, tame]
  cases s.queue.enqueue ⟨m, s.attached⟩ <;> rfl

@[simp] theorem receiverIsFree_tame (s : Subscription) (i : Nat) :
    s.tame.receiverIsFree i = s.receiverIsFree i := by
  simp [receiverIsFree, tame, List.any_map, ← List.map_take, Function.comp_def]

/-- A worker whose handler is not asleep can go on, or cannot, as it can when it is tame. -/
theorem isReady_tame {s : Subscription} {i : Nat} {w : Worker} (hw : s.workers[i]? = some w)
    {now : Instant} (h : ∀ invocation, w.phase = .handling invocation →
      invocation.wakeAt.any (now < ·) = false) : s.tame.isReady i now = s.isReady i now := by
  have hw' : s.tame.workers[i]? = some w.tame := by simp [tame, hw]
  simp only [isReady, hw, hw']
  obtain ⟨cancelled, phase⟩ := w
  cases phase with
  | handling invocation =>
    have hawake := h invocation rfl
    cases hwake : invocation.wakeAt with
    | none => simp [Worker.tame, Worker.Phase.tame, Invocation.tame, hwake]
    | some wakeAt => simpa [hwake, Worker.tame, Worker.Phase.tame, Invocation.tame] using hawake
  | waiting => simp [Worker.tame, Worker.Phase.tame]
  | starting | receiving | finished => rfl

@[simp] theorem lineUp_tame (s : Subscription) (i : Nat) (w : Worker) :
    s.tame.lineUp i w.tame = (s.lineUp i w).tame := by
  simp only [lineUp, receiverIsFree_tame, Worker.tame]
  split
  · rfl
  · split <;> rfl

@[simp] theorem claim_tame (s : Subscription) (ceiling : Nat) :
    s.tame.claim ceiling = (s.claim ceiling).map (Prod.map id tame) := by
  by_cases h : ceiling = 0 ∨ s.delivered < ceiling <;> simp [claim, tame, h]

end Subscription

/-! ## Connections -/

namespace Connection

@[simp] theorem closed_tame (c : Connection) : c.tame.closed = c.closed := rfl

@[simp] theorem table_tame (c : Connection) : c.tame.table = c.table := rfl

@[simp] theorem registry_tame (c : Connection) : c.tame.registry = c.registry := rfl

@[simp] theorem handles_tame (c : Connection) : c.tame.handles = c.handles := rfl

@[simp] theorem clock_tame (c : Connection) : c.tame.clock = c.clock := rfl

@[simp] theorem subscriptions_tame (c : Connection) :
    c.tame.subscriptions = c.subscriptions.map Subscription.tame := rfl

@[simp] theorem isStopping_tame (c : Connection) : c.tame.isStopping = c.isStopping := rfl

@[simp] theorem subscription?_tame (c : Connection) (sid : Sid) :
    c.tame.subscription? sid = (c.subscription? sid).map Subscription.tame := by
  simp only [subscription?, subscriptions_tame, List.find?_map, Function.comp_def,
    Subscription.sid_tame]

@[simp] theorem lookup_tame (c : Connection) (sid : Sid) :
    c.tame.lookup sid = (c.lookup sid).map Subscription.tame := by
  simp only [lookup, table_tame, subscription?_tame]
  split <;> rfl

/-- An event that has nothing to do with how invocations end. -/
theorem log_tame (c : Connection) {e e' : Event} (h : e.tame? = some e') :
    c.tame.log e' = (c.log e).tame := by
  simp [log, tame, h]

/-- An event that is only about how an invocation ended. -/
theorem log_untame (c : Connection) {e : Event} (h : e.tame? = none) : (c.log e).tame = c.tame := by
  simp [log, tame, h]

theorem modifySubscription_tame (c : Connection) (sid : Sid) {f g : Subscription → Subscription}
    (h : ∀ s, (f s).tame = g s.tame) :
    c.tame.modifySubscription sid g = (c.modifySubscription sid f).tame := by
  have hsubs : (c.subscriptions.map Subscription.tame).map (fun s => if s.sid = sid then g s else s) =
      (c.subscriptions.map fun s => if s.sid = sid then f s else s).map Subscription.tame := by
    simp only [List.map_map]
    refine List.map_congr_left fun s _ => ?_
    by_cases hs : s.sid = sid <;> simp [hs, h]
  simp only [modifySubscription, subscriptions_tame, hsubs]
  rfl

@[simp] theorem replace_tame (c : Connection) (sid : Sid) (s : Subscription) :
    (c.tame.modifySubscription sid fun _ => s.tame) = (c.modifySubscription sid fun _ => s).tame :=
  c.modifySubscription_tame sid fun _ => rfl

/-! ## Inbound messages -/

@[simp] theorem drop_tame (c : Connection) (sid : Sid) (m : Message) (reason : DropReason) :
    c.tame.drop sid m reason = (c.drop sid m reason).tame := by
  simp only [drop]
  rw [← log_tame _ rfl]
  cases reason <;> rfl

@[simp] theorem deliverTo_tame (c : Connection) (s : Subscription) (m : Message) :
    c.tame.deliverTo s.tame m = ((c.deliverTo s m).1, (c.deliverTo s m).2.tame) := by
  simp only [deliverTo, Subscription.valid_tame, Subscription.sid_tame, Subscription.enqueue_tame]
  by_cases hvalid : s.valid = true
  · cases s.enqueue m <;> simp [hvalid, log_tame _ (e := .accepted s.sid m) rfl]
  · simp [hvalid]

@[simp] theorem deliver_tame (c : Connection) (sid : Sid) (m : Message) :
    c.tame.deliver sid m = ((c.deliver sid m).1, (c.deliver sid m).2.tame) := by
  simp only [deliver, lookup_tame]
  cases c.lookup sid <;> simp

@[simp] theorem processInbound_tame (c : Connection) (m : Message) :
    c.tame.processInbound m = ((c.processInbound m).1, (c.processInbound m).2.tame) := by
  have hinbox : c.tame.inbox = c.inbox := rfl
  simp only [processInbound, hinbox, deliver_tame]
  split <;> rfl

/-! ## The ends of a subscription, and its start -/

@[simp] theorem enable_tame (c : Connection) (sid : Sid) :
    c.tame.enable sid = ((c.enable sid).1, (c.enable sid).2.tame) := by
  simp only [enable, subscription?_tame, isStopping_tame]
  cases c.subscription? sid <;> simp

@[simp] theorem disable_tame (c : Connection) (sid : Sid) :
    c.tame.disable sid = ((c.disable sid).1, (c.disable sid).2.tame) := by
  simp only [disable, subscription?_tame]
  cases c.subscription? sid <;> simp

@[simp] theorem invalidate_tame (c : Connection) (sid : Sid) :
    c.tame.invalidate sid = (c.invalidate sid).tame := by
  simp only [invalidate]
  rw [c.modifySubscription_tame sid (f := fun s => { s with valid := false, attached := false })
    fun _ => rfl]
  rfl

end Connection

/-- A transport that does the same whether handlers are tame or not. -/
def Transport.Blind (t : Transport) : Prop :=
  ∀ (o : Outgoing) (c : Connection), t o c.tame = ((t o c).1, (t o c).2.tame)

namespace Connection

variable {t : Transport}

theorem sendFor_tame (ht : t.Blind) (c : Connection) (sid : Sid) (frame : Frame) :
    c.tame.sendFor t sid frame = ((c.sendFor t sid frame).1, (c.sendFor t sid frame).2.tame) := by
  simp only [sendFor, subscription?_tame]
  cases c.subscription? sid with
  | none => rfl
  | some s =>
    by_cases hs : s.attached = true
    · simp [hs, ht _ c]
    · simp [hs]

theorem teardown_tame (ht : t.Blind) (c : Connection) (sid : Sid) :
    c.tame.teardown t sid = ((c.teardown t sid).1, (c.teardown t sid).2.tame) := by
  simp only [teardown, subscription?_tame, invalidate_tame, ht _ (c.invalidate sid)]
  cases c.subscription? sid with
  | none => rfl
  | some s => by_cases hvalid : s.valid = true <;> by_cases hs : s.attached = true <;> simp [hvalid, hs]

theorem closeSubscription_tame (ht : t.Blind) (c : Connection) (sid : Sid) :
    c.tame.closeSubscription t sid = (c.closeSubscription t sid).tame := by
  simp [closeSubscription, teardown_tame ht]

theorem unsubscribe_tame (ht : t.Blind) (c : Connection) (sid : Sid) :
    c.tame.unsubscribe t sid = ((c.unsubscribe t sid).1, (c.unsubscribe t sid).2.tame) := by
  simp [unsubscribe, teardown_tame ht]

theorem startSubscription_tame (ht : t.Blind) (c : Connection) (sid : Sid) :
    c.tame.startSubscription t sid =
      ((c.startSubscription t sid).1, (c.startSubscription t sid).2.tame) := by
  simp only [startSubscription, subscription?_tame, enable_tame]
  cases c.subscription? sid with
  | none => rfl
  | some s =>
    by_cases hvalid : s.valid = true
    · obtain ⟨started, c₁⟩ := c.enable sid
      cases started with
      | false => simp [hvalid]
      | true =>
        cases hsent : c₁.sendFor t sid (.subscribe sid s.subject s.queueGroup) with
        | mk verdict c₂ => cases verdict <;> simp [hvalid, sendFor_tame ht c₁, hsent]
    · simp [hvalid]

theorem autoUnsubscribe_tame (ht : t.Blind) (c : Connection) (sid : Sid) (max : Nat) :
    c.tame.autoUnsubscribe t sid max =
      ((c.autoUnsubscribe t sid max).1, (c.autoUnsubscribe t sid max).2.tame) := by
  have hset := c.modifySubscription_tame sid (f := fun s => { s with max := max })
    (g := fun s => { s with max := max }) fun _ => rfl
  simp only [autoUnsubscribe, subscription?_tame, hset, log_tame _ (e := .ceilingSet sid max) rfl,
    unsubscribe_tame ht, sendFor_tame ht]
  cases c.subscription? sid with
  | none => rfl
  | some s =>
    by_cases hvalid : s.valid = true <;> by_cases hmax : max = 0 <;>
      by_cases hreached : max ≤ s.delivered <;> simp [hvalid, hmax, hreached]

@[simp] theorem setHandler_tame (c : Connection) (sid : Sid) (handler : Handler) :
    c.tame.setHandler sid handler.tame = (c.setHandler sid handler).tame := by
  have hset := c.modifySubscription_tame sid (f := fun s => { s with handler := some handler })
    (g := fun s => { s with handler := some handler.tame }) fun _ => rfl
  simp only [setHandler, subscription?_tame, hset, log_tame _ (e := .handlerSet sid handler) rfl]
  cases c.subscription? sid <;> rfl

@[simp] theorem stopWorkers_tame (c : Connection) : c.tame.stopWorkers = c.stopWorkers.tame := by
  simp [stopWorkers, tame]

theorem foldl_closeSubscription_tame (ht : t.Blind) (c : Connection) (sids : List Sid) :
    sids.foldl (fun c sid => c.closeSubscription t sid) c.tame =
      (sids.foldl (fun c sid => c.closeSubscription t sid) c).tame := by
  induction sids generalizing c with
  | nil => rfl
  | cons sid rest ih => rw [List.foldl_cons, List.foldl_cons, closeSubscription_tame ht, ih]

theorem close_tame (ht : t.Blind) (c : Connection) : c.tame.close t = (c.close t).tame := by
  by_cases hclosed : c.closed = true
  · simp [close, hclosed]
  · let finish (ended : Connection) : Connection :=
      ended.stopWorkers.log (.closed ended.id c.registry.cancelAll.1 c.table.length)
    have hfinish (ended : Connection) : finish ended.tame = (finish ended).tame := by
      simp only [finish, stopWorkers_tame]
      exact log_tame _ rfl
    have hfold := foldl_closeSubscription_tame ht
      { c with closed := true, registry := c.registry.cancelAll.2 } c.table
    simp only [close, closed_tame, hclosed]
    exact (congrArg finish hfold).trans (hfinish _)

/-! ## Transports -/

@[simp] theorem offer_tame (c : Connection) (o : Outgoing) :
    c.tame.offer o = ((c.offer o).1, (c.offer o).2.tame) := by
  have houtbound : c.tame.outbound = c.outbound := rfl
  simp only [offer, houtbound]
  cases c.outbound.send o with
  | ok outbound => exact congrArg (Prod.mk _) (log_tame { c with outbound := outbound } (h := rfl))
  | error e => exact congrArg (Prod.mk _) (log_tame c rfl)

/-- What of an event is left is about the same frame. -/
theorem offer?_tame (e : Event) : e.tame?.bind Event.offer? = e.offer? := by
  cases e <;> rfl

@[simp] theorem traffic_tame (c : Connection) : c.tame.traffic = c.traffic := by
  simp only [traffic, tame, ← List.filterMap_reverse, List.filterMap_filterMap]
  exact congrArg (List.filterMap · c.journal.reverse) (funext offer?_tame)

theorem closeHeld_tame (ht : t.Blind) (c : Connection) : c.tame.closeHeld t = (c.closeHeld t).tame := by
  have hsids : (c.tame.subscriptions.filter (·.held)).map (·.sid) =
      (c.subscriptions.filter (·.held)).map (·.sid) := by
    simp [List.filter_map, Function.comp_def]
  simp only [closeHeld, hsids, foldl_closeSubscription_tame ht]

@[simp] theorem heldCount_tame (c : Connection) : c.tame.heldCount = c.heldCount := by
  simp [heldCount, List.filter_map, Function.comp_def]

theorem react_tame (ht : t.Blind) (c : Connection) (frame : Frame) (deed : Reaction.Deed) :
    c.tame.react t frame deed = ((c.react t frame deed).1, (c.react t frame deed).2.tame) := by
  cases deed with
  | closeConnection => simp [react, close_tame ht]
  | reply payload =>
    simp only [react, processInbound_tame]
    split <;> rfl
  | closeSubscriptions => simp [react, closeHeld_tame ht]
  | look => rfl

theorem reactTo_tame (ht : t.Blind) (c : Connection) (reaction : Reaction) (o : Outgoing) :
    c.tame.reactTo t reaction o = (c.reactTo t reaction o).tame := by
  have hopener : c.tame.opener = c.opener := rfl
  simp only [reactTo, hopener, handles_tame, react_tame ht]
  split
  · cases c.react t o.frame reaction.deed with
    | mk finding c₁ =>
      cases finding with
      | none => rfl
      | some finding => exact log_tame c₁ rfl
  · rfl

/-- The transport that a gate in front of the channel is made into is blind if the gate is. -/
theorem blind_transportAt {gate : Gate} (hgate : ∀ o (c : Connection), gate o c.tame = gate o c)
    (depth : Nat) : (transportAt gate depth).Blind := by
  have hoffer : Transport.Blind (offerThrough gate) := by
    intro o c
    simp only [offerThrough, hgate, offer_tame]
    cases gate o c with
    | none => rfl
    | some e => exact congrArg (Prod.mk _) (log_tame c (e := .offered o (.error e)) rfl)
  -- what a reaction sends goes through a transport of less depth
  induction depth with
  | zero => exact hoffer
  | succ depth ih =>
    intro o c
    have hreaction : c.tame.reaction? o.frame.kind = c.reaction? o.frame.kind := rfl
    simp only [transportAt, hreaction]
    cases c.reaction? o.frame.kind with
    | none => exact hoffer o c
    | some reaction =>
      simp only [sendReacting, reactTo_tame ih]
      cases reaction.refusal with
      | none => exact hoffer o _
      | some e => exact congrArg (Prod.mk _) (log_tame _ (e := .offered o (.error e)) rfl)

theorem blind_gated {gate : Gate} (hgate : ∀ o (c : Connection), gate o c.tame = gate o c) :
    (gated gate).Blind := by
  intro o c
  have hdepth : c.tame.subscriptions.length = c.subscriptions.length := by simp
  simp only [gated, hdepth]
  exact blind_transportAt hgate _ o c

/-! ## What the application asks for -/

theorem publishFor_tame (ht : t.Blind) (c : Connection) (onBehalfOf : Option Sid) (subject : String)
    (payload : ByteArray) : c.tame.publishFor t onBehalfOf subject payload =
      ((c.publishFor t onBehalfOf subject payload).1,
        (c.publishFor t onBehalfOf subject payload).2.tame) := by
  simp only [publishFor, closed_tame, ht _ c]
  split
  · rfl
  · split <;> rfl

theorem announceInbox_tame (ht : t.Blind) (c : Connection) :
    c.tame.announceInbox t = ((c.announceInbox t).1, (c.announceInbox t).2.tame) := by
  have hannounced : c.tame.announced = c.announced := rfl
  have hinbox : c.tame.inbox = c.inbox := rfl
  simp only [announceInbox, hannounced, hinbox, ht _ c]
  split
  · rfl
  · cases t { frame := .subscribe replySid c.inbox.wildcard none } c with
    | mk verdict c₁ => cases verdict <;> rfl

theorem request_tame (ht : t.Blind) (c : Connection) (subject : String) (payload : ByteArray)
    (options : RequestOptions) : c.tame.request t subject payload options =
      ((c.request t subject payload options).1, (c.request t subject payload options).2.tame) := by
  simp only [request, closed_tame, announceInbox_tame ht c]
  split
  · rfl
  · split
    · rfl
    · cases c.announceInbox t with
      | mk verdict c₁ =>
        cases verdict with
        | error e => rfl
        | ok =>
          dsimp only
          by_cases hclosed : c₁.closed = true
          · rw [if_pos hclosed, if_pos (show c₁.tame.closed = true from hclosed)]
            rfl
          · rw [if_neg hclosed, if_neg (show ¬c₁.tame.closed = true from hclosed)]
            cases hsent : t { frame := .publish subject (some c₁.inbox.next.1) payload }
                (c₁.enrolled options) with
            | mk verdict c₂ =>
              have hsend : t { frame := .publish subject (some c₁.tame.inbox.next.1) payload }
                  (c₁.tame.enrolled options) = (verdict, c₂.tame) := by
                have hblind := ht { frame := .publish subject (some c₁.inbox.next.1) payload }
                  (c₁.enrolled options)
                rw [hsent] at hblind
                exact hblind
              simp only [enrolled] at hsent hsend
              rw [hsend, hsent]
              cases verdict <;> rfl

theorem register_tame (c : Connection) (s : Subscription) :
    c.tame.register s.tame = (c.register s).tame := by
  simp [register, log, tame, Event.tame?, Subscription.tame]

@[simp] theorem build_tame (c : Connection) (handle : Nat) (plan : SubscriptionPlan) :
    c.tame.build handle plan.tame = ((c.build handle plan).1, (c.build handle plan).2.tame) := by
  have hsubject : plan.tame.subject = plan.subject := rfl
  have hgroup : plan.tame.queueGroup = plan.queueGroup := rfl
  simp only [build, hsubject, hgroup, closed_tame]
  split
  · rfl
  · split
    · rfl
    · split
      · rfl
      · exact congrArg (Prod.mk _) (register_tame c {
          sid := c.issuedSids + 1
          subject := plan.subject
          queueGroup := plan.queueGroup
          options := plan.options
          handler := plan.handler
          max := plan.max
          via := handle })

@[simp] theorem handOver_tame (made : Except ConnectionError Sid × Connection) :
    handOver (made.1, made.2.tame) = ((handOver made).1, (handOver made).2.tame) := by
  obtain ⟨outcome, c⟩ := made
  cases outcome with
  | ok sid => exact congrArg (Prod.mk _) (c.modifySubscription_tame sid fun _ => rfl)
  | error e => rfl

theorem subscribe_tame (ht : t.Blind) (c : Connection) (handle : Nat) (plan : SubscriptionPlan) :
    c.tame.subscribe t handle plan.tame =
      ((c.subscribe t handle plan).1, (c.subscribe t handle plan).2.tame) := by
  simp only [subscribe, build_tame]
  cases c.build handle plan with
  | mk outcome c₁ =>
    cases outcome with
    | error e => rfl
    | ok sid =>
      simp only [startSubscription_tame ht c₁]
      cases c₁.startSubscription t sid with
      | mk verdict c₂ =>
        cases verdict with
        | ok => rfl
        | error e => exact congrArg (Prod.mk _) (closeSubscription_tame ht c₂ sid)

theorem dropHandle_tame (ht : t.Blind) (c : Connection) (handle : Nat) :
    c.tame.dropHandle t handle = (c.dropHandle t handle).tame := by
  have hclose := close_tame ht { c with handles := c.handles.filter (· != handle) }
  by_cases hlast : (c.handles.filter (· != handle)).isEmpty = true
  · simp only [dropHandle, handles_tame, hlast, if_true]
    exact hclose
  · simp only [dropHandle, handles_tame, hlast]
    rfl

/-! ## Handlers at work -/

theorem respond_tame (ht : t.Blind) (c : Connection) (d : Delivery) (payload : ByteArray) :
    c.tame.respond t d payload = ((c.respond t d payload).1, (c.respond t d payload).2.tame) := by
  simp only [respond]
  cases d.response payload with
  | error e => rfl
  | ok o => simp [ht o c]

@[simp] theorem note_tame (c : Connection) (sid : Sid) (n : Note) :
    c.tame.note sid n = (c.note sid n).tame := log_tame c rfl

/-- What is done with a subscription that is held. -/
theorem whenHeld_tame (c : Connection) (sid : Sid) (action : String)
    {f g : Subscription → Connection} (h : ∀ s, g s.tame = (f s).tame) :
    c.tame.whenHeld sid action g = (c.whenHeld sid action f).tame := by
  simp only [whenHeld, subscription?_tame, note_tame]
  cases c.subscription? sid with
  | none => rfl
  | some s => by_cases hs : s.held = true <;> simp [hs, h]

theorem whenReachable_tame (c : Connection) (sid : Sid) (action : String) {c₁ c₂ : Connection}
    (h : c₂ = c₁.tame) :
    c.tame.whenReachable sid action c₂ = (c.whenReachable sid action c₁).tame := by
  simp only [whenReachable, subscription?_tame, note_tame, handles_tame, h]
  cases c.subscription? sid with
  | none => rfl
  | some s => by_cases hs : s.via ∈ c.handles <;> simp [hs]

theorem respondOrFail_tame (ht : t.Blind) (c : Connection) (d : Delivery) (payload : ByteArray)
    (rest : List Action) : c.tame.respondOrFail t d payload (tameScript rest) =
      ((c.respondOrFail t d payload rest).1.tame, (c.respondOrFail t d payload rest).2.tame) := by
  simp only [respondOrFail, respond_tame ht]
  cases c.respond t d payload with
  | mk verdict c₁ => cases verdict <;> rfl

/-- An action that neither suspends a handler nor ends it. -/
theorem act_tame (ht : t.Blind) (c : Connection) (sid : Sid) (d : Delivery) {action : Action}
    (hsuspends : action.suspends = false) (hends : action.ends = false) (rest : List Action) :
    c.tame.act t sid d action.tame (tameScript rest) =
      ((c.act t sid d action rest).1.tame, (c.act t sid d action rest).2.tame) := by
  have hheld (name : String) {f g : Subscription → Connection} (h : ∀ s, g s.tame = (f s).tame) :
      (Progress.next (tameScript rest), c.tame.whenHeld sid name g) =
        ((Progress.next rest).tame, (c.whenHeld sid name f).tame) :=
    congrArg (Prod.mk _) (c.whenHeld_tame sid name h)
  have hreachable (name : String) {c₁ c₂ : Connection} (h : c₂ = c₁.tame) :
      (Progress.next (tameScript rest), c.tame.whenReachable sid name c₂) =
        ((Progress.next rest).tame, (c.whenReachable sid name c₁).tame) :=
    congrArg (Prod.mk _) (c.whenReachable_tame sid name h)
  cases action with
  | fail | panic => cases hends
  | yield | sleep => cases hsuspends
  | respond payload =>
    exact congrArg (Prod.mk _) ((congrArg (noteResult sid "respond") (respond_tame ht c d payload)).trans
      (note_tame _ sid _))
  | respondStrict payload => exact respondOrFail_tame ht c d payload rest
  | respondUpper => exact respondOrFail_tame ht c d _ rest
  | close => exact hheld "close" fun _ => closeSubscription_tame ht c sid
  | unsubscribe =>
    exact hheld "unsubscribe" fun _ => by simp [noteResult, unsubscribe_tame ht]
  | autoUnsubscribe max =>
    exact hheld "auto_unsubscribe" fun _ => by simp [noteResult, autoUnsubscribe_tame ht]
  | start => exact hheld "start" fun _ => by simp [noteResult, startSubscription_tame ht]
  | disable => exact hheld "disable" fun _ => by simp [noteAnswer]
  | enable => exact hheld "enable" fun _ => by simp [noteAnswer]
  | setHandler handler => exact hheld "set_handler" fun _ => setHandler_tame c sid handler
  | remark text => exact congrArg (Prod.mk _) (note_tame c sid _)
  | info =>
    refine hheld "info" fun s => ?_
    simp only [Subscription.delivered_tame, Subscription.valid_tame, Subscription.isStarted_tame]
    exact note_tame c sid _
  | publish subject payload =>
    have hpublish : (c.tame.publishFor t (some d.message.sid) subject payload).2.note sid
        (.published (c.tame.publishFor t (some d.message.sid) subject payload).1) =
        ((c.publishFor t (some d.message.sid) subject payload).2.note sid
          (.published (c.publishFor t (some d.message.sid) subject payload).1)).tame := by
      rw [publishFor_tame ht, note_tame]
    exact hreachable "publish" hpublish
  | deliver message => exact hreachable "deliver" (by simp [noteAnswer])
  | closeConnection => exact hreachable "close_conn" (close_tame ht c)

/-! ## Workers -/

@[simp] theorem setPhase_tame (c : Connection) (sid : Sid) (i : Nat) (phase : Worker.Phase) :
    c.tame.setPhase sid i phase.tame = (c.setPhase sid i phase).tame :=
  c.modifySubscription_tame sid fun s => (s.setPhase_tame i phase).symm

@[simp] theorem exitWorker_tame (c : Connection) (sid : Sid) (i : Nat) :
    c.tame.exitWorker sid i = (c.exitWorker sid i).tame := by
  refine c.modifySubscription_tame sid fun s => ?_
  have hphase := s.setPhase_tame i .finished
  have hvalid : ((s.setPhase i .finished).tame).valid = (s.setPhase i .finished).valid := rfl
  dsimp only [Worker.Phase.tame] at hphase
  dsimp only
  rw [hphase, hvalid]
  split <;> rfl

theorem beginInvocation_tame (c : Connection) (s : Subscription) (i : Nat) (handler : Handler)
    (d : Delivery) (count : Nat) : c.tame.beginInvocation s.tame i handler.tame d count =
      (c.beginInvocation s i handler d count).tame := by
  let invocation : Invocation := {
    delivery := d
    script := handler.script d.message.payload
    ceiling := s.max
    count := count }
  let handed : Connection :=
    { c.setPhase s.sid i (.handling invocation) with counts := c.counts.handed }
  have hhanded : handed.tame =
      { c.tame.setPhase s.sid i (.handling invocation.tame) with counts := c.tame.counts.handed } := by
    rw [show Worker.Phase.handling invocation.tame = (Worker.Phase.handling invocation).tame from rfl,
      setPhase_tame]
    rfl
  have hbegan : (c.beginInvocation s i handler d count).tame =
      (handed.tame.log (.began s.sid handler.tame d)).note s.sid (.seen handler.name d) := by
    rw [log_tame handed (e := .began s.sid handler d) rfl, note_tame]
    rfl
  rw [hbegan, hhanded]
  simp only [beginInvocation, Handler.script_tame, Handler.name_tame]
  rfl

theorem process_tame (ht : t.Blind) (c : Connection) (s : Subscription) (i : Nat) (d : Delivery) :
    c.tame.process t s.tame i d = (c.process t s i d).tame := by
  have hhandler : s.tame.handler = s.handler.map Handler.tame := rfl
  have hmax : s.tame.max = s.max := rfl
  simp only [process, hhandler, hmax, Subscription.claim_tame, Subscription.sid_tame,
    Subscription.attached_tame, drop_tame, exitWorker_tame, closeSubscription_tame ht]
  cases s.handler with
  | none => rfl
  | some handler =>
    by_cases hs : s.attached = true
    · cases s.claim s.max with
      | none => simp [hs]
      | some claimed => simp [hs, beginInvocation_tame]
    · simp [hs]

theorem takeNext_tame (ht : t.Blind) (c : Connection) (s : Subscription) (i : Nat) :
    c.tame.takeNext t s.tame i = (c.takeNext t s i).tame := by
  have hqueue : s.tame.queue = s.queue := rfl
  simp only [takeNext, hqueue, Subscription.sid_tame, exitWorker_tame]
  cases s.queue.recv with
  | mk received queue =>
    cases received with
    | entry d =>
      have hreplace := c.replace_tame s.sid { s with queue := queue }
      have htaken := log_tame (c.modifySubscription s.sid fun _ => { s with queue := queue })
        (e := .taken s.sid d.message) rfl
      rw [← process_tame ht, ← htaken, ← hreplace]
      rfl
    | pending => rfl
    | ended => rfl

/-- The end of an invocation, however it ended. -/
theorem endInvocation_tame (c : Connection) (s : Subscription) (failure : Option Failure) :
    (c.endInvocation s failure).tame = c.tame.endInvocation s.tame none := by
  have hended : (c.log (.ended s.sid failure)).tame = c.tame.log (.ended s.sid none) :=
    (log_tame c rfl).symm
  cases failure with
  | none => exact hended
  | some f =>
    have hcounted : ({ (c.log (.ended s.sid (some f))).log (.warned s.sid s.subject f) with
        counts := c.counts.failed f.kind } : Connection).tame =
          (c.log (.ended s.sid (some f))).tame := by
      have hcounts : { c.counts.failed f.kind with errors := 0, panics := 0 } =
          { c.counts with errors := 0, panics := 0 } := by cases f.kind <;> rfl
      simp only [tame, log, hcounts]
      rfl
    have hreported : (c.endInvocation s (some f)).tame = (c.log (.ended s.sid (some f))).tame := by
      rw [← hcounted]
      simp only [endInvocation, reportFailure]
      split
      · rfl
      · exact log_untame _ rfl
      · exact log_untame _ rfl
    exact hreported.trans hended

theorem finishInvocation_tame (ht : t.Blind) (c : Connection) (s : Subscription) (i : Nat)
    (invocation : Invocation) (failure : Option Failure) :
    (c.finishInvocation t s i invocation failure).tame =
      c.tame.finishInvocation t s.tame i invocation.tame none := by
  have hphase : (c.endInvocation s failure).tame.setPhase s.sid i .receiving =
      ((c.endInvocation s failure).setPhase s.sid i .receiving).tame :=
    setPhase_tame _ s.sid i .receiving
  simp only [finishInvocation, ← endInvocation_tame c s failure, Subscription.sid_tame,
    closeSubscription_tame ht, exitWorker_tame]
  by_cases hlast : invocation.ceiling ≠ 0 ∧ invocation.count = invocation.ceiling
  · simp [hlast]
  · simp [hlast, hphase]

/-- A step of a handler that is not suspended. -/
theorem stepInvocation_tame (ht : t.Blind) (c : Connection) (s : Subscription) (i : Nat)
    (invocation : Invocation) (h : invocation.script.head?.any Action.suspends = false) :
    (c.stepInvocation t s i invocation).2.tame =
      (c.tame.stepInvocation t s.tame i invocation.tame).2.tame := by
  have hfinish (c : Connection) (failure failure' : Option Failure) :
      (c.finishInvocation t s i invocation failure).tame =
        (c.tame.finishInvocation t s.tame i invocation.tame failure').tame := by
    rw [finishInvocation_tame ht, finishInvocation_tame ht, c.tame_tame, s.tame_tame,
      invocation.tame_tame]
  have hgoOn (c : Connection) {phase phase' : Worker.Phase} (heq : phase'.tame = phase.tame) :
      (c.setPhase s.sid i phase).tame = (c.tame.setPhase s.sid i phase').tame := by
    rw [← setPhase_tame, ← setPhase_tame, c.tame_tame, heq]
  cases hscript : invocation.script with
  | nil =>
    have hscript' : invocation.tame.script = [] := congrArg tameScript hscript
    simp only [stepInvocation, hscript, hscript']
    exact hfinish c none none
  | cons action rest =>
    rw [hscript] at h
    have hsuspends : action.suspends = false := h
    cases hends : action.ends with
    | true =>
      have hscript' : invocation.tame.script = [] :=
        (congrArg tameScript hscript).trans (tameScript_of_ends hends rest)
      have hover : ∃ failure, c.act t s.sid invocation.delivery action rest = (.over failure, c) := by
        cases action <;> first | exact ⟨_, rfl⟩ | cases hends
      obtain ⟨failure, hover⟩ := hover
      simp only [stepInvocation, hscript, hscript', hover]
      exact hfinish c failure none
    | false =>
      have hscript' : invocation.tame.script = action.tame :: tameScript rest :=
        (congrArg tameScript hscript).trans (tameScript_of_acts hsuspends hends rest)
      have hact := act_tame ht c s.sid invocation.delivery hsuspends hends rest
      have hdelivery : invocation.tame.delivery = invocation.delivery := rfl
      simp only [stepInvocation, hscript, hscript', hdelivery, Subscription.sid_tame, hact]
      cases c.act t s.sid invocation.delivery action rest with
      | mk progress c₁ =>
        cases progress with
        | next script | pause script | sleep wakeAt script =>
          refine hgoOn c₁ ?_
          simp only [Worker.Phase.tame, Invocation.tame, tameScript_tameScript]
        | «over» failure => exact hfinish c₁ failure failure

/-- A step of a worker that leaves no handler suspended. -/
theorem stepWorker_tame (ht : t.Blind) (c : Connection) {sid : Sid} {i : Nat}
    (h : c.suspends (.stepWorker sid i) = false) :
    (c.stepWorker t sid i).2.tame = (c.tame.stepWorker t sid i).2.tame := by
  cases hs : c.subscription? sid with
  | none => simp [stepWorker, hs, c.tame_tame]
  | some s =>
    have hs' : c.tame.subscription? sid = some s.tame := by simp [hs]
    cases hw : s.workers[i]? with
    | none => simp [stepWorker, hs, hw, c.tame_tame, Subscription.tame]
    | some w =>
      have hw' : s.tame.workers[i]? = some w.tame := by simp [Subscription.tame, hw]
      have hinvocation (invocation : Invocation) (hphase : w.phase = .handling invocation) :
          invocation.wakeAt.any (c.clock < ·) = false ∧
            invocation.script.head?.any Action.suspends = false := by
        simpa [suspends, invocationAt?, hs, hw, Worker.invocation?, hphase] using h
      have hready := Subscription.isReady_tame hw fun invocation hphase =>
        (hinvocation invocation hphase).1
      simp only [stepWorker, hs, hs', hw, hw', clock_tame, hready]
      by_cases hr : s.isReady i c.clock = true
      · simp only [hr]
        obtain ⟨cancelled, phase⟩ := w
        cases phase with
        | starting | waiting =>
          exact (c.setPhase sid i _).tame_tame.symm.trans
            (congrArg tame (by rw [← setPhase_tame, ← s.lineUp_tame]; rfl))
        | receiving =>
          by_cases hcancelled : cancelled = true
          · simp [hcancelled, Worker.tame, Worker.Phase.tame, tame_tame]
          · simp [hcancelled, Worker.tame, Worker.Phase.tame, takeNext_tame ht, tame_tame]
        | handling invocation => exact stepInvocation_tame ht c s i invocation (hinvocation _ rfl).2
        | finished => exact c.tame_tame.symm
      · simp [hr, c.tame_tame]

/-- Whatever is done that leaves no handler suspended comes to the same for the tame connection. -/
theorem performOver_tame (ht : t.Blind) (c : Connection) {move : Move}
    (h : c.suspends move = false) :
    (c.performOver t move).tame = (c.tame.performOver t move.tame).tame := by
  cases move with
  | stepWorker sid i => exact stepWorker_tame ht c h
  | build handle plan =>
    simp only [performOver, Move.tame, build_tame, handOver_tame, tame_tame]
  | subscribe handle plan =>
    simp only [performOver, Move.tame, subscribe_tame ht, handOver_tame, tame_tame]
  | letGo sid =>
    have hlet : c.tame.letGo sid = (c.letGo sid).tame := c.modifySubscription_tame sid fun _ => rfl
    simp only [performOver, Move.tame, hlet, tame_tame]
  | start sid => simp only [performOver, Move.tame, startSubscription_tame ht, tame_tame]
  | unsubscribe sid => simp only [performOver, Move.tame, unsubscribe_tame ht, tame_tame]
  | autoUnsubscribe sid max =>
    simp only [performOver, Move.tame, autoUnsubscribe_tame ht, tame_tame]
  | closeSubscription sid => simp only [performOver, Move.tame, closeSubscription_tame ht, tame_tame]
  | enable sid => simp only [performOver, Move.tame, enable_tame, tame_tame]
  | disable sid => simp only [performOver, Move.tame, disable_tame, tame_tame]
  | setHandler sid handler => simp only [performOver, Move.tame, setHandler_tame, tame_tame]
  | deliver sid m => simp only [performOver, Move.tame, deliver_tame, tame_tame]
  | deliverTo sid m =>
    simp only [performOver, Move.tame, subscription?_tame]
    cases c.subscription? sid with
    | none => exact c.tame_tame.symm
    | some s => simp only [Option.map_some, deliverTo_tame, tame_tame]
  | process m => simp only [performOver, Move.tame, processInbound_tame, tame_tame]
  | publish subject payload =>
    simp only [performOver, Move.tame, publish, publishFor_tame ht, tame_tame]
  | request subject payload options =>
    simp only [performOver, Move.tame, request_tame ht, tame_tame]
  | dropHandle handle => simp only [performOver, Move.tame, dropHandle_tame ht, tame_tame]
  | close => simp only [performOver, Move.tame, close_tame ht, tame_tame]
  | resolve | tryResult | addHandle | receive | closeReceiver | dropReceiver | stepSweeper
  | setClock => exact (tame_tame _).symm

end Connection

end PubSub
