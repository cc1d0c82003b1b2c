import Mathlib.Logic.Relation
import PubSub.Connection.Run
import PubSub.Session.Basic

/-!
# Sessions make runs

Whatever a session does to its executor is made of a few sorts of changes (`Executor.Change`): one of
its connections goes on by a run of its own, a connection is opened, a task makes a step, or the clock
moves on. The order in which the executor lets the tasks go on, and the clocks of other connections,
make no difference to what a connection can come to: each step of each task is one of the things that
can be done to it. So every connection in a session is what a run of that connection comes to, and what
holds along every run of a connection holds in every session.

## Main definitions

- `Executor.Change`, `Executor.Changes` — one change of an executor, and any number of them
- `Connection.Reachable` — what a run of a connection comes to

## Main results

- `Session.changes_perform` — a step of a session makes changes of these sorts only
- `Session.reachable_run` — every connection in a session is what a run of it comes to
-/

namespace PubSub

namespace Node

/-- The connection has gone on, and the same tasks can go on as before. -/
structure Alike (n n' : Node) : Prop where
  connection : ∃ moves, n'.connection = n.connection.run moves
  isReady : ∀ task, n'.isReady task = n.isReady task

theorem Alike.refl (n : Node) : n.Alike n := ⟨⟨[], rfl⟩, fun _ => rfl⟩

end Node

namespace Executor

/-- One change of an executor. -/
inductive Change : Executor → Executor → Prop where
  /-- A connection goes on by a run of its own. -/
  | setNode (x : Executor) {i : Nat} {n n' : Node} (hn : x.node? i = some n)
    (moves : List Connection.Move) (h : n'.connection = n.connection.run moves) :
    Change x (x.setNode i n')
  | addNode (x : Executor) (o : Session.Opening) (id : Nat) (clock : Instant) (handle : Nat) :
    Change x (x.addNode { connection := o.connect id clock handle })
  | step {x x' : Executor} (h : x.step = some x') : Change x x'
  | setClock (x : Executor) (now : Instant) : Change x (x.setClock now)
  /-- Something is done to nodes that is no task's concern. -/
  | aside (x : Executor) (nodes : List Node)
    (h : ∀ (i : Nat) (n' : Node), nodes[i]? = some n' → ∃ n : Node, x.node? i = some n ∧ n.Alike n') :
    Change x { x with nodes := nodes }

/-- Any number of changes of an executor. -/
abbrev Changes : Executor → Executor → Prop := Relation.ReflTransGen Change

variable {x x' : Executor}

theorem Change.changes (h : x.Change x') : x.Changes x' := .single h

theorem changes_onConnection {α : Type} (x : Executor) (i : Nat) (absent : α)
    {f : Connection → α × Connection}
    (hf : ∀ c : Connection, ∃ moves, (f c).2 = c.run moves) :
    x.Changes (x.onConnection i absent f).2 := by
  unfold onConnection
  split
  · exact .refl
  · next n hn =>
    obtain ⟨moves, hmoves⟩ := hf n.connection
    exact (Change.setNode x hn moves hmoves).changes

theorem changes_steps (x : Executor) (fuel : Nat) : x.Changes (x.steps fuel) := by
  induction fuel generalizing x with
  | zero => exact .refl
  | succ fuel ih =>
    unfold steps
    split
    · next x' hstep => exact (Change.step hstep).changes.trans (ih x')
    · exact .refl

theorem changes_settle (x : Executor) : x.Changes x.settle := x.changes_steps stepLimit

theorem changes_runBy (x : Executor) (holds : Executor → Bool) (limit : Instant) (fuel : Nat) :
    x.Changes (x.runBy holds limit fuel).2 := by
  induction fuel generalizing x with
  | zero => exact .refl
  | succ fuel ih =>
    have hclock : ∀ now, x.Changes (x.settle.setClock now) := fun now =>
      x.changes_settle.trans (Change.setClock x.settle now).changes
    unfold runBy
    split
    · exact .refl
    · split
      · exact .refl
      · dsimp only
        split
        · exact x.changes_settle
        · split
          · split
            · exact (hclock _).trans (ih _)
            · exact hclock limit
          · exact hclock limit

theorem changes_runUntil (x : Executor) (holds : Executor → Bool) (limit : Instant) :
    x.Changes (x.runUntil holds limit).2 := x.changes_runBy holds limit (limit - x.now + 1)

theorem changes_advanceTo (x : Executor) (target : Instant) : x.Changes (x.advanceTo target) :=
  (x.changes_runUntil (fun _ => false) target).trans (changes_settle _)

end Executor

namespace Session

/-- An operation that is one of the things that can be done to a connection. -/
theorem changes_alter {α : Type} (s : Session) (node : Nat) (absent : α)
    {f : Connection → α × Connection} (move : Connection.Move)
    (hf : ∀ c, (f c).2 = c.perform move) :
    s.executor.Changes (s.alter node absent f).2.executor :=
  s.executor.changes_onConnection node absent fun c => ⟨[move], hf c⟩

theorem changes_drain (s : Session) : s.executor.Changes s.drain.2.executor := by
  unfold drain
  split
  · exact .refl
  · -- only channels that no router reads are emptied
    refine (Executor.Change.aside s.executor _ fun i n' hn' => ?_).changes
    rw [List.getElem?_map] at hn'
    obtain ⟨n, hn, rfl⟩ := Option.map_eq_some_iff.1 hn'
    refine ⟨n, hn, ?_⟩
    split
    · exact .refl n
    · next hrouter =>
      have hnone : n.router.isSome = false := by simpa using hrouter
      refine ⟨⟨[.receive n.connection.outbound.entries.length], rfl⟩, fun task => ?_⟩
      cases task with
      | sweeper | worker => rfl
      | router => simp [Node.isReady, hnone]

theorem exists_run_deliverMany (sid : Sid) (subject : String) (count n : Nat) (c : Connection) :
    ∃ moves, (deliverMany sid subject count n c).2 = c.run moves := by
  induction count generalizing c n with
  | zero => exact ⟨[], rfl⟩
  | succ count ih =>
    let m : Message := { subject, sid, payload := (toString n).toUTF8 }
    obtain ⟨moves, hmoves⟩ := ih (n + 1) (c.deliver sid m).2
    exact ⟨.deliver sid m :: moves, hmoves⟩

theorem changes_connect (s : Session) (o : Opening) :
    s.executor.Changes (s.connect o).2.executor := by
  unfold connect
  split
  · exact .refl
  · exact (Executor.Change.addNode s.executor o _ _ _).changes

theorem changes_subscribe (s : Session) (name node : Nat) (plan : SubscriptionPlan)
    (start : Bool) : s.executor.Changes (s.subscribe name node plan start).2.executor := by
  have hmade : s.executor.Changes (s.alter node (.error .closed) fun c =>
      Connection.handOver (if start then c.subscribe Connection.transport (handleOf name) plan
        else c.build (handleOf name) plan)).2.executor := by
    cases start with
    | true => exact s.changes_alter node _ (.subscribe (handleOf name) plan) fun _ => rfl
    | false => exact s.changes_alter node _ (.build (handleOf name) plan) fun _ => rfl
  unfold subscribe
  generalize (s.alter node (.error .closed) fun c =>
    Connection.handOver (if start then c.subscribe Connection.transport (handleOf name) plan
      else c.build (handleOf name) plan)) = made at hmade ⊢
  obtain ⟨result, s'⟩ := made
  cases result <;> exact hmade

theorem changes_letConnectionGo (s : Session) (name node : Nat) :
    s.executor.Changes (s.letConnectionGo name node).executor := by
  have hdrop := s.changes_alter node () (f := fun c =>
    ((), c.dropHandle Connection.transport (handleOf name))) (.dropHandle (handleOf name))
    fun _ => rfl
  refine hdrop.trans (Executor.Change.aside _ _ fun i n' hn' => ?_).changes
  rw [List.getElem?_modify] at hn'
  obtain ⟨n, hn, rfl⟩ := Option.map_eq_some_iff.1 hn'
  refine ⟨n, hn, ?_⟩
  split
  · exact ⟨⟨[], rfl⟩, fun task => by cases task <;> rfl⟩
  · exact .refl n

theorem changes_receive (s : Session) (node : Nat) (count : Option Nat) :
    s.executor.Changes (s.receive node count).2.executor := by
  have htaken := s.executor.changes_onConnection node [] (f := fun c =>
      let taken := c.outbound.takeUpTo (count.getD c.outbound.entries.length)
      (taken.1, { c with outbound := taken.2 }))
    fun c => ⟨[.receive (count.getD c.outbound.entries.length)], rfl⟩
  exact htaken

/-! ## Steps -/

theorem changes_onConnection (s : Session) (name node : Nat) {n : Node}
    (hn : s.executor.node? node = some n) (step : ConnectionStep) :
    s.executor.Changes (s.onConnection name node n step).2.executor := by
  cases step with
  | share =>
    exact s.changes_alter node () (f := fun c => ((), c.addHandle (handleOf s.connections.length)))
      (.addHandle (handleOf s.connections.length)) fun _ => rfl
  | letGo => exact s.changes_letConnectionGo name node
  | look => exact .refl
  | close =>
    exact s.changes_alter node () (f := fun c => ((), c.close Connection.transport)) .close
      fun _ => rfl
  | shutdown =>
    have hclose := s.changes_alter node () (f := fun c => ((), c.close Connection.transport)) .close
      fun _ => rfl
    exact (hclose.trans (Executor.changes_runUntil _ _ _)).trans (Executor.changes_settle _)
  | subscribe plan calls start =>
    unfold onConnection
    dsimp only
    split
    · exact .refl
    · exact s.changes_subscribe name node _ start
  | deliver sid m =>
    exact s.changes_alter node false (f := fun c => c.deliver (sid.getD m.sid) m)
      (.deliver (sid.getD m.sid) m) fun _ => rfl
  | deliverMany sid subject count =>
    exact s.executor.changes_onConnection node 0 (exists_run_deliverMany sid subject count 0)
  | process m =>
    exact s.changes_alter node false (f := fun c => c.processInbound m) (.process m) fun _ => rfl
  | resolve key m =>
    exact s.changes_alter node false (f := fun c => c.resolveReply key m) (.resolve key m)
      fun _ => rfl
  | publish subject payload =>
    exact s.changes_alter node (.ok ()) (f := fun c => c.publish Connection.transport subject payload)
      (.publish subject payload) fun _ => rfl
  | request subject payload options =>
    have hrequest := s.changes_alter node (.error .connectionClosed)
      (f := fun c => c.request Connection.transport subject payload options)
      (.request subject payload options) fun _ => rfl
    unfold onConnection
    dsimp only
    split <;> exact hrequest
  | receive count =>
    unfold onConnection
    dsimp only
    split
    · exact .refl
    · exact s.changes_receive node count
  | closeReceiver =>
    unfold onConnection
    dsimp only
    split
    · exact .refl
    · exact s.changes_alter node () (f := fun c => ((), { c with outbound := c.outbound.close }))
        .closeReceiver fun _ => rfl
  | dropReceiver =>
    unfold onConnection
    dsimp only
    split
    · exact .refl
    · exact s.changes_alter node ()
        (f := fun c => ((), { c with outbound := c.outbound.dropReceiver })) .dropReceiver
        fun _ => rfl
  | loopback =>
    unfold onConnection
    dsimp only
    split
    · exact .refl
    · exact (Executor.Change.setNode s.executor hn [.addHandle routerHandle] rfl).changes

theorem changes_onSubscription (s : Session) (name node : Nat) (sid : Sid) {n : Node}
    (hn : s.executor.node? node = some n) {sub : Subscription}
    (hsub : n.connection.subscription? sid = some sub) (step : SubscriptionStep) :
    s.executor.Changes (s.onSubscription name node sid sub step).2.executor := by
  cases step with
  | start =>
    exact s.changes_alter node (.ok ()) (f := fun c => c.startSubscription Connection.transport sid)
      (.start sid) fun _ => rfl
  | unsubscribe =>
    exact s.changes_alter node (.ok ()) (f := fun c => c.unsubscribe Connection.transport sid)
      (.unsubscribe sid) fun _ => rfl
  | autoUnsubscribe max =>
    exact s.changes_alter node (.ok ())
      (f := fun c => c.autoUnsubscribe Connection.transport sid max) (.autoUnsubscribe sid max)
      fun _ => rfl
  | close =>
    exact s.changes_alter node ()
      (f := fun c => ((), c.closeSubscription Connection.transport sid)) (.closeSubscription sid)
      fun _ => rfl
  | enable =>
    exact s.changes_alter node false (f := fun c => c.enable sid) (.enable sid) fun _ => rfl
  | disable =>
    exact s.changes_alter node false (f := fun c => c.disable sid) (.disable sid) fun _ => rfl
  | letGo =>
    exact s.changes_alter node () (f := fun c => ((), c.letGo sid)) (.letGo sid) fun _ => rfl
  | setHandler handler =>
    exact s.changes_alter node () (f := fun c => ((), c.setHandler sid handler))
      (.setHandler sid handler) fun _ => rfl
  | look => exact .refl
  | deliver m =>
    -- the subscription was looked up in the very connection that the message is delivered to
    show s.executor.Changes (s.executor.onConnection node false fun c => c.deliverTo sub m).2
    unfold Executor.onConnection
    simp only [hn]
    refine (Executor.Change.setNode s.executor hn [.deliverTo sid m] ?_).changes
    simp only [Connection.run_cons, Connection.run_nil, Connection.perform, Connection.performOver,
      hsub]

theorem changes_onRequest (s : Session) (name node number : Nat) (r : Request)
    (step : RequestStep) :
    s.executor.Changes (s.onRequest name node number r step).2.executor := by
  cases step with
  | look => exact .refl
  | tryResult =>
    exact s.changes_alter node none (f := fun c => c.tryResult number) (.tryResult number)
      fun _ => rfl
  | await limit =>
    have hdone := s.executor.changes_runUntil
      (fun x => (x.node? node).any (·.connection.isAnswered number)) (s.executor.now + limit)
    have hlook := Executor.changes_onConnection (s.executor.runUntil
      (fun x => (x.node? node).any (·.connection.isAnswered number)) (s.executor.now + limit)).2
      node none (f := fun c => c.tryResult number) fun c => ⟨[.tryResult number], rfl⟩
    exact (hdone.trans hlook).trans (Executor.changes_settle _)
  | letGo => exact .refl

theorem changes_run (s : Session) (step : Step) :
    s.executor.Changes (s.run step).2.executor := by
  unfold run
  cases step with
  | connect o => exact s.changes_connect o
  | onConnection name step =>
    dsimp only
    split
    · exact .refl
    · split
      · exact .refl
      · next hn => exact s.changes_onConnection name _ hn step
  | onSubscription name step =>
    dsimp only
    split
    · exact .refl
    · split
      · exact .refl
      · next hsub =>
        obtain ⟨n, hn, hs⟩ := Option.bind_eq_some_iff.1 hsub
        exact s.changes_onSubscription name _ _ hn hs step
  | onRequest name step =>
    dsimp only
    split
    · exact .refl
    · split
      · exact .refl
      · exact s.changes_onRequest name _ _ _ step
  | countActive => exact .refl
  | settle => exact s.executor.changes_settle
  | advance span => exact s.executor.changes_advanceTo _

theorem changes_perform (s : Session) (step : Step) :
    s.executor.Changes (s.perform step).2.executor :=
  (s.changes_run step).trans (changes_drain _)

/-- What holds of an executor without connections, and is kept by every change, holds in every
session. -/
theorem invariant_run {P : Executor → Prop} (hempty : P {})
    (hchanges : ∀ {x x' : Executor}, x.Changes x' → P x → P x') (manual : Bool)
    (steps : List Step) : P (Session.after manual steps).executor := by
  have hgo : ∀ s : Session, P s.executor →
      P (steps.foldl (fun s step => (s.perform step).2) s).executor := by
    induction steps with
    | nil => exact fun _ h => h
    | cons step steps ih => exact fun s h => ih _ (hchanges (s.changes_perform step) h)
  exact hgo _ hempty

end Session

/-! ## Connections in sessions -/

namespace Connection

/-- What a run of a connection comes to, however it was opened. -/
def Reachable (c : Connection) : Prop :=
  ∃ (o : Session.Opening) (id : Nat) (clock : Instant) (handle : Nat) (moves : List Move),
    c = (o.connect id clock handle).run moves

theorem reachable_connect (o : Session.Opening) (id : Nat) (clock : Instant) (handle : Nat) :
    (o.connect id clock handle).Reachable := ⟨o, id, clock, handle, [], rfl⟩

theorem Reachable.run {c : Connection} (h : c.Reachable) (moves : List Move) :
    (c.run moves).Reachable := by
  obtain ⟨o, id, clock, handle, earlier, rfl⟩ := h
  exact ⟨o, id, clock, handle, earlier ++ moves, (run_append _ earlier moves).symm⟩

end Connection

/-- One step of a task is a few things done to its connection. -/
theorem Node.exists_run_stepTask (n : Node) (task : Task) :
    ∃ moves, (n.stepTask task).2.connection = n.connection.run moves := by
  cases task with
  | sweeper => exact ⟨[.stepSweeper], rfl⟩
  | worker sid i => exact ⟨[.stepWorker sid i], rfl⟩
  | router =>
    show ∃ moves, n.stepRouter.connection = n.connection.run moves
    unfold Node.stepRouter
    split
    · exact ⟨[], rfl⟩
    · next router _ =>
      split
      · exact ⟨[], rfl⟩
      · next o outbound hrecv =>
        have houtbound : (n.connection.outbound.takeUpTo 1).2 = outbound := by
          unfold Outbound.tryRecv at hrecv
          split at hrecv
          · next a rest hentries =>
            obtain ⟨-, rfl⟩ := Prod.mk.inj hrecv
            simp [Outbound.takeUpTo, hentries]
          · cases hrecv
        subst houtbound
        dsimp only
        split
        · next m _ => exact ⟨[.receive 1, .process m], rfl⟩
        · exact ⟨[.receive 1], rfl⟩

namespace Executor

/-- Every connection is what a run of it comes to. -/
def Reachable (x : Executor) : Prop :=
  ∀ (i : Nat) (n : Node), x.node? i = some n → n.connection.Reachable

variable {x x' : Executor}

theorem Reachable.setNode (h : x.Reachable) (i : Nat) {n : Node} (hn : n.connection.Reachable) :
    (x.setNode i n).Reachable := by
  unfold Executor.setNode
  split
  · exact h
  · intro j m hm
    have hm' : (x.nodes.set i n)[j]? = some m := hm
    rw [List.getElem?_set] at hm'
    split at hm'
    · split at hm'
      · obtain rfl := Option.some.inj hm'
        exact hn
      · cases hm'
    · exact h j m hm'

theorem Reachable.step (h : x.Reachable) (hstep : x.step = some x') : x'.Reachable := by
  unfold Executor.step at hstep
  split at hstep
  · next ref rest _ =>
    split at hstep
    · obtain rfl := Option.some.inj hstep
      exact h
    · next n hn =>
      obtain ⟨moves, hmoves⟩ := n.exists_run_stepTask ref.task
      split at hstep
      · obtain rfl := Option.some.inj hstep
        refine Reachable.setNode ?_ ref.node (hmoves ▸ (h ref.node n hn).run moves)
        split <;> exact h
      · obtain rfl := Option.some.inj hstep
        exact h
  · split at hstep
    · cases hstep
    · obtain rfl := Option.some.inj hstep
      exact h

theorem Reachable.change (h : x.Reachable) (hchange : x.Change x') : x'.Reachable := by
  cases hchange with
  | setNode hn moves hmoves => exact h.setNode _ (hmoves ▸ (h _ _ hn).run moves)
  | addNode o id clock handle =>
    intro i m hm
    have hm' : (x.nodes ++ [{ connection := o.connect id clock handle }])[i]? = some m := hm
    rw [List.getElem?_append] at hm'
    split at hm'
    · exact h i m hm'
    · obtain rfl := List.mem_singleton.1 (List.mem_of_getElem? hm')
      exact Connection.reachable_connect o id clock handle
  | step hstep => exact h.step hstep
  | setClock now =>
    intro i m hm
    have hm' : (x.nodes.map (Node.setClock · now))[i]? = some m := hm
    rw [List.getElem?_map] at hm'
    obtain ⟨n, hn, rfl⟩ := Option.map_eq_some_iff.1 hm'
    exact (h i n hn).run [.setClock now]
  | aside nodes halike =>
    intro i m hm
    obtain ⟨n, hn, ⟨moves, hmoves⟩, -⟩ := halike i m hm
    exact hmoves ▸ (h i n hn).run moves

theorem Reachable.changes (h : x.Reachable) (hchanges : x.Changes x') : x'.Reachable := by
  induction hchanges with
  | refl => exact h
  | tail _ hstep ih => exact ih.change hstep

end Executor

namespace Session

/-- In every session, whatever its steps, every connection is what a run of it comes to. -/
theorem reachable_run (manual : Bool) (steps : List Step) :
    (Session.after manual steps).executor.Reachable :=
  invariant_run (fun i n hn => by simp [Executor.node?] at hn)
    (fun hchanges hx => hx.changes hchanges) manual steps

end Session

end PubSub
