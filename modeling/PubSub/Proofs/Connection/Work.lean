import Mathlib.Logic.Relation
import PubSub.Connection.Run
import PubSub.Proofs.Connection.Evolve

/-!
# What a worker can do to its subscription

A step of a worker is one of a few things (`Record.Works`), before or after which the subscription
may evolve: the handler acts before the worker goes on, and the last delivery under a ceiling closes
the subscription before the worker ends.

## Main results

- `Connection.steps_stepWorker` — a step of a worker, over any transport that only drifts
- `Connection.steps_performOver` — whatever is done to a connection, apart from new subscriptions
-/

namespace PubSub

/-- What a worker is at that has the receiving end of the queue. -/
def Worker.Phase.Receives : Worker.Phase → Prop
  | .receiving | .handling _ => True
  | .starting | .waiting | .finished => False

theorem Worker.hasReceiver_iff (w : Worker) : w.hasReceiver = true ↔ w.phase.Receives := by
  unfold Worker.hasReceiver Worker.Phase.Receives
  cases w.phase <;> simp

/-- A worker that was not told to end can take a message, leaving the rest of the queue. -/
structure Subscription.Takes (s : Subscription) (i : Nat) (d : Delivery) (q : Dispatch Delivery) :
    Prop where
  /-- It waits for a message. -/
  worker : ∃ w, s.workers[i]? = some w ∧ w.phase = .receiving ∧ w.cancelled = false
  /-- The message is the oldest one. -/
  entries : s.queue.entries = d :: q.entries

theorem Subscription.Takes.phase? {s : Subscription} {i : Nat} {d : Delivery}
    {q : Dispatch Delivery} (h : s.Takes i d q) : s.phase? i = some .receiving := by
  obtain ⟨w, hw, hp, -⟩ := h.worker
  exact Subscription.phase?_eq_some_iff.2 ⟨w, hw, hp⟩

/-- The subscription when a worker that had the receiving end has ended. -/
def Subscription.exited (s : Subscription) (i : Nat) : Subscription :=
  let s := s.setPhase i .finished
  if s.valid then s else { s with queue := s.queue.close }

@[simp] theorem Subscription.valid_exited (s : Subscription) (i : Nat) :
    (s.exited i).valid = s.valid := by
  unfold Subscription.exited
  dsimp only
  split <;> rfl

@[simp] theorem Subscription.workers_exited (s : Subscription) (i : Nat) :
    (s.exited i).workers = (s.setPhase i .finished).workers := by
  unfold Subscription.exited
  dsimp only
  split <;> rfl

@[simp] theorem Subscription.sid_exited (s : Subscription) (i : Nat) : (s.exited i).sid = s.sid := by
  unfold Subscription.exited
  dsimp only
  split <;> rfl

/-- The subscription when a worker began an invocation. -/
def Subscription.began (s : Subscription) (i : Nat) (invocation : Invocation)
    (q : Dispatch Delivery) : Subscription :=
  ({ s with queue := q, delivered := s.delivered + 1 } : Subscription).setPhase i
    (.handling invocation)

/-- How many steps an action takes. -/
def Action.steps : Action → Nat
  | .yield times => times + 1
  | _ => 1

/-- How many steps a script takes. -/
def Action.scriptSteps : List Action → Nat
  | [] => 0
  | action :: rest => action.steps + scriptSteps rest

/-- How many steps an invocation still takes, unless its handler fails; the last one ends it. -/
def Invocation.steps (invocation : Invocation) : Nat := Action.scriptSteps invocation.script + 1

/-- The same invocation, one step later. -/
structure Invocation.Next (invocation invocation' : Invocation) : Prop where
  delivery : invocation'.delivery = invocation.delivery
  ceiling : invocation'.ceiling = invocation.ceiling
  count : invocation'.count = invocation.count
  steps : invocation'.steps + 1 = invocation.steps

/-- What a worker does. -/
inductive Record.Works (i : Nat) : Record → Record → Prop where
  /-- It gets hold of the receiving end, or lines up for it, or ends. -/
  | lineUp {v : Record} {w : Worker} (hw : v.sub.workers[i]? = some w)
    (hp : w.phase = .starting ∨ w.phase = .waiting) :
    Works i v (v.update fun s => s.setPhase i (s.lineUp i w))
  /-- It ends, having no invocation at work unless the subscription is invalid. -/
  | exit {v : Record} (h : v.sub.valid = false ∨ v.sub.phase? i = some .receiving) :
    Works i v (v.update fun s => s.exited i)
  /-- It takes a message and drops it, for there is no handler. -/
  | discard {v : Record} {d : Delivery} {q : Dispatch Delivery} (h : v.sub.Takes i d q)
    (hh : v.sub.handler = none) :
    Works i v (((v.update fun s => { s with queue := q }).tell
      (.taken v.sub.sid d.message)).tell (.dropped v.sub.sid d.message .noHandler))
  /-- It takes a message and loses it. -/
  | waste {v : Record} {d : Delivery} {q : Dispatch Delivery} (h : v.sub.Takes i d q)
    (hl : v.sub.attached = false ∨ v.sub.max ≠ 0 ∧ v.sub.max ≤ v.sub.delivered) :
    Works i v ((v.update fun s => { s with queue := q }).tell (.taken v.sub.sid d.message))
  /-- It takes a message and gives it to the handler. -/
  | begin {v : Record} {d : Delivery} {q : Dispatch Delivery} {handler : Handler}
    {invocation : Invocation} (h : v.sub.Takes i d q) (hh : v.sub.handler = some handler)
    (ha : v.sub.attached = true) (hm : v.sub.max = 0 ∨ v.sub.delivered < v.sub.max)
    (hceiling : invocation.ceiling = v.sub.max) (hcount : invocation.count = v.sub.delivered + 1) :
    Works i v (((v.update fun s => s.began i invocation q).tell
      (.taken v.sub.sid d.message)).tell (.began v.sub.sid handler d))
  /-- Its handler goes on. -/
  | goOn {v : Record} {invocation invocation' : Invocation}
    (h : v.sub.phase? i = some (.handling invocation))
    (hnext : invocation.Next invocation') :
    Works i v (v.update fun s => s.setPhase i (.handling invocation'))
  /-- Its handler is done, and the delivery was not the last one under the ceiling. -/
  | finish {v : Record} {invocation : Invocation}
    (h : v.sub.phase? i = some (.handling invocation))
    (hm : ¬(invocation.ceiling ≠ 0 ∧ invocation.count = invocation.ceiling)) :
    Works i v (v.update fun s => s.setPhase i .receiving)

/-- What becomes of a subscription in the long run, when only the `active` workers go on. -/
abbrev Record.Steps (strict : Prop) (active : Nat → Prop) : Record → Record → Prop :=
  Relation.ReflTransGen fun v v' => v.Evolves strict v' ∨ ∃ i, active i ∧ v.Works i v'

namespace Record

variable {strict : Prop} {active : Nat → Prop} {v v' v'' : Record} {i : Nat}

theorem Evolves.steps (h : v.Evolves strict v') : v.Steps strict active v' :=
  .single (Or.inl h)

theorem Works.steps (h : v.Works i v') (hi : active i) : v.Steps strict active v' :=
  .single (Or.inr ⟨i, hi, h⟩)

end Record

/-- What becomes of the subscriptions in the long run, when only the `active` workers go on. -/
abbrev Connection.Steps (strict : Sid → Prop) (active : Sid → Nat → Prop) :
    Connection → Connection → Prop :=
  Connection.Each fun sid => Record.Steps (strict sid) (active sid)

namespace Connection

variable {strict : Sid → Prop} {active : Sid → Nat → Prop} {c c' c'' : Connection} {t : Transport}
variable {sid : Sid} {i : Nat}

theorem Evolves.steps (h : c.Evolves strict c') : c.Steps strict active c' :=
  Each.mono (fun _ _ _ h => h.steps) h

theorem Steps.refl (c : Connection) : c.Steps strict active c := (Evolves.refl c).steps

theorem Steps.trans (h : c.Steps strict active c') (h' : c'.Steps strict active c'') :
    c.Steps strict active c'' :=
  Each.trans (fun _ _ _ _ h h' => h.trans h') h h'

theorem Alters.steps {v v' : Record} (h : Alters sid c v c' v')
    (hs : v.Steps (strict sid) (active sid) v') : c.Steps strict active c' :=
  h.each (fun _ _ => .refl) hs

theorem alters_setPhase {v : Record} (hv : c.record? sid = some v) (i : Nat)
    (phase : Worker.Phase) :
    Alters sid c v (c.setPhase sid i phase) (v.update fun s => s.setPhase i phase) :=
  (Alters.refl hv).modify fun _ h => h

theorem alters_exitWorker {v : Record} (hv : c.record? sid = some v) (i : Nat) :
    Alters sid c v (c.exitWorker sid i) (v.update fun s => s.exited i) :=
  (Alters.refl hv).modify fun s h => (s.sid_exited i).trans h

/-- Closing the subscription and ending the worker. -/
theorem steps_closeSubscription_exitWorker (ht : t.Drifts) (hactive : active sid i) {v : Record}
    (hv : c.record? sid = some v) :
    c.Steps strict active ((c.closeSubscription t sid).exitWorker sid i) := by
  obtain ⟨v', hv', -, hinvalid, -⟩ := closeSubscription_eq ht hv
  have hclose : c.Steps strict active (c.closeSubscription t sid) :=
    (drifts_closeSubscription ht c sid).evolves.steps
  exact hclose.trans ((alters_exitWorker hv' i).steps
    ((Record.Works.exit (Or.inl hinvalid)).steps hactive))

/-- The connection when a message was taken, before anything came of it. -/
theorem alters_take {s : Subscription} (hs : c.subscription? s.sid = some s)
    (q : Dispatch Delivery) (m : Message) :
    Alters s.sid c ⟨s, c.table.contains s.sid, c.story s.sid⟩
      ((c.modifySubscription s.sid fun _ => { s with queue := q }).log (.taken s.sid m))
      ((Record.update ⟨s, c.table.contains s.sid, c.story s.sid⟩ fun s =>
        { s with queue := q }).tell (.taken s.sid m)) :=
  ((Alters.of_subscription? hs).replace (s := { s with queue := q }) rfl).log
    (e := .taken s.sid m) rfl

theorem claim_eq_none {s : Subscription} (h : s.claim s.max = none) :
    s.max ≠ 0 ∧ s.max ≤ s.delivered := by
  unfold Subscription.claim at h
  split at h
  · cases h
  · next hno =>
    obtain ⟨hmax, hle⟩ := not_or.1 hno
    exact ⟨hmax, Nat.le_of_not_lt hle⟩

theorem claim_eq_some {s s' : Subscription} {count : Nat} (h : s.claim s.max = some (count, s')) :
    (s.max = 0 ∨ s.delivered < s.max) ∧ count = s.delivered + 1 ∧
      s' = { s with delivered := s.delivered + 1 } := by
  unfold Subscription.claim at h
  split at h
  · next hroom =>
    cases h
    exact ⟨hroom, rfl, rfl⟩
  · cases h

/-- The handler is given a message. -/
theorem alters_beginInvocation {v v' : Record} (h : Alters sid c v c' v') (i : Nat)
    (handler : Handler) (d : Delivery) (count : Nat) :
    Alters sid c v (c'.beginInvocation v'.sub i handler d count)
      ((v'.update fun s => s.setPhase i (.handling {
        delivery := d
        script := handler.script d.message.payload
        ceiling := v'.sub.max
        count := count })).tell (.began sid handler d)) := by
  obtain rfl : v'.sub.sid = sid := sid_of_record? h.after
  have hphase := h.trans (alters_setPhase h.after i (.handling {
    delivery := d
    script := handler.script d.message.payload
    ceiling := v'.sub.max
    count := count }))
  have hcounts := hphase.of_eq { c'.setPhase v'.sub.sid i (.handling {
    delivery := d
    script := handler.script d.message.payload
    ceiling := v'.sub.max
    count := count }) with counts := c'.counts.handed } rfl rfl rfl rfl
  exact (hcounts.log (e := .began v'.sub.sid handler d) rfl).remark
    (e := .noted v'.sub.sid (.seen handler.name d)) rfl

/-- Whatever a worker does with a message it has taken. -/
theorem steps_process (ht : t.Drifts) (hactive : active sid i) {v v₁ : Record} {c₁ : Connection}
    {d : Delivery}
    {q : Dispatch Delivery} (htakes : v.sub.Takes i d q) (htake : Alters sid c v c₁ v₁)
    (hv₁ : v₁ = (v.update fun s => { s with queue := q }).tell (.taken v.sub.sid d.message)) :
    c.Steps strict active (c₁.process t v₁.sub i d) := by
  subst hv₁
  obtain rfl : v.sub.sid = sid := sid_of_record? htake.before
  unfold process
  split
  · next hh =>
    have hdrop := (htake.of_eq { c₁ with counts := c₁.counts.dropped .noHandler }
      rfl rfl rfl rfl).log (e := .dropped v.sub.sid d.message .noHandler) rfl
    exact hdrop.steps ((Record.Works.discard htakes hh).steps hactive)
  · next handler hh =>
    split
    · next ha =>
      -- the connection is gone, so the worker ends
      have hdetached : v.sub.attached = false := by simpa using ha
      have hwaste : c.Steps strict active c₁ :=
        htake.steps ((Record.Works.waste htakes (Or.inl hdetached)).steps hactive)
      exact hwaste.trans ((alters_exitWorker htake.after i).steps
        (Record.Works.steps (.exit (Or.inr htakes.phase?)) hactive))
    · next ha =>
      have hattached : v.sub.attached = true := by simpa using ha
      split
      · next hclaim =>
        -- the ceiling is reached, so the subscription and the worker end
        have hreached := claim_eq_none hclaim
        have hwaste : c.Steps strict active c₁ :=
          htake.steps ((Record.Works.waste htakes (Or.inr hreached)).steps hactive)
        exact hwaste.trans (steps_closeSubscription_exitWorker ht hactive htake.after)
      · next count s' hclaim =>
        obtain ⟨hroom, rfl, rfl⟩ := claim_eq_some hclaim
        have hclaimed := htake.replace
          (s := { v.sub with queue := q, delivered := v.sub.delivered + 1 }) rfl
        have hbegun := alters_beginInvocation hclaimed i handler d (v.sub.delivered + 1)
        exact hbegun.steps
          ((Record.Works.begin htakes hh hattached hroom rfl rfl).steps hactive)

/-- A worker that was not told to end takes the next message, or ends when there will be none. -/
theorem steps_takeNext (ht : t.Drifts) (hactive : active sid i) {s : Subscription}
    (hs : c.subscription? sid = some s)
    (hw : ∃ w, s.workers[i]? = some w ∧ w.phase = .receiving ∧ w.cancelled = false) :
    c.Steps strict active (c.takeNext t s i) := by
  obtain rfl : s.sid = sid := sid_of_subscription? hs
  have hv := record?_of_subscription? hs
  unfold takeNext
  cases hq : s.queue.entries with
  | nil =>
    obtain ⟨w, hw, hp, -⟩ := hw
    have hphase : s.phase? i = some .receiving :=
      Subscription.phase?_eq_some_iff.2 ⟨w, hw, hp⟩
    have hexit : c.Steps strict active (c.exitWorker s.sid i) :=
      (alters_exitWorker hv i).steps ((Record.Works.exit (Or.inr hphase)).steps hactive)
    simp only [Dispatch.recv, hq]
    split
    · next heq => split at heq <;> cases heq
    · exact hexit
    · exact .refl c
  | cons d rest =>
    have hrecv : s.queue.recv =
        (.entry d, { s.queue with entries := rest, pending := s.queue.pending - 1 }) := by
      simp only [Dispatch.recv, hq]
    rw [hrecv]
    refine steps_process ht hactive ⟨hw, hq⟩ (alters_take hs _ d.message) rfl

/-! ## Invocations -/

theorem alters_reportFailure {v v' : Record} (h : Alters sid c v c' v') (s : Subscription)
    (f : Failure) : Alters sid c v (c'.reportFailure s f) v' := by
  have hwarn := (h.remark (e := .warned s.sid s.subject f) rfl).of_eq
    { c'.log (.warned s.sid s.subject f) with counts := c'.counts.failed f.kind }
    rfl rfl rfl rfl
  unfold reportFailure
  dsimp only
  split
  · exact hwarn
  · exact hwarn.remark (e := .observed s.sid f) rfl
  · exact hwarn.remark (e := .hookFailed s.sid _) rfl

theorem alters_endInvocation {v : Record} (hv : c.record? sid = some v) (s : Subscription)
    (failure : Option Failure) : Alters sid c v (c.endInvocation s failure) v := by
  have hended := (Alters.refl hv).remark (e := .ended s.sid failure) rfl
  cases failure with
  | some f => exact alters_reportFailure hended s f
  | none => exact hended

theorem steps_finishInvocation (ht : t.Drifts) (hactive : active sid i) {v : Record}
    (hv : c.record? sid = some v) {s : Subscription} (hs : s.sid = sid) {invocation : Invocation}
    (hphase : v.sub.phase? i = some (.handling invocation)) (failure : Option Failure) :
    c.Steps strict active (c.finishInvocation t s i invocation failure) := by
  subst hs
  have hended := alters_endInvocation hv s failure
  have hstart : c.Steps strict active (c.endInvocation s failure) := hended.steps .refl
  unfold finishInvocation
  dsimp only
  split
  · exact hstart.trans (steps_closeSubscription_exitWorker ht hactive hended.after)
  · next hm =>
    exact hstart.trans ((alters_setPhase hended.after i .receiving).steps
      (Record.Works.steps (.finish hphase hm) hactive))

/-- What a worker is at stays through what its handler does. -/
theorem phase?_of_evolves (h : c.Evolves strict c') {v : Record} (hv : c.record? sid = some v)
    {phase : Worker.Phase} (hphase : v.sub.phase? i = some phase) :
    ∃ v', c'.record? sid = some v' ∧ v.Evolves (strict sid) v' ∧ v'.sub.phase? i = some phase := by
  obtain ⟨v', hv', he⟩ := h.record sid v hv
  exact ⟨v', hv', he, he.phase?_eq_some hphase⟩

theorem fst_respondOrFail (t : Transport) (c : Connection) (d : Delivery) (payload : ByteArray)
    (rest : List Action) :
    (c.respondOrFail t d payload rest).1 = .next rest ∨
      ∃ failure, (c.respondOrFail t d payload rest).1 = .over failure := by
  unfold respondOrFail
  split
  · exact Or.inl rfl
  · exact Or.inr ⟨_, rfl⟩

/-- What an action leaves of a script takes one step less than before. -/
theorem steps_act (t : Transport) (c : Connection) (sid : Sid) (d : Delivery) (action : Action)
    (rest : List Action) :
    match (c.act t sid d action rest).1 with
    | .next rest' | .pause rest' | .sleep _ rest' =>
      Action.scriptSteps rest' + 1 = Action.scriptSteps (action :: rest)
    | .over _ => True := by
  have hone : ∀ n : Nat, n + 1 = 1 + n := fun n => Nat.add_comm n 1
  cases action with
  | fail | panic => trivial
  | respondStrict payload =>
    rcases fst_respondOrFail t c d payload rest with heq | ⟨failure, heq⟩
    · simp only [act, heq]
      exact hone _
    · simp only [act, heq]
  | respondUpper =>
    rcases fst_respondOrFail t c d (Text.upperAscii d.message.payload) rest with
      heq | ⟨failure, heq⟩
    · simp only [act, heq]
      exact hone _
    · simp only [act, heq]
  | yield times =>
    cases times with
    | zero => exact hone _
    | succ times =>
      simp only [act, Action.scriptSteps, Action.steps]
      omega
  | _ => exact hone _

/-- A step of an invocation: its handler acts, and then either has more to do or is done. -/
theorem stepInvocation_eq (ht : t.Drifts) (s : Subscription) (i : Nat) (invocation : Invocation)
    (h : strict s.sid → invocation.script.head? = some .enable →
      ∀ s', c.subscription? s.sid = some s' → s'.held = true → s'.valid = true) :
    ∃ c₁, (c₁ = c ∨ ∃ action rest, invocation.script = action :: rest ∧
        c₁ = (c.act t s.sid invocation.delivery action rest).2) ∧ c.Evolves strict c₁ ∧
      ((∃ invocation', invocation.Next invocation' ∧
          (c.stepInvocation t s i invocation).2 = c₁.setPhase s.sid i (.handling invocation')) ∨
        ∃ failure,
          (c.stepInvocation t s i invocation).2 = c₁.finishInvocation t s i invocation failure) := by
  unfold stepInvocation
  split
  · exact ⟨c, Or.inl rfl, .refl c, Or.inr ⟨none, rfl⟩⟩
  · next action rest hscript =>
    have hact : c.Evolves strict (c.act t s.sid invocation.delivery action rest).2 := by
      refine evolves_act ht c s.sid _ action rest fun haction hstrict => h hstrict ?_
      rw [hscript, haction]
      rfl
    have hsteps := steps_act t c s.sid invocation.delivery action rest
    have hnext : ∀ (rest' : List Action) (wakeAt : Option Instant),
        Action.scriptSteps rest' + 1 = Action.scriptSteps (action :: rest) →
          invocation.Next { invocation with script := rest', wakeAt := wakeAt } := by
      intro rest' wakeAt h
      refine ⟨rfl, rfl, rfl, ?_⟩
      rw [Invocation.steps, Invocation.steps, hscript, h]
    refine ⟨_, Or.inr ⟨action, rest, hscript, rfl⟩, hact, ?_⟩
    dsimp only
    split
    · next rest' c₁ heq =>
      rw [heq] at hsteps ⊢
      exact Or.inl ⟨_, hnext rest' none hsteps, rfl⟩
    · next rest' c₁ heq =>
      rw [heq] at hsteps ⊢
      exact Or.inl ⟨_, hnext rest' none hsteps, rfl⟩
    · next wakeAt rest' c₁ heq =>
      rw [heq] at hsteps ⊢
      exact Or.inl ⟨_, hnext rest' (some wakeAt) hsteps, rfl⟩
    · next failure c₁ heq =>
      rw [heq]
      exact Or.inr ⟨failure, rfl⟩

theorem steps_stepInvocation (ht : t.Drifts) (hactive : active sid i) {s : Subscription}
    (hs : c.subscription? sid = some s) {invocation : Invocation}
    (hphase : s.phase? i = some (.handling invocation))
    (h : strict sid → s.held = true → invocation.script.head? = some .enable → s.valid = true) :
    c.Steps strict active (c.stepInvocation t s i invocation).2 := by
  obtain rfl : s.sid = sid := sid_of_subscription? hs
  have hv := record?_of_subscription? hs
  have henables : strict s.sid → invocation.script.head? = some .enable →
      ∀ s', c.subscription? s.sid = some s' → s'.held = true → s'.valid = true := by
    intro hstrict hscript s' hs' hheld
    rw [hs] at hs'
    obtain rfl := Option.some.inj hs'
    exact h hstrict hheld hscript
  obtain ⟨c₁, -, he, hnext⟩ := stepInvocation_eq ht s i invocation henables
  obtain ⟨v₁, hv₁, -, hphase₁⟩ := phase?_of_evolves he hv hphase
  rcases hnext with ⟨invocation', hcontinues, heq⟩ | ⟨failure, heq⟩
  · rw [heq]
    exact he.steps.trans ((alters_setPhase hv₁ i _).steps
      (Record.Works.steps (.goOn hphase₁ hcontinues) hactive))
  · rw [heq]
    exact he.steps.trans (steps_finishInvocation ht hactive hv₁ rfl hphase₁ failure)

/-! ## Steps -/

/-- One step of a worker. A `strict` subscription is valid when its handler starts a worker. -/
theorem steps_stepWorker (ht : t.Drifts) (c : Connection) (hactive : active sid i)
    (h : ∀ s, c.subscription? sid = some s → strict sid → c.enablesNext s i = true →
      s.valid = true) : c.Steps strict active (c.stepWorker t sid i).2 := by
  unfold stepWorker
  cases hs : c.subscription? sid with
  | none => exact .refl c
  | some s =>
    have hv := record?_of_subscription? hs
    dsimp only
    cases hw : s.workers[i]? with
    | none => exact .refl c
    | some w =>
      dsimp only
      split
      · exact .refl c
      · next hready =>
        have hlineUp : w.phase = .starting ∨ w.phase = .waiting →
            c.Steps strict active (c.setPhase sid i (s.lineUp i w)) := fun hp =>
          (alters_setPhase hv i _).steps (Record.Works.steps (.lineUp hw hp) hactive)
        cases hp : w.phase with
        | starting => exact hlineUp (Or.inl hp)
        | waiting => exact hlineUp (Or.inr hp)
        | finished => exact .refl c
        | receiving =>
          dsimp only
          split
          · have hphase : s.phase? i = some .receiving :=
              Subscription.phase?_eq_some_iff.2 ⟨w, hw, hp⟩
            exact (alters_exitWorker hv i).steps
              (Record.Works.steps (.exit (Or.inr hphase)) hactive)
          · next hc => exact steps_takeNext ht hactive hs ⟨w, hw, hp, by simpa using hc⟩
        | handling invocation =>
          have hphase : s.phase? i = some (.handling invocation) :=
            Subscription.phase?_eq_some_iff.2 ⟨w, hw, hp⟩
          refine steps_stepInvocation ht hactive hs hphase fun hstrict hheld hscript => h s hs hstrict ?_
          obtain ⟨rest, hrest⟩ := List.head?_eq_some_iff.1 hscript
          have hgo : s.isReady i c.clock = true := by simpa using hready
          simp [enablesNext, hheld, hgo, hw, Worker.invocation?, hp, hrest]

/-- Whatever is done to a connection that makes no subscription. A `strict` subscription is valid
when a worker of it is started as such. -/
theorem steps_performOver (ht : t.Drifts) (c : Connection) (move : Move)
    (hactive : ∀ sid i, move = .stepWorker sid i → active sid i)
    (hbuild : ∀ handle plan, move ≠ .build handle plan ∧ move ≠ .subscribe handle plan)
    (h : ∀ sid, strict sid → c.isEnabling sid move = true →
      ∀ s, c.subscription? sid = some s → s.valid = true) :
    c.Steps strict active (c.performOver t move) := by
  have hother : ∀ c' : Connection, c'.issuedSids = c.issuedSids →
      c'.subscriptions = c.subscriptions → c'.table = c.table → c'.journal = c.journal →
      c.Steps strict active c' :=
    fun c' hi hs ht hj => (Drifts.evolves (drifts_of_eq hi hs ht hj)).steps
  cases move with
  | build handle plan => exact absurd rfl (hbuild handle plan).1
  | subscribe handle plan => exact absurd rfl (hbuild handle plan).2
  | letGo sid => exact (evolves_hold c sid false).steps
  | start sid => exact (evolves_startSubscription ht c sid).steps
  | unsubscribe sid => exact (drifts_closeSubscription ht c sid).evolves.steps
  | autoUnsubscribe sid max => exact (evolves_autoUnsubscribe ht c sid max).steps
  | closeSubscription sid => exact (drifts_closeSubscription ht c sid).evolves.steps
  | enable sid =>
    exact (evolves_enable c sid fun hstrict => h sid hstrict (by simp [isEnabling])).steps
  | disable sid => exact (drifts_disable c sid).evolves.steps
  | setHandler sid handler => exact (evolves_setHandler c sid handler).steps
  | deliver sid m => exact (drifts_deliver c sid m).evolves.steps
  | deliverTo sid m =>
    simp only [performOver]
    split
    · next s hs => exact (drifts_deliverTo hs m).evolves.steps
    · exact .refl c
  | process m => exact (drifts_processInbound c m).evolves.steps
  | publish subject payload =>
    exact (drifts_publishFor ht c none subject payload).evolves.steps
  | request subject payload options => exact (drifts_request ht c subject payload options).evolves.steps
  | dropHandle handle =>
    have hdrop : c.Drifts (fun _ => True)
        { c with handles := c.handles.filter (· != handle) } := drifts_of_eq rfl rfl rfl rfl
    show c.Steps strict active (c.dropHandle t handle)
    unfold dropHandle
    dsimp only
    split
    · exact (hdrop.trans (drifts_close ht _)).evolves.steps
    · exact hdrop.evolves.steps
  | close => exact (drifts_close ht c).evolves.steps
  | stepWorker sid i =>
    refine steps_stepWorker ht c (hactive sid i rfl) fun s hs hstrict henables =>
      h sid hstrict ?_ s hs
    simp [isEnabling, hs, henables]
  | resolve | tryResult | addHandle | receive | closeReceiver | dropReceiver | stepSweeper
  | setClock => exact hother _ rfl rfl rfl rfl

end Connection

end PubSub
