import PubSub.Connection.Worker
import PubSub.Proofs.Connection.Drift

/-!
# What an operation can do to a subscription

Besides drifting, a subscription may get another handler, another ceiling or another worker, and
change hands. None of this moves a worker on: those there are stay at what they are at, and new ones
have done nothing yet (`Record.Evolves.phase?`).

## Main results

- `Connection.evolves_startSubscription`, `Connection.evolves_autoUnsubscribe` — the operations on a
  subscription, over any transport that only drifts
- `Connection.evolves_act` — one action of a handler
-/

namespace PubSub

/-- What the worker with a number is at. -/
def Subscription.phase? (s : Subscription) (i : Nat) : Option Worker.Phase :=
  (s.workers[i]?).map (·.phase)

theorem Subscription.phase?_eq_some_iff {s : Subscription} {i : Nat} {p : Worker.Phase} :
    s.phase? i = some p ↔ ∃ w, s.workers[i]? = some w ∧ w.phase = p :=
  Option.map_eq_some_iff

theorem Worker.invocation?_eq_some_iff {w : Worker} {invocation : Invocation} :
    w.invocation? = some invocation ↔ w.phase = .handling invocation := by
  obtain ⟨cancelled, phase⟩ := w
  cases phase <;> simp [invocation?]

/-- What an operation makes of a subscription; if `strict`, a worker is started as such only while
the subscription is valid. -/
inductive Record.Evolves (strict : Prop) : Record → Record → Prop where
  | drift {v v' : Record} (h : v.Drifts True v') : Evolves strict v v'
  | trans {v v' v'' : Record} (h : Evolves strict v v') (h' : Evolves strict v' v'') :
    Evolves strict v v''
  | hold (v : Record) (held : Bool) : Evolves strict v (v.update fun s => { s with held := held })
  | setHandler (v : Record) (handler : Handler) :
    Evolves strict v ((v.update fun s => { s with handler := some handler }).tell
      (.handlerSet v.sub.sid handler))
  /-- It gets a worker, unless one runs. -/
  | enable (v : Record) (stopping : Bool) (h : strict → v.sub.valid = true) :
    Evolves strict v (v.update fun s => (s.enable stopping).2)
  /-- It gets a ceiling that is not reached. -/
  | setCeiling (v : Record) (max : Nat) (h : max = 0 ∨ v.sub.delivered < max) :
    Evolves strict v ((v.update fun s => { s with max := max }).tell (.ceilingSet v.sub.sid max))
  /-- It gets a ceiling that is reached already, and ends. -/
  | exhaust {v v' : Record} (max : Nat)
    (hd : ((v.update fun s => { s with max := max }).tell (.ceilingSet v.sub.sid max)).Drifts
      True v')
    (hinvalid : v'.sub.valid = false) : Evolves strict v v'

namespace Record

variable {strict strict' : Prop} {v v' v'' : Record}

theorem Evolves.refl (strict : Prop) (v : Record) : v.Evolves strict v := .drift (.refl True v)

theorem Drifts.phase? {calm : Prop} (h : v.Drifts calm v') (i : Nat) :
    v'.sub.phase? i = v.sub.phase? i := by
  have := congrArg (fun l => l[i]?) h.phases
  simpa [Subscription.phase?] using this

theorem workers_enable (s : Subscription) (stopping : Bool) :
    (s.enable stopping).2 = s ∨ (s.isStarted = false ∧ (s.enable stopping).2 = { s with
      workers := s.workers ++ [{ cancelled := stopping }]
      current := some s.workers.length }) := by
  unfold Subscription.enable
  cases hs : s.isStarted with
  | true => exact Or.inl rfl
  | false => exact Or.inr ⟨rfl, rfl⟩

/-- No worker moves on, and a new one has done nothing yet. -/
theorem Evolves.phase? (h : v.Evolves strict v') (i : Nat) :
    v'.sub.phase? i = v.sub.phase? i ∨
      v.sub.phase? i = none ∧ v'.sub.phase? i = some .starting := by
  induction h with
  | drift h => exact Or.inl (h.phase? i)
  | trans _ _ ih ih' =>
    rcases ih' with h' | ⟨hn', hs'⟩
    · rw [h']
      exact ih
    · rcases ih with h | ⟨-, hs⟩
      · exact Or.inr ⟨h ▸ hn', hs'⟩
      · rw [hn'] at hs
        cases hs
  | hold | setHandler | setCeiling => exact Or.inl rfl
  | enable v stopping _ =>
    rcases workers_enable v.sub stopping with heq | ⟨-, heq⟩
    · exact Or.inl (by rw [sub_update, heq])
    · rw [sub_update, heq]
      simp only [Subscription.phase?, List.getElem?_append]
      split
      · exact Or.inl rfl
      · next hlt =>
        have hout : v.sub.workers[i]? = none := List.getElem?_eq_none (Nat.le_of_not_lt hlt)
        cases hd : i - v.sub.workers.length with
        | zero => exact Or.inr ⟨by rw [hout]; rfl, rfl⟩
        | succ n => exact Or.inl (by rw [hout]; rfl)
  | exhaust max hd _ => exact Or.inl (hd.phase? i)

/-- A worker that is there stays at what it is at. -/
theorem Evolves.phase?_eq_some (h : v.Evolves strict v') {i : Nat} {p : Worker.Phase}
    (hp : v.sub.phase? i = some p) : v'.sub.phase? i = some p := by
  rcases h.phase? i with heq | ⟨hnone, -⟩
  · exact heq.trans hp
  · rw [hp] at hnone
    cases hnone

end Record

/-- What an operation makes of the subscriptions; a worker of a `strict` one is started as such only
while that subscription is valid. -/
abbrev Connection.Evolves (strict : Sid → Prop) : Connection → Connection → Prop :=
  Connection.Each fun sid => Record.Evolves (strict sid)

namespace Connection

variable {strict : Sid → Prop} {c c' c'' : Connection} {t : Transport} {sid : Sid}

theorem Drifts.evolves (h : c.Drifts (fun _ => True) c') : c.Evolves strict c' :=
  Each.mono (fun _ _ _ h => .drift h) h

theorem Evolves.refl (c : Connection) : c.Evolves strict c := (Drifts.refl c).evolves

theorem Evolves.trans (h : c.Evolves strict c') (h' : c'.Evolves strict c'') :
    c.Evolves strict c'' :=
  Each.trans (fun _ _ _ _ h h' => h.trans h') h h'

/-- One record evolves and the others stay. -/
theorem Alters.evolves {v v' : Record} (h : Alters sid c v c' v')
    (he : v.Evolves (strict sid) v') : c.Evolves strict c' :=
  h.each (fun sid v => .refl (strict sid) v) he

theorem evolves_log (c : Connection) {e : Event} (h : e.sid? = none) :
    c.Evolves strict (c.log e) := (drifts_log c h).evolves

/-! ## Handler, ceiling, worker -/

theorem evolves_hold (c : Connection) (sid : Sid) (held : Bool) :
    c.Evolves strict (c.modifySubscription sid fun s => { s with held := held }) := by
  have hf : ∀ s : Subscription, s.sid = sid → ({ s with held := held } : Subscription).sid = sid :=
    fun _ hs => hs
  cases hs : c.subscription? sid with
  | none =>
    refine .of_same (fun sid v => .refl (strict sid) v) rfl fun other => ⟨?_, rfl, rfl⟩
    rw [subscription?_modifySubscription c sid hf]
    split
    · next ho => rw [ho, hs, Option.map_none]
    · rfl
  | some s =>
    exact ((Alters.of_subscription? hs).modify hf).evolves (.hold _ held)

theorem evolves_setHandler (c : Connection) (sid : Sid) (handler : Handler) :
    c.Evolves strict (c.setHandler sid handler) := by
  unfold setHandler
  split
  · exact .refl c
  · next s hs =>
    obtain rfl : s.sid = sid := sid_of_subscription? hs
    have halters := ((Alters.of_subscription? hs).modify
      (f := fun s => { s with handler := some handler }) fun _ h => h).log
        (e := .handlerSet s.sid handler) rfl
    exact halters.evolves (.setHandler _ handler)

theorem alters_enable {s : Subscription} (hs : c.subscription? sid = some s) :
    Alters sid c ⟨s, c.table.contains sid, c.story sid⟩ (c.enable sid).2
      (Record.update ⟨s, c.table.contains sid, c.story sid⟩ fun s =>
        (s.enable c.isStopping).2) := by
  have hsid : (s.enable c.isStopping).2.sid = sid := by
    rcases Record.workers_enable s c.isStopping with heq | ⟨-, heq⟩
    · rw [heq, sid_of_subscription? hs]
    · rw [heq, sid_of_subscription? hs]
  have heq : (c.enable sid).2 = c.modifySubscription sid fun _ => (s.enable c.isStopping).2 := by
    simp only [enable, hs]
  rw [heq]
  exact (Alters.of_subscription? hs).replace hsid

theorem evolves_enable (c : Connection) (sid : Sid)
    (h : strict sid → ∀ s, c.subscription? sid = some s → s.valid = true) :
    c.Evolves strict (c.enable sid).2 := by
  cases hs : c.subscription? sid with
  | none =>
    simp only [enable, hs]
    exact .refl c
  | some s =>
    exact (alters_enable hs).evolves (.enable _ c.isStopping fun hstrict => h hstrict s hs)

theorem drifts_sendFor (ht : t.Drifts) (c : Connection) (sid : Sid) (frame : Frame) :
    c.Drifts (fun _ => True) (c.sendFor t sid frame).2 := by
  unfold sendFor
  split
  · exact .refl c
  · split
    · exact ht _ c
    · exact .refl c

theorem evolves_startSubscription (ht : t.Drifts) (c : Connection) (sid : Sid) :
    c.Evolves strict (c.startSubscription t sid).2 := by
  unfold startSubscription
  cases hs : c.subscription? sid with
  | none => exact .refl c
  | some s =>
    simp only
    split
    · exact .refl c
    · next hvalid =>
      -- the check just made is what allows the worker to be started
      have henable : c.Evolves strict (c.enable sid).2 := by
        refine evolves_enable c sid fun _ s' hs' => ?_
        rw [hs] at hs'
        obtain rfl := Option.some.inj hs'
        simpa using hvalid
      split
      · next c' heq =>
        rw [heq] at henable
        exact henable
      · next c' heq =>
        rw [heq] at henable
        have hsend := drifts_sendFor ht c' sid (.subscribe sid s.subject s.queueGroup)
        split
        · next c'' hsent =>
          rw [hsent] at hsend
          exact henable.trans hsend.evolves
        · next e c'' hsent =>
          rw [hsent] at hsend
          exact henable.trans (hsend.trans (drifts_disable c'' sid)).evolves

theorem alters_setCeiling {s : Subscription} (hs : c.subscription? s.sid = some s) (max : Nat) :
    Alters s.sid c ⟨s, c.table.contains s.sid, c.story s.sid⟩
      ((c.modifySubscription s.sid fun s => { s with max := max }).log (.ceilingSet s.sid max))
      ((Record.update ⟨s, c.table.contains s.sid, c.story s.sid⟩ fun s =>
        { s with max := max }).tell (.ceilingSet s.sid max)) :=
  ((Alters.of_subscription? hs).modify (f := fun s => { s with max := max }) fun _ h => h).log
    (e := .ceilingSet s.sid max) rfl

/-- After the ceiling of a valid subscription was set, everything only drifts; a ceiling that is
reached already ends the subscription. -/
theorem drifts_autoUnsubscribe (ht : t.Drifts) {s : Subscription}
    (hs : c.subscription? s.sid = some s) (hvalid : s.valid = true) (max : Nat) :
    ((c.modifySubscription s.sid fun s => { s with max := max }).log
        (.ceilingSet s.sid max)).Drifts (fun _ => True) (c.autoUnsubscribe t s.sid max).2 ∧
      (max ≠ 0 → max ≤ s.delivered → ∀ v, (c.autoUnsubscribe t s.sid max).2.record? s.sid = some v →
        v.sub.valid = false) := by
  have hset := alters_setCeiling hs max
  unfold autoUnsubscribe
  simp only [hs, hvalid, Bool.not_true, Bool.false_eq_true, if_false]
  split
  · next hzero => exact ⟨.refl _, fun hmax => absurd hzero hmax⟩
  · split
    · refine ⟨drifts_closeSubscription ht _ s.sid, fun _ _ v hv => ?_⟩
      obtain ⟨v', hv', -, hinvalid, -⟩ := closeSubscription_eq ht hset.after
      obtain rfl := Option.some.inj (hv'.symm.trans hv)
      exact hinvalid
    · next hless => exact ⟨drifts_sendFor ht _ s.sid _, fun _ hle => absurd hle hless⟩

theorem evolves_autoUnsubscribe (ht : t.Drifts) (c : Connection) (sid : Sid) (max : Nat) :
    c.Evolves strict (c.autoUnsubscribe t sid max).2 := by
  cases hs : c.subscription? sid with
  | none =>
    simp only [autoUnsubscribe, hs]
    exact .refl c
  | some s =>
    obtain rfl : s.sid = sid := sid_of_subscription? hs
    cases hvalid : s.valid with
    | false =>
      simp only [autoUnsubscribe, hs, hvalid]
      exact .refl c
    | true =>
      have hset := alters_setCeiling hs max
      obtain ⟨hd, hends⟩ := drifts_autoUnsubscribe ht hs hvalid max
      by_cases hroom : max = 0 ∨ s.delivered < max
      · have hevolves : c.Evolves strict _ := hset.evolves (.setCeiling _ max hroom)
        exact hevolves.trans hd.evolves
      · -- setting the ceiling and ending are one change: in between a valid subscription would stand
        -- at its ceiling without an invocation that ends it
        obtain ⟨hmax, hle⟩ := not_or.1 hroom
        refine ⟨hd.issued, fun other hb => ?_, fun other w hw => ?_⟩
        · have ho : other ≠ s.sid := by
            rintro rfl
            rw [hb.absent] at hs
            cases hs
          exact hd.blank other ((hset.same other ho).blank hb)
        · by_cases ho : other = s.sid
          · subst ho
            rw [hset.before] at hw
            obtain rfl := Option.some.inj hw
            obtain ⟨v', hv', hdrift⟩ := hd.record s.sid _ hset.after
            exact ⟨v', hv', .exhaust max hdrift (hends hmax (Nat.le_of_not_lt hle) v' hv')⟩
          · obtain ⟨w', hw', hdrift⟩ := hd.record other w ((hset.same other ho).record?.trans hw)
            exact ⟨w', hw', .drift hdrift⟩

/-! ## Publishing and asking -/

theorem drifts_publishFor (ht : t.Drifts) (c : Connection) (onBehalfOf : Option Sid)
    (subject : String) (payload : ByteArray) :
    c.Drifts (fun _ => True) (c.publishFor t onBehalfOf subject payload).2 := by
  unfold publishFor
  split
  · exact .refl c
  · split
    · exact .refl c
    · exact ht _ c

theorem drifts_announceInbox (ht : t.Drifts) (c : Connection) :
    c.Drifts (fun _ => True) (c.announceInbox t).2 := by
  unfold announceInbox
  split
  · exact .refl c
  · have hsend := ht { frame := .subscribe replySid c.inbox.wildcard none } c
    split
    · next c' heq =>
      rw [heq] at hsend
      exact hsend.trans (drifts_of_eq rfl rfl rfl rfl)
    · next e c' heq =>
      rw [heq] at hsend
      exact hsend

theorem drifts_abandon (c : Connection) (key : String) :
    c.Drifts (fun _ => True) (c.abandon key) := drifts_of_eq rfl rfl rfl rfl

theorem drifts_request (ht : t.Drifts) (c : Connection) (subject : String) (payload : ByteArray)
    (options : RequestOptions) :
    c.Drifts (fun _ => True) (c.request t subject payload options).2 := by
  unfold request
  split
  · exact .refl c
  · split
    · exact .refl c
    · have hannounce := drifts_announceInbox ht c
      split
      · next e c₁ heq =>
        rw [heq] at hannounce
        exact hannounce
      · next c₁ heq =>
        rw [heq] at hannounce
        have hregister : c.Drifts (fun _ => True) { c₁ with
            inbox := c₁.inbox.next.2
            registry := (c₁.registry.register c₁.inbox.next.1 options c₁.config.requestTimeout
              c₁.clock).2 } :=
          hannounce.trans (drifts_of_eq rfl rfl rfl rfl)
        refine hregister.trans ?_
        dsimp only
        split
        · exact drifts_abandon _ _
        · have hsend := ht { frame := .publish subject (some c₁.inbox.next.1) payload } { c₁ with
            inbox := c₁.inbox.next.2
            registry := (c₁.registry.register c₁.inbox.next.1 options c₁.config.requestTimeout
              c₁.clock).2 }
          split
          · next c₂ heq₂ =>
            rw [heq₂] at hsend
            exact hsend
          · next e c₂ heq₂ =>
            rw [heq₂] at hsend
            exact hsend.trans (drifts_abandon c₂ _)

theorem drifts_respond (ht : t.Drifts) (c : Connection) (d : Delivery) (payload : ByteArray) :
    c.Drifts (fun _ => True) (c.respond t d payload).2 := by
  unfold respond
  split
  · exact .refl c
  · exact ht _ c

/-! ## Actions of a handler -/

theorem evolves_note (c : Connection) (sid : Sid) (n : Note) : c.Evolves strict (c.note sid n) :=
  evolves_log c rfl

theorem evolves_whenHeld (c : Connection) (sid : Sid) (action : String)
    {f : Subscription → Connection}
    (h : ∀ s, c.subscription? sid = some s → s.held = true → c.Evolves strict (f s)) :
    c.Evolves strict (c.whenHeld sid action f) := by
  unfold whenHeld
  split
  · next s hs =>
    split
    · next hheld => exact h s hs hheld
    · exact evolves_note c sid _
  · exact evolves_note c sid _

theorem evolves_whenReachable (c : Connection) (sid : Sid) (action : String) {c' : Connection}
    (h : c.Evolves strict c') : c.Evolves strict (c.whenReachable sid action c') := by
  unfold whenReachable
  split
  · split
    · exact h
    · exact evolves_note c sid _
  · exact evolves_note c sid _

theorem drifts_respondOrFail (ht : t.Drifts) (c : Connection) (d : Delivery) (payload : ByteArray)
    (rest : List Action) : c.Drifts (fun _ => True) (c.respondOrFail t d payload rest).2 := by
  have hrespond := drifts_respond ht c d payload
  unfold respondOrFail
  split
  · next c' heq =>
    rw [heq] at hrespond
    exact hrespond
  · next e c' heq =>
    rw [heq] at hrespond
    exact hrespond

/-- One action of a handler, whichever it is. -/
theorem evolves_act (ht : t.Drifts) (c : Connection) (sid : Sid) (d : Delivery) (action : Action)
    (rest : List Action)
    (h : action = .enable → strict sid →
      ∀ s, c.subscription? sid = some s → s.held = true → s.valid = true) :
    c.Evolves strict (c.act t sid d action rest).2 := by
  have hnote : ∀ {c' : Connection} (n : Note), c.Evolves strict c' →
      c.Evolves strict (c'.note sid n) := fun n h => h.trans (evolves_note _ sid n)
  cases action with
  | fail | panic | sleep => exact .refl c
  | respond payload => exact hnote _ (drifts_respond ht c d payload).evolves
  | respondStrict payload => exact (drifts_respondOrFail ht c d payload rest).evolves
  | respondUpper => exact (drifts_respondOrFail ht c d _ rest).evolves
  | close =>
    exact evolves_whenHeld c sid _ fun _ _ _ => (drifts_closeSubscription ht c sid).evolves
  | unsubscribe =>
    refine evolves_whenHeld c sid _ fun _ _ _ => hnote _ ?_
    exact (drifts_closeSubscription ht c sid).evolves
  | autoUnsubscribe max =>
    exact evolves_whenHeld c sid _ fun _ _ _ => hnote _ (evolves_autoUnsubscribe ht c sid max)
  | start =>
    exact evolves_whenHeld c sid _ fun _ _ _ => hnote _ (evolves_startSubscription ht c sid)
  | disable =>
    exact evolves_whenHeld c sid _ fun _ _ _ => hnote _ (drifts_disable c sid).evolves
  | enable =>
    refine evolves_whenHeld c sid _ fun s hs hheld => hnote _ (evolves_enable c sid ?_)
    intro hstrict s' hs'
    rw [hs] at hs'
    obtain rfl := Option.some.inj hs'
    exact h rfl hstrict s hs hheld
  | setHandler handler =>
    exact evolves_whenHeld c sid _ fun _ _ _ => evolves_setHandler c sid handler
  | yield times =>
    cases times with
    | zero => exact .refl c
    | succ times => exact .refl c
  | remark text => exact evolves_note c sid _
  | info => exact evolves_whenHeld c sid _ fun _ _ _ => evolves_note c sid _
  | publish subject payload =>
    exact evolves_whenReachable c sid _
      (hnote _ (drifts_publishFor ht c (some d.message.sid) subject payload).evolves)
  | deliver m => exact evolves_whenReachable c sid _ (hnote _ (drifts_deliver c m.sid m).evolves)
  | closeConnection => exact evolves_whenReachable c sid _ (drifts_close ht c).evolves

end Connection

end PubSub
