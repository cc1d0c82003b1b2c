import PubSub.Connection.Story

/-!
# Records of subscriptions

What a connection holds about one subscription: its state, whether the table lists it, and its
story. An operation is described by what it makes of each record; most leave all but one alone.

## Main definitions

- `Record` — state, place in the table, and story of a subscription
- `Connection.record?` — the record of the subscription with a number
- `Connection.Blank` — nothing is known under a number
- `Connection.SameAt` — two connections agree about a number
- `Connection.Alters` — only the record under one number changes, and how
- `Connection.Each` — each record of one connection is related to that of another
-/

namespace PubSub

/-- What a connection holds about one subscription. -/
structure Record where
  sub : Subscription
  live : Bool
  story : Story

namespace Record

/-- Another state, the same place and story. -/
def update (v : Record) (f : Subscription → Subscription) : Record := { v with sub := f v.sub }

/-- One more event in the story. -/
def tell (v : Record) (e : Event) : Record := { v with story := e :: v.story }

@[simp] theorem sub_update (v : Record) (f : Subscription → Subscription) :
    (v.update f).sub = f v.sub := rfl

@[simp] theorem live_update (v : Record) (f : Subscription → Subscription) :
    (v.update f).live = v.live := rfl

@[simp] theorem story_update (v : Record) (f : Subscription → Subscription) :
    (v.update f).story = v.story := rfl

@[simp] theorem sub_tell (v : Record) (e : Event) : (v.tell e).sub = v.sub := rfl

@[simp] theorem live_tell (v : Record) (e : Event) : (v.tell e).live = v.live := rfl

@[simp] theorem story_tell (v : Record) (e : Event) : (v.tell e).story = e :: v.story := rfl

end Record

namespace Connection

/-- The record of the subscription with a number. -/
def record? (c : Connection) (sid : Sid) : Option Record :=
  (c.subscription? sid).map fun s => ⟨s, c.table.contains sid, c.story sid⟩

/-- Nothing is known under a number. -/
structure Blank (c : Connection) (sid : Sid) : Prop where
  absent : c.subscription? sid = none
  table : c.table.contains sid = false
  story : c.story sid = []

/-- Two connections agree about a number. -/
structure SameAt (c c' : Connection) (sid : Sid) : Prop where
  subscription? : c'.subscription? sid = c.subscription? sid
  table : c'.table.contains sid = c.table.contains sid
  story : c'.story sid = c.story sid

variable {c c' c'' : Connection} {sid : Sid}

theorem SameAt.refl (c : Connection) (sid : Sid) : c.SameAt c sid := ⟨rfl, rfl, rfl⟩

theorem SameAt.trans (h : c.SameAt c' sid) (h' : c'.SameAt c'' sid) : c.SameAt c'' sid :=
  ⟨h'.subscription?.trans h.subscription?, h'.table.trans h.table, h'.story.trans h.story⟩

theorem SameAt.record? (h : c.SameAt c' sid) : c'.record? sid = c.record? sid := by
  rw [Connection.record?, Connection.record?, h.subscription?, h.table, h.story]

theorem SameAt.blank (h : c.SameAt c' sid) (hb : c.Blank sid) : c'.Blank sid :=
  ⟨h.subscription?.trans hb.absent, h.table.trans hb.table, h.story.trans hb.story⟩

/-- Only subscriptions, table and journal matter. -/
theorem SameAt.of_eq (hs : c'.subscriptions = c.subscriptions) (ht : c'.table = c.table)
    (hj : c'.journal = c.journal) : c.SameAt c' sid := by
  refine ⟨?_, by rw [ht], ?_⟩
  · rw [Connection.subscription?, hs]
    rfl
  · rw [Connection.story, hj]
    rfl

theorem sid_of_subscription? {s : Subscription} (h : c.subscription? sid = some s) :
    s.sid = sid := by
  have := List.find?_some h
  simpa using this

theorem record?_eq_some_iff {v : Record} :
    c.record? sid = some v ↔
      c.subscription? sid = some v.sub ∧ c.table.contains sid = v.live ∧ c.story sid = v.story := by
  unfold record?
  rw [Option.map_eq_some_iff]
  constructor
  · rintro ⟨s, hs, rfl⟩
    exact ⟨hs, rfl, rfl⟩
  · rintro ⟨hs, hl, hst⟩
    exact ⟨v.sub, hs, by rw [hl, hst]⟩

theorem subscription?_of_record? {v : Record} (h : c.record? sid = some v) :
    c.subscription? sid = some v.sub := (record?_eq_some_iff.1 h).1

theorem record?_of_subscription? {s : Subscription} (h : c.subscription? sid = some s) :
    c.record? sid = some ⟨s, c.table.contains sid, c.story sid⟩ := by
  rw [record?, h]
  rfl

theorem sid_of_record? {v : Record} (h : c.record? sid = some v) : v.sub.sid = sid :=
  sid_of_subscription? (subscription?_of_record? h)

/-! ## Writing into the journal -/

theorem story_log (c : Connection) (e : Event) (sid : Sid) :
    (c.log e).story sid = if e.sid? = some sid then e :: c.story sid else c.story sid := by
  unfold story log
  rw [List.filter_cons]
  simp

theorem sameAt_log (c : Connection) {e : Event} (h : e.sid? ≠ some sid) : c.SameAt (c.log e) sid :=
  ⟨rfl, rfl, by rw [story_log, if_neg h]⟩

theorem record?_log {v : Record} (h : c.record? sid = some v) {e : Event}
    (he : e.sid? = some sid) : (c.log e).record? sid = some (v.tell e) := by
  obtain ⟨hs, hl, hst⟩ := record?_eq_some_iff.1 h
  refine record?_eq_some_iff.2 ⟨hs, hl, ?_⟩
  rw [story_log, if_pos he, hst]
  rfl

/-! ## Changing a subscription -/

theorem subscription?_modifySubscription (c : Connection) (sid : Sid)
    {f : Subscription → Subscription} (hf : ∀ s, s.sid = sid → (f s).sid = sid) (other : Sid) :
    (c.modifySubscription sid f).subscription? other =
      if other = sid then (c.subscription? sid).map f else c.subscription? other := by
  unfold subscription? modifySubscription
  have hkeep : ((fun s : Subscription => s.sid == other) ∘
      fun s => if s.sid = sid then f s else s) = fun s => s.sid == other := by
    funext s
    by_cases hs : s.sid = sid
    · simp [hs, hf s hs]
    · simp [hs]
  rw [List.find?_map, hkeep]
  split
  · next ho =>
    subst ho
    cases hfind : c.subscriptions.find? (·.sid == other) with
    | none => rfl
    | some s =>
      have hs : s.sid = other := sid_of_subscription? hfind
      simp [hs]
  · next ho =>
    cases hfind : c.subscriptions.find? (·.sid == other) with
    | none => rfl
    | some s =>
      have hs : s.sid = other := sid_of_subscription? hfind
      simp [hs, ho]

theorem sameAt_modifySubscription (c : Connection) {f : Subscription → Subscription}
    (hf : ∀ s, s.sid = sid → (f s).sid = sid) {other : Sid} (ho : other ≠ sid) :
    c.SameAt (c.modifySubscription sid f) other :=
  ⟨by rw [subscription?_modifySubscription c sid hf, if_neg ho], rfl, rfl⟩

theorem record?_modifySubscription {v : Record} (h : c.record? sid = some v)
    {f : Subscription → Subscription} (hf : ∀ s, s.sid = sid → (f s).sid = sid) :
    (c.modifySubscription sid f).record? sid = some (v.update f) := by
  obtain ⟨hs, hl, hst⟩ := record?_eq_some_iff.1 h
  refine record?_eq_some_iff.2 ⟨?_, hl, hst⟩
  rw [subscription?_modifySubscription c sid hf, if_pos rfl, hs]
  rfl

/-! ## Changing one record -/

/-- Of all records only that under `sid` changes, from `v` to `v'`. -/
structure Alters (sid : Sid) (c : Connection) (v : Record) (c' : Connection) (v' : Record) :
    Prop where
  before : c.record? sid = some v
  after : c'.record? sid = some v'
  issued : c'.issuedSids = c.issuedSids
  /-- Everything else stays. -/
  same : ∀ other, other ≠ sid → c.SameAt c' other

namespace Alters

variable {v v' : Record}

theorem refl (h : c.record? sid = some v) : Alters sid c v c v :=
  ⟨h, h, rfl, fun other _ => .refl c other⟩

theorem of_subscription? {s : Subscription} (h : c.subscription? sid = some s) :
    Alters sid c ⟨s, c.table.contains sid, c.story sid⟩ c ⟨s, c.table.contains sid, c.story sid⟩ :=
  refl (record?_of_subscription? h)

theorem trans {v'' : Record} (h : Alters sid c v c' v') (h' : Alters sid c' v' c'' v'') :
    Alters sid c v c'' v'' :=
  ⟨h.before, h'.after, h'.issued.trans h.issued,
    fun other ho => (h.same other ho).trans (h'.same other ho)⟩

/-- An event of the subscription's story. -/
theorem log (h : Alters sid c v c' v') {e : Event} (he : e.sid? = some sid) :
    Alters sid c v (c'.log e) (v'.tell e) := by
  refine h.trans ⟨h.after, record?_log h.after he, rfl, fun other ho => sameAt_log c' ?_⟩
  simpa [he] using ho.symm

/-- An event of no story. -/
theorem remark (h : Alters sid c v c' v') {e : Event} (he : e.sid? = none) :
    Alters sid c v (c'.log e) v' := by
  have hsame : ∀ other, c'.SameAt (c'.log e) other := fun _ => sameAt_log c' (by simp [he])
  exact h.trans ⟨h.after, (hsame sid).record?.trans h.after, rfl, fun other _ => hsame other⟩

theorem modify (h : Alters sid c v c' v') {f : Subscription → Subscription}
    (hf : ∀ s, s.sid = sid → (f s).sid = sid) :
    Alters sid c v (c'.modifySubscription sid f) (v'.update f) :=
  h.trans ⟨h.after, record?_modifySubscription h.after hf, rfl,
    fun _ ho => sameAt_modifySubscription c' hf ho⟩

theorem replace (h : Alters sid c v c' v') {s : Subscription} (hs : s.sid = sid) :
    Alters sid c v (c'.modifySubscription sid fun _ => s) { v' with sub := s } :=
  h.modify fun _ _ => hs

/-- Neither subscriptions nor table nor journal change. -/
theorem of_eq (h : Alters sid c v c' v') (c'' : Connection) (hi : c''.issuedSids = c'.issuedSids)
    (hs : c''.subscriptions = c'.subscriptions) (ht : c''.table = c'.table)
    (hj : c''.journal = c'.journal) : Alters sid c v c'' v' := by
  have hsame : ∀ other, c'.SameAt c'' other := fun _ => .of_eq hs ht hj
  exact h.trans ⟨h.after, (hsame sid).record?.trans h.after, hi, fun other _ => hsame other⟩

end Alters

/-! ## Relations between all records -/

/-- Each record of one connection is related to that of another, and nothing new is known. -/
structure Each (R : Sid → Record → Record → Prop) (c c' : Connection) : Prop where
  issued : c'.issuedSids = c.issuedSids
  /-- Nothing came to be known under other numbers. -/
  blank : ∀ sid, c.Blank sid → c'.Blank sid
  record : ∀ sid v, c.record? sid = some v → ∃ v', c'.record? sid = some v' ∧ R sid v v'

variable {R R' : Sid → Record → Record → Prop}

theorem Each.of_same (hR : ∀ sid v, R sid v v) (hi : c'.issuedSids = c.issuedSids)
    (hs : ∀ sid, c.SameAt c' sid) : c.Each R c' where
  issued := hi
  blank sid := (hs sid).blank
  record sid v hv := ⟨v, (hs sid).record?.trans hv, hR sid v⟩

theorem Each.trans (hR : ∀ sid {v v' v''}, R sid v v' → R sid v' v'' → R sid v v'')
    (h : c.Each R c') (h' : c'.Each R c'') : c.Each R c'' where
  issued := h'.issued.trans h.issued
  blank sid hb := h'.blank sid (h.blank sid hb)
  record sid v hv := by
    obtain ⟨v', hv', hr⟩ := h.record sid v hv
    obtain ⟨v'', hv'', hr'⟩ := h'.record sid v' hv'
    exact ⟨v'', hv'', hR sid hr hr'⟩

theorem Each.mono (hR : ∀ sid v v', R sid v v' → R' sid v v') (h : c.Each R c') :
    c.Each R' c' where
  issued := h.issued
  blank := h.blank
  record sid v hv := by
    obtain ⟨v', hv', hr⟩ := h.record sid v hv
    exact ⟨v', hv', hR sid v v' hr⟩

/-- Only the record under one number changes. -/
theorem Alters.each {v v' : Record} (h : Alters sid c v c' v') (hR : ∀ sid v, R sid v v)
    (hr : R sid v v') : c.Each R c' where
  issued := h.issued
  blank other hb := by
    by_cases ho : other = sid
    · have hsub := subscription?_of_record? h.before
      rw [ho] at hb
      rw [hb.absent] at hsub
      cases hsub
    · exact (h.same other ho).blank hb
  record other w hw := by
    by_cases ho : other = sid
    · subst ho
      rw [h.before] at hw
      obtain rfl := Option.some.inj hw
      exact ⟨v', h.after, hr⟩
    · exact ⟨w, (h.same other ho).record?.trans hw, hR other w⟩

end Connection

end PubSub
