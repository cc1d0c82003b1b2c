import PubSub.Proofs.Registry.Sweep

/-!
# Pending requests

In every state that a registry comes to, the requests that are pending are exactly those that wait,
each under its own key. The proof is a step lemma, that each operation keeps `Registry.Coherent`,
and an induction over the history. `Registry.Extends` carries what a request keeps for good: its
key, its options, its deadline, and its outcome once it has one; its parameters say which outcomes
the step in question can bring, and which requests it can make.
-/

namespace PubSub

/-- A later state of the same request: a pending one may have been resolved in a way that `P`
allows, and an outcome stays. -/
structure Request.Extends (P : Resolution → Prop) (r r' : Request) : Prop where
  key : r'.key = r.key
  options : r'.options = r.options
  expiresAt : r'.expiresAt = r.expiresAt
  /-- It is as it was, or was pending and got an outcome. -/
  state : r'.state = r.state ∨ r.state = none ∧ ∃ x, P x ∧ r'.state = some x

variable {P : Resolution → Prop} {Q : Request → Prop}

namespace Request

theorem Extends.refl (r : Request) : r.Extends P r := ⟨rfl, rfl, rfl, Or.inl rfl⟩

theorem Extends.trans {r r' r'' : Request} (h : r.Extends P r') (h' : r'.Extends P r'') :
    r.Extends P r'' := by
  refine ⟨h'.key.trans h.key, h'.options.trans h.options, h'.expiresAt.trans h.expiresAt, ?_⟩
  rcases h'.state with hs' | ⟨hn, hx⟩
  · rw [hs']
    exact h.state
  · rcases h.state with hs | ⟨-, x, -, hx'⟩
    · exact Or.inr ⟨hs ▸ hn, hx⟩
    · rw [hn] at hx'
      cases hx'

theorem Extends.mono {P' : Resolution → Prop} {r r' : Request} (h : r.Extends P r')
    (hP : ∀ x, P x → P' x) : r.Extends P' r' :=
  ⟨h.key, h.options, h.expiresAt, h.state.imp_right fun ⟨hn, x, hx, hs⟩ => ⟨hn, x, hP x hx, hs⟩⟩

/-- An outcome stays. -/
theorem Extends.state_eq {r r' : Request} (h : r.Extends P r') {x : Resolution}
    (hx : r.state = some x) : r'.state = some x := by
  rcases h.state with hs | ⟨hn, -⟩
  · rw [hs, hx]
  · rw [hn] at hx
    cases hx

/-- What is pending later was pending before. -/
theorem Extends.pending {r r' : Request} (h : r.Extends P r') (hn : r'.state = none) :
    r.state = none := by
  cases hs : r.state with
  | none => rfl
  | some x =>
    have hx := h.state_eq hs
    rw [hn] at hx
    cases hx

/-- An outcome that `P` does not allow was there before. -/
theorem Extends.state_of_not {r r' : Request} (h : r.Extends P r') {x : Resolution} (hx : ¬P x)
    (hs : r'.state = some x) : r.state = some x := by
  rcases h.state with heq | ⟨-, y, hy, hs'⟩
  · rw [← heq, hs]
  · rw [hs] at hs'
    obtain rfl := Option.some.inj hs'
    exact absurd hy hx

theorem extends_resolve (r : Request) {o : Outcome} (ho : P o.resolution) :
    r.Extends P (r.resolve o).2 := by
  unfold resolve
  split
  · exact Extends.refl r
  · next hs => exact ⟨rfl, rfl, rfl, Or.inr ⟨hs, o.resolution, ho, rfl⟩⟩

theorem extends_tryResult (r : Request) : r.Extends P r.tryResult.2 := by
  obtain ⟨hk, ho, he, hs⟩ := r.tryResult_keeps
  exact ⟨hk, ho, he, Or.inl hs⟩

end Request

namespace Registry

/-- A later state of a registry: every request is still there, in a later state of its own, with
outcomes that `P` allows; a request that was not there before was made as `Q` says, and the sweeper
will hear of it. -/
structure Extends (P : Resolution → Prop) (Q : Request → Prop) (reg reg' : Registry) : Prop where
  kept : ∀ i r, reg.request? i = some r → ∃ r', reg'.request? i = some r' ∧ r.Extends P r'
  origin : ∀ i r', reg'.request? i = some r' → (∃ r, reg.request? i = some r ∧ r.Extends P r') ∨
    reg'.signalled = true ∧ ∃ r, Q r ∧ r.state = none ∧ r.Extends P r'
  signalled : reg.signalled = true → reg'.signalled = true

theorem Extends.refl (reg : Registry) : reg.Extends P Q reg :=
  ⟨fun _ r hr => ⟨r, hr, .refl r⟩, fun _ r hr => Or.inl ⟨r, hr, .refl r⟩, id⟩

theorem Extends.trans {reg reg' reg'' : Registry} (h : reg.Extends P Q reg')
    (h' : reg'.Extends P Q reg'') : reg.Extends P Q reg'' := by
  refine ⟨fun i r hr => ?_, fun i r'' hr'' => ?_, fun hs => h'.signalled (h.signalled hs)⟩
  · obtain ⟨r', hr', he⟩ := h.kept i r hr
    obtain ⟨r'', hr'', he'⟩ := h'.kept i r' hr'
    exact ⟨r'', hr'', he.trans he'⟩
  · rcases h'.origin i r'' hr'' with ⟨r', hr', he'⟩ | hnew
    · rcases h.origin i r' hr' with ⟨r, hr, he⟩ | ⟨hs, r, hq, hn, he⟩
      · exact Or.inl ⟨r, hr, he.trans he'⟩
      · exact Or.inr ⟨h'.signalled hs, r, hq, hn, he.trans he'⟩
    · exact Or.inr hnew

/-- Replacing one request by a later state of it. -/
theorem extends_modify {reg : Registry} {i : Nat} {r r' : Request} (hr : reg.request? i = some r)
    (h : r.Extends P r') : reg.Extends P Q (reg.modify i fun _ => r') := by
  refine ⟨fun j s hs => ?_, fun j s hs => ?_, id⟩
  · rw [request?_modify]
    by_cases hij : i = j
    · subst hij
      rw [hr] at hs
      obtain rfl := Option.some.inj hs
      exact ⟨r', by simp [hr], h⟩
    · exact ⟨s, by simp [hij, hs], .refl s⟩
  · rw [request?_modify] at hs
    by_cases hij : i = j
    · subst hij
      simp only [if_true, hr, Option.map_some, Option.some.injEq] at hs
      subst hs
      exact Or.inl ⟨r, hr, h⟩
    · rw [if_neg hij] at hs
      exact Or.inl ⟨s, hs, .refl s⟩

theorem extends_resolve (reg : Registry) (i : Nat) {o : Outcome} (ho : P o.resolution) :
    reg.Extends P Q (reg.resolve i o).2 := by
  unfold resolve
  split
  · exact Extends.refl reg
  · next r hr =>
    have h := r.extends_resolve ho
    split
    · next r' he =>
      rw [he] at h
      have hmod : reg.Extends P Q (reg.modify i fun _ => r') := extends_modify hr h
      exact ⟨hmod.kept, hmod.origin, hmod.signalled⟩
    · exact Extends.refl reg

theorem extends_release (reg : Registry) (key : String) (i : Nat) {o : Outcome}
    (ho : P o.resolution) : reg.Extends P Q (reg.release key i o).2 := by
  have h : Extends P Q { reg.erase key with counts := reg.counts.left } (reg.release key i o).2 :=
    extends_resolve _ i ho
  exact ⟨h.kept, h.origin, h.signalled⟩

theorem extends_abandon (reg : Registry) (key : String) (hP : P .closing) :
    reg.Extends P Q (reg.abandon key).2 := by
  unfold abandon
  split
  · exact Extends.refl reg
  · exact extends_release reg key _ hP

theorem extends_resolveReply (reg : Registry) (key : String) (m : Message)
    (hP : P (Outcome.ofReply m).resolution) : reg.Extends P Q (reg.resolveReply key m).2 := by
  unfold resolveReply
  split
  · exact Extends.refl reg
  · exact extends_release reg key _ hP

theorem extends_register (reg : Registry) (key : String) (options : RequestOptions)
    (defaultTimeout : Duration) (now : Instant) (hP : P .closing)
    (hQ : Q (Request.create key options defaultTimeout now)) :
    reg.Extends P Q (reg.register key options defaultTimeout now).2 := by
  refine (reg.extends_abandon key hP).trans
    ⟨fun i r hr => ⟨r, ?_, .refl r⟩, fun i r hr => ?_, fun _ => rfl⟩
  · have hlt := lt_length_of_request? hr
    unfold register
    rw [request?_append, if_neg (by omega)]
    exact hr
  · unfold register at hr
    rw [request?_append] at hr
    split at hr
    · obtain rfl := Option.some.inj hr
      exact Or.inr ⟨rfl, _, hQ, rfl, .refl _⟩
    · exact Or.inl ⟨r, hr, .refl r⟩

theorem extends_abandonAll (reg : Registry) (keys : List String) (hP : P .closing) :
    reg.Extends P Q (reg.abandonAll keys).2 := by
  induction keys generalizing reg with
  | nil => exact Extends.refl reg
  | cons key keys ih => exact (reg.extends_abandon key hP).trans (ih _)

theorem extends_sweepEntry (reg : Registry) (now : Instant) (key : String) (i : Nat)
    (hP : P .timedOut) : reg.Extends P Q (reg.sweepEntry now key i).2 := by
  unfold sweepEntry
  split
  · exact Extends.refl reg
  · split
    · exact extends_release reg key _ hP
    · split
      · exact ⟨fun _ r hr => ⟨r, hr, .refl r⟩, fun _ r hr => Or.inl ⟨r, hr, .refl r⟩, id⟩
      · exact Extends.refl reg

theorem extends_sweepEntries (reg : Registry) (now : Instant) (l : List (String × Nat))
    (hP : P .timedOut) : reg.Extends P Q (reg.sweepEntries now l).2 := by
  induction l generalizing reg with
  | nil => exact Extends.refl reg
  | cons e rest ih => exact (reg.extends_sweepEntry now e.1 e.2 hP).trans (ih _)

theorem extends_tryResult (reg : Registry) (i : Nat) : reg.Extends P Q (reg.tryResult i).2 := by
  unfold tryResult
  split
  · exact Extends.refl reg
  · next r hr => exact extends_modify hr r.extends_tryResult

/-! ## Steps and histories -/

/-- Whatever is done to a registry, every request stays and keeps its outcome. -/
theorem extends_perform (reg : Registry) (op : Op) :
    reg.Extends (fun _ => True) (fun _ => True) (reg.perform op) := by
  cases op with
  | register key options defaultTimeout now =>
    exact reg.extends_register key options defaultTimeout now trivial trivial
  | resolveReply key reply => exact reg.extends_resolveReply key reply trivial
  | abandon key => exact reg.extends_abandon key trivial
  | cancelAll => exact reg.extends_abandonAll _ trivial
  | sweepExpired now => exact reg.extends_sweepEntries now reg.entries trivial
  | look number => exact reg.extends_tryResult number
  | letGo number => exact Extends.refl reg

theorem Coherent.perform {reg : Registry} (h : reg.Coherent) (op : Op) :
    (reg.perform op).Coherent := by
  cases op with
  | register key options defaultTimeout now => exact h.register key options defaultTimeout now
  | resolveReply key reply => exact h.resolveReply key reply
  | abandon key => exact h.abandon key
  | cancelAll => exact h.abandonAll _
  | sweepExpired now => exact (h.sweepExpired_spec now).1
  | look number => exact h.tryResult number
  | letGo number => exact h

theorem extends_run (reg : Registry) (ops : List Op) :
    reg.Extends (fun _ => True) (fun _ => True) (reg.run ops) := by
  induction ops generalizing reg with
  | nil => exact Extends.refl reg
  | cons op ops ih => exact (reg.extends_perform op).trans (ih _)

theorem Coherent.run {reg : Registry} (h : reg.Coherent) (ops : List Op) :
    (reg.run ops).Coherent := by
  induction ops generalizing reg with
  | nil => exact h
  | cons op ops ih => exact ih (h.perform op)

/-- A registration makes a request that was not there before, and its key leads to it. -/
theorem Coherent.find?_register {reg : Registry} (h : reg.Coherent) (key : String)
    (options : RequestOptions) (defaultTimeout : Duration) (now : Instant) :
    reg.request? (reg.register key options defaultTimeout now).1 = none ∧
      (reg.register key options defaultTimeout now).2.find? key =
        some (reg.register key options defaultTimeout now).1 := by
  constructor
  · -- giving the key up loses no request, so the number of the new one is above all there were
    have hlen : reg.requests.length ≤ (reg.abandon key).2.requests.length := by
      by_contra hlt
      have he := reg.extends_abandon (P := fun _ => True) (Q := fun _ => True) key trivial
      obtain ⟨r', hr', -⟩ := he.kept (reg.abandon key).2.requests.length _
        (List.getElem?_eq_getElem (Nat.lt_of_not_le hlt))
      have := lt_length_of_request? hr'
      omega
    exact List.getElem?_eq_none hlen
  · refine (h.register key options defaultTimeout now).find?_eq_some_iff.2 ?_
    simp [Registry.register]

/-- Whatever is done to a registry, in any order: every entry leads to a pending request with that
key and no key has two; a request is pending if and only if its key leads to it, whether or not its
caller still holds it, and so is each new one; a sweep never comes to an entry whose request is
done; and a request that is done keeps its outcome whatever comes later. -/
theorem pending_iff_waiting (ops : List Op) :
    let reg := run {} ops
    ((reg.entries.map (·.1)).Nodup ∧
      ∀ key i, (key, i) ∈ reg.entries →
        ∃ r, reg.request? i = some r ∧ r.key = key ∧ r.state = none) ∧
    (∀ i r, reg.request? i = some r → (r.state = none ↔ reg.find? r.key = some i)) ∧
    (∀ key options defaultTimeout now,
      let made := reg.register key options defaultTimeout now
      reg.request? made.1 = none ∧ made.2.find? key = some made.1) ∧
    (∀ now swept key i rest, reg.entries = swept ++ (key, i) :: rest →
      ∃ r, (reg.sweepEntries now swept).2.request? i = some r ∧ r.isDone = false) ∧
    (∀ later i r, reg.request? i = some r →
      ∃ r', (reg.run later).request? i = some r' ∧ r'.key = r.key ∧
        ∀ x, r.state = some x → r'.state = some x) := by
  intro reg
  have h : reg.Coherent := coherent_empty.run ops
  refine ⟨⟨h.nodup, fun key i hm => (h.waiting key i).1 hm⟩, fun i r hr => h.state_eq_none_iff hr,
    fun key options defaultTimeout now => h.find?_register key options defaultTimeout now,
    fun now swept key i rest he => h.pending_at_sweepEntry now he, fun later i r hr => ?_⟩
  obtain ⟨r', hr', he⟩ := (reg.extends_run later).kept i r hr
  exact ⟨r', hr', he.key, fun x hx => he.state_eq hx⟩

end Registry

end PubSub
