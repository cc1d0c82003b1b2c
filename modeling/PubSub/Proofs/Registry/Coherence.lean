import PubSub.Request.History
import Mathlib.Data.List.Nodup

/-!
# Coherence of a registry

The list of waiting keys and the state cells of the requests are two records of the same thing:
which requests are pending. `Registry.Coherent` says that they agree; every operation keeps it.

A request leaves the registry only through `Registry.release`, which takes its key out and assigns
its cell in one go, so coherence is proved for that one way out and carried over to every operation
that uses it. `Registry.Extends` is the other half: nothing that was settled is ever settled
differently.
-/

namespace PubSub

namespace Request

/-- The request with an outcome assigned to it. -/
def settled (r : Request) (o : Outcome) : Request :=
  { r with state := some o.resolution, slot := .filled o }

/-- A pending request takes the first outcome it is offered. -/
theorem resolve_of_pending {r : Request} (h : r.state = none) (o : Outcome) :
    r.resolve o = (true, r.settled o) := by
  simp [resolve, h, settled]

theorem isDone_eq_false_iff {r : Request} : r.isDone = false ↔ r.state = none := by
  simp [isDone]

/-- A look at a request changes only what its caller has received. -/
theorem tryResult_keeps (r : Request) :
    r.tryResult.2.key = r.key ∧ r.tryResult.2.options = r.options ∧
      r.tryResult.2.expiresAt = r.expiresAt ∧ r.tryResult.2.state = r.state := by
  unfold tryResult
  split
  · exact ⟨rfl, rfl, rfl, rfl⟩
  · split <;> exact ⟨rfl, rfl, rfl, rfl⟩

end Request

namespace Registry

/-! ## Looking at one request -/

@[simp] theorem request?_erase (reg : Registry) (key : String) (i : Nat) :
    (reg.erase key).request? i = reg.request? i := rfl

theorem request?_modify (reg : Registry) (i : Nat) (f : Request → Request) (j : Nat) :
    (reg.modify i f).request? j = if i = j then (reg.request? j).map f else reg.request? j := by
  simp only [request?, modify, List.getElem?_modify]
  by_cases h : i = j <;> simp [h]

theorem request?_append (reg : Registry) (r : Request) (entries : List (String × Nat))
    (counts : RequestCounts) (j : Nat) :
    ({ reg with requests := reg.requests ++ [r], entries := entries, counts := counts,
                signalled := true } : Registry).request? j =
      if j = reg.requests.length then some r else reg.request? j := by
  simp only [request?, List.getElem?_append]
  by_cases h : j = reg.requests.length
  · simp [h]
  · by_cases h' : j < reg.requests.length
    · simp [h, h']
    · have hlen : reg.requests.length ≤ j := Nat.le_of_not_lt h'
      simp [h, h']
      omega

theorem lt_length_of_request? {reg : Registry} {i : Nat} {r : Request}
    (h : reg.request? i = some r) : i < reg.requests.length :=
  (List.getElem?_eq_some_iff.1 h).1

/-- Resolving a pending request assigns its cell and counts it. -/
theorem resolve_of_pending {reg : Registry} {i : Nat} {r : Request} (h : reg.request? i = some r)
    (hr : r.state = none) (o : Outcome) :
    reg.resolve i o =
      (true, { reg.modify i fun _ => r.settled o with counts := reg.counts.resolved o.resolution }) := by
  simp [resolve, h, Request.resolve_of_pending hr]

/-- Releasing a pending request takes its key out, assigns its cell, and always succeeds. -/
theorem release_of_pending {reg : Registry} {i : Nat} {r : Request} (h : reg.request? i = some r)
    (hr : r.state = none) (key : String) (o : Outcome) :
    reg.release key i o =
      (true, { (reg.erase key).modify i fun _ => r.settled o with
        counts := reg.counts.left.resolved o.resolution }) := by
  have h' : ({ reg.erase key with counts := reg.counts.left } : Registry).request? i = some r := h
  exact resolve_of_pending h' hr o

/-! ## Coherence -/

/-- The keys that wait are exactly those of the pending requests, each with its own number. -/
structure Coherent (reg : Registry) : Prop where
  /-- No key waits twice. -/
  nodup : (reg.entries.map (·.1)).Nodup
  /-- A request waits under its own key if and only if it is pending. -/
  waiting : ∀ key i, (key, i) ∈ reg.entries ↔
    ∃ r, reg.request? i = some r ∧ r.key = key ∧ r.state = none

theorem coherent_empty : Coherent {} where
  nodup := by simp
  waiting := by simp [request?]

namespace Coherent

variable {reg : Registry}

/-- Looking a key up finds an entry exactly when it is there: keys are unique. -/
theorem find?_eq_some_iff (h : reg.Coherent) {key : String} {i : Nat} :
    reg.find? key = some i ↔ (key, i) ∈ reg.entries := by
  constructor
  · intro hf
    obtain ⟨l₁, l₂, he, -⟩ := List.lookup_eq_some_iff.1 hf
    rw [he]
    simp
  · intro hm
    obtain ⟨l₁, l₂, he⟩ := List.append_of_mem hm
    refine List.lookup_eq_some_iff.2 ⟨l₁, l₂, he, ?_⟩
    intro p hp
    have hnd := h.nodup
    rw [he] at hnd
    simp only [List.map_append, List.map_cons, List.nodup_append, List.mem_map,
      List.mem_cons] at hnd
    have hne := hnd.2.2 p.1 ⟨p, hp, rfl⟩ key (Or.inl rfl)
    simpa using fun heq => hne heq.symm

/-- A pending request is the one that its key leads to, and only a pending one is. -/
theorem state_eq_none_iff (h : reg.Coherent) {i : Nat} {r : Request}
    (hr : reg.request? i = some r) : r.state = none ↔ reg.find? r.key = some i := by
  rw [h.find?_eq_some_iff, h.waiting]
  constructor
  · intro hs
    exact ⟨r, hr, rfl, hs⟩
  · rintro ⟨r', hr', -, hs⟩
    rw [hr] at hr'
    obtain rfl := Option.some.inj hr'
    exact hs

theorem pending_of_find? (h : reg.Coherent) {key : String} {i : Nat} (hf : reg.find? key = some i) :
    ∃ r, reg.request? i = some r ∧ r.key = key ∧ r.state = none :=
  (h.waiting key i).1 (h.find?_eq_some_iff.1 hf)

/-- Coherence depends on the requests and the entries alone. -/
theorem of_eq {reg' : Registry} (h : reg.Coherent) (hr : reg'.requests = reg.requests)
    (he : reg'.entries = reg.entries) : reg'.Coherent := by
  refine ⟨by rw [he]; exact h.nodup, fun key i => ?_⟩
  rw [he, h.waiting]
  simp only [request?, hr]

/-- Releasing the request that waits under a key keeps the registry coherent. -/
theorem release (h : reg.Coherent) {key : String} {i : Nat} (hm : (key, i) ∈ reg.entries)
    (o : Outcome) : (reg.release key i o).2.Coherent := by
  obtain ⟨r, hr, hkey, hs⟩ := (h.waiting key i).1 hm
  rw [release_of_pending hr hs]
  refine ⟨?_, fun key' j => ?_⟩
  · exact h.nodup.sublist (List.filter_sublist.map _)
  · have hmem : (key', j) ∈ (reg.erase key).entries ↔ (key', j) ∈ reg.entries ∧ key' ≠ key := by
      simp [erase]
    have hreq : ∀ r', ({ (reg.erase key).modify i fun _ => r.settled o with
          counts := reg.counts.left.resolved o.resolution } : Registry).request? j = some r' ↔
        if i = j then r' = r.settled o else reg.request? j = some r' := by
      intro r'
      have hm := request?_modify (reg.erase key) i (fun _ => r.settled o) j
      change ((reg.erase key).modify i fun _ => r.settled o).request? j = some r' ↔ _
      rw [hm]
      by_cases hij : i = j
      · subst hij
        simp [hr, eq_comm]
      · simp [hij]
    change (key', j) ∈ (reg.erase key).entries ↔ _
    rw [hmem, h.waiting]
    simp only [hreq]
    by_cases hij : i = j
    · -- the released request is done, and its entry was the one taken out
      subst hij
      constructor
      · rintro ⟨⟨r', hr', hk', -⟩, hne⟩
        rw [hr] at hr'
        obtain rfl := Option.some.inj hr'
        exact absurd (hk'.symm.trans hkey) hne
      · rintro ⟨r', hr', -, hs'⟩
        rw [if_pos rfl] at hr'
        subst hr'
        simp [Request.settled] at hs'
    · simp only [if_neg hij]
      constructor
      · rintro ⟨hw, -⟩
        exact hw
      · rintro ⟨r', hr', hk', hs'⟩
        refine ⟨⟨r', hr', hk', hs'⟩, ?_⟩
        rintro rfl
        -- two requests cannot wait under one key
        have h1 := h.find?_eq_some_iff.2 hm
        have h2 := h.find?_eq_some_iff.2 ((h.waiting key' j).2 ⟨r', hr', hk', hs'⟩)
        exact hij (Option.some.inj (h1.symm.trans h2))

/-- Giving up a key keeps the registry coherent, whether or not a request waits under it. -/
theorem abandon (h : reg.Coherent) (key : String) : (reg.abandon key).2.Coherent := by
  unfold Registry.abandon
  split
  · exact h
  · next i hf => exact h.release (h.find?_eq_some_iff.1 hf) _

theorem resolveReply (h : reg.Coherent) (key : String) (m : Message) :
    (reg.resolveReply key m).2.Coherent := by
  unfold Registry.resolveReply
  split
  · exact h
  · next i hf => exact h.release (h.find?_eq_some_iff.1 hf) _

/-- After a key was given up nothing waits under it. -/
theorem find?_abandon (h : reg.Coherent) (key : String) : (reg.abandon key).2.find? key = none := by
  unfold Registry.abandon
  split
  · next hf => exact hf
  · next i hf =>
    obtain ⟨r, hr, -, hs⟩ := h.pending_of_find? hf
    rw [release_of_pending hr hs]
    refine List.lookup_eq_none_iff.2 fun e he => ?_
    have hne : e.1 ≠ key := by simpa using (List.mem_filter.1 he).2
    simpa using Ne.symm hne

/-- A new request under a key that is free waits there. -/
theorem append (h : reg.Coherent) {r : Request} (hfree : reg.find? r.key = none)
    (hs : r.state = none) (counts : RequestCounts) :
    ({ reg with
        requests := reg.requests ++ [r]
        entries := reg.entries ++ [(r.key, reg.requests.length)]
        counts := counts
        signalled := true } : Registry).Coherent := by
  refine ⟨?_, fun key i => ?_⟩
  · rw [List.map_append, List.nodup_append]
    refine ⟨h.nodup, by simp, ?_⟩
    intro key hkey key' hkey' heq
    obtain rfl : key' = r.key := by simpa using hkey'
    subst heq
    obtain ⟨⟨k, i⟩, hm, rfl⟩ := List.mem_map.1 hkey
    rw [h.find?_eq_some_iff.2 hm] at hfree
    simp at hfree
  · rw [request?_append, List.mem_append, h.waiting]
    by_cases hi : i = reg.requests.length
    · subst hi
      have hnone : reg.request? reg.requests.length = none := List.getElem?_eq_none (Nat.le_refl _)
      simp only [hnone, List.mem_singleton, Prod.mk.injEq, and_true]
      constructor
      · rintro (⟨r', hr', -⟩ | rfl)
        · simp at hr'
        · exact ⟨r, rfl, rfl, hs⟩
      · rintro ⟨r', hr', hk, -⟩
        obtain rfl := Option.some.inj hr'
        exact Or.inr hk.symm
    · simp [hi]

theorem register (h : reg.Coherent) (key : String) (options : RequestOptions)
    (defaultTimeout : Duration) (now : Instant) :
    (reg.register key options defaultTimeout now).2.Coherent :=
  (h.abandon key).append (r := Request.create key options defaultTimeout now)
    (h.find?_abandon key) rfl _

theorem abandonAll (h : reg.Coherent) (keys : List String) :
    (reg.abandonAll keys).2.Coherent := by
  induction keys generalizing reg with
  | nil => exact h
  | cons key keys ih => exact ih (h.abandon key)

theorem tryResult (h : reg.Coherent) (i : Nat) : (reg.tryResult i).2.Coherent := by
  unfold Registry.tryResult
  split
  · exact h
  · next r hr =>
    obtain ⟨hkey, -, -, hstate⟩ := r.tryResult_keeps
    refine ⟨h.nodup, fun key j => ?_⟩
    change (key, j) ∈ reg.entries ↔ _
    rw [h.waiting]
    simp only [request?_modify]
    by_cases hij : i = j
    · subst hij
      simp [hr, hkey, hstate]
    · simp [hij]

end Coherent

end Registry

end PubSub
