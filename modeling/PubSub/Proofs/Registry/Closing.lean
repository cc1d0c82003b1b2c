import PubSub.Proofs.Registry.Accounts

/-!
# Giving all requests up, in any order

The keys are given up one after the other, each in the registry that the earlier ones left. What comes
of it does not show the order: a request is resolved by its own key and by no other, and what is
counted is how many there were.

## Main definitions

- `Registry.closedDown` — a registry in which everything that waited was given up

## Main results

- `Registry.Coherent.abandonAll_perm` — giving up the keys that wait, in whatever order
-/

namespace PubSub

/-- What giving up some keys makes of a request. -/
def Request.givenUp (keys : List String) (r : Request) : Request :=
  if r.state = none ∧ r.key ∈ keys then r.settled (.cancelled .closing) else r

/-- What giving up everything makes of a request. -/
def Request.closedDown (r : Request) : Request :=
  if r.state = none then r.settled (.cancelled .closing) else r

/-- The metrics after a number of requests were given up. -/
def RequestCounts.gaveUp (counts : RequestCounts) (n : Nat) : RequestCounts :=
  { counts with
    outstanding := { counts.outstanding with falls := counts.outstanding.falls + n }
    closing := counts.closing + n }

theorem RequestCounts.gaveUp_gaveUp (counts : RequestCounts) (m n : Nat) :
    (counts.gaveUp m).gaveUp n = counts.gaveUp (n + m) := by
  simp only [gaveUp, Nat.add_assoc, Nat.add_comm m n]

/-- A request that was given up does not react to any further key. -/
theorem Request.givenUp_givenUp (key : String) (keys : List String) (r : Request) :
    (r.givenUp [key]).givenUp keys = r.givenUp (key :: keys) := by
  unfold givenUp
  by_cases hs : r.state = none
  · by_cases hkey : r.key = key
    · simp [hs, hkey, settled]
    · simp [hs, hkey]
  · simp [hs]

namespace Registry

variable {reg : Registry} {key : String} {keys : List String}

/-- The registry when everything that waited was given up. -/
def closedDown (reg : Registry) : Registry :=
  { reg with
    requests := reg.requests.map Request.closedDown
    entries := []
    counts := reg.counts.gaveUp reg.size }

namespace Coherent

theorem abandon_counts (h : reg.Coherent) (key : String) :
    (reg.abandon key).2.counts = reg.counts.gaveUp (reg.abandon key).1.toNat ∧
      (reg.abandon key).2.signalled = reg.signalled := by
  unfold Registry.abandon
  cases hf : reg.find? key with
  | none => exact ⟨rfl, rfl⟩
  | some i =>
    obtain ⟨r, hr, -, hs⟩ := h.pending_of_find? hf
    dsimp only
    rw [release_of_pending hr hs]
    exact ⟨rfl, rfl⟩

/-- The request that waits under the key is resolved, and no other. -/
theorem request?_abandon (h : reg.Coherent) (key : String) (i : Nat) :
    (reg.abandon key).2.request? i = (reg.request? i).map (Request.givenUp [key]) := by
  have hsame : ∀ r, reg.request? i = some r → reg.find? key ≠ some i →
      r.givenUp [key] = r := by
    intro r hr hne
    refine if_neg fun hwaits => hne ?_
    rw [← List.mem_singleton.1 hwaits.2]
    exact (h.state_eq_none_iff hr).1 hwaits.1
  unfold Registry.abandon
  cases hf : reg.find? key with
  | none =>
    rw [hf] at hsame
    cases hr : reg.request? i with
    | none => rfl
    | some r => exact congrArg some (hsame r hr (by simp)).symm
  | some j =>
    obtain ⟨r, hr, hkey, hs⟩ := h.pending_of_find? hf
    dsimp only
    rw [release_of_pending hr hs]
    refine (request?_modify _ _ _ i).trans ?_
    by_cases hij : j = i
    · subst hij
      rw [if_pos rfl, request?_erase, hr]
      exact congrArg some (if_pos ⟨hs, List.mem_singleton.2 hkey⟩).symm
    · rw [if_neg hij, request?_erase]
      cases hri : reg.request? i with
      | none => rfl
      | some ri =>
        exact congrArg some (hsame ri hri (by rw [hf]; simpa using hij)).symm

theorem abandonAll_counts (h : reg.Coherent) (keys : List String) :
    (reg.abandonAll keys).2.counts = reg.counts.gaveUp (reg.abandonAll keys).1 ∧
      (reg.abandonAll keys).2.signalled = reg.signalled := by
  induction keys generalizing reg with
  | nil => exact ⟨rfl, rfl⟩
  | cons key keys ih =>
    obtain ⟨hcounts, hsignalled⟩ := h.abandon_counts key
    obtain ⟨hcounts', hsignalled'⟩ := ih (h.abandon key)
    rw [hcounts, RequestCounts.gaveUp_gaveUp] at hcounts'
    exact ⟨hcounts', hsignalled'.trans hsignalled⟩

theorem request?_abandonAll (h : reg.Coherent) (keys : List String) (i : Nat) :
    (reg.abandonAll keys).2.request? i = (reg.request? i).map (Request.givenUp keys) := by
  induction keys generalizing reg with
  | nil =>
    cases hr : reg.request? i with
    | none => exact hr
    | some r => exact hr.trans (congrArg some (if_neg (by simp)).symm)
  | cons key keys ih =>
    refine (ih (h.abandon key)).trans ?_
    rw [h.request?_abandon, Option.map_map]
    exact congrArg (Option.map · _) (funext (Request.givenUp_givenUp key keys))

/-- Whatever the order in which the keys that wait are given up, all of them are, and the registry
that is left is the same. -/
theorem abandonAll_perm (h : reg.Coherent) (hkeys : keys.Perm (reg.entries.map (·.1))) :
    reg.abandonAll keys = (reg.size, reg.closedDown) := by
  have hsize : keys.length = reg.size := hkeys.length_eq.trans (List.length_map _)
  have hnumber : (reg.abandonAll keys).1 = reg.size := by
    rw [← hsize]
    exact h.fst_abandonAll keys (hkeys.nodup_iff.2 h.nodup) fun key hkey =>
      (contains_eq_true_iff reg key).2 (hkeys.mem_iff.1 hkey)
  obtain ⟨hcounts, hsignalled⟩ := h.abandonAll_counts keys
  refine Prod.ext hnumber (ext_request? (fun i => ?_) ?_ ?_ hsignalled)
  · rw [h.request?_abandonAll]
    refine Eq.trans ?_ List.getElem?_map.symm
    show (reg.request? i).map _ = (reg.request? i).map _
    cases hr : reg.request? i with
    | none => rfl
    | some r =>
      -- what is pending waits, so its key is among those given up
      have hpending : r.state = none → r.key ∈ keys := fun hs =>
        hkeys.mem_iff.2 (List.mem_map_of_mem
          (h.find?_eq_some_iff.1 ((h.state_eq_none_iff hr).1 hs)))
      exact congrArg some (if_congr (and_iff_left_of_imp hpending) rfl rfl)
  · rw [entries_abandonAll]
    refine List.filter_eq_nil_iff.2 fun entry hentry => ?_
    have hkey : keys.contains entry.1 = true :=
      List.contains_iff_mem.2 (hkeys.mem_iff.2 (List.mem_map_of_mem hentry))
    rw [hkey]
    decide
  · rw [hcounts, hnumber]
    rfl

end Coherent

end Registry

end PubSub
