import PubSub.Proofs.Registry.Pending

/-!
# Keys of requests

A request keeps the key under which it was registered, whatever becomes of it, and a reply finds a
request exactly when one with its key is pending.

## Main results

- `Registry.keys_perform` — nothing but a registration adds a key
- `Registry.keys_run` — the requests are those that were registered
- `Registry.Coherent.resolveReply_of_pending` — what a reply to a pending request changes
- `Registry.Coherent.resolveReply_of_settled` — a reply to any other key changes nothing
-/

namespace PubSub.Registry

variable {P : Resolution → Prop} {reg reg' : Registry} {key : String}

/-- The keys of all requests ever made, in the order of their numbers. -/
def keys (reg : Registry) : List String := reg.requests.map (·.key)

theorem getElem?_keys (reg : Registry) (i : Nat) :
    reg.keys[i]? = (reg.request? i).map (·.key) := List.getElem?_map

/-- When no request was made, the keys are those that there were. -/
theorem keys_of_extends (h : reg.Extends P (fun _ => False) reg') : reg'.keys = reg.keys := by
  refine List.ext_getElem? fun i => ?_
  rw [getElem?_keys, getElem?_keys]
  cases hr : reg.request? i with
  | some r =>
    obtain ⟨r', hr', he⟩ := h.kept i r hr
    rw [hr', Option.map_some, Option.map_some, he.key]
  | none =>
    cases hr' : reg'.request? i with
    | none => rfl
    | some r' =>
      rcases h.origin i r' hr' with ⟨r, hold, -⟩ | ⟨-, -, hf, -⟩
      · rw [hr] at hold
        cases hold
      · exact hf.elim

theorem keys_perform (reg : Registry) (op : Op)
    (hop : ∀ key options timeout now, op ≠ .register key options timeout now) :
    (reg.perform op).keys = reg.keys := by
  cases op with
  | register key options timeout now => exact absurd rfl (hop key options timeout now)
  | resolveReply key m =>
    exact keys_of_extends (reg.extends_resolveReply (P := fun _ => True) key m trivial)
  | abandon key => exact keys_of_extends (reg.extends_abandon (P := fun _ => True) key trivial)
  | cancelAll => exact keys_of_extends (reg.extends_abandonAll (P := fun _ => True) _ trivial)
  | sweepExpired now =>
    exact keys_of_extends (reg.extends_sweepEntries (P := fun _ => True) now reg.entries trivial)
  | look number => exact keys_of_extends (reg.extends_tryResult (P := fun _ => True) number)
  | letGo number => rfl

theorem keys_register (reg : Registry) (key : String) (options : RequestOptions)
    (timeout : Duration) (now : Instant) :
    (reg.register key options timeout now).2.keys = reg.keys ++ [key] := by
  have habandon : (reg.abandon key).2.keys = reg.keys := reg.keys_perform (.abandon key) (by simp)
  rw [← habandon]
  exact List.map_append

/-- The requests are those that were registered, in order. -/
theorem keys_run (reg : Registry) (ops : List Op) :
    (reg.run ops).keys = reg.keys ++ ops.filterMap Op.registered? := by
  induction ops generalizing reg with
  | nil => simp
  | cons op ops ih =>
    rw [run_cons, ih]
    cases op with
    | register key options timeout now =>
      have hkeys := reg.keys_register key options timeout now
      simp [perform, hkeys, Op.registered?]
    | _ => rw [reg.keys_perform _ (by simp), List.filterMap_cons_none rfl]

theorem length_keys (reg : Registry) : reg.keys.length = reg.requests.length := List.length_map _

/-- A request that is registered under a key at which nothing waits is added to what there was. -/
theorem register_of_free (h : reg.find? key = none) (options : RequestOptions) (timeout : Duration)
    (now : Instant) :
    reg.register key options timeout now = (reg.requests.length, { reg with
      requests := reg.requests ++ [Request.create key options timeout now]
      entries := reg.entries ++ [(key, reg.requests.length)]
      counts := reg.counts.entered
      signalled := true }) := by
  unfold register abandon
  rw [h]

namespace Coherent

/-- Only the keys of requests wait. -/
theorem find?_of_not_mem_keys (h : reg.Coherent) (hkey : key ∉ reg.keys) :
    reg.find? key = none := by
  cases hf : reg.find? key with
  | none => rfl
  | some i =>
    obtain ⟨r, hr, rfl, -⟩ := h.pending_of_find? hf
    exact absurd (List.mem_map_of_mem (List.mem_of_getElem? hr)) hkey

/-- A reply under the key of a pending request resolves that request and takes its key out. -/
theorem resolveReply_of_pending (h : reg.Coherent) {i : Nat} {r : Request}
    (hr : reg.request? i = some r) (hs : r.state = none) (m : Message) :
    reg.resolveReply r.key m = (true, { (reg.erase r.key).modify i fun _ => r.settled (.ofReply m)
      with counts := reg.counts.left.resolved (Outcome.ofReply m).resolution }) := by
  unfold Registry.resolveReply
  rw [(h.state_eq_none_iff hr).1 hs]
  exact release_of_pending hr hs r.key _

/-- A reply under a key that no pending request has is lost. -/
theorem resolveReply_of_settled (h : reg.Coherent)
    (hno : ∀ r ∈ reg.requests, r.key = key → r.state ≠ none) (m : Message) :
    reg.resolveReply key m = (false, reg) := by
  unfold Registry.resolveReply
  cases hf : reg.find? key with
  | none => rfl
  | some i =>
    obtain ⟨r, hr, hkey, hs⟩ := h.pending_of_find? hf
    exact absurd hs (hno r (List.mem_of_getElem? hr) hkey)

end Coherent

end PubSub.Registry
