import PubSub.Proofs.Registry.Cancel
import PubSub.Proofs.Registry.Pending
import PubSub.Proofs.Sweeper.Plan
import Mathlib.Data.List.Count
import Mathlib.Data.List.Nodup

/-!
# The accounts of a registry

A registry counts what enters it, what leaves it and how. The counts agree with what it holds
(`Registry.Balanced`): each way out takes exactly one key out of the entries, turns exactly one
pending request into a resolved one, and bumps the gauge and one counter. So the accounts are kept
by `Registry.release`, and every operation keeps them because it uses nothing else.

## Main results

- `Registry.Balanced.perform` — whatever is done to a coherent registry
- `Registry.Coherent.fst_cancelAll`, `Registry.Coherent.fst_sweepExpired` — what the answers count
-/

namespace PubSub

namespace RequestCounts

theorem count_resolved (counts : RequestCounts) (x y : Resolution) :
    (counts.resolved x).count y = counts.count y + if x = y then 1 else 0 := by
  cases x <;> cases y <;> rfl

@[simp] theorem outstanding_resolved (counts : RequestCounts) (x : Resolution) :
    (counts.resolved x).outstanding = counts.outstanding := by
  cases x <;> rfl

@[simp] theorem count_left (counts : RequestCounts) (x : Resolution) :
    counts.left.count x = counts.count x := by
  cases x <;> rfl

@[simp] theorem count_entered (counts : RequestCounts) (x : Resolution) :
    counts.entered.count x = counts.count x := by
  cases x <;> rfl

end RequestCounts

namespace Registry

variable {reg : Registry} {key : String} {i : Nat} {r : Request}

/-- How many requests have a given state. -/
def inState (reg : Registry) (state : Option Resolution) : Nat :=
  reg.requests.countP fun r => r.state = state

/-- The metrics of a registry say what it holds. -/
structure Balanced (reg : Registry) : Prop where
  /-- The gauge shows how many requests wait. -/
  outstanding : reg.counts.outstanding.value = reg.entries.length
  /-- Each counter shows how many requests were resolved in its way. -/
  resolved : ∀ x, reg.counts.count x = reg.inState (some x)
  /-- As many requests are pending as wait. -/
  pending : reg.inState none = reg.entries.length

/-! ## Requests by state -/

/-- One request changes its state. -/
theorem inState_modify (hr : reg.request? i = some r) (r' : Request) (state : Option Resolution) :
    (reg.modify i fun _ => r').inState state + (if r.state = state then 1 else 0) =
      reg.inState state + if r'.state = state then 1 else 0 := by
  obtain ⟨hlt, hget⟩ := List.getElem?_eq_some_iff.1 hr
  have hmodify : reg.requests.modify i (fun _ => r') = reg.requests.set i r' := by
    refine List.ext_getElem? fun j => ?_
    rw [List.getElem?_modify, List.getElem?_set]
    by_cases hij : i = j
    · subst hij
      simp [hlt]
    · simp [hij]
  have hset := List.countP_set (p := fun r : Request => decide (r.state = state))
    (l := reg.requests) (i := i) (a := r') hlt
  have hpos : r.state = state → 0 < reg.requests.countP fun r => decide (r.state = state) := by
    intro hstate
    refine List.countP_pos_iff.2 ⟨r, ?_, by simpa using hstate⟩
    rw [← hget]
    exact List.getElem_mem hlt
  have hcount : (reg.modify i fun _ => r').inState state =
      (reg.requests.set i r').countP fun r => decide (r.state = state) := by
    rw [← hmodify]
    rfl
  rw [hcount, hset, hget]
  unfold inState
  by_cases hs : r.state = state
  · have := hpos hs
    simp only [hs, decide_true, if_true, decide_eq_true_eq]
    omega
  · simp [hs]

theorem inState_append (requests : List Request) (r : Request) (state : Option Resolution) :
    (requests ++ [r]).countP (fun r => decide (r.state = state)) =
      requests.countP (fun r => decide (r.state = state)) + if r.state = state then 1 else 0 := by
  rw [List.countP_append, List.countP_singleton]
  simp

/-- Every request is pending or was resolved in one of the four ways. -/
theorem length_requests (reg : Registry) :
    reg.requests.length = reg.inState none + (reg.inState (some .fulfilled) +
      reg.inState (some .closing) + reg.inState (some .timedOut) +
      reg.inState (some .noResponders)) := by
  unfold inState
  induction reg.requests with
  | nil => rfl
  | cons r requests ih =>
    simp only [List.countP_cons, List.length_cons]
    rcases r.state with _ | (_ | _ | _ | _) <;> simp <;> omega

/-! ## The way out -/

/-- Exactly one entry has a key that waits. -/
theorem Coherent.length_erase (h : reg.Coherent) (hm : (key, i) ∈ reg.entries) :
    (reg.erase key).entries.length + 1 = reg.entries.length := by
  have hone : (reg.entries.map (·.1)).count key = 1 :=
    List.count_eq_one_of_mem h.nodup (List.mem_map_of_mem hm)
  have hcount : (reg.entries.map (·.1)).count key = reg.entries.countP (·.1 == key) :=
    List.countP_map
  have hsplit := List.length_eq_countP_add_countP (fun e : String × Nat => e.1 == key)
    (l := reg.entries)
  have herase : (reg.erase key).entries.length =
      reg.entries.countP fun e => decide (¬(e.1 == key) = true) := by
    rw [List.countP_eq_length_filter]
    refine congrArg List.length (List.filter_congr fun e _ => ?_)
    by_cases hk : e.1 = key <;> simp [hk]
  omega

/-- One request leaves the registry and is resolved. -/
theorem Balanced.release (hb : reg.Balanced) (h : reg.Coherent) (hm : (key, i) ∈ reg.entries)
    (o : Outcome) : (reg.release key i o).2.Balanced := by
  obtain ⟨r, hr, -, hs⟩ := (h.waiting key i).1 hm
  have hlength := h.length_erase hm
  have hr' : (reg.erase key).request? i = some r := hr
  rw [release_of_pending hr hs]
  refine ⟨?_, fun x => ?_, ?_⟩
  · show ((reg.counts.left.resolved o.resolution).outstanding).value = _
    rw [RequestCounts.outstanding_resolved, RequestCounts.left, Gauge.value_fall, hb.outstanding]
    show (reg.entries.length : Int) - 1 = ((reg.erase key).entries.length : Int)
    omega
  · show (reg.counts.left.resolved o.resolution).count x = _
    rw [RequestCounts.count_resolved, RequestCounts.count_left, hb.resolved]
    have hmodify := inState_modify hr' (r.settled o) (some x)
    have hpending : r.state ≠ some x := by simp [hs]
    have hsettled : (r.settled o).state = some o.resolution := rfl
    rw [if_neg hpending, hsettled, Nat.add_zero] at hmodify
    simp only [Option.some.injEq] at hmodify
    exact hmodify.symm
  · have hmodify := inState_modify hr' (r.settled o) none
    have hsettled : (r.settled o).state ≠ none := by simp [Request.settled]
    rw [if_pos hs, if_neg hsettled] at hmodify
    have hpending := hb.pending
    have hkept : (reg.erase key).inState none = reg.inState none := rfl
    show ((reg.erase key).modify i fun _ => r.settled o).inState none =
      (reg.erase key).entries.length
    omega

theorem Balanced.abandon (hb : reg.Balanced) (h : reg.Coherent) (key : String) :
    (reg.abandon key).2.Balanced := by
  unfold Registry.abandon
  split
  · exact hb
  · next i hf => exact hb.release h (h.find?_eq_some_iff.1 hf) _

theorem Balanced.resolveReply (hb : reg.Balanced) (h : reg.Coherent) (key : String) (m : Message) :
    (reg.resolveReply key m).2.Balanced := by
  unfold Registry.resolveReply
  split
  · exact hb
  · next i hf => exact hb.release h (h.find?_eq_some_iff.1 hf) _

/-- A new request waits, and is counted as such. -/
theorem Balanced.register (hb : reg.Balanced) (h : reg.Coherent) (key : String)
    (options : RequestOptions) (defaultTimeout : Duration) (now : Instant) :
    (reg.register key options defaultTimeout now).2.Balanced := by
  obtain ⟨houtstanding, hresolved, hpending⟩ := hb.abandon h key
  refine ⟨?_, fun x => ?_, ?_⟩
  · show ((reg.abandon key).2.counts.entered.outstanding).value =
      (((reg.abandon key).2.entries ++ [(key, _)]).length : Int)
    rw [RequestCounts.entered, Gauge.value_rise, houtstanding, List.length_append]
    rfl
  · show (reg.abandon key).2.counts.entered.count x =
      ((reg.abandon key).2.requests ++ [Request.create key options defaultTimeout now]).countP _
    rw [RequestCounts.count_entered, hresolved, inState_append]
    rfl
  · show ((reg.abandon key).2.requests ++ [Request.create key options defaultTimeout now]).countP _ =
      ((reg.abandon key).2.entries ++ [(key, _)]).length
    rw [inState_append, List.length_append, ← hpending]
    rfl

theorem Balanced.abandonAll (hb : reg.Balanced) (h : reg.Coherent) (keys : List String) :
    (reg.abandonAll keys).2.Balanced := by
  induction keys generalizing reg with
  | nil => exact hb
  | cons key keys ih => exact ih (hb.abandon h key) (h.abandon key)

theorem Balanced.sweepEntries (hb : reg.Balanced) (h : reg.Coherent) (now : Instant)
    (l : List (String × Nat)) (hl : ∀ e ∈ l, e ∈ reg.entries) (hnd : (l.map (·.1)).Nodup) :
    (reg.sweepEntries now l).2.Balanced := by
  -- a due entry leaves by the same way out, and the entries yet to come still wait
  induction l generalizing reg with
  | nil => exact hb
  | cons e rest ih =>
    obtain ⟨key, i⟩ := e
    have hm : (key, i) ∈ reg.entries := hl _ List.mem_cons_self
    have hnd' : (rest.map (·.1)).Nodup := (List.nodup_cons.1 hnd).2
    show ((reg.sweepEntry now key i).2.sweepEntries now rest).2.Balanced
    rw [h.sweepEntry_of_mem now hm]
    split
    · have hexpired := hb.release h hm (.cancelled .timedOut)
      rw [h.release_expired hm] at hexpired
      exact ih hexpired (h.expireEntry hm) (Coherent.mem_expireEntry hl hnd) hnd'
    · exact ih hb h (fun e he => hl e (List.mem_cons_of_mem _ he)) hnd'

/-- A look at a request resolves nothing. -/
theorem Balanced.tryResult (hb : reg.Balanced) (i : Nat) : (reg.tryResult i).2.Balanced := by
  unfold Registry.tryResult
  split
  · exact hb
  · next r hr =>
    have hkept : ∀ state, (reg.modify i fun _ => r.tryResult.2).inState state =
        reg.inState state := by
      intro state
      have hmodify := inState_modify hr r.tryResult.2 state
      rw [r.tryResult_keeps.2.2.2] at hmodify
      exact Nat.add_right_cancel hmodify
    exact ⟨hb.outstanding, fun x => (hb.resolved x).trans (hkept _).symm,
      (hkept none).trans hb.pending⟩

/-! ## Steps and histories -/

theorem balanced_empty : Balanced {} where
  outstanding := rfl
  resolved x := by cases x <;> rfl
  pending := rfl

theorem Balanced.perform (hb : reg.Balanced) (h : reg.Coherent) (op : Op) :
    (reg.perform op).Balanced := by
  cases op with
  | register key options defaultTimeout now => exact hb.register h key options defaultTimeout now
  | resolveReply key reply => exact hb.resolveReply h key reply
  | abandon key => exact hb.abandon h key
  | cancelAll => exact hb.abandonAll h _
  | sweepExpired now => exact hb.sweepEntries h now reg.entries (fun _ he => he) h.nodup
  | look number => exact hb.tryResult number
  | letGo number => exact hb

theorem Balanced.run (hb : reg.Balanced) (h : reg.Coherent) (ops : List Op) :
    (reg.run ops).Balanced := by
  induction ops generalizing reg with
  | nil => exact hb
  | cons op ops ih => exact ih (hb.perform h op) (h.perform op)

/-- The sign for the sweeper is no part of the accounts. -/
theorem Balanced.noticed (hb : reg.Balanced) : reg.noticed.Balanced :=
  ⟨hb.outstanding, hb.resolved, hb.pending⟩

/-! ## Answers -/

namespace Coherent

/-- A key that waits leads to a request that can still be resolved. -/
theorem fst_release (h : reg.Coherent) (hf : reg.find? key = some i) (o : Outcome) :
    (reg.release key i o).1 = true := by
  obtain ⟨r, hr, -, hs⟩ := h.pending_of_find? hf
  rw [release_of_pending hr hs]

theorem fst_abandon (h : reg.Coherent) (key : String) :
    (reg.abandon key).1 = reg.contains key := by
  unfold Registry.abandon contains
  cases hf : reg.find? key with
  | none => rfl
  | some i => exact h.fst_release hf _

theorem fst_resolveReply (h : reg.Coherent) (key : String) (m : Message) :
    (reg.resolveReply key m).1 = reg.contains key := by
  unfold Registry.resolveReply contains
  cases hf : reg.find? key with
  | none => rfl
  | some i => exact h.fst_release hf _

theorem contains_eq_true_iff (reg : Registry) (key : String) :
    reg.contains key = true ↔ key ∈ reg.entries.map (·.1) := by
  unfold contains find?
  rw [← Bool.not_eq_false, Option.isSome_eq_false_iff, Option.isNone_iff_eq_none,
    List.lookup_eq_none_iff]
  constructor
  · intro hn
    by_contra hnot
    refine hn fun e he => ?_
    have hne : key ≠ e.1 := fun heq => hnot (heq ▸ List.mem_map_of_mem he)
    simpa using hne
  · intro hin hn
    obtain ⟨e, he, rfl⟩ := List.mem_map.1 hin
    have := hn e he
    simp at this

/-- Of a list of different keys that all wait, every one is given up. -/
theorem fst_abandonAll (h : reg.Coherent) (keys : List String) (hnd : keys.Nodup)
    (hk : ∀ key ∈ keys, reg.contains key = true) : (reg.abandonAll keys).1 = keys.length := by
  induction keys generalizing reg with
  | nil => rfl
  | cons key keys ih =>
    obtain ⟨hnotin, hnd'⟩ := List.nodup_cons.1 hnd
    have hkept : ∀ other ∈ keys, (reg.abandon key).2.contains other = true := by
      intro other ho
      have hne : other ≠ key := fun heq => hnotin (heq ▸ ho)
      obtain ⟨e, he, rfl⟩ := List.mem_map.1
        ((contains_eq_true_iff reg other).1 (hk other (List.mem_cons_of_mem _ ho)))
      refine (contains_eq_true_iff _ _).2 (List.mem_map_of_mem ?_)
      rw [entries_abandon]
      exact List.mem_filter.2 ⟨he, by simpa using hne⟩
    have hwon : (reg.abandon key).1 = true :=
      (h.fst_abandon key).trans (hk key List.mem_cons_self)
    show ((reg.abandon key).2.abandonAll keys).1 + (reg.abandon key).1.toNat = _
    rw [ih (h.abandon key) hnd' hkept, hwon]
    rfl

theorem fst_cancelAll (h : reg.Coherent) : reg.cancelAll.1 = reg.size := by
  unfold cancelAll
  rw [h.fst_abandonAll _ h.nodup fun key hkey => (contains_eq_true_iff reg key).2 hkey,
    List.length_map]
  rfl

theorem fst_sweepExpired (h : reg.Coherent) (now : Instant) :
    (reg.sweepExpired now).1 + (reg.sweepExpired now).2.size = reg.size := by
  unfold size
  rw [(h.sweepExpired_count now).1, (h.sweepExpired_spec now).2.1, ← List.countP_eq_length_filter,
    List.length_eq_countP_add_countP (reg.isDueEntry now)]
  simp

end Coherent

end Registry

end PubSub
