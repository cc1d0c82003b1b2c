import PubSub.Proofs.Registry.Pending

/-!
# One request at a time

A caller that makes a request only when the one before is settled has at most one waiting, and that
is the last one it made.

## Main definitions

- `Registry.Awaits` — the last request waits, and no other does
- `Registry.Answered` — the last request is the one with a number, and none waits

## Main results

- `Registry.awaits_register`, `Registry.Awaits.resolveReply`, `Registry.Answered.tryResult` — a
  request is made, a reply settles it, its caller takes the outcome
- `Registry.Awaits.sweepExpired`, `Registry.sweepExpired_of_empty` — sweeps that change nothing
-/

namespace PubSub.Registry

variable {reg : Registry} {number : Nat} {r : Request} {now : Instant}

/-- The request with a number is the last one that was made, and the only one that waits. -/
structure Awaits (reg : Registry) (number : Nat) (r : Request) : Prop where
  requests : ∃ old, old.length = number ∧ reg.requests = old ++ [r]
  entries : reg.entries = [(r.key, number)]
  pending : r.state = none

/-- The request with a number is the last one that was made, and none waits. -/
structure Answered (reg : Registry) (number : Nat) (r : Request) : Prop where
  requests : ∃ old, old.length = number ∧ reg.requests = old ++ [r]
  entries : reg.entries = []

/-- The last of some requests is changed. -/
theorem modify_last (old : List Request) (r : Request) (f : Request → Request) :
    (old ++ [r]).modify old.length f = old ++ [f r] := by
  simp [List.modify_eq_set_getElem?]

/-! ## What the caller does -/

/-- A request is made while none waits. -/
theorem register_of_empty (h : reg.entries = []) (key : String) (options : RequestOptions)
    (timeout : Duration) (now : Instant) :
    reg.register key options timeout now = (reg.requests.length, { reg with
      requests := reg.requests ++ [Request.create key options timeout now]
      entries := [(key, reg.requests.length)]
      counts := reg.counts.entered
      signalled := true }) := by
  have hfree : reg.find? key = none := by rw [find?, h, List.lookup_nil]
  simp only [register, abandon, hfree, h, List.nil_append]

theorem awaits_register (h : reg.entries = []) (key : String) (options : RequestOptions)
    (timeout : Duration) (now : Instant) : (reg.register key options timeout now).2.Awaits
      reg.requests.length (Request.create key options timeout now) := by
  rw [register_of_empty h]
  exact ⟨⟨reg.requests, rfl, rfl⟩, rfl, rfl⟩

/-- A reply settles the request that waits. -/
theorem Awaits.resolveReply (h : reg.Awaits number r) (m : Message) :
    (reg.resolveReply r.key m).2.Answered number (r.settled (.ofReply m)) ∧
      (reg.resolveReply r.key m).2.requests.length = reg.requests.length ∧
      (reg.resolveReply r.key m).2.signalled = reg.signalled := by
  obtain ⟨requests, entries, counts, signalled⟩ := reg
  obtain ⟨⟨old, rfl, rfl⟩, rfl, hpending⟩ := h
  have hfind : List.lookup r.key [(r.key, old.length)] = some old.length := by simp
  have hlast : (old ++ [r])[old.length]? = some r := by simp
  simp only [Registry.resolveReply, find?, hfind, release, resolve, erase, request?, hlast,
    Request.resolve_of_pending hpending, modify, modify_last]
  exact ⟨⟨⟨old, rfl, rfl⟩, by simp⟩, by simp, trivial⟩

theorem Awaits.request? (h : reg.Awaits number r) : reg.request? number = some r := by
  obtain ⟨old, rfl, hrequests⟩ := h.requests
  simp [Registry.request?, hrequests]

theorem Answered.request? (h : reg.Answered number r) : reg.request? number = some r := by
  obtain ⟨old, rfl, hrequests⟩ := h.requests
  simp [Registry.request?, hrequests]

/-- The caller takes the outcome of its request. -/
theorem Answered.tryResult (h : reg.Answered number r) {o : Outcome} (hslot : r.slot = .filled o)
    (hreceived : r.received = none) :
    ∃ reg', reg.tryResult number = (some (r.options.settle o), reg') ∧
      reg'.entries = [] ∧ reg'.requests.length = reg.requests.length ∧
      reg'.signalled = reg.signalled := by
  have hlook : r.tryResult =
      (some (r.options.settle o), { r with slot := .emptied, received := some o }) := by
    simp [Request.tryResult, hslot, hreceived]
  refine ⟨reg.modify number fun _ => { r with slot := .emptied, received := some o }, ?_, h.entries,
    List.length_modify .., rfl⟩
  simp only [Registry.tryResult, h.request?, hlook]

/-! ## What the sweeper does -/

theorem sweepExpired_of_empty (h : reg.entries = []) (now : Instant) :
    (reg.sweepExpired now).2 = reg := by
  rw [sweepExpired, h, sweepEntries]

/-- A sweep before the deadline of the request that waits leaves everything as it is. -/
theorem Awaits.sweepExpired (h : reg.Awaits number r) (hearly : now < r.expiresAt) :
    (reg.sweepExpired now).2 = reg := by
  have hdue : r.isDue now = false := decide_eq_false (Nat.not_le_of_lt hearly)
  have hdone : r.isDone = false := Request.isDone_eq_false_iff.2 h.pending
  rw [Registry.sweepExpired, h.entries]
  simp [sweepEntries, sweepEntry, h.request?, hdue, hdone]

theorem deadlines_of_empty (h : reg.entries = []) : reg.deadlines = [] := by
  rw [deadlines, h, List.filterMap_nil]

theorem Awaits.deadlines (h : reg.Awaits number r) : reg.deadlines = [r.expiresAt] := by
  simp [Registry.deadlines, h.entries, h.request?]

end PubSub.Registry
