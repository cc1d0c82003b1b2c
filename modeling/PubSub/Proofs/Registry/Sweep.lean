import PubSub.Proofs.Registry.Coherence

/-!
# Sweeps of a registry

What a sweep does to a coherent registry, in closed form: the entries that are due leave, their
requests expire, and nothing else changes. In a coherent registry every entry that a sweep comes to
is still pending, so the branch that takes out requests resolved elsewhere is never entered.
-/

namespace PubSub

namespace Request

/-- The request after it expired. -/
def expired (r : Request) : Request := r.settled (.cancelled .timedOut)

@[simp] theorem key_expired (r : Request) : r.expired.key = r.key := rfl

@[simp] theorem isDue_expired (r : Request) (now : Instant) : r.expired.isDue now = r.isDue now := rfl

theorem state_expired_ne_none (r : Request) : r.expired.state ≠ none := by
  simp [expired, settled]

theorem isDue_iff {r : Request} {now : Instant} : r.isDue now = true ↔ r.expiresAt ≤ now := by
  simp [isDue]

theorem isDue_mono {r : Request} {a b : Instant} (hab : a ≤ b) (h : r.isDue a = true) :
    r.isDue b = true :=
  isDue_iff.2 (Nat.le_trans (isDue_iff.1 h) hab)

end Request

/-- The metrics after a number of requests expired. -/
def RequestCounts.expired (c : RequestCounts) (n : Nat) : RequestCounts :=
  { c with
    outstanding := { c.outstanding with falls := c.outstanding.falls + n }
    timedOut := c.timedOut + n }

theorem RequestCounts.expired_expired (c : RequestCounts) (m n : Nat) :
    (c.expired m).expired n = c.expired (m + n) := by
  simp [expired, Nat.add_assoc]

namespace Registry

/-- A registry is told by its requests, its entries, its metrics and its sign for the sweeper. -/
theorem ext_request? {reg reg' : Registry} (hr : ∀ i, reg.request? i = reg'.request? i)
    (he : reg.entries = reg'.entries) (hc : reg.counts = reg'.counts)
    (hs : reg.signalled = reg'.signalled) : reg = reg' := by
  have hreq : reg.requests = reg'.requests := List.ext_getElem? hr
  cases reg
  cases reg'
  simp_all

/-- Whether the request of an entry is due. -/
def isDueEntry (reg : Registry) (now : Instant) (e : String × Nat) : Bool :=
  (reg.request? e.2).any (·.isDue now)

/-- The registry after the entry of a request has expired. -/
def expireEntry (reg : Registry) (key : String) (i : Nat) : Registry :=
  { (reg.erase key).modify i Request.expired with
    counts := reg.counts.left.resolved .timedOut }

theorem request?_expireEntry (reg : Registry) (key : String) (i j : Nat) :
    (reg.expireEntry key i).request? j =
      if i = j then (reg.request? j).map Request.expired else reg.request? j :=
  request?_modify (reg.erase key) i Request.expired j

@[simp] theorem isDueEntry_expireEntry (reg : Registry) (key : String) (i : Nat) (now : Instant) :
    (reg.expireEntry key i).isDueEntry now = reg.isDueEntry now := by
  funext e
  unfold isDueEntry
  rw [request?_expireEntry]
  by_cases h : i = e.2
  · cases hr : reg.request? e.2 <;> simp [h]
  · simp [h]

namespace Coherent

variable {reg : Registry}

theorem release_expired (h : reg.Coherent) {key : String} {i : Nat} (hm : (key, i) ∈ reg.entries) :
    reg.release key i (.cancelled .timedOut) = (true, reg.expireEntry key i) := by
  obtain ⟨r, hr, -, hs⟩ := (h.waiting key i).1 hm
  rw [release_of_pending hr hs, expireEntry]
  have hmod : (reg.erase key).modify i (fun _ => r.settled (.cancelled .timedOut)) =
      (reg.erase key).modify i Request.expired := by
    simp only [modify, erase]
    congr 1
    apply List.ext_getElem?
    intro j
    simp only [List.getElem?_modify]
    by_cases hij : i = j
    · subst hij
      have hr' : reg.requests[i]? = some r := hr
      simp [hr', Request.expired]
    · simp [hij]
  rw [hmod]
  rfl

theorem expireEntry (h : reg.Coherent) {key : String} {i : Nat} (hm : (key, i) ∈ reg.entries) :
    (reg.expireEntry key i).Coherent := by
  have hc := h.release hm (.cancelled .timedOut)
  rwa [h.release_expired hm] at hc

/-- What a sweep does with an entry that waits: it expires if it is due and stays otherwise. The
request is pending, so it was not resolved elsewhere. -/
theorem sweepEntry_of_mem (h : reg.Coherent) (now : Instant) {key : String} {i : Nat}
    (hm : (key, i) ∈ reg.entries) :
    reg.sweepEntry now key i =
      if reg.isDueEntry now (key, i) then (true, reg.expireEntry key i) else (false, reg) := by
  obtain ⟨r, hr, -, hs⟩ := (h.waiting key i).1 hm
  simp [sweepEntry, isDueEntry, hr, Request.isDone_eq_false_iff.2 hs, h.release_expired hm]

/-- The expiry of an entry takes out that entry and no other: its key is its own. -/
theorem entries_expireEntry (h : reg.Coherent) {key : String} {i : Nat}
    (hm : (key, i) ∈ reg.entries) :
    (reg.expireEntry key i).entries = reg.entries.filter (fun e => !decide (e = (key, i))) := by
  refine List.filter_congr fun e he => ?_
  obtain ⟨key', j⟩ := e
  by_cases hk : key' = key
  · subst hk
    have hij : j = i := Option.some.inj
      ((h.find?_eq_some_iff.2 he).symm.trans (h.find?_eq_some_iff.2 hm))
    simp [hij]
  · simp [hk]

/-- Entries that a sweep has yet to come to are not disturbed by the expiry of another. -/
theorem mem_expireEntry {key : String} {i : Nat} {rest : List (String × Nat)}
    (hl : ∀ e ∈ (key, i) :: rest, e ∈ reg.entries)
    (hnd : (((key, i) :: rest).map (·.1)).Nodup) :
    ∀ e ∈ rest, e ∈ (reg.expireEntry key i).entries := by
  intro e he
  have hne : e.1 ≠ key := by
    rintro rfl
    exact (List.nodup_cons.1 hnd).1 (List.mem_map.2 ⟨e, he, rfl⟩)
  have hmem : e ∈ reg.entries := hl e (List.mem_cons_of_mem _ he)
  exact List.mem_filter.2 ⟨hmem, by simpa using hne⟩

/-- Sweeping a list of entries that all wait: the registry stays coherent, exactly the due ones of
the list leave, and exactly their requests expire. -/
theorem sweepEntries_spec (h : reg.Coherent) (now : Instant) (l : List (String × Nat))
    (hl : ∀ e ∈ l, e ∈ reg.entries) (hnd : (l.map (·.1)).Nodup) :
    (reg.sweepEntries now l).2.Coherent ∧
      (reg.sweepEntries now l).2.entries =
        reg.entries.filter (fun e => !(decide (e ∈ l) && reg.isDueEntry now e)) ∧
      ∀ j, (reg.sweepEntries now l).2.request? j =
        (reg.request? j).map fun r => if (r.key, j) ∈ l ∧ r.isDue now then r.expired else r := by
  -- each expiry leaves the rest of the list waiting, and keeps what is due
  induction l generalizing reg with
  | nil => simp [sweepEntries, h]
  | cons e rest ih =>
    obtain ⟨key, i⟩ := e
    have hm : (key, i) ∈ reg.entries := hl _ List.mem_cons_self
    have hnotin : (key, i) ∉ rest := by
      intro hin
      exact (List.nodup_cons.1 hnd).1 (List.mem_map_of_mem hin)
    obtain ⟨r, hr, hkey, -⟩ := (h.waiting key i).1 hm
    have hstep := h.sweepEntry_of_mem now hm
    have hnd' : (rest.map (·.1)).Nodup := (List.nodup_cons.1 hnd).2
    cases hdue : reg.isDueEntry now (key, i) with
    | true =>
      have hcons : (reg.sweepEntries now ((key, i) :: rest)).2 =
          ((reg.expireEntry key i).sweepEntries now rest).2 := by
        simp [sweepEntries, hstep, hdue]
      have hrest := mem_expireEntry hl hnd
      obtain ⟨hco, hen, hrq⟩ := ih (h.expireEntry hm) hrest hnd'
      rw [hcons]
      refine ⟨hco, ?_, fun j => ?_⟩
      · rw [hen, isDueEntry_expireEntry, h.entries_expireEntry hm, List.filter_filter]
        refine List.filter_congr fun e _ => ?_
        by_cases heq : e = (key, i) <;> simp [heq, hdue]
      · rw [hrq, request?_expireEntry]
        by_cases hij : i = j
        · subst hij
          have hd : r.isDue now = true := by simpa [isDueEntry, hr] using hdue
          simp [hr, hnotin, hkey, hd]
        · have hji : j ≠ i := fun heq => hij heq.symm
          simp [hij, hji]
    | false =>
      have hcons : (reg.sweepEntries now ((key, i) :: rest)).2 =
          (reg.sweepEntries now rest).2 := by
        simp [sweepEntries, hstep, hdue]
      have hrest : ∀ e ∈ rest, e ∈ reg.entries := fun e he => hl e (List.mem_cons_of_mem _ he)
      obtain ⟨hco, hen, hrq⟩ := ih h hrest hnd'
      rw [hcons]
      refine ⟨hco, ?_, fun j => ?_⟩
      · rw [hen]
        refine List.filter_congr fun e he => ?_
        by_cases heq : e = (key, i)
        · subst heq
          simp [hdue]
        · simp [heq]
      · rw [hrq]
        cases hj : reg.request? j with
        | none => rfl
        | some r' =>
          have hiff : ((r'.key, j) ∈ (key, i) :: rest ∧ r'.isDue now) ↔
              ((r'.key, j) ∈ rest ∧ r'.isDue now) := by
            constructor
            · rintro ⟨hin, hd⟩
              rcases List.mem_cons.1 hin with heq | hin
              · obtain ⟨-, rfl⟩ := Prod.mk.inj heq
                simp [isDueEntry, hj, hd] at hdue
              · exact ⟨hin, hd⟩
            · rintro ⟨hin, hd⟩
              exact ⟨List.mem_cons_of_mem _ hin, hd⟩
          simp only [Option.map_some, hiff]

/-- A sweep in closed form: the registry stays coherent, the due entries leave, and the pending
requests that are due expire. -/
theorem sweepExpired_spec (h : reg.Coherent) (now : Instant) :
    (reg.sweepExpired now).2.Coherent ∧
      (reg.sweepExpired now).2.entries = reg.entries.filter (fun e => !reg.isDueEntry now e) ∧
      ∀ j, (reg.sweepExpired now).2.request? j =
        (reg.request? j).map fun r => if r.state = none ∧ r.isDue now then r.expired else r := by
  obtain ⟨hco, hen, hrq⟩ := h.sweepEntries_spec now reg.entries (fun _ he => he) h.nodup
  refine ⟨hco, hen.trans (List.filter_congr fun e he => by simp [he]), fun j => ?_⟩
  rw [sweepExpired, hrq]
  cases hj : reg.request? j with
  | none => rfl
  | some r => simp only [Option.map_some, h.state_eq_none_iff hj, h.find?_eq_some_iff]

/-- Whenever a sweep comes to an entry, the request of that entry is pending. -/
theorem pending_at_sweepEntry (h : reg.Coherent) (now : Instant) {swept rest : List (String × Nat)}
    {key : String} {i : Nat} (he : reg.entries = swept ++ (key, i) :: rest) :
    ∃ r, (reg.sweepEntries now swept).2.request? i = some r ∧ r.isDone = false := by
  have hnd := h.nodup
  rw [he, List.map_append, List.map_cons] at hnd
  have hl : ∀ e ∈ swept, e ∈ reg.entries := fun e hm => by rw [he]; exact List.mem_append_left _ hm
  have hm : (key, i) ∈ reg.entries := by rw [he]; simp
  obtain ⟨r, hr, hkey, hs⟩ := (h.waiting key i).1 hm
  obtain ⟨-, -, hrq⟩ := h.sweepEntries_spec now swept hl (List.nodup_append.1 hnd).1
  have hnotin : (r.key, i) ∉ swept := by
    intro hin
    rw [hkey] at hin
    exact (List.nodup_append.1 hnd).2.2 key (List.mem_map.2 ⟨_, hin, rfl⟩) key (by simp) rfl
  refine ⟨r, ?_, Request.isDone_eq_false_iff.2 hs⟩
  rw [hrq, hr]
  simp [hnotin]

/-- A sweep counts the entries of the list that are due, in its answer and in the metrics. -/
theorem sweepEntries_count (h : reg.Coherent) (now : Instant) (l : List (String × Nat))
    (hl : ∀ e ∈ l, e ∈ reg.entries) (hnd : (l.map (·.1)).Nodup) :
    (reg.sweepEntries now l).1 = l.countP (reg.isDueEntry now) ∧
      (reg.sweepEntries now l).2.counts = reg.counts.expired (l.countP (reg.isDueEntry now)) ∧
      (reg.sweepEntries now l).2.signalled = reg.signalled := by
  induction l generalizing reg with
  | nil => simp [sweepEntries, RequestCounts.expired]
  | cons e rest ih =>
    obtain ⟨key, i⟩ := e
    have hm : (key, i) ∈ reg.entries := hl _ List.mem_cons_self
    have hstep := h.sweepEntry_of_mem now hm
    have hnd' : (rest.map (·.1)).Nodup := (List.nodup_cons.1 hnd).2
    cases hdue : reg.isDueEntry now (key, i) with
    | true =>
      obtain ⟨h1, h2, h3⟩ := ih (h.expireEntry hm) (mem_expireEntry hl hnd) hnd'
      rw [isDueEntry_expireEntry] at h1 h2
      have hcounts : (reg.expireEntry key i).counts = reg.counts.expired 1 := rfl
      simp only [sweepEntries, hstep, hdue, if_true, h1, h2, h3, hcounts,
        RequestCounts.expired_expired, List.countP_cons_of_pos, Bool.toNat_true, Nat.add_comm]
      exact ⟨trivial, trivial, rfl⟩
    | false =>
      obtain ⟨h1, h2, h3⟩ := ih h (fun e he => hl e (List.mem_cons_of_mem _ he)) hnd'
      simp [sweepEntries, hstep, hdue, h1, h2, h3]

theorem sweepExpired_count (h : reg.Coherent) (now : Instant) :
    (reg.sweepExpired now).1 = reg.entries.countP (reg.isDueEntry now) ∧
      (reg.sweepExpired now).2.counts =
        reg.counts.expired (reg.entries.countP (reg.isDueEntry now)) ∧
      (reg.sweepExpired now).2.signalled = reg.signalled :=
  h.sweepEntries_count now reg.entries (fun _ he => he) h.nodup

/-- What is due after a sweep was due before it. -/
theorem isDueEntry_sweepExpired (h : reg.Coherent) (a b : Instant) :
    (reg.sweepExpired a).2.isDueEntry b = reg.isDueEntry b := by
  funext e
  unfold isDueEntry
  rw [(h.sweepExpired_spec a).2.2]
  cases reg.request? e.2 with
  | none => rfl
  | some r =>
    simp only [Option.map_some, Option.any_some]
    split <;> rfl

/-- What is due at an instant is due at every later one. -/
theorem isDueEntry_mono {a b : Instant} (hab : a ≤ b) {e : String × Nat}
    (h : reg.isDueEntry a e = true) : reg.isDueEntry b e = true := by
  obtain ⟨r, hr, hd⟩ := (Option.any_eq_true _ _).1 h
  exact (Option.any_eq_true _ _).2 ⟨r, hr, Request.isDue_mono hab hd⟩

/-- A sweep that follows an earlier one leaves what it would have left by itself. -/
theorem sweepExpired_sweepExpired (h : reg.Coherent) {a b : Instant} (hab : a ≤ b) :
    ((reg.sweepExpired a).2.sweepExpired b).2 = (reg.sweepExpired b).2 := by
  obtain ⟨hca, hea, hra⟩ := h.sweepExpired_spec a
  obtain ⟨-, heb, hrb⟩ := h.sweepExpired_spec b
  obtain ⟨-, heab, hrab⟩ := hca.sweepExpired_spec b
  obtain ⟨-, hna, hsa⟩ := h.sweepExpired_count a
  obtain ⟨-, hnb, hsb⟩ := h.sweepExpired_count b
  obtain ⟨-, hnab, hsab⟩ := hca.sweepExpired_count b
  rw [h.isDueEntry_sweepExpired] at heab hnab
  refine ext_request? (fun i => ?_) ?_ ?_ ?_
  · rw [hrab, hra, hrb, Option.map_map]
    congr 1
    funext r
    by_cases hda : r.state = none ∧ r.isDue a
    · simp [hda, Request.isDue_mono hab hda.2, r.state_expired_ne_none]
    · simp [hda]
  · rw [heab, hea, heb, List.filter_filter]
    refine List.filter_congr fun e _ => ?_
    cases hda : reg.isDueEntry a e with
    | true => simp [isDueEntry_mono hab hda]
    | false => simp
  · rw [hnab, hna, hnb, hea, RequestCounts.expired_expired, List.countP_filter]
    congr 1
    -- what is due at the second sweep was due at the first one already, or is due since
    rw [List.countP_eq_countP_filter_add reg.entries (reg.isDueEntry b) (reg.isDueEntry a),
      List.countP_filter, List.countP_filter]
    congr 1
    refine List.countP_congr fun e _ => ?_
    cases hda : reg.isDueEntry a e with
    | true => simp [isDueEntry_mono hab hda]
    | false => simp
  · rw [hsab, hsa, hsb]

/-- A sweep to which nothing is due changes nothing. -/
theorem sweepExpired_of_fresh (h : reg.Coherent) {now : Instant}
    (hf : ∀ e ∈ reg.entries, reg.isDueEntry now e = false) : (reg.sweepExpired now).2 = reg := by
  obtain ⟨-, he, hr⟩ := h.sweepExpired_spec now
  obtain ⟨-, hc, hs⟩ := h.sweepExpired_count now
  have hzero : reg.entries.countP (reg.isDueEntry now) = 0 := by
    refine List.countP_eq_zero.2 fun e hm => ?_
    simp [hf e hm]
  refine ext_request? (fun i => ?_) ?_ ?_ hs
  · rw [hr]
    cases hi : reg.request? i with
    | none => rfl
    | some r =>
      -- a pending request has an entry, which is not due
      have hnot : ¬(r.state = none ∧ r.isDue now = true) := by
        rintro ⟨hstate, hd⟩
        have hmem := h.find?_eq_some_iff.1 ((h.state_eq_none_iff hi).1 hstate)
        have := hf _ hmem
        simp [isDueEntry, hi, hd] at this
      simp [hnot]
  · rw [he]
    exact List.filter_eq_self.2 fun e hm => by simp [hf e hm]
  · rw [hc, hzero]
    simp [RequestCounts.expired]

end Coherent

end Registry

end PubSub
