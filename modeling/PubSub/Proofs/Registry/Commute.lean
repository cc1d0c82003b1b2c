import PubSub.Proofs.Registry.Accounts
import Mathlib.Data.List.Count
import Mathlib.Data.List.Nodup
import Mathlib.Data.List.Perm.Basic

/-!
# What commutes in a registry

A registry does not tell in which order independent things were done to it. Two requests that leave
under different keys may change places, and so may a request that leaves and a sweep to which it is
not due; a whole list of such things may then be permuted. Of two sweeps the later instant decides.

## Main results

- `Registry.sweeps_compose` — what one sweep does, and that two are one
- `Registry.Coherent.leave_leave`, `Registry.Coherent.leave_sweepExpired` — two things change places
- `Registry.independent_exits_commute` — lists of replies and abandoned requests, and a sweep
-/

namespace PubSub

theorem RequestCounts.left_resolved_comm (counts : RequestCounts) (x y : Resolution) :
    (counts.left.resolved x).left.resolved y = (counts.left.resolved y).left.resolved x := by
  cases x <;> cases y <;> rfl

theorem RequestCounts.expired_left_resolved (counts : RequestCounts) (n : Nat) (x : Resolution) :
    (counts.expired n).left.resolved x = (counts.left.resolved x).expired n := by
  cases x <;> simp [expired, left, resolved, Gauge.fall] <;> omega

namespace Registry

variable {reg : Registry}

/-! ## Sweeps -/

namespace Coherent

/-- A sweep takes out the entries that are due and no others. -/
theorem mem_entries_sweepExpired (h : reg.Coherent) (now : Instant) (key : String) (i : Nat) :
    (key, i) ∈ (reg.sweepExpired now).2.entries ↔
      (key, i) ∈ reg.entries ∧ ∃ r, reg.request? i = some r ∧ now < r.expiresAt := by
  rw [(h.sweepExpired_spec now).2.1, List.mem_filter]
  refine and_congr_right fun hm => ?_
  obtain ⟨r, hr, -, -⟩ := (h.waiting key i).1 hm
  simp [isDueEntry, hr, Request.isDue]

/-- What waits under a key in a coherent registry is pending. -/
theorem state_of_mem (h : reg.Coherent) {key : String} {i : Nat} {r : Request}
    (hm : (key, i) ∈ reg.entries) (hr : reg.request? i = some r) : r.state = none := by
  obtain ⟨r', hr', -, hs⟩ := (h.waiting key i).1 hm
  rw [hr] at hr'
  obtain rfl := Option.some.inj hr'
  exact hs

theorem request?_sweepExpired_of_due (h : reg.Coherent) {now : Instant} {key : String} {i : Nat}
    {r : Request} (hm : (key, i) ∈ reg.entries) (hr : reg.request? i = some r)
    (hdue : r.expiresAt ≤ now) :
    (reg.sweepExpired now).2.request? i = some (r.settled (.cancelled .timedOut)) := by
  rw [(h.sweepExpired_spec now).2.2, hr, Option.map_some,
    if_pos ⟨h.state_of_mem hm hr, Request.isDue_iff.2 hdue⟩]
  rfl

/-- A sweep leaves a request alone that does not wait or is not due. -/
theorem request?_sweepExpired_of_not_due (h : reg.Coherent) {now : Instant} {i : Nat}
    (hnot : ∀ key r, (key, i) ∈ reg.entries → reg.request? i = some r → now < r.expiresAt) :
    (reg.sweepExpired now).2.request? i = reg.request? i := by
  rw [(h.sweepExpired_spec now).2.2]
  cases hr : reg.request? i with
  | none => rfl
  | some r =>
    have hstays : ¬(r.state = none ∧ r.isDue now = true) := by
      rintro ⟨hs, hdue⟩
      have := hnot r.key r ((h.waiting r.key i).2 ⟨r, hr, rfl, hs⟩) hr
      exact absurd (Request.isDue_iff.1 hdue) (Nat.not_le.2 this)
    rw [Option.map_some, if_neg hstays]

/-- Two sweeps leave what one sweep at the later instant leaves. -/
theorem sweepExpired_max (h : reg.Coherent) (a b : Instant) :
    ((reg.sweepExpired a).2.sweepExpired b).2 = (reg.sweepExpired (max a b)).2 := by
  rcases Nat.le_total a b with hab | hba
  · rw [h.sweepExpired_sweepExpired hab, Nat.max_eq_right hab]
  · -- the second sweep finds nothing that is still due
    rw [Nat.max_eq_left hba]
    refine (h.sweepExpired_spec a).1.sweepExpired_of_fresh fun e he => ?_
    refine isDueEntry_eq_false (fun d hd => ?_) he
    exact Nat.lt_of_le_of_lt hba (h.lt_of_mem_deadlines_sweepExpired hd).1

/-- Two sweeps let as many requests expire as one at the later instant. -/
theorem sweepExpired_add (h : reg.Coherent) (a b : Instant) :
    (reg.sweepExpired a).1 + ((reg.sweepExpired a).2.sweepExpired b).1 =
      (reg.sweepExpired (max a b)).1 := by
  have hfirst := h.fst_sweepExpired a
  have hsecond := (h.sweepExpired_spec a).1.fst_sweepExpired b
  have hboth := h.fst_sweepExpired (max a b)
  rw [h.sweepExpired_max] at hsecond
  omega

/-- After a sweep the next expiry is later. -/
theorem lt_nextExpiry_sweepExpired (h : reg.Coherent) {now d : Instant}
    (hd : (reg.sweepExpired now).2.nextExpiry = some d) : now < d :=
  (h.lt_of_mem_deadlines_sweepExpired (List.min?_mem hd)).1

/-- It does not matter in which order a sweep comes to the entries. -/
theorem sweepEntries_perm (h : reg.Coherent) (now : Instant) {l : List (String × Nat)}
    (hperm : l.Perm reg.entries) : reg.sweepEntries now l = reg.sweepExpired now := by
  have hl : ∀ e ∈ l, e ∈ reg.entries := fun e he => hperm.mem_iff.1 he
  have hnd : (l.map (·.1)).Nodup := (hperm.map _).nodup_iff.2 h.nodup
  obtain ⟨-, hentries, hrequest⟩ := h.sweepEntries_spec now l hl hnd
  obtain ⟨hfst, hcounts, hsignalled⟩ := h.sweepEntries_count now l hl hnd
  obtain ⟨-, hentries', hrequest'⟩ := h.sweepEntries_spec now reg.entries (fun _ he => he) h.nodup
  obtain ⟨hfst', hcounts', hsignalled'⟩ := h.sweepExpired_count now
  have hcount := hperm.countP_eq (reg.isDueEntry now)
  refine Prod.ext ?_ (ext_request? (fun i => ?_) ?_ ?_ ?_)
  · rw [hfst, hfst', hcount]
  · simp only [sweepExpired, hrequest, hrequest', hperm.mem_iff]
  · simp only [sweepExpired, hentries, hentries', hperm.mem_iff]
  · rw [hcounts, hcounts', hcount]
  · rw [hsignalled, hsignalled']

end Coherent

/-- Whatever was done to a registry before: a sweep takes out exactly the entries whose deadline is
at or before its instant, each of their requests times out, and every other request and entry stays.
Two sweeps come to one at the later instant, in what they leave and in what they count; so one that
is not later than the last does nothing. Nothing that is due is left, and the order in which a sweep
comes to the entries makes no difference. -/
theorem sweeps_compose (ops : List Op) (a b : Instant) :
    let reg := run {} ops
    let once := reg.sweepExpired a
    let twice := once.2.sweepExpired b
    let both := reg.sweepExpired (max a b)
    (∀ key i, (key, i) ∈ once.2.entries ↔
      (key, i) ∈ reg.entries ∧ ∃ r, reg.request? i = some r ∧ a < r.expiresAt) ∧
    (∀ key i r, (key, i) ∈ reg.entries → reg.request? i = some r → r.expiresAt ≤ a →
      once.2.request? i = some (r.settled (.cancelled .timedOut))) ∧
    (∀ i, (∀ key r, (key, i) ∈ reg.entries → reg.request? i = some r → a < r.expiresAt) →
      once.2.request? i = reg.request? i) ∧
    (once.1 + once.2.size = reg.size ∧ once.2.counts = reg.counts.expired once.1) ∧
    (twice.2 = both.2 ∧ once.1 + twice.1 = both.1) ∧
    (b ≤ a → twice = (0, once.2)) ∧
    (∀ d, twice.2.nextExpiry = some d → max a b < d) ∧
    (∀ l, l.Perm reg.entries → reg.sweepEntries a l = once) := by
  intro reg once twice both
  have h : reg.Coherent := coherent_empty.run ops
  have htwice : twice.2 = both.2 := h.sweepExpired_max a b
  have hsum : once.1 + twice.1 = both.1 := h.sweepExpired_add a b
  obtain ⟨hfst, hcounts, -⟩ := h.sweepExpired_count a
  refine ⟨h.mem_entries_sweepExpired a, fun key i r => h.request?_sweepExpired_of_due,
    fun i => h.request?_sweepExpired_of_not_due, ⟨h.fst_sweepExpired a, ?_⟩, ⟨htwice, hsum⟩,
    fun hba => ?_, fun d hd => ?_, fun l => h.sweepEntries_perm a⟩
  · rw [hcounts, hfst]
  · have hboth : both = once := congrArg reg.sweepExpired (Nat.max_eq_left hba)
    rw [hboth] at htwice hsum
    exact Prod.ext (by omega) htwice
  · rw [htwice] at hd
    exact h.lt_nextExpiry_sweepExpired hd

/-! ## Requests that leave -/

/-- The registry after the request of an entry has left with an outcome. -/
def settleEntry (reg : Registry) (key : String) (i : Nat) (o : Outcome) : Registry :=
  { (reg.erase key).modify i (·.settled o) with counts := reg.counts.left.resolved o.resolution }

theorem request?_settleEntry (reg : Registry) (key : String) (i : Nat) (o : Outcome) (j : Nat) :
    (reg.settleEntry key i o).request? j =
      if i = j then (reg.request? j).map (·.settled o) else reg.request? j :=
  request?_modify (reg.erase key) i (·.settled o) j

theorem mem_entries_settleEntry {key key' : String} {i j : Nat} {o : Outcome} :
    (key', j) ∈ (reg.settleEntry key i o).entries ↔ (key', j) ∈ reg.entries ∧ key' ≠ key := by
  simp [settleEntry, erase, modify]

/-- An exit spares what is due, whether or not it is the entry that leaves. -/
@[simp] theorem isDueEntry_settleEntry (reg : Registry) (key : String) (i : Nat) (o : Outcome)
    (now : Instant) : (reg.settleEntry key i o).isDueEntry now = reg.isDueEntry now := by
  funext e
  unfold isDueEntry
  rw [request?_settleEntry]
  split
  · cases reg.request? e.2 <;> rfl
  · rfl

/-- Replacing a request by what it settles to is settling it. -/
theorem modify_settled {i : Nat} {r : Request} (hr : reg.request? i = some r) (o : Outcome) :
    (reg.modify i fun _ => r.settled o) = reg.modify i (·.settled o) := by
  refine ext_request? (fun j => ?_) rfl rfl rfl
  rw [request?_modify, request?_modify]
  by_cases hij : i = j
  · subst hij
    simp [hr]
  · simp [hij]

theorem leave_of_free {x : Exit} (h : reg.find? x.key = none) : reg.leave x = (false, reg) := by
  cases x with
  | reply key m =>
    have hfree : reg.find? key = none := h
    simp only [leave, resolveReply, hfree]
  | abandon key =>
    have hfree : reg.find? key = none := h
    simp only [leave, abandon, hfree]

namespace Coherent

/-- The request that waits under a key leaves, and nothing else happens. -/
theorem leave_of_find? (h : reg.Coherent) {x : Exit} {i : Nat} (hf : reg.find? x.key = some i) :
    reg.leave x = (true, reg.settleEntry x.key i x.outcome) := by
  obtain ⟨r, hr, -, hs⟩ := h.pending_of_find? hf
  have hrelease : reg.leave x = reg.release x.key i x.outcome := by
    cases x with
    | reply key m =>
      have hwaits : reg.find? key = some i := hf
      simp only [Registry.leave, Registry.resolveReply, hwaits]
      rfl
    | abandon key =>
      have hwaits : reg.find? key = some i := hf
      simp only [Registry.leave, Registry.abandon, hwaits]
      rfl
  have hr' : (reg.erase x.key).request? i = some r := hr
  rw [hrelease, release_of_pending hr hs, modify_settled hr']
  rfl

theorem leave (h : reg.Coherent) (x : Exit) : (reg.leave x).2.Coherent := by
  cases x with
  | reply key m => exact h.resolveReply key m
  | abandon key => exact h.abandon key

/-- An exit under one key does not change what waits under another. -/
theorem find?_leave (h : reg.Coherent) {x : Exit} {key : String} (hne : key ≠ x.key) :
    (reg.leave x).2.find? key = reg.find? key := by
  cases hf : reg.find? x.key with
  | none => rw [leave_of_free hf]
  | some i =>
    refine Option.ext fun j => ?_
    rw [(h.leave x).find?_eq_some_iff, h.find?_eq_some_iff, h.leave_of_find? hf,
      mem_entries_settleEntry, and_iff_left hne]

/-- Two requests that leave under different keys may change places. -/
theorem leave_leave (h : reg.Coherent) {x y : Exit} (hne : x.key ≠ y.key) :
    ((reg.leave x).2.leave y).1 = (reg.leave y).1 ∧
      ((reg.leave x).2.leave y).2 = ((reg.leave y).2.leave x).2 := by
  have hx := h.find?_leave hne
  have hy := h.find?_leave hne.symm
  cases hfx : reg.find? x.key with
  | none => rw [leave_of_free hfx, leave_of_free (hx.trans hfx)]; exact ⟨rfl, rfl⟩
  | some i =>
    cases hfy : reg.find? y.key with
    | none => rw [leave_of_free hfy, leave_of_free (hy.trans hfy)]; exact ⟨rfl, rfl⟩
    | some j =>
      rw [(h.leave x).leave_of_find? (hy.trans hfy), (h.leave y).leave_of_find? (hx.trans hfx),
        h.leave_of_find? hfx, h.leave_of_find? hfy]
      refine ⟨rfl, ext_request? (fun k => ?_) ?_ ?_ rfl⟩
      · have hij : i ≠ j := by
          rintro rfl
          obtain ⟨r, hr, hkey, -⟩ := h.pending_of_find? hfx
          obtain ⟨r', hr', hkey', -⟩ := h.pending_of_find? hfy
          rw [hr] at hr'
          obtain rfl := Option.some.inj hr'
          exact hne (hkey.symm.trans hkey')
        simp only [request?_settleEntry]
        by_cases hik : i = k
        · have hjk : j ≠ k := fun hjk => hij (hik.trans hjk.symm)
          rw [if_neg hjk, if_pos hik, if_pos hik, if_neg hjk]
        · rw [if_neg hik, if_neg hik]
      · show (reg.entries.filter _).filter _ = (reg.entries.filter _).filter _
        rw [List.filter_filter, List.filter_filter]
        exact List.filter_congr fun e _ => Bool.and_comm _ _
      · exact reg.counts.left_resolved_comm _ _

/-- Lists of exits under different keys may be permuted. -/
theorem leaveAll_perm {xs ys : List Exit} (hperm : xs.Perm ys) (h : reg.Coherent)
    (hkeys : (xs.map Exit.key).Nodup) :
    (reg.leaveAll xs).1.Perm (reg.leaveAll ys).1 ∧
      (reg.leaveAll xs).2 = (reg.leaveAll ys).2 := by
  -- on the derivation of the permutation, which swaps two neighbours at a time
  induction hperm generalizing reg with
  | nil => exact ⟨.refl _, rfl⟩
  | cons x _ ih =>
    obtain ⟨hanswers, hleft⟩ := ih (h.leave x) (List.nodup_cons.1 hkeys).2
    exact ⟨hanswers.cons _, hleft⟩
  | swap x y l =>
    have hne : y.key ≠ x.key := fun heq => (List.nodup_cons.1 hkeys).1 (by simp [heq])
    obtain ⟨hx, hleft⟩ := h.leave_leave hne
    obtain ⟨hy, -⟩ := h.leave_leave hne.symm
    simp only [leaveAll, hx, hy, hleft]
    exact ⟨.swap _ _ _, trivial⟩
  | trans hxy _ ih ih' =>
    obtain ⟨hanswers, hleft⟩ := ih h hkeys
    obtain ⟨hanswers', hleft'⟩ := ih' h ((hxy.map _).nodup_iff.1 hkeys)
    exact ⟨hanswers.trans hanswers', hleft.trans hleft'⟩

end Coherent

theorem leaveAll_append (reg : Registry) (xs ys : List Exit) :
    reg.leaveAll (xs ++ ys) =
      ((reg.leaveAll xs).1 ++ ((reg.leaveAll xs).2.leaveAll ys).1,
        ((reg.leaveAll xs).2.leaveAll ys).2) := by
  induction xs generalizing reg with
  | nil => rfl
  | cons x xs ih => simp only [List.cons_append, leaveAll, ih]

/-! ## Requests that leave around a sweep -/

/-- No request that waits under a key is due. -/
def Spares (reg : Registry) (now : Instant) (key : String) : Prop :=
  ∀ i r, reg.find? key = some i → reg.request? i = some r → now < r.expiresAt

instance (now : Instant) (key : String) : Decidable (reg.Spares now key) :=
  decidable_of_iff (∀ i ∈ reg.find? key, ∀ r ∈ reg.request? i, now < r.expiresAt)
    ⟨fun h i r hi hr => h i hi r hr, fun h i hi r hr => h i r hi hr⟩

namespace Coherent

/-- An exit changes no deadline. -/
theorem spares_leave (h : reg.Coherent) {now : Instant} {x : Exit} {key : String}
    (hspares : reg.Spares now key) : (reg.leave x).2.Spares now key := by
  intro j r hfind hr
  cases hf : reg.find? x.key with
  | none =>
    rw [leave_of_free hf] at hfind hr
    exact hspares j r hfind hr
  | some i =>
    rw [(h.leave x).find?_eq_some_iff, h.leave_of_find? hf, mem_entries_settleEntry] at hfind
    rw [h.leave_of_find? hf, request?_settleEntry] at hr
    have hwaits := h.find?_eq_some_iff.2 hfind.1
    obtain ⟨r', hr', -⟩ := h.pending_of_find? hwaits
    have hlater := hspares j r' hwaits hr'
    rw [hr'] at hr
    split at hr
    · obtain rfl := Option.some.inj hr
      exact hlater
    · obtain rfl := Option.some.inj hr
      exact hlater

/-- A request that is not due still waits after a sweep. -/
theorem find?_sweepExpired (h : reg.Coherent) {now : Instant} {key : String}
    (hspares : reg.Spares now key) : (reg.sweepExpired now).2.find? key = reg.find? key := by
  refine Option.ext fun i => ?_
  rw [(h.sweepExpired_spec now).1.find?_eq_some_iff, h.mem_entries_sweepExpired,
    ← h.find?_eq_some_iff]
  refine and_iff_left_of_imp fun hf => ?_
  obtain ⟨r, hr, -⟩ := h.pending_of_find? hf
  exact ⟨r, hr, hspares i r hf hr⟩

/-- A request that leaves may change places with a sweep to which it is not due. -/
theorem leave_sweepExpired (h : reg.Coherent) {now : Instant} {x : Exit}
    (hspares : reg.Spares now x.key) :
    ((reg.sweepExpired now).2.leave x).1 = (reg.leave x).1 ∧
      (reg.leave x).2.sweepExpired now =
        ((reg.sweepExpired now).1, ((reg.sweepExpired now).2.leave x).2) := by
  have hswept := (h.sweepExpired_spec now).1
  have hkept := h.find?_sweepExpired hspares
  cases hf : reg.find? x.key with
  | none =>
    rw [leave_of_free hf, leave_of_free (hkept.trans hf)]
    exact ⟨rfl, rfl⟩
  | some i =>
    have hleft := h.leave x
    rw [h.leave_of_find? hf] at hleft
    rw [h.leave_of_find? hf, hswept.leave_of_find? (hkept.trans hf)]
    obtain ⟨r, hr, -, hs⟩ := h.pending_of_find? hf
    have hdue : r.isDue now = false := by
      simpa [Request.isDue] using hspares i r hf hr
    obtain ⟨-, hentries, hrequest⟩ := h.sweepExpired_spec now
    obtain ⟨hfst, hcounts, hsignalled⟩ := h.sweepExpired_count now
    obtain ⟨-, hentries', hrequest'⟩ := hleft.sweepExpired_spec now
    obtain ⟨hfst', hcounts', hsignalled'⟩ := hleft.sweepExpired_count now
    -- the entry that leaves is not among those that the sweep counts
    have hcount : (reg.settleEntry x.key i x.outcome).entries.countP (reg.isDueEntry now) =
        reg.entries.countP (reg.isDueEntry now) := by
      refine (List.countP_filter).trans (List.countP_congr fun e he => ?_)
      by_cases hkey : e.1 = x.key
      · have hnumber : e.2 = i := by
          have hfind : reg.find? e.1 = some e.2 := h.find?_eq_some_iff.2 he
          rw [hkey, hf] at hfind
          exact (Option.some.inj hfind).symm
        simp [isDueEntry, hnumber, hr, hdue]
      · simp [hkey]
    rw [isDueEntry_settleEntry, hcount] at hfst' hcounts'
    rw [isDueEntry_settleEntry] at hentries'
    refine ⟨rfl, Prod.ext (hfst'.trans hfst.symm) (ext_request? (fun j => ?_) ?_ ?_ ?_)⟩
    · rw [hrequest', request?_settleEntry, request?_settleEntry, hrequest]
      by_cases hij : i = j
      · subst hij
        simp [hr, hdue, Request.settled]
      · simp only [if_neg hij]
    · rw [hentries']
      show (reg.entries.filter _).filter _ = (reg.sweepExpired now).2.entries.filter _
      rw [hentries, List.filter_filter, List.filter_filter]
      exact List.filter_congr fun e _ => Bool.and_comm _ _
    · rw [hcounts']
      show (reg.counts.left.resolved _).expired _ = (reg.sweepExpired now).2.counts.left.resolved _
      rw [hcounts, RequestCounts.expired_left_resolved]
    · exact hsignalled'.trans hsignalled.symm

theorem leaveAll (h : reg.Coherent) (xs : List Exit) : (reg.leaveAll xs).2.Coherent := by
  induction xs generalizing reg with
  | nil => exact h
  | cons x xs ih => exact ih (h.leave x)

theorem spares_leaveAll (h : reg.Coherent) {now : Instant} {key : String}
    (hspares : reg.Spares now key) (xs : List Exit) : (reg.leaveAll xs).2.Spares now key := by
  induction xs generalizing reg with
  | nil => exact hspares
  | cons x xs ih => exact ih (h.leave x) (h.spares_leave hspares)

/-- A list of requests that leave may change places with a sweep to which none of them is due. -/
theorem leaveAll_sweepExpired (h : reg.Coherent) {now : Instant} {xs : List Exit}
    (hspares : ∀ x ∈ xs, reg.Spares now x.key) :
    ((reg.sweepExpired now).2.leaveAll xs).1 = (reg.leaveAll xs).1 ∧
      (reg.leaveAll xs).2.sweepExpired now =
        ((reg.sweepExpired now).1, ((reg.sweepExpired now).2.leaveAll xs).2) := by
  induction xs generalizing reg with
  | nil => exact ⟨rfl, rfl⟩
  | cons x xs ih =>
    obtain ⟨hanswer, hstep⟩ := h.leave_sweepExpired (hspares x List.mem_cons_self)
    obtain ⟨hanswers, hrest⟩ := ih (h.leave x) fun y hy =>
      h.spares_leave (hspares y (List.mem_cons_of_mem _ hy))
    rw [hstep] at hanswers hrest
    simp only [Registry.leaveAll, hanswer, hanswers, hrest]
    exact ⟨trivial, trivial⟩

/-- Wherever a sweep stands in a list of exits, none of which it precedes is due to it, it may as
well come last. -/
theorem leaveAround_eq (h : reg.Coherent) {now : Instant} {before after : List Exit}
    (hspares : ∀ x ∈ after, reg.Spares now x.key) :
    reg.leaveAround now before after = ((reg.leaveAll (before ++ after)).1,
      (reg.leaveAll (before ++ after)).2.sweepExpired now) := by
  have hstill : ∀ x ∈ after, (reg.leaveAll before).2.Spares now x.key := fun x hx =>
    h.spares_leaveAll (hspares x hx) before
  obtain ⟨hanswers, hlast⟩ := (h.leaveAll before).leaveAll_sweepExpired hstill
  rw [leaveAll_append, leaveAround, hanswers, hlast]

end Coherent

/-- Replies and abandoned requests under different keys may come in any order, whether or not
anything waits under their keys: each answers the same, and the registry is the same in the end. If
those of them that wait are not due at an instant, it makes no difference either where among them a
sweep at that instant stands, nor to what the sweep counts. -/
theorem independent_exits_commute (ops : List Op) {xs ys : List Exit}
    (hkeys : (xs.map Exit.key).Nodup) (hperm : ys.Perm xs) :
    let reg := run {} ops
    ((reg.leaveAll ys).1.Perm (reg.leaveAll xs).1 ∧ (reg.leaveAll ys).2 = (reg.leaveAll xs).2) ∧
    ∀ now, (∀ x ∈ xs, reg.Spares now x.key) →
      ∀ before after, (before ++ after).Perm xs →
        (reg.leaveAround now before after).1.Perm (reg.leaveAll xs).1 ∧
        (reg.leaveAround now before after).2 = (reg.leaveAll xs).2.sweepExpired now := by
  intro reg
  have h : reg.Coherent := coherent_empty.run ops
  have hany : ∀ {zs : List Exit}, zs.Perm xs → (reg.leaveAll zs).1.Perm (reg.leaveAll xs).1 ∧
      (reg.leaveAll zs).2 = (reg.leaveAll xs).2 := fun hzs =>
    h.leaveAll_perm hzs ((hzs.map _).nodup_iff.2 hkeys)
  refine ⟨hany hperm, fun now hspares before after hsplit => ?_⟩
  obtain ⟨hanswers, hleft⟩ := hany hsplit
  rw [h.leaveAround_eq fun x hx => hspares x (hsplit.mem_iff.1 (List.mem_append_right _ hx)), hleft]
  exact ⟨hanswers, rfl⟩

/-- A request without responders, one that is given up and a key that nobody waits under, around a
sweep that comes to a fourth. -/
theorem independent_exits_commute_unanswered :
    let ops : List Op := [.register "a" {} (.ofSecs 5) 0, .register "b" {} (.ofSecs 9) 0,
      .register "c" {} (.ofSecs 2) 0]
    let now : Instant := Duration.ofSecs 3
    let unanswered : Message := { subject := "a", status := some noRespondersStatus }
    let xs : List Exit := [.reply "a" unanswered, .abandon "b", .abandon "d"]
    let ys : List Exit := [.abandon "d", .abandon "b", .reply "a" unanswered]
    let reg := run {} ops
    ((xs.map Exit.key).Nodup ∧ ys.Perm xs ∧ ∀ x ∈ xs, reg.Spares now x.key) ∧
      (reg.leaveAll ys).2 = (reg.leaveAll xs).2 ∧
      (reg.leaveAround now [.reply "a" unanswered] [.abandon "b", .abandon "d"]).2 =
        (reg.leaveAll xs).2.sweepExpired now ∧
      ((reg.leaveAll xs).2.sweepExpired now).1 = 1 := by
  intro ops now unanswered xs ys reg
  have hkeys : (xs.map Exit.key).Nodup := by decide
  have hperm : ys.Perm xs := List.reverse_perm xs
  have hspares : ∀ x ∈ xs, reg.Spares now x.key := by decide +kernel
  obtain ⟨⟨-, hleft⟩, haround⟩ := independent_exits_commute ops hkeys hperm
  exact ⟨⟨hkeys, hperm, hspares⟩, hleft, (haround now hspares _ _ (.refl _)).2, by decide +kernel⟩

end Registry

end PubSub
