import PubSub.Request.History

/-!
# Giving requests up

A key that is given up no longer waits, and giving all of them up empties the registry. Unless a
request is made, nothing waits in an empty registry ever again.
-/

namespace PubSub.Registry

variable {reg : Registry}

theorem entries_resolve (reg : Registry) (i : Nat) (o : Outcome) :
    (reg.resolve i o).2.entries = reg.entries := by
  unfold resolve
  split
  · rfl
  · split <;> rfl

theorem entries_abandon (reg : Registry) (key : String) :
    (reg.abandon key).2.entries = reg.entries.filter (·.1 != key) := by
  unfold abandon
  split
  · next hfind =>
    refine (List.filter_eq_self.2 fun entry hentry => ?_).symm
    have hne := List.lookup_eq_none_iff.1 hfind entry hentry
    rw [bne_iff_ne]
    exact fun heq => (bne_iff_ne.1 hne) heq.symm
  · exact entries_resolve _ _ _

theorem entries_abandonAll (reg : Registry) (keys : List String) :
    (reg.abandonAll keys).2.entries = reg.entries.filter fun entry => !keys.contains entry.1 := by
  -- one key after the other is taken out of what the earlier ones left
  induction keys generalizing reg with
  | nil => exact (List.filter_eq_self.2 fun _ _ => rfl).symm
  | cons key keys ih =>
    show ((reg.abandon key).2.abandonAll keys).2.entries = _
    rw [ih, entries_abandon, List.filter_filter]
    refine List.filter_congr fun entry _ => ?_
    rw [List.contains_cons, Bool.not_or, Bool.and_comm]
    rfl

theorem entries_cancelAll (reg : Registry) : reg.cancelAll.2.entries = [] := by
  unfold cancelAll
  rw [entries_abandonAll, List.filter_eq_nil_iff]
  intro entry hentry
  have hkey : (reg.entries.map (·.1)).contains entry.1 = true :=
    List.contains_iff_mem.2 (List.mem_map_of_mem hentry)
  rw [hkey]
  decide

theorem find?_of_empty (h : reg.entries = []) (key : String) : reg.find? key = none := by
  unfold find?
  rw [h]
  rfl

theorem resolveReply_of_empty (h : reg.entries = []) (key : String) (m : Message) :
    reg.resolveReply key m = (false, reg) := by
  unfold resolveReply
  rw [find?_of_empty h]

/-- No operation but a registration makes anything wait in an empty registry. -/
theorem perform_of_empty (h : reg.entries = []) (op : Op)
    (hop : ∀ key options timeout now, op ≠ .register key options timeout now) :
    (reg.perform op).entries = [] := by
  cases op with
  | register key options timeout now => exact absurd rfl (hop key options timeout now)
  | resolveReply key m =>
    show (reg.resolveReply key m).2.entries = []
    rw [resolveReply_of_empty h]
    exact h
  | abandon key =>
    show (reg.abandon key).2.entries = []
    rw [entries_abandon, h]
    rfl
  | cancelAll => exact entries_cancelAll reg
  | sweepExpired now =>
    show (reg.sweepEntries now reg.entries).2.entries = []
    rw [h]
    exact h
  | look number =>
    show (reg.tryResult number).2.entries = []
    unfold tryResult
    split <;> exact h
  | letGo number => exact h

/-- A request that is made and given up at once does not wait. -/
theorem entries_abandon_register (h : reg.entries = []) (key : String) (options : RequestOptions)
    (timeout : Duration) (now : Instant) :
    ((reg.register key options timeout now).2.abandon key).2.entries = [] := by
  rw [entries_abandon]
  have hentries : (reg.register key options timeout now).2.entries =
      (reg.abandon key).2.entries ++ [(key, (reg.abandon key).2.requests.length)] := rfl
  rw [hentries, entries_abandon, h]
  simp

end PubSub.Registry
