import PubSub.Channel.Bounded
import PubSub.Proofs.Channel.Queue

/-!
# The order and the room of an outbound channel

An outbound channel is a queue of its own kind in one way only: it refuses an entry when it is full,
and nothing comes of that. So what is done to it is, less the sends that find no room
(`Outbound.Use.roomy`), what is done to a queue without a limit, step by step
(`Outbound.Use.perform_unlimited`) and along any run (`Outbound.Use.run_unlimited`): the order of its
entries and the way it ends are those of such a queue. What is left to prove of it is how much it
holds, and when it has room again.

## Main results

- `Outbound.Use.Within.run` — the channel never holds more than it was made for
- `Outbound.Use.run_looks`, `Outbound.Use.accepted_sends` — what a number of looks takes out, and how
  many of the sends that follow are accepted
- `Outbound.Use.entries_bounded_and_in_order` — what holds after any run, and of whatever comes next
-/

namespace PubSub

variable {α : Type}

namespace Channel

/-- The answer without the reason of a refusal. -/
def Answer.bare {ε : Type} : Answer ε α → Answer Unit α
  | .sent => .sent
  | .refused _ => .refused ()
  | .looked found => .looked found
  | .tried found => .tried found
  | .done => .done
  | .missing => .missing

variable {ε ε' : Type}

theorem Answer.bare_eq_looked {x : Answer ε α} {found : Received α} :
    x.bare = .looked found ↔ x = .looked found := by
  cases x <;> simp [Answer.bare]

theorem accepted?_bare (op : Op α) (x : Answer ε α) :
    accepted? (op, x.bare) = accepted? (op, x) := by
  cases op <;> cases x <;> rfl

theorem received?_bare (op : Op α) (x : Answer ε α) :
    received? (op, x.bare) = received? (op, x) := by
  cases x with
  | looked found => cases found <;> rfl
  | _ => rfl

/-- What went in and what came out does not hang on the reason of a refusal. -/
theorem moved_eq_of_bare (op : Op α) {x : Answer ε α} {x' : Answer ε' α} (h : x.bare = x'.bare) :
    accepted? (op, x) = accepted? (op, x') ∧ received? (op, x) = received? (op, x') := by
  constructor
  · rw [← accepted?_bare op x, h, accepted?_bare]
  · rw [← received?_bare op x, h, received?_bare]

end Channel

namespace Outbound

open Channel

/-! ## Sending -/

theorem trySend_of_closed {ch : Outbound α} (h : ch.isClosed = true) (a : α) :
    ch.trySend a = (.error .closed, ch) := by
  simp [trySend, send, h]

theorem trySend_of_full {ch : Outbound α} (h : ch.isClosed = false)
    (hfull : ch.capacity ≤ ch.entries.length) (a : α) :
    ch.trySend a = (.error .queueFull, ch) := by
  simp [trySend, send, h, hfull]

theorem trySend_of_room {ch : Outbound α} (h : ch.isClosed = false)
    (hroom : ch.entries.length < ch.capacity) (a : α) :
    ch.trySend a = (.ok (), { ch with entries := ch.entries ++ [a] }) := by
  simp [trySend, send, h, Nat.not_le_of_lt hroom]

/-! ## Looking -/

/-- One look takes the oldest entry out. -/
theorem recv_eq (ch : Outbound α) :
    ch.recv.2 = { ch with entries := ch.entries.drop 1 } ∧
      (received? ((.recv, .looked ch.recv.1) : Op α × Answer TransportError α)).toList =
        ch.entries.take 1 := by
  obtain ⟨entries, capacity, receiver, senders⟩ := ch
  cases entries with
  | nil =>
    refine ⟨rfl, ?_⟩
    simp only [recv]
    split <;> rfl
  | cons a rest => exact ⟨rfl, rfl⟩

theorem tryRecv_eq (ch : Outbound α) :
    ch.tryRecv = (ch.entries.head?, { ch with entries := ch.entries.drop 1 }) := by
  obtain ⟨entries, capacity, receiver, senders⟩ := ch
  cases entries <;> rfl

theorem recv_of_ended {ch : Outbound α} (hempty : ch.entries = []) (hclosed : ch.isClosed = true) :
    ch.recv.1 = .ended := by
  simp [recv, hempty, hclosed]

/-- A close leaves the entries alone. -/
theorem close_keeps (ch : Outbound α) : ch.close.entries = ch.entries ∧
    ch.close.hasReceiver = ch.hasReceiver ∧ ch.close.isClosed = true := by
  obtain ⟨entries, capacity, receiver, senders⟩ := ch
  cases receiver <;> exact ⟨rfl, rfl, rfl⟩

/-! ## Without the limit -/

/-- The same entries and ends without a limit, and a count of them. -/
def unlimited (ch : Outbound α) (pending : Nat) : Dispatch α where
  entries := ch.entries
  pending := pending
  receiver := ch.receiver
  senders := ch.senders

theorem recv_unlimited (ch : Outbound α) (pending : Nat) :
    ∃ pending', (ch.unlimited pending).recv = (ch.recv.1, ch.recv.2.unlimited pending') := by
  cases h : ch.entries with
  | nil => exact ⟨pending, by simp [recv, Dispatch.recv, unlimited, h]; rfl⟩
  | cons a rest => exact ⟨pending - 1, by simp [recv, Dispatch.recv, unlimited, h]⟩

theorem tryRecv_unlimited (ch : Outbound α) (pending : Nat) :
    ∃ pending', (ch.unlimited pending).tryRecv = (ch.tryRecv.1, ch.tryRecv.2.unlimited pending') := by
  cases h : ch.entries with
  | nil => exact ⟨pending, by simp [tryRecv, Dispatch.tryRecv, unlimited, h]⟩
  | cons a rest => exact ⟨pending - 1, by simp [tryRecv, Dispatch.tryRecv, unlimited, h]⟩

theorem close_unlimited (ch : Outbound α) (pending : Nat) :
    (ch.unlimited pending).close = ch.close.unlimited pending := by
  by_cases h : ch.receiver = .accepting <;> simp [Dispatch.close, close, unlimited, h]

namespace Use

variable {u : Use α} {op : Op α}

/-- The same channel in use without a limit. -/
def unlimited (u : Use α) (pending : Nat) : Dispatch.Use α where
  queue := u.channel.unlimited pending
  senders := u.senders

/-- Whether something done is a send that finds no room in a channel that is open. -/
def lacksRoom (u : Use α) : Op α → Bool
  | .send sender _ =>
    u.holds sender && !u.channel.isClosed && decide (u.channel.capacity ≤ u.channel.entries.length)
  | _ => false

/-- A list of things done in order, less the sends that find no room. -/
def roomy (u : Use α) : List (Op α) → List (Op α)
  | [] => []
  | op :: ops => (if u.lacksRoom op then [] else [op]) ++ (u.perform op).2.roomy ops

theorem perform_send {i : Nat} (h : u.holds i = true) (a : α) : u.perform (.send i a) =
    (verdict (u.channel.trySend a).1, { u with channel := (u.channel.trySend a).2 }) := by
  simp [perform, bySender, h]

theorem perform_recv (h : u.channel.hasReceiver = true) : u.perform .recv =
    (.looked u.channel.recv.1, { u with channel := u.channel.recv.2 }) := by
  simp [perform, byReceiver, h]

/-- A send that finds no room is refused, and nothing comes of it. -/
theorem perform_of_lacksRoom (h : u.lacksRoom op = true) :
    (∃ i a, op = .send i a) ∧ u.perform op = (.refused .queueFull, u) := by
  cases op with
  | send i a =>
    simp only [lacksRoom, Bool.and_eq_true, Bool.not_eq_true', decide_eq_true_eq] at h
    obtain ⟨⟨hi, hopen⟩, hfull⟩ := h
    refine ⟨⟨i, a, rfl⟩, ?_⟩
    rw [perform_send hi, trySend_of_full hopen hfull]
    rfl
  | _ => cases h

theorem byReceiver_unlimited {pending : Nat} {f : Dispatch α → Answer α α × Dispatch α}
    {g : Outbound α → Answer TransportError α × Outbound α}
    (h : ∃ pending', (f (u.channel.unlimited pending)).2 = (g u.channel).2.unlimited pending' ∧
      (f (u.channel.unlimited pending)).1.bare = (g u.channel).1.bare) :
    ∃ pending', ((u.unlimited pending).byReceiver f).2 = (u.byReceiver g).2.unlimited pending' ∧
      ((u.unlimited pending).byReceiver f).1.bare = (u.byReceiver g).1.bare := by
  have hreceiver : (u.unlimited pending).queue.hasReceiver = u.channel.hasReceiver := rfl
  simp only [Dispatch.Use.byReceiver, byReceiver, hreceiver]
  split
  · obtain ⟨pending', hqueue, hanswer⟩ := h
    refine ⟨pending', ?_, hanswer⟩
    apply congrArg (fun queue => Dispatch.Use.mk queue u.senders) hqueue
  · exact ⟨pending, rfl, rfl⟩

/-- Anything but a send that finds no room comes to the same without a limit. -/
theorem perform_unlimited (h : u.lacksRoom op = false) (pending : Nat) :
    ∃ pending', ((u.unlimited pending).perform op).2 = (u.perform op).2.unlimited pending' ∧
      ((u.unlimited pending).perform op).1.bare = (u.perform op).1.bare := by
  have hholds : ∀ i, (u.unlimited pending).holds i = u.holds i := fun i => rfl
  cases op with
  | send i a =>
    cases hi : u.holds i with
    | false =>
      refine ⟨pending, ?_⟩
      simp [perform, bySender, Dispatch.Use.perform, Dispatch.Use.bySender, hholds, hi, Answer.bare]
    | true =>
      have hi' : (u.unlimited pending).holds i = true := hi
      rw [perform_send hi, Dispatch.Use.perform_send hi']
      cases hclosed : u.channel.isClosed with
      | true =>
        have hclosed' : (u.unlimited pending).queue.isClosed = true := hclosed
        rw [trySend_of_closed hclosed, Dispatch.send_of_closed hclosed']
        exact ⟨pending, rfl, rfl⟩
      | false =>
        have hopen' : (u.unlimited pending).queue.isClosed = false := hclosed
        have hroom : u.channel.entries.length < u.channel.capacity := by
          simpa [lacksRoom, hi, hclosed] using h
        rw [trySend_of_room hclosed hroom, Dispatch.send_of_open hopen']
        exact ⟨pending + 1, rfl, rfl⟩
  | recv =>
    obtain ⟨pending', heq⟩ := u.channel.recv_unlimited pending
    apply byReceiver_unlimited
    exact ⟨pending', by rw [heq], by rw [heq]; rfl⟩
  | tryRecv =>
    obtain ⟨pending', heq⟩ := u.channel.tryRecv_unlimited pending
    apply byReceiver_unlimited
    exact ⟨pending', by rw [heq], by rw [heq]; rfl⟩
  | close =>
    apply byReceiver_unlimited
    exact ⟨pending, u.channel.close_unlimited pending, rfl⟩
  | dropReceiver =>
    apply byReceiver_unlimited
    exact ⟨pending, rfl, rfl⟩
  | clone i | drop i =>
    refine ⟨pending, ?_⟩
    simp only [perform, bySender, Dispatch.Use.perform, Dispatch.Use.bySender, hholds]
    split <;> exact ⟨rfl, rfl⟩

/-- A run comes to the same without a limit, if the sends that find no room are left out. -/
theorem run_unlimited (u : Use α) (pending : Nat) (ops : List (Op α)) :
    (∃ pending', ((u.unlimited pending).run (u.roomy ops)).2 = (u.run ops).2.unlimited pending') ∧
      accepted ((u.unlimited pending).run (u.roomy ops)).1 = accepted (u.run ops).1 ∧
      received ((u.unlimited pending).run (u.roomy ops)).1 = received (u.run ops).1 := by
  induction ops generalizing u pending with
  | nil => exact ⟨⟨pending, rfl⟩, rfl, rfl⟩
  | cons op ops ih =>
    rw [snd_run_cons, fst_run_cons, accepted_cons, received_cons]
    cases hroom : u.lacksRoom op with
    | true =>
      obtain ⟨⟨i, a, rfl⟩, hstep⟩ := perform_of_lacksRoom hroom
      simp only [roomy, hroom, if_true, hstep, List.nil_append]
      exact ih u pending
    | false =>
      obtain ⟨pending', hstate, hanswer⟩ := perform_unlimited hroom pending
      obtain ⟨hin, hout⟩ := moved_eq_of_bare op hanswer
      obtain ⟨hrest, hwent, hcame⟩ := ih (u.perform op).2 pending'
      simp only [roomy, hroom, Bool.false_eq_true, if_false, List.singleton_append,
        Dispatch.Use.snd_run_cons, Dispatch.Use.fst_run_cons, accepted_cons, received_cons, hstate,
        hin, hout, hwent, hcame]
      exact ⟨hrest, trivial, trivial⟩

/-- Only sends find no room. -/
theorem mem_roomy_iff (u : Use α) (ops : List (Op α)) (hop : ∀ i a, op ≠ .send i a) :
    op ∈ u.roomy ops ↔ op ∈ ops := by
  induction ops generalizing u with
  | nil => exact Iff.rfl
  | cons first ops ih =>
    rw [roomy, List.mem_append, ih, List.mem_cons]
    apply or_congr_left
    cases hroom : u.lacksRoom first with
    | true =>
      obtain ⟨⟨i, a, rfl⟩, -⟩ := perform_of_lacksRoom hroom
      simp [hop i a]
    | false => simp

/-! ## The limit -/

/-- The channel was made for `limit` entries, and holds no more. -/
structure Within (u : Use α) (limit : Nat) : Prop where
  capacity : u.channel.capacity = limit
  length : u.channel.entries.length ≤ limit

variable {limit : Nat}

theorem within_start (capacity : Nat) : (start capacity : Use α).Within (max capacity 1) where
  capacity := rfl
  length := Nat.zero_le _

theorem Within.bySender (h : u.Within limit) {i : Nat}
    {f : Use α → Answer TransportError α × Use α} (hf : (f u).2.Within limit) :
    (u.bySender i f).2.Within limit := by
  simp only [Use.bySender]
  split
  · exact hf
  · exact h

/-- The receiver adds nothing. -/
theorem Within.byReceiver (h : u.Within limit)
    {f : Outbound α → Answer TransportError α × Outbound α}
    (hcapacity : (f u.channel).2.capacity = u.channel.capacity)
    (hlength : (f u.channel).2.entries.length ≤ u.channel.entries.length) :
    (u.byReceiver f).2.Within limit := by
  simp only [Use.byReceiver]
  split
  · exact ⟨hcapacity.trans h.capacity, Nat.le_trans hlength h.length⟩
  · exact h

theorem Within.perform (h : u.Within limit) (op : Op α) : (u.perform op).2.Within limit := by
  cases op with
  | send i a =>
    apply h.bySender
    cases hclosed : u.channel.isClosed with
    | true => rwa [trySend_of_closed hclosed]
    | false =>
      by_cases hroom : u.channel.entries.length < u.channel.capacity
      · rw [trySend_of_room hclosed hroom]
        refine ⟨h.capacity, ?_⟩
        have := h.capacity
        simp only [List.length_append, List.length_singleton]
        omega
      · rwa [trySend_of_full hclosed (Nat.le_of_not_lt hroom)]
  | recv =>
    apply h.byReceiver
    · rw [u.channel.recv_eq.1]
    · rw [u.channel.recv_eq.1]
      exact (List.drop_sublist 1 _).length_le
  | tryRecv =>
    apply h.byReceiver
    · rw [tryRecv_eq]
    · rw [tryRecv_eq]
      exact (List.drop_sublist 1 _).length_le
  | close =>
    apply h.byReceiver
    · simp only [close]
      split <;> rfl
    · simp only [close]
      split <;> exact Nat.le_refl _
  | dropReceiver => exact h.byReceiver rfl (Nat.zero_le _)
  | clone i | drop i => exact h.bySender ⟨h.capacity, h.length⟩

theorem Within.run (h : u.Within limit) (ops : List (Op α)) : (u.run ops).2.Within limit := by
  induction ops generalizing u with
  | nil => exact h
  | cons op ops ih => exact ih (h.perform op)

/-! ## Whatever comes next -/

/-- The channel after `n` entries came out. -/
def drained (u : Use α) (n : Nat) : Use α :=
  { u with channel := { u.channel with entries := u.channel.entries.drop n } }

theorem drained_drained (u : Use α) (m n : Nat) : (u.drained m).drained n = u.drained (m + n) := by
  simp [drained]

/-- Looking either way takes the oldest entry out. -/
theorem perform_look (hr : u.channel.hasReceiver = true) (hop : op = .recv ∨ op = .tryRecv) :
    (received? (op, (u.perform op).1)).toList = u.channel.entries.take 1 ∧
      (u.perform op).2 = u.drained 1 := by
  rcases hop with rfl | rfl
  · obtain ⟨hstate, hout⟩ := u.channel.recv_eq
    rw [perform_recv hr, hout, hstate]
    exact ⟨rfl, rfl⟩
  · simp only [perform, byReceiver, hr, if_true, tryRecv_eq, List.take_one]
    exact ⟨rfl, rfl⟩

/-- A number of looks takes out that many entries, oldest first, as long as there are any. -/
theorem run_looks (hr : u.channel.hasReceiver = true) {looks : List (Op α)}
    (hlooks : ∀ op ∈ looks, op = .recv ∨ op = .tryRecv) :
    received (u.run looks).1 = u.channel.entries.take looks.length ∧
      (u.run looks).2 = u.drained looks.length := by
  induction looks generalizing u with
  | nil => exact ⟨rfl, rfl⟩
  | cons op looks ih =>
    obtain ⟨hfirst, hstate⟩ := perform_look hr (hlooks op List.mem_cons_self)
    have hstill : (u.drained 1).channel.hasReceiver = true := hr
    obtain ⟨hothers, hrest⟩ := ih hstill fun op h => hlooks op (List.mem_cons_of_mem _ h)
    have htake : (u.drained 1).channel.entries = u.channel.entries.drop 1 := rfl
    rw [fst_run_cons, snd_run_cons, received_cons, hfirst, hstate, hothers, hrest, htake,
      drained_drained, List.length_cons, Nat.add_comm, List.take_add]
    exact ⟨rfl, rfl⟩

/-- Of a number of sends to an open channel, as many are accepted as there is room for. -/
theorem accepted_sends (hopen : u.channel.isClosed = false) {sends : List (Nat × α)}
    (hheld : ∀ s ∈ sends, u.holds s.1 = true) :
    accepted (u.run (sends.map fun s => .send s.1 s.2)).1 =
      (sends.map (·.2)).take (u.channel.capacity - u.channel.entries.length) := by
  induction sends generalizing u with
  | nil => simp [accepted]
  | cons s sends ih =>
    have hfirst := perform_send (hheld s List.mem_cons_self) s.2
    rw [List.map_cons, fst_run_cons, accepted_cons, hfirst, List.map_cons]
    by_cases hroom : u.channel.entries.length < u.channel.capacity
    · -- one entry more is queued, and there is room for one less
      have hless : u.channel.capacity - u.channel.entries.length =
          (u.channel.capacity - (u.channel.entries ++ [s.2]).length) + 1 := by
        rw [List.length_append, List.length_singleton]
        omega
      rw [trySend_of_room hopen hroom, hless, List.take_succ_cons]
      apply congrArg (s.2 :: ·)
      apply ih
      · exact hopen
      · intro s' h
        exact hheld s' (List.mem_cons_of_mem _ h)
    · have hnone : u.channel.capacity - u.channel.entries.length = 0 := by omega
      rw [trySend_of_full hopen (Nat.le_of_not_lt hroom), ih hopen, hnone]
      · rfl
      · intro s' h
        exact hheld s' (List.mem_cons_of_mem _ h)

/-! ## The run of a new channel -/

section

variable (capacity : Nat) (ops : List (Op α))

/-- A new channel keeps its entries in order, as a queue without a limit does. -/
theorem exists_orderly_run :
    ∃ pending, (((start capacity).run ops).2.unlimited pending).Orderly
      (accepted ((start capacity).run ops).1) (received ((start capacity).run ops).1) := by
  obtain ⟨⟨pending, hstate⟩, hwent, hcame⟩ := run_unlimited (start capacity) 0 ops
  have horderly := Dispatch.Use.orderly_start.run ((start capacity).roomy ops)
  have hstart : (start capacity : Use α).unlimited 0 = {} := rfl
  rw [hstart] at hstate hwent hcame
  rw [hstate, hwent, hcame, List.nil_append, List.nil_append] at horderly
  exact ⟨pending, horderly⟩

/-- A new channel refuses entries once it was closed or its receiver was dropped. -/
theorem isClosed_run : ((start capacity).run ops).2.channel.isClosed = true ↔
    .close ∈ ops ∨ .dropReceiver ∈ ops := by
  obtain ⟨⟨pending, hstate⟩, -⟩ := run_unlimited (start capacity) 0 ops
  have hiff := Dispatch.Use.isClosed_run ((start capacity).unlimited 0) ((start capacity).roomy ops)
  rw [hstate, mem_roomy_iff _ _ nofun, mem_roomy_iff _ _ nofun] at hiff
  exact hiff.trans (or_iff_right nofun)

/-- The receiver of a new channel exists until it is dropped. -/
theorem hasReceiver_run (h : .dropReceiver ∉ ops) :
    ((start capacity).run ops).2.channel.hasReceiver = true := by
  obtain ⟨⟨pending, hstate⟩, -⟩ := run_unlimited (start capacity) 0 ops
  have hiff := Dispatch.Use.hasReceiver_run ((start capacity).unlimited 0)
    ((start capacity).roomy ops)
  rw [hstate, mem_roomy_iff _ _ nofun] at hiff
  exact hiff.2 ⟨rfl, h⟩

end

/-- A look at the channel yields the oldest entry, and ends when there is none and none can come. -/
theorem looked_iff {went came : List α} {pending : Nat}
    (h : (u.unlimited pending).Orderly went came) (hr : u.channel.hasReceiver = true) :
    (∀ a, (u.perform .recv).1 = .looked (.entry a) ↔ u.channel.entries.head? = some a) ∧
      ((u.perform .recv).1 = .looked .ended ↔
        u.channel.entries = [] ∧ (u.channel.isClosed = true ∨ ∀ i, u.holds i = false)) := by
  have hr' : (u.unlimited pending).queue.hasReceiver = true := hr
  obtain ⟨hentry, hended⟩ := Dispatch.Use.looked_iff h hr'
  have hroom : u.lacksRoom .recv = false := rfl
  obtain ⟨-, -, hanswer⟩ := perform_unlimited hroom pending
  constructor
  · intro a
    rw [← Answer.bare_eq_looked, ← hanswer, Answer.bare_eq_looked]
    exact hentry a
  · rw [← Answer.bare_eq_looked, ← hanswer, Answer.bare_eq_looked]
    exact hended

theorem tried_eq (hr : u.channel.hasReceiver = true) :
    (u.perform .tryRecv).1 = .tried u.channel.entries.head? := by
  simp only [perform, byReceiver, hr, if_true, tryRecv_eq]

/-- After a close the queued entries come out in order, and then the end. -/
theorem drains_after_close (hr : u.channel.hasReceiver = true) {looks : List (Op α)}
    (hlooks : ∀ op ∈ looks, op = .recv ∨ op = .tryRecv) :
    received ((u.perform .close).2.run looks).1 = u.channel.entries.take looks.length ∧
      (u.channel.entries.length ≤ looks.length →
        (((u.perform .close).2.run looks).2.perform .recv).1 = .looked .ended) := by
  obtain ⟨hentries, hreceiver, hclosed⟩ := u.channel.close_keeps
  have hclose : (u.perform .close).2 = { u with channel := u.channel.close } := by
    simp [perform, byReceiver, hr]
  have hstill : (u.perform .close).2.channel.hasReceiver = true := by
    rw [hclose]
    exact hreceiver.trans hr
  obtain ⟨hcame, hstate⟩ := run_looks hstill hlooks
  rw [hcame, hstate, hclose]
  constructor
  · exact congrArg (List.take looks.length) hentries
  · intro hall
    rw [← hentries] at hall
    have hempty : u.channel.close.entries.drop looks.length = [] := List.drop_eq_nil_of_le hall
    have hlast : (drained { u with channel := u.channel.close } looks.length).channel.hasReceiver =
        true := hreceiver.trans hr
    rw [perform_recv hlast]
    exact congrArg Answer.looked (recv_of_ended hempty hclosed)

/-- After any use of a channel, by any number of senders: it holds at most as many entries as were
asked for, or one if none were. While the receiver exists, what came out followed by what is queued
is what was accepted. An entry is refused as closed exactly after a close or a drop of the receiver,
and as full exactly before that when the channel holds all it can, and then nothing comes of it.
Every entry that comes out makes room for one more. A look yields the oldest entry, and the end only
when nothing is queued and nothing can be; after a close, the queued entries come out in order, and
then the end. -/
theorem entries_bounded_and_in_order (capacity : Nat) (ops : List (Op α)) :
    let done := ((start capacity : Use α).run ops).1
    let u := ((start capacity : Use α).run ops).2
    let room := max capacity 1 - u.channel.entries.length
    u.channel.entries.length ≤ max capacity 1 ∧
    (.dropReceiver ∉ ops → received done ++ u.channel.entries = accepted done) ∧
    (∀ i a, u.holds i = true →
      ((.close ∈ ops ∨ .dropReceiver ∈ ops) → u.perform (.send i a) = (.refused .closed, u)) ∧
      (¬(.close ∈ ops ∨ .dropReceiver ∈ ops) → u.channel.entries.length = max capacity 1 →
        u.perform (.send i a) = (.refused .queueFull, u)) ∧
      (¬(.close ∈ ops ∨ .dropReceiver ∈ ops) → u.channel.entries.length ≠ max capacity 1 →
        (u.perform (.send i a)).1 = .sent ∧
        (u.perform (.send i a)).2.channel.entries = u.channel.entries ++ [a])) ∧
    (¬(.close ∈ ops ∨ .dropReceiver ∈ ops) →
      ∀ looks : List (Op α), (∀ op ∈ looks, op = .recv ∨ op = .tryRecv) →
      ∀ sends : List (Nat × α), (∀ s ∈ sends, u.holds s.1 = true) →
        accepted ((u.run looks).2.run (sends.map fun s => .send s.1 s.2)).1 =
          (sends.map (·.2)).take (room + (received (u.run looks).1).length)) ∧
    (.dropReceiver ∉ ops →
      (∀ a, (u.perform .recv).1 = .looked (.entry a) ↔ u.channel.entries.head? = some a) ∧
      ((u.perform .recv).1 = .looked .ended ↔
        u.channel.entries = [] ∧ (.close ∈ ops ∨ ∀ i, u.holds i = false)) ∧
      (u.perform .tryRecv).1 = .tried u.channel.entries.head?) ∧
    (.dropReceiver ∉ ops →
      ∀ looks : List (Op α), (∀ op ∈ looks, op = .recv ∨ op = .tryRecv) →
        let closed := (u.perform .close).2
        received (closed.run looks).1 = u.channel.entries.take looks.length ∧
        (u.channel.entries.length ≤ looks.length →
          ((closed.run looks).2.perform .recv).1 = .looked .ended)) := by
  intro done u room
  obtain ⟨pending, horderly⟩ := exists_orderly_run capacity ops
  have hclosed : u.channel.isClosed = true ↔ .close ∈ ops ∨ .dropReceiver ∈ ops :=
    isClosed_run capacity ops
  have hopen (h : ¬(.close ∈ ops ∨ .dropReceiver ∈ ops)) : u.channel.isClosed = false :=
    Bool.eq_false_iff.2 fun hc => h (hclosed.1 hc)
  have hreceiver (h : .dropReceiver ∉ ops) : u.channel.hasReceiver = true :=
    hasReceiver_run capacity ops h
  have hwithin : u.Within (max capacity 1) := (within_start capacity).run ops
  refine ⟨hwithin.length, fun h => horderly.inOrder (hreceiver h), fun i a hi => ⟨?_, ?_, ?_⟩,
    ?_, ?_, fun h looks hlooks => drains_after_close (hreceiver h) hlooks⟩
  · intro h
    rw [perform_send hi, trySend_of_closed (hclosed.2 h)]
    rfl
  · intro h hfull
    rw [← hwithin.capacity] at hfull
    rw [perform_send hi, trySend_of_full (hopen h) (Nat.le_of_eq hfull.symm)]
    rfl
  · intro h hroom
    have hlt : u.channel.entries.length < u.channel.capacity := by
      have := hwithin.length
      rw [hwithin.capacity]
      omega
    rw [perform_send hi, trySend_of_room (hopen h) hlt]
    exact ⟨rfl, rfl⟩
  · intro h looks hlooks sends hheld
    have hr := hreceiver fun hdrop => h (Or.inr hdrop)
    obtain ⟨hcame, hstate⟩ := run_looks hr hlooks
    have hstill : (u.drained looks.length).channel.isClosed = false := hopen h
    -- what came out is what the queue is shorter by
    have hroom : (u.drained looks.length).channel.capacity -
        (u.drained looks.length).channel.entries.length =
          room + (u.channel.entries.take looks.length).length := by
      have hlength := hwithin.length
      simp only [drained, List.length_drop, List.length_take, hwithin.capacity, room]
      omega
    rw [hcame, hstate, accepted_sends hstill hheld, hroom]
  · intro h
    obtain ⟨hentry, hended⟩ := looked_iff horderly (hreceiver h)
    rw [hclosed, or_iff_left h] at hended
    exact ⟨hentry, hended, tried_eq (hreceiver h)⟩

end Use

end Outbound

end PubSub
