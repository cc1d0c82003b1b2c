import PubSub.Channel.Use
import Mathlib.Data.List.Count

/-!
# The order and the count of a dispatch queue

A queue hands out what was put into it, in that order, and its count follows what it holds for as
long as somebody can receive. Both are kept by every single thing that is done at its ends
(`Dispatch.Use.Orderly`), so they hold however senders, closes, drops and both ways to receive are
mixed. Without a receiver nothing moves any more.

## Main results

- `Dispatch.Use.Orderly.run` — order and count along any run
- `Dispatch.Use.entries_in_order_and_counted` — what holds after any run, and of whatever comes next
-/

namespace PubSub

variable {α : Type}

namespace Channel

variable {ε : Type}

theorem accepted_cons (x : Op α × Answer ε α) (done : List (Op α × Answer ε α)) :
    accepted (x :: done) = (accepted? x).toList ++ accepted done := by
  rw [accepted, accepted, List.filterMap_cons]
  cases accepted? x <;> rfl

theorem received_cons (x : Op α × Answer ε α) (done : List (Op α × Answer ε α)) :
    received (x :: done) = (received? x).toList ++ received done := by
  rw [received, received, List.filterMap_cons]
  cases received? x <;> rfl

end Channel

namespace Dispatch

open Channel

theorem isClosed_of_not_hasReceiver {q : Dispatch α} (h : q.hasReceiver = false) :
    q.isClosed = true := by
  obtain ⟨entries, pending, receiver, senders⟩ := q
  cases receiver with
  | accepting | closed => cases h
  | dropped => rfl

theorem send_of_closed {q : Dispatch α} (h : q.isClosed = true) (a : α) :
    q.send a = (.error a, q) := by
  simp [send, enqueue, h]

theorem send_of_open {q : Dispatch α} (h : q.isClosed = false) (a : α) :
    q.send a =
      (.ok (), { q with entries := q.entries ++ [a], pending := q.pending + 1 }) := by
  simp [send, enqueue, h]

theorem isClosed_close (q : Dispatch α) : q.close.isClosed = true := by
  obtain ⟨entries, pending, receiver, senders⟩ := q
  cases receiver <;> rfl

theorem hasReceiver_close (q : Dispatch α) : q.close.hasReceiver = q.hasReceiver := by
  obtain ⟨entries, pending, receiver, senders⟩ := q
  cases receiver <;> rfl

/-- A close leaves the entries and their count alone, and the senders too. -/
theorem close_eq (q : Dispatch α) : ∃ receiver, q.close = { q with receiver := receiver } := by
  unfold close
  split
  · exact ⟨_, rfl⟩
  · exact ⟨q.receiver, rfl⟩

/-! ## The count apart from the entries -/

/-- Whoever sends never takes back more than was counted. -/
theorem enqueueInSteps_eq (q : Dispatch α) (a : α) : q.enqueueInSteps a = some (q.send a) := by
  cases h : q.isClosed with
  | true =>
    have hcounted : q.countUp.isClosed = true := h
    rw [send_of_closed h]
    simp only [enqueueInSteps, push, hcounted, if_true]
    rfl
  | false =>
    have hcounted : q.countUp.isClosed = false := h
    rw [send_of_open h]
    simp only [enqueueInSteps, push, hcounted]
    rfl

/-- What comes out was counted, so that it can be counted down. -/
theorem recvInSteps_eq {q : Dispatch α} (h : q.pending = q.entries.length) :
    q.recvInSteps = some q.recv ∧ q.tryRecvInSteps = some q.tryRecv := by
  obtain ⟨entries, pending, receiver, senders⟩ := q
  cases entries with
  | nil => exact ⟨rfl, rfl⟩
  | cons a rest =>
    obtain rfl : pending = rest.length + 1 := h
    exact ⟨rfl, rfl⟩

namespace Use

variable {u u' : Use α} {op : Op α} {answer : Answer α α} {went came : List α}

/-! ## One thing done -/

/-- What one thing done comes to: its answer and the state that it leaves, with what was checked
before. -/
inductive Does (u : Use α) : Op α → Answer α α → Use α → Prop where
  /-- The sender or the receiver it takes does not exist. -/
  | missing {op : Op α}
    (h : op = .close ∨ op = .dropReceiver → u.queue.hasReceiver = false) : Does u op .missing u
  | sent {i : Nat} {a : α} (hopen : u.queue.isClosed = false) : Does u (.send i a) .sent
    { u with queue := { u.queue with
      entries := u.queue.entries ++ [a], pending := u.queue.pending + 1 } }
  | refused {i : Nat} {a : α} (hclosed : u.queue.isClosed = true) :
    Does u (.send i a) (.refused a) u
  /-- The oldest entry comes out, one way or the other. -/
  | took {op : Op α} {answer : Answer α α} {a : α} {rest : List α}
    (hreceiver : u.queue.hasReceiver = true) (hentries : u.queue.entries = a :: rest)
    (hreceives : op = .recv ∨ op = .tryRecv)
    (hanswer : answer = .looked (.entry a) ∨ answer = .tried (some a)) : Does u op answer
    { u with queue := { u.queue with entries := rest, pending := u.queue.pending - 1 } }
  /-- There is nothing to come out. -/
  | found {op : Op α} {answer : Answer α α} (hreceives : op = .recv ∨ op = .tryRecv)
    (hanswer : answer = .looked .ended ∨ answer = .looked .pending ∨ answer = .tried none) :
    Does u op answer u
  | closed : Does u .close .done { u with queue := u.queue.close }
  | dropped : Does u .dropReceiver .done { u with queue := u.queue.dropReceiver }
  | cloned {i : Nat} : Does u (.clone i) .done
    { queue := u.queue.cloneSender, senders := u.senders ++ [true] }
  | letGo {i : Nat} (hheld : u.holds i = true) : Does u (.drop i) .done
    { queue := u.queue.dropSender, senders := u.senders.set i false }

theorem does_bySender {i : Nat} {f : Use α → Answer α α × Use α}
    (hop : ¬(op = .close ∨ op = .dropReceiver))
    (h : u.holds i = true → u.Does op (f u).1 (f u).2) :
    u.Does op (u.bySender i f).1 (u.bySender i f).2 := by
  unfold bySender
  split
  · next hi => exact h hi
  · exact .missing fun hends => absurd hends hop

theorem does_byReceiver {f : Dispatch α → Answer α α × Dispatch α}
    (h : u.queue.hasReceiver = true →
      u.Does op (f u.queue).1 { u with queue := (f u.queue).2 }) :
    u.Does op (u.byReceiver f).1 (u.byReceiver f).2 := by
  unfold byReceiver
  split
  · next hr => exact h hr
  · next hr => exact .missing fun _ => Bool.eq_false_iff.2 hr

/-- Whatever is done is one of these. -/
theorem does_perform (u : Use α) (op : Op α) : u.Does op (u.perform op).1 (u.perform op).2 := by
  cases op with
  | send i a =>
    refine does_bySender (by simp) fun _ => ?_
    cases hclosed : u.queue.isClosed with
    | true =>
      rw [send_of_closed hclosed]
      exact .refused hclosed
    | false =>
      rw [send_of_open hclosed]
      exact .sent hclosed
  | recv =>
    refine does_byReceiver fun hr => ?_
    unfold recv
    split
    · next a rest heq => exact .took hr heq (Or.inl rfl) (Or.inl rfl)
    · split
      · exact .found (Or.inl rfl) (Or.inl rfl)
      · exact .found (Or.inl rfl) (Or.inr (Or.inl rfl))
  | tryRecv =>
    refine does_byReceiver fun hr => ?_
    unfold tryRecv
    split
    · next a rest heq => exact .took hr heq (Or.inr rfl) (Or.inr rfl)
    · exact .found (Or.inr rfl) (Or.inr (Or.inr rfl))
  | close => exact does_byReceiver fun _ => .closed
  | dropReceiver => exact does_byReceiver fun _ => .dropped
  | clone i => exact does_bySender (by simp) fun _ => .cloned
  | drop i => exact does_bySender (by simp) fun hi => .letGo hi

/-! ## What it keeps -/

/-- What went in and has not come out is queued, in order, and counted. -/
structure Orderly (u : Use α) (went came : List α) : Prop where
  inOrder : u.queue.hasReceiver = true → came ++ u.queue.entries = went
  counted : u.queue.hasReceiver = true → u.queue.pending = u.queue.entries.length
  senders : u.queue.senders = u.senders.count true

theorem orderly_start : Orderly ({} : Use α) [] [] where
  inOrder _ := rfl
  counted _ := rfl
  senders := rfl

/-- One sender less is held when one that exists is dropped. -/
theorem count_set_false {i : Nat} (h : u.holds i = true) :
    (u.senders.set i false).count true = u.senders.count true - 1 := by
  have hget : u.senders[i]? = some true := by simpa [holds] using h
  obtain ⟨hlt, hi⟩ := List.getElem?_eq_some_iff.1 hget
  rw [List.count_set hlt, hi]
  simp

/-- Something that moves no entry keeps the order. -/
theorem Orderly.unmoved (h : u.Orderly went came) (hentries : u'.queue.entries = u.queue.entries)
    (hpending : u'.queue.pending = u.queue.pending)
    (hreceiver : u'.queue.hasReceiver = true → u.queue.hasReceiver = true)
    (hsenders : u'.queue.senders = u'.senders.count true) : u'.Orderly went came where
  inOrder hr := by
    rw [hentries]
    exact h.inOrder (hreceiver hr)
  counted hr := by
    rw [hentries, hpending]
    exact h.counted (hreceiver hr)
  senders := hsenders

/-- The order is kept, with what goes in and what comes out. -/
theorem Does.orderly (hd : u.Does op answer u') (h : u.Orderly went came) :
    u'.Orderly (went ++ (accepted? (op, answer)).toList)
      (came ++ (received? (op, answer)).toList) := by
  have hstill : u.Orderly (went ++ []) (came ++ []) := by simpa using h
  cases hd with
  | missing =>
    cases op <;> exact hstill
  | @sent i a =>
    refine ⟨fun hr => ?_, fun hr => ?_, h.senders⟩
    · show (came ++ []) ++ (u.queue.entries ++ [a]) = went ++ [a]
      rw [List.append_nil, ← List.append_assoc, h.inOrder hr]
    · show u.queue.pending + 1 = (u.queue.entries ++ [a]).length
      rw [h.counted hr, List.length_append, List.length_singleton]
  | refused => exact hstill
  | @took _ _ a rest _ hentries hreceives hanswer =>
    have hin : accepted? (op, answer) = none := by
      rcases hreceives with rfl | rfl <;> rfl
    have hout : received? (op, answer) = some a := by
      rcases hanswer with rfl | rfl <;> rcases hreceives with rfl | rfl <;> rfl
    rw [hin, hout]
    refine ⟨fun hr => ?_, fun hr => ?_, h.senders⟩
    · show (came ++ [a]) ++ rest = went ++ []
      rw [List.append_assoc, List.singleton_append, ← hentries, List.append_nil]
      exact h.inOrder hr
    · show u.queue.pending - 1 = rest.length
      rw [h.counted hr, hentries, List.length_cons, Nat.add_sub_cancel]
  | found hreceives hanswer =>
    rcases hreceives with rfl | rfl <;> rcases hanswer with rfl | rfl | rfl <;> exact hstill
  | closed =>
    have hreceiver := u.queue.hasReceiver_close
    obtain ⟨receiver, hclose⟩ := u.queue.close_eq
    rw [hclose] at hreceiver ⊢
    exact hstill.unmoved rfl rfl (fun hr => hreceiver.symm.trans hr) h.senders
  | dropped =>
    refine ⟨fun hr => ?_, fun hr => ?_, h.senders⟩ <;> cases hr
  | cloned =>
    refine hstill.unmoved rfl rfl id ?_
    show u.queue.senders + 1 = (u.senders ++ [true]).count true
    rw [h.senders, List.count_append]
    rfl
  | letGo hheld =>
    refine hstill.unmoved rfl rfl id ?_
    show u.queue.senders - 1 = _
    rw [h.senders, count_set_false hheld]

/-- A queue refuses entries once it was closed or its receiver was dropped, and not before. -/
theorem Does.isClosed_iff (hd : u.Does op answer u') :
    u'.queue.isClosed = true ↔ u.queue.isClosed = true ∨ op = .close ∨ op = .dropReceiver := by
  cases hd with
  | missing h =>
    exact ⟨Or.inl, fun hc => hc.elim id fun hends => isClosed_of_not_hasReceiver (h hends)⟩
  | sent => simp [isClosed]
  | refused hclosed => simp [hclosed]
  | took _ _ hreceives =>
    rcases hreceives with rfl | rfl <;> simp [isClosed]
  | found hreceives =>
    rcases hreceives with rfl | rfl <;> simp
  | closed => simp [isClosed_close]
  | dropped => simp [isClosed, dropReceiver]
  | cloned => simp [isClosed, cloneSender]
  | letGo => simp [isClosed, dropSender]

/-- The receiver exists until it is dropped. -/
theorem Does.hasReceiver_iff (hd : u.Does op answer u') :
    u'.queue.hasReceiver = true ↔ u.queue.hasReceiver = true ∧ op ≠ .dropReceiver := by
  cases hd with
  | missing h =>
    refine ⟨fun hr => ⟨hr, fun hop => ?_⟩, And.left⟩
    rw [h (Or.inr hop)] at hr
    cases hr
  | took _ _ hreceives | found hreceives =>
    rcases hreceives with rfl | rfl <;> simp [hasReceiver]
  | closed => simp [hasReceiver_close]
  | dropped => simp [hasReceiver, dropReceiver]
  | _ => simp [hasReceiver, cloneSender, dropSender]

/-- Without a receiver the count stays as it is. -/
theorem Does.frozen (hd : u.Does op answer u') (h : u.queue.hasReceiver = false) :
    u'.queue.hasReceiver = false ∧ u'.queue.pending = u.queue.pending := by
  cases hd with
  | sent hopen => rw [isClosed_of_not_hasReceiver h] at hopen; cases hopen
  | took hreceiver => rw [h] at hreceiver; cases hreceiver
  | closed =>
    obtain ⟨receiver, hclose⟩ := u.queue.close_eq
    exact ⟨(hasReceiver_close _).trans h, by rw [hclose]⟩
  | dropped => exact ⟨rfl, rfl⟩
  | _ => exact ⟨h, rfl⟩

/-! ## Runs -/

theorem Orderly.run (h : u.Orderly went came) (ops : List (Op α)) :
    (u.run ops).2.Orderly (went ++ accepted (u.run ops).1) (came ++ received (u.run ops).1) := by
  induction ops generalizing u went came with
  | nil => simpa [accepted, received] using h
  | cons op ops ih =>
    have hrest := ih ((u.does_perform op).orderly h)
    rwa [List.append_assoc, List.append_assoc, ← accepted_cons, ← received_cons] at hrest

/-- A queue refuses entries after a run in which it was closed or lost its receiver. -/
theorem isClosed_run (u : Use α) (ops : List (Op α)) : (u.run ops).2.queue.isClosed = true ↔
    u.queue.isClosed = true ∨ .close ∈ ops ∨ .dropReceiver ∈ ops := by
  induction ops generalizing u with
  | nil => simp
  | cons op ops ih =>
    rw [snd_run_cons, ih, (u.does_perform op).isClosed_iff, List.mem_cons, List.mem_cons,
      eq_comm (a := Op.close), eq_comm (a := Op.dropReceiver)]
    tauto

theorem hasReceiver_run (u : Use α) (ops : List (Op α)) :
    (u.run ops).2.queue.hasReceiver = true ↔
      u.queue.hasReceiver = true ∧ .dropReceiver ∉ ops := by
  induction ops generalizing u with
  | nil => simp
  | cons op ops ih =>
    rw [snd_run_cons, ih, (u.does_perform op).hasReceiver_iff, List.mem_cons, not_or, ne_comm,
      and_assoc]

/-- Once the receiver is gone, no run changes the count. -/
theorem frozen_run (h : u.queue.hasReceiver = false) (ops : List (Op α)) :
    (u.run ops).2.queue.pending = u.queue.pending := by
  induction ops generalizing u with
  | nil => rfl
  | cons op ops ih =>
    have hd := (u.does_perform op).frozen h
    exact (ih hd.1).trans hd.2

/-! ## Whatever comes next -/

theorem perform_send {i : Nat} (h : u.holds i = true) (a : α) : u.perform (.send i a) =
    (verdict (u.queue.send a).1, { u with queue := (u.queue.send a).2 }) := by
  simp [perform, bySender, h]

theorem perform_recv (h : u.queue.hasReceiver = true) :
    u.perform .recv = (.looked u.queue.recv.1, { u with queue := u.queue.recv.2 }) := by
  simp [perform, byReceiver, h]

theorem perform_tryRecv (h : u.queue.hasReceiver = true) :
    u.perform .tryRecv = (.tried u.queue.tryRecv.1, { u with queue := u.queue.tryRecv.2 }) := by
  simp [perform, byReceiver, h]

theorem pending_dropReceiver (u : Use α) :
    (u.perform .dropReceiver).2.queue.pending = u.queue.pending := by
  show (u.byReceiver _).2.queue.pending = _
  unfold byReceiver
  split <;> rfl

/-- A look at the queue yields the oldest entry, and ends when there is none and none can come. -/
theorem looked_iff (h : u.Orderly went came) (hr : u.queue.hasReceiver = true) :
    (∀ a, (u.perform .recv).1 = .looked (.entry a) ↔ u.queue.entries.head? = some a) ∧
      ((u.perform .recv).1 = .looked .ended ↔
        u.queue.entries = [] ∧ (u.queue.isClosed = true ∨ ∀ i, u.holds i = false)) := by
  have hsenders : u.queue.senders = 0 ↔ ∀ i, u.holds i = false := by
    rw [h.senders, List.count_eq_zero, List.mem_iff_getElem?]
    simp [holds]
  rw [perform_recv hr, ← hsenders]
  unfold recv
  split
  · next a rest heq => simp [heq]
  · next heq =>
    rw [heq]
    split <;> simp_all

theorem tried_eq (hr : u.queue.hasReceiver = true) :
    (u.perform .tryRecv).1 = .tried u.queue.entries.head? := by
  rw [perform_tryRecv hr]
  unfold tryRecv
  split
  · next a rest heq => rw [heq, List.head?_cons]
  · next heq => rw [heq, List.head?_nil]

/-- Looking either way takes the oldest entry out. -/
theorem received_look (hr : u.queue.hasReceiver = true) (hop : op = .recv ∨ op = .tryRecv) :
    (received? (op, (u.perform op).1)).toList = u.queue.entries.take 1 ∧
      (u.perform op).2.queue.entries = u.queue.entries.drop 1 := by
  rcases hop with rfl | rfl
  · rw [perform_recv hr]
    cases h : u.queue.entries with
    | nil =>
      simp only [recv, h]
      split <;> exact ⟨rfl, rfl⟩
    | cons a rest =>
      simp only [recv, h]
      exact ⟨rfl, rfl⟩
  · rw [perform_tryRecv hr]
    cases h : u.queue.entries with
    | nil | cons =>
      simp only [tryRecv, h]
      exact ⟨rfl, rfl⟩

/-- A receiver that looks often enough gets everything that is queued. -/
theorem received_looks (hr : u.queue.hasReceiver = true) {looks : List (Op α)}
    (hlooks : ∀ op ∈ looks, op = .recv ∨ op = .tryRecv) :
    received (u.run looks).1 = u.queue.entries.take looks.length := by
  induction looks generalizing u with
  | nil => rfl
  | cons op looks ih =>
    have hop := hlooks op List.mem_cons_self
    obtain ⟨hfirst, hrest⟩ := received_look hr hop
    have hstill : (u.perform op).2.queue.hasReceiver = true := by
      refine (u.does_perform op).hasReceiver_iff.2 ⟨hr, ?_⟩
      rcases hop with rfl | rfl <;> simp
    have hothers := ih hstill fun op h => hlooks op (List.mem_cons_of_mem _ h)
    rw [fst_run_cons, received_cons, hfirst, hothers, hrest, List.length_cons, Nat.add_comm,
      List.take_add]

/-- After any use of a queue, by any number of senders: while the receiver exists, what came out
followed by what is queued is what was accepted, and every sender counts what is queued. An entry is
refused exactly after a close or a drop of the receiver, and then comes back and changes nothing. A
receiver gets the oldest entry, and its end only when nothing is queued and nothing can be. A close
loses no entry. Dropping the receiver fixes the count. No count would ever go below zero. -/
theorem entries_in_order_and_counted (ops : List (Op α)) :
    let done := (({} : Use α).run ops).1
    let u := (({} : Use α).run ops).2
    (.dropReceiver ∉ ops → received done ++ u.queue.entries = accepted done ∧
      ∀ i, u.holds i = true → u.pending? i = some u.queue.entries.length) ∧
    (∀ i a, u.holds i = true →
      ((.close ∈ ops ∨ .dropReceiver ∈ ops) → u.perform (.send i a) = (.refused a, u)) ∧
      (¬(.close ∈ ops ∨ .dropReceiver ∈ ops) → (u.perform (.send i a)).1 = .sent ∧
        (u.perform (.send i a)).2.queue.entries = u.queue.entries ++ [a])) ∧
    (.dropReceiver ∉ ops →
      (∀ a, (u.perform .recv).1 = .looked (.entry a) ↔ u.queue.entries.head? = some a) ∧
      ((u.perform .recv).1 = .looked .ended ↔
        u.queue.entries = [] ∧ (.close ∈ ops ∨ ∀ i, u.holds i = false)) ∧
      (u.perform .tryRecv).1 = .tried u.queue.entries.head?) ∧
    (.dropReceiver ∉ ops → ∀ looks : List (Op α), (∀ op ∈ looks, op = .recv ∨ op = .tryRecv) →
      received ((u.perform .close).2.run looks).1 = u.queue.entries.take looks.length) ∧
    (∀ later, ((u.perform .dropReceiver).2.run later).2.queue.pending = u.queue.pending) ∧
    (∀ a, u.queue.enqueueInSteps a = some (u.queue.send a)) ∧
    (.dropReceiver ∉ ops → u.queue.recvInSteps = some u.queue.recv ∧
      u.queue.tryRecvInSteps = some u.queue.tryRecv) := by
  intro done u
  have horderly : u.Orderly (accepted done) (received done) := orderly_start.run ops
  have hclosed : u.queue.isClosed = true ↔ .close ∈ ops ∨ .dropReceiver ∈ ops := by
    rw [isClosed_run]
    exact or_iff_right nofun
  have hreceiver : .dropReceiver ∉ ops → u.queue.hasReceiver = true := fun h =>
    (hasReceiver_run _ ops).2 ⟨rfl, h⟩
  refine ⟨fun h => ⟨horderly.inOrder (hreceiver h), fun i hi => ?_⟩, fun i a hi => ⟨fun h => ?_,
    fun h => ?_⟩, fun h => ?_, fun h looks hlooks => ?_, fun later => ?_, enqueueInSteps_eq _,
    fun h => recvInSteps_eq (horderly.counted (hreceiver h))⟩
  · rw [pending?, if_pos hi, horderly.counted (hreceiver h)]
  · rw [perform_send hi, send_of_closed (hclosed.2 h)]
    rfl
  · rw [perform_send hi, send_of_open (Bool.eq_false_iff.2 fun hc => h (hclosed.1 hc))]
    exact ⟨rfl, rfl⟩
  · obtain ⟨hentry, hended⟩ := looked_iff horderly (hreceiver h)
    rw [hclosed, or_iff_left h] at hended
    exact ⟨hentry, hended, tried_eq (hreceiver h)⟩
  · have hclose : (u.perform .close).2 = { u with queue := u.queue.close } := by
      simp [perform, byReceiver, hreceiver h]
    obtain ⟨receiver, heq⟩ := u.queue.close_eq
    have hstill : (u.perform .close).2.queue.hasReceiver = true := by
      rw [hclose]
      exact (hasReceiver_close _).trans (hreceiver h)
    rw [received_looks hstill hlooks, hclose, heq]
  · have hd := u.does_perform .dropReceiver
    have hgone : (u.perform .dropReceiver).2.queue.hasReceiver = false :=
      Bool.eq_false_iff.2 fun hr => (hd.hasReceiver_iff.1 hr).2 rfl
    exact (frozen_run hgone later).trans (pending_dropReceiver u)

end Use

end Dispatch

end PubSub
