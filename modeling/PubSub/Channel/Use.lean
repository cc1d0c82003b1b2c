import PubSub.Channel.Dispatch

/-!
# Channels in use

What can be done at the two ends of a channel, one thing after the other. There may be any number of
senders; each can be cloned, and each can be dropped, and so can the receiver.

## Main definitions

- `Channel.Op`, `Channel.Answer` — what can be done, and what that answers
- `Channel.accepted`, `Channel.received` — the entries that went in, and those that came out
- `Dispatch.Use` — a dispatch queue with the senders made for it
- `Dispatch.Use.perform`, `Dispatch.Use.run` — doing one thing, and a list of things in order
- `Dispatch.enqueueInSteps`, `Dispatch.recvInSteps`, `Dispatch.tryRecvInSteps` — the same ends of a
  queue, counted apart

## Design notes

The count of pending entries is a cell of its own. Whoever sends counts first and takes that back
when the entry is refused; whoever receives counts down after the entry has come out. In steps of
this sort a count that would have to go below zero is an error, and not zero.
-/

namespace PubSub

namespace Channel

/-- Something done at an end of a channel; senders are numbered as they were made. -/
inductive Op (α : Type) where
  | send (sender : Nat) (a : α)
  /-- The receiver looks once, as one that would wait. -/
  | recv
  | tryRecv
  | close
  | dropReceiver
  | clone (sender : Nat)
  | drop (sender : Nat)
  deriving DecidableEq

/-- The direct answer to something done; `ε` is what a sender gets whose entry is refused. -/
inductive Answer (ε α : Type) where
  | sent
  | refused (reason : ε)
  | looked (found : Received α)
  | tried (found : Option α)
  | done
  /-- The end it is asked of does not exist. -/
  | missing
  deriving DecidableEq

variable {ε α : Type}

/-- The entry that went in when something was done. -/
def accepted? : Op α × Answer ε α → Option α
  | (.send _ a, .sent) => some a
  | _ => none

/-- The entry that came out when something was done. -/
def received? : Op α × Answer ε α → Option α
  | (_, .looked (.entry a)) => some a
  | (_, .tried found) => found
  | _ => none

/-- The entries that went in, oldest first. -/
def accepted (done : List (Op α × Answer ε α)) : List α := done.filterMap accepted?

/-- The entries that came out, oldest first. -/
def received (done : List (Op α × Answer ε α)) : List α := done.filterMap received?

end Channel

namespace Dispatch

variable {α : Type}

/-- Whether the receiving side still exists. -/
def hasReceiver (q : Dispatch α) : Bool := q.receiver != .dropped

/-- An entry is sent; the queue stays as it is when it hands the entry back. -/
def send (q : Dispatch α) (a : α) : Except α Unit × Dispatch α :=
  match q.enqueue a with
  | .ok q' => (.ok (), q')
  | .error a => (.error a, q)

/-! ## The count apart from the entries -/

/-- The count goes up. -/
def countUp (q : Dispatch α) : Dispatch α := { q with pending := q.pending + 1 }

/-- The count goes down, which zero cannot. -/
def countDown? (q : Dispatch α) : Option (Dispatch α) :=
  if q.pending = 0 then none else some { q with pending := q.pending - 1 }

/-- An entry goes in, or is handed back. -/
def push (q : Dispatch α) (a : α) : Except α Unit × Dispatch α :=
  if q.isClosed then (.error a, q) else (.ok (), { q with entries := q.entries ++ [a] })

/-- The oldest entry comes out, if there is one. -/
def pop (q : Dispatch α) : Option α × Dispatch α :=
  match q.entries with
  | a :: rest => (some a, { q with entries := rest })
  | [] => (none, q)

/-- An entry is counted and then sent, and the count taken back if the entry is. -/
def enqueueInSteps (q : Dispatch α) (a : α) : Option (Except α Unit × Dispatch α) :=
  match q.countUp.push a with
  | (.ok (), q') => some (.ok (), q')
  | (.error a, q') => q'.countDown?.map (Prod.mk (.error a))

/-- The oldest entry comes out and is then no longer counted. -/
def recvInSteps (q : Dispatch α) : Option (Received α × Dispatch α) :=
  match q.pop with
  | (some a, q') => q'.countDown?.map (Prod.mk (.entry a))
  | (none, q') => some (if q'.isClosed || q'.senders == 0 then .ended else .pending, q')

/-- The same for a receiver that does not wait. -/
def tryRecvInSteps (q : Dispatch α) : Option (Option α × Dispatch α) :=
  match q.pop with
  | (some a, q') => q'.countDown?.map (Prod.mk (some a))
  | (none, q') => some (none, q')

/-! ## A queue in use -/

/-- A queue with the senders made for it. -/
structure Use (α : Type) where
  queue : Dispatch α := {}
  /-- Whether each sender ever made still exists. -/
  senders : List Bool := [true]

namespace Use

/-- Whether the sender with a number exists. -/
def holds (u : Use α) (sender : Nat) : Bool := u.senders[sender]? == some true

/-- What a sender that exists reads as the count of pending entries. -/
def pending? (u : Use α) (sender : Nat) : Option Nat :=
  if u.holds sender then some u.queue.pending else none

/-- Something that takes a sender that exists. -/
def bySender (u : Use α) (sender : Nat) (f : Use α → Channel.Answer α α × Use α) :
    Channel.Answer α α × Use α :=
  if u.holds sender then f u else (.missing, u)

/-- Something that takes the receiver. -/
def byReceiver (u : Use α) (f : Dispatch α → Channel.Answer α α × Dispatch α) :
    Channel.Answer α α × Use α :=
  if u.queue.hasReceiver then ((f u.queue).1, { u with queue := (f u.queue).2 }) else (.missing, u)

/-- What a sender learns of the entry it sent. -/
def verdict : Except α Unit → Channel.Answer α α
  | .ok () => .sent
  | .error a => .refused a

/-- One thing done, and its answer. -/
def perform (u : Use α) : Channel.Op α → Channel.Answer α α × Use α
  | .send sender a => u.bySender sender fun u =>
    (verdict (u.queue.send a).1, { u with queue := (u.queue.send a).2 })
  | .recv => u.byReceiver fun q => (.looked q.recv.1, q.recv.2)
  | .tryRecv => u.byReceiver fun q => (.tried q.tryRecv.1, q.tryRecv.2)
  | .close => u.byReceiver fun q => (.done, q.close)
  | .dropReceiver => u.byReceiver fun q => (.done, q.dropReceiver)
  | .clone sender => u.bySender sender fun u =>
    (.done, { queue := u.queue.cloneSender, senders := u.senders ++ [true] })
  | .drop sender => u.bySender sender fun u =>
    (.done, { queue := u.queue.dropSender, senders := u.senders.set sender false })

/-- A list of things done in order, each with its answer. -/
def run (u : Use α) : List (Channel.Op α) → List (Channel.Op α × Channel.Answer α α) × Use α
  | [] => ([], u)
  | op :: ops =>
    let rest := (u.perform op).2.run ops
    ((op, (u.perform op).1) :: rest.1, rest.2)

@[simp] theorem run_nil (u : Use α) : u.run [] = ([], u) := rfl

@[simp] theorem fst_run_cons (u : Use α) (op : Channel.Op α) (ops : List (Channel.Op α)) :
    (u.run (op :: ops)).1 = (op, (u.perform op).1) :: ((u.perform op).2.run ops).1 := rfl

@[simp] theorem snd_run_cons (u : Use α) (op : Channel.Op α) (ops : List (Channel.Op α)) :
    (u.run (op :: ops)).2 = ((u.perform op).2.run ops).2 := rfl

end Use

end Dispatch

end PubSub
