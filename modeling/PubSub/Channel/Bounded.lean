import PubSub.Channel.Outbound
import PubSub.Channel.Use

/-!
# Outbound channels in use

What can be done at the two ends of an outbound channel, by its writer and by any number of senders,
one thing after the other.

## Main definitions

- `Outbound.Use` — an outbound channel with the senders made for it
- `Outbound.Use.start` — a new channel, with its first sender
- `Outbound.Use.perform`, `Outbound.Use.run` — doing one thing, and a list of things in order
-/

namespace PubSub

namespace Outbound

variable {α : Type}

/-- Whether the receiving side still exists. -/
def hasReceiver (ch : Outbound α) : Bool := ch.receiver != .dropped

/-- An entry is sent; the channel stays as it is when it refuses the entry. -/
def trySend (ch : Outbound α) (a : α) : Except TransportError Unit × Outbound α :=
  match ch.send a with
  | .ok ch' => (.ok (), ch')
  | .error e => (.error e, ch)

/-- A channel with the senders made for it. -/
structure Use (α : Type) where
  channel : Outbound α
  /-- Whether each sender ever made still exists. -/
  senders : List Bool := [true]

namespace Use

/-- A new channel for a number of entries that was asked for. -/
def start (capacity : Nat) : Use α := { channel := ofCapacity capacity }

/-- Whether the sender with a number exists. -/
def holds (u : Use α) (sender : Nat) : Bool := u.senders[sender]? == some true

/-- Something that takes a sender that exists. -/
def bySender (u : Use α) (sender : Nat)
    (f : Use α → Channel.Answer TransportError α × Use α) :
    Channel.Answer TransportError α × Use α :=
  if u.holds sender then f u else (.missing, u)

/-- Something that takes the receiver. -/
def byReceiver (u : Use α) (f : Outbound α → Channel.Answer TransportError α × Outbound α) :
    Channel.Answer TransportError α × Use α :=
  if u.channel.hasReceiver then ((f u.channel).1, { u with channel := (f u.channel).2 })
  else (.missing, u)

/-- What a sender learns of the entry it sent. -/
def verdict : Except TransportError Unit → Channel.Answer TransportError α
  | .ok () => .sent
  | .error e => .refused e

/-- One thing done, and its answer. -/
def perform (u : Use α) : Channel.Op α → Channel.Answer TransportError α × Use α
  | .send sender a => u.bySender sender fun u =>
    (verdict (u.channel.trySend a).1, { u with channel := (u.channel.trySend a).2 })
  | .recv => u.byReceiver fun ch => (.looked ch.recv.1, ch.recv.2)
  | .tryRecv => u.byReceiver fun ch => (.tried ch.tryRecv.1, ch.tryRecv.2)
  | .close => u.byReceiver fun ch => (.done, ch.close)
  | .dropReceiver => u.byReceiver fun ch => (.done, ch.dropReceiver)
  | .clone sender => u.bySender sender fun u =>
    (.done, { channel := u.channel.cloneSender, senders := u.senders ++ [true] })
  | .drop sender => u.bySender sender fun u =>
    (.done, { channel := u.channel.dropSender, senders := u.senders.set sender false })

/-- A list of things done in order, each with its answer. -/
def run (u : Use α) : List (Channel.Op α) →
    List (Channel.Op α × Channel.Answer TransportError α) × Use α
  | [] => ([], u)
  | op :: ops =>
    let rest := (u.perform op).2.run ops
    ((op, (u.perform op).1) :: rest.1, rest.2)

@[simp] theorem run_nil (u : Use α) : u.run [] = ([], u) := rfl

@[simp] theorem fst_run_cons (u : Use α) (op : Channel.Op α) (ops : List (Channel.Op α)) :
    (u.run (op :: ops)).1 = (op, (u.perform op).1) :: ((u.perform op).2.run ops).1 := rfl

@[simp] theorem snd_run_cons (u : Use α) (op : Channel.Op α) (ops : List (Channel.Op α)) :
    (u.run (op :: ops)).2 = ((u.perform op).2.run ops).2 := rfl

end Use

end Outbound

end PubSub
