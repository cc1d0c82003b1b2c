import PubSub.Channel.Dispatch
import PubSub.Error

/-!
# Outbound channels

The bounded queue of frames between a connection and whatever writes to the server.

## Main definitions

- `Outbound` — queued frames, capacity, the receiving side, the senders
- `Outbound.ofCapacity` — an empty channel; a capacity of zero is raised to one
- `Outbound.send` — accepts an entry or says why not
- `Outbound.recv`, `Outbound.tryRecv` — the writer's end

## Design notes

A channel whose receiving side has ended refuses as closed, even when it is also full.
-/

namespace PubSub

/-- A bounded queue of entries for one receiver. -/
structure Outbound (α : Type) where
  entries : List α := []
  capacity : Nat
  receiver : Receiver := .accepting
  senders : Nat := 1

namespace Outbound

variable {α : Type}

/-- An empty channel for `capacity` entries, and at least for one. -/
def ofCapacity (capacity : Nat) : Outbound α := { capacity := Nat.max capacity 1 }

/-- Whether new entries are refused because the receiving side has ended. -/
def isClosed (ch : Outbound α) : Bool := ch.receiver != .accepting

/-- Appends an entry if the receiving side takes entries and there is room. -/
def send (ch : Outbound α) (a : α) : Except TransportError (Outbound α) :=
  if ch.isClosed then .error .closed
  else if ch.capacity ≤ ch.entries.length then .error .queueFull
  else .ok { ch with entries := ch.entries ++ [a] }

/-- One look at the channel by a writer that would wait. -/
def recv (ch : Outbound α) : Received α × Outbound α :=
  match ch.entries with
  | a :: rest => (.entry a, { ch with entries := rest })
  | [] => (if ch.isClosed || ch.senders == 0 then .ended else .pending, ch)

/-- Takes the oldest entry if there is one. -/
def tryRecv (ch : Outbound α) : Option α × Outbound α :=
  match ch.entries with
  | a :: rest => (some a, { ch with entries := rest })
  | [] => (none, ch)

/-- Takes up to `n` entries, oldest first. -/
def takeUpTo (ch : Outbound α) (n : Nat) : List α × Outbound α :=
  (ch.entries.take n, { ch with entries := ch.entries.drop n })

/-- Refuses further entries; queued ones can still be taken. -/
def close (ch : Outbound α) : Outbound α :=
  if ch.receiver = .accepting then { ch with receiver := .closed } else ch

/-- Ends the receiving side and discards what is queued. -/
def dropReceiver (ch : Outbound α) : Outbound α := { ch with entries := [], receiver := .dropped }

/-- One more sender. -/
def cloneSender (ch : Outbound α) : Outbound α := { ch with senders := ch.senders + 1 }

/-- One sender less. -/
def dropSender (ch : Outbound α) : Outbound α := { ch with senders := ch.senders - 1 }

end Outbound

end PubSub
