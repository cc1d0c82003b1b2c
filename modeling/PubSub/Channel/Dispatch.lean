/-!
# Dispatch queues

The unbounded queue between the inbound read path and the worker of a subscription. Sending never
waits; entries come out in the order they went in.

## Main definitions

- `Receiver` — whether the receiving side takes, refuses, or is gone
- `Received` — what one look at a queue yields
- `Dispatch` — queued entries, the count the senders read, the receiving side, the senders
- `Dispatch.enqueue`, `Dispatch.recv`, `Dispatch.tryRecv` — the two ends
- `Dispatch.close`, `Dispatch.dropReceiver` — the two ways the receiving side ends

## Design notes

The count of pending entries is kept beside the queue, because senders read it without touching the
entries. It follows the queue while the receiving side exists; when that side is dropped the entries
are discarded and the count keeps its last value.
-/

namespace PubSub

/-- The state of the receiving side of a channel. -/
inductive Receiver where
  | accepting
  /-- It refuses new entries; queued ones can still be taken. -/
  | closed
  /-- It no longer exists. -/
  | dropped
  deriving DecidableEq

/-- What one look at a channel yields. -/
inductive Received (α : Type) where
  | entry (a : α)
  /-- Nothing yet. -/
  | pending
  | ended
  deriving DecidableEq

/-- An unbounded queue of entries for one receiver. -/
structure Dispatch (α : Type) where
  entries : List α := []
  /-- How many entries the senders believe to be queued. -/
  pending : Nat := 0
  receiver : Receiver := .accepting
  senders : Nat := 1

namespace Dispatch

variable {α : Type}

/-- Whether new entries are refused. -/
def isClosed (q : Dispatch α) : Bool := q.receiver != .accepting

/-- Appends an entry, or hands it back when the receiving side refuses it. -/
def enqueue (q : Dispatch α) (a : α) : Except α (Dispatch α) :=
  if q.isClosed then .error a
  else .ok { q with entries := q.entries ++ [a], pending := q.pending + 1 }

/-- One look at the queue by a receiver that would wait. -/
def recv (q : Dispatch α) : Received α × Dispatch α :=
  match q.entries with
  | a :: rest => (.entry a, { q with entries := rest, pending := q.pending - 1 })
  | [] => (if q.isClosed || q.senders == 0 then .ended else .pending, q)

/-- Takes the oldest entry if there is one. -/
def tryRecv (q : Dispatch α) : Option α × Dispatch α :=
  match q.entries with
  | a :: rest => (some a, { q with entries := rest, pending := q.pending - 1 })
  | [] => (none, q)

/-- Refuses further entries. -/
def close (q : Dispatch α) : Dispatch α :=
  if q.receiver = .accepting then { q with receiver := .closed } else q

/-- Ends the receiving side and discards what is queued. -/
def dropReceiver (q : Dispatch α) : Dispatch α := { q with entries := [], receiver := .dropped }

/-- One more sender. -/
def cloneSender (q : Dispatch α) : Dispatch α := { q with senders := q.senders + 1 }

/-- One sender less. -/
def dropSender (q : Dispatch α) : Dispatch α := { q with senders := q.senders - 1 }

end Dispatch

end PubSub
