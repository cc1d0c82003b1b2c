import PubSub.Request.Basic

/-!
# The registry of pending requests

Every request a connection made, and which of them wait under which key.

## Main definitions

- `Registry` — all requests by number, the keys that wait, the metrics, the sign for the sweeper
- `Registry.register` — a new request under a key
- `Registry.resolveReply`, `Registry.abandon`, `Registry.cancelAll`, `Registry.sweepExpired` — the
  ways a request leaves the registry
- `Registry.nextExpiry` — the earliest deadline of a waiting request

## Design notes

A request keeps its number for good, so that its caller can look at it after it has left. Every way
out of the registry removes the key and attempts one resolution; the metrics count it if the attempt
succeeded. Registering a key that waits already gives up the older request.
-/

namespace PubSub

/-- The requests of one connection. -/
structure Registry where
  /-- Every request ever made; its number is its position. -/
  requests : List Request := []
  /-- The keys that wait, each with the number of its request. -/
  entries : List (String × Nat) := []
  counts : RequestCounts := {}
  /-- A request was registered since the sweeper last planned its sleep. -/
  signalled : Bool := false

namespace Registry

/-- How many requests wait. -/
def size (reg : Registry) : Nat := reg.entries.length

/-- The number of the request that waits under a key. -/
def find? (reg : Registry) (key : String) : Option Nat := reg.entries.lookup key

/-- Whether a request waits under a key. -/
def contains (reg : Registry) (key : String) : Bool := (reg.find? key).isSome

/-- The request with a number. -/
def request? (reg : Registry) (i : Nat) : Option Request := reg.requests[i]?

/-- The registry in which nothing waits under a key. -/
def erase (reg : Registry) (key : String) : Registry :=
  { reg with entries := reg.entries.filter (·.1 != key) }

/-- Changes the request with a number. -/
def modify (reg : Registry) (i : Nat) (f : Request → Request) : Registry :=
  { reg with requests := reg.requests.modify i f }

/-- One attempt to resolve the request with a number, counted if it succeeds. -/
def resolve (reg : Registry) (i : Nat) (o : Outcome) : Bool × Registry :=
  match reg.request? i with
  | none => (false, reg)
  | some r =>
    match r.resolve o with
    | (true, r') =>
      (true, { reg.modify i fun _ => r' with counts := reg.counts.resolved o.resolution })
    | (false, _) => (false, reg)

/-- Takes the request with a number out from under its key and attempts to resolve it. -/
def release (reg : Registry) (key : String) (i : Nat) (o : Outcome) : Bool × Registry :=
  { reg.erase key with counts := reg.counts.left }.resolve i o

/-- Gives up the request that waits under a key; whether that resolved it. -/
def abandon (reg : Registry) (key : String) : Bool × Registry :=
  match reg.find? key with
  | none => (false, reg)
  | some i => reg.release key i (.cancelled .closing)

/-- Makes a request under a key, giving up the one that waits there; answers its number. -/
def register (reg : Registry) (key : String) (options : RequestOptions) (defaultTimeout : Duration)
    (now : Instant) : Nat × Registry :=
  let reg := (reg.abandon key).2
  (reg.requests.length, { reg with
    requests := reg.requests ++ [Request.create key options defaultTimeout now]
    entries := reg.entries ++ [(key, reg.requests.length)]
    counts := reg.counts.entered
    signalled := true })

/-- Resolves the request that waits under a key by a reply; whether one did. -/
def resolveReply (reg : Registry) (key : String) (m : Message) : Bool × Registry :=
  match reg.find? key with
  | none => (false, reg)
  | some i => reg.release key i (Outcome.ofReply m)

/-- Gives up a list of keys one after the other and counts the requests resolved. -/
def abandonAll (reg : Registry) : List String → Nat × Registry
  | [] => (0, reg)
  | key :: keys =>
    let (won, reg) := reg.abandon key
    let (n, reg) := reg.abandonAll keys
    (n + won.toNat, reg)

/-- Gives up every request; answers how many that resolved. -/
def cancelAll (reg : Registry) : Nat × Registry := reg.abandonAll (reg.entries.map (·.1))

/-- What a sweep at `now` does with one entry: a request that is due expires, one that was resolved
elsewhere is taken out; answers whether the sweep let it expire. -/
def sweepEntry (reg : Registry) (now : Instant) (key : String) (i : Nat) : Bool × Registry :=
  match reg.request? i with
  | none => (false, reg)
  | some r =>
    if r.isDue now then reg.release key i (.cancelled .timedOut)
    else if r.isDone then (false, { reg.erase key with counts := reg.counts.left })
    else (false, reg)

/-- Sweeps a list of entries and counts those that expired. -/
def sweepEntries (reg : Registry) (now : Instant) : List (String × Nat) → Nat × Registry
  | [] => (0, reg)
  | (key, i) :: rest =>
    let (expired, reg) := reg.sweepEntry now key i
    let (n, reg) := reg.sweepEntries now rest
    (n + expired.toNat, reg)

/-- Lets every request expire whose deadline is at or before `now`; answers how many. -/
def sweepExpired (reg : Registry) (now : Instant) : Nat × Registry :=
  reg.sweepEntries now reg.entries

/-- The deadlines of the requests that wait. -/
def deadlines (reg : Registry) : List Instant :=
  reg.entries.filterMap fun entry => (reg.request? entry.2).map (·.expiresAt)

/-- The earliest deadline of a request that waits. -/
def nextExpiry (reg : Registry) : Option Instant := reg.deadlines.min?

/-- One look by the caller of the request with a number. -/
def tryResult (reg : Registry) (i : Nat) : Option Settlement × Registry :=
  match reg.request? i with
  | none => (none, reg)
  | some r =>
    let (answer, r') := r.tryResult
    (answer, reg.modify i fun _ => r')

end Registry

end PubSub
