import PubSub.Connection.Basic

/-!
# The traffic of a connection

What the journal of a connection says about frames: which were offered to the transport, which of
them it accepted, and which of those ask for a reply.

## Main definitions

- `Frame.sid?`, `Frame.asks` — the number a frame carries, and whether it asks for a reply
- `Frame.names` — the subjects and the queue group a frame carries
- `Connection.traffic` — every frame that was offered, with what became of it
- `Connection.accepted`, `Connection.asked` — those accepted, and those of them that ask
- `Connection.announcement` — the frame that tells the server about the reply subjects
-/

namespace PubSub

namespace Frame

/-- The number of the subscription that a frame announces or withdraws. -/
def sid? : Frame → Option Sid
  | .subscribe sid _ _ | .unsubscribe sid _ => some sid
  | .publish .. => none

/-- Whether a frame names a subject for replies. -/
def asks : Frame → Bool
  | .publish _ (some _) _ => true
  | _ => false

/-- The subjects that a frame carries, and its queue group. -/
def names : Frame → List String
  | .subscribe _ subject queueGroup => subject :: queueGroup.toList
  | .publish subject replyTo _ => subject :: replyTo.toList
  | .unsubscribe .. => []

end Frame

/-- The frame that an event is about, with what became of it. -/
def Event.offer? : Event → Option (Frame × Except TransportError Unit)
  | .offered o verdict => some (o.frame, verdict)
  | _ => none

namespace Connection

/-- Every frame that was offered, with what became of it, oldest first. -/
def traffic (c : Connection) : List (Frame × Except TransportError Unit) :=
  c.journal.reverse.filterMap Event.offer?

theorem traffic_log (c : Connection) (e : Event) :
    (c.log e).traffic = c.traffic ++ e.offer?.toList := by
  show (e :: c.journal).reverse.filterMap Event.offer? = _
  rw [List.reverse_cons, List.filterMap_append]
  refine congrArg (c.traffic ++ ·) ?_
  cases h : e.offer? <;> simp [h]

/-- The frames among some that were accepted. -/
def acceptedOf (traffic : List (Frame × Except TransportError Unit)) : List Frame :=
  traffic.filterMap fun offer =>
    match offer with
    | (frame, .ok ()) => some frame
    | (_, .error _) => none

theorem acceptedOf_append (l l' : List (Frame × Except TransportError Unit)) :
    acceptedOf (l ++ l') = acceptedOf l ++ acceptedOf l' := List.filterMap_append

theorem mem_of_mem_acceptedOf {l : List (Frame × Except TransportError Unit)} {f : Frame}
    (h : f ∈ acceptedOf l) : (f, .ok ()) ∈ l := by
  obtain ⟨⟨g, verdict⟩, hmem, heq⟩ := List.mem_filterMap.1 h
  cases verdict with
  | ok =>
    cases heq
    exact hmem
  | error => cases heq

/-- The frames that the transport accepted, oldest first. -/
def accepted (c : Connection) : List Frame := acceptedOf c.traffic

/-- The accepted frames that ask for a reply. -/
def asked (c : Connection) : List Frame := c.accepted.filter Frame.asks

/-- The frame that tells the server about the reply subjects. -/
def announcement (c : Connection) : Frame := .subscribe replySid c.inbox.wildcard none

end Connection

end PubSub
