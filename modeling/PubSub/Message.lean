import PubSub.Text.Quoted

/-!
# Messages

The decoded form of what a server sends, and the entry that a message becomes in the queue of a
subscription.

## Main definitions

- `Sid` — the number a client gives a subscription and a server repeats with each message
- `Message` — subject, subscription, payload, and perhaps a reply subject and a status
- `Message.isNoResponders` — the server's signal that nobody listens to a request
- `Delivery` — a message together with whether its subscription was attached when it arrived

## Design notes

The payload is an uninterpreted byte string. The signal for "no responders" needs both the status
503 and an empty payload: a body with that status is an ordinary reply.
-/

namespace PubSub

/-- Payloads are compared byte by byte. -/
instance (priority := 2000) instDecidableEqPayload : DecidableEq ByteArray := ByteArray.instDecidableEq

/-- The number of a subscription. -/
abbrev Sid := Nat

/-- An inbound message. -/
structure Message where
  subject : String
  /-- The subscription the server addresses. -/
  sid : Sid := 0
  replyTo : Option String := none
  payload : ByteArray := ByteArray.empty
  status : Option Nat := none
  deriving DecidableEq

/-- The status a server attaches when nobody is subscribed to the subject of a request. -/
def noRespondersStatus : Nat := 503

namespace Message

/-- The server's signal that nobody listens to the subject of a request. -/
def isNoResponders (m : Message) : Bool :=
  m.status == some noRespondersStatus && m.payload.size == 0

/-- The signal that nobody listens, addressed to the reply subject `key`. -/
def noResponders (key : String) : Message := { subject := key, status := some noRespondersStatus }

/-- The fields of a message, for a reader. -/
def describe (m : Message) : String :=
  "Message \x7b subject: " ++ Text.quote m.subject ++ ", sid: Sid(" ++ toString m.sid ++
    "), reply_to: " ++ Text.quoteOption m.replyTo ++ ", payload: " ++ Text.quoteBytes m.payload ++
    ", status: " ++ Text.showOption toString m.status ++ " \x7d"

@[simp] theorem isNoResponders_noResponders (key : String) :
    (noResponders key).isNoResponders = true := by
  simp [noResponders, isNoResponders, ByteArray.size_empty]

end Message

/-- One entry of a subscription's queue. -/
structure Delivery where
  message : Message
  /-- Whether the subscription had a connection when the message arrived. -/
  connected : Bool
  deriving DecidableEq

/-- The fields of a delivery, for a reader. -/
def Delivery.describe (d : Delivery) : String :=
  "Delivery \x7b message: " ++ d.message.describe ++ ", connected: " ++ toString d.connected ++
    " \x7d"

end PubSub
