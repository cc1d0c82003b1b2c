import PubSub.Duration
import PubSub.Message

/-!
# Errors

Why an operation can fail, and the text that says so.

## Main definitions

- `TransportError` — a frame was not accepted
- `SubscriptionError`, `RequestError`, `ConnectionError` — failures of the three parts of the client
- `CancelReason` — why a request ended without a reply
- `message` in each namespace — the text of a cause

## Design notes

Each constructor is a cause and carries what its text needs. A connection passes the failure of a
freshly built subscription on, text and all.
-/

namespace PubSub

/-- Why a frame was not accepted. -/
inductive TransportError where
  | queueFull
  | closed
  deriving DecidableEq

/-- The text of a cause. -/
def TransportError.message : TransportError → String
  | queueFull => "outbound queue full"
  | closed => "transport closed"

/-- Why a request ended without a reply. -/
inductive CancelReason where
  /-- Its connection closed, or the request was given up. -/
  | closing
  /-- The sweep found it past its deadline. -/
  | timedOut
  | noResponders
  deriving DecidableEq

/-- The text of a reason. -/
def CancelReason.message : CancelReason → String
  | closing => "connection closing"
  | timedOut => "response not registered in time"
  | noResponders => "no responders"

/-- What an operation on a subscription reports. -/
inductive SubscriptionError where
  /-- It was closed, unsubscribed or has reached its ceiling. -/
  | invalidState (sid : Sid)
  | noReplySubject (subject : String)
  /-- There is no connection to send through. -/
  | detached
  | transport (cause : TransportError)
  deriving DecidableEq

/-- The text of a failed transport, shared by all three parts. -/
def transportText (cause : TransportError) : String := "transport error: " ++ cause.message

/-- The text of a cause. -/
def SubscriptionError.message : SubscriptionError → String
  | invalidState sid => "subscription " ++ toString sid ++ " is no longer valid"
  | noReplySubject subject => "message on " ++ subject ++ " has no reply subject"
  | detached => "delivery is not attached to a connection"
  | transport cause => transportText cause

/-- What a request reports. -/
inductive RequestError where
  /-- It was cancelled, and its caller asked for a plain cancellation. -/
  | cancelled (reason : CancelReason)
  | connectionClosing
  /-- No reply came in time. -/
  | timedOut
  | noResponders
  | connectionClosed
  | invalidSubject (subject : String)
  | transport (cause : TransportError)
  deriving DecidableEq

/-- The text of a cause. -/
def RequestError.message : RequestError → String
  | cancelled reason => "request cancelled: " ++ reason.message
  | connectionClosing => "request cancelled, connection closing"
  | timedOut => "request timed out, response not registered in time"
  | noResponders => "no responders available for request"
  | connectionClosed => "connection is closed"
  | invalidSubject subject => "invalid request subject " ++ Text.quote subject
  | transport cause => transportText cause

/-- What building or using a connection reports. -/
inductive ConnectionError where
  | invalidSubject (subject : String)
  | closed
  /-- There is nothing that could host the connection's workers. -/
  | noRuntime
  | invalidSweepInterval (interval : Duration)
  /-- A freshly built subscription could not be started. -/
  | subscription (cause : SubscriptionError)
  | transport (cause : TransportError)
  deriving DecidableEq

/-- The text of a cause. -/
def ConnectionError.message : ConnectionError → String
  | invalidSubject subject => "invalid subject " ++ Text.quote subject
  | closed => "connection is closed"
  | noRuntime => "no tokio runtime available to host connection workers"
  | invalidSweepInterval interval =>
    "invalid sweep interval " ++ Duration.toText interval ++ "; must be non-zero"
  | subscription cause => cause.message
  | transport cause => transportText cause

end PubSub
