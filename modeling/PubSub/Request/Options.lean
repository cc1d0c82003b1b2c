import PubSub.Error
import PubSub.Metrics

/-!
# Outcomes of requests

How a request can end, and what its caller is told about it.

## Main definitions

- `CancelAction`, `RequestOptions` — what a caller asks for
- `Outcome` — the one terminal result of a request
- `Outcome.resolution` — the sort of an outcome, as the metrics count it
- `RequestOptions.settle` — what the caller receives for an outcome
-/

namespace PubSub

/-- What a caller sees of a request that is cancelled instead of answered. -/
inductive CancelAction where
  | cancel
  /-- The error that says why. -/
  | report
  /-- Success without a message. -/
  | complete
  deriving DecidableEq

/-- Settings of one request. -/
structure RequestOptions where
  /-- How long to wait; the default of the connection when absent. -/
  timeout : Option Duration := none
  action : CancelAction := .cancel
  /-- Whether an expiry is reported as such by a plain cancellation. -/
  timeoutError : Bool := true
  deriving DecidableEq

/-- The terminal result of a request. -/
inductive Outcome where
  | fulfilled (reply : Message)
  | cancelled (reason : CancelReason)
  deriving DecidableEq

/-- The sort of outcome that a reason for cancelling leads to. -/
def CancelReason.resolution : CancelReason → Resolution
  | closing => .closing
  | timedOut => .timedOut
  | noResponders => .noResponders

/-- The sort of an outcome. -/
def Outcome.resolution : Outcome → Resolution
  | fulfilled _ => .fulfilled
  | cancelled reason => reason.resolution

/-- The outcome that a reply brings: the signal that nobody listens cancels, all else fulfils. -/
def Outcome.ofReply (m : Message) : Outcome :=
  if m.isNoResponders then .cancelled .noResponders else .fulfilled m

/-- The error that is specific to a reason. -/
def CancelReason.error : CancelReason → RequestError
  | closing => .connectionClosing
  | timedOut => .timedOut
  | noResponders => .noResponders

/-- What a caller receives: a message, success without one, or an error. -/
abbrev Settlement := Except RequestError (Option Message)

/-- What the caller receives for an outcome. -/
def RequestOptions.settle (o : RequestOptions) : Outcome → Settlement
  | .fulfilled reply => .ok (some reply)
  | .cancelled reason =>
    match o.action with
    | .complete => .ok none
    | .report => .error reason.error
    | .cancel =>
      if o.timeoutError && reason = .timedOut then .error .timedOut else .error (.cancelled reason)

end PubSub
