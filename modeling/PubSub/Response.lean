import PubSub.Channel.Outbound
import PubSub.Frame

/-!
# Responses

How a handler answers the message it was given.

## Main definitions

- `Delivery.response` — the frame that answers a message, or why there is none
- `Delivery.respond` — sending it over a channel

## Design notes

A message without a reply subject cannot be answered at all; that is reported before the lack of a
connection.
-/

namespace PubSub.Delivery

/-- The frame that answers a message, or why there is none. -/
def response (d : Delivery) (payload : ByteArray) : Except SubscriptionError Outgoing :=
  match d.message.replyTo with
  | none => .error (.noReplySubject d.message.subject)
  | some replyTo =>
    if d.connected then
      .ok { frame := .publish replyTo none payload, onBehalfOf := some d.message.sid }
    else .error .detached

/-- Answers a message over a channel. -/
def respond (d : Delivery) (channel : Outbound Outgoing) (payload : ByteArray) :
    Except SubscriptionError Unit × Outbound Outgoing :=
  match d.response payload with
  | .error e => (.error e, channel)
  | .ok o =>
    match channel.send o with
    | .ok channel => (.ok (), channel)
    | .error e => (.error (.transport e), channel)

end PubSub.Delivery
