import PubSub.Message
import PubSub.Metrics
import PubSub.Error
import PubSub.Text.Lossy

/-!
# Handlers

What a subscription does with its messages: a script of actions, chosen by the payload.

## Main definitions

- `Action`, `Handler` — one action, and the scripts of a handler
- `Handler.script` — the actions for a payload
- `Note` — what a handler's script makes visible
- `Failure` — how an invocation went wrong, and the text that says so

## Design notes

A script runs to its end unless an action fails or panics. Actions act on the subscription that
handles the message, or on its connection; they reach either only while the application holds it.
-/

namespace PubSub

/-- What a panic carries. -/
inductive PanicPayload where
  | text (s : String)
  | other
  deriving DecidableEq

/-- The text of what a panic carries. -/
def PanicPayload.message : PanicPayload → String
  | text s => s
  | other => "<non-string panic payload>"

/-- How a handler invocation went wrong. -/
structure Failure where
  kind : FailureKind
  /-- The text of the error or of the panic. -/
  cause : String
  deriving DecidableEq

/-- The text of a failure. -/
def Failure.message (f : Failure) : String :=
  match f.kind with
  | .error => "handler returned an error: " ++ f.cause
  | .panic => "handler panicked: " ++ f.cause

mutual

/-- One action of a script. -/
inductive Action where
  | fail (cause : String)
  | panic (payload : PanicPayload)
  | respond (payload : ByteArray)
  /-- Publish to the reply subject, or return the error. -/
  | respondStrict (payload : ByteArray)
  /-- Send the message's payload back in upper case, or return the error. -/
  | respondUpper
  | close
  | unsubscribe
  | autoUnsubscribe (max : Nat)
  | start
  | disable
  /-- Start a worker. -/
  | enable
  | setHandler (handler : Handler)
  /-- Let everything else that is ready go first, a number of times. -/
  | yield (times : Nat)
  | sleep (span : Duration)
  | remark (text : String)
  | info
  | publish (subject : String) (payload : ByteArray)
  /-- Hand a message to the connection as if it had arrived. -/
  | deliver (message : Message)
  | closeConnection

/-- A handler: a name, scripts for certain payloads, and a script for all others. -/
inductive Handler where
  | mk (name : String) (scripts : List (String × List Action)) (otherwise : List Action)

end

instance : Inhabited Action := ⟨.info⟩

instance : Inhabited Handler := ⟨.mk "" [] []⟩

namespace Handler

/-- The name of a handler. -/
def name : Handler → String
  | mk name _ _ => name

/-- The actions for a payload, which is read as text. -/
def script : Handler → ByteArray → List Action
  | mk _ scripts otherwise, payload =>
    (scripts.lookup (Text.decodeLossy payload)).getD otherwise

end Handler

/-- What the script of a handler makes visible. -/
inductive Note where
  /-- A handler was given a message. -/
  | seen (handler : String) (delivery : Delivery)
  | result (action : String) (outcome : Except SubscriptionError Unit)
  | answer (action : String) (yes : Bool)
  | published (outcome : Except ConnectionError Unit)
  | info (delivered pending : Nat) (valid started : Bool)
  | remark (text : String)
  /-- The application no longer holds what the action is about. -/
  | missing (action : String)

end PubSub
