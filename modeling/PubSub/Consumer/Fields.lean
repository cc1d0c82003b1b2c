import PubSub.Consumer.Options

/-!
# The fields of subscribe options

What each entry into a draft writes, and what was last written to each field.

## Main definitions

- `SubscribeOptions.Field`, `SubscribeOptions.Field.Value` — the seven fields, and what they hold
- `SubscribeOptions.Call.value?` — what an entry writes to a field
- `SubscribeOptions.last` — what was last written to a field
- `SubscribeOptions.Reordered` — the same entries in another order that keeps those in order which
  write to one field
- `SubscribeOptions.Sound`, `SubscribeOptions.described` — last values that are all as they have to
  be, and the options with these values
- `SubscribeOptions.Flaw` — what is wrong with the last value of a field
- `SubscribeOptions.checkOrder` — the fields that are checked, in that order
-/

namespace PubSub.SubscribeOptions

/-- The fields of a draft. -/
inductive Field where
  | stream
  | consumer
  | configuration
  | durable
  | deliverSubject
  | pullSize
  | autoAck
  deriving DecidableEq

/-- What a field holds. -/
def Field.Value : Field → Type
  | .stream => String
  | .consumer => String
  | .configuration => ConsumerConfiguration
  | .durable => String
  | .deliverSubject => String
  | .pullSize => Nat
  | .autoAck => Bool

/-- What an entry writes to a field, if it writes to it. -/
def Call.value? : (field : Field) → Call → Option field.Value
  | .stream, .configuration stream _ => some stream
  | .stream, .pullDirect stream _ _ => some stream
  | .stream, .attach stream _ => some stream
  | .consumer, .pullDirect _ consumer _ => some consumer
  | .consumer, .attach _ consumer => some consumer
  | .configuration, .configuration _ settings => some settings
  | .configuration, .consumerConfiguration settings => some settings
  | .durable, .durable name => some name
  | .deliverSubject, .pushDirect subject => some subject
  | .pullSize, .pull size => some size
  | .pullSize, .pullDirect _ _ size => some size
  | .autoAck, .autoAck enabled => some enabled
  | _, _ => none

/-- What was last written to a field. -/
def last (field : Field) (calls : List Call) : Option field.Value :=
  (calls.filterMap (Call.value? field)).getLast?

/-- The same entries in another order, made by exchanging neighbours that write to different
fields. -/
inductive Reordered : List Call → List Call → Prop where
  | refl (calls : List Call) : Reordered calls calls
  | swap {before after : List Call} {a b : Call}
    (hdifferent : ∀ field, a.value? field = none ∨ b.value? field = none) :
    Reordered (before ++ a :: b :: after) (before ++ b :: a :: after)
  | trans {calls calls' calls'' : List Call} (h : Reordered calls calls')
    (h' : Reordered calls' calls'') : Reordered calls calls''

/-- A text that may name a stream, a consumer or a durable consumer. -/
def PlainName (s : String) : Prop :=
  s ≠ "" ∧ ∀ c ∈ s.toList, Text.isWhiteSpace c = false ∧ c ≠ '.' ∧ c ≠ '*' ∧ c ≠ '>'

/-- A text that messages may be pushed to. -/
def PlainSubject (s : String) : Prop :=
  s ≠ "" ∧ ∀ c ∈ s.toList, Text.isWhiteSpace c = false

/-- The last values written to the fields are all as they have to be. -/
structure Sound (calls : List Call) : Prop where
  stream : ∀ s : String, last .stream calls = some s → PlainName s
  consumer : ∀ s : String, last .consumer calls = some s → PlainName s
  durable : ∀ s : String, last .durable calls = some s → PlainName s
  deliverSubject : ∀ s : String, last .deliverSubject calls = some s → PlainSubject s
  pullSize : ∀ n : Nat, last .pullSize calls = some n → 1 ≤ n ∧ n ≤ 256

/-- The options with the values last written, and the usual ones where none was. A durable name or
deliver subject that was written itself comes before that of the configuration. -/
def described (calls : List Call) : SubscribeOptions :=
  let base : ConsumerConfiguration := (last .configuration calls).getD ({} : ConsumerConfiguration)
  { stream := last .stream calls
    consumer := last .consumer calls
    configuration :=
      { durable := (last .durable calls).or base.durable
        deliverSubject := (last .deliverSubject calls).or base.deliverSubject
        filterSubject := base.filterSubject
        maxAckPending := base.maxAckPending }
    autoAck := (last .autoAck calls).getD true
    pullBatchSize := (last .pullSize calls).getD (0 : Nat) }

/-- What is wrong with the last value of a field. -/
inductive Flaw (calls : List Call) : Field → OptionsError → Prop where
  | stream {s : String} (hlast : last .stream calls = some s) (hbad : ¬PlainName s) :
    Flaw calls .stream (.invalidName .stream s)
  | consumer {s : String} (hlast : last .consumer calls = some s) (hbad : ¬PlainName s) :
    Flaw calls .consumer (.invalidName .consumer s)
  | durable {s : String} (hlast : last .durable calls = some s) (hbad : ¬PlainName s) :
    Flaw calls .durable (.invalidName .durable s)
  | deliverSubject {s : String} (hlast : last .deliverSubject calls = some s)
    (hbad : ¬PlainSubject s) : Flaw calls .deliverSubject (.invalidDeliverSubject s)
  | pullSize {n : Nat} (hlast : last .pullSize calls = some n) (hbad : ¬(1 ≤ n ∧ n ≤ 256)) :
    Flaw calls .pullSize (.invalidPullBatchSize n)

/-- The fields that are checked, the first one first. -/
def checkOrder : List Field := [.stream, .consumer, .durable, .deliverSubject, .pullSize]

end PubSub.SubscribeOptions
