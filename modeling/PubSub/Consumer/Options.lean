import PubSub.Consumer.Configuration
import PubSub.Subject

/-!
# Subscribe options

The description of the stream consumer that a subscription binds to. Options are written down call
by call and checked once, when they are built.

## Main definitions

- `SubscribeOptions` — checked options
- `SubscribeOptions.Draft` — what was written down so far
- `SubscribeOptions.Call` — one entry into a draft
- `SubscribeOptions.Draft.build` — the options of a draft, or the first thing wrong with it
- `OptionsError` — what can be wrong

## Design notes

A later call overwrites what an earlier one wrote, so only the last values are checked, in the order
stream, consumer, durable, deliver subject, pull size. A draft holds its own copy of a consumer
configuration; a durable name or deliver subject of the draft overrides the one in that copy. Values
that came inside a configuration are not checked.
-/

namespace PubSub

/-- The three names that options can hold. -/
inductive NameField where
  | stream
  | consumer
  | durable
  deriving DecidableEq

/-- The word for a name. -/
def NameField.word : NameField → String
  | stream => "stream"
  | consumer => "consumer"
  | durable => "durable"

/-- The most messages a pull subscription may ask for at once. -/
def maxPullBatchSize : Nat := 256

/-- What can be wrong with a draft. -/
inductive OptionsError where
  /-- A name is empty or holds white space or one of the characters of patterns. -/
  | invalidName (field : NameField) (value : String)
  | invalidDeliverSubject (value : String)
  /-- The batch size is zero or too large. -/
  | invalidPullBatchSize (size : Nat)
  deriving DecidableEq

/-- The text of a cause. -/
def OptionsError.message : OptionsError → String
  | invalidName field value =>
    "invalid " ++ field.word ++ " name " ++ Text.quote value ++
      ": must be non-empty without whitespace, '.', '*' or '>'"
  | invalidDeliverSubject value => "invalid deliver subject " ++ Text.quote value
  | invalidPullBatchSize size =>
    "pull batch size " ++ toString size ++ " out of range 1..=" ++ toString maxPullBatchSize

/-- Checked options of a subscription. -/
structure SubscribeOptions where
  stream : Option String := none
  consumer : Option String := none
  /-- The settings for the consumer. -/
  configuration : ConsumerConfiguration := {}
  /-- Whether messages are acknowledged without the handler's help. -/
  autoAck : Bool := true
  /-- How many messages are pulled at once; zero when the server pushes. -/
  pullBatchSize : Nat := 0
  deriving DecidableEq

namespace SubscribeOptions

/-- Whether the subscription pulls its messages. -/
def isPull (o : SubscribeOptions) : Bool := 0 < o.pullBatchSize

/-- All options, for a reader. -/
def toText (o : SubscribeOptions) : String :=
  "SubscribeOptions\x7bstream=" ++ Text.quoteOption o.stream ++
    ", consumer=" ++ Text.quoteOption o.consumer ++ ", " ++ o.configuration.toText ++
    ", auto_ack=" ++ toString o.autoAck ++ ", pull=" ++ toString o.pullBatchSize ++ "\x7d"

/-- Options being written down. -/
structure Draft where
  stream : Option String := none
  consumer : Option String := none
  configuration : Option ConsumerConfiguration := none
  autoAck : Bool := true
  durable : Option String := none
  deliverSubject : Option String := none
  pullBatchSize : Option Nat := none
  deriving DecidableEq

/-- One entry into a draft. -/
inductive Call where
  /-- Bind to a stream with a copy of a configuration. -/
  | configuration (stream : String) (configuration : ConsumerConfiguration)
  /-- Use a copy of a configuration and name no stream. -/
  | consumerConfiguration (configuration : ConsumerConfiguration)
  | durable (name : String)
  /-- Acknowledge automatically, or not. -/
  | autoAck (enabled : Bool)
  | pull (size : Nat)
  | pullDirect (stream consumer : String) (size : Nat)
  | pushDirect (subject : String)
  | attach (stream consumer : String)

namespace Draft

/-- The draft after one more entry. -/
def record (d : Draft) : Call → Draft
  | .configuration stream configuration =>
    { d with stream := some stream, configuration := some configuration }
  | .consumerConfiguration configuration => { d with configuration := some configuration }
  | .durable name => { d with durable := some name }
  | .autoAck enabled => { d with autoAck := enabled }
  | .pull size => { d with pullBatchSize := some size }
  | .pullDirect stream consumer size =>
    { d with stream := some stream, consumer := some consumer, pullBatchSize := some size }
  | .pushDirect subject => { d with deliverSubject := some subject }
  | .attach stream consumer => { d with stream := some stream, consumer := some consumer }

/-- The draft that a list of entries leaves. -/
def ofCalls (calls : List Call) : Draft := calls.foldl record {}

end Draft

/-- Whether a text may name a stream, a consumer or a durable consumer. -/
def isName (s : String) : Bool :=
  !s.isEmpty && !s.toList.any fun c => Text.isWhiteSpace c || c == '.' || c == '*' || c == '>'

/-- Checks a value if there is one. -/
def check {α : Type} (ok : α → Bool) (error : α → OptionsError) (value : Option α) :
    Except OptionsError Unit :=
  match value with
  | some a => if ok a then .ok () else .error (error a)
  | none => .ok ()

/-- The options of a draft, or the first thing wrong with it. -/
def Draft.build (d : Draft) : Except OptionsError SubscribeOptions := do
  check isName (.invalidName .stream) d.stream
  check isName (.invalidName .consumer) d.consumer
  check isName (.invalidName .durable) d.durable
  check Subject.isValid .invalidDeliverSubject d.deliverSubject
  check (fun n => 1 ≤ n && n ≤ maxPullBatchSize) .invalidPullBatchSize d.pullBatchSize
  let base := d.configuration.getD {}
  return {
    stream := d.stream
    consumer := d.consumer
    configuration := { base with
      durable := d.durable <|> base.durable
      deliverSubject := d.deliverSubject <|> base.deliverSubject }
    autoAck := d.autoAck
    pullBatchSize := d.pullBatchSize.getD 0 }

/-- The options that a list of entries describes, or the first thing wrong with them. -/
def ofCalls (calls : List Call) : Except OptionsError SubscribeOptions :=
  (Draft.ofCalls calls).build

end SubscribeOptions

end PubSub
