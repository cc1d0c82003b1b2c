import PubSub.Text.Quoted

/-!
# Consumer configurations

The settings a server keeps for a stream consumer.

## Main definitions

- `ConsumerConfiguration` — the four settings, each of them optional
- `ConsumerConfiguration.Setting` — one change of a configuration
- `ConsumerConfiguration.toText` — the settings a reader is shown
-/

namespace PubSub

/-- Settings of a consumer on the server's side. -/
structure ConsumerConfiguration where
  durable : Option String := none
  deliverSubject : Option String := none
  filterSubject : Option String := none
  maxAckPending : Option Nat := none
  deriving DecidableEq, Inhabited

namespace ConsumerConfiguration

/-- One change of a configuration. -/
inductive Setting where
  | durable (name : String)
  | deliverSubject (subject : String)
  | filterSubject (subject : String)
  | maxAckPending (max : Nat)

/-- The configuration after one change. -/
def set (c : ConsumerConfiguration) : Setting → ConsumerConfiguration
  | .durable name => { c with durable := some name }
  | .deliverSubject subject => { c with deliverSubject := some subject }
  | .filterSubject subject => { c with filterSubject := some subject }
  | .maxAckPending max => { c with maxAckPending := some max }

/-- The default configuration after a list of changes. -/
def ofSettings (settings : List Setting) : ConsumerConfiguration :=
  settings.foldl set {}

/-- The names and subjects of a configuration. -/
def toText (c : ConsumerConfiguration) : String :=
  "ConsumerConfiguration\x7bdurable=" ++ Text.quoteOption c.durable ++
    ", deliver_subject=" ++ Text.quoteOption c.deliverSubject ++
    ", filter_subject=" ++ Text.quoteOption c.filterSubject ++ "\x7d"

end ConsumerConfiguration

end PubSub
