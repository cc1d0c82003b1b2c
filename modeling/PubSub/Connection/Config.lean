import PubSub.Error

/-!
# Connection settings

## Main definitions

- `Config` — the three settings of a connection, with their defaults
- `Config.check` — whether a connection can be built with them
-/

namespace PubSub

/-- Settings of a connection. -/
structure Config where
  /-- How long a request waits that does not say so itself. -/
  requestTimeout : Duration := Duration.ofSecs 5
  /-- The longest sleep of the sweeper. -/
  sweepInterval : Duration := Duration.ofSecs 5
  inboxStart : String := "_INBOX"
  deriving DecidableEq

/-- Whether a connection can be built: it needs something to host its workers, and a sweep interval
that is not zero. -/
def Config.check (config : Config) (hosted : Bool) : Except ConnectionError Unit :=
  if !hosted then .error .noRuntime
  else if config.sweepInterval = 0 then .error (.invalidSweepInterval config.sweepInterval)
  else .ok ()

end PubSub
