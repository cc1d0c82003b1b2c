import PubSub.Connection.Run

/-!
# Messages handed in and answered

What one thing to do has to do with messages: which calls it makes that hand a message in for a
subscription, with what they answer, and on which subject a handler answers the message it has.

## Main definitions

- `Connection.acting?` — the handler that goes on when a thing is done, and what it does next
- `Connection.admissions`, `Connection.admissionsOver` — the answers of the calls that hand a message
  in for a subscription, when a thing is done and along a run
- `Connection.answering?` — the subject on which a message is answered when a thing is done

## Design notes

A message that arrives on a reply subject of the connection is for a request and not for a
subscription, whatever becomes of it.
-/

namespace PubSub

/-- The subject on which a handler that has a message answers it, if that is its action. -/
def Delivery.answeredOn? (d : Delivery) : Action → Option String
  | .respond _ | .respondStrict _ | .respondUpper => d.message.replyTo
  | _ => none

namespace Connection

/-- The handler that goes on when a thing is done: its subscription, its message and what it does
next. -/
def acting? (c : Connection) : Move → Option (Subscription × Delivery × Action)
  | .stepWorker sid i =>
    (c.subscription? sid).bind fun s =>
      ((s.workers[i]?).bind Worker.invocation?).bind fun invocation =>
        (c.nextAction? s i).map fun action => (s, invocation.delivery, action)
  | _ => none

/-- For each message that is handed in for a subscription when a thing is done, by the application,
the network or a handler, whether it was accepted. -/
def admissions (c : Connection) : Move → List Bool
  | .deliver sid m => [(c.deliver sid m).1]
  | .deliverTo sid m => (c.subscription? sid).toList.map fun s => (c.deliverTo s m).1
  | .process m => if c.inbox.owns m.subject then [] else [(c.processInbound m).1]
  | move =>
    match c.acting? move with
    | some (s, _, .deliver m) => if s.via ∈ c.handles then [(c.deliver m.sid m).1] else []
    | _ => []

/-- The same along a run over a given transport, in order. -/
def admissionsOver (t : Transport) (c : Connection) : List Move → List Bool
  | [] => []
  | move :: moves => c.admissions move ++ (c.performOver t move).admissionsOver t moves

/-- The subject on which a handler answers its message when a thing is done. -/
def answering? (c : Connection) (move : Move) : Option String :=
  (c.acting? move).bind fun (_, d, action) => d.answeredOn? action

end Connection

end PubSub
