import PubSub.Demo
import PubSub.Main
import PubSub.Proofs.Channel.Room
import PubSub.Proofs.CommandLine.RoundTrip
import PubSub.Proofs.Connection.Accounts
import PubSub.Proofs.Connection.AllOrNothing
import PubSub.Proofs.Connection.Ceiling
import PubSub.Proofs.Connection.Closed
import PubSub.Proofs.Connection.Contained
import PubSub.Proofs.Connection.Correlation
import PubSub.Proofs.Connection.Fifo
import PubSub.Proofs.Connection.Interest
import PubSub.Proofs.Connection.Isolated
import PubSub.Proofs.Connection.Messages
import PubSub.Proofs.Connection.Names
import PubSub.Proofs.Connection.Protocol
import PubSub.Proofs.Connection.Raise
import PubSub.Proofs.Connection.Retried
import PubSub.Proofs.Connection.Shutdown
import PubSub.Proofs.Connection.Silence
import PubSub.Proofs.Consumer.LastWrite
import PubSub.Proofs.Demo.Drive
import PubSub.Proofs.Registry.Commute
import PubSub.Proofs.Request.Assignment
import PubSub.Proofs.Router.Interest
import PubSub.Proofs.Session.Rest
import PubSub.Proofs.Sweeper.Calm
import PubSub.Proofs.Sweeper.Timely
import PubSub.Request.History
