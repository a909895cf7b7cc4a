import TunnelBroker.Daemon.AcceptLoop
import TunnelBroker.Main
import TunnelBroker.Proofs.Client.DialTimeout
import TunnelBroker.Proofs.Client.Fidelity
import TunnelBroker.Proofs.Client.Polling
import TunnelBroker.Proofs.Client.Reading
import TunnelBroker.Proofs.Command
import TunnelBroker.Proofs.Command.Canonical
import TunnelBroker.Proofs.Command.Refusal
import TunnelBroker.Proofs.Config
import TunnelBroker.Proofs.Config.Settings
import TunnelBroker.Proofs.ControlSocket
import TunnelBroker.Proofs.ControlSocket.Binding
import TunnelBroker.Proofs.Daemon.AcceptLoop
import TunnelBroker.Proofs.Daemon.Connecting
import TunnelBroker.Proofs.Daemon.DialBound
import TunnelBroker.Proofs.Daemon.DialFailure
import TunnelBroker.Proofs.Daemon.Effect
import TunnelBroker.Proofs.Daemon.IllFormed
import TunnelBroker.Proofs.Daemon.Isolation
import TunnelBroker.Proofs.Daemon.OneLine
import TunnelBroker.Proofs.Daemon.Reading
import TunnelBroker.Proofs.Daemon.Rejection
import TunnelBroker.Proofs.Daemon.Secrecy
import TunnelBroker.Proofs.Daemon.Service
import TunnelBroker.Proofs.Daemon.Serving
import TunnelBroker.Proofs.Daemon.Sessions
import TunnelBroker.Proofs.Daemon.Stopping
import TunnelBroker.Proofs.Daemon.Succession
import TunnelBroker.Proofs.Daemon.Takeover
import TunnelBroker.Proofs.Daemon.Transparency
import TunnelBroker.Proofs.Directory.Listing
import TunnelBroker.Proofs.Encoding.Base64
import TunnelBroker.Proofs.Encoding.Json
import TunnelBroker.Proofs.Failure
import TunnelBroker.Proofs.FileSystem.Change
import TunnelBroker.Proofs.FileSystem.Directory
import TunnelBroker.Proofs.FileSystem.Draft
import TunnelBroker.Proofs.FileSystem.Entry
import TunnelBroker.Proofs.FileSystem.Listener
import TunnelBroker.Proofs.FileSystem.Mishap
import TunnelBroker.Proofs.FileSystem.Names
import TunnelBroker.Proofs.FileSystem.Outcome
import TunnelBroker.Proofs.FileSystem.Parent
import TunnelBroker.Proofs.FileSystem.Rewriting
import TunnelBroker.Proofs.FileSystem.Tree
import TunnelBroker.Proofs.FileSystem.Way
import TunnelBroker.Proofs.Framing
import TunnelBroker.Proofs.Host.Persistence
import TunnelBroker.Proofs.Interaction
import TunnelBroker.Proofs.Key
import TunnelBroker.Proofs.Key.Canonical
import TunnelBroker.Proofs.Network.HostPort
import TunnelBroker.Proofs.Network.IpAddress
import TunnelBroker.Proofs.Network.Literal
import TunnelBroker.Proofs.Outcome
import TunnelBroker.Proofs.Path
import TunnelBroker.Proofs.Peer.Acquire
import TunnelBroker.Proofs.Peer.Atomic
import TunnelBroker.Proofs.Peer.Belonging
import TunnelBroker.Proofs.Peer.Codec
import TunnelBroker.Proofs.Peer.Exposure
import TunnelBroker.Proofs.Peer.File
import TunnelBroker.Proofs.Peer.Keeping
import TunnelBroker.Proofs.Peer.Loading
import TunnelBroker.Proofs.Peer.Restart
import TunnelBroker.Proofs.Peer.Saving
import TunnelBroker.Proofs.Privacy.Alike
import TunnelBroker.Proofs.Privacy.Directory
import TunnelBroker.Proofs.Privacy.Files
import TunnelBroker.Proofs.Privacy.Redaction
import TunnelBroker.Proofs.Registry.Coherence
import TunnelBroker.Proofs.Registry.Configured
import TunnelBroker.Proofs.Registry.Establish
import TunnelBroker.Proofs.Registry.OneRegistration
import TunnelBroker.Proofs.Registry.OneTunnel
import TunnelBroker.Proofs.Registry.Order
import TunnelBroker.Proofs.Registry.Record
import TunnelBroker.Proofs.Registry.Turns
import TunnelBroker.Proofs.Relay
import TunnelBroker.Proofs.Relay.Course
import TunnelBroker.Proofs.Reply
import TunnelBroker.Proofs.Simulation.DialTime
import TunnelBroker.Proofs.Simulation.Lapse
import TunnelBroker.Proofs.Slug
import TunnelBroker.Proofs.Table
import TunnelBroker.Proofs.Text.Numeral
import TunnelBroker.Proofs.Text.OneLine
import TunnelBroker.Proofs.Text.Order
import TunnelBroker.Proofs.Text.Separator
import TunnelBroker.Proofs.Text.Utf8
import TunnelBroker.Proofs.Text.Words
import TunnelBroker.Simulation.ScriptedDaemon
import TunnelBroker.Simulation.Session
