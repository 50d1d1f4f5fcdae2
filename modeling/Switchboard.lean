import Switchboard.Dispatch.Basic
import Switchboard.Logging
import Switchboard.Proofs.Dispatch.Connects
import Switchboard.Proofs.Frame.Normal
import Switchboard.Proofs.Frame.Truncation
import Switchboard.Proofs.Message.Relay
import Switchboard.Proofs.Registry.Deadlines
import Switchboard.Proofs.Registry.Deliveries
import Switchboard.Proofs.Registry.Identities
import Switchboard.Proofs.Registry.Isolation
import Switchboard.Proofs.Registry.Publication
import Switchboard.Proofs.Session.Backlog
import Switchboard.Proofs.Session.Config
import Switchboard.Proofs.Session.Counters
import Switchboard.Proofs.Session.Disclosure
import Switchboard.Proofs.Session.Estimates
import Switchboard.Proofs.Session.Expiry
import Switchboard.Proofs.Session.Gate
import Switchboard.Proofs.Session.IssuedIds
import Switchboard.Proofs.Session.Path
import Switchboard.Proofs.Session.Refusals
import Switchboard.Proofs.Session.Retries
import Switchboard.Proofs.Session.Silence
import Switchboard.Proofs.Session.Stragglers
import Switchboard.Proofs.Session.Transmissions
import Switchboard.Proofs.Session.Verdict
import Switchboard.Registry.Subscriptions
import Switchboard.Scripted.Frames
import Switchboard.Scripted.Network
import Switchboard.Scripted.Rehearsal
import Switchboard.Session.Operations
