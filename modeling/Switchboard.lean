import Switchboard.Broadcast.LiveChannel
import Switchboard.Broadcast.Report
import Switchboard.Message.Wire
import Switchboard.Network
import Switchboard.Proofs.Broadcast.Delivery
import Switchboard.Proofs.Command.Gate
import Switchboard.Proofs.Containment.Code
import Switchboard.Proofs.Containment.Consumers
import Switchboard.Proofs.Containment.Endurance
import Switchboard.Proofs.Containment.Networks
import Switchboard.Proofs.Containment.Panics
import Switchboard.Proofs.Containment.Registries
import Switchboard.Proofs.Containment.Service
import Switchboard.Proofs.Containment.Watchers
import Switchboard.Proofs.Event.Dispatch
import Switchboard.Proofs.Facade.Draining
import Switchboard.Proofs.Facade.Provenance
import Switchboard.Proofs.Facade.Publishing
import Switchboard.Proofs.Facade.Refusals
import Switchboard.Proofs.Network.Attendance
import Switchboard.Proofs.Network.Coherence
import Switchboard.Proofs.Network.Course
import Switchboard.Proofs.Network.Enlistment
import Switchboard.Proofs.Network.Publishing
import Switchboard.Proofs.Network.Punctuality
import Switchboard.Proofs.Network.Reception
import Switchboard.Proofs.Network.Staffing
import Switchboard.Proofs.Network.Standing
import Switchboard.Proofs.Network.Unheard
import Switchboard.Proofs.Query.Confinement
import Switchboard.Proofs.Queue.AtLeastOnce
import Switchboard.Proofs.Queue.Exclusion
import Switchboard.Query.Registry
import Switchboard.Sample.Plan
import Switchboard.Settings.Report
import Switchboard.Proofs.Queue.Crew
import Switchboard.Proofs.Queue.Closing
import Switchboard.Proofs.Queue.Trace
import Switchboard.Proofs.Network.Retries
import Switchboard.Proofs.Queue.Twins
import Switchboard.Proofs.Network.Twins
import Switchboard.Proofs.Network.Crossing
import Switchboard.Proofs.Event.Report
import Switchboard.Proofs.Message.Wire
import Switchboard.Proofs.Registration.Discretion
import Switchboard.Proofs.Query.Resolution
import Switchboard.Proofs.Queue.Waking
import Switchboard.Proofs.Queue.Counting
import Switchboard.Proofs.Broadcast.Chronicle
import Switchboard.Proofs.Broadcast.Pacing
import Switchboard.Proofs.Naming
import Switchboard.Proofs.Settings.Environment
