import PeeringAgent.Host.Launch
import PeeringAgent.Main
import PeeringAgent.Reconciler.Timeline
import PeeringAgent.Transport.Loopback
import PeeringAgent.Proofs.Backlog.Counters
import PeeringAgent.Proofs.Dialogue.Conservation
import PeeringAgent.Proofs.Dialogue.Ending
import PeeringAgent.Proofs.Dialogue.Identity
import PeeringAgent.Proofs.Dialogue.Lifecycle
import PeeringAgent.Proofs.Fleet.Isolation
import PeeringAgent.Proofs.Link.Epoch
import PeeringAgent.Proofs.Link.Report
import PeeringAgent.Proofs.Reconciler.Attempts
import PeeringAgent.Proofs.Reconciler.Pickup
import PeeringAgent.Proofs.Supervisor.Exit
import PeeringAgent.Proofs.Supervisor.Namesake
import PeeringAgent.Proofs.Transport.Discipline
import PeeringAgent.Proofs.Wire.Order
import PeeringAgent.Proofs.Link.Canonical
import PeeringAgent.Proofs.Settings.Loading
import PeeringAgent.Proofs.Settings.Environment
