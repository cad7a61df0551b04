import Connectivity.Latch
import Connectivity.Outbox
import Connectivity.Report
import Connectivity.Simulation.Bench
import Connectivity.Simulation.LegacySettings
import Connectivity.Toml.Document
import Connectivity.Proofs.Addresses
import Connectivity.Proofs.Afterglow
import Connectivity.Proofs.Clients
import Connectivity.Proofs.Configurations
import Connectivity.Proofs.Delivery
import Connectivity.Proofs.FailedStarts
import Connectivity.Proofs.ItemValues
import Connectivity.Proofs.LeaseTimers
import Connectivity.Proofs.Limits
import Connectivity.Proofs.LinkOrder
import Connectivity.Proofs.Mirrors
import Connectivity.Proofs.Names
import Connectivity.Proofs.Notices
import Connectivity.Proofs.Persistence
import Connectivity.Proofs.Resumption
import Connectivity.Proofs.Selection
import Connectivity.Proofs.Serving
import Connectivity.Proofs.StopOutcomes
import Connectivity.Proofs.Storable
import Connectivity.Proofs.StoredStarts
import Connectivity.Proofs.Subscriptions
import Connectivity.Proofs.Ticks
import Connectivity.Proofs.Vacancy
import Connectivity.Proofs.ValidStore
