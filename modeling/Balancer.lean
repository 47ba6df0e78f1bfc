import Balancer.Address.Block
import Balancer.Address.Ipv4
import Balancer.Address.Sequence
import Balancer.Allocator
import Balancer.Allocator.Lemmas
import Balancer.Backoff
import Balancer.Backoff.Jitter
import Balancer.Cluster
import Balancer.Config
import Balancer.Controller
import Balancer.Event
import Balancer.Forwarding
import Balancer.Forwarding.Codec
import Balancer.Forwarding.Generation
import Balancer.Job
import Balancer.Json
import Balancer.Occupancy
import Balancer.Ownership
import Balancer.Pool
import Balancer.Pool.Dynamic
import Balancer.Pool.Error
import Balancer.Pool.Fixed
import Balancer.Pool.Interface
import Balancer.Proofs.Address.Written
import Balancer.Proofs.Allocator.Atomicity
import Balancer.Proofs.Allocator.Churn
import Balancer.Proofs.Allocator.Eviction
import Balancer.Proofs.Allocator.Exactness
import Balancer.Proofs.Allocator.History
import Balancer.Proofs.Allocator.Placement
import Balancer.Proofs.Allocator.Resolution
import Balancer.Proofs.Allocator.Stickiness
import Balancer.Proofs.Backoff.Delays
import Balancer.Proofs.Containers
import Balancer.Proofs.Controller.Barrier
import Balancer.Proofs.Controller.Driving
import Balancer.Proofs.Controller.FixedPool
import Balancer.Proofs.Forwarding.Entries
import Balancer.Proofs.Forwarding.Footprint
import Balancer.Proofs.Pool.Addresses
import Balancer.Proofs.Pool.Availability
import Balancer.Proofs.Pool.History
import Balancer.Proofs.Pool.Numbering
import Balancer.Proofs.Store.Versions
import Balancer.Proofs.WorkQueue.Coherence
import Balancer.Proofs.WorkQueue.Elapsing
import Balancer.Proofs.WorkQueue.Integrity
import Balancer.Proofs.WorkQueue.Provenance
import Balancer.Proofs.WorkQueue.Timing
import Balancer.Proofs.WorkQueue.Waiting
import Balancer.Proofs.Worker.Attempts
import Balancer.Proofs.Worker.Bookkeeping
import Balancer.Proofs.Worker.Calls
import Balancer.Proofs.Worker.Calm
import Balancer.Proofs.Worker.Cleaning
import Balancer.Proofs.Worker.Convergence
import Balancer.Proofs.Worker.Delivery
import Balancer.Proofs.Worker.Description
import Balancer.Proofs.Worker.Drain
import Balancer.Proofs.Worker.Effects
import Balancer.Proofs.Worker.Execution
import Balancer.Proofs.Worker.Frame
import Balancer.Proofs.Worker.History
import Balancer.Proofs.Worker.Idling
import Balancer.Proofs.Worker.Maintenance
import Balancer.Proofs.Worker.Ownership
import Balancer.Proofs.Worker.Persistence
import Balancer.Proofs.Worker.Restart
import Balancer.Proofs.Worker.Separation
import Balancer.Proofs.Worker.Status
import Balancer.Proofs.Worker.Succession
import Balancer.Proofs.Worker.Synchronisation
import Balancer.Proofs.Worker.Transactions
import Balancer.Proofs.Worker.Undisturbed
import Balancer.Proofs.Worker.Upkeep
import Balancer.Proofs.Worker.Vanishing
import Balancer.Push
import Balancer.Service
import Balancer.Service.Codec
import Balancer.Service.Revision
import Balancer.ServiceId
import Balancer.Store
import Balancer.Text.Blank
import Balancer.Text.Numeral
import Balancer.Text.Quoted
import Balancer.Text.Real
import Balancer.Text.Separated
import Balancer.Text.Unprintable
import Balancer.Transition
import Balancer.Transport
import Balancer.Word
import Balancer.WorkQueue
import Balancer.WorkQueue.Consumer
import Balancer.WorkQueue.Delayed
import Balancer.Worker
import Balancer.Worker.Loop
import Balancer.Worker.Maintenance
import Balancer.Worker.State
import Balancer.Worker.Sync
import Balancer.Proofs.Address.Interval
import Balancer.Proofs.Pool.Supply
import Balancer.Proofs.Forwarding.Canonical
import Balancer.Proofs.Pool.Contract
import Balancer.Proofs.Pool.Issuance
import Balancer.Proofs.Pool.Refusal
import Balancer.Proofs.Address.Enumeration
import Balancer.Proofs.Config.Acceptance
import Balancer.Proofs.Service.Keys
import Balancer.Proofs.Service.Wire
