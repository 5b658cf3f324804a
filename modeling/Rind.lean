import Rind.Prog.Core
import Rind.Prog.Loops
import Rind.Prog.Rules
import Rind.Prog.Runs
import Rind.Data.OrderedFields
import Rind.Data.Text
import Rind.Data.Codec
import Rind.Data.Maps
import Rind.Json.Value
import Rind.Json.Text
import Rind.Json.RoundTrip
import Rind.Json.Serde
import Rind.Core.Names
import Rind.Core.Error
import Rind.Core.UserStore
import Rind.Core.Permissions
import Rind.Core.Revocation
import Rind.Core.Restorable
import Rind.Core.Lockouts
import Rind.Core.Registry
import Rind.Core.Instances
import Rind.Core.Sharing
import Rind.Core.Singletons
import Rind.Core.Indexing
import Rind.Core.Scoping
import Rind.Core.Resources
import Rind.Core.Engine
import Rind.Core.Holdings
import Rind.Core.Flushing
import Rind.Core.Persistence
import Rind.Core.Loader
import Rind.Core.UnitFiles
import Rind.Core.Sections
import Rind.Core.Listing
import Rind.Core.Granting
import Rind.Core.Linking
import Rind.Primitives.Variables
import Rind.Ipc.Payload
import Rind.Flow.Facet
import Rind.Flow.Triggers
import Rind.Flow.Runtime
import Rind.Flow.Cascade
import Rind.Flow.Invariant
import Rind.Flow.Payloads
import Rind.Flow.Termination
import Rind.Flow.Indexes
import Rind.Flow.Shape
import Rind.Flow.Branches
import Rind.Flow.Errors
import Rind.Flow.Guard
import Rind.Flow.Reach
import Rind.Flow.Removal
import Rind.Flow.Shrink
import Rind.Flow.Matching
import Rind.Flow.Leaf
import Rind.Flow.StopOn
import Rind.Flow.Undo
import Rind.Flow.Conjunction
import Rind.Flow.Faultless
import Rind.Flow.Impulse
import Rind.Flow.Transport
import Rind.Flow.Announcements
import Rind.Flow.Ingest
import Rind.Flow.Subscribers
import Rind.Flow.Persistence
import Rind.Flow.Restore
import Rind.Flow.Members
import Rind.Services.Service
import Rind.Services.Isolation
import Rind.Services.Users
import Rind.Services.Runtime
import Rind.Services.Spawning
import Rind.Services.Steps
import Rind.Services.Retries
import Rind.Services.Restarts
import Rind.Services.Handles
import Rind.Services.Owners
import Rind.Services.Additions
import Rind.Services.Watchdogs
import Rind.Services.Candidates
import Rind.Services.Requests
import Rind.Services.Sockets
import Rind.Services.Teardown
import Rind.Services.Triggers
import Rind.Services.Reverts
import Rind.Services.Ownership
import Rind.Services.Pauses
import Rind.Services.Reload
import Rind.Services.Stacks
import Rind.Services.Cycles
import Rind.Services.Dependents
import Rind.Services.Filters
import Rind.Services.Launches
import Rind.Services.Stdio
import Rind.Services.Senders
import Rind.Services.Tracking
import Rind.Services.Reindexing
import Rind.Flow.Lifetimes
import Rind.Ipc.Control
import Rind.Ipc.Denied
import Rind.Ipc.Logout
import Rind.Ipc.Panics
import Rind.Ipc.Run0
import Rind.Transport.Hostile
import Rind.Transport.Wakeups
import Rind.Transport.Enquiries
import Rind.Transport.Frames
import Rind.Transport.Listeners
import Rind.Services.Naming
import Rind.Ipc.Grants
import Rind.Logs.Following
import Rind.Seats.Seatd
import Rind.Systemd.References
import Rind.Flow.Keyed
import Rind.Services.Performing
import Rind.Networking.Runtime
import Rind.Networking.Mirrors
import Rind.Networking.Steps
import Rind.Networking.Events
import Rind.Core.Registering
import Rind.Primitives.ScopeStates
import Rind.Data.Dependencies
import Rind.Prog.Retain
import Rind.Core.Orchestrator
import Rind.Core.Planning
import Rind.Primitives.Mounts
import Rind.Primitives.Mounting
import Rind.Primitives.Unmounting
import Rind.Primitives.Chains
import Rind.Services.Activation
import Rind.Services.Deciding
import Rind.Services.Limits
import Rind.Services.Boot
import Rind.Flow.Extensions
import Rind.Flow.Merging
import Rind.Logs.Chunks
import Rind.Services.Descriptors
import Rind.Systemd.Exec
import Rind.Services.Timers
import Rind.Flow.Expanding
import Rind.Ipc.Sessions
import Rind.Data.Cutting
import Rind.Systemd.Lines
import Rind.Systemd.Blocks
import Rind.Data.Inverse
import Rind.Services.Arming
import Rind.Services.Armed
import Rind.Services.Noting
import Rind.Services.Bindings
import Rind.Services.Watched
import Rind.Systemd.TimeSpecs
import Rind.Data.Tagged
import Rind.Networking.Replies
import Rind.Data.Trials
import Rind.Networking.Attempts
import Rind.Data.Ranking
import Rind.Seats.Discovery
import Rind.Core.Events
import Rind.Ipc.Server
import Rind.Services.Supervision
import Rind.Services.Reaping
import Rind.Core.EnvFiles
import Rind.Core.Durability
import Rind.Services.Alarms
import Rind.Logs.Logger
