import Replica.Proofs.Disk.Route
import Replica.Proofs.Disk.FileSystem
import Replica.Proofs.Table
import Replica.Proofs.Disk.Calls
import Replica.Proofs.Disk.Replacement
import Replica.Proofs.Checksum
import Replica.Proofs.Log.Front
import Replica.Proofs.Log.Scan
import Replica.Proofs.Log.Damage
import Replica.Proofs.ByteStore
import Replica.Proofs.Log
import Replica.Proofs.Log.Memory
import Replica.Proofs.ByteStore.OpenFile
import Replica.Proofs.Queue.File
import Replica.Proofs.History
import Replica.Proofs.History.File
import Replica.Proofs.History.Survival
import Replica.Proofs.Message
import Replica.Proofs.Queue.Replay
import Replica.Proofs.Queue
import Replica.Proofs.Queue.Calls
import Replica.Proofs.Coordinator.Separation
import Replica.Proofs.Coordinator.System
import Replica.Proofs.Coordinator.Exclusion
import Replica.Proofs.Coordinator.Exchange
import Replica.Proofs.Coordinator.Overlap
import Replica.Proofs.Coordinator.Serial
import Replica.ByteStore
import Replica.ByteStore.Error
import Replica.ByteStore.Memory
import Replica.ByteStore.OpenFile
import Replica.Bytes
import Replica.Checksum
import Replica.CommandLine
import Replica.CommandLine.Arguments
import Replica.Coordinator
import Replica.Coordinator.Config
import Replica.Coordinator.Error
import Replica.Coordinator.FileStores
import Replica.Coordinator.Handle
import Replica.Coordinator.Lifecycle
import Replica.Coordinator.Policy
import Replica.Coordinator.Signal
import Replica.Coordinator.Stores
import Replica.Coordinator.Trigger
import Replica.Directory
import Replica.Disk.Action
import Replica.Disk.Fault
import Replica.Disk.FileSystem
import Replica.Disk.Replacement
import Replica.Disk.Route
import Replica.Error
import Replica.Fifo
import Replica.Focus
import Replica.History
import Replica.History.Query
import Replica.History.Reader
import Replica.Identity
import Replica.Inspection.Listing
import Replica.Inspection.Source
import Replica.Inspection.Summary
import Replica.Inspection.Verification
import Replica.Journal
import Replica.Log
import Replica.Log.Frame
import Replica.Log.Kind
import Replica.Log.Scan
import Replica.Main
import Replica.Message
import Replica.Message.Series
import Replica.Path
import Replica.Policy.Recording
import Replica.Queue
import Replica.Queue.Replay
import Replica.State
import Replica.State.Fold
import Replica.State.Snapshot
import Replica.Strategy
import Replica.Strategy.Loopback
import Replica.Strategy.Recording
import Replica.Strategy.Script
import Replica.Table
import Replica.Text.Columns
import Replica.Text.Document
import Replica.Text.Printable
import Replica.Text.Quoted
import Replica.Workbench.Bench
import Replica.Workbench.Device
import Replica.Workbench.Member
import Replica.Workbench.Nodes
import Replica.Workbench.Reply
import Replica.Workbench.Run
import Replica.Workbench.Step
import Replica.Workbench.Stores
import Replica.Workbench.Time
import Replica.Proofs.State
import Replica.Proofs.State.File
import Replica.Proofs.State.Opening
import Replica.Proofs.State.Run
import Replica.Proofs.Queue.Maintenance
import Replica.Proofs.Queue.Uses
import Replica.Proofs.Crash
import Replica.Proofs.Coordinator.FileStores
import Replica.Proofs.Coordinator.FileSeparation
import Replica.Proofs.Coordinator.Calls
import Replica.Proofs.Coordinator.Says
import Replica.Proofs.Coordinator.Ledger
import Replica.Proofs.Coordinator.Course
import Replica.Proofs.Coordinator.Failure
import Replica.Proofs.Coordinator.Redelivery
import Replica.Proofs.Peers
import Replica.Proofs.Peers.Delivery
import Replica.Proofs.Peers.Convergence
import Replica.Proofs.Disk.FilePath
import Replica.Proofs.Disk.Interruption
import Replica.Proofs.Disk.Resolution
import Replica.Proofs.ByteStore.Watched
import Replica.Proofs.Queue.Opening
import Replica.Proofs.Queue.Timeline
import Replica.Proofs.History.Uses
import Replica.Proofs.Coordinator.Latch
import Replica.Proofs.Coordinator.Forward
import Replica.Proofs.Coordinator.Closing
import Replica.Proofs.Coordinator.Service
import Replica.Proofs.Coordinator.LockFile
import Replica.Proofs.Coordinator.Tenancy
import Replica.Proofs.ByteStore.Content
import Replica.Proofs.Coordinator.Opening
import Replica.Proofs.Inspection.Verdict
import Replica.Proofs.Inspection.Listing
import Replica.Proofs.Coordinator.Saving
import Replica.Proofs.Coordinator.Start
import Replica.Proofs.Strategy
import Replica.Proofs.Strategy.Recording
import Replica.Proofs.Workbench.Quiet
import Replica.Proofs.Workbench.Desk
import Replica.Proofs.Workbench.Lifecycle
import Replica.Proofs.Log.Cut
import Replica.Proofs.Log.HalfWritten
import Replica.Proofs.Strategy.Drain
import Replica.Proofs.Coordinator.Deeds
import Replica.Proofs.Coordinator.Results
import Replica.Proofs.Bytes
import Replica.Proofs.Checksum.Burst
import Replica.Proofs.Log.Burst
import Replica.Proofs.Log.Recovery
import Replica.Proofs.Log.Acceptance
import Replica.Proofs.Disk.Failure
import Replica.Proofs.State.Failure
import Replica.Proofs.ByteStore.Plain
import Replica.Proofs.State.Snapshot
import Replica.Proofs.Queue.Trace
import Replica.Proofs.Closed
