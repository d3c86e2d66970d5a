import RoccCodec.Fault
import RoccCodec.Tuning
import RoccCodec.Completion
import RoccCodec.Memory
import RoccCodec.Buffer
import RoccCodec.Region
import RoccCodec.Bound
import RoccCodec.Snappy
import RoccCodec.Zstd.Stream
import RoccCodec.Facade
import RoccCodec.Codec
import RoccCodec.Device.Target
import RoccCodec.Device.Traced
import RoccCodec.Size
import RoccCodec.Report
import RoccCodec.FileTree
import RoccCodec.Benchmark
import RoccCodec.Main
import RoccCodec.Proofs.Lookup
import RoccCodec.Proofs.Device.Acceptance
import RoccCodec.Proofs.Device.Run
import RoccCodec.Proofs.Device.Worker
import RoccCodec.Proofs.Device.History
import RoccCodec.Proofs.Device.Dispatch
import RoccCodec.Proofs.InstructionWord
import RoccCodec.Proofs.Device.Interleaving
import RoccCodec.Proofs.Device.Service
import RoccCodec.Proofs.Footprint
import RoccCodec.Proofs.Overlap
import RoccCodec.Proofs.Region.Windows
import RoccCodec.Proofs.Region.Capacity
import RoccCodec.Proofs.Codec.Snappy
import RoccCodec.Proofs.Codec.Zstd
import RoccCodec.Proofs.Codec.FrameHeader
import RoccCodec.Proofs.Codec.BlockLength
import RoccCodec.Proofs.Codec.Stored
import RoccCodec.Proofs.Codec.Window
import RoccCodec.Proofs.Codec.Faithful
import RoccCodec.Proofs.Codec.Measured
import RoccCodec.Proofs.RoundTrip
import RoccCodec.Proofs.Task
import RoccCodec.Proofs.Device.InOrder
import RoccCodec.Proofs.Device.JobEffect
import RoccCodec.Proofs.Device.Journal
import RoccCodec.Proofs.Device.Waiting
import RoccCodec.Proofs.Calls
import RoccCodec.Proofs.CompletionWord
import RoccCodec.Proofs.Submission
import RoccCodec.Proofs.Refusal
import RoccCodec.Proofs.Confinement
import RoccCodec.Proofs.HostWork
import RoccCodec.Proofs.Polling
import RoccCodec.Proofs.InFlight
import RoccCodec.Proofs.Shadow
import RoccCodec.Proofs.Benchmark.Host
import RoccCodec.Proofs.Benchmark.Preparation
import RoccCodec.Proofs.Benchmark.Moves
import RoccCodec.Proofs.Benchmark.Walk
import RoccCodec.Proofs.Benchmark.Completeness
import RoccCodec.Proofs.Benchmark.Unanswered
import RoccCodec.Proofs.Size
import RoccCodec.Proofs.Report
import RoccCodec.Proofs.Totals
