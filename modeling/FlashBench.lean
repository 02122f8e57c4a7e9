import FlashBench.Bench.Run
import FlashBench.Clock.Scripted
import FlashBench.Device.Table
import FlashBench.Main
import FlashBench.Proofs.Clock.Measure
import FlashBench.Proofs.Device.Keeps
import FlashBench.Proofs.Geometry.Agreement
import FlashBench.Proofs.Geometry.Window
import FlashBench.Proofs.Part.Creation
import FlashBench.Proofs.Part.FlashArray
import FlashBench.Upkeep.Dependencies
import FlashBench.Upkeep.HeaderTask
import FlashBench.Proofs.Validation.Keeps
import FlashBench.Proofs.Part.Completion
import FlashBench.Proofs.Part.Confined
import FlashBench.Proofs.Device.Recorded
import FlashBench.Proofs.Validation.Reserved
import FlashBench.Proofs.Part.Targets
import FlashBench.Proofs.Validation.Fill
import FlashBench.Proofs.Validation.Steps
import FlashBench.Proofs.Validation.Footprint
import FlashBench.Proofs.Part.Aside
import FlashBench.Proofs.Validation.Healthy
import FlashBench.Proofs.Part.Access
import FlashBench.Proofs.Part.Flight
import FlashBench.Proofs.Bench.Reached
import FlashBench.Proofs.Storage.FileTree
import FlashBench.Proofs.Bench.Persistence
import FlashBench.Proofs.Part.Atomic
import FlashBench.Proofs.Bench.Calls
import FlashBench.Proofs.Part.Refused
import FlashBench.Proofs.Device.Traced
import FlashBench.Proofs.Validation.Bracket
import FlashBench.Proofs.Validation.Paired
import FlashBench.Proofs.Part.Clients
import FlashBench.Proofs.Validation.Looks
import FlashBench.Proofs.Validation.Masked
import FlashBench.Proofs.Validation.Silent
import FlashBench.Proofs.Validation.Consistent
import FlashBench.Proofs.Validation.Drift
import FlashBench.Proofs.Clock.Wraparound
import FlashBench.Proofs.Scenario.Independent
import FlashBench.Proofs.Validation.Aim
import FlashBench.Proofs.Clock.Lossless
import FlashBench.Proofs.Clock.Elapsed
import FlashBench.Proofs.Part.Operation
import FlashBench.Proofs.Part.Timeout
import FlashBench.Proofs.Part.Accumulation
import FlashBench.Proofs.Geometry.Lookup
import FlashBench.Proofs.Part.Verdict
import FlashBench.Proofs.Upkeep.HeaderTask
import FlashBench.Proofs.Upkeep.Scans
import FlashBench.Proofs.Geometry.Trail
import FlashBench.Proofs.Validation.Comparison
