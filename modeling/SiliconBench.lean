import SiliconBench.Decimal.Layout
import SiliconBench.Text.Upper
import SiliconBench.Text.Quoted
import SiliconBench.Text.Digit
import SiliconBench.Text.Blank
import SiliconBench.Text.Lines
import SiliconBench.Text.Pad
import SiliconBench.Value.Display
import SiliconBench.Value.Writer
import SiliconBench.Value.Reader
import SiliconBench.Scalar.Exact
import SiliconBench.Scalar.Setting
import SiliconBench.Status
import SiliconBench.Pattern
import SiliconBench.Machine.Config
import SiliconBench.Machine.Preset
import SiliconBench.Machine.AccessTime
import SiliconBench.Machine.Power
import SiliconBench.Instructions.Mix
import SiliconBench.Paired.Tables
import SiliconBench.Instructions.Catalog
import SiliconBench.Instructions.Registers
import SiliconBench.Kernel.Catalog
import SiliconBench.Gpu.Settings
import SiliconBench.Gpu.CellKinds
import SiliconBench.Gpu.Draw
import SiliconBench.Gpu.Thermal
import SiliconBench.Gpu.Tables
import SiliconBench.Message
import SiliconBench.Report.Paired
import SiliconBench.Report.Gpu
import SiliconBench.Machine.Leakage
import SiliconBench.Command.Processor
import SiliconBench.Command.Graphics
import SiliconBench.Main
import SiliconBench.Proofs.Gpu.Course
import SiliconBench.Proofs.Gpu.Temperature
import SiliconBench.Proofs.Gpu.Standing
import SiliconBench.Proofs.Gpu.WorkTime
import SiliconBench.Proofs.Gpu.Driving
import SiliconBench.Proofs.Gpu.Tally
import SiliconBench.Proofs.Matched
import SiliconBench.Proofs.Gpu.Retask
import SiliconBench.Proofs.Gpu.MemorySide
import SiliconBench.Proofs.Whole
import SiliconBench.Proofs.Gpu.Budget
import SiliconBench.Proofs.Gpu.Faults
import SiliconBench.Proofs.Machine.Valid
import SiliconBench.Proofs.Machine.AccessTime
import SiliconBench.Proofs.Machine.Estimate
import SiliconBench.Proofs.Paired.Simulate
import SiliconBench.Proofs.Machine.Monotone
import SiliconBench.Proofs.Setting.Accepted
import SiliconBench.Proofs.Command.Ending
import SiliconBench.Proofs.Command.Replaced
import SiliconBench.Proofs.Paired.Stream
import SiliconBench.Proofs.Paired.Proportion
import SiliconBench.Proofs.Paired.PerLine
import SiliconBench.Proofs.Setting.Revalidated
import SiliconBench.Proofs.Paired.Alike
import SiliconBench.Proofs.Machine.Consistent
import SiliconBench.Proofs.Machine.Cooler
import SiliconBench.Proofs.Machine.Faster
import SiliconBench.Proofs.Machine.Passage
import SiliconBench.Proofs.Machine.WorkedOut
import SiliconBench.Proofs.Gpu.Relaxation
import SiliconBench.Proofs.Paired.Sides
import SiliconBench.Proofs.Paired.Change
import SiliconBench.Proofs.Paired.Table
import SiliconBench.Proofs.Paired.Swap
import SiliconBench.Proofs.Gpu.Drift
import SiliconBench.Proofs.Gpu.Factor
import SiliconBench.Proofs.Instructions.Parse
import SiliconBench.Proofs.Paired.Joined
import SiliconBench.Proofs.Gpu.Locality
import SiliconBench.Proofs.Zero
import SiliconBench.Proofs.Gpu.NoWork
import SiliconBench.Proofs.Gpu.Ranges
import SiliconBench.Proofs.Gpu.Recovery
import SiliconBench.Proofs.Gpu.Layout
import SiliconBench.Proofs.Report.Picture
import SiliconBench.Proofs.Report.ThermalMap
import SiliconBench.Proofs.Report.CoreMap
