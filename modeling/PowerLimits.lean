import PowerLimits.Store.Memory
import PowerLimits.Session.Operation
import PowerLimits.Main
import PowerLimits.Proofs.LimitRegister.RoundTrip
import PowerLimits.Proofs.Session.Frame
import PowerLimits.Proofs.Session.LastWriter
import PowerLimits.Proofs.Session.Lifetime
import PowerLimits.Proofs.Session.Refusal
import PowerLimits.Proofs.Device.Registers
import PowerLimits.Proofs.Topology.Dense
import PowerLimits.Proofs.Device.Frame
import PowerLimits.Proofs.Session.Mirror
import PowerLimits.Proofs.Session.Simulation
import PowerLimits.Proofs.LimitRegister.Commute
import PowerLimits.Proofs.CommandLine.Configure
import PowerLimits.Proofs.Binary64.Logarithm
import PowerLimits.Proofs.Binary64.Value
import PowerLimits.Proofs.LimitRegister.Power
import PowerLimits.Proofs.LimitRegister.Window
import PowerLimits.Proofs.CommandLine.Rejection
import PowerLimits.Proofs.Binary64.Nearest
import PowerLimits.Proofs.LimitRegister.Seconds
import PowerLimits.Proofs.LimitRegister.Faithful
import PowerLimits.Proofs.Topology.Grammar
import PowerLimits.Proofs.Topology.Mapping
import PowerLimits.Proofs.Device.Place
import PowerLimits.Proofs.Session.Addressing
import PowerLimits.Proofs.Topology.Scan
import PowerLimits.Proofs.CommandLine.Enforcement
import PowerLimits.Proofs.Binary64.Numeral
import PowerLimits.Proofs.CommandLine.Quantities
import PowerLimits.Proofs.Text.Integer
import PowerLimits.Proofs.Configuration
import PowerLimits.Proofs.Device.History
import PowerLimits.Proofs.BitRange.Lawful
import PowerLimits.Proofs.UnitRegister
import PowerLimits.Proofs.Topology.Tally
import PowerLimits.Proofs.Session.Energy
