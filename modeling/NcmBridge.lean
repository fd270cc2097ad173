import NcmBridge.Block.Decode
import NcmBridge.Block.Encoder
import NcmBridge.Block.Error
import NcmBridge.Block.Header
import NcmBridge.Block.Layout
import NcmBridge.Block.Reader
import NcmBridge.Block.Stream
import NcmBridge.Bridge.Downlink
import NcmBridge.Bridge.Endpoints
import NcmBridge.Bridge.FrameSummary
import NcmBridge.Bridge.Latch
import NcmBridge.Bridge.Pump
import NcmBridge.Bridge.Run
import NcmBridge.Bridge.Script
import NcmBridge.Bridge.Uplink
import NcmBridge.CommandLine
import NcmBridge.Daemon
import NcmBridge.Errno
import NcmBridge.Files
import NcmBridge.Host.Basic
import NcmBridge.Host.Launch
import NcmBridge.Host.Run
import NcmBridge.IoFault
import NcmBridge.IpAddress
import NcmBridge.Link.Activation
import NcmBridge.Link.BulkQueue
import NcmBridge.Link.Bus
import NcmBridge.Link.Descriptor
import NcmBridge.Link.Discovery
import NcmBridge.Link.Fault
import NcmBridge.Link.Listing
import NcmBridge.Link.Packets
import NcmBridge.Link.Port
import NcmBridge.Link.Session
import NcmBridge.Link.Transfers
import NcmBridge.Link.Transport
import NcmBridge.Log
import NcmBridge.LogFilter.Basic
import NcmBridge.LogFilter.Directive
import NcmBridge.Main
import NcmBridge.Octets
import NcmBridge.Party
import NcmBridge.Preflight
import NcmBridge.Proofs.Block.Acceptance
import NcmBridge.Proofs.Block.Grammar
import NcmBridge.Proofs.Block.Header
import NcmBridge.Proofs.Block.Layout
import NcmBridge.Proofs.Block.RoundTrip
import NcmBridge.Proofs.Checks
import NcmBridge.Proofs.Octets
import NcmBridge.Settings.Basic
import NcmBridge.Settings.Document
import NcmBridge.Settings.Store
import NcmBridge.Supervisor.InterfaceNames
import NcmBridge.Supervisor.Scan
import NcmBridge.Tap.Device
import NcmBridge.Tap.Kernel
import NcmBridge.Tap.Name
import NcmBridge.Telemetry.Endpoint
import NcmBridge.Telemetry.Exposition
import NcmBridge.Telemetry.Registry
import NcmBridge.Telemetry.Target
import NcmBridge.Text.Alphanumeric
import NcmBridge.Text.Blank
import NcmBridge.Text.CodeRanges
import NcmBridge.Text.Digits
import NcmBridge.Text.Hidden
import NcmBridge.Text.Lossy
import NcmBridge.Text.Mark
import NcmBridge.Text.Printable
import NcmBridge.Text.Quoted
import NcmBridge.Text.Slice
import NcmBridge.Text.Split
import NcmBridge.Text.Terminal
import NcmBridge.Toml.Atom
import NcmBridge.Toml.Quoted
import NcmBridge.Toml.Reader
import NcmBridge.Toml.Value
import NcmBridge.Toml.Writer
import NcmBridge.Usage
import NcmBridge.Version
import NcmBridge.Proofs.Bridge.Conservation
import NcmBridge.Proofs.Block.Framing
import NcmBridge.Proofs.Bridge.Delivery
import NcmBridge.Proofs.Link.Packets
import NcmBridge.Proofs.Bridge.Loopback
import NcmBridge.Proofs.Tap.Name
import NcmBridge.Proofs.Supervisor.InterfaceNames
import NcmBridge.Proofs.Host.Restoration
import NcmBridge.Proofs.Block.Receiving
import NcmBridge.Proofs.Block.Recovery
import NcmBridge.Proofs.Bridge.Recovery
import NcmBridge.Proofs.Supervisor.Ledger
import NcmBridge.Proofs.Supervisor.Reconciliation
import NcmBridge.Proofs.Block.Coverage
import NcmBridge.Proofs.Block.Chunking
import NcmBridge.Proofs.Link.Boundaries
import NcmBridge.Proofs.Block.Contiguity
import NcmBridge.Proofs.Bridge.Closing
import NcmBridge.Proofs.Telemetry.Updates
import NcmBridge.Proofs.Text
import NcmBridge.Proofs.Telemetry.Scrape
import NcmBridge.Proofs.Block.Written
import NcmBridge.Proofs.Block.Search
import NcmBridge.Proofs.Block.Access
import NcmBridge.Proofs.Bridge.Packing
import NcmBridge.Proofs.Link.Intake
import NcmBridge.Proofs.Bridge.WindingDown
import NcmBridge.Proofs.Link.Activation
import NcmBridge.Proofs.Link.Discovery
import NcmBridge.Proofs.Block.Projection
import NcmBridge.Proofs.Tap.Reading
import NcmBridge.Proofs.Settings.Saved
