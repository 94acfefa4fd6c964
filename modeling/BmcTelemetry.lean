import BmcTelemetry.Main
import BmcTelemetry.Transport.Direct
import BmcTelemetry.Dialogue.Turns
import BmcTelemetry.Proofs.Bytes
import BmcTelemetry.Proofs.Controller
import BmcTelemetry.Proofs.Sensor.Slices
import BmcTelemetry.Proofs.Sensor.Stored
import BmcTelemetry.Proofs.Sensor.Reading
import BmcTelemetry.Proofs.Sensor.Visits
import BmcTelemetry.Proofs.Sensor.Chain
import BmcTelemetry.Proofs.Sensor.Revisit
import BmcTelemetry.Proofs.Driver.Delivery
import BmcTelemetry.Proofs.Collector.Agreement
import BmcTelemetry.Proofs.Collector.Paths
import BmcTelemetry.Proofs.Collector.Isolation
import BmcTelemetry.Proofs.Dialogue.Heeds
import BmcTelemetry.Proofs.Sensor.Account
import BmcTelemetry.Proofs.Inventory.Reading
import BmcTelemetry.Proofs.Collector.Coverage
import BmcTelemetry.Proofs.Transport.Independence
import BmcTelemetry.Proofs.Transport.Bridging
import BmcTelemetry.Proofs.Transport.Passwords
import BmcTelemetry.Proofs.Health.Truncation
import BmcTelemetry.Proofs.Health.Component
import BmcTelemetry.Proofs.Collector.Sessions
import BmcTelemetry.Proofs.Driver.Account
import BmcTelemetry.Proofs.Inventory.Paging
import BmcTelemetry.Proofs.Sensor.Trace
import BmcTelemetry.Proofs.Config.Saving
import BmcTelemetry.Proofs.Inventory.SixBit
import BmcTelemetry.Proofs.Inventory.Decimals
import BmcTelemetry.Proofs.Inventory.Interrupted
import BmcTelemetry.Proofs.Health.Merging
import BmcTelemetry.Proofs.Transport.Discovery
import BmcTelemetry.Proofs.Metric.Parsing
import BmcTelemetry.Proofs.Metric.Regulators
import BmcTelemetry.Proofs.Sensor.Allocation
import BmcTelemetry.Proofs.Tool.Encoding
import BmcTelemetry.Proofs.Inventory.Sources
import BmcTelemetry.Proofs.Config.Layering
import BmcTelemetry.Proofs.Patches
