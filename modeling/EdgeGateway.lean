import EdgeGateway.Lib.Calendar
import EdgeGateway.Lib.Ring
import EdgeGateway.Lib.Run
import EdgeGateway.Lib.Timed
import EdgeGateway.Lib.Seq
import EdgeGateway.Lib.Text
import EdgeGateway.Lib.Ticks
import EdgeGateway.Lib.Utf8
import EdgeGateway.Lib.Http
import EdgeGateway.Lib.Markup
import EdgeGateway.Json
import EdgeGateway.Utils
import EdgeGateway.Logger
import EdgeGateway.Devices
import EdgeGateway.Lib.Keyed
import EdgeGateway.Lib.Prog
import EdgeGateway.Lib.Tasks
import EdgeGateway.Lib.Watch
import EdgeGateway.Registry
import EdgeGateway.Modem.Uart
import EdgeGateway.Modem.Port
import EdgeGateway.Modem.EventRead
import EdgeGateway.Modem.Readout
import EdgeGateway.Modem.Recovery
import EdgeGateway.Modem.Answers
import EdgeGateway.Modem.Status
import EdgeGateway.Modem.Monitor
import EdgeGateway.Modem.Background
import EdgeGateway.Modem.Moves
import EdgeGateway.Modem.Tests
import EdgeGateway.Modem.Profile
import EdgeGateway.Modem.Health
import EdgeGateway.Mqtt.Result
import EdgeGateway.Mqtt.Topic
import EdgeGateway.Mqtt.Queue
import EdgeGateway.Mqtt.Command
import EdgeGateway.Mqtt.Event
import EdgeGateway.Modem.Inbound
import EdgeGateway.Mqtt.Publisher
import EdgeGateway.Mqtt.Desk
import EdgeGateway.Mqtt.Custody
import EdgeGateway.Mqtt.Order
import EdgeGateway.Mqtt.Ledger
import EdgeGateway.Mqtt.Identity
import EdgeGateway.Mqtt.Erase
import EdgeGateway.Mqtt.Loss
import EdgeGateway.Mqtt.Publication
import EdgeGateway.Mqtt.Eviction
import EdgeGateway.Mqtt.Session
import EdgeGateway.Mqtt.Backoff
import EdgeGateway.Mqtt.Dialogue
import EdgeGateway.Mqtt.Discipline
import EdgeGateway.Mqtt.Detailed
import EdgeGateway.Mqtt.Requests
import EdgeGateway.Mqtt.Drain
import EdgeGateway.DataLink
import EdgeGateway.Tcp.Server
import EdgeGateway.Tcp.Frames
import EdgeGateway.Tcp.Link
import EdgeGateway.Tcp.Session
import EdgeGateway.Tcp.Connection
import EdgeGateway.Tcp.Delivery
import EdgeGateway.Tcp.Ingest
import EdgeGateway.Tcp.Malformed
import EdgeGateway.Tcp.Undisturbed
import EdgeGateway.Tcp.Overlong
import EdgeGateway.Tcp.Reading
import EdgeGateway.Uplink
import EdgeGateway.Elapsed
import EdgeGateway.Web.Server
import EdgeGateway.Web.Response
import EdgeGateway.Web.Admission
import EdgeGateway.Web.Wire
import EdgeGateway.Supervisor
import EdgeGateway.Web.Saturation
import EdgeGateway.Panel
import EdgeGateway.Console
import EdgeGateway.Simulation
import EdgeGateway.Tables
import EdgeGateway.Guard
