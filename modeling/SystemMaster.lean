import SystemMaster.Alto.RoundTrip
import SystemMaster.Alto.Corruption
import SystemMaster.Alto.FirstFrame
import SystemMaster.Eeprom.Integrity
import SystemMaster.Eeprom.FirstBoot
import SystemMaster.Dio.Persistence
import SystemMaster.Dio.Exits
import SystemMaster.Dio.Debounce
import SystemMaster.Flash.LockDiscipline
import SystemMaster.Flash.DeviceLoading
import SystemMaster.Flash.Listings
import SystemMaster.Tcp.Permits
import SystemMaster.Tcp.Descriptors
import SystemMaster.Tcp.CommandStream
import SystemMaster.Tcp.Delivery
import SystemMaster.Forte.ExactlyOnce
import SystemMaster.Usb.NetworkConfiguration
import SystemMaster.Http.Upload
import SystemMaster.Multinet.Routing
import SystemMaster.Multinet.FailedExchanges
import SystemMaster.Multinet.ReplyCorrelation
import SystemMaster.Usb.Composite
import SystemMaster.Devices.Registry
import SystemMaster.Rosen.SourceQuery
import SystemMaster.Avds.Endpoint
import SystemMaster.Dio.Blink
import SystemMaster.Dio.EdgeCounting
import SystemMaster.Dio.KeyRepeat
import SystemMaster.Dio.OutputCommands
import SystemMaster.Dio.Aliases
import SystemMaster.Avds.SerialReceiver
import SystemMaster.Avds.ReceiverStages
import SystemMaster.Avds.ReceiverSafety
import SystemMaster.Avds.ReplyLength
import SystemMaster.Avds.FrameSearch
import SystemMaster.Avds.Resynchronisation
import SystemMaster.Multinet.LocalRemote
import SystemMaster.Devices.Answers
import SystemMaster.Multinet.DetailedStatus
import SystemMaster.Devices.AltoRequests
import SystemMaster.Devices.Messages
import SystemMaster.Tcp.Dispatch
import SystemMaster.Tcp.Console
import SystemMaster.Usb.LineEditor
import SystemMaster.Avds.Requests
import SystemMaster.Multinet.RoutingDecode
import SystemMaster.Interfaces.ReadErrors
import SystemMaster.Interfaces.ExactReads
import SystemMaster.Forte.Forwarding
import SystemMaster.Rosen.ReplyParsing
import SystemMaster.Http.QueryString
import SystemMaster.Http.FlashUpload
import SystemMaster.Multinet.Discovery
import SystemMaster.Avds.Corruption
import SystemMaster.Http.Sessions
import SystemMaster.Usb.ConfigurationSession
import SystemMaster.Drivers.Crc
import SystemMaster.Flash.DeviceFiles
import SystemMaster.Drivers.AnalogMonitor
import SystemMaster.Devices.AmplifierSession
import SystemMaster.Usb.ConsoleSession
