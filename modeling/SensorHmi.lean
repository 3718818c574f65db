import SensorHmi.Lib.Octets
import SensorHmi.Lib.Retry
import SensorHmi.Platform
import SensorHmi.Net.WsSecurity
import SensorHmi.Net.SealedSession
import SensorHmi.Lib.Machine
import SensorHmi.Lib.Component
import SensorHmi.Net.WsAuthorize
import SensorHmi.Net.WsServer
import SensorHmi.Lib.Json
import SensorHmi.Net.WsClient
import SensorHmi.Net.WsServerStep
import SensorHmi.Net.FrameGate
import SensorHmi.Net.ReplayLife
import SensorHmi.Lib.Ieee
import SensorHmi.Proto.Messages
import SensorHmi.Proto.JsonEncode
import SensorHmi.Proto.JsonDecode
import SensorHmi.Lib.Loop
import SensorHmi.Lib.Cbor
import SensorHmi.Proto.CborEncode
import SensorHmi.Proto.Tinycbor
import SensorHmi.Proto.CborDecode
import SensorHmi.Proto.Codec
import SensorHmi.Proto.RoundTrip
import SensorHmi.Sensor.Mcp23017
import SensorHmi.Sensor.IoTask
import SensorHmi.Sensor.I2cMaster
import SensorHmi.Sensor.I2cChips
import SensorHmi.Sensor.Sht20
import SensorHmi.Sensor.IoDelivery
import SensorHmi.Sensor.GpioReport
import SensorHmi.Hmi.GpioToggle
import SensorHmi.Ota.OtaUpdate
import SensorHmi.Ota.InstallOnce
import SensorHmi.Net.NonceReplay
import SensorHmi.Lib.HeaderLines
import SensorHmi.Net.HandshakeHeaders
import SensorHmi.Net.HandshakeAgree
import SensorHmi.Net.HandshakePair
import SensorHmi.Net.Reconnect
import SensorHmi.Net.IntegrityGate
import SensorHmi.Proto.CborEnds
import SensorHmi.Proto.ToldApart
import SensorHmi.Net.ServerSession
import SensorHmi.Net.Transport
import SensorHmi.Net.HonestTransport
import SensorHmi.Lib.Trace
import SensorHmi.Ota.OtaSession
import SensorHmi.Ota.OtaProtocol
import SensorHmi.Net.ClientTable
import SensorHmi.Net.WifiManager
import SensorHmi.Proto.CommandChecks
import SensorHmi.Sensor.Pca9685
import SensorHmi.Sensor.PwmOutput
import SensorHmi.Sensor.PwmChannels
import SensorHmi.Sensor.DataModel
import SensorHmi.Sensor.SensorsTask
import SensorHmi.Sensor.Ds18b20
import SensorHmi.Sensor.Ds18b20List
import SensorHmi.Hmi.DiscoveryCache
import SensorHmi.Sensor.Publish
import SensorHmi.Proto.Unprintable
import SensorHmi.Sensor.Telemetry
import SensorHmi.Proto.CborReads
import SensorHmi.Proto.CborCommand
import SensorHmi.Proto.CborTelemetry
import SensorHmi.Lib.Backoff
import SensorHmi.Net.Backoff
import SensorHmi.Net.Broadcast
import SensorHmi.Ota.RetrySchedule
import SensorHmi.Util.TotpExact
import SensorHmi.Lib.Recent
import SensorHmi.Net.NonceCache
import SensorHmi.Lib.IeeeOrder
import SensorHmi.Sensor.ShouldPublish
import SensorHmi.Lib.Blend
import SensorHmi.Sensor.AmbientFilter
import SensorHmi.Net.FramePieces
import SensorHmi.Lib.Handles
import SensorHmi.Net.StartCleanup
import SensorHmi.Net.PongTimeout
import SensorHmi.Lib.Walks
import SensorHmi.Proto.CborShape
import SensorHmi.Lib.Printed
import SensorHmi.Proto.JsonBuffer
import SensorHmi.Sensor.StagingBuffers
import SensorHmi.Lib.BoundedQueue
import SensorHmi.Util.Ringbuf
import SensorHmi.Lib.Base32
import SensorHmi.Util.Base32Utils
import SensorHmi.Util.Base32Texts
import SensorHmi.Sensor.PwmFrequency
import SensorHmi.Sensor.Tca9548a
import SensorHmi.Sensor.RescanPeriod
import SensorHmi.Lib.IeeeValue
import SensorHmi.Sensor.Ds18b20Decode
import SensorHmi.Lib.Signed
import SensorHmi.Sensor.Bme280
import SensorHmi.Lib.Crc
import SensorHmi.Proto.Crc32
import SensorHmi.Hmi.Preferences
import SensorHmi.Proto.RomText
import SensorHmi.Hmi.Charts
import SensorHmi.Net.CertStore
import SensorHmi.Lib.Cell
import SensorHmi.Hmi.CachedEndpoint
import SensorHmi.Lib.Keyed
import SensorHmi.Lib.Partition
import SensorHmi.Hmi.ServiceDiscovery
import SensorHmi.Hmi.UiTask
import SensorHmi.Hmi.Screen
import SensorHmi.Hmi.PrefsLife
import SensorHmi.System.SensorSystem
import SensorHmi.System.Parts
import SensorHmi.System.TelemetryPath
import SensorHmi.System.CommandPath
import SensorHmi.Lib.Mailbox
import SensorHmi.Lib.Canvas
import SensorHmi.Hmi.Widgets
import SensorHmi.Hmi.Panel
