import MeshBeacon.Binary64
import MeshBeacon.Circle
import MeshBeacon.Hal
import MeshBeacon.JitCollision
import MeshBeacon.JitInvariant
import MeshBeacon.JitLedger
import MeshBeacon.JitQueue
import MeshBeacon.Qsort
import MeshBeacon.Run
import MeshBeacon.TimeOnAir
import MeshBeacon.RxBuffer
import MeshBeacon.RxCodec
import MeshBeacon.Timestamp
import MeshBeacon.Sx1302
import MeshBeacon.Receive
import MeshBeacon.ReceiveProgress
import MeshBeacon.ReceiveLoss
import MeshBeacon.ThreadUp
import MeshBeacon.Downlink
import MeshBeacon.DownlinkDelivery
import MeshBeacon.DuckRouter
import MeshBeacon.BloomFilter
import MeshBeacon.CdpPacket
import MeshBeacon.Duck
import MeshBeacon.PapaDuck
import MeshBeacon.CdpCodec
import MeshBeacon.Generations
import MeshBeacon.BloomMemory
import MeshBeacon.DuckEffects
import MeshBeacon.DuckSend
import MeshBeacon.Hub
import MeshBeacon.JitAccept
import MeshBeacon.RxBounds
import MeshBeacon.JitPurge
import MeshBeacon.JitHandover
import MeshBeacon.DownlinkLoops
import MeshBeacon.LoraEmission
import MeshBeacon.MamaDuck
import MeshBeacon.MamaRelay
import MeshBeacon.RouteResponse
import MeshBeacon.Mesh
import MeshBeacon.RouteStorm
import MeshBeacon.RingBuffer
import MeshBeacon.MqttStore
import MeshBeacon.Mqtt
import MeshBeacon.MqttReconnect
import MeshBeacon.MqttOrder
import MeshBeacon.Locks
import MeshBeacon.BridgeLocks
import MeshBeacon.UplinkQueue
import MeshBeacon.ReceiveFlag
import MeshBeacon.JitPeek
import MeshBeacon.JitAsap
import MeshBeacon.UsbBulk
import MeshBeacon.Sx1302Send
import MeshBeacon.DuckLink
import MeshBeacon.RouteHandlers
import MeshBeacon.RouterHistory
import MeshBeacon.RouteDocument
import MeshBeacon.SafeBase64
import MeshBeacon.MqttCommand
import MeshBeacon.JsonReader
import MeshBeacon.MqttResponse
import MeshBeacon.Reads
import MeshBeacon.MergePackets
import MeshBeacon.MemBurst
import MeshBeacon.SpiAck
import MeshBeacon.Ubx
import MeshBeacon.Report
import MeshBeacon.Framing
import MeshBeacon.Nmea
import MeshBeacon.ThreadGps
import MeshBeacon.GpsSync
import MeshBeacon.GpsConvert
import MeshBeacon.PreciseTimestamp
import MeshBeacon.TableSearch
import MeshBeacon.TxGain
import MeshBeacon.BitField
import MeshBeacon.SpiReg
import MeshBeacon.StoreLoop
import MeshBeacon.SetConf
import MeshBeacon.BitPoly
import MeshBeacon.Crc
import MeshBeacon.Probing
import MeshBeacon.BloomProbe
import MeshBeacon.SeedLoop
import MeshBeacon.PpsRing
import MeshBeacon.FreqDrift
import MeshBeacon.Beacon
import MeshBeacon.TransmitPath
import MeshBeacon.TransmitLedger
import MeshBeacon.TransmitPackets
import MeshBeacon.Sx1261
import MeshBeacon.LgwSend
import MeshBeacon.TransmitSend
import MeshBeacon.JitDeadline
import MeshBeacon.DuckUtils
import MeshBeacon.Emission
import MeshBeacon.MeshLineage
import MeshBeacon.RouteJson
import MeshBeacon.MeshFlood
import MeshBeacon.UplinkPath
import MeshBeacon.UplinkRecords
import MeshBeacon.DaemonLocks
import MeshBeacon.LockScopes
import MeshBeacon.MqttBooks
import MeshBeacon.Gateway
import MeshBeacon.RelayOnce
