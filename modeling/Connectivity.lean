import Connectivity.Transition.Run
import Connectivity.Mnld.Requests
import Connectivity.Mnld.Moves
import Connectivity.Mnld.OpenAck
import Connectivity.Mnld.CloseAck
import Connectivity.Mnld.AidingData
import Connectivity.Mnld.Demand
import Connectivity.Mnld.Watchdog
import Connectivity.Mnld.Wakelock
import Connectivity.Mnld.ResetAck
import Connectivity.Bytes.LittleEndian
import Connectivity.Offload.Handlers
import Connectivity.Offload.Delivery
import Connectivity.Offload.Datagram
import Connectivity.Bytes.Buffer
import Connectivity.DataCoder.Coder
import Connectivity.DataCoder.RoundTrip
import Connectivity.DataCoder.Consume
import Connectivity.DataCoder.Datagram
import Connectivity.DataCoder.Texts
import Connectivity.Agps.Messages
import Connectivity.Agps.Handlers
import Connectivity.Agps.Agreement
import Connectivity.Agps.Pointers
import Connectivity.Hal.Messages
import Connectivity.Hal.Handlers
import Connectivity.Hal.Agreement
import Connectivity.SocketCoder.Coder
import Connectivity.SocketCoder.Truncation
import Connectivity.Hci.Packetizer
import Connectivity.Hci.ZeroLength
import Connectivity.Hci.Reassembly
import Connectivity.Hci.Writev
import Connectivity.Hci.LowPower
import Connectivity.Hci.StateMachine
import Connectivity.DebugLog.Batches
import Connectivity.Nmea.Reader
import Connectivity.Nmea.Parser
import Connectivity.Nmea.Resync
import Connectivity.Nmea.GsvLoop
import Connectivity.Nmea.SvCount
import Connectivity.Nmea.SvBounds
import Connectivity.Nmea.Isolation
import Connectivity.Calendar.Gregorian
import Connectivity.Epo.GpsTime
import Connectivity.Epo.Downloads
import Connectivity.Epo.Qepo
import Connectivity.Epo.QepoThrottle
import Connectivity.Epo.MtkNavVersions
import Connectivity.Epo.Pieces
import Connectivity.Epo.Assembly
import Connectivity.Epo.PieceScan
import Connectivity.Geofence.Store
import Connectivity.Geofence.Recovery
import Connectivity.Flp.Session
import Connectivity.Flp.SessionProtocol
import Connectivity.Flp.BatchRing
import Connectivity.Flp.WakeOnFull
import Connectivity.AtTest.Tests
import Connectivity.AtTest.Moves
import Connectivity.AtTest.Samples
import Connectivity.AtTest.Modes
import Connectivity.Mpe.Engine
import Connectivity.Mpe.Listening
import Connectivity.LbsDebug.Relay
import Connectivity.LbsDebug.LifeCycle
import Connectivity.Fm.Commands
import Connectivity.Fm.TuneOrder
import Connectivity.Fm.Radio
import Connectivity.Fm.RadioCycle
import Connectivity.Tuner.Commands
import Connectivity.Tuner.CancelOrder
import Connectivity.Tuner.SeekBounds
import Connectivity.Tuner.Limits
import Connectivity.GpsHal.Intent
import Connectivity.Table.RefCount
import Connectivity.WifiHal.Monitor
import Connectivity.WifiHal.MonitorRuns
import Connectivity.Epo.Assistance
import Connectivity.GnssService.ClientWakelock
import Connectivity.Nmea.GsvGroup
import Connectivity.Nmea.HalReader
import Connectivity.Table.Gather
import Connectivity.Nmea.GsvGathered
import Connectivity.Nmea.GsvEpoch
import Connectivity.Nmea.HalEpoch
import Connectivity.Nmea.GsvAgreement
import Connectivity.AtTest.Datagram
import Connectivity.AtTest.DatagramSafety
import Connectivity.Flp.DaemonMessage
import Connectivity.Geofence.Injection
import Connectivity.Tuner.RdsText
import Connectivity.Tuner.Search
import Connectivity.Tuner.StopRestore
import Connectivity.Tuner.Reported
import Connectivity.Epo.QepoUpdate
import Connectivity.Fm.SeekGrid
import Connectivity.Fm.SeekExact
import Connectivity.Fm.SeekAgreement
import Connectivity.Fm.SeekSettings
import Connectivity.Fm.AltSwitch
import Connectivity.Fm.ScanTable
import Connectivity.Fm.ScanBounds
import Connectivity.Ring.Laps
import Connectivity.Ring.Position
import Connectivity.Fm.ScanLoop
import Connectivity.Fm.ScanStations
import Connectivity.Fm.ScanOrder
import Connectivity.Fm.ScanOnce
import Connectivity.Fm.ScanCommand
import Connectivity.LbsLog.DirCheck
import Connectivity.LbsLog.DirRecord
import Connectivity.LbsLog.LogThread
import Connectivity.LbsDebug.Send
import Connectivity.Mpe.Batching
import Connectivity.BtRelay.Resync
import Connectivity.WifiHal.Replies
import Connectivity.WifiHal.ReplySafety
import Connectivity.WpaDriver.SinkScc
import Connectivity.WpaDriver.DriverCmd
import Connectivity.WpaDriver.CmdSafety
import Connectivity.DataCoder.Received
import Connectivity.GpsHal.Report
import Connectivity.GpsHal.ReportSafety
import Connectivity.DebugLog.Mutex
import Connectivity.LbsLog.Datagrams
import Connectivity.Nmea.Tokenizer
import Connectivity.Nmea.UpdateDate
import Connectivity.Mnld.Chksum
import Connectivity.Agps.NiNotify
import Connectivity.Geofence.Controller
import Connectivity.Geofence.DcRequests
import Connectivity.Hci.CommandComplete
import Connectivity.Hci.Debugger
import Connectivity.Boots.PacketValue
import Connectivity.Boots.Parsing
import Connectivity.Boots.ParsingSafety
import Connectivity.Boots.Dispatch
import Connectivity.Boots.HandledEvents
import Connectivity.Boots.PacketList
import Connectivity.Boots.ListRuns
import Connectivity.Boots.PacketAgreement
import Connectivity.Bperf.Notify
import Connectivity.StpDump.Decode
import Connectivity.StpDump.DumpRuns
import Connectivity.Launcher.Commands
import Connectivity.Launcher.Tty
import Connectivity.Launcher.PatchSearch
import Connectivity.Launcher.PatchAnnounced
import Connectivity.WifiChip.Service
import Connectivity.WifiChip.Archive
import Connectivity.EventLoop.Timeouts
import Connectivity.EventLoop.Dispatch
import Connectivity.Hci.WatcherStop
import Connectivity.Supplicant.Registry
import Connectivity.Flp.ApMode
import Connectivity.Hostapd.Config
