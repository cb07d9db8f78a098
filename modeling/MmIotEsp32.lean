import MmIotEsp32.Common.MmpktList
import MmIotEsp32.Driver.Health.DriverHealth
import MmIotEsp32.Driver.MorseDriver.Command
import MmIotEsp32.Driver.MorseDriver.Mm6108.PagerCache
import MmIotEsp32.Driver.MorseDriver.Mm6108.PagesetConservation
import MmIotEsp32.Driver.MorseDriver.Mm8108.YapsHw
import MmIotEsp32.Driver.MorseDriver.PowerSave
import MmIotEsp32.Driver.MorseDriver.SkbqAccounting
import MmIotEsp32.Driver.MorseDriver.SkbqOrder
import MmIotEsp32.Driver.MorseDriver.TrafficControl
import MmIotEsp32.Driver.Transport.SdioWindows
import MmIotEsp32.HeliFc.Agents.ActuatorAgent
import MmIotEsp32.HeliFc.Agents.GpsHealth
import MmIotEsp32.HeliFc.Agents.ModeCommand
import MmIotEsp32.HeliFc.CollectiveStick
import MmIotEsp32.HeliFc.Comm.MjpegStream
import MmIotEsp32.HeliFc.Comm.ParamAgreement
import MmIotEsp32.HeliFc.Comm.ParamDownload
import MmIotEsp32.HeliFc.Comm.ThermalCamera
import MmIotEsp32.HeliFc.Comm.ZeroTruncation
import MmIotEsp32.HeliFc.Common.ParamRange
import MmIotEsp32.HeliFc.Drivers.NmeaAcceptance
import MmIotEsp32.HeliFc.Drivers.SbusSync
import MmIotEsp32.HeliFc.GcsLink
import MmIotEsp32.HeliFc.HomePosition
import MmIotEsp32.HeliFc.MissionAcks
import MmIotEsp32.HeliFc.MissionUpload
import MmIotEsp32.HeliFc.Rpc.RpcTelemetry
import MmIotEsp32.HeliFc.StartUp
import MmIotEsp32.HeliFc.Touchdown
import MmIotEsp32.HeliFc.Uorb.OrbDelivery
import MmIotEsp32.HeliFc.WaypointFlown
import MmIotEsp32.Mmpktmem.TxMemory
import MmIotEsp32.Mmrc.RateRows
import MmIotEsp32.Slip.Slip
import MmIotEsp32.Umac.Ap.ApBuffering
import MmIotEsp32.Umac.Ap.ApRemoval
import MmIotEsp32.Umac.Ap.ApStations
import MmIotEsp32.Umac.Ba.BaTimers
import MmIotEsp32.Umac.Ba.TxWindow
import MmIotEsp32.Umac.Connection.AssocComeback
import MmIotEsp32.Umac.Connection.ChipRestored
import MmIotEsp32.Umac.Connection.ConnectionMon
import MmIotEsp32.Umac.Connection.Disconnection
import MmIotEsp32.Umac.Connection.EcsaRateControl
import MmIotEsp32.Umac.Connection.Reconfiguration
import MmIotEsp32.Umac.Core.EvtLoopStops
import MmIotEsp32.Umac.Core.Evtq
import MmIotEsp32.Umac.Datapath.DefragRuns
import MmIotEsp32.Umac.Datapath.FlowControl
import MmIotEsp32.Umac.Datapath.PacketNumbers
import MmIotEsp32.Umac.Datapath.ReorderInsertion
import MmIotEsp32.Umac.Datapath.ReplayOrder
import MmIotEsp32.Umac.Ies.S1gTimBounds
import MmIotEsp32.Umac.Ies.S1gTimBuild
import MmIotEsp32.Umac.Interface.ShutdownRuns
import MmIotEsp32.Umac.Offload.OffloadRestored
import MmIotEsp32.Umac.Rc.StatisticsRange
import MmIotEsp32.Umac.Scan.HwScanCommand
import MmIotEsp32.Umac.Scan.ScanApiRuns
import MmIotEsp32.Umac.SupplicantShim.BipExact
import MmIotEsp32.Umac.SupplicantShim.Eloop
import MmIotEsp32.Umac.SupplicantShim.NetworkConfig
import MmIotEsp32.Umac.WnmSleep.ChipAgreement
import MmIotEsp32.Umac.WnmSleep.WnmRequests
