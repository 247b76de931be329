import Connectivity.Hal.Messages

set_option autoImplicit false

/- `hal2mnl_hdlr` of mnl2hal_interface.c and `mnl2hal_hdlr` of hal2mnl_interface.c. A text is
where `get_string` found it, and a structure what `get_binary` copied into it. The interface
is given by the commands whose callback is set. -/
namespace Connectivity.Hal

open DataCoder

/-- The callbacks of a handler, and what it returns. -/
structure Outcome (α : Type) where
  calls : List α
  ret : Int
deriving DecidableEq

/-- The arm of a command: if its callback is set, it reads the arguments and calls. -/
def arm {α : Type} (callback : Bool) (arguments : Get α) : Get (Outcome α) :=
  if callback then do
    let call ← arguments
    return ⟨[call], 0⟩
  else return ⟨[], -1⟩

def hal2mnlArguments : Hal2mnlCmd → Get (Hal2mnl (Option Int))
  | .halReboot => return .halReboot
  | .gpsInit => return .gpsInit
  | .gpsStart => return .gpsStart
  | .gpsStop => return .gpsStop
  | .gpsCleanup => return .gpsCleanup
  | .gpsInjectTime => do
      let time ← getLong
      let timeReference ← getLong
      let uncertainty ← getInt
      return .gpsInjectTime time timeReference uncertainty
  | .gpsInjectLocation => do
      let lat ← getDouble
      let lng ← getDouble
      let acc ← getFloat
      return .gpsInjectLocation lat lng acc
  | .gpsDeleteAidingData => do
      let flags ← getInt
      return .gpsDeleteAidingData flags
  | .gpsSetPositionMode => do
      let mode ← getInt
      let recurrence ← getInt
      let minInterval ← getInt
      let preferredAcc ← getInt
      let preferredTime ← getInt
      return .gpsSetPositionMode mode recurrence minInterval preferredAcc preferredTime
  | .dataConnOpen => do
      let apn ← getString
      return .dataConnOpen apn
  | .dataConnOpenWithApnIpType => do
      let apn ← getString
      let ipType ← getInt
      return .dataConnOpenWithApnIpType apn ipType
  | .dataConnClosed => return .dataConnClosed
  | .dataConnFailed => return .dataConnFailed
  | .setServer => do
      let type ← getInt
      let hostname ← getString
      let port ← getInt
      return .setServer type hostname port
  | .setRefLocation => do
      let type ← getInt
      let mcc ← getInt
      let mnc ← getInt
      let lac ← getInt
      let cid ← getInt
      return .setRefLocation type mcc mnc lac cid
  | .setId => do
      let type ← getInt
      let setid ← getString
      return .setId type setid
  | .niMessage => do
      let msg ← getBinary 1024
      return .niMessage msg
  | .niRespond => do
      let notifId ← getInt
      let userResponse ← getInt
      return .niRespond notifId userResponse
  | .updateNetworkState => do
      let connected ← getInt
      let type ← getInt
      let roaming ← getInt
      let extraInfo ← getString
      return .updateNetworkState connected type roaming extraInfo
  | .updateNetworkAvailability => do
      let available ← getInt
      let apn ← getString
      return .updateNetworkAvailability available apn
  | .gpsMeasurement => do
      let enabled ← getInt
      return .setGpsMeasurement (enabled != 0)
  | .gpsNavigation => do
      let enabled ← getInt
      return .setGpsNavigation (enabled != 0)
  | .vzwDebug => do
      let enabled ← getInt
      return .setVzwDebug (enabled != 0)

def hal2mnlHdlr (interface : Hal2mnlCmd → Bool) : Get (Outcome (Hal2mnl (Option Int))) := do
  let _ver ← getInt
  let cmd ← getInt
  match Hal2mnlCmd.ofInt cmd with
  | some cmd => arm (interface cmd) (hal2mnlArguments cmd)
  | none => return ⟨[], -1⟩

/-- `count` and `report_time_interval` of hal2mnl_interface.c. -/
structure LocationReports where
  count : Float32
  interval : Float32

namespace LocationReports

def start : LocationReports := ⟨0, 0⟩

/-- What `hal2mnl_gps_set_position_mode` does besides its message. -/
def setPositionMode (reports : LocationReports) (minInterval : BitVec 32) : LocationReports :=
  if minInterval.toInt ≤ 1000 then { reports with interval := 1 }
  else { reports with interval := (UInt32.ofBitVec minInterval).toFloat32 / 1000 }

/-- `++count`. -/
def counted (reports : LocationReports) : LocationReports :=
  { reports with count := reports.count + 1 }

/-- `report_time_interval > ++count`. -/
def early (reports : LocationReports) : Prop := reports.counted.count < reports.interval

instance (reports : LocationReports) : Decidable reports.early :=
  inferInstanceAs (Decidable (reports.counted.count < reports.interval))

end LocationReports

/-- `nmea - buff` as an `int`, where the buffer stands at `address`. -/
def usedLength (address : BitVec 64) : Option Int → BitVec 32
  | some nmea => .ofInt 32 nmea
  | none => (0 - address).setWidth 32

/-- `MIN(length, max_length)`. -/
def clippedLength (usedLength length : BitVec 32) : BitVec 32 :=
  let maxLength := .ofNat 32 buffSize - usedLength
  if length.toInt < maxLength.toInt then length else maxLength

def mnl2halArguments (address : BitVec 64) :
    Mnl2halCmd → Get (Mnl2hal (Option Int) fun _ => Binary)
  | .mnldReboot => return .mnldReboot
  | .location => do
      let location ← getBinary gpsLocation.size
      return .location location
  | .gpsStatus => do
      let status ← getBinary Layout.int.size
      return .gpsStatus status
  | .gpsSv => do
      let sv ← getBinary gnssSvInfo.size
      return .gpsSv sv
  | .nmea => do
      let timestamp ← getLong
      let nmea ← getString
      let length ← getInt
      return .nmea timestamp nmea (clippedLength (usedLength address nmea) length)
  | .gpsCapabilities => do
      let capabilities ← getBinary Layout.int.size
      return .gpsCapabilities capabilities
  | .gpsMeasurements => do
      let data ← getBinary gpsData.size
      return .gpsMeasurements data
  | .gpsNavigation => do
      let msg ← getBinary gpsNavMsg.size
      return .gpsNavigation msg
  | .gnssMeasurements => do
      let data ← getBinary gnssData.size
      return .gnssMeasurements data
  | .gnssNavigation => do
      let msg ← getBinary gnssNavMsg.size
      return .gnssNavigation msg
  | .requestWakelock => return .requestWakelock
  | .releaseWakelock => return .releaseWakelock
  | .requestUtcTime => return .requestUtcTime
  | .requestDataConn => do
      let addr ← getBinary sockaddrStorage.size
      return .requestDataConn addr
  | .releaseDataConn => return .releaseDataConn
  | .requestNiNotify => do
      let sessionId ← getInt
      let type ← getInt
      let requestorId ← getString
      let clientName ← getString
      let requestorIdEncoding ← getInt
      let clientNameEncoding ← getInt
      let niType ← getInt
      return .requestNiNotify sessionId niType type requestorId clientName requestorIdEncoding
        clientNameEncoding
  | .requestSetId => do
      let flags ← getInt
      return .requestSetId flags
  | .requestRefLoc => do
      let flags ← getInt
      return .requestRefLoc flags
  | .vzwDebugOutput => do
      let str ← getString
      return .vzwDebugScreenOutput str

def mnl2halArm (address : BitVec 64) (interface : Mnl2halCmd → Bool)
    (reports : LocationReports) (cmd : Mnl2halCmd) :
    Get (Outcome (Mnl2hal (Option Int) fun _ => Binary) × LocationReports) :=
  match cmd with
  | .location =>
      if reports.early then
        return (⟨[], 0⟩, reports.counted)
      else do
        let outcome ← arm (interface .location) (mnl2halArguments address .location)
        return (outcome, { reports with count := 0 })
  | cmd => do
      let outcome ← arm (interface cmd) (mnl2halArguments address cmd)
      return (outcome, reports)

def mnl2halHdlr (address : BitVec 64) (interface : Mnl2halCmd → Bool)
    (reports : LocationReports) :
    Get (Outcome (Mnl2hal (Option Int) fun _ => Binary) × LocationReports) := do
  let _ver ← getInt
  let cmd ← getInt
  match Mnl2halCmd.ofInt cmd with
  | some cmd => mnl2halArm address interface reports cmd
  | none => return (⟨[], -1⟩, reports)

end Connectivity.Hal
