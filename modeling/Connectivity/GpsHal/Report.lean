import Connectivity.DataCoder.Received
import Connectivity.Hal.Handlers

set_option autoImplicit false

/- gpshal_worker.c: what the callbacks of the framework are handed for a datagram of mnld. A
field that is copied as it is stays in the structure it comes from. -/
namespace Connectivity.GpsHal

open Bytes DataCoder Connectivity.Hal

/-- A datagram that fits the buffer of `mnl2hal_hdlr`. -/
structure Datagram where
  bytes : List UInt8
  fits : bytes.length ≤ buffSize

/-- What the worker finds besides the datagram: whether `gps_state` is `GPSHAL_STATE_START`, which
of the optional callbacks are set, what the stack holds where a structure is put, and
`GNSS_MAX_SVS` of the framework. -/
structure Context where
  started : Bool
  agpsrilCbs : Bool
  vzwDebugCbs : Bool
  stack : List UInt8
  gnssMaxSvs : Nat
  svsFit : gnssMaxSvs ≤ 64

/-- `notify_flags` of `GpsNiNotification`. -/
structure NotifyFlags where
  needNotify : Bool
  needVerify : Bool
  privacyOverride : Bool
deriving DecidableEq

/-- The `switch` over `agps_notify_type`. -/
def notifyFlags (type : BitVec 32) : NotifyFlags :=
  if type = 1 then ⟨true, false, false⟩
  else if type = 2 ∨ type = 3 then ⟨true, true, false⟩
  else if type = 4 then ⟨false, false, true⟩
  else ⟨false, false, false⟩

/-- A callback of the framework, with its arguments. -/
inductive FrameworkCall
  | location (location : Binary)
  | status (status : Binary)
  | gnssSvStatus (numSvs : Int) (sv : Binary)
  | nmea (timestamp : BitVec 64) (nmea : Option Int) (length : BitVec 32)
  | setCapabilities (capabilities : Binary)
  | measurement (measurementCount : Nat) (data : Binary)
  | navigationMessage (dataLength : Nat) (msg : Binary)
  | gnssMeasurement (measurementCount : Nat) (data : Binary)
  | gnssNavigationMessage (dataLength : Nat) (msg : Binary)
  | acquireWakelock
  | releaseWakelock
  | requestUtcTime
  | agpsDataConn (addr : Binary)
  | agpsReleaseDataConn
  | niNotify (notificationId niType : BitVec 32) (flags : NotifyFlags)
      (requestorId text : Option Int) (requestorIdEncoding textEncoding : BitVec 32)
  | requestSetid (flags : BitVec 32)
  | requestRefloc (flags : BitVec 32)
  | vzwDebug (msgData : List UInt8)

/-- The strings that the worker reads, and the callbacks that it calls. -/
structure Handling where
  reads : List (Option Int)
  calls : List FrameworkCall

/-- A report that is handed on without a string being read. -/
def handOn (call : FrameworkCall) : Handling := ⟨[], [call]⟩

def vzwDebugStringMaxlen : Nat := 200

section Worker

variable (ctx : Context) (buff : List UInt8)

/-- A structure on the stack, behind `get_binary` into it. -/
def onStack (value : Binary) : List UInt8 := value.data ++ ctx.stack.drop value.data.length

/-- Outside of a session no location is reported. -/
def updateLocation (location : Binary) : Handling :=
  if ctx.started then handOn (.location location) else ⟨[], []⟩

def updateGpsStatus (status : Binary) : Handling := handOn (.status status)

def updateGpsSv (sv : Binary) : Handling :=
  let numSvs := int32LE (window (onStack ctx sv) 0 4)
  handOn (.gnssSvStatus (if ctx.gnssMaxSvs < numSvs then ctx.gnssMaxSvs else numSvs) sv)

def updateNmea (timestamp : BitVec 64) (nmea : Option Int) (length : BitVec 32) : Handling :=
  handOn (.nmea timestamp nmea length)

def updateGpsCapabilities (capabilities : Binary) : Handling :=
  handOn (.setCapabilities capabilities)

def updateGpsMeasurements (data : Binary) : Handling :=
  handOn (.measurement (fromLE (window (onStack ctx data) 0 8)) data)

def updateGpsNavigation (msg : Binary) : Handling :=
  handOn (.navigationMessage (fromLE (window (onStack ctx msg) 8 8)) msg)

def updateGnssMeasurements (data : Binary) : Handling :=
  handOn (.gnssMeasurement (fromLE (window (onStack ctx data) 0 8)) data)

/-- The data stays where the pointer in the message points. -/
def updateGnssNavigation (msg : Binary) : Handling :=
  handOn (.gnssNavigationMessage (fromLE (window (onStack ctx msg) 24 8)) msg)

/-- The strings are copied into arrays of the notification. -/
def requestNiNotify (sessionId niType type : BitVec 32) (requestorId clientName : Option Int)
    (requestorIdEncoding clientNameEncoding : BitVec 32) : Handling :=
  ⟨[requestorId, clientName], [.niNotify sessionId niType (notifyFlags type) requestorId
    clientName requestorIdEncoding clientNameEncoding]⟩

def requestSetId (flags : BitVec 32) : Handling :=
  ⟨[], if ctx.agpsrilCbs then [.requestSetid flags] else []⟩

def requestRefLoc (flags : BitVec 32) : Handling :=
  ⟨[], if ctx.agpsrilCbs then [.requestRefloc flags] else []⟩

/-- `strlen` reads the string first; behind `NULL` there is nothing. -/
def outputVzwDebug : Option Int → Handling
  | none => ⟨[none], []⟩
  | some str =>
      let len := (cString buff str).bytes.length + 1
      let len := if vzwDebugStringMaxlen < len then vzwDebugStringMaxlen else len
      ⟨[some str], if ctx.vzwDebugCbs then [.vzwDebug (window buff str.toNat len)] else []⟩

/-- `gpshal_mnl2hal_interface`. What `update_mnld_reboot` sends to the daemon is left to the
session. -/
def gpshalMnl2halInterface : (Mnl2hal (Option Int) fun _ => Binary) → Handling
  | .mnldReboot => ⟨[], []⟩
  | .location location => updateLocation ctx location
  | .gpsStatus status => updateGpsStatus status
  | .gpsSv sv => updateGpsSv ctx sv
  | .nmea timestamp nmea length => updateNmea timestamp nmea length
  | .gpsCapabilities capabilities => updateGpsCapabilities capabilities
  | .gpsMeasurements data => updateGpsMeasurements ctx data
  | .gpsNavigation msg => updateGpsNavigation ctx msg
  | .gnssMeasurements data => updateGnssMeasurements ctx data
  | .gnssNavigation msg => updateGnssNavigation ctx msg
  | .requestWakelock => handOn .acquireWakelock
  | .releaseWakelock => handOn .releaseWakelock
  | .requestUtcTime => handOn .requestUtcTime
  | .requestDataConn addr => handOn (.agpsDataConn addr)
  | .releaseDataConn => handOn .agpsReleaseDataConn
  | .requestNiNotify sessionId niType type requestorId clientName requestorIdEncoding
      clientNameEncoding =>
      requestNiNotify sessionId niType type requestorId clientName requestorIdEncoding
        clientNameEncoding
  | .requestSetId flags => requestSetId ctx flags
  | .requestRefLoc flags => requestRefLoc ctx flags
  | .vzwDebugScreenOutput str => outputVzwDebug ctx buff str

/-- `mnl2hal_hdlr` with a datagram; an empty one is an error. -/
def onDatagram (address : BitVec 64) (reports : LocationReports) (datagram : Datagram) :
    Got (Outcome (Mnl2hal (Option Int) fun _ => Binary) × LocationReports) :=
  if datagram.bytes = [] then
    ⟨(⟨[], -1⟩, reports), received buffSize datagram.bytes, []⟩
  else (mnl2halHdlr address (fun _ => true) reports).call (received buffSize datagram.bytes)

end Worker

section Property

variable (ctx : Context) (datagram buff : List UInt8) (copied : List (Int × Int))

/-- A string that begins and ends in the buffer. -/
def TextReceived (text : Option Int) : Prop :=
  ∃ pointer, text = some pointer ∧ TextInside buff pointer

/-- A structure that was filled, and from the datagram. -/
def FilledFrom (size : Nat) (value : Binary) : Prop :=
  value.len.toInt = size ∧ ∀ copy ∈ copied, copy.1 + copy.2 ≤ datagram.length

/-- The arguments describe data in the message, or in the structure that it was copied into. -/
def FrameworkCall.Inside : FrameworkCall → Prop
  | .location fix => FilledFrom datagram copied gpsLocation.size fix
  | .status value => FilledFrom datagram copied Layout.int.size value
  | .gnssSvStatus numSvs sv =>
      FilledFrom datagram copied gnssSvInfo.size sv ∧ 0 ≤ numSvs ∧ numSvs ≤ ctx.gnssMaxSvs ∧
        numSvs ≤ 64
  | .nmea _ text length =>
      ∃ pointer, text = some pointer ∧ TextInside buff pointer ∧ 0 ≤ length.toInt ∧
        length.toInt ≤ (cString buff pointer).bytes.length
  | .setCapabilities capabilities => FilledFrom datagram copied Layout.int.size capabilities
  | .measurement measurementCount data =>
      FilledFrom datagram copied gpsData.size data ∧ measurementCount ≤ 32
  | .navigationMessage dataLength msg =>
      FilledFrom datagram copied gpsNavMsg.size msg ∧ dataLength ≤ 40
  | .gnssMeasurement measurementCount data =>
      FilledFrom datagram copied gnssData.size data ∧ measurementCount ≤ 64
  -- no byte behind a pointer of the daemon is in the message
  | .gnssNavigationMessage dataLength msg =>
      FilledFrom datagram copied gnssNavMsg.size msg ∧ dataLength = 0
  | .agpsDataConn addr => FilledFrom datagram copied sockaddrStorage.size addr
  | .niNotify _ _ _ requestorId text _ _ => TextReceived buff requestorId ∧ TextReceived buff text
  | .vzwDebug msgData => msgData.length ≤ vzwDebugStringMaxlen
  | .acquireWakelock | .releaseWakelock | .requestUtcTime | .agpsReleaseDataConn
  | .requestSetid _ | .requestRefloc _ => True

/-- Every string that is read is there, and every call describes data of the message. -/
structure Handling.Inside (handling : Handling) : Prop where
  reads : ∀ text ∈ handling.reads, TextReceived buff text
  calls : ∀ call ∈ handling.calls, call.Inside ctx datagram buff copied

end Property

/-- What the worker makes of a report is in the message, in the buffer that the report leaves. -/
def Handled (ctx : Context) (bytes : List UInt8)
    (got : Got (Mnl2hal (Option Int) fun _ => Binary)) : Prop :=
  (gpshalMnl2halInterface ctx got.cursor.buff got.value).Inside ctx bytes got.cursor.buff
    (copies got.accesses)

/-- What the worker reads and hands on for a datagram is in the message. -/
def ReportSafe (ctx : Context) (address : BitVec 64) (reports : LocationReports)
    (datagram : Datagram) : Prop :=
  let got := onDatagram address reports datagram
  ∀ report ∈ got.value.1.calls, Handled ctx datagram.bytes ⟨report, got.cursor, got.accesses⟩

end Connectivity.GpsHal
