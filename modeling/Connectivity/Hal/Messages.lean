import Connectivity.DataCoder.Datagram

set_option autoImplicit false

/- hal_mnl_interface_common.h, and the message functions of gps_hal/src/hal2mnl_interface.c
and mnld_entity/src/mnl2hal_interface.c. -/
namespace Connectivity.Hal

open DataCoder

/-- `HAL_MNL_BUFF_SIZE`. -/
def buffSize : Nat := 16 * 1024

/-- `HAL_MNL_INTERFACE_VERSION`. -/
def interfaceVersion : BitVec 32 := 1

/-- `hal2mnl_cmd`. -/
inductive Hal2mnlCmd
  | halReboot
  | gpsInit
  | gpsStart
  | gpsStop
  | gpsCleanup
  | gpsInjectTime
  | gpsInjectLocation
  | gpsDeleteAidingData
  | gpsSetPositionMode
  | dataConnOpen
  | dataConnOpenWithApnIpType
  | dataConnClosed
  | dataConnFailed
  | setServer
  | setRefLocation
  | setId
  | niMessage
  | niRespond
  | updateNetworkState
  | updateNetworkAvailability
  | gpsMeasurement
  | gpsNavigation
  | vzwDebug
deriving DecidableEq

namespace Hal2mnlCmd

def code : Hal2mnlCmd → Nat
  | halReboot => 0
  | gpsInit => 101
  | gpsStart => 102
  | gpsStop => 103
  | gpsCleanup => 104
  | gpsInjectTime => 105
  | gpsInjectLocation => 106
  | gpsDeleteAidingData => 107
  | gpsSetPositionMode => 108
  | dataConnOpen => 201
  | dataConnOpenWithApnIpType => 202
  | dataConnClosed => 203
  | dataConnFailed => 204
  | setServer => 301
  | setRefLocation => 302
  | setId => 303
  | niMessage => 401
  | niRespond => 402
  | updateNetworkState => 501
  | updateNetworkAvailability => 502
  | gpsMeasurement => 601
  | gpsNavigation => 602
  | vzwDebug => 603

def all : List Hal2mnlCmd :=
  [halReboot, gpsInit, gpsStart, gpsStop, gpsCleanup, gpsInjectTime, gpsInjectLocation,
    gpsDeleteAidingData, gpsSetPositionMode, dataConnOpen, dataConnOpenWithApnIpType,
    dataConnClosed, dataConnFailed, setServer, setRefLocation, setId, niMessage, niRespond,
    updateNetworkState, updateNetworkAvailability, gpsMeasurement, gpsNavigation, vzwDebug]

/-- The command that a received number is. -/
def ofInt (n : BitVec 32) : Option Hal2mnlCmd := all.find? fun cmd => cmd.code = n.toNat

def toInt (cmd : Hal2mnlCmd) : BitVec 32 := .ofNat 32 cmd.code

theorem ofInt_toInt (cmd : Hal2mnlCmd) : ofInt cmd.toInt = some cmd := by
  cases cmd <;> rfl

end Hal2mnlCmd

/-- `mnl2hal_cmd`. -/
inductive Mnl2halCmd
  | mnldReboot
  | location
  | gpsStatus
  | gpsSv
  | nmea
  | gpsCapabilities
  | gpsMeasurements
  | gpsNavigation
  | gnssMeasurements
  | gnssNavigation
  | requestWakelock
  | releaseWakelock
  | requestUtcTime
  | requestDataConn
  | releaseDataConn
  | requestNiNotify
  | requestSetId
  | requestRefLoc
  | vzwDebugOutput
deriving DecidableEq

namespace Mnl2halCmd

def code : Mnl2halCmd → Nat
  | mnldReboot => 1
  | location => 101
  | gpsStatus => 102
  | gpsSv => 103
  | nmea => 104
  | gpsCapabilities => 105
  | gpsMeasurements => 106
  | gpsNavigation => 107
  | gnssMeasurements => 108
  | gnssNavigation => 109
  | requestWakelock => 201
  | releaseWakelock => 202
  | requestUtcTime => 301
  | requestDataConn => 302
  | releaseDataConn => 303
  | requestNiNotify => 304
  | requestSetId => 305
  | requestRefLoc => 306
  | vzwDebugOutput => 307

def all : List Mnl2halCmd :=
  [mnldReboot, location, gpsStatus, gpsSv, nmea, gpsCapabilities, gpsMeasurements,
    gpsNavigation, gnssMeasurements, gnssNavigation, requestWakelock, releaseWakelock,
    requestUtcTime, requestDataConn, releaseDataConn, requestNiNotify, requestSetId,
    requestRefLoc, vzwDebugOutput]

def ofInt (n : BitVec 32) : Option Mnl2halCmd := all.find? fun cmd => cmd.code = n.toNat

def toInt (cmd : Mnl2halCmd) : BitVec 32 := .ofNat 32 cmd.code

theorem ofInt_toInt (cmd : Mnl2halCmd) : ofInt cmd.toInt = some cmd := by
  cases cmd <;> rfl

end Mnl2halCmd

/-- The size of a C type and its alignment. -/
structure Layout where
  size : Nat
  align : Nat

namespace Layout

/-- A number or a pointer, aligned to its own size. -/
def scalar (size : Nat) : Layout := ⟨size, size⟩

def array (count : Nat) (elem : Layout) : Layout := ⟨count * elem.size, elem.align⟩

def aligned (offset align : Nat) : Nat := (offset + align - 1) / align * align

/-- Each member stands behind the one before it, at a multiple of its alignment. -/
def record (members : List Layout) : Layout :=
  let whole := members.foldl
    (fun (front member : Layout) => ⟨aligned front.size member.align + member.size,
      max front.align member.align⟩) (⟨0, 1⟩ : Layout)
  ⟨aligned whole.size whole.align, whole.align⟩

def char : Layout := scalar 1

def short : Layout := scalar 2

def int : Layout := scalar 4

/-- `int64_t`, `double`, `size_t` and pointers. -/
def long : Layout := scalar 8

def float : Layout := scalar 4

end Layout

open Layout

def gpsLocation : Layout := record [int, long, long, long, float, float, float, long]

def gnssSv : Layout := record [short, char, float, float, float, char]

def gnssSvInfo : Layout := record [int, array 64 gnssSv]

def gpsClock : Layout :=
  record [short, short, char, long, long, long, long, long, long, long]

def gnssClock : Layout :=
  record [short, short, long, long, long, long, long, long, long, int]

def gpsMeasurement : Layout :=
  record [int, char, long, short, long, long, long, long, long, short, long, long, long, long,
    long, long, float, long, long, long, char, int, short, long, long, char, long, long, long,
    long, long, char]

def gnssMeasurement : Layout :=
  record [int, short, char, long, int, long, long, long, long, long, short, long, long, float,
    long, long, long, char, long]

def gpsData : Layout := record [long, array 32 gpsMeasurement, gpsClock]

def gnssData : Layout := record [long, array 64 gnssMeasurement, gnssClock]

def gpsNavMsg : Layout := record [char, char, short, short, short, long, array 40 char]

/-- The data of the message is a pointer here. -/
def gnssNavMsg : Layout := record [long, short, short, short, short, short, long, long]

/-- `struct sockaddr_storage`. -/
def sockaddrStorage : Layout := ⟨128, 8⟩

/-- The requests of the HAL to mnld. Each function of hal2mnl_interface.c and the callback of
`hal2mnl_interface` for it take the same arguments; texts are of the type `τ`. -/
inductive Hal2mnl (τ : Type)
  | halReboot
  | gpsInit
  | gpsStart
  | gpsStop
  | gpsCleanup
  | gpsInjectTime (time timeReference : BitVec 64) (uncertainty : BitVec 32)
  | gpsInjectLocation (lat lng : BitVec 64) (acc : BitVec 32)
  | gpsDeleteAidingData (flags : BitVec 32)
  | gpsSetPositionMode (mode recurrence minInterval preferredAcc preferredTime : BitVec 32)
  | dataConnOpen (apn : τ)
  | dataConnOpenWithApnIpType (apn : τ) (ipType : BitVec 32)
  | dataConnClosed
  | dataConnFailed
  | setServer (type : BitVec 32) (hostname : τ) (port : BitVec 32)
  | setRefLocation (type mcc mnc lac cid : BitVec 32)
  | setId (type : BitVec 32) (setid : τ)
  | niMessage (msg : Binary)
  | niRespond (notifId userResponse : BitVec 32)
  | updateNetworkState (connected type roaming : BitVec 32) (extraInfo : τ)
  | updateNetworkAvailability (available : BitVec 32) (apn : τ)
  | setGpsMeasurement (enabled : Bool)
  | setGpsNavigation (enabled : Bool)
  | setVzwDebug (enabled : Bool)

/-- The reports of mnld to the HAL: the functions of mnl2hal_interface.c and the callbacks of
`mnl2hal_interface`. Structures of a size are of the type `image`. -/
inductive Mnl2hal (τ : Type) (image : Nat → Type)
  | mnldReboot
  | location (location : image gpsLocation.size)
  | gpsStatus (status : image int.size)
  | gpsSv (sv : image gnssSvInfo.size)
  | nmea (timestamp : BitVec 64) (nmea : τ) (length : BitVec 32)
  | gpsCapabilities (capabilities : image int.size)
  | gpsMeasurements (data : image gpsData.size)
  | gpsNavigation (msg : image gpsNavMsg.size)
  | gnssMeasurements (data : image gnssData.size)
  | gnssNavigation (msg : image gnssNavMsg.size)
  | requestWakelock
  | releaseWakelock
  | requestUtcTime
  | requestDataConn (addr : image sockaddrStorage.size)
  | releaseDataConn
  | requestNiNotify (sessionId niType type : BitVec 32) (requestorId clientName : τ)
      (requestorIdEncoding clientNameEncoding : BitVec 32)
  | requestSetId (flags : BitVec 32)
  | requestRefLoc (flags : BitVec 32)
  | vzwDebugScreenOutput (str : τ)

/-- A `bool` that is handed over as an `int`. -/
def boolInt (value : Bool) : BitVec 32 := if value then 1 else 0

namespace Hal2mnl

variable {τ : Type}

def cmd : Hal2mnl τ → Hal2mnlCmd
  | halReboot => .halReboot
  | gpsInit => .gpsInit
  | gpsStart => .gpsStart
  | gpsStop => .gpsStop
  | gpsCleanup => .gpsCleanup
  | gpsInjectTime .. => .gpsInjectTime
  | gpsInjectLocation .. => .gpsInjectLocation
  | gpsDeleteAidingData _ => .gpsDeleteAidingData
  | gpsSetPositionMode .. => .gpsSetPositionMode
  | dataConnOpen _ => .dataConnOpen
  | dataConnOpenWithApnIpType .. => .dataConnOpenWithApnIpType
  | dataConnClosed => .dataConnClosed
  | dataConnFailed => .dataConnFailed
  | setServer .. => .setServer
  | setRefLocation .. => .setRefLocation
  | setId .. => .setId
  | niMessage _ => .niMessage
  | niRespond .. => .niRespond
  | updateNetworkState .. => .updateNetworkState
  | updateNetworkAvailability .. => .updateNetworkAvailability
  | setGpsMeasurement _ => .gpsMeasurement
  | setGpsNavigation _ => .gpsNavigation
  | setVzwDebug _ => .vzwDebug

/-- What the function puts behind the version and the command. -/
def body : Hal2mnl (Option CString) → List (DataCoder.Field (Option CString))
  | gpsInjectTime time timeReference uncertainty =>
      [.long time, .long timeReference, .int uncertainty]
  | gpsInjectLocation lat lng acc => [.double lat, .double lng, .float acc]
  | gpsDeleteAidingData flags => [.int flags]
  | gpsSetPositionMode mode recurrence minInterval preferredAcc preferredTime =>
      [.int mode, .int recurrence, .int minInterval, .int preferredAcc, .int preferredTime]
  | dataConnOpen apn => [.string apn]
  | dataConnOpenWithApnIpType apn ipType => [.string apn, .int ipType]
  | setServer type hostname port => [.int type, .string hostname, .int port]
  | setRefLocation type mcc mnc lac cid =>
      [.int type, .int mcc, .int mnc, .int lac, .int cid]
  | setId type setid => [.int type, .string setid]
  | niMessage msg => [.binary msg]
  | niRespond notifId userResponse => [.int notifId, .int userResponse]
  | updateNetworkState connected type roaming extraInfo =>
      [.int connected, .int type, .int roaming, .string extraInfo]
  | updateNetworkAvailability available apn => [.int available, .string apn]
  | setGpsMeasurement enabled => [.int (boolInt enabled)]
  | setGpsNavigation enabled => [.int (boolInt enabled)]
  | setVzwDebug enabled => [.int (boolInt enabled)]
  | halReboot | gpsInit | gpsStart | gpsStop | gpsCleanup | dataConnClosed | dataConnFailed => []

def fields (message : Hal2mnl (Option CString)) : List (DataCoder.Field (Option CString)) :=
  .int interfaceVersion :: .int message.cmd.toInt :: message.body

end Hal2mnl

namespace Mnl2hal

variable {τ : Type} {image : Nat → Type}

def cmd : Mnl2hal τ image → Mnl2halCmd
  | mnldReboot => .mnldReboot
  | location _ => .location
  | gpsStatus _ => .gpsStatus
  | gpsSv _ => .gpsSv
  | nmea .. => .nmea
  | gpsCapabilities _ => .gpsCapabilities
  | gpsMeasurements _ => .gpsMeasurements
  | gpsNavigation _ => .gpsNavigation
  | gnssMeasurements _ => .gnssMeasurements
  | gnssNavigation _ => .gnssNavigation
  | requestWakelock => .requestWakelock
  | releaseWakelock => .releaseWakelock
  | requestUtcTime => .requestUtcTime
  | requestDataConn _ => .requestDataConn
  | releaseDataConn => .releaseDataConn
  | requestNiNotify .. => .requestNiNotify
  | requestSetId _ => .requestSetId
  | requestRefLoc _ => .requestRefLoc
  | vzwDebugScreenOutput _ => .vzwDebugOutput

def body : Mnl2hal (Option CString) Image → List (DataCoder.Field (Option CString))
  | location fix => [.binary fix.binary]
  | gpsStatus status => [.binary status.binary]
  | gpsSv sv => [.binary sv.binary]
  | nmea timestamp text length => [.long timestamp, .string text, .int length]
  | gpsCapabilities capabilities => [.binary capabilities.binary]
  | gpsMeasurements data => [.binary data.binary]
  | gpsNavigation msg => [.binary msg.binary]
  | gnssMeasurements data => [.binary data.binary]
  | gnssNavigation msg => [.binary msg.binary]
  | requestDataConn addr => [.binary addr.binary]
  | requestNiNotify sessionId niType type requestorId clientName requestorIdEncoding
      clientNameEncoding =>
      [.int sessionId, .int type, .string requestorId, .string clientName,
        .int requestorIdEncoding, .int clientNameEncoding, .int niType]
  | requestSetId flags => [.int flags]
  | requestRefLoc flags => [.int flags]
  | vzwDebugScreenOutput str => [.string str]
  | mnldReboot | requestWakelock | releaseWakelock | requestUtcTime | releaseDataConn => []

def fields (message : Mnl2hal (Option CString) Image) : List (DataCoder.Field (Option CString)) :=
  .int interfaceVersion :: .int message.cmd.toInt :: message.body

end Mnl2hal

end Connectivity.Hal
