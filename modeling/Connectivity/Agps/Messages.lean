import Connectivity.DataCoder.Datagram

set_option autoImplicit false

/- mnl_agps_interface/inc/mnl_agps_interface.h, and the message functions of
mnl_agps_interface/src/mnl2agps_interface.c and agps2mnl_interface.c. -/
namespace Connectivity.Agps

open DataCoder

/-- `MNL_AGPS_MAX_BUFF_SIZE`. -/
def maxBuffSize : Nat := 64 * 1024

/-- `MNL_AGPS_INTERFACE_VERSION`. -/
def interfaceVersion : BitVec 32 := 1

/-- `mnl_agps_type`. -/
inductive MnlAgpsType
  | mnlReboot
  | agpsOpenGpsDone
  | agpsCloseGpsDone
  | agpsResetGpsDone
  | gpsInit
  | gpsCleanup
  | deleteAidingData
  | gpsOpen
  | gpsClose
  | dataConnOpen
  | dataConnFailed
  | dataConnClosed
  | niMessage
  | niRespond
  | setRefLoc
  | setSetId
  | setServer
  | updateNetworkState
  | updateNetworkAvailability
  | dataConnOpenIpType
  | installCertificates
  | revokeCertificates
  | mnl2agpsPmtk
  | rawDbg
  | reaiding
  | locationSync
  | settingsAck
  | vzwDebugScreenEnable
  | setServerExtension
  | updateConfiguration
  | suplHostIp
  | tc10LppSupport
  | lppeAssistDataReq
  | lppeAssistDataProvideAck
  | setPositionMode
  | agpsReboot
  | agpsOpenGpsReq
  | agpsCloseGpsReq
  | agpsResetGpsReq
  | agpsSessionDone
  | niNotify
  | dataConnReq
  | dataConnRelease
  | setIdReq
  | refLocReq
  | agpsLoc
  | niNotify2
  | dataConnReq2
  | suplDnsReq
  | agps2mnlPmtk
  | gpevt
  | settingsSync
  | vzwDebugScreenOutput
  | cellLocation
  | lppeAssistCommonIono
  | lppeAssistCommonTrop
  | lppeAssistCommonAlt
  | lppeAssistCommonSolar
  | lppeAssistCommonCcp
  | lppeAssistGenericCcp
  | lppeAssistGenericDm
deriving DecidableEq

namespace MnlAgpsType

def code : MnlAgpsType → Nat
  | mnlReboot => 100
  | agpsOpenGpsDone => 110
  | agpsCloseGpsDone => 111
  | agpsResetGpsDone => 112
  | gpsInit => 120
  | gpsCleanup => 121
  | deleteAidingData => 122
  | gpsOpen => 123
  | gpsClose => 124
  | dataConnOpen => 125
  | dataConnFailed => 126
  | dataConnClosed => 127
  | niMessage => 128
  | niRespond => 129
  | setRefLoc => 130
  | setSetId => 131
  | setServer => 132
  | updateNetworkState => 133
  | updateNetworkAvailability => 134
  | dataConnOpenIpType => 135
  | installCertificates => 136
  | revokeCertificates => 137
  | mnl2agpsPmtk => 150
  | rawDbg => 151
  | reaiding => 152
  | locationSync => 153
  | settingsAck => 154
  | vzwDebugScreenEnable => 155
  | setServerExtension => 156
  | updateConfiguration => 157
  | suplHostIp => 158
  | tc10LppSupport => 159
  | lppeAssistDataReq => 160
  | lppeAssistDataProvideAck => 161
  | setPositionMode => 162
  | agpsReboot => 200
  | agpsOpenGpsReq => 210
  | agpsCloseGpsReq => 211
  | agpsResetGpsReq => 212
  | agpsSessionDone => 220
  | niNotify => 230
  | dataConnReq => 231
  | dataConnRelease => 232
  | setIdReq => 233
  | refLocReq => 234
  | agpsLoc => 235
  | niNotify2 => 236
  | dataConnReq2 => 237
  | suplDnsReq => 238
  | agps2mnlPmtk => 250
  | gpevt => 251
  | settingsSync => 252
  | vzwDebugScreenOutput => 253
  | cellLocation => 254
  | lppeAssistCommonIono => 255
  | lppeAssistCommonTrop => 256
  | lppeAssistCommonAlt => 257
  | lppeAssistCommonSolar => 258
  | lppeAssistCommonCcp => 259
  | lppeAssistGenericCcp => 260
  | lppeAssistGenericDm => 261

def all : List MnlAgpsType :=
  [mnlReboot, agpsOpenGpsDone, agpsCloseGpsDone, agpsResetGpsDone, gpsInit, gpsCleanup,
    deleteAidingData, gpsOpen, gpsClose, dataConnOpen, dataConnFailed, dataConnClosed,
    niMessage, niRespond, setRefLoc, setSetId, setServer, updateNetworkState,
    updateNetworkAvailability, dataConnOpenIpType, installCertificates, revokeCertificates,
    mnl2agpsPmtk, rawDbg, reaiding, locationSync, settingsAck, vzwDebugScreenEnable,
    setServerExtension, updateConfiguration, suplHostIp, tc10LppSupport, lppeAssistDataReq,
    lppeAssistDataProvideAck, setPositionMode, agpsReboot, agpsOpenGpsReq, agpsCloseGpsReq,
    agpsResetGpsReq, agpsSessionDone, niNotify, dataConnReq, dataConnRelease, setIdReq,
    refLocReq, agpsLoc, niNotify2, dataConnReq2, suplDnsReq, agps2mnlPmtk, gpevt,
    settingsSync, vzwDebugScreenOutput, cellLocation, lppeAssistCommonIono,
    lppeAssistCommonTrop, lppeAssistCommonAlt, lppeAssistCommonSolar, lppeAssistCommonCcp,
    lppeAssistGenericCcp, lppeAssistGenericDm]

/-- The type that a received number is a code of. -/
def ofInt (n : BitVec 32) : Option MnlAgpsType := all.find? fun t => t.code = n.toNat

def toInt (t : MnlAgpsType) : BitVec 32 := .ofNat 32 t.code

theorem ofInt_toInt (t : MnlAgpsType) : ofInt t.toInt = some t := by
  cases t <;> rfl

end MnlAgpsType

/-- `mnl_agps_gnss_settings`. -/
structure GnssSettings where
  gpsSatelliteSupport : UInt8
  glonassSatelliteSupport : UInt8
  beidouSatelliteSupport : UInt8
  galileoSatelliteSupport : UInt8
deriving DecidableEq

/-- `sizeof(struct sockaddr_storage)`. -/
def sizeofSockaddrStorage : Nat := 128

/-- `sizeof(mnl_agps_agps_location)`. -/
def sizeofAgpsLocation : Nat := 72

/-- The messages of mnld to agpsd. Each function of mnl2agps_interface.c and the callback of
`mnl2agps_interface` for it take the same arguments; texts are of the type `τ`. -/
inductive Mnl2agps (τ : Type)
  | mnlReboot
  | openGpsDone
  | closeGpsDone
  | resetGpsDone
  | gpsInit
  | gpsCleanup
  | setServer (type : BitVec 32) (hostname : τ) (port : BitVec 32)
  | deleteAidingData (flags : BitVec 32)
  | gpsOpen (assistReq : BitVec 32)
  | gpsClose
  | dataConnOpen (apn : τ)
  | dataConnOpenIpType (apn : τ) (ipType : BitVec 32)
  | installCertificates (index total : BitVec 32) (data : Binary)
  | revokeCertificates (data : Binary)
  | dataConnFailed
  | dataConnClosed
  | niMessage (msg : Binary)
  | niRespond (sessionId userResponse : BitVec 32)
  | setRefLoc (type mcc mnc lac cid : BitVec 32)
  | setSetId (type : BitVec 32) (setid : τ)
  | updateNetworkState (connected type roaming : BitVec 32) (extraInfo : τ)
  | updateNetworkAvailability (available : BitVec 32) (apn : τ)
  | pmtk (text : τ)
  | rawDbg (enabled : BitVec 32)
  | reaidingReq
  | locationSync (lat lng : BitVec 64) (acc : BitVec 32) (altValid : Bool) (alt : BitVec 32)
      (sourceValid sourceGnss sourceNlp sourceSensor : Bool)
  | agpsSettingsAck (settings : GnssSettings)
  | vzwDebugScreenEnable (enabled : BitVec 32)
  | lppeAssistDataReq (data : Binary)
  | lppeAssistDataProvideAck (data : Binary)
  | setPositionMode (posMode : BitVec 32)

/-- The messages of agpsd to mnld: the functions of agps2mnl_interface.c, which all have a
callback in `agps2mnl_interface`. Structures of a size are of the type `image`. -/
inductive Agps2mnl (τ : Type) (image : Nat → Type)
  | agpsReboot
  | agpsOpenGpsReq (showGpsIcon : BitVec 32)
  | agpsCloseGpsReq
  | agpsResetGpsReq (flags : BitVec 32)
  | agpsSessionDone
  | niNotify (sessionId niType type : BitVec 32) (requestorId clientName : τ)
  | niNotify2 (sessionId niType type : BitVec 32) (requestorId clientName : τ)
      (requestorIdEncoding clientNameEncoding : BitVec 32)
  | dataConnReq (ipaddr isEmergency : BitVec 32)
  | dataConnReq2 (addr : image sizeofSockaddrStorage) (isEmergency : BitVec 32)
  | dataConnRelease
  | setIdReq (flags : BitVec 32)
  | refLocReq (flags : BitVec 32)
  | pmtk (text : τ)
  | gpevt (type : BitVec 32)
  | agpsLocation (location : image sizeofAgpsLocation)

/-- A `char` that is handed over as an `int`. -/
def promoted (value : UInt8) : BitVec 32 := value.toBitVec.signExtend 32

def boolByte (value : Bool) : UInt8 := if value then 1 else 0

namespace Mnl2agps

variable {τ : Type}

def type : Mnl2agps τ → MnlAgpsType
  | mnlReboot => .mnlReboot
  | openGpsDone => .agpsOpenGpsDone
  | closeGpsDone => .agpsCloseGpsDone
  | resetGpsDone => .agpsResetGpsDone
  | gpsInit => .gpsInit
  | gpsCleanup => .gpsCleanup
  | setServer .. => .setServer
  | deleteAidingData _ => .deleteAidingData
  | gpsOpen _ => .gpsOpen
  | gpsClose => .gpsClose
  | dataConnOpen _ => .dataConnOpen
  | dataConnOpenIpType .. => .dataConnOpenIpType
  | installCertificates .. => .installCertificates
  | revokeCertificates _ => .revokeCertificates
  | dataConnFailed => .dataConnFailed
  | dataConnClosed => .dataConnClosed
  | niMessage _ => .niMessage
  | niRespond .. => .niRespond
  | setRefLoc .. => .setRefLoc
  | setSetId .. => .setSetId
  | updateNetworkState .. => .updateNetworkState
  | updateNetworkAvailability .. => .updateNetworkAvailability
  | pmtk _ => .mnl2agpsPmtk
  | rawDbg _ => .rawDbg
  | reaidingReq => .reaiding
  | locationSync .. => .locationSync
  | agpsSettingsAck _ => .settingsAck
  | vzwDebugScreenEnable _ => .vzwDebugScreenEnable
  | lppeAssistDataReq _ => .lppeAssistDataReq
  | lppeAssistDataProvideAck _ => .lppeAssistDataProvideAck
  | setPositionMode _ => .setPositionMode

/-- What the function puts behind the version and the type. -/
def body : Mnl2agps (Option CString) → List (DataCoder.Field (Option CString))
  | setServer type hostname port => [.int type, .string hostname, .int port]
  | deleteAidingData flags => [.int flags]
  | gpsOpen assistReq => [.int assistReq]
  | dataConnOpen apn => [.string apn]
  | dataConnOpenIpType apn ipType => [.string apn, .int ipType]
  | installCertificates index total data => [.int index, .int total, .binary data]
  | revokeCertificates data => [.binary data]
  | niMessage msg => [.binary msg]
  | niRespond sessionId userResponse => [.int sessionId, .int userResponse]
  | setRefLoc type mcc mnc lac cid => [.int type, .int mcc, .int mnc, .int lac, .int cid]
  | setSetId type setid => [.int type, .string setid]
  | updateNetworkState connected type roaming extraInfo =>
      [.int connected, .int type, .int roaming, .string extraInfo]
  | updateNetworkAvailability available apn => [.int available, .string apn]
  | pmtk text => [.string text]
  | rawDbg enabled => [.int enabled]
  | locationSync lat lng acc altValid alt sourceValid sourceGnss sourceNlp sourceSensor =>
      [.double lat, .double lng, .int acc, .byte (boolByte altValid), .float alt,
        .byte (boolByte sourceValid), .byte (boolByte sourceGnss), .byte (boolByte sourceNlp),
        .byte (boolByte sourceSensor)]
  | agpsSettingsAck settings =>
      [.int (promoted settings.gpsSatelliteSupport),
        .int (promoted settings.glonassSatelliteSupport),
        .int (promoted settings.beidouSatelliteSupport),
        .int (promoted settings.galileoSatelliteSupport)]
  | vzwDebugScreenEnable enabled => [.int enabled]
  | lppeAssistDataReq data => [.binary data]
  | lppeAssistDataProvideAck data => [.binary data]
  | setPositionMode posMode => [.int posMode]
  | mnlReboot | openGpsDone | closeGpsDone | resetGpsDone | gpsInit | gpsCleanup | gpsClose
  | dataConnFailed | dataConnClosed | reaidingReq => []

def fields (message : Mnl2agps (Option CString)) : List (DataCoder.Field (Option CString)) :=
  .int interfaceVersion :: .int message.type.toInt :: message.body

end Mnl2agps

namespace Agps2mnl

variable {τ : Type} {image : Nat → Type}

def type : Agps2mnl τ image → MnlAgpsType
  | agpsReboot => .agpsReboot
  | agpsOpenGpsReq _ => .agpsOpenGpsReq
  | agpsCloseGpsReq => .agpsCloseGpsReq
  | agpsResetGpsReq _ => .agpsResetGpsReq
  | agpsSessionDone => .agpsSessionDone
  | niNotify .. => .niNotify
  | niNotify2 .. => .niNotify2
  | dataConnReq .. => .dataConnReq
  | dataConnReq2 .. => .dataConnReq2
  | dataConnRelease => .dataConnRelease
  | setIdReq _ => .setIdReq
  | refLocReq _ => .refLocReq
  | pmtk _ => .agps2mnlPmtk
  | gpevt _ => .gpevt
  | agpsLocation _ => .agpsLoc

def body : Agps2mnl (Option CString) Image → List (DataCoder.Field (Option CString))
  | agpsOpenGpsReq showGpsIcon => [.int showGpsIcon]
  | agpsResetGpsReq flags => [.int flags]
  | niNotify sessionId niType type requestorId clientName =>
      [.int sessionId, .int type, .string requestorId, .string clientName, .int niType]
  | niNotify2 sessionId niType type requestorId clientName requestorIdEncoding
      clientNameEncoding =>
      [.int sessionId, .int type, .string requestorId, .string clientName,
        .int requestorIdEncoding, .int clientNameEncoding, .int niType]
  | dataConnReq ipaddr isEmergency => [.int ipaddr, .int isEmergency]
  | dataConnReq2 addr isEmergency => [.binary addr.binary, .int isEmergency]
  | setIdReq flags => [.int flags]
  | refLocReq flags => [.int flags]
  | pmtk text => [.string text]
  | gpevt type => [.int type]
  | agpsLocation location => [.binary location.binary]
  | agpsReboot | agpsCloseGpsReq | agpsSessionDone | dataConnRelease => []

def fields (message : Agps2mnl (Option CString) Image) : List (DataCoder.Field (Option CString)) :=
  .int interfaceVersion :: .int message.type.toInt :: message.body

end Agps2mnl

end Connectivity.Agps
