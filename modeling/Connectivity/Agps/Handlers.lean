import Connectivity.Agps.Messages

set_option autoImplicit false

/- `mnl2agps_hdlr` of agps2mnl_interface.c and `agps2mnl_hdlr` of mnl2agps_interface.c. A
text is where `get_string` found it, and a structure what `get_binary` copied into it. The
interface is given by the types whose callback is set. -/
namespace Connectivity.Agps

open DataCoder

/-- The calls of the callback of `type`, if it is set. -/
def invoke {α : Type} (interface : MnlAgpsType → Bool) (type : MnlAgpsType) (call : α) :
    List α :=
  if interface type then [call] else []

def mnl2agpsArm (interface : MnlAgpsType → Bool) (type : MnlAgpsType) :
    Get (List (Mnl2agps (Option Int))) :=
  match type with
  | .mnlReboot => return invoke interface type .mnlReboot
  | .agpsOpenGpsDone => return invoke interface type .openGpsDone
  | .agpsCloseGpsDone => return invoke interface type .closeGpsDone
  | .agpsResetGpsDone => return invoke interface type .resetGpsDone
  | .gpsInit => return invoke interface type .gpsInit
  | .gpsCleanup => return invoke interface type .gpsCleanup
  | .setServer => do
      let serverType ← getInt
      let hostname ← getString
      let port ← getInt
      return invoke interface type (.setServer serverType hostname port)
  | .deleteAidingData => do
      let flags ← getInt
      return invoke interface type (.deleteAidingData flags)
  | .gpsOpen => do
      let assistReq ← getInt
      return invoke interface type (.gpsOpen assistReq)
  | .gpsClose => return invoke interface type .gpsClose
  | .dataConnOpen => do
      let apn ← getString
      return invoke interface type (.dataConnOpen apn)
  | .dataConnOpenIpType => do
      let apn ← getString
      let ipType ← getInt
      return invoke interface type (.dataConnOpenIpType apn ipType)
  | .installCertificates => do
      let index ← getInt
      let total ← getInt
      let data ← getBinary maxBuffSize
      return invoke interface type (.installCertificates index total data)
  | .revokeCertificates => do
      let data ← getBinary maxBuffSize
      return invoke interface type (.revokeCertificates data)
  | .dataConnFailed => return invoke interface type .dataConnFailed
  | .dataConnClosed => return invoke interface type .dataConnClosed
  | .niMessage => do
      let msg ← getBinary 1024
      return invoke interface type (.niMessage msg)
  | .niRespond => do
      let sessionId ← getInt
      let userResponse ← getInt
      return invoke interface type (.niRespond sessionId userResponse)
  | .setRefLoc => do
      let locType ← getInt
      let mcc ← getInt
      let mnc ← getInt
      let lac ← getInt
      let cid ← getInt
      return invoke interface type (.setRefLoc locType mcc mnc lac cid)
  | .setSetId => do
      let idType ← getInt
      let setid ← getString
      return invoke interface type (.setSetId idType setid)
  | .updateNetworkState => do
      let connected ← getInt
      let networkType ← getInt
      let roaming ← getInt
      let extraInfo ← getString
      return invoke interface type (.updateNetworkState connected networkType roaming extraInfo)
  | .updateNetworkAvailability => do
      let available ← getInt
      let apn ← getString
      return invoke interface type (.updateNetworkAvailability available apn)
  | .mnl2agpsPmtk => do
      let text ← getString
      return invoke interface type (.pmtk text)
  | .rawDbg => do
      let enabled ← getInt
      return invoke interface type (.rawDbg enabled)
  | .reaiding => return invoke interface type .reaidingReq
  | .locationSync =>
      if interface type then do
        let lat ← getDouble
        let lng ← getDouble
        let acc ← getInt
        let altValid ← getByte
        let alt ← getFloat
        let sourceValid ← getByte
        let sourceGnss ← getByte
        let sourceNlp ← getByte
        let sourceSensor ← getByte
        return [.locationSync lat lng acc (altValid != 0) alt (sourceValid != 0) (sourceGnss != 0)
          (sourceNlp != 0) (sourceSensor != 0)]
      else return []
  | .setPositionMode =>
      if interface type then do
        let posMode ← getInt
        return [.setPositionMode posMode]
      else return []
  | _ => return []

/-- The version is only logged. -/
def mnl2agpsHdlr (interface : MnlAgpsType → Bool) : Get (List (Mnl2agps (Option Int))) := do
  let _version ← getInt
  let type ← getInt
  match MnlAgpsType.ofInt type with
  | some type => mnl2agpsArm interface type
  | none => return []

/-- The callbacks for LPPe assistance data. -/
inductive LppeAssist
  | commonIono
  | commonTrop
  | commonAlt
  | commonSolar
  | commonCcp
  | genericCcp
  | genericDm
deriving DecidableEq

/-- The callbacks of `agps2mnl_interface`. -/
inductive Agps2mnlCall (τ : Type)
  | message (message : Agps2mnl τ fun _ => Binary)
  | agpsSettingsSync (settings : List UInt8)
  | vzwDebugScreenOutput (str : τ)
  | lppe (assist : LppeAssist) (data : Int) (len : BitVec 32)

/-- The number that is left of an `int` in a `char`. -/
def narrowed (value : BitVec 32) : UInt8 := .ofBitVec (value.setWidth 8)

/-- `mnl_agps_agps_settings`, field by field. -/
def getSettings : Nat → Get (List UInt8)
  | 0 => return []
  | fields + 1 => do
      let field ← getInt
      let rest ← getSettings fields
      return narrowed field :: rest

/-- The callback is given `buff+offset` and the length that the message names. -/
def lppeArm (interface : MnlAgpsType → Bool) (type : MnlAgpsType) (assist : LppeAssist) :
    Get (List (Agps2mnlCall (Option Int))) :=
  if interface type then do
    let lppeLen ← getInt
    let c ← cursor
    return [.lppe assist c.offset lppeLen]
  else return []

def agps2mnlArm (interface : MnlAgpsType → Bool) (type : MnlAgpsType) :
    Get (List (Agps2mnlCall (Option Int))) :=
  match type with
  | .agpsReboot => return invoke interface type (.message .agpsReboot)
  | .agpsOpenGpsReq => do
      let showGpsIcon ← getInt
      return invoke interface type (.message (.agpsOpenGpsReq showGpsIcon))
  | .agpsCloseGpsReq => return invoke interface type (.message .agpsCloseGpsReq)
  | .agpsResetGpsReq => do
      let flags ← getInt
      return invoke interface type (.message (.agpsResetGpsReq flags))
  | .agpsSessionDone => return invoke interface type (.message .agpsSessionDone)
  | .niNotify => do
      let sessionId ← getInt
      let notifyType ← getInt
      let requestorId ← getString
      let clientName ← getString
      let niType ← getInt
      return invoke interface type
        (.message (.niNotify sessionId niType notifyType requestorId clientName))
  | .niNotify2 => do
      let sessionId ← getInt
      let notifyType ← getInt
      let requestorId ← getString
      let clientName ← getString
      let requestorIdEncoding ← getInt
      let clientNameEncoding ← getInt
      let niType ← getInt
      return invoke interface type
        (.message (.niNotify2 sessionId niType notifyType requestorId clientName
          requestorIdEncoding clientNameEncoding))
  | .dataConnReq => do
      let ipaddr ← getInt
      let isEmergency ← getInt
      return invoke interface type (.message (.dataConnReq ipaddr isEmergency))
  | .dataConnReq2 => do
      let addr ← getBinary sizeofSockaddrStorage
      let isEmergency ← getInt
      return invoke interface type (.message (.dataConnReq2 addr isEmergency))
  | .dataConnRelease => return invoke interface type (.message .dataConnRelease)
  | .setIdReq => do
      let flags ← getInt
      return invoke interface type (.message (.setIdReq flags))
  | .refLocReq => do
      let flags ← getInt
      return invoke interface type (.message (.refLocReq flags))
  | .agps2mnlPmtk => do
      let text ← getString
      return invoke interface type (.message (.pmtk text))
  | .gpevt => do
      let event ← getInt
      return invoke interface type (.message (.gpevt event))
  | .agpsLoc => do
      let location ← getBinary sizeofAgpsLocation
      return invoke interface type (.message (.agpsLocation location))
  | .settingsSync => do
      let settings ← getSettings 10
      return invoke interface type (.agpsSettingsSync settings)
  | .vzwDebugScreenOutput => do
      let str ← getString
      return invoke interface type (.vzwDebugScreenOutput str)
  | .lppeAssistCommonIono => lppeArm interface type .commonIono
  | .lppeAssistCommonTrop => lppeArm interface type .commonTrop
  | .lppeAssistCommonAlt => lppeArm interface type .commonAlt
  | .lppeAssistCommonSolar => lppeArm interface type .commonSolar
  | .lppeAssistCommonCcp => lppeArm interface type .commonCcp
  | .lppeAssistGenericCcp => lppeArm interface type .genericCcp
  | .lppeAssistGenericDm => lppeArm interface type .genericDm
  | _ => return []

def agps2mnlHdlr (interface : MnlAgpsType → Bool) :
    Get (List (Agps2mnlCall (Option Int))) := do
  let _version ← getInt
  let type ← getInt
  match MnlAgpsType.ofInt type with
  | some type => agps2mnlArm interface type
  | none => return []

/-- The handlers look the arm up by the type. -/
theorem mnl2agpsHdlr_elim (interface : MnlAgpsType → Bool) :
    mnl2agpsHdlr interface = (getInt >>= fun _ => getInt >>= fun type =>
      (MnlAgpsType.ofInt type).elim (return []) (mnl2agpsArm interface)) := by
  rw [mnl2agpsHdlr]
  congr
  funext _
  congr
  funext type
  cases MnlAgpsType.ofInt type <;> rfl

theorem agps2mnlHdlr_elim (interface : MnlAgpsType → Bool) :
    agps2mnlHdlr interface = (getInt >>= fun _ => getInt >>= fun type =>
      (MnlAgpsType.ofInt type).elim (return []) (agps2mnlArm interface)) := by
  rw [agps2mnlHdlr]
  congr
  funext _
  congr
  funext type
  cases MnlAgpsType.ofInt type <;> rfl

end Connectivity.Agps
