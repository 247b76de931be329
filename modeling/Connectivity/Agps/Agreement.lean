import Connectivity.Agps.Handlers

set_option autoImplicit false

/- When the handler of the other side calls back with what a message function was given. -/
namespace Connectivity.Agps

open DataCoder

namespace Mnl2agps

variable {τ τ' : Type}

def map (f : τ → τ') : Mnl2agps τ → Mnl2agps τ'
  | mnlReboot => mnlReboot
  | openGpsDone => openGpsDone
  | closeGpsDone => closeGpsDone
  | resetGpsDone => resetGpsDone
  | gpsInit => gpsInit
  | gpsCleanup => gpsCleanup
  | setServer type hostname port => setServer type (f hostname) port
  | deleteAidingData flags => deleteAidingData flags
  | gpsOpen assistReq => gpsOpen assistReq
  | gpsClose => gpsClose
  | dataConnOpen apn => dataConnOpen (f apn)
  | dataConnOpenIpType apn ipType => dataConnOpenIpType (f apn) ipType
  | installCertificates index total data => installCertificates index total data
  | revokeCertificates data => revokeCertificates data
  | dataConnFailed => dataConnFailed
  | dataConnClosed => dataConnClosed
  | niMessage msg => niMessage msg
  | niRespond sessionId userResponse => niRespond sessionId userResponse
  | setRefLoc type mcc mnc lac cid => setRefLoc type mcc mnc lac cid
  | setSetId type setid => setSetId type (f setid)
  | updateNetworkState connected type roaming extraInfo =>
      updateNetworkState connected type roaming (f extraInfo)
  | updateNetworkAvailability available apn => updateNetworkAvailability available (f apn)
  | pmtk text => pmtk (f text)
  | rawDbg enabled => rawDbg enabled
  | reaidingReq => reaidingReq
  | locationSync lat lng acc altValid alt sourceValid sourceGnss sourceNlp sourceSensor =>
      locationSync lat lng acc altValid alt sourceValid sourceGnss sourceNlp sourceSensor
  | agpsSettingsAck settings => agpsSettingsAck settings
  | vzwDebugScreenEnable enabled => vzwDebugScreenEnable enabled
  | lppeAssistDataReq data => lppeAssistDataReq data
  | lppeAssistDataProvideAck data => lppeAssistDataProvideAck data
  | setPositionMode posMode => setPositionMode posMode

/-- The handler has an arm for the message, and its array takes all of it. -/
def Handled : Mnl2agps (Option CString) → Prop
  | agpsSettingsAck _ => False
  | vzwDebugScreenEnable _ => False
  | lppeAssistDataReq _ => False
  | lppeAssistDataProvideAck _ => False
  | niMessage msg => msg.len.toInt ≤ 1024
  | _ => True

end Mnl2agps

namespace Agps2mnl

variable {τ τ' : Type} {image image' : Nat → Type}

def map (f : τ → τ') (g : ∀ size, image size → image' size) :
    Agps2mnl τ image → Agps2mnl τ' image'
  | agpsReboot => agpsReboot
  | agpsOpenGpsReq showGpsIcon => agpsOpenGpsReq showGpsIcon
  | agpsCloseGpsReq => agpsCloseGpsReq
  | agpsResetGpsReq flags => agpsResetGpsReq flags
  | agpsSessionDone => agpsSessionDone
  | niNotify sessionId niType type requestorId clientName =>
      niNotify sessionId niType type (f requestorId) (f clientName)
  | niNotify2 sessionId niType type requestorId clientName requestorIdEncoding
      clientNameEncoding =>
      niNotify2 sessionId niType type (f requestorId) (f clientName) requestorIdEncoding
        clientNameEncoding
  | dataConnReq ipaddr isEmergency => dataConnReq ipaddr isEmergency
  | dataConnReq2 addr isEmergency => dataConnReq2 (g _ addr) isEmergency
  | dataConnRelease => dataConnRelease
  | setIdReq flags => setIdReq flags
  | refLocReq flags => refLocReq flags
  | pmtk text => pmtk (f text)
  | gpevt type => gpevt type
  | agpsLocation location => agpsLocation (g _ location)

end Agps2mnl

def Agps2mnlCall.map {τ τ' : Type} (f : τ → τ') : Agps2mnlCall τ → Agps2mnlCall τ'
  | .message sent => .message (sent.map f fun _ copied => copied)
  | .agpsSettingsSync settings => .agpsSettingsSync settings
  | .vzwDebugScreenOutput str => .vzwDebugScreenOutput (f str)
  | .lppe assist data len => .lppe assist data len

/-- What agpsd is called back with, its texts read where the callback finds them. -/
def agpsdCalls (interface : MnlAgpsType → Bool) (bytes : List UInt8) :
    List (Mnl2agps (Option CString)) :=
  let got := (mnl2agpsHdlr interface).call (received maxBuffSize bytes)
  got.value.map (Mnl2agps.map (text got.cursor.buff))

/-- What mnld is called back with. -/
def mnldCalls (interface : MnlAgpsType → Bool) (bytes : List UInt8) :
    List (Agps2mnlCall (Option CString)) :=
  let got := (agps2mnlHdlr interface).call (received maxBuffSize bytes)
  got.value.map (Agps2mnlCall.map (text got.cursor.buff))

theorem map_invoke {α β : Type} {interface : MnlAgpsType → Bool} {type : MnlAgpsType}
    (set : interface type = true) (f : α → β) (call : α) :
    (invoke interface type call).map f = [f call] := by
  rw [invoke, if_pos set, List.map_cons, List.map_nil]

theorem boolByte_ne_zero (value : Bool) : (boolByte value != 0) = value := by
  cases value <;> rfl

theorem reads_mnl2agpsHdlr {interface : MnlAgpsType → Bool} {message : Mnl2agps (Option CString)}
    {good : List UInt8 → List (Mnl2agps (Option Int)) → Prop}
    (arm : Reads (mnl2agpsArm interface message.type) (encoding message.body) good) :
    Reads (mnl2agpsHdlr interface) (encoding message.fields) good := by
  rw [Mnl2agps.fields, encoding_cons, encoding_cons]
  apply (reads_getInt _).bind
  apply (reads_getInt _).bind
  rw [MnlAgpsType.ofInt_toInt]
  exact arm

/-- An arm calls back with what the function for its message put. -/
theorem reads_mnl2agpsArm {interface : MnlAgpsType → Bool} {m : Mnl2agps (Option CString)}
    (set : interface m.type = true) (fits : (encoding m.fields).length ≤ maxBuffSize)
    (handled : m.Handled) :
    Reads (mnl2agpsArm interface m.type) (encoding m.body)
      fun buff calls => calls.map (Mnl2agps.map (text buff)) = [m] := by
  have string {s : Option CString} (inside : Field.string s ∈ m.body) :
      (stringBytes s).length < 2 ^ 31 :=
    string_small fits (by decide) (List.mem_cons_of_mem _ (List.mem_cons_of_mem _ inside))
  have binary {b : Binary} (inside : Field.binary b ∈ m.body) : b.len.toInt ≤ maxBuffSize :=
    binary_small fits (List.mem_cons_of_mem _ (List.mem_cons_of_mem _ inside))
  cases m with
  | mnlReboot => exact reads_pure _ fun _ => map_invoke set ..
  | openGpsDone => exact reads_pure _ fun _ => map_invoke set ..
  | closeGpsDone => exact reads_pure _ fun _ => map_invoke set ..
  | resetGpsDone => exact reads_pure _ fun _ => map_invoke set ..
  | gpsInit => exact reads_pure _ fun _ => map_invoke set ..
  | gpsCleanup => exact reads_pure _ fun _ => map_invoke set ..
  | setServer type hostname port =>
      apply (reads_getInt type).bind
      apply (reads_getString hostname (string (by simp [Mnl2agps.body]))).bind
      intro pointer _
      apply (reads_getInt port).bind
      apply reads_pure
      intro buff found
      rw [map_invoke set, Mnl2agps.map, found]
  | deleteAidingData flags =>
      exact (reads_getInt flags).bind (reads_pure _ fun _ => map_invoke set ..)
  | gpsOpen assistReq =>
      exact (reads_getInt assistReq).bind (reads_pure _ fun _ => map_invoke set ..)
  | gpsClose => exact reads_pure _ fun _ => map_invoke set ..
  | dataConnOpen apn =>
      refine reads_string_last (string (by simp [Mnl2agps.body])) fun buff pointer found => ?_
      rw [map_invoke set, Mnl2agps.map, found]
  | dataConnOpenIpType apn ipType =>
      apply (reads_getString apn (string (by simp [Mnl2agps.body]))).bind
      intro pointer _
      apply (reads_getInt ipType).bind
      apply reads_pure
      intro buff found
      rw [map_invoke set, Mnl2agps.map, found]
  | installCertificates index total data =>
      have room := binary (b := data) (by simp [Mnl2agps.body])
      apply (reads_getInt index).bind
      apply (reads_getInt total).bind
      exact (reads_getBinary data room).bind (reads_pure _ fun _ => map_invoke set ..)
  | revokeCertificates data =>
      have room := binary (b := data) (by simp [Mnl2agps.body])
      exact (reads_getBinary data room).bind (reads_pure _ fun _ => map_invoke set ..)
  | dataConnFailed => exact reads_pure _ fun _ => map_invoke set ..
  | dataConnClosed => exact reads_pure _ fun _ => map_invoke set ..
  | niMessage msg =>
      exact (reads_getBinary msg handled).bind (reads_pure _ fun _ => map_invoke set ..)
  | niRespond sessionId userResponse =>
      apply (reads_getInt sessionId).bind
      exact (reads_getInt userResponse).bind (reads_pure _ fun _ => map_invoke set ..)
  | setRefLoc type mcc mnc lac cid =>
      apply (reads_getInt type).bind
      apply (reads_getInt mcc).bind
      apply (reads_getInt mnc).bind
      apply (reads_getInt lac).bind
      exact (reads_getInt cid).bind (reads_pure _ fun _ => map_invoke set ..)
  | setSetId type setid =>
      apply (reads_getInt type).bind
      refine reads_string_last (string (by simp [Mnl2agps.body])) fun buff pointer found => ?_
      rw [map_invoke set, Mnl2agps.map, found]
  | updateNetworkState connected type roaming extraInfo =>
      apply (reads_getInt connected).bind
      apply (reads_getInt type).bind
      apply (reads_getInt roaming).bind
      refine reads_string_last (string (by simp [Mnl2agps.body])) fun buff pointer found => ?_
      rw [map_invoke set, Mnl2agps.map, found]
  | updateNetworkAvailability available apn =>
      apply (reads_getInt available).bind
      refine reads_string_last (string (by simp [Mnl2agps.body])) fun buff pointer found => ?_
      rw [map_invoke set, Mnl2agps.map, found]
  | pmtk text =>
      refine reads_string_last (string (by simp [Mnl2agps.body])) fun buff pointer found => ?_
      rw [map_invoke set, Mnl2agps.map, found]
  | rawDbg enabled =>
      exact (reads_getInt enabled).bind (reads_pure _ fun _ => map_invoke set ..)
  | reaidingReq => exact reads_pure _ fun _ => map_invoke set ..
  | locationSync lat lng acc altValid alt sourceValid sourceGnss sourceNlp sourceSensor =>
      have enabled : interface .locationSync = true := set
      simp only [mnl2agpsArm, Mnl2agps.type, enabled, if_true]
      apply (reads_getLong lat).bind
      apply (reads_getLong lng).bind
      apply (reads_getInt acc).bind
      apply (reads_getByte (boolByte altValid)).bind
      apply (reads_getInt alt).bind
      apply (reads_getByte (boolByte sourceValid)).bind
      apply (reads_getByte (boolByte sourceGnss)).bind
      apply (reads_getByte (boolByte sourceNlp)).bind
      apply (reads_getByte (boolByte sourceSensor)).bind
      apply reads_pure
      intro buff
      simp only [boolByte_ne_zero, List.map_cons, List.map_nil, Mnl2agps.map]
  | setPositionMode posMode =>
      have enabled : interface .setPositionMode = true := set
      simp only [mnl2agpsArm, Mnl2agps.type, enabled, if_true]
      exact (reads_getInt posMode).bind (reads_pure _ fun _ => rfl)
  | agpsSettingsAck settings => cases handled
  | vzwDebugScreenEnable enabled => cases handled
  | lppeAssistDataReq data => cases handled
  | lppeAssistDataProvideAck data => cases handled

theorem reads_agps2mnlHdlr {interface : MnlAgpsType → Bool}
    {message : Agps2mnl (Option CString) Image}
    {good : List UInt8 → List (Agps2mnlCall (Option Int)) → Prop}
    (arm : Reads (agps2mnlArm interface message.type) (encoding message.body) good) :
    Reads (agps2mnlHdlr interface) (encoding message.fields) good := by
  rw [Agps2mnl.fields, encoding_cons, encoding_cons]
  apply (reads_getInt _).bind
  apply (reads_getInt _).bind
  rw [MnlAgpsType.ofInt_toInt]
  exact arm

/-- The callback that a message function of agpsd corresponds to, with its arguments. -/
def Agps2mnl.callback (m : Agps2mnl (Option CString) Image) : Agps2mnlCall (Option CString) :=
  .message (m.map id fun _ => Image.binary)

theorem reads_agps2mnlArm {interface : MnlAgpsType → Bool} {m : Agps2mnl (Option CString) Image}
    (set : interface m.type = true) (fits : (encoding m.fields).length ≤ maxBuffSize) :
    Reads (agps2mnlArm interface m.type) (encoding m.body)
      fun buff calls => calls.map (Agps2mnlCall.map (text buff)) = [m.callback] := by
  have string {s : Option CString} (inside : Field.string s ∈ m.body) :
      (stringBytes s).length < 2 ^ 31 :=
    string_small fits (by decide) (List.mem_cons_of_mem _ (List.mem_cons_of_mem _ inside))
  cases m with
  | agpsReboot => exact reads_pure _ fun _ => map_invoke set ..
  | agpsOpenGpsReq showGpsIcon =>
      exact (reads_getInt showGpsIcon).bind (reads_pure _ fun _ => map_invoke set ..)
  | agpsCloseGpsReq => exact reads_pure _ fun _ => map_invoke set ..
  | agpsResetGpsReq flags =>
      exact (reads_getInt flags).bind (reads_pure _ fun _ => map_invoke set ..)
  | agpsSessionDone => exact reads_pure _ fun _ => map_invoke set ..
  | niNotify sessionId niType type requestorId clientName =>
      apply (reads_getInt sessionId).bind
      apply (reads_getInt type).bind
      apply (reads_getString requestorId (string (by simp [Agps2mnl.body]))).bind
      intro requestor _
      apply (reads_getString clientName (string (by simp [Agps2mnl.body]))).bind
      intro client _
      apply (reads_getInt niType).bind
      apply reads_pure
      intro buff foundClient foundRequestor
      rw [map_invoke set, Agps2mnlCall.map, Agps2mnl.map, foundClient, foundRequestor]
      rfl
  | niNotify2 sessionId niType type requestorId clientName requestorIdEncoding
      clientNameEncoding =>
      apply (reads_getInt sessionId).bind
      apply (reads_getInt type).bind
      apply (reads_getString requestorId (string (by simp [Agps2mnl.body]))).bind
      intro requestor _
      apply (reads_getString clientName (string (by simp [Agps2mnl.body]))).bind
      intro client _
      apply (reads_getInt requestorIdEncoding).bind
      apply (reads_getInt clientNameEncoding).bind
      apply (reads_getInt niType).bind
      apply reads_pure
      intro buff foundClient foundRequestor
      rw [map_invoke set, Agps2mnlCall.map, Agps2mnl.map, foundClient, foundRequestor]
      rfl
  | dataConnReq ipaddr isEmergency =>
      apply (reads_getInt ipaddr).bind
      exact (reads_getInt isEmergency).bind (reads_pure _ fun _ => map_invoke set ..)
  | dataConnReq2 addr isEmergency =>
      apply (reads_getBinary addr.binary (Int.le_of_eq addr.binary_len)).bind
      exact (reads_getInt isEmergency).bind (reads_pure _ fun _ => map_invoke set ..)
  | dataConnRelease => exact reads_pure _ fun _ => map_invoke set ..
  | setIdReq flags => exact (reads_getInt flags).bind (reads_pure _ fun _ => map_invoke set ..)
  | refLocReq flags => exact (reads_getInt flags).bind (reads_pure _ fun _ => map_invoke set ..)
  | pmtk text =>
      refine reads_string_last (string (by simp [Agps2mnl.body])) fun buff pointer found => ?_
      rw [map_invoke set, Agps2mnlCall.map, Agps2mnl.map, found]
      rfl
  | gpevt type => exact (reads_getInt type).bind (reads_pure _ fun _ => map_invoke set ..)
  | agpsLocation location =>
      apply (reads_getBinary location.binary (Int.le_of_eq location.binary_len)).bind
      exact reads_pure _ fun _ => map_invoke set ..

/-- Without its callback no arm calls back. -/
theorem mnl2agpsArm_unset {interface : MnlAgpsType → Bool} {type : MnlAgpsType}
    (unset : interface type = false) (c : Cursor) :
    ((mnl2agpsArm interface type).call c).value = [] := by
  cases type <;> simp only [mnl2agpsArm, invoke, unset, call_bind, call_pure, Bool.false_eq_true,
    if_false]

theorem agps2mnlArm_unset {interface : MnlAgpsType → Bool} {type : MnlAgpsType}
    (unset : interface type = false) (c : Cursor) :
    ((agps2mnlArm interface type).call c).value = [] := by
  cases type <;> simp only [agps2mnlArm, lppeArm, invoke, unset, call_bind, call_pure,
    Bool.false_eq_true, if_false]

/-- A message is passed to the arm of its type. -/
theorem hdlr_arm {α : Type} {hdlr : Get (List α)} {arm : MnlAgpsType → Get (List α)}
    (elim : hdlr = (getInt >>= fun _ => getInt >>= fun type =>
      (MnlAgpsType.ofInt type).elim (return []) arm))
    {version : BitVec 32} {type : MnlAgpsType}
    {body : List (DataCoder.Field (Option CString))}
    (fits : (encoding (.int version :: .int type.toInt :: body)).length ≤ maxBuffSize) :
    ∃ before left,
      (hdlr.call (received maxBuffSize
        (datagram maxBuffSize (.int version :: .int type.toInt :: body)))).value =
      ((arm type).call (reading before (encoding body ++ left) [])).value := by
  obtain ⟨before, left, value⟩ := value_behind_header
    (fun type => (MnlAgpsType.ofInt type).elim (return []) arm) fits
  simp only [MnlAgpsType.ofInt_toInt, Option.elim_some] at value
  rw [elim]
  exact ⟨before, left, value⟩

theorem agpsdCalls_of_handled (interface : MnlAgpsType → Bool) {m : Mnl2agps (Option CString)}
    (fits : (encoding m.fields).length ≤ maxBuffSize) (arm : m.Handled) :
    agpsdCalls interface (datagram maxBuffSize m.fields) = invoke interface m.type m := by
  cases set : interface m.type with
  | true =>
      have calls := handled (reads_mnl2agpsHdlr (reads_mnl2agpsArm set fits arm)) fits
      rw [invoke, if_pos set]
      exact calls
  | false =>
      obtain ⟨before, left, value⟩ := hdlr_arm (mnl2agpsHdlr_elim interface) fits
      rw [agpsdCalls, Mnl2agps.fields, value, mnl2agpsArm_unset set, invoke, set, List.map_nil]
      rfl

theorem mnldCalls_of_message (interface : MnlAgpsType → Bool)
    {m : Agps2mnl (Option CString) Image} (fits : (encoding m.fields).length ≤ maxBuffSize) :
    mnldCalls interface (datagram maxBuffSize m.fields) =
      invoke interface m.type m.callback := by
  cases set : interface m.type with
  | true =>
      have calls := handled (reads_agps2mnlHdlr (reads_agps2mnlArm set fits)) fits
      rw [invoke, if_pos set]
      exact calls
  | false =>
      obtain ⟨before, left, value⟩ := hdlr_arm (agps2mnlHdlr_elim interface) fits
      rw [mnldCalls, Agps2mnl.fields, value, agps2mnlArm_unset set, invoke, set, List.map_nil]
      rfl

/-- A message that is not handled is dropped, or an array takes only a part of it. -/
theorem agpsdCalls_of_not_handled {m : Mnl2agps (Option CString)}
    (fits : (encoding m.fields).length ≤ maxBuffSize) (missing : ¬ m.Handled) :
    agpsdCalls (fun _ => true) (datagram maxBuffSize m.fields) ≠ [m] := by
  obtain ⟨before, left, value⟩ := hdlr_arm (mnl2agpsHdlr_elim fun _ => true) fits
  rw [agpsdCalls, Mnl2agps.fields, value]
  cases m with
  | agpsSettingsAck settings => exact List.cons_ne_nil _ _ ∘ Eq.symm
  | vzwDebugScreenEnable enabled => exact List.cons_ne_nil _ _ ∘ Eq.symm
  | lppeAssistDataReq data => exact List.cons_ne_nil _ _ ∘ Eq.symm
  | lppeAssistDataProvideAck data => exact List.cons_ne_nil _ _ ∘ Eq.symm
  | niMessage msg =>
      have long : ((1024 : Nat) : Int) < msg.len.toInt := Int.not_le.mp missing
      have cut := getBinary_cut before left [] msg long
      intro same
      simp only [Mnl2agps.type, mnl2agpsArm, invoke, if_true, call_bind, call_pure,
        List.map_cons, List.map_nil, Mnl2agps.map, List.cons.injEq, Mnl2agps.niMessage.injEq,
        and_true] at same
      have len := congrArg Binary.len same
      rw [← List.append_nil (intBytes msg.len ++ msg.data)] at cut
      have shorter := congrArg BitVec.toInt (cut.symm.trans len)
      rw [toInt_ofNat_of_lt (by decide)] at shorter
      omega
  | _ => exact absurd trivial missing

/-- Whatever a message function is given that fits the buffer, the other side is called
back with it, except for the four messages that have no arm there and for network
initiated messages that are longer than their array. -/
theorem wire_agreement (m : Mnl2agps (Option CString)) (a : Agps2mnl (Option CString) Image) :
    ((encoding m.fields).length ≤ maxBuffSize →
      ((∀ interface, agpsdCalls interface (datagram maxBuffSize m.fields) =
        invoke interface m.type m) ↔ m.Handled)) ∧
    ((encoding a.fields).length ≤ maxBuffSize →
      ∀ interface, mnldCalls interface (datagram maxBuffSize a.fields) =
        invoke interface a.type a.callback) := by
  constructor
  · intro fits
    constructor
    · intro agrees
      by_contra missing
      exact agpsdCalls_of_not_handled fits missing (agrees fun _ => true)
    · intro arm interface
      exact agpsdCalls_of_handled interface fits arm
  · intro fits interface
    exact mnldCalls_of_message interface fits

theorem wire_agreement_two :
    ((∀ interface, agpsdCalls interface
        (datagram maxBuffSize (Mnl2agps.pmtk (some ⟨[80, 77], by decide⟩)).fields) =
      invoke interface .mnl2agpsPmtk (.pmtk (some ⟨[80, 77], by decide⟩))) ↔
        (Mnl2agps.pmtk (some ⟨[80, 77], by decide⟩)).Handled) ∧
    ∀ interface, mnldCalls interface (datagram maxBuffSize (Agps2mnl.gpevt 7).fields) =
      invoke interface .gpevt (Agps2mnl.gpevt 7).callback :=
  ⟨(wire_agreement (.pmtk (some ⟨[80, 77], by decide⟩)) (.gpevt 7)).1 (by decide),
    (wire_agreement (.pmtk (some ⟨[80, 77], by decide⟩)) (.gpevt 7)).2 (by decide)⟩

/-- The acknowledgement of LPPe assistance data reaches no callback. -/
theorem not_wire_agreement :
    let m : Mnl2agps (Option CString) := .lppeAssistDataProvideAck ⟨1, [6], rfl⟩
    (encoding m.fields).length ≤ maxBuffSize ∧
      agpsdCalls (fun _ => true) (datagram maxBuffSize m.fields) ≠
        invoke (fun _ => true) m.type m := by
  intro m
  exact ⟨by decide, agpsdCalls_of_not_handled (by decide) fun handled => handled⟩

end Connectivity.Agps
