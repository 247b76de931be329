import Connectivity.Mnld.Context

set_option autoImplicit false

namespace Connectivity.Mnld

open Context

def mnlOffloadIsEnabled (cfg : Config) : Bool := cfg.offloadEnabled != 0

def mnldSupportAutoSwitchMode (cfg : Config) : Bool :=
  cfg.offloadEnabled != 0 && cfg.offloadSwitchMode == 1

def mnldOffloadIsAutoMode (cfg : Config) (c : Context) : Bool :=
  cfg.offloadEnabled != 0 && cfg.offloadSwitchMode == 1 &&
    (c.flpSession.type == .oflMode || c.gfcSession.type == .oflMode)

def mnldOffloadIsAlwaysOnMode (cfg : Config) : Bool :=
  cfg.offloadEnabled != 0 && cfg.offloadSwitchMode == 0

/-- The test the state machine repeats before every wakelock and start timer decision. -/
def offloadModeActive (cfg : Config) (c : Context) : Bool :=
  mnlOffloadIsEnabled cfg && (mnldOffloadIsAutoMode cfg c || mnldOffloadIsAlwaysOnMode cfg)

def isAllGpsClientExit (clients : Clients) : Bool :=
  !(clients .hal).gpsUsed && !(clients .agps).gpsUsed && !(clients .flp).gpsUsed &&
    !(clients .flpTest).gpsUsed && !(clients .atCmdTest).gpsUsed &&
    !(clients .factory).gpsUsed && !(clients .geofence).gpsUsed

def isAGpsClientExist (clients : Clients) : Bool :=
  (clients .hal).gpsUsed || (clients .agps).gpsUsed || (clients .flp).gpsUsed ||
    (clients .flpTest).gpsUsed || (clients .atCmdTest).gpsUsed ||
    (clients .factory).gpsUsed || (clients .geofence).gpsUsed

def isAllHbdGpsClientExit (clients : Clients) : Bool :=
  !(clients .hal).gpsUsed && !(clients .agps).gpsUsed && !(clients .atCmdTest).gpsUsed &&
    !(clients .factory).gpsUsed

def isAHbdGpsClientExist (clients : Clients) : Bool :=
  (clients .hal).gpsUsed || (clients .agps).gpsUsed || (clients .atCmdTest).gpsUsed ||
    (clients .factory).gpsUsed

def isFlpUserExist (clients : Clients) : Bool := (clients .flp).gpsUsed

def isGeofenceUserExist (clients : Clients) : Bool := (clients .geofence).gpsUsed

/-- The host based clients: HAL, AGPS, AT command and factory. -/
def ClientId.isHost : ClientId → Bool
  | .hal | .agps | .atCmdTest | .factory => true
  | .flp | .flpTest | .geofence => false

/-- The bits `GPS_USER_*`. -/
def gpsUserBit : ClientId → BitVec 32
  | .hal => 0x1
  | .agps => 0x2
  | .factory => 0x4
  | .flp => 0x10
  | .flpTest => 0x20
  | .atCmdTest => 0x40
  | .geofence => 0x100

def mtkGpsGetGpsUser (clients : Clients) : BitVec 32 :=
  [ClientId.hal, .agps, .flp, .flpTest, .geofence, .atCmdTest, .factory].foldl
    (fun user who => if (clients who).gpsUsed then user ||| gpsUserBit who else user) 0

/-- `(gps_user & (GPS_USER_FLP | GPS_USER_OFL_TEST | GPS_USER_GEOFENCE)) == gps_user`. -/
def onlyOffloadUsers (user : BitVec 32) : Bool :=
  user &&& (gpsUserBit .flp ||| gpsUserBit .flpTest ||| gpsUserBit .geofence) == user

/-- The tests look at nothing but who uses the engine. -/
theorem isAllGpsClientExit_congr {a b : Clients} (same : ∀ who, (a who).gpsUsed = (b who).gpsUsed) :
    isAllGpsClientExit a = isAllGpsClientExit b := by
  simp only [isAllGpsClientExit, same]

theorem isAllHbdGpsClientExit_congr {a b : Clients}
    (same : ∀ who, who.isHost = true → (a who).gpsUsed = (b who).gpsUsed) :
    isAllHbdGpsClientExit a = isAllHbdGpsClientExit b := by
  simp only [isAllHbdGpsClientExit, same .hal rfl, same .agps rfl, same .atCmdTest rfl,
    same .factory rfl]

theorem isAHbdGpsClientExist_congr {a b : Clients}
    (same : ∀ who, who.isHost = true → (a who).gpsUsed = (b who).gpsUsed) :
    isAHbdGpsClientExist a = isAHbdGpsClientExist b := by
  simp only [isAHbdGpsClientExist, same .hal rfl, same .agps rfl, same .atCmdTest rfl,
    same .factory rfl]

theorem isAllGpsClientExit_iff (clients : Clients) :
    isAllGpsClientExit clients = true ↔ ∀ who, (clients who).gpsUsed = false := by
  simp only [isAllGpsClientExit, Bool.and_eq_true, Bool.not_eq_true']
  constructor
  · rintro ⟨⟨⟨⟨⟨⟨hal, agps⟩, flp⟩, flpTest⟩, atCmdTest⟩, factory⟩, geofence⟩ who
    cases who <;> assumption
  · intro none
    simp only [none, and_self]

theorem isAGpsClientExist_eq (clients : Clients) :
    isAGpsClientExist clients = !isAllGpsClientExit clients := by
  simp only [isAGpsClientExist, isAllGpsClientExit, Bool.not_and, Bool.not_not]

theorem isAHbdGpsClientExist_eq (clients : Clients) :
    isAHbdGpsClientExist clients = !isAllHbdGpsClientExit clients := by
  simp only [isAHbdGpsClientExist, isAllHbdGpsClientExit, Bool.not_and, Bool.not_not]

theorem isAllHbdGpsClientExit_iff (clients : Clients) :
    isAllHbdGpsClientExit clients = true ↔
      ∀ who, who.isHost = true → (clients who).gpsUsed = false := by
  simp only [isAllHbdGpsClientExit, Bool.and_eq_true, Bool.not_eq_true']
  constructor
  · rintro ⟨⟨⟨hal, agps⟩, atCmdTest⟩, factory⟩ who host
    cases who <;> first | assumption | cases host
  · intro none
    exact ⟨⟨⟨none .hal rfl, none .agps rfl⟩, none .atCmdTest rfl⟩, none .factory rfl⟩

theorem isAHbdGpsClientExist_iff (clients : Clients) :
    isAHbdGpsClientExist clients = true ↔
      ∃ who, who.isHost = true ∧ (clients who).gpsUsed = true := by
  rw [isAHbdGpsClientExist_eq, Bool.not_eq_true', ← Bool.not_eq_true,
    isAllHbdGpsClientExit_iff]
  simp

theorem noHost_of_nobody {clients : Clients} (nobody : isAllGpsClientExit clients = true) :
    isAHbdGpsClientExist clients = false := by
  rw [isAHbdGpsClientExist_eq, Bool.not_eq_false', isAllHbdGpsClientExit_iff]
  exact fun who _ => (isAllGpsClientExit_iff clients).mp nobody who

/-- The bitmap holds offload users only exactly when every host client has left. -/
theorem onlyOffloadUsers_eq (clients : Clients) :
    onlyOffloadUsers (mtkGpsGetGpsUser clients) = isAllHbdGpsClientExit clients := by
  simp only [mtkGpsGetGpsUser, isAllHbdGpsClientExit, List.foldl_cons, List.foldl_nil]
  generalize (clients .hal).gpsUsed = hal, (clients .agps).gpsUsed = agps,
    (clients .flp).gpsUsed = flp, (clients .flpTest).gpsUsed = flpTest,
    (clients .geofence).gpsUsed = geofence, (clients .atCmdTest).gpsUsed = atCmdTest,
    (clients .factory).gpsUsed = factory
  revert hal agps flp flpTest geofence atCmdTest factory
  decide

@[simps -fullyApplied] def mtkGpsClearGpsUser (c : Context) : Context :=
  { c with clients := fun who => { c.clients who with gpsUsed := false } }

@[simps! -fullyApplied] def mnl2halRequestWakelock (c : Context) : Context :=
  c.emit [.halRequestWakelock]

@[simps! -fullyApplied] def mnl2halReleaseWakelock (c : Context) : Context :=
  c.emit [.halReleaseWakelock]

@[simps! -fullyApplied] def gpsControlGpsStop (c : Context) : Context := c.emit [.gpsControlGpsStop]

/-- `gps_control_gps_start(delete_aiding_flag); delete_aiding_flag = 0`. -/
@[simps -fullyApplied] def gpsControlGpsStart (c : Context) : Context :=
  { c with
    out := .gpsControlGpsStart c.deleteAidingFlag :: c.out
    deleteAidingFlag := 0 }

def mnldGpsStopTimeoutMs : Int := 30 * 1000
def mnldGpsResetTimeoutMs : Int := 30 * 1000
def mnldGpsSwitchOflModeTimeoutMs : Int := 30 * 1000

/-- The reset of a running engine, which a flag of zero leaves alone. -/
@[simps -fullyApplied clients gpsState deleteAidingFlag flpSession gfcSession offloadLpMode
  offloadFwkWakelock enableDebug updateFlag out]
def gpsControlGpsReset (c : Context) : Context :=
  { c with
    armed := if c.deleteAidingFlag = 0 then c.armed
      else (c.startTimer .reset mnldGpsResetTimeoutMs).armed
    out := (if c.deleteAidingFlag = 0 then [] else [.gpsControlGpsReset c.deleteAidingFlag]) ++
      c.out
    deleteAidingFlag := 0 }

/-- Clearing the flag where it is already clear changes nothing, so only the
message depends on it. The same holds of every acknowledgement below. -/
@[simps -fullyApplied gpsState deleteAidingFlag armed flpSession gfcSession offloadLpMode
  offloadFwkWakelock enableDebug updateFlag out]
def doGpsResetHdlr (c : Context) : Context :=
  { c with
    clients := Function.update c.clients .agps { c.clients .agps with needResetAck := false }
    out := (if (c.clients .agps).needResetAck then [.agpsResetGpsDone] else []) ++ c.out }

/-- Which of its two acknowledgements a link client is sent: the offload one only
where auto switching has an offload session. -/
def oflAcknowledged (cfg : Config) (c : Context) : Bool :=
  mnldSupportAutoSwitchMode cfg && mnldOffloadIsAutoMode cfg c

/-- The order in which both handlers look at the clients. -/
def ackOrder : List ClientId := [.hal, .agps, .flp, .geofence, .flpTest, .atCmdTest, .factory]

/-- What `do_gps_started_hdlr` sends to a client that waits for its open. -/
def openAckMsgs (cfg : Config) (siAssistReq : Int) (c : Context) : ClientId → List Msg
  | .hal => [.halGpsStatus .sessionEngineOn, .halGpsStatus .sessionBegin,
      .agpsGpsOpen siAssistReq]
  | .agps => [.agpsOpenGpsDone]
  | .flp => [.flp (if oflAcknowledged cfg c then .oflGpsOpenDone else .hbdGpsOpenDone),
      .agpsGpsOpen siAssistReq]
  | .geofence => [.gfc (if oflAcknowledged cfg c then .oflGpsOpenDone else .hbdGpsOpenDone),
      .agpsGpsOpen siAssistReq]
  | .flpTest | .atCmdTest | .factory => []

@[simps -fullyApplied] def openAcks (cfg : Config) (siAssistReq : Int) (c : Context) : Context :=
  { c with
    clients := fun who => { c.clients who with needOpenAck := false }
    out := (ackOrder.flatMap fun who =>
      if (c.clients who).needOpenAck then openAckMsgs cfg siAssistReq c who else []).reverse ++
        c.out }

/-- What `do_gps_stopped_hdlr` sends to a client that waits for its close. -/
def closeAckMsgs (cfg : Config) (c : Context) : ClientId → List Msg
  | .hal => [.halGpsStatus .sessionEnd, .halGpsStatus .sessionEngineOff, .agpsGpsClose]
  | .agps => [.agpsCloseGpsDone]
  | .flp => [.flp (if oflAcknowledged cfg c then .oflGpsCloseDone else .hbdGpsCloseDone)]
  | .geofence => [.gfc (if oflAcknowledged cfg c then .oflGpsCloseDone else .hbdGpsCloseDone)]
  | .flpTest | .atCmdTest | .factory => []

@[simps -fullyApplied] def closeAcks (cfg : Config) (c : Context) : Context :=
  { c with
    clients := fun who => { c.clients who with needCloseAck := false }
    out := (ackOrder.flatMap fun who =>
      if (c.clients who).needCloseAck then closeAckMsgs cfg c who else []).reverse ++ c.out }

@[simps! -fullyApplied] def debugGpsStatus (started : Bool) (c : Context) : Context :=
  c.emit (if c.enableDebug then [.debugGpsStatus started] else [])

@[simps! -fullyApplied gpsState deleteAidingFlag flpSession gfcSession offloadLpMode
  offloadFwkWakelock updateFlag]
def doGpsStartedHdlr (cfg : Config) (siAssistReq : Int) (c : Context) : Context :=
  gpsControlGpsReset (doGpsResetHdlr (debugGpsStatus true (openAcks cfg siAssistReq c)))

@[simps! -fullyApplied gpsState deleteAidingFlag armed flpSession gfcSession offloadLpMode
  offloadFwkWakelock updateFlag]
def doGpsStoppedHdlr (cfg : Config) (c : Context) : Context :=
  doGpsResetHdlr ((debugGpsStatus false (closeAcks cfg c)).emit [.nlpCancelLocation])

/-- `mnld_flp_gen_new_session` and `mnld_gfc_gen_new_session`. -/
def genNewSession (id : BitVec 32) : BitVec 32 :=
  if 0xFFFFFFFF ≤ id + 1 then 0 else id + 1

/-- Give the FLP session a type; where that is not the type last announced, a new
session begins, the FLP loses the engine and is told. -/
@[simps -fullyApplied gpsState deleteAidingFlag armed flpSession gfcSession offloadLpMode
  offloadFwkWakelock updateFlag out]
def switchFlpSession (type : Capability) (c : Context) : Context :=
  { c with
    flpSession := if type = c.flpSession.preType then { c.flpSession with type := type }
      else ⟨type, type, genNewSession c.flpSession.id⟩
    clients := if type = c.flpSession.preType then c.clients
      else Function.update c.clients .flp { c.clients .flp with gpsUsed := false }
    out := if type = c.flpSession.preType then c.out
      else .flp (.sessionUpdate (genNewSession c.flpSession.id) type) :: c.out }

/-- The same statements for the geofence session. -/
@[simps -fullyApplied gpsState deleteAidingFlag armed flpSession gfcSession offloadLpMode
  offloadFwkWakelock updateFlag out]
def switchGfcSession (type : Capability) (c : Context) : Context :=
  { c with
    gfcSession := if type = c.gfcSession.preType then { c.gfcSession with type := type }
      else ⟨type, type, genNewSession c.gfcSession.id⟩
    clients := if type = c.gfcSession.preType then c.clients
      else Function.update c.clients .geofence { c.clients .geofence with gpsUsed := false }
    out := if type = c.gfcSession.preType then c.out
      else .gfc (.sessionUpdate (genNewSession c.gfcSession.id) type) :: c.out }

/-- Both sessions in the order of the source. -/
@[simps! -fullyApplied gpsState deleteAidingFlag armed offloadLpMode offloadFwkWakelock updateFlag]
def switchSessions (type : Capability) (c : Context) : Context :=
  switchGfcSession type (switchFlpSession type c)

section

variable (cfg : Config) (siAssistReq : Int) (c : Context) (who : ClientId) {kind : Traffic}

@[simp] theorem mnl2halRequestWakelock_sent :
    (mnl2halRequestWakelock c).sent kind =
      if Traffic.wakelock = kind then .halRequestWakelock :: c.sent kind else c.sent kind := by
  rw [sent_cons (mnl2halRequestWakelock_out c)]
  rfl

@[simp] theorem mnl2halReleaseWakelock_sent :
    (mnl2halReleaseWakelock c).sent kind =
      if Traffic.wakelock = kind then .halReleaseWakelock :: c.sent kind else c.sent kind := by
  rw [sent_cons (mnl2halReleaseWakelock_out c)]
  rfl

@[simp] theorem gpsControlGpsStop_sent :
    (gpsControlGpsStop c).sent kind =
      if Traffic.engine = kind then .gpsControlGpsStop :: c.sent kind else c.sent kind := by
  rw [sent_cons (gpsControlGpsStop_out c)]
  rfl

@[simp] theorem gpsControlGpsStart_sent :
    (gpsControlGpsStart c).sent kind =
      if Traffic.engine = kind then .gpsControlGpsStart c.deleteAidingFlag :: c.sent kind
      else c.sent kind := by
  rw [sent_cons (gpsControlGpsStart_out c)]
  rfl

@[simp] theorem gpsControlGpsReset_sent :
    (gpsControlGpsReset c).sent kind =
      if c.deleteAidingFlag ≠ 0 ∧ Traffic.engine = kind then
        .gpsControlGpsReset c.deleteAidingFlag :: c.sent kind
      else c.sent kind := by
  by_cases flag : c.deleteAidingFlag = 0
  · rw [if_neg (fun issued => issued.1 flag)]
    exact sent_congr (by rw [gpsControlGpsReset_out, if_pos flag, List.nil_append])
  · have issued : (gpsControlGpsReset c).out = .gpsControlGpsReset c.deleteAidingFlag :: c.out := by
      rw [gpsControlGpsReset_out, if_neg flag, List.singleton_append]
    rw [sent_cons issued]
    simp only [ne_eq, flag, not_false_eq_true, true_and]
    rfl

@[simp] theorem gpsControlGpsReset_armed {timer : TimerId} (other : timer ≠ .reset) :
    (gpsControlGpsReset c).armed timer = c.armed timer := by
  unfold gpsControlGpsReset
  split
  · rfl
  · exact Function.update_of_ne other _ _

@[simp] theorem doGpsResetHdlr_sent :
    (doGpsResetHdlr c).sent kind =
      if (c.clients .agps).needResetAck = true ∧ Traffic.resetAck = kind then
        .agpsResetGpsDone :: c.sent kind
      else c.sent kind := by
  by_cases pending : (c.clients .agps).needResetAck = true
  · have acked : (doGpsResetHdlr c).out = .agpsResetGpsDone :: c.out := by
      rw [doGpsResetHdlr_out, if_pos pending, List.singleton_append]
    rw [sent_cons acked]
    simp only [pending, true_and]
    rfl
  · rw [if_neg (fun acked => pending acked.1)]
    exact sent_congr (by rw [doGpsResetHdlr_out, if_neg pending, List.nil_append])

@[simp] theorem doGpsResetHdlr_clients :
    (doGpsResetHdlr c).clients who =
      { c.clients who with needResetAck := who ≠ .agps && (c.clients who).needResetAck } := by
  by_cases agps : who = .agps
  · subst agps
    simp [doGpsResetHdlr]
  · simp [doGpsResetHdlr, agps]

theorem openAckMsgs_traffic {msg : Msg} (inside : msg ∈ openAckMsgs cfg siAssistReq c who) :
    msg.traffic = .notice := by
  cases who <;> revert inside <;> simp +contextual [openAckMsgs, Msg.traffic, or_imp]

theorem closeAckMsgs_traffic {msg : Msg} (inside : msg ∈ closeAckMsgs cfg c who) :
    msg.traffic = .notice := by
  cases who <;> revert inside <;> simp +contextual [closeAckMsgs, Msg.traffic, or_imp]

@[simp] theorem openAcks_sent (other : kind ≠ .notice) :
    (openAcks cfg siAssistReq c).sent kind = c.sent kind := by
  apply sent_of_notices other (openAcks_out cfg siAssistReq c)
  intro msg inside
  simp only [List.mem_reverse, List.mem_flatMap, List.mem_ite_nil_right] at inside
  obtain ⟨who, -, -, inside⟩ := inside
  exact openAckMsgs_traffic cfg siAssistReq c who inside

@[simp] theorem closeAcks_sent (other : kind ≠ .notice) :
    (closeAcks cfg c).sent kind = c.sent kind := by
  apply sent_of_notices other (closeAcks_out cfg c)
  intro msg inside
  simp only [List.mem_reverse, List.mem_flatMap, List.mem_ite_nil_right] at inside
  obtain ⟨who, -, -, inside⟩ := inside
  exact closeAckMsgs_traffic cfg c who inside

@[simp] theorem debugGpsStatus_sent (started : Bool) (other : kind ≠ .notice) :
    (debugGpsStatus started c).sent kind = c.sent kind := by
  apply sent_of_notices other (debugGpsStatus_out started c)
  split <;> simp [Msg.traffic]

@[simp] theorem switchFlpSession_sent (type : Capability) (other : kind ≠ .notice) :
    (switchFlpSession type c).sent kind = c.sent kind := by
  by_cases same : type = c.flpSession.preType
  · exact sent_congr (by rw [switchFlpSession_out, if_pos same])
  · have told := switchFlpSession_out type c
    rw [if_neg same] at told
    rw [sent_cons told]
    exact if_neg other.symm

@[simp] theorem switchGfcSession_sent (type : Capability) (other : kind ≠ .notice) :
    (switchGfcSession type c).sent kind = c.sent kind := by
  by_cases same : type = c.gfcSession.preType
  · exact sent_congr (by rw [switchGfcSession_out, if_pos same])
  · have told := switchGfcSession_out type c
    rw [if_neg same] at told
    rw [sent_cons told]
    exact if_neg other.symm

@[simp] theorem doGpsStartedHdlr_clients :
    (doGpsStartedHdlr cfg siAssistReq c).clients who =
      { c.clients who with
        needOpenAck := false
        needResetAck := who ≠ .agps && (c.clients who).needResetAck } := by
  simp [doGpsStartedHdlr, doGpsResetHdlr_clients]

@[simp] theorem doGpsStoppedHdlr_clients :
    (doGpsStoppedHdlr cfg c).clients who =
      { c.clients who with
        needCloseAck := false
        needResetAck := who ≠ .agps && (c.clients who).needResetAck } := by
  simp [doGpsStoppedHdlr, doGpsResetHdlr_clients]

@[simp] theorem doGpsStartedHdlr_armed {timer : TimerId} (other : timer ≠ .reset) :
    (doGpsStartedHdlr cfg siAssistReq c).armed timer = c.armed timer := by
  rw [doGpsStartedHdlr, gpsControlGpsReset_armed _ other]
  rfl

@[simp] theorem doGpsStartedHdlr_sent_engine :
    (doGpsStartedHdlr cfg siAssistReq c).sent .engine =
      if c.deleteAidingFlag ≠ 0 then .gpsControlGpsReset c.deleteAidingFlag :: c.sent .engine
      else c.sent .engine := by
  simp [doGpsStartedHdlr]

@[simp] theorem doGpsStartedHdlr_sent_wakelock :
    (doGpsStartedHdlr cfg siAssistReq c).sent .wakelock = c.sent .wakelock := by
  simp [doGpsStartedHdlr]

@[simp] theorem doGpsStartedHdlr_sent_resetAck :
    (doGpsStartedHdlr cfg siAssistReq c).sent .resetAck =
      if (c.clients .agps).needResetAck = true then .agpsResetGpsDone :: c.sent .resetAck
      else c.sent .resetAck := by
  simp [doGpsStartedHdlr]

@[simp] theorem doGpsStoppedHdlr_sent_engine :
    (doGpsStoppedHdlr cfg c).sent .engine = c.sent .engine := by
  simp [doGpsStoppedHdlr, Msg.traffic]

@[simp] theorem doGpsStoppedHdlr_sent_wakelock :
    (doGpsStoppedHdlr cfg c).sent .wakelock = c.sent .wakelock := by
  simp [doGpsStoppedHdlr, Msg.traffic]

@[simp] theorem doGpsStoppedHdlr_sent_resetAck :
    (doGpsStoppedHdlr cfg c).sent .resetAck =
      if (c.clients .agps).needResetAck = true then .agpsResetGpsDone :: c.sent .resetAck
      else c.sent .resetAck := by
  simp [doGpsStoppedHdlr, Msg.traffic]

/-- The FLP loses the engine where its session changes. -/
@[simp] theorem switchFlpSession_clients (type : Capability) :
    (switchFlpSession type c).clients who =
      { c.clients who with
        gpsUsed := (c.clients who).gpsUsed && !(who = .flp && type ≠ c.flpSession.preType) } := by
  unfold switchFlpSession
  by_cases same : type = c.flpSession.preType
  · simp [same]
  · by_cases flp : who = .flp
    · subst flp
      simp [same]
    · simp [same, flp]

@[simp] theorem switchGfcSession_clients (type : Capability) :
    (switchGfcSession type c).clients who =
      { c.clients who with
        gpsUsed := (c.clients who).gpsUsed &&
          !(who = .geofence && type ≠ c.gfcSession.preType) } := by
  unfold switchGfcSession
  by_cases same : type = c.gfcSession.preType
  · simp [same]
  · by_cases geofence : who = .geofence
    · subst geofence
      simp [same]
    · simp [same, geofence]

@[simp] theorem switchSessions_clients (type : Capability) :
    (switchSessions type c).clients who =
      { c.clients who with
        gpsUsed := (c.clients who).gpsUsed &&
          !(who = .flp && type ≠ c.flpSession.preType) &&
          !(who = .geofence && type ≠ c.gfcSession.preType) } := by
  simp only [switchSessions, switchGfcSession_clients, switchFlpSession_clients,
    switchFlpSession_gfcSession]

theorem switchSessions_host {type : Capability} (host : who.isHost = true) :
    ((switchSessions type c).clients who).gpsUsed = (c.clients who).gpsUsed := by
  cases who <;> cases host <;> simp

@[simp] theorem switchSessions_flpSession (type : Capability) :
    (switchSessions type c).flpSession.type = type := by
  simp only [switchSessions, switchGfcSession_flpSession, switchFlpSession_flpSession]
  split <;> rfl

@[simp] theorem switchSessions_gfcSession (type : Capability) :
    (switchSessions type c).gfcSession.type = type := by
  simp only [switchSessions, switchGfcSession_gfcSession]
  split <;> rfl

@[simp] theorem switchSessions_sent (type : Capability) (other : kind ≠ .notice) :
    (switchSessions type c).sent kind = c.sent kind := by
  simp [switchSessions, other]

end

end Connectivity.Mnld
