import Connectivity.Mnld.Handlers

set_option autoImplicit false

namespace Connectivity.Mnld

open Context

/-- The flags of finished downloads are served in the source's order. -/
def downloadOrder : List Download := [.mtknav, .qepo, .qepoBd, .qepoGa]

@[simps -fullyApplied] def serveDownloads (c : Context) : Context :=
  { c with
    updateFlag := fun _ => false
    out := ((downloadOrder.filter c.updateFlag).map Msg.updateFile).reverse ++ c.out }

/-- The two session types are set without announcing them. -/
@[simps -fullyApplied] def setSessionTypes (type : Capability) (c : Context) : Context :=
  { c with
    flpSession := { c.flpSession with type := type }
    gfcSession := { c.gfcSession with type := type } }

/-- The host sessions are taken over as they stand: type and last announced type. -/
@[simps -fullyApplied] def adoptApSessions (c : Context) : Context :=
  { c with
    flpSession := { c.flpSession with type := .apMode, preType := .apMode }
    gfcSession := { c.gfcSession with type := .apMode, preType := .apMode } }

@[simps! -fullyApplied] def enterStopping (state : GpsState) (c : Context) : Context :=
  gpsControlGpsStop ((c.setState state).startTimer .stop mnldGpsStopTimeoutMs)

/-- The restart test: no start timer for offload users in an offload mode. -/
def bypassStartTimer (cfg : Config) (c : Context) : Bool :=
  onlyOffloadUsers (mtkGpsGetGpsUser c.clients) && offloadModeActive cfg c

/-- The engine is started again although a stop has just been done. -/
def restart (cfg : Config) (state : GpsState) (c : Context) : Context :=
  let c := c.setState state
  gpsControlGpsStart
    (if bypassStartTimer cfg c then c else c.startTimer .start cfg.startTimeOut)

/-- `GPS_EVENT_START` and `GPS_EVENT_OFFLOAD_START` of an idle engine. Both branches of
the source's user test start the timer here. -/
def startFromIdle (cfg : Config) (state : GpsState) (c : Context) : Context :=
  let c := if offloadModeActive cfg c then c else mnl2halRequestWakelock c
  gpsControlGpsStart ((c.setState state).startTimer .start cfg.startTimeOut)

def fsmGpsStateIdle (cfg : Config) (event : GpsEvent) (c : Context) : Option Context :=
  match event with
  | .start => some (startFromIdle cfg .starting c)
  | .stop => some (doGpsStoppedHdlr cfg c)
  | .reset => some (doGpsResetHdlr c)
  | .offloadStart => some (startFromIdle cfg .oflStarting c)
  | .startDone | .stopDone => none

/-- The start is done and some client still wants the engine. -/
def settleStarted (cfg : Config) (c : Context) : Context :=
  let c := serveDownloads (c.setState .started)
  if isAHbdGpsClientExist c.clients || !mnldSupportAutoSwitchMode cfg then
    switchSessions .apMode c
  else
    (adoptApSessions c).startTimer .switchOflMode mnldGpsSwitchOflModeTimeoutMs

def fsmGpsStateStarting (cfg : Config) (event : GpsEvent) (data1 : Int) (c : Context) :
    Option Context :=
  match event with
  | .stop | .start | .offloadStart | .reset => some c
  | .startDone =>
      let c := doGpsStartedHdlr cfg data1 (c.stopTimer .start)
      some (if isAllGpsClientExit c.clients then enterStopping .stopping c
        else settleStarted cfg c)
  | .stopDone => none

/-- A start done that no start waits for: libmnl restarted by itself. -/
@[simps! -fullyApplied] def reaidingReq (c : Context) : Context :=
  c.emit (if gpsUserBit .hal &&& mtkGpsGetGpsUser c.clients ≠ 0 then [.agpsReaidingReq] else [])

def fsmGpsStateStarted (cfg : Config) (event : GpsEvent) (c : Context) : Option Context :=
  match event with
  | .start => some (doGpsStartedHdlr cfg 0 c)
  | .stop =>
      if isAllGpsClientExit c.clients then
        some (gpsControlGpsStop
          (((c.setState .stopping).startTimer .stop mnldGpsStopTimeoutMs).stopTimer .switchOflMode))
      else
        let c := doGpsStoppedHdlr cfg c
        some (if isAllHbdGpsClientExit c.clients && mnldSupportAutoSwitchMode cfg then
          c.startTimer .switchOflMode mnldGpsSwitchOflModeTimeoutMs else c)
  | .reset => some (gpsControlGpsReset c)
  | .startDone => some (reaidingReq c)
  | .offloadStart => some c
  | .stopDone => none

/-- The engine has stopped for good. -/
def settleIdle (cfg : Config) (c : Context) : Context :=
  (if offloadModeActive cfg c then c else mnl2halReleaseWakelock c).setState .idle

def fsmGpsStateStopping (cfg : Config) (event : GpsEvent) (c : Context) : Option Context :=
  match event with
  | .start | .stop => some c
  | .reset => some (doGpsResetHdlr c)
  | .stopDone =>
      let c := doGpsStoppedHdlr cfg (c.stopTimer .stop)
      if isAGpsClientExist c.clients then some (restart cfg .starting c)
      else
        let c := settleIdle cfg c
        some (if mnldSupportAutoSwitchMode cfg then
          switchSessions .apOflMode c else c)
  | .offloadStart | .startDone => some c

def fsmGpsStateOflStarting (cfg : Config) (event : GpsEvent) (data1 : Int) (c : Context) :
    Option Context :=
  match event with
  | .stop | .start | .offloadStart | .reset => some c
  | .startDone =>
      let c := doGpsStartedHdlr cfg data1 (c.stopTimer .start)
      some (if isAllGpsClientExit c.clients || isAHbdGpsClientExist c.clients then
        enterStopping .oflStopping c
        else setSessionTypes .oflMode (c.setState .oflStarted))
  | .stopDone => none

/-- The link clients lose the engine and whatever acknowledgement they wait for. -/
@[simps -fullyApplied gpsState deleteAidingFlag armed flpSession gfcSession offloadLpMode
  offloadFwkWakelock updateFlag out]
def dropLinkClients (c : Context) : Context :=
  { c with clients := fun who =>
      if who = .flp ∨ who = .geofence then
        { c.clients who with gpsUsed := false, needOpenAck := false, needCloseAck := false }
      else c.clients who }

def fsmGpsStateOflStarted (cfg : Config) (event : GpsEvent) (c : Context) : Option Context :=
  match event with
  | .start =>
      let c := doGpsStartedHdlr cfg 0 c
      some (if isAHbdGpsClientExist c.clients then enterStopping .oflStopping (dropLinkClients c)
        else c)
  | .stop =>
      some (if isFlpUserExist c.clients || isGeofenceUserExist c.clients then
        doGpsStoppedHdlr cfg c else enterStopping .oflStopping c)
  | .reset => some c
  | .startDone => some (reaidingReq c)
  | .offloadStart => some c
  | .stopDone => none

/-- `reenter` is `mnld_fsm(GPS_EVENT_START)`, which finds the engine idle. -/
def fsmGpsStateOflStopping (cfg : Config) (reenter : Context → Option Context)
    (event : GpsEvent) (c : Context) : Option Context :=
  match event with
  | .start | .stop => some c
  | .reset => some (doGpsResetHdlr c)
  | .stopDone =>
      let c := doGpsStoppedHdlr cfg (c.stopTimer .stop)
      if (isFlpUserExist c.clients || isGeofenceUserExist c.clients) &&
          isAllHbdGpsClientExit c.clients then
        some (restart cfg .oflStarting c)
      else
        let c := settleIdle cfg c
        if isAHbdGpsClientExist c.clients then
          reenter (switchSessions .apMode c)
        else
          some (if mnldSupportAutoSwitchMode cfg then
            switchSessions .apOflMode c else c)
  | .offloadStart | .startDone => some c

/-- Only offload users are left: the offload low power mode is entered. -/
def enterOffloadLpMode (c : Context) : Context :=
  if c.offloadLpMode then c
  else
    let c := (c.stopTimer .nmeaMonitor).emit [.kernelWakelockGive]
    let c := if c.offloadFwkWakelock then
      { mnl2halReleaseWakelock c with offloadFwkWakelock := false } else c
    { c with offloadLpMode := true }

def leaveOffloadLpMode (cfg : Config) (c : Context) : Context :=
  if c.offloadLpMode then
    let c := ((mnl2halRequestWakelock c).emit [.kernelWakelockTake]).startTimer .nmeaMonitor
      cfg.nmeaDataTimeOut
    { c with offloadLpMode := false, offloadFwkWakelock := true }
  else c

/-- What `mnld_fsm` does before it looks at the state. -/
def wakelockControl (cfg : Config) (c : Context) : Context :=
  if offloadModeActive cfg c then
    let user := mtkGpsGetGpsUser c.clients
    let c := c.emit [.oflSetUser user]
    if onlyOffloadUsers user then enterOffloadLpMode c else leaveOffloadLpMode cfg c
  else c

section

variable (cfg : Config) (state : GpsState) (c : Context) {kind : Traffic}

theorem bypassStartTimer_congr {c d : Context}
    (users : ∀ who, who.isHost = true → (d.clients who).gpsUsed = (c.clients who).gpsUsed)
    (flp : d.flpSession.type = c.flpSession.type) (gfc : d.gfcSession.type = c.gfcSession.type) :
    bypassStartTimer cfg d = bypassStartTimer cfg c := by
  simp only [bypassStartTimer, onlyOffloadUsers_eq, isAllHbdGpsClientExit_congr users,
    offloadModeActive, mnldOffloadIsAutoMode, flp, gfc]

/-- The timer is all that the test decides. -/
theorem restart_eq :
    restart cfg state c = gpsControlGpsStart
      { c with
        gpsState := state
        armed := if bypassStartTimer cfg c then c.armed
          else (c.startTimer .start cfg.startTimeOut).armed } := by
  show gpsControlGpsStart (if bypassStartTimer cfg c then c.setState state
    else (c.setState state).startTimer .start cfg.startTimeOut) = _
  by_cases bypass : bypassStartTimer cfg c = true
  · rw [if_pos bypass, if_pos bypass]
    rfl
  · rw [if_neg bypass, if_neg bypass]
    rfl

/-- The wakelock is all that the test decides. -/
theorem startFromIdle_eq :
    startFromIdle cfg state c = gpsControlGpsStart
      (((c.emit (if offloadModeActive cfg c then [] else [.halRequestWakelock])).setState
        state).startTimer .start cfg.startTimeOut) := by
  unfold startFromIdle
  split <;> rfl

theorem settleIdle_eq :
    settleIdle cfg c =
      (c.emit (if offloadModeActive cfg c then [] else [.halReleaseWakelock])).setState .idle := by
  unfold settleIdle
  split <;> rfl

@[simp] theorem restart_gpsState : (restart cfg state c).gpsState = state := by
  rw [restart_eq]
  rfl

@[simp] theorem restart_clients : (restart cfg state c).clients = c.clients := by
  rw [restart_eq]
  rfl

@[simp] theorem restart_flpSession : (restart cfg state c).flpSession = c.flpSession := by
  rw [restart_eq]
  rfl

@[simp] theorem restart_gfcSession : (restart cfg state c).gfcSession = c.gfcSession := by
  rw [restart_eq]
  rfl

@[simp] theorem restart_offloadLpMode : (restart cfg state c).offloadLpMode = c.offloadLpMode := by
  rw [restart_eq]
  rfl

@[simp] theorem restart_offloadFwkWakelock : (restart cfg state c).offloadFwkWakelock =
    c.offloadFwkWakelock := by
  rw [restart_eq]
  rfl

@[simp] theorem restart_deleteAidingFlag : (restart cfg state c).deleteAidingFlag = 0 := by
  rw [restart_eq]
  rfl

@[simp] theorem restart_armed :
    (restart cfg state c).armed =
      if bypassStartTimer cfg c then c.armed else (c.startTimer .start cfg.startTimeOut).armed := by
  rw [restart_eq]
  rfl

@[simp] theorem restart_sent :
    (restart cfg state c).sent kind =
      if Traffic.engine = kind then .gpsControlGpsStart c.deleteAidingFlag :: c.sent kind
      else c.sent kind := by
  rw [restart_eq, gpsControlGpsStart_sent]
  rfl

@[simp] theorem startFromIdle_gpsState : (startFromIdle cfg state c).gpsState = state := by
  rw [startFromIdle_eq]
  rfl

@[simp] theorem startFromIdle_clients : (startFromIdle cfg state c).clients = c.clients := by
  rw [startFromIdle_eq]
  rfl

@[simp] theorem startFromIdle_flpSession : (startFromIdle cfg state c).flpSession =
    c.flpSession := by
  rw [startFromIdle_eq]
  rfl

@[simp] theorem startFromIdle_gfcSession : (startFromIdle cfg state c).gfcSession =
    c.gfcSession := by
  rw [startFromIdle_eq]
  rfl

@[simp] theorem startFromIdle_offloadLpMode : (startFromIdle cfg state c).offloadLpMode =
    c.offloadLpMode := by
  rw [startFromIdle_eq]
  rfl

@[simp] theorem startFromIdle_offloadFwkWakelock : (startFromIdle cfg state c).offloadFwkWakelock =
    c.offloadFwkWakelock := by
  rw [startFromIdle_eq]
  rfl

@[simp] theorem startFromIdle_deleteAidingFlag :
    (startFromIdle cfg state c).deleteAidingFlag = 0 := by
  rw [startFromIdle_eq]
  rfl

@[simp] theorem startFromIdle_armed :
    (startFromIdle cfg state c).armed = (c.startTimer .start cfg.startTimeOut).armed := by
  rw [startFromIdle_eq]
  rfl

theorem startFromIdle_sent_wakelock :
    (startFromIdle cfg state c).sent .wakelock =
      if offloadModeActive cfg c then c.sent .wakelock
      else .halRequestWakelock :: c.sent .wakelock := by
  unfold startFromIdle
  split <;> rfl

@[simp] theorem startFromIdle_sent_engine :
    (startFromIdle cfg state c).sent .engine =
      .gpsControlGpsStart c.deleteAidingFlag :: c.sent .engine := by
  unfold startFromIdle
  split <;> rfl

@[simp] theorem startFromIdle_sent_resetAck :
    (startFromIdle cfg state c).sent .resetAck = c.sent .resetAck := by
  unfold startFromIdle
  split <;> rfl

@[simp] theorem settleIdle_gpsState : (settleIdle cfg c).gpsState = .idle := by
  rw [settleIdle_eq]
  rfl

@[simp] theorem settleIdle_clients : (settleIdle cfg c).clients = c.clients := by
  rw [settleIdle_eq]
  rfl

@[simp] theorem settleIdle_flpSession : (settleIdle cfg c).flpSession = c.flpSession := by
  rw [settleIdle_eq]
  rfl

@[simp] theorem settleIdle_gfcSession : (settleIdle cfg c).gfcSession = c.gfcSession := by
  rw [settleIdle_eq]
  rfl

@[simp] theorem settleIdle_offloadLpMode : (settleIdle cfg c).offloadLpMode = c.offloadLpMode := by
  rw [settleIdle_eq]
  rfl

@[simp] theorem settleIdle_offloadFwkWakelock : (settleIdle cfg c).offloadFwkWakelock =
    c.offloadFwkWakelock := by
  rw [settleIdle_eq]
  rfl

@[simp] theorem settleIdle_deleteAidingFlag :
    (settleIdle cfg c).deleteAidingFlag = c.deleteAidingFlag := by
  rw [settleIdle_eq]
  rfl

@[simp] theorem settleIdle_armed : (settleIdle cfg c).armed = c.armed := by
  rw [settleIdle_eq]
  rfl

theorem settleIdle_sent_wakelock :
    (settleIdle cfg c).sent .wakelock =
      if offloadModeActive cfg c then c.sent .wakelock
      else .halReleaseWakelock :: c.sent .wakelock := by
  unfold settleIdle
  split <;> rfl

@[simp] theorem settleIdle_sent_engine : (settleIdle cfg c).sent .engine = c.sent .engine := by
  unfold settleIdle
  split <;> rfl

@[simp] theorem settleIdle_sent_resetAck : (settleIdle cfg c).sent .resetAck =
    c.sent .resetAck := by
  unfold settleIdle
  split <;> rfl

@[simp] theorem serveDownloads_sent (other : kind ≠ .notice) :
    (serveDownloads c).sent kind = c.sent kind := by
  apply sent_of_notices other (serveDownloads_out c)
  intro msg inside
  obtain ⟨download, -, rfl⟩ := List.mem_map.mp (List.mem_reverse.mp inside)
  rfl

@[simp] theorem adoptApSessions_sent : (adoptApSessions c).sent kind = c.sent kind := rfl

@[simp] theorem setSessionTypes_sent (type : Capability) :
    (setSessionTypes type c).sent kind = c.sent kind := rfl

@[simp] theorem dropLinkClients_clients (who : ClientId) :
    (dropLinkClients c).clients who =
      { c.clients who with
        gpsUsed := (c.clients who).gpsUsed && (who ≠ .flp && who ≠ .geofence)
        needOpenAck := (c.clients who).needOpenAck && (who ≠ .flp && who ≠ .geofence)
        needCloseAck := (c.clients who).needCloseAck && (who ≠ .flp && who ≠ .geofence) } := by
  cases who <;> simp [dropLinkClients]

theorem dropLinkClients_host {who : ClientId} (host : who.isHost = true) :
    ((dropLinkClients c).clients who).gpsUsed = (c.clients who).gpsUsed := by
  cases who <;> cases host <;> simp

@[simp] theorem dropLinkClients_sent : (dropLinkClients c).sent kind = c.sent kind := rfl

@[simp] theorem reaidingReq_sent (other : kind ≠ .notice) :
    (reaidingReq c).sent kind = c.sent kind := by
  apply sent_of_notices other (reaidingReq_out c)
  split <;> simp [Msg.traffic]

@[simp] theorem enterStopping_sent :
    (enterStopping state c).sent kind =
      if Traffic.engine = kind then .gpsControlGpsStop :: c.sent kind else c.sent kind := by
  rw [enterStopping, gpsControlGpsStop_sent, startTimer_sent, setState_sent]

/-- The wakelock control touches neither clients nor sessions nor the engine. -/
structure WakelockFrame (d c : Context) : Prop where
  clients : d.clients = c.clients
  gpsState : d.gpsState = c.gpsState
  deleteAidingFlag : d.deleteAidingFlag = c.deleteAidingFlag
  flpSession : d.flpSession = c.flpSession
  gfcSession : d.gfcSession = c.gfcSession
  armed : ∀ timer, timer ≠ .nmeaMonitor → d.armed timer = c.armed timer
  engine : d.sent .engine = c.sent .engine
  resetAck : d.sent .resetAck = c.sent .resetAck

theorem enterOffloadLpMode_frame : WakelockFrame (enterOffloadLpMode c) c := by
  by_cases lp : c.offloadLpMode = true
  · rw [enterOffloadLpMode, if_pos lp]
    constructor <;> intros <;> rfl
  · by_cases fwk : c.offloadFwkWakelock = true
    · simp only [enterOffloadLpMode, if_neg lp, emit_offloadFwkWakelock,
        stopTimer_offloadFwkWakelock, if_pos fwk]
      constructor <;> intros <;> simp [sent, *, Msg.traffic]
    · simp only [enterOffloadLpMode, if_neg lp, emit_offloadFwkWakelock,
        stopTimer_offloadFwkWakelock, if_neg fwk]
      constructor <;> intros <;> simp [sent, *, Msg.traffic]

theorem leaveOffloadLpMode_frame : WakelockFrame (leaveOffloadLpMode cfg c) c := by
  by_cases lp : c.offloadLpMode = true
  · simp only [leaveOffloadLpMode, if_pos lp]
    constructor <;> intros <;> simp [sent, *, Msg.traffic]
  · simp only [leaveOffloadLpMode, if_neg lp]
    constructor <;> intros <;> rfl

theorem WakelockFrame.trans {c d e : Context} (first : WakelockFrame d c)
    (second : WakelockFrame e d) : WakelockFrame e c where
  clients := second.clients.trans first.clients
  gpsState := second.gpsState.trans first.gpsState
  deleteAidingFlag := second.deleteAidingFlag.trans first.deleteAidingFlag
  flpSession := second.flpSession.trans first.flpSession
  gfcSession := second.gfcSession.trans first.gfcSession
  armed timer other := (second.armed timer other).trans (first.armed timer other)
  engine := second.engine.trans first.engine
  resetAck := second.resetAck.trans first.resetAck

theorem wakelockControl_frame : WakelockFrame (wakelockControl cfg c) c := by
  have told : WakelockFrame (c.emit [.oflSetUser (mtkGpsGetGpsUser c.clients)]) c := by
    constructor <;> intros <;> rfl
  unfold wakelockControl
  split
  · simp only
    split
    · exact told.trans (enterOffloadLpMode_frame _)
    · exact told.trans (leaveOffloadLpMode_frame cfg _)
  · constructor <;> intros <;> rfl

@[simp] theorem wakelockControl_clients : (wakelockControl cfg c).clients = c.clients :=
  (wakelockControl_frame cfg c).clients

@[simp] theorem wakelockControl_gpsState : (wakelockControl cfg c).gpsState = c.gpsState :=
  (wakelockControl_frame cfg c).gpsState

@[simp] theorem wakelockControl_armed {timer : TimerId} (other : timer ≠ .nmeaMonitor) :
    (wakelockControl cfg c).armed timer = c.armed timer :=
  (wakelockControl_frame cfg c).armed timer other

@[simp] theorem wakelockControl_flpSession :
    (wakelockControl cfg c).flpSession = c.flpSession :=
  (wakelockControl_frame cfg c).flpSession

@[simp] theorem wakelockControl_gfcSession :
    (wakelockControl cfg c).gfcSession = c.gfcSession :=
  (wakelockControl_frame cfg c).gfcSession

@[simp] theorem wakelockControl_deleteAidingFlag :
    (wakelockControl cfg c).deleteAidingFlag = c.deleteAidingFlag :=
  (wakelockControl_frame cfg c).deleteAidingFlag

@[simp] theorem wakelockControl_sent_resetAck :
    (wakelockControl cfg c).sent .resetAck = c.sent .resetAck :=
  (wakelockControl_frame cfg c).resetAck

@[simp] theorem wakelockControl_sent_engine :
    (wakelockControl cfg c).sent .engine = c.sent .engine :=
  (wakelockControl_frame cfg c).engine

end

/-- The state functions, chosen by the state at entry. -/
def fsmGpsState (cfg : Config) (reenter : Context → Option Context) (event : GpsEvent)
    (data1 : Int) (c : Context) : Option Context :=
  match c.gpsState with
  | .idle => fsmGpsStateIdle cfg event c
  | .starting => fsmGpsStateStarting cfg event data1 c
  | .started => fsmGpsStateStarted cfg event c
  | .stopping => fsmGpsStateStopping cfg event c
  | .oflStarting => fsmGpsStateOflStarting cfg event data1 c
  | .oflStarted => fsmGpsStateOflStarted cfg event c
  | .oflStopping => fsmGpsStateOflStopping cfg reenter event c

/-- `mnld_fsm(GPS_EVENT_START)` as the offload stopping state calls it. -/
def mnldFsmIdleStart (cfg : Config) (c : Context) : Option Context :=
  fsmGpsStateIdle cfg .start (wakelockControl cfg c)

def mnldFsm (cfg : Config) (event : GpsEvent) (data1 : Int) (c : Context) : Option Context :=
  fsmGpsState cfg (mnldFsmIdleStart cfg) event data1 (wakelockControl cfg c)

end Connectivity.Mnld
