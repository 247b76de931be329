import Connectivity.Mnld.Fsm

set_option autoImplicit false

/- The callers of `mnld_fsm`. A request sets the flags of its client and raises one event. -/
namespace Connectivity.Mnld

open Context

structure Request where
  prepare : Context → Context
  event : GpsEvent
  data1 : Int

def Request.run (cfg : Config) (r : Request) (c : Context) : Option Context :=
  mnldFsm cfg r.event r.data1 (r.prepare c)

/-- A client takes the engine, waiting for the acknowledgement or not. -/
@[simps! -fullyApplied] def openClient (who : ClientId) (ack : Bool) (c : Context) : Context :=
  c.setClient who fun client =>
    { client with gpsUsed := true, needOpenAck := ack, needCloseAck := false }

/-- A client leaves the engine, waiting for the acknowledgement or not. -/
@[simps! -fullyApplied] def closeClient (who : ClientId) (ack : Bool) (c : Context) : Context :=
  c.setClient who fun client =>
    { client with gpsUsed := false, needOpenAck := false, needCloseAck := ack }

/-- A client's process restarted. -/
@[simps! -fullyApplied] def rebootClient (who : ClientId) (c : Context) : Context :=
  c.setClient who fun _ => {}

@[simps -fullyApplied] def requestReset (flags : BitVec 32) (c : Context) : Context :=
  { c with deleteAidingFlag := c.deleteAidingFlag ||| flags }

def openRequest (who : ClientId) (ack : Bool) : Request := ⟨openClient who ack, .start, 0⟩

def closeRequest (who : ClientId) (ack : Bool) : Request := ⟨closeClient who ack, .stop, 0⟩

def rebootRequest (who : ClientId) : Request := ⟨rebootClient who, .stop, 0⟩

def halReboot : Request := rebootRequest .hal

def halGpsStart : Request :=
  ⟨fun c => (openClient .hal true c).emit [.halTriggerEpoDownload], .start, 0⟩

def halGpsStop : Request := closeRequest .hal true

def halGpsDeleteAidingData (flags : BitVec 32) : Request :=
  ⟨fun c => requestReset flags (((c.emit [.agpsDeleteAidingData flags]).setClient .hal
    fun hal => { hal with needResetAck := false })), .reset, 0⟩

def agpsReboot : Request := rebootRequest .agps

def agpsOpenGpsReq : Request := openRequest .agps true

def agpsCloseGpsReq : Request := closeRequest .agps true

/-- `agps_reset_gps_req` of flags other than zero, which are answered at once. -/
def agpsResetGpsReq (flags : BitVec 32) : Request :=
  ⟨fun c => (requestReset flags c).setClient .agps
    fun agps => { agps with needResetAck := true }, .reset, 0⟩

def mnldFlpHbdGpsOpen : Request := openRequest .flp true

def mnldFlpHbdGpsClose : Request := closeRequest .flp true

def mnldFlpOflLinkOpen : Request :=
  ⟨fun c => { openClient .flp true c with flpSession := { c.flpSession with type := .oflMode } },
    .offloadStart, 0⟩

def mnldFlpOflLinkClose : Request := closeRequest .flp true

def mnldGfcHbdGpsOpen : Request := openRequest .geofence true

def mnldGfcHbdGpsClose : Request := closeRequest .geofence true

def mnldGfcOflLinkOpen : Request :=
  ⟨fun c => { openClient .geofence true c with
      gfcSession := { c.gfcSession with type := .oflMode } },
    .offloadStart, 0⟩

def mnldGfcOflLinkClose : Request := closeRequest .geofence true

def flpTest2mnlGpsStart : Request := openRequest .flpTest false

def flpTest2mnlGpsStop : Request := closeRequest .flpTest false

def factoryMnldGpsStart : Request := openRequest .factory false

def factoryMnldGpsStop : Request := closeRequest .factory false

def atTest2mnlGpsStart : Request := openRequest .atCmdTest false

def atTest2mnlGpsStop : Request := closeRequest .atCmdTest false

def gpsStartDone (isAssistReq : Int) : Request := ⟨id, .startDone, isAssistReq⟩

def gpsStopDone : Request := ⟨id, .stopDone, 0⟩

/-- `GPS2MAIN_EVENT_RESET_DONE`. -/
def gpsResetDone (c : Context) : Context := doGpsResetHdlr (c.stopTimer .reset)

def mnldIsGpsStarted (c : Context) : Bool :=
  c.gpsState == .starting || c.gpsState == .started

def mnldIsGpsStartedDone (c : Context) : Bool := c.gpsState == .started

def mnldIsGpsOrOflStartedDone (c : Context) : Bool :=
  mnldIsGpsStartedDone c || c.gpsState == .oflStarted

/-- The reboot messages that follow the stop of an engine whose output has ceased. -/
def nmeaReboot (c : Context) : Context :=
  c.emit [.halMnldReboot, .agpsMnlReboot,
    .flp (.sessionUpdate c.flpSession.id c.flpSession.type), .flp .mnldReboot,
    .gfc (.sessionUpdate c.gfcSession.id c.gfcSession.type), .gfc .mnldReboot]

/-- `GPS2MAIN_EVENT_NMEA_TIMEOUT`. -/
def nmeaTimeout (cfg : Config) (c : Context) : Option Context :=
  if mnldIsGpsStartedDone c then
    ((⟨mtkGpsClearGpsUser, .stop, 0⟩ : Request).run cfg c).map nmeaReboot
  else some c

/-- `mnld_gps_switch_ofl_mode_timeout`. It runs only when the timer was armed, and
the timer is not periodic. -/
def mnldGpsSwitchOflModeTimeout (cfg : Config) (c : Context) : Option Context :=
  if c.armed .switchOflMode then
    let c := c.stopTimer .switchOflMode
    if isAllHbdGpsClientExit c.clients then
      (⟨dropLinkClients, .stop, 0⟩ : Request).run cfg c
    else some c
  else none

/-- A finished download: its file is updated now, or its flag waits for the start. -/
def downloadDone (download : Download) (c : Context) : Context :=
  if mnldIsGpsOrOflStartedDone c then c.emit [.updateFile download]
  else { c with updateFlag := Function.update c.updateFlag download true }

def debugReqMnldMessage (start : Bool) (c : Context) : Context :=
  { c with enableDebug := start }.emit
    ((if mnldIsGpsStarted c then [Msg.setDebugConfig start] else []) ++
      [Msg.debugAckReq, Msg.debugGpsStatus (mnldIsGpsStarted c)])

section

variable (c : Context) {kind : Traffic}

@[simp] theorem nmeaReboot_sent (other : kind ≠ .notice) :
    (nmeaReboot c).sent kind = c.sent kind :=
  emit_notices_sent other (by simp [Msg.traffic])

@[simp] theorem downloadDone_sent (download : Download) (other : kind ≠ .notice) :
    (downloadDone download c).sent kind = c.sent kind := by
  unfold downloadDone
  split
  · exact emit_notices_sent other (by simp [Msg.traffic])
  · rfl

@[simp] theorem debugReqMnldMessage_sent (start : Bool) (other : kind ≠ .notice) :
    (debugReqMnldMessage start c).sent kind = c.sent kind := by
  apply (emit_notices_sent other _ : _ = ({ c with enableDebug := start } : Context).sent kind)
  split <;> simp [Msg.traffic]

end

/-- What the main thread is handed, by its sockets and its timers. -/
inductive Input
  | halReboot | halGpsStart | halGpsStop | halGpsDeleteAidingData (flags : BitVec 32)
  | agpsReboot | agpsOpenGpsReq | agpsCloseGpsReq | agpsResetGpsReq (flags : BitVec 32)
  | flpHbdGpsOpen | flpHbdGpsClose | flpOflLinkOpen | flpOflLinkClose
  | gfcHbdGpsOpen | gfcHbdGpsClose | gfcOflLinkOpen | gfcOflLinkClose
  | flpTestGpsStart | flpTestGpsStop | factoryGpsStart | factoryGpsStop
  | atTestGpsStart | atTestGpsStop
  | startDone (isAssistReq : Int) | stopDone | resetDone
  | nmeaTimeout | switchOflModeTimeout
  | downloadDone (download : Download) | debugReq (start : Bool)
  deriving DecidableEq, Repr

/-- One input handled to its end. No state follows an event the source crashes on,
and none a timeout whose timer is not armed. -/
def step (cfg : Config) (c : Context) : Input → Option Context
  | .halReboot => Mnld.halReboot.run cfg c
  | .halGpsStart => Mnld.halGpsStart.run cfg c
  | .halGpsStop => Mnld.halGpsStop.run cfg c
  | .halGpsDeleteAidingData flags => (Mnld.halGpsDeleteAidingData flags).run cfg c
  | .agpsReboot => Mnld.agpsReboot.run cfg c
  | .agpsOpenGpsReq => Mnld.agpsOpenGpsReq.run cfg c
  | .agpsCloseGpsReq => Mnld.agpsCloseGpsReq.run cfg c
  | .agpsResetGpsReq flags =>
      if flags = 0 then some (c.emit [.agpsResetGpsDone])
      else (Mnld.agpsResetGpsReq flags).run cfg c
  | .flpHbdGpsOpen => mnldFlpHbdGpsOpen.run cfg c
  | .flpHbdGpsClose => mnldFlpHbdGpsClose.run cfg c
  | .flpOflLinkOpen => mnldFlpOflLinkOpen.run cfg c
  | .flpOflLinkClose => mnldFlpOflLinkClose.run cfg c
  | .gfcHbdGpsOpen => mnldGfcHbdGpsOpen.run cfg c
  | .gfcHbdGpsClose => mnldGfcHbdGpsClose.run cfg c
  | .gfcOflLinkOpen => mnldGfcOflLinkOpen.run cfg c
  | .gfcOflLinkClose => mnldGfcOflLinkClose.run cfg c
  | .flpTestGpsStart => flpTest2mnlGpsStart.run cfg c
  | .flpTestGpsStop => flpTest2mnlGpsStop.run cfg c
  | .factoryGpsStart => factoryMnldGpsStart.run cfg c
  | .factoryGpsStop => factoryMnldGpsStop.run cfg c
  | .atTestGpsStart => atTest2mnlGpsStart.run cfg c
  | .atTestGpsStop => atTest2mnlGpsStop.run cfg c
  | .startDone isAssistReq => (gpsStartDone isAssistReq).run cfg c
  | .stopDone => gpsStopDone.run cfg c
  | .resetDone => some (gpsResetDone c)
  | .nmeaTimeout => nmeaTimeout cfg c
  | .switchOflModeTimeout => mnldGpsSwitchOflModeTimeout cfg c
  | .downloadDone download => some (downloadDone download c)
  | .debugReq start => some (debugReqMnldMessage start c)

/-- The inputs that set flags and raise one event whatever the state is. -/
def Input.request : Input → Option Request
  | .halReboot => some Mnld.halReboot
  | .halGpsStart => some Mnld.halGpsStart
  | .halGpsStop => some Mnld.halGpsStop
  | .halGpsDeleteAidingData flags => some (Mnld.halGpsDeleteAidingData flags)
  | .agpsReboot => some Mnld.agpsReboot
  | .agpsOpenGpsReq => some Mnld.agpsOpenGpsReq
  | .agpsCloseGpsReq => some Mnld.agpsCloseGpsReq
  | .agpsResetGpsReq flags => if flags = 0 then none else some (Mnld.agpsResetGpsReq flags)
  | .flpHbdGpsOpen => some mnldFlpHbdGpsOpen
  | .flpHbdGpsClose => some mnldFlpHbdGpsClose
  | .flpOflLinkOpen => some mnldFlpOflLinkOpen
  | .flpOflLinkClose => some mnldFlpOflLinkClose
  | .gfcHbdGpsOpen => some mnldGfcHbdGpsOpen
  | .gfcHbdGpsClose => some mnldGfcHbdGpsClose
  | .gfcOflLinkOpen => some mnldGfcOflLinkOpen
  | .gfcOflLinkClose => some mnldGfcOflLinkClose
  | .flpTestGpsStart => some flpTest2mnlGpsStart
  | .flpTestGpsStop => some flpTest2mnlGpsStop
  | .factoryGpsStart => some factoryMnldGpsStart
  | .factoryGpsStop => some factoryMnldGpsStop
  | .atTestGpsStart => some atTest2mnlGpsStart
  | .atTestGpsStop => some atTest2mnlGpsStop
  | .startDone isAssistReq => some (gpsStartDone isAssistReq)
  | .stopDone => some gpsStopDone
  | .resetDone | .nmeaTimeout | .switchOflModeTimeout | .downloadDone _ | .debugReq _ => none

end Connectivity.Mnld
