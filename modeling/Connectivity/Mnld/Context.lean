import Mathlib.Logic.Function.Basic
import Mathlib.Data.List.Basic
import Mathlib.Tactic.Simps.Basic

set_option autoImplicit false

/- The data of the GNSS daemon's state machine: its clients, its configuration,
the global context and everything it sends. -/
namespace Connectivity.Mnld

/-- The members of `mnld_gps_clients`. -/
inductive ClientId
  | hal | agps | flp | flpTest | geofence | atCmdTest | factory
  deriving DecidableEq, Repr

/-- `mnld_gps_client`. -/
structure Client where
  gpsUsed : Bool := false
  needOpenAck : Bool := false
  needCloseAck : Bool := false
  needResetAck : Bool := false
  deriving DecidableEq, Repr

abbrev Clients := ClientId → Client

/-- `mnld_gps_state`. -/
inductive GpsState
  | idle | starting | started | stopping | oflStarting | oflStarted | oflStopping
  deriving DecidableEq, Repr

/-- `mnld_gps_event`. -/
inductive GpsEvent
  | start | stop | reset | startDone | stopDone | offloadStart
  deriving DecidableEq, Repr

/-- The values `MNLD_FLP_CAPABILITY_*` and `MNLD_GFC_CAPABILITY_*` of a session's type. -/
inductive Capability
  | apMode | oflMode | apOflMode
  deriving DecidableEq, Repr

/-- `MTK_FLP_Session_T` and `MTK_GFC_Session_T`. -/
structure Session where
  type : Capability
  preType : Capability
  id : BitVec 32
  deriving DecidableEq, Repr

/-- The timers of `mnld_gps_status`. -/
inductive TimerId
  | start | stop | reset | nmeaMonitor | switchOflMode
  deriving DecidableEq, Repr

/-- What is fixed before the first event: the fields of `mnld_cfg`, as the property
file or the chip set them, and whether the chip was one whose sessions
`mnld_offload_check_capability` starts as AP and offload at once. -/
structure Config where
  offloadEnabled : Int
  offloadSwitchMode : Int
  offloadChip : Bool
  startTimeOut : Int
  nmeaDataTimeOut : Int

/-- The values of `MTK_GPS_STATUS_SESSION_*` reported to the HAL. -/
inductive HalGpsStatus
  | sessionBegin | sessionEnd | sessionEngineOn | sessionEngineOff
  deriving DecidableEq, Repr

/-- What the daemon tells the FLP and the geofence interface of their link. -/
inductive LinkNotice
  | hbdGpsOpenDone | hbdGpsCloseDone | oflGpsOpenDone | oflGpsCloseDone
  | sessionUpdate (id : BitVec 32) (type : Capability) | mnldReboot
  deriving DecidableEq, Repr

/-- The file updates a download that finished before the start was done waits for. -/
inductive Download
  | mtknav | qepo | qepoBd | qepoGa
  deriving DecidableEq, Repr

/-- Everything the state machine and its callers send. -/
inductive Msg
  | gpsControlGpsStart (deleteAidingFlag : BitVec 32)
  | gpsControlGpsStop
  | gpsControlGpsReset (deleteAidingFlag : BitVec 32)
  | halRequestWakelock
  | halReleaseWakelock
  | halGpsStatus (status : HalGpsStatus)
  | halMnldReboot
  | halTriggerEpoDownload
  | kernelWakelockTake
  | kernelWakelockGive
  | agpsGpsOpen (siAssistReq : Int)
  | agpsOpenGpsDone
  | agpsGpsClose
  | agpsCloseGpsDone
  | agpsResetGpsDone
  | agpsReaidingReq
  | agpsDeleteAidingData (flags : BitVec 32)
  | agpsMnlReboot
  | flp (notice : LinkNotice)
  | gfc (notice : LinkNotice)
  | oflSetUser (user : BitVec 32)
  | debugGpsStatus (started : Bool)
  | debugAckReq
  | setDebugConfig (on : Bool)
  | nlpCancelLocation
  | updateFile (download : Download)
  deriving DecidableEq, Repr

/-- The kinds of traffic the results below follow; all else is a notice. -/
inductive Traffic
  | engine | wakelock | resetAck | notice
  deriving DecidableEq, Repr

def Msg.traffic : Msg → Traffic
  | .gpsControlGpsStart _ | .gpsControlGpsStop | .gpsControlGpsReset _ => .engine
  | .halRequestWakelock | .halReleaseWakelock => .wakelock
  | .agpsResetGpsDone => .resetAck
  | .halGpsStatus _ | .halMnldReboot | .halTriggerEpoDownload
  | .kernelWakelockTake | .kernelWakelockGive
  | .agpsGpsOpen _ | .agpsOpenGpsDone | .agpsGpsClose | .agpsCloseGpsDone
  | .agpsReaidingReq | .agpsDeleteAidingData _ | .agpsMnlReboot
  | .flp _ | .gfc _ | .oflSetUser _
  | .debugGpsStatus _ | .debugAckReq | .setDebugConfig _
  | .nlpCancelLocation | .updateFile _ => .notice

/-- `mnld_context` with the file-scope variables of the state machine and the two
sessions. `armed` tells the running timers; `out` is what was sent, latest first. -/
structure Context where
  clients : Clients
  gpsState : GpsState
  deleteAidingFlag : BitVec 32
  armed : TimerId → Bool
  flpSession : Session
  gfcSession : Session
  offloadLpMode : Bool
  offloadFwkWakelock : Bool
  enableDebug : Bool
  updateFlag : Download → Bool
  out : List Msg

/-- The context `main` leaves to the first event: all zero, the sessions as their
initialisers or the chip check made them. -/
def initial (cfg : Config) : Context where
  clients := fun _ => {}
  gpsState := .idle
  deleteAidingFlag := 0
  armed := fun _ => false
  flpSession := if cfg.offloadChip then ⟨.apOflMode, .apOflMode, 1⟩ else ⟨.apMode, .apMode, 1⟩
  gfcSession := if cfg.offloadChip then ⟨.apOflMode, .apOflMode, 1⟩ else ⟨.apMode, .apMode, 1⟩
  offloadLpMode := false
  offloadFwkWakelock := false
  enableDebug := false
  updateFlag := fun _ => false
  out := []

namespace Context

@[simps -fullyApplied] def emit (msgs : List Msg) (c : Context) : Context :=
  { c with out := msgs.reverse ++ c.out }

@[simps -fullyApplied] def setState (state : GpsState) (c : Context) : Context :=
  { c with gpsState := state }

@[simps -fullyApplied] def setClient (who : ClientId) (change : Client → Client)
    (c : Context) : Context :=
  { c with clients := Function.update c.clients who (change (c.clients who)) }

/-- `start_timer`: no time disarms the timer, a negative one is refused by the
kernel and changes nothing. -/
@[simps -fullyApplied] def startTimer (timer : TimerId) (milliseconds : Int)
    (c : Context) : Context :=
  { c with
    armed := Function.update c.armed timer
      (if milliseconds < 0 then c.armed timer else milliseconds != 0) }

theorem startTimer_armed_iff {timer : TimerId} {milliseconds : Int} {c : Context}
    (off : c.armed timer = false) :
    (c.startTimer timer milliseconds).armed timer = true ↔ 0 < milliseconds := by
  simp only [startTimer_armed, Function.update_self, off]
  split
  · simp only [Bool.false_eq_true, false_iff]
    omega
  · simp only [bne_iff_ne]
    omega

/-- `stop_timer`. -/
@[simps! -fullyApplied] def stopTimer (timer : TimerId) (c : Context) : Context :=
  c.startTimer timer 0

/-- The traffic of one kind, latest first. -/
def sent (kind : Traffic) (c : Context) : List Msg := c.out.filter fun msg => msg.traffic = kind

section

variable (c : Context) (kind : Traffic)

@[simp] theorem emit_sent (msgs : List Msg) :
    (c.emit msgs).sent kind = (msgs.filter fun msg => msg.traffic = kind).reverse ++
        c.sent kind := by
  simp only [sent, emit_out, List.filter_append, List.filter_reverse]

@[simp] theorem setState_sent (state : GpsState) : (c.setState state).sent kind = c.sent kind := rfl

@[simp] theorem setClient_sent (who : ClientId) (change : Client → Client) :
    (c.setClient who change).sent kind = c.sent kind := rfl

@[simp] theorem startTimer_sent (timer : TimerId) (milliseconds : Int) :
    (c.startTimer timer milliseconds).sent kind = c.sent kind := rfl

@[simp] theorem stopTimer_sent (timer : TimerId) : (c.stopTimer timer).sent kind =
    c.sent kind := rfl

variable {c} {kind} {d : Context}

theorem sent_congr (out : d.out = c.out) : d.sent kind = c.sent kind := by
  simp only [sent, out]

theorem sent_cons {msg : Msg} (out : d.out = msg :: c.out) :
    d.sent kind = if msg.traffic = kind then msg :: c.sent kind else c.sent kind := by
  simp only [sent, out, List.filter_cons, decide_eq_true_eq]

/-- Notices are no other traffic. -/
theorem sent_of_notices {msgs : List Msg}
    (other : kind ≠ .notice) (out : d.out = msgs ++ c.out)
    (notices : ∀ msg ∈ msgs, msg.traffic = .notice) : d.sent kind = c.sent kind := by
  have none : (msgs.filter fun msg => msg.traffic = kind) = [] := by
    rw [List.filter_eq_nil_iff]
    intro msg inside
    simpa only [notices msg inside, decide_eq_true_eq] using other.symm
  simp only [sent, out, List.filter_append, none, List.nil_append]

theorem emit_notices_sent {msgs : List Msg} (other : kind ≠ .notice)
    (notices : ∀ msg ∈ msgs, msg.traffic = .notice) : (c.emit msgs).sent kind = c.sent kind :=
  sent_of_notices other (emit_out msgs c) fun msg inside =>
    notices msg (List.mem_reverse.mp inside)

end

end Context

end Connectivity.Mnld
