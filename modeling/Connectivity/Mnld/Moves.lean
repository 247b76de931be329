import Connectivity.Mnld.Requests

set_option autoImplicit false

/- What one event and one input can do, read off the code once: every case with the
tests that lead to it and the straight-line code it runs. -/
namespace Connectivity.Mnld

open Context

/-- The cells of the state table that only log. -/
def ignores : GpsState → GpsEvent → Bool
  | .starting, .start | .starting, .stop | .starting, .offloadStart | .starting, .reset => true
  | .oflStarting, .start | .oflStarting, .stop | .oflStarting, .offloadStart
  | .oflStarting, .reset => true
  | .started, .offloadStart | .oflStarted, .offloadStart | .oflStarted, .reset => true
  | .stopping, .start | .stopping, .stop | .stopping, .offloadStart | .stopping, .startDone => true
  | .oflStopping, .start | .oflStopping, .stop | .oflStopping, .offloadStart
  | .oflStopping, .startDone => true
  | _, _ => false

inductive FsmMove (cfg : Config) (c : Context) : GpsEvent → Int → Context → Prop
  | ignored {event data1} (unheard : ignores c.gpsState event = true) :
      FsmMove cfg c event data1 c
  | start {data1} (idle : c.gpsState = .idle) :
      FsmMove cfg c .start data1 (startFromIdle cfg .starting c)
  | offloadStart {data1} (idle : c.gpsState = .idle) :
      FsmMove cfg c .offloadStart data1 (startFromIdle cfg .oflStarting c)
  | stopIdle {data1} (idle : c.gpsState = .idle) :
      FsmMove cfg c .stop data1 (doGpsStoppedHdlr cfg c)
  | resetDown {data1}
      (down : c.gpsState = .idle ∨ c.gpsState = .stopping ∨ c.gpsState = .oflStopping) :
      FsmMove cfg c .reset data1 (doGpsResetHdlr c)
  | startDoneUnused {data1} (starting : c.gpsState = .starting)
      (nobody : isAllGpsClientExit c.clients = true) :
      FsmMove cfg c .startDone data1
          (enterStopping .stopping (doGpsStartedHdlr cfg data1 (c.stopTimer .start)))
  | startDoneHost {data1} (starting : c.gpsState = .starting)
      (someone : isAllGpsClientExit c.clients = false)
      (host : (isAHbdGpsClientExist c.clients || !mnldSupportAutoSwitchMode cfg) = true) :
      FsmMove cfg c .startDone data1
        (switchSessions .apMode
            (serveDownloads ((doGpsStartedHdlr cfg data1 (c.stopTimer .start)).setState .started)))
  | startDoneLink {data1} (starting : c.gpsState = .starting)
      (someone : isAllGpsClientExit c.clients = false)
      (link : (isAHbdGpsClientExist c.clients || !mnldSupportAutoSwitchMode cfg) = false) :
      FsmMove cfg c .startDone data1
        ((adoptApSessions (serveDownloads
          ((doGpsStartedHdlr cfg data1 (c.stopTimer .start)).setState .started))).startTimer
              .switchOflMode
            mnldGpsSwitchOflModeTimeoutMs)
  | startStarted {data1} (started : c.gpsState = .started) :
      FsmMove cfg c .start data1 (doGpsStartedHdlr cfg 0 c)
  | stopStarted {data1} (started : c.gpsState = .started)
      (nobody : isAllGpsClientExit c.clients = true) :
      FsmMove cfg c .stop data1 (gpsControlGpsStop
        (((c.setState .stopping).startTimer .stop mnldGpsStopTimeoutMs).stopTimer .switchOflMode))
  | leaveStarted {data1} (started : c.gpsState = .started)
      (someone : isAllGpsClientExit c.clients = false) :
      FsmMove cfg c .stop data1 (doGpsStoppedHdlr cfg c)
  | leaveStartedLink {data1} (started : c.gpsState = .started)
      (someone : isAllGpsClientExit c.clients = false) :
      FsmMove cfg c .stop data1
        ((doGpsStoppedHdlr cfg c).startTimer .switchOflMode mnldGpsSwitchOflModeTimeoutMs)
  | resetStarted {data1} (started : c.gpsState = .started) :
      FsmMove cfg c .reset data1 (gpsControlGpsReset c)
  | restarted {data1} (started : c.gpsState = .started ∨ c.gpsState = .oflStarted) :
      FsmMove cfg c .startDone data1 (reaidingReq c)
  | stopDoneUsed {data1} (stopping : c.gpsState = .stopping)
      (someone : isAllGpsClientExit c.clients = false) :
      FsmMove cfg c .stopDone data1
          (restart cfg .starting (doGpsStoppedHdlr cfg (c.stopTimer .stop)))
  | stopDoneAuto {data1} (stopping : c.gpsState = .stopping)
      (nobody : isAllGpsClientExit c.clients = true)
      (auto : mnldSupportAutoSwitchMode cfg = true) :
      FsmMove cfg c .stopDone data1
        (switchSessions .apOflMode (settleIdle cfg (doGpsStoppedHdlr cfg (c.stopTimer .stop))))
  | stopDone {data1} (stopping : c.gpsState = .stopping)
      (nobody : isAllGpsClientExit c.clients = true)
      (manual : mnldSupportAutoSwitchMode cfg = false) :
      FsmMove cfg c .stopDone data1 (settleIdle cfg (doGpsStoppedHdlr cfg (c.stopTimer .stop)))
  | oflStartDoneUnused {data1} (starting : c.gpsState = .oflStarting)
      (unused : (isAllGpsClientExit c.clients || isAHbdGpsClientExist c.clients) = true) :
      FsmMove cfg c .startDone data1
          (enterStopping .oflStopping (doGpsStartedHdlr cfg data1 (c.stopTimer .start)))
  | oflStartDone {data1} (starting : c.gpsState = .oflStarting)
      (someone : isAllGpsClientExit c.clients = false)
      (noHost : isAHbdGpsClientExist c.clients = false) :
      FsmMove cfg c .startDone data1
        (setSessionTypes .oflMode
            ((doGpsStartedHdlr cfg data1 (c.stopTimer .start)).setState .oflStarted))
  | oflStartHost {data1} (started : c.gpsState = .oflStarted)
      (host : isAHbdGpsClientExist c.clients = true) :
      FsmMove cfg c .start data1
        (enterStopping .oflStopping (dropLinkClients (doGpsStartedHdlr cfg 0 c)))
  | oflStart {data1} (started : c.gpsState = .oflStarted)
      (noHost : isAHbdGpsClientExist c.clients = false) :
      FsmMove cfg c .start data1 (doGpsStartedHdlr cfg 0 c)
  | oflLeave {data1} (started : c.gpsState = .oflStarted)
      (link : (isFlpUserExist c.clients || isGeofenceUserExist c.clients) = true) :
      FsmMove cfg c .stop data1 (doGpsStoppedHdlr cfg c)
  | oflStop {data1} (started : c.gpsState = .oflStarted)
      (noLink : (isFlpUserExist c.clients || isGeofenceUserExist c.clients) = false) :
      FsmMove cfg c .stop data1 (enterStopping .oflStopping c)
  | oflStopDoneLink {data1} (stopping : c.gpsState = .oflStopping)
      (link : (isFlpUserExist c.clients || isGeofenceUserExist c.clients) = true)
      (noHost : isAHbdGpsClientExist c.clients = false) :
      FsmMove cfg c .stopDone data1
          (restart cfg .oflStarting (doGpsStoppedHdlr cfg (c.stopTimer .stop)))
  | oflStopDoneHost {data1} (stopping : c.gpsState = .oflStopping)
      (host : isAHbdGpsClientExist c.clients = true) :
      FsmMove cfg c .stopDone data1 (startFromIdle cfg .starting (wakelockControl cfg
        (switchSessions .apMode (settleIdle cfg (doGpsStoppedHdlr cfg (c.stopTimer .stop))))))
  | oflStopDoneAuto {data1} (stopping : c.gpsState = .oflStopping)
      (noLink : (isFlpUserExist c.clients || isGeofenceUserExist c.clients) = false)
      (noHost : isAHbdGpsClientExist c.clients = false)
      (auto : mnldSupportAutoSwitchMode cfg = true) :
      FsmMove cfg c .stopDone data1
        (switchSessions .apOflMode (settleIdle cfg (doGpsStoppedHdlr cfg (c.stopTimer .stop))))
  | oflStopDone {data1} (stopping : c.gpsState = .oflStopping)
      (noLink : (isFlpUserExist c.clients || isGeofenceUserExist c.clients) = false)
      (noHost : isAHbdGpsClientExist c.clients = false)
      (manual : mnldSupportAutoSwitchMode cfg = false) :
      FsmMove cfg c .stopDone data1 (settleIdle cfg (doGpsStoppedHdlr cfg (c.stopTimer .stop)))

variable {cfg : Config} {c c' : Context} {event : GpsEvent} {data1 : Int} {input : Input}

theorem fsmGpsStateIdle_move (idle : c.gpsState = .idle)
    (taken : fsmGpsStateIdle cfg event c = some c') : FsmMove cfg c event data1 c' := by
  cases event <;> cases taken
  case start => exact .start idle
  case stop => exact .stopIdle idle
  case reset => exact .resetDown (.inl idle)
  case offloadStart => exact .offloadStart idle

theorem fsmGpsStateStarting_move (starting : c.gpsState = .starting)
    (taken : fsmGpsStateStarting cfg event data1 c = some c') : FsmMove cfg c event data1 c' := by
  cases event <;> cases taken
  case startDone =>
    have users : ∀ who, ((doGpsStartedHdlr cfg data1 (c.stopTimer .start)).clients who).gpsUsed =
        (c.clients who).gpsUsed := by simp
    rw [isAllGpsClientExit_congr users]
    by_cases nobody : isAllGpsClientExit c.clients = true
    · rw [if_pos nobody]
      exact .startDoneUnused starting nobody
    · rw [if_neg nobody]
      have hosts : isAHbdGpsClientExist (serveDownloads ((doGpsStartedHdlr cfg data1
          (c.stopTimer .start)).setState .started)).clients = isAHbdGpsClientExist c.clients := by
        simp only [isAHbdGpsClientExist_eq]
        exact congrArg _ (isAllHbdGpsClientExit_congr fun who _ => users who)
      simp only [settleStarted, hosts]
      split
      next host => exact .startDoneHost starting (eq_false_of_ne_true nobody) host
      next link =>
        exact .startDoneLink starting (eq_false_of_ne_true nobody)
          (eq_false_of_ne_true link)
  all_goals exact .ignored (by rw [starting]; rfl)

theorem fsmGpsStateStarted_move (started : c.gpsState = .started)
    (taken : fsmGpsStateStarted cfg event c = some c') : FsmMove cfg c event data1 c' := by
  cases event
  case stop =>
    simp only [fsmGpsStateStarted] at taken
    by_cases nobody : isAllGpsClientExit c.clients = true
    · rw [if_pos nobody] at taken
      cases taken
      exact .stopStarted started nobody
    · rw [if_neg nobody] at taken
      have someone := eq_false_of_ne_true nobody
      split at taken <;> cases taken
      · exact .leaveStartedLink started someone
      · exact .leaveStarted started someone
  all_goals cases taken
  case start => exact .startStarted started
  case reset => exact .resetStarted started
  case startDone => exact .restarted (.inl started)
  case offloadStart => exact .ignored (by rw [started]; rfl)

theorem fsmGpsStateStopping_move (stopping : c.gpsState = .stopping)
    (taken : fsmGpsStateStopping cfg event c = some c') : FsmMove cfg c event data1 c' := by
  cases event
  case stopDone =>
    have users : ∀ who, ((doGpsStoppedHdlr cfg (c.stopTimer .stop)).clients who).gpsUsed =
        (c.clients who).gpsUsed := by simp
    simp only [fsmGpsStateStopping, isAGpsClientExist_eq, isAllGpsClientExit_congr users] at taken
    by_cases nobody : isAllGpsClientExit c.clients = true
    · rw [nobody] at taken
      by_cases auto : mnldSupportAutoSwitchMode cfg = true
      · cases (if_pos auto).symm.trans (Option.some.inj taken)
        exact .stopDoneAuto stopping nobody auto
      · cases (if_neg auto).symm.trans (Option.some.inj taken)
        exact .stopDone stopping nobody (eq_false_of_ne_true auto)
    · have someone := eq_false_of_ne_true nobody
      rw [someone] at taken
      cases taken
      exact .stopDoneUsed stopping someone
  all_goals cases taken
  case reset => exact .resetDown (.inr (.inl stopping))
  all_goals exact .ignored (by rw [stopping]; rfl)

theorem fsmGpsStateOflStarting_move (starting : c.gpsState = .oflStarting)
    (taken : fsmGpsStateOflStarting cfg event data1 c = some c') :
    FsmMove cfg c event data1 c' := by
  cases event <;> cases taken
  case startDone =>
    have users : ∀ who, ((doGpsStartedHdlr cfg data1 (c.stopTimer .start)).clients who).gpsUsed =
        (c.clients who).gpsUsed := by simp
    have hosts : isAHbdGpsClientExist (doGpsStartedHdlr cfg data1 (c.stopTimer .start)).clients =
        isAHbdGpsClientExist c.clients := by
      simp only [isAHbdGpsClientExist_eq]
      exact congrArg _ (isAllHbdGpsClientExit_congr fun who _ => users who)
    rw [isAllGpsClientExit_congr users, hosts]
    by_cases unused : (isAllGpsClientExit c.clients || isAHbdGpsClientExist c.clients) = true
    · rw [if_pos unused]
      exact .oflStartDoneUnused starting unused
    · rw [if_neg unused]
      have ⟨someone, noHost⟩ := Bool.or_eq_false_iff.mp (eq_false_of_ne_true unused)
      exact .oflStartDone starting someone noHost
  all_goals exact .ignored (by rw [starting]; rfl)

theorem fsmGpsStateOflStarted_move (started : c.gpsState = .oflStarted)
    (taken : fsmGpsStateOflStarted cfg event c = some c') : FsmMove cfg c event data1 c' := by
  cases event <;> cases taken
  case start =>
    have hosts : isAHbdGpsClientExist (doGpsStartedHdlr cfg 0 c).clients =
        isAHbdGpsClientExist c.clients := by
      simp only [isAHbdGpsClientExist_eq]
      exact congrArg _ (isAllHbdGpsClientExit_congr (by simp))
    rw [hosts]
    by_cases host : isAHbdGpsClientExist c.clients = true
    · rw [if_pos host]
      exact .oflStartHost started host
    · rw [if_neg host]
      exact .oflStart started (eq_false_of_ne_true host)
  case stop =>
    by_cases link : (isFlpUserExist c.clients || isGeofenceUserExist c.clients) = true
    · rw [if_pos link]
      exact .oflLeave started link
    · rw [if_neg link]
      exact .oflStop started (eq_false_of_ne_true link)
  case startDone => exact .restarted (.inr started)
  all_goals exact .ignored (by rw [started]; rfl)

theorem fsmGpsStateOflStopping_move (stopping : c.gpsState = .oflStopping)
    (taken : fsmGpsStateOflStopping cfg (mnldFsmIdleStart cfg) event c = some c') :
    FsmMove cfg c event data1 c' := by
  cases event
  case stopDone =>
    have stopped := doGpsStoppedHdlr_clients cfg (c.stopTimer .stop)
    have hosts : isAllHbdGpsClientExit (doGpsStoppedHdlr cfg (c.stopTimer .stop)).clients =
        isAllHbdGpsClientExit c.clients :=
      isAllHbdGpsClientExit_congr (by simp)
    have settled : (settleIdle cfg (doGpsStoppedHdlr cfg (c.stopTimer .stop))).clients =
        (doGpsStoppedHdlr cfg (c.stopTimer .stop)).clients := by
      rw [settleIdle_eq]
      rfl
    have links : (isFlpUserExist (doGpsStoppedHdlr cfg (c.stopTimer .stop)).clients ||
        isGeofenceUserExist (doGpsStoppedHdlr cfg (c.stopTimer .stop)).clients) =
        (isFlpUserExist c.clients || isGeofenceUserExist c.clients) := by
      simp only [isFlpUserExist, isGeofenceUserExist, stopped]
      rfl
    simp only [fsmGpsStateOflStopping, settled, isAHbdGpsClientExist_eq, hosts, links] at taken
    by_cases host : isAllHbdGpsClientExit c.clients = true
    · have noHost : isAHbdGpsClientExist c.clients = false := by
        rw [isAHbdGpsClientExist_eq, host]
        rfl
      rw [host, Bool.and_true, Bool.not_true] at taken
      by_cases link : (isFlpUserExist c.clients || isGeofenceUserExist c.clients) = true
      · cases (if_pos link).symm.trans taken
        exact .oflStopDoneLink stopping link noHost
      · rw [if_neg link] at taken
        have noLink := eq_false_of_ne_true link
        by_cases auto : mnldSupportAutoSwitchMode cfg = true
        · cases (if_pos auto).symm.trans (Option.some.inj taken)
          exact .oflStopDoneAuto stopping noLink noHost auto
        · cases (if_neg auto).symm.trans (Option.some.inj taken)
          exact .oflStopDone stopping noLink noHost (eq_false_of_ne_true auto)
    · have used : isAHbdGpsClientExist c.clients = true := by
        rw [isAHbdGpsClientExist_eq, eq_false_of_ne_true host]
        rfl
      rw [eq_false_of_ne_true host, Bool.and_false] at taken
      cases taken
      exact .oflStopDoneHost stopping used
  all_goals cases taken
  case reset => exact .resetDown (.inr (.inr stopping))
  all_goals exact .ignored (by rw [stopping]; rfl)

theorem mnldFsm_move (taken : mnldFsm cfg event data1 c = some c') :
    FsmMove cfg (wakelockControl cfg c) event data1 c' := by
  rw [mnldFsm, fsmGpsState] at taken
  split at taken
  next idle => exact fsmGpsStateIdle_move idle taken
  next starting => exact fsmGpsStateStarting_move starting taken
  next started => exact fsmGpsStateStarted_move started taken
  next stopping => exact fsmGpsStateStopping_move stopping taken
  next starting => exact fsmGpsStateOflStarting_move starting taken
  next started => exact fsmGpsStateOflStarted_move started taken
  next stopping => exact fsmGpsStateOflStopping_move stopping taken

/-- The events a request can raise, and what it can not touch before it does. -/
structure Request.Frame (prepare : Context → Context) : Prop where
  gpsState : ∀ c, (prepare c).gpsState = c.gpsState
  armed : ∀ c, (prepare c).armed = c.armed
  offloadLpMode : ∀ c, (prepare c).offloadLpMode = c.offloadLpMode
  offloadFwkWakelock : ∀ c, (prepare c).offloadFwkWakelock = c.offloadFwkWakelock
  sent : ∀ c kind, kind ≠ .notice → (prepare c).sent kind = c.sent kind

theorem request_frame {r : Request} (which : input.request = some r) :
    Request.Frame r.prepare := by
  have quiet : ∀ (c d : Context) (kind : Traffic), kind ≠ .notice →
      (∃ msg, msg.traffic = .notice ∧ d.out = msg :: c.out) → d.sent kind = c.sent kind := by
    rintro c d kind other ⟨msg, notice, told⟩
    rw [sent_cons told, notice, if_neg other.symm]
  cases input
  case agpsResetGpsReq flags =>
    simp only [Input.request, Option.ite_none_left_eq_some, Option.some.injEq] at which
    obtain ⟨-, rfl⟩ := which
    constructor <;> intros <;> rfl
  case halGpsStart =>
    cases which
    constructor
    case sent => exact fun c kind other => quiet c _ kind other ⟨_, rfl, rfl⟩
    all_goals intros; rfl
  case halGpsDeleteAidingData flags =>
    cases which
    constructor
    case sent => exact fun c kind other => quiet c _ kind other ⟨_, rfl, rfl⟩
    all_goals intros; rfl
  all_goals
    cases which
  all_goals
    constructor <;> intros <;> rfl

def OpensLink (input : Input) : Prop := input = .flpOflLinkOpen ∨ input = .gfcOflLinkOpen

/-- The event of a request and the clients it leaves to the state machine. -/
inductive RequestShape (c : Context) : Input → GpsEvent → Clients → Prop
  | opens {input : Input} (who : ClientId) (ack : Bool) :
      RequestShape c input .start (openClient who ack c).clients
  | opensLink {input : Input} (who : ClientId) (link : OpensLink input) (offload : ¬ who.isHost) :
      RequestShape c input .offloadStart (openClient who true c).clients
  | closes {input : Input} (who : ClientId) (ack : Bool) :
      RequestShape c input .stop (closeClient who ack c).clients
  | reboots {input : Input} (who : ClientId) :
      RequestShape c input .stop (rebootClient who c).clients
  | resets {input : Input} (who : ClientId) (ack : Bool) :
      RequestShape c input .reset
        (c.setClient who fun client => { client with needResetAck := ack }).clients
  | startDone (isAssistReq : Int) : RequestShape c (.startDone isAssistReq) .startDone c.clients
  | stopDone : RequestShape c .stopDone .stopDone c.clients

theorem request_shape {r : Request} (which : input.request = some r) :
    RequestShape c input r.event (r.prepare c).clients := by
  cases input
  case agpsResetGpsReq flags =>
    simp only [Input.request, Option.ite_none_left_eq_some, Option.some.injEq] at which
    obtain ⟨-, rfl⟩ := which
    exact .resets .agps true
  all_goals cases which
  case halGpsDeleteAidingData flags => exact .resets .hal false
  case flpOflLinkOpen => exact .opensLink .flp (.inl rfl) (by decide)
  case gfcOflLinkOpen => exact .opensLink .geofence (.inr rfl) (by decide)
  case startDone isAssistReq => exact .startDone isAssistReq
  case stopDone => exact .stopDone
  case halReboot | agpsReboot => exact .reboots _
  case halGpsStart | agpsOpenGpsReq | flpHbdGpsOpen | gfcHbdGpsOpen | flpTestGpsStart |
      factoryGpsStart | atTestGpsStart =>
    exact .opens _ _
  all_goals exact .closes _ _

section

variable {clients : Clients} {who : ClientId}

theorem RequestShape.link (shape : RequestShape c input .offloadStart clients) :
    OpensLink input := by
  cases shape with
  | opensLink who link offload => exact link

/-- Only an open leaves a new user or a new open acknowledgement to the event. -/
theorem RequestShape.before (shape : RequestShape c input event clients) (who : ClientId)
    (noStart : event ≠ .start) (noLink : event ≠ .offloadStart) :
    ((clients who).gpsUsed = true → (c.clients who).gpsUsed = true) ∧
      ((clients who).needOpenAck = true → (c.clients who).needOpenAck = true) := by
  cases shape with
  | opens other ack => exact absurd rfl noStart
  | opensLink other link offload => exact absurd rfl noLink
  | closes other ack | reboots other | resets other ack =>
      by_cases same : who = other
      · subst same
        simp
      · simp [same]
  | startDone isAssistReq => exact ⟨id, id⟩
  | stopDone => exact ⟨id, id⟩

/-- Only a stop takes a user away or leaves a new close acknowledgement. -/
theorem RequestShape.before_stop (shape : RequestShape c input event clients) (who : ClientId)
    (noStop : event ≠ .stop) :
    ((c.clients who).gpsUsed = true → (clients who).gpsUsed = true) ∧
      ((clients who).needCloseAck = true → (c.clients who).needCloseAck = true) := by
  cases shape with
  | opens other ack | opensLink other | resets other ack =>
      by_cases same : who = other
      · subst same
        simp
      · simp [same]
  | closes other ack | reboots other => exact absurd rfl noStop
  | startDone isAssistReq => exact ⟨id, id⟩
  | stopDone => exact ⟨id, id⟩

/-- Who waits for an open acknowledgement uses the engine, if that was so before. -/
theorem RequestShape.waiter (shape : RequestShape c input event clients)
    (before : (c.clients who).needOpenAck = true → (c.clients who).gpsUsed = true)
    (waiting : (clients who).needOpenAck = true) : (clients who).gpsUsed = true := by
  cases shape with
  | opens other ack | opensLink other | closes other ack | reboots other | resets other ack =>
      by_cases same : who = other
      · subst same
        simp_all
      · simp_all
  | startDone isAssistReq => exact before waiting
  | stopDone => exact before waiting

end

/-- Only the engine itself ends a start or a stop. -/
theorem request_startDone {r : Request} (c : Context) (which : input.request = some r)
    (event : r.event = .startDone) :
    ∃ isAssistReq, input = .startDone isAssistReq ∧ r = gpsStartDone isAssistReq := by
  have shape := request_shape which (c := c)
  rw [event] at shape
  generalize (r.prepare c).clients = clients at shape
  cases shape with
  | startDone isAssistReq =>
      cases which
      exact ⟨isAssistReq, rfl, rfl⟩

theorem request_stopDone {r : Request} (c : Context) (which : input.request = some r)
    (event : r.event = .stopDone) : input = .stopDone ∧ r = gpsStopDone := by
  have shape := request_shape which (c := c)
  rw [event] at shape
  generalize (r.prepare c).clients = clients at shape
  cases shape with
  | stopDone =>
      cases which
      exact ⟨rfl, rfl⟩

inductive StepCase (cfg : Config) (c : Context) : Input → Context → Prop
  | request {input : Input} {r : Request} {c' : Context} (which : input.request = some r)
      (move : FsmMove cfg (wakelockControl cfg (r.prepare c)) r.event r.data1 c') :
      StepCase cfg c input c'
  | noReset : StepCase cfg c (.agpsResetGpsReq 0) (c.emit [.agpsResetGpsDone])
  | resetDone : StepCase cfg c .resetDone (gpsResetDone c)
  | nmeaIgnored (other : c.gpsState ≠ .started) : StepCase cfg c .nmeaTimeout c
  | nmeaTimeout {d : Context} (started : c.gpsState = .started)
      (move : FsmMove cfg (wakelockControl cfg (mtkGpsClearGpsUser c)) .stop 0 d) :
      StepCase cfg c .nmeaTimeout (nmeaReboot d)
  | switchKept (used : isAllHbdGpsClientExit c.clients = false) :
      StepCase cfg c .switchOflModeTimeout (c.stopTimer .switchOflMode)
  | switchOflMode {c' : Context} (noHost : isAllHbdGpsClientExit c.clients = true)
      (move : FsmMove cfg (wakelockControl cfg (dropLinkClients (c.stopTimer .switchOflMode)))
        .stop 0 c') :
      StepCase cfg c .switchOflModeTimeout c'
  | downloadDone (download : Download) :
      StepCase cfg c (.downloadDone download) (downloadDone download c)
  | debugReq (start : Bool) : StepCase cfg c (.debugReq start) (debugReqMnldMessage start c)

theorem step_case (taken : step cfg c input = some c') : StepCase cfg c input c' := by
  cases input
  case agpsResetGpsReq flags =>
    by_cases zero : flags = 0
    · subst zero
      cases taken
      exact .noReset
    · exact .request (if_neg zero) (mnldFsm_move ((if_neg zero).symm.trans taken))
  case nmeaTimeout =>
    rw [step, nmeaTimeout] at taken
    split at taken
    next started =>
      obtain ⟨d, run, rebooted⟩ := Option.map_eq_some_iff.mp taken
      subst rebooted
      exact .nmeaTimeout (eq_of_beq started) (mnldFsm_move run)
    next other =>
      cases taken
      exact .nmeaIgnored fun started => other (by rw [mnldIsGpsStartedDone, started]; rfl)
  case switchOflModeTimeout =>
    rw [step, mnldGpsSwitchOflModeTimeout] at taken
    split at taken
    · simp only at taken
      split at taken
      next noHost => exact .switchOflMode noHost (mnldFsm_move taken)
      next used =>
        cases taken
        exact .switchKept (eq_false_of_ne_true used)
    · cases taken
  case resetDone =>
    cases taken
    exact .resetDone
  case downloadDone download =>
    cases taken
    exact .downloadDone download
  case debugReq start =>
    cases taken
    exact .debugReq start
  all_goals exact .request rfl (mnldFsm_move taken)

end Connectivity.Mnld
