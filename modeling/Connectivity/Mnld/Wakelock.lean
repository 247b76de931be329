import Connectivity.Mnld.Moves
import Connectivity.Mnld.WakelockView
import Connectivity.Transition.Run

set_option autoImplicit false

namespace Connectivity.Mnld

open Context Transition

variable {cfg : Config} {c c' : Context} {event : GpsEvent} {data1 : Int} {input : Input}

def GpsState.half : GpsState → Half
  | .idle => .down
  | .starting | .started | .stopping => .host
  | .oflStarting | .oflStarted | .oflStopping => .offload

/-- A session of the offload type. -/
def hasOflSession (c : Context) : Bool :=
  c.flpSession.type == .oflMode || c.gfcSession.type == .oflMode

def wakelockView (c : Context) : WakelockView where
  half := c.gpsState.half
  log := c.sent .wakelock
  lpMode := c.offloadLpMode
  fwkWakelock := c.offloadFwkWakelock
  hostUsed := isAHbdGpsClientExist c.clients
  oflSession := hasOflSession c

theorem offloadModeActive_eq : offloadModeActive cfg c = (wakelockView c).active cfg := by
  simp only [offloadModeActive, mnlOffloadIsEnabled, mnldOffloadIsAutoMode, WakelockView.active,
    mnldOffloadIsAlwaysOnMode, mnldSupportAutoSwitchMode, wakelockView, hasOflSession]
  cases cfg.offloadEnabled != 0 <;> simp [Bool.or_comm]

@[simp] theorem half_down {state : GpsState} : state.half = .down ↔ state = .idle := by
  cases state <;> decide

theorem wakelockView_enter (c : Context) :
    wakelockView (enterOffloadLpMode c) =
      if c.offloadLpMode then wakelockView c
      else
        { wakelockView c with
          log := if c.offloadFwkWakelock then .halReleaseWakelock :: c.sent .wakelock
            else c.sent .wakelock
          lpMode := true
          fwkWakelock := false } := by
  by_cases lp : c.offloadLpMode = true
  · rw [enterOffloadLpMode, if_pos lp, if_pos lp]
  · by_cases fwk : c.offloadFwkWakelock = true
    · simp only [enterOffloadLpMode, if_neg lp, emit_offloadFwkWakelock,
        stopTimer_offloadFwkWakelock, if_pos fwk]
      rfl
    · simp only [enterOffloadLpMode, if_neg lp, emit_offloadFwkWakelock,
        stopTimer_offloadFwkWakelock, if_neg fwk]
      have stays : c.offloadFwkWakelock = false := eq_false_of_ne_true fwk
      simp only [wakelockView, WakelockView.mk.injEq, stays]
      exact ⟨rfl, rfl, trivial, trivial, rfl, rfl⟩

theorem wakelockView_leave (c : Context) :
    wakelockView (leaveOffloadLpMode cfg c) =
      if c.offloadLpMode then
        { wakelockView c with
          log := .halRequestWakelock :: c.sent .wakelock
          lpMode := false
          fwkWakelock := true }
      else wakelockView c := by
  by_cases lp : c.offloadLpMode = true
  · simp only [leaveOffloadLpMode, if_pos lp]
    rfl
  · rw [leaveOffloadLpMode, if_neg lp, if_neg lp]

/-- The code before every event is the edge detector of the view. -/
theorem wakelockView_control :
    wakelockView (wakelockControl cfg c) =
      (wakelockView c).control ((wakelockView c).active cfg) := by
  rw [← offloadModeActive_eq]
  unfold wakelockControl WakelockView.control
  split
  · simp only [onlyOffloadUsers_eq]
    by_cases noHost : isAllHbdGpsClientExit c.clients = true
    · have unused : ¬ (wakelockView c).hostUsed = true := by
        simp [wakelockView, isAHbdGpsClientExist_eq, noHost]
      rw [if_pos noHost, if_neg unused, wakelockView_enter]
      rfl
    · have used : (wakelockView c).hostUsed = true := by
        simpa [wakelockView, isAHbdGpsClientExist_eq] using noHost
      rw [if_neg noHost, if_pos used, wakelockView_leave]
      rfl
  · rfl

/-- What a move leaves of the view when it sends no wakelock message. -/
structure Quiet (c c' : Context) : Prop where
  half : c'.gpsState.half = c.gpsState.half
  log : c'.sent .wakelock = c.sent .wakelock
  lpMode : c'.offloadLpMode = c.offloadLpMode
  fwkWakelock : c'.offloadFwkWakelock = c.offloadFwkWakelock
  hosts : ∀ who, who.isHost = true → (c'.clients who).gpsUsed = (c.clients who).gpsUsed

theorem Quiet.view (quiet : Quiet c c') :
    wakelockView c' = { wakelockView c with oflSession := hasOflSession c' } := by
  simp only [wakelockView, quiet.half, quiet.log, quiet.lpMode, quiet.fwkWakelock,
    isAHbdGpsClientExist_congr quiet.hosts]

theorem Quiet.move (quiet : Quiet c c')
    (down : c.gpsState = .idle → (event = .stop ∨ event = .reset) ∧
      hasOflSession c' = hasOflSession c)
    (offload : c.gpsState.half = .offload → hasOflSession c = true → hasOflSession c' = true)
    (stays : event = .stopDone → c.gpsState.half = .offload →
      isAHbdGpsClientExist c.clients = false) :
    (wakelockView c).Move cfg event (wakelockView c') := by
  rw [quiet.view]
  refine .quiet (fun half => down ?_) offload stays
  cases state : c.gpsState <;> simp [wakelockView, state, GpsState.half] at half ⊢

theorem wakelockView_stopped :
    wakelockView (doGpsStoppedHdlr cfg (c.stopTimer .stop)) = wakelockView c :=
  (⟨by simp, by simp, by simp, by simp, by simp⟩ :
    Quiet c (doGpsStoppedHdlr cfg (c.stopTimer .stop))).view

theorem wakelockView_startFromIdle (state : GpsState) :
    wakelockView (startFromIdle cfg state c) =
      (wakelockView c).engineStart ((wakelockView c).active cfg) state.half := by
  rw [← offloadModeActive_eq]
  simp only [wakelockView, startFromIdle_sent_wakelock,
    startFromIdle_gpsState, startFromIdle_offloadLpMode, startFromIdle_offloadFwkWakelock,
    startFromIdle_clients, hasOflSession, startFromIdle_flpSession, startFromIdle_gfcSession,
    WakelockView.engineStart]

theorem wakelockView_settleIdle :
    wakelockView (settleIdle cfg c) =
      (wakelockView c).engineStop ((wakelockView c).active cfg) (hasOflSession c) := by
  rw [← offloadModeActive_eq]
  simp only [wakelockView, settleIdle_sent_wakelock, settleIdle_gpsState,
    settleIdle_offloadLpMode, settleIdle_offloadFwkWakelock, settleIdle_clients, hasOflSession,
    settleIdle_flpSession, settleIdle_gfcSession, WakelockView.engineStop]
  rfl

theorem wakelockView_switchSessions (type : Capability) :
    wakelockView (switchSessions type c) =
      { wakelockView c with oflSession := type == .oflMode } := by
  have quiet : Quiet c (switchSessions type c) :=
    ⟨by simp, by simp, by simp, by simp, fun who => switchSessions_host c who⟩
  rw [quiet.view]
  simp [hasOflSession]

theorem host_of_half (state : c.gpsState ≠ .idle) : (wakelockView c).half ≠ .down := by
  cases reached : c.gpsState <;> simp [wakelockView, reached, GpsState.half] at state ⊢

/-- Every move of the state machine is a move of the view. -/
theorem FsmMove.view (move : FsmMove cfg c event data1 c') :
    (wakelockView c).Move cfg event (wakelockView c') := by
  cases move with
  | ignored unheard =>
      refine (⟨rfl, rfl, rfl, rfl, fun _ _ => rfl⟩ : Quiet c c).move ?_ (fun _ => id) ?_
      · intro idle
        rw [idle] at unheard
        cases event <;> cases unheard
      · intro done
        rw [done] at unheard
        cases reached : c.gpsState <;> rw [reached] at unheard <;> cases unheard
  | start idle =>
      rw [wakelockView_startFromIdle]
      exact .start (by simp [wakelockView, idle, GpsState.half])
  | offloadStart idle =>
      rw [wakelockView_startFromIdle]
      exact .offloadStart (by simp [wakelockView, idle, GpsState.half])
  | stopIdle | resetDown =>
      exact Quiet.move ⟨by simp, by simp, by simp, by simp, by simp⟩ (by simp [hasOflSession])
        (by simp [hasOflSession]) nofun
  | startStarted state | leaveStarted state | leaveStartedLink state | resetStarted state
  | oflStart state | oflLeave state =>
      exact Quiet.move ⟨by simp, by simp, by simp, by simp, by simp⟩ (by simp [state])
        (by simp [hasOflSession]) nofun
  | restarted state =>
      refine Quiet.move ⟨by simp, by simp, by simp, by simp, by simp⟩ ?_ (by simp [hasOflSession])
        nofun
      intro idle
      rcases state with up | up <;> rw [idle] at up <;> cases up
  | startDoneUnused state | stopStarted state | oflStartDoneUnused state | oflStop state =>
      exact Quiet.move ⟨by simp [state, GpsState.half], by simp, by simp, by simp, by simp⟩
        (by simp [state]) (by simp [hasOflSession]) nofun
  | stopDoneUsed state =>
      exact Quiet.move ⟨by simp [state, GpsState.half], by simp, by simp, by simp, by simp⟩
        (by simp [state]) (by simp [hasOflSession]) (by simp [state, GpsState.half])
  | oflStopDoneLink state link noHost =>
      exact Quiet.move ⟨by simp [state, GpsState.half], by simp, by simp, by simp, by simp⟩
        (by simp [state]) (by simp [hasOflSession]) fun _ _ => noHost
  | oflStartHost state =>
      refine Quiet.move ⟨by simp [state, GpsState.half], by simp, by simp, by simp, ?_⟩
        (by simp [state]) (by simp [hasOflSession]) nofun
      intro who host
      rw [enterStopping_clients, dropLinkClients_host _ host]
      simp
  | startDoneHost state =>
      refine Quiet.move ⟨by simp [state, GpsState.half], by simp, by simp, by simp, ?_⟩
        (by simp [state]) (by simp [state, GpsState.half]) nofun
      intro who host
      rw [switchSessions_host _ _ host]
      simp
  | startDoneLink state =>
      exact Quiet.move ⟨by simp [state, GpsState.half], by simp, by simp, by simp, by simp⟩
        (by simp [state]) (by simp [state, GpsState.half]) nofun
  | oflStartDone state =>
      exact Quiet.move ⟨by simp [state, GpsState.half], by simp, by simp, by simp, by simp⟩
        (by simp [state]) (by simp [hasOflSession]) nofun
  | stopDoneAuto stopping nobody =>
      rw [wakelockView_switchSessions, wakelockView_settleIdle, wakelockView_stopped]
      exact .settle (host_of_half (by simp [stopping])) (noHost_of_nobody nobody) fun _ => rfl
  | oflStopDoneAuto stopping noLink noHost =>
      rw [wakelockView_switchSessions, wakelockView_settleIdle, wakelockView_stopped]
      exact .settle (host_of_half (by simp [stopping])) noHost fun _ => rfl
  | stopDone stopping nobody manual =>
      rw [wakelockView_settleIdle, wakelockView_stopped]
      exact .settle (host_of_half (by simp [stopping])) (noHost_of_nobody nobody)
        fun auto => by simp [auto] at manual
  | oflStopDone stopping noLink noHost manual =>
      rw [wakelockView_settleIdle, wakelockView_stopped]
      exact .settle (host_of_half (by simp [stopping])) noHost fun auto => by simp [auto] at manual
  | oflStopDoneHost stopping host =>
      rw [wakelockView_startFromIdle, wakelockView_control, wakelockView_switchSessions,
        wakelockView_settleIdle, wakelockView_stopped]
      exact .rehost (by simp [wakelockView, stopping, GpsState.half]) host rfl

/-- An offload link is opened for no host client, whose use it leaves alone. -/
theorem RequestShape.hosts {clients : Clients} (shape : RequestShape c input event clients)
    (link : event = .offloadStart) :
    isAHbdGpsClientExist clients = isAHbdGpsClientExist c.clients := by
  subst link
  cases shape with
  | opensLink other _ offload =>
      apply isAHbdGpsClientExist_congr
      intro who host
      have distinct : who ≠ other := by
        rintro rfl
        exact offload host
      simp [distinct]

theorem request_hasOflSession {r : Request} (which : input.request = some r) :
    hasOflSession (r.prepare c) = (hasOflSession c || r.event == .offloadStart) := by
  cases input
  case agpsResetGpsReq flags =>
    simp only [Input.request, Option.ite_none_left_eq_some, Option.some.injEq] at which
    obtain ⟨-, rfl⟩ := which
    exact (Bool.or_false _).symm
  all_goals cases which
  case flpOflLinkOpen => exact (Bool.or_true _).symm
  case gfcOflLinkOpen => exact (Bool.or_true _).trans (Bool.or_true _).symm
  all_goals exact (Bool.or_false _).symm

theorem request_view {r : Request} (which : input.request = some r) :
    wakelockView (r.prepare c) =
      { wakelockView c with
        hostUsed := isAHbdGpsClientExist (r.prepare c).clients
        oflSession := hasOflSession c || r.event == .offloadStart } := by
  have frame := request_frame which
  simp only [wakelockView, frame.gpsState, frame.offloadLpMode, frame.offloadFwkWakelock,
    frame.sent c .wakelock (by decide), request_hasOflSession which]

theorem request_prepares {r : Request} (which : input.request = some r) :
    (wakelockView c).Prepares r.event (wakelockView (r.prepare c)) := by
  have shape := request_shape which (c := c)
  rw [request_view which]
  cases event : r.event
  case start =>
    rw [show (GpsEvent.start == .offloadStart) = false from rfl, Bool.or_false]
    exact .start _
  case offloadStart =>
    rw [shape.hosts event, beq_self_eq_true, Bool.or_true]
    exact .offloadStart
  all_goals
    rw [event] at shape
    rw [show (_ == GpsEvent.offloadStart) = false from rfl, Bool.or_false]
    refine .other (by decide) (by decide) fun used => ?_
    obtain ⟨who, host, used⟩ := (isAHbdGpsClientExist_iff _).mp used
    have earlier := (shape.before who (by decide) (by decide)).1 used
    exact (isAHbdGpsClientExist_iff _).mpr ⟨who, host, earlier⟩

/-- Requests and releases of the framework wakelock take turns, it is held while a host
client uses the engine and free when the engine rests and nobody does. -/
structure WakelockTracks (c : Context) : Prop where
  alternates : Alternates (c.sent .wakelock)
  taken : isAHbdGpsClientExist c.clients = true → c.gpsState ≠ .idle →
    wakelockHeld (c.sent .wakelock) = true
  released : c.gpsState = .idle → isAllGpsClientExit c.clients = true →
    wakelockHeld (c.sent .wakelock) = false

/-- The four steps after which it does not: always on, a first event that finds a host;
with auto switching, a host's request that finds an offload session in the host half, the
restart for a host after an offload stop, and an end that finds an offload session. -/
structure WakelockStep (cfg : Config) (c : Context) (input : Input) : Prop where
  fresh : mnldOffloadIsAlwaysOnMode cfg = true →
    c.offloadLpMode = false → c.offloadFwkWakelock = false →
    ∀ r, input.request = some r → isAHbdGpsClientExist (r.prepare c).clients = false
  half : mnldSupportAutoSwitchMode cfg = true → c.gpsState.half = .host →
    c.offloadLpMode = true → ∀ r, input.request = some r → hasOflSession (r.prepare c) = true →
    isAHbdGpsClientExist (r.prepare c).clients = false
  rehost : mnldSupportAutoSwitchMode cfg = true → input = .stopDone →
    c.gpsState = .oflStopping → isAHbdGpsClientExist c.clients = false
  settle : mnldSupportAutoSwitchMode cfg = true → input = .stopDone → c.gpsState = .stopping →
    isAllGpsClientExit c.clients = true → hasOflSession c = false

theorem tracks_of_follows (follows : (wakelockView c).Follows cfg) : WakelockTracks c := by
  refine ⟨follows.alternates, ?_, ?_⟩
  · intro host running
    by_cases auto : mnldSupportAutoSwitchMode cfg = true
    · have right := follows.autoSwitch auto
      cases half : c.gpsState.half with
      | down => exact absurd (half_down.mp half) running
      | host => exact (right.host half).1
      | offload => exact (right.offload half).2.2.2.trans host
    · by_cases on : mnldOffloadIsAlwaysOnMode cfg = true
      · rcases follows.alwaysOn on with ⟨down, -⟩ | edge
        · exact absurd (half_down.mp down) running
        · exact edge.2.2.trans host
      · have right := follows.hostOnly (eq_false_of_ne_true auto) (eq_false_of_ne_true on)
        exact right.eq.trans (decide_eq_true fun down => running (half_down.mp down))
  · intro idle nobody
    have down : (wakelockView c).half = .down := half_down.mpr idle
    by_cases auto : mnldSupportAutoSwitchMode cfg = true
    · exact ((follows.autoSwitch auto).down down).1
    · by_cases on : mnldOffloadIsAlwaysOnMode cfg = true
      · rcases follows.alwaysOn on with ⟨-, -, -, -, free⟩ | edge
        · exact free
        · exact edge.2.2.trans (noHost_of_nobody nobody)
      · have right := follows.hostOnly (eq_false_of_ne_true auto) (eq_false_of_ne_true on)
        exact right.eq.trans (decide_eq_false fun up => up down)

theorem FsmMove.stopDone_stopping (move : FsmMove cfg c .stopDone data1 c') :
    c.gpsState = .stopping ∨ c.gpsState = .oflStopping := by
  cases move with
  | ignored unheard => cases reached : c.gpsState <;> rw [reached] at unheard <;> cases unheard
  | stopDoneUsed stopping | stopDoneAuto stopping | stopDone stopping => exact .inl stopping
  | oflStopDoneLink stopping | oflStopDoneHost stopping | oflStopDoneAuto stopping
  | oflStopDone stopping =>
      exact .inr stopping

/-- A stop ends where nobody uses the engine, and nobody does then. -/
theorem FsmMove.stopDone_settles (move : FsmMove cfg c .stopDone data1 c')
    (stopping : c.gpsState = .stopping) :
    (c'.gpsState = .idle ↔ isAllGpsClientExit c.clients = true) ∧
      (c'.gpsState = .idle → isAllGpsClientExit c'.clients = true) := by
  cases move with
  | ignored unheard =>
      rw [stopping] at unheard
      cases unheard
  | stopDoneUsed _ someone => simp [someone]
  | stopDoneAuto _ nobody | stopDone _ nobody =>
      have unused := (isAllGpsClientExit_iff _).mp nobody
      simp [nobody, isAllGpsClientExit_iff, unused]
  | oflStopDoneLink other | oflStopDoneHost other | oflStopDoneAuto other | oflStopDone other =>
      rw [stopping] at other
      cases other

/-- For a request the condition is that of the view. -/
theorem wakelockStep_iff {r : Request} (which : input.request = some r)
    (move : FsmMove cfg (wakelockControl cfg (r.prepare c)) r.event r.data1 c') :
    WakelockStep cfg c input ↔ WakelockView.Fits cfg r.event (wakelockView c)
      (wakelockView (r.prepare c)) (wakelockView c') := by
  constructor
  · intro meets
    refine ⟨fun on lp fwk => meets.fresh on lp fwk r which,
      fun auto ofl host lp => meets.half auto host lp r which ofl, ?_, ?_⟩
    · intro auto done offload
      obtain ⟨rfl, rfl⟩ := request_stopDone c which done
      have stopping := move.stopDone_stopping
      rw [wakelockControl_gpsState] at stopping
      rcases stopping with state | state
      · simp [wakelockView, GpsState.half, show c.gpsState = .stopping from state] at offload
      · exact meets.rehost auto rfl state
    · intro auto done host down
      obtain ⟨rfl, rfl⟩ := request_stopDone c which done
      have stopping := move.stopDone_stopping
      rw [wakelockControl_gpsState] at stopping
      rcases stopping with state | state
      · have settles := move.stopDone_settles ((wakelockControl_gpsState _ _).trans state)
        have nobody := settles.1.mp (half_down.mp down)
        rw [wakelockControl_clients] at nobody
        exact meets.settle auto rfl state nobody
      · simp [wakelockView, GpsState.half, show c.gpsState = .oflStopping from state] at host
  · intro fits
    have same : ∀ other, input.request = some other → other = r := fun other found =>
      Option.some.inj (found.symm.trans which)
    refine ⟨?_, ?_, ?_, ?_⟩
    · intro on lp fwk other found
      rw [same other found]
      exact fits.fresh on lp fwk
    · intro auto host lp other found ofl
      rw [same other found] at ofl ⊢
      exact fits.half auto ofl host lp
    · rintro auto rfl stopping
      obtain rfl := same gpsStopDone rfl
      exact fits.rehost auto rfl (by simp [wakelockView, stopping, GpsState.half])
    · rintro auto rfl stopping nobody
      obtain rfl := same gpsStopDone rfl
      have settles := move.stopDone_settles ((wakelockControl_gpsState _ _).trans stopping)
      rw [wakelockControl_clients] at settles
      exact fits.settle auto rfl (by simp [wakelockView, stopping, GpsState.half])
        (half_down.mpr (settles.1.mpr nobody))

theorem wakelockStep_of_none (none : input.request = none) : WakelockStep cfg c input := by
  refine ⟨fun _ _ _ r found => ?_, fun _ _ _ r found => ?_, ?_, ?_⟩
  · rw [none] at found
    cases found
  · rw [none] at found
    cases found
  · rintro - rfl
    cases none
  · rintro - rfl
    cases none

theorem wakelockView_of_same {d : Context} (state : d.gpsState = c.gpsState)
    (sent : d.sent .wakelock = c.sent .wakelock) (lpMode : d.offloadLpMode = c.offloadLpMode)
    (fwkWakelock : d.offloadFwkWakelock = c.offloadFwkWakelock)
    (hosts : isAHbdGpsClientExist d.clients = isAHbdGpsClientExist c.clients)
    (flp : d.flpSession = c.flpSession) (gfc : d.gfcSession = c.gfcSession) :
    wakelockView d = wakelockView c := by
  simp only [wakelockView, hasOflSession, state, sent, lpMode, fwkWakelock, hosts, flp, gfc]

/-- The daemon's own calls take no host client on. -/
theorem follows_stop {d : Context} (follows : (wakelockView c).Follows cfg)
    (view : wakelockView d = { wakelockView c with hostUsed := false })
    (move : FsmMove cfg (wakelockControl cfg d) .stop 0 c') :
    (wakelockView c').Follows cfg := by
  have moved := move.view
  rw [wakelockView_control] at moved
  have prepares : (wakelockView c).Prepares .stop (wakelockView d) := by
    rw [view]
    exact .other (by decide) (by decide) nofun
  have unused : (wakelockView d).hostUsed = false := by rw [view]
  exact follows.call prepares moved ⟨fun _ _ _ => unused, fun _ _ _ _ => unused,
    fun _ _ _ => unused, nofun⟩

theorem step_follows (follows : (wakelockView c).Follows cfg)
    (condition : WakelockStep cfg c input) (taken : step cfg c input = some c') :
    (wakelockView c').Follows cfg := by
  have frame : wakelockView c' = wakelockView c → (wakelockView c').Follows cfg := by
    intro same
    rw [same]
    exact follows
  cases step_case taken with
  | request which move =>
      have moved := move.view
      rw [wakelockView_control] at moved
      exact follows.call (request_prepares which) moved ((wakelockStep_iff which move).mp condition)
  | nmeaTimeout started move =>
      have cleared : wakelockView (mtkGpsClearGpsUser c) =
          { wakelockView c with hostUsed := false } := rfl
      have stopped := follows_stop follows cleared move
      rw [wakelockView_of_same (c := _) rfl (nmeaReboot_sent _ (by decide)) rfl rfl rfl rfl rfl]
      exact stopped
  | switchOflMode noHost move =>
      have unused : isAHbdGpsClientExist c.clients = false := by
        rw [isAHbdGpsClientExist_eq, noHost]
        rfl
      have hosts : isAHbdGpsClientExist (dropLinkClients (c.stopTimer .switchOflMode)).clients =
          isAHbdGpsClientExist c.clients :=
        isAHbdGpsClientExist_congr fun who host => dropLinkClients_host _ host
      apply follows_stop follows _ move
      simp only [wakelockView, hosts, unused]
      rfl
  | noReset => exact frame (wakelockView_of_same rfl (by simp [Msg.traffic]) rfl rfl rfl rfl rfl)
  | resetDone =>
      have hosts : isAHbdGpsClientExist (gpsResetDone c).clients = isAHbdGpsClientExist c.clients :=
        isAHbdGpsClientExist_congr fun who _ => by simp [gpsResetDone]
      exact frame (wakelockView_of_same rfl (by simp [gpsResetDone]) rfl rfl hosts rfl rfl)
  | nmeaIgnored _ | switchKept _ => exact frame rfl
  | downloadDone download =>
      apply frame
      unfold downloadDone
      split
      · exact wakelockView_of_same rfl (by simp [Msg.traffic]) rfl rfl rfl rfl rfl
      · rfl
  | debugReq start =>
      exact frame (wakelockView_of_same rfl (by simp) rfl rfl rfl rfl rfl)

theorem initial_follows : (wakelockView (initial cfg)).Follows cfg := by
  have sessions : mnldSupportAutoSwitchMode cfg = true → hasOflSession (initial cfg) = false := by
    intro _
    simp only [hasOflSession, initial]
    split <;> rfl
  refine ⟨trivial, fun _ _ => ⟨rfl⟩, fun _ => .inl ⟨rfl, rfl, rfl, rfl, rfl⟩, fun auto => ?_⟩
  exact ⟨fun _ => ⟨rfl, rfl, sessions auto, rfl⟩, nofun, nofun⟩

/-- A step after which the wakelock is right met the condition. -/
theorem wakelockStep_of_tracks (follows : (wakelockView c).Follows cfg)
    (taken : step cfg c input = some c') (tracks : WakelockTracks c') :
    WakelockStep cfg c input := by
  cases step_case taken with
  | @request input r _ which move =>
      have moved := move.view
      rw [wakelockView_control] at moved
      refine (wakelockStep_iff which move).mpr (follows.fits (request_prepares which) moved
        tracks.alternates (fun host up => tracks.taken host fun idle => up (half_down.mpr idle)) ?_)
      intro done host down
      have idle := half_down.mp down
      apply tracks.released idle
      obtain ⟨rfl, rfl⟩ := request_stopDone c which done
      have stopping := move.stopDone_stopping
      rw [wakelockControl_gpsState] at stopping
      rcases stopping with state | state
      · exact (move.stopDone_settles ((wakelockControl_gpsState _ _).trans state)).2 idle
      · simp [wakelockView, GpsState.half, show c.gpsState = .oflStopping from state] at host
  | noReset | resetDone | nmeaIgnored _ | nmeaTimeout _ _ | switchKept _ | switchOflMode _ _
  | downloadDone download | debugReq start =>
      exact wakelockStep_of_none rfl

/-- The framework wakelock is right in every state of a run exactly if the run's steps
avoid the four. -/
theorem wakelockTracks_iff (cfg : Config) (inputs : List Input) :
    AllStates (step cfg) WakelockTracks (initial cfg) inputs ↔
      StepsMeet (step cfg) (WakelockStep cfg) (initial cfg) inputs := by
  apply @allStates_iff_stepsMeet _ _ _ fun c => (wakelockView c).Follows cfg
  · exact fun c input c' follows condition taken => step_follows follows condition taken
  · exact fun c follows => tracks_of_follows follows
  · intro c input c' follows missed taken tracks
    exact missed (wakelockStep_of_tracks follows taken tracks)
  · exact initial_follows

/-- Always on, the first start of the HAL runs the engine without the wakelock. -/
theorem firstStart_unheld :
    ∃ c, exec (step ⟨1, 0, true, 60000, 10000⟩) (initial ⟨1, 0, true, 60000, 10000⟩)
        [.halGpsStart, .startDone 0] = some c ∧
      c.gpsState = .started ∧ (c.clients .hal).gpsUsed = true ∧
      wakelockHeld (c.sent .wakelock) = false :=
  ⟨_, rfl, rfl, rfl, rfl⟩

end Connectivity.Mnld
