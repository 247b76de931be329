import Connectivity.Mnld.Moves
import Connectivity.Transition.Run

set_option autoImplicit false

namespace Connectivity.Mnld

open Context Transition

variable {cfg : Config} {c c' : Context} {event : GpsEvent} {data1 : Int} {input : Input}

/-- A stop done here restarts the engine for offload users only, without its timer. -/
def restartBypassed (cfg : Config) (c : Context) : Bool :=
  bypassStartTimer cfg c &&
    (c.gpsState == .stopping && !isAllGpsClientExit c.clients ||
      c.gpsState == .oflStopping && (isFlpUserExist c.clients || isGeofenceUserExist c.clients))

/-- Whether the last stop done was such a restart. -/
def recordBypass (cfg : Config) (bypassed : Bool) (c : Context) (input : Input) (_ : Context) :
    Bool :=
  if input = .stopDone then restartBypassed cfg c else bypassed

/-- The two watchdogs: the stop timer guards both stopping states, the start timer both
starting ones, where it has a time and the start is no bypassed restart. -/
structure Watched (cfg : Config) (c : Context) (bypassed : Bool) : Prop where
  stop : c.armed .stop = true ↔ c.gpsState = .stopping ∨ c.gpsState = .oflStopping
  start : c.armed .start = true ↔
    (c.gpsState = .starting ∨ c.gpsState = .oflStarting) ∧ 0 < cfg.startTimeOut ∧
      bypassed = false

/-- What every step keeps: an idle engine has no bypassed restart behind it. -/
def WatchedRun (cfg : Config) (c : Context) (bypassed : Bool) : Prop :=
  Watched cfg c bypassed ∧ (c.gpsState = .idle → bypassed = false)

variable {bypassed : Bool}

theorem Watched.frame (before : Watched cfg c bypassed) (state : c'.gpsState = c.gpsState)
    (stop : c'.armed .stop = c.armed .stop) (start : c'.armed .start = c.armed .start) :
    Watched cfg c' bypassed := by
  constructor
  · rw [stop, state]
    exact before.stop
  · rw [start, state]
    exact before.start

/-- A start timer that is off for any other state starts with its time. -/
theorem Watched.start_off (before : Watched cfg c bypassed) (starting : c.gpsState ≠ .starting)
    (oflStarting : c.gpsState ≠ .oflStarting) : c.armed .start = false := by
  by_contra armed
  rcases (before.start.mp (eq_true_of_ne_false armed)).1 with state | state
  · exact starting state
  · exact oflStarting state

theorem restart_watched {state : GpsState} (starting : state = .starting ∨ state = .oflStarting)
    (before : Watched cfg c bypassed)
    (stopping : c.gpsState = .stopping ∨ c.gpsState = .oflStopping)
    (recorded : restartBypassed cfg c = bypassStartTimer cfg c) :
    Watched cfg (restart cfg state (doGpsStoppedHdlr cfg (c.stopTimer .stop)))
      (restartBypassed cfg c) := by
  have off : (doGpsStoppedHdlr cfg (c.stopTimer .stop)).armed .start = false := by
    have off := before.start_off (by rcases stopping with state | state <;> simp [state])
      (by rcases stopping with state | state <;> simp [state])
    simpa using off
  have same : bypassStartTimer cfg (doGpsStoppedHdlr cfg (c.stopTimer .stop)) =
      bypassStartTimer cfg c :=
    bypassStartTimer_congr cfg (fun who _ => by simp) (by simp) (by simp)
  rw [recorded]
  constructor
  · rw [restart_armed, restart_gpsState]
    rcases starting with rfl | rfl <;> split <;> simp
  · rw [restart_armed, restart_gpsState, same]
    split
    next bypass => simp [off, bypass]
    next timed =>
      rw [startTimer_armed_iff off]
      simp [starting, timed]

theorem settled_watched (before : Watched cfg c bypassed)
    (stopping : c.gpsState = .stopping ∨ c.gpsState = .oflStopping)
    (state : c'.gpsState = .idle) (stop : c'.armed .stop = false)
    (start : c'.armed .start = c.armed .start) {recorded : Bool} : Watched cfg c' recorded := by
  have off := before.start_off (by rcases stopping with state | state <;> simp [state])
    (by rcases stopping with state | state <;> simp [state])
  constructor
  · simp [stop, state]
  · simp [start, off, state]

theorem FsmMove.watched (move : FsmMove cfg c event data1 c') (before : Watched cfg c bypassed)
    (idle : c.gpsState = .idle → bypassed = false) :
    Watched cfg c' (if event = .stopDone then restartBypassed cfg c else bypassed) := by
  cases move with
  | ignored unheard =>
      have other : event ≠ .stopDone := by
        rintro rfl
        cases state : c.gpsState <;> rw [state] at unheard <;> cases unheard
      rw [if_neg other]
      exact before
  | stopIdle | resetDown | startStarted | leaveStarted | leaveStartedLink | resetStarted
  | restarted | oflStart | oflLeave =>
      exact before.frame (by simp) (by simp) (by simp)
  | start state | offloadStart state =>
      have off := before.start_off (by simp [state]) (by simp [state])
      constructor
      · simp [before.stop, state]
      · rw [startFromIdle_armed, startTimer_armed_iff off]
        simp [idle state]
  | startDoneUnused state | oflStartDoneUnused state =>
      constructor
      · simp [mnldGpsStopTimeoutMs]
      · simp
  | startDoneHost state | startDoneLink state | oflStartDone state =>
      constructor
      · simp [before.stop, state]
      · simp
  | stopStarted state | oflStartHost state | oflStop state =>
      constructor
      · simp [mnldGpsStopTimeoutMs]
      · simp [before.start, state]
  | stopDoneUsed stopping someone =>
      exact restart_watched (.inl rfl) before (.inl stopping)
        (by simp [restartBypassed, stopping, someone])
  | oflStopDoneLink stopping link noHost =>
      exact restart_watched (.inr rfl) before (.inr stopping)
        (by simp only [restartBypassed, stopping, link]; simp)
  | stopDoneAuto stopping | stopDone stopping =>
      exact settled_watched before (.inl stopping) (by simp) (by simp) (by simp)
  | oflStopDoneAuto stopping | oflStopDone stopping =>
      exact settled_watched before (.inr stopping) (by simp) (by simp) (by simp)
  | oflStopDoneHost stopping host =>
      have off := before.start_off (by simp [stopping]) (by simp [stopping])
      have bypass : bypassStartTimer cfg c = false := by
        rw [isAHbdGpsClientExist_eq, Bool.not_eq_true'] at host
        simp [bypassStartTimer, onlyOffloadUsers_eq, host]
      constructor
      · simp
      · rw [startFromIdle_armed, startTimer_armed_iff (by simpa using off)]
        simp [restartBypassed, bypass]

theorem FsmMove.idle_unbypassed (move : FsmMove cfg c event data1 c')
    (before : c.gpsState = .idle → bypassed = false) (idle : c'.gpsState = .idle) :
    (if event = .stopDone then restartBypassed cfg c else bypassed) = false := by
  cases move with
  | ignored unheard =>
      rw [idle] at unheard
      cases event <;> cases unheard
  | stopIdle | resetDown | startStarted | leaveStarted | leaveStartedLink | resetStarted
  | restarted | oflStart | oflLeave =>
      exact before (by simpa using idle)
  | stopDoneAuto stopping nobody | stopDone stopping nobody =>
      simp [restartBypassed, stopping, nobody]
  | oflStopDoneAuto stopping noLink | oflStopDone stopping noLink =>
      simp only [restartBypassed, stopping, noLink]
      simp
  | _ => simp at idle

theorem restartBypassed_wakelockControl :
    restartBypassed cfg (wakelockControl cfg c) = restartBypassed cfg c := by
  have same : bypassStartTimer cfg (wakelockControl cfg c) = bypassStartTimer cfg c :=
    bypassStartTimer_congr cfg (fun who _ => by simp) (by simp) (by simp)
  simp only [restartBypassed, same, wakelockControl_clients, wakelockControl_gpsState]

theorem step_watched (before : Watched cfg c bypassed)
    (idle : c.gpsState = .idle → bypassed = false)
    (taken : step cfg c input = some c') :
    WatchedRun cfg c' (recordBypass cfg bypassed c input c') := by
  cases step_case taken with
  | @request _ r _ which move =>
      have frame := request_frame which
      have entry : Watched cfg (wakelockControl cfg (r.prepare c)) bypassed :=
        before.frame (by simp [frame.gpsState]) (by simp [frame.armed]) (by simp [frame.armed])
      have entryIdle : (wakelockControl cfg (r.prepare c)).gpsState = .idle → bypassed = false := by
        simpa [frame.gpsState] using idle
      have recorded : (if r.event = .stopDone then
            restartBypassed cfg (wakelockControl cfg (r.prepare c)) else bypassed) =
          recordBypass cfg bypassed c input c' := by
        rw [restartBypassed_wakelockControl, recordBypass]
        by_cases stopDone : input = .stopDone
        · subst stopDone
          cases which
          rfl
        · rw [if_neg stopDone, if_neg fun event => stopDone (request_stopDone c which event).1]
      rw [← recorded]
      exact ⟨move.watched entry entryIdle, move.idle_unbypassed entryIdle⟩
  | noReset => exact ⟨before.frame rfl rfl rfl, idle⟩
  | resetDone =>
      exact ⟨before.frame (by simp [gpsResetDone]) (by simp [gpsResetDone])
        (by simp [gpsResetDone]), idle⟩
  | nmeaIgnored other => exact ⟨before, idle⟩
  | nmeaTimeout started move =>
      have entry : Watched cfg (wakelockControl cfg (mtkGpsClearGpsUser c)) bypassed :=
        before.frame (by simp) (by simp) (by simp)
      have entryIdle :
          (wakelockControl cfg (mtkGpsClearGpsUser c)).gpsState = .idle → bypassed = false := by
        simpa using idle
      exact ⟨(move.watched entry entryIdle).frame rfl rfl rfl, move.idle_unbypassed entryIdle⟩
  | switchKept used => exact ⟨before.frame rfl (by simp) (by simp), idle⟩
  | switchOflMode noHost move =>
      have entry : Watched cfg
          (wakelockControl cfg (dropLinkClients (c.stopTimer .switchOflMode))) bypassed :=
        before.frame (by simp) (by simp) (by simp)
      have entryIdle : (wakelockControl cfg
          (dropLinkClients (c.stopTimer .switchOflMode))).gpsState = .idle → bypassed = false := by
        simpa using idle
      exact ⟨move.watched entry entryIdle, move.idle_unbypassed entryIdle⟩
  | downloadDone download =>
      unfold downloadDone
      split
      · exact ⟨before.frame rfl rfl rfl, idle⟩
      · exact ⟨before.frame rfl rfl rfl, idle⟩
  | debugReq start => exact ⟨before.frame rfl rfl rfl, idle⟩

/-- Over every run the two watchdogs guard their states, the start timer but for a
start time that is none and for a bypassed restart. -/
theorem watchdogs_guard (cfg : Config) (inputs : List Input) (c : Context)
    (run : exec (step cfg) (initial cfg) inputs = some c) :
    Watched cfg c (history (step cfg) (recordBypass cfg) (initial cfg) false inputs) := by
  have guarded : WatchedRun cfg c
      (history (step cfg) (recordBypass cfg) (initial cfg) false inputs) := by
    apply exec_history _ _ run
    · rintro c bypassed input c' ⟨before, idle⟩ taken
      exact step_watched before idle taken
    · refine ⟨⟨?_, ?_⟩, fun _ => rfl⟩ <;> simp [initial]
  exact guarded.1

theorem watchdogs_guard_restart :
    ∃ c, exec (step ⟨1, 1, true, 60000, 10000⟩) (initial ⟨1, 1, true, 60000, 10000⟩)
        [.halGpsStart, .startDone 0, .halGpsStop, .agpsOpenGpsReq, .stopDone] = some c ∧
      Watched ⟨1, 1, true, 60000, 10000⟩ c false :=
  ⟨_, rfl, watchdogs_guard ⟨1, 1, true, 60000, 10000⟩
    [.halGpsStart, .startDone 0, .halGpsStop, .agpsOpenGpsReq, .stopDone] _ rfl⟩

/-- The FLP opens its link again while the engine stops, and no timer watches the restart;
nor does one watch a start whose time is zero. -/
theorem restart_unguarded :
    (∃ c, exec (step ⟨1, 1, true, 60000, 10000⟩) (initial ⟨1, 1, true, 60000, 10000⟩)
        [.flpOflLinkOpen, .startDone 0, .flpOflLinkClose, .flpOflLinkOpen, .stopDone] = some c ∧
      c.gpsState = .oflStarting ∧ c.armed .start = false) ∧
    ∃ c, exec (step ⟨1, 1, true, 0, 10000⟩) (initial ⟨1, 1, true, 0, 10000⟩) [.halGpsStart] =
        some c ∧ c.gpsState = .starting ∧ c.armed .start = false :=
  ⟨⟨_, rfl, rfl, rfl⟩, ⟨_, rfl, rfl, rfl⟩⟩

end Connectivity.Mnld
