import Connectivity.Mnld.Moves
import Connectivity.Transition.Run

set_option autoImplicit false

namespace Connectivity.Mnld

open Context Transition

variable {cfg : Config} {c c' : Context} {event : GpsEvent} {data1 : Int} {input : Input}
  {who : ClientId}

def EngineSettled (c : Context) : Prop :=
  c.gpsState = .idle ∨ c.gpsState = .started ∨ c.gpsState = .oflStarted

def ClosesAcknowledged (c : Context) : Prop :=
  EngineSettled c → ∀ who, (c.clients who).needCloseAck = false

/-- A start whose end settles the engine up: some client the state serves is left. -/
def StartWillSettle (c : Context) : Prop :=
  isAllGpsClientExit c.clients = false ∧
    (c.gpsState = .starting ∨
      c.gpsState = .oflStarting ∧ isAHbdGpsClientExist c.clients = false)

/-- No start that will settle ends while a close waits for its acknowledgement. -/
def NoCloseAcrossStart (c : Context) (input : Input) : Prop :=
  (∃ isAssistReq, input = .startDone isAssistReq) → StartWillSettle c →
    ∀ who, (c.clients who).needCloseAck = false

/-- A close acknowledgement pending on a settled engine was pending before, and either
the state has not changed and the event was no stop, or a start has just settled. -/
theorem FsmMove.closeAck_pending (move : FsmMove cfg c event data1 c') (settled : EngineSettled c')
    (pending : (c'.clients who).needCloseAck = true) :
    (c.clients who).needCloseAck = true ∧
      (c'.gpsState = c.gpsState ∧ event ≠ .stop ∨ event = .startDone ∧ StartWillSettle c) := by
  cases move with
  | ignored unheard =>
      refine ⟨pending, .inl ⟨rfl, ?_⟩⟩
      rintro rfl
      rcases settled with state | state | state <;> rw [state] at unheard <;> cases unheard
  | startDoneHost starting someone host =>
      exact ⟨by simpa using pending, .inr ⟨rfl, someone, .inl starting⟩⟩
  | startDoneLink starting someone link =>
      exact ⟨by simpa using pending, .inr ⟨rfl, someone, .inl starting⟩⟩
  | oflStartDone starting someone noHost =>
      exact ⟨by simpa using pending, .inr ⟨rfl, someone, .inr ⟨starting, noHost⟩⟩⟩
  | resetDown | startStarted | resetStarted | restarted | oflStart =>
      exact ⟨by simpa using pending, .inl ⟨by simp, by simp⟩⟩
  | stopIdle | leaveStarted | leaveStartedLink | oflLeave => simp at pending
  | stopDoneAuto | stopDone | oflStopDoneAuto | oflStopDone => simp at pending
  | _ => simp [EngineSettled] at settled

theorem ClosesAcknowledged.frame (before : ClosesAcknowledged c) (state : c'.gpsState = c.gpsState)
    (kept : ∀ who, (c'.clients who).needCloseAck = (c.clients who).needCloseAck) :
    ClosesAcknowledged c' := by
  intro settled who
  rw [EngineSettled, state] at settled
  rw [kept who, before settled who]

/-- A stop event leaves no close acknowledgement pending on a settled engine. -/
theorem FsmMove.stop_acknowledges (move : FsmMove cfg c .stop data1 c') :
    ClosesAcknowledged c' := by
  intro settled who
  by_contra pending
  obtain ⟨-, ⟨-, noStop⟩ | ⟨startDone, -⟩⟩ :=
    move.closeAck_pending settled (eq_true_of_ne_false pending)
  · exact noStop rfl
  · cases startDone

theorem step_closesAcknowledged (before : ClosesAcknowledged c)
    (condition : NoCloseAcrossStart c input) (taken : step cfg c input = some c') :
    ClosesAcknowledged c' := by
  cases step_case taken with
  | request which move =>
      have frame := request_frame which
      intro settled who
      by_contra pending
      obtain ⟨earlier, kept | started⟩ :=
        move.closeAck_pending settled (eq_true_of_ne_false pending)
      · obtain ⟨state, noStop⟩ := kept
        rw [EngineSettled, state, wakelockControl_gpsState, frame.gpsState] at settled
        rw [wakelockControl_clients] at earlier
        have first := ((request_shape which).before_stop who noStop).2 earlier
        rw [before settled who] at first
        cases first
      · obtain ⟨event, will⟩ := started
        obtain ⟨isAssistReq, rfl, rfl⟩ := request_startDone c which event
        rw [StartWillSettle, wakelockControl_clients, wakelockControl_gpsState] at will
        rw [wakelockControl_clients] at earlier
        have none : (c.clients who).needCloseAck = false := condition ⟨isAssistReq, rfl⟩ will who
        exact absurd (none.symm.trans earlier) (by decide)
  | noReset => exact before
  | resetDone => exact before.frame rfl fun who => by simp [gpsResetDone]
  | nmeaIgnored other => exact before
  | nmeaTimeout started move => exact move.stop_acknowledges.frame rfl fun who => rfl
  | switchKept used => exact before
  | switchOflMode noHost move => exact move.stop_acknowledges
  | downloadDone download =>
      unfold downloadDone
      split <;> exact before
  | debugReq start => exact before

theorem FsmMove.startDone_settles (move : FsmMove cfg c .startDone data1 c')
    (will : StartWillSettle c) :
    EngineSettled c' ∧ ∀ who, (c'.clients who).needCloseAck = (c.clients who).needCloseAck := by
  obtain ⟨someone, state⟩ := will
  cases move with
  | ignored unheard =>
      rcases state with state | ⟨state, -⟩ <;> rw [state] at unheard <;> cases unheard
  | startDoneUnused starting nobody => rw [nobody] at someone; cases someone
  | startDoneHost => exact ⟨.inr (.inl (by simp)), fun who => by simp⟩
  | startDoneLink => exact ⟨.inr (.inl (by simp)), fun who => by simp⟩
  | restarted started =>
      rcases started with up | up <;> rcases state with state | ⟨state, -⟩ <;>
        rw [up] at state <;> cases state
  | oflStartDoneUnused starting unused =>
      rcases state with state | ⟨-, noHost⟩
      · rw [starting] at state
        cases state
      · rw [someone, noHost] at unused
        cases unused
  | oflStartDone => exact ⟨.inr (.inr (by simp)), fun who => by simp⟩

/-- Along a run every close is acknowledged by the time the engine settles exactly
when no start settles across a close that still waits. -/
theorem closesAcknowledged_iff (cfg : Config) (inputs : List Input) :
    AllStates (step cfg) ClosesAcknowledged (initial cfg) inputs ↔
      StepsMeet (step cfg) NoCloseAcrossStart (initial cfg) inputs := by
  apply allStates_iff_stepsMeet
  · intro c input c' before condition taken
    exact step_closesAcknowledged before condition taken
  · intro c before
    exact before
  · intro c input c' before missed taken after
    simp only [NoCloseAcrossStart, Classical.not_imp, not_forall] at missed
    obtain ⟨⟨isAssistReq, rfl⟩, will, who, pending⟩ := missed
    have move := mnldFsm_move taken
    obtain ⟨settled, same⟩ := move.startDone_settles
      (by rwa [StartWillSettle, wakelockControl_clients, wakelockControl_gpsState])
    have none := after settled who
    rw [same who, wakelockControl_clients] at none
    exact pending none
  · intro settled who
    rfl

/-- The HAL leaves while the engine is starting for it and for AGPS. -/
theorem closeAcrossStart_unacknowledged :
    ∃ c, exec (step ⟨1, 1, true, 60000, 10000⟩) (initial ⟨1, 1, true, 60000, 10000⟩)
        [.halGpsStart, .agpsOpenGpsReq, .halGpsStop, .startDone 0] = some c ∧
      c.gpsState = .started ∧ (c.clients .hal).needCloseAck = true :=
  ⟨_, rfl, rfl, rfl⟩

end Connectivity.Mnld
