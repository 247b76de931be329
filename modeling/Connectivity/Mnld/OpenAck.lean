import Connectivity.Mnld.Moves
import Connectivity.Transition.Run

set_option autoImplicit false

namespace Connectivity.Mnld

open Context Transition

variable {cfg : Config} {c c' : Context} {event : GpsEvent} {data1 : Int} {input : Input}
  {who : ClientId}

/-- The engine has settled up, for host or for offload users. -/
def EngineUp (c : Context) : Prop := c.gpsState = .started ∨ c.gpsState = .oflStarted

def OpensAcknowledged (c : Context) : Prop :=
  EngineUp c → ∀ who, (c.clients who).needOpenAck = false

/-- No offload link is opened on an engine that is up. -/
def NoLinkOpenedUp (c : Context) (input : Input) : Prop := EngineUp c → ¬ OpensLink input

/-- An open acknowledgement still pending on an engine that is up was pending before,
in the same state, and the event was no start. -/
theorem FsmMove.openAck_pending (move : FsmMove cfg c event data1 c') (up : EngineUp c')
    (pending : (c'.clients who).needOpenAck = true) :
    c'.gpsState = c.gpsState ∧ (c.clients who).needOpenAck = true ∧ event ≠ .start := by
  cases move with
  | ignored unheard =>
      refine ⟨rfl, pending, ?_⟩
      rintro rfl
      rcases up with state | state <;> rw [state] at unheard <;> cases unheard
  | startDoneHost | startDoneLink | startStarted | oflStartDone | oflStart =>
      simp at pending
  | stopIdle idle =>
      rw [EngineUp, doGpsStoppedHdlr_gpsState, idle] at up
      simp at up
  | resetDown down =>
      rw [EngineUp, doGpsResetHdlr_gpsState] at up
      rcases down with state | state | state <;> rw [state] at up <;> simp at up
  | leaveStarted | leaveStartedLink | oflLeave =>
      exact ⟨by simp, by simpa using pending, by simp⟩
  | resetStarted | restarted =>
      exact ⟨by simp, by simpa using pending, by simp⟩
  | _ => simp [EngineUp] at up

theorem OpensAcknowledged.frame (before : OpensAcknowledged c) (state : c'.gpsState = c.gpsState)
    (kept : ∀ who, (c'.clients who).needOpenAck = true → (c.clients who).needOpenAck = true) :
    OpensAcknowledged c' := by
  intro up who
  rw [EngineUp, state] at up
  by_contra pending
  have earlier := kept who (eq_true_of_ne_false pending)
  rw [before up who] at earlier
  cases earlier

theorem FsmMove.opensAcknowledged (move : FsmMove cfg c event data1 c')
    (before : event ≠ .start → OpensAcknowledged c) : OpensAcknowledged c' := by
  intro up who
  by_contra pending
  obtain ⟨state, earlier, noStart⟩ := move.openAck_pending up (eq_true_of_ne_false pending)
  rw [EngineUp, state] at up
  rw [before noStart up who] at earlier
  cases earlier

theorem step_opensAcknowledged (before : OpensAcknowledged c) (condition : NoLinkOpenedUp c input)
    (taken : step cfg c input = some c') : OpensAcknowledged c' := by
  cases step_case taken with
  | @request _ r _ which move =>
      have frame := request_frame which
      apply move.opensAcknowledged
      intro noStart up who
      rw [EngineUp, wakelockControl_gpsState, frame.gpsState] at up
      rw [wakelockControl_clients]
      by_contra pending
      have shape := request_shape which (c := c)
      have noLink : r.event ≠ .offloadStart := by
        intro link
        rw [link] at shape
        exact condition up shape.link
      have earlier := (shape.before who noStart noLink).2 (eq_true_of_ne_false pending)
      rw [before up who] at earlier
      cases earlier
  | noReset => exact before
  | resetDone =>
      exact before.frame rfl fun who => by simp [gpsResetDone, doGpsResetHdlr_clients]
  | nmeaIgnored other => exact before
  | nmeaTimeout started move =>
      apply OpensAcknowledged.frame _ rfl fun who => id
      apply move.opensAcknowledged
      intro _
      exact before.frame (by simp) fun who => by simp
  | switchKept used => exact before
  | switchOflMode noHost move =>
      apply move.opensAcknowledged
      intro _
      exact before.frame (by simp) fun who => by
        simp only [wakelockControl_clients, dropLinkClients_clients, Bool.and_eq_true]
        exact And.left
  | downloadDone download =>
      unfold downloadDone
      split <;> exact before
  | debugReq start => exact before

theorem FsmMove.offloadStart_up (move : FsmMove cfg c .offloadStart data1 c') (up : EngineUp c) :
    c' = c := by
  cases move with
  | ignored unheard => rfl
  | offloadStart idle =>
      rw [EngineUp, idle] at up
      simp at up

/-- A link opened on an engine that is up waits for an acknowledgement nothing sends. -/
theorem linkOpened_pending (up : EngineUp c) (link : OpensLink input)
    (taken : step cfg c input = some c') :
    c'.gpsState = c.gpsState ∧ ∃ who, (c'.clients who).needOpenAck = true := by
  rcases link with rfl | rfl
  · have same := (mnldFsm_move taken).offloadStart_up
      (by rwa [EngineUp, wakelockControl_gpsState])
    subst same
    exact ⟨by rw [wakelockControl_gpsState]; rfl, .flp, by simp [mnldFlpOflLinkOpen]⟩
  · have same := (mnldFsm_move taken).offloadStart_up
      (by rwa [EngineUp, wakelockControl_gpsState])
    subst same
    exact ⟨by rw [wakelockControl_gpsState]; rfl, .geofence, by simp [mnldGfcOflLinkOpen]⟩

theorem initial_opensAcknowledged : OpensAcknowledged (initial cfg) := by
  intro up who
  rfl

/-- Along a run every open request is acknowledged exactly when no step opens an
offload link on an engine that is already up. -/
theorem opensAcknowledged_iff (cfg : Config) (inputs : List Input) :
    AllStates (step cfg) OpensAcknowledged (initial cfg) inputs ↔
      StepsMeet (step cfg) NoLinkOpenedUp (initial cfg) inputs := by
  apply allStates_iff_stepsMeet
  · intro c input c' before condition taken
    exact step_opensAcknowledged before condition taken
  · intro c before
    exact before
  · intro c input c' before missed taken after
    have ⟨up, link⟩ := Classical.not_imp.mp missed
    obtain ⟨state, who, pending⟩ := linkOpened_pending up (not_not.mp link) taken
    rw [after (by rwa [EngineUp, state]) who] at pending
    cases pending
  · exact initial_opensAcknowledged

/-- The geofence opens its link while the engine already serves the FLP link. -/
theorem geofenceLink_unacknowledged :
    ∃ c, exec (step ⟨1, 1, true, 60000, 10000⟩) (initial ⟨1, 1, true, 60000, 10000⟩)
        [.flpOflLinkOpen, .startDone 0, .gfcOflLinkOpen] = some c ∧
      c.gpsState = .oflStarted ∧ (c.clients .geofence).gpsUsed = true ∧
      (c.clients .geofence).needOpenAck = true :=
  ⟨_, rfl, rfl, rfl, rfl⟩

end Connectivity.Mnld
