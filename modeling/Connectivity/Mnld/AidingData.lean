import Connectivity.Mnld.Moves
import Connectivity.Transition.Run

set_option autoImplicit false

namespace Connectivity.Mnld

open Context Transition

variable {cfg : Config} {c c' : Context} {event : GpsEvent} {data1 : Int} {input : Input}

/-- The aiding data an engine command deletes. -/
def Msg.deletes : Msg → BitVec 32
  | .gpsControlGpsStart flags | .gpsControlGpsReset flags => flags
  | _ => 0

def deletedBy (msgs : List Msg) : BitVec 32 := msgs.foldr (fun msg flags => msg.deletes ||| flags) 0

/-- What the engine has been told to delete so far. -/
def issuedFlags (c : Context) : BitVec 32 := deletedBy (c.sent .engine)

def Input.requestedFlags : Input → BitVec 32
  | .halGpsDeleteAidingData flags | .agpsResetGpsReq flags => flags
  | _ => 0

def requestedFlags (inputs : List Input) : BitVec 32 :=
  inputs.foldr (fun input flags => input.requestedFlags ||| flags) 0

@[simp] theorem deletedBy_start (flags : BitVec 32) (msgs : List Msg) :
    deletedBy (.gpsControlGpsStart flags :: msgs) = flags ||| deletedBy msgs := rfl

@[simp] theorem deletedBy_reset (flags : BitVec 32) (msgs : List Msg) :
    deletedBy (.gpsControlGpsReset flags :: msgs) = flags ||| deletedBy msgs := rfl

@[simp] theorem deletedBy_stop (msgs : List Msg) :
    deletedBy (.gpsControlGpsStop :: msgs) = deletedBy msgs := BitVec.zero_or

/-- A reset that a flag of zero leaves out would have deleted nothing. -/
@[simp] theorem deletedBy_gpsControlGpsReset (flags : BitVec 32) (msgs : List Msg) :
    deletedBy (if flags = 0#32 then msgs else .gpsControlGpsReset flags :: msgs) =
      flags ||| deletedBy msgs := by
  split
  next zero => rw [zero, BitVec.zero_or]
  next => rfl

/-- Issued and pending together: what no event of the state machine changes. -/
def knownFlags (c : Context) : BitVec 32 := issuedFlags c ||| c.deleteAidingFlag

theorem FsmMove.knownFlags_eq (move : FsmMove cfg c event data1 c') :
    knownFlags c' = knownFlags c := by
  cases move <;> simp [knownFlags, issuedFlags, BitVec.or_comm]

/-- Entering STARTED consumes the flag, and so does a reset request in it. -/
theorem FsmMove.flag_started (move : FsmMove cfg c event data1 c')
    (before : c.gpsState = .started → event ≠ .reset → c.deleteAidingFlag = 0)
    (started : c'.gpsState = .started) : c'.deleteAidingFlag = 0 := by
  cases move with
  | ignored unheard =>
      apply before started
      rintro rfl
      rw [started] at unheard
      cases unheard
  | startDoneHost | startDoneLink | startStarted | resetStarted | oflStart => simp
  | leaveStarted up => simpa using before up (by simp)
  | leaveStartedLink up => simpa using before up (by simp)
  | restarted up =>
      rw [reaidingReq_gpsState] at started
      simpa using before started (by simp)
  | stopIdle idle =>
      rw [doGpsStoppedHdlr_gpsState, idle] at started
      cases started
  | resetDown down =>
      rw [doGpsResetHdlr_gpsState] at started
      rcases down with state | state | state <;> rw [started] at state <;> cases state
  | oflLeave up =>
      rw [doGpsStoppedHdlr_gpsState, up] at started
      cases started
  | _ => simp at started

theorem request_deleteAidingFlag {r : Request} (which : input.request = some r) :
    (r.prepare c).deleteAidingFlag = c.deleteAidingFlag ||| input.requestedFlags := by
  cases input
  case agpsResetGpsReq flags =>
    simp only [Input.request, Option.ite_none_left_eq_some, Option.some.injEq] at which
    obtain ⟨-, rfl⟩ := which
    rfl
  all_goals cases which
  case halGpsDeleteAidingData flags => rfl
  all_goals exact BitVec.or_zero.symm

theorem request_noFlags {r : Request} (which : input.request = some r)
    (noReset : r.event ≠ .reset) :
    input.requestedFlags = 0 := by
  cases input
  case agpsResetGpsReq flags =>
    simp only [Input.request, Option.ite_none_left_eq_some, Option.some.injEq] at which
    obtain ⟨-, rfl⟩ := which
    exact absurd rfl noReset
  case halGpsDeleteAidingData flags =>
    cases which
    exact absurd rfl noReset
  all_goals rfl

theorem step_knownFlags (taken : step cfg c input = some c') :
    knownFlags c' = knownFlags c ||| input.requestedFlags := by
  have quiet : ∀ d : Context, knownFlags d = knownFlags c → input.requestedFlags = 0 →
      knownFlags d = knownFlags c ||| input.requestedFlags := by
    intro d same none
    rw [same, none]
    exact BitVec.or_zero.symm
  cases step_case taken with
  | @request _ r _ which move =>
      rw [move.knownFlags_eq]
      simp only [knownFlags, issuedFlags, wakelockControl_sent_engine,
        wakelockControl_deleteAidingFlag, (request_frame which).sent c .engine (by decide),
        request_deleteAidingFlag which, BitVec.or_assoc]
  | noReset => exact quiet _ rfl rfl
  | resetDone => exact quiet _ (by simp [knownFlags, issuedFlags, gpsResetDone]) rfl
  | nmeaIgnored other => exact quiet _ rfl rfl
  | nmeaTimeout started move =>
      apply quiet _ _ rfl
      have rebooted := move.knownFlags_eq
      simp only [knownFlags, issuedFlags, wakelockControl_sent_engine,
        wakelockControl_deleteAidingFlag] at rebooted
      exact rebooted
  | switchKept used => exact quiet _ rfl rfl
  | switchOflMode noHost move =>
      apply quiet _ _ rfl
      rw [move.knownFlags_eq]
      simp only [knownFlags, issuedFlags, wakelockControl_sent_engine,
        wakelockControl_deleteAidingFlag]
      rfl
  | downloadDone download =>
      apply quiet _ _ rfl
      unfold downloadDone
      split <;> rfl
  | debugReq start =>
      apply quiet _ _ rfl
      have same : (debugReqMnldMessage start c).sent .engine = c.sent .engine :=
        debugReqMnldMessage_sent c start (by decide)
      simp only [knownFlags, issuedFlags, same]
      rfl

/-- A start that reaches STARTED consumes the flag, a request there is served at once. -/
theorem step_flag_started (before : c.gpsState = .started → c.deleteAidingFlag = 0)
    (taken : step cfg c input = some c') : c'.gpsState = .started → c'.deleteAidingFlag = 0 := by
  cases step_case taken with
  | request which move =>
      apply move.flag_started
      intro started noReset
      rw [wakelockControl_gpsState, (request_frame which).gpsState] at started
      rw [wakelockControl_deleteAidingFlag, request_deleteAidingFlag which, before started,
        request_noFlags which noReset]
      rfl
  | nmeaTimeout started move =>
      apply move.flag_started
      intro _ _
      rw [wakelockControl_deleteAidingFlag]
      exact before started
  | switchOflMode noHost move =>
      apply move.flag_started
      intro started _
      rw [wakelockControl_gpsState] at started
      rw [wakelockControl_deleteAidingFlag]
      exact before started
  | downloadDone download =>
      unfold downloadDone
      split <;> exact before
  | noReset | resetDone | nmeaIgnored other | switchKept used | debugReq start => exact before

theorem exec_knownFlags {inputs : List Input} (run : exec (step cfg) c inputs = some c') :
    knownFlags c' = knownFlags c ||| requestedFlags inputs := by
  induction inputs generalizing c with
  | nil =>
      cases run
      exact BitVec.or_zero.symm
  | cons input rest ih =>
      obtain ⟨next, taken, run⟩ := Option.bind_eq_some_iff.mp run
      rw [ih run, step_knownFlags taken, BitVec.or_assoc]
      rfl

/-- No deletion of aiding data is lost or invented, and none is pending once STARTED. -/
theorem aidingData_conserved (cfg : Config) (inputs : List Input) (c : Context)
    (run : exec (step cfg) (initial cfg) inputs = some c) :
    issuedFlags c ||| c.deleteAidingFlag = requestedFlags inputs ∧
      (c.gpsState = .started → c.deleteAidingFlag = 0) := by
  constructor
  · have known := exec_knownFlags run
    have none : knownFlags (initial cfg) = 0#32 := BitVec.zero_or
    rw [none, BitVec.zero_or] at known
    exact known
  · apply exec_invariant _ _ run
    · intro c input c' before taken
      exact step_flag_started before taken
    · intro started
      rfl

theorem aidingData_conserved_cold :
    ∃ c, exec (step ⟨1, 1, true, 60000, 10000⟩) (initial ⟨1, 1, true, 60000, 10000⟩)
        [.halGpsStart, .agpsResetGpsReq 4, .startDone 0, .halGpsDeleteAidingData 1] = some c ∧
      (issuedFlags c ||| c.deleteAidingFlag = 5 ∧
        (c.gpsState = .started → c.deleteAidingFlag = 0)) :=
  ⟨_, rfl, aidingData_conserved ⟨1, 1, true, 60000, 10000⟩
    [.halGpsStart, .agpsResetGpsReq 4, .startDone 0, .halGpsDeleteAidingData 1] _ rfl⟩

end Connectivity.Mnld
