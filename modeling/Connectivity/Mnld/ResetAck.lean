import Connectivity.Mnld.AidingData

set_option autoImplicit false

namespace Connectivity.Mnld

open Context Transition

variable {cfg : Config} {c c' : Context} {event : GpsEvent} {data1 : Int} {input : Input}

/-- AGPS waits for the acknowledgement of a reset. -/
def resetPending (c : Context) : Bool := (c.clients .agps).needResetAck

def Msg.isReset : Msg → Bool
  | .gpsControlGpsReset _ => true
  | _ => false

/-- The resets the running engine has been told to do. -/
def engineResets (c : Context) : Nat := (c.sent .engine).countP Msg.isReset

@[simp] theorem countP_gpsControlGpsReset (flags : BitVec 32) (msgs : List Msg) :
    (if flags = 0#32 then msgs else .gpsControlGpsReset flags :: msgs).countP Msg.isReset =
      msgs.countP Msg.isReset + if flags = 0#32 then 0 else 1 := by
  split
  · rfl
  · exact List.countP_cons

def Input.isResetReq : Input → Bool
  | .agpsResetGpsReq _ => true
  | _ => false

/-- A pending acknowledgement, if there is one, is sent. -/
structure ResetAnswered (c c' : Context) : Prop where
  done : resetPending c' = false
  told : resetPending c = true → c'.sent .resetAck = .agpsResetGpsDone :: c.sent .resetAck
  quiet : resetPending c = false → c'.sent .resetAck = c.sent .resetAck

structure ResetKept (c c' : Context) : Prop where
  pending : resetPending c' = resetPending c
  quiet : c'.sent .resetAck = c.sent .resetAck

/-- Acknowledgements sent and owed. -/
def resetDebt (c : Context) : Nat := (c.sent .resetAck).length + (resetPending c).toNat

theorem ResetAnswered.debt (answered : ResetAnswered c c') : resetDebt c' = resetDebt c := by
  cases pending : resetPending c with
  | false => rw [resetDebt, resetDebt, answered.done, answered.quiet pending, pending]
  | true =>
      rw [resetDebt, resetDebt, answered.done, answered.told pending, pending]
      rfl

theorem doGpsResetHdlr_answers : ResetAnswered c (doGpsResetHdlr c) := by
  refine ⟨by simp [resetPending], fun pending => ?_, fun pending => ?_⟩
  · have waiting : (c.clients .agps).needResetAck = true := pending
    simp [waiting]
  · have waiting : (c.clients .agps).needResetAck = false := pending
    simp [waiting]

/-- An event answers the pending reset or leaves it alone. -/
theorem FsmMove.answers (move : FsmMove cfg c event data1 c') :
    ResetAnswered c c' ∨ ResetKept c c' := by
  cases move with
  | start | offloadStart | stopStarted | resetStarted | oflStop =>
      exact .inr ⟨by simp [resetPending], by simp⟩
  | ignored | restarted =>
      exact .inr ⟨by simp [resetPending], by simp⟩
  | _ =>
      refine .inl ⟨by simp [resetPending], fun pending => ?_, fun pending => ?_⟩
      · have waiting : (c.clients .agps).needResetAck = true := pending
        simp [waiting]
      · have waiting : (c.clients .agps).needResetAck = false := pending
        simp [waiting]

theorem FsmMove.resetDebt_eq (move : FsmMove cfg c event data1 c') :
    resetDebt c' = resetDebt c := by
  rcases move.answers with answered | kept
  · exact answered.debt
  · rw [resetDebt, resetDebt, kept.pending, kept.quiet]

/-- Nothing is owed to AGPS once the engine rests. -/
theorem FsmMove.resetPending_idle (move : FsmMove cfg c event data1 c')
    (idle : c'.gpsState = .idle) : resetPending c' = false := by
  cases move with
  | ignored unheard =>
      rw [idle] at unheard
      cases event <;> cases unheard
  | stopIdle | resetDown | stopDoneAuto | stopDone | oflStopDoneAuto | oflStopDone =>
      simp [resetPending]
  | startStarted up | leaveStarted up | leaveStartedLink up | resetStarted up | oflStart up
  | oflLeave up =>
      simp [up] at idle
  | restarted up =>
      rw [reaidingReq_gpsState] at idle
      rcases up with up | up <;> rw [idle] at up <;> cases up
  | _ => simp at idle

/-- What is owed in STARTED was owed there before, but for the reset issued now. -/
theorem FsmMove.resetPending_started (move : FsmMove cfg c event data1 c')
    (started : c'.gpsState = .started) (pending : resetPending c' = true) :
    c.gpsState = .started ∧ resetPending c = true ∧
      (event = .reset → c.deleteAidingFlag ≠ 0#32 → engineResets c' = engineResets c + 1) := by
  cases move with
  | ignored unheard =>
      refine ⟨started, pending, ?_⟩
      rintro rfl
      rw [started] at unheard
      cases unheard
  | resetStarted up =>
      refine ⟨up, by simpa [resetPending] using pending, ?_⟩
      intro _ flag
      simp [engineResets, flag, List.countP_cons, Msg.isReset]
  | restarted =>
      exact ⟨by simpa using started, by simpa [resetPending] using pending, nofun⟩
  | start | offloadStart | stopStarted | oflStop => simp at started
  | _ => simp [resetPending] at pending

theorem FsmMove.engineResets_le (move : FsmMove cfg c event data1 c') :
    engineResets c ≤ engineResets c' := by
  cases move <;> simp [engineResets, Msg.isReset]

/-- Where the engine is up for the host or comes up, an answer leaves no flag behind. -/
theorem FsmMove.answer_issues (move : FsmMove cfg c event data1 c')
    (up : c.gpsState = .started ∨ c.gpsState = .starting ∨ c.gpsState = .oflStarting)
    (none : c.gpsState = .started → event ≠ .reset → c.deleteAidingFlag = 0)
    (answered : c'.sent .resetAck ≠ c.sent .resetAck) : c'.deleteAidingFlag = 0 := by
  cases move with
  | startDoneUnused | startDoneHost | startDoneLink | startStarted | oflStartDoneUnused
  | oflStartDone | oflStartHost | oflStart | resetStarted =>
      simp
  | leaveStarted started | leaveStartedLink started => simpa using none started (by decide)
  | ignored | start | offloadStart | stopStarted | restarted | oflStop => simp at answered
  | stopIdle state | stopDoneUsed state | stopDoneAuto state | stopDone state | oflLeave state
  | oflStopDoneLink state | oflStopDoneHost state | oflStopDoneAuto state | oflStopDone state =>
      simp [state] at up
  | resetDown state =>
      rcases state with state | state | state <;> simp [state] at up

def EngineDown (c : Context) : Prop :=
  c.gpsState = .idle ∨ c.gpsState = .stopping ∨ c.gpsState = .oflStopping

theorem EngineDown.not_started (down : EngineDown c) : c.gpsState ≠ .started := by
  rcases down with state | state | state <;> simp [state]

theorem FsmMove.reset_down (move : FsmMove cfg c .reset data1 c') (down : EngineDown c) :
    c' = doGpsResetHdlr c := by
  cases move with
  | ignored unheard =>
      rcases down with state | state | state <;> rw [state] at unheard <;> cases unheard
  | resetDown => rfl
  | resetStarted started => exact absurd started down.not_started

theorem FsmMove.reset_started (move : FsmMove cfg c .reset data1 c')
    (started : c.gpsState = .started) : c' = gpsControlGpsReset c := by
  cases move with
  | ignored unheard =>
      rw [started] at unheard
      cases unheard
  | resetDown down => exact absurd started (EngineDown.not_started down)
  | resetStarted => rfl

/-- How a step serves the resets of AGPS. A request that finds the engine down is
acknowledged at once, and its flags are kept for the next start; one that finds it
STARTED is issued at once and not acknowledged; and an acknowledgement that an engine
up for the host or coming up sends leaves no flag that the engine was not told. -/
structure ResetServed (c : Context) (input : Input) (c' : Context) : Prop where
  down : ∀ flags, flags ≠ 0 → input = .agpsResetGpsReq flags → EngineDown c →
    c'.sent .resetAck = .agpsResetGpsDone :: c.sent .resetAck ∧
      c'.deleteAidingFlag = c.deleteAidingFlag ||| flags
  started : ∀ flags, flags ≠ 0 → input = .agpsResetGpsReq flags → c.gpsState = .started →
    c'.sent .engine = .gpsControlGpsReset flags :: c.sent .engine ∧
      c'.sent .resetAck = c.sent .resetAck
  issued : input ≠ .agpsResetGpsReq 0 →
    c.gpsState = .started ∨
      (c.gpsState = .starting ∨ c.gpsState = .oflStarting) ∧ input ≠ .resetDone →
    c'.sent .resetAck ≠ c.sent .resetAck → c'.deleteAidingFlag = 0

theorem step_reset {flags : BitVec 32} (some : flags ≠ 0)
    (taken : step cfg c (.agpsResetGpsReq flags) = .some c') :
    FsmMove cfg (wakelockControl cfg ((agpsResetGpsReq flags).prepare c)) .reset 0 c' :=
  mnldFsm_move ((if_neg some).symm.trans taken)

theorem step_reset_down {flags : BitVec 32} (some : flags ≠ 0)
    (taken : step cfg c (.agpsResetGpsReq flags) = .some c') (down : EngineDown c) :
    c'.sent .resetAck = .agpsResetGpsDone :: c.sent .resetAck ∧
      c'.deleteAidingFlag = c.deleteAidingFlag ||| flags := by
  have same := (step_reset some taken).reset_down (by
    rw [EngineDown, wakelockControl_gpsState]
    exact down)
  subst same
  constructor
  · simp [agpsResetGpsReq]
    rfl
  · simp [agpsResetGpsReq]

theorem step_reset_started {flags : BitVec 32} (some : flags ≠ 0)
    (taken : step cfg c (.agpsResetGpsReq flags) = .some c') (started : c.gpsState = .started)
    (none : c.deleteAidingFlag = 0) :
    c'.sent .engine = .gpsControlGpsReset flags :: c.sent .engine ∧
      c'.sent .resetAck = c.sent .resetAck := by
  have same := (step_reset some taken).reset_started (by
    rw [wakelockControl_gpsState]
    exact started)
  subst same
  constructor
  · have pending : ((agpsResetGpsReq flags).prepare c).deleteAidingFlag = flags := by
      simp [agpsResetGpsReq, none]
    rw [gpsControlGpsReset_sent, wakelockControl_deleteAidingFlag, pending,
      if_pos ⟨some, rfl⟩, wakelockControl_sent_engine]
    rfl
  · rw [gpsControlGpsReset_sent, if_neg (by simp), wakelockControl_sent_resetAck]
    rfl

theorem request_resetPending {r : Request} (which : input.request = some r) :
    resetPending (r.prepare c) =
      (input.isResetReq || resetPending c && input ≠ .agpsReboot) := by
  cases input
  case agpsResetGpsReq flags =>
    simp only [Input.request, Option.ite_none_left_eq_some, Option.some.injEq] at which
    obtain ⟨-, rfl⟩ := which
    rfl
  all_goals cases which
  case agpsReboot => exact (Bool.and_false _).symm
  all_goals exact (Bool.and_true _).symm

/-- What the resets are read off is the same. -/
structure ResetFrame (d c : Context) : Prop where
  gpsState : d.gpsState = c.gpsState
  engine : d.sent .engine = c.sent .engine
  acks : d.sent .resetAck = c.sent .resetAck
  deleteAidingFlag : d.deleteAidingFlag = c.deleteAidingFlag
  pending : resetPending d = resetPending c

/-- A step as the resets see it. -/
inductive ResetStep (cfg : Config) (c : Context) (input : Input) (c' : Context) : Prop
  | call {d e : Context} {event : GpsEvent} {data1 : Int} (move : FsmMove cfg d event data1 e)
      (gpsState : d.gpsState = c.gpsState) (engine : d.sent .engine = c.sent .engine)
      (acks : d.sent .resetAck = c.sent .resetAck)
      (deleteAidingFlag : event ≠ .reset → d.deleteAidingFlag = c.deleteAidingFlag)
      (pending : resetPending d = (input.isResetReq || resetPending c && input ≠ .agpsReboot))
      (reset : input.isResetReq = true → event = .reset ∧ d.deleteAidingFlag ≠ 0)
      (flags : input ≠ .agpsResetGpsReq 0) (noDone : input ≠ .resetDone)
      (after : ResetFrame c' e) : ResetStep cfg c input c'
  | zero (which : input = .agpsResetGpsReq 0) (result : c' = c.emit [.agpsResetGpsDone]) :
      ResetStep cfg c input c'
  | done (which : input = .resetDone) (result : c' = gpsResetDone c) : ResetStep cfg c input c'
  | quiet (noReset : input.isResetReq = false) (noReboot : input ≠ .agpsReboot)
      (noDone : input ≠ .resetDone) (frame : ResetFrame c' c) : ResetStep cfg c input c'

theorem request_reset {r : Request} (which : input.request = some r)
    (reset : input.isResetReq = true) : r.event = .reset ∧ (r.prepare c).deleteAidingFlag ≠ 0 := by
  cases input <;> cases reset
  case agpsResetGpsReq flags =>
    simp only [Input.request, Option.ite_none_left_eq_some, Option.some.injEq] at which
    obtain ⟨some, rfl⟩ := which
    refine ⟨rfl, fun zero => some ?_⟩
    exact (BitVec.or_eq_zero_iff.mp zero).2

/-- The wakelock is nothing to the resets. -/
theorem wakelockControl_resets (cfg : Config) (c : Context) :
    ResetFrame (wakelockControl cfg c) c where
  gpsState := wakelockControl_gpsState cfg c
  engine := wakelockControl_sent_engine cfg c
  acks := wakelockControl_sent_resetAck cfg c
  deleteAidingFlag := wakelockControl_deleteAidingFlag cfg c
  pending := by rw [resetPending, wakelockControl_clients, resetPending]

/-- An event that is raised with the resets as they were. -/
theorem ResetStep.woken {d e : Context} {event : GpsEvent} {data1 : Int}
    (move : FsmMove cfg (wakelockControl cfg d) event data1 e) (frame : ResetFrame d c)
    (after : ResetFrame c' e) (noReset : input.isResetReq = false)
    (noReboot : input ≠ .agpsReboot) (noDone : input ≠ .resetDone) :
    ResetStep cfg c input c' := by
  have woken := wakelockControl_resets cfg d
  refine .call move (woken.gpsState.trans frame.gpsState) (woken.engine.trans frame.engine)
    (woken.acks.trans frame.acks) ?_ ?_ ?_ ?_ noDone after
  · intro _
    exact woken.deleteAidingFlag.trans frame.deleteAidingFlag
  · rw [woken.pending, frame.pending, noReset]
    simp [noReboot]
  · intro reset
    rw [noReset] at reset
    cases reset
  · rintro rfl
    cases noReset

theorem reset_step (taken : step cfg c input = some c') : ResetStep cfg c input c' := by
  have self : ∀ e : Context, ResetFrame e e := fun e => ⟨rfl, rfl, rfl, rfl, rfl⟩
  cases step_case taken with
  | @request input r _ which move =>
      have frame := request_frame which
      have woken := wakelockControl_resets cfg (r.prepare c)
      refine .call move ?_ ?_ ?_ ?_ ?_ ?_ ?_ ?_ (self c')
      · rw [woken.gpsState, frame.gpsState]
      · rw [woken.engine, frame.sent c .engine (by decide)]
      · rw [woken.acks, frame.sent c .resetAck (by decide)]
      · intro noReset
        rw [woken.deleteAidingFlag, request_deleteAidingFlag which, request_noFlags which noReset]
        exact BitVec.or_zero
      · rw [woken.pending]
        exact request_resetPending which
      · intro reset
        rw [woken.deleteAidingFlag]
        exact request_reset which reset
      · rintro rfl
        cases which
      · rintro rfl
        cases which
  | noReset => exact .zero rfl rfl
  | resetDone => exact .done rfl rfl
  | nmeaTimeout started move =>
      exact .woken move ⟨rfl, rfl, rfl, rfl, rfl⟩
        ⟨rfl, nmeaReboot_sent _ (by decide), nmeaReboot_sent _ (by decide), rfl, rfl⟩
        rfl nofun nofun
  | switchOflMode noHost move =>
      exact .woken move ⟨rfl, rfl, rfl, rfl, rfl⟩ (self c') rfl nofun nofun
  | nmeaIgnored other => exact .quiet rfl nofun nofun (self c)
  | switchKept used => exact .quiet rfl nofun nofun ⟨rfl, rfl, rfl, rfl, rfl⟩
  | downloadDone download =>
      refine .quiet rfl nofun nofun ?_
      unfold downloadDone
      split <;> exact ⟨rfl, rfl, rfl, rfl, rfl⟩
  | debugReq start =>
      exact .quiet rfl nofun nofun ⟨rfl, debugReqMnldMessage_sent c start (by decide),
        debugReqMnldMessage_sent c start (by decide), rfl, rfl⟩

/-- The requests of AGPS that ask for an acknowledgement of their own, the ones its
reboot takes back, and the resets issued when the engine last reported one done. -/
structure ResetLog where
  requests : Nat
  withdrawn : Nat
  doneAt : Nat

def recordReset (log : ResetLog) (c : Context) (input : Input) (_ : Context) : ResetLog where
  requests := log.requests +
    (input = .agpsResetGpsReq 0 || input.isResetReq && !resetPending c : Bool).toNat
  withdrawn := log.withdrawn + (input = .agpsReboot && resetPending c : Bool).toNat
  doneAt := if input = .resetDone then engineResets c else log.doneAt

/-- Every acknowledgement answers one request, an idle engine owes none and one that is
STARTED only while a reset it was told to do is not done. -/
structure ResetsAccounted (c : Context) (log : ResetLog) : Prop where
  account : (c.sent .resetAck).length + (resetPending c).toNat + log.withdrawn = log.requests
  idle : c.gpsState = .idle → resetPending c = false
  started : c.gpsState = .started → resetPending c = true → log.doneAt < engineResets c

variable {log : ResetLog}

theorem ResetFrame.engineResets_eq (frame : ResetFrame c' c) :
    engineResets c' = engineResets c := by
  rw [engineResets, frame.engine]
  rfl

theorem engineResets_mono (taken : step cfg c input = some c') :
    engineResets c ≤ engineResets c' := by
  cases reset_step taken with
  | call move gpsState engine acks deleteAidingFlag pending reset flags noDone after =>
      have more := move.engineResets_le
      rw [engineResets, engine] at more
      rw [after.engineResets_eq]
      exact more
  | zero which result => exact Nat.le_of_eq (by subst result; rfl)
  | done which result => exact Nat.le_of_eq (by subst result; simp [engineResets, gpsResetDone])
  | quiet noReset noReboot noDone frame => exact Nat.le_of_eq frame.engineResets_eq.symm

/-- A request of its own makes a debt, a reboot cancels one. -/
theorem debt_balance : ∀ isReset reboot owed : Bool, (reboot = true → isReset = false) →
    (isReset || owed && !reboot).toNat + (reboot && owed).toNat =
      owed.toNat + (isReset && !owed).toNat := by decide

theorem step_account
    (before : (c.sent .resetAck).length + (resetPending c).toNat + log.withdrawn = log.requests)
    (taken : step cfg c input = some c') :
    (c'.sent .resetAck).length + (resetPending c').toNat +
      (recordReset log c input c').withdrawn = (recordReset log c input c').requests := by
  simp only [recordReset]
  cases reset_step taken with
  | call move gpsState engine acks deleteAidingFlag pending reset flags noDone after =>
      have debt := move.resetDebt_eq
      rw [resetDebt, resetDebt, acks, pending] at debt
      have balance := debt_balance input.isResetReq (input = .agpsReboot) (resetPending c) (by
        intro reboot
        rw [of_decide_eq_true reboot]
        rfl)
      have counted : (decide (input = .agpsResetGpsReq 0)) = false := decide_eq_false flags
      rw [after.acks, after.pending, counted, Bool.false_or]
      rw [decide_not] at debt
      omega
  | zero which result =>
      subst which
      subst result
      have told : (c.emit [.agpsResetGpsDone]).sent .resetAck =
          .agpsResetGpsDone :: c.sent .resetAck := rfl
      have kept : resetPending (c.emit [.agpsResetGpsDone]) = resetPending c := rfl
      rw [told, kept, decide_eq_true rfl, decide_eq_false nofun, List.length_cons]
      simp only [Bool.true_or, Bool.false_and, Bool.toNat_true, Bool.toNat_false]
      omega
  | done which result =>
      subst which
      subst result
      have debt := (doGpsResetHdlr_answers (c := c.stopTimer .reset)).debt
      rw [resetDebt, resetDebt] at debt
      rw [decide_eq_false nofun, decide_eq_false nofun]
      simp only [Input.isResetReq, Bool.or_false, Bool.false_and, Bool.toNat_false]
      exact (congrArg (· + log.withdrawn) debt).trans before
  | quiet noReset noReboot noDone frame =>
      have counted : input ≠ .agpsResetGpsReq 0 := by
        rintro rfl
        cases noReset
      rw [frame.acks, frame.pending, noReset, decide_eq_false counted, decide_eq_false noReboot]
      exact before

/-- An idle engine owes nothing, whatever step led there. -/
theorem step_resetPending_idle (before : c.gpsState = .idle → resetPending c = false)
    (taken : step cfg c input = some c') (idle : c'.gpsState = .idle) :
    resetPending c' = false := by
  cases reset_step taken with
  | call move gpsState engine acks deleteAidingFlag pending reset flags noDone after =>
      rw [after.pending]
      exact move.resetPending_idle (after.gpsState.symm.trans idle)
  | zero which result =>
      subst result
      exact before idle
  | done which result =>
      subst result
      simp [resetPending, gpsResetDone]
  | quiet noReset noReboot noDone frame =>
      rw [frame.pending]
      exact before (frame.gpsState.symm.trans idle)

theorem step_resetPending_started (bound : log.doneAt ≤ engineResets c)
    (before : c.gpsState = .started → resetPending c = true → log.doneAt < engineResets c)
    (taken : step cfg c input = some c') (started : c'.gpsState = .started)
    (owed : resetPending c' = true) : (recordReset log c input c').doneAt < engineResets c' := by
  have more := engineResets_mono taken
  cases reset_step taken with
  | call move gpsState engine acks deleteAidingFlag pending reset flags noDone after =>
      obtain ⟨up, waiting, issued⟩ := move.resetPending_started
        (after.gpsState.symm.trans started) (after.pending.symm.trans owed)
      rw [recordReset, if_neg noDone]
      cases isReset : input.isResetReq with
      | true =>
          obtain ⟨event, flag⟩ := reset isReset
          have now := issued event flag
          rw [← after.engineResets_eq, engineResets, engineResets, engine] at now
          simp only [engineResets] at bound ⊢
          omega
      | false =>
          have earlier : resetPending c = true := by
            rw [pending, isReset] at waiting
            exact (Bool.and_eq_true_iff.mp waiting).1
          have reached := before (gpsState.symm.trans up) earlier
          simp only
          omega
  | zero which result =>
      subst which
      subst result
      exact before started owed
  | done which result =>
      subst result
      simp [resetPending, gpsResetDone] at owed
  | quiet noReset noReboot noDone frame =>
      rw [recordReset, if_neg noDone, frame.engineResets_eq]
      exact before (frame.gpsState.symm.trans started) (frame.pending.symm.trans owed)

theorem step_resetServed (none : c.gpsState = .started → c.deleteAidingFlag = 0)
    (taken : step cfg c input = some c') : ResetServed c input c' := by
  refine ⟨?_, ?_, ?_⟩
  · rintro flags some rfl down
    exact step_reset_down some taken down
  · rintro flags some rfl started
    exact step_reset_started some taken started (none started)
  · intro some up answered
    cases reset_step taken with
    | call move gpsState engine acks deleteAidingFlag pending reset flags noDone after =>
        rw [after.deleteAidingFlag]
        apply move.answer_issues
        · rw [gpsState]
          exact up.imp_right And.left
        · intro started noReset
          rw [deleteAidingFlag noReset]
          exact none (gpsState.symm.trans started)
        · rw [← after.acks, acks]
          exact answered
    | zero which result => exact absurd which some
    | done which result =>
        subst result
        rcases up with started | ⟨-, noDone⟩
        · exact none started
        · exact absurd which noDone
    | quiet noReset noReboot noDone frame => exact absurd frame.acks answered

/-- What every step keeps of the accounts. -/
structure ResetRun (c : Context) (log : ResetLog) : Prop where
  accounted : ResetsAccounted c log
  bound : log.doneAt ≤ engineResets c
  flag : c.gpsState = .started → c.deleteAidingFlag = 0

theorem step_resetRun (before : ResetRun c log) (taken : step cfg c input = some c') :
    ResetRun c' (recordReset log c input c') where
  accounted :=
    { account := step_account before.accounted.account taken
      idle := step_resetPending_idle before.accounted.idle taken
      started := step_resetPending_started before.bound before.accounted.started taken }
  bound := by
    have more := engineResets_mono taken
    have bound := before.bound
    simp only [recordReset]
    split
    · exact more
    · omega
  flag := step_flag_started before.flag taken

/-- Over every run the acknowledgements of AGPS resets add up, and every next step
serves them. -/
theorem resets_accounted (cfg : Config) (inputs : List Input) (c : Context)
    (run : exec (step cfg) (initial cfg) inputs = some c) :
    ResetsAccounted c (history (step cfg) recordReset (initial cfg) ⟨0, 0, 0⟩ inputs) ∧
      ∀ input c', step cfg c input = some c' → ResetServed c input c' := by
  have all : ResetRun c (history (step cfg) recordReset (initial cfg) ⟨0, 0, 0⟩ inputs) := by
    apply exec_history _ _ run
    · intro c log input c' before taken
      exact step_resetRun before taken
    · exact ⟨⟨rfl, fun _ => rfl, nofun⟩, Nat.le_refl 0, fun _ => rfl⟩
  exact ⟨all.accounted, fun input c' taken => step_resetServed all.flag taken⟩

/-- One request waits for its START_DONE with another and both are answered once. -/
theorem resets_accounted_merged :
    ∃ c, exec (step ⟨1, 1, true, 60000, 10000⟩) (initial ⟨1, 1, true, 60000, 10000⟩)
        [.halGpsStart, .agpsResetGpsReq 4, .agpsResetGpsReq 8, .startDone 0] = some c ∧
      ResetsAccounted c ⟨1, 0, 0⟩ ∧
      ∀ input c', step ⟨1, 1, true, 60000, 10000⟩ c input = some c' → ResetServed c input c' :=
  ⟨_, rfl, resets_accounted ⟨1, 1, true, 60000, 10000⟩
    [.halGpsStart, .agpsResetGpsReq 4, .agpsResetGpsReq 8, .startDone 0] _ rfl⟩

/-- A request in IDLE is acknowledged with nothing issued, one in STARTED stays pending
there, two that meet in STARTING are acknowledged once, and a reboot takes one back. -/
theorem resets_acknowledged_otherwise :
    (∃ c, exec (step ⟨1, 1, true, 60000, 10000⟩) (initial ⟨1, 1, true, 60000, 10000⟩)
        [.agpsResetGpsReq 4] = some c ∧
      c.sent .resetAck = [.agpsResetGpsDone] ∧ c.sent .engine = []) ∧
    (∃ c, exec (step ⟨1, 1, true, 60000, 10000⟩) (initial ⟨1, 1, true, 60000, 10000⟩)
        [.halGpsStart, .startDone 0, .agpsResetGpsReq 4] = some c ∧
      c.gpsState = .started ∧ resetPending c = true) ∧
    (∃ c, exec (step ⟨1, 1, true, 60000, 10000⟩) (initial ⟨1, 1, true, 60000, 10000⟩)
        [.halGpsStart, .agpsResetGpsReq 4, .agpsResetGpsReq 8, .startDone 0] = some c ∧
      resetPending c = false ∧ c.sent .resetAck = [.agpsResetGpsDone]) ∧
    ∃ c, exec (step ⟨1, 1, true, 60000, 10000⟩) (initial ⟨1, 1, true, 60000, 10000⟩)
        [.halGpsStart, .agpsResetGpsReq 4, .agpsReboot, .startDone 0] = some c ∧
      resetPending c = false ∧ c.sent .resetAck = [] :=
  ⟨⟨_, rfl, rfl, rfl⟩, ⟨_, rfl, rfl, rfl⟩, ⟨_, rfl, rfl, rfl⟩, ⟨_, rfl, rfl, rfl⟩⟩

end Connectivity.Mnld
