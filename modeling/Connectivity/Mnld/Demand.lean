import Connectivity.Mnld.Moves
import Connectivity.Transition.Run

set_option autoImplicit false

namespace Connectivity.Mnld

open Context Transition

variable {cfg : Config} {c c' : Context} {event : GpsEvent} {data1 : Int} {input : Input}
  {who : ClientId}

/-- The state of the engine agrees with what its clients want of it. -/
structure DemandMet (c : Context) : Prop where
  started : c.gpsState = .started → ∃ who, (c.clients who).gpsUsed = true
  idle : c.gpsState = .idle → ∀ who, (c.clients who).gpsUsed = false ∧
    (c.clients who).needOpenAck = false ∧ (c.clients who).needCloseAck = false

/-- The link clients that a switch to `type` takes the engine from. -/
def LosesSession (type : Capability) (c : Context) (who : ClientId) : Prop :=
  who = .flp ∧ type ≠ c.flpSession.preType ∨ who = .geofence ∧ type ≠ c.gfcSession.preType

/-- A start that ends outside the auto switch mode leaves a user: not every user is a
link client whose session was last announced with another type. -/
def StartKeepsUser (cfg : Config) (c : Context) : Prop :=
  c.gpsState = .starting → mnldSupportAutoSwitchMode cfg = false →
    isAllGpsClientExit c.clients = false →
    ∃ who, (c.clients who).gpsUsed = true ∧ ¬ LosesSession .apMode c who

/-- An offload stop that no host and no link client wants undone finds no test user. -/
def OflStopFindsNobody (c : Context) : Prop :=
  c.gpsState = .oflStopping →
    (isFlpUserExist c.clients || isGeofenceUserExist c.clients) = false →
    isAHbdGpsClientExist c.clients = false → ∀ who, (c.clients who).gpsUsed = false

/-- The three steps after which state and demand part. -/
structure DemandStep (cfg : Config) (c : Context) (input : Input) : Prop where
  startDone : (∃ isAssistReq, input = .startDone isAssistReq) → StartKeepsUser cfg c
  stopDone : input = .stopDone → OflStopFindsNobody c
  nmeaTimeout : input = .nmeaTimeout → c.gpsState = .started →
    ∀ who, (c.clients who).needOpenAck = false

/-- Past its start the engine answers for everyone who waits: who waits for an open
acknowledgement uses it. -/
def WaitersUse (c : Context) : Prop :=
  c.gpsState = .started ∨ c.gpsState = .stopping ∨ c.gpsState = .oflStarted ∨
    c.gpsState = .oflStopping →
  ∀ who, (c.clients who).needOpenAck = true → (c.clients who).gpsUsed = true

/-- What the flags say when the state machine is handed an event. -/
structure DemandReady (event : GpsEvent) (c : Context) : Prop where
  started : c.gpsState = .started → event ≠ .stop → ∃ who, (c.clients who).gpsUsed = true
  idle : c.gpsState = .idle → event = .stop ∨ event = .reset →
    ∀ who, (c.clients who).gpsUsed = false ∧ (c.clients who).needOpenAck = false
  idleClose : c.gpsState = .idle → event = .reset → ∀ who, (c.clients who).needCloseAck = false
  waiters : WaitersUse c

theorem someone_iff {clients : Clients} :
    isAllGpsClientExit clients = false ↔ ∃ who, (clients who).gpsUsed = true := by
  rw [← Bool.not_eq_true, isAllGpsClientExit_iff]
  simp only [not_forall, Bool.not_eq_false]

theorem FsmMove.waitersUse (move : FsmMove cfg c event data1 c') (ready : DemandReady event c) :
    WaitersUse c' := by
  intro state who waiting
  cases move with
  | ignored => exact ready.waiters state who waiting
  | startDoneUnused | startDoneHost | startDoneLink | startStarted | oflStartDoneUnused
  | oflStartDone | oflStartHost | oflStart => simp at waiting
  | stopStarted started =>
      simpa using ready.waiters (.inl started) who (by simpa using waiting)
  | resetDown | leaveStarted | leaveStartedLink | resetStarted | restarted | oflLeave =>
      simpa using ready.waiters (by simpa using state) who (by simpa using waiting)
  | oflStop started =>
      simpa using ready.waiters (.inr (.inr (.inl started))) who (by simpa using waiting)
  | stopIdle idle =>
      rw [doGpsStoppedHdlr_gpsState, idle] at state
      simp at state
  | _ => simp at state

/-- A switch of the sessions leaves the engine to whoever keeps a session. -/
theorem switchSessions_keepsUser {type : Capability} (used : (c.clients who).gpsUsed = true)
    (kept : ¬ LosesSession type c who) :
    ((switchSessions type c).clients who).gpsUsed = true := by
  simp only [LosesSession, not_or, not_and, not_not] at kept
  simp only [switchSessions_clients, used, Bool.true_and, Bool.and_eq_true, Bool.not_eq_true',
    Bool.and_eq_false_iff, decide_eq_false_iff_not, ne_eq, not_not]
  exact ⟨not_or_of_imp kept.1, not_or_of_imp kept.2⟩

theorem host_keepsSession {type : Capability} (host : who.isHost = true) :
    ¬ LosesSession type c who := by
  rintro (⟨rfl, -⟩ | ⟨rfl, -⟩) <;> cases host

theorem FsmMove.used_started (move : FsmMove cfg c event data1 c') (ready : DemandReady event c)
    (keeps : event = .startDone → StartKeepsUser cfg c) (started : c'.gpsState = .started) :
    ∃ who, (c'.clients who).gpsUsed = true := by
  cases move with
  | ignored unheard =>
      apply ready.started started
      rintro rfl
      rw [started] at unheard
      cases unheard
  | startDoneHost starting someone host =>
      have kept : ∃ who, (c.clients who).gpsUsed = true ∧ ¬ LosesSession .apMode c who := by
        rw [Bool.or_eq_true, Bool.not_eq_true'] at host
        rcases host with host | manual
        · obtain ⟨who, isHost, used⟩ := (isAHbdGpsClientExist_iff c.clients).mp host
          exact ⟨who, used, host_keepsSession isHost⟩
        · exact keeps rfl starting manual someone
      obtain ⟨who, used, kept⟩ := kept
      exact ⟨who, switchSessions_keepsUser (by simpa using used) kept⟩
  | startDoneLink starting someone link =>
      obtain ⟨who, used⟩ := someone_iff.mp someone
      exact ⟨who, by simpa using used⟩
  | startStarted up | resetStarted up =>
      obtain ⟨who, used⟩ := ready.started up (by simp)
      exact ⟨who, by simpa using used⟩
  | leaveStarted up someone | leaveStartedLink up someone =>
      obtain ⟨who, used⟩ := someone_iff.mp someone
      exact ⟨who, by simpa using used⟩
  | restarted =>
      obtain ⟨who, used⟩ := ready.started (by simpa using started) (by simp)
      exact ⟨who, by simpa using used⟩
  | stopIdle idle =>
      rw [doGpsStoppedHdlr_gpsState, idle] at started
      cases started
  | resetDown down =>
      rw [doGpsResetHdlr_gpsState] at started
      rcases down with state | state | state <;> rw [started] at state <;> cases state
  | oflStart up | oflLeave up =>
      simp [up] at started
  | _ => simp at started

theorem FsmMove.free_idle (move : FsmMove cfg c event data1 c') (ready : DemandReady event c)
    (finds : event = .stopDone → OflStopFindsNobody c) (idle : c'.gpsState = .idle)
    (who : ClientId) : (c'.clients who).gpsUsed = false ∧ (c'.clients who).needOpenAck = false ∧
      (c'.clients who).needCloseAck = false := by
  have settled : c.gpsState = .stopping ∨ c.gpsState = .oflStopping →
      (c.clients who).gpsUsed = false → (c.clients who).needOpenAck = false := by
    intro state unused
    by_contra waiting
    have used := ready.waiters (.inr (state.imp_right Or.inr)) who (eq_true_of_ne_false waiting)
    rw [unused] at used
    cases used
  cases move with
  | ignored unheard =>
      rw [idle] at unheard
      cases event <;> cases unheard
  | stopIdle state =>
      obtain ⟨unused, unopened⟩ := ready.idle state (.inl rfl) who
      simp [unused, unopened]
  | resetDown =>
      have state : c.gpsState = .idle := by simpa using idle
      obtain ⟨unused, unopened⟩ := ready.idle state (.inr rfl) who
      simp [unused, unopened, ready.idleClose state rfl who]
  | stopDoneAuto stopping nobody | stopDone stopping nobody =>
      have unused := (isAllGpsClientExit_iff c.clients).mp nobody who
      simp [unused, settled (.inl stopping) unused]
  | oflStopDoneAuto stopping noLink noHost | oflStopDone stopping noLink noHost =>
      have unused := finds rfl stopping noLink noHost who
      simp [unused, settled (.inr stopping) unused]
  | startStarted up | leaveStarted up | leaveStartedLink up | resetStarted up | oflStart up
  | oflLeave up =>
      simp [up] at idle
  | restarted up =>
      rw [reaidingReq_gpsState] at idle
      rcases up with up | up <;> rw [idle] at up <;> cases up
  | _ => simp at idle

theorem FsmMove.demandMet (move : FsmMove cfg c event data1 c') (ready : DemandReady event c)
    (keeps : event = .startDone → StartKeepsUser cfg c)
    (finds : event = .stopDone → OflStopFindsNobody c) : DemandMet c' ∧ WaitersUse c' :=
  ⟨⟨move.used_started ready keeps, move.free_idle ready finds⟩, move.waitersUse ready⟩

/-- A request leaves the flags as the state machine expects them with its event. -/
theorem DemandMet.ready {d : Context} (met : DemandMet c) (waiters : WaitersUse c)
    (shape : RequestShape c input event d.clients) (state : d.gpsState = c.gpsState) :
    DemandReady event d where
  started up noStop := by
    obtain ⟨who, used⟩ := met.started (state.symm.trans up)
    exact ⟨who, (shape.before_stop who noStop).1 used⟩
  idle down kind who := by
    obtain ⟨unused, unopened, -⟩ := met.idle (state.symm.trans down) who
    have earlier := shape.before who (by rintro rfl; simp at kind)
      (by rintro rfl; simp at kind)
    rw [unused, unopened] at earlier
    simpa using earlier
  idleClose down reset who := by
    obtain ⟨-, -, unclosed⟩ := met.idle (state.symm.trans down) who
    have earlier := (shape.before_stop who (by rw [reset]; decide)).2
    rw [unclosed] at earlier
    simpa using earlier
  waiters ran who waiting := shape.waiter (waiters (state ▸ ran) who) waiting

theorem step_demandMet (met : DemandMet c) (waiters : WaitersUse c)
    (condition : DemandStep cfg c input) (taken : step cfg c input = some c') :
    DemandMet c' ∧ WaitersUse c' := by
  cases step_case taken with
  | request which move =>
      have shape := request_shape which (c := c)
      rw [← wakelockControl_clients cfg] at shape
      have ready := met.ready waiters shape
        ((wakelockControl_gpsState _ _).trans ((request_frame which).gpsState c))
      apply move.demandMet ready
      · intro event
        obtain ⟨isAssistReq, rfl, rfl⟩ := request_startDone c which event
        have keeps := condition.startDone ⟨isAssistReq, rfl⟩
        simpa [StartKeepsUser, LosesSession, gpsStartDone] using keeps
      · intro event
        obtain ⟨rfl, rfl⟩ := request_stopDone c which event
        have finds := condition.stopDone rfl
        simpa [OflStopFindsNobody, gpsStopDone] using finds
  | noReset => exact ⟨⟨met.started, met.idle⟩, waiters⟩
  | resetDone =>
      refine ⟨⟨?_, ?_⟩, ?_⟩
      · simpa [gpsResetDone] using met.started
      · simpa [gpsResetDone] using met.idle
      · simpa [gpsResetDone, WaitersUse] using waiters
  | nmeaIgnored other => exact ⟨met, waiters⟩
  | nmeaTimeout started move =>
      have unopened := condition.nmeaTimeout rfl started
      have ready : DemandReady .stop (wakelockControl cfg (mtkGpsClearGpsUser c)) := by
        constructor
        · intro _ noStop
          exact absurd rfl noStop
        · simp [started]
        · simp
        · intro _ who waiting
          simp [unopened who] at waiting
      obtain ⟨met, waiters⟩ := move.demandMet ready nofun nofun
      exact ⟨⟨met.started, met.idle⟩, waiters⟩
  | switchKept used => exact ⟨⟨met.started, met.idle⟩, waiters⟩
  | switchOflMode noHost move =>
      have ready : DemandReady .stop
          (wakelockControl cfg (dropLinkClients (c.stopTimer .switchOflMode))) := by
        constructor
        · intro _ noStop
          exact absurd rfl noStop
        · intro down _ who
          obtain ⟨unused, unopened, -⟩ := met.idle (by simpa using down) who
          simp [unused, unopened]
        · simp
        · intro ran who waiting
          have used := waiters (by simpa using ran) who
          simp_all
      exact move.demandMet ready nofun nofun
  | downloadDone download =>
      unfold downloadDone
      split <;> exact ⟨⟨met.started, met.idle⟩, waiters⟩
  | debugReq start => exact ⟨⟨met.started, met.idle⟩, waiters⟩

/-- Along a run whose steps avoid the three, the engine's state agrees with demand. -/
theorem demandMet_of_demandStep (cfg : Config) (inputs : List Input)
    (meets : StepsMeet (step cfg) (DemandStep cfg) (initial cfg) inputs) :
    AllStates (step cfg) DemandMet (initial cfg) inputs := by
  have all : AllStates (step cfg) (fun c => DemandMet c ∧ WaitersUse c) (initial cfg) inputs := by
    apply allStates_of_stepsMeet _ _ meets
    · rintro c input c' ⟨met, waiters⟩ condition taken
      exact step_demandMet met waiters condition taken
    · refine ⟨⟨nofun, fun _ who => ⟨rfl, rfl, rfl⟩⟩, ?_⟩
      intro ran who waiting
      cases waiting
  exact all.imp fun c both => both.1

/-- The FLP opens, the end of the start takes the engine from it and nothing stops it;
and a link opened in STARTED still waits for its acknowledgement in IDLE, after the
NMEA timeout. -/
theorem demand_parts :
    (∃ c, exec (step ⟨1, 0, true, 60000, 10000⟩) (initial ⟨1, 0, true, 60000, 10000⟩)
        [.flpHbdGpsOpen, .startDone 0] = some c ∧
      c.gpsState = .started ∧ isAllGpsClientExit c.clients = true) ∧
    ∃ c, exec (step ⟨1, 1, true, 60000, 10000⟩) (initial ⟨1, 1, true, 60000, 10000⟩)
        [.halGpsStart, .startDone 0, .flpOflLinkOpen, .nmeaTimeout, .stopDone] = some c ∧
      c.gpsState = .idle ∧ (c.clients .flp).needOpenAck = true :=
  ⟨⟨_, rfl, rfl, rfl⟩, ⟨_, rfl, rfl, rfl⟩⟩

/-- A run of the HAL alone meets the condition. -/
theorem demandMet_of_demandStep_hal :
    AllStates (step ⟨1, 1, true, 60000, 10000⟩) DemandMet (initial ⟨1, 1, true, 60000, 10000⟩)
      [.halGpsStart, .startDone 0, .halGpsStop, .stopDone] := by
  apply demandMet_of_demandStep
  rintro c ⟨⟩
  refine ⟨⟨by rintro ⟨_, ⟨⟩⟩, nofun, nofun⟩, ?_⟩
  rintro c ⟨⟩
  refine ⟨⟨fun _ _ manual => absurd manual (by decide), nofun, nofun⟩, ?_⟩
  rintro c ⟨⟩
  refine ⟨⟨by rintro ⟨_, ⟨⟩⟩, nofun, nofun⟩, ?_⟩
  rintro c ⟨⟩
  exact ⟨⟨by rintro ⟨_, ⟨⟩⟩, fun _ stopping => absurd stopping nofun, nofun⟩, trivial⟩

end Connectivity.Mnld
