import Connectivity.WifiChip.ChipRuns

set_option autoImplicit false

/- The Wi-Fi service: the thread of its clients, which starts and stops the vendor HAL and holds the
lock while it does, and the thread of the HAL's event loop. -/
namespace Connectivity.WifiChip

open Transition

inductive RunState
  | stopped | started | stopping
deriving DecidableEq, Repr

/-- How a start of the vendor HAL goes: the driver, the interface, `wifi_initialize`, which gives a
handle when it succeeds, and the handles of the interfaces. -/
structure StartEnv where
  driverReady : Bool
  ifaceUp : Bool
  initialized : LegacyError
  retrieve : LegacyError
  ifacesFound : Bool
deriving DecidableEq, Repr

/-- A failing start of the vendor HAL leaves no handle behind. -/
def StartEnv.Clean (env : StartEnv) : Prop :=
  env.driverReady = true → env.ifaceUp = true → env.initialized = .success →
    env.retrieve = .success ∧ env.ifacesFound = true

instance (env : StartEnv) : Decidable env.Clean :=
  inferInstanceAs (Decidable (env.driverReady = true → env.ifaceUp = true →
    env.initialized = .success → env.retrieve = .success ∧ env.ifacesFound = true))

/-- The call that waits for a stop of the vendor HAL. -/
inductive Pending
  | stop
  | configureChip (modeId : Nat) (firmware : Bool) (env : StartEnv)
deriving DecidableEq, Repr

/-- The thread of the clients. In `wifi_cleanup` it holds the lock and waits for the event loop's
"Done"; behind that it waits on the condition variable, without the lock. -/
inductive Rpc
  | idle
  | cleaning (pending : Pending)
  | waiting (pending : Pending)
deriving DecidableEq, Repr

/-- The thread of the event loop: in `poll`, in a handler that takes the lock, or behind
`wifi_event_loop`. -/
inductive Loop
  | absent | polling | handling | exited
deriving DecidableEq, Repr

/-- The service with the state of `WifiLegacyHal`, what is in the cleanup sockets, and whether a
check has ended the process. -/
structure Service where
  names : Names
  flags : FeatureFlags
  runState : RunState
  chip : Option Chip
  isStarted : Bool
  globalHandle : Bool
  ifaceHandles : Bool
  awaiting : Bool
  exitSent : Bool
  doneSent : Bool
  rpc : Rpc
  loop : Loop
  died : Bool

namespace Service

def boot (names : Names) (flags : FeatureFlags) : Service where
  names := names
  flags := flags
  runState := .stopped
  chip := none
  isStarted := false
  globalHandle := false
  ifaceHandles := false
  awaiting := false
  exitSent := false
  doneSent := false
  rpc := .idle
  loop := .absent
  died := false

variable (s : Service)

/-- `WifiLegacyHal::start`, behind the check of its state. -/
def legacyStart (env : StartEnv) : Service × LegacyError :=
  if s.globalHandle || s.ifaceHandles || s.awaiting then ({ s with died := true }, .unknown)
  else if s.isStarted then (s, .success)
  else if env.driverReady = false then (s, .timedOut)
  else if env.ifaceUp = false then (s, .unknown)
  else if env.initialized ≠ .success then (s, env.initialized)
  else
    let t := { s with globalHandle := true, loop := .polling }
    if env.retrieve ≠ .success then (t, env.retrieve)
    else if env.ifacesFound = false then (t, .success)
    else ({ t with ifaceHandles := true, isStarted := true }, .success)

/-- The configuration behind the stop of the vendor HAL. -/
def finishConfigure (stopped : LegacyError) (modeId : Nat) (firmware : Bool) (env : StartEnv) :
    Service :=
  let (t, outcome) : Service × Outcome :=
    if stopped ≠ .success then (s, ⟨stopped, firmware, .success⟩)
    else if firmware = false then (s, ⟨.success, false, .success⟩)
    else ((s.legacyStart env).1, ⟨.success, true, (s.legacyStart env).2⟩)
  { t with
    chip := t.chip.map fun chip => (chip.configureChipInternal modeId outcome).1
    rpc := .idle }

/-- `WifiLegacyHal::stop` up to its wait. -/
def legacyStop (pending : Pending) : Service :=
  { s with awaiting := true, exitSent := true, rpc := .cleaning pending }

/-- `Wifi::start`. -/
def start (loaded : Bool) (initialized : LegacyError) : Service :=
  if s.runState ≠ .stopped then s
  else if loaded && decide (initialized = .success) then
    { s with chip := some (.new s.names s.flags), runState := .started }
  else s

/-- `Wifi::stop`. -/
def stop : Service :=
  if s.runState ≠ .started then s
  else if s.isStarted then { s with chip := none, runState := .stopping }.legacyStop .stop
  else { s with chip := none, runState := .stopped }

/-- `WifiChip::configureChip`. -/
def configureChip (modeId : Nat) (firmware : Bool) (env : StartEnv) : Service :=
  match s.chip with
  | none => s
  | some chip =>
      if chip.isValidModeId modeId = false ∨ modeId = chip.currentModeId then s
      else if chip.isValidModeId chip.currentModeId then
        let t := { s with chip := some chip.invalidateAndRemoveAllIfaces }
        if t.isStarted then t.legacyStop (.configureChip modeId firmware env)
        else t.finishConfigure .success modeId firmware env
      else s.finishConfigure .success modeId firmware env

/-- `onAsyncStopComplete`, called in `wifi_cleanup`. -/
def stopComplete (pending : Pending) : Service :=
  { s with
    globalHandle := false
    ifaceHandles := false
    isStarted := false
    exitSent := false
    doneSent := false
    runState := match pending with
      | .stop => .stopped
      | .configureChip _ _ _ => s.runState
    rpc := .waiting pending }

/-- The end of the wait, with success when the event loop has ended. -/
def wake (pending : Pending) : Service :=
  match pending with
  | .stop => { s with rpc := .idle }
  | .configureChip modeId firmware env =>
      s.finishConfigure (if s.awaiting then .unknown else .success) modeId firmware env

/-- The calls of the clients, one at a time, and the steps of the two threads. -/
inductive Event
  | start (loaded : Bool) (initialized : LegacyError)
  | stop
  | configureChip (modeId : Nat) (firmware : Bool) (env : StartEnv)
  | chipCall (c : Chip.Call)
  | netlink | handled | exit | hangUp | loopEnd
  | done | wake
deriving DecidableEq, Repr

/-- Whether the lock is free. -/
def lockFree : Bool :=
  match s.rpc with
  | .cleaning _ => false
  | _ => true

def handle : Event → Option Service
  | .start loaded initialized =>
      if s.rpc = .idle then some (s.start loaded initialized) else none
  | .stop => if s.rpc = .idle then some s.stop else none
  | .configureChip modeId firmware env =>
      if s.rpc = .idle then some (s.configureChip modeId firmware env) else none
  | .chipCall c =>
      match s.rpc, s.chip, c with
      | .idle, some _, .configureChip _ _ => none
      | .idle, some _, .invalidate => none
      | .idle, some chip, c =>
          match chip.step c with
          | some chip => some { s with chip := some chip }
          | none => some { s with died := true }
      | _, _, _ => none
  | .netlink => if s.loop = .polling then some { s with loop := .handling } else none
  | .handled => if s.loop = .handling ∧ s.lockFree then some { s with loop := .polling } else none
  | .exit =>
      if s.loop = .polling ∧ s.exitSent then some { s with loop := .exited, doneSent := true }
      else none
  | .hangUp => if s.loop = .polling then some { s with loop := .exited } else none
  | .loopEnd =>
      if s.loop = .exited ∧ s.lockFree then
        if s.awaiting then some { s with loop := .absent, awaiting := false }
        else some { s with died := true }
      else none
  | .done =>
      match s.rpc with
      | .cleaning pending => if s.doneSent then some (s.stopComplete pending) else none
      | _ => none
  | .wake =>
      match s.rpc with
      | .waiting pending => some (s.wake pending)
      | _ => none

def step (e : Event) : Option Service := if s.died then none else s.handle e

/-- The thread of the clients is in a call and neither thread can go on. -/
def Stuck : Prop :=
  s.rpc ≠ .idle ∧ ∀ e, e ∈ [Event.handled, .exit, .loopEnd, .done, .wake] → s.step e = none

/-- No check has ended the process and no thread waits for the other one for ever; between two calls
the chip has its properties, there is one while the service is started, and the vendor HAL runs only
for a chip in a mode. -/
structure InSync : Prop where
  alive : s.died = false
  free : ¬ s.Stuck
  sound : s.rpc = .idle → ∀ chip, s.chip = some chip → chip.Sound
  settled : s.rpc = .idle → s.runState ≠ .stopping
  exists_chip : s.rpc = .idle → (s.chip.isSome ↔ s.runState = .started)
  running : s.isStarted = true → s.rpc = .idle →
    ∃ chip, s.chip = some chip ∧ chip.isValidModeId chip.currentModeId = true

/-- No handler runs when the vendor HAL is to be stopped or begins while it is; the event loop ends
on demand only, and before the wait for it is over. -/
def Meets : Event → Prop
  | .stop => s.loop ≠ .handling
  | .configureChip _ _ env => s.loop ≠ .handling ∧ env.Clean
  | .netlink => s.exitSent = false
  | .hangUp => False
  | .wake => s.awaiting = false
  | _ => True

instance : (e : Event) → Decidable (s.Meets e)
  | .start _ _ => inferInstanceAs (Decidable True)
  | .stop => inferInstanceAs (Decidable (_ ≠ _))
  | .configureChip _ _ _ => inferInstanceAs (Decidable (_ ≠ _ ∧ _))
  | .chipCall _ => inferInstanceAs (Decidable True)
  | .netlink => inferInstanceAs (Decidable (_ = _))
  | .handled => inferInstanceAs (Decidable True)
  | .exit => inferInstanceAs (Decidable True)
  | .hangUp => inferInstanceAs (Decidable False)
  | .loopEnd => inferInstanceAs (Decidable True)
  | .done => inferInstanceAs (Decidable True)
  | .wake => inferInstanceAs (Decidable (_ = _))

section Invariant

/-- The vendor HAL between two calls. -/
structure Settled : Prop where
  awaiting : s.awaiting = false
  exitSent : s.exitSent = false
  doneSent : s.doneSent = false
  globalHandle : s.globalHandle = s.isStarted
  ifaceHandles : s.ifaceHandles = s.isStarted
  loop : s.isStarted = true ∧ (s.loop = .polling ∨ s.loop = .handling) ∨
    s.isStarted = false ∧ s.loop = .absent
  runState : s.runState ≠ .stopping
  exists_chip : s.chip.isSome ↔ s.runState = .started
  running : s.isStarted = true →
    ∃ chip, s.chip = some chip ∧ chip.isValidModeId chip.currentModeId = true

/-- What the waiting call has left of the service. -/
def CalledBy (runState : RunState) : Pending → Prop
  | .stop => s.chip = none ∧ s.runState = runState
  | .configureChip modeId _ env => s.runState = .started ∧ env.Clean ∧
      ∃ chip, s.chip = some chip ∧ chip.isValidModeId modeId = true ∧ modeId ≠ chip.currentModeId

/-- The vendor HAL in each phase of a call. -/
def Phase : Rpc → Prop
  | .idle => s.Settled
  | .cleaning pending => s.CalledBy .stopping pending ∧ s.isStarted = true ∧ s.awaiting = true ∧
      s.exitSent = true ∧
      (s.loop = .polling ∧ s.doneSent = false ∨ s.loop = .exited ∧ s.doneSent = true)
  | .waiting pending => s.CalledBy .stopped pending ∧ s.isStarted = false ∧
      s.globalHandle = false ∧ s.ifaceHandles = false ∧ s.exitSent = false ∧ s.doneSent = false ∧
      (s.loop = .exited ∧ s.awaiting = true ∨ s.loop = .absent ∧ s.awaiting = false)

structure Inv (names : Names) (flags : FeatureFlags) (s : Service) : Prop where
  alive : s.died = false
  sameNames : s.names = names
  sameFlags : s.flags = flags
  chips : ∀ chip, s.chip = some chip → chip.Kept flags ∧ chip.names = names ∧
    (s.rpc = .idle → chip.Told)
  phase : s.Phase s.rpc

variable {s} {names : Names} {flags : FeatureFlags}

theorem inv_boot : (boot names flags).Inv names flags := by
  refine ⟨rfl, rfl, rfl, fun chip other => ?_, ?_⟩
  · cases other
  · constructor <;> simp [boot]

theorem Inv.inSync (inv : s.Inv names flags) : s.InSync := by
  have phase := inv.phase
  have sound : s.rpc = .idle → ∀ chip, s.chip = some chip → chip.Sound := by
    intro idle chip same
    obtain ⟨kept, sameNames, told⟩ := inv.chips chip same
    exact (Chip.Inv.mk kept (told idle) sameNames).sound
  refine ⟨inv.alive, ?_, sound, ?_, ?_, ?_⟩
  · rintro ⟨busy, stuck⟩
    cases rpc : s.rpc with
    | idle => exact busy rpc
    | cleaning pending =>
        rw [rpc] at phase
        obtain ⟨_, _, _, sent, ⟨loop, _⟩ | ⟨_, done⟩⟩ := phase
        · have exit := stuck .exit (by simp)
          simp [step, handle, inv.alive, loop, sent] at exit
        · have finish := stuck .done (by simp)
          simp [step, handle, inv.alive, rpc, done] at finish
    | waiting pending =>
        have wake := stuck .wake (by simp)
        simp [step, handle, inv.alive, rpc] at wake
  all_goals
    intros
    simp_all only [Phase]
  · exact phase.runState
  · exact phase.exists_chip
  · exact phase.running ‹_›

/-- Nothing is left of the vendor HAL. -/
structure Off (s : Service) : Prop where
  awaiting : s.awaiting = false
  exitSent : s.exitSent = false
  doneSent : s.doneSent = false
  globalHandle : s.globalHandle = false
  ifaceHandles : s.ifaceHandles = false
  isStarted : s.isStarted = false
  loop : s.loop = .absent

theorem Settled.off (settled : s.Settled) (stopped : s.isStarted = false) : s.Off := by
  refine ⟨settled.awaiting, settled.exitSent, settled.doneSent, ?_, ?_, stopped, ?_⟩
  · rw [settled.globalHandle, stopped]
  · rw [settled.ifaceHandles, stopped]
  · rcases settled.loop with ⟨started, _⟩ | ⟨_, loop⟩
    · rw [stopped] at started
      cases started
    · exact loop

/-- A start from there passes its check; it starts the vendor HAL or leaves all as it was. -/
theorem legacyStart_cases {env : StartEnv} (clean : env.Clean) (off : s.Off) :
    s.legacyStart env =
        ({ s with globalHandle := true, loop := .polling, ifaceHandles := true, isStarted := true },
          .success) ∨
      ∃ error, error ≠ .success ∧ s.legacyStart env = (s, error) := by
  unfold legacyStart
  simp only [off.awaiting, off.globalHandle, off.ifaceHandles, off.isStarted, Bool.or_self,
    Bool.false_eq_true, if_false]
  split
  · exact Or.inr ⟨_, by decide, rfl⟩
  · split
    · exact Or.inr ⟨_, by decide, rfl⟩
    · split
      · exact Or.inr ⟨_, ‹_›, rfl⟩
      · rename_i ready up initialized
        obtain ⟨retrieved, found⟩ := clean (by simpa using ready) (by simpa using up)
          (by simpa using initialized)
        simp [retrieved, found]

theorem configureChip_valid {chip : Chip} {modeId : Nat} (valid : chip.isValidModeId modeId = true)
    (other : modeId ≠ chip.currentModeId) :
    let t := (chip.configureChipInternal modeId ⟨.success, true, .success⟩).1
    t.isValidModeId t.currentModeId = true := by
  have success : Chip.changeMode modeId ⟨.success, true, .success⟩ = createWifiStatus .success := by
    simp [Chip.changeMode]
  have modes : (chip.handleChipConfiguration modeId ⟨.success, true, .success⟩).1.modes =
      chip.modes := by
    unfold Chip.handleChipConfiguration
    split <;> rfl
  have status : (chip.handleChipConfiguration modeId ⟨.success, true, .success⟩).2 =
      createWifiStatus .success := by
    unfold Chip.handleChipConfiguration
    split <;> simp [success]
  simp only [Chip.configureChipInternal, valid, other, status, createWifiStatus]
  simpa [Chip.isValidModeId, Chip.notify, modes] using valid

/-- A configuration ends with the vendor HAL running for the new mode, or stopped. -/
theorem inv_finish {chip : Chip} {modeId : Nat} {firmware : Bool} {env : StartEnv}
    (alive : s.died = false) (sameNames : s.names = names) (sameFlags : s.flags = flags)
    (off : s.Off) (runState : s.runState = .started) (clean : env.Clean) (here : s.chip = some chip)
    (kept : chip.Kept flags) (same : chip.names = names)
    (valid : chip.isValidModeId modeId = true) (other : modeId ≠ chip.currentModeId) :
    (s.finishConfigure .success modeId firmware env).Inv names flags := by
  have after : ∀ outcome, (chip.configureChipInternal modeId outcome).1.Kept flags ∧
      (chip.configureChipInternal modeId outcome).1.names = names ∧
      (chip.configureChipInternal modeId outcome).1.Told := by
    intro outcome
    have inv := Chip.inv_reconfigured kept same valid other outcome
    exact ⟨inv.kept, inv.names, inv.told⟩
  have awaiting := off.awaiting
  have exitSent := off.exitSent
  have doneSent := off.doneSent
  have globalHandle := off.globalHandle
  have ifaceHandles := off.ifaceHandles
  have stopped := off.isStarted
  have loop := off.loop
  have run := configureChip_valid valid other
  cases firmware with
  | false =>
      refine ⟨alive, sameNames, sameFlags, ?_, ?_⟩
      · simp [finishConfigure, here, after]
      · constructor <;> simp [finishConfigure, *]
  | true =>
      rcases legacyStart_cases clean off with started | ⟨error, failed, unchanged⟩
      · refine ⟨?_, ?_, ?_, ?_, ?_⟩ <;> simp [finishConfigure, *]
        constructor <;> simp [*]
      · refine ⟨?_, ?_, ?_, ?_, ?_⟩ <;> simp [finishConfigure, *]
        constructor <;> simp [*]

theorem Inv.settled (inv : s.Inv names flags) (idle : s.rpc = .idle) : s.Settled := by
  have phase := inv.phase
  rw [idle] at phase
  exact phase

theorem inv_start (inv : s.Inv names flags) (idle : s.rpc = .idle) (loaded : Bool)
    (initialized : LegacyError) : (s.start loaded initialized).Inv names flags := by
  have settled := inv.settled idle
  unfold start
  split
  · exact inv
  · rename_i stopped
    have runState : s.runState = .stopped := not_not.mp stopped
    split
    · refine ⟨inv.alive, inv.sameNames, inv.sameFlags, ?_, ?_⟩
      · intro chip same
        cases same
        rw [inv.sameNames, inv.sameFlags]
        have fresh := @Chip.inv_new flags names
        exact ⟨fresh.kept, fresh.names, fun _ => fresh.told⟩
      · have none : s.chip.isSome = false := by
          simpa [runState] using settled.exists_chip
        have off : s.isStarted = false := by
          by_contra started
          obtain ⟨chip, same, _⟩ := settled.running (by simpa using started)
          rw [same] at none
          cases none
        show Phase _ s.rpc
        rw [idle]
        have loop := settled.loop
        exact ⟨settled.awaiting, settled.exitSent, settled.doneSent, settled.globalHandle,
          settled.ifaceHandles, loop, by simp, by simp,
          fun started => absurd started (by simp [off])⟩
    · exact inv

/-- What the stop of a running vendor HAL finds. -/
theorem inv_legacyStop (pending : Pending) (alive : s.died = false) (sameNames : s.names = names)
    (sameFlags : s.flags = flags)
    (chips : ∀ chip, s.chip = some chip → chip.Kept flags ∧ chip.names = names)
    (caller : s.CalledBy .stopping pending) (started : s.isStarted = true)
    (doneSent : s.doneSent = false) (loop : s.loop = .polling) :
    (s.legacyStop pending).Inv names flags := by
  refine ⟨alive, sameNames, sameFlags, fun chip same => ?_, ?_⟩
  · exact ⟨(chips chip same).1, (chips chip same).2, fun idle => by cases idle⟩
  refine ⟨?_, started, rfl, rfl, Or.inl ⟨loop, doneSent⟩⟩
  cases pending <;> exact caller

theorem Settled.polling (settled : s.Settled) (started : s.isStarted = true)
    (free : s.loop ≠ .handling) : s.loop = .polling := by
  rcases settled.loop with ⟨_, loop | loop⟩ | ⟨stopped, _⟩
  · exact loop
  · exact absurd loop free
  · rw [started] at stopped
    cases stopped

theorem inv_stop (inv : s.Inv names flags) (idle : s.rpc = .idle) (free : s.loop ≠ .handling) :
    s.stop.Inv names flags := by
  have settled := inv.settled idle
  unfold stop
  split
  · exact inv
  · split
    · rename_i started
      apply inv_legacyStop (s := { s with chip := none, runState := .stopping }) .stop inv.alive
        inv.sameNames inv.sameFlags _ ⟨rfl, rfl⟩ started settled.doneSent
        (settled.polling started free)
      intro chip same
      cases same
    · rename_i stopped
      have off := settled.off (by simpa using stopped)
      refine ⟨inv.alive, inv.sameNames, inv.sameFlags, ?_, ?_⟩
      · intro chip same
        cases same
      show Phase _ s.rpc
      rw [idle]
      exact ⟨settled.awaiting, settled.exitSent, settled.doneSent, settled.globalHandle,
        settled.ifaceHandles, settled.loop, by simp, by simp, fun started => absurd started stopped⟩

theorem inv_configureChip (inv : s.Inv names flags) (idle : s.rpc = .idle)
    (free : s.loop ≠ .handling) {env : StartEnv} (clean : env.Clean) (modeId : Nat)
    (firmware : Bool) : (s.configureChip modeId firmware env).Inv names flags := by
  have settled := inv.settled idle
  unfold configureChip
  split
  · exact inv
  · rename_i chip here
    have runState : s.runState = .started := settled.exists_chip.mp (by simp [here])
    obtain ⟨kept, same, _⟩ := inv.chips chip here
    split
    · exact inv
    · rename_i wanted
      obtain ⟨valid, other⟩ := not_or.mp wanted
      rw [Bool.not_eq_false] at valid
      split
      · have removed : chip.invalidateAndRemoveAllIfaces.Kept flags := kept.removeAll
        dsimp only
        split
        · rename_i started
          apply inv_legacyStop (s := { s with chip := some chip.invalidateAndRemoveAllIfaces })
            (.configureChip modeId firmware env) inv.alive inv.sameNames inv.sameFlags _
            ⟨runState, clean, _, rfl, valid, other⟩ started settled.doneSent
            (settled.polling started free)
          intro known here
          cases here
          exact ⟨removed, same⟩
        · rename_i stopped
          have off := settled.off (by simpa using stopped)
          exact inv_finish inv.alive inv.sameNames inv.sameFlags
            ⟨off.awaiting, off.exitSent, off.doneSent, off.globalHandle, off.ifaceHandles,
              off.isStarted, off.loop⟩ runState clean rfl removed same valid
            other
      · rename_i invalid
        have off : s.Off := by
          apply settled.off
          by_contra started
          obtain ⟨known, there, running⟩ := settled.running (by simpa using started)
          rw [here] at there
          cases there
          exact invalid running
        exact inv_finish inv.alive inv.sameNames inv.sameFlags off runState clean here kept same
          valid other

theorem inv_chipCall (apart : names.wlan0 ≠ "ap0" ∨ names.wlan1 ≠ "ap0")
    (inv : s.Inv names flags) {c : Chip.Call} {t : Service}
    (taken : s.handle (.chipCall c) = some t) : t.Inv names flags := by
  have goesOn : ∀ chip, s.rpc = .idle → s.chip = some chip →
      (∀ modeId outcome, c ≠ .configureChip modeId outcome) →
      ∃ next, chip.step c = some next ∧ Inv names flags { s with chip := some next } := by
    intro chip idle here other
    obtain ⟨kept, same, told⟩ := inv.chips chip here
    obtain ⟨next, called, after⟩ := Chip.inv_step apart ⟨kept, told idle, same⟩ c
    refine ⟨next, called, inv.alive, inv.sameNames, inv.sameFlags, ?_, ?_⟩
    · intro known there
      cases there
      exact ⟨after.kept, after.names, fun _ => after.told⟩
    · have settled := inv.settled idle
      have started : s.runState = .started := settled.exists_chip.mp (by simp [here])
      show Phase _ s.rpc
      rw [idle]
      refine ⟨settled.awaiting, settled.exitSent, settled.doneSent, settled.globalHandle,
        settled.ifaceHandles, settled.loop, settled.runState, by simp [started], fun running => ?_⟩
      obtain ⟨known, there, valid⟩ := settled.running running
      rw [here] at there
      cases there
      refine ⟨next, rfl, ?_⟩
      rw [Chip.currentModeId_step other called]
      simpa [Chip.isValidModeId, kept.modes, after.kept.modes] using valid
  simp only [handle] at taken
  split at taken
  · cases taken
  · cases taken
  · rename_i chip idle here other _
    obtain ⟨next, called, after⟩ := goesOn chip idle here other
    rw [called] at taken
    cases taken
    exact after
  · cases taken

/-- The event loop has written "Done", so that the cleanup can end. -/
theorem inv_stopComplete (inv : s.Inv names flags) {pending : Pending}
    (rpc : s.rpc = .cleaning pending) (doneSent : s.doneSent = true) :
    (s.stopComplete pending).Inv names flags := by
  have phase := inv.phase
  rw [rpc] at phase
  obtain ⟨caller, _, awaiting, _, ⟨_, none⟩ | ⟨loop, _⟩⟩ := phase
  · rw [doneSent] at none
    cases none
  · refine ⟨inv.alive, inv.sameNames, inv.sameFlags, fun chip same => ?_, ?_⟩
    · obtain ⟨kept, sameNames, _⟩ := inv.chips chip same
      exact ⟨kept, sameNames, fun idle => by cases idle⟩
    · refine ⟨?_, rfl, rfl, rfl, rfl, rfl, Or.inl ⟨loop, awaiting⟩⟩
      cases pending with
      | stop => exact ⟨caller.1, rfl⟩
      | configureChip modeId firmware env => exact caller

theorem inv_wake (inv : s.Inv names flags) {pending : Pending} (rpc : s.rpc = .waiting pending)
    (awaiting : s.awaiting = false) : (s.wake pending).Inv names flags := by
  have phase := inv.phase
  rw [rpc] at phase
  obtain ⟨caller, stopped, global, ifaces, exit, done, ⟨_, waits⟩ | ⟨loop, _⟩⟩ := phase
  · rw [awaiting] at waits
    cases waits
  · cases pending with
    | stop =>
        refine ⟨inv.alive, inv.sameNames, inv.sameFlags, fun chip same => ?_, ?_⟩
        · rw [wake, caller.1] at same
          cases same
        · show Settled _
          constructor <;> simp [wake, caller.1, caller.2, *]
    | configureChip modeId firmware env =>
        obtain ⟨runState, clean, chip, here, valid, other⟩ := caller
        obtain ⟨kept, same, _⟩ := inv.chips chip here
        rw [wake, awaiting, if_neg Bool.false_ne_true]
        exact inv_finish inv.alive inv.sameNames inv.sameFlags
          ⟨awaiting, exit, done, global, ifaces, stopped, loop⟩ runState clean here kept same valid
          other

/-- A handler begins or ends between two calls, or else the loop does not poll. -/
theorem inv_handler (inv : s.Inv names flags) (loop : s.loop = .polling ∨ s.loop = .handling)
    (idle : s.loop = .polling → s.exitSent = false) {next : Loop}
    (runs : next = .polling ∨ next = .handling) : Inv names flags { s with loop := next } := by
  refine ⟨inv.alive, inv.sameNames, inv.sameFlags, inv.chips, ?_⟩
  have phase := inv.phase
  show Phase _ s.rpc
  cases rpc : s.rpc with
  | idle =>
      rw [rpc] at phase
      have started : s.isStarted = true := by
        rcases phase.loop with ⟨started, _⟩ | ⟨_, absent⟩
        · exact started
        · simp [absent] at loop
      exact ⟨phase.awaiting, phase.exitSent, phase.doneSent, phase.globalHandle, phase.ifaceHandles,
        Or.inl ⟨started, runs⟩, phase.runState, phase.exists_chip, phase.running⟩
  | cleaning pending =>
      rw [rpc] at phase
      obtain ⟨_, _, _, sent, ⟨polling, _⟩ | ⟨exited, _⟩⟩ := phase
      · simp [idle polling] at sent
      · simp [exited] at loop
  | waiting pending =>
      rw [rpc] at phase
      obtain ⟨_, _, _, _, _, _, ⟨exited, _⟩ | ⟨absent, _⟩⟩ := phase
      · simp [exited] at loop
      · simp [absent] at loop

theorem inv_exit (inv : s.Inv names flags) (sent : s.exitSent = true) :
    Inv names flags { s with loop := .exited, doneSent := true } := by
  refine ⟨inv.alive, inv.sameNames, inv.sameFlags, inv.chips, ?_⟩
  have phase := inv.phase
  show Phase _ s.rpc
  cases rpc : s.rpc with
  | idle =>
      rw [rpc] at phase
      have unsent := phase.exitSent
      rw [sent] at unsent
      cases unsent
  | cleaning pending =>
      rw [rpc] at phase
      obtain ⟨caller, started, awaiting, _, _⟩ := phase
      exact ⟨caller, started, awaiting, sent, Or.inr ⟨rfl, rfl⟩⟩
  | waiting pending =>
      rw [rpc] at phase
      obtain ⟨_, _, _, _, unsent, _⟩ := phase
      rw [sent] at unsent
      cases unsent

/-- The loop ends while the call waits for its end. -/
theorem inv_loopEnd (inv : s.Inv names flags) (loop : s.loop = .exited) (free : s.lockFree = true) :
    s.awaiting = true ∧ Inv names flags { s with loop := .absent, awaiting := false } := by
  have phase := inv.phase
  cases rpc : s.rpc with
  | idle =>
      rw [rpc] at phase
      rcases phase.loop with ⟨_, polling | handling⟩ | ⟨_, absent⟩
      all_goals simp_all
  | cleaning pending => simp [lockFree, rpc] at free
  | waiting pending =>
      rw [rpc] at phase
      obtain ⟨caller, started, global, ifaces, exit, done, ⟨_, awaiting⟩ | ⟨absent, _⟩⟩ := phase
      · have chips := inv.chips
        rw [rpc] at chips
        exact ⟨awaiting, inv.alive, inv.sameNames, inv.sameFlags, chips, caller, started, global,
          ifaces, exit, done, Or.inr ⟨rfl, rfl⟩⟩
      · simp [absent] at loop

/-- The step lemma. -/
theorem inv_step (apart : names.wlan0 ≠ "ap0" ∨ names.wlan1 ≠ "ap0") {e : Event} {t : Service}
    (inv : s.Inv names flags) (meets : s.Meets e) (taken : s.step e = some t) :
    t.Inv names flags := by
  rw [step, inv.alive, if_neg Bool.false_ne_true] at taken
  cases e with
  | start loaded initialized =>
      obtain ⟨idle, same⟩ := Option.ite_none_right_eq_some.mp taken
      cases same
      exact inv_start inv idle loaded initialized
  | stop =>
      obtain ⟨idle, same⟩ := Option.ite_none_right_eq_some.mp taken
      cases same
      exact inv_stop inv idle meets
  | configureChip modeId firmware env =>
      obtain ⟨idle, same⟩ := Option.ite_none_right_eq_some.mp taken
      cases same
      exact inv_configureChip inv idle meets.1 meets.2 modeId firmware
  | chipCall c => exact inv_chipCall apart inv taken
  | netlink =>
      obtain ⟨polling, same⟩ := Option.ite_none_right_eq_some.mp taken
      cases same
      exact inv_handler inv (Or.inl polling) (fun _ => meets) (Or.inr rfl)
  | handled =>
      obtain ⟨⟨handling, _⟩, same⟩ := Option.ite_none_right_eq_some.mp taken
      cases same
      apply inv_handler inv (Or.inr handling) _ (Or.inl rfl)
      intro polling
      simp [polling] at handling
  | exit =>
      obtain ⟨⟨_, sent⟩, same⟩ := Option.ite_none_right_eq_some.mp taken
      cases same
      exact inv_exit inv sent
  | hangUp => exact absurd meets id
  | loopEnd =>
      obtain ⟨⟨exited, free⟩, same⟩ := Option.ite_none_right_eq_some.mp taken
      obtain ⟨awaiting, after⟩ := inv_loopEnd inv exited free
      rw [if_pos awaiting] at same
      cases same
      exact after
  | done =>
      simp only [handle] at taken
      split at taken
      · rename_i pending rpc
        obtain ⟨doneSent, same⟩ := Option.ite_none_right_eq_some.mp taken
        cases same
        exact inv_stopComplete inv rpc doneSent
      · cases taken
  | wake =>
      simp only [handle] at taken
      split at taken
      · rename_i pending rpc
        cases taken
        exact inv_wake inv rpc meets
      · cases taken

end Invariant

end Service

/-- Along every run of calls and of steps of the two threads in which no handler is under way when
the vendor HAL is stopped, no start of it fails behind its handle and no wait is given up, the
service stays in order. -/
theorem service_inSync (names : Names) (flags : FeatureFlags)
    (apart : names.wlan0 ≠ "ap0" ∨ names.wlan1 ≠ "ap0") (events : List Service.Event)
    (meets : StepsMeet Service.step Service.Meets (.boot names flags) events) :
    AllStates Service.step Service.InSync (.boot names flags) events := by
  have all : AllStates Service.step (Service.Inv names flags) (.boot names flags) events :=
    allStates_of_stepsMeet
      (fun _ _ _ inv condition taken => Service.inv_step apart inv condition taken)
      Service.inv_boot meets
  exact all.imp fun _ inv => inv.inSync

/-- A start, two modes, an interface, events, and a stop. -/
theorem service_inSync_modes :
    let env : StartEnv := ⟨true, true, .success, .success, true⟩
    AllStates Service.step Service.InSync (.boot ⟨"wlan0", "wlan1", "p2p0"⟩ ⟨true, false, false⟩)
      [.start true .success, .configureChip 0 true env, .chipCall .createStaIface, .netlink,
        .handled, .configureChip 1 true env, .exit, .done, .loopEnd, .wake, .stop, .exit, .done,
        .loopEnd, .wake] :=
  service_inSync ⟨"wlan0", "wlan1", "p2p0"⟩ ⟨true, false, false⟩ (Or.inl (by decide)) _ (by decide)

/-- A stop, or the change to another mode, while a handler is under way, leaves both threads waiting
for each other: no step follows. -/
theorem service_blocked (names : Names) (flags : FeatureFlags)
    (apart : names.wlan0 ≠ "ap0" ∨ names.wlan1 ≠ "ap0") {events : List Service.Event}
    (meets : StepsMeet Service.step Service.Meets (.boot names flags) events) {s : Service}
    (run : exec Service.step (.boot names flags) events = some s) (handling : s.loop = .handling) :
    (∀ e, s.stop.step e = none) ∧
      ∀ modeId firmware env chip, s.chip = some chip → chip.isValidModeId modeId = true →
        modeId ≠ chip.currentModeId → ∀ e, (s.configureChip modeId firmware env).step e = none := by
  have all : AllStates Service.step (Service.Inv names flags) (.boot names flags) events :=
    allStates_of_stepsMeet
      (fun _ _ _ inv condition taken => Service.inv_step apart inv condition taken)
      Service.inv_boot meets
  have inv := all.last run
  have idle : s.rpc = .idle := by
    have phase := inv.phase
    cases rpc : s.rpc with
    | idle => rfl
    | cleaning pending =>
        rw [rpc] at phase
        obtain ⟨_, _, _, _, ⟨loop, _⟩ | ⟨loop, _⟩⟩ := phase <;> simp [loop] at handling
    | waiting pending =>
        rw [rpc] at phase
        obtain ⟨_, _, _, _, _, _, ⟨loop, _⟩ | ⟨loop, _⟩⟩ := phase <;> simp [loop] at handling
  have settled := inv.settled idle
  have running : s.isStarted = true := by
    rcases settled.loop with ⟨running, _⟩ | ⟨_, absent⟩
    · exact running
    · simp [absent] at handling
  obtain ⟨chip, here, valid⟩ := settled.running running
  have started := settled.exists_chip.mp (by simp [here])
  have stuck : ∀ pending (t : Service), t.rpc = .cleaning pending → t.loop = .handling →
      t.doneSent = false → ∀ e, t.step e = none := by
    intro pending t rpc loop unsent e
    unfold Service.step
    cases e <;> simp [Service.handle, Service.lockFree, rpc, loop, unsent]
  constructor
  · rw [Service.stop, if_neg (by simp [started]), if_pos running]
    exact stuck .stop _ rfl handling settled.doneSent
  · intro modeId firmware env known there wanted other
    rw [here] at there
    cases there
    rw [Service.configureChip, here]
    simp only [wanted, other, valid, Bool.true_eq_false, or_self, if_false, if_true]
    rw [if_pos running]
    exact stuck (.configureChip modeId firmware env) _ rfl handling settled.doneSent

theorem service_blocked_stop :
    ∃ s, exec Service.step (.boot ⟨"wlan0", "wlan1", "p2p0"⟩ ⟨true, false, false⟩)
        [.start true .success, .configureChip 0 true ⟨true, true, .success, .success, true⟩,
          .netlink] = some s ∧
      ∀ e, s.stop.step e = none :=
  ⟨_, rfl, (@service_blocked ⟨"wlan0", "wlan1", "p2p0"⟩ ⟨true, false, false⟩ (Or.inl (by decide))
    [.start true .success, .configureChip 0 true ⟨true, true, .success, .success, true⟩, .netlink]
    (by decide) _ rfl rfl).1⟩

end Connectivity.WifiChip
