import Connectivity.Mnld.Handlers

set_option autoImplicit false

/- What decides the framework wakelock, and nothing else: which half of the state
machine the engine is in, the requests sent, the memory of the edge detector, whether a
host client uses the engine and whether a session is of the offload type. -/
namespace Connectivity.Mnld

inductive Half
  | down | host | offload
  deriving DecidableEq, Repr

structure WakelockView where
  half : Half
  log : List Msg
  lpMode : Bool
  fwkWakelock : Bool
  hostUsed : Bool
  oflSession : Bool

/-- Requests and releases take turns, a request first. The latest comes first. -/
def Alternates : List Msg → Prop
  | [] => True
  | msg :: earlier => msg ≠ earlier.headD .halReleaseWakelock ∧ Alternates earlier

def wakelockHeld (log : List Msg) : Bool := log.headD .halReleaseWakelock == .halRequestWakelock

@[simp] theorem wakelockHeld_request (log : List Msg) :
    wakelockHeld (.halRequestWakelock :: log) = true := rfl

@[simp] theorem wakelockHeld_release (log : List Msg) :
    wakelockHeld (.halReleaseWakelock :: log) = false := rfl

theorem alternates_request {log : List Msg} :
    Alternates (.halRequestWakelock :: log) ↔ wakelockHeld log = false ∧ Alternates log := by
  rw [Alternates, wakelockHeld, beq_eq_false_iff_ne, ne_comm]

theorem alternates_release {log : List Msg} (held : wakelockHeld log = true)
    (alternates : Alternates log) : Alternates (.halReleaseWakelock :: log) := by
  rw [Alternates, eq_of_beq held]
  exact ⟨by decide, alternates⟩

namespace WakelockView

def held (v : WakelockView) : Bool := wakelockHeld v.log

/-- `mnl_offload_is_enabled() && (mnld_offload_is_auto_mode() ||
mnld_offload_is_always_on_mode())`. -/
def active (cfg : Config) (v : WakelockView) : Bool :=
  mnldOffloadIsAlwaysOnMode cfg || mnldSupportAutoSwitchMode cfg && v.oflSession

/-- The edge detector before every event. -/
def control (active : Bool) (v : WakelockView) : WakelockView :=
  if active then
    if v.hostUsed then
      if v.lpMode then
        { v with log := .halRequestWakelock :: v.log, lpMode := false, fwkWakelock := true }
      else v
    else if v.lpMode then v
    else
      { v with
        log := if v.fwkWakelock then .halReleaseWakelock :: v.log else v.log
        lpMode := true
        fwkWakelock := false }
  else v

def engineStart (active : Bool) (half : Half) (v : WakelockView) : WakelockView :=
  { v with half := half, log := if active then v.log else .halRequestWakelock :: v.log }

def engineStop (active oflSession : Bool) (v : WakelockView) : WakelockView :=
  { v with
    half := .down
    log := if active then v.log else .halReleaseWakelock :: v.log
    oflSession := oflSession }

/-- What a request does before the edge detector sees it. -/
inductive Prepares (v : WakelockView) : GpsEvent → WakelockView → Prop
  | start (hostUsed : Bool) : Prepares v .start { v with hostUsed := hostUsed }
  | offloadStart : Prepares v .offloadStart { v with oflSession := true }
  | other {event : GpsEvent} (noStart : event ≠ .start) (noLink : event ≠ .offloadStart)
      {hostUsed : Bool} (fewer : hostUsed = true → v.hostUsed = true) :
      Prepares v event { v with hostUsed := hostUsed }

inductive Move (cfg : Config) (v : WakelockView) : GpsEvent → WakelockView → Prop
  | quiet {event : GpsEvent} {oflSession : Bool}
      (down : v.half = .down → (event = .stop ∨ event = .reset) ∧ oflSession = v.oflSession)
      (offload : v.half = .offload → v.oflSession = true → oflSession = true)
      (stays : event = .stopDone → v.half = .offload → v.hostUsed = false) :
      Move cfg v event { v with oflSession := oflSession }
  | start (down : v.half = .down) : Move cfg v .start (engineStart (active cfg v) .host v)
  | offloadStart (down : v.half = .down) :
      Move cfg v .offloadStart (engineStart (active cfg v) .offload v)
  | settle {oflSession : Bool} (up : v.half ≠ .down) (noHost : v.hostUsed = false)
      (auto : mnldSupportAutoSwitchMode cfg = true → oflSession = false) :
      Move cfg v .stopDone (engineStop (active cfg v) oflSession v)
  | rehost {w : WakelockView} (offload : v.half = .offload) (host : v.hostUsed = true)
      (stopped : w = engineStop (active cfg v) false v) :
      Move cfg v .stopDone (engineStart (active cfg (control (active cfg w) w)) .host
        (control (active cfg w) w))

/-- The wakelock follows the host clients, and so does the detector's memory. -/
def Edge (v : WakelockView) : Prop :=
  v.fwkWakelock = v.hostUsed ∧ v.lpMode = !v.hostUsed ∧ v.held = v.hostUsed

/-- Without an offload mode the wakelock follows the engine. -/
structure HostOnly (v : WakelockView) : Prop where
  eq : v.held = decide (v.half ≠ .down)

/-- Always on, the wakelock follows the host clients from the first event on. -/
def AlwaysOn (v : WakelockView) : Prop :=
  v.half = .down ∧ v.lpMode = false ∧ v.fwkWakelock = false ∧ v.hostUsed = false ∧
    v.held = false ∨ v.Edge

/-- With auto switching it follows the engine in the host half, the host clients in the
offload half. -/
structure AutoSwitch (v : WakelockView) : Prop where
  down : v.half = .down →
    v.held = false ∧ v.fwkWakelock = false ∧ v.oflSession = false ∧ v.hostUsed = false
  host : v.half = .host → v.held = true ∧ v.fwkWakelock = false
  offload : v.half = .offload → v.oflSession = true ∧ v.Edge

variable {cfg : Config} {v w x : WakelockView} {event : GpsEvent}

theorem Prepares.memory (prepares : Prepares v event w) :
    w.log = v.log ∧ w.lpMode = v.lpMode ∧ w.fwkWakelock = v.fwkWakelock ∧ w.half = v.half := by
  cases prepares <;> exact ⟨rfl, rfl, rfl, rfl⟩

/-- With its memory right, the detector makes the wakelock follow the host clients. -/
theorem control_edge (alternates : Alternates v.log) (lp : v.lpMode = !v.fwkWakelock)
    (held : v.held = v.fwkWakelock) :
    Alternates (control true v).log ∧ (control true v).Edge := by
  obtain ⟨half, log, lpMode, fwk, host, ofl⟩ := v
  simp only [WakelockView.held] at alternates lp held
  cases host <;> cases fwk <;> cases lpMode <;> try cases lp
  all_goals simp [control, Edge, WakelockView.held, held, alternates, alternates_request,
    alternates_release]

theorem edge_control {active : Bool} (edge : v.Edge) : control active v = v := by
  obtain ⟨-, lp, -⟩ := edge
  cases host : v.hostUsed <;> simp [control, lp, host]

@[simp] theorem control_half (active : Bool) : (control active v).half = v.half := by
  unfold control
  split_ifs <;> rfl

@[simp] theorem control_hostUsed (active : Bool) : (control active v).hostUsed = v.hostUsed := by
  unfold control
  split_ifs <;> rfl

@[simp] theorem control_oflSession (active : Bool) :
    (control active v).oflSession = v.oflSession := by
  unfold control
  split_ifs <;> rfl

theorem control_noHost (noHost : v.hostUsed = false) (fwk : v.fwkWakelock = false) :
    control true v = { v with lpMode := true } := by
  obtain ⟨half, log, lpMode, _, _, ofl⟩ := v
  cases noHost
  cases fwk
  cases lpMode <;> rfl

/-- Where the detector took no wakelock and has nothing to take, it sends nothing. -/
theorem control_quiet {active : Bool} (fwk : v.fwkWakelock = false)
    (quiet : active = true → v.lpMode = true → v.hostUsed = false) :
    (control active v).log = v.log ∧ (control active v).fwkWakelock = false := by
  unfold control
  split
  next on =>
    cases lp : v.lpMode with
    | false => cases host : v.hostUsed <;> simp [fwk]
    | true => simp [quiet on lp, fwk]
  next => exact ⟨rfl, fwk⟩

@[simp] theorem control_inactive : control false v = v := rfl

theorem engineStart_alternates {active : Bool} {half : Half} (alternates : Alternates v.log)
    (free : active = false → v.held = false) : Alternates (engineStart active half v).log := by
  cases active with
  | false => exact alternates_request.mpr ⟨free rfl, alternates⟩
  | true => exact alternates

theorem engineStop_alternates {active oflSession : Bool} (alternates : Alternates v.log)
    (held : active = false → v.held = true) :
    Alternates (engineStop active oflSession v).log := by
  cases active with
  | false => exact alternates_release (held rfl) alternates
  | true => exact alternates

/-- Nothing sent is taken back: what alternates now alternated before. -/
theorem control_alternated {active : Bool} (after : Alternates (control active v).log) :
    Alternates v.log := by
  unfold control at after
  split_ifs at after
  · exact after.2
  · exact after
  · exact after
  · exact after.2
  · exact after
  · exact after

theorem engineStart_alternated {active : Bool} {half : Half}
    (after : Alternates (engineStart active half v).log) : Alternates v.log := by
  cases active with
  | false => exact after.2
  | true => exact after

theorem engineStop_alternated {active oflSession : Bool}
    (after : Alternates (engineStop active oflSession v).log) : Alternates v.log := by
  cases active with
  | false => exact after.2
  | true => exact after

theorem Move.alternated (move : Move cfg v event w) (after : Alternates w.log) :
    Alternates v.log := by
  cases move with
  | quiet => exact after
  | start down | offloadStart down => exact engineStart_alternated after
  | settle up => exact engineStop_alternated after
  | rehost offload host stopped =>
      subst stopped
      exact engineStop_alternated (control_alternated (engineStart_alternated after))

theorem active_hostOnly (manual : mnldSupportAutoSwitchMode cfg = false)
    (off : mnldOffloadIsAlwaysOnMode cfg = false) : v.active cfg = false := by
  rw [active, manual, off]
  rfl

theorem hostOnly_move (manual : mnldSupportAutoSwitchMode cfg = false)
    (off : mnldOffloadIsAlwaysOnMode cfg = false) (alternates : Alternates v.log)
    (before : v.HostOnly) (move : Move cfg v event w) : Alternates w.log ∧ w.HostOnly := by
  cases move with
  | quiet => exact ⟨alternates, ⟨before.eq⟩⟩
  | start down | offloadStart down =>
      have free : v.held = false := by simp [before.eq, down]
      rw [active_hostOnly manual off]
      exact ⟨engineStart_alternates alternates fun _ => free, ⟨rfl⟩⟩
  | settle up =>
      have held : v.held = true := by simp [before.eq, up]
      rw [active_hostOnly manual off]
      exact ⟨engineStop_alternates alternates fun _ => held, ⟨rfl⟩⟩
  | rehost offload host stopped =>
      have held : v.held = true := by simp [before.eq, offload]
      subst stopped
      simp only [active_hostOnly manual off, control_inactive]
      exact ⟨engineStart_alternates (engineStop_alternates alternates fun _ => held) fun _ => rfl,
        ⟨rfl⟩⟩

theorem active_alwaysOn (on : mnldOffloadIsAlwaysOnMode cfg = true) : v.active cfg = true := by
  rw [active, on]
  rfl

/-- The first event must find no host client, or the detector misses it. -/
theorem alwaysOn_prepares (alternates : Alternates v.log) (before : v.AlwaysOn)
    (prepares : Prepares v event w)
    (fresh : v.lpMode = false → v.fwkWakelock = false → w.hostUsed = false) :
    Alternates (control true w).log ∧ (control true w).Edge := by
  have memory := prepares.memory
  rcases before with ⟨-, lp, fwk, -, held⟩ | edge
  · have noHost := fresh lp fwk
    rw [control_noHost noHost (memory.2.2.1.trans fwk)]
    refine ⟨?_, ?_, ?_, ?_⟩
    · rw [memory.1]
      exact alternates
    · exact memory.2.2.1.trans (fwk.trans noHost.symm)
    · simp [noHost]
    · rw [noHost, ← held, WakelockView.held, WakelockView.held, memory.1]
  · obtain ⟨fwk, lp, held⟩ := edge
    apply control_edge
    · rw [memory.1]
      exact alternates
    · rw [memory.2.1, memory.2.2.1, lp, fwk]
    · rw [WakelockView.held, memory.1, memory.2.2.1, fwk]
      exact held

theorem edge_move (on : mnldOffloadIsAlwaysOnMode cfg = true) (alternates : Alternates v.log)
    (before : v.Edge) (move : Move cfg v event w) :
    Alternates w.log ∧ w.Edge := by
  cases move with
  | quiet => exact ⟨alternates, before⟩
  | start down | offloadStart down | settle up =>
      rw [active_alwaysOn on]
      exact ⟨alternates, before⟩
  | rehost offload host stopped =>
      subst stopped
      have stopped : (engineStop true false v).Edge := before
      simp only [active_alwaysOn on, edge_control stopped]
      exact ⟨alternates, before⟩

theorem active_autoSwitch (auto : mnldSupportAutoSwitchMode cfg = true)
    (off : mnldOffloadIsAlwaysOnMode cfg = false) : v.active cfg = v.oflSession := by
  rw [active, auto, off]
  rfl

/-- What the edge detector leaves to an event in auto switch mode. -/
structure AutoEntry (event : GpsEvent) (v : WakelockView) : Prop where
  down : v.half = .down → v.held = false ∧ v.fwkWakelock = false ∧
    (event = .offloadStart → v.oflSession = true ∧ v.Edge) ∧
    (event ≠ .offloadStart → v.oflSession = false ∧ (event ≠ .start → v.hostUsed = false))
  host : v.half = .host → v.held = true ∧ v.fwkWakelock = false
  offload : v.half = .offload → v.oflSession = true ∧ v.Edge

theorem autoSwitch_prepares (alternates : Alternates v.log) (before : v.AutoSwitch)
    (prepares : Prepares v event w)
    (quiet : w.oflSession = true → w.half = .host → w.lpMode = true → w.hostUsed = false) :
    Alternates (control w.oflSession w).log ∧ AutoEntry event (control w.oflSession w) := by
  have memory := prepares.memory
  cases half : v.half with
  | down =>
      obtain ⟨free, fwk, ofl, noHost⟩ := before.down half
      have down : w.half = .down := memory.2.2.2.trans half
      cases prepares with
      | start hostUsed =>
          simp only [ofl, control_inactive]
          refine ⟨alternates, fun _ => ⟨free, fwk, nofun, fun _ => ⟨rfl, ?_⟩⟩, ?_, ?_⟩
          · intro other
            exact absurd rfl other
          · simp [half]
          · simp [half]
      | offloadStart =>
          have entered : control true { v with oflSession := true } =
              { v with oflSession := true, lpMode := true } := control_noHost noHost fwk
          simp only [entered]
          refine ⟨alternates, fun _ => ⟨free, fwk, fun _ => ⟨rfl, ?_⟩, ?_⟩, ?_, ?_⟩
          · exact ⟨fwk.trans noHost.symm, by simp [noHost], free.trans noHost.symm⟩
          · intro other
            exact absurd rfl other
          · simp [half]
          · simp [half]
      | other noStart noLink fewer =>
          simp only [ofl, control_inactive]
          refine ⟨alternates, fun _ => ⟨free, fwk, fun link => absurd link noLink, fun _ =>
            ⟨rfl, fun _ => ?_⟩⟩, ?_, ?_⟩
          · exact eq_false_of_ne_true fun used => by simp [fewer used] at noHost
          · simp [half]
          · simp [half]
  | host =>
      obtain ⟨held, fwk⟩ := before.host half
      have host : w.half = .host := memory.2.2.2.trans half
      obtain ⟨log, fwk⟩ := control_quiet (memory.2.2.1.trans fwk) fun ofl lp => quiet ofl host lp
      refine ⟨?_, ?_, fun _ => ⟨?_, fwk⟩, ?_⟩
      · rw [log, memory.1]
        exact alternates
      · simp [host]
      · rw [WakelockView.held, log, memory.1]
        exact held
      · simp [host]
  | offload =>
      obtain ⟨ofl, fwk, lp, held⟩ := before.offload half
      have offload : w.half = .offload := memory.2.2.2.trans half
      have still : w.oflSession = true := by
        cases prepares with
        | start hostUsed => exact ofl
        | offloadStart => rfl
        | other noStart noLink fewer => exact ofl
      have edge : Alternates (control true w).log ∧ (control true w).Edge := by
        apply control_edge
        · rw [memory.1]
          exact alternates
        · rw [memory.2.1, memory.2.2.1, lp, fwk]
        · rw [WakelockView.held, memory.1, memory.2.2.1, fwk]
          exact held
      rw [still]
      exact ⟨edge.1, by simp [offload], by simp [offload], fun _ => ⟨by simp [still], edge.2⟩⟩

theorem autoSwitch_move (auto : mnldSupportAutoSwitchMode cfg = true)
    (off : mnldOffloadIsAlwaysOnMode cfg = false) (alternates : Alternates v.log)
    (entry : AutoEntry event v) (move : Move cfg v event w)
    (host : event = .stopDone → v.half = .offload → v.hostUsed = false)
    (settled : event = .stopDone → w.half = .down → v.half = .host → v.oflSession = false) :
    Alternates w.log ∧ w.AutoSwitch := by
  cases move with
  | quiet down offload link =>
      refine ⟨alternates, ?_, entry.host, ?_⟩
      · intro half
        obtain ⟨free, fwk, -, rest⟩ := entry.down half
        obtain ⟨stays, same⟩ := down half
        obtain ⟨ofl, noHost⟩ := rest (by rcases stays with rfl | rfl <;> decide)
        exact ⟨free, fwk, same.trans ofl, noHost (by rcases stays with rfl | rfl <;> decide)⟩
      · intro half
        obtain ⟨ofl, edge⟩ := entry.offload half
        exact ⟨offload half ofl, edge⟩
  | start down =>
      obtain ⟨free, fwk, -, rest⟩ := entry.down down
      obtain ⟨ofl, -⟩ := rest (by decide)
      rw [active_autoSwitch auto off, ofl]
      exact ⟨engineStart_alternates alternates fun _ => free, by simp [engineStart],
        fun _ => ⟨rfl, fwk⟩, by simp [engineStart]⟩
  | offloadStart down =>
      obtain ⟨-, -, linked, -⟩ := entry.down down
      obtain ⟨ofl, edge⟩ := linked rfl
      rw [active_autoSwitch auto off, ofl]
      exact ⟨alternates, by simp [engineStart], by simp [engineStart], fun _ => ⟨ofl, edge⟩⟩
  | settle up noHost endsAuto =>
      have ends := endsAuto auto
      subst ends
      rw [active_autoSwitch auto off]
      cases half : v.half with
      | down => exact absurd half up
      | host =>
          obtain ⟨held, fwk⟩ := entry.host half
          rw [settled rfl rfl half]
          exact ⟨engineStop_alternates alternates fun _ => held, fun _ => ⟨rfl, fwk, rfl, noHost⟩,
            by simp [engineStop], by simp [engineStop]⟩
      | offload =>
          obtain ⟨ofl, fwk, -, held⟩ := entry.offload half
          rw [ofl]
          exact ⟨alternates, fun _ => ⟨held.trans noHost, fwk.trans noHost, rfl, noHost⟩,
            by simp [engineStop], by simp [engineStop]⟩
  | rehost offload hostUsed stopped =>
      rw [host rfl offload] at hostUsed
      cases hostUsed

/-- What every mode keeps of the wakelock. -/
structure Follows (cfg : Config) (v : WakelockView) : Prop where
  alternates : Alternates v.log
  hostOnly : mnldSupportAutoSwitchMode cfg = false → mnldOffloadIsAlwaysOnMode cfg = false →
    v.HostOnly
  alwaysOn : mnldOffloadIsAlwaysOnMode cfg = true → v.AlwaysOn
  autoSwitch : mnldSupportAutoSwitchMode cfg = true → v.AutoSwitch

/-- The calls that keep it, from what the request finds, what it hands to the state
machine and what that makes of it. -/
structure Fits (cfg : Config) (event : GpsEvent) (v w x : WakelockView) : Prop where
  fresh : mnldOffloadIsAlwaysOnMode cfg = true → v.lpMode = false → v.fwkWakelock = false →
    w.hostUsed = false
  half : mnldSupportAutoSwitchMode cfg = true → w.oflSession = true → v.half = .host →
    v.lpMode = true → w.hostUsed = false
  rehost : mnldSupportAutoSwitchMode cfg = true → event = .stopDone → v.half = .offload →
    w.hostUsed = false
  settle : mnldSupportAutoSwitchMode cfg = true → event = .stopDone → v.half = .host →
    x.half = .down → w.oflSession = false

/-- The switch modes exclude each other. -/
theorem alwaysOn_off (auto : mnldSupportAutoSwitchMode cfg = true) :
    mnldOffloadIsAlwaysOnMode cfg = false := by
  simp only [mnldSupportAutoSwitchMode, Bool.and_eq_true, beq_iff_eq] at auto
  simp [mnldOffloadIsAlwaysOnMode, auto.2]

/-- A call that fits keeps the wakelock right, in every mode. -/
theorem Follows.call (before : v.Follows cfg) (prepares : v.Prepares event w)
    (move : Move cfg (control (w.active cfg) w) event x) (fits : Fits cfg event v w x) :
    x.Follows cfg := by
  have memory := prepares.memory
  by_cases auto : mnldSupportAutoSwitchMode cfg = true
  · have off := alwaysOn_off auto
    have active : w.active cfg = w.oflSession := active_autoSwitch auto off
    rw [active] at move
    have entry := autoSwitch_prepares before.alternates (before.autoSwitch auto) prepares
      fun ofl host lp => fits.half auto ofl (memory.2.2.2.symm.trans host)
          (memory.2.1.symm.trans lp)
    have after := autoSwitch_move auto off entry.1 entry.2 move
      (fun done offload => by
        rw [control_half, memory.2.2.2] at offload
        rw [control_hostUsed]
        exact fits.rehost auto done offload)
      (fun done down host => by
        rw [control_half, memory.2.2.2] at host
        rw [control_oflSession]
        exact fits.settle auto done host down)
    exact ⟨after.1, fun manual => by simp [auto] at manual, fun on => by simp [off] at on,
      fun _ => after.2⟩
  · have manual := eq_false_of_ne_true auto
    by_cases on : mnldOffloadIsAlwaysOnMode cfg = true
    · have entry := alwaysOn_prepares before.alternates (before.alwaysOn on) prepares
        (fits.fresh on)
      rw [active_alwaysOn on] at move
      have after := edge_move on entry.1 entry.2 move
      exact ⟨after.1, fun _ off => by simp [on] at off, fun _ => .inr after.2,
        fun auto => by simp [manual] at auto⟩
    · have off := eq_false_of_ne_true on
      rw [active_hostOnly manual off, control_inactive] at move
      have start : Alternates w.log ∧ w.HostOnly := by
        refine ⟨?_, ⟨?_⟩⟩
        · rw [memory.1]
          exact before.alternates
        · rw [held, memory.1, memory.2.2.2]
          exact (before.hostOnly manual off).eq
      have after := hostOnly_move manual off start.1 start.2 move
      exact ⟨after.1, fun _ _ => after.2, fun on => by simp [off] at on,
        fun auto => by simp [manual] at auto⟩

/-- A host's start that the detector misses starts the engine without the wakelock. -/
theorem fresh_of_hosts (on : mnldOffloadIsAlwaysOnMode cfg = true) (before : v.AlwaysOn)
    (prepares : v.Prepares event w) (move : Move cfg (control true w) event x)
    (hosts : x.hostUsed = true → x.half ≠ .down → x.held = true)
    (lp : v.lpMode = false) (fwk : v.fwkWakelock = false) : w.hostUsed = false := by
  apply eq_false_of_ne_true
  intro used
  rcases before with ⟨down, -, -, noHost, free⟩ | ⟨edge, memory, -⟩
  · cases prepares with
    | start hostUsed =>
        cases used
        have missed : control true { v with hostUsed := true } = { v with hostUsed := true } := by
          simp [control, lp]
        rw [missed] at move
        cases move with
        | quiet stays => exact absurd (stays down).1 (by decide)
        | start =>
            have held := hosts rfl (by simp [engineStart])
            simp only [active_alwaysOn on, engineStart, WakelockView.held] at held free
            simp [free] at held
    | offloadStart => simp [noHost] at used
    | other noStart noLink fewer => simp [fewer used] at noHost
  · rw [← edge, fwk, lp] at memory
    cases memory

/-- A detector that takes the wakelock a second time breaks the alternation. -/
theorem half_of_alternates (before : v.AutoSwitch) (prepares : v.Prepares event w)
    (move : Move cfg (control true w) event x) (alternates : Alternates x.log)
    (host : v.half = .host) (lp : v.lpMode = true) : w.hostUsed = false := by
  have memory := prepares.memory
  apply eq_false_of_ne_true
  intro used
  have after := move.alternated alternates
  have again : (control true w).log = .halRequestWakelock :: v.log := by
    simp [control, used, memory.1, memory.2.1, lp]
  rw [again, alternates_request] at after
  have held : wakelockHeld v.log = true := (before.host host).1
  rw [after.1] at held
  cases held

/-- So does the restart for a host after an offload stop. -/
theorem rehost_of_alternates (auto : mnldSupportAutoSwitchMode cfg = true)
    (entry : AutoEntry event v) (move : Move cfg v event x) (alternates : Alternates x.log)
    (done : event = .stopDone) (offload : v.half = .offload) : v.hostUsed = false := by
  have off := alwaysOn_off auto
  obtain ⟨ofl, -, -, held⟩ := entry.offload offload
  cases move with
  | quiet down stays link => exact link done offload
  | start down | offloadStart down => cases done
  | settle up noHost => exact noHost
  | rehost _ host stopped =>
      subst stopped
      have idle : (engineStop (v.active cfg) false v).active cfg = false :=
          active_autoSwitch auto off
      rw [idle, control_inactive, idle, active_autoSwitch auto off, ofl] at alternates
      have free := (alternates_request.mp alternates).1
      rw [host] at held
      exact absurd (held.symm.trans free) (by decide)

/-- A stop that settles while a session is of the offload type keeps the wakelock. -/
theorem settle_of_released (auto : mnldSupportAutoSwitchMode cfg = true)
    (entry : AutoEntry event v) (move : Move cfg v event x) (released : x.held = false)
    (done : event = .stopDone) (host : v.half = .host) (down : x.half = .down) :
    v.oflSession = false := by
  apply eq_false_of_ne_true
  intro ofl
  have held := (entry.host host).1
  cases move with
  | quiet => simp [host] at down
  | start _ | offloadStart _ => cases done
  | settle up =>
      rw [active_autoSwitch auto (alwaysOn_off auto), ofl] at released
      exact absurd (held.symm.trans released) (by decide)
  | rehost offload => simp [host] at offload

/-- Only a call that fits leaves the wakelock as the claimants of the engine expect it. -/
theorem Follows.fits (before : v.Follows cfg) (prepares : v.Prepares event w)
    (move : Move cfg (control (w.active cfg) w) event x) (alternates : Alternates x.log)
    (hosts : x.hostUsed = true → x.half ≠ .down → x.held = true)
    (released : event = .stopDone → v.half = .host → x.half = .down → x.held = false) :
    Fits cfg event v w x := by
  have memory := prepares.memory
  have half : mnldSupportAutoSwitchMode cfg = true → w.oflSession = true → v.half = .host →
      v.lpMode = true → w.hostUsed = false := by
    intro auto ofl host lp
    rw [active_autoSwitch auto (alwaysOn_off auto), ofl] at move
    exact half_of_alternates (before.autoSwitch auto) prepares move alternates host lp
  have entry : mnldSupportAutoSwitchMode cfg = true →
      AutoEntry event (control (w.active cfg) w) := by
    intro auto
    rw [active_autoSwitch auto (alwaysOn_off auto)]
    exact (autoSwitch_prepares before.alternates (before.autoSwitch auto) prepares
      fun ofl host lp => half auto ofl (memory.2.2.2.symm.trans host)
        (memory.2.1.symm.trans lp)).2
  constructor
  · intro on
    rw [active_alwaysOn on] at move
    exact fresh_of_hosts on (before.alwaysOn on) prepares move hosts
  · exact half
  · intro auto done offload
    have noHost := rehost_of_alternates auto (entry auto) move alternates done
      (by rw [control_half, memory.2.2.2, offload])
    rwa [control_hostUsed] at noHost
  · intro auto done host down
    have manual := settle_of_released auto (entry auto) move (released done host down) done
      (by rw [control_half, memory.2.2.2, host]) down
    rwa [control_oflSession] at manual

end WakelockView

end Connectivity.Mnld
