import Connectivity.Transition.Run
import Mathlib.Data.List.Basic

set_option autoImplicit false

/- Whether locations and the commands behind a reboot of the daemon follow what the framework has
asked for last. -/
namespace Connectivity.GpsHal

/-- `gpshal_state`. -/
inductive GpshalState
  | unknown | resource | cleanup | init | stop | start
deriving DecidableEq, Repr

/-- "state order is important" -/
def GpshalState.order : GpshalState → Nat
  | .unknown => 0
  | .resource => 1
  | .cleanup => 2
  | .init => 3
  | .stop => 4
  | .start => 5

/-- The operations that are sent to the daemon. -/
inductive Call
  | init | start | stop | cleanup
deriving DecidableEq, Repr

/-- The value of `gps_state_intent` in front of an operation and of `gps_state` behind it. -/
def Call.state : Call → GpshalState
  | .init => .init
  | .start => .start
  | .stop => .stop
  | .cleanup => .cleanup

/-- Where the framework is: outside; in `gpshal_resource_init` in front of `create_thread_cb` or
behind it; in `gpsinf_init` in front of its intent; in `gpshal2mnl_gps_*` in front of the send, or
behind a send that has succeeded. -/
inductive Framework
  | idle | resource | created | saved
  | sending (call : Call)
  | sent (call : Call)
deriving DecidableEq, Repr

/-- Where `gpshal_worker_thread` is: not created; in `epoll_wait`; in `update_mnld_reboot` in front
of a send or behind one that has succeeded, with what follows; in `update_location` in front of
`location_cb`. -/
inductive Worker
  | absent | idle
  | sending (call : Call) (rest : List Call)
  | sent (call : Call) (rest : List Call)
  | location
deriving DecidableEq, Repr

/-- The calls of `gpshal2mnl_gps_*` in `update_mnld_reboot`. -/
def updateMnldReboot : GpshalState → List Call
  | .init => [.init]
  | .stop => [.init]
  | .start => [.init, .start]
  | _ => []

def Worker.ofCalls : List Call → Worker
  | [] => .idle
  | call :: rest => .sending call rest

/-- What shows to the daemon and to the framework: an operation that the worker sends again, and a
location that it delivers. -/
inductive Out
  | resent (call : Call)
  | location
deriving DecidableEq, Repr

/-- `g_gpshal_ctx`, with where the two threads are. -/
structure Hal where
  gpsStateIntent : GpshalState
  gpsState : GpshalState
  framework : Framework
  worker : Worker
deriving DecidableEq, Repr

namespace Hal

def boot : Hal := ⟨.unknown, .unknown, .idle, .absent⟩

variable (s : Hal)

/-- `gpsinf_init` up to the creation of the worker, or up to its intent. Callbacks of another size
are refused; the resources are tried at most once. -/
def gpsinfInit (goodSize : Bool) : Hal :=
  if goodSize then
    if s.gpsStateIntent = .unknown then { s with framework := .resource }
    else { s with framework := .saved }
  else s

/-- `gpsinf_start`, `gpsinf_stop` and `gpsinf_cleanup` up to the send. -/
def intend (call : Call) : Hal :=
  { s with gpsStateIntent := call.state, framework := .sending call }

/-- The check in front of a send: the resources are there. -/
def ready : Bool := decide (GpshalState.resource.order ≤ s.gpsState.order)

/-- A step of the framework in a call; `ok` is whether the resources or the send succeed. -/
def frameworkStep (ok : Bool) : Option Hal :=
  match s.framework with
  | .idle => none
  | .resource =>
      if ok then some { s with worker := .idle, framework := .created }
      else some { s with framework := .saved }
  | .created => some { s with gpsState := .resource, framework := .saved }
  | .saved => some (s.intend .init)
  | .sending call =>
      if s.ready && ok then some { s with framework := .sent call }
      else some { s with framework := .idle }
  | .sent call => some { s with gpsState := call.state, framework := .idle }

/-- The worker takes a datagram: the reboot notice of the daemon. -/
def mnldReboot : Option Hal :=
  match s.worker with
  | .idle => some { s with worker := .ofCalls (updateMnldReboot s.gpsStateIntent) }
  | _ => none

/-- The worker takes a location, up to its delivery. -/
def updateLocation : Option Hal :=
  match s.worker with
  | .idle => if s.gpsState = .start then some { s with worker := .location } else some s
  | _ => none

/-- A step of the worker in a handler. -/
def workerStep (ok : Bool) : Option (Hal × Option Out) :=
  match s.worker with
  | .absent => none
  | .idle => none
  | .sending call rest =>
      if s.ready then
        if ok then some ({ s with worker := .sent call rest }, some (.resent call))
        else some ({ s with worker := .ofCalls rest }, some (.resent call))
      else some ({ s with worker := .ofCalls rest }, none)
  | .sent call rest => some ({ s with gpsState := call.state, worker := .ofCalls rest }, none)
  | .location => some ({ s with worker := .idle }, some .location)

/-- The calls of the framework, one at a time, and the steps of the two threads. -/
inductive Event
  | gpsinfInit (goodSize : Bool)
  | gpsinfStart | gpsinfStop | gpsinfCleanup
  | framework (ok : Bool)
  | mnldReboot | updateLocation
  | worker (ok : Bool)
deriving DecidableEq, Repr

def handle : Event → Option (Hal × Option Out)
  | .gpsinfInit goodSize =>
      if s.framework = .idle then some (s.gpsinfInit goodSize, none) else none
  | .gpsinfStart => if s.framework = .idle then some (s.intend .start, none) else none
  | .gpsinfStop => if s.framework = .idle then some (s.intend .stop, none) else none
  | .gpsinfCleanup => if s.framework = .idle then some (s.intend .cleanup, none) else none
  | .framework ok => (s.frameworkStep ok).map fun t => (t, none)
  | .mnldReboot => s.mnldReboot.map fun t => (t, none)
  | .updateLocation => s.updateLocation.map fun t => (t, none)
  | .worker ok => s.workerStep ok

end Hal

end Connectivity.GpsHal

namespace Connectivity.GpsHal

open Transition

/-- What the daemon needs to be told behind its reboot, by the last operation of the framework. -/
def wanted : Option Call → List Call
  | some .init => [.init]
  | some .stop => [.init]
  | some .start => [.init, .start]
  | _ => []

/-- What `update_mnld_reboot` still has to send. -/
def Worker.pending : Worker → List Call
  | .sending call rest => call :: rest
  | .sent _ rest => rest
  | _ => []

/-- Whether it has sent a start and not yet set `gps_state`. -/
def Worker.started : Worker → Bool
  | .sent .start _ => true
  | _ => false

/-- A reboot notice: the last operation of the framework then, and what has been sent since. -/
structure Notice where
  asked : Option Call
  resent : List Call
deriving DecidableEq, Repr

/-- The HAL with the last operation that the framework intends, the last start or stop it has
called, the notices, the last first, the commands sent again that it does not want then, and the
locations delivered when it has not called start last. -/
structure IntentRun where
  hal : Hal
  asked : Option Call
  last : Option Call
  notices : List Notice
  unwanted : List Call
  stray : Nat
deriving DecidableEq, Repr

namespace IntentRun

def boot : IntentRun := ⟨.boot, none, none, [], [], 0⟩

variable (s : IntentRun)

def askedAfter : Hal.Event → Option Call
  | .gpsinfStart => some .start
  | .gpsinfStop => some .stop
  | .gpsinfCleanup => some .cleanup
  | .framework _ => if s.hal.framework = .saved then some .init else s.asked
  | _ => s.asked

def lastAfter : Hal.Event → Option Call
  | .gpsinfStart => some .start
  | .gpsinfStop => some .stop
  | _ => s.last

def noticesAfter (e : Hal.Event) (out : Option Out) : List Notice :=
  match e, out with
  | .mnldReboot, _ => ⟨s.asked, []⟩ :: s.notices
  | _, some (.resent call) =>
      match s.notices with
      | [] => []
      | notice :: others => { notice with resent := notice.resent ++ [call] } :: others
  | _, _ => s.notices

def unwantedAfter : Option Out → List Call
  | some (.resent call) => if call ∈ wanted s.asked then s.unwanted else s.unwanted ++ [call]
  | _ => s.unwanted

def strayAfter : Option Out → Nat
  | some .location => if s.last = some .start then s.stray else s.stray + 1
  | _ => s.stray

def next (e : Hal.Event) (r : Hal × Option Out) : IntentRun where
  hal := r.1
  asked := s.askedAfter e
  last := s.lastAfter e
  notices := s.noticesAfter e r.2
  unwanted := s.unwantedAfter r.2
  stray := s.strayAfter r.2

def step (e : Hal.Event) : Option IntentRun := (s.hal.handle e).map (s.next e)

/-- What has been sent behind the last notice and what is to be sent is what was wanted then; what
has been sent behind the others is what was wanted then. -/
def Answered : List Notice → List Call → Prop
  | [], _ => True
  | notice :: others, pending =>
      notice.resent ++ pending = wanted notice.asked ∧
        ∀ other ∈ others, other.resent = wanted other.asked

/-- Locations are delivered only when start has been called last; behind each notice the commands
wanted then are sent, once and in order, each of them still wanted when it is sent. -/
structure Sound : Prop where
  stray : s.stray = 0
  answered : Answered s.notices s.hal.worker.pending
  unwanted : s.unwanted = []

/-- The call of the framework is stop, and `gps_state` has not been set yet. -/
def Stopping : Prop := s.hal.framework = .sending .stop ∨ s.hal.framework = .sent .stop

instance : Decidable s.Stopping := inferInstanceAs (Decidable (_ ∨ _))

/-- The worker has the start of a notice in front of it. -/
def Starting : Prop := .start ∈ s.hal.worker.pending

instance : Decidable s.Starting := inferInstanceAs (Decidable (_ ∈ _))

/-- No call of the framework takes back what the worker has taken up; no location arrives while a
stop has not been settled; a stop that closes a session is sent. -/
def Meets : Hal.Event → Prop
  | .gpsinfStop => ¬ s.Starting ∧ s.hal.worker.started = false ∧ s.hal.worker ≠ .location
  | .gpsinfCleanup => s.hal.worker.pending = []
  | .framework ok =>
      (s.hal.framework = .saved → ¬ s.Starting) ∧
        (s.hal.framework = .sending .stop → s.hal.gpsState = .start → ok = true)
  | .updateLocation => s.hal.gpsState = .start → ¬ s.Stopping
  | _ => True

instance : (e : Hal.Event) → Decidable (s.Meets e)
  | .gpsinfInit _ => inferInstanceAs (Decidable True)
  | .gpsinfStart => inferInstanceAs (Decidable True)
  | .gpsinfStop => inferInstanceAs (Decidable (_ ∧ _))
  | .gpsinfCleanup => inferInstanceAs (Decidable (_ = _))
  | .framework _ => inferInstanceAs (Decidable ((_ → _) ∧ (_ → _)))
  | .mnldReboot => inferInstanceAs (Decidable True)
  | .updateLocation => inferInstanceAs (Decidable (_ → _))
  | .worker _ => inferInstanceAs (Decidable True)

end IntentRun

section Calls

def intentOf : Option Call → GpshalState
  | none => .unknown
  | some call => call.state

theorem intentOf_unknown {asked : Option Call} (unknown : intentOf asked = .unknown) :
    asked = none := by
  cases asked with
  | none => rfl
  | some call => cases call <;> cases unknown

/-- The worker sends what is wanted. -/
theorem updateMnldReboot_eq (asked : Option Call) :
    updateMnldReboot (intentOf asked) = wanted asked := by
  cases asked with
  | none => rfl
  | some call => cases call <;> rfl

theorem start_wanted {asked : Option Call} (start : Call.start ∈ wanted asked) :
    asked = some .start := by
  cases asked with
  | none => cases start
  | some call =>
      cases call with
      | start => rfl
      | cleanup => cases start
      | init => simp [wanted] at start
      | stop => simp [wanted] at start

/-- Without a start an init is wanted behind any operation but a cleanup. -/
theorem wanted_kept {asked : Option Call} {call next : Call} (member : call ∈ wanted asked)
    (other : next ≠ .cleanup) (start : call = .start → next = .start) :
    call ∈ wanted (some next) := by
  cases call with
  | start =>
      rw [start rfl]
      exact List.mem_cons_of_mem _ List.mem_cons_self
  | init =>
      cases next with
      | cleanup => exact absurd rfl other
      | _ => exact List.mem_cons_self
  | stop =>
      cases asked with
      | none => cases member
      | some call => cases call <;> simp [wanted] at member
  | cleanup =>
      cases asked with
      | none => cases member
      | some call => cases call <;> simp [wanted] at member

theorem pending_ofCalls (calls : List Call) : (Worker.ofCalls calls).pending = calls := by
  cases calls <;> rfl

theorem started_ofCalls (calls : List Call) : (Worker.ofCalls calls).started = false := by
  cases calls <;> rfl

theorem ofCalls_ne (calls : List Call) :
    Worker.ofCalls calls ≠ .location ∧ Worker.ofCalls calls ≠ .absent := by
  cases calls with
  | nil => exact ⟨Worker.noConfusion, Worker.noConfusion⟩
  | cons call rest => exact ⟨Worker.noConfusion, Worker.noConfusion⟩

theorem state_ready (call : Call) :
    decide (GpshalState.resource.order ≤ call.state.order) = true := by
  cases call <;> rfl

theorem state_start {call : Call} (start : call.state = .start) : call = .start := by
  cases call with
  | start => rfl
  | _ => cases start

end Calls

namespace IntentRun

variable (s : IntentRun)

structure Inv : Prop where
  sound : s.Sound
  intent : s.hal.gpsStateIntent = intentOf s.asked
  asked : s.asked = some .start → s.last = some .start
  calling : s.hal.framework = .sending .start ∨ s.hal.framework = .sent .start →
    s.last = some .start
  state : s.hal.gpsState = .start → s.last = some .start ∨ s.Stopping
  started : s.hal.worker.started = true → s.last = some .start
  location : s.hal.worker = .location → s.last = some .start
  pending : ∀ call ∈ s.hal.worker.pending, call ∈ wanted s.asked
  resources : s.hal.worker ≠ .absent → s.hal.ready = true ∨ s.hal.framework = .created
  opening : s.hal.framework = .resource ∨ s.hal.framework = .created → s.asked = none
  absent : s.asked = none → s.hal.framework ≠ .created → s.hal.framework ≠ .saved →
    s.hal.worker = .absent

variable {s}

theorem inv_boot : boot.Inv where
  sound := ⟨rfl, trivial, rfl⟩
  intent := rfl
  asked := fun other => by cases other
  calling := fun other => by cases other <;> contradiction
  state := fun other => by cases other
  started := fun other => by cases other
  location := fun other => by cases other
  pending := fun _ member => by cases member
  resources := fun other => absurd rfl other
  opening := fun other => by cases other <;> contradiction
  absent := fun _ _ _ => rfl

/-- What is pending is sent: the resources are there. -/
theorem Inv.ready (inv : s.Inv) {call : Call} (member : call ∈ s.hal.worker.pending) :
    s.hal.ready = true := by
  have here : s.hal.worker ≠ .absent := by
    intro absent
    rw [absent] at member
    cases member
  cases inv.resources here with
  | inl ready => exact ready
  | inr created =>
      have wants := inv.pending call member
      rw [inv.opening (Or.inr created)] at wants
      cases wants

theorem not_stopping (other : s.hal.framework = .idle ∨ s.hal.framework = .saved) :
    ¬ s.Stopping := by
  intro stopping
  cases other with
  | inl idle =>
      rw [Stopping, idle] at stopping
      cases stopping <;> contradiction
  | inr saved =>
      rw [Stopping, saved] at stopping
      cases stopping <;> contradiction

/-- Outside of `gpshal_resource_init` a worker has its resources. -/
theorem Inv.resourced (inv : s.Inv) (other : s.hal.framework ≠ .created)
    (here : s.hal.worker ≠ .absent) : s.hal.ready = true :=
  (inv.resources here).resolve_right other

/-- Before anything has been asked for there is no worker, in front of the resources too. -/
theorem Inv.unasked (inv : s.Inv) (none : s.asked = none)
    (here : s.hal.framework = .idle ∨ s.hal.framework = .resource) :
    s.hal.worker = .absent := by
  cases here with
  | inl idle =>
      apply inv.absent none
      · rw [idle]
        exact Framework.noConfusion
      · rw [idle]
        exact Framework.noConfusion
  | inr resource =>
      apply inv.absent none
      · rw [resource]
        exact Framework.noConfusion
      · rw [resource]
        exact Framework.noConfusion

theorem inv_init (inv : s.Inv) (goodSize : Bool) (idle : s.hal.framework = .idle) :
    (s.next (.gpsinfInit goodSize) (s.hal.gpsinfInit goodSize, none)).Inv := by
  have state : s.hal.gpsState = .start → s.last = some .start := fun start =>
    (inv.state start).resolve_right (not_stopping (Or.inl idle))
  have resources := inv.resourced (by rw [idle]; exact Framework.noConfusion)
  have absent : s.asked = none → s.hal.worker = .absent := fun none =>
    inv.unasked none (Or.inl idle)
  unfold Hal.gpsinfInit
  split
  · split
    · rename_i unknown
      rw [inv.intent] at unknown
      have none := intentOf_unknown unknown
      exact { inv with
        sound := ⟨inv.sound.stray, inv.sound.answered, inv.sound.unwanted⟩
        calling := fun other => by cases other <;> contradiction
        state := fun start => Or.inl (state start)
        resources := fun here => Or.inl (resources here)
        opening := fun _ => none
        absent := fun _ _ _ => absent none }
    · exact { inv with
        sound := ⟨inv.sound.stray, inv.sound.answered, inv.sound.unwanted⟩
        calling := fun other => by cases other <;> contradiction
        state := fun start => Or.inl (state start)
        resources := fun here => Or.inl (resources here)
        opening := fun other => by cases other <;> contradiction
        absent := fun _ _ other => absurd rfl other }
  · exact inv

/-- An operation up to its send, when the worker has taken up nothing that it takes back. -/
theorem inv_intend {call : Call} {last : Option Call} (inv : s.Inv)
    (outside : s.hal.framework = .idle ∨ s.hal.framework = .saved)
    (starts : call = .start → last = some .start)
    (kept : call ≠ .stop → s.last = some .start → last = some .start)
    (stops : call = .stop → s.hal.worker.started = false ∧ s.hal.worker ≠ .location)
    (wants : ∀ other ∈ s.hal.worker.pending, other ∈ wanted (some call)) :
    Inv ⟨s.hal.intend call, some call, last, s.notices, s.unwanted, s.stray⟩ where
  sound := ⟨inv.sound.stray, inv.sound.answered, inv.sound.unwanted⟩
  intent := rfl
  asked := fun start => starts (Option.some.inj start)
  calling := fun other => by
    cases other with
    | inl start => exact starts (Framework.sending.inj start)
    | inr other => cases other
  state := fun start => by
    by_cases stop : call = .stop
    · exact Or.inr (Or.inl (congrArg Framework.sending stop))
    · exact Or.inl (kept stop ((inv.state start).resolve_right (not_stopping outside)))
  started := fun started => by
    by_cases stop : call = .stop
    · have other := (stops stop).1
      rw [show s.hal.worker.started = true from started] at other
      cases other
    · exact kept stop (inv.started started)
  location := fun location => by
    by_cases stop : call = .stop
    · exact absurd location (stops stop).2
    · exact kept stop (inv.location location)
  pending := wants
  resources := fun here => by
    refine Or.inl (inv.resourced ?_ here)
    cases outside with
    | inl idle =>
        rw [idle]
        exact Framework.noConfusion
    | inr saved =>
        rw [saved]
        exact Framework.noConfusion
  opening := fun other => by cases other <;> contradiction
  absent := fun other => by cases other

theorem inv_start (inv : s.Inv) (idle : s.hal.framework = .idle) :
    (s.next .gpsinfStart (s.hal.intend .start, none)).Inv := by
  apply inv_intend inv (Or.inl idle)
  case starts => exact fun _ => rfl
  case kept => exact fun _ _ => rfl
  case stops => exact fun other => Call.noConfusion other
  case wants =>
    intro other member
    exact wanted_kept (inv.pending other member) Call.noConfusion fun _ => rfl

theorem inv_stop (inv : s.Inv) (meets : s.Meets .gpsinfStop) (idle : s.hal.framework = .idle) :
    (s.next .gpsinfStop (s.hal.intend .stop, none)).Inv := by
  obtain ⟨starting, started, location⟩ := meets
  apply inv_intend inv (Or.inl idle)
  case starts => exact fun other => Call.noConfusion other
  case kept => exact fun other => absurd rfl other
  case stops => exact fun _ => ⟨started, location⟩
  case wants =>
    intro other member
    refine wanted_kept (inv.pending other member) Call.noConfusion fun start => ?_
    rw [start] at member
    exact absurd member starting

theorem inv_cleanup (inv : s.Inv) (meets : s.Meets .gpsinfCleanup)
    (idle : s.hal.framework = .idle) :
    (s.next .gpsinfCleanup (s.hal.intend .cleanup, none)).Inv := by
  apply inv_intend inv (Or.inl idle)
  case starts => exact fun other => Call.noConfusion other
  case kept => exact fun _ start => start
  case stops => exact fun other => Call.noConfusion other
  case wants =>
    intro other member
    rw [show s.hal.worker.pending = [] from meets] at member
    cases member

theorem inv_saved {ok : Bool} (inv : s.Inv) (meets : s.Meets (.framework ok))
    (saved : s.hal.framework = .saved) :
    (s.next (.framework ok) (s.hal.intend .init, none)).Inv := by
  have asked : s.askedAfter (.framework ok) = some .init := if_pos saved
  unfold next
  rw [asked]
  apply inv_intend inv (Or.inr saved)
  case starts => exact fun other => Call.noConfusion other
  case kept => exact fun _ start => start
  case stops => exact fun other => Call.noConfusion other
  case wants =>
    intro other member
    refine wanted_kept (inv.pending other member) Call.noConfusion fun start => ?_
    rw [start] at member
    exact absurd member (meets.1 saved)

theorem inv_resource {ok : Bool} {t : Hal} (inv : s.Inv) (framework : s.hal.framework = .resource)
    (moved : (if ok then some { s.hal with worker := .idle, framework := .created }
      else some { s.hal with framework := .saved }) = some t) : Inv { s with hal := t } := by
  have none := inv.opening (Or.inl framework)
  have absent := inv.unasked none (Or.inr framework)
  have state : s.hal.gpsState = .start → s.last = some .start := by
    intro start
    refine (inv.state start).resolve_right fun stopping => ?_
    rw [Stopping, framework] at stopping
    cases stopping <;> contradiction
  split at moved
  · cases moved
    have answered := inv.sound.answered
    rw [absent] at answered
    exact { inv with
      sound := ⟨inv.sound.stray, answered, inv.sound.unwanted⟩
      calling := fun other => by cases other <;> contradiction
      state := fun start => Or.inl (state start)
      started := fun other => by cases other
      location := fun other => by cases other
      pending := fun _ member => by cases member
      resources := fun _ => Or.inr rfl
      opening := fun _ => none
      absent := fun _ other => absurd rfl other }
  · cases moved
    exact { inv with
      sound := ⟨inv.sound.stray, inv.sound.answered, inv.sound.unwanted⟩
      calling := fun other => by cases other <;> contradiction
      state := fun start => Or.inl (state start)
      resources := fun here => absurd absent here
      opening := fun other => by cases other <;> contradiction
      absent := fun _ _ other => absurd rfl other }

theorem inv_created (inv : s.Inv) :
    Inv { s with hal := { s.hal with gpsState := .resource, framework := .saved } } :=
  { inv with
    sound := ⟨inv.sound.stray, inv.sound.answered, inv.sound.unwanted⟩
    calling := fun other => by cases other <;> contradiction
    state := fun other => by cases other
    resources := fun _ => Or.inl rfl
    opening := fun other => by cases other <;> contradiction
    absent := fun _ _ other => absurd rfl other }

/-- A stop that has been sent takes the place of the one to be sent; a stop that has not closes
no session. -/
theorem inv_sending {ok : Bool} {t : Hal} {call : Call} (inv : s.Inv)
    (meets : s.Meets (.framework ok)) (framework : s.hal.framework = .sending call)
    (moved : (if s.hal.ready && ok then some { s.hal with framework := .sent call }
      else some { s.hal with framework := .idle }) = some t) : Inv { s with hal := t } := by
  have resources := inv.resourced (by rw [framework]; exact Framework.noConfusion)
  have absent : s.asked = none → s.hal.worker = .absent := fun none =>
    inv.absent none (by rw [framework]; exact Framework.noConfusion)
      (by rw [framework]; exact Framework.noConfusion)
  split at moved
  · cases moved
    exact { inv with
      sound := ⟨inv.sound.stray, inv.sound.answered, inv.sound.unwanted⟩
      calling := fun other => by
        cases other with
        | inl other => cases other
        | inr start =>
            apply inv.calling
            rw [framework, Framework.sent.inj start]
            exact Or.inl rfl
      state := fun start => by
        refine (inv.state start).imp id fun stopping => Or.inr ?_
        rw [Stopping, framework] at stopping
        cases stopping with
        | inl stop => rw [show call = .stop from Framework.sending.inj stop]
        | inr other => cases other
      resources := fun here => Or.inl (resources here)
      opening := fun other => by cases other <;> contradiction
      absent := fun none _ _ => absent none }
  · rename_i failed
    cases moved
    exact { inv with
      sound := ⟨inv.sound.stray, inv.sound.answered, inv.sound.unwanted⟩
      calling := fun other => by cases other <;> contradiction
      state := fun start => by
        refine Or.inl ((inv.state start).resolve_right fun stopping => failed ?_)
        rw [Stopping, framework] at stopping
        cases stopping with
        | inl stop =>
            have sends := meets.2 (framework.trans stop) start
            have ready : s.hal.ready = true := by
              rw [Hal.ready, show s.hal.gpsState = .start from start]
              rfl
            rw [ready, sends]
            rfl
        | inr other => cases other
      resources := fun here => Or.inl (resources here)
      opening := fun other => by cases other <;> contradiction
      absent := fun none _ _ => absent none }

theorem inv_sent {call : Call} (inv : s.Inv) (framework : s.hal.framework = .sent call) :
    Inv { s with hal := { s.hal with gpsState := call.state, framework := .idle } } := by
  have absent : s.asked = none → s.hal.worker = .absent := fun none =>
    inv.absent none (by rw [framework]; exact Framework.noConfusion)
      (by rw [framework]; exact Framework.noConfusion)
  exact { inv with
    sound := ⟨inv.sound.stray, inv.sound.answered, inv.sound.unwanted⟩
    calling := fun other => by cases other <;> contradiction
    state := fun start => by
      refine Or.inl (inv.calling (Or.inr ?_))
      rw [framework, state_start start]
    resources := fun _ => Or.inl (state_ready call)
    opening := fun other => by cases other <;> contradiction
    absent := fun none _ _ => absent none }

/-- A call changes the intent where it has saved the state, and nowhere else. -/
theorem next_framework {t : Hal} (ok : Bool) (other : s.hal.framework ≠ .saved) :
    s.next (.framework ok) (t, none) = { s with hal := t } := by
  have kept : s.askedAfter (.framework ok) = s.asked := if_neg other
  unfold next
  rw [kept]
  rfl

/-- The framework in a call. -/
theorem inv_framework {ok : Bool} {t : Hal} (inv : s.Inv) (meets : s.Meets (.framework ok))
    (moved : s.hal.frameworkStep ok = some t) : (s.next (.framework ok) (t, none)).Inv := by
  unfold Hal.frameworkStep at moved
  split at moved
  · cases moved
  · rename_i framework
    rw [next_framework ok (by rw [framework]; exact Framework.noConfusion)]
    exact inv_resource inv framework moved
  · rename_i framework
    rw [next_framework ok (by rw [framework]; exact Framework.noConfusion)]
    cases moved
    exact inv_created inv
  · rename_i framework
    cases moved
    exact inv_saved inv meets framework
  · rename_i call framework
    rw [next_framework ok (by rw [framework]; exact Framework.noConfusion)]
    exact inv_sending inv meets framework moved
  · rename_i call framework
    rw [next_framework ok (by rw [framework]; exact Framework.noConfusion)]
    cases moved
    exact inv_sent inv framework

theorem inv_mnldReboot {t : Hal} (inv : s.Inv) (moved : s.hal.mnldReboot = some t) :
    (s.next .mnldReboot (t, none)).Inv := by
  unfold Hal.mnldReboot at moved
  split at moved
  · rename_i worker
    cases moved
    have calls : updateMnldReboot s.hal.gpsStateIntent = wanted s.asked := by
      rw [inv.intent, updateMnldReboot_eq]
    rw [calls]
    exact { inv with
      sound := by
        refine ⟨inv.sound.stray, ⟨pending_ofCalls _, ?_⟩, inv.sound.unwanted⟩
        have answered := inv.sound.answered
        rw [worker] at answered
        intro other member
        revert answered
        cases notices : s.notices with
        | nil =>
            rw [notices] at member
            cases member
        | cons notice others =>
            intro answered
            rw [notices] at member
            cases List.mem_cons.mp member with
            | inl same =>
                have whole := answered.1
                rw [same]
                rw [show Worker.pending .idle = [] from rfl, List.append_nil] at whole
                exact whole
            | inr old => exact answered.2 other old
      started := fun started => by
        cases (started_ofCalls (wanted s.asked)).symm.trans started
      location := fun location => absurd location (ofCalls_ne _).1
      pending := fun call member => by
        have calls : call ∈ (Worker.ofCalls (wanted s.asked)).pending := member
        rw [pending_ofCalls] at calls
        exact calls
      resources := fun _ => inv.resources (by rw [worker]; exact Worker.noConfusion)
      absent := fun none created saved => by
        have absent := inv.absent none created saved
        rw [worker] at absent
        cases absent }
  · cases moved

theorem inv_updateLocation {t : Hal} (inv : s.Inv) (meets : s.Meets .updateLocation)
    (moved : s.hal.updateLocation = some t) : (s.next .updateLocation (t, none)).Inv := by
  unfold Hal.updateLocation at moved
  split at moved
  · rename_i worker
    split at moved
    · rename_i start
      cases moved
      have answered := inv.sound.answered
      rw [worker] at answered
      exact { inv with
        sound := ⟨inv.sound.stray, answered, inv.sound.unwanted⟩
        started := fun other => by cases other
        location := fun _ => (inv.state start).resolve_right (meets start)
        pending := fun _ member => by cases member
        resources := fun _ => inv.resources (by rw [worker]; exact Worker.noConfusion)
        absent := fun none created saved => by
          have absent := inv.absent none created saved
          rw [worker] at absent
          cases absent }
    · cases moved
      exact { inv with
        sound := ⟨inv.sound.stray, inv.sound.answered, inv.sound.unwanted⟩ }
  · cases moved

/-- What a step of the worker has to keep. -/
theorem inv_worked {worker : Worker} {state : GpshalState} {notices : List Notice}
    {unwanted : List Call} {stray : Nat} (inv : s.Inv) (here : s.hal.worker ≠ .absent)
    (sound : Sound ⟨{ s.hal with gpsState := state, worker := worker }, s.asked, s.last, notices,
      unwanted, stray⟩)
    (starts : state = .start → s.last = some .start ∨ s.Stopping)
    (started : worker.started = true → s.last = some .start)
    (location : worker ≠ .location)
    (fewer : ∀ call ∈ worker.pending, call ∈ s.hal.worker.pending)
    (resources : decide (GpshalState.resource.order ≤ state.order) = true ∨
      s.hal.framework = .created) :
    Inv ⟨{ s.hal with gpsState := state, worker := worker }, s.asked, s.last, notices, unwanted,
      stray⟩ where
  sound := sound
  intent := inv.intent
  asked := inv.asked
  calling := inv.calling
  state := starts
  started := started
  location := fun same => absurd same location
  pending := fun call member => inv.pending call (fewer call member)
  resources := fun _ => resources
  opening := inv.opening
  absent := fun none created saved => absurd (inv.absent none created saved) here

theorem answered_resent (ok : Bool) {call : Call} {rest : List Call}
    (answered : Answered s.notices (call :: rest)) :
    Answered (s.noticesAfter (.worker ok) (some (.resent call))) rest := by
  show Answered (match s.notices with
    | [] => []
    | notice :: others => { notice with resent := notice.resent ++ [call] } :: others) rest
  cases notices : s.notices with
  | nil => trivial
  | cons notice others =>
      rw [notices] at answered
      refine ⟨?_, answered.2⟩
      rw [List.append_assoc]
      exact answered.1

theorem inv_worker {ok : Bool} {r : Hal × Option Out} (inv : s.Inv)
    (moved : s.hal.workerStep ok = some r) : (s.next (.worker ok) r).Inv := by
  unfold Hal.workerStep at moved
  split at moved
  · cases moved
  · cases moved
  · rename_i call rest worker
    have here : s.hal.worker ≠ .absent := by
      rw [worker]
      exact Worker.noConfusion
    have pending : s.hal.worker.pending = call :: rest := by
      rw [worker]
      rfl
    have member : call ∈ s.hal.worker.pending := by
      rw [pending]
      exact List.mem_cons_self
    have ready := inv.ready member
    have unwanted : s.unwantedAfter (some (.resent call)) = [] :=
      (if_pos (inv.pending call member)).trans inv.sound.unwanted
    have answered := inv.sound.answered
    rw [pending] at answered
    have fewer : ∀ other ∈ rest, other ∈ s.hal.worker.pending := by
      intro other later
      rw [pending]
      exact List.mem_cons_of_mem _ later
    rw [if_pos ready] at moved
    split at moved
    · cases moved
      refine inv_worked inv here ⟨inv.sound.stray, answered_resent ok answered, unwanted⟩ inv.state
        ?_ Worker.noConfusion fewer (Or.inl ready)
      intro started
      apply inv.asked
      apply start_wanted
      cases call with
      | start => exact inv.pending .start member
      | _ => cases started
    · cases moved
      have later : Answered (s.noticesAfter (.worker ok) (some (.resent call)))
          (Worker.ofCalls rest).pending := by
        rw [pending_ofCalls]
        exact answered_resent ok answered
      refine inv_worked inv here ⟨inv.sound.stray, later, unwanted⟩ inv.state ?_
        (ofCalls_ne rest).1 ?_ (Or.inl ready)
      · intro started
        rw [started_ofCalls] at started
        cases started
      · rw [pending_ofCalls]
        exact fewer
  · rename_i call rest worker
    cases moved
    have here : s.hal.worker ≠ .absent := by
      rw [worker]
      exact Worker.noConfusion
    have pending : s.hal.worker.pending = rest := by
      rw [worker]
      rfl
    have answered : Answered s.notices (Worker.ofCalls rest).pending := by
      rw [pending_ofCalls, ← pending]
      exact inv.sound.answered
    refine inv_worked inv here ⟨inv.sound.stray, answered, inv.sound.unwanted⟩ ?_ ?_
      (ofCalls_ne rest).1 ?_ (Or.inl (state_ready call))
    · intro start
      refine Or.inl (inv.started ?_)
      rw [worker, state_start start]
      rfl
    · intro started
      rw [started_ofCalls] at started
      cases started
    · rw [pending_ofCalls, pending]
      exact fun _ member => member
  · rename_i worker
    cases moved
    have here : s.hal.worker ≠ .absent := by
      rw [worker]
      exact Worker.noConfusion
    have stray : s.strayAfter (some .location) = 0 :=
      (if_pos (inv.location worker)).trans inv.sound.stray
    have answered := inv.sound.answered
    rw [worker] at answered
    exact inv_worked inv here ⟨stray, answered, inv.sound.unwanted⟩ inv.state
      (fun other => by cases other) Worker.noConfusion (fun _ member => by cases member)
      (inv.resources here)

/-- A call begins outside of another one. -/
theorem called {t : Hal} {r : Hal × Option Out}
    (handled : (if s.hal.framework = .idle then some (t, (none : Option Out)) else none) = some r) :
    s.hal.framework = .idle ∧ r = (t, none) := by
  split at handled
  · cases handled
    exact ⟨by assumption, rfl⟩
  · cases handled

/-- The step lemma. -/
theorem meets_kept {e : Hal.Event} {t : IntentRun} (inv : s.Inv) (meets : s.Meets e)
    (taken : s.step e = some t) : t.Inv := by
  obtain ⟨r, handled, same⟩ := Option.map_eq_some_iff.mp taken
  subst same
  cases e with
  | gpsinfInit goodSize =>
      obtain ⟨idle, same⟩ := called handled
      rw [same]
      exact inv_init inv goodSize idle
  | gpsinfStart =>
      obtain ⟨idle, same⟩ := called handled
      rw [same]
      exact inv_start inv idle
  | gpsinfStop =>
      obtain ⟨idle, same⟩ := called handled
      rw [same]
      exact inv_stop inv meets idle
  | gpsinfCleanup =>
      obtain ⟨idle, same⟩ := called handled
      rw [same]
      exact inv_cleanup inv meets idle
  | framework ok =>
      obtain ⟨t, moved, same⟩ := Option.map_eq_some_iff.mp handled
      rw [← same]
      exact inv_framework inv meets moved
  | mnldReboot =>
      obtain ⟨t, moved, same⟩ := Option.map_eq_some_iff.mp handled
      rw [← same]
      exact inv_mnldReboot inv moved
  | updateLocation =>
      obtain ⟨t, moved, same⟩ := Option.map_eq_some_iff.mp handled
      rw [← same]
      exact inv_updateLocation inv meets moved
  | worker ok => exact inv_worker inv handled

end IntentRun

/-- From the loading of the HAL on, along a run that meets the condition, locations are delivered
only when start has been called last, and the commands behind a reboot of the daemon are those
that the framework has asked for. -/
theorem intent_kept {events : List Hal.Event}
    (meets : StepsMeet IntentRun.step IntentRun.Meets .boot events) :
    AllStates IntentRun.step IntentRun.Sound .boot events := by
  have all : AllStates IntentRun.step IntentRun.Inv .boot events :=
    allStates_of_stepsMeet (fun _ _ _ inv meets taken => IntentRun.meets_kept inv meets taken)
      IntentRun.inv_boot meets
  exact all.imp fun _ inv => inv.sound

/-- A session with a location and a reboot of the daemon in it, and a start that is not sent. -/
theorem intent_kept_session :
    let init : List Hal.Event := [.gpsinfInit true, .framework true, .framework true,
      .framework true, .framework true, .framework true]
    let start : List Hal.Event := [.gpsinfStart, .framework true, .framework true]
    let reboot : List Hal.Event := [.mnldReboot, .worker true, .worker true, .worker false]
    AllStates IntentRun.step IntentRun.Sound .boot
      (init ++ start ++ [.updateLocation, .worker true] ++ reboot ++
        [.gpsinfStop, .framework true, .framework true, .updateLocation] ++ reboot) := by
  intro init start reboot
  exact intent_kept (by decide)

theorem not_allStates_of_marks {events : List Hal.Event} (stray : Nat) (unwanted : List Call)
    (ends : (exec IntentRun.step .boot events).map (fun s => (s.stray, s.unwanted)) =
      some (stray, unwanted)) (wrong : (stray, unwanted) ≠ (0, [])) :
    ¬ AllStates IntentRun.step IntentRun.Sound .boot events := by
  intro all
  obtain ⟨s, run, marks⟩ := Option.map_eq_some_iff.mp ends
  have sound : s.Sound := all.last run
  rw [sound.stray, sound.unwanted] at marks
  exact wrong marks.symm

/-- A stop that is not sent leaves the gate of the locations open; a start is sent again behind a
stop. -/
theorem not_intent_kept :
    let init : List Hal.Event := [.gpsinfInit true, .framework true, .framework true,
      .framework true, .framework true, .framework true]
    let start : List Hal.Event := [.gpsinfStart, .framework true, .framework true]
    ¬ AllStates IntentRun.step IntentRun.Sound .boot
        (init ++ start ++ [.gpsinfStop, .framework false, .updateLocation, .worker true]) ∧
      ¬ AllStates IntentRun.step IntentRun.Sound .boot
        (init ++ start ++ [.mnldReboot, .worker true, .gpsinfStop, .framework true,
          .framework true, .worker true, .worker true]) := by
  intro init start
  constructor
  · exact not_allStates_of_marks 1 [] (by decide) (by decide)
  · exact not_allStates_of_marks 0 [.start] (by decide) (by decide)

end Connectivity.GpsHal
