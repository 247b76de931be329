import Connectivity.Transition.Run
import Mathlib.Data.List.ReduceOption

set_option autoImplicit false

/- The state machine that turns the Bluetooth controller on and off, over the one
vendor interface of the process. -/
namespace Connectivity.Hci

open Transition

/-- `BtHalStateMessage`. -/
inductive BtHalStateMessage
  | kIdleMsg | kOnMsg | kOffMsg
  deriving DecidableEq, Repr

/-- The cast of `message.what`, where an enumerator has that value. -/
def BtHalStateMessage.ofInt (what : Int) : Option BtHalStateMessage :=
  if what = 0 then some .kIdleMsg
  else if what = 1 then some .kOnMsg
  else if what = 2 then some .kOffMsg
  else none

/-- `VendorInterface::Initialize` and `VendorInterface::Shutdown`, and whether they found
a vendor interface. -/
inductive VendorCall
  | initializeVendor (found : Bool) | shutdown (found : Bool)
  deriving DecidableEq, Repr

/-- `StateMessageHanlder` with `g_vendor_interface`, over observers of any kind; a null
pointer among them is `none`. `calls`, `accepted` and `notifications` are what happened,
latest first, and `initErrors` counts the failures told to the callbacks. -/
structure StateMachine (ω : Type) where
  currentState : BtHalStateMessage
  observers : List (Option ω)
  vendorInterface : Bool
  calls : List VendorCall
  accepted : List BtHalStateMessage
  notifications : List (ω × BtHalStateMessage)
  initErrors : Nat

/-- A `Transit` request, and whether the vendor library would open. -/
structure TransitRequest where
  what : Int
  opens : Bool
  deriving DecidableEq, Repr

namespace StateMachine

variable {ω : Type}

def initial (observers : List (Option ω)) : StateMachine ω where
  currentState := .kIdleMsg
  observers := observers
  vendorInterface := false
  calls := []
  accepted := []
  notifications := []
  initErrors := 0

/-- `MtkStateController::TurnOn` and `VendorInterface::Initialize`: an interface that does
not open stays all the same. -/
def turnOn (opens : Bool) (s : StateMachine ω) : StateMachine ω :=
  let called := { s with calls := .initializeVendor s.vendorInterface :: s.calls }
  if s.vendorInterface then { called with initErrors := s.initErrors + 1 }
  else
    { called with
      vendorInterface := true
      initErrors := if opens then s.initErrors else s.initErrors + 1 }

/-- `MtkStateController::TurnOff` and `VendorInterface::Shutdown`, fatal (`none`) where
there is no interface. -/
def turnOff (s : StateMachine ω) : Option (StateMachine ω) :=
  if s.vendorInterface then
    some { s with
      calls := .shutdown s.vendorInterface :: s.calls
      vendorInterface := false }
  else none

/-- `IdleState::Handle`, and whether the request is accepted. -/
def handleIdle (request : TransitRequest) (s : StateMachine ω) : Option (StateMachine ω × Bool) :=
  if BtHalStateMessage.ofInt request.what = some .kOnMsg then some (s.turnOn request.opens, true)
  else some (s, false)

/-- `OnState::Handle`. -/
def handleOn (request : TransitRequest) (s : StateMachine ω) : Option (StateMachine ω × Bool) :=
  if BtHalStateMessage.ofInt request.what = some .kOffMsg then s.turnOff.map (·, true)
  else if BtHalStateMessage.ofInt request.what = some .kOnMsg then
    s.turnOff.map fun off => (off.turnOn request.opens, true)
  else some (s, false)

/-- `OffState::Handle`. -/
def handleOff (request : TransitRequest) (s : StateMachine ω) : Option (StateMachine ω × Bool) :=
  if BtHalStateMessage.ofInt request.what = some .kOnMsg then some (s.turnOn request.opens, true)
  else some (s, false)

def handle (request : TransitRequest) (s : StateMachine ω) : Option (StateMachine ω × Bool) :=
  match s.currentState with
  | .kIdleMsg => s.handleIdle request
  | .kOnMsg => s.handleOn request
  | .kOffMsg => s.handleOff request

def notifyStateChanged (state : BtHalStateMessage) (s : StateMachine ω) : StateMachine ω :=
  { s with
    notifications := (s.observers.reduceOption.map (·, state)).reverse ++ s.notifications }

def enter (state : BtHalStateMessage) (s : StateMachine ω) : StateMachine ω :=
  { s with currentState := state, accepted := state :: s.accepted }.notifyStateChanged state

/-- `StateMessageHanlder::handleMessage`, `none` where the process stops; an accepted
request leads to `states_[message.what]`. -/
def handleMessage (s : StateMachine ω) (request : TransitRequest) : Option (StateMachine ω) :=
  (s.handle request).bind fun (handled, done) =>
    if done then (BtHalStateMessage.ofInt request.what).map handled.enter else some handled

/-- The two calls take turns from an `Initialize` on, each finding what the other left;
`running` when the last one was an `Initialize`. -/
def Alternating : Bool → List VendorCall → Prop
  | running, [] => running = false
  | running, .initializeVendor found :: rest => running = true ∧ found = false ∧
      Alternating false rest
  | running, .shutdown found :: rest => running = false ∧ found = true ∧ Alternating true rest

/-- The vendor interface is there exactly in the on state, and no request is met that stops
the process. An accepted request is told once to each observer that is on the list, and one
that is not accepted changes nothing. -/
structure StrictlyAlternates [DecidableEq ω] (s : StateMachine ω) : Prop where
  turns : Alternating s.vendorInterface s.calls
  running : s.vendorInterface = true ↔ s.currentState = .kOnMsg
  notified : s.notifications.reverse =
    s.accepted.reverse.flatMap fun state => s.observers.reduceOption.map (·, state)
  once : ∀ observer, s.observers.count (some observer) = 1 →
    (s.notifications.filter fun told => told.1 = observer).map (·.2) = s.accepted
  handles : ∀ request, ∃ t, s.handleMessage request = some t ∧ (t.accepted = s.accepted → t = s)

variable {s t : StateMachine ω} {request : TransitRequest}

theorem handleMessage_off (state : s.currentState ≠ .kOnMsg) : s.handleMessage request =
    some (if BtHalStateMessage.ofInt request.what = some .kOnMsg
      then (s.turnOn request.opens).enter .kOnMsg else s) := by
  have handled : s.handle request = s.handleIdle request := by
    unfold handle
    cases current : s.currentState with
    | kOnMsg => exact absurd current state
    | kIdleMsg | kOffMsg => rfl
  rw [handleMessage, handled, handleIdle]
  split
  next on => simp only [Option.bind_some, if_true, on, Option.map_some]
  next => rfl

theorem handleMessage_on (state : s.currentState = .kOnMsg) : s.handleMessage request =
    match BtHalStateMessage.ofInt request.what with
    | some .kOffMsg => s.turnOff.map (enter .kOffMsg)
    | some .kOnMsg => s.turnOff.map fun off => (off.turnOn request.opens).enter .kOnMsg
    | some .kIdleMsg | none => some s := by
  have handled : s.handle request = s.handleOn request := by rw [handle, state]
  rw [handleMessage, handled, handleOn]
  cases BtHalStateMessage.ofInt request.what with
  | none => rfl
  | some what =>
      cases what with
      | kIdleMsg => rfl
      | kOnMsg | kOffMsg => cases s.turnOff <;> rfl

/-- What a request does, whether the interface is there or not. -/
inductive Move (s : StateMachine ω) : StateMachine ω → Prop
  | rejected : Move s s
  | on (opens : Bool) (off : s.vendorInterface = false) : Move s ((s.turnOn opens).enter .kOnMsg)
  | off {t : StateMachine ω} (taken : s.turnOff = some t) : Move s (t.enter .kOffMsg)
  | again {t : StateMachine ω} (opens : Bool) (taken : s.turnOff = some t) :
      Move s ((t.turnOn opens).enter .kOnMsg)

theorem handleMessage_cases (running : s.vendorInterface = true ↔ s.currentState = .kOnMsg)
    (taken : s.handleMessage request = some t) : Move s t := by
  by_cases state : s.currentState = .kOnMsg
  · rw [handleMessage_on state] at taken
    split at taken
    next =>
      obtain ⟨off, stopped, rfl⟩ := Option.map_eq_some_iff.mp taken
      exact .off stopped
    next =>
      obtain ⟨off, stopped, rfl⟩ := Option.map_eq_some_iff.mp taken
      exact .again _ stopped
    next => cases taken; exact .rejected
    next => cases taken; exact .rejected
  · have off : s.vendorInterface = false := Bool.eq_false_iff.mpr fun there => state
      (running.mp there)
    rw [handleMessage_off state] at taken
    split at taken
    next => cases taken; exact .on _ off
    next => cases taken; exact .rejected

theorem turnOff_cases (taken : s.turnOff = some t) : s.vendorInterface = true ∧
    t = { s with calls := .shutdown true :: s.calls, vendorInterface := false } := by
  unfold turnOff at taken
  split at taken
  next there =>
    cases taken
    rw [there]
    exact ⟨rfl, rfl⟩
  next => cases taken

theorem turnOn_off (off : s.vendorInterface = false) (opens : Bool) : s.turnOn opens =
    { s with
      calls := .initializeVendor false :: s.calls
      vendorInterface := true
      initErrors := if opens then s.initErrors else s.initErrors + 1 } := by
  simp only [turnOn, off]
  rfl

/-- What every request keeps. -/
structure Sound (s : StateMachine ω) : Prop where
  turns : Alternating s.vendorInterface s.calls
  running : s.vendorInterface = true ↔ s.currentState = .kOnMsg
  notified : s.notifications.reverse =
    s.accepted.reverse.flatMap fun state => s.observers.reduceOption.map (·, state)

theorem sound_initial (observers : List (Option ω)) : Sound (initial observers) where
  turns := rfl
  running := ⟨nofun, nofun⟩
  notified := rfl

/-- Entering a state tells it to every observer. -/
theorem notified_enter (state : BtHalStateMessage)
    (notified : s.notifications.reverse =
      s.accepted.reverse.flatMap fun state => s.observers.reduceOption.map (·, state)) :
    (s.enter state).notifications.reverse = (s.enter state).accepted.reverse.flatMap
      fun state => s.observers.reduceOption.map (·, state) := by
  show (_ ++ s.notifications).reverse = (state :: s.accepted).reverse.flatMap _
  rw [List.reverse_append, List.reverse_reverse, notified, List.reverse_cons, List.flatMap_append,
    List.flatMap_singleton]

theorem Sound.move (sound : Sound s) (move : Move s t) : Sound t := by
  cases move with
  | rejected => exact sound
  | on opens off =>
      have turns := sound.turns
      rw [off] at turns
      rw [turnOn_off off]
      exact ⟨⟨rfl, rfl, turns⟩, ⟨fun _ => rfl, fun _ => rfl⟩, notified_enter _ sound.notified⟩
  | off taken =>
      obtain ⟨there, rfl⟩ := turnOff_cases taken
      have turns := sound.turns
      rw [there] at turns
      exact ⟨⟨rfl, rfl, turns⟩, ⟨nofun, nofun⟩, notified_enter _ sound.notified⟩
  | again opens taken =>
      obtain ⟨there, rfl⟩ := turnOff_cases taken
      have turns := sound.turns
      rw [there] at turns
      rw [turnOn_off rfl]
      exact ⟨⟨rfl, rfl, rfl, rfl, turns⟩, ⟨fun _ => rfl, fun _ => rfl⟩,
        notified_enter _ sound.notified⟩

theorem Move.accepted (move : Move s t) (same : t.accepted = s.accepted) : t = s := by
  cases move with
  | rejected => rfl
  | on opens off =>
      rw [turnOn_off off] at same
      exact absurd same (List.cons_ne_self _ _)
  | off taken =>
      obtain ⟨_, rfl⟩ := turnOff_cases taken
      exact absurd same (List.cons_ne_self _ _)
  | again opens taken =>
      obtain ⟨_, rfl⟩ := turnOff_cases taken
      rw [turnOn_off rfl] at same
      exact absurd same (List.cons_ne_self _ _)

theorem handleMessage_isSome (running : s.vendorInterface = true ↔ s.currentState = .kOnMsg)
    (request : TransitRequest) : ∃ t, s.handleMessage request = some t := by
  by_cases state : s.currentState = .kOnMsg
  · rw [handleMessage_on state, turnOff, if_pos (running.mpr state)]
    split
    next => exact ⟨_, rfl⟩
    next => exact ⟨_, rfl⟩
    next => exact ⟨_, rfl⟩
    next => exact ⟨_, rfl⟩
  · rw [handleMessage_off state]
    exact ⟨_, rfl⟩

theorem count_reduceOption [DecidableEq ω] (observer : ω) (observers : List (Option ω)) :
    observers.reduceOption.count observer = observers.count (some observer) := by
  induction observers with
  | nil => rfl
  | cons first rest ih =>
      cases first with
      | none =>
          have other : (none : Option ω) ≠ some observer := Option.some_ne_none observer |>.symm
          rw [List.reduceOption_cons_of_none, ih, List.count_cons_of_ne other]
      | some other =>
          rw [List.reduceOption_cons_of_some]
          by_cases same : other = observer
          · rw [same, List.count_cons_self, List.count_cons_self, ih]
          · have different : some other ≠ some observer := fun equal => same (Option.some.inj equal)
            rw [List.count_cons_of_ne same, List.count_cons_of_ne different, ih]

/-- Of all that is told, an observer that is on the list once gets each state once. -/
theorem told_once [DecidableEq ω] {observer : ω} {observers : List (Option ω)}
    (once : observers.count (some observer) = 1) (states : List BtHalStateMessage) :
    ((states.flatMap fun state => observers.reduceOption.map (·, state)).filter
      fun told => told.1 = observer).map (·.2) = states := by
  have own : observers.reduceOption.filter (fun other => other = observer) = [observer] := by
    rw [List.filter_eq, count_reduceOption, once]
    rfl
  induction states with
  | nil => rfl
  | cons state rest ih =>
      rw [List.flatMap_cons, List.filter_append, List.map_append, ih, List.filter_map]
      simp only [Function.comp_def, own]
      rfl

theorem Sound.strictlyAlternates [DecidableEq ω] (sound : Sound s) : StrictlyAlternates s where
  turns := sound.turns
  running := sound.running
  notified := sound.notified
  once observer once := by
    have told := told_once once s.accepted.reverse
    rw [← sound.notified, List.filter_reverse, List.map_reverse] at told
    exact List.reverse_inj.mp told
  handles request := by
    obtain ⟨t, taken⟩ := handleMessage_isSome sound.running request
    exact ⟨t, taken, (handleMessage_cases sound.running taken).accepted⟩

end StateMachine

/-- Whatever is requested, and whether the vendor library opens or not. -/
theorem stateMachine_alternates {ω : Type} [DecidableEq ω] (observers : List (Option ω))
    (requests : List TransitRequest) :
    AllStates StateMachine.handleMessage StateMachine.StrictlyAlternates
      (StateMachine.initial observers) requests := by
  apply AllStates.imp fun s sound => StateMachine.Sound.strictlyAlternates sound
  apply allStates_of_kept _ (StateMachine.sound_initial observers)
  exact fun s request t sound taken =>
    sound.move (StateMachine.handleMessage_cases sound.running taken)

end Connectivity.Hci
