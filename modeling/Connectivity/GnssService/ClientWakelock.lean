import Connectivity.Transition.Run

set_option autoImplicit false

/- The wakelock of the GNSS service: two sides that ask for it, and the client that is told. -/
namespace Connectivity.GnssService

open Transition

/-- `gnssAcquireWakelockCb` and `gnssReleaseWakelockCb`. -/
inductive WakelockCb
  | acquire | release
deriving DecidableEq, Repr

/-- The statics of `MtkGnss`, that of `updateWakelock` among them; `sGnssCbIface` is the number of
the client. -/
structure MtkGnss where
  sGnssCbIface : Option Nat
  sWakelockHeldGnss : Bool
  sWakelockHeldFused : Bool
  sWakelockHeld : Bool
deriving DecidableEq, Repr

namespace MtkGnss

def created : MtkGnss := ⟨none, false, false, false⟩

variable (s : MtkGnss)

/-- Whether a side holds a request. -/
def heldBySide : Bool := s.sWakelockHeldGnss || s.sWakelockHeldFused

/-- The callback goes to the client; a release is repeated, an acquire is not. -/
def updateWakelock : MtkGnss × Option WakelockCb :=
  match s.sGnssCbIface with
  | none => (s, none)
  | some _ =>
      if s.heldBySide then
        if s.sWakelockHeld then (s, none)
        else ({ s with sWakelockHeld := true }, some .acquire)
      else ({ s with sWakelockHeld := false }, some .release)

def wakelockGnss (held : Bool) : MtkGnss × Option WakelockCb :=
  { s with sWakelockHeldGnss := held }.updateWakelock

def wakelockFused (held : Bool) : MtkGnss × Option WakelockCb :=
  { s with sWakelockHeldFused := held }.updateWakelock

def acquireWakelockGnss : MtkGnss × Option WakelockCb := s.wakelockGnss true
def releaseWakelockGnss : MtkGnss × Option WakelockCb := s.wakelockGnss false
def acquireWakelockFused : MtkGnss × Option WakelockCb := s.wakelockFused true
def releaseWakelockFused : MtkGnss × Option WakelockCb := s.wakelockFused false

/-- Another client replaces the one before; a null callback is ignored. -/
def setCallback (callback : Option Nat) : MtkGnss :=
  match callback with
  | none => s
  | some client => { s with sGnssCbIface := some client }

def handleHidlDeath : MtkGnss := { s with sGnssCbIface := none }

/-- The requests of the two sides, the calls of clients, and their deaths. -/
inductive Event
  | acquireWakelockGnss | releaseWakelockGnss | acquireWakelockFused | releaseWakelockFused
  | setCallback (callback : Option Nat)
  | handleHidlDeath
deriving DecidableEq, Repr

def handle : Event → MtkGnss × Option WakelockCb
  | .acquireWakelockGnss => s.acquireWakelockGnss
  | .releaseWakelockGnss => s.releaseWakelockGnss
  | .acquireWakelockFused => s.acquireWakelockFused
  | .releaseWakelockFused => s.releaseWakelockFused
  | .setCallback callback => (s.setCallback callback, none)
  | .handleHidlDeath => (s.handleHidlDeath, none)

end MtkGnss

/-- The service with the last callback that the client has received since it attached. -/
structure ClientRun where
  service : MtkGnss
  received : Option WakelockCb
deriving DecidableEq, Repr

namespace ClientRun

def start : ClientRun := ⟨.created, none⟩

variable (s : ClientRun)

/-- A client that attaches has received nothing. -/
def receivedAfter (e : MtkGnss.Event) (callback : Option WakelockCb) : Option WakelockCb :=
  match e with
  | .setCallback (some _) => none
  | _ => callback.or s.received

def step (e : MtkGnss.Event) : Option ClientRun :=
  some ⟨(s.service.handle e).1, s.receivedAfter e (s.service.handle e).2⟩

/-- A client that is attached has been told to acquire exactly if a side holds a request. -/
def Sound : Prop :=
  s.service.sGnssCbIface ≠ none → (s.received = some .acquire ↔ s.service.heldBySide = true)

/-- A client attaches while no side holds a request; the first request of a side, with a client
there, finds the service without the wakelock. -/
def Meets : MtkGnss.Event → Prop
  | .setCallback callback => callback ≠ none → s.service.heldBySide = false
  | .acquireWakelockGnss => s.service.sGnssCbIface ≠ none → s.service.heldBySide = false →
      s.service.sWakelockHeld = false
  | .acquireWakelockFused => s.service.sGnssCbIface ≠ none → s.service.heldBySide = false →
      s.service.sWakelockHeld = false
  | _ => True

variable {s}

/-- What a request leaves the client with. -/
theorem update_received {t : MtkGnss} (attached : t.sGnssCbIface ≠ none)
    (received : Option WakelockCb) :
    (t.updateWakelock.1.sGnssCbIface = t.sGnssCbIface ∧
      t.updateWakelock.1.heldBySide = t.heldBySide) ∧
      (t.updateWakelock.2.or received = some .acquire ↔
        t.heldBySide = true ∧ (t.sWakelockHeld = true → received = some .acquire)) := by
  obtain ⟨client, here⟩ := Option.ne_none_iff_exists'.mp attached
  unfold MtkGnss.updateWakelock
  rw [here]
  dsimp only
  cases side : t.heldBySide with
  | false =>
      rw [if_neg Bool.false_ne_true]
      refine ⟨⟨rfl, side⟩, ?_⟩
      exact iff_of_false (fun other => by cases other) fun other => Bool.noConfusion other.1
  | true =>
      rw [if_pos rfl]
      cases held : t.sWakelockHeld with
      | false =>
          rw [if_neg Bool.false_ne_true]
          exact ⟨⟨rfl, side⟩, iff_of_true rfl ⟨rfl, fun other => by cases other⟩⟩
      | true =>
          rw [if_pos rfl]
          refine ⟨⟨here, side⟩, ?_⟩
          constructor
          · exact fun same => ⟨rfl, fun _ => same⟩
          · exact fun both => both.2 rfl

theorem update_detached {t : MtkGnss} (detached : t.sGnssCbIface = none) :
    t.updateWakelock = (t, none) := by
  unfold MtkGnss.updateWakelock
  rw [detached]

/-- A request is sound behind it exactly if, when a side holds it then, a wakelock that the service
takes to be held is one that the client has been told. -/
theorem request_sound {t : MtkGnss} (same : t.sGnssCbIface = s.service.sGnssCbIface) :
    Sound ⟨t.updateWakelock.1, t.updateWakelock.2.or s.received⟩ ↔
      (s.service.sGnssCbIface ≠ none → t.heldBySide = true → t.sWakelockHeld = true →
        s.received = some .acquire) := by
  by_cases detached : s.service.sGnssCbIface = none
  · have alone := same.trans detached
    rw [update_detached alone]
    exact iff_of_true (fun attached => absurd alone attached) fun attached =>
      absurd detached attached
  · have attached : t.sGnssCbIface ≠ none := fun none => detached (same.symm.trans none)
    obtain ⟨⟨client, side⟩, told⟩ := update_received attached s.received
    unfold Sound
    dsimp only
    rw [client, side, told]
    constructor
    · intro sound _ holds
      exact ((sound attached).mpr holds).2
    · intro kept _
      exact ⟨fun both => both.1, fun holds => ⟨holds, kept detached holds⟩⟩

theorem acquire_iff {t : MtkGnss} (sound : s.Sound)
    (same : t.sGnssCbIface = s.service.sGnssCbIface)
    (held : t.sWakelockHeld = s.service.sWakelockHeld) (side : t.heldBySide = true) :
    Sound ⟨t.updateWakelock.1, t.updateWakelock.2.or s.received⟩ ↔
      (s.service.sGnssCbIface ≠ none → s.service.heldBySide = false →
        s.service.sWakelockHeld = false) := by
  rw [request_sound same, held]
  constructor
  · intro kept attached free
    apply eq_false_of_ne_true
    intro holds
    have told := (sound attached).mp (kept attached side holds)
    rw [free] at told
    cases told
  · intro first attached _ holds
    apply (sound attached).mpr
    apply eq_true_of_ne_false
    intro free
    rw [first attached free] at holds
    cases holds

theorem release_sound {t : MtkGnss} (sound : s.Sound)
    (same : t.sGnssCbIface = s.service.sGnssCbIface)
    (less : t.heldBySide = true → s.service.heldBySide = true) :
    Sound ⟨t.updateWakelock.1, t.updateWakelock.2.or s.received⟩ :=
  (request_sound same).mpr fun attached side _ => (sound attached).mpr (less side)

/-- The step lemma: a sound state is followed by a sound one exactly if the step meets its
condition. -/
theorem sound_iff {e : MtkGnss.Event} {t : ClientRun} (sound : s.Sound)
    (taken : s.step e = some t) : t.Sound ↔ s.Meets e := by
  cases taken
  cases e with
  | acquireWakelockGnss => exact acquire_iff sound rfl rfl rfl
  | acquireWakelockFused => exact acquire_iff sound rfl rfl (Bool.or_true _)
  | releaseWakelockGnss =>
      refine iff_of_true (release_sound sound rfl fun side => ?_) trivial
      rw [MtkGnss.heldBySide, Bool.or_eq_true]
      exact Or.inr side
  | releaseWakelockFused =>
      refine iff_of_true (release_sound sound rfl fun side => ?_) trivial
      rw [MtkGnss.heldBySide, Bool.or_false] at side
      rw [MtkGnss.heldBySide, Bool.or_eq_true]
      exact Or.inl side
  | setCallback callback =>
      cases callback with
      | none => exact iff_of_true sound fun other => absurd rfl other
      | some client =>
          constructor
          · intro after _
            apply eq_false_of_ne_true
            intro side
            have told := (after (Option.some_ne_none client)).mpr side
            cases told
          · intro free _
            have none := free (Option.some_ne_none client)
            refine iff_of_false (fun told => by cases told) fun side => ?_
            rw [show s.service.heldBySide = true from side] at none
            cases none
  | handleHidlDeath => exact iff_of_true (fun attached => absurd rfl attached) trivial

end ClientRun

/-- From the creation of the service on, the client that is attached has been told to acquire the
wakelock exactly while a side holds it, if clients attach while no side holds it and the service
does not take it to be held when a side asks for it first; and only then. -/
theorem client_wakelock_iff (events : List MtkGnss.Event) :
    AllStates ClientRun.step ClientRun.Sound .start events ↔
      StepsMeet ClientRun.step ClientRun.Meets .start events := by
  apply @allStates_iff_stepsMeet _ _ _ ClientRun.Sound
  case kept => exact fun _ _ _ sound meets taken => (ClientRun.sound_iff sound taken).mpr meets
  case enough => exact fun _ sound => sound
  case broken =>
    exact fun _ _ _ sound missed taken after => missed ((ClientRun.sound_iff sound taken).mp after)
  case start => exact fun attached => absurd rfl attached

/-- A client dies while the GNSS side holds the wakelock; the next one is not told when that side
asks again, be it that it has released the wakelock in between. -/
theorem not_client_wakelock :
    ¬ AllStates ClientRun.step ClientRun.Sound .start
        [.setCallback (some 1), .acquireWakelockGnss, .handleHidlDeath, .setCallback (some 2),
          .acquireWakelockGnss] ∧
      ¬ AllStates ClientRun.step ClientRun.Sound .start
        [.setCallback (some 1), .acquireWakelockGnss, .handleHidlDeath, .releaseWakelockGnss,
          .setCallback (some 2), .acquireWakelockGnss] := by
  constructor
  · intro all
    have last : exec ClientRun.step .start
        [.setCallback (some 1), .acquireWakelockGnss, .handleHidlDeath, .setCallback (some 2),
          .acquireWakelockGnss] = some ⟨⟨some 2, true, false, true⟩, none⟩ := rfl
    have sound : ClientRun.Sound ⟨⟨some 2, true, false, true⟩, none⟩ := all.last last
    have told := (sound (Option.some_ne_none 2)).mpr rfl
    cases told
  · intro all
    have last : exec ClientRun.step .start
        [.setCallback (some 1), .acquireWakelockGnss, .handleHidlDeath, .releaseWakelockGnss,
          .setCallback (some 2), .acquireWakelockGnss] =
            some ⟨⟨some 2, true, false, true⟩, none⟩ := rfl
    have sound : ClientRun.Sound ⟨⟨some 2, true, false, true⟩, none⟩ := all.last last
    have told := (sound (Option.some_ne_none 2)).mpr rfl
    cases told

end Connectivity.GnssService
