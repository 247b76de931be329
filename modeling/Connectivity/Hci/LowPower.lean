import Connectivity.Transition.Run

set_option autoImplicit false

/- Low power mode. `VendorInterface::Send` runs on the threads of the callers and, while
received data is handled, on the watcher's own thread; `OnTimeout` runs on the watcher's
thread. No lock is held in either, so that their statements interleave. -/
namespace Connectivity.Hci

open Transition

/-- The statement a `Send` has come to. -/
inductive SendStep
  | idle | test | configure | clear | assertWake | write
  deriving DecidableEq, Repr

/-- What the watcher's thread is at: nothing, the data of a descriptor, or a statement of
`OnTimeout`. -/
inductive WatcherStep
  | idle | dataReady | setDeasserted | deassertWake | stopTimer | clearActivity
  deriving DecidableEq, Repr

/-- `OnTimeout` has begun and not returned. -/
def WatcherStep.inTimeout : WatcherStep → Bool
  | .idle | .dataReady => false
  | .setDeasserted | .deassertWake | .stopTimer | .clearActivity => true

inductive LpmEvent
  | sendCalled | asserted | wrote | expired | deasserted
  deriving DecidableEq, Repr

/-- The variables of `vendor_interface.cc` and the watcher's timer, and what its threads
are at: `none` sends on the watcher's thread. `log` tells what happened, latest first. -/
structure Lpm (τ : Type) where
  lpmWakeDeasserted : Bool
  lpmTimeoutMs : Nat
  recentActivityFlag : Bool
  timeoutMs : Nat
  senders : Option τ → SendStep
  watcher : WatcherStep
  log : List LpmEvent

inductive LpmInput (τ : Type)
  | send (thread : Option τ) | expire | timeout | dataReady | dataHandled
  | onFirmwareConfigured (lpmTimeoutMs : Nat)

namespace Lpm

variable {τ : Type}

/-- After `Open`; two of the variables are left as an earlier interface had them. -/
def opened (recentActivityFlag : Bool) (lpmTimeoutMs : Nat) : Lpm τ where
  lpmWakeDeasserted := true
  lpmTimeoutMs := lpmTimeoutMs
  recentActivityFlag := recentActivityFlag
  timeoutMs := 0
  senders := fun _ => .idle
  watcher := .idle
  log := []

section
variable [DecidableEq τ]

def goesTo (thread : Option τ) (step : SendStep) (s : Lpm τ) : Lpm τ :=
  { s with senders := fun other => if other = thread then step else s.senders other }

/-- The next statement of a thread's `Send`; the watcher's thread sends only while it
handles data. -/
def send (thread : Option τ) (s : Lpm τ) : Option (Lpm τ) :=
  if thread = none ∧ s.watcher ≠ .dataReady then none
  else match s.senders thread with
    | .idle =>
        some ({ s with recentActivityFlag := true, log := .sendCalled :: s.log }.goesTo
            thread .test)
    | .test => some (s.goesTo thread (if s.lpmWakeDeasserted then .configure else .write))
    | .configure => some ({ s with timeoutMs := s.lpmTimeoutMs }.goesTo thread .clear)
    | .clear => some ({ s with lpmWakeDeasserted := false }.goesTo thread .assertWake)
    | .assertWake => some ({ s with log := .asserted :: s.log }.goesTo thread .write)
    | .write => some ({ s with log := .wrote :: s.log }.goesTo thread .idle)

end

/-- The timer runs out, and `OnTimeout` tests for activity. -/
def expire (s : Lpm τ) : Option (Lpm τ) :=
  if s.watcher = .idle ∧ 0 < s.timeoutMs then
    some { s with
      log := .expired :: s.log
      watcher := if s.recentActivityFlag then .clearActivity else .setDeasserted }
  else none

/-- The next statement of `OnTimeout`. -/
def timeout (s : Lpm τ) : Option (Lpm τ) :=
  match s.watcher with
  | .setDeasserted => some { s with lpmWakeDeasserted := true, watcher := .deassertWake }
  | .deassertWake => some { s with log := .deasserted :: s.log, watcher := .stopTimer }
  | .stopTimer => some { s with timeoutMs := 0, watcher := .clearActivity }
  | .clearActivity => some { s with recentActivityFlag := false, watcher := .idle }
  | .idle | .dataReady => none

def step [DecidableEq τ] (s : Lpm τ) : LpmInput τ → Option (Lpm τ)
  | .send thread => s.send thread
  | .expire => s.expire
  | .timeout => s.timeout
  | .dataReady => if s.watcher = .idle then some { s with watcher := .dataReady } else none
  | .dataHandled =>
      if s.watcher = .dataReady ∧ s.senders none = .idle then some { s with watcher := .idle }
      else none
  | .onFirmwareConfigured lpmTimeoutMs =>
      some { s with lpmTimeoutMs := lpmTimeoutMs, timeoutMs := lpmTimeoutMs }

end Lpm

namespace LpmEvent

/-- The vendor library has been told to assert wake since the last deassert. -/
def awake : List LpmEvent → Bool
  | [] => false
  | .asserted :: _ => true
  | .deasserted :: _ => false
  | .sendCalled :: rest | .wrote :: rest | .expired :: rest => awake rest

/-- A `Send` was called since the last `expiries` expiries of the timer. -/
def sentSince : Nat → List LpmEvent → Bool
  | 0, _ | _, [] => false
  | _ + 1, .sendCalled :: _ => true
  | expiries + 1, .expired :: rest => sentSince expiries rest
  | expiries + 1, .asserted :: rest | expiries + 1, .wrote :: rest
  | expiries + 1, .deasserted :: rest => sentSince (expiries + 1) rest

theorem sentSince_zero (log : List LpmEvent) : sentSince 0 log = false := by
  cases log <;> rfl

/-- Every write finds wake asserted, and at every deassert, the work of an expiry, no
`Send` has been called since the expiry before that one. -/
def Orderly : List LpmEvent → Prop
  | [] => True
  | .wrote :: rest => awake rest = true ∧ Orderly rest
  | .deasserted :: rest => sentSince 2 rest = false ∧ Orderly rest
  | .sendCalled :: rest | .asserted :: rest | .expired :: rest => Orderly rest

end LpmEvent

namespace Lpm

variable {τ : Type} {s t : Lpm τ} {thread : Option τ}

/-- No `Send` is called while the timer's handler runs, none that relies on a wake which
another one has yet to assert, and a timer that finds no activity finds none under way. -/
def CallsApart (s : Lpm τ) : LpmInput τ → Prop
  | .send thread =>
      (s.senders thread = .idle → s.watcher.inTimeout = false) ∧
      (s.senders thread = .test → s.lpmWakeDeasserted = false →
        ∀ other, s.senders other ≠ .assertWake)
  | .expire => s.recentActivityFlag = false → ∀ thread, s.senders thread = .idle
  | .timeout | .dataReady | .dataHandled | .onFirmwareConfigured _ => True

structure Inv (s : Lpm τ) : Prop where
  orderly : LpmEvent.Orderly s.log
  told : s.lpmWakeDeasserted = false →
    LpmEvent.awake s.log = true ∨ ∃ thread, s.senders thread = .assertWake
  writes : ∀ thread, s.senders thread = .write → LpmEvent.awake s.log = true
  alone : s.watcher = .setDeasserted ∨ s.watcher = .deassertWake →
    (∀ thread, s.senders thread = .idle) ∧ LpmEvent.sentSince 2 s.log = false
  flagged : s.watcher = .deassertWake → s.lpmWakeDeasserted = true
  quiet : s.recentActivityFlag = false ∨ s.watcher.inTimeout = true →
    LpmEvent.sentSince 1 s.log = false

theorem inv_opened (recentActivityFlag : Bool) (lpmTimeoutMs : Nat) :
    Inv (opened recentActivityFlag lpmTimeoutMs : Lpm τ) where
  orderly := trivial
  told := nofun
  writes := nofun
  alone := nofun
  flagged := nofun
  quiet _ := rfl

/-- While `OnTimeout` deasserts wake, no `Send` is between its call and its return. -/
theorem Inv.away (inv : Inv s) (busy : s.senders thread ≠ .idle) :
    s.watcher ≠ .setDeasserted ∧ s.watcher ≠ .deassertWake :=
  ⟨fun sets => busy ((inv.alone (.inl sets)).1 thread),
    fun deasserts => busy ((inv.alone (.inr deasserts)).1 thread)⟩

/-- Wake has been asserted, or a thread other than one that is elsewhere will do it. -/
theorem Inv.toldByOther (inv : Inv s) (elsewhere : s.senders thread ≠ .assertWake)
    (flag : s.lpmWakeDeasserted = false) :
    LpmEvent.awake s.log = true ∨ ∃ other, other ≠ thread ∧ s.senders other = .assertWake := by
  rcases inv.told flag with awake | ⟨other, asserts⟩
  · exact .inl awake
  · refine .inr ⟨other, fun same => elsewhere ?_, asserts⟩
    rw [← same]
    exact asserts

section
variable [DecidableEq τ]

theorem goesTo_self (step : SendStep) : (s.goesTo thread step).senders thread = step :=
  if_pos rfl

theorem goesTo_other {other : Option τ} (step : SendStep) (different : other ≠ thread) :
    (s.goesTo thread step).senders other = s.senders other :=
  if_neg different

/-- What a thread's step must show when it goes on to the next statement. -/
theorem goesTo_inv {step : SendStep} (orderly : LpmEvent.Orderly s.log)
    (writes : ∀ other, s.senders other = .write → LpmEvent.awake s.log = true)
    (quiet : s.recentActivityFlag = false ∨ s.watcher.inTimeout = true →
      LpmEvent.sentSince 1 s.log = false)
    (away : s.watcher ≠ .setDeasserted ∧ s.watcher ≠ .deassertWake)
    (told : s.lpmWakeDeasserted = false → step = .assertWake ∨
      LpmEvent.awake s.log = true ∨ ∃ other, other ≠ thread ∧ s.senders other = .assertWake)
    (now : step = .write → LpmEvent.awake s.log = true) : Inv (s.goesTo thread step) := by
  refine ⟨orderly, fun flag => ?_, fun other write => ?_, fun deasserts => ?_, ?_, quiet⟩
  · rcases told flag with here | awake | ⟨other, different, asserts⟩
    · exact .inr ⟨thread, (goesTo_self step).trans here⟩
    · exact .inl awake
    · exact .inr ⟨other, (goesTo_other step different).trans asserts⟩
  · by_cases same : other = thread
    · rw [same, goesTo_self] at write
      exact now write
    · rw [goesTo_other step same] at write
      exact writes other write
  · exact absurd deasserts (not_or.mpr away)
  · exact fun deasserts => absurd deasserts away.2

theorem send_inv (inv : Inv s) (apart : CallsApart s (.send thread))
    (taken : s.send thread = some t) : Inv t := by
  unfold send at taken
  split at taken
  next => cases taken
  next =>
    split at taken
    next idle =>
      cases taken
      have outside := apart.1 idle
      have away : s.watcher ≠ .setDeasserted ∧ s.watcher ≠ .deassertWake := by
        constructor <;> (intro there; rw [there] at outside; cases outside)
      have quiet : (true = false ∨ s.watcher.inTimeout = true) →
          LpmEvent.sentSince 1 (.sendCalled :: s.log) = false := by
        rw [outside]
        exact fun none => absurd none (by decide)
      refine goesTo_inv inv.orderly inv.writes quiet away ?_ ?_
      · exact fun flag => .inr (inv.toldByOther (by rw [idle]; decide) flag)
      · exact nofun
    next test =>
      cases taken
      refine goesTo_inv inv.orderly inv.writes inv.quiet (inv.away (by rw [test]; decide)) ?_ ?_
      · exact fun flag => .inr (inv.toldByOther (by rw [test]; decide) flag)
      · intro write
        have flag : s.lpmWakeDeasserted = false := by
          cases flag : s.lpmWakeDeasserted with
          | false => rfl
          | true => rw [flag] at write; cases write
        have none := apart.2 test flag
        exact (inv.told flag).resolve_right fun ⟨other, asserts⟩ => none other asserts
    next configure =>
      cases taken
      refine goesTo_inv inv.orderly inv.writes inv.quiet
          (inv.away (by rw [configure]; decide)) ?_ ?_
      · exact fun flag => .inr (inv.toldByOther (by rw [configure]; decide) flag)
      · exact nofun
    next clear =>
      cases taken
      refine goesTo_inv inv.orderly inv.writes inv.quiet (inv.away (by rw [clear]; decide)) ?_ ?_
      · exact fun _ => .inl rfl
      · exact nofun
    next asserts =>
      cases taken
      refine goesTo_inv inv.orderly (fun _ _ => rfl) inv.quiet
          (inv.away (by rw [asserts]; decide)) ?_ ?_
      · exact fun _ => .inr (.inl rfl)
      · exact fun _ => rfl
    next writes =>
      cases taken
      have awake := inv.writes thread writes
      refine goesTo_inv ⟨awake, inv.orderly⟩ inv.writes inv.quiet
          (inv.away (by rw [writes]; decide)) ?_ ?_
      · exact fun _ => .inr (.inl awake)
      · exact nofun

end

theorem expire_inv (inv : Inv s) (apart : s.recentActivityFlag = false →
    ∀ thread, s.senders thread = .idle) (taken : s.expire = some t) : Inv t := by
  unfold expire at taken
  split at taken
  next =>
    cases taken
    refine ⟨inv.orderly, inv.told, inv.writes, ?_, ?_, fun _ => LpmEvent.sentSince_zero s.log⟩
    · cases flag : s.recentActivityFlag with
      | true => exact nofun
      | false => exact fun _ => ⟨apart flag, inv.quiet (.inl flag)⟩
    · cases s.recentActivityFlag <;> exact nofun
  next => cases taken

theorem timeout_inv (inv : Inv s) (taken : s.timeout = some t) : Inv t := by
  unfold timeout at taken
  split at taken
  next sets =>
    cases taken
    obtain ⟨idle, quiet⟩ := inv.alone (.inl sets)
    refine ⟨inv.orderly, nofun, inv.writes, fun _ => ⟨idle, quiet⟩, fun _ => rfl, fun _ => ?_⟩
    exact inv.quiet (.inr (by rw [sets]; rfl))
  next deasserts =>
    cases taken
    obtain ⟨idle, quiet⟩ := inv.alone (.inr deasserts)
    have flag := inv.flagged deasserts
    refine ⟨⟨quiet, inv.orderly⟩, ?_, ?_, nofun, nofun, fun _ => ?_⟩
    · exact fun cleared => absurd (flag.symm.trans cleared) (by decide)
    · exact fun thread write => absurd ((idle thread).symm.trans write) (by decide)
    · exact inv.quiet (.inr (by rw [deasserts]; rfl))
  next stops =>
    cases taken
    refine ⟨inv.orderly, inv.told, inv.writes, nofun, nofun, fun _ => ?_⟩
    exact inv.quiet (.inr (by rw [stops]; rfl))
  next clears =>
    cases taken
    refine ⟨inv.orderly, inv.told, inv.writes, nofun, nofun, fun _ => ?_⟩
    exact inv.quiet (.inr (by rw [clears]; rfl))
  next => cases taken
  next => cases taken

theorem step_inv [DecidableEq τ] {input : LpmInput τ} (inv : Inv s) (apart : CallsApart s input)
    (taken : s.step input = some t) : Inv t := by
  cases input with
  | send thread => exact send_inv inv apart taken
  | expire => exact expire_inv inv apart taken
  | timeout => exact timeout_inv inv taken
  | dataReady =>
      simp only [step] at taken
      split at taken
      next idle =>
        cases taken
        refine ⟨inv.orderly, inv.told, inv.writes, nofun, nofun, fun quiet => ?_⟩
        exact inv.quiet (quiet.imp_right nofun)
      next => cases taken
  | dataHandled =>
      simp only [step] at taken
      split at taken
      next ready =>
        cases taken
        refine ⟨inv.orderly, inv.told, inv.writes, nofun, nofun, fun quiet => ?_⟩
        exact inv.quiet (quiet.imp_right nofun)
      next => cases taken
  | onFirmwareConfigured lpmTimeoutMs =>
      cases taken
      exact ⟨inv.orderly, inv.told, inv.writes, inv.alone, inv.flagged, inv.quiet⟩

end Lpm

/-- Low power mode keeps its order as long as the calls stay apart. -/
theorem lpm_orderly {τ : Type} [DecidableEq τ] {recentActivityFlag : Bool} {lpmTimeoutMs : Nat}
    {inputs : List (LpmInput τ)}
    (apart : StepsMeet Lpm.step Lpm.CallsApart (.opened recentActivityFlag lpmTimeoutMs) inputs) :
    AllStates Lpm.step (fun s => LpmEvent.Orderly s.log) (.opened recentActivityFlag lpmTimeoutMs)
      inputs := by
  apply AllStates.imp fun s inv => Lpm.Inv.orderly inv
  apply allStates_of_stepsMeet _ (Lpm.inv_opened recentActivityFlag lpmTimeoutMs) apart
  exact fun s input t inv apart taken => Lpm.step_inv inv apart taken

/-- A timer that finds nothing going on puts the chip to sleep, and a `Send` wakes it. -/
theorem lpm_orderly_once :
    AllStates Lpm.step (fun s => LpmEvent.Orderly s.log) (.opened false 0 : Lpm Unit)
      [.onFirmwareConfigured 3000, .expire, .timeout, .timeout, .timeout, .timeout,
        .send (some ()), .send (some ()), .send (some ()), .send (some ()), .send (some ()),
        .send (some ())] := by
  apply lpm_orderly
  rintro _ ⟨⟩
  refine ⟨trivial, ?_⟩
  rintro _ ⟨⟩
  refine ⟨fun _ _ => rfl, ?_⟩
  iterate 4
    rintro _ ⟨⟩
    refine ⟨trivial, ?_⟩
  iterate 6
    rintro _ ⟨⟩
    refine ⟨⟨fun _ => rfl, nofun⟩, ?_⟩
  trivial

/-- The timer finds no activity, and before it has deasserted wake a `Send` is called that
finds wake asserted. -/
def overtaken : List (LpmInput Unit) :=
  [.onFirmwareConfigured 3000, .send (some ()), .send (some ()), .send (some ()),
    .send (some ()), .send (some ()), .send (some ()), .expire, .timeout, .expire,
    .send (some ()), .send (some ()), .timeout, .timeout, .send (some ())]

/-- The chip is told to sleep just after a `Send` was called, and that one writes to it. -/
theorem write_to_sleeping_chip :
    (exec Lpm.step (.opened false 0) overtaken).map (fun s => s.log.take 5) =
      some [.wrote, .deasserted, .sendCalled, .expired, .expired] ∧
    ¬ AllStates Lpm.step (fun s => LpmEvent.Orderly s.log) (.opened false 0) overtaken := by
  refine ⟨by decide, fun all => ?_⟩
  have orderly := all.last rfl
  exact absurd orderly.1 (by decide)

end Connectivity.Hci
