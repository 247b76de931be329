import Connectivity.Transition.Run
import Connectivity.Tuner.Search

set_option autoImplicit false

/- Where the chip is after a search that has been stopped. -/
namespace Connectivity.Tuner

open Transition

/-- The operations of the core, with what the driver returns and answers. -/
inductive Operation
  | pwrUp (ret : Int)
  | tune (freq : BitVec 32) (ret : Int)
  | seek (config : BandConfig) (channel : BitVec 32) (dir : Direction) (driver : Driver)
  | stopScan

namespace Core

variable (s : Core)

/-- The chip is where `cur_freq`, taken for kHz, has it tuned back to. -/
def Settled : Prop := s.chip = chipFreq (s.curFreq.setWidth 32)

instance : Decidable s.Settled := inferInstanceAs (Decidable (_ = _))

/-- An operation, and whether it is a search that returns because of a stop. A search over
channels at no distance divides by zero and has no result. -/
def perform : Operation → Option (Core × Bool)
  | .pwrUp ret => some (s.pwrUp ret, false)
  | .tune freq ret => some (s.tune freq ret, false)
  | .seek config channel dir driver =>
      if config.spacing = 0 then none
      else
        let (t, sought) := s.seek config channel dir driver
        some (t, decide (sought = .stopped))
  | .stopScan => some (s.stopScan, false)

end Core

/-- A run of operations, and whether each stopped search so far has left the chip at the
frequency where it had found it. -/
structure StopRun where
  core : Core
  restored : Bool
deriving DecidableEq, Repr

namespace StopRun

variable (s : StopRun)

def step (operation : Operation) : Option StopRun :=
  (s.core.perform operation).map fun (core, stopped) =>
    ⟨core, s.restored && (!stopped || decide (core.chip = s.core.chip))⟩

/-- A search that is going to be stopped begins with the chip settled. -/
def Meets (operation : Operation) : Prop :=
  (s.core.perform operation).map Prod.snd = some true → s.core.Settled

instance (operation : Operation) : Decidable (s.Meets operation) :=
  inferInstanceAs (Decidable (_ → _))

end StopRun

namespace Core

variable {s t : Core} {config : BandConfig} {dir : Direction} {driver : Driver}

/-- The frequency to go back to is none of a check's business, unless it is stopped; then the chip
goes there, and is settled. -/
theorem tuneCheck_curFreq {freq : BitVec 32} {answer : Answer} {found : Option Probe}
    (checked : s.tuneCheck freq answer = (t, found)) :
    t.curFreq = s.curFreq ∧ (found = none → t.chip = chipFreq (s.curFreq.setWidth 32)) := by
  have same : (if answer.stopped then s.stopScan else s).curFreq = s.curFreq := by
    cases answer.stopped <;> rfl
  have back : (s.curFreq.setWidth 32).setWidth 16 = s.curFreq := by
    rw [BitVec.setWidth_setWidth_of_le _ (by decide), BitVec.setWidth_eq]
  unfold tuneCheck at checked
  dsimp only at checked
  by_cases halted : (if answer.stopped then s.stopScan else s).scanStop = true
  · rw [if_pos halted, same] at checked
    cases checked
    exact ⟨back, fun _ => rfl⟩
  · rw [if_neg halted] at checked
    cases checked
    refine ⟨?_, fun none => by cases none⟩
    rw [softMuteTune]
    split <;> exact same

theorem seekMore_curFreq {more turn : Nat} {freq best : BitVec 32} {rssi : Int}
    {found : Option (BitVec 32)}
    (run : seekMore config dir driver more s turn freq best rssi = (t, found)) :
    t.curFreq = s.curFreq ∧ (found = none → t.chip = chipFreq (s.curFreq.setWidth 32)) := by
  induction more generalizing s turn freq best rssi with
  | zero =>
      cases run
      exact ⟨rfl, fun none => by cases none⟩
  | succ more ih =>
      rw [seekMore] at run
      split at run
      · cases run
        exact ⟨rfl, fun none => by cases none⟩
      · split at run
        · rename_i after checked
          cases run
          have back := tuneCheck_curFreq checked
          exact ⟨back.1, fun _ => back.2 rfl⟩
        · rename_i after found checked
          have kept := (tuneCheck_curFreq checked).1
          split at run
          · rw [← kept]
            exact ih run
          · rw [← kept]
            exact ih run

theorem seekAmong_curFreq {channels : List Int} {turn : Nat} {sought : Sought}
    (run : seekAmong config dir driver s turn channels = (t, sought)) :
    t.curFreq = s.curFreq ∧
      (sought = .stopped → t.chip = chipFreq (s.curFreq.setWidth 32)) := by
  induction channels generalizing s turn with
  | nil =>
      cases run
      exact ⟨rfl, fun stopped => by cases stopped⟩
  | cons i rest ih =>
      rw [seekAmong] at run
      split at run
      · rename_i after checked
        cases run
        have back := tuneCheck_curFreq checked
        exact ⟨back.1, fun _ => back.2 rfl⟩
      · rename_i after found checked
        have kept := (tuneCheck_curFreq checked).1
        split at run
        · split at run
          · rename_i last channel more
            cases run
            exact ⟨(seekMore_curFreq more).1.trans kept, fun stopped => by cases stopped⟩
          · rename_i last more
            cases run
            have back := seekMore_curFreq more
            rw [kept] at back
            exact ⟨back.1, fun _ => back.2 rfl⟩
        · rw [← kept]
          exact ih run

/-- A search leaves the frequency to go back to, and goes there when it is stopped. -/
theorem seek_curFreq {channel : BitVec 32} {sought : Sought}
    (run : s.seek config channel dir driver = (t, sought)) :
    t.curFreq = s.curFreq ∧
      (sought = .stopped → t.chip = chipFreq (s.curFreq.setWidth 32)) := by
  rw [seek] at run
  split at run
  · cases run
    exact ⟨rfl, fun stopped => by cases stopped⟩
  · have back := seekAmong_curFreq run
    exact back

/-- Whatever stops a search, the chip goes to where `cur_freq` has it. -/
theorem perform_stopped {operation : Operation}
    (performed : s.perform operation = some (t, true)) :
    t.curFreq = s.curFreq ∧ t.chip = chipFreq (s.curFreq.setWidth 32) := by
  cases operation with
  | pwrUp ret => cases performed
  | tune freq ret => cases performed
  | stopScan => cases performed
  | seek config channel dir driver =>
      rw [perform] at performed
      split at performed
      · cases performed
      · obtain ⟨same, stopped⟩ := Prod.mk.inj (Option.some.inj performed)
        have run : s.seek config channel dir driver =
            (t, (s.seek config channel dir driver).2) := Prod.ext same rfl
        have back := seek_curFreq run
        exact ⟨back.1, back.2 (of_decide_eq_true stopped)⟩

/-- Power-up stores a number of 100 kHz. -/
theorem not_settled_pwrUp : ¬ (s.pwrUp 0).Settled := by
  show ¬ 98000 = chipFreq 980
  decide

/-- A frequency of the chip is kept as it is below 65536 kHz. -/
theorem settled_tune_iff {freq : BitVec 32} (bounded : freq.toNat ≤ 108000) :
    (s.tune freq 0).Settled ↔ freq.toNat < 65536 := by
  show chipFreq freq = chipFreq ((freq.setWidth 16).setWidth 32) ↔ _
  rw [chipFreq, chipFreq, BitVec.toNat_setWidth, BitVec.toNat_setWidth]
  constructor
  · intro same
    by_contra above
    omega
  · intro below
    omega

/-- A stopped search settles the chip. -/
theorem settled_stopped {operation : Operation}
    (performed : s.perform operation = some (t, true)) : t.Settled := by
  obtain ⟨kept, back⟩ := perform_stopped performed
  rw [Settled, kept, back]

end Core

namespace StopRun

variable {s t : StopRun} {operation : Operation}

theorem step_cases (taken : s.step operation = some t) :
    ∃ stopped, s.core.perform operation = some (t.core, stopped) ∧
      t.restored = (s.restored && (!stopped || decide (t.core.chip = s.core.chip))) := by
  obtain ⟨performed, same, after⟩ := Option.map_eq_some_iff.mp taken
  subst after
  exact ⟨performed.2, same, rfl⟩

/-- The step lemma. -/
theorem meets_kept (before : s.restored = true) (meets : s.Meets operation)
    (taken : s.step operation = some t) : t.restored = true := by
  obtain ⟨stopped, performed, restored⟩ := step_cases taken
  rw [restored, before, Bool.true_and]
  cases stopped with
  | false => rfl
  | true =>
      have settled : s.core.Settled := by
        apply meets
        rw [performed]
        rfl
      exact decide_eq_true ((Core.perform_stopped performed).2.trans settled.symm)

theorem missed_broken (missed : ¬ s.Meets operation) (taken : s.step operation = some t) :
    ¬ t.restored = true := by
  obtain ⟨stopped, performed, restored⟩ := step_cases taken
  obtain ⟨halted, unsettled⟩ := Classical.not_imp.mp missed
  rw [performed] at halted
  obtain rfl : stopped = true := Option.some.inj halted
  intro kept
  rw [restored, Bool.and_eq_true] at kept
  exact unsettled ((of_decide_eq_true kept.2).symm.trans (Core.perform_stopped performed).2)

end StopRun

/-- Every stopped search of a run leaves the chip at its frequency exactly if each begins with the
chip settled: never after a power-up, after a tune only below 65536 kHz, and after a search that
was stopped. -/
theorem stop_restores_iff (core : Core) (operations : List Operation) :
    (AllStates StopRun.step (fun s => s.restored = true) ⟨core, true⟩ operations ↔
        StepsMeet StopRun.step StopRun.Meets ⟨core, true⟩ operations) ∧
      ¬ (core.pwrUp 0).Settled ∧
      (∀ freq : BitVec 32, freq.toNat ≤ 108000 →
        ((core.tune freq 0).Settled ↔ freq.toNat < 65536)) ∧
      (∀ operation t, core.perform operation = some (t, true) → t.Settled) := by
  refine ⟨?_, Core.not_settled_pwrUp, fun _ => Core.settled_tune_iff,
    fun _ _ => Core.settled_stopped⟩
  apply @allStates_iff_stepsMeet _ _ _ (fun s => s.restored = true)
  case kept => exact fun _ _ _ before meets taken => StopRun.meets_kept before meets taken
  case enough => exact fun _ kept => kept
  case broken => exact fun _ _ _ _ missed taken => StopRun.missed_broken missed taken
  case start => rfl

/-- The band of Europe, and a search there that is stopped at its first check. -/
def Operation.stoppedSeek : Operation :=
  .seek ⟨87500, 108000, 100⟩ 98000 .up fun _ _ => ⟨true, 0, ⟨false, 0⟩⟩

/-- Behind a power-up the chip is tuned to 0.9 MHz, behind a tune to 98 MHz to 32.4 MHz. -/
theorem stop_not_restores :
    ¬ (∀ core operations, AllStates StopRun.step (fun s => s.restored = true) ⟨core, true⟩
        operations) ∧
      (exec StopRun.step ⟨⟨0, false, 0⟩, true⟩ [.pwrUp 0, .stoppedSeek]).map
        (fun s => (s.core.chip, s.restored)) = some (900, false) ∧
      (exec StopRun.step ⟨⟨0, false, 0⟩, true⟩ [.tune 98000 0, .stoppedSeek]).map
        (fun s => (s.core.chip, s.restored)) = some (32400, false) := by
  have first : (exec StopRun.step ⟨⟨0, false, 0⟩, true⟩ [.pwrUp 0, .stoppedSeek]).map
      (fun s => (s.core.chip, s.restored)) = some (900, false) := by decide
  refine ⟨?_, first, by decide⟩
  intro all
  obtain ⟨s, run, wrong⟩ := Option.map_eq_some_iff.mp first
  have kept := (all ⟨0, false, 0⟩ [.pwrUp 0, .stoppedSeek]).last run
  rw [kept] at wrong
  exact absurd (Prod.mk.inj wrong).2 (by decide)

end Connectivity.Tuner
