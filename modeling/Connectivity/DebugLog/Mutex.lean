import Connectivity.DebugLog.PingPang
import Connectivity.Transition.Run

set_option autoImplicit false

/- What becomes of the mutex of the buffers when they are freed while a message is about to be
copied. -/
namespace Connectivity.DebugLog.PingPang

open Transition

variable {s t : PingPang}

/-- The mutex is free between the steps of the threads. -/
def Released (s : PingPang) : Prop := s.mutexLost = false

/-- A message that fits a buffer is copied while there are buffers. -/
def CopiesIntoBuffers (s : PingPang) : PingPangInput → Prop
  | .copy => ∀ message, s.caller = some message → message.length < pingpangBufferSize - 1 →
      s.nextWrite ≠ none
  | .call _ | .init _ | .write | .flush | .free => True

theorem copyTo_mutexLost (which : Which) (message : List UInt8) (cursor : Cursor) :
    (s.copyTo which message cursor).mutexLost = s.mutexLost := by
  rw [copyTo]
  split
  · rw [overflow]
    split
    · rfl
    · rfl
  · rfl

theorem flushFrom_mutexLost (which : Which) (offset : Nat) :
    (s.flushFrom which offset).mutexLost = s.mutexLost := by
  simp only [flushFrom]
  split
  · rfl
  · rfl

/-- The copy leaves the mutex locked exactly where it finds no buffers. -/
theorem copy_released (released : s.Released) (taken : s.copy = some t) :
    t.Released ↔ s.CopiesIntoBuffers .copy := by
  rw [copy] at taken
  cases caller : s.caller with
  | none =>
      rw [caller] at taken
      cases taken
  | some message =>
      rw [caller] at taken
      simp only at taken
      have condition : s.CopiesIntoBuffers .copy ↔
          (message.length < pingpangBufferSize - 1 → s.nextWrite ≠ none) := by
        simp only [CopiesIntoBuffers, caller, Option.some.injEq, forall_eq']
      rw [condition]
      split at taken
      · rename_i long
        cases taken
        exact iff_of_true released fun short => absurd short (Nat.not_lt.mpr long)
      · rename_i short
        split at taken
        · cases taken
        · cases place : s.nextWrite with
          | none =>
              rw [place] at taken
              cases taken
              apply iff_of_false
              · intro same
                cases same
              · exact fun there => there (Nat.not_le.mp short) rfl
          | some cursor =>
              rw [place] at taken
              simp only at taken
              apply iff_of_true
              · split at taken
                · cases taken
                  exact (copyTo_mutexLost ..).trans released
                · split at taken
                  · cases taken
                    exact (copyTo_mutexLost ..).trans released
                  · cases taken
                    exact released
              · intro _ same
                cases same

/-- The writer puts a buffer back as it took it. -/
theorem write_mutexLost (taken : s.write = some t) : t.mutexLost = s.mutexLost := by
  simp only [write] at taken
  cases consumer : s.consumer with
  | idle =>
      rw [consumer] at taken
      simp only at taken
      split at taken
      · cases taken
        rfl
      · split at taken
        · cases taken
          rfl
        · cases taken
          rfl
  | flushed =>
      rw [consumer] at taken
      cases taken
  | reading | logged | cleared | emptied =>
      rw [consumer] at taken
      cases taken
      rfl

theorem flush_mutexLost (taken : s.flush = some t) : t.mutexLost = s.mutexLost := by
  simp only [flush] at taken
  split at taken
  · cases taken
  · split at taken
    · cases taken
    · rename_i cursor _
      split at taken
      · cases taken
        exact flushFrom_mutexLost .buffer1 cursor.offset
      · split at taken
        · cases taken
          exact flushFrom_mutexLost .buffer2 cursor.offset
        · cases taken
          rfl

/-- Everything else gives back what it takes. -/
theorem step_mutexLost {input : PingPangInput} (other : input ≠ .copy)
    (taken : s.step input = some t) : t.mutexLost = s.mutexLost := by
  cases input with
  | copy => exact absurd rfl other
  | call message =>
      simp only [step, call] at taken
      split at taken
      · cases taken
        rfl
      · cases taken
  | init allocated =>
      simp only [step, init] at taken
      split at taken
      · cases taken
      · split at taken
        · cases taken
          rfl
        · cases taken
          rfl
  | write => exact write_mutexLost taken
  | flush => exact flush_mutexLost taken
  | free =>
      simp only [step, free] at taken
      split at taken
      · cases taken
      · cases taken
        rfl

theorem step_released {input : PingPangInput} (released : s.Released)
    (taken : s.step input = some t) : t.Released ↔ s.CopiesIntoBuffers input := by
  by_cases copies : input = .copy
  · rw [copies] at taken ⊢
    exact copy_released released taken
  · apply iff_of_true
    · exact (step_mutexLost copies taken).trans released
    · cases input with
      | copy => exact absurd rfl copies
      | call | init | write | flush | free => trivial

/-- In a run the mutex is free between all steps exactly if there are buffers whenever a message
that fits one is copied. -/
theorem runs_released (inputs : List PingPangInput) :
    AllStates step Released initial inputs ↔ StepsMeet step CopiesIntoBuffers initial inputs := by
  apply @allStates_iff_stepsMeet _ _ _ Released
  case kept => exact fun _ _ _ released meets taken => (step_released released taken).mpr meets
  case enough => exact fun _ released => released
  case broken =>
    exact fun _ _ _ released missed taken after => missed ((step_released released taken).mp after)
  case start => rfl

/-- A message that comes in front of the free and is copied behind it. -/
theorem not_runs_released : ¬ ∀ inputs, AllStates step Released initial inputs := by
  intro all
  have opened := (all [.init true, .call [1], .flush, .free, .copy]).2 _ rfl
  have freed := ((opened.2 _ rfl).2 _ rfl).2 _ rfl
  have lost := freed.2 _ rfl
  cases lost

end Connectivity.DebugLog.PingPang
