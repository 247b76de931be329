import Connectivity.AtTest.Moves

set_option autoImplicit false

/- Which of the test modes are set, beside the state of the test and of the engine. -/
namespace Connectivity.AtTest

open Blocks Transition

/-- At most one mode is set, and only while a test runs that has started the engine. -/
structure Core.Exclusive (c : Core) : Prop where
  testSignal : ¬ (c.testFlag = true ∧ c.signalMode = true)
  testCw : ¬ (c.testFlag = true ∧ c.cwMode = true)
  signalCw : ¬ (c.signalMode = true ∧ c.cwMode = true)
  running : c.testFlag = true ∨ c.signalMode = true ∨ c.cwMode = true →
    c.state ≠ .unknown ∧ c.gpsUsed = true

def Vars.Exclusive (s : Vars) : Prop := s.core.Exclusive

/-- A normal test is not started, with a number to count to and without a failure, in the
signal mode. -/
def Core.Apart (c : Core) : Move → Prop
  | .start test mode err => mode = .normal → test.testNum ≠ 0 → err = 0 → c.signalMode = false
  | _ => True

/-- The command `AT%GPS=n` starts no test in the signal mode. -/
def Apart (s : Vars) : Event → Prop
  | .command datagram _ err => ∀ m ∈ commandMoves s (commandLine datagram) err, s.core.Apart m
  | .sentence _ _ _ => True

namespace Core

variable {c d : Core}

theorem exclusive_off (testFlag : c.testFlag = false) (signalMode : c.signalMode = false)
    (cwMode : c.cwMode = false) : c.Exclusive := by
  refine ⟨?_, ?_, ?_, ?_⟩ <;> simp [testFlag, signalMode, cwMode]

theorem exclusive_allocated (exclusive : c.Exclusive) (test : HalAtTest) :
    (c.allocated test).Exclusive :=
  ⟨exclusive.testSignal, exclusive.testCw, exclusive.signalCw, exclusive.running⟩

theorem exclusive_started {test : HalAtTest} {mode : Mode} {err : Int} (exclusive : c.Exclusive)
    (enabled : c.Enabled (.start test mode err)) (apart : c.Apart (.start test mode err)) :
    (c.started test mode err).Exclusive := by
  obtain ⟨_, cwMode, testFlag, signalMode⟩ := enabled
  rw [started]
  split
  · exact exclusive_allocated exclusive test
  · rename_i counts
    split
    · exact exclusive_off rfl rfl rfl
    · rename_i succeeds
      have running : State.inprogress ≠ .unknown ∧ true = true :=
        ⟨fun other => State.noConfusion other, rfl⟩
      cases mode with
      | normal =>
          have signal := apart rfl (fun zero => counts ⟨zero, rfl⟩) (not_not.mp succeeds)
          exact ⟨by simp [signal], by simp [cwMode],
            by simp [cwMode], fun _ => running⟩
      | signal =>
          have test := testFlag (by decide)
          exact ⟨by simp [test], by simp [test],
            by simp [cwMode], fun _ => running⟩
      | cw =>
          have test := testFlag (by decide)
          have signal := signalMode rfl
          exact ⟨by simp [test], by simp [test],
            by simp [signal], fun _ => running⟩

/-- The step lemma. -/
theorem exclusive_step {m : Move} (exclusive : c.Exclusive) (apart : c.Apart m)
    (taken : c.step m = some d) : d.Exclusive := by
  obtain ⟨enabled, same⟩ := step_some taken
  subst same
  cases m with
  | start test mode err => exact exclusive_started exclusive enabled apart
  | stop => exact exclusive_off rfl rfl rfl
  | switch =>
      obtain ⟨testing, cwMode⟩ := enabled
      have engine := exclusive.running (Or.inl testing)
      refine ⟨fun both => Bool.noConfusion both.1, fun both => Bool.noConfusion both.1,
        fun both => ?_, fun _ => engine⟩
      rw [show c.cwMode = true from both.2] at cwMode
      cases cwMode
  | beginTest =>
      refine ⟨exclusive.testSignal, exclusive.testCw, exclusive.signalCw, fun set => ?_⟩
      exact ⟨fun other => State.noConfusion other, (exclusive.running set).2⟩
  | reset => exact ⟨exclusive.testSignal, exclusive.testCw, exclusive.signalCw, exclusive.running⟩
  | mark state =>
      refine ⟨exclusive.testSignal, exclusive.testCw, exclusive.signalCw, fun set => ?_⟩
      refine ⟨?_, (exclusive.running set).2⟩
      show state ≠ .unknown
      rcases enabled with ⟨_, done, _⟩ | ⟨resultDone, _⟩
      · rw [done]
        decide
      · rw [resultDone]
        decide
  | sample value =>
      exact ⟨exclusive.testSignal, exclusive.testCw, exclusive.signalCw, exclusive.running⟩

theorem exclusive_exec {moves : List Move} (exclusive : c.Exclusive)
    (apart : StepsMeet step Apart c moves) (run : exec step c moves = some d) : d.Exclusive :=
  (allStates_of_stepsMeet
    (fun _ _ _ exclusive apart taken => exclusive_step exclusive apart taken) exclusive
    apart).last run

end Core

section Runs

variable {s : Vars}

/-- A normal start in the signal mode sets both. -/
theorem started_clash {c : Core} {test : HalAtTest} {mode : Mode} {err : Int}
    (normal : mode = .normal) (counts : test.testNum ≠ 0) (succeeds : err = 0)
    (signal : c.signalMode = true) : (c.started test mode err).testFlag = true ∧
      (c.started test mode err).signalMode = true := by
  rw [Core.started, if_neg (fun zero => counts zero.1), if_neg (not_not.mpr succeeds)]
  simp [normal, signal]

theorem apart_kept {e : Event} {t : Vars} (exclusive : s.Exclusive) (apart : Apart s e)
    (taken : s.step e = some t) : t.Exclusive := by
  cases taken
  apply Core.exclusive_exec exclusive _ (event_refines s e)
  cases e with
  | command datagram now err =>
      apply simple_meets commandMoves_simple
      · intro m _ here
        cases m with
        | start test mode err => exact here
        | _ => trivial
      · trivial
      · intro m made _
        exact apart m made
  | sentence now ended body =>
      apply stepsMeet_of_forall
      intro m made c
      cases m with
      | start test mode err => exact absurd made sentence_no_start
      | _ => trivial

theorem not_apart_broken {e : Event} {t : Vars} (clash : ¬ Apart s e)
    (taken : s.step e = some t) : ¬ t.Exclusive := by
  cases taken
  cases e with
  | command datagram now err =>
      have run := event_refines s (.command datagram now err)
      have missed : ∃ m ∈ commandMoves s (commandLine datagram) err, ¬ s.core.Apart m := by
        by_contra none
        apply clash
        intro m made
        by_contra bad
        exact none ⟨m, made, bad⟩
      obtain ⟨m, made, bad⟩ := missed
      cases m with
      | start test mode result =>
          have set : mode = .normal ∧ test.testNum ≠ 0 ∧ result = 0 ∧
              s.core.signalMode = true := by
            by_contra other
            apply bad
            intro normal counts succeeds
            by_contra signal
            exact other ⟨normal, counts, succeeds, Bool.not_eq_false _ |>.mp signal⟩
          obtain ⟨normal, counts, succeeds, signal⟩ := set
          rcases simple_start commandMoves_simple made run with one | ⟨reset, cleared, behind⟩
          · intro exclusive
            apply exclusive.testSignal
            rw [one]
            exact started_clash normal counts succeeds signal
          · obtain ⟨_, state⟩ := Core.step_some cleared
            intro exclusive
            apply exclusive.testSignal
            rw [behind, state]
            exact started_clash normal counts succeeds signal
      | _ => exact absurd trivial bad
  | sentence now ended body => exact absurd trivial clash

/-- Along a run the test modes are exclusive exactly if no `AT%GPS=n` starts a test in the
signal mode. -/
theorem modes_exclusive_iff (events : List Event) :
    AllStates Vars.step Vars.Exclusive .init events ↔ StepsMeet Vars.step Apart .init events := by
  apply @allStates_iff_stepsMeet _ _ _ Vars.Exclusive
  case kept => exact fun _ _ _ exclusive apart taken => apart_kept exclusive apart taken
  case enough => exact fun _ exclusive => exclusive
  case broken => exact fun _ _ _ _ clash taken => not_apart_broken clash taken
  case start => exact Core.exclusive_off rfl rfl rfl

end Runs

/-- `AT%GNSS=S`, and then `AT%GPS=5`. -/
theorem not_modes_exclusive :
    let events := [Event.command [65, 84, 37, 71, 78, 83, 83, 61, 83] 0 0,
      .command [65, 84, 37, 71, 80, 83, 61, 53] 1 0]
    ¬ AllStates Vars.step Vars.Exclusive .init events := by
  intro events all
  have flags : (exec Vars.step .init events).map (fun s =>
      (s.mnlAtTestFlag, s.mnlAtSignalMode)) = some (true, true) := by decide
  rw [Option.map_eq_some_iff] at flags
  obtain ⟨s, run, flags⟩ := flags
  have exclusive : s.Exclusive := all.last run
  exact exclusive.testSignal ⟨congrArg Prod.fst flags, congrArg Prod.snd flags⟩

end Connectivity.AtTest
