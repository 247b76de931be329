import Connectivity.AtTest.Moves

set_option autoImplicit false

/- Where the samples of a test are written, and how often each array is freed. -/
namespace Connectivity.AtTest

open Blocks Transition

/-- The array of the test that runs. -/
def Core.running (c : Core) : Option Nat := if c.state = .unknown then none else c.devCNr

/-- No sample has been written outside of its array, and every array has been freed once,
but for the one of a running test. -/
structure Core.Sound (c : Core) : Prop where
  inside : c.heap.fault = false
  freed : c.heap.Settled c.running

def Vars.Sound (s : Vars) : Prop := s.core.Sound

/-- The stop test finds the test complete before the sentence is parsed: the grace time is
over, the sentence is the last of its buffer, and no sentence is counted as a failure. -/
def InTime (s : Vars) (now : Int) (ended : Bool) : Prop :=
  s.halTestData.timeDelay ≤ now - s.startTime ∧ ended = true ∧ s.failureNum = 0 ∧
    s.prevSuccessNum ≠ s.successNum

/-- A test is started while none runs, with a number to count to, and the start succeeds. -/
def Core.Fresh (c : Core) (test : HalAtTest) (mode : Mode) (err : Int) : Prop :=
  c.state = .unknown ∧ ¬ (test.testNum = 0 ∧ mode = .normal) ∧ err = 0

/-- The starts are fresh, and a sample that comes when all are there comes in time. -/
def Careful (s : Vars) : Event → Prop
  | .command datagram _ err => ∀ test mode result,
      Move.start test mode result ∈ commandMoves s (commandLine datagram) err →
        s.core.Fresh test mode result
  | .sentence now ended (.gsv svs) => s.mnlAtTestFlag = true →
      (s.successNum : Int) = s.halTestData.testNum → (measured s svs).isSome →
        InTime s now ended
  | .sentence _ _ _ => True

namespace Core

/-- What one move needs. -/
def Careful (c : Core) : Move → Prop
  | .start test mode err => c.Fresh test mode err
  | .sample _ => (c.successNum : Int) < c.test.testNum
  | _ => True

structure Inv (c : Core) : Prop where
  sound : c.Sound
  idle : c.state = .unknown → c.testFlag = false ∧ c.signalMode = false ∧ c.cwMode = false ∧
    c.signalTestBegin = false ∧ c.successNum = 0
  array : c.state ≠ .unknown → ∃ p, c.devCNr = some p ∧ c.heap.Holds p c.test.testNum.toNat
  normal : c.testFlag = true → c.signalMode = false ∧ c.cwMode = false ∧
    c.state = .inprogress ∧ 0 < c.test.testNum ∧ (c.successNum : Int) ≤ c.test.testNum
  begun : c.signalTestBegin = true → c.signalMode = true

variable {c d : Core}

theorem running_of_state (state : c.state ≠ .unknown) : c.running = c.devCNr := if_neg state

theorem inv_stopped (inv : c.Inv) (state : c.state ≠ .unknown) : c.stopped.Inv := by
  obtain ⟨p, pointer, _⟩ := inv.array state
  have freed := inv.sound.freed
  rw [running_of_state state, pointer] at freed
  refine ⟨⟨?_, ?_⟩, fun _ => ⟨rfl, rfl, rfl, rfl, rfl⟩, fun other => absurd rfl other,
    fun other => Bool.noConfusion other, fun other => Bool.noConfusion other⟩
  · show (c.devCNr.elim c.heap c.heap.free).fault = false
    rw [pointer]
    exact inv.sound.inside
  · show (c.devCNr.elim c.heap c.heap.free).Settled none
    rw [pointer]
    exact freed.free

theorem inv_started {test : HalAtTest} {mode : Mode} (inv : c.Inv) (state : c.state = .unknown)
    (counts : ¬ (test.testNum = 0 ∧ mode = .normal)) (positive : 0 ≤ test.testNum) :
    (c.started test mode 0).Inv := by
  obtain ⟨testFlag, signalMode, cwMode, begun, none⟩ := inv.idle state
  have freed := inv.sound.freed
  rw [running, if_pos state] at freed
  have holds := Heap.malloc_holds (h := c.heap) (List.replicate test.testNum.toNat 0)
  rw [List.length_replicate] at holds
  rw [started, if_neg counts, if_neg (not_not.mpr rfl)]
  refine ⟨⟨inv.sound.inside, ?_⟩, fun other => State.noConfusion other,
    fun _ => ⟨c.heap.fresh, rfl, holds⟩,
    ?_, ?_⟩
  · show (c.heap.malloc _).Settled (some c.heap.fresh)
    exact freed.malloc _
  · intro normal
    have isNormal : mode = .normal := by simpa [testFlag] using normal
    subst isNormal
    have number : test.testNum ≠ 0 := fun zero => counts ⟨zero, rfl⟩
    refine ⟨by simp [signalMode], by simp [cwMode], rfl, ?_, ?_⟩
    · show 0 < test.testNum
      omega
    · show (c.successNum : Int) ≤ test.testNum
      omega
  · intro other
    rw [show c.signalTestBegin = true from other] at begun
    cases begun

theorem inv_sampled {value : Int} (inv : c.Inv) (normal : c.testFlag = true)
    (room : (c.successNum : Int) < c.test.testNum) : (c.moved (.sample value)).Inv := by
  obtain ⟨signalMode, cwMode, state, positive, _⟩ := inv.normal normal
  have running : c.state ≠ .unknown := by
    rw [state]
    decide
  obtain ⟨p, pointer, holds⟩ := inv.array running
  have writable : c.heap.writable p c.successNum = true := by
    rw [holds.writable, decide_eq_true_eq]
    omega
  refine ⟨⟨?_, ?_⟩, fun other => absurd other running, fun _ => ⟨p, pointer, ?_⟩, fun _ => ?_,
    inv.begun⟩
  · show (c.heap.store (c.devCNr.getD c.heap.fresh) c.successNum value).fault = false
    rw [pointer, Option.getD_some, Heap.store_inside writable]
    exact inv.sound.inside
  · exact inv.sound.freed.store value
  · exact holds.store value
  · refine ⟨signalMode, cwMode, state, positive, ?_⟩
    show ((c.successNum + 1 : Nat) : Int) ≤ c.test.testNum
    omega

/-- The state is marked at the end of a measurement that is not the normal one, and never back to
the one that no test is in. -/
theorem inv_marked {state : State} (inv : c.Inv) (enabled : c.Enabled (.mark state)) :
    (c.moved (.mark state)).Inv := by
  have busy : c.testFlag = false ∧ state ≠ .unknown ∧ c.state ≠ .unknown := by
    rcases enabled with ⟨other, done, reason⟩ | ⟨resultDone, signal, begun⟩
    · refine ⟨other, ?_, fun unknown => ?_⟩
      · rw [done]
        decide
      · obtain ⟨_, _, cwMode, begun, _⟩ := inv.idle unknown
        rcases reason with measuring | ⟨cw, _⟩
        · rw [begun] at measuring
          cases measuring
        · rw [cwMode] at cw
          cases cw
    · refine ⟨?_, ?_, fun unknown => ?_⟩
      · cases normal : c.testFlag with
        | false => rfl
        | true =>
            rw [(inv.normal normal).1] at signal
            cases signal
      · rw [resultDone]
        decide
      · rw [(inv.idle unknown).2.1] at signal
        cases signal
  obtain ⟨other, next, running⟩ := busy
  have freed := inv.sound.freed
  rw [running_of_state running] at freed
  refine ⟨⟨inv.sound.inside, ?_⟩, fun unknown => absurd unknown next,
    fun _ => inv.array running, fun normal => ?_, inv.begun⟩
  · show c.heap.Settled (if state = .unknown then none else c.devCNr)
    rw [if_neg next]
    exact freed
  · rw [show c.testFlag = true from normal] at other
    cases other

/-- The step lemma. -/
theorem inv_step {m : Move} (inv : c.Inv) (careful : c.Careful m) (taken : c.step m = some d) :
    d.Inv := by
  obtain ⟨enabled, same⟩ := step_some taken
  subst same
  cases m with
  | start test mode err =>
      obtain ⟨state, counts, noError⟩ := careful
      subst noError
      exact inv_started inv state counts enabled.1
  | stop =>
      apply inv_stopped inv
      intro unknown
      rcases enabled with running | testing
      · exact running unknown
      · rw [(inv.idle unknown).1] at testing
        cases testing
  | switch =>
      have running : c.state ≠ .unknown := by
        intro unknown
        have flag := (inv.idle unknown).1
        rw [enabled.1] at flag
        cases flag
      exact ⟨⟨inv.sound.inside, inv.sound.freed⟩, fun other => absurd other running, inv.array,
        fun other => Bool.noConfusion other, fun _ => rfl⟩
  | beginTest =>
      have running : c.state ≠ .unknown := by
        intro unknown
        have flag := (inv.idle unknown).2.1
        rw [show c.signalMode = true from enabled] at flag
        cases flag
      have freed := inv.sound.freed
      rw [running_of_state running] at freed
      refine ⟨⟨inv.sound.inside, freed⟩, fun other => State.noConfusion other,
        fun _ => inv.array running, fun normal => ?_, fun _ => enabled⟩
      have signal := (inv.normal normal).1
      rw [show c.signalMode = true from enabled] at signal
      cases signal
  | reset =>
      refine ⟨⟨inv.sound.inside, inv.sound.freed⟩, fun unknown => ?_, inv.array,
        fun normal => ?_, inv.begun⟩
      · obtain ⟨testFlag, signalMode, cwMode, begun, _⟩ := inv.idle unknown
        exact ⟨testFlag, signalMode, cwMode, begun, rfl⟩
      · obtain ⟨signalMode, cwMode, state, positive, _⟩ := inv.normal normal
        refine ⟨signalMode, cwMode, state, positive, ?_⟩
        show ((0 : Nat) : Int) ≤ c.test.testNum
        omega
  | mark state => exact inv_marked inv enabled
  | sample value => exact inv_sampled inv enabled careful

theorem inv_init : Vars.init.core.Inv :=
  ⟨⟨rfl, Heap.settled_empty⟩, fun _ => ⟨rfl, rfl, rfl, rfl, rfl⟩, fun other => absurd rfl other,
    fun other => Bool.noConfusion other, fun other => Bool.noConfusion other⟩

/-- A start while a test runs, one that has nothing to count to, and one that fails, leave an
array behind. -/
theorem not_sound_started {test : HalAtTest} {mode : Mode} {err : Int} (inv : c.Inv)
    (careless : ¬ c.Fresh test mode err) :
    ¬ (c.started test mode err).Sound := by
  intro sound
  have freed := sound.freed
  have heap : (c.started test mode err).heap =
      c.heap.malloc (List.replicate test.testNum.toNat 0) := by
    rw [started]
    split
    · rfl
    · split <;> rfl
  rw [heap] at freed
  by_cases state : c.state = .unknown
  · have none : (c.started test mode err).running = none := by
      rw [started]
      split
      · exact if_pos state
      · rename_i counts
        have fails : err ≠ 0 := fun same => careless ⟨state, counts, same⟩
        rw [if_pos fails]
        rfl
    rw [none] at freed
    exact Heap.not_settled_malloc_none _ freed
  · obtain ⟨p, _, holds⟩ := inv.array state
    exact holds.not_settled_malloc _ _ freed

/-- The run lemma, for the moves of an event. -/
theorem inv_exec {moves : List Move} (inv : c.Inv)
    (careful : StepsMeet step Careful c moves) (run : exec step c moves = some d) : d.Inv :=
  (allStates_of_stepsMeet (fun _ _ _ inv careful taken => inv_step inv careful taken) inv
    careful).last run

theorem careful_one {m : Move} (careful : c.Careful m) : StepsMeet step Careful c [m] :=
  fun _ _ => ⟨careful, trivial⟩

theorem careful_command {moves : List Move} (simple : Simple moves)
    (starts : ∀ test mode err, Move.start test mode err ∈ moves → c.Fresh test mode err) :
    StepsMeet step Careful c moves := by
  apply simple_meets simple
  · intro m other here
    cases m with
    | sample value => exact absurd rfl (other value)
    | _ => exact here
  · trivial
  · intro m made other
    cases m with
    | start test mode err => exact starts test mode err made
    | sample value => exact absurd rfl (other value)
    | _ => trivial

end Core

section Sentences

variable {s : Vars} {now : Int} {ended : Bool}

theorem inv_pre (inv : s.core.Inv) : (nmeaParserAtCmdPre s now ended).core.Inv := by
  apply Core.inv_exec inv _ pre_refines
  rcases @preMoves_cases s now ended with none | stop | ⟨_, done⟩
  · rw [none]
    trivial
  · rw [stop]
    exact Core.careful_one trivial
  · rw [done]
    exact Core.careful_one trivial

theorem pre_core_of_nil (none : preMoves s now ended = []) :
    (nmeaParserAtCmdPre s now ended).core = s.core := by
  have run := @pre_refines s now ended
  rw [none] at run
  exact (Option.some.inj run).symm

/-- A test that goes on behind the stop test has made no move. -/
theorem preMoves_nil (testing : (nmeaParserAtCmdPre s now ended).mnlAtTestFlag = true) :
    preMoves s now ended = [] := by
  have run := @pre_refines s now ended
  rcases @preMoves_cases s now ended with none | stop | ⟨other, done⟩
  · exact none
  · rw [stop] at run
    obtain ⟨d, taken, same⟩ := Option.bind_eq_some_iff.mp run
    obtain ⟨_, stopped⟩ := Core.step_some taken
    cases same
    have flag : (nmeaParserAtCmdPre s now ended).core.testFlag = false := by
      rw [stopped]
      rfl
    rw [show (nmeaParserAtCmdPre s now ended).core.testFlag = true from testing] at flag
    cases flag
  · rw [done] at run
    obtain ⟨d, taken, same⟩ := Option.bind_eq_some_iff.mp run
    obtain ⟨_, marked⟩ := Core.step_some taken
    cases same
    have flag : (nmeaParserAtCmdPre s now ended).core.testFlag = false := by
      rw [marked]
      exact other
    rw [show (nmeaParserAtCmdPre s now ended).core.testFlag = true from testing] at flag
    cases flag

theorem measured_core {t : Vars} (same : s.core = t.core) (svs : List (Int × Int)) :
    measured s svs = measured t svs := by
  have test : s.halTestData = t.halTestData := congrArg Core.test same
  rw [measured, measured, test]

/-- When all samples are there, the stop test ends the test exactly in time. -/
theorem preMoves_full (normal : s.mnlAtTestFlag = true) (some : 0 < s.successNum)
    (full : (s.successNum : Int) = s.halTestData.testNum) :
    preMoves s now ended = [] ↔ ¬ InTime s now ended := by
  have complete : (countSentence s).2 = true ↔
      s.failureNum = 0 ∧ s.prevSuccessNum ≠ s.successNum := by
    show (completeSentence s).2 = true ↔ _
    rw [completeSentence, if_pos some]
    dsimp only
    rw [decide_eq_true_eq]
    by_cases still : s.prevSuccessNum = s.successNum
    · rw [countFailure, if_pos still]
      dsimp only
      constructor
      · intro same
        omega
      · intro both
        exact absurd still both.2
    · rw [countFailure, if_neg still, ← full]
      constructor
      · intro same
        exact ⟨by omega, still⟩
      · intro both
        omega
  rw [preMoves, if_pos (Or.inl normal), if_pos normal, InTime]
  constructor
  · intro none inTime
    rw [if_pos ⟨⟨inTime.1, inTime.2.1⟩, complete.mpr inTime.2.2⟩] at none
    cases none
  · intro late
    rw [if_neg fun both => late ⟨both.1.1, both.1.2, complete.mp both.2⟩]

end Sentences

section Runs

variable {s : Vars}

/-- A normal test that measures makes one sample, any other test none. -/
theorem bodyMoves_gsv (inv : s.core.Inv) (svs : List (Int × Int)) :
    (s.mnlAtTestFlag = true ∧ ∃ snr, measured s svs = some snr ∧
      bodyMoves s (.gsv svs) = [.sample (snr * 10)]) ∨
    bodyMoves s (.gsv svs) = [] ∨ bodyMoves s (.gsv svs) = [.mark .resultDone] := by
  rw [bodyMoves]
  split
  · rw [searchMoves]
    cases found : measured s svs with
    | none => exact Or.inr (Or.inl rfl)
    | some snr =>
        dsimp only
        by_cases normal : s.mnlAtTestFlag = true
        · have signal : s.mnlAtSignalMode = false := (inv.normal normal).1
          refine Or.inl ⟨normal, snr, rfl, ?_⟩
          rw [if_pos normal]
          simp [signal]
        · rw [if_neg normal]
          split
          · exact Or.inr (Or.inr rfl)
          · exact Or.inr (Or.inl rfl)
  · exact Or.inr (Or.inl rfl)

/-- The samples of a normal test are taken. -/
theorem bodyMoves_sample (inv : s.core.Inv) (normal : s.mnlAtTestFlag = true)
    {svs : List (Int × Int)} {snr : Int} (found : measured s svs = some snr) :
    bodyMoves s (.gsv svs) = [.sample (snr * 10)] := by
  obtain ⟨signal, _, state, _, _⟩ := inv.normal normal
  have going : s.mnlAtTestState = .inprogress := state
  have other : s.mnlAtSignalMode = false := signal
  rw [bodyMoves, searchMoves, found]
  simp [normal, going, other]

theorem careful_kept {e : Event} {t : Vars} (inv : s.core.Inv) (careful : Careful s e)
    (taken : s.step e = some t) : t.core.Inv := by
  cases taken
  cases e with
  | command datagram now err =>
      have run := event_refines s (.command datagram now err)
      apply Core.inv_exec inv _ run
      apply Core.careful_command commandMoves_simple
      intro test mode result made
      exact careful test mode result made
  | sentence now ended body =>
      have before : (nmeaParserAtCmdPre s now ended).core.Inv := inv_pre inv
      apply Core.inv_exec before _ (parseSentence_refines body)
      cases body with
      | gsv svs =>
          rcases bodyMoves_gsv before svs with ⟨normal, snr, found, sample⟩ | none | mark
          · rw [sample]
            apply Core.careful_one
            have nothing := preMoves_nil normal
            have same := pre_core_of_nil nothing
            obtain ⟨_, _, _, positive, most⟩ := before.normal normal
            have notFull : (s.core.successNum : Int) ≠ s.core.test.testNum := by
              intro full
              have flag : s.mnlAtTestFlag = true :=
                (congrArg Core.testFlag same).symm.trans normal
              rw [measured_core same] at found
              have inTime := careful flag full (by simp [found])
              have some : 0 < s.successNum := by
                rw [same] at positive
                have count : (s.successNum : Int) = s.core.test.testNum := full
                omega
              exact (preMoves_full flag some full).mp nothing inTime
            show ((nmeaParserAtCmdPre s now ended).core.successNum : Int) < _
            rw [same] at most ⊢
            omega
          · rw [none]
            trivial
          · rw [mark]
            exact Core.careful_one trivial
      | pmtk817 snr =>
          rw [bodyMoves]
          split
          · exact Core.careful_one trivial
          · trivial
      | other => trivial

theorem careless_start {c d : Core} {moves : List Move} {test : HalAtTest} {mode : Mode}
    {err : Int} (inv : c.Inv) (simple : Simple moves)
    (made : Move.start test mode err ∈ moves) (careless : ¬ c.Fresh test mode err)
    (run : exec Core.step c moves = some d) : ¬ d.Sound := by
  rcases simple_start simple made run with one | ⟨reset, cleared, behind⟩
  · rw [one]
    exact Core.not_sound_started inv careless
  · have still : reset.Inv := Core.inv_step (m := .reset) inv trivial cleared
    obtain ⟨_, state⟩ := Core.step_some cleared
    rw [behind]
    apply Core.not_sound_started still
    rw [state]
    exact careless

theorem careless_sample {svs : List (Int × Int)} {now : Int} {ended : Bool} (inv : s.core.Inv)
    (normal : s.mnlAtTestFlag = true) (full : (s.successNum : Int) = s.halTestData.testNum)
    (found : (measured s svs).isSome) (late : ¬ InTime s now ended) :
    ¬ (s.next (.sentence now ended (.gsv svs))).Sound := by
  obtain ⟨signal, cw, state, positive, _⟩ := inv.normal normal
  have some : 0 < s.successNum := by
    have number : 0 < s.halTestData.testNum := positive
    omega
  have same := pre_core_of_nil ((preMoves_full normal some full).mpr late)
  have before : (nmeaParserAtCmdPre s now ended).core.Inv := inv_pre inv
  have flag : (nmeaParserAtCmdPre s now ended).mnlAtTestFlag = true :=
    (congrArg Core.testFlag same).trans normal
  obtain ⟨snr, found⟩ := Option.isSome_iff_exists.mp found
  rw [← measured_core same] at found
  have run := parseSentence_refines (s := nmeaParserAtCmdPre s now ended) (.gsv svs)
  rw [bodyMoves_sample before flag found, same] at run
  obtain ⟨next, taken, last⟩ := Option.bind_eq_some_iff.mp run
  obtain ⟨_, sampled⟩ := Core.step_some taken
  have running : s.core.state ≠ .unknown := by
    rw [state]
    decide
  obtain ⟨p, pointer, holds⟩ := inv.array running
  have outside : s.core.heap.writable p s.core.successNum = false := by
    rw [holds.writable, decide_eq_false_iff_not]
    have count : (s.core.successNum : Int) = s.core.test.testNum := full
    omega
  intro sound
  have inside : (parseSentence (nmeaParserAtCmdPre s now ended) (.gsv svs)).core.heap.fault =
      false := sound.inside
  cases last
  rw [sampled] at inside
  have fault : (s.core.heap.store (s.core.devCNr.getD s.core.heap.fresh) s.core.successNum
      (snr * 10)).fault = true := by
    rw [pointer, Option.getD_some]
    exact Heap.store_outside outside _
  have both := fault.symm.trans inside
  cases both

theorem careless_broken {e : Event} {t : Vars} (inv : s.core.Inv) (careless : ¬ Careful s e)
    (taken : s.step e = some t) : ¬ t.Sound := by
  cases taken
  cases e with
  | command datagram now err =>
      have missed : ∃ test mode result,
          Move.start test mode result ∈ commandMoves s (commandLine datagram) err ∧
            ¬ s.core.Fresh test mode result := by
        by_contra none
        apply careless
        intro test mode result made
        by_contra bad
        exact none ⟨test, mode, result, made, bad⟩
      obtain ⟨test, mode, result, made, bad⟩ := missed
      exact careless_start inv commandMoves_simple made bad
        (event_refines s (.command datagram now err))
  | sentence now ended body =>
      cases body with
      | gsv svs =>
          by_contra sound
          apply careless
          intro normal full found
          by_contra late
          exact careless_sample inv normal full found late sound
      | pmtk817 snr => exact absurd trivial careless
      | other => exact absurd trivial careless

/-- Along a run the samples stay inside their arrays and the arrays are freed exactly if the
events are careful. -/
theorem samples_inside_iff (events : List Event) :
    AllStates Vars.step Vars.Sound .init events ↔ StepsMeet Vars.step Careful .init events := by
  apply @allStates_iff_stepsMeet _ _ _ fun s => s.core.Inv
  case kept => exact fun _ _ _ inv careful taken => careful_kept inv careful taken
  case enough => exact fun _ inv => inv.sound
  case broken => exact fun _ _ _ inv careless taken => careless_broken inv careless taken
  case start => exact Core.inv_init

end Runs

/-- `AT%GPS=1`, and the satellite is measured twice within the grace time. -/
theorem not_samples_inside :
    let events := [Event.command [65, 84, 37, 71, 80, 83, 61, 49] 0 0,
      .sentence 0 true (.gsv [(1, 40)]), .sentence 1 true (.gsv [(1, 40)])]
    ¬ AllStates Vars.step Vars.Sound .init events := by
  intro events all
  have fault : (exec Vars.step .init events).map (fun s => s.heap.fault) = some true := by
    decide
  rw [Option.map_eq_some_iff] at fault
  obtain ⟨s, run, fault⟩ := fault
  have sound : s.Sound := all.last run
  have inside : s.heap.fault = false := sound.inside
  rw [fault] at inside
  cases inside

end Connectivity.AtTest
