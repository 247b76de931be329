import Connectivity.AtTest.Tests
import Connectivity.Transition.Run

set_option autoImplicit false

/- What commands and sentences can do to the tests, as a few moves. -/
namespace Connectivity.AtTest

open Blocks Transition

/-- What starts, stops and samples read and write. -/
structure Core where
  testFlag : Bool
  signalMode : Bool
  cwMode : Bool
  signalTestBegin : Bool
  state : State
  test : HalAtTest
  successNum : Nat
  devCNr : Option Nat
  heap : Heap Int
  gpsUsed : Bool
deriving DecidableEq, Repr

def Vars.core (s : Vars) : Core where
  testFlag := s.mnlAtTestFlag
  signalMode := s.mnlAtSignalMode
  cwMode := s.mnlAtCwMode
  signalTestBegin := s.mnlAtSignalTestBegin
  state := s.mnlAtTestState
  test := s.halTestData
  successNum := s.successNum
  devCNr := s.devCNr
  heap := s.heap
  gpsUsed := s.gpsUsed

inductive Move
  /-- `gpsinf_mtk_gps_test_start`. -/
  | start (test : HalAtTest) (mode : Mode) (err : Int)
  /-- `gpsinf_mtk_gps_test_stop`. -/
  | stop
  /-- A running normal test becomes a signal test. -/
  | switch
  /-- A signal test begins to measure. -/
  | beginTest
  /-- The samples are forgotten. -/
  | reset
  /-- The state of a test that goes on. -/
  | mark (state : State)
  /-- `Dev_CNr[Success_Num]` is written. -/
  | sample (value : Int)
deriving DecidableEq, Repr

namespace Core

def stopped (c : Core) : Core where
  testFlag := false
  signalMode := false
  cwMode := false
  signalTestBegin := false
  state := .unknown
  test := ⟨0, 0, 0⟩
  successNum := 0
  devCNr := c.devCNr
  heap := c.devCNr.elim c.heap c.heap.free
  gpsUsed := false

/-- The array of a test is allocated. -/
def allocated (c : Core) (test : HalAtTest) : Core :=
  { c with
    test := test
    devCNr := some c.heap.fresh
    heap := c.heap.malloc (List.replicate test.testNum.toNat 0) }

def started (c : Core) (test : HalAtTest) (mode : Mode) (err : Int) : Core :=
  if test.testNum = 0 ∧ mode = .normal then c.allocated test
  else if err ≠ 0 then
    { c.allocated test with
      testFlag := false
      signalMode := false
      cwMode := false
      state := .unknown
      gpsUsed := true }
  else
    { c.allocated test with
      testFlag := c.testFlag || mode = .normal
      signalMode := c.signalMode || mode = .signal
      cwMode := c.cwMode || mode = .cw
      state := .inprogress
      gpsUsed := true }

def moved (c : Core) : Move → Core
  | .start test mode err => c.started test mode err
  | .stop => c.stopped
  | .switch => { c with signalMode := true, testFlag := false }
  | .beginTest => { c with signalTestBegin := true, state := .inprogress }
  | .reset => { c with successNum := 0 }
  | .mark state => { c with state := state }
  | .sample value =>
    { c with
      heap := c.heap.store (c.devCNr.getD c.heap.fresh) c.successNum value
      successNum := c.successNum + 1 }

/-- What the code has seen when it makes a move. -/
def Enabled (c : Core) : Move → Prop
  | .start test mode _ => 0 ≤ test.testNum ∧ c.cwMode = false ∧
      (mode ≠ .normal → c.testFlag = false) ∧ (mode = .cw → c.signalMode = false)
  | .stop => c.state ≠ .unknown ∨ c.testFlag = true
  | .switch => c.testFlag = true ∧ c.cwMode = false
  | .beginTest => c.signalMode = true
  | .reset => True
  | .mark state => c.testFlag = false ∧ state = .done ∧
        (c.signalTestBegin = true ∨ c.cwMode = true ∧ c.state = .inprogress) ∨
      state = .resultDone ∧ c.signalMode = true ∧ c.signalTestBegin = true
  | .sample _ => c.testFlag = true

instance (c : Core) : (m : Move) → Decidable (c.Enabled m)
  | .start _ _ _ => inferInstanceAs (Decidable (_ ∧ _ ∧ (_ → _) ∧ (_ → _)))
  | .stop => inferInstanceAs (Decidable (_ ∨ _))
  | .switch => inferInstanceAs (Decidable (_ ∧ _))
  | .beginTest => inferInstanceAs (Decidable (_ = _))
  | .reset => inferInstanceAs (Decidable True)
  | .mark _ => inferInstanceAs (Decidable (_ ∧ _ ∧ (_ ∨ _ ∧ _) ∨ _ ∧ _ ∧ _))
  | .sample _ => inferInstanceAs (Decidable (_ = _))

def step (c : Core) (m : Move) : Option Core := if c.Enabled m then some (c.moved m) else none

theorem step_enabled {c : Core} {m : Move} (enabled : c.Enabled m) :
    c.step m = some (c.moved m) := if_pos enabled

theorem step_some {c d : Core} {m : Move} (taken : c.step m = some d) :
    c.Enabled m ∧ d = c.moved m := by
  rw [step] at taken
  split at taken
  · cases taken
    exact ⟨‹_›, rfl⟩
  · cases taken

theorem exec_one {c : Core} {m : Move} (enabled : c.Enabled m) :
    exec step c [m] = some (c.moved m) := by
  rw [exec, step_enabled enabled]
  rfl

end Core

section Starts

variable {s : Vars}

theorem start_core {testNum prnNum timeDelay now err : Int} {mode : Mode}
    (usb : s.testModeFlag = false) :
    (gpsinfMtkGpsTestStart s testNum prnNum timeDelay mode now err).1.core =
      s.core.started ⟨testNum, prnNum, timeDelay⟩ mode err := by
  have kept : ¬ (s.mnlAtTestState ≠ .unknown ∧ s.testModeFlag = true) := by
    rw [usb]
    simp
  simp only [gpsinfMtkGpsTestStart, if_neg kept, Core.started, atTest2mnlGpsStart]
  split
  · rfl
  · split
    · cases mode <;> rfl
    · cases mode <;> simp [Vars.core, Vars.setMode, Core.allocated]

end Starts

/-- The moves of `AT%GPS=n`, for any other command none. -/
def gpsMoves (s : Vars) (command : List UInt8) (err : Int) : List Move :=
  if s.mnlAtCwMode then []
  else match gpsRequest command with
  | .number testNum => if 0 ≤ testNum then [.start ⟨testNum, gpsTestPrn, 2⟩ .normal err] else []
  | _ => []

def gnssNumberMoves (s : Vars) (testNum err : Int) : List Move :=
  if s.mnlAtSignalMode then
    if testNum ≤ 0 then if s.mnlAtTestState ≠ .unknown then [.reset, .stop] else [.reset]
    else [.reset, .beginTest]
  else if 0 ≤ testNum then [.reset, .start ⟨testNum, gpsTestPrn, 2⟩ .normal err]
  else [.reset]

/-- The moves of `AT%GNSS=S`, `AT%GNSS=E` and `AT%GNSS=n`. -/
def gnssMoves (s : Vars) (command : List UInt8) (err : Int) : List Move :=
  if s.mnlAtCwMode then []
  else match gnssRequest command with
  | .signal => if s.mnlAtTestFlag = false then [.start ⟨0, 1, 2⟩ .signal err] else [.switch]
  | .stop => if s.mnlAtTestState = .unknown then [] else [.stop]
  | .number testNum => gnssNumberMoves s testNum err
  | _ => []

/-- The moves of `AT%CWGPS=E` and `AT%CWGPS=?`. -/
def cwMoves (s : Vars) (command : List UInt8) (err : Int) : List Move :=
  if s.mnlAtTestFlag ∨ s.mnlAtSignalMode then []
  else match cwRequest command with
  | .stop => if s.mnlAtTestState = .unknown then [] else [.stop]
  | .cw => if s.mnlAtCwMode then [] else [.start ⟨0, gpsTestPrn, 1⟩ .cw err]
  | _ => []

def commandMoves (s : Vars) (command : List UInt8) (err : Int) : List Move :=
  if command.take 6 = gpsOp then gpsMoves s command err
  else if command.take 7 = gnssOp then gnssMoves s command err
  else if command.take 8 = gpsCwTest then cwMoves s command err
  else []

section Commands

variable {s : Vars} {command : List UInt8} {now err : Int}

theorem gps_refines : exec Core.step s.core (gpsMoves s command err) =
    some (atGpsCommandParser s command now err).1.core := by
  simp only [gpsMoves, atGpsCommandParser]
  split
  · rfl
  · rename_i free
    cases gpsRequest command with
    | number testNum =>
        dsimp only
        split
        · rename_i positive
          rw [start_core rfl]
          exact Core.exec_one ⟨positive, Bool.eq_false_iff.mpr free, fun other => absurd rfl other,
            fun other => Mode.noConfusion other⟩
        · rfl
    | _ => rfl

theorem gnssNumber_refines (free : s.mnlAtCwMode = false) (usb : s.testModeFlag = false)
    (testNum : Int) : exec Core.step s.core (gnssNumberMoves s testNum err) =
      some (atGnssNumber s now err testNum).1.core := by
  have cleared : s.core.step .reset = some (clearResults s).core := Core.step_enabled trivial
  simp only [gnssNumberMoves, atGnssNumber]
  have signal : (clearResults s).mnlAtSignalMode = s.mnlAtSignalMode := rfl
  have state : (clearResults s).mnlAtTestState = s.mnlAtTestState := rfl
  rw [signal, state]
  split
  · rename_i measuring
    split
    · split
      · rename_i running
        rw [exec, cleared]
        exact Core.exec_one (Or.inl running)
      · rw [exec, cleared]
        rfl
    · rw [exec, cleared]
      exact Core.exec_one measuring
  · split
    · rename_i positive
      dsimp only
      rw [exec, cleared, start_core (s := clearResults s) usb]
      exact Core.exec_one ⟨positive, free, fun other => absurd rfl other,
        fun other => Mode.noConfusion other⟩
    · rw [exec, cleared]
      rfl

theorem gnss_refines : exec Core.step s.core (gnssMoves s command err) =
    some (atGnssCommandParser s command now err).1.core := by
  simp only [gnssMoves, atGnssCommandParser]
  split
  · rfl
  · rename_i busy
    have free : s.mnlAtCwMode = false := Bool.eq_false_iff.mpr busy
    cases gnssRequest command with
    | signal =>
        simp only [atGnssSignal]
        split
        · rename_i idle
          rw [start_core rfl]
          exact Core.exec_one
            ⟨Int.le_refl 0, free, fun _ => idle, fun other => Mode.noConfusion other⟩
        · rename_i testing
          exact Core.exec_one ⟨Bool.not_eq_false _ |>.mp testing, free⟩
    | stop =>
        simp only [atGnssStop]
        split
        · rfl
        · rename_i running
          exact Core.exec_one (Or.inl running)
    | number testNum => exact @gnssNumber_refines { s with testModeFlag := false } _ _ free rfl _
    | _ => rfl

theorem cw_refines : exec Core.step s.core (cwMoves s command err) =
    some (atCwTestCommandParser s command now err).1.core := by
  simp only [cwMoves, atCwTestCommandParser]
  split
  · rfl
  · rename_i busy
    rw [not_or, Bool.not_eq_true, Bool.not_eq_true] at busy
    cases cwRequest command with
    | stop =>
        simp only [atCwStop]
        split
        · rfl
        · rename_i running
          exact Core.exec_one (Or.inl running)
    | cw =>
        simp only [atCwStart]
        split
        · rfl
        · rename_i free
          have core := @start_core { s with testModeFlag := false } 0 gpsTestPrn 1 now err .cw rfl
          have result : ({ (gpsinfMtkGpsTestStart { s with testModeFlag := false } 0 gpsTestPrn 1
              .cw now err).1 with cnr := -1 } : Vars).core = s.core.started
            ⟨0, gpsTestPrn, 1⟩ .cw err := core
          rw [result]
          exact Core.exec_one ⟨Int.le_refl 0, Bool.eq_false_iff.mpr free, fun _ => busy.1,
            fun _ => busy.2⟩
    | _ => rfl

/-- A command makes its moves. -/
theorem command_refines : exec Core.step s.core (commandMoves s command err) =
    some (atCommandParser s command now err).1.core := by
  rw [commandMoves, atCommandParser]
  split
  · exact gps_refines
  · split
    · exact gnss_refines
    · split
      · exact cw_refines
      · rfl

end Commands

/-- At most one move, behind a reset or not, which is not a sample. -/
def Simple (moves : List Move) : Prop :=
  moves = [] ∨ moves = [.reset] ∨
    ∃ m, (moves = [m] ∨ moves = [.reset, m]) ∧ ∀ value, m ≠ .sample value

section Shapes

variable {s : Vars} {command : List UInt8} {err : Int}

theorem simple_one {m : Move} (other : ∀ value, m ≠ .sample value) : Simple [m] :=
  Or.inr (Or.inr ⟨m, Or.inl rfl, other⟩)

theorem simple_behind {m : Move} (other : ∀ value, m ≠ .sample value) : Simple [.reset, m] :=
  Or.inr (Or.inr ⟨m, Or.inr rfl, other⟩)

theorem gpsMoves_simple : Simple (gpsMoves s command err) := by
  rw [gpsMoves]
  split
  · exact Or.inl rfl
  · split
    · split
      · exact simple_one (by simp)
      · exact Or.inl rfl
    · exact Or.inl rfl

theorem gnssNumberMoves_simple (testNum : Int) : Simple (gnssNumberMoves s testNum err) := by
  rw [gnssNumberMoves]
  split
  · split
    · split
      · exact simple_behind (by simp)
      · exact Or.inr (Or.inl rfl)
    · exact simple_behind (by simp)
  · split
    · exact simple_behind (by simp)
    · exact Or.inr (Or.inl rfl)

theorem gnssMoves_simple : Simple (gnssMoves s command err) := by
  rw [gnssMoves]
  split
  · exact Or.inl rfl
  · split
    · split
      · exact simple_one (by simp)
      · exact simple_one (by simp)
    · split
      · exact Or.inl rfl
      · exact simple_one (by simp)
    · exact gnssNumberMoves_simple _
    · exact Or.inl rfl

theorem cwMoves_simple : Simple (cwMoves s command err) := by
  rw [cwMoves]
  split
  · exact Or.inl rfl
  · split
    · split
      · exact Or.inl rfl
      · exact simple_one (by simp)
    · split
      · exact Or.inl rfl
      · exact simple_one (by simp)
    · exact Or.inl rfl

theorem commandMoves_simple : Simple (commandMoves s command err) := by
  rw [commandMoves]
  split
  · exact gpsMoves_simple
  · split
    · exact gnssMoves_simple
    · split
      · exact cwMoves_simple
      · exact Or.inl rfl

/-- A condition that a reset keeps is met along the moves of a command. -/
theorem simple_meets {C : Core → Move → Prop} {c : Core} {moves : List Move}
    (simple : Simple moves)
    (kept : ∀ m, (∀ value, m ≠ .sample value) → C c m → C (c.moved .reset) m)
    (reset : C c .reset)
    (each : ∀ m ∈ moves, (∀ value, m ≠ .sample value) → C c m) :
    StepsMeet Core.step C c moves := by
  rcases simple with none | alone | ⟨m, one | behind, other⟩
  · rw [none]
    trivial
  · rw [alone]
    exact fun _ _ => ⟨reset, trivial⟩
  · have here : C c m := each m (by simp [one]) other
    rw [one]
    exact fun _ _ => ⟨here, trivial⟩
  · have here : C c m := each m (by simp [behind]) other
    rw [behind]
    intro d taken
    obtain ⟨_, same⟩ := Core.step_some taken
    rw [same]
    exact ⟨reset, fun _ _ => ⟨kept m other here, trivial⟩⟩

/-- A start among the moves of a command is the last thing it does. -/
theorem simple_start {c d : Core} {moves : List Move} {test : HalAtTest} {mode : Mode}
    {result : Int} (simple : Simple moves) (made : Move.start test mode result ∈ moves)
    (run : exec Core.step c moves = some d) :
    d = c.started test mode result ∨
      ∃ reset, c.step .reset = some reset ∧ d = reset.started test mode result := by
  rcases simple with none | alone | ⟨m, one | behind, _⟩
  · rw [none] at made
    cases made
  · rw [alone] at made
    simp at made
  · rw [one, List.mem_singleton] at made
    subst made
    rw [one] at run
    obtain ⟨next, taken, same⟩ := Option.bind_eq_some_iff.mp run
    obtain ⟨_, started⟩ := Core.step_some taken
    cases same
    exact Or.inl started
  · rw [behind] at made run
    simp only [List.mem_cons, List.not_mem_nil, or_false, reduceCtorEq, false_or] at made
    subst made
    obtain ⟨reset, cleared, run⟩ := Option.bind_eq_some_iff.mp run
    obtain ⟨next, taken, same⟩ := Option.bind_eq_some_iff.mp run
    obtain ⟨_, started⟩ := Core.step_some taken
    cases same
    exact Or.inr ⟨reset, cleared, started⟩

end Shapes

/-- The end of a test in `nmea_parser_at_cmd_pre`. -/
def preMoves (s : Vars) (now : Int) (ended : Bool) : List Move :=
  if s.mnlAtTestFlag ∨ s.mnlAtSignalTestBegin then
    if (s.halTestData.timeDelay ≤ now - s.startTime ∧ ended = true) ∧
        (countSentence s).2 = true then
      if s.mnlAtTestFlag then [.stop] else [.mark .done]
    else []
  else if s.mnlAtCwMode ∧ s.mnlAtTestState = .inprogress ∧
      s.halTestData.timeDelay ≤ now - s.startTime then [.mark .done]
  else []

/-- The signal of the satellite that is looked for. -/
def measured (s : Vars) (svs : List (Int × Int)) : Option Int :=
  ((svs.find? fun sv => sv.1 = s.halTestData.prnNum).map Prod.snd).filter (· ≠ 0)

def searchMoves (s : Vars) (svs : List (Int × Int)) : List Move :=
  match measured s svs with
  | none => []
  | some snr =>
    (if s.mnlAtSignalMode ∧ s.mnlAtSignalTestBegin then [.mark .resultDone] else []) ++
      if s.mnlAtTestFlag then [.sample (snr * 10)] else []

def bodyMoves (s : Vars) : Sentence → List Move
  | .gsv svs =>
    if (s.mnlAtTestFlag ∨ s.mnlAtSignalMode) ∧ s.mnlAtTestState ≠ .done ∧
        (s.mnlAtSignalMode → s.mnlAtSignalTestBegin) then searchMoves s svs
    else []
  | .pmtk817 _ =>
    if s.mnlAtCwMode ∧ gpsinfMtkGpsTestInprogress s ≠ .unknown then [.stop] else []
  | .other => []

def eventMoves (s : Vars) : Event → List Move
  | .command datagram _ err => commandMoves s (commandLine datagram) err
  | .sentence now ended body =>
    preMoves s now ended ++ bodyMoves (nmeaParserAtCmdPre s now ended) body

section Sentences

variable {s : Vars}

theorem preMoves_cases {now : Int} {ended : Bool} :
    preMoves s now ended = [] ∨ preMoves s now ended = [.stop] ∨
    s.mnlAtTestFlag = false ∧ preMoves s now ended = [.mark .done] := by
  rw [preMoves]
  split
  · split
    · cases s.mnlAtTestFlag with
      | false => exact Or.inr (Or.inr ⟨rfl, rfl⟩)
      | true => exact Or.inr (Or.inl rfl)
    · exact Or.inl rfl
  · rename_i idle
    split
    · exact Or.inr (Or.inr ⟨Bool.eq_false_iff.mpr fun testing => idle (Or.inl testing), rfl⟩)
    · exact Or.inl rfl

/-- No sentence starts a test. -/
theorem sentence_no_start {now : Int} {ended : Bool} {body : Sentence} {test : HalAtTest}
    {mode : Mode} {err : Int} :
    Move.start test mode err ∉ eventMoves s (.sentence now ended body) := by
  intro made
  rw [eventMoves, List.mem_append] at made
  rcases made with first | later
  · rcases @preMoves_cases s now ended with none | stop | ⟨_, done⟩
    · simp [none] at first
    · simp [stop] at first
    · simp [done] at first
  · revert later
    cases body with
    | gsv svs =>
        rw [bodyMoves, searchMoves]
        split
        · split
          · simp
          · split <;> split <;> simp
        · simp
    | pmtk817 snr =>
        rw [bodyMoves]
        split <;> simp
    | other => simp [bodyMoves]

theorem countFailure_core : (countFailure s).core = s.core := by
  rw [countFailure]
  split <;> rfl

/-- Counting leaves what moves read. -/
theorem count_core : (countSentence s).1.core = s.core := by
  have same : (completeSentence s).1.core = s.core := by
    rw [completeSentence]
    split
    · exact countFailure_core
    · dsimp only
      split <;> rfl
  exact same

theorem finish_core (tested : s.mnlAtTestFlag = true) : (finishTest s).core = s.core.stopped := by
  rw [finishTest]
  dsimp only
  rw [if_pos tested]
  rfl

theorem finish_core_signal (other : s.mnlAtTestFlag = false) :
    (finishTest s).core = s.core.moved (.mark .done) := by
  rw [finishTest]
  dsimp only
  rw [if_neg (by simp [other])]
  rfl

theorem pre_refines {now : Int} {ended : Bool} : exec Core.step s.core (preMoves s now ended) =
    some (nmeaParserAtCmdPre s now ended).core := by
  rw [preMoves, nmeaParserAtCmdPre]
  by_cases testing : s.mnlAtTestFlag = true ∨ s.mnlAtSignalTestBegin = true
  · rw [if_pos testing, if_pos testing]
    by_cases due : s.halTestData.timeDelay ≤ now - s.startTime ∧ ended = true
    · rw [if_pos due]
      by_cases complete : (countSentence s).2 = true
      · rw [if_pos ⟨due, complete⟩]
        dsimp only
        rw [if_pos complete]
        have flag : (countSentence s).1.mnlAtTestFlag = s.mnlAtTestFlag :=
          congrArg Core.testFlag (count_core (s := s))
        by_cases normal : s.mnlAtTestFlag = true
        · rw [if_pos normal, finish_core (flag.trans normal), count_core]
          exact Core.exec_one (Or.inr normal)
        · have signal := Bool.eq_false_iff.mpr normal
          rw [if_neg normal, finish_core_signal (flag.trans signal),
            count_core]
          apply Core.exec_one
          exact Or.inl ⟨signal, rfl, Or.inl (testing.resolve_left normal)⟩
      · rw [if_neg (fun both => complete both.2)]
        dsimp only
        rw [if_neg complete, count_core]
        rfl
    · rw [if_neg due, if_neg (fun both => due both.1)]
      rfl
  · rw [if_neg testing, if_neg testing]
    rw [not_or, Bool.not_eq_true] at testing
    split
    · rename_i cw
      apply Core.exec_one
      exact Or.inl ⟨testing.1, rfl, Or.inr ⟨cw.1, cw.2.1⟩⟩
    · rfl

theorem updateDeviation_core : (updateDeviation s).core = s.core := by
  rw [updateDeviation]
  split <;> rfl

theorem markSignal_core (begun : s.mnlAtSignalMode = true → s.mnlAtSignalTestBegin = true) :
    exec Core.step s.core
      (if s.mnlAtSignalMode ∧ s.mnlAtSignalTestBegin then [.mark .resultDone] else []) =
        some (markSignal s).core := by
  have goesOn : ¬ (s.mnlAtSignalMode = true ∧ ¬ s.mnlAtSignalTestBegin = true) :=
    fun waits => waits.2 (begun waits.1)
  simp only [markSignal, if_neg goesOn]
  split
  · rename_i measuring
    exact Core.exec_one (Or.inr ⟨rfl, measuring⟩)
  · rfl

theorem record_core (snr : Int) :
    exec Core.step s.core (if s.mnlAtTestFlag then [.sample (snr * 10)] else []) =
      some (if s.mnlAtTestFlag then recordSample s snr else s).core := by
  split
  · rename_i tested
    exact Core.exec_one tested
  · rfl

theorem markSignal_flag : (markSignal s).mnlAtTestFlag = s.mnlAtTestFlag := by
  rw [markSignal]
  split <;> split <;> rfl

theorem measureSatellite_core (begun : s.mnlAtSignalMode = true → s.mnlAtSignalTestBegin = true)
    (snr : Int) : exec Core.step s.core
      ((if s.mnlAtSignalMode ∧ s.mnlAtSignalTestBegin then [Move.mark .resultDone] else []) ++
        if s.mnlAtTestFlag then [Move.sample (snr * 10)] else []) =
          some (measureSatellite s snr).core := by
  rw [exec_append, markSignal_core begun, Option.bind_some, ← markSignal_flag]
  exact record_core snr

theorem search_refines (begun : s.mnlAtSignalMode = true → s.mnlAtSignalTestBegin = true)
    (svs : List (Int × Int)) : exec Core.step s.core (searchMoves s svs) =
      some (gpsAtCommandSearchSatellite s svs).core := by
  rw [searchMoves, measured, gpsAtCommandSearchSatellite]
  cases svs.find? fun sv => sv.1 = s.halTestData.prnNum with
  | none => rfl
  | some sv =>
      dsimp only
      rw [updateDeviation_core]
      by_cases silent : sv.2 = 0
      · rw [if_neg (not_not.mpr silent), Option.map_some, Option.filter_some,
          if_neg (by simp [silent])]
        rfl
      · rw [if_pos silent, Option.map_some, Option.filter_some, if_pos (by simp [silent])]
        exact measureSatellite_core begun sv.2

theorem testProc_refines (svs : List (Int × Int)) :
    exec Core.step s.core (if s.mnlAtTestState ≠ .done ∧
        (s.mnlAtSignalMode → s.mnlAtSignalTestBegin) then searchMoves s svs else []) =
      some (gpsAtCommandTestProc s svs).core := by
  rw [gpsAtCommandTestProc]
  by_cases done : s.mnlAtTestState = .done
  · rw [if_neg (fun both => both.1 done), if_neg (not_not.mpr done)]
    rfl
  · rw [if_pos done]
    by_cases begun : s.mnlAtSignalMode = true → s.mnlAtSignalTestBegin = true
    · rw [if_pos ⟨done, begun⟩, search_refines begun]
      split
      · rename_i signal
        rw [if_pos (begun signal)]
        rfl
      · rfl
    · rw [if_neg (fun both => begun both.2)]
      rw [Classical.not_imp] at begun
      rw [if_pos begun.1, if_neg begun.2]
      rfl

theorem parseSentence_refines (body : Sentence) :
    exec Core.step s.core (bodyMoves s body) = some (parseSentence s body).core := by
  cases body with
  | gsv svs =>
      rw [bodyMoves, parseSentence]
      by_cases testing : s.mnlAtTestFlag = true ∨ s.mnlAtSignalMode = true
      · simp only [testing, true_and, if_true]
        exact testProc_refines svs
      · rw [if_neg testing, if_neg (fun both => testing both.1)]
        rfl
  | pmtk817 snr =>
      rw [bodyMoves, parseSentence, atCwTestCommandTestResult]
      by_cases cw : s.mnlAtCwMode = true
      · simp only [cw, true_and, if_true]
        split
        · rename_i running
          apply Core.exec_one
          refine Or.inl fun unknown => running ?_
          have state : s.mnlAtTestState = .unknown := unknown
          rw [gpsinfMtkGpsTestInprogress, state]
        · rename_i unknown
          rw [if_pos (not_not.mp unknown)]
          rfl
      · rw [if_neg cw, if_neg (fun both => cw both.1)]
        rfl
  | other => rfl

end Sentences

/-- What an event does is what its moves do. -/
theorem event_refines (s : Vars) (e : Event) :
    exec Core.step s.core (eventMoves s e) = some (s.next e).core := by
  cases e with
  | command datagram now err => exact command_refines
  | sentence now ended body =>
      rw [eventMoves, exec_append, pre_refines, Option.bind_some, Vars.next]
      exact parseSentence_refines body

end Connectivity.AtTest
