import Connectivity.AtTest.Datagram
import Mathlib.Data.Int.Basic

set_option autoImplicit false

/- When the command of a datagram is handled inside of the buffers, with the number it has. -/
namespace Connectivity.AtTest

open Bytes

section Memory

variable {buffer : Vector UInt8 20} {datagram command memory : List UInt8}

theorem textLength_le (memory : List UInt8) : textLength memory ≤ memory.length + 1 :=
  Nat.succ_le_succ (List.takeWhile_sublist _).length_le

/-- A text ends inside of its memory if there is a NUL. -/
theorem textLength_inside : textLength memory ≤ memory.length ↔ 0 ∈ memory := by
  unfold textLength
  induction memory with
  | nil => exact ⟨fun inside => absurd inside (by decide), fun ended => by cases ended⟩
  | cons byte rest ih =>
      by_cases zero : byte = 0
      · rw [zero, List.takeWhile_cons_of_neg (by decide), List.length_cons]
        exact ⟨fun _ => List.mem_cons_self, fun _ => by simp⟩
      · rw [List.takeWhile_cons_of_pos (by simpa using zero), List.length_cons, List.length_cons,
          List.mem_cons, ← ih]
        constructor
        · intro inside
          right
          omega
        · rintro (same | inside)
          · exact absurd same.symm zero
          · omega

theorem length_received (buffer : Vector UInt8 20) (datagram : List UInt8) :
    (received buffer datagram).length = 20 := by
  rw [received, List.length_append, List.length_take, List.length_drop, Vector.length_toList]
  omega

theorem length_commandLine (datagram : List UInt8) :
    (commandLine datagram).length ≤ datagram.length :=
  Nat.le_trans (List.takeWhile_sublist _).length_le (List.take_sublist _ _).length_le

/-- A datagram is received inside of the buffer if there is a byte left for the NUL. -/
theorem receive_inside : (∀ touch ∈ receiveTouches buffer datagram, touch.Inside) ↔
    datagram.length < 20 ∧ 0 ∈ received buffer datagram := by
  have text : textLength (received buffer datagram) ≤ (received buffer datagram).length ↔
      0 ∈ received buffer datagram := textLength_inside
  rw [length_received] at text
  unfold receiveTouches
  rw [List.forall_mem_cons, List.forall_mem_cons, List.forall_mem_singleton, ← text,
    Touch.inside_mk, Touch.inside_mk, Touch.inside_mk]
  omega

theorem byte_inside {offset : Nat} (room : offset ≤ 17) :
    ∀ touch ∈ byteTouches offset, touch.Inside := by
  unfold byteTouches
  rw [List.forall_mem_cons, List.forall_mem_cons, List.forall_mem_singleton, Touch.inside_mk,
    Touch.inside_mk, Touch.inside_mk]
  omega

theorem parse_inside (short : command.length < 20) :
    ∀ touch ∈ parseTouches command, touch.Inside := by
  have text := textLength_le command
  have logged : (⟨20, 0, textLength command⟩ : Touch).Inside := by
    rw [Touch.inside_mk]
    omega
  unfold parseTouches
  rw [List.cons_append, List.forall_mem_cons, List.singleton_append, List.forall_mem_cons]
  refine ⟨logged, by decide, ?_⟩
  split_ifs
  · rw [List.forall_mem_cons]
    exact ⟨by decide, byte_inside (by decide)⟩
  · rw [List.forall_mem_cons]
    exact ⟨by decide, byte_inside (by decide)⟩
  · rw [List.forall_mem_cons, List.forall_mem_cons]
    exact ⟨by decide, by decide, byte_inside (by decide)⟩
  · rw [List.forall_mem_cons, List.forall_mem_singleton]
    exact ⟨by decide, by decide⟩

theorem numberOffset_le (command : List UInt8) : numberOffset command ≤ 8 := by
  unfold numberOffset
  split
  next => exact Nat.le_refl 8
  next => decide

/-- A number is parsed inside of the memory if the command has the eight bytes of a pointer. -/
theorem number_inside (short : command.length < 20) :
    (∀ touch ∈ numberTouches command, touch.Inside) ↔ 8 ≤ command.length := by
  have text := textLength_le command
  have number := textLength_le (numberText command)
  have offset := numberOffset_le command
  have length : (numberText command).length = command.length - numberOffset command :=
    List.length_drop
  unfold numberTouches
  rw [List.forall_mem_cons, List.forall_mem_cons, List.forall_mem_cons, List.forall_mem_cons,
    List.forall_mem_singleton, Touch.inside_mk, Touch.inside_mk, Touch.inside_mk,
    Touch.inside_mk, Touch.inside_mk]
  omega

end Memory

section Requests

variable {s : Vars} {command : List UInt8}

theorem gpsRequest_number (asks : (gpsRequest command).isNumber = true) :
    ∃ rest, command.drop 6 = 61 :: rest := by
  unfold gpsRequest at asks
  split at asks
  all_goals first
    | exact ⟨_, by assumption⟩
    | cases asks

theorem gnssRequest_number (asks : (gnssRequest command).isNumber = true) :
    ∃ rest, command.drop 7 = 61 :: rest := by
  unfold gnssRequest at asks
  split at asks
  all_goals first
    | exact ⟨_, by assumption⟩
    | cases asks

theorem length_of_drop {count : Nat} {byte : UInt8} {rest : List UInt8}
    (behind : command.drop count = byte :: rest) :
    command.length = count + 1 + rest.length := by
  have length := congrArg List.length behind
  rw [List.length_drop, List.length_cons] at length
  omega

/-- A command with a number has eight bytes, but for `AT%GPS=`. -/
theorem number_length (asks : (requestOf command).isNumber = true) :
    8 ≤ command.length ∨ command = gpsOp ++ [61] := by
  unfold requestOf at asks
  split_ifs at asks with gps gnss cw
  · obtain ⟨rest, behind⟩ := gpsRequest_number asks
    have length := length_of_drop behind
    cases rest with
    | nil =>
        right
        rw [← gps, ← behind, List.take_append_drop]
    | cons byte rest =>
        left
        rw [length, List.length_cons]
        omega
  · obtain ⟨rest, behind⟩ := gnssRequest_number asks
    have length := length_of_drop behind
    left
    omega
  · have length := congrArg List.length cw
    have eight : gpsCwTest.length = 8 := rfl
    rw [eight, List.length_take] at length
    left
    omega
  · cases asks

theorem scratch_iff : (asksNumber s command = true → 8 ≤ command.length) ↔
    (s.mnlAtCwMode = false → command ≠ gpsOp ++ [61]) := by
  unfold asksNumber
  rw [Bool.and_eq_true, Bool.not_eq_true']
  constructor
  · intro room idle same
    have eight := room ⟨idle, by rw [same]; decide⟩
    rw [same] at eight
    exact absurd eight (by decide)
  · rintro digits ⟨idle, asks⟩
    cases number_length asks with
    | inl eight => exact eight
    | inr same => exact absurd same (digits idle)

end Requests

section Answers

variable {s : Vars} {command : List UInt8} {drift : String}

theorem literal_inside (text : String) : ∀ touch ∈ literalTouches text, touch.Inside := by
  unfold literalTouches
  rw [List.forall_mem_singleton]
  exact Touch.inside_whole _

/-- An answer is inside of its buffer if the text is, with the NUL. -/
theorem formatted_inside (f : Formatted) :
    (∀ touch ∈ formattedTouches f, touch.Inside) ↔ f.text.length < f.size := by
  unfold formattedTouches
  rw [List.forall_mem_cons]
  constructor
  · rintro ⟨first, -⟩
    rw [Touch.inside_mk] at first
    omega
  · intro room
    refine ⟨?_, ?_⟩
    · rw [Touch.inside_mk]
      omega
    · intro touch held
      cases List.mem_append.mp held with
      | inl behind =>
          split at behind
          next =>
            rw [List.mem_singleton.mp behind, Touch.inside_mk]
            omega
          next => cases behind
      | inr sent =>
          rw [List.mem_singleton.mp sent]
          exact Touch.inside_whole _

theorem ack_inside (now err : Int) :
    (∀ touch ∈ ackTouches s command now err drift, touch.Inside) ↔
      ∀ f ∈ formatted s command drift, f.text.length < f.size := by
  unfold ackTouches
  cases formatted s command drift with
  | none =>
      constructor
      · intro inside f given
        cases given
      · intro room touch held
        cases reply : (atCommandParser s command now err).2 with
        | none =>
            rw [reply] at held
            cases held
        | some text =>
            rw [reply] at held
            exact literal_inside text touch held
  | some f =>
      rw [Option.elim_some, formatted_inside]
      constructor
      · intro room g given
        cases given
        exact room
      · intro room
        exact room f rfl

theorem length_toString {value : Int} (low : -2147483648 ≤ value) (high : value < 2147483648) :
    (toString value).length ≤ 11 := by
  rw [Int.toString_eq_repr, Int.repr_eq_if]
  split
  next =>
    have digits : value.toNat.repr.length ≤ 10 :=
      (Nat.length_repr_le_iff (by decide)).mpr (by omega)
    omega
  next =>
    have digits : (-value).toNat.repr.length ≤ 10 :=
      (Nat.length_repr_le_iff (by decide)).mpr (by omega)
    have sign : "-".length = 1 := rfl
    rw [String.length_append, sign]
    omega

theorem tenth_range {value : Int} (typed : -2147483648 ≤ value ∧ value < 2147483648) :
    -2147483648 ≤ value.tdiv 10 ∧ value.tdiv 10 < 2147483648 := by
  rw [Int.tdiv_eq_ediv]
  split
  next => omega
  next =>
    have sign : Int.sign 10 = 1 := rfl
    rw [sign]
    omega

/-- A signal strength always fits. -/
theorem cno_fits (typed : s.Typed) (gnss : Bool) :
    ∀ f ∈ cnoFormatted s gnss, f.text.length < f.size := by
  have range : -2147483648 ≤ (if s.mnlAtSignalMode then s.cn else s.avgCNo) ∧
      (if s.mnlAtSignalMode then s.cn else s.avgCNo) < 2147483648 := by
    split
    next => exact typed.cn
    next => exact typed.avgCNo
  unfold cnoFormatted
  dsimp only
  generalize (if s.mnlAtSignalMode then s.cn else s.avgCNo) = value at range
  have tenth := tenth_range range
  have length := length_toString tenth.1 tenth.2
  intro f given
  by_cases blank : gpsinfMtkGpsTestInprogress s = .inprogress ∨ value = 0
  · rw [if_pos blank] at given
    cases given
  · rw [if_neg blank] at given
    cases given
    dsimp only
    omega

theorem length_intercalate (first : String) (rest : List String) :
    (", ".intercalate (first :: rest)).length =
      first.length + characters rest + 2 * rest.length := by
  induction rest generalizing first with
  | nil =>
      rw [String.intercalate_singleton]
      rfl
  | cons second rest ih =>
      have comma : ", ".length = 2 := rfl
      rw [String.intercalate_cons_cons, String.length_append, String.length_append, ih second,
        comma, List.length_cons]
      show _ = first.length + (second.length + characters rest) + _
      omega

theorem length_numbers (eight : s.result.length = 8) :
    (numbers s).length = printed s.result + 14 := by
  unfold numbers printed
  cases values : s.result with
  | nil =>
      rw [values] at eight
      cases eight
  | cons first rest =>
      have seven : rest.length = 7 := by
        rw [values, List.length_cons] at eight
        omega
      rw [List.map_cons, length_intercalate, List.length_map, seven]
      rfl

theorem reported_fits {reported : Prop} [Decidable reported] (f : Formatted) :
    (∀ g ∈ (if reported then some f else none), g.text.length < g.size) ↔
      (reported → f.text.length < f.size) := by
  split
  next given =>
    constructor
    · intro fits _
      exact fits f rfl
    · intro fits g same
      cases same
      exact fits given
  next other =>
    exact ⟨fun _ given => absurd given other, fun _ g given => by cases given⟩

theorem state_fits (eight : s.result.length = 8) :
    (∀ f ∈ stateFormatted s, f.text.length < f.size) ↔
      (gpsinfMtkGpsTestInprogress s = .done → printed s.result ≤ 43) := by
  have left : "<".length = 1 := rfl
  have right : ">".length = 1 := rfl
  unfold stateFormatted
  rw [reported_fits, String.length_append, String.length_append, length_numbers eight, left, right]
  apply imp_congr_right
  intro _
  dsimp only
  omega

theorem result_fits (eight : s.result.length = 8) :
    (∀ f ∈ resultFormatted s, f.text.length < f.size) ↔
      (resultReported s = true → printed s.result ≤ 19) := by
  have left : "[".length = 1 := rfl
  have right : "][0, 0, 0, 0, 0, 0, 0, 0]".length = 25 := rfl
  unfold resultFormatted
  rw [reported_fits, String.length_append, String.length_append, length_numbers eight, left, right]
  apply imp_congr_right
  intro _
  dsimp only
  omega

theorem cw_fits : (∀ f ∈ cwFormatted s drift, f.text.length < f.size) ↔
    (cwReported s = true → (toString s.cnr).length + drift.length ≤ 44) := by
  have left : "SNR: ".length = 5 := rfl
  have middle : " Clock drift: ".length = 14 := rfl
  unfold cwFormatted
  rw [reported_fits, String.length_append, String.length_append, String.length_append, left, middle]
  apply imp_congr_right
  intro _
  dsimp only
  omega

theorem none_fits : ∀ f ∈ (none : Option Formatted), f.text.length < f.size := by
  intro f given
  cases given

/-- What is formatted for an answer fits its buffer if the results are short enough. -/
theorem answer_fits (typed : s.Typed) :
    (∀ f ∈ formatted s command drift, f.text.length < f.size) ↔ AnswerFits s command drift := by
  unfold formatted AnswerFits
  by_cases gps : command.take 6 = gpsOp
  · rw [if_pos gps, if_pos gps]
    cases s.mnlAtCwMode with
    | true => exact ⟨fun _ idle => (by cases idle), fun _ => none_fits⟩
    | false =>
        rw [if_neg (by decide)]
        cases gpsRequest command with
        | cno => exact ⟨fun _ _ other => (by cases other), fun _ => cno_fits typed false⟩
        | state => exact (state_fits typed.eight).trans ⟨fun few _ _ => few, fun few => few rfl rfl⟩
        | _ => exact ⟨fun _ _ other => (by cases other), fun _ => none_fits⟩
  · rw [if_neg gps, if_neg gps]
    by_cases gnss : command.take 7 = gnssOp
    · rw [if_pos gnss, if_pos gnss]
      cases s.mnlAtCwMode with
      | true => exact ⟨fun _ idle => (by cases idle), fun _ => none_fits⟩
      | false =>
          rw [if_neg (by decide)]
          cases gnssRequest command with
          | cno => exact ⟨fun _ _ other => (by cases other), fun _ => cno_fits typed true⟩
          | result =>
              exact (result_fits typed.eight).trans ⟨fun few _ _ => few, fun few => few rfl rfl⟩
          | _ => exact ⟨fun _ _ other => (by cases other), fun _ => none_fits⟩
    · rw [if_neg gnss, if_neg gnss]
      by_cases cw : command.take 8 = gpsCwTest
      · rw [if_pos cw]
        by_cases busy : s.mnlAtTestFlag ∨ s.mnlAtSignalMode
        · rw [if_pos busy]
          exact ⟨fun _ _ idle => absurd busy idle, fun _ => none_fits⟩
        · rw [if_neg busy]
          cases cwRequest command with
          | result => exact cw_fits.trans ⟨fun few _ _ _ => few, fun few => few cw busy rfl⟩
          | _ => exact ⟨fun _ _ _ other => (by cases other), fun _ => none_fits⟩
      · rw [if_neg cw]
        exact ⟨fun _ named => absurd named cw, fun _ => none_fits⟩

/-- The answer of a command is what is formatted for it, with the text added to it. -/
def Formatted.answer (f : Formatted) : String := f.text ++ if f.added then ", NA" else ""

theorem cno_report {value : Int} {gnss : Bool} {running : Prop} [Decidable running]
    {f : Formatted}
    (given : f ∈ if running ∨ value = 0 then none
      else some (Formatted.mk 32 (toString (value.tdiv 10)) gnss)) :
    (if value = 0 then "0, NA" else toString (value.tdiv 10) ++ if gnss then ", NA" else "") =
      f.answer := by
  by_cases blank : running ∨ value = 0
  · rw [if_pos blank] at given
    cases given
  · rw [if_neg blank] at given
    rw [if_neg (not_or.mp blank).2]
    cases given
    rfl

theorem cno_answer (gnss : Bool) :
    ∀ f ∈ cnoFormatted s gnss, atCommandSendCno s gnss = f.answer := by
  intro f given
  unfold cnoFormatted at given
  unfold atCommandSendCno
  dsimp only at given ⊢
  by_cases running : gpsinfMtkGpsTestInprogress s = .inprogress
  · rw [if_pos (Or.inl running)] at given
    cases given
  · rw [if_neg running]
    cases signal : s.mnlAtSignalMode with
    | true =>
        rw [signal] at given
        exact cno_report given
    | false =>
        rw [signal] at given
        exact cno_report given

theorem state_answer : ∀ f ∈ stateFormatted s, gpsTestState s = f.answer := by
  intro f given
  unfold stateFormatted at given
  by_cases done : gpsinfMtkGpsTestInprogress s = .done
  · rw [if_pos done] at given
    cases given
    unfold gpsTestState
    rw [done]
    exact (String.append_empty).symm
  · rw [if_neg done] at given
    cases given

theorem result_report {report zeros : String}
    (reasons : s.result[0]? ≠ some 0 ∨
      s.result[5]? ≠ some 0 ∧ ¬ (s.mnlAtSignalMode ∨ s.mnlAtSignalTestBegin)) :
    (if s.result[0]? ≠ some 0 then report
      else if s.result[5]? ≠ some 0 ∧ ¬ (s.mnlAtSignalMode ∨ s.mnlAtSignalTestBegin) then report
      else zeros) = report := by
  by_cases first : s.result[0]? ≠ some 0
  · exact if_pos first
  · rw [if_neg first]
    exact if_pos (reasons.resolve_left first)

theorem result_answer : ∀ f ∈ resultFormatted s, atCommandSendTestResult s = f.answer := by
  intro f given
  unfold resultFormatted at given
  by_cases reported : resultReported s = true
  · rw [if_pos reported] at given
    cases given
    have shown := of_decide_eq_true reported
    unfold atCommandSendTestResult
    dsimp only
    cases state : gpsinfMtkGpsTestInprogress s with
    | done => exact (String.append_empty).symm
    | inprogress =>
        rw [state] at shown
        cases shown with
        | inl other => cases other
        | inr other => exact absurd rfl other.1
    | _ =>
        rw [state] at shown
        refine Eq.trans (result_report ?_) (String.append_empty).symm
        cases shown with
        | inl other => cases other
        | inr reasons => exact reasons.2
  · rw [if_neg reported] at given
    cases given

theorem cw_answer : ∀ f ∈ cwFormatted s drift,
    atCwTestCommandSendTestResult s ++ drift = f.answer := by
  intro f given
  unfold cwFormatted at given
  by_cases reported : cwReported s = true
  · rw [if_pos reported] at given
    cases given
    unfold atCwTestCommandSendTestResult
    have shown := of_decide_eq_true reported
    rw [if_neg shown.1, if_neg shown.2]
    exact (String.append_empty).symm
  · rw [if_neg reported] at given
    cases given

/-- What is formatted is what the command is answered with; the clock drift is behind a result of
`AT%CWGPS?`. -/
theorem formatted_answer (now err : Int) :
    ∀ f ∈ formatted s command drift, ∃ reply, (atCommandParser s command now err).2 = some reply ∧
      (reply = f.answer ∨ reply ++ drift = f.answer) := by
  intro f given
  unfold formatted at given
  unfold atCommandParser
  by_cases gps : command.take 6 = gpsOp
  · rw [if_pos gps] at given ⊢
    unfold atGpsCommandParser
    dsimp only
    cases cw : s.mnlAtCwMode with
    | true =>
        rw [cw, if_pos rfl] at given
        cases given
    | false =>
        rw [cw, if_neg (by decide)] at given
        rw [if_neg (by decide)]
        cases request : gpsRequest command with
        | cno =>
            rw [request] at given
            exact ⟨_, rfl, Or.inl (cno_answer false f given)⟩
        | state =>
            rw [request] at given
            exact ⟨_, rfl, Or.inl (state_answer f given)⟩
        | _ =>
            rw [request] at given
            cases given
  · rw [if_neg gps] at given ⊢
    by_cases gnss : command.take 7 = gnssOp
    · rw [if_pos gnss] at given ⊢
      unfold atGnssCommandParser
      dsimp only
      cases cw : s.mnlAtCwMode with
      | true =>
          rw [cw, if_pos rfl] at given
          cases given
      | false =>
          rw [cw, if_neg (by decide)] at given
          rw [if_neg (by decide)]
          cases request : gnssRequest command with
          | cno =>
              rw [request] at given
              exact ⟨_, rfl, Or.inl (cno_answer true f given)⟩
          | result =>
              rw [request] at given
              exact ⟨_, rfl, Or.inl (result_answer f given)⟩
          | _ =>
              rw [request] at given
              cases given
    · rw [if_neg gnss] at given ⊢
      by_cases cw : command.take 8 = gpsCwTest
      · rw [if_pos cw] at given ⊢
        unfold atCwTestCommandParser
        dsimp only
        by_cases busy : s.mnlAtTestFlag ∨ s.mnlAtSignalMode
        · rw [if_pos busy] at given
          cases given
        · rw [if_neg busy] at given ⊢
          cases request : cwRequest command with
          | result =>
              rw [request] at given
              exact ⟨_, rfl, Or.inr (cw_answer f given)⟩
          | _ =>
              rw [request] at given
              cases given
      · rw [if_neg cw] at given
        cases given

end Answers

section Datagram

variable {s : Vars} {buffer : Vector UInt8 20} {datagram : List UInt8} {now err : Int}
  {drift : String}

theorem inside_iff (typed : s.Typed) :
    (∀ touch ∈ datagramTouches s buffer datagram now err drift, touch.Inside) ↔
      (datagram.length < 20 ∧ 0 ∈ received buffer datagram) ∧
        (s.mnlAtCwMode = false → commandLine datagram ≠ gpsOp ++ [61]) ∧
        AnswerFits s (commandLine datagram) drift := by
  unfold datagramTouches
  dsimp only
  rw [List.forall_mem_append, List.forall_mem_append, List.forall_mem_append, receive_inside,
    ack_inside, answer_fits typed, ← scratch_iff]
  apply and_congr_right
  rintro ⟨below, -⟩
  have short : (commandLine datagram).length < 20 :=
    Nat.lt_of_le_of_lt (length_commandLine datagram) below
  have parsed := parse_inside short
  have number := number_inside short
  cases asksNumber s (commandLine datagram) with
  | true =>
      rw [if_pos rfl, number]
      exact ⟨fun all => ⟨fun _ => all.2.1, all.2.2⟩, fun all => ⟨parsed, all.1 rfl, all.2⟩⟩
  | false =>
      rw [if_neg (by decide)]
      exact ⟨fun all => ⟨fun asks => (by cases asks), all.2.2⟩,
        fun all => ⟨parsed, fun touch held => (by cases held), all.2⟩⟩

/-- The number that is parsed is the one of the text behind the name. -/
theorem leastNumber_range (s : Vars) (command : List UInt8) :
    leastNumber s command = 0 ∨ leastNumber s command = 1 := by
  unfold leastNumber
  split
  next => exact Or.inr rfl
  next => exact Or.inl rfl

theorem number_iff {command : List UInt8} (short : command.length < 20) :
    takenNumber s command = positiveDecimal (numberText command) ↔
      TextFits (leastNumber s command) (numberText command) := by
  have length : (numberText command).length ≤ command.length :=
    (List.drop_sublist _ _).length_le
  have most : (numberText command).length ≤ 19 := by omega
  exact accepted_iff (leastNumber_range s command) most

/-- The number of a test that is started is kept. -/
theorem start_number (s : Vars) (testNum prnNum timeDelay now err : Int) (mode : Mode) :
    (gpsinfMtkGpsTestStart s testNum prnNum timeDelay mode now err).1.halTestData.testNum =
      testNum := by
  unfold gpsinfMtkGpsTestStart atTest2mnlGpsStart
  dsimp only
  split
  next => rfl
  next =>
    split
    next => cases mode with
      | normal => rfl
      | signal => rfl
      | cw => rfl
    next => cases mode with
      | normal => rfl
      | signal => rfl
      | cw => rfl

theorem gpsRequest_same {command : List UInt8} (asks : (gpsRequest command).isNumber = true) :
    gpsRequest command = .number (atCommandParseTestNum command) := by
  unfold gpsRequest at asks ⊢
  split at asks
  all_goals first
    | rfl
    | cases asks

theorem gnssRequest_same {command : List UInt8} (asks : (gnssRequest command).isNumber = true) :
    gnssRequest command = .number (atCommandParseTestNum command) := by
  unfold gnssRequest at asks ⊢
  split at asks
  all_goals first
    | rfl
    | cases asks

theorem not_gnss {command : List UInt8} (gps : command.take 6 = gpsOp) :
    command.take 7 ≠ gnssOp := by
  intro gnss
  have same : (command.take 7).take 6 = command.take 6 := List.take_take
  rw [gnss, gps] at same
  exact absurd same (by decide)

/-- A command that asks for a number is one of two families, and no carrier wave is tested. -/
theorem asks_cases {command : List UInt8} (asks : asksNumber s command = true) :
    s.mnlAtCwMode = false ∧
      (command.take 6 = gpsOp ∧ command.take 7 ≠ gnssOp ∧
        gpsRequest command = .number (atCommandParseTestNum command) ∨
      command.take 6 ≠ gpsOp ∧ command.take 7 = gnssOp ∧
        gnssRequest command = .number (atCommandParseTestNum command)) := by
  unfold asksNumber requestOf at asks
  rw [Bool.and_eq_true, Bool.not_eq_true'] at asks
  refine ⟨asks.1, ?_⟩
  have number := asks.2
  split_ifs at number with gps gnss cw
  · exact Or.inl ⟨gps, not_gnss gps, gpsRequest_same number⟩
  · exact Or.inr ⟨gps, gnss, gnssRequest_same number⟩
  · unfold cwRequest at number
    split at number
    all_goals cases number
  · cases number

theorem gps_taken {command : List UInt8} {testNum : Int} (idle : s.mnlAtCwMode = false)
    (request : gpsRequest command = .number testNum) (least : 0 ≤ testNum) :
    (atGpsCommandParser s command now err).1.halTestData.testNum = testNum := by
  unfold atGpsCommandParser
  dsimp only
  rw [idle, if_neg (by decide), request]
  dsimp only
  rw [if_pos least]
  exact start_number _ _ _ _ _ _ _

theorem gps_refused {command : List UInt8} {testNum : Int} (idle : s.mnlAtCwMode = false)
    (request : gpsRequest command = .number testNum) (negative : testNum < 0) :
    (atGpsCommandParser s command now err).2 = some "Invalid Test Num =0" := by
  unfold atGpsCommandParser
  dsimp only
  rw [idle, if_neg (by decide), request]
  dsimp only
  rw [if_neg (by omega)]

theorem gnss_number {command : List UInt8} {testNum : Int} (idle : s.mnlAtCwMode = false)
    (request : gnssRequest command = .number testNum) :
    atGnssCommandParser s command now err =
      atGnssNumber { s with testModeFlag := false } now err testNum := by
  unfold atGnssCommandParser
  dsimp only
  rw [idle, if_neg (by decide), request]

theorem gnss_taken {testNum : Int} (plain : s.mnlAtSignalMode = false) (least : 0 ≤ testNum) :
    (atGnssNumber s now err testNum).1.halTestData.testNum = testNum := by
  have same : (clearResults s).mnlAtSignalMode = false := plain
  unfold atGnssNumber
  dsimp only
  rw [same, if_neg (by decide), if_pos least]
  exact start_number _ _ _ _ _ _ _

theorem gnss_begun {testNum : Int} (signal : s.mnlAtSignalMode = true) (least : 1 ≤ testNum) :
    (atGnssNumber s now err testNum).1.mnlAtSignalTestBegin = true := by
  have same : (clearResults s).mnlAtSignalMode = true := signal
  unfold atGnssNumber
  dsimp only
  rw [same, if_pos rfl, if_neg (by omega)]

theorem gnss_refused {testNum : Int}
    (less : testNum < if s.mnlAtSignalMode = true then 1 else 0) :
    (atGnssNumber s now err testNum).2 = some "Invalid Test Num =0" ∨
      (atGnssNumber s now err testNum).2 = some "Invalid Test Num = 0" := by
  unfold atGnssNumber
  dsimp only
  cases signal : s.mnlAtSignalMode with
  | true =>
      have same : (clearResults s).mnlAtSignalMode = true := signal
      rw [signal, if_pos rfl] at less
      rw [same, if_pos rfl, if_pos (by omega)]
      exact Or.inr rfl
  | false =>
      have same : (clearResults s).mnlAtSignalMode = false := signal
      rw [signal, if_neg (by decide)] at less
      rw [same, if_neg (by decide), if_neg (by omega)]
      exact Or.inl rfl

theorem accepted_least {least num taken : Int} (given : accepted least num = some taken) :
    least ≤ num ∧ num = taken := by
  unfold accepted at given
  split at given
  next below => exact ⟨below, Option.some.inj given⟩
  next => cases given

/-- The number that is taken is the one a test is started with; a signal test that has been
started begins. -/
theorem taken_started {command : List UInt8} {num : Int} (asks : asksNumber s command = true)
    (taken : takenNumber s command = some num) :
    if leastNumber s command = 1 then
      (atCommandParser s command now err).1.mnlAtSignalTestBegin = true
    else (atCommandParser s command now err).1.halTestData.testNum = num := by
  obtain ⟨idle, families⟩ := asks_cases asks
  obtain ⟨least, same⟩ := accepted_least taken
  unfold atCommandParser
  cases families with
  | inl gps =>
      have zero : leastNumber s command = 0 := if_neg fun both => gps.2.1 both.1
      rw [zero] at least
      rw [zero, if_neg (by decide), if_pos gps.1, ← same]
      exact gps_taken idle gps.2.2 least
  | inr gnss =>
      rw [if_neg gnss.1, if_pos gnss.2.1, gnss_number idle gnss.2.2]
      cases signal : s.mnlAtSignalMode with
      | true =>
          have one : leastNumber s command = 1 := if_pos ⟨gnss.2.1, signal⟩
          rw [one] at least
          rw [one, if_pos rfl]
          exact gnss_begun rfl least
      | false =>
          have zero : leastNumber s command = 0 :=
            if_neg fun both => absurd both.2 (by rw [signal]; decide)
          rw [zero] at least
          rw [zero, if_neg (by decide), ← same]
          exact gnss_taken rfl least

/-- Without a number no test is. -/
theorem refused_answer {command : List UInt8} (asks : asksNumber s command = true)
    (refused : takenNumber s command = none) :
    (atCommandParser s command now err).2 = some "Invalid Test Num =0" ∨
      (atCommandParser s command now err).2 = some "Invalid Test Num = 0" := by
  obtain ⟨idle, families⟩ := asks_cases asks
  have less := accepted_none.mp refused
  unfold atCommandParser
  unfold leastNumber at less
  cases families with
  | inl gps =>
      rw [if_neg fun both => gps.2.1 both.1] at less
      rw [if_pos gps.1]
      exact Or.inl (gps_refused idle gps.2.2 less)
  | inr gnss =>
      rw [if_neg gnss.1, if_pos gnss.2.1, gnss_number idle gnss.2.2]
      apply gnss_refused
      cases signal : s.mnlAtSignalMode with
      | true =>
          rw [signal, if_pos ⟨gnss.2.1, rfl⟩] at less
          exact less
      | false =>
          rw [signal, if_neg (fun both => by cases both.2)] at less
          exact less

/-- What is formatted is what the command is answered with, the clock drift behind a result of
`AT%CWGPS?`; and a number is taken for the test that is started, or answered with an error. -/
theorem commands_answered (s : Vars) (command : List UInt8) (drift : String) (now err : Int) :
    (∀ f ∈ formatted s command drift, ∃ reply, (atCommandParser s command now err).2 = some reply ∧
      (reply = f.answer ∨ reply ++ drift = f.answer)) ∧
    (asksNumber s command = true →
      (∀ num, takenNumber s command = some num →
        if leastNumber s command = 1 then
          (atCommandParser s command now err).1.mnlAtSignalTestBegin = true
        else (atCommandParser s command now err).1.halTestData.testNum = num) ∧
      (takenNumber s command = none →
        (atCommandParser s command now err).2 = some "Invalid Test Num =0" ∨
          (atCommandParser s command now err).2 = some "Invalid Test Num = 0")) :=
  ⟨formatted_answer now err, fun asks => ⟨fun _ taken => taken_started asks taken,
    refused_answer asks⟩⟩

/-- A datagram is handled inside of the buffers, and the number in it taken as it is, exactly if
it is shorter than the buffer, a NUL ends its text there, a number has a digit, the results are
short enough for the answer and an `int` has room for the number. -/
theorem datagram_safe_iff (typed : s.Typed) :
    Handled s buffer datagram now err drift ↔ Harmless s buffer datagram drift := by
  constructor
  · intro handled
    obtain ⟨⟨below, ended⟩, digits, answer⟩ := (inside_iff typed).mp handled.inside
    have short : (commandLine datagram).length < 20 :=
      Nat.lt_of_le_of_lt (length_commandLine datagram) below
    exact ⟨below, ended, digits, answer, fun asks => (number_iff short).mp (handled.number asks)⟩
  · intro harmless
    have short : (commandLine datagram).length < 20 :=
      Nat.lt_of_le_of_lt (length_commandLine datagram) harmless.short
    refine ⟨(inside_iff typed).mpr ?_, fun asks => (number_iff short).mpr (harmless.number asks)⟩
    exact ⟨⟨harmless.short, harmless.ended⟩, harmless.digits, harmless.answer⟩

/-- `AT%GPS=5`, which starts five tests. -/
theorem datagram_safe_five : Vars.init.Typed ∧
    Handled Vars.init (Vector.replicate 20 0) (gpsOp ++ [61, 53]) 0 0 "0.00" := by
  have typed : Vars.init.Typed := ⟨by decide, by decide, by decide⟩
  refine ⟨typed, (datagram_safe_iff typed).mpr ⟨by decide, by decide, by decide, ?_, ?_⟩⟩
  · intro _ other
    cases other
  · intro _
    rw [TextFits, if_pos (by decide)]
    decide

/-- Twenty bytes, a number without digits, one that is no `int` and eight results of three
digits. -/
theorem datagram_unsafe :
    ¬ Handled Vars.init (Vector.replicate 20 0) (List.replicate 20 65) 0 0 "0.00" ∧
    ¬ Handled Vars.init (Vector.replicate 20 0) (gpsOp ++ [61]) 0 0 "0.00" ∧
    ¬ Handled Vars.init (Vector.replicate 20 0)
      (gpsOp ++ [61, 52, 50, 57, 52, 57, 54, 55, 50, 57, 55]) 0 0 "0.00" ∧
    ¬ Handled { Vars.init with result := [100, 100, 100, 100, 100, 100, 100, 100] }
      (Vector.replicate 20 0) (gnssOp ++ [63]) 0 0 "0.00" := by
  refine ⟨?_, ?_, ?_, ?_⟩
  · intro handled
    exact absurd (handled.inside ⟨20, 20, 1⟩ (by decide)) (by decide)
  · intro handled
    exact absurd (handled.inside ⟨7, 0, 8⟩ (by decide)) (by decide)
  · intro handled
    exact absurd (handled.number (by decide)) (by decide)
  · intro handled
    exact absurd (handled.inside ⟨60, 0, 65⟩ (by decide)) (by decide)

end Datagram

end Connectivity.AtTest
