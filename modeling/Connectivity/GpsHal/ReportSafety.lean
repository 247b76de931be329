import Connectivity.GpsHal.Report

set_option autoImplicit false

/- Which datagrams of mnld the worker hands on safely. -/
namespace Connectivity.GpsHal

open Bytes DataCoder Connectivity.Hal

section Condition

variable (ctx : Context) (reports : LocationReports) (bytes : List UInt8)

/-- The structure behind the command is announced, and received, as a whole. -/
def Fills (size : Nat) : Prop :=
  size ≤ (receivedInt buffSize bytes 8).toInt ∧ 12 + size ≤ bytes.length

/-- A presence byte and a length that is not zero stand at an index. -/
def HasText (index : Int) : Prop := Found (receivedAt buffSize bytes index)

/-- The characters of the NMEA sentence, in front of where its terminator is written. -/
def sentence : List UInt8 :=
  (((received buffSize bytes).buff.drop 21).take
    (receivedTextSize buffSize bytes 16 - 1).toNat).takeWhile (· ≠ 0)

/-- What stands behind the NMEA sentence. -/
def sentenceLength : Int :=
  (receivedInt buffSize bytes (21 + receivedTextSize buffSize bytes 16)).toInt

/-- Structures are received whole, with counts that their arrays hold, and the strings are
there. A structure begins at index 12. -/
def Complete : Prop :=
  bytes = [] ∨
    match Mnl2halCmd.ofInt (receivedInt buffSize bytes 4) with
    | some .location => reports.early ∨ ctx.started = false ∨ Fills bytes gpsLocation.size
    | some .gpsStatus => Fills bytes Layout.int.size
    | some .gpsSv => Fills bytes gnssSvInfo.size ∧ 0 ≤ int32LE (window bytes 12 4)
    | some .nmea =>
        HasText bytes 16 ∧ 0 ≤ sentenceLength bytes ∧
          sentenceLength bytes ≤ (sentence bytes).length
    | some .gpsCapabilities => Fills bytes Layout.int.size
    | some .gpsMeasurements => Fills bytes gpsData.size ∧ fromLE (window bytes 12 8) ≤ 32
    | some .gpsNavigation => Fills bytes gpsNavMsg.size ∧ fromLE (window bytes 20 8) ≤ 40
    | some .gnssMeasurements => Fills bytes gnssData.size ∧ fromLE (window bytes 12 8) ≤ 64
    | some .gnssNavigation => Fills bytes gnssNavMsg.size ∧ fromLE (window bytes 36 8) = 0
    | some .requestDataConn => Fills bytes sockaddrStorage.size
    | some .requestNiNotify =>
        HasText bytes 16 ∧ HasText bytes (21 + receivedTextSize buffSize bytes 16)
    | some .vzwDebugOutput => HasText bytes 8
    | _ => True

end Condition

section Structures

variable {ctx : Context} {bytes buff : List UInt8} {copied : List (Int × Int)}

theorem buffSize_int : buffSize < 2 ^ 31 := by decide

theorem handOn_inside {call : FrameworkCall} :
    (handOn call).Inside ctx bytes buff copied ↔ call.Inside ctx bytes buff copied := by
  constructor
  · intro inside
    exact inside.calls call List.mem_cons_self
  · intro inside
    constructor
    · intro text read
      cases read
    · intro other called
      rw [handOn, List.mem_singleton] at called
      rw [called]
      exact inside

/-- What `get_binary` makes of the bytes behind the command. -/
def structureOf (bytes : List UInt8) (size : Nat) : Got Binary :=
  (getBinary size).call (receivedAt buffSize bytes 8)

theorem filledFrom_iff (fits : bytes.length ≤ buffSize) {size : Nat} (positive : 0 < size)
    (room : 12 + size ≤ buffSize) :
    FilledFrom bytes (copies (structureOf bytes size).accesses) size
        (structureOf bytes size).value ↔ Fills bytes size := by
  have within : (8 : Int) + 4 + size ≤ buffSize := by omega
  have full := getBinary_full_iff fits buffSize_int (by decide : (0 : Int) ≤ 8) within
  have taken := getBinary_full fits buffSize_int (by decide : (0 : Int) ≤ 8) within positive
  constructor
  · intro filled
    have announced := full.mp filled.1
    refine ⟨announced, ?_⟩
    have last := filled.2
    rw [structureOf, (taken announced).1, List.forall_mem_singleton] at last
    omega
  · intro fills
    refine ⟨full.mpr fills.1, ?_⟩
    rw [structureOf, (taken fills.1).1, List.forall_mem_singleton]
    have received := fills.2
    show (8 : Int) + 4 + size ≤ bytes.length
    omega

theorem window_window (bytes rest : List UInt8) {start size offset width : Nat}
    (part : offset + width ≤ size) :
    window (window bytes start size ++ rest) offset width =
      window bytes (start + offset) width := by
  apply List.map_congr_left
  intro i below
  rw [List.mem_range] at below
  have inside : offset + i < (window bytes start size).length := by
    rw [window_length]
    omega
  rw [List.getD_append _ _ _ _ inside, List.getD_eq_getElem _ _ inside]
  simp only [window, List.getElem_map, List.getElem_range, Nat.add_assoc]

/-- A field of a structure that is filled is where the datagram has it. -/
theorem field_of_filled (fits : bytes.length ≤ buffSize) {size offset width : Nat}
    (positive : 0 < size) (room : 12 + size ≤ buffSize) (fills : Fills bytes size)
    (part : offset + width ≤ size) :
    window (onStack ctx (structureOf bytes size).value) offset width =
      window bytes (12 + offset) width := by
  have within : (8 : Int) + 4 + size ≤ buffSize := by omega
  have taken := (getBinary_full fits buffSize_int (by decide : (0 : Int) ≤ 8) within positive
    fills.1).2
  rw [onStack, structureOf, taken]
  exact window_window bytes _ part

end Structures

section Dispatch

variable {ctx : Context} {address : BitVec 64} {reports : LocationReports} {datagram : Datagram}

/-- What an arm reads behind the command. -/
def argumentsOf (address : BitVec 64) (bytes : List UInt8) (cmd : Mnl2halCmd) :
    Got (Mnl2hal (Option Int) fun _ => Binary) :=
  (mnl2halArguments address cmd).call (receivedAt buffSize bytes 8)

theorem reportSafe_empty (empty : datagram.bytes = []) :
    ReportSafe ctx address reports datagram := by
  intro report called
  rw [onDatagram, if_pos empty] at called
  cases called

theorem mnl2halHdlr_elim (interface : Mnl2halCmd → Bool) :
    mnl2halHdlr address interface reports = (getInt >>= fun _ => getInt >>= fun cmd =>
      (Mnl2halCmd.ofInt cmd).elim (return (⟨[], -1⟩, reports))
        (mnl2halArm address interface reports)) := by
  rw [mnl2halHdlr]
  congr
  funext _
  congr
  funext cmd
  cases Mnl2halCmd.ofInt cmd <;> rfl

/-- What follows the version and the command. -/
theorem onDatagram_behind (received : datagram.bytes ≠ []) :
    let got := onDatagram address reports datagram
    let rest := ((Mnl2halCmd.ofInt (receivedInt buffSize datagram.bytes 4)).elim
      (return (⟨[], -1⟩, reports)) (mnl2halArm address (fun _ => true) reports)).call
        (receivedAt buffSize datagram.bytes 8)
    got.value = rest.value ∧ got.cursor = rest.cursor ∧
      copies got.accesses = copies rest.accesses := by
  rw [onDatagram, if_neg received, mnl2halHdlr_elim]
  exact call_header _ datagram.fits buffSize_int (by decide)

theorem onDatagram_known (received : datagram.bytes ≠ []) {cmd : Mnl2halCmd}
    (known : Mnl2halCmd.ofInt (receivedInt buffSize datagram.bytes 4) = some cmd) :
    let got := onDatagram address reports datagram
    let rest := (mnl2halArm address (fun _ => true) reports cmd).call
      (receivedAt buffSize datagram.bytes 8)
    got.value = rest.value ∧ got.cursor = rest.cursor ∧
      copies got.accesses = copies rest.accesses := by
  have behind := @onDatagram_behind address reports datagram received
  rw [known] at behind
  exact behind

theorem reportSafe_unknown (received : datagram.bytes ≠ [])
    (unknown : Mnl2halCmd.ofInt (receivedInt buffSize datagram.bytes 4) = none) :
    ReportSafe ctx address reports datagram := by
  have behind := @onDatagram_behind address reports datagram received
  rw [unknown] at behind
  intro report called
  rw [behind.1] at called
  cases called

/-- An arm hands over what it has read, unless it is too early for a location. -/
theorem mnl2halArm_call {bytes : List UInt8} {cmd : Mnl2halCmd}
    (reported : ¬ (cmd = .location ∧ reports.early)) :
    let got := (mnl2halArm address (fun _ => true) reports cmd).call (receivedAt buffSize bytes 8)
    got.value.1.calls = [(argumentsOf address bytes cmd).value] ∧
      got.cursor = (argumentsOf address bytes cmd).cursor ∧
      copies got.accesses = copies (argumentsOf address bytes cmd).accesses := by
  have whole (accesses : List Access) : accesses ++ [] ++ [] = accesses := by
    rw [List.append_nil, List.append_nil]
  cases cmd with
  | location =>
      have late : ¬ reports.early := fun early => reported ⟨rfl, early⟩
      simp only [mnl2halArm, if_neg late, arm, if_true, call_bind, call_pure, whole]
      exact ⟨rfl, rfl, rfl⟩
  | _ =>
      simp only [mnl2halArm, arm, if_true, call_bind, call_pure, whole]
      exact ⟨rfl, rfl, rfl⟩

/-- An arm that calls its callback is judged by what it hands over. -/
theorem reportSafe_iff_handled (received : datagram.bytes ≠ []) {cmd : Mnl2halCmd}
    (known : Mnl2halCmd.ofInt (receivedInt buffSize datagram.bytes 4) = some cmd)
    (reported : ¬ (cmd = .location ∧ reports.early)) :
    ReportSafe ctx address reports datagram ↔
      Handled ctx datagram.bytes (argumentsOf address datagram.bytes cmd) := by
  obtain ⟨value, cursor, copied⟩ :=
    @onDatagram_known address reports datagram received cmd known
  obtain ⟨called, behind, taken⟩ :=
    @mnl2halArm_call address reports datagram.bytes cmd reported
  rw [ReportSafe]
  simp only [value, called, List.forall_mem_singleton]
  rw [Handled, Handled]
  simp only [cursor.trans behind, copied.trans taken]

/-- A location that is not reported is not read either. -/
theorem reportSafe_early (received : datagram.bytes ≠ [])
    (known : Mnl2halCmd.ofInt (receivedInt buffSize datagram.bytes 4) = some .location)
    (early : reports.early) : ReportSafe ctx address reports datagram := by
  intro report called
  rw [(onDatagram_known received known).1, mnl2halArm, if_pos early] at called
  cases called

end Dispatch

section Arms

variable {ctx : Context} {address : BitVec 64} {bytes : List UInt8} {cmd : Mnl2halCmd}
  {size offset width : Nat}

/-- A report of one structure, which the worker hands on. -/
theorem handled_structure {report : Binary → Mnl2hal (Option Int) fun _ => Binary}
    {call : Binary → FrameworkCall}
    (reads : mnl2halArguments address cmd = getBinary size >>= fun value => pure (report value))
    (hands : ∀ buff value, gpshalMnl2halInterface ctx buff (report value) = handOn (call value)) :
    Handled ctx bytes (argumentsOf address bytes cmd) ↔
      (call (structureOf bytes size).value).Inside ctx bytes
        (structureOf bytes size).cursor.buff (copies (structureOf bytes size).accesses) := by
  rw [Handled, argumentsOf, reads]
  simp only [call_bind, call_pure, List.append_nil, hands]
  exact handOn_inside

/-- The same where the worker hands on a field of the structure as a count. -/
theorem filled_field_iff (fits : bytes.length ≤ buffSize) (positive : 0 < size)
    (room : 12 + size ≤ buffSize) (part : offset + width ≤ size) (allowed : List UInt8 → Prop) :
    (FilledFrom bytes (copies (structureOf bytes size).accesses) size
        (structureOf bytes size).value ∧
      allowed (window (onStack ctx (structureOf bytes size).value) offset width)) ↔
      Fills bytes size ∧ allowed (window bytes (12 + offset) width) := by
  have filled := filledFrom_iff fits positive room
  constructor
  · intro inside
    have fills := filled.mp inside.1
    have same := @field_of_filled ctx bytes fits size offset width positive room fills part
    rw [same] at inside
    exact ⟨fills, inside.2⟩
  · intro inside
    have same := @field_of_filled ctx bytes fits size offset width positive room inside.1 part
    rw [same]
    exact ⟨filled.mpr inside.1, inside.2⟩

/-- The count of satellites is cut to the arrays, but not from below. -/
theorem numSvs_iff (numSvs : Int) :
    (0 ≤ (if ctx.gnssMaxSvs < numSvs then (ctx.gnssMaxSvs : Int) else numSvs) ∧
      (if ctx.gnssMaxSvs < numSvs then (ctx.gnssMaxSvs : Int) else numSvs) ≤ ctx.gnssMaxSvs ∧
      (if ctx.gnssMaxSvs < numSvs then (ctx.gnssMaxSvs : Int) else numSvs) ≤ 64) ↔
      0 ≤ numSvs := by
  have fit := ctx.svsFit
  split <;> omega

/-- The strings that a report hands over. -/
def reportTexts : (Mnl2hal (Option Int) fun _ => Binary) → List (Option Int)
  | .nmea _ text _ => [text]
  | .requestNiNotify _ _ _ requestorId clientName _ _ => [requestorId, clientName]
  | .vzwDebugScreenOutput str => [str]
  | _ => []

/-- Each string that is there begins and ends in the buffer. -/
def TextsInside (buff : List UInt8) (report : Mnl2hal (Option Int) fun _ => Binary) : Prop :=
  ∀ text ∈ reportTexts report, ∀ pointer ∈ text, TextInside buff pointer

theorem leaves_nmea : Leaves (mnl2halArguments address .nmea) TextsInside := by
  apply Leaves.andThen (leaves_getInt.andThen fun _ => leaves_getInt.andThen fun _ =>
    leaves_pure _ fun _ => trivial)
  intro timestamp
  apply leaves_getString.bind texts_stable
  intro text
  apply leaves_getInt.andThen
  intro length
  apply leaves_pure
  intro buff inside other listed
  rw [reportTexts, List.mem_singleton] at listed
  rw [listed]
  exact inside

theorem leaves_requestNiNotify :
    Leaves (mnl2halArguments address .requestNiNotify) TextsInside := by
  apply leaves_getInt.andThen
  intro sessionId
  apply leaves_getInt.andThen
  intro type
  apply leaves_getString.bind texts_stable
  intro requestorId
  apply leaves_getString.bind texts_stable
  intro clientName
  apply leaves_getInt.andThen
  intro requestorIdEncoding
  apply leaves_getInt.andThen
  intro clientNameEncoding
  apply leaves_getInt.andThen
  intro niType
  apply leaves_pure
  intro buff client requestor text listed
  rw [reportTexts, List.mem_pair] at listed
  cases listed with
  | inl first =>
      rw [first]
      exact requestor
  | inr second =>
      rw [second]
      exact client

theorem leaves_vzwDebugOutput :
    Leaves (mnl2halArguments address .vzwDebugOutput) TextsInside := by
  apply leaves_getString.bind texts_stable
  intro str
  apply leaves_pure
  intro buff inside other listed
  rw [reportTexts, List.mem_singleton] at listed
  rw [listed]
  exact inside

/-- A string that is in the buffer where it is there at all. -/
theorem textReceived_iff {buff : List UInt8} {text : Option Int}
    (inside : ∀ pointer ∈ text, TextInside buff pointer) :
    TextReceived buff text ↔ text.isSome := by
  constructor
  · intro received
    obtain ⟨pointer, same, _⟩ := received
    rw [same]
    rfl
  · intro there
    obtain ⟨pointer, same⟩ := Option.isSome_iff_exists.mp there
    exact ⟨pointer, same, inside pointer same⟩

theorem received_held (fits : bytes.length ≤ buffSize) (index : Int) :
    (receivedAt buffSize bytes index).srcLen ≤ (receivedAt buffSize bytes index).buff.length :=
  (receivedAt_inside fits buffSize_int (Int.le_refl 0) (Int.natCast_nonneg buffSize)).held

theorem outputVzwDebug_inside {buff : List UInt8} {copied : List (Int × Int)}
    (str : Option Int) :
    (outputVzwDebug ctx buff str).Inside ctx bytes buff copied ↔ TextReceived buff str := by
  cases str with
  | none =>
      constructor
      · intro inside
        exact inside.reads none List.mem_cons_self
      · intro received
        obtain ⟨pointer, same, _⟩ := received
        cases same
  | some pointer =>
      constructor
      · intro inside
        exact inside.reads (some pointer) List.mem_cons_self
      · intro received
        constructor
        · intro text read
          rw [outputVzwDebug, List.mem_singleton] at read
          rw [read]
          exact received
        · intro call called
          rw [outputVzwDebug] at called
          split at called
          · rw [List.mem_singleton] at called
            rw [called]
            show (window _ _ _).length ≤ vzwDebugStringMaxlen
            rw [window_length]
            split <;> omega
          · cases called

theorem handled_vzwDebugOutput (fits : bytes.length ≤ buffSize) :
    Handled ctx bytes (argumentsOf address bytes .vzwDebugOutput) ↔ HasText bytes 8 := by
  have inside := (@leaves_vzwDebugOutput address _ (received_held fits 8)).2.2
  have value : (argumentsOf address bytes .vzwDebugOutput).value =
    .vzwDebugScreenOutput (getString.call (receivedAt buffSize bytes 8)).value := rfl
  have found := getString_isSome
    (receivedAt_inside fits buffSize_int (by decide : (0 : Int) ≤ 8) (by decide))
  rw [Handled, value]
  exact (outputVzwDebug_inside _).trans
    ((textReceived_iff (inside _ List.mem_cons_self)).trans found)

theorem requestNiNotify_inside {buff : List UInt8} {copied : List (Int × Int)}
    {sessionId niType type requestorIdEncoding clientNameEncoding : BitVec 32}
    {requestorId clientName : Option Int} :
    (requestNiNotify sessionId niType type requestorId clientName requestorIdEncoding
      clientNameEncoding).Inside ctx bytes buff copied ↔
      TextReceived buff requestorId ∧ TextReceived buff clientName := by
  constructor
  · intro inside
    exact inside.calls _ List.mem_cons_self
  · intro received
    constructor
    · intro text read
      rw [requestNiNotify, List.mem_pair] at read
      cases read with
      | inl first =>
          rw [first]
          exact received.1
      | inr second =>
          rw [second]
          exact received.2
    · intro call called
      rw [requestNiNotify, List.mem_singleton] at called
      rw [called]
      exact received

/-- The two strings of a notification, the second behind the first. -/
theorem requestNiNotify_value (fits : bytes.length ≤ buffSize) :
    ∃ sessionId niType type requestorIdEncoding clientNameEncoding,
      (argumentsOf address bytes .requestNiNotify).value =
        .requestNiNotify sessionId niType type
          (getString.call (receivedAt buffSize bytes 16)).value
          (getString.call (getString.call (receivedAt buffSize bytes 16)).cursor).value
          requestorIdEncoding clientNameEncoding := by
  have session := getInt_receivedAt fits buffSize_int (by decide : (0 : Int) ≤ 8) (by decide)
  have type := getInt_receivedAt fits buffSize_int (by decide : (0 : Int) ≤ 8 + 4) (by decide)
  rw [show (8 : Int) + 4 + 4 = 16 from rfl] at type
  simp only [argumentsOf, mnl2halArguments, call_bind, call_pure, session, type]
  exact ⟨_, _, _, _, _, rfl⟩

theorem handled_requestNiNotify (fits : bytes.length ≤ buffSize) :
    Handled ctx bytes (argumentsOf address bytes .requestNiNotify) ↔
      HasText bytes 16 ∧ HasText bytes (21 + receivedTextSize buffSize bytes 16) := by
  have inside := (@leaves_requestNiNotify address _ (received_held fits 8)).2.2
  obtain ⟨sessionId, niType, type, encoding, encoding', value⟩ :=
    @requestNiNotify_value address bytes fits
  rw [← argumentsOf, value] at inside
  have first := inside _ List.mem_cons_self
  have second := inside _ (List.mem_cons_of_mem _ List.mem_cons_self)
  have found := getString_isSome
    (receivedAt_inside fits buffSize_int (by decide : (0 : Int) ≤ 16) (by decide))
  have behind := @found_behind_iff buffSize bytes 16 fits buffSize_int (by decide) (by decide)
  rw [Handled, value]
  refine requestNiNotify_inside.trans ?_
  rw [textReceived_iff first, textReceived_iff second, found]
  exact and_congr_right behind

/-- The length of a sentence is cut to the buffer behind it, which holds more than the
sentence. -/
theorem clippedLength_iff {length : BitVec 32} {count : Nat} (short : count < 16363) :
    (0 ≤ (clippedLength (.ofInt 32 21) length).toInt ∧
      (clippedLength (.ofInt 32 21) length).toInt ≤ count) ↔
      0 ≤ length.toInt ∧ length.toInt ≤ count := by
  have most : (.ofNat 32 buffSize - .ofInt 32 21 : BitVec 32).toInt = 16363 := by decide
  rw [clippedLength, most]
  split
  · rfl
  · rw [most]
    omega

theorem sentence_short : (sentence bytes).length < 16363 := by
  have limit := receivedTextSize_le buffSize bytes 16
  have prefixed := (@List.takeWhile_sublist _ (((received buffSize bytes).buff.drop 21).take
    (receivedTextSize buffSize bytes 16 - 1).toNat) (· ≠ 0)).length_le
  have taken := List.length_take_le (receivedTextSize buffSize bytes 16 - 1).toNat
    ((received buffSize bytes).buff.drop 21)
  have size : (buffSize : Int) = 16384 := rfl
  rw [sentence]
  omega

/-- What the arm of the NMEA sentences reads. -/
theorem nmea_value (fits : bytes.length ≤ buffSize) :
    let text := getString.call (receivedAt buffSize bytes 16)
    let length := getInt.call text.cursor
    (∃ timestamp, (argumentsOf address bytes .nmea).value =
      .nmea timestamp text.value (clippedLength (usedLength address text.value) length.value)) ∧
      (argumentsOf address bytes .nmea).cursor = length.cursor := by
  have timestamp := getLong_receivedAt fits buffSize_int (by decide : (0 : Int) ≤ 8) (by decide)
  rw [show (8 : Int) + 8 = 16 from rfl] at timestamp
  simp only [argumentsOf, mnl2halArguments, call_bind, call_pure, timestamp]
  exact ⟨⟨_, rfl⟩, trivial⟩

theorem handled_nmea (fits : bytes.length ≤ buffSize) :
    Handled ctx bytes (argumentsOf address bytes .nmea) ↔
      HasText bytes 16 ∧ 0 ≤ sentenceLength bytes ∧
        sentenceLength bytes ≤ (sentence bytes).length := by
  have texts := (@leaves_nmea address _ (received_held fits 8)).2.2
  obtain ⟨⟨timestamp, value⟩, cursor⟩ := @nmea_value address bytes fits
  have inside := receivedAt_inside fits buffSize_int (by decide : (0 : Int) ≤ 16) (by decide)
  rw [← argumentsOf, value, cursor, getInt_buff] at texts
  rw [Handled, value, cursor, getInt_buff, gpshalMnl2halInterface, updateNmea, handOn_inside,
    FrameworkCall.Inside]
  by_cases found : HasText bytes 16
  · have pointer := (getString_receivedAt fits buffSize_int (by decide : (0 : Int) ≤ 16)
      (by decide) found).1
    have ahead := sameAhead_getString fits buffSize_int (by decide : (0 : Int) ≤ 16)
      (by decide) found
    have chars := cString_receivedAt fits buffSize_int (by decide : (0 : Int) ≤ 16)
      (by decide) found
    have behind : (16 : Int) + 5 = 21 := rfl
    rw [behind] at pointer ahead chars
    have text := texts _ List.mem_cons_self 21 pointer
    have length : (getInt.call (getString.call (receivedAt buffSize bytes 16)).cursor).value =
      receivedInt buffSize bytes (21 + receivedTextSize buffSize bytes 16) :=
      (readsAhead_getInt _ _ ahead).1
    have cut := @clippedLength_iff (receivedInt buffSize bytes
      (21 + receivedTextSize buffSize bytes 16)) _ (@sentence_short bytes)
    rw [pointer, length, usedLength]
    constructor
    · intro sound
      obtain ⟨other, same, _, bounds⟩ := sound
      rw [← Option.some.inj same, chars] at bounds
      exact ⟨found, cut.mp bounds⟩
    · intro complete
      refine ⟨21, rfl, text, ?_⟩
      rw [chars]
      exact cut.mpr complete.2
  · constructor
    · intro sound
      obtain ⟨pointer, same, _⟩ := sound
      have there := (getString_isSome inside).mp (Option.isSome_iff_exists.mpr ⟨pointer, same⟩)
      exact absurd there found
    · intro complete
      exact absurd complete.1 found

end Arms

section Commands

variable {ctx : Context} {address : BitVec 64} {bytes : List UInt8}

theorem silent_inside {buff : List UInt8} {copied : List (Int × Int)} :
    (⟨[], []⟩ : Handling).Inside ctx bytes buff copied := by
  constructor
  · intro text read
    cases read
  · intro call called
    cases called

/-- A call that is made only where its callback is set. -/
theorem optional_inside {buff : List UInt8} {copied : List (Int × Int)} {set : Bool}
    {call : FrameworkCall} (inside : call.Inside ctx bytes buff copied) :
    (⟨[], if set then [call] else []⟩ : Handling).Inside ctx bytes buff copied := by
  cases set with
  | false => exact silent_inside
  | true => exact handOn_inside.mpr inside

/-- A location is handed on in a session only. -/
theorem handled_location (fits : bytes.length ≤ buffSize) :
    Handled ctx bytes (argumentsOf address bytes .location) ↔
      ctx.started = false ∨ Fills bytes gpsLocation.size := by
  have value : (argumentsOf address bytes .location).value =
    .location (structureOf bytes gpsLocation.size).value := rfl
  have filled := filledFrom_iff fits (by decide : 0 < gpsLocation.size) (by decide)
  have copied : copies (argumentsOf address bytes .location).accesses =
    copies (structureOf bytes gpsLocation.size).accesses := congrArg copies (List.append_nil _)
  rw [Handled, value, copied, gpshalMnl2halInterface, updateLocation]
  cases started : ctx.started with
  | false => exact iff_of_true silent_inside (.inl rfl)
  | true =>
      have session : ¬ true = false := by decide
      rw [if_pos rfl, handOn_inside, or_iff_right session]
      exact filled

end Commands

/-- The structures whose size is a long sum fit the buffer. -/
theorem gpsData_fits : 8 ≤ gpsData.size ∧ 12 + gpsData.size ≤ buffSize := by decide +kernel

/-- What the worker reads and hands on is in the message exactly if the structures of the
datagram are whole, their counts fit, and its strings are there. -/
theorem reportSafe_iff (ctx : Context) (address : BitVec 64) (reports : LocationReports)
    (datagram : Datagram) :
    ReportSafe ctx address reports datagram ↔ Complete ctx reports datagram.bytes := by
  have fits := datagram.fits
  rw [Complete]
  by_cases empty : datagram.bytes = []
  · exact iff_of_true (reportSafe_empty empty) (.inl empty)
  rw [or_iff_right empty]
  cases known : Mnl2halCmd.ofInt (receivedInt buffSize datagram.bytes 4) with
  | none => exact iff_of_true (reportSafe_unknown empty known) trivial
  | some cmd =>
      have handled (other : cmd ≠ .location) :=
        @reportSafe_iff_handled ctx address reports datagram empty cmd known
          fun early => other early.1
      have whole {size : Nat} (positive : 0 < size) (room : 12 + size ≤ buffSize) :=
        filledFrom_iff fits positive room
      cases cmd with
      | location =>
          by_cases early : reports.early
          · exact iff_of_true (reportSafe_early empty known early) (.inl early)
          · rw [reportSafe_iff_handled empty known fun both => early both.2, or_iff_right early]
            exact handled_location fits
      | gpsStatus =>
          refine (handled (by decide)).trans ?_
          rw [handled_structure rfl fun _ _ => rfl]
          exact whole (by decide) (by decide)
      | gpsSv =>
          refine (handled (by decide)).trans ?_
          rw [handled_structure rfl fun _ _ => rfl]
          have field := @filled_field_iff ctx datagram.bytes gnssSvInfo.size 0 4 fits (by decide)
            (by decide) (by decide) fun bytes => 0 ≤ int32LE bytes
          refine Iff.trans ?_ field
          exact and_congr_right fun _ => numSvs_iff _
      | nmea => exact (handled (by decide)).trans (handled_nmea fits)
      | gpsCapabilities =>
          refine (handled (by decide)).trans ?_
          rw [handled_structure rfl fun _ _ => rfl]
          exact whole (by decide) (by decide)
      | gpsMeasurements =>
          refine (handled (by decide)).trans ?_
          rw [handled_structure rfl fun _ _ => rfl]
          have positive : 0 < gpsData.size := Nat.lt_of_lt_of_le (by decide) gpsData_fits.1
          exact @filled_field_iff ctx datagram.bytes gpsData.size 0 8 fits positive
            gpsData_fits.2 gpsData_fits.1 fun bytes => fromLE bytes ≤ 32
      | gpsNavigation =>
          refine (handled (by decide)).trans ?_
          rw [handled_structure rfl fun _ _ => rfl]
          exact @filled_field_iff ctx datagram.bytes gpsNavMsg.size 8 8 fits (by decide)
            (by decide) (by decide) fun bytes => fromLE bytes ≤ 40
      | gnssMeasurements =>
          refine (handled (by decide)).trans ?_
          rw [handled_structure rfl fun _ _ => rfl]
          exact @filled_field_iff ctx datagram.bytes gnssData.size 0 8 fits (by decide)
            (by decide) (by decide) fun bytes => fromLE bytes ≤ 64
      | gnssNavigation =>
          refine (handled (by decide)).trans ?_
          rw [handled_structure rfl fun _ _ => rfl]
          exact @filled_field_iff ctx datagram.bytes gnssNavMsg.size 24 8 fits (by decide)
            (by decide) (by decide) fun bytes => fromLE bytes = 0
      | requestDataConn =>
          refine (handled (by decide)).trans ?_
          rw [handled_structure rfl fun _ _ => rfl]
          exact whole (by decide) (by decide)
      | requestNiNotify => exact (handled (by decide)).trans (handled_requestNiNotify fits)
      | vzwDebugOutput => exact (handled (by decide)).trans (handled_vzwDebugOutput fits)
      | mnldReboot => exact iff_of_true ((handled (by decide)).mpr silent_inside) trivial
      | requestSetId =>
          exact iff_of_true ((handled (by decide)).mpr (optional_inside trivial)) trivial
      | requestRefLoc =>
          exact iff_of_true ((handled (by decide)).mpr (optional_inside trivial)) trivial
      | _ => exact iff_of_true ((handled (by decide)).mpr (handOn_inside.mpr trivial)) trivial

/-- The command of the debug output without a string: `strlen` is called with `NULL`. -/
theorem not_reportSafe :
    ¬ ReportSafe ⟨true, true, true, [], 64, Nat.le_refl 64⟩ 0 LocationReports.start
      ⟨[1, 0, 0, 0, 51, 1, 0, 0], by decide⟩ := by
  have known : Mnl2halCmd.ofInt (receivedInt buffSize [1, 0, 0, 0, 51, 1, 0, 0] 4) =
      some .vzwDebugOutput := by
    rw [receivedInt_eq]
    decide
  have fits : [1, 0, 0, 0, 51, 1, 0, 0].length ≤ buffSize := by decide
  have absent : ¬ HasText [1, 0, 0, 0, 51, 1, 0, 0] 8 :=
    fun found => found.2.1 (receivedAt_getD 8 8)
  have other : ¬ (Mnl2halCmd.vzwDebugOutput = .location ∧ LocationReports.start.early) :=
    fun both => absurd both.1 (by decide)
  intro safe
  have handled := (@reportSafe_iff_handled _ _ _ ⟨[1, 0, 0, 0, 51, 1, 0, 0], fits⟩
    (List.cons_ne_nil _ _) _ known other).mp safe
  exact absent ((handled_vzwDebugOutput fits).mp handled)

end Connectivity.GpsHal
