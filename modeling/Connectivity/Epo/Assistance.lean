import Connectivity.Epo.Period
import Connectivity.Epo.Pieces

set_option autoImplicit false

/- `send_assistance_data` of gps_hal/src/gpsinf3337.c: the EPO records that the receiver
gets for the
current hour. -/
namespace Connectivity.Epo

open Bytes Calendar

def mtkEpoSvNumber : Nat := 32
def mtkEpoRecordSize : Nat := 72
def mtkEpoSegmentNum : Int := 30 * 4

/-- What lies in `epo_gps_hour` and `epobuf` before they are read. -/
structure AssistanceStack where
  epoGpsHour : Vector UInt8 4
  epobuf : Vector UInt8 72

/-- A PMTK721 sentence: the number of the satellite and the words of `epobuf`. -/
structure EpoSentence where
  sv : Nat
  words : List (BitVec 32)
deriving DecidableEq

/-- `read` into a buffer whose end stays if the file ends, and where the file is then. -/
def readInto (file : List UInt8) (pos : Nat) (buf : List UInt8) : List UInt8 × Nat :=
  let data := (file.drop pos).take buf.length
  (data ++ buf.drop data.length, pos + data.length)

def epobufWords (epobuf : List UInt8) : List (BitVec 32) :=
  (List.range 18).map fun word => readWord epobuf (4 * word)

/-- The hour that the file begins with. -/
def epoGpsHour (file : List UInt8) (stack : AssistanceStack) : BitVec 32 :=
  readWord (readInto file 0 stack.epoGpsHour.toList).1 0 &&& 0x00FFFFFF

/-- The loop over the satellites; what `read` returns is not looked at. -/
def sendRecords (file : List UInt8) : Nat → Nat → List UInt8 → Nat → List EpoSentence
  | 0, _, _, _ => []
  | left + 1, pos, epobuf, i =>
      let r := readInto file pos epobuf
      ⟨i + 1, epobufWords r.1⟩ :: sendRecords file left r.2 r.1 (i + 1)

/-- The sentences that are sent behind the time, or `none` if nothing is sent. -/
def sendAssistanceData (file : Option (List UInt8)) (stack : AssistanceStack)
    (iYr iMo iDay iHr : Int) : Option (List EpoSentence) :=
  match file with
  | none => none
  | some file =>
      let currentGpsHour := utcToGpsHour iYr iMo iDay iHr
      let segment := (currentGpsHour - (epoGpsHour file stack).toNat).tdiv 6
      if segment < 0 ∨ mtkEpoSegmentNum ≤ segment then none
      else
        some (sendRecords file mtkEpoSvNumber
          (segment.toNat * mtkEpoRecordSize * mtkEpoSvNumber) stack.epobuf.toList 0)

/-- The hours from the beginning of GPS time to an hour of a day. -/
def gpsHour (date : Date) (hour : Nat) : Int :=
  ((date.number 0 : Int) - epoch.number 0) * 24 + hour

/-- The sentences of a set of a file: its records, one for each satellite of the file's type. -/
def setSentences (type : EpoType) (file : List UInt8) (set : Nat) : List EpoSentence :=
  (List.range type.maxSvNum).map fun i =>
    ⟨i + 1, epobufWords ((file.drop (oneSvSize * (type.maxSvNum * set + i))).take oneSvSize)⟩

/-- The sentences of the one set, whole in the file, whose six hours the hour is in. -/
def IsCurrentSet (type : EpoType) (file : List UInt8) (hour : Int) (sent : List EpoSentence) :
    Prop :=
  ∃ set : Nat, (hourWord file 0).toNat + 6 * (set : Int) ≤ hour ∧
    hour < (hourWord file 0).toNat + 6 * (set : Int) + 6 ∧
    oneSvSize * (type.maxSvNum * (set + 1)) ≤ file.length ∧ sent = setSentences type file set

/-- The hour is six before the first set or behind all segments, or it is that of a set of 32
satellites that the file has. -/
def SetAtHand (type : EpoType) (file : List UInt8) (first : Nat) (hour : Int) : Prop :=
  hour + 6 ≤ first ∨ (first : Int) + 720 ≤ hour ∨
    (type = .gps ∧ first ≤ hour ∧ 2304 * ((hour - first).toNat / 6 + 1) ≤ file.length)

section Hours

theorem yearStart_add (base years more : Nat) :
    yearStart base (years + more) = yearStart base years + yearStart (base + years) more := by
  induction more with
  | zero => rfl
  | succ more ih =>
      rw [← Nat.add_assoc, yearStart, ih, yearStart, Nat.add_assoc, Nat.add_assoc base]

theorem epoch_number : epoch.number 0 = yearStart 0 1980 + 5 := by
  have inYear : monthStart (leap epoch.year) epoch.month + (epoch.day - 1) = 5 := by decide
  rw [Date.number, inYear]
  rfl

/-- The hour that is computed is the one of the calendar from 1980 on. -/
theorem utcToGpsHour_gpsHour {date : Date} (later : 1980 ≤ date.year) (hour : Nat) :
    utcToGpsHour date.year date.month date.day hour = gpsHour date hour := by
  have parts : date.number 0 = yearStart 0 1980 + date.number 1980 := by
    have years : date.year - 0 = 1980 + (date.year - 1980) := by omega
    rw [Date.number, Date.number, years, yearStart_add, Nat.add_assoc]
  rw [utcToGpsHour_date later, gpsHour, epoch_number, parts]
  push_cast
  omega

theorem gpsHour_before {date : Date} (before : date.year < 1980) {hour : Nat} (valid : hour < 24) :
    gpsHour date hour < -6 := by
  have inside := (Date.number_inside (d := date) (Nat.zero_le _)).2
  have bound := yearStart_monotone 0 (show date.year - 0 + 1 ≤ 1980 by omega)
  rw [gpsHour, epoch_number]
  omega

theorem doy_le (month : Nat) : doy.getD month 0 ≤ 334 := by
  rw [List.getD_eq_getElem?_getD]
  cases found : doy[month]? with
  | none => exact Nat.zero_le _
  | some days =>
      have bounds : ∀ days ∈ doy, days ≤ 334 := by decide
      exact bounds days (List.mem_of_getElem? found)

theorem utcToGpsHour_before {date : Date} (before : date.year < 1980) {hour : Nat}
    (valid : hour < 24) : utcToGpsHour date.year date.month date.day hour < -6 := by
  have day : date.day ≤ 31 := Nat.le_trans date.day_valid.2 (monthLength_bounds _ _).2
  have month := doy_le ((date.month : Int) - 1).toNat
  have none : ((date.year : Int) - 1980 + 1).toNat = 0 := by omega
  have zero : leapDays 0 = 0 := rfl
  simp only [utcToGpsHour, none, zero]
  split
  · split
    · omega
    · omega
  · split
    · omega
    · omega

/-- The segment goes towards zero. -/
theorem segment_nonneg {hours : Int} (later : 0 ≤ hours) : hours.tdiv 6 = hours / 6 :=
  Int.tdiv_eq_ediv_of_nonneg later

theorem segment_before {hours : Int} (before : hours ≤ 0) : hours.tdiv 6 = -(-hours / 6) := by
  have positive : (-hours).tdiv 6 = -hours / 6 := Int.tdiv_eq_ediv_of_nonneg (by omega)
  rw [Int.neg_tdiv] at positive
  omega

end Hours

section Records

variable {file : List UInt8}

theorem readInto_inside {pos : Nat} {buf : List UInt8} (inside : pos + buf.length ≤ file.length) :
    readInto file pos buf = ((file.drop pos).take buf.length, pos + buf.length) := by
  have length : ((file.drop pos).take buf.length).length = buf.length := by
    rw [List.length_take, List.length_drop]
    omega
  rw [readInto, length, List.drop_length, List.append_nil]

theorem length_sendRecords (left pos : Nat) (epobuf : List UInt8) (i : Nat) :
    (sendRecords file left pos epobuf i).length = left := by
  induction left generalizing pos epobuf i with
  | zero => rfl
  | succ left ih => rw [sendRecords, List.length_cons, ih]

/-- While the file lasts the records are sent as they are. -/
theorem sendRecords_inside {left pos : Nat} {epobuf : List UInt8} {i : Nat}
    (size : epobuf.length = oneSvSize) (inside : pos + oneSvSize * left ≤ file.length) :
    sendRecords file left pos epobuf i = (List.range left).map fun record =>
      ⟨i + record + 1,
        epobufWords ((file.drop (pos + oneSvSize * record)).take oneSvSize)⟩ := by
  induction left generalizing pos epobuf i with
  | zero => rfl
  | succ left ih =>
      have step : oneSvSize * (left + 1) = oneSvSize * left + oneSvSize := Nat.mul_succ ..
      have here : pos + epobuf.length ≤ file.length := by omega
      have read : ((file.drop pos).take oneSvSize).length = oneSvSize := by
        rw [List.length_take, List.length_drop]
        omega
      rw [sendRecords, readInto_inside here, size, ih read (by omega), List.range_succ_eq_map,
        List.map_cons, List.map_map]
      congr 1
      apply List.map_congr_left
      intro record _
      show EpoSentence.mk _ _ = EpoSentence.mk _ _
      have place : pos + oneSvSize + oneSvSize * record = pos + oneSvSize * (record + 1) := by
        rw [Nat.mul_succ]
        omega
      have number : i + 1 + record + 1 = i + (record + 1) + 1 := by omega
      rw [place, number]

/-- A set of 32 records. -/
theorem sendRecords_set {set : Nat} {epobuf : List UInt8} (size : epobuf.length = oneSvSize)
    (inside : 2304 * (set + 1) ≤ file.length) :
    sendRecords file mtkEpoSvNumber (set * mtkEpoRecordSize * mtkEpoSvNumber) epobuf 0 =
      setSentences .gps file set := by
  have place : set * mtkEpoRecordSize * mtkEpoSvNumber = oneSvSize * (32 * set) := by
    show set * 72 * 32 = 72 * (32 * set)
    omega
  have fits : oneSvSize * (32 * set) + oneSvSize * mtkEpoSvNumber ≤ file.length := by
    show 72 * (32 * set) + 72 * 32 ≤ file.length
    omega
  rw [place, sendRecords_inside size fits]
  apply List.map_congr_left
  intro record _
  have number : 0 + record + 1 = record + 1 := by omega
  rw [number, ← Nat.mul_add]
  rfl

theorem epoGpsHour_inside {stack : AssistanceStack} (inside : 4 ≤ file.length) :
    epoGpsHour file stack = hourWord file 0 := by
  have length : stack.epoGpsHour.toList.length = 4 := Vector.length_toList
  have word : readWord (file.take 4) 0 = readWord file 0 := by
    rw [readWord, readWord, window_inside inside, window_inside (by rw [List.length_take]; omega),
      List.take_take]
    rfl
  rw [epoGpsHour, readInto_inside (by omega), length, List.drop_zero, word]
  rfl

end Records

section Segments

variable {type : EpoType} {bytes : List UInt8} {stack : AssistanceStack} {iYr iMo iDay iHr : Int}

theorem send_outside
    (outside : utcToGpsHour iYr iMo iDay iHr + 6 ≤ (epoGpsHour bytes stack).toNat ∨
      ((epoGpsHour bytes stack).toNat : Int) + 720 ≤ utcToGpsHour iYr iMo iDay iHr) :
    sendAssistanceData (some bytes) stack iYr iMo iDay iHr = none := by
  unfold sendAssistanceData
  dsimp only
  rw [if_pos]
  show _ ∨ 120 ≤ _
  cases outside with
  | inl early =>
      left
      rw [segment_before (by omega)]
      omega
  | inr late =>
      right
      rw [segment_nonneg (by omega)]
      omega

/-- An hour before the first set by less than six is taken for one of that set. -/
theorem send_inside
    (early : ¬ utcToGpsHour iYr iMo iDay iHr + 6 ≤ (epoGpsHour bytes stack).toNat)
    (late : ¬ ((epoGpsHour bytes stack).toNat : Int) + 720 ≤ utcToGpsHour iYr iMo iDay iHr) :
    sendAssistanceData (some bytes) stack iYr iMo iDay iHr =
      some (sendRecords bytes mtkEpoSvNumber
        ((utcToGpsHour iYr iMo iDay iHr - (epoGpsHour bytes stack).toNat).toNat / 6 *
          mtkEpoRecordSize * mtkEpoSvNumber) stack.epobuf.toList 0) := by
  have segment : (utcToGpsHour iYr iMo iDay iHr - (epoGpsHour bytes stack).toNat).tdiv 6 =
      ((utcToGpsHour iYr iMo iDay iHr - (epoGpsHour bytes stack).toNat).toNat / 6 : Nat) := by
    by_cases before : utcToGpsHour iYr iMo iDay iHr - (epoGpsHour bytes stack).toNat ≤ 0
    · rw [segment_before before]
      omega
    · rw [segment_nonneg (by omega)]
      omega
  unfold sendAssistanceData
  dsimp only
  rw [segment, if_neg]
  · rfl
  · show ¬ (_ ∨ 120 ≤ _)
    omega

/-- The records that are sent are those of the current set if it is a set of 32 that has begun and
that the file has. -/
theorem isCurrentSet_iff {hour : Int} :
    IsCurrentSet type bytes hour (sendRecords bytes mtkEpoSvNumber
        ((hour - (epoGpsHour bytes stack).toNat).toNat / 6 * mtkEpoRecordSize * mtkEpoSvNumber)
        stack.epobuf.toList 0) ↔
      type = .gps ∧ (epoGpsHour bytes stack).toNat ≤ hour ∧
        2304 * ((hour - (epoGpsHour bytes stack).toNat).toNat / 6 + 1) ≤ bytes.length := by
  have size : stack.epobuf.toList.length = oneSvSize := Vector.length_toList
  constructor
  · rintro ⟨set, begun, over_, whole, sent⟩
    have count := congrArg List.length sent
    rw [length_sendRecords, setSentences, List.length_map, List.length_range] at count
    have gps : type = .gps := by
      cases type with
      | gps => rfl
      | gpsGlo => cases count
    subst gps
    have whole : 72 * (32 * (set + 1)) ≤ bytes.length := whole
    rw [epoGpsHour_inside (by omega)]
    refine ⟨rfl, by omega, ?_⟩
    have same : (hour - (hourWord bytes 0).toNat).toNat / 6 = set := by omega
    rw [same]
    omega
  · rintro ⟨gps, begun, whole⟩
    subst gps
    rw [epoGpsHour_inside (by omega)] at begun whole ⊢
    refine ⟨(hour - (hourWord bytes 0).toNat).toNat / 6, by omega, by omega, ?_,
      sendRecords_set size whole⟩
    show 72 * (32 * _) ≤ bytes.length
    omega

theorem not_current {hour : Int} (same : utcToGpsHour iYr iMo iDay iHr = hour)
    (early : ¬ hour + 6 ≤ (epoGpsHour bytes stack).toNat)
    (late : ¬ ((epoGpsHour bytes stack).toNat : Int) + 720 ≤ hour)
    (missing : ¬ (type = .gps ∧ (epoGpsHour bytes stack).toNat ≤ hour ∧
      2304 * ((hour - (epoGpsHour bytes stack).toNat).toNat / 6 + 1) ≤ bytes.length)) :
    ¬ ∀ sent ∈ sendAssistanceData (some bytes) stack iYr iMo iDay iHr,
      ∃ file ∈ some bytes, IsCurrentSet type file hour sent := by
  subst same
  rw [send_inside early late]
  intro current
  obtain ⟨file, here, set⟩ := current _ rfl
  cases here
  exact missing (isCurrentSet_iff.mp set)

end Segments

/-- What is sent is the set of the current hour, or nothing, exactly if the hour is six before the
first set or behind all segments or its set is at hand. -/
theorem assistance_iff (type : EpoType) (file : Option (List UInt8)) (stack : AssistanceStack)
    (date : Date) (hour : Fin 24) :
    (∀ sent ∈ sendAssistanceData file stack date.year date.month date.day hour.val,
        ∃ bytes ∈ file, IsCurrentSet type bytes (gpsHour date hour) sent) ↔
      ∀ bytes ∈ file,
        SetAtHand type bytes (epoGpsHour bytes stack).toNat (gpsHour date hour) := by
  cases file with
  | none => exact iff_of_true (fun _ none => by cases none) fun _ none => by cases none
  | some bytes =>
      by_cases later : 1980 ≤ date.year
      · have same := utcToGpsHour_gpsHour later hour.val
        by_cases early : gpsHour date hour + 6 ≤ (epoGpsHour bytes stack).toNat
        · rw [send_outside (Or.inl (by rw [same]; exact early))]
          refine iff_of_true (fun _ none => by cases none) fun other member => ?_
          cases member
          exact Or.inl early
        · by_cases late : ((epoGpsHour bytes stack).toNat : Int) + 720 ≤ gpsHour date hour
          · rw [send_outside (Or.inr (by rw [same]; exact late))]
            refine iff_of_true (fun _ none => by cases none) fun other member => ?_
            cases member
            exact Or.inr (Or.inl late)
          · rw [send_inside (by rw [same]; exact early) (by rw [same]; exact late), same]
            constructor
            · intro current other member
              cases member
              obtain ⟨found, here, set⟩ := current _ rfl
              cases here
              exact Or.inr (Or.inr (isCurrentSet_iff.mp set))
            · intro atHand sent member
              cases member
              refine ⟨bytes, rfl, isCurrentSet_iff.mpr ?_⟩
              exact ((atHand bytes rfl).resolve_left early).resolve_left late
      · have before : date.year < 1980 := by omega
        have computed := utcToGpsHour_before before hour.isLt
        have current := gpsHour_before before hour.isLt
        rw [send_outside (Or.inl (by omega))]
        refine iff_of_true (fun _ none => by cases none) fun other member => ?_
        cases member
        exact Or.inl (by omega)

/-- One hour before the first set its records are sent; in the second window of a file of one set,
records that are not in the file; of a set of 56, the first 32. -/
theorem not_assistance :
    let stack : AssistanceStack := ⟨.replicate 4 0, .replicate 72 0⟩
    let file : List UInt8 := [6, 0, 0, 0] ++ List.replicate 2300 0
    let large : List UInt8 := [6, 0, 0, 0] ++ List.replicate 4028 0
    (¬ ∀ sent ∈ sendAssistanceData (some file) stack 1980 1 6 5,
        ∃ bytes ∈ some file, IsCurrentSet .gps bytes 5 sent) ∧
      (¬ ∀ sent ∈ sendAssistanceData (some file) stack 1980 1 6 12,
        ∃ bytes ∈ some file, IsCurrentSet .gps bytes 12 sent) ∧
      ¬ ∀ sent ∈ sendAssistanceData (some large) stack 1980 1 6 6,
        ∃ bytes ∈ some large, IsCurrentSet .gpsGlo bytes 6 sent := by
  intro stack file large
  have first : epoGpsHour file stack = 6 := by decide
  have other : epoGpsHour large stack = 6 := by decide
  have length : file.length = 2304 := by
    rw [List.length_append, List.length_replicate]
    rfl
  have six : (6 : BitVec 32).toNat = 6 := rfl
  refine ⟨?_, ?_, ?_⟩
  · have hour : utcToGpsHour 1980 1 6 5 = 5 := by decide
    apply not_current hour
    · rw [first, six]
      omega
    · rw [first, six]
      omega
    · rw [first, six]
      omega
  · have hour : utcToGpsHour 1980 1 6 12 = 12 := by decide
    apply not_current hour
    · rw [first, six]
      omega
    · rw [first, six]
      omega
    · rw [first, six, length]
      omega
  · have hour : utcToGpsHour 1980 1 6 6 = 6 := by decide
    apply not_current hour
    · rw [other, six]
      omega
    · rw [other, six]
      omega
    · exact fun gps => EpoType.noConfusion gps.1

end Connectivity.Epo
