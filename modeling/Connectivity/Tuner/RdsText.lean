import Connectivity.Bytes.LittleEndian

set_option autoImplicit false

/- The texts of an RDS record: what the broadcast-radio HAL hands to the metadata, and what the
FM service returns to its client. The getters of the two are copies of one code. -/
namespace Connectivity.Tuner

open Bytes

def errRdsNoData : Int := 1013

def rdsEventPtyCode : Nat := 0x0004

def rdsEventProgramname : Nat := 0x0008

def rdsEventLastRadiotext : Nat := 0x0040

/-- An `RDSData_Struct` as the driver has filled it, and what lies in memory behind it. -/
structure RdsRecord where
  memory : List UInt8
  whole : 556 ≤ memory.length
deriving DecidableEq, Repr

/-- `PTY`. -/
def ptyOffset : Nat := 27

/-- `PS_Data.PS[3]`, which `PS_Data.Addr_Cnt` follows. -/
def psOffset : Nat := 272

/-- `sizeof(rds->PS_Data.PS[3])`. -/
def psSize : Nat := 8

/-- `RT_Data.TextData[3]`, which `RT_Data.GetLength` follows. -/
def textDataOffset : Nat := 482

def textDataSize : Nat := 64

/-- `RT_Data.TextLength`. -/
def textLengthOffset : Nat := 548

def eventStatusOffset : Nat := 554

/-- A character out of [0x20, 0x7E] becomes a space. -/
def changeChar (c : UInt8) : UInt8 := if 0x20 ≤ c ∧ c ≤ 0x7E then c else 0x20

/-- `COM_change_string`, in place. -/
def changeString (memory : List UInt8) (offset len : Nat) : List UInt8 :=
  memory.mapIdx fun i c => if offset ≤ i ∧ i < offset + len then changeChar c else c

/-- The string that a pointer denotes. -/
def textAt (memory : List UInt8) (offset : Nat) : List UInt8 :=
  (memory.drop offset).takeWhile (· ≠ 0)

theorem changeString_length (memory : List UInt8) (offset len : Nat) :
    (changeString memory offset len).length = memory.length := List.length_mapIdx

namespace RdsRecord

variable (rds : RdsRecord)

def eventStatus : Nat := fromLE (window rds.memory eventStatusOffset 2)

def Event (bit : Nat) : Prop := rds.eventStatus &&& bit ≠ 0

instance (bit : Nat) : Decidable (rds.Event bit) := inferInstanceAs (Decidable (_ ≠ _))

def pty : UInt8 := rds.memory.getD ptyOffset 0

def textLength : Nat := (rds.memory.getD textLengthOffset 0).toNat

def changed (offset len : Nat) : RdsRecord where
  memory := changeString rds.memory offset len
  whole := by
    rw [changeString_length]
    exact rds.whole

/-- `COM_get_ps`: a pointer into the record and a length. -/
def getPs : RdsRecord × Except Int (Nat × Nat) :=
  if rds.Event rdsEventProgramname then (rds.changed psOffset psSize, .ok (psOffset, psSize))
  else (rds, .error (-errRdsNoData))

/-- `COM_get_rt`. -/
def getRt : RdsRecord × Except Int (Nat × Nat) :=
  if rds.Event rdsEventLastRadiotext then
    (rds.changed textDataOffset rds.textLength, .ok (textDataOffset, rds.textLength))
  else (rds, .error (-errRdsNoData))

/-- `COM_get_pty`. -/
def getPty : Except Int UInt8 :=
  if rds.Event rdsEventPtyCode then .ok rds.pty else .error (-errRdsNoData)

end RdsRecord

/-- What is handed to the metadata: under `RADIO_METADATA_KEY_RBDS_PTY`,
`RADIO_METADATA_KEY_RDS_PS` and `RADIO_METADATA_KEY_TITLE`. -/
inductive Entry
  | pty (value : UInt8)
  | ps (text : List UInt8)
  | title (text : List UInt8)
deriving DecidableEq, Repr

/-- What the calls of the metadata library return. -/
structure MetadataReturns where
  allocate : Int
  addPty : Int
  addPs : Int
  addTitle : Int
deriving DecidableEq, Repr

/-- `prepare_metadata` on its way: what it will return, the record, and what it has handed over. -/
structure Preparing where
  ret : Int
  rds : RdsRecord
  handed : List Entry
deriving DecidableEq, Repr

namespace Preparing

variable (s : Preparing) (status : RdsRecord)

def addPty (returned : Int) : Preparing :=
  if s.ret = 0 ∧ status.Event rdsEventPtyCode then
    match s.rds.getPty with
    | .ok pty => { s with ret := returned, handed := s.handed ++ [.pty pty] }
    | .error ret => { s with ret := ret }
  else s

def addPs (returned : Int) : Preparing :=
  if s.ret = 0 ∧ status.Event rdsEventProgramname then
    match s.rds.getPs with
    | (rds, .ok (tmpPs, _)) =>
        { ret := returned, rds := rds, handed := s.handed ++ [.ps (textAt rds.memory tmpPs)] }
    | (rds, .error ret) => { s with ret := ret, rds := rds }
  else s

def addTitle (returned : Int) : Preparing :=
  if s.ret = 0 ∧ status.Event rdsEventLastRadiotext then
    match s.rds.getRt with
    | (rds, .ok (tmpRt, _)) =>
        { ret := returned, rds := rds, handed := s.handed ++ [.title (textAt rds.memory tmpRt)] }
    | (rds, .error ret) => { s with ret := ret, rds := rds }
  else s

end Preparing

/-- `prepare_metadata` with the record that is read, if one is: what it returns, and what it hands
to the metadata. The event status is that of the record as it was read. -/
def prepareMetadata (returns : MetadataReturns) (read : Option RdsRecord) : Int × List Entry :=
  if returns.allocate ≠ 0 then (returns.allocate, [])
  else
    match read with
    | none => (-errRdsNoData, [])
    | some status =>
        let s : Preparing := ⟨0, status, []⟩
        let s := s.addPty status returns.addPty
        let s := s.addPs status returns.addPs
        let s := s.addTitle status returns.addTitle
        (s.ret, s.handed)

/-- What the FM service gives its client for a pointer and a length, `allocated` if there is
memory for a copy with a terminator. -/
def serviceText (allocated : Bool) (got : RdsRecord × Except Int (Nat × Nat)) :
    Option (List UInt8) :=
  match got with
  | (_, .error _) => none
  | (rds, .ok (offset, len)) =>
      if len = 0 ∨ allocated = false then none
      else some ((window rds.memory offset len ++ [0]).takeWhile (· ≠ 0))

/-- The string of a callback; `Result::FAILED` goes with an empty one. -/
def callbackText (text : Option (List UInt8)) : List UInt8 := text.getD []

def getPrgmServices (allocated : Bool) (rds : RdsRecord) : Option (List UInt8) :=
  serviceText allocated rds.getPs

def getRadioText (allocated : Bool) (rds : RdsRecord) : Option (List UInt8) :=
  serviceText allocated rds.getRt

namespace RdsRecord

variable (rds : RdsRecord)

/-- The 8 bytes of the program service, as they are shown. -/
def psText : List UInt8 := (window rds.memory psOffset psSize).map changeChar

/-- The first `TextLength` bytes of the radio text, as they are shown. -/
def radioText : List UInt8 := (window rds.memory textDataOffset rds.textLength).map changeChar

/-- A text that is handed over is that of the record, and what the FM service returns. -/
def Exact : Entry → Prop
  | .pty _ => True
  | .ps text => text = rds.psText ∧ text = callbackText (getPrgmServices true rds)
  | .title text => text = rds.radioText ∧ text = callbackText (getRadioText true rds)

/-- The name of the program comes to the metadata. -/
def HandsPs (returns : MetadataReturns) : Prop :=
  returns.allocate = 0 ∧ (rds.Event rdsEventPtyCode → returns.addPty = 0) ∧
    rds.Event rdsEventProgramname

/-- The radio text comes to the metadata. -/
def HandsTitle (returns : MetadataReturns) : Prop :=
  returns.allocate = 0 ∧ (rds.Event rdsEventPtyCode → returns.addPty = 0) ∧
    (rds.Event rdsEventProgramname → returns.addPs = 0) ∧ rds.Event rdsEventLastRadiotext

instance (returns : MetadataReturns) : Decidable (rds.HandsPs returns) :=
  inferInstanceAs (Decidable (_ ∧ _))

instance (returns : MetadataReturns) : Decidable (rds.HandsTitle returns) :=
  inferInstanceAs (Decidable (_ ∧ _))

/-- Behind each text that comes to the metadata lies a terminator: `PS_Data.Addr_Cnt` is zero, and
the byte behind the radio text, in the rest of its field or in `RT_Data.GetLength`. -/
structure Terminated (returns : MetadataReturns) : Prop where
  ps : rds.HandsPs returns → rds.memory.getD (psOffset + psSize) 0 = 0
  title : rds.HandsTitle returns → rds.memory.getD (textDataOffset + rds.textLength) 0 = 0

end RdsRecord

section Bytes

variable {memory : List UInt8} {offset len : Nat}

theorem changeChar_ne_zero (c : UInt8) : changeChar c ≠ 0 := by
  unfold changeChar
  split
  case isTrue shown =>
      intro zero
      rw [zero] at shown
      exact absurd shown.1 (by decide)
  case isFalse => decide

theorem zero_not_mem_changed (text : List UInt8) : 0 ∉ text.map changeChar := by
  intro member
  obtain ⟨c, _, same⟩ := List.mem_map.mp member
  exact changeChar_ne_zero c same

theorem takeWhile_terminated {text rest : List UInt8} (noNul : 0 ∉ text) :
    (text ++ 0 :: rest).takeWhile (· ≠ 0) = text := by
  have all : ∀ c ∈ text, decide (c ≠ 0) = true := by
    intro c member
    exact decide_eq_true fun zero => noNul (zero ▸ member)
  rw [List.takeWhile_append_of_pos all, List.takeWhile_cons_of_neg (by decide), List.append_nil]

/-- A string that ends where it should has its terminator there. -/
theorem takeWhile_eq_iff {text rest : List UInt8} {byte : UInt8} (noNul : 0 ∉ text) :
    (text ++ byte :: rest).takeWhile (· ≠ 0) = text ↔ byte = 0 := by
  have all : ∀ c ∈ text, decide (c ≠ 0) = true := by
    intro c member
    exact decide_eq_true fun zero => noNul (zero ▸ member)
  constructor
  · intro same
    by_contra other
    have goes : decide (byte ≠ 0) = true := decide_eq_true other
    rw [List.takeWhile_append_of_pos all,
      List.takeWhile_cons_of_pos (p := fun c => decide (c ≠ 0)) goes] at same
    exact absurd (List.append_right_eq_self.mp same) (List.cons_ne_nil _ _)
  · intro zero
    rw [zero]
    exact takeWhile_terminated noNul

theorem drop_eq_window (inside : offset + len < memory.length) :
    memory.drop offset =
      window memory offset len ++ memory.getD (offset + len) 0 ::
        memory.drop (offset + len + 1) := by
  have front : (memory.drop offset).take len = window memory offset len := by
    apply List.ext_getElem
    · rw [List.length_take, List.length_drop, window_length]
      omega
    · intro i _ small
      rw [window_length] at small
      have bound : offset + i < memory.length := by omega
      simp [window, bound]
  have byte : memory[offset + len] = memory.getD (offset + len) 0 := by simp [inside]
  rw [← front, ← byte, ← List.drop_eq_getElem_cons inside, ← List.drop_drop,
    List.take_append_drop]

theorem getD_changeString {i : Nat} (outside : i < offset ∨ offset + len ≤ i) :
    (changeString memory offset len).getD i 0 = memory.getD i 0 := by
  have other : ¬ (offset ≤ i ∧ i < offset + len) := by omega
  by_cases inside : i < memory.length
  · simp [changeString, inside, other]
  · simp [changeString, inside]

theorem window_changeString (inside : offset + len ≤ memory.length) :
    window (changeString memory offset len) offset len =
      (window memory offset len).map changeChar := by
  rw [window, window, List.map_map]
  apply List.map_congr_left
  intro i member
  have small : i < len := List.mem_range.mp member
  have bound : offset + i < memory.length := by omega
  simp [changeString, bound, small]

/-- The string that begins with the changed characters is theirs exactly if a terminator
follows them. -/
theorem textAt_changeString (inside : offset + len < memory.length) :
    textAt (changeString memory offset len) offset = (window memory offset len).map changeChar ↔
      memory.getD (offset + len) 0 = 0 := by
  have room : offset + len < (changeString memory offset len).length := by
    rw [changeString_length]
    exact inside
  rw [textAt, drop_eq_window room, window_changeString (Nat.le_of_lt inside),
    getD_changeString (Or.inr (Nat.le_refl _))]
  exact takeWhile_eq_iff (zero_not_mem_changed _)

end Bytes

namespace RdsRecord

variable {rds : RdsRecord}

/-- The FM service returns the name of the program that was received. -/
theorem getPrgmServices_text (event : rds.Event rdsEventProgramname) :
    callbackText (getPrgmServices true rds) = rds.psText := by
  have inside : psOffset + psSize ≤ rds.memory.length := Nat.le_trans (by decide) rds.whole
  have some : ¬ (psSize = 0 ∨ true = false) := by decide
  rw [getPrgmServices, getPs, if_pos event, serviceText, if_neg some, callbackText,
    Option.getD_some, changed, window_changeString inside, psText]
  exact takeWhile_terminated (zero_not_mem_changed _)

/-- The FM service returns the radio text that was received, nothing if it is empty. -/
theorem getRadioText_text (event : rds.Event rdsEventLastRadiotext)
    (fits : rds.textLength ≤ textDataSize) :
    callbackText (getRadioText true rds) = rds.radioText := by
  have inside : textDataOffset + rds.textLength ≤ rds.memory.length := by
    have whole := rds.whole
    have room : textDataOffset + textDataSize ≤ 556 := by decide
    omega
  rw [getRadioText, getRt, if_pos event, serviceText]
  by_cases none : rds.textLength = 0
  · rw [if_pos (Or.inl none), radioText, none]
    rfl
  · have some : ¬ (rds.textLength = 0 ∨ true = false) := by
      rintro (zero | failed)
      · exact none zero
      · cases failed
    rw [if_neg some, callbackText, Option.getD_some, changed, window_changeString inside,
      radioText]
    exact takeWhile_terminated (zero_not_mem_changed _)

end RdsRecord

section Handed

variable {rds : RdsRecord} {returns : MetadataReturns}

/-- What the getter of the program service changes lies in front of the rest of the record. -/
theorem changedPs_behind {i : Nat} (behind : psOffset + psSize ≤ i) :
    (rds.changed psOffset psSize).memory.getD i 0 = rds.memory.getD i 0 :=
  getD_changeString (Or.inr behind)

theorem changedPs_textLength : (rds.changed psOffset psSize).textLength = rds.textLength := by
  rw [RdsRecord.textLength, changedPs_behind (by decide)]
  rfl

theorem changedPs_event {bit : Nat} :
    (rds.changed psOffset psSize).Event bit ↔ rds.Event bit := by
  have first := @changedPs_behind rds (eventStatusOffset + 0) (by decide)
  have second := @changedPs_behind rds (eventStatusOffset + 1) (by decide)
  have same : (rds.changed psOffset psSize).eventStatus = rds.eventStatus := by
    simp only [RdsRecord.eventStatus, window, List.range_succ, List.range_zero, List.nil_append,
      List.map_append, List.map_cons, List.map_nil, first, second]
  rw [RdsRecord.Event, RdsRecord.Event, same]

theorem changedPs_title {len : Nat} :
    textAt (changeString (rds.changed psOffset psSize).memory textDataOffset len) textDataOffset =
      textAt (changeString rds.memory textDataOffset len) textDataOffset := by
  have same : (changeString (rds.changed psOffset psSize).memory textDataOffset len).drop
      textDataOffset = (changeString rds.memory textDataOffset len).drop textDataOffset := by
    apply List.ext_getElem
    · simp only [List.length_drop, changeString_length, RdsRecord.changed]
    · intro i _ _
      have outside : ¬ (psOffset ≤ textDataOffset + i ∧
          textDataOffset + i < psOffset + psSize) := by
        have beyond : psOffset + psSize ≤ textDataOffset := by decide
        omega
      simp only [changeString, RdsRecord.changed, List.getElem_drop, List.getElem_mapIdx,
        if_neg outside]
  rw [textAt, textAt, same]

theorem addPty_start (returned : Int) :
    (Preparing.mk 0 rds []).addPty rds returned =
      if rds.Event rdsEventPtyCode then ⟨returned, rds, [.pty rds.pty]⟩ else ⟨0, rds, []⟩ := by
  by_cases event : rds.Event rdsEventPtyCode
  · simp only [Preparing.addPty, RdsRecord.getPty, event, and_self, if_true, List.nil_append]
  · simp only [Preparing.addPty, event, and_false, if_false]

theorem addPs_eq {ret : Int} {handed : List Entry} (returned : Int) :
    (Preparing.mk ret rds handed).addPs rds returned =
      if ret = 0 ∧ rds.Event rdsEventProgramname then
        ⟨returned, rds.changed psOffset psSize,
          handed ++ [Entry.ps (textAt (changeString rds.memory psOffset psSize) psOffset)]⟩
      else ⟨ret, rds, handed⟩ := by
  by_cases event : rds.Event rdsEventProgramname
  · simp only [Preparing.addPs, RdsRecord.getPs, event, and_true, if_true]
    rfl
  · simp only [Preparing.addPs, event, and_false, if_false]

/-- The record may have been changed in its program service. -/
theorem addTitle_handed {s : Preparing} (returned : Int)
    (record : s.rds = rds ∨ s.rds = rds.changed psOffset psSize) :
    (s.addTitle rds returned).handed =
      if s.ret = 0 ∧ rds.Event rdsEventLastRadiotext then
        s.handed ++
          [Entry.title (textAt (changeString rds.memory textDataOffset rds.textLength)
            textDataOffset)]
      else s.handed := by
  by_cases hands : s.ret = 0 ∧ rds.Event rdsEventLastRadiotext
  · rw [Preparing.addTitle, if_pos hands, if_pos hands]
    cases record with
    | inl same =>
        rw [same, RdsRecord.getRt, if_pos hands.2]
        rfl
    | inr same =>
        rw [same, RdsRecord.getRt, if_pos (changedPs_event.mpr hands.2), changedPs_textLength]
        show s.handed ++ [Entry.title (textAt (changeString _ textDataOffset _) _)] = _
        rw [changedPs_title]
  · rw [Preparing.addTitle, if_neg hands, if_neg hands]

theorem mem_ite_singleton {P : Prop} [Decidable P] {entry other : Entry} :
    entry ∈ (if P then [other] else []) ↔ P ∧ entry = other := by
  by_cases holds : P
  · rw [if_pos holds, List.mem_singleton]
    exact ⟨fun same => ⟨holds, same⟩, And.right⟩
  · rw [if_neg holds]
    exact ⟨fun member => absurd member List.not_mem_nil, fun both => absurd both.1 holds⟩

/-- What comes to the metadata, and when. -/
theorem prepareMetadata_handed :
    (prepareMetadata returns (some rds)).2 =
      (if returns.allocate = 0 ∧ rds.Event rdsEventPtyCode then [Entry.pty rds.pty] else []) ++
      (if rds.HandsPs returns then
        [Entry.ps (textAt (changeString rds.memory psOffset psSize) psOffset)] else []) ++
      (if rds.HandsTitle returns then
        [Entry.title (textAt (changeString rds.memory textDataOffset rds.textLength)
          textDataOffset)]
      else []) := by
  unfold prepareMetadata RdsRecord.HandsPs RdsRecord.HandsTitle
  by_cases allocated : returns.allocate = 0
  case neg => simp only [ne_eq, allocated, not_false_eq_true, if_true, false_and, if_false,
    List.append_nil]
  dsimp only
  rw [if_neg (not_not_intro allocated), addPty_start]
  by_cases pty : rds.Event rdsEventPtyCode
  · rw [if_pos pty, addPs_eq]
    by_cases ps : returns.addPty = 0 ∧ rds.Event rdsEventProgramname
    · rw [if_pos ps, addTitle_handed _ (Or.inr rfl)]
      simp only [allocated, pty, ps.1, ps.2, true_and, true_implies, if_true]
      split <;> simp
    · rw [if_neg ps, addTitle_handed _ (Or.inl rfl)]
      simp only [allocated, pty, true_and, true_implies, if_true, if_neg ps]
      by_cases added : returns.addPty = 0
      · have silent : ¬ rds.Event rdsEventProgramname := fun event => ps ⟨added, event⟩
        simp only [added, silent, true_and, false_implies]
        split <;> simp
      · simp only [added, false_and, if_false, List.append_nil]
  · rw [if_neg pty, addPs_eq]
    by_cases ps : rds.Event rdsEventProgramname
    · rw [if_pos ⟨rfl, ps⟩, addTitle_handed _ (Or.inr rfl)]
      simp only [allocated, pty, ps, true_and, false_implies, true_implies, if_true, and_false,
        if_false, List.nil_append]
      split <;> simp
    · have silent : ¬ ((0 : Int) = 0 ∧ rds.Event rdsEventProgramname) := fun both => ps both.2
      rw [if_neg silent, addTitle_handed _ (Or.inl rfl)]
      simp only [allocated, pty, ps, true_and, false_implies, and_false, if_false,
        List.append_nil, List.nil_append]

end Handed

section Texts

variable {rds : RdsRecord} {returns : MetadataReturns}

theorem mem_handed_ps {text : List UInt8} :
    Entry.ps text ∈ (prepareMetadata returns (some rds)).2 ↔
      rds.HandsPs returns ∧
        text = textAt (changeString rds.memory psOffset psSize) psOffset := by
  simp only [prepareMetadata_handed, List.mem_append, mem_ite_singleton, Entry.ps.injEq,
    reduceCtorEq, and_false, false_or, or_false]

theorem mem_handed_title {text : List UInt8} :
    Entry.title text ∈ (prepareMetadata returns (some rds)).2 ↔
      rds.HandsTitle returns ∧
        text = textAt (changeString rds.memory textDataOffset rds.textLength)
          textDataOffset := by
  simp only [prepareMetadata_handed, List.mem_append, mem_ite_singleton, Entry.title.injEq,
    reduceCtorEq, and_false, false_or]

/-- The name in the metadata is that of the record exactly if the count behind it is zero. -/
theorem psText_iff :
    textAt (changeString rds.memory psOffset psSize) psOffset = rds.psText ↔
      rds.memory.getD (psOffset + psSize) 0 = 0 :=
  textAt_changeString (Nat.lt_of_lt_of_le (by decide) rds.whole)

/-- The title in the metadata is the radio text exactly if the byte behind it is zero. -/
theorem radioText_iff (fits : rds.textLength ≤ textDataSize) :
    textAt (changeString rds.memory textDataOffset rds.textLength) textDataOffset =
        rds.radioText ↔
      rds.memory.getD (textDataOffset + rds.textLength) 0 = 0 := by
  have whole := rds.whole
  have room : textDataOffset + textDataSize < 556 := by decide
  exact textAt_changeString (by omega)

end Texts

/-- The texts in the metadata are those of the record, and those of the FM service, exactly if
each is terminated in the record itself. -/
theorem rdsTexts_exact_iff (returns : MetadataReturns) (rds : RdsRecord)
    (fits : rds.textLength ≤ textDataSize) :
    (∀ entry ∈ (prepareMetadata returns (some rds)).2, rds.Exact entry) ↔
      rds.Terminated returns := by
  constructor
  · intro all
    constructor
    · intro hands
      exact psText_iff.mp (all _ (mem_handed_ps.mpr ⟨hands, rfl⟩)).1
    · intro hands
      exact (radioText_iff fits).mp (all _ (mem_handed_title.mpr ⟨hands, rfl⟩)).1
  · intro terminated entry member
    cases entry with
    | pty value => trivial
    | ps text =>
        obtain ⟨hands, same⟩ := mem_handed_ps.mp member
        have shown := same.trans (psText_iff.mpr (terminated.ps hands))
        exact ⟨shown, shown.trans (RdsRecord.getPrgmServices_text hands.2.2).symm⟩
    | title text =>
        obtain ⟨hands, same⟩ := mem_handed_title.mp member
        have shown := same.trans ((radioText_iff fits).mpr (terminated.title hands))
        exact ⟨shown, shown.trans (RdsRecord.getRadioText_text hands.2.2.2 fits).symm⟩

/-- A record of the station "RADIO 1" with a song of 5 characters, `addrCnt` behind the name and
`behind` what is left of a longer text. -/
def song (addrCnt behind : UInt8) : RdsRecord where
  memory := List.replicate 272 0 ++ [82, 65, 68, 73, 79, 32, 49, 32, addrCnt] ++
    List.replicate 201 0 ++ [72, 69, 76, 76, 79, behind] ++ List.replicate 60 0 ++ [5] ++
    List.replicate 5 0 ++ [0x48, 0]
  whole := by
    simp only [List.length_append, List.length_replicate, List.length_cons, List.length_nil]
    omega

/-- Zeros behind both. -/
theorem rdsTexts_exact_song :
    (song 0 0).Terminated ⟨0, 0, 0, 0⟩ ∧
      ∀ entry ∈ (prepareMetadata ⟨0, 0, 0, 0⟩ (some (song 0 0))).2, (song 0 0).Exact entry := by
  have terminated : (song 0 0).Terminated ⟨0, 0, 0, 0⟩ :=
    ⟨fun _ => by decide, fun _ => by decide +kernel⟩
  exact ⟨terminated,
    (rdsTexts_exact_iff ⟨0, 0, 0, 0⟩ (song 0 0) (by decide +kernel)).mpr terminated⟩

/-- A count behind the name, and the rest of another text behind the song. -/
theorem rdsTexts_not_exact :
    ¬ (∀ (returns : MetadataReturns) (rds : RdsRecord), rds.textLength ≤ textDataSize →
        ∀ text, Entry.ps text ∈ (prepareMetadata returns (some rds)).2 → text = rds.psText) ∧
      ¬ (∀ (returns : MetadataReturns) (rds : RdsRecord), rds.textLength ≤ textDataSize →
        ∀ text, Entry.title text ∈ (prepareMetadata returns (some rds)).2 →
          text = rds.radioText) := by
  constructor
  · intro all
    have hands : (song 4 0).HandsPs ⟨0, 0, 0, 0⟩ := by decide +kernel
    have same := all ⟨0, 0, 0, 0⟩ (song 4 0) (by decide +kernel) _ (mem_handed_ps.mpr ⟨hands, rfl⟩)
    exact absurd (psText_iff.mp same) (by decide)
  · intro all
    have fits : (song 0 33).textLength ≤ textDataSize := by decide +kernel
    have hands : (song 0 33).HandsTitle ⟨0, 0, 0, 0⟩ := by decide +kernel
    have same := all ⟨0, 0, 0, 0⟩ (song 0 33) fits _ (mem_handed_title.mpr ⟨hands, rfl⟩)
    exact absurd ((radioText_iff fits).mp same) (by decide +kernel)

end Connectivity.Tuner
