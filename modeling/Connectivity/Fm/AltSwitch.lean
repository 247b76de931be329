import Mathlib.Data.List.Find

set_option autoImplicit false

/- Where a switch to another frequency ends: tuned to what it reports, with a quality that has been
measured there, and for an alternative frequency with the PI code of the programme. -/
namespace Connectivity.Fm

def errRdsNoData : Int := 1013

/-- What a read of the RDS log gives: what `ioctl` returns, how many entries there are, and the PI
code of the first and the second. -/
structure PiLog where
  ret : Int
  len : Nat
  pi1 : BitVec 16
  pi2 : BitVec 16
deriving DecidableEq, Repr

/-- What is on the air at each frequency: the quality, which may be another at each read, whether
the soft mute tune finds it valid, and the log at each attempt to read the PI code. -/
structure Air where
  quality : Nat → BitVec 16 → BitVec 16
  valid : BitVec 16 → Bool
  log : BitVec 16 → Nat → PiLog

/-- `AF_Info`, with the 25 entries that are read. -/
structure AfInfo where
  num : BitVec 16
  freqs : Vector (BitVec 16) 25

/-- The chip, and each quality that has been read with the frequency it was tuned to then. -/
structure Receiver where
  freq : BitVec 16
  muted : Bool
  rdsOn : Bool
  readings : List (BitVec 16 × BitVec 16)
deriving DecidableEq, Repr

/-- What a switch stores: what it returns, `ret_freq`, `backup_freq` and `Switch_TP`. -/
structure Switched where
  ret : Int
  freq : BitVec 16
  backupFreq : Option (BitVec 16)
  switchTp : Bool
deriving DecidableEq, Repr

/-- `COM_get_af_pi`: what it returns, and the code, which is 0 when it fails. -/
def PiLog.getAfPi (log : PiLog) : Int × BitVec 16 :=
  if log.ret ≠ 0 then (log.ret, 0)
  else if log.len = 0 then (-1, 0)
  else if log.pi1 = log.pi2 then (0, log.pi1)
  else (-1, 0)

/-- The entries that the loops come to. -/
def AfInfo.entries (info : AfInfo) : List (BitVec 16) :=
  info.freqs.toList.take (min info.num.toInt 25).toNat

namespace Receiver

variable (chip : Receiver)

/-- A radio that plays a frequency, with RDS on. -/
def playing (freq : BitVec 16) : Receiver := ⟨freq, false, true, []⟩

def tune (freq : BitVec 16) : Receiver := { chip with freq := freq }

def setMute (muted : Bool) : Receiver := { chip with muted := muted }

def rdsOnOff (on : Bool) : Receiver := { chip with rdsOn := on }

/-- `FM_IOCTL_GETCURPAMD`. -/
def getCurPamd (air : Air) : Receiver × BitVec 16 :=
  let value := air.quality chip.readings.length chip.freq
  ({ chip with readings := chip.readings ++ [(chip.freq, value)] }, value)

end Receiver

/-- `AF_PAMD_LBound` and `AF_PAMD_HBound`. -/
def afPamdLBound : BitVec 16 := 8

def afPamdHBound : BitVec 16 := 12

/-- `TA_PAMD_Threshold`. -/
def taPamdThreshold : BitVec 16 := 21

/-- The quality again, while it is weak. -/
def readAgain (air : Air) : Nat → Receiver → BitVec 16 → Receiver × BitVec 16
  | 0, chip, value => (chip, value)
  | more + 1, chip, value =>
      if value < afPamdLBound then
        readAgain air more (chip.getCurPamd air).1 (chip.getCurPamd air).2
      else (chip, value)

/-- The check of the list in advance: the entries of the band that are valid. A soft mute tune
leaves the chip at its entry. -/
def precheck (air : Air) (low high : Int) : Receiver → List (BitVec 16) →
    Receiver × List (BitVec 16)
  | chip, [] => (chip, [])
  | chip, entry :: rest =>
      if (entry.toNat : Int) < low ∨ high < entry.toNat then precheck air low high chip rest
      else
        let later := precheck air low high (chip.tune entry) rest
        (later.1, if air.valid entry then entry :: later.2 else later.2)

/-- The PI code after as many attempts as there are left, with the code of the last one. -/
def queryPi (log : Nat → PiLog) : Nat → Nat → BitVec 16 → BitVec 16
  | 0, _, last => last
  | more + 1, attempt, _ =>
      if (log attempt).getAfPi.1 ≠ 0 then queryPi log more (attempt + 1) (log attempt).getAfPi.2
      else (log attempt).getAfPi.2

/-- The loop over the entries: the one that it decides for, and its quality. -/
def afSwitch (air : Air) (origPi orgFreq : BitVec 16) : Receiver → List (BitVec 16) →
    Receiver × Option (BitVec 16 × BitVec 16)
  | chip, [] => (chip, none)
  | chip, setFreq :: rest =>
      if setFreq = orgFreq then afSwitch air origPi orgFreq chip rest
      else
        let read := ((chip.setMute true).tune setFreq).getCurPamd air
        if read.2 < afPamdHBound then afSwitch air origPi orgFreq read.1 rest
        else if origPi ≠ queryPi (air.log setFreq) 5 0 0 then
          afSwitch air origPi orgFreq read.1 rest
        else if afPamdHBound < read.2 then (read.1, some (setFreq, read.2))
        else afSwitch air origPi orgFreq read.1 rest

/-- `COM_active_af`. `event` is `RDS_EVENT_AF`, and the limits are those of the configuration. -/
def activeAf (air : Air) (chip : Receiver) (event : Bool) (info : AfInfo) (low high : Int)
    (origPi curFreq : BitVec 16) : Receiver × Switched :=
  if event = false then (chip, ⟨-errRdsNoData, 0, none, false⟩)
  else
    let first := chip.getCurPamd air
    let weak := readAgain air 3 first.1 first.2
    if weak.2 < afPamdLBound then
      let checked := precheck air low high weak.1 info.entries
      let switch := afSwitch air origPi curFreq checked.1 checked.2
      let swFreq := (switch.2.map Prod.fst).getD curFreq
      let pamdValue := (switch.2.map Prod.snd).getD weak.2
      let freq := if afPamdHBound < pamdValue ∧ swFreq ≠ 0 then swFreq else curFreq
      ((switch.1.tune freq).setMute false, ⟨0, freq, none, false⟩)
    else (weak.1, ⟨0, curFreq, none, false⟩)

/-- The loop over the traffic list, which tunes to the frequency it has decided for so far. -/
def taSwitch (air : Air) (orgFreq : BitVec 16) : Receiver → BitVec 16 → BitVec 16 →
    List (BitVec 16) → Receiver × BitVec 16 × BitVec 16
  | chip, swFreq, pamdValue, [] => (chip, swFreq, pamdValue)
  | chip, swFreq, pamdValue, setFreq :: rest =>
      if setFreq = orgFreq then taSwitch air orgFreq chip swFreq pamdValue rest
      else
        let read := (chip.tune swFreq).getCurPamd air
        if pamdValue < read.2 then taSwitch air orgFreq read.1 setFreq read.2 rest
        else taSwitch air orgFreq read.1 swFreq pamdValue rest

/-- `COM_active_ta`. `event` is `RDS_EVENT_TAON`. -/
def activeTa (air : Air) (chip : Receiver) (event : Bool) (info : AfInfo) (curFreq : BitVec 16) :
    Receiver × Switched :=
  if event then
    let first := (chip.rdsOnOff false).getCurPamd air
    let switch := taSwitch air curFreq first.1 curFreq first.2 info.entries
    let better := decide (taPamdThreshold < switch.2.2 ∧ switch.2.1 ≠ 0)
    let freq := if better then switch.2.1 else curFreq
    ((switch.1.tune freq).rdsOnOff true, ⟨0, freq, some curFreq, better⟩)
  else (chip, ⟨0, curFreq, none, false⟩)

/-- A switch to an alternative frequency that is sound. -/
structure AfSound (air : Air) (info : AfInfo) (origPi curFreq : BitVec 16)
    (after : Receiver × Switched) : Prop where
  tuned : after.1.freq = after.2.freq
  station : after.2.freq = curFreq ∨
    after.2.freq ∈ info.entries ∧
    (∃ level, (after.2.freq, level) ∈ after.1.readings ∧ afPamdHBound < level) ∧
    ∃ attempt < 5, (air.log after.2.freq attempt).getAfPi = (0, origPi)
  unmuted : after.1.muted = false

/-- A switch for a traffic announcement that is sound. -/
structure TaSound (info : AfInfo) (curFreq : BitVec 16) (after : Receiver × Switched) : Prop where
  tuned : after.1.freq = after.2.freq
  station : after.2.freq = curFreq ∨
    after.2.freq ∈ info.entries ∧
    ∃ level, (after.2.freq, level) ∈ after.1.readings ∧ taPamdThreshold < level
  rdsOn : after.1.rdsOn = true

/-- An entry that the check in advance keeps. -/
def kept (air : Air) (low high : Int) (entry : BitVec 16) : Bool :=
  !decide ((entry.toNat : Int) < low ∨ high < entry.toNat) && air.valid entry

/-- All four reads at the current frequency are below the lower bound. -/
def Weak (air : Air) (curFreq : BitVec 16) : Prop := ∀ i < 4, air.quality i curFreq < afPamdLBound

/-- The entries that the loop measures, with the number of the read. -/
def measured (air : Air) (info : AfInfo) (low high : Int) (curFreq : BitVec 16) :
    List (BitVec 16 × Nat) :=
  ((info.entries.filter (kept air low high)).filter (· ≠ curFreq)).zipIdx 4

/-- A measured entry to which the loop switches. -/
def decides (air : Air) (origPi : BitVec 16) (entry : BitVec 16 × Nat) : Bool :=
  decide (afPamdHBound < air.quality entry.2 entry.1 ∧ origPi = queryPi (air.log entry.1) 5 0 0)

/-- Where the original PI code is 0, that of a failed read, a code has been read at the entry that a
weak radio switches to. -/
def Identified (air : Air) (info : AfInfo) (low high : Int) (origPi curFreq : BitVec 16) : Prop :=
  origPi = 0 → Weak air curFreq → ∀ entry,
    (measured air info low high curFreq).find? (decides air origPi) = some entry →
    entry.1 ≠ 0 → ∃ attempt < 5, (air.log entry.1 attempt).getAfPi.1 = 0

/-- No read at the current frequency is above the first one, for as many as the traffic list asks
for. -/
def Unbeaten (air : Air) (info : AfInfo) (curFreq : BitVec 16) : Prop :=
  ∀ i < (info.entries.filter (· ≠ curFreq)).length,
    air.quality (i + 1) curFreq ≤ air.quality 0 curFreq

section Reading

variable {air : Air} {chip : Receiver}

/-- Reading the quality again changes nothing but what has been read, and ends weak when every read
is, the last one included. -/
theorem readAgain_spec (more : Nat) {value : BitVec 16} :
    (readAgain air more chip value).1.freq = chip.freq ∧
      (readAgain air more chip value).1.muted = chip.muted ∧
      ((readAgain air more chip value).2 < afPamdLBound ↔ value < afPamdLBound ∧
        ∀ i < more, air.quality (chip.readings.length + i) chip.freq < afPamdLBound) ∧
      ((readAgain air more chip value).2 < afPamdLBound →
        (readAgain air more chip value).1.readings.length = chip.readings.length + more) := by
  induction more generalizing chip value with
  | zero => exact ⟨rfl, rfl, by simp [readAgain], fun _ => rfl⟩
  | succ more ih =>
      rw [readAgain]
      split
      · rename_i weak
        obtain ⟨freq, muted, ends, count⟩ :=
          @ih (chip.getCurPamd air).1 (chip.getCurPamd air).2
        refine ⟨freq, muted, ends.trans ?_, fun still => (count still).trans ?_⟩
        · have first : (chip.getCurPamd air).2 = air.quality chip.readings.length chip.freq := rfl
          have later : ∀ i, air.quality ((chip.getCurPamd air).1.readings.length + i)
              (chip.getCurPamd air).1.freq =
                air.quality (chip.readings.length + (i + 1)) chip.freq := by
            intro i
            simp [Receiver.getCurPamd, Nat.add_assoc, Nat.add_comm]
          simp only [first, later, weak, true_and]
          exact (Nat.forall_lt_succ_left (p := fun i =>
            air.quality (chip.readings.length + i) chip.freq < afPamdLBound)).symm
        · simp [Receiver.getCurPamd, Nat.add_assoc, Nat.add_comm]
      · rename_i strong
        exact ⟨rfl, rfl, by simp [strong], fun weak => absurd weak strong⟩

theorem precheck_entries {low high : Int} (entries : List (BitVec 16)) :
    (precheck air low high chip entries).2 = entries.filter (kept air low high) := by
  induction entries generalizing chip with
  | nil => rfl
  | cons entry rest ih =>
      rw [precheck]
      by_cases outside : (entry.toNat : Int) < low ∨ high < entry.toNat
      · have dropped : kept air low high entry = false := by
          rw [kept, decide_eq_true outside]
          rfl
        rw [if_pos outside, ih, List.filter_cons_of_neg (ne_true_of_eq_false dropped)]
      · have valid : kept air low high entry = air.valid entry := by
          rw [kept, decide_eq_false outside]
          rfl
        rw [if_neg outside]
        dsimp only
        rw [ih]
        cases found : air.valid entry with
        | true => rw [if_pos rfl, List.filter_cons_of_pos (valid.trans found)]
        | false =>
            rw [if_neg Bool.false_ne_true,
              List.filter_cons_of_neg (ne_true_of_eq_false (valid.trans found))]

end Reading

section PiCode

variable {log : Nat → PiLog}

/-- A failed read has no code. -/
theorem getAfPi_failed {read : PiLog} (failed : read.getAfPi.1 ≠ 0) : read.getAfPi.2 = 0 := by
  unfold PiLog.getAfPi at failed ⊢
  split
  · rfl
  · rename_i answered
    rw [if_neg answered] at failed
    split
    · rfl
    · rename_i filled
      rw [if_neg filled] at failed
      split
      · rename_i same
        rw [if_pos same] at failed
        exact absurd rfl failed
      · rfl

/-- The code after the attempts is that of one which has succeeded, or 0. -/
theorem queryPi_spec (more attempt : Nat) {last : BitVec 16} (start : last = 0) :
    (∃ later, later < attempt + more ∧
      (log later).getAfPi = (0, queryPi log more attempt last)) ∨
    queryPi log more attempt last = 0 := by
  induction more generalizing attempt last with
  | zero => exact .inr start
  | succ more ih =>
      rw [queryPi]
      split
      · rename_i failed
        cases ih (attempt + 1) (getAfPi_failed failed) with
        | inl succeeded =>
            obtain ⟨later, bound, read⟩ := succeeded
            exact .inl ⟨later, by omega, read⟩
        | inr none => exact .inr none
      · rename_i succeeded
        have ret := not_not.mp succeeded
        exact .inl ⟨attempt, by omega, Prod.ext ret rfl⟩

/-- A code that was read at some attempt is what the attempts end with. -/
theorem queryPi_succeeds (more attempt : Nat) {last : BitVec 16}
    (succeeds : ∃ later, attempt ≤ later ∧ later < attempt + more ∧ (log later).getAfPi.1 = 0) :
    ∃ later, later < attempt + more ∧
      (log later).getAfPi = (0, queryPi log more attempt last) := by
  induction more generalizing attempt last with
  | zero =>
      obtain ⟨later, after, before, _⟩ := succeeds
      omega
  | succ more ih =>
      obtain ⟨later, after, before, read⟩ := succeeds
      rw [queryPi]
      split
      · rename_i failed
        have further : attempt ≠ later := by
          intro same
          rw [same] at failed
          exact failed read
        obtain ⟨found, bound, code⟩ :=
          @ih (attempt + 1) (log attempt).getAfPi.2 ⟨later, by omega, by omega, read⟩
        exact ⟨found, by omega, code⟩
      · rename_i succeeded
        exact ⟨attempt, by omega, Prod.ext (not_not.mp succeeded) rfl⟩

end PiCode

section Switch

variable {air : Air} {chip : Receiver} {info : AfInfo} {low high : Int}
  {origPi curFreq : BitVec 16}

/-- The loop decides for the first entry that is good enough, and has measured it. -/
theorem afSwitch_decides (entries : List (BitVec 16)) :
    (afSwitch air origPi curFreq chip entries).2 =
        (((entries.filter (· ≠ curFreq)).zipIdx chip.readings.length).find?
          (decides air origPi)).map (fun entry => (entry.1, air.quality entry.2 entry.1)) ∧
      ∀ entry, ((entries.filter (· ≠ curFreq)).zipIdx chip.readings.length).find?
          (decides air origPi) = some entry →
        (entry.1, air.quality entry.2 entry.1) ∈
          (afSwitch air origPi curFreq chip entries).1.readings := by
  induction entries generalizing chip with
  | nil =>
      refine ⟨rfl, ?_⟩
      intro entry found
      cases found
  | cons setFreq rest ih =>
      rw [afSwitch]
      split
      · rename_i same
        rw [List.filter_cons_of_neg (by simp [same])]
        exact ih
      · rename_i other
        rw [List.filter_cons_of_pos (by simp [other]), List.zipIdx_cons]
        have read : (((chip.setMute true).tune setFreq).getCurPamd air).2 =
          air.quality chip.readings.length setFreq := rfl
        have count : (((chip.setMute true).tune setFreq).getCurPamd air).1.readings.length =
            chip.readings.length + 1 := List.length_append
        have further := @ih (((chip.setMute true).tune setFreq).getCurPamd air).1
        rw [count] at further
        dsimp only
        rw [read]
        by_cases accepted : decides air origPi (setFreq, chip.readings.length) = true
        · obtain ⟨good, code⟩ := of_decide_eq_true accepted
          rw [if_neg (BitVec.lt_asymm good), if_neg (not_not.mpr code), if_pos good,
            List.find?_cons_of_pos accepted]
          refine ⟨rfl, ?_⟩
          intro entry found
          cases found
          exact List.mem_append_right _ (List.mem_singleton_self _)
        · rw [List.find?_cons_of_neg accepted]
          split
          · exact further
          · split
            · exact further
            · rename_i code
              rw [if_neg fun good => accepted (decide_eq_true ⟨good, not_not.mp code⟩)]
              exact further

/-- What the reads at the current frequency end with. -/
theorem weak_iff : (readAgain air 3 ((Receiver.playing curFreq).getCurPamd air).1
    ((Receiver.playing curFreq).getCurPamd air).2).2 < afPamdLBound ↔ Weak air curFreq := by
  rw [(@readAgain_spec air ((Receiver.playing curFreq).getCurPamd air).1 3 _).2.2.1]
  have later : ∀ i, air.quality (((Receiver.playing curFreq).getCurPamd air).1.readings.length + i)
      ((Receiver.playing curFreq).getCurPamd air).1.freq = air.quality (i + 1) curFreq := by
    intro i
    simp [Receiver.getCurPamd, Receiver.playing, Nat.add_comm]
  simp only [later]
  exact (Nat.forall_lt_succ_left (p := fun i => air.quality i curFreq < afPamdLBound)).symm

theorem activeAf_strong (strong : ¬ Weak air curFreq) :
    AfSound air info origPi curFreq
      (activeAf air (.playing curFreq) true info low high origPi curFreq) := by
  obtain ⟨freq, muted, _, _⟩ := @readAgain_spec air
    ((Receiver.playing curFreq).getCurPamd air).1 3 ((Receiver.playing curFreq).getCurPamd air).2
  rw [activeAf, if_neg Bool.true_eq_false.mp]
  dsimp only
  rw [if_neg (weak_iff.not.mpr strong)]
  exact ⟨freq, .inl rfl, muted⟩

theorem precheck_readings (chip : Receiver) (entries : List (BitVec 16)) :
    (precheck air low high chip entries).1.readings = chip.readings := by
  induction entries generalizing chip with
  | nil => rfl
  | cons entry rest ih =>
      rw [precheck]
      split
      · exact ih chip
      · exact ih (chip.tune entry)

/-- The loop of a weak radio. -/
theorem afSwitch_measured (weak : Weak air curFreq) :
    let first := (Receiver.playing curFreq).getCurPamd air
    let checked := precheck air low high (readAgain air 3 first.1 first.2).1 info.entries
    let switch := afSwitch air origPi curFreq checked.1 checked.2
    switch.2 = ((measured air info low high curFreq).find? (decides air origPi)).map
        (fun entry => (entry.1, air.quality entry.2 entry.1)) ∧
      ∀ entry, (measured air info low high curFreq).find? (decides air origPi) = some entry →
        (entry.1, air.quality entry.2 entry.1) ∈ switch.1.readings := by
  intro first checked switch
  have count : checked.1.readings.length = 4 := by
    rw [precheck_readings]
    exact (@readAgain_spec air first.1 3 first.2).2.2.2 (weak_iff.mpr weak)
  have entries : checked.2 = info.entries.filter (kept air low high) := precheck_entries _
  have decided := @afSwitch_decides air checked.1 origPi curFreq checked.2
  rw [count] at decided
  rw [measured, ← entries]
  exact decided

theorem measured_spec {entry : BitVec 16 × Nat}
    (found : (measured air info low high curFreq).find? (decides air origPi) = some entry) :
    entry.1 ∈ info.entries ∧ entry.1 ≠ curFreq ∧ afPamdHBound < air.quality entry.2 entry.1 ∧
      origPi = queryPi (air.log entry.1) 5 0 0 := by
  have decided : decides air origPi entry = true := List.find?_some found
  have accepted := of_decide_eq_true decided
  have member := List.fst_mem_of_mem_zipIdx (List.mem_of_find?_eq_some found)
  obtain ⟨inside, other⟩ := List.mem_filter.mp member
  exact ⟨(List.mem_filter.mp inside).1, of_decide_eq_true other, accepted.1, accepted.2⟩

/-- Without an entry a weak radio goes back. -/
theorem activeAf_none (weak : Weak air curFreq)
    (missing : (measured air info low high curFreq).find? (decides air origPi) = none) :
    AfSound air info origPi curFreq
      (activeAf air (.playing curFreq) true info low high origPi curFreq) := by
  rw [activeAf, if_neg Bool.true_eq_false.mp]
  dsimp only
  have below := weak_iff.mpr weak
  rw [if_pos below, (afSwitch_measured weak).1, missing]
  dsimp only [Option.map_none, Option.getD_none]
  rw [if_neg fun both => absurd (BitVec.lt_trans both.1 below) (by decide)]
  exact ⟨rfl, .inl rfl, rfl⟩

/-- With one it ends there, unless the entry is 0. -/
theorem activeAf_some (weak : Weak air curFreq) {entry : BitVec 16 × Nat}
    (found : (measured air info low high curFreq).find? (decides air origPi) = some entry) :
    (activeAf air (.playing curFreq) true info low high origPi curFreq).2.freq =
        (if entry.1 = 0 then curFreq else entry.1) ∧
      (activeAf air (.playing curFreq) true info low high origPi curFreq).1.freq =
        (if entry.1 = 0 then curFreq else entry.1) ∧
      (activeAf air (.playing curFreq) true info low high origPi curFreq).1.muted = false ∧
      (entry.1, air.quality entry.2 entry.1) ∈
        (activeAf air (.playing curFreq) true info low high origPi curFreq).1.readings := by
  obtain ⟨_, _, good, _⟩ := measured_spec found
  obtain ⟨decided, taken⟩ := @afSwitch_measured air info low high origPi curFreq weak
  have target : (if afPamdHBound < air.quality entry.2 entry.1 ∧ entry.1 ≠ 0 then entry.1
      else curFreq) = if entry.1 = 0 then curFreq else entry.1 := by
    by_cases zero : entry.1 = 0
    · rw [if_pos zero, if_neg fun both => both.2 zero]
    · rw [if_neg zero, if_pos ⟨good, zero⟩]
  rw [activeAf, if_neg Bool.true_eq_false.mp]
  dsimp only
  rw [if_pos (weak_iff.mpr weak), decided, found]
  dsimp only [Option.map_some, Option.getD_some]
  rw [target]
  exact ⟨rfl, rfl, rfl, taken entry found⟩

/-- The code that is compared has been read, unless it is 0 and no read has succeeded. -/
theorem code_read {log : Nat → PiLog} (own : origPi = queryPi log 5 0 0)
    (read : origPi = 0 → ∃ attempt < 5, (log attempt).getAfPi.1 = 0) :
    ∃ attempt < 5, (log attempt).getAfPi = (0, origPi) := by
  have succeeded : ∃ attempt, attempt < 0 + 5 ∧
      (log attempt).getAfPi = (0, queryPi log 5 0 0) := by
    by_cases zero : origPi = 0
    · obtain ⟨attempt, bound, done⟩ := read zero
      exact queryPi_succeeds 5 0 ⟨attempt, by omega, by omega, done⟩
    · exact (queryPi_spec 5 0 rfl).resolve_right fun none => zero (own.trans none)
  obtain ⟨attempt, bound, code⟩ := succeeded
  exact ⟨attempt, by omega, own ▸ code⟩

theorem activeAf_sound_iff :
    AfSound air info origPi curFreq
        (activeAf air (.playing curFreq) true info low high origPi curFreq) ↔
      Identified air info low high origPi curFreq := by
  constructor
  · intro sound _ weak entry found other
    obtain ⟨_, away, _, _⟩ := measured_spec found
    have ends := (activeAf_some weak found).1
    rw [if_neg other] at ends
    have station := sound.station
    rw [ends] at station
    obtain ⟨_, _, attempt, bound, read⟩ := station.resolve_left away
    exact ⟨attempt, bound, congrArg Prod.fst read⟩
  · intro identified
    by_cases weak : Weak air curFreq
    · cases found : (measured air info low high curFreq).find? (decides air origPi) with
      | none => exact activeAf_none weak found
      | some entry =>
          obtain ⟨member, _, good, own⟩ := measured_spec found
          obtain ⟨ends, freq, muted, reading⟩ := activeAf_some weak found
          refine ⟨freq.trans ends.symm, ?_, muted⟩
          by_cases zero : entry.1 = 0
          · rw [if_pos zero] at ends
            exact .inl ends
          · rw [if_neg zero] at ends
            rw [ends]
            have read := code_read own fun code => identified code weak entry found zero
            exact .inr ⟨member, ⟨_, reading, good⟩, read⟩
    · exact activeAf_strong weak

/-- The loop over the traffic list measures the frequency it has decided for, and decides for
another only when that has got better. -/
theorem taSwitch_stays {swFreq pamdValue : BitVec 16} (entries : List (BitVec 16))
    (unbeaten : ∀ i < (entries.filter (· ≠ curFreq)).length,
      air.quality (chip.readings.length + i) swFreq ≤ pamdValue) :
    (taSwitch air curFreq chip swFreq pamdValue entries).2 = (swFreq, pamdValue) := by
  induction entries generalizing chip with
  | nil => rfl
  | cons setFreq rest ih =>
      rw [taSwitch]
      split
      · rename_i same
        rw [List.filter_cons_of_neg (by simp [same])] at unbeaten
        exact ih unbeaten
      · rename_i other
        rw [List.filter_cons_of_pos (by simp [other]), List.length_cons] at unbeaten
        have read : ((chip.tune swFreq).getCurPamd air).2 =
          air.quality chip.readings.length swFreq := rfl
        have count : ((chip.tune swFreq).getCurPamd air).1.readings.length =
            chip.readings.length + 1 := List.length_append
        have worse : ¬ pamdValue < air.quality chip.readings.length swFreq :=
          BitVec.not_lt.mpr (unbeaten 0 (Nat.succ_pos _))
        dsimp only
        rw [read, if_neg worse]
        apply ih
        intro i bound
        rw [count, Nat.add_assoc, Nat.add_comm 1 i]
        exact unbeaten (i + 1) (Nat.succ_lt_succ bound)

theorem activeTa_sound (unbeaten : Unbeaten air info curFreq) (event : Bool) :
    TaSound info curFreq (activeTa air (.playing curFreq) event info curFreq) := by
  cases event with
  | false => exact ⟨rfl, .inl rfl, rfl⟩
  | true =>
      have stays := @taSwitch_stays air
        (((Receiver.playing curFreq).rdsOnOff false).getCurPamd air).1 curFreq curFreq
        (air.quality 0 curFreq) info.entries (by
          intro i bound
          have count :
              (((Receiver.playing curFreq).rdsOnOff false).getCurPamd air).1.readings.length = 1 :=
            rfl
          rw [count, Nat.add_comm]
          exact unbeaten i bound)
      rw [activeTa, if_pos rfl]
      dsimp only
      have first : (((Receiver.playing curFreq).rdsOnOff false).getCurPamd air).2 =
        air.quality 0 curFreq := rfl
      rw [first, stays]
      refine ⟨rfl, .inl ?_, rfl⟩
      dsimp only
      split
      · rfl
      · rfl

end Switch

/-- A switch to an alternative frequency is sound when its PI code has been read; one for a traffic
announcement, when the current frequency does not get better while its list is gone through. -/
theorem switch_sound_iff (air : Air) (info : AfInfo) (low high : Int) (origPi curFreq : BitVec 16) :
    (AfSound air info origPi curFreq
        (activeAf air (.playing curFreq) true info low high origPi curFreq) ↔
      Identified air info low high origPi curFreq) ∧
    (Unbeaten air info curFreq → ∀ event,
      TaSound info curFreq (activeTa air (.playing curFreq) event info curFreq)) :=
  ⟨activeAf_sound_iff, activeTa_sound⟩

/-- A weak radio, and another frequency of 95 MHz where no PI code can be read. -/
def silentPi : Air where
  quality _ freq := if freq = 9500 then 20 else 5
  valid _ := true
  log _ _ := ⟨-1, 0, 0, 0⟩

def oneAlternative : AfInfo := ⟨1, Vector.replicate 25 9500⟩

/-- The radio goes there all the same when its own code is 0. -/
theorem not_switch_sound :
    ¬ AfSound silentPi oneAlternative 0 9000
      (activeAf silentPi (.playing 9000) true oneAlternative 8750 10800 0 9000) := by
  intro sound
  have identified := activeAf_sound_iff.mp sound
  have entry : (measured silentPi oneAlternative 8750 10800 9000).find? (decides silentPi 0) =
      some (9500, 4) := by decide
  obtain ⟨attempt, _, read⟩ := identified rfl (by unfold Weak; decide) (9500, 4) entry
    (by decide)
  have failed : (silentPi.log 9500 attempt).getAfPi.1 = -1 := rfl
  rw [failed] at read
  exact absurd read (by decide)

/-- A quality that gets better at the current frequency is counted for the entry. -/
example : (activeTa { silentPi with quality := fun read _ => if read = 1 then 30 else 10 }
    (.playing 9000) true oneAlternative 9000).2.freq = 9500 := by decide

end Connectivity.Fm
