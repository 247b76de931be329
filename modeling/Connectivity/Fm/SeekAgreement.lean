import Connectivity.Fm.SeekExact
import Mathlib.Data.List.Find

set_option autoImplicit false

/- The searches of the FM service and of the broadcast-radio HAL, in their two units. -/
namespace Connectivity.Fm

open Tuner (Probe BandConfig Sought Core)
open Connectivity.Ring

/-- A frequency of the HAL, for one in units of 10 kHz. -/
def kHz (freq : Nat) : BitVec 32 := BitVec.ofNat 32 (10 * freq)

/-- The HAL's word for a direction. -/
def inHal (isUp : Bool) : Tuner.Direction := if isUp then .up else .down

/-- The same qualities for the HAL, which gives the driver a tenth of its frequency. -/
def halSteady (quality : Nat → Probe) : Tuner.Driver :=
  fun _ freq => ⟨false, 0, quality (freq.toNat / 10)⟩

theorem kHz_toNat {freq : Nat} (small : freq < 131072) : (kHz freq).toNat = 10 * freq := by
  rw [kHz, BitVec.toNat_ofNat]
  omega

namespace SeekBand

variable (band : SeekBand)

/-- The same band for the HAL. -/
def inKHz : BandConfig :=
  { lowerLimit := kHz band.minFreq.toNat
    upperLimit := kHz band.maxFreq.toNat
    spacing := kHz band.seekSpace.toNat }

/-- Both searches find the same, or neither finds a station. -/
def Agrees (start : Int) (isUp : Bool) (quality : Nat → Probe) (core : Core) : Prop :=
  ∃ found, (band.seekChannel start isUp (steady quality)).2 = some found ∧
    let sought := (core.seek band.inKHz (kHz start.toNat) (inHal isUp) (halSteady quality)).2
    ((sought.channel (kHz start.toNat)).toNat : Int) = 10 * found ∧
      ((sought = .nothing ∨ sought.channel (kHz start.toNat) = kHz start.toNat) ↔ found = start)

end SeekBand

namespace SeekBand

variable {band : SeekBand} {isUp : Bool} {quality : Nat → Probe} {core : Core}

theorem lowerLimit_toNat : band.inKHz.lowerLimit.toNat = 10 * band.minFreq.toNat := by
  have fits := band.minFreq.isLt
  exact kHz_toNat (by omega)

theorem upperLimit_toNat : band.inKHz.upperLimit.toNat = 10 * band.maxFreq.toNat := by
  have fits := band.maxFreq.isLt
  exact kHz_toNat (by omega)

theorem spacing_toNat : band.inKHz.spacing.toNat = 10 * band.seekSpace.toNat := by
  have fits := band.seekSpace.isLt
  exact kHz_toNat (by omega)

theorem channels_le : band.channels ≤ 65536 := by
  have fits := band.maxFreq.isLt
  have few := Nat.div_le_self (band.maxFreq.toNat - band.minFreq.toNat) band.seekSpace.toNat
  rw [channels]
  omega

theorem grid_small (sound : band.Sound) {i : Nat} (inside : i < band.channels) :
    band.grid i < 65536 := by
  have below := (grid_le_iff sound).mpr inside
  have fits : band.maxFreq.toNat < 65536 := band.maxFreq.isLt
  omega

/-- The quotient of two frequencies of the HAL is that of the frequencies in units of 10 kHz. -/
theorem quotient_kHz (freq : Nat) (low : band.minFreq.toNat ≤ freq) (small : freq < 65536) :
    ((kHz freq - band.inKHz.lowerLimit) / band.inKHz.spacing).toNat =
      (freq - band.minFreq.toNat) / band.seekSpace.toNat := by
  have value : (kHz freq).toNat = 10 * freq := kHz_toNat (by omega)
  have least := @lowerLimit_toNat band
  have below : band.inKHz.lowerLimit ≤ kHz freq := by
    rw [BitVec.le_def]
    omega
  have difference : 10 * freq - 10 * band.minFreq.toNat = 10 * (freq - band.minFreq.toNat) := by
    omega
  rw [BitVec.toNat_udiv, BitVec.toNat_sub_of_le below, value, least, spacing_toNat, difference,
    Nat.mul_div_mul_left _ _ (by decide)]

theorem channelNo_kHz (sound : band.Sound) : band.inKHz.channelNo.toNat = band.channels := by
  have quotient := quotient_kHz band.maxFreq.toNat sound.ordered band.maxFreq.isLt
  have few := @channels_le band
  have upper : band.inKHz.upperLimit = kHz band.maxFreq.toNat := rfl
  rw [BandConfig.channelNo, BitVec.toNat_add, upper, quotient, channels]
  rw [channels] at few
  have one : (1 : BitVec 32).toNat = 1 := rfl
  rw [one]
  exact Nat.mod_eq_of_lt (by omega)

theorem toInt_of_small {word : BitVec 32} {n : Nat} (value : word.toNat = n) (small : n ≤ 65536) :
    word.toInt = n := by
  rw [BitVec.toInt_eq_toNat_of_lt (by omega), value]

theorem toInt_succ {word : BitVec 32} {n : Nat} (value : word.toNat = n) (small : n < 65536) :
    (word + 1).toInt = (n + 1 : Nat) := by
  apply toInt_of_small _ (by omega)
  have one : (1 : BitVec 32).toNat = 1 := rfl
  rw [BitVec.toNat_add, value, one]
  exact Nat.mod_eq_of_lt (by omega)

/-- One less than nothing is -1, for a loop that is not entered. -/
theorem toInt_pred {word : BitVec 32} {n : Nat} (value : word.toNat = n) (small : n ≤ 65536) :
    (word - 1).toInt + 1 = n := by
  have whole := toInt_of_small value small
  rw [BitVec.toInt_sub, whole]
  have one : (1 : BitVec 32).toInt = 1 := by decide
  rw [one, Int.bmod_eq_of_le (by omega) (by omega)]
  omega

theorem order_kHz (sound : band.Sound) {start : Nat} (within : band.Within start) :
    band.inKHz.order (kHz start) (inHal isUp) =
      (band.others start isUp).map fun (n : Nat) => (n : Int) := by
  have low : band.minFreq.toNat ≤ start := Int.ofNat_le.mp within.1
  have high : start ≤ band.maxFreq.toNat := Int.ofNat_le.mp within.2
  have fits := band.maxFreq.isLt
  have inside := channelAt_lt sound within
  have few := @channels_le band
  have here : ((kHz start - band.inKHz.lowerLimit) / band.inKHz.spacing).toNat =
      band.channelAt start := by
    rw [quotient_kHz start low (by omega), channelAt, here_eq start within, Int.toNat_natCast]
  have count := channelNo_kHz sound
  have behind := indices_eq (band.channelAt start + 1) band.channels
  have front := indices_eq 0 (band.channelAt start)
  rw [Nat.sub_zero, ← List.range_eq_range'] at front
  rw [others]
  cases isUp with
  | true =>
      rw [around_forward inside, List.map_append, ← behind, ← front]
      show BandConfig.indices _ _ ++ BandConfig.indices _ _ = _
      rw [toInt_succ here (by omega), toInt_of_small count few, toInt_of_small here (by omega)]
      rfl
  | false =>
      rw [around_backward, around_forward inside, List.map_reverse, List.map_append, ← behind,
        ← front, List.reverse_append]
      show (BandConfig.indices _ _).reverse ++ (BandConfig.indices _ _).reverse = _
      rw [toInt_pred here (by omega), toInt_of_small here (by omega), toInt_pred count few]
      rfl

theorem channelFreq_kHz (sound : band.Sound) {i : Nat} (inside : i < band.channels) :
    band.inKHz.channelFreq i = kHz (band.grid i) := by
  have small := grid_small sound inside
  apply BitVec.eq_of_toNat_eq
  have index : (BitVec.ofInt 32 (i : Int)).toNat = i := by
    have few := @channels_le band
    rw [BitVec.ofInt_natCast, BitVec.toNat_ofNat]
    omega
  have product : 10 * band.seekSpace.toNat * i = 10 * (band.seekSpace.toNat * i) :=
    Nat.mul_assoc _ _ _
  have value : band.grid i = band.minFreq.toNat + band.seekSpace.toNat * i := rfl
  rw [kHz_toNat (by omega), BandConfig.channelFreq, BitVec.toNat_add, BitVec.toNat_mul, index,
    lowerLimit_toNat, spacing_toNat, product]
  omega

/-- A step of the HAL's look-ahead, when it fits a byte. -/
theorem step_toNat (narrow : band.space ≤ 25) :
    band.inKHz.step.toNat = 10 * band.seekSpace.toNat := by
  have bound : (band.seekSpace.toNat : Int) ≤ 25 := narrow
  have byte : 10 * band.seekSpace.toNat < 256 := by omega
  have word : 10 * band.seekSpace.toNat < 4294967296 := by omega
  rw [BandConfig.step, BitVec.toNat_setWidth, BitVec.toNat_setWidth, spacing_toNat,
    Nat.mod_eq_of_lt byte, Nat.mod_eq_of_lt word]

/-- The look-ahead of the HAL goes on and ends where that of the service does. -/
theorem nextFreq_kHz (sound : band.Sound) (narrow : band.space ≤ 25)
    (low : isUp = false → band.space ≤ band.lower) {i : Nat} (inside : i < band.channels)
    (more : Nat) :
    (band.inKHz.beyond (inHal isUp)
        (band.inKHz.nextFreq (inHal isUp) (kHz (band.grid i))) = true ∧
      ahead band.channels i isUp (more + 1) = []) ∨
    ∃ j, j < band.channels ∧
      band.inKHz.nextFreq (inHal isUp) (kHz (band.grid i)) = kHz (band.grid j) ∧
      band.inKHz.beyond (inHal isUp) (kHz (band.grid j)) = false ∧
      ahead band.channels i isUp (more + 1) = j :: ahead band.channels j isUp more := by
  have small := grid_small sound inside
  have here : (kHz (band.grid i)).toNat = 10 * band.grid i := kHz_toNat (by omega)
  have step := step_toNat narrow
  have bound : (band.seekSpace.toNat : Int) ≤ 25 := narrow
  cases isUp with
  | true =>
      have next := @grid_succ band i
      have sum : (kHz (band.grid i) + band.inKHz.step).toNat = 10 * band.grid (i + 1) := by
        rw [BitVec.toNat_add, here, step, next]
        omega
      by_cases more_channels : i + 1 < band.channels
      · have small_next := grid_small sound more_channels
        have same : kHz (band.grid i) + band.inKHz.step = kHz (band.grid (i + 1)) := by
          apply BitVec.eq_of_toNat_eq
          rw [sum, kHz_toNat (by omega)]
        refine .inr ⟨i + 1, more_channels, same, ?_, ahead_forward more_channels⟩
        have below := (grid_le_iff sound).mpr more_channels
        refine decide_eq_false (BitVec.not_lt.mpr ?_)
        rw [BitVec.le_def, upperLimit_toNat, kHz_toNat (by omega)]
        omega
      · have above : ¬ band.grid (i + 1) ≤ band.maxFreq.toNat := by
          rw [grid_le_iff sound]
          exact more_channels
        refine .inl ⟨decide_eq_true ?_, ahead_forward_end (by omega)⟩
        show band.inKHz.upperLimit < kHz (band.grid i) + band.inKHz.step
        rw [BitVec.lt_def, upperLimit_toNat, sum]
        omega
  | false =>
      have least : (band.seekSpace.toNat : Int) ≤ band.minFreq.toNat := low rfl
      have spaced := sound.spaced
      have above : band.minFreq.toNat ≤ band.grid i := by
        rw [grid]
        omega
      have fits : band.inKHz.step ≤ kHz (band.grid i) := by
        rw [BitVec.le_def, step, here]
        omega
      have rest : (kHz (band.grid i) - band.inKHz.step).toNat =
          10 * band.grid i - 10 * band.seekSpace.toNat := by
        rw [BitVec.toNat_sub_of_le fits, here, step]
      cases i with
      | zero =>
          have first : band.grid 0 = band.minFreq.toNat := by
            rw [grid, Nat.mul_zero, Nat.add_zero]
          refine .inl ⟨decide_eq_true ?_, ahead_backward_end⟩
          show kHz (band.grid 0) - band.inKHz.step < band.inKHz.lowerLimit
          rw [BitVec.lt_def, lowerLimit_toNat, rest, first]
          omega
      | succ i =>
          have next := @grid_succ band i
          have low_next : band.minFreq.toNat ≤ band.grid i := by
            rw [grid]
            omega
          have same : kHz (band.grid (i + 1)) - band.inKHz.step = kHz (band.grid i) := by
            apply BitVec.eq_of_toNat_eq
            rw [rest, kHz_toNat (by omega)]
            omega
          refine .inr ⟨i, by omega, same, ?_, ahead_backward⟩
          refine decide_eq_false (BitVec.not_lt.mpr ?_)
          rw [BitVec.le_def, lowerLimit_toNat, kHz_toNat (by omega)]
          omega

/-- A check that is not stopped gives the quality of its channel. -/
theorem tuneCheck_hal {freq turn : Nat} (running : core.scanStop = false) (small : freq < 131072) :
    ∃ after, core.tuneCheck (kHz freq) (halSteady quality turn (kHz freq)) =
      (after, some (quality freq)) ∧ after.scanStop = false := by
  have tenth : (kHz freq).toNat / 10 = freq := by
    rw [kHz_toNat small]
    omega
  refine ⟨core.softMuteTune (kHz freq) 0, ?_, running⟩
  rw [Core.tuneCheck, halSteady, tenth]
  dsimp only
  rw [if_neg Bool.false_ne_true, if_neg (ne_true_of_eq_false running)]
  rfl

theorem seekMore_hal (sound : band.Sound) (narrow : band.space ≤ 25)
    (low : isUp = false → band.space ≤ band.lower) {i : Nat} (inside : i < band.channels)
    (running : core.scanStop = false) (more turn best : Nat) :
    (Core.seekMore band.inKHz (inHal isUp) (halSteady quality) more core turn (kHz (band.grid i))
        (kHz (band.grid best)) (band.strength quality best)).2 =
      some (kHz (band.grid (strongest (band.valid quality) (band.strength quality) best
        (ahead band.channels i isUp more)))) := by
  induction more generalizing core i turn best with
  | zero =>
      rw [ahead_none]
      rfl
  | succ more ih =>
      rw [Core.seekMore]
      cases nextFreq_kHz sound narrow low inside more with
      | inl last =>
          rw [if_pos last.1, last.2]
          rfl
      | inr going =>
          obtain ⟨j, here, next, inBand, behind⟩ := going
          have small := grid_small sound here
          obtain ⟨after, checked, still⟩ :=
            @tuneCheck_hal quality core (band.grid j) turn running (by omega)
          rw [next, if_neg (ne_true_of_eq_false inBand), checked, behind, strongest_cons]
          dsimp only
          by_cases better : band.valid quality j ∧
              band.strength quality best < band.strength quality j
          · have found : (quality (band.grid j)).valid = true ∧
                band.strength quality best < (quality (band.grid j)).rssi := better
            have later := ih here still (turn + 1) j
            rw [strength] at later
            rw [if_pos better, if_pos found, later]
          · have missed : ¬ ((quality (band.grid j)).valid = true ∧
                band.strength quality best < (quality (band.grid j)).rssi) := better
            rw [if_neg better, if_neg missed, ih here still (turn + 1) best]

theorem seekAmong_hal (sound : band.Sound) (narrow : band.space ≤ 25)
    (low : isUp = false → band.space ≤ band.lower) {cells : List Nat}
    (inside : ∀ cell ∈ cells, cell < band.channels) (running : core.scanStop = false)
    (turn : Nat) :
    (Core.seekAmong band.inKHz (inHal isUp) (halSteady quality) core turn
        (cells.map fun (n : Nat) => (n : Int))).2 =
      ((cells.find? (band.valid quality)).map fun first =>
        Sought.found (kHz (band.grid (band.best isUp quality first)))).getD .nothing := by
  induction cells generalizing core turn with
  | nil => rfl
  | cons i rest ih =>
      have here := inside i List.mem_cons_self
      have small := grid_small sound here
      have rest_inside := fun cell member => inside cell (List.mem_cons_of_mem i member)
      obtain ⟨after, checked, still⟩ := @tuneCheck_hal quality core (band.grid i) turn running
        (by omega)
      rw [List.map_cons, Core.seekAmong]
      rw [channelFreq_kHz sound here, checked]
      dsimp only
      cases found : band.valid quality i with
      | true =>
          have isValid : (quality (band.grid i)).valid = true := found
          have more := @seekMore_hal band isUp quality after sound narrow low i here still 2
            (turn + 1) i
          rw [strength] at more
          rw [if_pos isValid, List.find?_cons_of_pos found]
          split
          · rename_i channel run
            rw [run] at more
            cases more
            rfl
          · rename_i run
            rw [run] at more
            cases more
      | false =>
          have invalid : ¬ (quality (band.grid i)).valid = true := ne_true_of_eq_false found
          rw [if_neg invalid, List.find?_cons_of_neg (ne_true_of_eq_false found)]
          exact ih rest_inside still (turn + 1)

theorem kHz_inj {first second : Nat} (small : first < 131072) (few : second < 131072) :
    kHz first = kHz second ↔ first = second := by
  constructor
  · intro same
    have values := congrArg BitVec.toNat same
    rw [kHz_toNat small, kHz_toNat few] at values
    omega
  · intro same
    rw [same]

/-- When no valid channel of the band is passed over, every valid one is accepted. -/
theorem find_accepts (sound : band.Sound) {start : Int} (within : band.Within start)
    (apart : ∀ freq : Nat, band.Within freq → band.same start isUp freq = true →
      (quality freq).valid = false) :
    (band.others start isUp).find? (band.accepts start isUp quality) =
      (band.others start isUp).find? (band.valid quality) := by
  apply List.find?_congr
  intro i member
  have inside := ((mem_around (channelAt_lt sound within)).mp member).1
  rw [accepts]
  cases passed : band.same start isUp (band.grid i) with
  | true =>
      have invalid : band.valid quality i = false := apart _ (grid_within sound inside) passed
      rw [invalid, Bool.false_and]
  | false => exact Bool.and_true _

theorem seek_hal (sound : band.Sound) (narrow : band.space ≤ 25)
    (low : isUp = false → band.space ≤ band.lower) {start : Nat} (within : band.Within start) :
    (core.seek band.inKHz (kHz start) (inHal isUp) (halSteady quality)).2 =
      (((band.others start isUp).find? (band.valid quality)).map fun first =>
        Sought.found (kHz (band.grid (band.best isUp quality first)))).getD .nothing := by
  have least : band.minFreq.toNat ≤ start := Int.ofNat_le.mp within.1
  have most : start ≤ band.maxFreq.toNat := Int.ofNat_le.mp within.2
  have fits := band.maxFreq.isLt
  have inBand : band.inKHz.Within (kHz start) := by
    refine ⟨?_, ?_⟩
    · rw [BitVec.le_def, lowerLimit_toNat, kHz_toNat (by omega)]
      omega
    · rw [BitVec.le_def, upperLimit_toNat, kHz_toNat (by omega)]
      omega
  have channels : band.inKHz.channelNo ≠ 0 := by
    intro none
    have count := channelNo_kHz sound
    have positive : 0 < band.channels := Nat.succ_pos _
    rw [none] at count
    have zero : 0 = band.channels := count
    omega
  have inside : ∀ cell ∈ band.others start isUp, cell < band.channels := by
    intro cell member
    exact ((mem_around (channelAt_lt sound within)).mp member).1
  rw [Core.seek, if_neg channels, BandConfig.startFreq, if_pos inBand, order_kHz sound within]
  exact seekAmong_hal sound narrow low inside rfl 0

/-- The two searches agree while a step of the HAL fits a byte and a frequency, and while the
service passes no valid channel over. -/
theorem seek_agrees (sound : band.Sound) {start : Int} (within : band.Within start)
    (narrow : band.space ≤ 25) (low : isUp = false → band.space ≤ band.lower)
    (apart : ∀ freq : Nat, band.Within freq → band.same start isUp freq = true →
      (quality freq).valid = false) :
    band.Agrees start isUp quality core := by
  have service := @seekChannel_found band start isUp quality sound within
  rw [find_accepts sound within apart] at service
  obtain ⟨n, rfl⟩ := Int.eq_ofNat_of_zero_le (Int.le_trans (Int.natCast_nonneg _) within.1)
  have most : n ≤ band.maxFreq.toNat := Int.ofNat_le.mp within.2
  have fits := band.maxFreq.isLt
  have hal := @seek_hal band isUp quality core sound narrow low n within
  have start_kHz : (kHz n).toNat = 10 * n := kHz_toNat (by omega)
  refine ⟨_, congrArg Prod.snd service, ?_⟩
  rw [Int.toNat_natCast, hal]
  cases sought : (band.others n isUp).find? (band.valid quality) with
  | none =>
      refine ⟨?_, iff_of_true (.inl rfl) rfl⟩
      show ((kHz n).toNat : Int) = 10 * n
      rw [start_kHz]
      omega
  | some first =>
      have member := (mem_around (channelAt_lt sound within)).mp (List.mem_of_find?_eq_some sought)
      have found : band.accepts n isUp quality first = true := by
        rw [← find_accepts sound within apart] at sought
        exact List.find?_some sought
      have small := grid_small sound (best_lt member.1 found)
      refine ⟨?_, ?_⟩
      · show ((kHz (band.grid (band.best isUp quality first))).toNat : Int) =
          10 * (band.grid (band.best isUp quality first) : Int)
        rw [kHz_toNat (by omega)]
        omega
      · constructor
        · intro either
          cases either with
          | inl nothing => cases nothing
          | inr same =>
              have values := (kHz_inj (by omega) (by omega)).mp same
              exact congrArg Nat.cast values
        · intro same
          have values : band.grid (band.best isUp quality first) = n := Int.ofNat_inj.mp same
          exact .inr (congrArg kHz values)

theorem seek_agrees_few :
    fewChannels.Agrees 8760 true (oneStation 8770) ⟨0, false, 0⟩ :=
  seek_agrees (by decide) (by decide) (by decide) (by decide) (by
    intro freq _ passed
    rw [same, decide_eq_true_iff] at passed
    exact absurd passed.1 (by decide))

/-- A band with a space of 300 kHz, and one that begins below its space. -/
def wideChannels : SeekBand := ⟨8750, 8840, 30⟩

def lowChannels : SeekBand := ⟨5, 65, 20⟩

theorem not_agrees {start found : Int}
    (run : (band.seekChannel start isUp (steady quality)).2 = some found)
    (other : (((core.seek band.inKHz (kHz start.toNat) (inHal isUp)
      (halSteady quality)).2.channel (kHz start.toNat)).toNat : Int) ≠ 10 * found) :
    ¬ band.Agrees start isUp quality core := by
  rintro ⟨stored, service, same, _⟩
  rw [run] at service
  cases service
  exact other same

/-- Only the service passes the channel next to the start over; only the HAL looks at a step cut to
a byte, and below 0. -/
theorem not_seek_agrees :
    ¬ closeChannels.Agrees 8750 true (oneStation 8755) ⟨0, false, 0⟩ ∧
    ¬ wideChannels.Agrees 8750 true (twoStations 8780 8810) ⟨0, false, 0⟩ ∧
    ¬ lowChannels.Agrees 45 false (twoStations 25 429496714) ⟨0, false, 0⟩ :=
  ⟨@not_agrees closeChannels true _ _ 8750 8750 (by decide) (by decide),
    @not_agrees wideChannels true _ _ 8750 8810 (by decide) (by decide),
    @not_agrees lowChannels false _ _ 45 25 (by decide) (by decide)⟩

end SeekBand

end Connectivity.Fm
