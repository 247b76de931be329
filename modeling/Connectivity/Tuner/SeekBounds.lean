import Connectivity.Tuner.Seek

set_option autoImplicit false

/- Where a search ends: its channels are in the band, as long as no sum or difference of a channel
and a step leaves the 32 bits. -/
namespace Connectivity.Tuner

theorem within_toNat {config : BandConfig} {freq : BitVec 32} :
    config.Within freq ↔
      config.lowerLimit.toNat ≤ freq.toNat ∧ freq.toNat ≤ config.upperLimit.toNat :=
  Iff.rfl

/-- A frequency of the band is one of the chip when the band begins at a multiple of 100 kHz. -/
theorem chipFreq_within {config : BandConfig} {freq : BitVec 32} (within : config.Within freq)
    (begins : config.lowerLimit.toNat % 100 = 0) (bounded : config.upperLimit.toNat < 6553600) :
    config.lowerLimit.toNat ≤ chipFreq freq ∧ chipFreq freq ≤ config.upperLimit.toNat := by
  obtain ⟨lower, upper⟩ := within_toNat.mp within
  rw [chipFreq]
  omega

theorem chipFreq_le (freq : BitVec 32) : chipFreq freq ≤ freq.toNat := by
  rw [chipFreq]
  omega

namespace BandConfig

variable {config : BandConfig}

/-- The step of `FMR_Seek_More`. -/
def moreStep (config : BandConfig) : Nat := config.spacing.toNat % 256

theorem moreStep_toNat : ((config.spacing.setWidth 8).setWidth 32).toNat = config.moreStep := by
  rw [BitVec.toNat_setWidth, BitVec.toNat_setWidth, moreStep]
  omega

section More

variable (fits : config.moreStep ≤ config.lowerLimit.toNat)
  (room : config.upperLimit.toNat + config.moreStep < 4294967296)

include fits room

theorem seekMore_within {dir : Direction} {probe : Nat → Probe} {more : Nat}
    {freq best : BitVec 32} {rssi : Int} (here : config.Within freq) (found : config.Within best) :
    config.Within (config.seekMore dir probe more freq best rssi) := by
  induction more generalizing freq best rssi with
  | zero => exact found
  | succ more ih =>
      have step := @moreStep_toNat config
      obtain ⟨lower, upper⟩ := within_toNat.mp here
      cases dir with
      | up =>
          rw [seekMore]
          dsimp only
          split
          · exact found
          · rename_i inside
            have next : config.Within (freq + (config.spacing.setWidth 8).setWidth 32) := by
              have below := BitVec.not_lt.mp (of_decide_eq_false (eq_false_of_ne_true inside))
              rw [within_toNat, BitVec.toNat_add, step, Nat.mod_eq_of_lt (by omega)]
              have bound := BitVec.le_def.mp below
              rw [BitVec.toNat_add, step, Nat.mod_eq_of_lt (by omega)] at bound
              omega
            split
            · exact ih next next
            · exact ih next found
      | down =>
          rw [seekMore]
          dsimp only
          split
          · exact found
          · rename_i inside
            have next : config.Within (freq - (config.spacing.setWidth 8).setWidth 32) := by
              have below := BitVec.not_lt.mp (of_decide_eq_false (eq_false_of_ne_true inside))
              have small : (config.spacing.setWidth 8).setWidth 32 ≤ freq := by
                rw [BitVec.le_def, step]
                omega
              have bound := BitVec.le_def.mp below
              rw [BitVec.toNat_sub_of_le small, step] at bound
              rw [within_toNat, BitVec.toNat_sub_of_le small, step]
              omega
            split
            · exact ih next next
            · exact ih next found

end More

/-- The last channel of the band, counted from its lower limit. -/
def lastIndex (config : BandConfig) : Nat :=
  (config.upperLimit.toNat - config.lowerLimit.toNat) / config.spacing.toNat

theorem channel_within {i : Int} (ordered : config.lowerLimit ≤ config.upperLimit)
    (within : (BitVec.ofInt 32 i).toNat ≤ config.lastIndex) :
    config.Within (config.lowerLimit + config.spacing * BitVec.ofInt 32 i) := by
  have order := BitVec.le_def.mp ordered
  have last : config.spacing.toNat * (BitVec.ofInt 32 i).toNat ≤
      config.upperLimit.toNat - config.lowerLimit.toNat := by
    calc
      _ ≤ config.spacing.toNat * config.lastIndex := Nat.mul_le_mul_left _ within
      _ ≤ _ := Nat.mul_div_le _ _
  have bound := config.upperLimit.isLt
  rw [within_toNat, BitVec.toNat_add, BitVec.toNat_mul]
  rw [Nat.mod_eq_of_lt (by omega : config.spacing.toNat * (BitVec.ofInt 32 i).toNat < 2 ^ 32)]
  rw [Nat.mod_eq_of_lt (by omega)]
  omega

theorem seekAmong_within {dir : Direction} {probe : Nat → Probe} {turn : Nat} {order : List Int}
    {channel : BitVec 32} (ordered : config.lowerLimit ≤ config.upperLimit)
    (fits : config.moreStep ≤ config.lowerLimit.toNat)
    (room : config.upperLimit.toNat + config.moreStep < 4294967296)
    (indices : ∀ i ∈ order, (BitVec.ofInt 32 i).toNat ≤ config.lastIndex)
    (found : config.seekAmong dir probe turn order = some channel) : config.Within channel := by
  induction order generalizing turn with
  | nil => cases found
  | cons i rest ih =>
      rw [seekAmong] at found
      split at found
      · cases found
        have here := channel_within ordered (indices i List.mem_cons_self)
        exact seekMore_within fits room here here
      · exact ih (fun j later => indices j (List.mem_cons_of_mem _ later)) found

theorem mem_indices {first last i : Int} (member : i ∈ indices first last) :
    first ≤ i ∧ i < last := by
  rw [indices, List.mem_map] at member
  obtain ⟨n, member, same⟩ := member
  rw [List.mem_range] at member
  omega

section Order

theorem one_toNat : (1 : BitVec 32).toNat = 1 := rfl

variable {here count : BitVec 32} {last : Nat}

/-- The casts of the bounds keep an index between them. -/
theorem index_above {i : Int} (count_eq : count.toNat = last + 1) (before : here.toNat ≤ last)
    (low : (here + 1).toInt ≤ i) (high : i < count.toInt) : (BitVec.ofInt 32 i).toNat ≤ last := by
  have bound := count.isLt
  have next : (here + 1).toNat = here.toNat + 1 := by
    rw [BitVec.toNat_add, one_toNat]
    omega
  rw [BitVec.toInt_eq_toNat_cond, next] at low
  rw [BitVec.toInt_eq_toNat_cond] at high
  rw [BitVec.toNat_ofInt]
  split at low <;> split at high <;> omega

theorem index_below {i : Int} (before : here.toNat ≤ last) (low : 0 ≤ i) (high : i < here.toInt) :
    (BitVec.ofInt 32 i).toNat ≤ last := by
  have bound := here.isLt
  rw [BitVec.toInt_eq_toNat_cond] at high
  rw [BitVec.toNat_ofInt]
  split at high <;> omega

theorem index_downwards {i : Int} (before : here.toNat ≤ last) (low : 0 ≤ i)
    (high : i < (here - 1).toInt + 1) : (BitVec.ofInt 32 i).toNat ≤ last := by
  have bound := here.isLt
  have previous : (here - 1).toNat = (here.toNat + 4294967295) % 4294967296 := by
    rw [BitVec.toNat_sub, one_toNat]
    omega
  rw [BitVec.toInt_eq_toNat_cond, previous] at high
  rw [BitVec.toNat_ofInt]
  split at high <;> omega

theorem index_downwards_above {i : Int} (count_eq : count.toNat = last + 1)
    (before : here.toNat ≤ last) (low : here.toInt + 1 ≤ i) (high : i < (count - 1).toInt + 1) :
    (BitVec.ofInt 32 i).toNat ≤ last := by
  have bound := count.isLt
  have previous : (count - 1).toNat = last := by
    rw [BitVec.toNat_sub, one_toNat]
    omega
  rw [BitVec.toInt_eq_toNat_cond] at low
  rw [BitVec.toInt_eq_toNat_cond, previous] at high
  rw [BitVec.toNat_ofInt]
  split at low <;> split at high <;> omega

end Order

/-- The channel that a search stores is one of the band. -/
theorem seek_within {channel : BitVec 32} {dir : Direction} {probe : Nat → Probe}
    (ordered : config.lowerLimit ≤ config.upperLimit)
    (fits : config.moreStep ≤ config.lowerLimit.toNat)
    (room : config.upperLimit.toNat + config.moreStep < 4294967296) :
    config.Within (config.seek channel dir probe) := by
  have start : config.Within (if config.Within channel then channel else config.lowerLimit) := by
    split
    · assumption
    · exact ⟨Nat.le_refl _, ordered⟩
  unfold seek
  dsimp only
  generalize (if config.Within channel then channel else config.lowerLimit) = first at *
  obtain ⟨lower, upper⟩ := within_toNat.mp start
  split
  · exact start
  · rename_i some
    have span : (config.upperLimit - config.lowerLimit).toNat =
        config.upperLimit.toNat - config.lowerLimit.toNat := BitVec.toNat_sub_of_le ordered
    have before : ((first - config.lowerLimit) / config.spacing).toNat ≤ config.lastIndex := by
      rw [BitVec.toNat_udiv, BitVec.toNat_sub_of_le start.1]
      exact Nat.div_le_div_right (by omega)
    have count : ((config.upperLimit - config.lowerLimit) / config.spacing + 1).toNat =
        config.lastIndex + 1 := by
      have quotient : ((config.upperLimit - config.lowerLimit) / config.spacing).toNat =
          config.lastIndex := by
        rw [BitVec.toNat_udiv, span, lastIndex]
      have bound := ((config.upperLimit - config.lowerLimit) / config.spacing).isLt
      have nonzero : ((config.upperLimit - config.lowerLimit) / config.spacing + 1).toNat ≠ 0 :=
        fun zero => some (BitVec.eq_of_toNat_eq zero)
      rw [BitVec.toNat_add, quotient, one_toNat] at nonzero ⊢
      omega
    cases found : config.seekAmong dir probe 0 _ with
    | none => exact start
    | some channel =>
        apply seekAmong_within ordered fits room _ found
        intro i member
        cases dir with
        | up =>
            cases List.mem_append.mp member with
            | inl above =>
                obtain ⟨low, high⟩ := mem_indices above
                exact index_above count before low high
            | inr below =>
                obtain ⟨low, high⟩ := mem_indices below
                exact index_below before low high
        | down =>
            cases List.mem_append.mp member with
            | inl below =>
                obtain ⟨low, high⟩ := mem_indices (List.mem_reverse.mp below)
                exact index_downwards before low high
            | inr above =>
                obtain ⟨low, high⟩ := mem_indices (List.mem_reverse.mp above)
                exact index_downwards_above count before low high

end BandConfig

end Connectivity.Tuner
