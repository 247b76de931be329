import Connectivity.Fm.SeekGrid
import Connectivity.Fm.Commands

set_option autoImplicit false

/- The band and the spacing of a search, over the calls that set them in any order. -/
namespace Connectivity.Fm

/-- The argument of `SPACING`; of any other value nothing is made. -/
inductive Spacing
  | space50 | space100 | space200 | other
deriving DecidableEq, Repr

/-- The calls that set the band and the spacing; any region but the first three is special. -/
inductive Setting
  | region (region : Region)
  | spacing (spacing : Spacing)
  | band (low high : BitVec 32)
deriving DecidableEq, Repr

/-- The part of `CUST_cfg_ds` that a search reads, with the configured spacing and the customized
one. -/
structure SeekCfg extends CustCfg where
  seekSpace : Int
  seekSpaceCust : Int
deriving DecidableEq, Repr

/-- How `FMR_seek` begins: outside the band, with a division by 0, or with a search. -/
inductive SeekStart
  | invalidPara
  | dividesByZero
  | searches (band : SeekBand)
deriving DecidableEq, Repr

namespace Spacing

/-- What `setControl` stores for a spacing, in units of 10 kHz. -/
def customized : Spacing → Option Int
  | .space50 => some 5
  | .space100 => some 10
  | .space200 => some 20
  | .other => none

end Spacing

def Region.band : Region → Band
  | .ue => .ue
  | .japan => .japan
  | .japanw => .japanw
  | .special => .special

namespace SeekCfg

variable (cfg : SeekCfg)

/-- `FMR_init`, from a memory of zeros, for a build with a spacing of 50 kHz or without. -/
def init (chip : Int) (fine : Bool) : SeekCfg :=
  { chip := chip
    band := .ue
    lowBand := 8750
    highBand := 10800
    lowBandCust := 0
    highBandCust := 0
    seekSpace := if fine then 5 else 1
    seekSpaceCust := 0 }

/-- `setControl` and `setBand`. -/
def set : Setting → SeekCfg
  | .region region => { cfg with toCustCfg := cfg.toCustCfg.setRegion region.band }
  | .spacing spacing =>
      match spacing.customized with
      | some space => { cfg with seekSpaceCust := space }
      | none => cfg
  | .band low high =>
      { cfg with toCustCfg := cfg.setCustomizedBandBoundary low.toInt high.toInt }

/-- The spacing of a band that is not the special one. -/
def configuredSpace : BitVec 8 :=
  if cfg.seekSpace = 5 then 5 else if cfg.seekSpace = 2 then 20 else 10

/-- `FMR_seek` up to its search: the start is compared with the limits as they are stored, which
are cut to 16 bits after that. -/
def seekStart (start : Int) : SeekStart :=
  if cfg.outside start then .invalidPara
  else
    match cfg.band with
    | .japan => .searches ⟨7600, 9600, cfg.configuredSpace⟩
    | .japanw => .searches ⟨7600, 10800, cfg.configuredSpace⟩
    | .ue => .searches ⟨8750, 10800, cfg.configuredSpace⟩
    | .unknown => .searches ⟨8750, 10800, cfg.configuredSpace⟩
    | .special =>
        let band : SeekBand :=
          { minFreq := BitVec.ofInt 16 cfg.lowBandCust
            maxFreq := BitVec.ofInt 16 cfg.highBandCust
            seekSpace := BitVec.ofInt 8 cfg.seekSpaceCust }
        if band.space = 0 then .dividesByZero else .searches band

end SeekCfg

/-- What the client has chosen last: a region, a spacing if any, and a boundary. -/
structure Chosen where
  region : Region
  spacing : Option Int
  low : Int
  high : Int
deriving DecidableEq, Repr

namespace Chosen

variable (chosen : Chosen)

def init : Chosen := ⟨.ue, none, 0, 0⟩

def set : Setting → Chosen
  | .region region => { chosen with region := region }
  | .spacing spacing => { chosen with spacing := spacing.customized.or chosen.spacing }
  | .band low high => { chosen with low := low.toInt, high := high.toInt }

/-- The limits of the region, or the boundary when the region is special. -/
def limits : Int × Int :=
  match chosen.region with
  | .ue => (8750, 10800)
  | .japan => (7600, 9600)
  | .japanw => (7600, 10800)
  | .special => (chosen.low, chosen.high)

/-- The spacing that is for a region; the client's is for the special one alone. -/
def space (fine : Bool) : Option Int :=
  if chosen.region = .special then chosen.spacing else some (if fine then 5 else 10)

/-- A special region with a spacing, and with a boundary of frequencies of 16 bits. -/
def Usable : Prop :=
  chosen.region = .special →
    chosen.spacing ≠ none ∧ 0 ≤ chosen.low ∧ chosen.high < 65536

instance : Decidable chosen.Usable := inferInstanceAs (Decidable (_ → _))

end Chosen

/-- The configuration holds what has been chosen. -/
structure Holds (fine : Bool) (cfg : SeekCfg) (chosen : Chosen) : Prop where
  band : cfg.band = chosen.region.band
  standard : chosen.region ≠ .special → (cfg.lowBand, cfg.highBand) = chosen.limits
  low : cfg.lowBandCust = chosen.low
  high : cfg.highBandCust = chosen.high
  space : cfg.seekSpace = if fine then 5 else 1
  spaceCust : cfg.seekSpaceCust = chosen.spacing.getD 0
  known : ∀ space ∈ chosen.spacing, 0 < space ∧ space < 256

section Holds

variable {fine : Bool} {cfg : SeekCfg} {chosen : Chosen}

theorem init_holds (chip : Int) : Holds fine (SeekCfg.init chip fine) Chosen.init where
  band := rfl
  standard _ := rfl
  low := rfl
  high := rfl
  space := rfl
  spaceCust := rfl
  known space member := by cases member

theorem customized_bound {spacing : Spacing} {space : Int}
    (customized : spacing.customized = some space) : 0 < space ∧ space < 256 := by
  cases spacing with
  | space50 =>
      cases customized
      decide
  | space100 =>
      cases customized
      decide
  | space200 =>
      cases customized
      decide
  | other => cases customized

theorem set_holds (holds : Holds fine cfg chosen) (setting : Setting) :
    Holds fine (cfg.set setting) (chosen.set setting) := by
  cases setting with
  | region region =>
      have frame : ((cfg.set (.region region)).lowBandCust = cfg.lowBandCust) ∧
          (cfg.set (.region region)).highBandCust = cfg.highBandCust := by
        cases region <;> exact ⟨rfl, rfl⟩
      constructor
      case band => cases region <;> rfl
      case standard =>
          intro standard
          cases region with
          | ue => rfl
          | japan => rfl
          | japanw => rfl
          | special => exact absurd rfl standard
      case low => exact frame.1.trans holds.low
      case high => exact frame.2.trans holds.high
      case space => exact holds.space
      case spaceCust => exact holds.spaceCust
      case known => exact holds.known
  | spacing spacing =>
      cases customized : spacing.customized with
      | none =>
          rw [SeekCfg.set, Chosen.set, customized]
          exact holds
      | some space =>
          rw [SeekCfg.set, Chosen.set, customized]
          constructor
          case band => exact holds.band
          case standard => exact holds.standard
          case low => exact holds.low
          case high => exact holds.high
          case space => exact holds.space
          case spaceCust => rfl
          case known =>
              intro other member
              cases member
              exact customized_bound customized
  | band low high =>
      constructor
      case band => exact holds.band
      case standard =>
          intro standard
          have limits : (chosen.set (.band low high)).limits = chosen.limits := by
            cases region : chosen.region with
            | special => exact absurd region standard
            | ue => simp only [Chosen.limits, Chosen.set, region]
            | japan => simp only [Chosen.limits, Chosen.set, region]
            | japanw => simp only [Chosen.limits, Chosen.set, region]
          rw [limits]
          exact holds.standard standard
      case low => rfl
      case high => rfl
      case space => exact holds.space
      case spaceCust => exact holds.spaceCust
      case known => exact holds.known

theorem sets_hold (settings : List Setting) (holds : Holds fine cfg chosen) :
    Holds fine (settings.foldl SeekCfg.set cfg) (settings.foldl Chosen.set chosen) := by
  induction settings generalizing cfg chosen with
  | nil => exact holds
  | cons setting rest ih => exact ih (set_holds holds setting)

end Holds

/-- A search is begun inside the limits only, over a positive number of channels between them, and
with the space if there is one. -/
def SeekStart.Uses (began : SeekStart) (limits : Int × Int) (space : Option Int) (start : Int) :
    Prop :=
  (¬ (limits.1 ≤ start ∧ start ≤ limits.2) → began = .invalidPara) ∧
  (limits.1 ≤ start ∧ start ≤ limits.2 → ∃ band, began = .searches band ∧
    band.lower = limits.1 ∧ band.upper = limits.2 ∧ (∀ s ∈ space, band.space = s) ∧
    0 < band.space ∧ 0 < band.channelNo)

section Uses

variable {fine : Bool} {cfg : SeekCfg} {chosen : Chosen} {start : Int}

theorem configuredSpace_eq (holds : Holds fine cfg chosen) :
    cfg.configuredSpace = if fine then 5 else 10 := by
  rw [SeekCfg.configuredSpace, holds.space]
  cases fine <;> rfl

theorem boundary_eq (holds : Holds fine cfg chosen) : cfg.getBandBoundary = chosen.limits := by
  rw [CustCfg.getBandBoundary, holds.band]
  by_cases special : chosen.region = .special
  · have band : ¬ chosen.region.band ≠ .special := by
      rw [special]
      exact fun other => other rfl
    rw [if_neg band, holds.low, holds.high, Chosen.limits, special]
  · have band : chosen.region.band ≠ .special := by
      cases region : chosen.region with
      | special => exact absurd region special
      | ue => exact Band.noConfusion
      | japan => exact Band.noConfusion
      | japanw => exact Band.noConfusion
    rw [if_pos band]
    exact holds.standard special

theorem outside_iff (holds : Holds fine cfg chosen) :
    cfg.outside start = true ↔ ¬ (chosen.limits.1 ≤ start ∧ start ≤ chosen.limits.2) := by
  rw [CustCfg.outside, boundary_eq holds, decide_eq_true_iff]
  omega

/-- A band of limits that are in order has channels, for any space. -/
theorem channelNo_pos {band : SeekBand} (sound : band.Sound) : 0 < band.channelNo := by
  rw [SeekBand.channelNo_eq sound]
  exact Int.natCast_pos.mpr (Nat.succ_pos _)

/-- The standard regions, with the spacing that is configured. -/
theorem uses_standard (holds : Holds fine cfg chosen) {least most : BitVec 16}
    (began : cfg.outside start = false →
      cfg.seekStart start = .searches ⟨least, most, cfg.configuredSpace⟩)
    (limits : chosen.limits = ((least.toNat : Int), (most.toNat : Int)))
    (ordered : least.toNat ≤ most.toNat) :
    (cfg.seekStart start).Uses chosen.limits (some (if fine then 5 else 10)) start := by
  refine ⟨?_, ?_⟩
  · intro outside
    rw [SeekCfg.seekStart, if_pos ((outside_iff holds).mpr outside)]
  · intro inside
    have kept : cfg.outside start = false := by
      refine eq_false_of_ne_true fun outside => ?_
      exact (outside_iff holds).mp outside inside
    have spaced : 0 < cfg.configuredSpace.toNat := by
      rw [configuredSpace_eq holds]
      cases fine <;> decide
    have sound : SeekBand.Sound ⟨least, most, cfg.configuredSpace⟩ := ⟨ordered, spaced⟩
    rw [limits]
    refine ⟨_, began kept, rfl, rfl, ?_, Int.natCast_pos.mpr spaced, channelNo_pos sound⟩
    intro s member
    cases member
    rw [SeekBand.space, configuredSpace_eq holds]
    cases fine <;> rfl

/-- The special region, with the boundary and the spacing that are customized. -/
theorem uses_special (holds : Holds fine cfg chosen) (special : chosen.region = .special)
    (usable : chosen.Usable) :
    (cfg.seekStart start).Uses chosen.limits chosen.spacing start := by
  obtain ⟨spacing, low, high⟩ := usable special
  have limits : chosen.limits = (chosen.low, chosen.high) := by rw [Chosen.limits, special]
  refine ⟨?_, ?_⟩
  · intro outside
    rw [SeekCfg.seekStart, if_pos ((outside_iff holds).mpr outside)]
  · intro inside
    have kept : ¬ cfg.outside start = true := fun outside => (outside_iff holds).mp outside inside
    rw [limits] at inside ⊢
    cases last : chosen.spacing with
    | none => exact absurd last spacing
    | some space =>
        have bound := holds.known space last
        have band : cfg.band = .special := by rw [holds.band, special, Region.band]
        have spaceCust : cfg.seekSpaceCust = space := by
          rw [holds.spaceCust, last, Option.getD_some]
        have lower : ((BitVec.ofInt 16 chosen.low).toNat : Int) = chosen.low := by
          rw [BitVec.toNat_ofInt]
          omega
        have upper : ((BitVec.ofInt 16 chosen.high).toNat : Int) = chosen.high := by
          rw [BitVec.toNat_ofInt]
          omega
        have spaced : ((BitVec.ofInt 8 space).toNat : Int) = space := by
          rw [BitVec.toNat_ofInt]
          omega
        have sound : SeekBand.Sound ⟨BitVec.ofInt 16 chosen.low, BitVec.ofInt 16 chosen.high,
            BitVec.ofInt 8 space⟩ := ⟨by dsimp only; omega, by dsimp only; omega⟩
        refine ⟨⟨BitVec.ofInt 16 chosen.low, BitVec.ofInt 16 chosen.high, BitVec.ofInt 8 space⟩,
          ?_, lower, upper, ?_, ?_, channelNo_pos sound⟩
        · rw [SeekCfg.seekStart, if_neg kept, band, holds.low, holds.high, spaceCust]
          exact if_neg (ne_of_gt (by rw [SeekBand.space, spaced]; exact bound.1))
        · intro s member
          cases member
          exact spaced
        · rw [SeekBand.space, spaced]
          exact bound.1

/-- After any settings a search uses the limits of the last region, or the last boundary, and the
spacing that is for the region. -/
theorem seek_uses_chosen (chip : Int) (fine : Bool) (settings : List Setting) (start : Int)
    (usable : (settings.foldl Chosen.set Chosen.init).Usable) :
    ((settings.foldl SeekCfg.set (SeekCfg.init chip fine)).seekStart start).Uses
      (settings.foldl Chosen.set Chosen.init).limits
      ((settings.foldl Chosen.set Chosen.init).space fine) start := by
  have holds := sets_hold settings (@init_holds fine chip)
  generalize settings.foldl Chosen.set Chosen.init = chosen at holds usable ⊢
  generalize settings.foldl SeekCfg.set (SeekCfg.init chip fine) = cfg at holds ⊢
  have kept : cfg.outside start = false → ¬ cfg.outside start = true := ne_true_of_eq_false
  cases region : chosen.region with
  | special =>
      rw [Chosen.space, if_pos region]
      exact uses_special holds region usable
  | ue =>
      have band : cfg.band = .ue := by rw [holds.band, region, Region.band]
      have limits : chosen.limits = (8750, 10800) := by rw [Chosen.limits, region]
      rw [Chosen.space, region, if_neg Region.noConfusion]
      refine @uses_standard fine cfg chosen start holds 8750 10800 ?_ limits (by decide)
      intro inside
      rw [SeekCfg.seekStart, if_neg (kept inside), band]
  | japan =>
      have band : cfg.band = .japan := by rw [holds.band, region, Region.band]
      have limits : chosen.limits = (7600, 9600) := by rw [Chosen.limits, region]
      rw [Chosen.space, region, if_neg Region.noConfusion]
      refine @uses_standard fine cfg chosen start holds 7600 9600 ?_ limits (by decide)
      intro inside
      rw [SeekCfg.seekStart, if_neg (kept inside), band]
  | japanw =>
      have band : cfg.band = .japanw := by rw [holds.band, region, Region.band]
      have limits : chosen.limits = (7600, 10800) := by rw [Chosen.limits, region]
      rw [Chosen.space, region, if_neg Region.noConfusion]
      refine @uses_standard fine cfg chosen start holds 7600 10800 ?_ limits (by decide)
      intro inside
      rw [SeekCfg.seekStart, if_neg (kept inside), band]

end Uses

/-- Settings of a special region with a boundary from 76 to 90 MHz. -/
def special76 : List Setting := [.band 7600 9000, .spacing .space50, .region .special]

theorem seek_uses_special76 :
    ((special76.foldl SeekCfg.set (SeekCfg.init 0 false)).seekStart 8000).Uses
      (special76.foldl Chosen.set Chosen.init).limits
      ((special76.foldl Chosen.set Chosen.init).space false) 8000 :=
  seek_uses_chosen 0 false special76 8000 (by decide)

/-- A search that uses what has been set last, the spacing in any region. -/
def UsesLast (settings : List Setting) (start : Int) : Prop :=
  ((settings.foldl SeekCfg.set (SeekCfg.init 0 false)).seekStart start).Uses
    (settings.foldl Chosen.set Chosen.init).limits
    (settings.foldl Chosen.set Chosen.init).spacing start

/-- A spacing is not used for the default region; a special region without one divides by 0, and
one that begins below 0 has no channels. -/
theorem not_seek_uses_last :
    ¬ UsesLast [.spacing .space50] 8750 ∧
    ¬ UsesLast [.region .special] 0 ∧
    ¬ UsesLast [.band (BitVec.ofInt 32 (-5)) 10, .spacing .space100, .region .special] 0 := by
  refine ⟨?_, ?_, ?_⟩
  · rintro ⟨_, inside⟩
    obtain ⟨band, began, _, _, space, _, _⟩ := inside (by decide)
    cases began
    exact absurd (space 5 rfl) (by decide)
  · rintro ⟨_, inside⟩
    obtain ⟨band, began, _⟩ := inside (by decide)
    cases began
  · rintro ⟨_, inside⟩
    obtain ⟨band, began, _, _, _, _, channels⟩ := inside (by decide)
    cases began
    exact absurd channels (by decide)

end Connectivity.Fm
