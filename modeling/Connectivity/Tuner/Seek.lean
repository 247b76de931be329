import Mathlib.Data.List.Basic

set_option autoImplicit false

/- The core of the broadcast-radio HAL: the search for a station and what the driver is given. -/
namespace Connectivity.Tuner

/-- The part of `radio_hal_band_config_t` that the HAL reads, in kHz: the limits of the band and
`spacings[0]`. -/
structure BandConfig where
  lowerLimit : BitVec 32
  upperLimit : BitVec 32
  spacing : BitVec 32
deriving DecidableEq, Repr

/-- `RADIO_DIRECTION_UP` and `RADIO_DIRECTION_DOWN`. -/
inductive Direction
  | up | down
deriving DecidableEq, Repr

/-- What `FMR_Seek_TuneCheck` makes of a channel: whether it is valid, and its signal. -/
structure Probe where
  valid : Bool
  rssi : Int
deriving DecidableEq, Repr

/-- The frequency in kHz that the driver is given by `FMR_tune`: a number of 100 kHz in the 16
bits of `fm_tune_parm`. -/
def chipFreq (freq : BitVec 32) : Nat := 100 * ((freq.toNat / 100) % 65536)

namespace BandConfig

variable (config : BandConfig)

def Within (freq : BitVec 32) : Prop := config.lowerLimit ≤ freq ∧ freq ≤ config.upperLimit

instance (freq : BitVec 32) : Decidable (config.Within freq) :=
  inferInstanceAs (Decidable (_ ∧ _))

/-- `FMR_Seek_More`: two channels further on, as long as they are in the band, the step cut to a
byte. `probe` is what the driver finds there. -/
def seekMore (dir : Direction) (probe : Nat → Probe) :
    Nat → BitVec 32 → BitVec 32 → Int → BitVec 32
  | 0, _, best, _ => best
  | more + 1, freq, best, rssi =>
      let step := (config.spacing.setWidth 8).setWidth 32
      let next := match dir with
        | .up => freq + step
        | .down => freq - step
      let outside := match dir with
        | .up => decide (config.upperLimit < next)
        | .down => decide (next < config.lowerLimit)
      if outside then best
      else
        let found := probe (2 - (more + 1))
        if found.valid ∧ rssi < found.rssi then seekMore dir probe more next next found.rssi
        else seekMore dir probe more next best rssi

/-- The loops of `FMR_seek` over the channels of the band, up to the first that is valid; `turn`
counts the calls of the driver. -/
def seekAmong (dir : Direction) (probe : Nat → Probe) : Nat → List Int → Option (BitVec 32)
  | _, [] => none
  | turn, i :: rest =>
      let freq := config.lowerLimit + config.spacing * BitVec.ofInt 32 i
      let found := probe turn
      if found.valid then
        some (config.seekMore dir (fun more => probe (turn + 1 + more)) 2 freq freq found.rssi)
      else seekAmong dir probe (turn + 1) rest

/-- `i` from one bound up to the other, or the other way round. -/
def indices (first last : Int) : List Int :=
  (List.range (last - first).toNat).map fun (n : Nat) => first + (n : Int)

/-- `FMR_seek`: the channel it stores, the start of the search if there is none. The bounds of its
loops are cast to `int`. -/
def seek (channel : BitVec 32) (dir : Direction) (probe : Nat → Probe) : BitVec 32 :=
  let start := if config.Within channel then channel else config.lowerLimit
  let count := (config.upperLimit - config.lowerLimit) / config.spacing + 1
  let here := (start - config.lowerLimit) / config.spacing
  if count = 0 then start
  else
    let order := match dir with
      | .up => indices (here + 1).toInt count.toInt ++ indices 0 here.toInt
      | .down => (indices 0 ((here - 1).toInt + 1)).reverse ++
          (indices (here.toInt + 1) ((count - 1).toInt + 1)).reverse
    (config.seekAmong dir probe 0 order).getD start

end BandConfig

end Connectivity.Tuner
