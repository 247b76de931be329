import Connectivity.Tuner.Search
import Connectivity.Ring.Around
import Mathlib.Data.Int.Order.Basic

set_option autoImplicit false

/- The search of the FM service over a driver that finds the same at a frequency every time: it is
the search round the ring of the band's channels. -/
namespace Connectivity.Fm

open Tuner (Answer Probe)

/-- What `FMR_seek` searches with, in units of 10 kHz: limits of 16 bits, and a spacing of 8. -/
structure SeekBand where
  minFreq : BitVec 16
  maxFreq : BitVec 16
  seekSpace : BitVec 8
deriving DecidableEq, Repr

/-- The answer to each check of a search, by its turn and its frequency. -/
abbrev SeekDriver := Nat → Nat → Answer

/-- `FMR_Seek_TuneCheck`: nothing is made of a channel when the search has been stopped. -/
def tuneCheck (answer : Answer) : Option Probe :=
  if answer.stopped then none else some answer.verdict

namespace SeekBand

variable (band : SeekBand)

/-- The three as `int`. -/
def lower : Int := band.minFreq.toNat

def upper : Int := band.maxFreq.toNat

def space : Int := band.seekSpace.toNat

/-- `band_channel_no`. -/
def channelNo : Int := (band.upper - band.lower).tdiv band.space + 1

/-- The number of the channel at a frequency, or below it. -/
def here (freq : Int) : Int := (freq - band.lower).tdiv band.space

/-- What a check is given for a channel, in 16 bits. -/
def channelFreq (i : Int) : Nat := ((band.lower + band.space * i) % 65536).toNat

/-- The numbers of the channels in the order of the loops. -/
def order (start : Int) (isUp : Bool) : List Int :=
  if isUp then
    Tuner.BandConfig.indices (band.here start + 1) band.channelNo ++
      Tuner.BandConfig.indices 0 (band.here start)
  else
    (Tuner.BandConfig.indices 0 (band.here start)).reverse ++
      (Tuner.BandConfig.indices (band.here start + 1) band.channelNo).reverse

/-- A valid channel that is passed over: with a space of 5, the one next to the start. -/
def same (start : Int) (isUp : Bool) (freq : Nat) : Bool :=
  decide (band.space = 5 ∧
    start = if isUp then (freq : Int) - band.space else (freq : Int) + band.space)

/-- The channel behind one, if it is in the band. -/
def nextFreq (isUp : Bool) (freq : Nat) : Option Nat :=
  if isUp then
    if band.upper < freq + band.space then none
    else some ((freq + band.seekSpace.toNat) % 65536)
  else
    if (freq : Int) - band.space < band.lower then none else some (freq - band.seekSpace.toNat)

/-- `FMR_Seek_More`, with the channels that it checks; `none` is a stop. -/
def seekMore (isUp : Bool) (driver : SeekDriver) :
    Nat → Nat → Nat → Nat → Int → List Nat × Option Nat
  | 0, _, _, best, _ => ([], some best)
  | more + 1, turn, freq, best, rssi =>
      match band.nextFreq isUp freq with
      | none => ([], some best)
      | some next =>
          match tuneCheck (driver turn next) with
          | none => ([next], none)
          | some found =>
              let rest :=
                if found.valid ∧ rssi < found.rssi then
                  seekMore isUp driver more (turn + 1) next next found.rssi
                else seekMore isUp driver more (turn + 1) next best rssi
              (next :: rest.1, rest.2)

/-- The loops of `FMR_seek_Channel`. -/
def seekAmong (start : Int) (isUp : Bool) (driver : SeekDriver) :
    Nat → List Int → List Nat × Option Int
  | _, [] => ([], some start)
  | turn, i :: rest =>
      let freq := band.channelFreq i
      match tuneCheck (driver turn freq) with
      | none => ([freq], none)
      | some found =>
          if found.valid ∧ band.same start isUp freq = false then
            let more := band.seekMore isUp driver 2 (turn + 1) freq freq found.rssi
            (freq :: more.1, more.2.map fun (best : Nat) => (best : Int))
          else
            let later := seekAmong start isUp driver (turn + 1) rest
            (freq :: later.1, later.2)

/-- `FMR_seek_Channel`: the channels it checks, and what it stores in `ret_freq` when it returns
0; it returns -1 only when it has been stopped. -/
def seekChannel (start : Int) (isUp : Bool) (driver : SeekDriver) : List Nat × Option Int :=
  band.seekAmong start isUp driver 0 (band.order start isUp)

end SeekBand

end Connectivity.Fm

namespace Connectivity.Fm

open Tuner (Answer Probe)
open Connectivity.Ring

/-- A driver that finds at a frequency what `quality` says, and is never stopped. -/
def steady (quality : Nat → Probe) : SeekDriver := fun _ freq => ⟨false, 0, quality freq⟩

theorem tuneCheck_steady {quality : Nat → Probe} {turn freq : Nat} :
    tuneCheck (steady quality turn freq) = some (quality freq) := rfl

namespace SeekBand

variable (band : SeekBand)

/-- How many channels the band has. -/
def channels : Nat := (band.maxFreq.toNat - band.minFreq.toNat) / band.seekSpace.toNat + 1

/-- The frequency of a channel. -/
def grid (i : Nat) : Nat := band.minFreq.toNat + band.seekSpace.toNat * i

/-- The channel at a frequency, or the one below it. -/
def channelAt (freq : Int) : Nat := (band.here freq).toNat

def Within (freq : Int) : Prop := band.lower ≤ freq ∧ freq ≤ band.upper

instance (freq : Int) : Decidable (band.Within freq) := inferInstanceAs (Decidable (_ ∧ _))

/-- A band with a channel, and with a spacing. -/
structure Sound : Prop where
  ordered : band.minFreq.toNat ≤ band.maxFreq.toNat
  spaced : 0 < band.seekSpace.toNat

instance : Decidable band.Sound :=
  decidable_of_iff
    (band.minFreq.toNat ≤ band.maxFreq.toNat ∧ 0 < band.seekSpace.toNat)
    ⟨fun both => ⟨both.1, both.2⟩, fun sound => ⟨sound.ordered, sound.spaced⟩⟩

/-- A channel where a station is found. -/
def valid (quality : Nat → Probe) (i : Nat) : Bool := (quality (band.grid i)).valid

def strength (quality : Nat → Probe) (i : Nat) : Int := (quality (band.grid i)).rssi

/-- A channel at which a search stops going from one to the next. -/
def accepts (start : Int) (isUp : Bool) (quality : Nat → Probe) (i : Nat) : Bool :=
  band.valid quality i && !band.same start isUp (band.grid i)

section Grid

variable {band}

theorem grid_succ {i : Nat} : band.grid (i + 1) = band.grid i + band.seekSpace.toNat := by
  rw [grid, grid, Nat.mul_succ]
  omega

theorem grid_le_iff (sound : band.Sound) {i : Nat} :
    band.grid i ≤ band.maxFreq.toNat ↔ i < band.channels := by
  have ordered := sound.ordered
  have bound : i ≤ (band.maxFreq.toNat - band.minFreq.toNat) / band.seekSpace.toNat ↔
      i * band.seekSpace.toNat ≤ band.maxFreq.toNat - band.minFreq.toNat :=
    Nat.le_div_iff_mul_le sound.spaced
  rw [Nat.mul_comm] at bound
  rw [channels, Nat.lt_succ_iff, bound, grid]
  omega

theorem grid_lt (sound : band.Sound) {i j : Nat} (before : i < j) : band.grid i < band.grid j := by
  have step : band.seekSpace.toNat * i < band.seekSpace.toNat * j :=
    (Nat.mul_lt_mul_left sound.spaced).mpr before
  rw [grid, grid]
  omega

theorem grid_lt_iff (sound : band.Sound) {i j : Nat} : band.grid i < band.grid j ↔ i < j := by
  constructor
  · intro less
    refine Nat.lt_of_not_le fun after => ?_
    cases Nat.eq_or_lt_of_le after with
    | inl same =>
        rw [same] at less
        omega
    | inr later =>
        have greater := grid_lt sound later
        omega
  · exact grid_lt sound

theorem grid_within (sound : band.Sound) {i : Nat} (inside : i < band.channels) :
    band.Within (band.grid i) := by
  have below := (grid_le_iff sound).mpr inside
  rw [Within, lower, upper]
  refine ⟨?_, by omega⟩
  rw [grid]
  omega

theorem channelNo_eq (sound : band.Sound) : band.channelNo = band.channels := by
  have ordered := sound.ordered
  rw [channelNo, channels, lower, upper, space, ← Int.ofNat_sub ordered, ← Int.ofNat_tdiv]
  rfl

theorem here_eq (freq : Nat) (within : band.Within freq) :
    band.here freq = ((freq - band.minFreq.toNat) / band.seekSpace.toNat : Nat) := by
  have low : band.minFreq.toNat ≤ freq := Int.ofNat_le.mp within.1
  rw [here, lower, space, ← Int.ofNat_sub low, ← Int.ofNat_tdiv]

theorem here_channelAt {freq : Int} (within : band.Within freq) :
    band.here freq = band.channelAt freq := by
  obtain ⟨n, rfl⟩ := Int.eq_ofNat_of_zero_le (Int.le_trans (Int.natCast_nonneg _) within.1)
  rw [channelAt, here_eq n within, Int.toNat_natCast]

/-- The channel of a frequency is the last one that is not above it. -/
theorem grid_channelAt (sound : band.Sound) {freq : Int} (within : band.Within freq) :
    (band.grid (band.channelAt freq) : Int) ≤ freq ∧
      freq < band.grid (band.channelAt freq + 1) := by
  obtain ⟨n, rfl⟩ := Int.eq_ofNat_of_zero_le (Int.le_trans (Int.natCast_nonneg _) within.1)
  have low : band.minFreq.toNat ≤ n := Int.ofNat_le.mp within.1
  have division := Nat.div_add_mod (n - band.minFreq.toNat) band.seekSpace.toNat
  have rest := Nat.mod_lt (n - band.minFreq.toNat) sound.spaced
  rw [channelAt, here_eq n within, Int.toNat_natCast, grid_succ, grid]
  omega

theorem channelAt_lt (sound : band.Sound) {freq : Int} (within : band.Within freq) :
    band.channelAt freq < band.channels := by
  have below := (grid_channelAt sound within).1
  have high : freq ≤ band.maxFreq.toNat := within.2
  exact (grid_le_iff sound).mp (by omega)

theorem channelAt_grid (sound : band.Sound) {i : Nat} (inside : i < band.channels) :
    band.channelAt (band.grid i) = i := by
  have around := grid_channelAt sound (grid_within sound inside)
  have low := @grid_lt_iff band sound i (band.channelAt (band.grid i) + 1)
  have high := @grid_lt_iff band sound i (band.channelAt (band.grid i))
  omega

theorem channelFreq_eq (sound : band.Sound) {i : Nat} (inside : i < band.channels) :
    band.channelFreq i = band.grid i := by
  have below := (grid_le_iff sound).mpr inside
  have fits : band.maxFreq.toNat < 65536 := band.maxFreq.isLt
  have value : band.lower + band.space * i = (band.grid i : Int) := by
    rw [lower, space, grid, Int.natCast_add, Int.natCast_mul]
  rw [channelFreq, value]
  omega

theorem indices_eq (first last : Nat) :
    Tuner.BandConfig.indices first last =
      (List.range' first (last - first)).map fun (n : Nat) => (n : Int) := by
  have count : ((last : Int) - first).toNat = last - first := by omega
  rw [Tuner.BandConfig.indices, count, List.range'_eq_map_range, List.map_map]
  rfl

/-- The loops come to the other channels as they lie behind the start in the ring. -/
theorem order_eq (sound : band.Sound) {start : Int} (within : band.Within start) {isUp : Bool} :
    band.order start isUp =
      (around band.channels (band.channelAt start) isUp).map fun (n : Nat) => (n : Int) := by
  have inside := channelAt_lt sound within
  have behind := indices_eq (band.channelAt start + 1) band.channels
  have front := indices_eq 0 (band.channelAt start)
  rw [Nat.sub_zero, ← List.range_eq_range'] at front
  rw [order, here_channelAt within, channelNo_eq sound]
  cases isUp with
  | true =>
      rw [around_forward inside, List.map_append, ← behind, ← front]
      rfl
  | false =>
      rw [around_backward, around_forward inside, List.map_reverse, List.map_append, ← behind,
        ← front, List.reverse_append]
      rfl

theorem nextFreq_up (sound : band.Sound) {i : Nat} (inside : i + 1 < band.channels) :
    band.nextFreq true (band.grid i) = some (band.grid (i + 1)) := by
  have below := (grid_le_iff sound).mpr inside
  have fits : band.maxFreq.toNat < 65536 := band.maxFreq.isLt
  have step := @grid_succ band i
  rw [nextFreq, upper, space, if_pos rfl, if_neg (by omega), ← step, Nat.mod_eq_of_lt (by omega)]

theorem nextFreq_up_end (sound : band.Sound) {i : Nat} (last : band.channels ≤ i + 1) :
    band.nextFreq true (band.grid i) = none := by
  have beyond : ¬ band.grid (i + 1) ≤ band.maxFreq.toNat := by
    rw [grid_le_iff sound]
    omega
  have step := @grid_succ band i
  rw [nextFreq, upper, space, if_pos rfl, if_pos (by omega)]

theorem nextFreq_down {i : Nat} :
    band.nextFreq false (band.grid (i + 1)) = some (band.grid i) := by
  have low : band.minFreq.toNat ≤ band.grid i := by
    rw [grid]
    omega
  have step := @grid_succ band i
  rw [nextFreq, lower, space, if_neg (by decide), if_neg (by omega), step, Nat.add_sub_cancel]

theorem nextFreq_down_end (sound : band.Sound) : band.nextFreq false (band.grid 0) = none := by
  have spaced := sound.spaced
  have first : band.grid 0 = band.minFreq.toNat := by
    rw [grid, Nat.mul_zero, Nat.add_zero]
  rw [nextFreq, lower, space, first, if_neg (by decide), if_pos (by omega)]

end Grid

section Steady

variable {band} {quality : Nat → Probe} {isUp : Bool}

/-- The channel behind one is the first of those ahead of it. -/
theorem nextFreq_ahead (sound : band.Sound) (isUp : Bool) {i : Nat} (inside : i < band.channels)
    (more : Nat) :
    (band.nextFreq isUp (band.grid i) = none ∧ ahead band.channels i isUp (more + 1) = []) ∨
    ∃ j, j < band.channels ∧ band.nextFreq isUp (band.grid i) = some (band.grid j) ∧
      ahead band.channels i isUp (more + 1) = j :: ahead band.channels j isUp more := by
  cases isUp with
  | true =>
      by_cases more : i + 1 < band.channels
      · exact .inr ⟨i + 1, more, nextFreq_up sound more, ahead_forward more⟩
      · exact .inl ⟨nextFreq_up_end sound (by omega), ahead_forward_end (by omega)⟩
  | false =>
      cases i with
      | zero => exact .inl ⟨nextFreq_down_end sound, ahead_backward_end⟩
      | succ i => exact .inr ⟨i, by omega, nextFreq_down, ahead_backward⟩

theorem seekMore_steady (sound : band.Sound) {i : Nat} (inside : i < band.channels)
    (more turn best : Nat) :
    band.seekMore isUp (steady quality) more turn (band.grid i) (band.grid best)
        (band.strength quality best) =
      ((ahead band.channels i isUp more).map band.grid,
        some (band.grid (strongest (band.valid quality) (band.strength quality) best
          (ahead band.channels i isUp more)))) := by
  induction more generalizing i turn best with
  | zero =>
      rw [ahead_none]
      rfl
  | succ more ih =>
      rw [seekMore]
      cases nextFreq_ahead sound isUp inside more with
      | inl last =>
          rw [last.1, last.2]
          rfl
      | inr going =>
          obtain ⟨j, here, next, behind⟩ := going
          rw [next, behind]
          dsimp only
          rw [tuneCheck_steady, strongest_cons]
          dsimp only
          by_cases better : band.valid quality j ∧
              band.strength quality best < band.strength quality j
          · have found : (quality (band.grid j)).valid = true ∧
                band.strength quality best < (quality (band.grid j)).rssi := better
            have later := ih here (turn + 1) j
            rw [strength] at later
            rw [if_pos better, if_pos found, later]
            rfl
          · have missed : ¬ ((quality (band.grid j)).valid = true ∧
                band.strength quality best < (quality (band.grid j)).rssi) := better
            rw [if_neg better, if_neg missed, ih here (turn + 1) best]
            rfl

end Steady

/-- The channels of a list up to the first that is accepted. -/
def upTo {Cell : Type} (accepts : Cell → Bool) (cells : List Cell) : List Cell :=
  cells.takeWhile (fun cell => !accepts cell) ++ (cells.find? accepts).toList

/-- The channels that are looked at behind the first that is accepted. -/
def lookAhead (isUp : Bool) (first : Option Nat) : List Nat :=
  first.elim [] fun first => ahead band.channels first isUp 2

/-- The channel that the search ends with. -/
def best (isUp : Bool) (quality : Nat → Probe) (first : Nat) : Nat :=
  strongest (band.valid quality) (band.strength quality) first (ahead band.channels first isUp 2)

end SeekBand

namespace SeekBand

variable {band : SeekBand} {quality : Nat → Probe} {isUp : Bool} {start : Int}

theorem seekAmong_steady (sound : band.Sound) {cells : List Nat}
    (inside : ∀ cell ∈ cells, cell < band.channels) (turn : Nat) :
    band.seekAmong start isUp (steady quality) turn (cells.map fun (n : Nat) => (n : Int)) =
      ((upTo (band.accepts start isUp quality) cells ++
          band.lookAhead isUp (cells.find? (band.accepts start isUp quality))).map band.grid,
        some (((cells.find? (band.accepts start isUp quality)).map fun first =>
          (band.grid (band.best isUp quality first) : Int)).getD start)) := by
  induction cells generalizing turn with
  | nil => rfl
  | cons i rest ih =>
      have here := inside i List.mem_cons_self
      have rest_inside := fun cell member => inside cell (List.mem_cons_of_mem i member)
      have later := ih rest_inside (turn + 1)
      rw [List.map_cons, seekAmong]
      dsimp only
      rw [channelFreq_eq sound here, tuneCheck_steady]
      dsimp only
      cases accepted : band.accepts start isUp quality i with
      | true =>
          have both : (quality (band.grid i)).valid = true ∧
              band.same start isUp (band.grid i) = false := by
            simpa [accepts, valid] using accepted
          have more := @seekMore_steady band quality isUp sound i here 2 (turn + 1) i
          rw [strength] at more
          rw [if_pos both, more, List.find?_cons_of_pos accepted, upTo,
            List.takeWhile_cons_of_neg (by simp [accepted]), List.find?_cons_of_pos accepted]
          rfl
      | false =>
          have both : ¬ ((quality (band.grid i)).valid = true ∧
              band.same start isUp (band.grid i) = false) := by
            simpa [accepts, valid] using accepted
          have refused : ¬ band.accepts start isUp quality i = true := by simp [accepted]
          rw [if_neg both, later, List.find?_cons_of_neg refused, upTo, upTo,
            List.takeWhile_cons_of_pos (by simp [accepted]), List.find?_cons_of_neg refused]
          rfl

/-- The search of a band over a steady driver, as one round the ring of its channels. -/
theorem seekChannel_steady (sound : band.Sound) (within : band.Within start) :
    band.seekChannel start isUp (steady quality) =
      ((upTo (band.accepts start isUp quality)
            (around band.channels (band.channelAt start) isUp) ++
          band.lookAhead isUp ((around band.channels (band.channelAt start) isUp).find?
            (band.accepts start isUp quality))).map band.grid,
        some (((search band.channels (band.channelAt start) isUp
          (band.accepts start isUp quality) (band.valid quality) (band.strength quality)).map
            fun (found : Nat) => (band.grid found : Int)).getD start)) := by
  have inside := channelAt_lt sound within
  rw [seekChannel, order_eq sound within, seekAmong_steady sound, search, Option.map_map]
  · rfl
  · intro cell member
    exact ((mem_around inside).mp member).1

end SeekBand

end Connectivity.Fm

/- A search of the FM service that may be stopped: it ends as it does when nothing stops it, or it
stores nothing. -/
namespace Connectivity.Fm

open Tuner (Answer Probe)

/-- A driver that finds at a frequency what `quality` says, and may be stopped at each check. -/
def stoppable (quality : Nat → Probe) (stopped : Nat → Bool) : SeekDriver :=
  fun turn freq => ⟨stopped turn, 0, quality freq⟩

/-- None of so many checks is stopped, from a turn on. -/
def Unstopped (stopped : Nat → Bool) (turn count : Nat) : Prop :=
  ∀ k, k < count → stopped (turn + k) = false

instance (stopped : Nat → Bool) (turn count : Nat) : Decidable (Unstopped stopped turn count) :=
  inferInstanceAs (Decidable (∀ k, k < count → _))

theorem unstopped_zero {stopped : Nat → Bool} {turn : Nat} : Unstopped stopped turn 0 :=
  fun k inside => absurd inside (Nat.not_lt_zero k)

theorem unstopped_succ {stopped : Nat → Bool} {turn count : Nat} :
    Unstopped stopped turn (count + 1) ↔
      stopped turn = false ∧ Unstopped stopped (turn + 1) count := by
  constructor
  · intro all
    refine ⟨all 0 (Nat.succ_pos _), ?_⟩
    intro k inside
    have later := all (k + 1) (Nat.succ_lt_succ inside)
    rw [Nat.add_assoc, Nat.add_comm 1 k]
    exact later
  · rintro ⟨first, later⟩ k inside
    cases k with
    | zero => exact first
    | succ k =>
        have rest := later k (Nat.lt_of_succ_lt_succ inside)
        rw [Nat.add_assoc, Nat.add_comm 1 k] at rest
        exact rest

theorem tuneCheck_stoppable {quality : Nat → Probe} {stopped : Nat → Bool} {turn freq : Nat} :
    tuneCheck (stoppable quality stopped turn freq) =
      if stopped turn then none else some (quality freq) := rfl

/-- A search that makes so many checks stores what it would, or nothing when it is stopped. -/
def StopsOr {Stored : Type} (stopped : Nat → Bool) (turn count : Nat)
    (stored steady : Option Stored) : Prop :=
  (Unstopped stopped turn count ∧ stored = steady) ∨
    (¬ Unstopped stopped turn count ∧ stored = none)

section StopsOr

variable {Stored : Type} {stopped : Nat → Bool} {turn count : Nat} {stored same : Option Stored}

theorem stopsOr_first (isStopped : stopped turn = true) :
    StopsOr stopped turn (count + 1) none same := by
  refine .inr ⟨?_, rfl⟩
  intro all
  rw [(unstopped_succ.mp all).1] at isStopped
  cases isStopped

theorem stopsOr_later (going : stopped turn = false)
    (later : StopsOr stopped (turn + 1) count stored same) :
    StopsOr stopped turn (count + 1) stored same := by
  cases later with
  | inl all => exact .inl ⟨unstopped_succ.mpr ⟨going, all.1⟩, all.2⟩
  | inr stop => exact .inr ⟨fun all => stop.1 (unstopped_succ.mp all).2, stop.2⟩

theorem stopsOr_map {Other : Type} (f : Stored → Other)
    (later : StopsOr stopped turn count stored same) :
    StopsOr stopped turn count (stored.map f) (same.map f) := by
  cases later with
  | inl all => exact .inl ⟨all.1, congrArg (Option.map f) all.2⟩
  | inr stop => exact .inr ⟨stop.1, congrArg (Option.map f) stop.2⟩

end StopsOr

namespace SeekBand

variable {band : SeekBand} {quality : Nat → Probe} {stopped : Nat → Bool} {isUp : Bool}
  {start : Int}

theorem seekMore_stops (more turn freq best : Nat) (rssi : Int) :
    StopsOr stopped turn (band.seekMore isUp (steady quality) more turn freq best rssi).1.length
      (band.seekMore isUp (stoppable quality stopped) more turn freq best rssi).2
      (band.seekMore isUp (steady quality) more turn freq best rssi).2 := by
  induction more generalizing turn freq best rssi with
  | zero => exact .inl ⟨unstopped_zero, rfl⟩
  | succ more ih =>
      rw [seekMore, seekMore]
      cases band.nextFreq isUp freq with
      | none => exact .inl ⟨unstopped_zero, rfl⟩
      | some next =>
          dsimp only
          rw [tuneCheck_steady, tuneCheck_stoppable]
          cases stop : stopped turn with
          | true => exact stopsOr_first stop
          | false =>
              rw [if_neg Bool.false_ne_true]
              dsimp only
              split
              · exact stopsOr_later stop (ih (turn + 1) next next (quality next).rssi)
              · exact stopsOr_later stop (ih (turn + 1) next best rssi)

theorem seekAmong_stops (cells : List Int) (turn : Nat) :
    StopsOr stopped turn (band.seekAmong start isUp (steady quality) turn cells).1.length
      (band.seekAmong start isUp (stoppable quality stopped) turn cells).2
      (band.seekAmong start isUp (steady quality) turn cells).2 := by
  induction cells generalizing turn with
  | nil => exact .inl ⟨unstopped_zero, rfl⟩
  | cons i rest ih =>
      rw [seekAmong, seekAmong]
      dsimp only
      rw [tuneCheck_steady, tuneCheck_stoppable]
      cases stop : stopped turn with
      | true =>
          dsimp only
          split
          · exact stopsOr_first stop
          · exact stopsOr_first stop
      | false =>
          rw [if_neg Bool.false_ne_true]
          dsimp only
          split
          · exact stopsOr_later stop (stopsOr_map _ (seekMore_stops 2 (turn + 1) _ _ _))
          · exact stopsOr_later stop (ih (turn + 1))

/-- A search that may be stopped stores what it would otherwise, unless one of its checks is. -/
theorem seekChannel_stops :
    StopsOr stopped 0 (band.seekChannel start isUp (steady quality)).1.length
      (band.seekChannel start isUp (stoppable quality stopped)).2
      (band.seekChannel start isUp (steady quality)).2 :=
  seekAmong_stops _ 0

end SeekBand

end Connectivity.Fm
