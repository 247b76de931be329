import Connectivity.Fm.SeekExact
import Connectivity.Ring.Laps
import Connectivity.Ring.Position

set_option autoImplicit false

/- The stations that the searches of a scan end with, by the positions of their channels in the
direction of the scan. -/
namespace Connectivity.Fm

open Tuner (Probe)
open Connectivity.Ring

/-- A frequency by how far it lies in the direction of a scan. -/
def heading (isUp : Bool) (freq : Int) : Int := if isUp then freq else -freq

@[simp] theorem heading_heading (isUp : Bool) (freq : Int) :
    heading isUp (heading isUp freq) = freq := by
  cases isUp with
  | true => rfl
  | false => exact Int.neg_neg freq

theorem heading_inj {isUp : Bool} {first second : Int} :
    heading isUp first = heading isUp second ↔ first = second := by
  cases isUp with
  | true => exact Iff.rfl
  | false => exact Int.neg_inj

namespace SeekBand

/-- The station that a search ends with when nothing disturbs it. -/
def station (band : SeekBand) (quality : Nat → Probe) (isUp : Bool) (start : Int) : Int :=
  ((band.seekChannel start isUp (steady quality)).2).getD start

/-- The same in the direction of the scan. -/
def onward (band : SeekBand) (quality : Nat → Probe) (isUp : Bool) (place : Int) : Int :=
  heading isUp (band.station quality isUp (heading isUp place))

/-- A place of a valid channel. -/
def StationAt (band : SeekBand) (quality : Nat → Probe) (isUp : Bool) (place : Int) : Prop :=
  ∃ i, i < band.channels ∧ band.valid quality i = true ∧ place = heading isUp (band.grid i)

/-- The first channel that a search accepts lies further on than its start. -/
structure FindsOn (band : SeekBand) (quality : Nat → Probe) (isUp : Bool) (start : Int)
    (found : Nat) : Prop where
  inside : found < band.channels
  accepted : band.accepts start isUp quality found = true
  further : position band.channels isUp (band.channelAt start) <
    position band.channels isUp found
  least : ∀ i, i < band.channels → band.accepts start isUp quality i = true →
    position band.channels isUp (band.channelAt start) < position band.channels isUp i →
    position band.channels isUp found ≤ position band.channels isUp i

/-- It lies further back; then it is the first of all valid channels. -/
structure FindsBack (band : SeekBand) (quality : Nat → Probe) (isUp : Bool) (start : Int)
    (found : Nat) : Prop where
  inside : found < band.channels
  accepted : band.accepts start isUp quality found = true
  back : position band.channels isUp found <
    position band.channels isUp (band.channelAt start)
  last : ∀ i, i < band.channels → band.accepts start isUp quality i = true →
    ¬ position band.channels isUp (band.channelAt start) < position band.channels isUp i
  least : ∀ i, i < band.channels → band.valid quality i = true →
    position band.channels isUp found ≤ position band.channels isUp i

section Stations

variable {band : SeekBand} {quality : Nat → Probe} {isUp : Bool} {start : Int}

theorem seekChannel_station (sound : band.Sound) (within : band.Within start) :
    (band.seekChannel start isUp (steady quality)).2 =
      some (band.station quality isUp start) := by
  rw [station, seekChannel_found sound within]
  rfl

theorem station_within (sound : band.Sound) (within : band.Within start) :
    band.Within (band.station quality isUp start) := by
  rw [station, seekChannel_found sound within]
  cases sought : (band.others start isUp).find? (band.accepts start isUp quality) with
  | none => exact within
  | some first =>
      obtain ⟨inside, _, accepted⟩ := first_spec sound within sought
      exact grid_within sound (best_lt inside accepted)

theorem heading_lt (sound : band.Sound) (isUp : Bool) {i j : Nat} (inside : i < band.channels)
    (within : j < band.channels) :
    heading isUp (band.grid i) < heading isUp (band.grid j) ↔
      position band.channels isUp i < position band.channels isUp j := by
  have forward := @grid_lt_iff band sound i j
  have backward := @grid_lt_iff band sound j i
  cases isUp with
  | true =>
      show (band.grid i : Int) < band.grid j ↔ i < j
      omega
  | false =>
      show -(band.grid i : Int) < -(band.grid j : Int) ↔
        band.channels - 1 - i < band.channels - 1 - j
      omega

theorem heading_le (sound : band.Sound) (isUp : Bool) {i j : Nat} (inside : i < band.channels)
    (within : j < band.channels)
    (before : position band.channels isUp i ≤ position band.channels isUp j) :
    heading isUp (band.grid i) ≤ heading isUp (band.grid j) := by
  have less := heading_lt sound isUp within inside
  omega

/-- A channel further on than that of a frequency is further on than the frequency, and one further
back is further back. -/
theorem heading_apart (sound : band.Sound) (isUp : Bool) (within : band.Within start) {i : Nat}
    (inside : i < band.channels) :
    (position band.channels isUp (band.channelAt start) < position band.channels isUp i →
      heading isUp start < heading isUp (band.grid i)) ∧
    (position band.channels isUp i < position band.channels isUp (band.channelAt start) →
      heading isUp (band.grid i) < heading isUp start) := by
  obtain ⟨low, high⟩ := grid_channelAt sound within
  have here := channelAt_lt sound within
  have least := @grid_lt_iff band sound i (band.channelAt start + 1)
  have less := @grid_lt_iff band sound i (band.channelAt start)
  cases isUp with
  | true =>
      show (band.channelAt start < i → start < (band.grid i : Int)) ∧
        (i < band.channelAt start → (band.grid i : Int) < start)
      omega
  | false =>
      show (band.channels - 1 - band.channelAt start < band.channels - 1 - i →
          -start < -(band.grid i : Int)) ∧
        (band.channels - 1 - i < band.channels - 1 - band.channelAt start →
          -(band.grid i : Int) < -start)
      omega

/-- A search passes a valid channel over only next to its start on the grid. -/
theorem same_next (sound : band.Sound) (within : band.Within start) {i : Nat}
    (same : band.same start isUp (band.grid i) = true) :
    band.space = 5 ∧ band.OnGrid start ∧
      position band.channels isUp i =
        position band.channels isUp (band.channelAt start) + 1 := by
  obtain ⟨space, equal⟩ := of_decide_eq_true same
  obtain ⟨low, high⟩ := grid_channelAt sound within
  have width : band.seekSpace.toNat = 5 := Int.ofNat_inj.mp space
  rw [space] at equal
  have step : ∀ i, band.grid (i + 1) = band.grid i + 5 := by
    intro i
    rw [grid_succ, width]
  have next := step (band.channelAt start)
  cases isUp with
  | true =>
      have start_eq : start = (band.grid i : Int) - 5 := equal
      have after := step (band.channelAt start + 1)
      have above := @grid_lt_iff band sound (band.channelAt start) i
      have below := @grid_lt_iff band sound i (band.channelAt start + 1 + 1)
      have channel : i = band.channelAt start + 1 := by omega
      rw [channel] at start_eq
      refine ⟨space, ?_, channel⟩
      rw [OnGrid]
      omega
  | false =>
      have start_eq : start = (band.grid i : Int) + 5 := equal
      have behind := step i
      have above := @grid_lt_iff band sound i (band.channelAt start)
      have below := @grid_lt_iff band sound (i + 1) (band.channelAt start + 1)
      have further := @grid_lt_iff band sound (i + 1) (band.channelAt start)
      have lt := channelAt_lt sound within
      have channel : band.channelAt start = i + 1 := by omega
      refine ⟨space, ?_, ?_⟩
      · rw [OnGrid, channel]
        omega
      · show band.channels - 1 - i = band.channels - 1 - band.channelAt start + 1
        omega

theorem accepts_valid {i : Nat} (accepted : band.accepts start isUp quality i = true) :
    band.valid quality i = true :=
  (Bool.and_eq_true_iff.mp accepted).1

/-- Any other valid channel is accepted. -/
theorem accepts_apart (sound : band.Sound) (within : band.Within start) {i : Nat}
    (isValid : band.valid quality i = true)
    (apart : ¬ (band.space = 5 ∧ band.OnGrid start ∧ position band.channels isUp i =
      position band.channels isUp (band.channelAt start) + 1)) :
    band.accepts start isUp quality i = true := by
  rw [accepts, isValid, Bool.true_and, Bool.not_eq_true']
  exact eq_false_of_ne_true fun same => apart (same_next sound within same)

theorem best_spec {first : Nat} (isUp : Bool) (inside : first < band.channels)
    (isValid : band.valid quality first = true) :
    band.best isUp quality first < band.channels ∧
      band.valid quality (band.best isUp quality first) = true ∧
      position band.channels isUp first ≤
        position band.channels isUp (band.best isUp quality first) := by
  have most := @strongest_isStrongest Nat Int _ (band.valid quality) (band.strength quality)
    (ahead band.channels first isUp 2) first isValid
  refine ⟨?_, most.isValid, (strongest_position inside).1⟩
  cases List.mem_cons.mp most.mem with
  | inl same =>
      rw [best, same]
      exact inside
  | inr later => exact ahead_lt inside later

/-- What a search finds: nothing, a channel further on, or one further back. -/
theorem station_cases (sound : band.Sound) (within : band.Within start) :
    (band.station quality isUp start = start ∧
      ∀ i, i < band.channels → i ≠ band.channelAt start →
        band.accepts start isUp quality i = false) ∨
    ∃ found, band.station quality isUp start = band.grid (band.best isUp quality found) ∧
      (band.FindsOn quality isUp start found ∨ band.FindsBack quality isUp start found) := by
  have here := channelAt_lt sound within
  have member : ∀ i, i ∈ band.others start isUp ↔ i < band.channels ∧ i ≠ band.channelAt start :=
    fun i => mem_around here
  rw [station, seekChannel_found sound within]
  cases sought : (band.others start isUp).find? (band.accepts start isUp quality) with
  | none =>
      refine .inl ⟨rfl, ?_⟩
      intro i inside other
      exact eq_false_of_ne_true (List.find?_eq_none.mp sought i ((member i).mpr ⟨inside, other⟩))
  | some found =>
      obtain ⟨inside, other, accepted⟩ := first_spec sound within sought
      have least : ∀ i, i < band.channels → band.accepts start isUp quality i = true →
          position band.channels isUp i ≠
            position band.channels isUp (band.channelAt start) →
          turn band.channels (band.channelAt start) isUp found ≤
            turn band.channels (band.channelAt start) isUp i := by
        intro i within_i accepted_i apart
        refine find_least (around_turn here) sought ((member i).mpr ⟨within_i, ?_⟩) accepted_i
        intro same
        rw [same] at apart
        exact apart rfl
      have bound : ∀ i, i < band.channels → position band.channels isUp i < band.channels := by
        intro i within_i
        rw [position]
        split <;> omega
      have apart : position band.channels isUp found ≠
          position band.channels isUp (band.channelAt start) :=
        fun same => other (position_inj isUp inside here same)
      refine .inr ⟨found, rfl, ?_⟩
      by_cases further : position band.channels isUp (band.channelAt start) <
          position band.channels isUp found
      · refine .inl ⟨inside, accepted, further, ?_⟩
        intro i within_i accepted_i beyond
        have before := least i within_i accepted_i (by omega)
        rw [turn, turn, if_pos further, if_pos beyond] at before
        exact before
      · have last : ∀ i, i < band.channels → band.accepts start isUp quality i = true →
            ¬ position band.channels isUp (band.channelAt start) <
              position band.channels isUp i := by
          intro i within_i accepted_i beyond
          have before := least i within_i accepted_i (by omega)
          rw [turn, turn, if_neg further, if_pos beyond] at before
          have small := bound i within_i
          omega
        refine .inr ⟨inside, accepted, by omega, last, ?_⟩
        intro i within_i valid_i
        by_cases front : position band.channels isUp i <
            position band.channels isUp (band.channelAt start)
        · have accepted_i : band.accepts start isUp quality i = true :=
            accepts_apart sound within valid_i (fun next => by omega)
          have before := least i within_i accepted_i (by omega)
          rw [turn, turn, if_neg further, if_neg (by omega)] at before
          omega
        · omega

end Stations

section Rules

variable {band : SeekBand} {quality : Nat → Probe} {isUp : Bool} {start : Int} {i first : Nat}

theorem onward_heading (start : Int) : band.onward quality isUp (heading isUp start) =
    heading isUp (band.station quality isUp start) := by
  rw [onward, heading_heading]

/-- What a search finds further on is a station there. -/
theorem findsOn_place (sound : band.Sound) (within : band.Within start)
    (finds : band.FindsOn quality isUp start first) :
    heading isUp start < heading isUp (band.grid (band.best isUp quality first)) ∧
      band.StationAt quality isUp (heading isUp (band.grid (band.best isUp quality first))) := by
  obtain ⟨inside, isValid, beyond⟩ := best_spec isUp finds.inside (accepts_valid finds.accepted)
  have further := finds.further
  exact ⟨(heading_apart sound isUp within inside).1 (by omega), _, inside, isValid, rfl⟩

/-- The strongest behind one channel is not further on than that behind a later one. -/
theorem best_le (sound : band.Sound) (isUp : Bool) {j : Nat} (inside : i < band.channels)
    (within : j < band.channels) (isValid : band.valid quality i = true)
    (alsoValid : band.valid quality j = true)
    (before : position band.channels isUp i ≤ position band.channels isUp j) :
    heading isUp (band.grid (band.best isUp quality i)) ≤
      heading isUp (band.grid (band.best isUp quality j)) :=
  heading_le sound isUp (best_spec isUp inside isValid).1 (best_spec isUp within alsoValid).1
    (strongest_mono inside within isValid alsoValid before)

/-- From a station the next one lies further on, or is the same, or lies no further on than the
strongest behind any valid channel. -/
theorem onward_cases (sound : band.Sound) (inside : i < band.channels)
    (within : first < band.channels)
    (firstValid : band.valid quality first = true) :
    (heading isUp (band.grid i) < band.onward quality isUp (heading isUp (band.grid i)) ∧
      band.StationAt quality isUp (band.onward quality isUp (heading isUp (band.grid i)))) ∨
    (band.onward quality isUp (heading isUp (band.grid i)) = heading isUp (band.grid i) ∧
      heading isUp (band.grid i) ≤
        heading isUp (band.grid (band.best isUp quality first))) ∨
    (band.StationAt quality isUp (band.onward quality isUp (heading isUp (band.grid i))) ∧
      band.onward quality isUp (heading isUp (band.grid i)) ≤
        heading isUp (band.grid (band.best isUp quality first)) ∧
      ∃ found, band.FindsBack quality isUp (band.grid i) found ∧
        band.onward quality isUp (heading isUp (band.grid i)) =
          heading isUp (band.grid (band.best isUp quality found))) := by
  have inBand := grid_within sound inside
  have channel := channelAt_grid sound inside
  rw [onward_heading]
  rcases @station_cases band quality isUp (band.grid i) sound inBand with none | found
  · obtain ⟨stays, refused⟩ := none
    rw [channel] at refused
    rw [stays]
    refine .inr (.inl ⟨rfl, ?_⟩)
    obtain ⟨best_in, _, beyond⟩ := best_spec isUp within firstValid
    refine heading_le sound isUp inside best_in ?_
    by_cases front : position band.channels isUp first < position band.channels isUp i
    · have accepted : band.accepts (band.grid i) isUp quality first = true := by
        refine accepts_apart sound inBand firstValid ?_
        rw [channel]
        exact fun next => by omega
      have other : first ≠ i := by
        intro same
        rw [same] at front
        omega
      rw [refused first within other] at accepted
      cases accepted
    · omega
  · obtain ⟨found, station, on | back⟩ := found
    · rw [station]
      exact .inl (findsOn_place sound inBand on)
    · rw [station]
      have backValid := accepts_valid back.accepted
      obtain ⟨best_in, best_valid, _⟩ := best_spec isUp back.inside backValid
      refine .inr (.inr ⟨⟨_, best_in, best_valid, rfl⟩, ?_, found, back, rfl⟩)
      exact best_le sound isUp back.inside within backValid firstValid
        (back.least first within firstValid)

/-- From a station the next one is further on, and no further than the strongest behind an accepted
channel that is further on. -/
theorem onward_further (sound : band.Sound) (inside : i < band.channels)
    (within : first < band.channels)
    (accepted : band.accepts (band.grid i) isUp quality first = true)
    (further : position band.channels isUp i < position band.channels isUp first) :
    heading isUp (band.grid i) < band.onward quality isUp (heading isUp (band.grid i)) ∧
      band.StationAt quality isUp (band.onward quality isUp (heading isUp (band.grid i))) ∧
      band.onward quality isUp (heading isUp (band.grid i)) ≤
        heading isUp (band.grid (band.best isUp quality first)) := by
  have inBand := grid_within sound inside
  have channel := channelAt_grid sound inside
  rw [onward_heading]
  rcases @station_cases band quality isUp (band.grid i) sound inBand with none | found
  · obtain ⟨_, refused⟩ := none
    rw [channel] at refused
    have other : first ≠ i := by
      intro same
      rw [same] at further
      omega
    rw [refused first within other] at accepted
    cases accepted
  · obtain ⟨found, station, on | back⟩ := found
    · rw [station]
      obtain ⟨beyond, place⟩ := findsOn_place sound inBand on
      refine ⟨beyond, place, ?_⟩
      refine best_le sound isUp on.inside within (accepts_valid on.accepted)
        (accepts_valid accepted) ?_
      refine on.least first within accepted ?_
      rw [channel]
      exact further
    · have front := back.last first within accepted
      rw [channel] at front
      exact absurd further front

end Rules

end SeekBand

end Connectivity.Fm
