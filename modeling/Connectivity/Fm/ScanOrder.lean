import Connectivity.Fm.ScanStations

set_option autoImplicit false

/- The searches of a scan come to the stations of a band in order, from where the scan begins. -/
namespace Connectivity.Fm

open Tuner (Probe)
open Connectivity.Ring

namespace SeekBand

/-- Where a scan begins: at the lower end of the band if its frequency is outside. -/
def scanStart (band : SeekBand) (orig : Int) : Int :=
  if band.Within orig then orig else band.lower

/-- A frequency between two channels that both have a station, with a space of 5. -/
def Straddled (band : SeekBand) (quality : Nat → Probe) (orig : Int) : Prop :=
  band.space = 5 ∧ ¬ band.OnGrid orig ∧
    band.channelAt orig + 1 < band.channels ∧
    band.valid quality (band.channelAt orig) = true ∧
    band.valid quality (band.channelAt orig + 1) = true

/-- A scan upward does not begin with a frequency above the band, where more than one channel is
valid, nor with one between two stations. -/
structure Clear (band : SeekBand) (quality : Nat → Probe) (isUp : Bool) (orig : Int) : Prop where
  notAbove : isUp = true → band.upper < orig → ∀ i j, i < band.channels → j < band.channels →
    band.valid quality i = true → band.valid quality j = true → i = j
  notBetween : isUp = true → band.Within orig → ¬ band.Straddled quality orig

section Order

variable {band : SeekBand} {quality : Nat → Probe} {isUp : Bool} {start home : Int}
  {first : Nat}

/-- The rules of a scan that begins with a channel further on than its home. -/
theorem ahead_of (sound : band.Sound) (inside : first < band.channels)
    (isValid : band.valid quality first = true)
    (beyond : home < heading isUp (band.grid (band.best isUp quality first)))
    (homeward : ∀ i, i < band.channels → band.valid quality i = true →
      heading isUp (band.grid i) < home →
        band.accepts (band.grid i) isUp quality first = true ∧
          position band.channels isUp i < position band.channels isUp first) :
    Ahead (band.StationAt quality isUp) (band.onward quality isUp) home
      (heading isUp (band.grid (band.best isUp quality first))) := by
  obtain ⟨best_in, best_valid, _⟩ := best_spec isUp inside isValid
  refine ⟨beyond, ⟨_, best_in, best_valid, rfl⟩, ?_, ?_⟩
  · rintro place ⟨i, i_in, _, rfl⟩ _
    rcases @onward_cases band quality isUp i first sound i_in inside isValid with on | stays | back
    · exact .inl on
    · exact .inr (.inl stays)
    · obtain ⟨isPlace, most, _⟩ := back
      rcases Int.lt_trichotomy (band.onward quality isUp (heading isUp (band.grid i)))
        (heading isUp (band.grid i)) with less | same | greater
      · exact .inr (.inr ⟨less, isPlace, most⟩)
      · exact .inr (.inl ⟨same, same ▸ most⟩)
      · exact .inl ⟨greater, isPlace⟩
  · rintro place ⟨i, i_in, valid_i, rfl⟩ front
    obtain ⟨accepted, further⟩ := homeward i i_in valid_i front
    obtain ⟨on, isPlace, most⟩ := onward_further sound i_in inside accepted further
    exact ⟨on, isPlace, fun _ => most⟩

/-- The rules of a scan that begins again with the first station of the band, in front of its
home. -/
theorem behind_of (sound : band.Sound) (finds : band.FindsBack quality isUp start first)
    (before : heading isUp (band.grid (band.best isUp quality first)) < home) :
    Behind (band.StationAt quality isUp) (band.onward quality isUp) home
      (heading isUp (band.grid (band.best isUp quality first))) := by
  have isValid := accepts_valid finds.accepted
  obtain ⟨best_in, best_valid, _⟩ := best_spec isUp finds.inside isValid
  refine ⟨before, ⟨_, best_in, best_valid, rfl⟩, ?_⟩
  rintro place ⟨i, i_in, _, rfl⟩ _
  rcases @onward_cases band quality isUp i first sound i_in finds.inside isValid with
    on | stays | back
  · exact .inl on
  · exact .inr (.inl stays)
  · obtain ⟨_, _, found, again, next⟩ := back
    have later := finds.least found again.inside (accepts_valid again.accepted)
    have sooner := again.least first finds.inside isValid
    have same : found = first := position_inj isUp again.inside finds.inside (by omega)
    rw [same] at next
    exact .inr (.inr next)

/-- A scan that begins again with a station further on than its start stays there: none but that is
accepted from it. -/
theorem back_stays (sound : band.Sound) (within : band.Within start)
    (finds : band.FindsBack quality isUp start first)
    (beyond : heading isUp start <
      heading isUp (band.grid (band.best isUp quality first))) :
    band.onward quality isUp (heading isUp (band.grid (band.best isUp quality first))) =
      heading isUp (band.grid (band.best isUp quality first)) := by
  have isValid := accepts_valid finds.accepted
  obtain ⟨best_in, best_valid, _⟩ := best_spec isUp finds.inside isValid
  generalize reached : band.best isUp quality first = best at *
  have inBand := grid_within sound best_in
  rw [onward_heading]
  rcases @station_cases band quality isUp (band.grid best) sound inBand with none | found
  · rw [none.1]
  · obtain ⟨found, station, on | back⟩ := found
    · -- A channel further on would have been accepted from the start as well.
      have further := on.further
      rw [channelAt_grid sound best_in] at further
      have notFront : ¬ position band.channels isUp best <
          position band.channels isUp (band.channelAt start) := by
        intro front
        have behind := (heading_apart sound isUp within best_in).2 front
        omega
      have refused : ¬ band.accepts start isUp quality found = true := by
        intro accepted
        exact finds.last found on.inside accepted (by omega)
      refine absurd (accepts_apart sound within (accepts_valid on.accepted) ?_) refused
      rintro ⟨_, onGrid, next⟩
      have here : best = band.channelAt start :=
        position_inj isUp best_in (channelAt_lt sound within) (by omega)
      rw [here, ← onGrid] at beyond
      exact absurd beyond (Int.lt_irrefl _)
    · have later := finds.least found back.inside (accepts_valid back.accepted)
      have sooner := back.least first finds.inside isValid
      have same : found = first := position_inj isUp back.inside finds.inside (by omega)
      rw [station, same, reached]

/-- A station stays the only one when no other channel is valid. -/
theorem only_stays (sound : band.Sound) (inside : first < band.channels)
    (only : ∀ i, i < band.channels → band.valid quality i = true → i = first) :
    band.onward quality isUp (heading isUp (band.grid first)) =
      heading isUp (band.grid first) := by
  have inBand := grid_within sound inside
  have channel := channelAt_grid sound inside
  rw [onward_heading]
  rcases @station_cases band quality isUp (band.grid first) sound inBand with none | found
  · rw [none.1]
  · obtain ⟨found, _, on | back⟩ := found
    · have further := on.further
      rw [channel, only found on.inside (accepts_valid on.accepted)] at further
      exact absurd further (Nat.lt_irrefl _)
    · have behind := back.back
      rw [channel, only found back.inside (accepts_valid back.accepted)] at behind
      exact absurd behind (Nat.lt_irrefl _)

/-- A scan from a frequency in the band. -/
theorem orderly_within (sound : band.Sound) (within : band.Within start)
    (notBetween : isUp = true → ¬ band.Straddled quality start) :
    Orderly (band.StationAt quality isUp) (band.onward quality isUp) (heading isUp start)
      (heading isUp start) := by
  have next := @onward_heading band quality isUp start
  have here := channelAt_lt sound within
  rcases @station_cases band quality isUp start sound within with none | found
  · exact .stays (by rw [next, none.1])
  · obtain ⟨first, station, on | back⟩ := found
    · rw [station] at next
      obtain ⟨forward, _⟩ := findsOn_place sound within on
      have firstValid := accepts_valid on.accepted
      refine .ahead (by rw [next]; exact forward) ?_
      rw [next]
      refine ahead_of sound on.inside firstValid forward ?_
      intro i inside isValid front
      have notFurther : ¬ position band.channels isUp (band.channelAt start) <
          position band.channels isUp i := by
        intro further
        have beyond := (heading_apart sound isUp within inside).1 further
        omega
      have further := on.further
      refine ⟨accepts_apart sound (grid_within sound inside) firstValid ?_, by omega⟩
      rintro ⟨space, _, beside⟩
      rw [channelAt_grid sound inside] at beside
      have same : i = band.channelAt start := position_inj isUp inside here (by omega)
      rw [same] at front isValid beside
      have low := (grid_channelAt sound within).1
      cases isUp with
      | false =>
          have above : -(band.grid (band.channelAt start) : Int) < -start := front
          omega
      | true =>
          have below : (band.grid (band.channelAt start) : Int) < start := front
          have above : first = band.channelAt start + 1 := beside
          refine notBetween rfl ⟨space, ?_, above ▸ on.inside, isValid, above ▸ firstValid⟩
          intro onGrid
          rw [OnGrid] at onGrid
          omega
    · rw [station] at next
      rcases Int.lt_trichotomy (heading isUp (band.grid (band.best isUp quality first)))
        (heading isUp start) with less | same | greater
      · refine .behind (by rw [next]; exact less) ?_
        rw [next]
        exact behind_of sound back less
      · exact .stays (next.trans same)
      · refine .single ?_
        rw [next]
        exact back_stays sound within back greater

theorem lower_within (sound : band.Sound) : band.Within band.lower ∧
    band.channelAt band.lower = 0 := by
  have zero : (band.grid 0 : Int) = band.lower := by
    rw [grid, Nat.mul_zero, Nat.add_zero]
    rfl
  have inside : 0 < band.channels := Nat.succ_pos _
  rw [← zero]
  exact ⟨grid_within sound inside, channelAt_grid sound inside⟩

theorem lower_le (i : Nat) : band.lower ≤ (band.grid i : Int) := by
  rw [lower, grid]
  omega

/-- A scan upward that begins with the lower end of the band. -/
theorem orderly_lower_up (sound : band.Sound) {orig : Int} (outside : ¬ band.Within orig)
    (only : band.upper < orig → ∀ i j, i < band.channels → j < band.channels →
      band.valid quality i = true → band.valid quality j = true → i = j) :
    Orderly (band.StationAt quality true) (band.onward quality true) (heading true orig)
      (heading true band.lower) := by
  obtain ⟨within, zero⟩ := lower_within sound
  have next := @onward_heading band quality true band.lower
  rcases @station_cases band quality true band.lower sound within with none | found
  · exact .stays (by rw [next, none.1])
  · obtain ⟨first, station, on | back⟩ := found
    · rw [station] at next
      obtain ⟨forward, _⟩ := findsOn_place sound within on
      have firstValid := accepts_valid on.accepted
      obtain ⟨best_in, best_valid, _⟩ := best_spec true on.inside firstValid
      by_cases above : band.upper < orig
      · refine .single ?_
        rw [next]
        exact only_stays sound best_in fun i inside isValid =>
          only above i _ inside best_in isValid best_valid
      · have below : orig < band.lower := by
          rw [Within] at outside
          omega
        refine .ahead (by rw [next]; exact forward) ?_
        rw [next]
        refine ahead_of sound on.inside firstValid (Int.lt_trans below forward) ?_
        intro i _ _ front
        have least := @lower_le band i
        have less : (band.grid i : Int) < orig := front
        omega
    · have behind : first < band.channelAt band.lower := back.back
      rw [zero] at behind
      exact absurd behind (Nat.not_lt_zero _)

/-- One downward, which begins again with the upper end. -/
theorem orderly_lower_down (sound : band.Sound) {orig : Int} (outside : ¬ band.Within orig) :
    Orderly (band.StationAt quality false) (band.onward quality false) (heading false orig)
      (heading false band.lower) := by
  obtain ⟨within, zero⟩ := lower_within sound
  have next := @onward_heading band quality false band.lower
  rcases @station_cases band quality false band.lower sound within with none | found
  · exact .stays (by rw [next, none.1])
  · obtain ⟨first, station, on | back⟩ := found
    · have further : band.channels - 1 - band.channelAt band.lower < band.channels - 1 - first :=
        on.further
      rw [zero] at further
      omega
    · rw [station] at next
      have isValid := accepts_valid back.accepted
      have most := (grid_within sound (best_spec false back.inside isValid).1).2
      have least := @lower_le band (band.best false quality first)
      have value : heading false (band.grid (band.best false quality first)) =
          -(band.grid (band.best false quality first) : Int) := rfl
      have lower : heading false band.lower = -band.lower := rfl
      have home : heading false orig = -orig := rfl
      by_cases same : (band.grid (band.best false quality first) : Int) = band.lower
      · exact .stays (by rw [next, same])
      · have less : band.onward quality false (heading false band.lower) <
            heading false band.lower := by
          rw [next]
          omega
        rw [Within] at outside
        by_cases above : band.upper < orig
        · refine .passes less ?_
          rw [next]
          omega
        · refine .behind less ?_
          rw [next]
          exact behind_of sound back (by omega)

/-- A scan comes to the stations in order, unless it is not clear where it begins. -/
theorem scan_orderly (sound : band.Sound) {orig : Int} (clear : band.Clear quality isUp orig) :
    Orderly (band.StationAt quality isUp) (band.onward quality isUp) (heading isUp orig)
      (heading isUp (band.scanStart orig)) := by
  rw [scanStart]
  by_cases within : band.Within orig
  · rw [if_pos within]
    exact orderly_within sound within fun up => clear.notBetween up within
  · rw [if_neg within]
    cases isUp with
    | true => exact orderly_lower_up sound within (clear.notAbove rfl)
    | false => exact orderly_lower_down sound within

end Order

end SeekBand

end Connectivity.Fm
