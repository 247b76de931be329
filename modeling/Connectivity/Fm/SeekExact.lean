import Connectivity.Fm.SeekGrid

set_option autoImplicit false

/- Which station a search of the FM service ends with. -/
namespace Connectivity.Fm

open Tuner (Probe)
open Connectivity.Ring

namespace SeekBand

variable (band : SeekBand) (start : Int) (isUp : Bool) (quality : Nat → Probe)

/-- A start that is the frequency of a channel. -/
def OnGrid : Prop := start = band.grid (band.channelAt start)

instance : Decidable (band.OnGrid start) := inferInstanceAs (Decidable (_ = _))

/-- The channels other than that of the start, as they come behind it. -/
def others : List Nat := around band.channels (band.channelAt start) isUp

/-- The channels other than the start, as they come behind it: off the grid there is one below it
as well. -/
def behind : List Nat :=
  if band.OnGrid start then band.others start isUp
  else if isUp then band.others start isUp ++ [band.channelAt start]
  else band.channelAt start :: band.others start isUp

/-- A search that stops at the first valid channel other than its start, and ends with the
strongest of that and the two ahead of it, or with its start if there is none. -/
structure SeekExact (checked : List Nat) (found : Int) : Prop where
  within : band.Within found
  examines : ∃ more, checked =
    (upTo (band.valid quality) (band.behind start isUp)).map band.grid ++ more
  strongest : ∀ first, (band.behind start isUp).find? (band.valid quality) = some first →
    ∃ best : Nat, found = band.grid best ∧
      Strongest (fun i => band.valid quality i) (band.strength quality)
        (first :: ahead band.channels first isUp 2) best
  onlyStart : found = start → ∀ i ∈ band.behind start isUp, band.valid quality i = false

/-- The same of the channels that a search accepts, where the start may be one of the two ahead. -/
structure SeekAccepted (checked : List Nat) (found : Int) : Prop where
  within : band.Within found
  examines : ((upTo (band.accepts start isUp quality)
    (band.others start isUp)).map band.grid).Sublist checked
  onGrid : band.OnGrid start → checked =
    (upTo (band.accepts start isUp quality) (band.behind start isUp) ++
      band.lookAhead isUp
        ((band.behind start isUp).find? (band.accepts start isUp quality))).map band.grid
  strongest : ∀ first,
    (band.behind start isUp).find? (band.accepts start isUp quality) = some first →
    ∃ best : Nat, found = band.grid best ∧
      Strongest (fun i => band.valid quality i) (band.strength quality)
        (first :: ahead band.channels first isUp 2) best
  missing : (band.behind start isUp).find? (band.accepts start isUp quality) = none →
    found = start
  onlyStart : found = start →
    (∀ i ∈ band.behind start isUp, band.accepts start isUp quality i = false) ∨
    band.OnGrid start ∧ ∃ first,
      (band.behind start isUp).find? (band.accepts start isUp quality) = some first ∧
      band.channelAt start ∈ ahead band.channels first isUp 2

end SeekBand

namespace SeekBand

variable {band : SeekBand} {start : Int} {isUp : Bool} {quality : Nat → Probe} {first : Nat}

theorem best_strongest (accepted : band.accepts start isUp quality first = true) :
    Strongest (fun i => band.valid quality i) (band.strength quality)
      (first :: ahead band.channels first isUp 2) (band.best isUp quality first) := by
  have isValid : band.valid quality first = true := (Bool.and_eq_true_iff.mp accepted).1
  exact strongest_isStrongest isValid

theorem best_lt (inside : first < band.channels)
    (accepted : band.accepts start isUp quality first = true) :
    band.best isUp quality first < band.channels := by
  cases List.mem_cons.mp (best_strongest accepted).mem with
  | inl same =>
      rw [same]
      exact inside
  | inr later => exact ahead_lt inside later

/-- A search for a first channel finds one that is another than the start's, and is accepted. -/
theorem first_spec (sound : band.Sound) (within : band.Within start)
    (found : (band.others start isUp).find? (band.accepts start isUp quality) = some first) :
    first < band.channels ∧ first ≠ band.channelAt start ∧
      band.accepts start isUp quality first = true := by
  have member := (mem_around (channelAt_lt sound within)).mp (List.mem_of_find?_eq_some found)
  exact ⟨member.1, member.2, List.find?_some found⟩

/-- What a search checks and what it ends with, by the first channel that it accepts. -/
theorem seekChannel_found (sound : band.Sound) (within : band.Within start) :
    band.seekChannel start isUp (steady quality) =
      ((upTo (band.accepts start isUp quality) (band.others start isUp) ++
          band.lookAhead isUp
            ((band.others start isUp).find? (band.accepts start isUp quality))).map band.grid,
        some ((((band.others start isUp).find? (band.accepts start isUp quality)).map fun first =>
          (band.grid (band.best isUp quality first) : Int)).getD start)) := by
  rw [seekChannel_steady sound within, search, Option.map_map]
  rfl

/-- A channel below the start that is not valid is not missed. -/
theorem find_behind
    (below : band.OnGrid start ∨ band.valid quality (band.channelAt start) = false) :
    (band.behind start isUp).find? (band.accepts start isUp quality) =
      (band.others start isUp).find? (band.accepts start isUp quality) := by
  by_cases onGrid : band.OnGrid start
  · rw [behind, if_pos onGrid]
  · have invalid := below.resolve_left onGrid
    have refused : band.accepts start isUp quality (band.channelAt start) = false := by
      rw [accepts, invalid, Bool.false_and]
    rw [behind, if_neg onGrid]
    cases isUp with
    | true =>
        rw [if_pos rfl, List.find?_append, List.find?_singleton, refused]
        exact Option.or_none
    | false => rw [if_neg (by decide), List.find?_cons_of_neg (ne_true_of_eq_false refused)]

/-- A search ends with the strongest of the first channel that it accepts and the two ahead. -/
theorem seek_accepted (sound : band.Sound) (within : band.Within start)
    (below : band.OnGrid start ∨ band.valid quality (band.channelAt start) = false) :
    ∃ checked found, band.seekChannel start isUp (steady quality) = (checked, some found) ∧
      band.SeekAccepted start isUp quality checked found := by
  have same := @find_behind band start isUp quality below
  refine ⟨_, _, seekChannel_found sound within, ?_⟩
  have examined : ∀ more, ((upTo (band.accepts start isUp quality)
      (band.others start isUp)).map band.grid).Sublist
        ((upTo (band.accepts start isUp quality) (band.others start isUp) ++ more).map
          band.grid) := by
    intro more
    rw [List.map_append]
    exact List.sublist_append_left _ _
  have onGrid : band.OnGrid start → band.others start isUp = band.behind start isUp :=
    fun onGrid => (if_pos onGrid).symm
  cases sought : (band.others start isUp).find? (band.accepts start isUp quality) with
  | none =>
      rw [sought] at same
      refine ⟨within, examined _, ?_, ?_, fun _ => rfl, ?_⟩
      · intro grid
        rw [← onGrid grid, sought]
      · intro first found
        rw [same] at found
        cases found
      · intro _
        have refused := List.find?_eq_none.mp same
        exact .inl fun i member => eq_false_of_ne_true (refused i member)
  | some first =>
      rw [sought] at same
      obtain ⟨inside, other, accepted⟩ := first_spec sound within sought
      have best := best_strongest accepted
      have inBand := best_lt inside accepted
      refine ⟨grid_within sound inBand, examined _, ?_, ?_, ?_, ?_⟩
      · intro grid
        rw [← onGrid grid, sought]
      · intro other found
        rw [same] at found
        cases found
        exact ⟨_, rfl, best⟩
      · intro none
        rw [same] at none
        cases none
      · intro start_eq
        have channel : band.channelAt start = band.best isUp quality first := by
          rw [← start_eq]
          exact channelAt_grid sound inBand
        refine .inr ⟨?_, first, same, ?_⟩
        · rw [OnGrid, channel]
          exact start_eq.symm
        · rw [channel]
          cases List.mem_cons.mp best.mem with
          | inl first_best => exact absurd (first_best.symm.trans channel.symm) other
          | inr later => exact later

/-- A band of 87.5 to 87.7 MHz in steps of 100 kHz, and one of 87.5 to 87.6 MHz in steps of 50. -/
def fewChannels : SeekBand := ⟨8750, 8770, 10⟩

def closeChannels : SeekBand := ⟨8750, 8760, 5⟩

/-- One station, and one that is stronger at the start of a search. -/
def oneStation (freq : Nat) : Nat → Probe := fun at_ => ⟨decide (at_ = freq), -60⟩

def twoStations (freq strong : Nat) : Nat → Probe :=
  fun at_ => ⟨decide (at_ = freq ∨ at_ = strong), if at_ = strong then -50 else -80⟩

theorem seek_accepted_few :
    ∃ checked found,
      fewChannels.seekChannel 8760 true (steady (oneStation 8750)) = (checked, some found) ∧
        fewChannels.SeekAccepted 8760 true (oneStation 8750) checked found :=
  seek_accepted (by decide) (by decide) (.inl (by decide))

/-- A search that stays at its start is not exact when another channel is valid. -/
theorem not_exact_of_stays {checked : List Nat} {i : Nat}
    (stays : band.seekChannel start isUp (steady quality) = (checked, some start))
    (member : i ∈ band.behind start isUp) (isValid : band.valid quality i = true) :
    ¬ ∃ checked found, band.seekChannel start isUp (steady quality) = (checked, some found) ∧
      band.SeekExact start isUp quality checked found := by
  rintro ⟨others, found, run, sought⟩
  rw [stays] at run
  cases run
  rw [sought.onlyStart rfl i member] at isValid
  cases isValid

/-- The channel next to the start is passed over when the space is 5, the channel below a start off
the grid is never checked, and the start may be the stronger one of the two ahead. -/
theorem not_seek_exact :
    (¬ ∃ checked found,
      closeChannels.seekChannel 8750 true (steady (oneStation 8755)) = (checked, some found) ∧
        closeChannels.SeekExact 8750 true (oneStation 8755) checked found) ∧
    (¬ ∃ checked found,
      fewChannels.seekChannel 8755 true (steady (oneStation 8750)) = (checked, some found) ∧
        fewChannels.SeekExact 8755 true (oneStation 8750) checked found) ∧
    ¬ ∃ checked found,
      fewChannels.seekChannel 8770 true (steady (twoStations 8760 8770)) = (checked, some found) ∧
        fewChannels.SeekExact 8770 true (twoStations 8760 8770) checked found :=
  ⟨@not_exact_of_stays closeChannels 8750 true _ _ 1 rfl (by decide) rfl,
    @not_exact_of_stays fewChannels 8755 true _ _ 0 rfl (by decide) rfl,
    @not_exact_of_stays fewChannels 8770 true _ _ 1 rfl (by decide) rfl⟩

end SeekBand

end Connectivity.Fm
