import Connectivity.Fm.ScanOnce

set_option autoImplicit false

/- A whole scan of the FM service: that it ends, which stations it tunes, and where its frequencies
come from. -/
namespace Connectivity.Fm

open Tuner (Probe)
open Connectivity.Ring
open SeekBand (fewChannels twoStations)

namespace Service

variable (s : Service) (band : SeekBand) (quality : Nat → Probe) (isUp : Bool) (stack : Int)
  (meets : Nat → RoundMeets)

/-- The scan command from its beginning. -/
def scan (fuel : Nat) : List Visit × Service :=
  (s.beginSearch true isUp stack).scanRounds band quality meets fuel 0

/-- A scan that is not cancelled, and of which no search is stopped. -/
def Undisturbed : Prop := s.mSearchCancelled = false ∧ ∀ k, (meets k).Undisturbed

/-- A scan that ends if nothing disturbs it, that comes then to no station twice but to the first
one perhaps, and that compares and tunes what its searches have found. -/
structure ScanRun : Prop where
  produced : ∀ fuel, Produced [] (s.scan band quality isUp stack meets fuel).1
  ends : s.Undisturbed meets →
    ∃ fuel, (s.scan band quality isUp stack meets fuel).2.thread = .completed
  once : s.Undisturbed meets →
    ∀ fuel, OnceRound (stations (s.scan band quality isUp stack meets fuel).1)

/-- A first search in a band that is not empty, of which no check is stopped, and whose station can
be tuned or is the frequency from before. -/
structure FirstFound (meets : RoundMeets) : Prop where
  ordered : band.minFreq.toNat ≤ band.maxFreq.toNat
  unstopped : Unstopped meets.stopped 0
    (band.seekChannel (band.scanStart s.mTuneFreq) isUp (steady quality)).1.length
  tuned : meets.driver = 0 ∨
    band.station quality isUp (band.scanStart s.mTuneFreq) = s.mTuneFreq

end Service

section Begin

variable {s : Service} {band : SeekBand} {quality : Nat → Probe} {isUp : Bool} {stack : Int}

/-- The locals of a scan as it begins. -/
def scanSearch (band : SeekBand) (isUp : Bool) (orig stack : Int) : Search :=
  { isScan := true
    scanDone := false
    isUp := isUp
    round := 0
    startFreq := band.scanStart orig
    origFreq := orig
    scanFreq := stack }

theorem begin_thread (bounded : s.Bounded band) :
    (s.beginSearch true isUp stack).thread =
      .searching (scanSearch band isUp s.mTuneFreq stack) := by
  rw [Service.beginSearch, scanSearch, SeekBand.scanStart]
  dsimp only
  rw [outside_within bounded, bounded]
  by_cases within : band.Within s.mTuneFreq
  · rw [if_pos within, decide_eq_true within]
    rfl
  · rw [if_neg within, decide_eq_false within]
    rfl

theorem begin_bounded (bounded : s.Bounded band) :
    (s.beginSearch true isUp stack).Bounded band := bounded

theorem start_within (sound : band.Sound) (orig : Int) : band.Within (band.scanStart orig) := by
  rw [SeekBand.scanStart]
  split
  · assumption
  · exact (SeekBand.lower_within sound).1

end Begin

section Empty

variable {s : Service} {band : SeekBand} {quality : Nat → Probe} {search : Search}
  {meets : RoundMeets}

/-- Nothing is found in a band without channels. -/
theorem soughtBy_empty (bounded : s.Bounded band)
    (empty : ¬ band.minFreq.toNat ≤ band.maxFreq.toNat) :
    s.soughtBy band quality meets search = none := by
  have outside : ¬ band.Within search.startFreq := by
    rw [SeekBand.Within, SeekBand.lower, SeekBand.upper]
    omega
  rw [Service.soughtBy, CustCfg.seek, outside_within bounded, decide_eq_false outside]
  rfl

theorem stations_empty {meets : Nat → RoundMeets} {fuel k : Nat} (bounded : s.Bounded band)
    (empty : ¬ band.minFreq.toNat ≤ band.maxFreq.toNat)
    (thread : s.thread = .completed ∨ ∃ search, s.thread = .searching search) :
    stations (s.scanRounds band quality meets fuel k).1 = [] := by
  induction fuel generalizing s k with
  | zero => rfl
  | succ fuel ih =>
      rcases thread with ended | searching
      · rw [scanRounds_ended ended]
        rfl
      · obtain ⟨search, thread⟩ := searching
        obtain ⟨after, round, cfg, _, next⟩ := @scanRound_cases band quality s search (meets k)
        have rest : stations (after.scanRounds band quality meets fuel (k + 1)).1 = [] := by
          refine ih (bounded_of_cfg bounded cfg) ?_
          rcases next with ended | going
          · exact .inl ended
          · obtain ⟨search, thread, _⟩ := going
            exact .inr ⟨search, thread⟩
        rw [scanRounds_succ thread round, stations, List.flatMap_cons, stations_roundBy,
          soughtBy_empty bounded empty]
        exact rest

/-- A scan is done when a round has compared where it began. -/
theorem dwell_done (isScan : search.isScan = true) (quiet : s.mSearchCancelled = false)
    (same : search.scanFreq = search.startFreq) : (s.dwell search).scanDone = true := by
  rw [Service.dwell]
  dsimp only
  rw [isScan, if_pos rfl, quiet, if_neg Bool.false_ne_true, nextRound_done]
  dsimp only
  rw [decide_eq_true (Or.inr same), Bool.or_true]
  exact .inl rfl

/-- There a scan ends with its second round: it compares the same again. -/
theorem empty_ends {meets : Nat → RoundMeets} (bounded : s.Bounded band)
    (empty : ¬ band.minFreq.toNat ≤ band.maxFreq.toNat)
    (undisturbed : ∀ k, (meets k).Undisturbed) (quiet : s.mSearchCancelled = false)
    (thread : s.thread = .searching search) (isScan : search.isScan = true) :
    ∃ fuel, (s.scanRounds band quality meets fuel 0).2.thread = .completed := by
  obtain ⟨first, round, cfg, still, enabled, next⟩ :=
    @scanRound_undisturbed band quality s search (meets 0) (undisturbed 0) isScan quiet
  rw [soughtBy_empty bounded empty, Option.getD_none] at next
  obtain ⟨scan, _, _, start⟩ := @dwell_frame s search isScan quiet
  have scanFreq := @dwell_scanFreq s search
  generalize s.dwell search = dwelt at *
  cases stop : dwelt.scanDone || !s.mEnabled with
  | true =>
      rw [stop, if_pos rfl] at next
      refine ⟨1, ?_⟩
      rw [scanRounds_succ thread round]
      exact next
  | false =>
      rw [stop, if_neg Bool.false_ne_true] at next
      obtain ⟨second, again, _, _, _, last⟩ :=
        @scanRound_undisturbed band quality first dwelt (meets 1) (undisturbed 1) scan still
      rw [soughtBy_empty (bounded_of_cfg bounded cfg) empty, Option.getD_none,
        dwell_done scan still (scanFreq.trans start.symm), Bool.true_or, if_pos rfl] at last
      refine ⟨2, ?_⟩
      rw [scanRounds_succ thread round, scanRounds_succ next again]
      exact last

end Empty

section Run

variable {s : Service} {band : SeekBand} {quality : Nat → Probe} {isUp : Bool} {stack : Int}
  {meets : Nat → RoundMeets}

/-- The frequencies of a scan have been found exactly when its first search finds one. -/
theorem scan_produced (bounded : s.Bounded band) (spaced : 0 < band.seekSpace.toNat) :
    (∀ fuel, Produced [] (s.scan band quality isUp stack meets fuel).1) ↔
      s.FirstFound band quality isUp (meets 0) := by
  have begun := @begin_bounded s band isUp stack bounded
  have known := @produced_iff band quality meets _ _ (@begin_thread s band isUp stack bounded)
  refine known.trans ?_
  by_cases ordered : band.minFreq.toNat ≤ band.maxFreq.toNat
  · have sound : band.Sound := ⟨ordered, spaced⟩
    have within := start_within sound s.mTuneFreq
    have inside := @SeekBand.station_within band quality isUp _ sound within
    have kept : s.cfg.outside (band.scanStart s.mTuneFreq) = false := by
      rw [outside_within bounded, decide_eq_true within]
      rfl
    have tune : s.cfg.tune (band.station quality isUp (band.scanStart s.mTuneFreq))
        (meets 0).driver = (meets 0).driver := by
      rw [CustCfg.tune, outside_within bounded, decide_eq_true inside]
      rfl
    have sought : (s.beginSearch true isUp stack).soughtBy band quality (meets 0)
        (scanSearch band isUp s.mTuneFreq stack) =
          (band.seekChannel (band.scanStart s.mTuneFreq) isUp
            (stoppable quality (meets 0).stopped)).2 := by
      show s.cfg.seek (band.scanStart s.mTuneFreq) _ = _
      rw [CustCfg.seek, kept, if_neg Bool.false_ne_true]
      rfl
    have station := @SeekBand.seekChannel_station band quality isUp _ sound within
    rw [sought]
    rcases @SeekBand.seekChannel_stops band quality (meets 0).stopped isUp
      (band.scanStart s.mTuneFreq) with going | stop
    · rw [going.2, station]
      constructor
      · rintro ⟨freq, found, tuned⟩
        cases found
        refine ⟨ordered, going.1, ?_⟩
        rcases tuned with accepted | back
        · exact .inl (tune.symm.trans accepted)
        · exact .inr back.symm
      · intro first
        refine ⟨_, rfl, ?_⟩
        rcases first.tuned with accepted | back
        · exact .inl (tune.trans accepted)
        · exact .inr back.symm
    · rw [stop.2]
      constructor
      · rintro ⟨freq, found, _⟩
        cases found
      · intro first
        exact absurd first.unstopped stop.1
  · rw [soughtBy_empty begun ordered]
    constructor
    · rintro ⟨freq, found, _⟩
      cases found
    · intro first
      exact absurd first.ordered ordered

/-- An undisturbed scan as a walk from its start. -/
theorem scan_walk (bounded : s.Bounded band) (sound : band.Sound)
    (undisturbed : s.Undisturbed meets) (fuel : Nat) :
    stations (s.scan band quality isUp stack meets fuel).1 =
      (Walk.visits (band.onward quality isUp) (heading isUp s.mTuneFreq)
        (scanHalts isUp s.mEnabled) fuel
        ⟨0, heading isUp (band.scanStart s.mTuneFreq)⟩).map (heading isUp) ∧
    (Walk.finished (band.onward quality isUp) (heading isUp s.mTuneFreq)
        (scanHalts isUp s.mEnabled) fuel
        ⟨0, heading isUp (band.scanStart s.mTuneFreq)⟩ = true →
      (s.scan band quality isUp stack meets fuel).2.thread = .completed) :=
  @scanRounds_walk band quality meets (s.beginSearch true isUp stack)
    (scanSearch band isUp s.mTuneFreq stack) isUp s.mEnabled s.mTuneFreq sound undisturbed.2 fuel 0
    (begin_bounded bounded) rfl (begin_thread bounded) rfl undisturbed.1 rfl rfl rfl
    (start_within sound s.mTuneFreq)

/-- A scan that nothing disturbs ends, in any band. -/
theorem scan_ends (bounded : s.Bounded band) (spaced : 0 < band.seekSpace.toNat)
    (undisturbed : s.Undisturbed meets) :
    ∃ fuel, (s.scan band quality isUp stack meets fuel).2.thread = .completed := by
  by_cases ordered : band.minFreq.toNat ≤ band.maxFreq.toNat
  · have sound : band.Sound := ⟨ordered, spaced⟩
    have within := start_within sound s.mTuneFreq
    have range : ∃ least most, ∀ freq, band.Within freq ↔
        least ≤ heading isUp freq ∧ heading isUp freq ≤ most := by
      cases isUp with
      | true => exact ⟨band.lower, band.upper, fun freq => Iff.rfl⟩
      | false =>
          refine ⟨-band.upper, -band.lower, fun freq => ?_⟩
          show band.lower ≤ freq ∧ freq ≤ band.upper ↔ -band.upper ≤ -freq ∧ -freq ≤ -band.lower
          omega
    obtain ⟨least, most, bounds⟩ := range
    have start := (bounds _).mp within
    have stays : ∀ place, least ≤ place → place ≤ most →
        least ≤ band.onward quality isUp place ∧ band.onward quality isUp place ≤ most := by
      intro place low high
      have inside : band.Within (heading isUp place) := by
        rw [bounds, heading_heading]
        exact ⟨low, high⟩
      exact (bounds _).mp (SeekBand.station_within sound inside)
    have ended := @finished_of_bounded (band.onward quality isUp) (heading isUp s.mTuneFreq)
      (scanHalts isUp s.mEnabled) least most stays _
      ⟨0, heading isUp (band.scanStart s.mTuneFreq)⟩ start.1 start.2 (Nat.zero_le 1)
      (Nat.lt_succ_self _)
    exact ⟨_, (scan_walk bounded sound undisturbed _).2 ended⟩
  · exact empty_ends (begin_bounded bounded) ordered undisturbed.2 undisturbed.1
      (begin_thread bounded) rfl

/-- It comes to no station twice, but to the first one perhaps, when it is clear where it begins. -/
theorem scan_once (bounded : s.Bounded band) (spaced : 0 < band.seekSpace.toNat)
    (clear : band.Clear quality isUp s.mTuneFreq) (undisturbed : s.Undisturbed meets)
    (fuel : Nat) : OnceRound (stations (s.scan band quality isUp stack meets fuel).1) := by
  by_cases ordered : band.minFreq.toNat ≤ band.maxFreq.toNat
  · have sound : band.Sound := ⟨ordered, spaced⟩
    rw [(scan_walk bounded sound undisturbed fuel).1]
    refine onceRound_map (fun _ _ => heading_inj.mp) ?_
    exact Walk.visits_once fuel (SeekBand.scan_orderly sound clear)
  · have none : stations (s.scan band quality isUp stack meets fuel).1 = [] :=
      stations_empty (begin_bounded bounded) ordered (.inr ⟨_, begin_thread bounded⟩)
    rw [none]
    exact onceRound_of_nodup List.Pairwise.nil

/-- A scan that is clear where it begins is as it should be exactly when its first search finds a
station; in any case it ends if nothing disturbs it. -/
theorem scan_runs (bounded : s.Bounded band) (spaced : 0 < band.seekSpace.toNat) :
    (band.Clear quality isUp s.mTuneFreq →
      (s.ScanRun band quality isUp stack meets ↔ s.FirstFound band quality isUp (meets 0))) ∧
    (s.Undisturbed meets →
      ∃ fuel, (s.scan band quality isUp stack meets fuel).2.thread = .completed) := by
  have produced := @scan_produced s band quality isUp stack meets bounded spaced
  refine ⟨?_, scan_ends bounded spaced⟩
  intro clear
  constructor
  · intro run
    exact produced.mp run.produced
  · intro first
    exact ⟨produced.mpr first, scan_ends bounded spaced, scan_once bounded spaced clear⟩

/-- A service with a special region of such a boundary, that is about to carry a command out. -/
def specialAt (low high freq : Int) : Service :=
  { cfg := ⟨0, .special, 8750, 10800, low, high⟩
    mFmCommandList := []
    mTuneFreq := freq
    mSearchMode := .scan
    mFmCallback := true
    mEnabled := true
    mFmTunned := true
    mSearching := false
    mSearchCancelled := false
    calling := none
    mCommandLock := true
    thread := .walking }

/-- A round that nothing comes to, and one of which the search is stopped and the scan cancelled. -/
def calm : RoundMeets := ⟨fun _ => false, 0, 0, false, false⟩

def cancelledAtOnce : RoundMeets := ⟨fun _ => true, 0, 0, true, true⟩

theorem scan_runs_few :
    (specialAt 8750 8770 8760).ScanRun fewChannels (twoStations 8750 8770) true 0 (fun _ => calm) ∧
      ∃ fuel, ((specialAt 8750 8770 8760).scan fewChannels (twoStations 8750 8770) true 0
        (fun _ => calm) fuel).2.thread = .completed := by
  have runs := @scan_runs (specialAt 8750 8770 8760) fewChannels (twoStations 8750 8770) true 0
    (fun _ => calm) rfl (by decide)
  refine ⟨(runs.1 ⟨?_, ?_⟩).mpr ⟨by decide, by decide, .inl rfl⟩, runs.2 ⟨rfl, ?_⟩⟩
  · intro _ above
    exact absurd above (by decide)
  · rintro _ _ ⟨space, _⟩
    exact absurd space (by decide)
  · exact fun _ => ⟨fun _ => rfl, rfl, rfl⟩

/-- A scan is not as it should be when it comes to a station twice that is not its first. -/
theorem not_run_of_twice {fuel : Nat} {seen : List Int} {last : Int}
    (undisturbed : s.Undisturbed meets)
    (places : stations (s.scan band quality isUp stack meets fuel).1 = seen ++ [last])
    (twice : last ∈ seen) (other : seen.head? ≠ some last) :
    ¬ s.ScanRun band quality isUp stack meets :=
  fun run => other ((run.once undisturbed fuel seen last places).2 twice)

/-- Stations on both sides of a frequency between two channels, of which the one above is weaker
than one further on. -/
def bothSides : Nat → Probe := fun freq =>
  if freq = 8750 then ⟨true, -40⟩ else if freq = 8755 then ⟨true, -50⟩
  else if freq = 8760 then ⟨true, -90⟩ else if freq = 8765 then ⟨true, -60⟩ else ⟨false, -100⟩

/-- A first search that is stopped leaves `scanFreq` as it was on the stack; from a frequency above
the band a scan upward goes round twice; between two stations it passes one of them over, and comes
to another again. -/
theorem not_scan_runs :
    ¬ (specialAt 8750 8770 8760).ScanRun fewChannels (twoStations 8750 8770) true 77
      (fun _ => cancelledAtOnce) ∧
    ¬ (specialAt 8750 8770 9000).ScanRun fewChannels (twoStations 8770 8750) true 0
      (fun _ => calm) ∧
    ¬ (specialAt 8750 8770 8752).ScanRun ⟨8750, 8770, 5⟩ bothSides true 0 (fun _ => calm) := by
  refine ⟨?_, ?_, ?_⟩
  · intro run
    have compared : (77 : Int) ∈ ([] : List Int) := (run.produced 1).1
    cases compared
  · have undisturbed : (specialAt 8750 8770 9000).Undisturbed fun _ => calm :=
      ⟨rfl, fun _ => ⟨fun _ => rfl, rfl, rfl⟩⟩
    have places : stations ((specialAt 8750 8770 9000).scan fewChannels (twoStations 8770 8750)
        true 0 (fun _ => calm) 5).1 = [8770, 8750, 8770] ++ [8750] := by decide
    exact not_run_of_twice undisturbed places (by decide) (by decide)
  · have undisturbed : (specialAt 8750 8770 8752).Undisturbed fun _ => calm :=
      ⟨rfl, fun _ => ⟨fun _ => rfl, rfl, rfl⟩⟩
    have places : stations ((specialAt 8750 8770 8752).scan ⟨8750, 8770, 5⟩ bothSides true 0
        (fun _ => calm) 5).1 = [8755, 8765, 8750] ++ [8765] := by decide
    exact not_run_of_twice undisturbed places (by decide) (by decide)

end Run

end Connectivity.Fm
