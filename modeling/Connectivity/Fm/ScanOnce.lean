import Connectivity.Fm.ScanLoop

set_option autoImplicit false

/- The rounds of a scan that nothing disturbs are a walk round the stations of the band. -/
namespace Connectivity.Fm

open Tuner (Probe)
open Connectivity.Ring

section Undisturbed

variable {band : SeekBand} {quality : Nat → Probe} {s : Service} {search : Search}
  {meets : RoundMeets}

/-- The limits of the service are those of the band it searches. -/
def Service.Bounded (s : Service) (band : SeekBand) : Prop :=
  s.cfg.getBandBoundary = (band.lower, band.upper)

theorem bounded_of_cfg {t : Service} (bounded : s.Bounded band) (cfg : t.cfg = s.cfg) :
    t.Bounded band := by
  rw [Service.Bounded, cfg]
  exact bounded

theorem outside_within (bounded : s.Bounded band) (freq : Int) :
    s.cfg.outside freq = !decide (band.Within freq) := by
  rw [CustCfg.outside, bounded, ← decide_not]
  refine decide_eq_decide.mpr ?_
  rw [SeekBand.Within]
  dsimp only
  omega

/-- Where an undisturbed round leaves the service. -/
theorem scanRound_undisturbed (undisturbed : meets.Undisturbed) (isScan : search.isScan = true)
    (quiet : s.mSearchCancelled = false) :
    let dwelt := s.dwell { search with
      scanFreq := (s.soughtBy band quality meets search).getD search.scanFreq }
    ∃ after, s.scanRound band quality meets search = some after ∧ after.cfg = s.cfg ∧
      after.mSearchCancelled = false ∧ after.mEnabled = s.mEnabled ∧
      after.thread = if dwelt.scanDone || !s.mEnabled then .completed else .searching dwelt := by
  intro dwelt
  obtain ⟨cfg, cancelled, enabled, thread⟩ := @roundBy_frame band quality s search meets
  rw [Service.scanRound]
  generalize (s.roundBy band quality meets search).1 = t at *
  have scan : dwelt.isScan = true := by
    show (s.dwell _).isScan = true
    rw [Service.dwell]
    dsimp only
    rw [isScan, if_pos rfl, quiet, if_neg Bool.false_ne_true]
    rfl
  have same : ∀ search, t.dwell search = s.dwell search := by
    intro search
    rw [Service.dwell, Service.dwell, cancelled]
  have late : ∀ u : Service, u.cancelIf meets.cancelledLate = u := by
    intro u
    rw [Service.cancelIf, undisturbed.2.2, if_neg Bool.false_ne_true]
  have first : (t.cancelIf meets.cancelled).advance =
      some { t with thread := .looping dwelt } := by
    rw [Service.cancelIf, undisturbed.2.1, if_neg Bool.false_ne_true, Service.advance, thread]
    dsimp only
    rw [same]
  have still : t.mSearchCancelled = false := cancelled.trans quiet
  rw [first, Option.bind_some, late, Service.advance]
  dsimp only
  rw [scan, still, enabled]
  cases done : dwelt.scanDone with
  | true => exact ⟨_, rfl, cfg, rfl, rfl, rfl⟩
  | false =>
      cases on : s.mEnabled with
      | true => exact ⟨_, rfl, cfg, rfl, rfl, rfl⟩
      | false => exact ⟨_, rfl, cfg, rfl, rfl, rfl⟩

/-- A frequency lies behind another one in the direction of the scan. -/
theorem passed_iff {isUp : Bool} {first second : Int} :
    ((isUp = true ∧ first < second) ∨ (¬ isUp = true ∧ second < first)) ↔
      heading isUp first < heading isUp second := by
  cases isUp with
  | true =>
      show _ ↔ first < second
      simp
  | false =>
      show _ ↔ -first < -second
      simp

theorem nextRound_round : (Service.nextRound search).round =
    if heading search.isUp search.scanFreq < heading search.isUp search.startFreq then
      search.round + 1
    else search.round := by
  rw [Service.nextRound]
  dsimp only
  simp only [passed_iff]

theorem nextRound_done : (Service.nextRound search).scanDone = true ↔
    search.scanDone = true ∨
      ((Service.nextRound search).round = 1 ∧
        heading search.isUp search.origFreq < heading search.isUp search.scanFreq) ∨
      search.scanFreq = search.origFreq ∨ (Service.nextRound search).round = 2 := by
  rw [Service.nextRound]
  dsimp only
  rw [Bool.or_eq_true, decide_eq_true_iff, @passed_iff _ search.origFreq]

/-- A scan's search as a walk: its round, and where it begins. -/
def Search.walk (search : Search) : Walk :=
  ⟨search.round, heading search.isUp search.startFreq⟩

/-- The dwell behind a station is a step of the walk, and the scan is done when the walk ends, or at
the frequency 0. -/
theorem dwell_walk (isScan : search.isScan = true) (quiet : s.mSearchCancelled = false)
    (pending : search.scanDone = false) {next : Int → Int} {found : Int}
    (onto : next (heading search.isUp search.startFreq) = heading search.isUp found) :
    let dwelt := s.dwell { search with scanFreq := found }
    dwelt.walk = search.walk.step next ∧
      dwelt.scanDone = (Walk.ends (heading search.isUp search.origFreq) search.walk
        (search.walk.step next) || decide (found = 0)) := by
  have dwelt : s.dwell { search with scanFreq := found } = Service.nextRound { search with
      scanDone := decide (found = 0 ∨ found = search.startFreq), scanFreq := found } := by
    rw [Service.dwell]
    dsimp only
    rw [isScan, if_pos rfl, quiet, if_neg Bool.false_ne_true, pending, Bool.false_or]
  dsimp only
  rw [dwelt]
  generalize set : ({ search with
      scanDone := decide (found = 0 ∨ found = search.startFreq)
      scanFreq := found } : Search) = paused
  have walk : (Service.nextRound paused).walk = search.walk.step next := by
    rw [← set, Search.walk, nextRound_round, Walk.step, Search.walk]
    dsimp only
    rw [onto]
    rfl
  refine ⟨walk, ?_⟩
  have lap : (Service.nextRound paused).round = (search.walk.step next).lap :=
    congrArg Walk.lap walk
  have place : (search.walk.step next).place = heading search.isUp found := onto
  have before : search.walk.place = heading search.isUp search.startFreq := rfl
  rw [Bool.eq_iff_iff, nextRound_done, lap, Bool.or_eq_true, Walk.ends, decide_eq_true_iff,
    decide_eq_true_iff, place, before, heading_inj, heading_inj, ← set]
  dsimp only
  rw [decide_eq_true_iff]
  omega

theorem dwell_frame (isScan : search.isScan = true) (quiet : s.mSearchCancelled = false) :
    (s.dwell search).isScan = true ∧ (s.dwell search).isUp = search.isUp ∧
      (s.dwell search).origFreq = search.origFreq ∧
      (s.dwell search).startFreq = search.scanFreq := by
  rw [Service.dwell]
  dsimp only
  rw [isScan, if_pos rfl, quiet, if_neg Bool.false_ne_true]
  exact ⟨rfl, rfl, rfl, rfl⟩

theorem soughtBy_undisturbed (sound : band.Sound) (bounded : s.Bounded band)
    (within : band.Within search.startFreq) (undisturbed : meets.Undisturbed) :
    s.soughtBy band quality meets search =
      some (band.station quality search.isUp search.startFreq) := by
  have driver : stoppable quality meets.stopped = steady quality := by
    funext turn freq
    rw [stoppable, undisturbed.1 turn]
    rfl
  rw [Service.soughtBy, CustCfg.seek, outside_within bounded, decide_eq_true within, driver,
    SeekBand.seekChannel_station sound within]
  rfl

/-- The stations of a round are those that its search has found. -/
theorem stations_roundBy :
    ((s.roundBy band quality meets search).2.filter fun tune =>
      decide (tune.site = .found)).map (fun tune => tune.freq) =
        (s.soughtBy band quality meets search).toList := by
  rcases @roundBy_tunes band quality s search meets with found | failed
  · obtain ⟨freq, sought, _, tunes, _⟩ := found
    rw [tunes, sought]
    rfl
  · rw [failed.2.1]
    cases s.soughtBy band quality meets search with
    | none => rfl
    | some freq => rfl

end Undisturbed

section Walk

variable {band : SeekBand} {quality : Nat → Probe} {meets : Nat → RoundMeets} {s : Service}
  {search : Search} {isUp enabled : Bool} {orig : Int}

/-- A scan is halted at the frequency 0, and when the radio is disabled. -/
def scanHalts (isUp enabled : Bool) (place : Int) : Bool :=
  decide (heading isUp place = 0) || !enabled

theorem scanRounds_walk (sound : band.Sound) (undisturbed : ∀ k, (meets k).Undisturbed)
    {fuel k : Nat} (bounded : s.Bounded band) (on : s.mEnabled = enabled)
    (thread : s.thread = .searching search) (isScan : search.isScan = true)
    (quiet : s.mSearchCancelled = false) (pending : search.scanDone = false)
    (up : search.isUp = isUp) (home : search.origFreq = orig)
    (within : band.Within search.startFreq) :
    stations (s.scanRounds band quality meets fuel k).1 =
      (search.walk.visits (band.onward quality isUp) (heading isUp orig)
        (scanHalts isUp enabled) fuel).map (heading isUp) ∧
    (search.walk.finished (band.onward quality isUp) (heading isUp orig)
        (scanHalts isUp enabled) fuel = true →
      (s.scanRounds band quality meets fuel k).2.thread = .completed) := by
  induction fuel generalizing s k search with
  | zero => exact ⟨rfl, fun ended => absurd ended Bool.false_ne_true⟩
  | succ fuel ih =>
      have sought := @soughtBy_undisturbed band quality s search (meets k) sound bounded within
        (undisturbed k)
      have inside := @SeekBand.station_within band quality search.isUp search.startFreq sound within
      have onto := @SeekBand.onward_heading band quality search.isUp search.startFreq
      obtain ⟨after, round, cfg, still, power, next⟩ :=
        @scanRound_undisturbed band quality s search (meets k) (undisturbed k) isScan quiet
      rw [sought, Option.getD_some] at next
      obtain ⟨step, done⟩ := dwell_walk isScan quiet pending onto
      obtain ⟨scan, sameUp, sameHome, start⟩ := @dwell_frame s { search with
        scanFreq := band.station quality search.isUp search.startFreq } isScan quiet
      generalize dwelt_eq : s.dwell { search with
        scanFreq := band.station quality search.isUp search.startFreq } = dwelt at *
      have first : stations (s.scanRounds band quality meets (fuel + 1) k).1 =
          band.station quality search.isUp search.startFreq ::
            stations (after.scanRounds band quality meets fuel (k + 1)).1 := by
        rw [scanRounds_succ thread round, stations, List.flatMap_cons, stations_roundBy, sought]
        rfl
      have last : (s.scanRounds band quality meets (fuel + 1) k).2 =
          (after.scanRounds band quality meets fuel (k + 1)).2 := by
        rw [scanRounds_succ thread round]
      have place : (search.walk.step (band.onward quality isUp)).place =
          heading isUp (band.station quality isUp search.startFreq) := by
        rw [← up]
        exact onto
      have halts : (dwelt.scanDone || !s.mEnabled) =
          (Walk.ends (heading isUp orig) search.walk
              (search.walk.step (band.onward quality isUp)) ||
            scanHalts isUp enabled (search.walk.step (band.onward quality isUp)).place) := by
        rw [done, place, scanHalts, heading_heading, on, Bool.or_assoc, up, home]
      rw [first, last, Walk.visits, Walk.finished, ← halts, List.map_cons, place, heading_heading,
        up]
      cases stop : dwelt.scanDone || !s.mEnabled with
      | true =>
          rw [stop, if_pos rfl] at next
          rw [scanRounds_ended next]
          exact ⟨rfl, fun _ => next⟩
      | false =>
          rw [stop, if_neg Bool.false_ne_true] at next
          have going : dwelt.scanDone = false := (Bool.or_eq_false_iff.mp stop).1
          obtain ⟨rest, ends⟩ := @ih after dwelt (k + 1) (bounded_of_cfg bounded cfg)
            (power.trans on) next scan still going (sameUp.trans up) (sameHome.trans home)
            (start ▸ inside)
          rw [step, up] at rest ends
          rw [rest, Bool.false_or]
          exact ⟨rfl, ends⟩

end Walk

end Connectivity.Fm
