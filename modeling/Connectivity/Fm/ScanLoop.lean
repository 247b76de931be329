import Connectivity.Fm.Commands
import Connectivity.Fm.ScanOrder
import Connectivity.Fm.SeekGrid

set_option autoImplicit false

/- The scan command of the FM service over the searches of a band, and which of its frequencies a
search has found. -/
namespace Connectivity.Fm

open Tuner (Probe)

/-- What a round of a scan meets: whether its search has been stopped at each check, what the two
calls of `FMR_tune` return, and whether the scan has been cancelled by the end of the dwell and in
front of the loop's condition. -/
structure RoundMeets where
  stopped : Nat → Bool
  driver : Int
  again : Int
  cancelled : Bool
  cancelledLate : Bool

/-- A round that neither a stop nor a cancellation comes to. -/
def RoundMeets.Undisturbed (meets : RoundMeets) : Prop :=
  (∀ turn, meets.stopped turn = false) ∧ meets.cancelled = false ∧ meets.cancelledLate = false

/-- What a round leaves: what `FMR_seek` stores, `scanFreq` as it is compared then, and the calls of
`FMR_tune`. -/
structure Visit where
  sought : Option Int
  compared : Int
  tunes : List Tune

namespace Service

variable (s : Service)

def cancelIf (cancelled : Bool) : Service := if cancelled then s.cancelSearch else s

/-- What `FMR_seek` stores in a round. -/
def soughtBy (band : SeekBand) (quality : Nat → Probe) (meets : RoundMeets) (search : Search) :
    Option Int :=
  s.cfg.seek search.startFreq
    (band.seekChannel search.startFreq search.isUp (stoppable quality meets.stopped)).2

/-- A round of a scan, over the channel that its search finds. -/
def roundBy (band : SeekBand) (quality : Nat → Probe) (meets : RoundMeets) (search : Search) :
    Service × List Tune :=
  s.round search
    (band.seekChannel search.startFreq search.isUp (stoppable quality meets.stopped)).2
    meets.driver meets.again

/-- A round up to the loop's condition, and behind that. -/
def scanRound (band : SeekBand) (quality : Nat → Probe) (meets : RoundMeets) (search : Search) :
    Option Service :=
  let s := (s.roundBy band quality meets search).1
  ((s.cancelIf meets.cancelled).advance).bind fun s => (s.cancelIf meets.cancelledLate).advance

/-- The rounds of a scan. -/
def scanRounds (band : SeekBand) (quality : Nat → Probe) (meets : Nat → RoundMeets) :
    Nat → Nat → Service → List Visit × Service
  | 0, _, s => ([], s)
  | fuel + 1, k, s =>
      match s.thread with
      | .searching search =>
          match s.scanRound band quality (meets k) search with
          | some after =>
              let sought := s.soughtBy band quality (meets k) search
              let rest := scanRounds band quality meets fuel (k + 1) after
              (⟨sought, sought.getD search.scanFreq,
                (s.roundBy band quality (meets k) search).2⟩ :: rest.1, rest.2)
          | none => ([], s)
      | _ => ([], s)

end Service

/-- The stations that a scan tunes. -/
def stations (visits : List Visit) : List Int :=
  visits.flatMap fun visit =>
    (visit.tunes.filter fun tune => decide (tune.site = .found)).map fun tune => tune.freq

/-- Every frequency that is compared or tuned has been found by a search of the scan before. -/
def Produced : List Int → List Visit → Prop
  | _, [] => True
  | known, visit :: rest =>
      let known := visit.sought.toList ++ known
      visit.compared ∈ known ∧ (∀ tune ∈ visit.tunes, tune.freq ∈ known) ∧ Produced known rest

section Rounds

variable {band : SeekBand} {quality : Nat → Probe} {s : Service} {search : Search}
  {meets : RoundMeets}

@[simp] theorem cancelIf_thread (cancelled : Bool) :
    (s.cancelIf cancelled).thread = s.thread := by
  rw [Service.cancelIf, Service.cancelSearch]
  split
  · split <;> rfl
  · rfl

@[simp] theorem cancelIf_cfg (cancelled : Bool) : (s.cancelIf cancelled).cfg = s.cfg := by
  rw [Service.cancelIf, Service.cancelSearch]
  split
  · split <;> rfl
  · rfl

@[simp] theorem cancelIf_mTuneFreq (cancelled : Bool) :
    (s.cancelIf cancelled).mTuneFreq = s.mTuneFreq := by
  rw [Service.cancelIf, Service.cancelSearch]
  split
  · split <;> rfl
  · rfl

@[simp] theorem dwell_scanFreq : (s.dwell search).scanFreq = search.scanFreq := by
  rw [Service.dwell]
  split
  · split <;> rfl
  · rfl

/-- What a round leaves as it was, and where it leaves the thread. -/
theorem roundBy_frame :
    (s.roundBy band quality meets search).1.cfg = s.cfg ∧
      (s.roundBy band quality meets search).1.mSearchCancelled = s.mSearchCancelled ∧
      (s.roundBy band quality meets search).1.mEnabled = s.mEnabled ∧
      (s.roundBy band quality meets search).1.thread =
        .dwelling { search with
          scanFreq := (s.soughtBy band quality meets search).getD search.scanFreq } := by
  rw [Service.roundBy, Service.round]
  split
  · exact ⟨rfl, rfl, rfl, rfl⟩
  · exact ⟨rfl, rfl, rfl, rfl⟩

/-- The calls of `FMR_tune` in a round, and the frequency behind them. -/
theorem roundBy_tunes :
    (∃ freq, s.soughtBy band quality meets search = some freq ∧
      s.cfg.tune freq meets.driver = 0 ∧
      (s.roundBy band quality meets search).2 = [⟨.found, freq⟩] ∧
      (s.roundBy band quality meets search).1.mTuneFreq = freq) ∨
    ((∀ freq, s.soughtBy band quality meets search = some freq →
        s.cfg.tune freq meets.driver ≠ 0) ∧
      (s.roundBy band quality meets search).2 =
        (s.soughtBy band quality meets search).toList.map (fun freq => ⟨.found, freq⟩) ++
          [⟨.fallback, s.mTuneFreq⟩] ∧
      (s.roundBy band quality meets search).1.mTuneFreq = s.mTuneFreq) := by
  rw [Service.roundBy, Service.round, Service.station, ← Service.soughtBy]
  cases sought : s.soughtBy band quality meets search with
  | none =>
      refine .inr ⟨?_, rfl, rfl⟩
      intro freq found
      cases found
  | some freq =>
      by_cases tuned : s.cfg.tune freq meets.driver = 0
      · rw [Option.filter_some, if_pos (decide_eq_true tuned)]
        exact .inl ⟨freq, rfl, tuned, rfl, rfl⟩
      · rw [Option.filter_some, if_neg (ne_true_of_eq_false (decide_eq_false tuned))]
        refine .inr ⟨?_, rfl, rfl⟩
        intro other found
        cases found
        exact tuned

/-- A round ends the search or goes into the next one, with the frequency that it has compared. -/
theorem scanRound_cases :
    ∃ after, s.scanRound band quality meets search = some after ∧ after.cfg = s.cfg ∧
      after.mTuneFreq = (s.roundBy band quality meets search).1.mTuneFreq ∧
      (after.thread = .completed ∨ ∃ next, after.thread = .searching next ∧
        next.scanFreq = (s.soughtBy band quality meets search).getD search.scanFreq) := by
  obtain ⟨cfg, _, _, thread⟩ := @roundBy_frame band quality s search meets
  rw [Service.scanRound]
  generalize (s.roundBy band quality meets search).1 = t at *
  rw [Service.advance, cancelIf_thread, thread]
  dsimp only
  rw [Option.bind_some, Service.advance, cancelIf_thread]
  dsimp only
  split
  · refine ⟨_, rfl, ?_, ?_, .inr ⟨_, rfl, dwell_scanFreq⟩⟩
    · show ((Service.cancelIf _ _).cfg) = _
      rw [cancelIf_cfg]
      exact (cancelIf_cfg _).trans cfg
    · show ((Service.cancelIf _ _).mTuneFreq) = _
      rw [cancelIf_mTuneFreq]
      exact cancelIf_mTuneFreq _
  · refine ⟨_, rfl, ?_, ?_, .inl rfl⟩
    · show ((Service.cancelIf _ _).cfg) = _
      rw [cancelIf_cfg]
      exact (cancelIf_cfg _).trans cfg
    · show ((Service.cancelIf _ _).mTuneFreq) = _
      rw [cancelIf_mTuneFreq]
      exact cancelIf_mTuneFreq _

end Rounds

section Produced

variable {band : SeekBand} {quality : Nat → Probe} {meets : Nat → RoundMeets} {s : Service}
  {search : Search}

theorem scanRounds_succ {fuel k : Nat} {after : Service} (thread : s.thread = .searching search)
    (round : s.scanRound band quality (meets k) search = some after) :
    s.scanRounds band quality meets (fuel + 1) k =
      (⟨s.soughtBy band quality (meets k) search,
          (s.soughtBy band quality (meets k) search).getD search.scanFreq,
          (s.roundBy band quality (meets k) search).2⟩ ::
        (after.scanRounds band quality meets fuel (k + 1)).1,
        (after.scanRounds band quality meets fuel (k + 1)).2) := by
  rw [Service.scanRounds, thread]
  dsimp only
  rw [round]

theorem scanRounds_ended {fuel k : Nat} (thread : s.thread = .completed) :
    s.scanRounds band quality meets fuel k = ([], s) := by
  cases fuel with
  | zero => rfl
  | succ fuel => rw [Service.scanRounds, thread]

/-- Once a search has found a frequency, and that or one found later is the one to go back to,
nothing else is compared or tuned. -/
theorem produced_of_known {fuel k : Nat} {known : List Int}
    (thread : s.thread = .completed ∨
      ∃ search, s.thread = .searching search ∧ search.scanFreq ∈ known)
    (tuned : s.mTuneFreq ∈ known) :
    Produced known (s.scanRounds band quality meets fuel k).1 := by
  induction fuel generalizing k s known with
  | zero => exact trivial
  | succ fuel ih =>
      rcases thread with ended | searching
      · rw [scanRounds_ended ended]
        exact trivial
      · obtain ⟨search, thread, scanned⟩ := searching
        obtain ⟨after, round, _, tuneFreq, next⟩ :=
          @scanRound_cases band quality s search (meets k)
        rw [scanRounds_succ thread round]
        have compared : (s.soughtBy band quality (meets k) search).getD search.scanFreq ∈
            (s.soughtBy band quality (meets k) search).toList ++ known := by
          cases s.soughtBy band quality (meets k) search with
          | none => exact scanned
          | some freq => exact List.mem_cons_self
        have later : after.mTuneFreq ∈
            (s.soughtBy band quality (meets k) search).toList ++ known := by
          rw [tuneFreq]
          rcases @roundBy_tunes band quality s search (meets k) with found | failed
          · obtain ⟨freq, sought, _, _, last⟩ := found
            rw [sought, last]
            exact List.mem_cons_self
          · rw [failed.2.2]
            exact List.mem_append_right _ tuned
        refine ⟨compared, ?_, ih ?_ later⟩
        · intro tune member
          rcases @roundBy_tunes band quality s search (meets k) with found | failed
          · obtain ⟨freq, sought, _, tunes, _⟩ := found
            rw [tunes, List.mem_singleton] at member
            rw [member, sought]
            exact List.mem_cons_self
          · rw [failed.2.1] at member
            rcases List.mem_append.mp member with first | back
            · obtain ⟨freq, isSought, rfl⟩ := List.mem_map.mp first
              exact List.mem_append_left _ isSought
            · rw [List.mem_singleton.mp back]
              exact List.mem_append_right _ tuned
        · rcases next with ended | going
          · exact .inl ended
          · obtain ⟨search, thread, same⟩ := going
            exact .inr ⟨search, thread, same ▸ compared⟩

/-- Every frequency of a scan has been found exactly when the first search finds one, and it can be
tuned or is the one to go back to. -/
theorem produced_iff (thread : s.thread = .searching search) :
    (∀ fuel, Produced [] (s.scanRounds band quality meets fuel 0).1) ↔
      ∃ freq, s.soughtBy band quality (meets 0) search = some freq ∧
        (s.cfg.tune freq (meets 0).driver = 0 ∨ s.mTuneFreq = freq) := by
  obtain ⟨after, round, _, tuneFreq, next⟩ := @scanRound_cases band quality s search (meets 0)
  constructor
  · intro produced
    have first := produced 1
    rw [scanRounds_succ thread round] at first
    obtain ⟨compared, tunes, _⟩ := first
    dsimp only at compared tunes
    rcases @roundBy_tunes band quality s search (meets 0) with found | failed
    · obtain ⟨freq, sought, tuned, _, _⟩ := found
      exact ⟨freq, sought, .inl tuned⟩
    · cases sought : s.soughtBy band quality (meets 0) search with
      | none =>
          rw [sought] at compared
          cases compared
      | some freq =>
          have back := tunes ⟨.fallback, s.mTuneFreq⟩ (by
            rw [failed.2.1]
            exact List.mem_append_right _ (List.mem_singleton_self _))
          rw [sought] at back
          exact ⟨freq, rfl, .inr (List.mem_singleton.mp back)⟩
  · rintro ⟨freq, sought, last⟩ fuel
    cases fuel with
    | zero => exact trivial
    | succ fuel =>
        rw [scanRounds_succ thread round]
        rw [sought, Option.getD_some] at next ⊢
        have behind : (s.roundBy band quality (meets 0) search).1.mTuneFreq = freq ∧
            ∀ tune ∈ (s.roundBy band quality (meets 0) search).2, tune.freq = freq := by
          rcases @roundBy_tunes band quality s search (meets 0) with found | failed
          · obtain ⟨other, same, _, tunes, tuned⟩ := found
            rw [sought] at same
            cases same
            refine ⟨tuned, ?_⟩
            intro tune member
            rw [tunes, List.mem_singleton] at member
            rw [member]
          · have back := last.resolve_left (failed.1 freq sought)
            refine ⟨failed.2.2.trans back, ?_⟩
            intro tune member
            rw [failed.2.1, sought] at member
            rcases List.mem_cons.mp member with first | again
            · rw [first]
            · rw [List.mem_singleton.mp again]
              exact back
        refine ⟨List.mem_cons_self, ?_, produced_of_known ?_ ?_⟩
        · intro tune member
          rw [behind.2 tune member]
          exact List.mem_cons_self
        · rcases next with ended | going
          · exact .inl ended
          · obtain ⟨search, thread, same⟩ := going
            exact .inr ⟨search, thread, same ▸ List.mem_cons_self⟩
        · rw [tuneFreq, behind.1]
          exact List.mem_cons_self

end Produced

end Connectivity.Fm
