import Connectivity.Nmea.GsvLoop
import Connectivity.Nmea.Parser

set_option autoImplicit false

/- The satellite count that is reported, against the entries that were stored. -/
namespace Connectivity.Nmea

open Transition

namespace SvReader

variable {F : Type} {platform : Platform F} {nmeaCash : Int → NmeaCash} {svType : SvType}
  {tokens : List (List UInt8)} {r : SvReader F}

/-- The entries that are in `numSvs` have been stored, and so have the next ones, for as many
as `svCount` counts, unless these are in `numSvs` already. -/
structure Counted (r : SvReader F) : Prop where
  numSvs : 0 ≤ r.numSvs ∧ r.numSvs ≤ maxSvs
  svCount : 0 ≤ r.svCount ∧ r.svCount ≤ maxSvs
  filled : ∀ index, 0 ≤ index → index < r.numSvs → .svList index ∈ r.stores
  pending : r.added = false → r.numSvs + r.svCount ≤ maxSvs ∧
    ∀ index, r.numSvs ≤ index → index < r.numSvs + r.svCount → .svList index ∈ r.stores

/-- Nothing is asked of a set that has not begun. -/
theorem counted_of_none (numSvs : 0 ≤ r.numSvs ∧ r.numSvs ≤ maxSvs) (svCount : r.svCount = 0)
    (filled : ∀ index, 0 ≤ index → index < r.numSvs → .svList index ∈ r.stores) : Counted r := by
  refine ⟨numSvs, ?_, filled, fun _ => ?_⟩
  · rw [svCount]
    decide
  · rw [svCount, Int.add_zero]
    exact ⟨numSvs.2, fun index low high => absurd high (Int.not_lt.mpr low)⟩

theorem counted_of_zero (numSvs : r.numSvs = 0) (svCount : r.svCount = 0) : Counted r := by
  refine counted_of_none ?_ svCount fun index low high => ?_
  · rw [numSvs]
    decide
  · rw [numSvs] at high
    exact absurd high (Int.not_lt.mpr low)

theorem Counted.start (counted : Counted r) (tokens : List (List UInt8)) :
    Counted (gsvStart tokens r) := by
  unfold gsvStart
  split
  next => exact counted_of_none counted.numSvs rfl counted.filled
  next => exact counted

theorem Counted.turn (counted : Counted r) (idx : Nat) :
    Counted (gsvTurn platform nmeaCash svType tokens r idx) := by
  have numSvs := counted.numSvs
  have svCount := counted.svCount
  unfold maxSvs at numSvs svCount
  rcases gsvTurn_cases platform nmeaCash svType tokens r idx with
    ⟨room, known, svList, turn⟩ | ⟨passed, turn⟩
  · have index : r.svIndex = r.svCount + r.numSvs := int32_small (by omega) (by omega)
    have count : int32 (r.svCount + 1) = r.svCount + 1 := int32_small (by omega) (by omega)
    rw [index] at room turn
    rw [turn, count]
    unfold maxSvs at room
    refine ⟨numSvs, ⟨?_, ?_⟩, fun other low high => ?_, fun once => ⟨?_, fun other low high => ?_⟩⟩
    · show 0 ≤ r.svCount + 1
      omega
    · show r.svCount + 1 ≤ 64
      omega
    · refine List.mem_cons_of_mem _ (List.mem_cons_of_mem _ (List.mem_cons_of_mem _ ?_))
      exact counted.filled other low high
    · show r.numSvs + (r.svCount + 1) ≤ 64
      omega
    · change other < r.numSvs + (r.svCount + 1) at high
      by_cases last : other = r.svCount + r.numSvs
      · rw [last]
        exact List.mem_cons_self
      · refine List.mem_cons_of_mem _ (List.mem_cons_of_mem _ (List.mem_cons_of_mem _ ?_))
        exact (counted.pending once).2 other low (by omega)
  · rw [turn]
    refine ⟨numSvs, svCount, fun other low high => ?_, fun once => ⟨(counted.pending once).1, ?_⟩⟩
    · exact List.mem_cons_of_mem _ (List.mem_cons_of_mem _ (counted.filled other low high))
    · intro other low high
      exact List.mem_cons_of_mem _
          (List.mem_cons_of_mem _ ((counted.pending once).2 other low high))

theorem Counted.turns (counted : Counted r) (loops : Nat) :
    Counted (gsvTurns platform nmeaCash svType tokens loops r) := by
  induction loops with
  | zero => exact counted
  | succ loops ih =>
      rw [gsvTurns_succ]
      exact ih.turn loops

/-- A set that is complete may be added if it has not been yet. -/
theorem Counted.finish (counted : Counted r)
    (once : gsvSeq tokens = gsvNum tokens → r.svCount ≤ gsvCnt tokens → r.added = false) :
    Counted (gsvEnd tokens r) := by
  unfold gsvEnd
  split
  next last =>
    split
    next complete =>
      obtain ⟨room, filled⟩ := counted.pending (once last complete)
      have numSvs := counted.numSvs
      have svCount := counted.svCount
      unfold maxSvs at numSvs svCount room
      have sum : int32 (r.numSvs + r.svCount) = r.numSvs + r.svCount :=
        int32_small (by omega) (by omega)
      rw [sum]
      refine ⟨⟨?_, room⟩, svCount, fun index low high => ?_, fun unadded => ?_⟩
      · show 0 ≤ r.numSvs + r.svCount
        omega
      · by_cases before : index < r.numSvs
        · exact counted.filled index low before
        · exact filled index (Int.not_lt.mp before) high
      · -- only an empty set is not marked as added
        have empty : ¬ 0 < r.svCount := of_decide_eq_false unadded
        show r.numSvs + r.svCount + r.svCount ≤ 64 ∧ ∀ index, r.numSvs + r.svCount ≤ index →
          index < r.numSvs + r.svCount + r.svCount → _
        refine ⟨by omega, fun index low high => ?_⟩
        omega
    next => exact counted_of_zero rfl rfl
  next => exact counted

/-- The last sentence of a set finds its satellites not yet added: it is the set's first one
too, or none have been added since the first, or it declares so few that they are dropped. -/
def AddsOnce (svType : SvType) (tokens : List (List UInt8)) (r : SvReader F) : Prop :=
  gsvSeq tokens = gsvNum tokens → gsvSeq tokens = 1 ∨ r.added = false ∨
    gsvCnt tokens < r.svCount + counts svType tokens (gsvLoops tokens) r

instance (svType : SvType) (tokens : List (List UInt8)) (r : SvReader F) :
    Decidable (AddsOnce svType tokens r) :=
  inferInstanceAs (Decidable (_ → _))

theorem Counted.gsv (counted : Counted r) (once : AddsOnce svType tokens r) :
    Counted (gsv platform nmeaCash svType tokens r) := by
  have started := counted.start tokens
  have few := gsvLoops_le tokens
  have most := started.svCount.2
  have turned := gsvTurns_turned platform nmeaCash svType tokens (gsvLoops tokens) started.svCount.1
      (by unfold maxSvs at most; omega)
  refine (started.turns (gsvLoops tokens)).finish fun last complete => ?_
  rw [turned.added]
  by_cases first : gsvSeq tokens = 1
  · rw [gsvStart, if_pos first]
  · rw [turned.svCount, gsvStart, if_neg first] at complete
    rw [gsvStart, if_neg first]
    rcases once last with now | unadded | fewer
    · exact absurd now first
    · exact unadded
    · exact absurd complete (Int.not_le.mpr fewer)

theorem gsvTurn_stores {entry : SvStore} (stored : entry ∈ r.stores) (idx : Nat) :
    entry ∈ (gsvTurn platform nmeaCash svType tokens r idx).stores := by
  rcases gsvTurn_cases platform nmeaCash svType tokens r idx with
    ⟨_, _, svList, turn⟩ | ⟨_, turn⟩
  · rw [turn]
    exact List.mem_cons_of_mem _ (List.mem_cons_of_mem _ (List.mem_cons_of_mem _ stored))
  · rw [turn]
    exact List.mem_cons_of_mem _ (List.mem_cons_of_mem _ stored)

theorem gsvTurns_stores {entry : SvStore} (stored : entry ∈ r.stores) (loops : Nat) :
    entry ∈ (gsvTurns platform nmeaCash svType tokens loops r).stores := by
  induction loops with
  | zero => exact stored
  | succ loops ih =>
      rw [gsvTurns_succ]
      exact gsvTurn_stores ih loops

theorem gsvStart_stores (tokens : List (List UInt8)) (r : SvReader F) :
    (gsvStart tokens r).stores = r.stores := by
  unfold gsvStart
  split <;> rfl

theorem gsvEnd_stores (tokens : List (List UInt8)) (r : SvReader F) :
    (gsvEnd tokens r).stores = r.stores := by
  unfold gsvEnd
  split
  next => split <;> rfl
  next => rfl

theorem gsv_stores {entry : SvStore} (stored : entry ∈ r.stores) :
    entry ∈ (r.gsv platform nmeaCash svType tokens).stores := by
  rw [gsv, gsvEnd_stores]
  apply gsvTurns_stores
  rw [gsvStart_stores]
  exact stored

end SvReader

namespace Parser

variable {F : Type} {platform : Platform F} {s : Parser F}

/-- Every report of the satellites counts at most as many as there are entries, all of them
stored by a GSV sentence of the buffer. -/
def ReportsFilled (s : Parser F) : Prop :=
  ∀ numSvs svList, .gpsSv numSvs svList ∈ s.reports → numSvs ≤ maxSvs ∧
    ∀ index, 0 ≤ index → index < numSvs → .svList index ∈ s.sv.stores

/-- A GSV sentence adds no satellites that have been added already. -/
def GsvAddsOnce (s : Parser F) (c : UInt8 × Bool) : Prop :=
  ∀ tokens, s.completes c.1 = some tokens → kindOf (getToken tokens 0) = .gsv →
    s.sv.AddsOnce (svTypeOf (getToken tokens 0)) tokens

instance (s : Parser F) (c : UInt8 × Bool) : Decidable (GsvAddsOnce s c) :=
  match complete : s.completes c.1 with
  | none => isTrue fun tokens other => by rw [complete] at other; cases other
  | some tokens => decidable_of_iff (kindOf (getToken tokens 0) = .gsv →
      s.sv.AddsOnce (svTypeOf (getToken tokens 0)) tokens) (by
        simp only [GsvAddsOnce, complete, Option.some.injEq, forall_eq'])

structure SvInv (s : Parser F) : Prop where
  counted : s.sv.Counted
  reported : ReportsFilled s

theorem svAfter_counted (platform : Platform F) (nmeaCash : Int → NmeaCash) {kind : SentenceKind}
    {svType : SvType} {tokens : List (List UInt8)} {r : SvReader F} (counted : r.Counted)
    (once : kind = .gsv → r.AddsOnce svType tokens) :
    (svAfter platform kind svType tokens nmeaCash r).Counted := by
  cases kind with
  | gsv => exact counted.gsv (once rfl)
  | gga | gsa | rmc | eph | alm | accuracy | pmtk817 | unknown => exact counted

theorem svAfter_stores {kind : SentenceKind} {svType : SvType} {tokens : List (List UInt8)}
    {nmeaCash : Int → NmeaCash} {r : SvReader F} {entry : SvStore} (stored : entry ∈ r.stores) :
    entry ∈ (svAfter platform kind svType tokens nmeaCash r).stores := by
  cases kind with
  | gsv => exact SvReader.gsv_stores stored
  | gga | gsa | rmc | eph | alm | accuracy | pmtk817 | unknown => exact stored

theorem addc_svInv {c : UInt8} (endTag : Bool) (inv : SvInv s) (once : GsvAddsOnce s (c, endTag)) :
    SvInv (s.addc platform endTag c) := by
  cases complete : s.completes c with
  | none =>
      obtain ⟨sv, -, reports⟩ := addc_incomplete platform endTag complete
      refine ⟨?_, fun numSvs svList reported => ?_⟩
      · rw [sv]
        exact inv.counted
      · rw [sv]
        exact inv.reported numSvs svList (reports numSvs svList reported)
  | some tokens =>
      have counted := svAfter_counted platform s.cash.nmeaCash inv.counted (once tokens complete)
      rw [addc_completes platform endTag complete]
      refine ⟨?_, fun numSvs svList reported => ?_⟩
      · rw [reported_sv]
        split
        next => exact SvReader.counted_of_zero rfl rfl
        next => exact counted
      · rw [reported_svStores]
        rcases mem_reportSvs (mem_endLine reported) with before | now
        · have earlier : .gpsSv numSvs svList ∈ s.reports :=
            mem_reportLocation (s := (s.store c).hand.sentence platform tokens) before
          obtain ⟨most, filled⟩ := inv.reported numSvs svList earlier
          exact ⟨most, fun index low high => svAfter_stores (filled index low high)⟩
        · rw [reportLocation_sv] at now
          rw [now]
          exact ⟨counted.numSvs.2, counted.filled⟩

end Parser

/-- As long as no satellites are added twice, every report of a buffer counts at most
`MTK_MNLD_GNSS_MAX_SVS` of them, and each of these was filled from the buffer. -/
theorem gpsSv_reports_filled {F : Type} {platform : Platform F} {nmeaCash : Int → NmeaCash}
    {buffer : List UInt8} (once : StepsMeet (Parser.step platform) Parser.GsvAddsOnce
      (.init platform nmeaCash) (Parser.tagged buffer)) :
    AllStates (Parser.step platform) Parser.ReportsFilled (.init platform nmeaCash)
      (Parser.tagged buffer) := by
  have start : Parser.SvInv (.init platform nmeaCash) :=
    ⟨SvReader.counted_of_zero rfl rfl, fun _ _ reported => absurd reported List.not_mem_nil⟩
  apply AllStates.imp fun s inv => Parser.SvInv.reported inv
  refine allStates_of_stepsMeet (fun s c t inv once taken => ?_) start once
  cases taken
  exact Parser.addc_svInv c.2 inv once

/-- `$GPGSV,1,1,1,05,10,20,30`. -/
def oneSatellite : List UInt8 :=
  [36, 71, 80, 71, 83, 86, 44, 49, 44, 49, 44, 49, 44, 48, 53, 44, 49, 48, 44, 50, 48,
      44, 51, 48, 10]

theorem gpsSv_reports_filled_one :
    AllStates (Parser.step intPlatform) Parser.ReportsFilled (.init intPlatform CashTable.clear)
      (Parser.tagged (oneSatellite ++ oneSatellite)) := by
  apply gpsSv_reports_filled
  decide +kernel

/-- `$GPGSV,2,2,5,05,10,20,30`, twice. -/
def partRepeated : List UInt8 :=
  let part : List UInt8 :=
    [36, 71, 80, 71, 83, 86, 44, 50, 44, 50, 44, 53, 44, 48, 53, 44, 49, 48, 44, 50, 48,
        44, 51, 48, 10]
  part ++ part

/-- The number of satellites of a report that is about them. -/
def Report.numSvs {F : Type} : Report F → Option Int
  | .gpsSv numSvs _ => some numSvs
  | .location _ | .updateLocation _ | .nmea _ _ _ => none

/-- The one satellite of the first part is added again with that of the second, and three are
reported of which the middle one was never filled. -/
theorem entry_reported_unfilled :
    (Parser.process intPlatform CashTable.clear partRepeated).reports.filterMap Report.numSvs =
      [3] ∧
    (Parser.process intPlatform CashTable.clear partRepeated).sv.stores =
      [.svList 2, .snr 1, .prn 1, .svList 0, .snr 0, .prn 0] ∧
    ¬ AllStates (Parser.step intPlatform) Parser.ReportsFilled (.init intPlatform CashTable.clear)
      (Parser.tagged partRepeated) := by
  have reported : (Parser.process intPlatform CashTable.clear partRepeated).reports.filterMap
      Report.numSvs = [3] := by decide +kernel
  have stores : (Parser.process intPlatform CashTable.clear partRepeated).sv.stores =
      [.svList 2, .snr 1, .prn 1, .svList 0, .snr 0, .prn 0] := by decide +kernel
  refine ⟨reported, stores, fun all => ?_⟩
  have last := all.last (Parser.exec_process intPlatform CashTable.clear partRepeated)
  have three : 3 ∈ (Parser.process intPlatform CashTable.clear partRepeated).reports.filterMap
      Report.numSvs := by
    rw [reported]
    exact List.mem_singleton.mpr rfl
  obtain ⟨report, member, count⟩ := List.mem_filterMap.mp three
  cases report with
  | gpsSv numSvs svList =>
      cases count
      have filled := (last 3 svList member).2 1 (by decide) (by decide)
      rw [stores] at filled
      exact absurd filled (by decide)
  | location | updateLocation | nmea => cases count

end Connectivity.Nmea
