import Connectivity.Nmea.SvCount

set_option autoImplicit false

/- The indices that the sentences make the parser write its tables at. -/
namespace Connectivity.Nmea

open Transition

/-- The length of `prn` and of `snr`. -/
def maxPrn : Int := 32

namespace SvStore

def InBounds : SvStore → Prop
  | .prn index | .snr index => 0 ≤ index ∧ index < maxPrn
  | .svList index => 0 ≤ index ∧ index < maxSvs

instance (store : SvStore) : Decidable store.InBounds := by
  cases store <;> exact instDecidableAnd

end SvStore

namespace SvReader

variable {F : Type} {platform : Platform F} {nmeaCash : Int → NmeaCash} {svType : SvType}
  {tokens : List (List UInt8)} {r : SvReader F} {loops : Nat}

def InBounds (r : SvReader F) : Prop := ∀ store ∈ r.stores, store.InBounds

theorem gsvTurn_inBounds_iff (platform : Platform F) (nmeaCash : Int → NmeaCash) (idx : Nat)
    (low : 0 ≤ r.svCount) : (gsvTurn platform nmeaCash svType tokens r idx).InBounds ↔
      r.InBounds ∧ r.svCount < maxPrn ∧
      (r.svIndex < 0 → reportable (gsvId svType tokens idx) = false) := by
  rcases gsvTurn_cases platform nmeaCash svType tokens r idx with
    ⟨room, known, svList, turn⟩ | ⟨passed, turn⟩
  · simp only [turn, InBounds, List.forall_mem_cons, SvStore.InBounds, known, Bool.true_eq_false,
      imp_false, Int.not_lt]
    constructor
    · rintro ⟨⟨index, -⟩, ⟨-, count⟩, -, rest⟩
      exact ⟨rest, count, index⟩
    · rintro ⟨rest, count, index⟩
      exact ⟨⟨index, room⟩, ⟨low, count⟩, ⟨low, count⟩, rest⟩
  · have unknown : r.svIndex < 0 → reportable (gsvId svType tokens idx) = false :=
      fun negative => passed (Int.lt_trans negative (by decide))
    simp only [turn, InBounds, List.forall_mem_cons, SvStore.InBounds]
    constructor
    · rintro ⟨⟨-, count⟩, -, rest⟩
      exact ⟨rest, count, unknown⟩
    · rintro ⟨rest, count, -⟩
      exact ⟨⟨low, count⟩, ⟨low, count⟩, rest⟩

/-- The last turn of the loop starts with a free place in `prn` and `snr`, and a count that has
left the range of `int` meets no satellite. -/
def RoomFor (svType : SvType) (tokens : List (List UInt8)) (loops : Nat) (r : SvReader F) : Prop :=
  0 < loops → r.svCount + counts svType tokens (loops - 1) r < maxPrn ∧
    (r.svIndex < 0 → known svType tokens loops = 0)

instance (svType : SvType) (tokens : List (List UInt8)) (loops : Nat) (r : SvReader F) :
    Decidable (RoomFor svType tokens loops r) :=
  inferInstanceAs (Decidable (_ → _))

theorem roomFor_succ (low : 0 ≤ r.svCount) : RoomFor svType tokens (loops + 1) r ↔
    RoomFor svType tokens loops r ∧ r.svCount + counts svType tokens loops r < maxPrn ∧
    (r.svIndex + counts svType tokens loops r < 0 →
      reportable (gsvId svType tokens loops) = false) := by
  have next := known_succ svType tokens loops
  have before : known svType tokens (loops - 1) ≤ known svType tokens loops := by
    cases loops with
    | zero => exact Nat.le_refl _
    | succ loops =>
        rw [known_succ]
        exact Nat.le_add_right _ _
  have none : loops = 0 → known svType tokens loops = 0 := by
    intro first
    rw [first]
    rfl
  unfold RoomFor counts maxPrn maxSvs
  simp only [Nat.add_sub_cancel, Nat.zero_lt_succ, true_imp_iff]
  cases counted : reportable (gsvId svType tokens loops) with
  | true =>
      rw [counted, if_pos rfl] at next
      simp only [reduceCtorEq, imp_false, Int.not_lt]
      omega
  | false =>
      rw [counted, if_neg (by decide)] at next
      simp only [implies_true, and_true]
      omega

theorem gsvTurns_inBounds_iff (platform : Platform F) (nmeaCash : Int → NmeaCash)
    (low : 0 ≤ r.svCount) (high : r.svCount + loops ≤ 2147483647) :
    (gsvTurns platform nmeaCash svType tokens loops r).InBounds ↔
      r.InBounds ∧ RoomFor svType tokens loops r := by
  induction loops with
  | zero => exact ⟨fun bounds => ⟨bounds, fun none => absurd none (Nat.lt_irrefl 0)⟩,
      fun both => both.1⟩
  | succ loops ih =>
      have turned := gsvTurns_turned platform nmeaCash svType tokens loops low (by omega)
      have some := counts_bounds svType tokens loops r
      have count := turned.svCount
      rw [gsvTurns_succ, gsvTurn_inBounds_iff platform nmeaCash loops (by omega), ih (by omega),
        turned.svCount, turned.svIndex, roomFor_succ low, and_assoc]

theorem gsvStart_svCount (tokens : List (List UInt8)) (low : 0 ≤ r.svCount)
    (high : r.svCount ≤ maxPrn) :
    0 ≤ (gsvStart tokens r).svCount ∧ (gsvStart tokens r).svCount ≤ maxPrn := by
  unfold gsvStart
  split
  next => exact ⟨Int.le_refl 0, (by decide : (0 : Int) ≤ maxPrn)⟩
  next => exact ⟨low, high⟩

theorem gsvEnd_svCount (low : 0 ≤ r.svCount) (high : r.svCount ≤ maxPrn) :
    0 ≤ (gsvEnd tokens r).svCount ∧ (gsvEnd tokens r).svCount ≤ maxPrn := by
  unfold gsvEnd
  split
  next =>
    split
    next => exact ⟨low, high⟩
    next => exact ⟨Int.le_refl 0, (by decide : (0 : Int) ≤ maxPrn)⟩
  next => exact ⟨low, high⟩

/-- A GSV sentence stays inside the arrays exactly if there is room for it. -/
theorem gsv_inBounds_iff (platform : Platform F) (nmeaCash : Int → NmeaCash)
    (low : 0 ≤ r.svCount) (high : r.svCount ≤ maxPrn) :
    (gsv platform nmeaCash svType tokens r).InBounds ↔
      r.InBounds ∧ RoomFor svType tokens (gsvLoops tokens) (gsvStart tokens r) := by
  have started := gsvStart_svCount tokens low high
  have few := gsvLoops_le tokens
  have small : maxPrn = 32 := rfl
  rw [gsv, InBounds, gsvEnd_stores]
  apply (gsvTurns_inBounds_iff platform nmeaCash started.1 (by omega)).trans
  rw [InBounds, gsvStart_stores]
  rfl

theorem gsv_svCount (low : 0 ≤ r.svCount) (high : r.svCount ≤ maxPrn)
    (room : RoomFor svType tokens (gsvLoops tokens) (gsvStart tokens r)) :
    0 ≤ (gsv platform nmeaCash svType tokens r).svCount ∧
      (gsv platform nmeaCash svType tokens r).svCount ≤ maxPrn := by
  have started := gsvStart_svCount tokens low high
  have few := gsvLoops_le tokens
  have small : maxPrn = 32 := rfl
  have turned := gsvTurns_turned platform nmeaCash svType tokens (gsvLoops tokens)
      started.1 (by omega)
  have some := counts_bounds svType tokens (gsvLoops tokens) (gsvStart tokens r)
  have count := turned.svCount
  have most : (gsvStart tokens r).svCount +
      counts svType tokens (gsvLoops tokens) (gsvStart tokens r) ≤ maxPrn := by
    unfold RoomFor at room
    cases turns : gsvLoops tokens with
    | zero =>
        rw [turns] at some
        omega
    | succ loops =>
        -- the last turn counts one satellite at most
        have last := known_succ svType tokens loops
        have before := (room (by omega)).1
        rw [turns, Nat.add_sub_cancel] at before
        unfold counts at before ⊢
        split at last <;> omega
  apply gsvEnd_svCount
  · omega
  · omega

end SvReader

namespace CashTable

variable {table : CashTable} {svType : SvType} {tokens : List (List UInt8)}

def InBounds (table : CashTable) : Prop := ∀ index ∈ table.stores, 0 ≤ index ∧ index < maxCash

theorem InBounds.store {index : Int} (bounds : table.InBounds) (low : 0 ≤ index)
    (high : index < maxCash) (change : NmeaCash → NmeaCash) :
    (table.store index change).InBounds :=
  List.forall_mem_cons.mpr ⟨⟨low, high⟩, bounds⟩

theorem InBounds.useInFix (bounds : table.InBounds) (sateId : Int) :
    (table.useInFix sateId).InBounds := by
  unfold CashTable.useInFix
  split
  next inside => exact bounds.store inside.1 inside.2 _
  next => exact bounds

theorem InBounds.gsa (bounds : table.InBounds) : (table.gsa svType tokens).InBounds := by
  unfold CashTable.gsa
  apply List.foldlRecOn (motive := InBounds) _ _ bounds
  exact fun table bounds sateId _ => bounds.useInFix sateId

/-- A sentence has no more than `MAX_NMEA_TOKENS` fields, and a field that is not there sets
no flag. -/
theorem InBounds.setFlags (bounds : table.InBounds) (few : tokens.length ≤ maxNmeaTokens)
    (change : NmeaCash → NmeaCash) (svs : Nat) :
    (table.setFlags change svs tokens).InBounds := by
  unfold CashTable.setFlags
  apply List.foldlRecOn (motive := InBounds) _ _ bounds
  intro table bounds idx _
  split
  next set =>
    have there : idx + 2 < tokens.length := by
      refine Nat.lt_of_not_le fun missing => ?_
      rw [getToken, List.getD_eq_getElem?_getD, List.getElem?_eq_none missing] at set
      exact absurd set (by decide)
    unfold maxNmeaTokens at few
    refine bounds.store (by omega) ?_ change
    unfold maxCash
    omega
  next => exact bounds

end CashTable

namespace Parser

variable {F : Type} {platform : Platform F} {s : Parser F} {tokens : List (List UInt8)}

/-- Every index that the buffer has made the parser write at lies in its table. -/
def StoresInBounds (s : Parser F) : Prop := s.sv.InBounds ∧ s.cash.InBounds

/-- There is room for the satellites of a GSV sentence. -/
def GsvFits (s : Parser F) (c : UInt8 × Bool) : Prop :=
  ∀ tokens, s.completes c.1 = some tokens → kindOf (getToken tokens 0) = .gsv →
    (s.sv.gsvStart tokens).RoomFor (svTypeOf (getToken tokens 0)) tokens (gsvLoops tokens)

structure BoundsInv (s : Parser F) : Prop where
  low : 0 ≤ s.sv.svCount
  high : s.sv.svCount ≤ maxPrn
  inBounds : StoresInBounds s

theorem cashAfter_inBounds (platform : Platform F) (kind : SentenceKind) (svType : SvType)
    (fixed : Bool) {table : CashTable} (bounds : table.InBounds)
        (few : tokens.length ≤ maxNmeaTokens) :
    (cashAfter platform kind svType tokens fixed table).InBounds := by
  cases kind with
  | gsa =>
      cases fixed with
      | true => exact bounds.gsa
      | false => exact bounds
  | eph => exact bounds.setFlags few _ _
  | alm => exact bounds.setFlags few _ _
  | gga | rmc | gsv | accuracy | pmtk817 | unknown => exact bounds

theorem svAfter_inBounds_iff (platform : Platform F) (nmeaCash : Int → NmeaCash)
    (kind : SentenceKind) (svType : SvType) (tokens : List (List UInt8)) {r : SvReader F}
        (low : 0 ≤ r.svCount) (high : r.svCount ≤ maxPrn) :
    (svAfter platform kind svType tokens nmeaCash r).InBounds ↔
      r.InBounds ∧ (kind = .gsv → (r.gsvStart tokens).RoomFor svType tokens (gsvLoops tokens)) := by
  cases kind with
  | gsv =>
      apply (SvReader.gsv_inBounds_iff platform nmeaCash low high).trans
      exact and_congr_right fun _ => ⟨fun room _ => room, fun room => room rfl⟩
  | gga | gsa | rmc | eph | alm | accuracy | pmtk817 | unknown =>
      exact (and_iff_left fun other => absurd other (by decide)).symm

theorem svAfter_svCount {kind : SentenceKind} {svType : SvType} {nmeaCash : Int → NmeaCash}
    {r : SvReader F} (low : 0 ≤ r.svCount) (high : r.svCount ≤ maxPrn)
    (room : kind = .gsv → (r.gsvStart tokens).RoomFor svType tokens (gsvLoops tokens)) :
    0 ≤ (svAfter platform kind svType tokens nmeaCash r).svCount ∧
      (svAfter platform kind svType tokens nmeaCash r).svCount ≤ maxPrn := by
  cases kind with
  | gsv => exact SvReader.gsv_svCount low high (room rfl)
  | gga | gsa | rmc | eph | alm | accuracy | pmtk817 | unknown => exact ⟨low, high⟩

/-- A byte keeps every index in its table exactly if the sentence that it may complete fits. -/
theorem addc_inBounds_iff {c : UInt8} (platform : Platform F) (endTag : Bool) (inv : BoundsInv s) :
    StoresInBounds (s.addc platform endTag c) ↔ GsvFits s (c, endTag) := by
  unfold StoresInBounds GsvFits
  cases complete : s.completes c with
  | none =>
      obtain ⟨sv, cash, -⟩ := addc_incomplete platform endTag complete
      rw [sv, cash]
      refine ⟨fun _ tokens some => ?_, fun _ => inv.inBounds⟩
      exact absurd some.symm (Option.some_ne_none tokens)
  | some tokens =>
      have cash := cashAfter_inBounds platform (kindOf (getToken tokens 0))
        (svTypeOf (getToken tokens 0))
        ((s.store c).hand.sentence platform tokens).position.locFixed
        inv.inBounds.2 (completes_length complete)
      have sv := svAfter_inBounds_iff platform s.cash.nmeaCash (kindOf (getToken tokens 0))
        (svTypeOf (getToken tokens 0)) tokens inv.low inv.high
      simp only [addc_completes platform endTag complete, SvReader.InBounds, CashTable.InBounds,
        reported_svStores, reported_cashStores, Option.some.injEq, forall_eq']
      constructor
      · exact fun both => (sv.mp both.1).2
      · exact fun room => ⟨sv.mpr ⟨inv.inBounds.1, room⟩, cash⟩

theorem addc_boundsInv {c : UInt8} (endTag : Bool) (inv : BoundsInv s)
    (room : GsvFits s (c, endTag)) : BoundsInv (s.addc platform endTag c) := by
  have inBounds := (addc_inBounds_iff platform endTag inv).mpr room
  suffices counts : 0 ≤ (s.addc platform endTag c).sv.svCount ∧
      (s.addc platform endTag c).sv.svCount ≤ maxPrn from ⟨counts.1, counts.2, inBounds⟩
  cases complete : s.completes c with
  | none =>
      rw [(addc_incomplete platform endTag complete).1]
      exact ⟨inv.low, inv.high⟩
  | some tokens =>
      rw [addc_completes platform endTag complete, reported_sv]
      split
      next => exact ⟨Int.le_refl 0, (by decide : (0 : Int) ≤ maxPrn)⟩
      next => exact svAfter_svCount inv.low inv.high (room tokens complete)

end Parser

/-- The parser writes its tables inside their bounds exactly as long as there is room for the
satellites of every GSV sentence. -/
theorem stores_inBounds_iff {F : Type} (platform : Platform F) (nmeaCash : Int → NmeaCash)
    (buffer : List UInt8) :
    AllStates (Parser.step platform) Parser.StoresInBounds (.init platform nmeaCash)
        (Parser.tagged buffer) ↔
      StepsMeet (Parser.step platform) Parser.GsvFits (.init platform nmeaCash)
        (Parser.tagged buffer) := by
  have start : Parser.BoundsInv (.init platform nmeaCash) :=
    ⟨Int.le_refl 0, (by decide : (0 : Int) ≤ maxPrn),
        ⟨List.forall_mem_nil _, List.forall_mem_nil _⟩⟩
  refine allStates_iff_stepsMeet (fun s c t inv room taken => ?_) (fun s inv => inv.inBounds)
    (fun s c t inv full taken => ?_) start
  · cases taken
    exact Parser.addc_boundsInv c.2 inv room
  · cases taken
    exact mt (Parser.addc_inBounds_iff platform c.2 inv).mp full

/-- `$GPGSV,9,2,36,1,,,,2,,,,3,,,,4`, nine times. -/
def nineParts : List UInt8 :=
  let part : List UInt8 :=
    [36, 71, 80, 71, 83, 86, 44, 57, 44, 50, 44, 51, 54, 44, 49, 44, 44, 44, 44, 50, 44, 44, 44,
      44, 51, 44, 44, 44, 44, 52, 10]
  (List.replicate 9 part).flatten

/-- Four satellites of each part are counted, and the last part is written past the end of
`prn` and `snr`. -/
theorem prn_overrun :
    .prn 35 ∈ (Parser.process intPlatform CashTable.clear nineParts).sv.stores ∧
    ¬ AllStates (Parser.step intPlatform) Parser.StoresInBounds (.init intPlatform CashTable.clear)
      (Parser.tagged nineParts) := by
  have overrun : .prn 35 ∈ (Parser.process intPlatform CashTable.clear nineParts).sv.stores := by
    decide +kernel
  refine ⟨overrun, fun all => ?_⟩
  have last := all.last (Parser.exec_process intPlatform CashTable.clear nineParts)
  exact absurd (last.1 (.prn 35) overrun) (by decide)

end Connectivity.Nmea
