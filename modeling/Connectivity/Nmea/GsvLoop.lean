import Connectivity.Nmea.Reader
import Mathlib.Data.List.Induction

set_option autoImplicit false

/- What the loop of a GSV sentence does to the counters. -/
namespace Connectivity.Nmea

theorem int32_small {value : Int} (low : -2147483648 ≤ value) (high : value < 2147483648) :
    int32 value = value := by
  apply Int.bmod_eq_of_le
  · exact low
  · exact high

theorem int32_low (value : Int) : -2147483648 ≤ int32 value :=
  Int.le_bmod (x := value) (m := 2 ^ 32) (by decide)

/-- Adding to a wrapped number is adding to the number, as long as the sum stays in range. -/
theorem int32_add {value more : Int} (low : -2147483648 ≤ int32 value + more)
    (high : int32 value + more < 2147483648) : int32 (value + more) = int32 value + more := by
  rw [int32, ← Int.bmod_add_bmod]
  exact int32_small low high

/-- A number that stands for a satellite. -/
def reportable (prn : Int) : Bool := (svOf prn).isSome

/-- A satellite that is counted has a number between 1 and 436. -/
theorem reportable_range {prn : Int} (known : reportable prn = true) : 0 < prn ∧ prn ≤ 436 := by
  unfold reportable svOf at known
  split_ifs at known <;> first | omega | cases known

def gsvIds (svType : SvType) (tokens : List (List UInt8)) (loops : Nat) : List Int :=
  (List.range loops).map (gsvId svType tokens)

/-- How many of the first satellites of a sentence are counted. -/
def known (svType : SvType) (tokens : List (List UInt8)) (loops : Nat) : Nat :=
  (gsvIds svType tokens loops).countP reportable

theorem known_succ (svType : SvType) (tokens : List (List UInt8)) (loops : Nat) :
    known svType tokens (loops + 1) =
      known svType tokens loops + if reportable (gsvId svType tokens loops) then 1 else 0 := by
  rw [known, gsvIds, List.range_succ, List.map_append, List.countP_append, List.map_singleton,
    List.countP_singleton]
  rfl

theorem known_le (svType : SvType) (tokens : List (List UInt8)) (loops : Nat) :
    known svType tokens loops ≤ loops := by
  have most := List.countP_le_length (p := reportable) (l := gsvIds svType tokens loops)
  rw [gsvIds, List.length_map, List.length_range] at most
  exact most

theorem gsvLoops_le (tokens : List (List UInt8)) : gsvLoops tokens ≤ 4 := by
  apply Int.toNat_le.mpr
  exact Int.min_le_right _ _

namespace SvReader

variable {F : Type} {platform : Platform F} {nmeaCash : Int → NmeaCash} {svType : SvType}
  {tokens : List (List UInt8)} {r t : SvReader F} {loops : Nat}

/-- A turn stores a satellite at the next free entry, or passes it over when its number
stands for none or the entries are used up. -/
theorem gsvTurn_cases (platform : Platform F) (nmeaCash : Int → NmeaCash) (svType : SvType)
    (tokens : List (List UInt8)) (r : SvReader F) (idx : Nat) :
    (r.svIndex < maxSvs ∧ reportable (gsvId svType tokens idx) = true ∧ ∃ svList,
      gsvTurn platform nmeaCash svType tokens r idx =
        { r with
          svCount := int32 (r.svCount + 1)
          svList := svList
          stores := .svList r.svIndex :: .snr r.svCount :: .prn r.svCount :: r.stores }) ∨
    ((r.svIndex < maxSvs → reportable (gsvId svType tokens idx) = false) ∧
      gsvTurn platform nmeaCash svType tokens r idx =
        { r with stores := .snr r.svCount :: .prn r.svCount :: r.stores }) := by
  unfold gsvTurn updateSvStatus reportable
  split
  next full =>
    refine .inr ⟨fun room => ?_, rfl⟩
    exact absurd full (Int.not_le.mpr room)
  next room =>
    split
    next none =>
      refine .inr ⟨fun _ => ?_, rfl⟩
      rw [none]
      rfl
    next one =>
      refine .inl ⟨Int.not_le.mp room, ?_, _, rfl⟩
      rw [one]
      rfl

theorem gsvTurns_succ (loops : Nat) : gsvTurns platform nmeaCash svType tokens (loops + 1) r =
    gsvTurn platform nmeaCash svType tokens
      (gsvTurns platform nmeaCash svType tokens loops r) loops := by
  rw [gsvTurns, List.range_succ, List.foldl_append]
  rfl

/-- How many satellites the first turns of the loop count: those with a number that stands for
one, as long as there are free entries. -/
def counts (svType : SvType) (tokens : List (List UInt8)) (loops : Nat) (r : SvReader F) : Int :=
  min (known svType tokens loops) (max 0 (maxSvs - r.svIndex))

/-- The counters after the first turns of a loop. -/
structure Turned (svType : SvType) (tokens : List (List UInt8)) (loops : Nat)
    (r t : SvReader F) : Prop where
  svCount : t.svCount = r.svCount + counts svType tokens loops r
  svIndex : t.svIndex = r.svIndex + counts svType tokens loops r
  numSvs : t.numSvs = r.numSvs
  added : t.added = r.added

theorem counts_succ_counted (room : r.svIndex + counts svType tokens loops r < maxSvs)
    (counted : reportable (gsvId svType tokens loops) = true) :
    counts svType tokens (loops + 1) r = counts svType tokens loops r + 1 := by
  unfold counts at room ⊢
  rw [known_succ, counted, if_pos rfl]
  omega

theorem counts_succ_passed (passed : r.svIndex + counts svType tokens loops r < maxSvs →
    reportable (gsvId svType tokens loops) = false) :
    counts svType tokens (loops + 1) r = counts svType tokens loops r := by
  unfold counts at passed ⊢
  rw [known_succ]
  split
  next counted =>
    have full := mt passed (by rw [counted]; decide)
    omega
  next => rfl

theorem svIndex_next (next : SvReader F) (count : next.svCount = r.svCount + 1)
    (same : next.numSvs = r.numSvs) (room : r.svIndex < maxSvs) :
    next.svIndex = r.svIndex + 1 := by
  have low := int32_low (r.svCount + r.numSvs)
  have order : r.svCount + 1 + r.numSvs = r.svCount + r.numSvs + 1 := by omega
  unfold svIndex maxSvs at *
  rw [count, same, order]
  apply int32_add
  · omega
  · omega

theorem counts_bounds (svType : SvType) (tokens : List (List UInt8)) (loops : Nat)
    (r : SvReader F) : 0 ≤ counts svType tokens loops r ∧ counts svType tokens loops r ≤ loops := by
  have most := known_le svType tokens loops
  unfold counts
  omega

theorem Turned.turn (platform : Platform F) (nmeaCash : Int → NmeaCash)
    (before : Turned svType tokens loops r t) (low : 0 ≤ r.svCount)
    (high : r.svCount + loops < 2147483647) :
    Turned svType tokens (loops + 1) r (gsvTurn platform nmeaCash svType tokens t loops) := by
  rcases gsvTurn_cases platform nmeaCash svType tokens t loops with
    ⟨room, counted, svList, turn⟩ | ⟨passed, turn⟩
  · have most := counts_bounds svType tokens loops r
    have count : int32 (t.svCount + 1) = t.svCount + 1 := by
      rw [before.svCount]
      exact int32_small (by omega) (by omega)
    rw [turn, count]
    have index := svIndex_next
      { t with
        svCount := t.svCount + 1
        svList := svList
        stores := .svList t.svIndex :: .snr t.svCount :: .prn t.svCount :: t.stores }
      rfl rfl room
    rw [before.svIndex] at room
    have more := counts_succ_counted room counted
    refine ⟨?_, ?_, before.numSvs, before.added⟩
    · rw [more, ← Int.add_assoc, ← before.svCount]
    · rw [more, ← Int.add_assoc, ← before.svIndex]
      exact index
  · rw [before.svIndex] at passed
    have same := counts_succ_passed passed
    rw [turn]
    refine ⟨?_, ?_, before.numSvs, before.added⟩
    · rw [same]
      exact before.svCount
    · rw [same]
      exact before.svIndex

theorem gsvTurns_turned (platform : Platform F) (nmeaCash : Int → NmeaCash) (svType : SvType)
    (tokens : List (List UInt8)) (loops : Nat) (low : 0 ≤ r.svCount)
    (high : r.svCount + loops ≤ 2147483647) :
    Turned svType tokens loops r (gsvTurns platform nmeaCash svType tokens loops r) := by
  induction loops with
  | zero =>
      have none : counts svType tokens 0 r = 0 := by
        show min (0 : Int) (max 0 (maxSvs - r.svIndex)) = 0
        omega
      refine ⟨?_, ?_, rfl, rfl⟩
      · rw [none, Int.add_zero]
        rfl
      · rw [none, Int.add_zero]
        rfl
  | succ loops ih =>
      rw [gsvTurns_succ]
      exact (ih (by omega)).turn platform nmeaCash low (by omega)

end SvReader

end Connectivity.Nmea
