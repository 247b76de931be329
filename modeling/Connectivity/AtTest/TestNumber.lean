import Connectivity.AtTest.Tests
import Connectivity.Nmea.GsvLoop
import Mathlib.Data.List.TakeWhile

set_option autoImplicit false

/- The number of tests that `AT%GPS=` and `AT%GNSS=` take from the text behind them. -/
namespace Connectivity.AtTest

/-- The number that digits stand for. -/
def decimalValue (digits : List UInt8) : Nat :=
  digits.foldl (fun value digit => value * 10 + (digit.toNat - 48)) 0

/-- The positive decimal number that fills a text. -/
def positiveDecimal (text : List UInt8) : Option Int :=
  if text.all isDigit ∧ 0 < decimalValue text then some (decimalValue text) else none

/-- What `at_command_parse_test_num` returns for a text. -/
def testNumOf (text : List UInt8) : Int :=
  let res := strtoul text
  if res.1 ≠ 0 ∧ res.2 = [] then Nmea.int32 res.1 else -1

/-- The sign and the digits that fill a text behind its spaces. -/
def signedDigits (text : List UInt8) : Option (Bool × List UInt8) :=
  let signed := signOf (text.dropWhile isSpace)
  if signed.2 ≠ [] ∧ signed.2.all isDigit then some signed else none

def signedValue (minus : Bool) (value : Nat) : Int := if minus then -value else value

/-- The number that fills a text is below 2^31; one behind a sign or spaces is, cut to an `int`,
too small to be taken. -/
def TextFits (least : Int) (text : List UInt8) : Prop :=
  if text.all isDigit then decimalValue text < 2147483648
  else ∀ signed ∈ signedDigits text, decimalValue signed.2 ≠ 0 →
    Nmea.int32 (signedValue signed.1 (decimalValue signed.2)) < least

/-- The number that is taken, if it is not too small. -/
def accepted (least num : Int) : Option Int := if least ≤ num then some num else none

section Values

variable {text digits : List UInt8}

theorem decimalValue_concat (digits : List UInt8) (digit : UInt8) :
    decimalValue (digits ++ [digit]) = decimalValue digits * 10 + (digit.toNat - 48) := by
  rw [decimalValue, List.foldl_append]
  rfl

theorem decimalValue_lt (all : digits.all isDigit = true) :
    decimalValue digits < 10 ^ digits.length := by
  induction digits using List.reverseRecOn with
  | nil => decide
  | append_singleton digits digit ih =>
      rw [List.all_append, Bool.and_eq_true] at all
      have before := ih all.1
      have last : isDigit digit = true := by
        have one := all.2
        rw [List.all_cons, List.all_nil, Bool.and_true] at one
        exact one
      have range : 48 ≤ digit ∧ digit ≤ 57 := of_decide_eq_true last
      have most : digit.toNat ≤ 57 := range.2
      rw [decimalValue_concat, List.length_append, List.length_singleton, Nat.pow_succ]
      omega

/-- No number that a command line has room for is too large for 64 bits. -/
theorem decimalValue_small (all : digits.all isDigit = true) (short : digits.length ≤ 19) :
    decimalValue digits ≤ ulongMax := by
  have below := decimalValue_lt all
  have power : 10 ^ digits.length ≤ 10 ^ 19 := Nat.pow_le_pow_right (by decide) short
  have room : 10 ^ 19 ≤ ulongMax := by decide
  omega

theorem takeWhile_all (all : text.all isDigit = true) : text.takeWhile isDigit = text :=
  List.takeWhile_eq_self_iff.mpr (List.all_eq_true.mp all)

/-- A digit is neither a space nor a sign. -/
theorem signed_digits (all : text.all isDigit = true) :
    signOf (text.dropWhile isSpace) = (false, text) := by
  cases text with
  | nil => rfl
  | cons digit rest =>
      rw [List.all_cons, Bool.and_eq_true] at all
      have range : 48 ≤ digit ∧ digit ≤ 57 := of_decide_eq_true all.1
      have low : 48 ≤ digit.toNat := range.1
      have space : isSpace digit = false := by
        apply decide_eq_false
        rintro (blank | ⟨-, control⟩)
        · rw [blank] at low
          exact absurd low (by decide)
        · have most : digit.toNat ≤ 13 := control
          omega
      rw [List.dropWhile_cons_of_neg (by rw [space]; decide)]
      unfold signOf
      split
      next same =>
        cases same
        exact absurd low (by decide)
      next same =>
        cases same
        exact absurd low (by decide)
      next => rfl

theorem signedDigits_digits (all : text.all isDigit = true) (nonempty : text ≠ []) :
    signedDigits text = some (false, text) := by
  unfold signedDigits
  rw [signed_digits all]
  exact if_pos ⟨nonempty, all⟩

theorem length_signOf (text : List UInt8) : (signOf text).2.length ≤ text.length := by
  unfold signOf
  split
  next => exact Nat.le_succ _
  next => exact Nat.le_succ _
  next => exact Nat.le_refl _

theorem signedDigits_some {signed : Bool × List UInt8} (found : signedDigits text = some signed) :
    signOf (text.dropWhile isSpace) = signed ∧ signed.2 ≠ [] ∧ signed.2.all isDigit = true ∧
      signed.2.length ≤ text.length := by
  unfold signedDigits at found
  dsimp only at found
  split at found
  next shape =>
    cases found
    refine ⟨rfl, shape.1, shape.2, Nat.le_trans (length_signOf _) ?_⟩
    exact (List.dropWhile_sublist _).length_le
  next => cases found

/-- What `strtoul` makes of a text that a number fills. -/
theorem strtoul_signed {signed : Bool × List UInt8} (found : signedDigits text = some signed)
    (short : text.length ≤ 19) : strtoul text =
      (if signed.1 then (2 ^ 64 - decimalValue signed.2) % 2 ^ 64 else decimalValue signed.2,
        []) := by
  obtain ⟨same, nonempty, all, length⟩ := signedDigits_some found
  have small := decimalValue_small all (by omega)
  have room : ¬ ulongMax < decimalValue signed.2 := Nat.not_lt.mpr small
  unfold strtoul
  dsimp only
  rw [same, takeWhile_all all, if_neg nonempty, List.drop_length]
  change (if ulongMax < decimalValue signed.2 then (ulongMax, [])
    else if signed.1 then ((2 ^ 64 - decimalValue signed.2) % 2 ^ 64, [])
    else (decimalValue signed.2, [])) = _
  rw [if_neg room]
  cases signed.1 with
  | true => rfl
  | false => rfl

/-- It does not get to the end of any other text, or finds no number. -/
theorem strtoul_other (missing : signedDigits text = none) :
    ¬ ((strtoul text).1 ≠ 0 ∧ (strtoul text).2 = []) := by
  rintro ⟨nonzero, ended⟩
  unfold signedDigits at missing
  unfold strtoul at nonzero ended
  dsimp only at missing nonzero ended
  generalize signOf (text.dropWhile isSpace) = signed at missing nonzero ended
  by_cases digits : signed.2.takeWhile isDigit = []
  · rw [if_pos digits] at nonzero
    exact nonzero rfl
  · have rest : signed.2.drop (signed.2.takeWhile isDigit).length = [] := by
      rw [if_neg digits] at ended
      split_ifs at ended
      · exact ended
      · exact ended
      · exact ended
    have length := List.drop_eq_nil_iff.mp rest
    have whole : signed.2.takeWhile isDigit = signed.2 :=
      (List.takeWhile_prefix isDigit).eq_of_length_le length
    rw [whole] at digits
    have all : signed.2.all isDigit = true :=
      List.all_eq_true.mpr (List.takeWhile_eq_self_iff.mp whole)
    rw [if_pos ⟨digits, all⟩] at missing
    cases missing

/-- A number behind a minus wraps in 64 bits, which an `int` does not show. -/
theorem int32_wrapped {value : Nat} (positive : 0 < value) (small : value ≤ ulongMax) :
    Nmea.int32 ((2 ^ 64 - value) % 2 ^ 64 : Nat) = Nmea.int32 (-value) := by
  have most : value < 2 ^ 64 := Nat.lt_succ_of_le small
  have wrapped : (((2 ^ 64 - value) % 2 ^ 64 : Nat) : Int) =
      -(value : Int) + (2 ^ 32 : Nat) * (2 ^ 32 : Int) := by
    rw [Nat.mod_eq_of_lt (by omega)]
    omega
  rw [wrapped]
  exact Int.add_mul_bmod_self_left _ _ _

theorem testNumOf_signed {signed : Bool × List UInt8} (found : signedDigits text = some signed)
    (short : text.length ≤ 19) : testNumOf text =
      if decimalValue signed.2 = 0 then -1
      else Nmea.int32 (signedValue signed.1 (decimalValue signed.2)) := by
  obtain ⟨-, -, all, length⟩ := signedDigits_some found
  have small := decimalValue_small all (by omega)
  have most : decimalValue signed.2 < 2 ^ 64 := Nat.lt_succ_of_le small
  unfold testNumOf
  rw [strtoul_signed found short]
  dsimp only
  by_cases zero : decimalValue signed.2 = 0
  · rw [if_pos zero, zero]
    cases signed.1 with
    | true => rfl
    | false => rfl
  · have positive : 0 < decimalValue signed.2 := Nat.pos_of_ne_zero zero
    rw [if_neg zero]
    cases signed.1 with
    | true =>
        rw [if_pos rfl, if_pos ⟨by rw [Nat.mod_eq_of_lt (by omega)]; omega, rfl⟩]
        exact int32_wrapped positive small
    | false => exact if_pos ⟨zero, rfl⟩

theorem testNumOf_other (missing : signedDigits text = none) : testNumOf text = -1 :=
  if_neg (strtoul_other missing)

theorem accepted_none {least num : Int} : accepted least num = none ↔ num < least := by
  unfold accepted
  split
  next taken => exact ⟨fun given => (by cases given), fun below => by omega⟩
  next refused => exact ⟨fun _ => by omega, fun _ => rfl⟩

/-- A positive number is taken as it is if an `int` holds it. -/
theorem accepted_some {least : Int} (range : least = 0 ∨ least = 1) {value : Nat}
    (positive : 0 < value) :
    accepted least (Nmea.int32 value) = some (value : Int) ↔ value < 2147483648 := by
  have high : Nmea.int32 value < 2147483648 :=
    Int.bmod_lt (x := (value : Int)) (m := 2 ^ 32) (by decide)
  unfold accepted
  constructor
  · intro taken
    split at taken
    next =>
      have same : Nmea.int32 value = value := Option.some.inj taken
      omega
    next => cases taken
  · intro small
    rw [Nmea.int32_small (by omega) (by omega)]
    exact if_pos (by omega)

/-- The number that is taken from a text is the positive number that fills it, unless the text
is one of those that an `int` has no room for. -/
theorem accepted_iff {least : Int} (range : least = 0 ∨ least = 1) (short : text.length ≤ 19) :
    accepted least (testNumOf text) = positiveDecimal text ↔ TextFits least text := by
  have negative : (-1 : Int) < least := by omega
  unfold TextFits
  by_cases all : text.all isDigit = true
  · rw [if_pos all]
    by_cases nonempty : text = []
    · rw [nonempty]
      exact ⟨fun _ => by decide, fun _ => accepted_none.mpr negative⟩
    · rw [testNumOf_signed (signedDigits_digits all nonempty) short]
      dsimp only
      by_cases zero : decimalValue text = 0
      · have nothing : positiveDecimal text = none := by
          unfold positiveDecimal
          exact if_neg (by omega)
        rw [if_pos zero, zero, nothing]
        exact ⟨fun _ => by decide, fun _ => accepted_none.mpr negative⟩
      · have positive : 0 < decimalValue text := Nat.pos_of_ne_zero zero
        have number : positiveDecimal text = some (decimalValue text : Int) :=
          if_pos ⟨all, positive⟩
        rw [if_neg zero, number]
        exact accepted_some range positive
  · have nothing : positiveDecimal text = none := if_neg fun shape => all shape.1
    rw [if_neg all, nothing, accepted_none]
    cases found : signedDigits text with
    | none =>
        rw [testNumOf_other found]
        exact ⟨fun _ signed given => (by cases given), fun _ => negative⟩
    | some signed =>
        rw [testNumOf_signed found short]
        constructor
        · intro small other same nonzero
          cases same
          rw [if_neg nonzero] at small
          exact small
        · intro fits
          split
          next => exact negative
          next nonzero => exact fits signed rfl nonzero

end Values

end Connectivity.AtTest
