import Connectivity.Nmea.GsvLoop

set_option autoImplicit false

/- Which date tokens change the date of the reader, and what is reported of the others. -/
namespace Connectivity.Nmea

/-- What `nmea_reader_update_date` does: whether it logs that the date is not properly formatted,
and what it returns. -/
structure Updated (F : Type) where
  position : Position F
  logged : Bool
  ret : Int

section Update

variable {F : Type} (platform : Platform F)

/-- What `nmea_reader_update_time` returns. -/
def updateTimeRet (token : List UInt8) : Int := if token.length < 6 then -1 else 0

/-- `nmea_reader_update_date`. -/
def nmeaReaderUpdateDate (date time : List UInt8) (p : Position F) : Updated F :=
  if date.length ≠ 6 then ⟨p, true, -1⟩
  else
    let day := str2int (date.take 2)
    let mon := str2int ((date.drop 2).take 2)
    let year := str2int ((date.drop 4).take 2) + 2000
    -- `(day|mon|year) < 0`
    if day < 0 ∨ mon < 0 ∨ year < 0 then ⟨p, true, -1⟩
    else ⟨Position.updateTime platform time
      { p with utcYear := year, utcMon := mon, utcDay := day }, false, updateTimeRet time⟩

end Update

def isDigit (byte : UInt8) : Prop := 48 ≤ byte ∧ byte ≤ 57

instance (byte : UInt8) : Decidable (isDigit byte) := inferInstanceAs (Decidable (_ ∧ _))

/-- The number that two digits stand for. -/
def twoDigits (part : List UInt8) : Int :=
  10 * ((part.getD 0 0).toNat - 48) + ((part.getD 1 0).toNat - 48)

/-- The year, the month and the day that the reader has stored. -/
def Position.date {F : Type} (p : Position F) : Int × Int × Int := (p.utcYear, p.utcMon, p.utcDay)

/-- The date that six digits stand for. -/
def dateOf (date : List UInt8) : Int × Int × Int :=
  (2000 + twoDigits (date.drop 4), twoDigits (date.drop 2), twoDigits date)

def SixDigits (date : List UInt8) : Prop := date.length = 6 ∧ ∀ byte ∈ date, isDigit byte

instance (date : List UInt8) : Decidable (SixDigits date) := inferInstanceAs (Decidable (_ ∧ _))

/-- Six digits are stored as a date; anything else leaves the date alone and is reported. -/
def DateKept {F : Type} (platform : Platform F) (date time : List UInt8) (p : Position F) : Prop :=
  let updated := nmeaReaderUpdateDate platform date time p
  if SixDigits date then updated.position.date = dateOf date
  else updated.position.date = p.date ∧ updated.logged = true ∧ updated.ret = -1

/-- Two characters that are not read as a negative number: two digits, or "-0". -/
def Passes (first second : UInt8) : Prop := isDigit first ∧ isDigit second ∨
  first = 45 ∧ second = 48

instance (first second : UInt8) : Decidable (Passes first second) :=
  inferInstanceAs (Decidable (_ ∨ _))

/-- Six characters whose day and month pass, and which are not all digits. -/
def SlipsThrough (date : List UInt8) : Prop :=
  date.length = 6 ∧ Passes (date.getD 0 0) (date.getD 1 0) ∧
    Passes (date.getD 2 0) (date.getD 3 0) ∧ ¬ SixDigits date

instance (date : List UInt8) : Decidable (SlipsThrough date) :=
  inferInstanceAs (Decidable (_ ∧ _ ∧ _ ∧ _))

section Pairs

variable {first second : UInt8}

theorem digit_range (digit : isDigit first) : 48 ≤ first.toNat ∧ first.toNat ≤ 57 :=
  ⟨UInt8.le_iff_toNat_le.mp digit.1, UInt8.le_iff_toNat_le.mp digit.2⟩

theorem digits_digit {result : Int} {byte : UInt8} (rest : List UInt8) (low : 0 ≤ result)
    (high : result ≤ 1000) (digit : isDigit byte) :
    digits result (byte :: rest) = digits (result * 10 + (byte.toNat - 48)) rest := by
  have range := digit_range digit
  rw [digits, if_pos (show 48 ≤ byte ∧ byte ≤ 57 from digit), int32_small (by omega) (by omega)]

theorem digits_other {result : Int} {byte : UInt8} (rest : List UInt8) (other : ¬ isDigit byte) :
    digits result (byte :: rest) = none := if_neg other

theorem str2int_minus : str2int [45, second] =
    if isDigit second then -((second.toNat : Int) - 48) else -1 := by
  show ((digits 0 [second]).map fun result => int32 (-result)).getD (-1) = _
  by_cases digit : isDigit second
  · have range := digit_range digit
    rw [if_pos digit, digits_digit [] (by omega) (by omega) digit, digits, Option.map_some,
      Option.getD_some, int32_small (by omega) (by omega)]
    omega
  · rw [if_neg digit, digits_other [] digit]
    rfl

theorem str2int_plain (plain : first ≠ 45) : str2int [first, second] =
    if isDigit first ∧ isDigit second then twoDigits [first, second] else -1 := by
  have unsigned : str2int [first, second] = (digits 0 [first, second]).getD (-1) := by
    unfold str2int
    split
    · rename_i same
      exact absurd (List.cons.inj same).1 plain
    · rfl
  rw [unsigned]
  by_cases digit : isDigit first
  · have range := digit_range digit
    rw [digits_digit [second] (by omega) (by omega) digit]
    by_cases next : isDigit second
    · rw [if_pos ⟨digit, next⟩, digits_digit [] (by omega) (by omega) next, digits,
        Option.getD_some]
      show _ = 10 * ((first.toNat : Int) - 48) + ((second.toNat : Int) - 48)
      omega
    · rw [if_neg fun both => next both.2, digits_other [] next]
      rfl
  · rw [if_neg fun both => digit both.1, digits_other [second] digit]
    rfl

theorem str2int_digits (digit : isDigit first) (next : isDigit second) :
    str2int [first, second] = twoDigits [first, second] := by
  have plain : first ≠ 45 := by
    intro minus
    rw [minus] at digit
    exact absurd digit (by decide)
  rw [str2int_plain plain, if_pos ⟨digit, next⟩]

/-- The test for a negative number sees every part but digits and "-0". -/
theorem str2int_nonneg_iff : 0 ≤ str2int [first, second] ↔ Passes first second := by
  by_cases minus : first = 45
  · have letter : ¬ isDigit 45 := by decide
    rw [minus, str2int_minus, Passes]
    constructor
    · intro nonneg
      split at nonneg
      · rename_i digit
        have range := digit_range digit
        right
        refine ⟨rfl, UInt8.toNat_inj.mp ?_⟩
        show second.toNat = 48
        omega
      · exact absurd nonneg (by decide)
    · intro passes
      cases passes with
      | inl both => exact absurd both.1 letter
      | inr zero =>
          rw [zero.2]
          decide
  · rw [str2int_plain minus, Passes]
    constructor
    · intro nonneg
      split at nonneg
      · rename_i both
        exact Or.inl both
      · exact absurd nonneg (by decide)
    · intro passes
      cases passes with
      | inl both =>
          have range := digit_range both.1
          have nextRange := digit_range both.2
          rw [if_pos both]
          show 0 ≤ 10 * ((first.toNat : Int) - 48) + ((second.toNat : Int) - 48)
          omega
      | inr zero => exact absurd zero.1 minus

/-- With 2000 added, nothing is negative. -/
theorem str2int_low : -9 ≤ str2int [first, second] := by
  by_cases minus : first = 45
  · rw [minus, str2int_minus]
    split
    · rename_i digit
      have range := digit_range digit
      omega
    · decide
  · by_cases passes : Passes first second
    · have nonneg := str2int_nonneg_iff.mpr passes
      omega
    · rw [str2int_plain minus, if_neg fun both => passes (Or.inl both)]
      decide

end Pairs

section Dates

variable {F : Type} {platform : Platform F} {time : List UInt8} {p : Position F}

/-- A time token does not change a date that there is. -/
theorem updateTime_date (dated : 0 ≤ p.utcYear) :
    (Position.updateTime platform time p).date = p.date := by
  rw [Position.updateTime]
  split
  · rfl
  · simp only [if_neg (Int.not_lt.mpr dated)]
    rfl

theorem update_six (d0 d1 m0 m1 y0 y1 : UInt8) :
    nmeaReaderUpdateDate platform [d0, d1, m0, m1, y0, y1] time p =
      if Passes d0 d1 ∧ Passes m0 m1 then
        ⟨Position.updateTime platform time { p with
          utcYear := str2int [y0, y1] + 2000, utcMon := str2int [m0, m1]
          utcDay := str2int [d0, d1] }, false, updateTimeRet time⟩
      else ⟨p, true, -1⟩ := by
  have day := @str2int_nonneg_iff d0 d1
  have mon := @str2int_nonneg_iff m0 m1
  have year := @str2int_low y0 y1
  have whole : ¬ [d0, d1, m0, m1, y0, y1].length ≠ 6 := by simp
  rw [nmeaReaderUpdateDate, if_neg whole]
  show (if str2int [d0, d1] < 0 ∨ str2int [m0, m1] < 0 ∨ str2int [y0, y1] + 2000 < 0 then _
    else _) = _
  by_cases passes : Passes d0 d1 ∧ Passes m0 m1
  · have first := day.mpr passes.1
    have second := mon.mpr passes.2
    rw [if_pos passes, if_neg (by omega)]
    rfl
  · rw [if_neg passes, if_pos]
    by_cases first : Passes d0 d1
    · have second : ¬ Passes m0 m1 := fun both => passes ⟨first, both⟩
      rw [← mon] at second
      omega
    · rw [← day] at first
      omega

theorem six_bytes {date : List UInt8} (six : date.length = 6) :
    ∃ d0 d1 m0 m1 y0 y1, date = [d0, d1, m0, m1, y0, y1] := by
  match date, six with
  | [d0, d1, m0, m1, y0, y1], _ => exact ⟨d0, d1, m0, m1, y0, y1, rfl⟩

/-- What slips through is not reported. -/
theorem slipsThrough_accepted {date : List UInt8} (slips : SlipsThrough date) :
    ¬ DateKept platform date time p := by
  obtain ⟨six, day, month, other⟩ := slips
  obtain ⟨d0, d1, m0, m1, y0, y1, rfl⟩ := six_bytes six
  have passes : Passes d0 d1 ∧ Passes m0 m1 := ⟨day, month⟩
  simp only [DateKept, update_six, if_neg other, if_pos passes]
  exact fun kept => absurd kept.2.1 Bool.false_ne_true

end Dates

/-- Whatever the tokens and the reader are, a date is stored from six digits only and anything else
is reported, unless six characters slip through that are not all digits. -/
theorem dateKept_iff {F : Type} (platform : Platform F) (date time : List UInt8)
    (p : Position F) : DateKept platform date time p ↔ ¬ SlipsThrough date := by
  constructor
  · exact fun kept slips => slipsThrough_accepted slips kept
  · intro whole
    by_cases six : date.length = 6
    · obtain ⟨d0, d1, m0, m1, y0, y1, rfl⟩ := six_bytes six
      simp only [DateKept, update_six]
      by_cases digits : SixDigits [d0, d1, m0, m1, y0, y1]
      · have digit : ∀ byte ∈ [d0, d1, m0, m1, y0, y1], isDigit byte := digits.2
        have y := str2int_digits (digit y0 (by simp)) (digit y1 (by simp))
        have m := str2int_digits (digit m0 (by simp)) (digit m1 (by simp))
        have d := str2int_digits (digit d0 (by simp)) (digit d1 (by simp))
        have passes : Passes d0 d1 ∧ Passes m0 m1 :=
          ⟨Or.inl ⟨digit d0 (by simp), digit d1 (by simp)⟩,
            Or.inl ⟨digit m0 (by simp), digit m1 (by simp)⟩⟩
        have low := @str2int_low y0 y1
        rw [if_pos digits, if_pos passes, updateTime_date (by simp only; omega)]
        show (str2int [y0, y1] + 2000, str2int [m0, m1], str2int [d0, d1]) = _
        rw [y, m, d, Int.add_comm]
        rfl
      · have refused : ¬ (Passes d0 d1 ∧ Passes m0 m1) :=
          fun passes => whole ⟨six, passes.1, passes.2, digits⟩
        rw [if_neg digits, if_neg refused]
        exact ⟨rfl, rfl, rfl⟩
    · have short : ¬ SixDigits date := fun digits => six digits.1
      have refused : nmeaReaderUpdateDate platform date time p = ⟨p, true, -1⟩ := if_pos six
      rw [DateKept, refused]
      simp only [if_neg short, and_self]

/-- "0112xx" is the first of December 1999. -/
theorem not_dateKept : ¬ ∀ (date time : List UInt8) (p : Position Int),
    DateKept intPlatform date time p := by
  intro all
  have none (date : List UInt8) : ¬ SlipsThrough date := fun slips =>
    slipsThrough_accepted slips (all date [] (Position.init intPlatform))
  exact none [48, 49, 49, 50, 120, 120] (by decide +kernel)

end Connectivity.Nmea
