import Connectivity.Calendar.Gregorian
import Mathlib.Data.Rat.Floor
import Mathlib.Tactic.IntervalCases

set_option autoImplicit false

/- `GpsToUtcTime` of mnld_entity/src/epo.c and `utc_to_gps_hour` of gps_hal/src/gpsinf3337.c.
A `double` is the rational number that it stands for: all that is done with one here is exact
for whole seconds. -/
namespace Connectivity.Epo

open Calendar

/-- The value of a `double` that is cast to `int`. -/
def truncated (value : ℚ) : Int := if 0 ≤ value then ⌊value⌋ else ⌈value⌉

/-- Number of days into the year at the start of each month (ignoring leap years). -/
def doy : List Nat := [0, 31, 59, 90, 120, 151, 181, 212, 243, 273, 304, 334]

/-- Decide year: the days elapsed in the year, and the years elapsed since 1980. In each turn
there are fewer days. -/
def decideYear : Nat → Nat → Nat → Nat × Nat
  | 0, iDaysElapsed, iYearsElapsed => (iDaysElapsed, iYearsElapsed)
  | turns + 1, iDaysElapsed, iYearsElapsed =>
      if 365 ≤ iDaysElapsed then
        if iYearsElapsed % 100 = 20 then
          if iYearsElapsed % 400 = 20 then
            if 366 ≤ iDaysElapsed then
              decideYear turns (iDaysElapsed - 366) (iYearsElapsed + 1)
            else (iDaysElapsed, iYearsElapsed)
          else decideYear turns (iDaysElapsed - 365) (iYearsElapsed + 1)
        else if iYearsElapsed % 4 = 0 then
          if 366 ≤ iDaysElapsed then
            decideYear turns (iDaysElapsed - 366) (iYearsElapsed + 1)
          else (iDaysElapsed, iYearsElapsed)
        else decideYear turns (iDaysElapsed - 365) (iYearsElapsed + 1)
      else (iDaysElapsed, iYearsElapsed)

def fgLeapYear (iYearsElapsed : Nat) : Bool :=
  if iYearsElapsed % 100 = 20 then iYearsElapsed % 400 = 20 else iYearsElapsed % 4 = 0

/-- `doy`, with the leap day in front of March and the months behind it. -/
def leapDoy (fgLeapYear : Bool) : List Nat :=
  if fgLeapYear then doy.take 2 ++ (doy.drop 2).map (· + 1) else doy

/-- What `GpsToUtcTime` computes before it asks for the seconds. -/
structure UtcTime where
  yr : Int
  mo : Int
  day : Int
  hr : Int
  min : Int
  sec : ℚ
deriving DecidableEq

def utcTime (i2Wn : Int) (dfTow : ℚ) : UtcTime :=
  let iDaysElapsed := (i2Wn * 7 + (truncated dfTow).tdiv 86400 + 5) % 2 ^ 32
  let dfSecElapsed := dfTow - ((truncated dfTow).tdiv 86400 * 86400 : Int)
  let (iDaysElapsed, iYearsElapsed) := decideYear iDaysElapsed.toNat iDaysElapsed.toNat 0
  let doy := leapDoy (fgLeapYear iYearsElapsed)
  let i := doy.findIdx fun start => iDaysElapsed < start
  { yr := 1980 + iYearsElapsed
    mo := i
    day := if 0 < i then (iDaysElapsed - doy.getD (i - 1) 0 + 1 : Nat) else 0
    hr := truncated (dfSecElapsed / 3600)
    min := ((truncated dfSecElapsed).tmod 3600).tdiv 60
    sec := dfSecElapsed - ((truncated dfSecElapsed).tdiv 60 * 60 : Int) }

/-- The members of `struct tm` that are set. -/
structure Tm where
  year : Int
  mon : Int
  mday : Int
  hour : Int
  min : Int
  sec : Int
  isdst : Int
deriving DecidableEq

def UtcTime.tm (time : UtcTime) : Tm where
  year := time.yr - 1900
  mon := time.mo - 1
  mday := time.day
  hour := time.hr
  min := time.min
  sec := truncated time.sec
  isdst := -1

def gpsToUtcTime (mktime : Tm → Int) (i2Wn : Int) (dfTow : ℚ) : Int :=
  mktime (utcTime i2Wn dfTow).tm

/-- The leap days that are counted for the years from 1980 on. -/
def leapDays : Nat → Int
  | 0 => 0
  | i + 1 =>
      if i % 100 = 20 then
        if i % 400 = 20 then leapDays i + 1 else leapDays i
      else if i % 4 = 0 then leapDays i + 1
      else leapDays i

def utcToGpsHour (iYr iMo iDay iHr : Int) : Int :=
  let iYearsElapsed := iYr - 1980
  let iLeapDays := leapDays (iYearsElapsed + 1).toNat
  let iLeapDays :=
    if iYearsElapsed.tmod 100 = 20 then
      if iYearsElapsed.tmod 400 = 20 ∧ iMo ≤ 2 then iLeapDays - 1 else iLeapDays
    else if iYearsElapsed.tmod 4 = 0 ∧ iMo ≤ 2 then iLeapDays - 1
    else iLeapDays
  let iDaysElapsed :=
    iYearsElapsed * 365 + doy.getD (iMo - 1).toNat 0 + iDay + iLeapDays - 6
  iDaysElapsed * 24 + iHr

theorem fgLeapYear_leap (years : Nat) : fgLeapYear years = leap (1980 + years) := by
  rw [Bool.eq_iff_iff, fgLeapYear, leap]
  split
  · simp only [decide_eq_true_eq]
    omega
  · simp only [decide_eq_true_eq]
    omega

/-- One turn takes a year off, if there is a whole one. -/
theorem decideYear_succ (turns days years : Nat) :
    decideYear (turns + 1) days years =
      if yearLength (fgLeapYear years) ≤ days then
        decideYear turns (days - yearLength (fgLeapYear years)) (years + 1)
      else (days, years) := by
  rw [decideYear, yearLength, fgLeapYear]
  grind

/-- The days are those in a year, behind the years before it. -/
theorem decideYear_spec {turns days : Nat} (enough : days ≤ turns) (years : Nat) :
    (decideYear turns days years).1 <
        yearLength (leap (1980 + (decideYear turns days years).2)) ∧
      yearStart 1980 (decideYear turns days years).2 + (decideYear turns days years).1 =
        yearStart 1980 years + days := by
  induction turns generalizing days years with
  | zero =>
      have none : days = 0 := by omega
      subst none
      refine ⟨?_, rfl⟩
      show 0 < yearLength (leap (1980 + years))
      unfold yearLength
      split
      · omega
      · omega
  | succ turns ih =>
      rw [decideYear_succ, fgLeapYear_leap]
      have positive : 365 ≤ yearLength (leap (1980 + years)) := by
        unfold yearLength
        split
        · omega
        · omega
      split
      · rename_i whole
        have fewer : days - yearLength (leap (1980 + years)) ≤ turns := by omega
        obtain ⟨inside, same⟩ := ih fewer (years + 1)
        refine ⟨inside, ?_⟩
        rw [same, yearStart]
        omega
      · rename_i part
        exact ⟨Nat.lt_of_not_le part, rfl⟩

theorem leapDoy_length (leap : Bool) : (leapDoy leap).length = 12 := by
  cases leap <;> rfl

theorem leapDoy_getElem (leap : Bool) {i : Nat} (inside : i < (leapDoy leap).length) :
    (leapDoy leap)[i] = monthStart leap (i + 1) := by
  have twelve : i < 12 := leapDoy_length leap ▸ inside
  cases leap with
  | false => interval_cases i <;> rfl
  | true => interval_cases i <;> rfl

/-- The month that is decided on is the one the days are in. -/
theorem decideMonth {leap : Bool} {days i : Nat} (inside : days < yearLength leap)
    (decided : (leapDoy leap).findIdx (fun start => days < start) = i) :
    0 < i ∧ i ≤ 12 ∧ (leapDoy leap).getD (i - 1) 0 = monthStart leap i ∧
      monthStart leap i ≤ days ∧ days < monthStart leap (i + 1) := by
  have length := leapDoy_length leap
  have atMost : i ≤ 12 := by
    rw [← decided, ← length]
    exact List.findIdx_le_length
  -- the month that is found begins later, if there is one
  have upper : days < monthStart leap (i + 1) := by
    by_cases last : i = 12
    · rw [last, monthStart_year]
      exact inside
    · have within : i < (leapDoy leap).length := by omega
      have found := List.findIdx_getElem (w := decided ▸ within)
      rw [decide_eq_true_eq, leapDoy_getElem, decided] at found
      exact found
  have positive : 0 < i := by
    apply Nat.pos_of_ne_zero
    intro zero
    rw [zero] at upper
    exact absurd upper (Nat.not_lt_zero days)
  have before : i - 1 < (leapDoy leap).length := by omega
  have month : i - 1 + 1 = i := Nat.sub_add_cancel positive
  have start : (leapDoy leap)[i - 1] = monthStart leap i := by
    rw [leapDoy_getElem, month]
  have lower : monthStart leap i ≤ days := by
    have earlier : i - 1 < (leapDoy leap).findIdx (fun start => days < start) := by omega
    have passed := List.not_of_lt_findIdx earlier
    rw [decide_eq_false_iff_not, start] at passed
    exact Nat.le_of_not_lt passed
  exact ⟨positive, atMost, by
    rw [List.getD_eq_getElem?_getD, List.getElem?_eq_getElem before, Option.getD_some, start],
        lower, upper⟩

theorem epoch_month : 1 ≤ 1 ∧ 1 ≤ 12 := by decide

theorem epoch_day : 1 ≤ 6 ∧ 6 ≤ monthLength (leap 1980) 1 := by decide

/-- The day that the GPS time begins with. -/
def epoch : Date := ⟨1980, 1, 6, epoch_month, epoch_day⟩

theorem truncated_natCast (n : Nat) : truncated n = n := by
  rw [truncated, if_pos (Nat.cast_nonneg n), Int.floor_natCast]

theorem truncated_div (n d : Nat) : truncated ((n : ℚ) / d) = (n / d : Nat) := by
  have positive : (0 : ℚ) ≤ (n : ℚ) / d := by positivity
  rw [truncated, if_pos positive, Rat.floor_natCast_div_natCast]
  rfl

/-- What is left of whole seconds when whole parts of `d` seconds are taken off. -/
theorem truncated_rest (n d : Nat) :
    (n : ℚ) - ((truncated n).tdiv d * d : Int) = (n % d : Nat) := by
  have parts : (n : ℚ) = d * (n / d : Nat) + (n % d : Nat) := by
    exact_mod_cast (Nat.div_add_mod n d).symm
  rw [truncated_natCast, show (n : Int).tdiv d = (n / d : Nat) from rfl, Int.cast_mul,
    Int.cast_natCast, Int.cast_natCast, parts]
  ring

/-- The year and the month that are decided on make a date with the number of the days. -/
theorem decided_date {days rest years i : Nat} (year : decideYear days days 0 = (rest, years))
    (month : (leapDoy (fgLeapYear years)).findIdx (fun start => rest < start) = i) :
    0 < i ∧ ∃ date : Date, date.number 1980 = days ∧ date.year = 1980 + years ∧
      date.month = i ∧ date.day = rest - (leapDoy (fgLeapYear years)).getD (i - 1) 0 + 1 := by
  obtain ⟨inside, same⟩ := decideYear_spec (Nat.le_refl days) 0
  rw [year] at inside same
  dsimp only at inside same
  rw [fgLeapYear_leap] at month ⊢
  obtain ⟨positive, atMost, start, lower, upper⟩ := decideMonth inside month
  have valid : rest - monthStart (leap (1980 + years)) i + 1 ≤
      monthLength (leap (1980 + years)) i := by
    rw [monthStart_succ _ positive] at upper
    omega
  refine ⟨positive, ⟨1980 + years, i, rest - monthStart (leap (1980 + years)) i + 1,
    ⟨positive, atMost⟩, ⟨Nat.le_add_left 1 _, valid⟩⟩, ?_, rfl, rfl, ?_⟩
  · simp only [Date.number, Nat.add_sub_cancel_left, Nat.add_sub_cancel]
    simp only [yearStart] at same
    omega
  · rw [start]

/-- The time for a week and a whole second of it, from the number of the day. -/
theorem utcTime_day (week tow : Nat) (small : week * 7 + tow / 86400 + 5 < 2 ^ 32) :
    ∃ date : Date, date.number 1980 = week * 7 + tow / 86400 + 5 ∧ 1980 ≤ date.year ∧
      utcTime week tow =
        ⟨date.year, date.month, date.day, (tow % 86400 / 3600 : Nat),
          (tow % 86400 % 3600 / 60 : Nat), (tow % 86400 % 60 : Nat)⟩ := by
  generalize decided : decideYear (week * 7 + tow / 86400 + 5) (week * 7 + tow / 86400 + 5) 0 =
    rest
  generalize found : (leapDoy (fgLeapYear rest.2)).findIdx (fun start => rest.1 < start) = i
  obtain ⟨positive, date, number, year, month, day⟩ := decided_date decided found
  refine ⟨date, number, by omega, ?_⟩
  have elapsed : ((week : Int) * 7 + (truncated (tow : ℚ)).tdiv 86400 + 5) % 2 ^ 32 =
      (week * 7 + tow / 86400 + 5 : Nat) := by
    rw [truncated_natCast, Int.tdiv_eq_ediv_of_nonneg (Int.natCast_nonneg tow)]
    omega
  have seconds : (tow : ℚ) - ((truncated (tow : ℚ)).tdiv 86400 * 86400 : Int) =
      (tow % 86400 : Nat) := truncated_rest tow 86400
  have hour := truncated_div (tow % 86400) 3600
  have sec := truncated_rest (tow % 86400) 60
  have minute : ((truncated ((tow % 86400 : Nat) : ℚ)).tmod 3600).tdiv 60 =
      (tow % 86400 % 3600 / 60 : Nat) := by
    rw [truncated_natCast]
    rfl
  simp only [utcTime, elapsed, Int.toNat_natCast, decided, found, seconds, minute,
    UtcTime.mk.injEq, year, month, if_pos positive, day]
  refine ⟨?_, trivial, trivial, hour, trivial, sec⟩
  push_cast
  rfl

theorem leapDays_succ (years : Nat) :
    leapDays (years + 1) = leapDays years + if leap (1980 + years) then 1 else 0 := by
  rw [leapDays, ← fgLeapYear_leap, fgLeapYear]
  grind

theorem yearStart_leapDays (years : Nat) :
    (yearStart 1980 years : Int) = 365 * years + leapDays years := by
  induction years with
  | zero => rfl
  | succ years ih =>
      rw [yearStart, leapDays_succ, yearLength]
      split
      · omega
      · omega

theorem monthStart_doy (leap : Bool) {month : Nat} (valid : 1 ≤ month ∧ month ≤ 12) :
    monthStart leap month = doy.getD (month - 1) 0 + if leap ∧ 2 < month then 1 else 0 := by
  obtain ⟨positive, atMost⟩ := valid
  cases leap with
  | false => interval_cases month <;> rfl
  | true => interval_cases month <;> rfl

/-- The leap day of the year itself is taken back in January and February. -/
theorem leapDays_month (years : Nat) (month : Int) :
    (if (years : Int).tmod 100 = 20 then
      if (years : Int).tmod 400 = 20 ∧ month ≤ 2 then leapDays (years + 1) - 1
      else leapDays (years + 1)
    else if (years : Int).tmod 4 = 0 ∧ month ≤ 2 then leapDays (years + 1) - 1
    else leapDays (years + 1)) =
      leapDays years + if leap (1980 + years) ∧ 2 < month then 1 else 0 := by
  have hundred : (years : Int).tmod 100 = (years % 100 : Nat) := rfl
  have fourHundred : (years : Int).tmod 400 = (years % 400 : Nat) := rfl
  have four : (years : Int).tmod 4 = (years % 4 : Nat) := rfl
  rw [leapDays_succ, ← fgLeapYear_leap, fgLeapYear, hundred, fourHundred, four]
  grind

/-- The hours of a date count from the day of the epoch. -/
theorem utcToGpsHour_date {date : Date} (later : 1980 ≤ date.year) (hour : Nat) :
    utcToGpsHour date.year date.month date.day hour =
      ((date.number 1980 : Int) - 5) * 24 + hour := by
  obtain ⟨years, year⟩ := Nat.exists_eq_add_of_le later
  have day := date.day_valid
  have elapsed : (date.year : Int) - 1980 = years := by omega
  have count : ((years : Int) + 1).toNat = years + 1 := by omega
  have index : ((date.month : Int) - 1).toNat = date.month - 1 := by omega
  have inYears : date.year - 1980 = years := by omega
  have start := monthStart_doy (leap date.year) date.month_valid
  have before := yearStart_leapDays years
  have thirdMonth : (2 < (date.month : Int)) = (2 < date.month) := by
    rw [eq_iff_iff]
    omega
  simp only [utcToGpsHour, elapsed, count, index, leapDays_month, Date.number, inYears, start,
    ← year, thirdMonth]
  split
  · push_cast
    omega
  · push_cast
    omega

/-- The moment that lies a number of hours behind the epoch. -/
theorem epoch_hour : 0 < 24 := by decide

def gpsMoment (hours : Nat) : Moment := Moment.nextHour^[hours] ⟨epoch, 0, epoch_hour⟩

/-- For every hour count of 24 bits, the time that is computed for its week and second is the
moment so many hours behind the epoch, and the hour count of this moment is the same again. -/
theorem gps_calendar (h : BitVec 24) :
    utcTime (h.toNat * 3600 / 604800 : Nat) (h.toNat * 3600 % 604800 : Nat) =
        ⟨(gpsMoment h.toNat).date.year, (gpsMoment h.toNat).date.month,
          (gpsMoment h.toNat).date.day, (gpsMoment h.toNat).hour, 0, 0⟩ ∧
      utcToGpsHour (gpsMoment h.toNat).date.year (gpsMoment h.toNat).date.month
        (gpsMoment h.toNat).date.day (gpsMoment h.toNat).hour = h.toNat := by
  have small := h.isLt
  have days : h.toNat * 3600 / 604800 * 7 + h.toNat * 3600 % 604800 / 86400 = h.toNat / 24 := by
    omega
  have hour : h.toNat * 3600 % 604800 % 86400 / 3600 = h.toNat % 24 := by omega
  have minute : h.toNat * 3600 % 604800 % 86400 % 3600 / 60 = 0 := by omega
  have sec : h.toNat * 3600 % 604800 % 86400 % 60 = 0 := by omega
  obtain ⟨later, number⟩ := Date.iterate_nextDay (d := epoch) (Nat.le_refl 1980) (h.toNat / 24)
  have moment : gpsMoment h.toNat =
      ⟨Date.nextDay^[h.toNat / 24] epoch, h.toNat % 24, Nat.mod_lt _ (by decide)⟩ :=
    Moment.iterate_nextHour epoch h.toNat
  obtain ⟨date, same, year, time⟩ := utcTime_day (h.toNat * 3600 / 604800)
    (h.toNat * 3600 % 604800) (by omega)
  have start : epoch.number 1980 = 5 := by decide
  have day : date = Date.nextDay^[h.toNat / 24] epoch := by
    apply Date.number_injective year later
    omega
  rw [moment]
  constructor
  · rw [time, day, hour, minute, sec]
    rfl
  · rw [utcToGpsHour_date later, number, start]
    push_cast
    omega

end Connectivity.Epo
