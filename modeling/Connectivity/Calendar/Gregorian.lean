import Mathlib.Logic.Function.Iterate
import Mathlib.Order.Monotone.Basic

set_option autoImplicit false

/- The proleptic Gregorian calendar, by its rule for the next day, and the number of a day. -/
namespace Connectivity.Calendar

def leap (year : Nat) : Bool := year % 4 = 0 ∧ (year % 100 = 0 → year % 400 = 0)

def monthLength (leap : Bool) (month : Nat) : Nat :=
  if month = 2 then if leap then 29 else 28
  else if month = 4 ∨ month = 6 ∨ month = 9 ∨ month = 11 then 30
  else 31

def yearLength (leap : Bool) : Nat := if leap then 366 else 365

/-- The days of a year in front of a month. -/
def monthStart (leap : Bool) : Nat → Nat
  | 0 => 0
  | 1 => 0
  | month + 2 => monthStart leap (month + 1) + monthLength leap (month + 1)

/-- The days from the beginning of the year `base` to that of the year `elapsed` later. -/
def yearStart (base : Nat) : Nat → Nat
  | 0 => 0
  | elapsed + 1 => yearStart base elapsed + yearLength (leap (base + elapsed))

@[ext]
structure Date where
  year : Nat
  month : Nat
  day : Nat
  month_valid : 1 ≤ month ∧ month ≤ 12
  day_valid : 1 ≤ day ∧ day ≤ monthLength (leap year) month
deriving DecidableEq

theorem monthLength_bounds (leap : Bool) (month : Nat) :
    28 ≤ monthLength leap month ∧ monthLength leap month ≤ 31 := by
  unfold monthLength
  split
  · split
    · omega
    · omega
  · split
    · omega
    · omega

namespace Date

def nextDay (d : Date) : Date :=
  if more : d.day < monthLength (leap d.year) d.month then
    { d with
      day := d.day + 1
      day_valid := ⟨Nat.le_add_left 1 d.day, more⟩ }
  else if within : d.month < 12 then
    { year := d.year
      month := d.month + 1
      day := 1
      month_valid := ⟨Nat.le_add_left 1 d.month, within⟩
      day_valid := ⟨Nat.le_refl 1, Nat.le_trans (by decide) (monthLength_bounds ..).1⟩ }
  else
    { year := d.year + 1
      month := 1
      day := 1
      month_valid := by decide
      day_valid := ⟨Nat.le_refl 1, Nat.le_trans (by decide) (monthLength_bounds ..).1⟩ }

/-- The days from the beginning of the year `base`. -/
def number (base : Nat) (d : Date) : Nat :=
  yearStart base (d.year - base) + (monthStart (leap d.year) d.month + (d.day - 1))

end Date

theorem monthStart_succ (leap : Bool) {month : Nat} (positive : 1 ≤ month) :
    monthStart leap (month + 1) = monthStart leap month + monthLength leap month := by
  cases month with
  | zero => omega
  | succ month => rfl

theorem monthStart_year (leap : Bool) : monthStart leap 13 = yearLength leap := by
  cases leap <;> rfl

theorem monthStart_monotone (leap : Bool) : Monotone (monthStart leap) := by
  apply monotone_nat_of_le_succ
  intro month
  cases month with
  | zero => exact Nat.le_refl _
  | succ month => exact Nat.le_add_right _ _

theorem yearStart_monotone (base : Nat) : Monotone (yearStart base) := by
  apply monotone_nat_of_le_succ
  intro elapsed
  exact Nat.le_add_right _ _

/-- A number lies between one start and the next only once. -/
theorem start_unique {start : Nat → Nat} (monotone : Monotone start) {first second number : Nat}
    (inside : start first ≤ number ∧ number < start (first + 1))
    (inside' : start second ≤ number ∧ number < start (second + 1)) : first = second := by
  by_contra different
  rcases Nat.lt_or_gt_of_ne different with less | less
  · have apart : start (first + 1) ≤ start second := monotone less
    omega
  · have apart : start (second + 1) ≤ start first := monotone less
    omega

namespace Date

theorem in_month (d : Date) :
    monthStart (leap d.year) d.month ≤ monthStart (leap d.year) d.month + (d.day - 1) ∧
      monthStart (leap d.year) d.month + (d.day - 1) <
        monthStart (leap d.year) (d.month + 1) := by
  have month := d.month_valid
  have day := d.day_valid
  rw [monthStart_succ _ month.1]
  omega

theorem in_year (d : Date) :
    monthStart (leap d.year) d.month + (d.day - 1) < yearLength (leap d.year) := by
  have month := d.month_valid
  have inside := d.in_month
  have later : d.month + 1 ≤ 13 := Nat.succ_le_succ month.2
  have whole := monthStart_monotone (leap d.year) later
  rw [monthStart_year] at whole
  omega

theorem number_inside {base : Nat} {d : Date} (later : base ≤ d.year) :
    yearStart base (d.year - base) ≤ d.number base ∧
      d.number base < yearStart base (d.year - base + 1) := by
  have inside := d.in_year
  rw [yearStart, Nat.add_sub_cancel' later, number]
  omega

/-- Two dates of one number are the same. -/
theorem number_injective {base : Nat} {first second : Date} (later : base ≤ first.year)
    (later' : base ≤ second.year) (same : first.number base = second.number base) :
    first = second := by
  have elapsed : first.year - base = second.year - base := by
    apply start_unique (yearStart_monotone base) (number_inside later)
    rw [same]
    exact number_inside later'
  have year : first.year = second.year := by omega
  rw [number, number, elapsed, year] at same
  have within := first.in_month
  have within' := second.in_month
  rw [year] at within
  have month : first.month = second.month := by
    apply start_unique (monthStart_monotone (leap second.year)) within
    rw [Nat.add_left_cancel same]
    exact within'
  have day := first.day_valid
  have day' := second.day_valid
  rw [month] at same
  exact Date.ext year month (by omega)

theorem nextDay_year (d : Date) : d.year ≤ d.nextDay.year := by
  unfold nextDay
  split
  · exact Nat.le_refl _
  · split
    · exact Nat.le_refl _
    · exact Nat.le_succ _

/-- The next day has the next number. -/
theorem nextDay_number {base : Nat} {d : Date} (later : base ≤ d.year) :
    d.nextDay.number base = d.number base + 1 := by
  have month := d.month_valid
  have day := d.day_valid
  unfold nextDay
  split
  · simp only [number]
    omega
  · have last : d.day = monthLength (leap d.year) d.month := by omega
    split
    · simp only [number, monthStart_succ _ month.1]
      omega
    · have december : d.month = 12 := by omega
      have whole := monthStart_year (leap d.year)
      rw [monthStart_succ _ (by decide)] at whole
      rw [december] at last
      have years : d.year + 1 - base = d.year - base + 1 := by omega
      simp only [number, december, years, yearStart, Nat.add_sub_cancel' later]
      show yearStart base (d.year - base) + yearLength (leap d.year) + (0 + 0) = _
      omega

theorem iterate_nextDay {base : Nat} {d : Date} (later : base ≤ d.year) (days : Nat) :
    base ≤ (nextDay^[days] d).year ∧
      (nextDay^[days] d).number base = d.number base + days := by
  induction days with
  | zero => exact ⟨later, rfl⟩
  | succ days ih =>
      rw [Function.iterate_succ_apply']
      obtain ⟨year, number⟩ := ih
      refine ⟨Nat.le_trans year (nextDay_year _), ?_⟩
      rw [nextDay_number year, number]
      omega

end Date

/-- A date and an hour of it. -/
@[ext]
structure Moment where
  date : Date
  hour : Nat
  hour_valid : hour < 24
deriving DecidableEq

def Moment.nextHour (m : Moment) : Moment :=
  if within : m.hour + 1 < 24 then
    { m with
      hour := m.hour + 1
      hour_valid := within }
  else
    { date := m.date.nextDay
      hour := 0
      hour_valid := by decide }

theorem Moment.iterate_nextHour (date : Date) (hours : Nat) :
    nextHour^[hours] ⟨date, 0, by decide⟩ =
      ⟨Date.nextDay^[hours / 24] date, hours % 24, Nat.mod_lt _ (by decide)⟩ := by
  induction hours with
  | zero => rfl
  | succ hours ih =>
      rw [Function.iterate_succ_apply', ih, nextHour]
      split
      · rename_i within
        have day : (hours + 1) / 24 = hours / 24 := by
          simp only at within
          omega
        have hour : (hours + 1) % 24 = hours % 24 + 1 := by
          simp only at within
          omega
        simp only [day, hour]
      · rename_i past
        have day : (hours + 1) / 24 = hours / 24 + 1 := by
          simp only at past
          omega
        have hour : (hours + 1) % 24 = 0 := by
          simp only at past
          omega
        simp only [day, hour, Function.iterate_succ_apply']

end Connectivity.Calendar
