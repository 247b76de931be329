import Connectivity.Epo.Qepo

set_option autoImplicit false

/- The start and the expiry of an EPO file in mnld_entity/src/epo.c: an hour of 24 bits that is
multiplied in 32. -/
namespace Connectivity.Epo

open Bytes

/-- What is computed from a record: the GPS seconds and the UTC seconds. -/
structure Period where
  u4GpsSecs : BitVec 32
  uSecond : Int
deriving DecidableEq

/-- The weeks and the seconds of the week of `u4GpsSecs`. -/
def periodOf (mktime : Tm → Int) (u4GpsSecs : BitVec 32) : Period :=
  ⟨u4GpsSecs,
    gpsToUtcTime mktime (u4GpsSecs.toNat / 604800 : Nat) (u4GpsSecs.toNat % 604800 : Nat)⟩

/-- The hour word of the record at an offset. -/
def hourWord (bytes : List UInt8) (offset : Nat) : BitVec 32 :=
  readWord bytes offset &&& 0x00FFFFFF

/-- The hour word of a whole record; `lseek` and `read` may fail. -/
def recordHour (file : EpoFile) (offset : Nat) : Option (BitVec 32) :=
  if file.recordError ∨ file.bytes.length < offset + oneSvSize then none
  else some (hourWord file.bytes offset)

/-- The start that is read at an offset. -/
def sysEpoPeriodStartAt (offset : Nat) (mktime : Tm → Int) (file : EpoFile) : Option Period :=
  (recordHour file offset).map fun hour => periodOf mktime (hour * 3600)

def mtkGpsSysEpoPeriodStart : (Tm → Int) → EpoFile → Option Period := sysEpoPeriodStartAt 0

/-- Skip the header of the Beidou file. -/
def mtkGpsSysEpoBdPeriodStart : (Tm → Int) → EpoFile → Option Period :=
  sysEpoPeriodStartAt oneSvSize

/-- Skip the header of the Galileo file. -/
def mtkGpsSysEpoGaPeriodStart : (Tm → Int) → EpoFile → Option Period :=
  sysEpoPeriodStartAt oneSvSize

/-- `mtk_gps_sys_get_file_size` in an `int`; -1 and 0 for its errors are both too small. -/
def sysFileSize (file : EpoFile) : Int :=
  if file.sizeError then -1 else (BitVec.ofNat 32 file.bytes.length).toInt

def mtkGpsSysEpoPeriodEnd (mktime : Tm → Int) (file : EpoFile) : Option Period :=
  let fileSize := sysFileSize file
  if fileSize < oneSvSize then none
  else
    (recordHour file (fileSize.toNat - oneSvSize)).map fun hour =>
      periodOf mktime (hour * 3600 + 21600)

/-- The hour word of the last record. -/
def lastHour (bytes : List UInt8) : BitVec 32 := hourWord bytes (bytes.length - oneSvSize)

/-- Whatever is computed for a file is the hour words in seconds; the expiry is behind the start if
the last hour is not before the first. -/
structure PeriodsExact (mktime : Tm → Int) (file : EpoFile) : Prop where
  first : ∀ period ∈ mtkGpsSysEpoPeriodStart mktime file,
    period.u4GpsSecs.toNat = 3600 * (hourWord file.bytes 0).toNat
  bd : ∀ period ∈ mtkGpsSysEpoBdPeriodStart mktime file,
    period.u4GpsSecs.toNat = 3600 * (hourWord file.bytes oneSvSize).toNat
  ga : ∀ period ∈ mtkGpsSysEpoGaPeriodStart mktime file,
    period.u4GpsSecs.toNat = 3600 * (hourWord file.bytes oneSvSize).toNat
  expiry : ∀ period ∈ mtkGpsSysEpoPeriodEnd mktime file,
    period.u4GpsSecs.toNat = 3600 * (lastHour file.bytes).toNat + 21600
  ordered : ∀ first ∈ mtkGpsSysEpoPeriodStart mktime file,
    ∀ last ∈ mtkGpsSysEpoPeriodEnd mktime file,
      hourWord file.bytes 0 ≤ lastHour file.bytes → first.u4GpsSecs < last.u4GpsSecs

/-- The hours that are read fit into 32 bits as seconds, and the size leads to the last record. -/
structure HoursFit (file : EpoFile) : Prop where
  first : ∀ hour ∈ recordHour file 0, hour.toNat ≤ 1193046
  second : ∀ hour ∈ recordHour file oneSvSize, hour.toNat ≤ 1193046
  last : oneSvSize ≤ sysFileSize file →
    ∀ hour ∈ recordHour file ((sysFileSize file).toNat - oneSvSize),
      hour = lastHour file.bytes ∧ hour.toNat ≤ 1193040

section Seconds

variable {bytes : List UInt8} {offset : Nat}

theorem hourWord_lt : (hourWord bytes offset).toNat < 16777216 := by
  have mask : (0x00FFFFFF : BitVec 32).toNat = 2 ^ 24 - 1 := rfl
  rw [hourWord, BitVec.toNat_and, mask, Nat.and_two_pow_sub_one_eq_mod]
  omega

/-- Seconds in 32 bits are those of the hour up to a bound. -/
theorem seconds_iff (hour : BitVec 32) :
    (hour * 3600).toNat = 3600 * hour.toNat ↔ hour.toNat ≤ 1193046 := by
  have factor : (3600 : BitVec 32).toNat = 3600 := rfl
  rw [BitVec.toNat_mul, factor]
  omega

/-- Two hours whose seconds differ by a multiple of 2^32 are a multiple of 2^28 apart, so hours of
24 bits are the same. -/
theorem same_hour {hour last times : Nat} (small : hour < 16777216)
    (wraps : 3600 * last + 21600 + 4294967296 * times = hour * 3600 + 21600) : hour = last := by
  have reduced : 225 * hour = 225 * last + 268435456 * times := by omega
  clear wraps
  have divides : 225 ∣ 268435456 * times :=
    (Nat.dvd_add_right (Nat.dvd_mul_right 225 last)).mp (reduced ▸ Nat.dvd_mul_right 225 hour)
  have coprime : Nat.Coprime 225 268435456 := by decide
  obtain ⟨k, rfl⟩ := coprime.dvd_of_dvd_mul_left divides
  have apart : hour = last + 268435456 * k := by omega
  omega

/-- Hours of 24 bits are told apart by their seconds, cut or not. -/
theorem expiry_iff {hour last : BitVec 32} (small : hour.toNat < 16777216) :
    (hour * 3600 + 21600).toNat = 3600 * last.toNat + 21600 ↔
      hour = last ∧ hour.toNat ≤ 1193040 := by
  have factor : (3600 : BitVec 32).toNat = 3600 := rfl
  have hours : (21600 : BitVec 32).toNat = 21600 := rfl
  have same : hour = last ↔ hour.toNat = last.toNat :=
    ⟨congrArg BitVec.toNat, BitVec.eq_of_toNat_eq⟩
  rw [same, BitVec.toNat_add, BitVec.toNat_mul, factor, hours, Nat.mod_add_mod]
  constructor
  · intro equal
    have bound := Nat.mod_lt (hour.toNat * 3600 + 21600) (by decide : 2 ^ 32 > 0)
    have wraps := Nat.mod_add_div (hour.toNat * 3600 + 21600) (2 ^ 32)
    rw [equal] at wraps bound
    have here := same_hour small wraps
    clear wraps equal
    exact ⟨here, by omega⟩
  · rintro ⟨equal, fits⟩
    rw [Nat.mod_eq_of_lt (by omega), equal, Nat.mul_comm]

theorem recordHour_some {file : EpoFile} {hour : BitVec 32}
    (read : recordHour file offset = some hour) : hour = hourWord file.bytes offset := by
  rw [recordHour] at read
  split at read
  · cases read
  · exact (Option.some.inj read).symm

end Seconds

section Files

variable {mktime : Tm → Int} {file : EpoFile}

/-- A start is exact if its hour fits, and only then. -/
theorem start_iff {offset : Nat} :
    (∀ period ∈ sysEpoPeriodStartAt offset mktime file,
        period.u4GpsSecs.toNat = 3600 * (hourWord file.bytes offset).toNat) ↔
      ∀ hour ∈ recordHour file offset, hour.toNat ≤ 1193046 := by
  rw [sysEpoPeriodStartAt]
  cases read : recordHour file offset with
  | none => simp
  | some hour =>
      rw [← recordHour_some read]
      constructor
      · intro exact_ other member
        cases member
        exact (seconds_iff hour).mp (exact_ _ rfl)
      · intro fits period member
        cases member
        exact (seconds_iff hour).mpr (fits hour rfl)

theorem expiry_exact_iff :
    (∀ period ∈ mtkGpsSysEpoPeriodEnd mktime file,
        period.u4GpsSecs.toNat = 3600 * (lastHour file.bytes).toNat + 21600) ↔
      (oneSvSize ≤ sysFileSize file →
        ∀ hour ∈ recordHour file ((sysFileSize file).toNat - oneSvSize),
          hour = lastHour file.bytes ∧ hour.toNat ≤ 1193040) := by
  rw [mtkGpsSysEpoPeriodEnd]
  by_cases small : sysFileSize file < oneSvSize
  · rw [if_pos small]
    refine iff_of_true (fun period member => by cases member) fun enough => ?_
    exact absurd small (Int.not_lt.mpr enough)
  · rw [if_neg small]
    cases read : recordHour file ((sysFileSize file).toNat - oneSvSize) with
    | none => simp
    | some hour =>
        have bound : hour.toNat < 16777216 := by
          rw [recordHour_some read]
          exact hourWord_lt
        have same := @expiry_iff hour (lastHour file.bytes) bound
        constructor
        · intro exact_ _ other member
          cases member
          exact same.mp (exact_ (periodOf mktime (hour * 3600 + 21600)) rfl)
        · intro fits period member
          have made : period = periodOf mktime (hour * 3600 + 21600) :=
            (Option.some.inj member).symm
          rw [made]
          exact same.mpr (fits (Int.not_lt.mp small) hour rfl)

end Files

/-- The computed starts and expiry of a file are the hour words in seconds exactly if the hours
fit; over files whose hours fit they grow with the hours. -/
theorem periods_exact_iff (mktime : Tm → Int) (file : EpoFile) :
    (PeriodsExact mktime file ↔ HoursFit file) ∧
      ∀ other : EpoFile, HoursFit file → HoursFit other →
        ∀ period ∈ mtkGpsSysEpoPeriodStart mktime file,
        ∀ later ∈ mtkGpsSysEpoPeriodStart mktime other,
          hourWord file.bytes 0 ≤ hourWord other.bytes 0 →
            period.u4GpsSecs ≤ later.u4GpsSecs := by
  have exact_ : HoursFit file → PeriodsExact mktime file := by
    intro fits
    have first := (@start_iff mktime file 0).mpr fits.first
    have expiry := (@expiry_exact_iff mktime file).mpr fits.last
    refine ⟨first, start_iff.mpr fits.second, start_iff.mpr fits.second, expiry, ?_⟩
    intro period begins last ends hours
    have start := first period begins
    have finish := expiry last ends
    rw [BitVec.le_def] at hours
    rw [BitVec.lt_def]
    omega
  refine ⟨⟨fun periods => ?_, exact_⟩, ?_⟩
  · exact ⟨start_iff.mp periods.first, start_iff.mp periods.bd, expiry_exact_iff.mp periods.expiry⟩
  · intro other fits otherFits period member later memberLater hours
    have start := (@start_iff mktime file 0).mpr fits.first period member
    have next := (@start_iff mktime other 0).mpr otherFits.first later memberLater
    rw [BitVec.le_def] at hours ⊢
    omega

/-- A file of one record, at the hour 1193047 in 2116. -/
theorem not_periods_exact :
    ¬ PeriodsExact (fun _ => 0)
      ⟨[0x57, 0x34, 0x12, 0] ++ List.replicate 68 0, false, false, false⟩ := by
  intro periods
  have hour : recordHour
      ⟨[0x57, 0x34, 0x12, 0] ++ List.replicate 68 0, false, false, false⟩ 0 =
        some 1193047 := by
    decide
  have bound := start_iff.mp periods.first 1193047 hour
  exact absurd bound (by decide)

end Connectivity.Epo
