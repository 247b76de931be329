import Connectivity.Epo.Qepo
import Connectivity.Transition.Run

set_option autoImplicit false

/- How many downloads end with an invalid file for the requests of one hour. -/
namespace Connectivity.Epo

open Transition

def GpsTime.hour (time : GpsTime) : Int := (time.wn * 604800 + time.tow) / 3600

section

variable (mktime : Tm → Int) (copy : QepoCopy)

/-- The hour that the code reckons with. -/
def GpsTime.clockHour (time : GpsTime) : Int := (time.utc mktime).tdiv secondsPerHour

def SameHour (first second : GpsTime) : Prop :=
  first.hour = second.hour ∧ first.clockHour mktime = second.clockHour mktime

/-- A run of requests: the time that was read last, and of all downloads that ended with an
invalid file the hours of their requests. -/
structure Throttle where
  qepo : Qepo
  last : Option GpsTime
  invalid : List Int

def Throttle.start : Throttle := ⟨.init, none, []⟩

def Throttle.next (s : Throttle) (r : QepoRequest) : Throttle :=
  let handled := mnldQepoDownload mktime copy s.qepo r
  { qepo := handled.2
    last := some (if s.qepo.performs mktime copy r ∧ r.file.isSome then r.checkTime else r.time)
    invalid :=
      if s.qepo.performs mktime copy r ∧ handled.1 = .fail then r.time.hour :: s.invalid
      else s.invalid }

def Throttle.step (s : Throttle) (r : QepoRequest) : Option Throttle := some (s.next mktime copy r)

/-- In no hour there are more downloads with an invalid file than are allowed. -/
def Throttle.Held (s : Throttle) : Prop :=
  ∀ hour, s.invalid.count hour ≤ copy.dlRetryTime

/-- A header that promises a file of this size, behind which no record can be read. -/
def Recordless (file : EpoFile) : Prop :=
  ∃ first second, qepoGetHeader file = some (first, second) ∧
    qepoHasEpo copy first = true ∧
    sizeCorrect (epoGetFileSize file) (epoBitCnt second) = true ∧
    (file.recordError ∨ file.bytes.length < oneSvSize + oneSvSize)

/-- What keeps the count of the invalid downloads of an hour. -/
structure Counted (s : Throttle) (r : QepoRequest) : Prop where
  /-- An hour that has had an invalid download has not been left since. -/
  together : 0 < s.invalid.count r.time.hour →
    ∃ last, s.last = some last ∧ SameHour mktime last r.time
  /-- A first file that cannot be opened follows one of the same hour that could. -/
  opened : s.qepo.performs mktime copy r → r.file = none →
    (s.qepo.hourly mktime r.time).invalidDlCnt = 0 →
    s.qepo.latestDlTime.tdiv secondsPerHour = r.time.clockHour mktime
  /-- The file is checked in the hour of the request, or in one without invalid downloads. -/
  checked : s.qepo.performs mktime copy r → r.file.isSome →
    SameHour mktime r.time r.checkTime ∨
      (r.checkTime.hour ≠ r.time.hour ∧ s.invalid.count r.checkTime.hour = 0)
  /-- Behind a good header there is a record. -/
  recorded : s.qepo.performs mktime copy r → ∀ file, r.file = some file → ¬ Recordless copy file

/-- `g_qbd_latest_dl_time_utc_s` behind a download. -/
def QepoRequest.latest (s : Qepo) (r : QepoRequest) : Int :=
  match r.file with
  | none => s.latestDlTime
  | some _ => r.checkTime.utc mktime

end

section Validity

variable (mktime : Tm → Int) (copy : QepoCopy) (s : Qepo) (r : QepoRequest)

/-- The check of a file changes the latest time and the flags only. -/
theorem isQuarterEpoValid_keeps :
    (isQuarterEpoValid mktime copy s r).2.latestDlTime = r.latest mktime s ∧
      (isQuarterEpoValid mktime copy s r).2.firstInvalidDlTime = s.firstInvalidDlTime ∧
      (isQuarterEpoValid mktime copy s r).2.invalidDlCnt = s.invalidDlCnt := by
  cases found : r.file with
  | none => simp only [isQuarterEpoValid, QepoRequest.latest, found, and_self]
  | some file =>
      simp only [isQuarterEpoValid, QepoRequest.latest, found]
      split
      · exact ⟨rfl, rfl, rfl⟩
      · split
        · exact ⟨rfl, rfl, rfl⟩
        · exact ⟨rfl, rfl, rfl⟩

/-- A file is valid exactly if no flag says otherwise, but for one without a record. -/
theorem isQuarterEpoValid_flags
    (recorded : ∀ file, r.file = some file → ¬ Recordless copy file) :
    (isQuarterEpoValid mktime copy s r).1 =
      if isQuarterEpoOnServerValid (isQuarterEpoValid mktime copy s r).2 = false ∨
        (isQuarterEpoValid mktime copy s r).2.fileSizeCorrect = false then .fail
      else .success := by
  cases found : r.file with
  | none => simp only [isQuarterEpoValid, found, or_true, if_true]
  | some file =>
      cases header : qepoGetHeader file with
      | none => simp only [isQuarterEpoValid, found, header, or_true, if_true]
      | some words =>
          obtain ⟨first, second⟩ := words
          cases start : epoPeriodStart mktime file with
          | none =>
              have none : file.recordError ∨ file.bytes.length < oneSvSize + oneSvSize := by
                by_contra present
                rw [epoPeriodStart, if_neg present] at start
                cases start
              have flag : ¬ (qepoHasEpo copy first = true ∧
                  sizeCorrect (epoGetFileSize file) (epoBitCnt second) = true) := by
                intro good
                exact recorded file found ⟨first, second, header, good.1, good.2, none⟩
              simp only [isQuarterEpoValid, found, header, start, isQuarterEpoOnServerValid]
              grind
          | some startTime =>
              simp only [isQuarterEpoValid, found, header, start, isQuarterEpoOnServerValid]
              grind

/-- A download with an invalid file is counted, and the first one leaves its time. -/
theorem qepoFileUpdateImpl_spec
    (recorded : ∀ file, r.file = some file → ¬ Recordless copy file) :
    (qepoFileUpdateImpl mktime copy s r).2.latestDlTime = r.latest mktime s ∧
      (((qepoFileUpdateImpl mktime copy s r).1 = .success ∧
          (qepoFileUpdateImpl mktime copy s r).2.invalidDlCnt = s.invalidDlCnt ∧
          (qepoFileUpdateImpl mktime copy s r).2.firstInvalidDlTime = s.firstInvalidDlTime) ∨
        ((qepoFileUpdateImpl mktime copy s r).1 = .fail ∧
          (qepoFileUpdateImpl mktime copy s r).2.invalidDlCnt = s.invalidDlCnt + 1 ∧
          (qepoFileUpdateImpl mktime copy s r).2.firstInvalidDlTime =
            if s.invalidDlCnt = 0 then r.latest mktime s else s.firstInvalidDlTime)) := by
  obtain ⟨latest, first, count⟩ := isQuarterEpoValid_keeps mktime copy s r
  have flags := isQuarterEpoValid_flags mktime copy s r recorded
  rw [qepoFileUpdateImpl]
  dsimp only
  split
  · rename_i invalid
    rw [if_pos invalid] at flags
    rw [count]
    split
    · exact ⟨latest, .inr ⟨flags, rfl, latest⟩⟩
    · exact ⟨latest, .inr ⟨flags, congrArg Nat.succ count, first⟩⟩
  · rename_i valid
    rw [if_neg valid] at flags
    exact ⟨latest, .inl ⟨flags, count, first⟩⟩

end Validity

section Runs

variable {mktime : Tm → Int} {copy : QepoCopy}

/-- The counter reckons with all invalid downloads of the hour of a time. -/
def Throttle.Reckons (mktime : Tm → Int) (s : Throttle) (time : GpsTime) : Prop :=
  s.invalid.count time.hour ≤ s.qepo.invalidDlCnt ∧
    (0 < s.invalid.count time.hour →
      s.qepo.firstInvalidDlTime.tdiv secondsPerHour = time.clockHour mktime)

structure Throttle.Inv (mktime : Tm → Int) (copy : QepoCopy) (s : Throttle) : Prop where
  held : s.Held copy
  reckons : ∀ last, s.last = some last → s.Reckons mktime last

theorem Throttle.Reckons.same {s : Throttle} {time time' : GpsTime}
    (reckons : s.Reckons mktime time) (same : SameHour mktime time time') :
    s.Reckons mktime time' := by
  obtain ⟨hour, clock⟩ := same
  rw [Reckons, ← hour, ← clock]
  exact reckons

theorem reckons_of_none {s : Throttle} {time : GpsTime}
    (none : s.invalid.count time.hour = 0) : s.Reckons mktime time := by
  refine ⟨?_, fun some => absurd none (Nat.ne_of_gt some)⟩
  rw [none]
  exact Nat.zero_le _

theorem hourly_first (mktime : Tm → Int) (s : Qepo) (time : GpsTime) :
    (s.hourly mktime time).firstInvalidDlTime = s.firstInvalidDlTime ∧
      (s.hourly mktime time).latestDlTime = s.latestDlTime := by
  rw [Qepo.hourly]
  split
  · exact ⟨rfl, rfl⟩
  · exact ⟨rfl, rfl⟩

/-- A counter that is not zero reckons with the hour. -/
theorem hourly_counting {s : Qepo} {time : GpsTime}
    (counting : (s.hourly mktime time).invalidDlCnt ≠ 0) :
    s.firstInvalidDlTime.tdiv secondsPerHour = time.clockHour mktime := by
  rw [Qepo.hourly] at counting
  split at counting
  · exact absurd rfl counting
  · rename_i same
    rw [GpsTime.clockHour]
    omega

/-- The hourly reset does not make the counter forget an invalid download of the hour. -/
theorem reckons_hourly {s : Throttle} {time : GpsTime} (inv : s.Inv mktime copy)
    (together : 0 < s.invalid.count time.hour →
      ∃ last, s.last = some last ∧ SameHour mktime last time) :
    ({ s with qepo := s.qepo.hourly mktime time } : Throttle).Reckons mktime time := by
  by_cases some : 0 < s.invalid.count time.hour
  · obtain ⟨last, read, hour, clock⟩ := together some
    obtain ⟨count, first⟩ := inv.reckons last read
    rw [hour] at count first
    have same := first some
    rw [clock] at same
    have kept : s.qepo.hourly mktime time = s.qepo := by
      rw [Qepo.hourly, if_neg]
      rw [GpsTime.clockHour] at same
      omega
    rw [kept]
    exact ⟨count, fun _ => same⟩
  · exact reckons_of_none (Nat.eq_zero_of_not_pos some)

/-- The time of the first invalid download lies in the hour of the request, in which the
file has been checked, if it could be opened. -/
theorem first_after {s : Throttle} {r : QepoRequest} (condition : Counted mktime copy s r)
    (performs : s.qepo.performs mktime copy r)
    (checked : r.file.isSome → SameHour mktime r.time r.checkTime) :
    (if (s.qepo.hourly mktime r.time).invalidDlCnt = 0 then
        r.latest mktime (s.qepo.hourly mktime r.time)
      else (s.qepo.hourly mktime r.time).firstInvalidDlTime).tdiv secondsPerHour =
      r.time.clockHour mktime := by
  obtain ⟨first, latest⟩ := hourly_first mktime s.qepo r.time
  split
  · rename_i zero
    cases found : r.file with
    | none =>
        simp only [QepoRequest.latest, found, latest]
        exact condition.opened performs found zero
    | some file =>
        simp only [QepoRequest.latest, found]
        exact (checked (by rw [found]; rfl)).2.symm
  · rename_i counting
    rw [first]
    exact hourly_counting counting

/-- Where a download ends, there is the hour of its request, or one without any invalid
download. -/
theorem reckons_last {s t : Throttle} {r : QepoRequest} (condition : Counted mktime copy s r)
    (performs : s.qepo.performs mktime copy r)
    (here : (r.file.isSome → SameHour mktime r.time r.checkTime) → t.Reckons mktime r.time)
    (same : ∀ hour ≠ r.time.hour, t.invalid.count hour = s.invalid.count hour) :
    t.Reckons mktime (if r.file.isSome then r.checkTime else r.time) := by
  split
  · rename_i opened
    rcases condition.checked performs opened with checked | ⟨other, none⟩
    · exact (here fun _ => checked).same checked
    · exact reckons_of_none ((same _ other).trans none)
  · rename_i missing
    exact here fun opened => absurd opened missing

theorem next_of_performs {s : Throttle} {r : QepoRequest}
    (performs : s.qepo.performs mktime copy r) :
    s.next mktime copy r =
      { qepo := (qepoFileUpdateImpl mktime copy (s.qepo.hourly mktime r.time) r).2
        last := some (if r.file.isSome then r.checkTime else r.time)
        invalid :=
          if (qepoFileUpdateImpl mktime copy (s.qepo.hourly mktime r.time) r).1 = .fail then
            r.time.hour :: s.invalid
          else s.invalid } := by
  simp only [Throttle.next, mnldQepoDownload, performs, if_true, true_and]

theorem next_of_refuses {s : Throttle} {r : QepoRequest}
    (refuses : ¬ s.qepo.performs mktime copy r) :
    s.next mktime copy r =
      { s with qepo := s.qepo.hourly mktime r.time, last := r.time } := by
  simp only [Throttle.next, mnldQepoDownload, refuses, false_and, if_false]

theorem throttle_kept {s t : Throttle} {r : QepoRequest} (inv : s.Inv mktime copy)
    (condition : Counted mktime copy s r) (taken : s.step mktime copy r = some t) :
    t.Inv mktime copy := by
  cases taken
  have reckons := reckons_hourly inv condition.together
  by_cases performs : s.qepo.performs mktime copy r
  · rw [next_of_performs performs]
    obtain ⟨_, result⟩ := qepoFileUpdateImpl_spec mktime copy (s.qepo.hourly mktime r.time) r
      (condition.recorded performs)
    rcases result with ⟨success, count, first⟩ | ⟨fail, count, first⟩
    · have valid : (qepoFileUpdateImpl mktime copy (s.qepo.hourly mktime r.time) r).1 ≠ .fail := by
        rw [success]
        decide
      rw [if_neg valid]
      refine ⟨inv.held, ?_⟩
      intro last read
      cases read
      apply reckons_last condition performs
      · intro _
        rw [Throttle.Reckons, count, first]
        exact reckons
      · intro _ _
        rfl
    · rw [if_pos fail]
      have counted : s.invalid.count r.time.hour ≤
          (s.qepo.hourly mktime r.time).invalidDlCnt := reckons.1
      have allowed : (s.qepo.hourly mktime r.time).invalidDlCnt < copy.dlRetryTime := performs
      refine ⟨?_, ?_⟩
      · intro hour
        by_cases own : r.time.hour = hour
        · subst own
          rw [List.count_cons_self]
          omega
        · rw [List.count_cons_of_ne own]
          exact inv.held hour
      · intro last read
        cases read
        apply reckons_last condition performs
        · intro checked
          rw [Throttle.Reckons, List.count_cons_self, count, first]
          exact ⟨Nat.succ_le_succ counted, fun _ => first_after condition performs checked⟩
        · intro hour other
          exact List.count_cons_of_ne other.symm
  · rw [next_of_refuses performs]
    refine ⟨inv.held, ?_⟩
    intro last read
    cases read
    exact reckons

end Runs

/-- `mktime` where the local time is UTC. -/
def mktimeUtc (tm : Tm) : Int :=
  let year := (tm.year + 1900).toNat
  let days := Calendar.yearStart 1970 (year - 1970) +
    Calendar.monthStart (Calendar.leap year) (tm.mon + 1).toNat
  ((days + tm.mday - 1) * 24 + tm.hour) * 3600 + tm.min * 60 + tm.sec

/-- Whatever the times of the requests and the files that are found: as long as no invalid
download of an hour falls out of the count, there are at most three of them in each hour. -/
theorem invalid_downloads_bounded (mktime : Tm → Int) (copy : QepoCopy)
    {requests : List QepoRequest}
    (counted : StepsMeet (Throttle.step mktime copy) (Counted mktime copy) .start requests) :
    AllStates (Throttle.step mktime copy) (Throttle.Held copy) .start requests := by
  have start : Throttle.start.Inv mktime copy := by
    refine ⟨fun hour => Nat.zero_le _, ?_⟩
    intro last read
    cases read
  have invariant : AllStates (Throttle.step mktime copy) (Throttle.Inv mktime copy) .start
      requests := by
    apply allStates_of_stepsMeet _ start counted
    intro s r t inv condition taken
    exact throttle_kept inv condition taken
  exact invariant.imp fun _ inv => inv.held

/-- A request in the first hour of the week 2000 that finds this file. -/
def requestFor (file : Option EpoFile) : QepoRequest := ⟨⟨2000, 60⟩, file, ⟨2000, 60⟩, 5⟩

/-- A file that is too short for a header. -/
def cutFile : EpoFile := ⟨[1, 0, 0, 0], false, false, false⟩

theorem counted_cutFile {s : Throttle}
    (last : s.last = some ⟨2000, 60⟩ ∨ s.invalid.count 336000 = 0) :
    Counted mktimeUtc bd s (requestFor cutFile) where
  together some := by
    rcases last with read | none
    · exact ⟨_, read, rfl, rfl⟩
    · exact absurd none (Nat.ne_of_gt some)
  opened _ missing := by cases missing
  checked _ _ := .inl ⟨rfl, rfl⟩
  recorded := by
    rintro _ file found ⟨first, second, header, _⟩
    cases found
    cases header

theorem invalid_downloads_bounded_two :
    AllStates (Throttle.step mktimeUtc bd) (Throttle.Held bd) .start
      [requestFor cutFile, requestFor cutFile] := by
  apply invalid_downloads_bounded mktimeUtc bd
  intro s taken
  refine ⟨counted_cutFile (.inr rfl), ?_⟩
  cases taken
  intro t _
  exact ⟨counted_cutFile (.inl (by decide +kernel)), trivial⟩

/-- As long as no file can be opened, every request of an hour downloads one. -/
theorem not_invalid_downloads_bounded :
    ¬ AllStates (Throttle.step mktimeUtc bd) (Throttle.Held bd) .start
      (List.replicate 4 (requestFor none)) := by
  intro all
  have held := all.last (exec_total ..) 336000
  revert held
  decide +kernel

end Connectivity.Epo
