import Connectivity.Epo.Downloads
import Connectivity.Epo.GpsTime

set_option autoImplicit false

/- The Beidou and the Galileo download of mnld_entity/src/qepo.c, two copies of one code. -/
namespace Connectivity.Epo

open Bytes

/-- `gps_time`; the system time of it is part of what has elapsed. -/
structure GpsTime where
  wn : Int
  tow : Int
deriving DecidableEq

def GpsTime.utc (mktime : Tm → Int) (time : GpsTime) : Int :=
  gpsToUtcTime mktime time.wn time.tow

/-- A file that is open, and which of the calls on it go wrong. -/
structure EpoFile where
  bytes : List UInt8
  headerError : Bool
  sizeError : Bool
  recordError : Bool
deriving DecidableEq

/-- What the copies differ in. -/
structure QepoCopy where
  hasEpoBitMask : BitVec 32
  dlRetryTime : Nat

def bd : QepoCopy := ⟨0x00000001, 3⟩

def ga : QepoCopy := ⟨0x00000001, 3⟩

/-- The variables `g_qbd_…` and `g_qepo_bd_…`, or those of Galileo. -/
structure Qepo where
  latestDlTime : Int
  firstInvalidDlTime : Int
  hasEpo : Bool
  fileSizeCorrect : Bool
  fileTimeCorrect : Bool
  invalidDlCnt : Nat
deriving DecidableEq

def Qepo.init : Qepo := ⟨0, 0, true, true, true, 0⟩

/-- A request: `gps_time` when it is handled, the file that is found behind the download, if
it can be opened, and when it is checked, `gps_time` and the seconds since that was set. -/
structure QepoRequest where
  time : GpsTime
  file : Option EpoFile
  checkTime : GpsTime
  elapsed : Int
deriving DecidableEq

/-- The first two words of the header. -/
def qepoGetHeader (file : EpoFile) : Option (BitVec 32 × BitVec 32) :=
  if file.headerError ∨ file.bytes.length < oneSvSize then none
  else some (readWord file.bytes 0, readWord file.bytes 4)

def qepoHasEpo (copy : QepoCopy) (header : BitVec 32) : Bool :=
  header &&& copy.hasEpoBitMask = copy.hasEpoBitMask

/-- The number of 1 in a 32-bit word. -/
def epoBitCnt (u4BitMask : BitVec 32) : Nat :=
  ((List.range 32).filter fun i => (u4BitMask >>> i) &&& 1 = 1).length

def epoGetFileSize (file : EpoFile) : Int :=
  if file.sizeError then -1 else file.bytes.length

/-- `mtk_gps_sys_epo_bd_period_start`: the record behind the header begins with its hour. -/
def epoPeriodStart (mktime : Tm → Int) (file : EpoFile) : Option Int :=
  if file.recordError ∨ file.bytes.length < oneSvSize + oneSvSize then none
  else
    let u4GpsSecs := (readWord file.bytes oneSvSize &&& 0x00FFFFFF) * 3600
    some (gpsToUtcTime mktime (u4GpsSecs.toNat / 604800 : Nat) (u4GpsSecs.toNat % 604800 : Nat))

/-- Whether the size is that of the header and a record for each satellite. -/
def sizeCorrect (fileSize : Int) (svCnt : Nat) : Bool :=
  ¬ (fileSize = 0 ∨ fileSize.tmod oneSvSize ≠ 0 ∨ svCnt ≠ fileSize.tdiv oneSvSize - 1)

def isQuarterEpoValid (mktime : Tm → Int) (copy : QepoCopy) (s : Qepo) (r : QepoRequest) :
    DownloadResult × Qepo :=
  match r.file with
  | none =>
      (.fail, { s with hasEpo := true, fileSizeCorrect := false, fileTimeCorrect := true })
  | some file =>
      let currentRqstTime := r.checkTime.utc mktime
      let s := { s with latestDlTime := currentRqstTime }
      match qepoGetHeader file with
      | none =>
          (.fail, { s with hasEpo := true, fileSizeCorrect := false, fileTimeCorrect := true })
      | some (first, second) =>
          let s :=
            { s with
              hasEpo := qepoHasEpo copy first
              fileSizeCorrect := sizeCorrect (epoGetFileSize file) (epoBitCnt second) }
          match epoPeriodStart mktime file with
          | none => (.fail, { s with fileTimeCorrect := true })
          | some startTime =>
              let currentDlTime := currentRqstTime + r.elapsed
              let s :=
                { s with
                  fileTimeCorrect :=
                    startTime ≤ currentDlTime ∧ currentDlTime < 6 * 60 * 60 + startTime }
              (if s.hasEpo ∧ s.fileSizeCorrect ∧ s.fileTimeCorrect then .success else .fail, s)

def isQuarterEpoOnServerValid (s : Qepo) : Bool := s.fileTimeCorrect && s.hasEpo

/-- The download itself is what leaves `r.file`. -/
def qepoFileUpdateImpl (mktime : Tm → Int) (copy : QepoCopy) (s : Qepo) (r : QepoRequest) :
    DownloadResult × Qepo :=
  let (qepoValid, s) := isQuarterEpoValid mktime copy s r
  if isQuarterEpoOnServerValid s = false ∨ s.fileSizeCorrect = false then
    let s :=
      if s.invalidDlCnt = 0 then { s with firstInvalidDlTime := s.latestDlTime } else s
    (qepoValid, { s with invalidDlCnt := s.invalidDlCnt + 1 })
  else (qepoValid, s)

/-- `SECONDS_PER_HOUR`. -/
def secondsPerHour : Int := 60 * 60

/-- Reset the count value hourly. -/
def Qepo.hourly (mktime : Tm → Int) (s : Qepo) (time : GpsTime) : Qepo :=
  if (time.utc mktime).tdiv secondsPerHour - s.firstInvalidDlTime.tdiv secondsPerHour ≠ 0 then
    { s with invalidDlCnt := 0 }
  else s

/-- Whether the download is performed for a request, and not refused. -/
def Qepo.performs (mktime : Tm → Int) (copy : QepoCopy) (s : Qepo) (r : QepoRequest) : Prop :=
  (s.hourly mktime r.time).invalidDlCnt < copy.dlRetryTime

instance (mktime : Tm → Int) (copy : QepoCopy) (s : Qepo) (r : QepoRequest) :
    Decidable (s.performs mktime copy r) :=
  inferInstanceAs (Decidable ((s.hourly mktime r.time).invalidDlCnt < copy.dlRetryTime))

def mnldQepoDownload (mktime : Tm → Int) (copy : QepoCopy) (s : Qepo) (r : QepoRequest) :
    DownloadResult × Qepo :=
  if s.performs mktime copy r then
    qepoFileUpdateImpl mktime copy (s.hourly mktime r.time) r
  else (.fail, s.hourly mktime r.time)

def mnldQepoBdDownload (mktime : Tm → Int) : Qepo → QepoRequest → DownloadResult × Qepo :=
  mnldQepoDownload mktime bd

def mnldQepoGaDownload (mktime : Tm → Int) : Qepo → QepoRequest → DownloadResult × Qepo :=
  mnldQepoDownload mktime ga

end Connectivity.Epo
