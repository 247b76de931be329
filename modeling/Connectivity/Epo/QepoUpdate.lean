import Connectivity.Epo.Qepo

set_option autoImplicit false

/- What becomes of a QEPO download: whether the engine is asked to take the file, and the status
that is sent back. -/
namespace Connectivity.Epo

def rspBitNum : Nat := 4

/-- `MTK_QEPO_RSP_UPDATE_SUCCESS` and those behind it that a download ends with. -/
def rspUpdateSuccess : Nat := 0

def rspUpdateFail : Nat := 1

def rspDownloadFail : Nat := 2

def rspSizeFail : Nat := 4

/-- `AGT_QEPO_GP_BIT | AGT_QEPO_GL_BIT`, `AGT_QEPO_BD_BIT` and `AGT_QEPO_GA_BIT`. -/
def qepoGrBits : Nat := 0x03

def qepoBdBit : Nat := 0x04

def qepoGaBit : Nat := 0x08

/-- `CURLE_OK`. -/
def curleOk : Nat := 0

def curleRecvError : Nat := 56

/-- Whether the engine's entry for an update is called, and the status that is sent. -/
structure QepoReport where
  invoked : Bool
  status : Nat
deriving DecidableEq

/-- The status without the bits of the constellations. -/
def QepoReport.rsp (report : QepoReport) : Nat := report.status % (1 <<< rspBitNum)

def qepoReport (bits : Nat) (invoked : Bool) (status : Nat) : QepoReport :=
  ⟨invoked, status ||| (bits <<< rspBitNum)⟩

/-- `qepo_update_quarter_epo_bd_file` and its copy for Galileo; `accepted` is whether the engine
returns no error. -/
def qepoUpdateQuarterEpoFile (bit : Nat) (s : Qepo) (qepoValid : DownloadResult)
    (accepted : Bool) : QepoReport :=
  if qepoValid = .success then
    if accepted then qepoReport bit true rspUpdateSuccess
    else qepoReport bit true rspUpdateFail
  else if isQuarterEpoOnServerValid s = true ∧ s.fileSizeCorrect = false then
    if accepted then qepoReport bit true rspSizeFail
    else qepoReport bit true rspUpdateFail
  else qepoReport bit false rspDownloadFail

def qepoUpdateQuarterEpoBdFile : Qepo → DownloadResult → Bool → QepoReport :=
  qepoUpdateQuarterEpoFile qepoBdBit

def qepoUpdateQuarterEpoGaFile : Qepo → DownloadResult → Bool → QepoReport :=
  qepoUpdateQuarterEpoFile qepoGaBit

/-- A request for one of the copies: it is handled, and what has become of it is reported. -/
structure QepoUpdate where
  mktime : Tm → Int
  copy : QepoCopy
  before : Qepo
  request : QepoRequest
  /-- What the download returns, if it is performed. -/
  curl : Nat
  accepted : Bool

namespace QepoUpdate

variable (u : QepoUpdate)

def handled : DownloadResult × Qepo := mnldQepoDownload u.mktime u.copy u.before u.request

def report (bit : Nat) : QepoReport :=
  qepoUpdateQuarterEpoFile bit u.handled.2 u.handled.1 u.accepted

def Performs : Prop := u.before.performs u.mktime u.copy u.request

instance : Decidable u.Performs := inferInstanceAs (Decidable (Qepo.performs ..))

/-- The request has obtained a file: it performs a download that succeeds and leaves one. -/
def Obtains : Prop := u.Performs ∧ u.curl = curleOk ∧ u.request.file.isSome

instance : Decidable u.Obtains := inferInstanceAs (Decidable (_ ∧ _))

/-- Whether a start of validity covers the time behind the download. -/
def Covers (startTime : Int) : Prop :=
  let currentDlTime := u.request.checkTime.utc u.mktime + u.request.elapsed
  startTime ≤ currentDlTime ∧ currentDlTime < 6 * 60 * 60 + startTime

instance (startTime : Int) : Decidable (u.Covers startTime) :=
  inferInstanceAs (Decidable (_ ∧ _))

/-- The file that is found passes all checks of its header, its size and its time. -/
def Passes : Prop :=
  ∃ file first second startTime, u.request.file = some file ∧
    qepoGetHeader file = some (first, second) ∧ qepoHasEpo u.copy first = true ∧
    sizeCorrect (epoGetFileSize file) (epoBitCnt second) = true ∧
    epoPeriodStart u.mktime file = some startTime ∧ u.Covers startTime

/-- The file that is found has a header, and is turned down for what it says: it has no data, its
time is not now, or it is of its size but without a record. -/
def Discards : Prop :=
  ∃ file first second, u.request.file = some file ∧
    qepoGetHeader file = some (first, second) ∧
    (qepoHasEpo u.copy first = false ∨
      (epoPeriodStart u.mktime file = none ∧
        sizeCorrect (epoGetFileSize file) (epoBitCnt second) = true) ∨
      ∃ startTime, epoPeriodStart u.mktime file = some startTime ∧ ¬ u.Covers startTime)

/-- The flags of an earlier request say that the file on the server is good and the one here is of
a wrong size. -/
def Stale : Prop :=
  u.before.fileTimeCorrect = true ∧ u.before.hasEpo = true ∧ u.before.fileSizeCorrect = false

instance : Decidable u.Stale := inferInstanceAs (Decidable (_ ∧ _))

/-- The engine is called for a file of this request only, and a success is one of the checks and
of the engine. -/
def Sound (bit : Nat) : Prop :=
  ((u.report bit).invoked = true → u.Obtains) ∧
    ((u.report bit).rsp = rspUpdateSuccess → u.Passes ∧ u.accepted = true)

/-- The request obtains a file; or it performs a download without one, but finds a file that is
turned down; or it is refused, and no flags are left that speak for a file. -/
def Meets : Prop := u.Obtains ∨ (u.Performs ∧ u.Discards) ∨ (¬ u.Performs ∧ ¬ u.Stale)

end QepoUpdate

section Copies

variable {u : QepoUpdate} {bit : Nat}

theorem rsp_report {bits status : Nat} {invoked : Bool} (small : status < 16) :
    (qepoReport bits invoked status).rsp = status := by
  show (status ||| bits <<< 4) % 2 ^ 4 = status
  rw [Nat.or_mod_two_pow, Nat.shiftLeft_eq, Nat.mul_mod_left, Nat.or_zero, Nat.mod_eq_of_lt small]

/-- When the engine is called, and when a success is reported. -/
theorem update_spec {s : Qepo} {qepoValid : DownloadResult} {accepted : Bool} :
    ((qepoUpdateQuarterEpoFile bit s qepoValid accepted).invoked = true ↔
        qepoValid = .success ∨ (s.fileTimeCorrect = true ∧ s.hasEpo = true ∧
          s.fileSizeCorrect = false)) ∧
      ((qepoUpdateQuarterEpoFile bit s qepoValid accepted).rsp = rspUpdateSuccess ↔
        qepoValid = .success ∧ accepted = true) := by
  unfold qepoUpdateQuarterEpoFile isQuarterEpoOnServerValid
  by_cases valid : qepoValid = .success
  · rw [if_pos valid]
    cases accepted with
    | true =>
        rw [if_pos rfl, rsp_report (by decide)]
        simp only [qepoReport, valid, true_or, true_and]
    | false =>
        rw [if_neg (by decide), rsp_report (by decide)]
        simp only [qepoReport, valid, true_or, true_and, rspUpdateFail, rspUpdateSuccess]
        decide
  · rw [if_neg valid]
    simp only [valid, false_or, false_and, iff_false, Bool.and_eq_true, and_assoc]
    split
    · rename_i flags
      cases accepted with
      | true =>
          rw [if_pos rfl, rsp_report (by decide)]
          exact ⟨⟨fun _ => flags, fun _ => rfl⟩, by decide⟩
      | false =>
          rw [if_neg (by decide), rsp_report (by decide)]
          exact ⟨⟨fun _ => flags, fun _ => rfl⟩, by decide⟩
    · rename_i flags
      rw [rsp_report (by decide)]
      exact ⟨⟨fun none => (by cases none), fun good => absurd good flags⟩, by decide⟩

/-- The count of the hour leaves the flags. -/
theorem hourly_flags (mktime : Tm → Int) (s : Qepo) (time : GpsTime) :
    (s.hourly mktime time).fileTimeCorrect = s.fileTimeCorrect ∧
      (s.hourly mktime time).hasEpo = s.hasEpo ∧
      (s.hourly mktime time).fileSizeCorrect = s.fileSizeCorrect := by
  rw [Qepo.hourly]
  split <;> exact ⟨rfl, rfl, rfl⟩

/-- Behind a refused request the flags are those of an earlier one. -/
theorem handled_refused (refused : ¬ u.Performs) :
    u.handled.1 = .fail ∧ u.handled.2.fileTimeCorrect = u.before.fileTimeCorrect ∧
      u.handled.2.hasEpo = u.before.hasEpo ∧
      u.handled.2.fileSizeCorrect = u.before.fileSizeCorrect := by
  have same : u.handled = (.fail, u.before.hourly u.mktime u.request.time) := if_neg refused
  rw [same]
  exact ⟨rfl, hourly_flags u.mktime u.before u.request.time⟩

/-- Counting an invalid download leaves its result and the flags. -/
theorem fileUpdateImpl_flags (mktime : Tm → Int) (copy : QepoCopy) (s : Qepo)
    (r : QepoRequest) :
    (qepoFileUpdateImpl mktime copy s r).1 = (isQuarterEpoValid mktime copy s r).1 ∧
      (qepoFileUpdateImpl mktime copy s r).2.fileTimeCorrect =
        (isQuarterEpoValid mktime copy s r).2.fileTimeCorrect ∧
      (qepoFileUpdateImpl mktime copy s r).2.hasEpo =
        (isQuarterEpoValid mktime copy s r).2.hasEpo ∧
      (qepoFileUpdateImpl mktime copy s r).2.fileSizeCorrect =
        (isQuarterEpoValid mktime copy s r).2.fileSizeCorrect := by
  unfold qepoFileUpdateImpl
  dsimp only
  split
  · split <;> exact ⟨rfl, rfl, rfl, rfl⟩
  · exact ⟨rfl, rfl, rfl, rfl⟩

/-- The check of a file, as far as what is done with it depends on it. -/
def Checked (u : QepoUpdate) (checked : DownloadResult × Qepo) : Prop :=
  (checked.1 = .success ↔ u.Passes) ∧
    (checked.1 = .success ∨ (checked.2.fileTimeCorrect = true ∧ checked.2.hasEpo = true ∧
      checked.2.fileSizeCorrect = false) ↔ ¬ u.Discards)

theorem checked_none (missing : u.request.file = none) (s : Qepo) :
    Checked u (isQuarterEpoValid u.mktime u.copy s u.request) := by
  rw [isQuarterEpoValid, missing]
  constructor
  · constructor
    · intro success
      cases success
    · rintro ⟨file, _, _, _, found, _⟩
      rw [missing] at found
      cases found
  · constructor
    · rintro _ ⟨file, _, _, found, _⟩
      rw [missing] at found
      cases found
    · exact fun _ => Or.inr ⟨rfl, rfl, rfl⟩

theorem checked_headless {file : EpoFile} (found : u.request.file = some file)
    (header : qepoGetHeader file = none) (s : Qepo) :
    Checked u (isQuarterEpoValid u.mktime u.copy s u.request) := by
  simp only [isQuarterEpoValid, found, header]
  constructor
  · constructor
    · intro success
      cases success
    · rintro ⟨other, _, _, _, same, words, _⟩
      cases found.symm.trans same
      rw [header] at words
      cases words
  · constructor
    · rintro _ ⟨other, _, _, same, words, _⟩
      cases found.symm.trans same
      rw [header] at words
      cases words
    · exact fun _ => Or.inr ⟨rfl, rfl, rfl⟩

theorem passes_iff {file : EpoFile} {first second : BitVec 32}
    (found : u.request.file = some file) (header : qepoGetHeader file = some (first, second)) :
    u.Passes ↔ qepoHasEpo u.copy first = true ∧
      sizeCorrect (epoGetFileSize file) (epoBitCnt second) = true ∧
      ∃ startTime, epoPeriodStart u.mktime file = some startTime ∧ u.Covers startTime := by
  constructor
  · rintro ⟨other, _, _, startTime, same, words, hasEpo, size, start, covers⟩
    cases found.symm.trans same
    cases header.symm.trans words
    exact ⟨hasEpo, size, startTime, start, covers⟩
  · rintro ⟨hasEpo, size, startTime, start, covers⟩
    exact ⟨file, first, second, startTime, found, header, hasEpo, size, start, covers⟩

theorem discards_iff {file : EpoFile} {first second : BitVec 32}
    (found : u.request.file = some file) (header : qepoGetHeader file = some (first, second)) :
    u.Discards ↔ qepoHasEpo u.copy first = false ∨
      (epoPeriodStart u.mktime file = none ∧
        sizeCorrect (epoGetFileSize file) (epoBitCnt second) = true) ∨
      ∃ startTime, epoPeriodStart u.mktime file = some startTime ∧ ¬ u.Covers startTime := by
  constructor
  · rintro ⟨other, _, _, same, words, why⟩
    cases found.symm.trans same
    cases header.symm.trans words
    exact why
  · intro why
    exact ⟨file, first, second, found, header, why⟩

theorem checked_header {file : EpoFile} {first second : BitVec 32}
    (found : u.request.file = some file) (header : qepoGetHeader file = some (first, second))
    (s : Qepo) : Checked u (isQuarterEpoValid u.mktime u.copy s u.request) := by
  rw [Checked, passes_iff found header, discards_iff found header]
  cases start : epoPeriodStart u.mktime file with
  | none =>
      simp only [isQuarterEpoValid, found, header, start]
      cases qepoHasEpo u.copy first <;>
        cases sizeCorrect (epoGetFileSize file) (epoBitCnt second) <;> simp
  | some startTime =>
      by_cases covers : u.Covers startTime
      · have now : startTime ≤ u.request.checkTime.utc u.mktime + u.request.elapsed ∧
            u.request.checkTime.utc u.mktime + u.request.elapsed < 6 * 60 * 60 + startTime :=
          covers
        simp only [isQuarterEpoValid, found, header, start, now, and_self, decide_true]
        cases qepoHasEpo u.copy first <;>
          cases sizeCorrect (epoGetFileSize file) (epoBitCnt second) <;> simp [covers]
      · have never : decide (startTime ≤ u.request.checkTime.utc u.mktime + u.request.elapsed ∧
            u.request.checkTime.utc u.mktime + u.request.elapsed < 6 * 60 * 60 + startTime) =
            false := decide_eq_false covers
        simp only [isQuarterEpoValid, found, header, start, never]
        cases qepoHasEpo u.copy first <;>
          cases sizeCorrect (epoGetFileSize file) (epoBitCnt second) <;> simp [covers]

/-- A performed request comes to its success by the checks, and to the engine unless its file is
turned down. -/
theorem handled_performed (performs : u.Performs) : Checked u u.handled := by
  have same : u.handled = qepoFileUpdateImpl u.mktime u.copy
      (u.before.hourly u.mktime u.request.time) u.request := if_pos performs
  obtain ⟨result, time, hasEpo, size⟩ := fileUpdateImpl_flags u.mktime u.copy
    (u.before.hourly u.mktime u.request.time) u.request
  have checked : Checked u (isQuarterEpoValid u.mktime u.copy
      (u.before.hourly u.mktime u.request.time) u.request) := by
    cases found : u.request.file with
    | none => exact checked_none found _
    | some file =>
        cases header : qepoGetHeader file with
        | none => exact checked_headless found header _
        | some words => exact checked_header found header _
  rw [same, Checked, result, time, hasEpo, size]
  exact checked

/-- A success that is reported is one of the checks and of the engine. -/
theorem success_sound (success : (u.report bit).rsp = rspUpdateSuccess) :
    u.Passes ∧ u.accepted = true := by
  obtain ⟨valid, accepted⟩ := update_spec.2.mp success
  refine ⟨?_, accepted⟩
  by_cases performs : u.Performs
  · exact (handled_performed performs).1.mp valid
  · rw [(handled_refused performs).1] at valid
    cases valid

theorem update_sound_iff : u.Sound bit ↔ u.Meets := by
  have invoked := (@update_spec bit u.handled.2 u.handled.1 u.accepted).1
  constructor
  · intro sound
    by_cases obtains : u.Obtains
    · exact Or.inl obtains
    · right
      have silent : ¬ (u.report bit).invoked = true := fun called => obtains (sound.1 called)
      have quiet := mt invoked.mpr silent
      by_cases performs : u.Performs
      · left
        refine ⟨performs, ?_⟩
        by_contra other
        exact quiet ((handled_performed performs).2.mpr other)
      · right
        obtain ⟨_, time, hasEpo, size⟩ := handled_refused performs
        rw [time, hasEpo, size] at quiet
        exact ⟨performs, fun stale => quiet (Or.inr stale)⟩
  · intro meets
    refine ⟨fun called => ?_, success_sound⟩
    have loud := invoked.mp called
    rcases meets with obtains | ⟨performs, discards⟩ | ⟨refused, fresh⟩
    · exact obtains
    · exact absurd discards ((handled_performed performs).2.mp loud)
    · obtain ⟨fail, time, hasEpo, size⟩ := handled_refused refused
      rw [fail, time, hasEpo, size] at loud
      cases loud with
      | inl success => cases success
      | inr stale => exact absurd stale fresh

end Copies

/-- `Qepo_res` and `server_not_updated`. -/
structure QepoGr where
  qepoRes : Nat
  serverNotUpdated : Bool
deriving DecidableEq

/-- A download for GPS and GLONASS: its result, the file found behind it, `gps_time` when that is
checked, and whether the network is connected then. -/
structure GrAttempt where
  curl : Nat
  file : Option EpoFile
  time : GpsTime
  connected : Bool
deriving DecidableEq

def qepoGrDlRetryTime : Nat := 3

/-- `mtk_gps_sys_epo_period_start`, of a file without a header. -/
def grPeriodStart (mktime : Tm → Int) (file : EpoFile) : Option Int :=
  if file.recordError ∨ file.bytes.length < oneSvSize then none
  else
    let u4GpsSecs := (readWord file.bytes 0 &&& 0x00FFFFFF) * 3600
    some (gpsToUtcTime mktime (u4GpsSecs.toNat / 604800 : Nat) (u4GpsSecs.toNat % 604800 : Nat))

namespace QepoGr

/-- `is_quarter_epo_valid`. -/
def isQuarterEpoValid (mktime : Tm → Int) (s : QepoGr) (attempt : GrAttempt) :
    DownloadResult × QepoGr :=
  match attempt.file with
  | none => (.fail, s)
  | some file =>
      match grPeriodStart mktime file with
      | none => (.fail, s)
      | some startTime =>
          let mnlTime := attempt.time.utc mktime
          if startTime ≤ mnlTime ∧ mnlTime < 6 * 60 * 60 + startTime then (.success, s)
          else (.fail, { s with serverNotUpdated := decide (24 * 60 * 60 + startTime ≤ mnlTime) })

/-- `curl_easy_download_quarter_epo`, and the check of what it leaves. -/
def download (mktime : Tm → Int) (s : QepoGr) (attempt : GrAttempt) : DownloadResult × QepoGr :=
  isQuarterEpoValid mktime { s with qepoRes := attempt.curl } attempt

/-- The loop of `qepo_file_update_impl`, from an attempt on. -/
def downloads (mktime : Tm → Int) (attempts : Nat → GrAttempt) :
    Nat → Nat → QepoGr → DownloadResult × QepoGr
  | 0, turn, s => download mktime s (attempts turn)
  | tryTime + 1, turn, s =>
      let (qepoValid, s) := download mktime s (attempts turn)
      if qepoValid = .fail ∧ (attempts turn).connected then
        downloads mktime attempts tryTime (turn + 1) s
      else (qepoValid, s)

/-- `qepo_file_update_impl`. -/
def fileUpdateImpl (mktime : Tm → Int) (attempts : Nat → GrAttempt) (s : QepoGr) :
    DownloadResult × QepoGr :=
  let (qepoValid, s) := downloads mktime attempts qepoGrDlRetryTime 0 s
  (qepoValid, if s.serverNotUpdated then { s with qepoRes := curleRecvError } else s)

/-- `qepo_update_quarter_epo_file`. -/
def updateQuarterEpoFile (s : QepoGr) (qepoValid : DownloadResult) (accepted : Bool) :
    QepoReport :=
  if qepoValid = .success then
    if accepted then qepoReport qepoGrBits true rspUpdateSuccess
    else qepoReport qepoGrBits true rspUpdateFail
  else
    qepoReport qepoGrBits false (if 0 < s.qepoRes then rspDownloadFail else s.qepoRes)

/-- What is reported for a request. -/
def report (mktime : Tm → Int) (attempts : Nat → GrAttempt) (s : QepoGr) (accepted : Bool) :
    QepoReport :=
  let handled := fileUpdateImpl mktime attempts s
  updateQuarterEpoFile handled.2 handled.1 accepted

/-- No success is reported for a file that is not valid. -/
def Sound (mktime : Tm → Int) (attempts : Nat → GrAttempt) (s : QepoGr) (accepted : Bool) : Prop :=
  (fileUpdateImpl mktime attempts s).1 ≠ .success →
    (report mktime attempts s accepted).rsp ≠ rspUpdateSuccess

/-- Behind the downloads the file is valid, or the last of them has failed, or the server is known
to be late. -/
def Meets (mktime : Tm → Int) (attempts : Nat → GrAttempt) (s : QepoGr) : Prop :=
  let done := downloads mktime attempts qepoGrDlRetryTime 0 s
  done.1 = .success ∨ done.2.qepoRes ≠ curleOk ∨ done.2.serverNotUpdated = true

variable {mktime : Tm → Int} {attempts : Nat → GrAttempt} {s : QepoGr} {accepted : Bool}

theorem invalid_rsp {qepoValid : DownloadResult} (invalid : qepoValid ≠ .success) :
    (updateQuarterEpoFile s qepoValid accepted).rsp = rspUpdateSuccess ↔ s.qepoRes = 0 := by
  unfold updateQuarterEpoFile
  rw [if_neg invalid]
  by_cases failed : 0 < s.qepoRes
  · rw [if_pos failed, rsp_report (by decide)]
    have nonzero : s.qepoRes ≠ 0 := by omega
    exact ⟨fun same => absurd same (by decide), fun zero => absurd zero nonzero⟩
  · have zero : s.qepoRes = 0 := by omega
    rw [if_neg failed, zero, rsp_report (by decide)]
    exact ⟨fun _ => rfl, fun _ => rfl⟩

/-- An update without a valid file is reported as a success exactly if nothing else has failed. -/
theorem sound_iff : Sound mktime attempts s accepted ↔ Meets mktime attempts s := by
  unfold Sound report Meets fileUpdateImpl
  dsimp only
  by_cases valid : (downloads mktime attempts qepoGrDlRetryTime 0 s).1 = .success
  · exact ⟨fun _ => Or.inl valid, fun _ invalid => absurd valid invalid⟩
  · rw [ne_eq, ne_eq, invalid_rsp valid]
    cases late : (downloads mktime attempts qepoGrDlRetryTime 0 s).2.serverNotUpdated with
    | true =>
        rw [if_pos rfl]
        exact ⟨fun _ => Or.inr (Or.inr rfl), fun _ _ => by decide⟩
    | false =>
        rw [if_neg (by decide)]
        constructor
        · intro sound
          exact Or.inr (Or.inl (sound valid))
        · rintro (success | failed | known)
          · exact absurd success valid
          · exact fun _ => failed
          · cases known

end QepoGr

/-- The engine is called for Beidou and Galileo only with a file of the request, and a success
reported only for one that is checked and taken, exactly if the request obtains a file, or finds
one that is turned down, or is refused without stale flags; for GPS and GLONASS a success is never
reported for an invalid file exactly if the last download fails or the server is known to be
late. -/
theorem qepoUpdate_sound_iff (u : QepoUpdate) (bit : Nat) (mktime : Tm → Int)
    (attempts : Nat → GrAttempt) (gr : QepoGr) (accepted : Bool) :
    (u.Sound bit ↔ u.Meets) ∧
      (QepoGr.Sound mktime attempts gr accepted ↔ QepoGr.Meets mktime attempts gr) :=
  ⟨update_sound_iff, QepoGr.sound_iff⟩

/-- The first request, without a file behind a download that fails; one that is refused in the
hour of three downloads of a wrong size; a download that succeeds and leaves no valid file. -/
theorem not_qepoUpdate_sound :
    let request : QepoRequest := ⟨⟨2000, 0⟩, none, ⟨2000, 0⟩, 0⟩
    ¬ QepoUpdate.Sound ⟨fun _ => 0, bd, .init, request, 7, true⟩ qepoBdBit ∧
      ¬ QepoUpdate.Sound ⟨fun _ => 0, bd, ⟨0, 0, true, false, true, 3⟩, request, 0, true⟩
        qepoBdBit ∧
      ¬ QepoGr.Sound (fun _ => 0) (fun _ => ⟨0, none, ⟨2000, 0⟩, true⟩) ⟨0, false⟩ true := by
  intro request
  refine ⟨fun sound => ?_, fun sound => ?_, fun sound => ?_⟩
  · exact absurd (sound.1 (by decide)).2.1 (by decide)
  · exact absurd (sound.1 (by decide)).1 (by decide)
  · exact sound (by decide) (by decide)

end Connectivity.Epo
