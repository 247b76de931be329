import Connectivity.LbsLog.DirCheck
import Connectivity.Transition.Run

set_option autoImplicit false

/- The thread of the GPS logs, which opens, writes, splits and closes them. -/
namespace Connectivity.LbsLog

open Transition

def maxLogSize : UInt32 := 25 * 1024 * 1024

/-- The database of the thread, an open file by what has been written to it; the logs that have been
closed, and the data that has been reported as written. -/
structure Log where
  file : Option (List UInt8)
  logFolderName : Path
  logNameBase : Path
  currentLogSize : UInt32
  record : Record
  splitNumber : Int
  closed : List (List UInt8)
  reported : List UInt8
deriving DecidableEq, Repr

/-- What the system answers during one operation, the folder of the logs included. A file that
cannot be closed is left with its first `kept` bytes. -/
structure Io where
  dirCreated : Bool
  opens : Bool
  closes : Bool
  kept : Nat
  written : Nat
  rounds : Nat
  accessible : Bool
  removes : Nat → Bool
  dir : List LogFile

/-- What is in a file behind `fclose`. -/
def Io.fclose (io : Io) (data : List UInt8) : List UInt8 :=
  if io.closes then data else data.take io.kept

/-- `fclose` loses nothing of the file that is open. -/
def Io.Keeps (io : Io) (file : Option (List UInt8)) : Prop :=
  ∀ data, file = some data → io.closes = true ∨ data.length ≤ io.kept

/-- `split_path` at the last `/`. -/
def splitPath (file : Path) : Option (Path × Path) :=
  if file.length = 0 ∨ file.length ≥ maxPathLen then none
  else
    let filename := (file.reverse.takeWhile fun c => c ≠ '/').reverse
    some (file.take (file.length - filename.length), filename)

namespace Log

def start : Log := ⟨none, [], [], 0, ⟨0, 0⟩, 0, [], []⟩

variable (s : Log) (io : Io)

/-- `lbslogd_handle_close_logfile`; whether the rename succeeds makes no difference. -/
def closeLogfile : Log × Bool :=
  match s.file with
  | none => (s, true)
  | some data => ({ s with file := none, closed := s.closed ++ [io.fclose data] }, io.closes)

/-- `gps_log_dir_check`, `none` if it does not end in the rounds there are. -/
def checkDir : Option (Log × Bool) :=
  (gpsLogDirCheck io.rounds s.logFolderName io.accessible io.removes s.record io.dir).map
    fun checked => ({ s with record := checked.record }, checked.ret)

def countLog : Record := { s.record with currentLogNum := short (s.record.currentLogNum + 1) }

/-- The split of a log that has been closed. -/
def openNext : Log × Bool :=
  let splitNumber := short (s.splitNumber + 1)
  let failed := { s with splitNumber := short (splitNumber - 1) }
  if ('-' :: decimal splitNumber).length + s.logNameBase.length + logNameSuffixWriting.length ≥
      maxPathLen then (failed, false)
  else if io.opens then
    ({ s with
      file := some []
      currentLogSize := 0
      record := s.countLog
      splitNumber := splitNumber }, true)
  else (failed, false)

/-- `gps_log_file_split`. -/
def splitLog : Log × Bool :=
  if maxLogSize ≤ s.currentLogSize then (s.closeLogfile io).1.openNext io else (s, true)

/-- The database of a log that has been opened, the last one being closed. -/
def begun (pathname fullFileName : Path) : Log :=
  { s with
    file := some []
    logFolderName := pathname
    logNameBase := fullFileName
    currentLogSize := 0
    record := s.countLog
    splitNumber := 0 }

/-- `lbslogd_handle_open_logfile`. -/
def openLogfile (fullFileName : Path) : Option (Log × Bool) :=
  match splitPath fullFileName with
  | none => some (s, false)
  | some (pathname, filename) =>
      if pathname.length = 0 ∨ filename.length = 0 then some (s, false)
      else if logNameSuffixWriting.length + fullFileName.length ≥ maxPathLen then some (s, false)
      else if ¬ io.opens then some (s, false)
      else
        let s := (s.closeLogfile io).1.begun pathname fullFileName
        if io.dirCreated then some ({ s with record := ⟨0, 0⟩ }, true)
        else (s.checkDir io).map fun result => (result.1, true)

/-- `fwrite` and what is counted of it. -/
def append (data : List UInt8) (count : Nat) : Log :=
  { s with
    file := s.file.map fun written => written ++ data.take count
    currentLogSize := s.currentLogSize + UInt32.ofNat count
    record := { s.record with
      currentFolderSize := s.record.currentFolderSize + UInt32.ofNat count } }

/-- `lbsogd_handle_write_logdata`, which goes by neither the check nor the split. -/
def writeLogdata (data : List UInt8) : Option (Log × Bool) :=
  if s.file = none then some (s, true)
  else (s.checkDir io).map fun result =>
    let count := min io.written data.length
    if count = 0 then (result.1, false)
    else (((result.1.append data count).splitLog io).1, true)

inductive Command
  | openLog (filePath : Path) (io : Io)
  | writeLog (log : List UInt8) (io : Io)
  | closeLog (io : Io)

def report (data : List UInt8) (result : Log × Bool) : Log :=
  if result.2 then { result.1 with reported := result.1.reported ++ data } else result.1

def step : Command → Option Log
  | .openLog filePath io => (s.openLogfile io filePath).map Prod.fst
  | .writeLog log io => (s.writeLogdata io log).map (report log)
  | .closeLog io => some (s.closeLogfile io).1

/-- All that is in the log files. -/
def logged : List UInt8 := s.closed.flatten ++ s.file.getD []

/-- The log files hold the data that has been reported as written. -/
def Honest : Prop := s.reported = s.logged

instance : Decidable s.Honest := inferInstanceAs (Decidable (_ = _))

/-- An open goes as far as to close the last log. -/
def Reopens (io : Io) (path : Path) : Prop :=
  ∃ pathname filename, splitPath path = some (pathname, filename) ∧
    ¬ (pathname.length = 0 ∨ filename.length = 0) ∧
    ¬ logNameSuffixWriting.length + path.length ≥ maxPathLen ∧ io.opens = true

/-- Data comes while a file is open, which takes all of it or none; and a file that is closed loses
nothing. -/
def Meets : Command → Prop
  | .openLog path io => Reopens io path → io.Keeps s.file
  | .writeLog log io =>
      log = [] ∨ s.file ≠ none ∧ (io.written = 0 ∨ log.length ≤ io.written ∧
        (maxLogSize ≤ s.currentLogSize + UInt32.ofNat log.length →
          io.Keeps (s.file.map fun data => data ++ log)))
  | .closeLog io => io.Keeps s.file

section Logged

variable {s t : Log} {io : Io}

theorem closeLogfile_reported :
    (s.closeLogfile io).1.reported = s.reported ∧ (s.closeLogfile io).1.file = none := by
  unfold closeLogfile
  cases file : s.file with
  | none => exact ⟨rfl, file⟩
  | some data => exact ⟨rfl, rfl⟩

/-- A closed file keeps what is in it. -/
theorem closeLogfile_logged (keeps : io.Keeps s.file) :
    (s.closeLogfile io).1.logged = s.logged := by
  unfold closeLogfile logged
  cases file : s.file with
  | none => simp [file]
  | some data =>
      have whole : io.fclose data = data := by
        rw [Io.fclose]
        rcases keeps data file with closes | short
        · rw [if_pos closes]
        · rw [List.take_of_length_le short, ite_self]
      simp [whole]

/-- A file that could not be closed lacks some of its end. -/
theorem closeLogfile_lost (lost : ¬ io.Keeps s.file) :
    (s.closeLogfile io).1.logged.length < s.logged.length := by
  simp only [Io.Keeps, not_forall, not_or, Nat.not_le] at lost
  obtain ⟨data, file, fails, beyond⟩ := lost
  simp only [closeLogfile, logged, file, Io.fclose, if_neg fails]
  simp only [List.flatten_append, List.flatten_singleton, Option.getD_some, Option.getD_none,
    List.append_nil, List.length_append, List.length_take]
  omega

theorem checkDir_logged {result : Log × Bool} (checked : s.checkDir io = some result) :
    result.1.logged = s.logged ∧ result.1.reported = s.reported ∧ result.1.file = s.file ∧
      result.1.currentLogSize = s.currentLogSize := by
  obtain ⟨_, _, same⟩ := Option.map_eq_some_iff.mp checked
  cases same
  exact ⟨rfl, rfl, rfl, rfl⟩

theorem openNext_logged (closed : s.file = none) :
    (s.openNext io).1.logged = s.logged ∧ (s.openNext io).1.reported = s.reported := by
  simp only [openNext]
  split
  · exact ⟨rfl, rfl⟩
  · split
    · exact ⟨by simp [logged, closed], rfl⟩
    · exact ⟨rfl, rfl⟩

/-- The file that a log is split off to begins empty. -/
theorem splitLog_logged : (s.splitLog io).1.reported = s.reported ∧
    (s.splitLog io).1.logged =
      if maxLogSize ≤ s.currentLogSize then (s.closeLogfile io).1.logged else s.logged := by
  rw [splitLog]
  split
  · obtain ⟨reported, closed⟩ := @closeLogfile_reported s io
    obtain ⟨nextLogged, nextReported⟩ := @openNext_logged _ io closed
    exact ⟨nextReported.trans reported, nextLogged⟩
  · exact ⟨rfl, rfl⟩

/-- Without a file, what is written is reported as written and lost. -/
theorem writeLogdata_closed (closed : s.file = none) (data : List UInt8) :
    s.writeLogdata io data = some (s, true) := if_pos closed

theorem openLogfile_logged {result : Log × Bool} {path : Path}
    (opened : s.openLogfile io path = some result) :
    result.1.reported = s.reported ∧
      (Reopens io path ∧ result.1.logged = (s.closeLogfile io).1.logged ∨
        ¬ Reopens io path ∧ result.1.logged = s.logged) := by
  have nothing : ¬ Reopens io path → ∀ result : Log × Bool, some (s, false) = some result →
      result.1.reported = s.reported ∧
        (Reopens io path ∧ result.1.logged = (s.closeLogfile io).1.logged ∨
          ¬ Reopens io path ∧ result.1.logged = s.logged) := by
    intro left result same
    cases same
    exact ⟨rfl, Or.inr ⟨left, rfl⟩⟩
  rw [openLogfile] at opened
  cases split : splitPath path with
  | none =>
      rw [split] at opened
      refine nothing ?_ result opened
      rintro ⟨_, _, some, _⟩
      rw [split] at some
      cases some
  | some names =>
      obtain ⟨pathname, filename⟩ := names
      have only : Reopens io path → ¬ (pathname.length = 0 ∨ filename.length = 0) ∧
          ¬ logNameSuffixWriting.length + path.length ≥ maxPathLen ∧ io.opens = true := by
        rintro ⟨_, _, same, rest⟩
        rw [split] at same
        cases same
        exact rest
      rw [split] at opened
      dsimp only at opened
      by_cases empty : pathname.length = 0 ∨ filename.length = 0
      · rw [if_pos empty] at opened
        exact nothing (fun reopens => (only reopens).1 empty) result opened
      · rw [if_neg empty] at opened
        by_cases long : logNameSuffixWriting.length + path.length ≥ maxPathLen
        · rw [if_pos long] at opened
          exact nothing (fun reopens => (only reopens).2.1 long) result opened
        · rw [if_neg long] at opened
          by_cases opens : io.opens = true
          · rw [if_neg (not_not.mpr opens)] at opened
            obtain ⟨reported, closed⟩ := @closeLogfile_reported s io
            have begun : ((s.closeLogfile io).1.begun pathname path).logged =
                (s.closeLogfile io).1.logged := by
              simp [Log.logged, Log.begun, closed]
            have reopens : Reopens io path := ⟨pathname, filename, split, empty, long, opens⟩
            split at opened
            · cases opened
              exact ⟨reported, Or.inl ⟨reopens, begun⟩⟩
            · obtain ⟨checked, done, same⟩ := Option.map_eq_some_iff.mp opened
              obtain ⟨keptLogged, keptReported, _⟩ := checkDir_logged done
              cases same
              exact ⟨keptReported.trans reported, Or.inl ⟨reopens, keptLogged.trans begun⟩⟩
          · rw [if_pos opens] at opened
            exact nothing (fun reopens => opens (only reopens).2.2) result opened

/-- A log whose end has been written to. -/
theorem append_logged {data : List UInt8} {count : Nat} (opened : s.file ≠ none) :
    (s.append data count).logged = s.logged ++ data.take count := by
  obtain ⟨written, holds⟩ := Option.ne_none_iff_exists'.mp opened
  simp [logged, append, holds]

/-- A write of which `fwrite` takes something goes to the end of the file, which may be split
then. -/
theorem writeLogdata_logged {result : Log × Bool} {data : List UInt8} (opened : s.file ≠ none)
    (wrote : s.writeLogdata io data = some result) :
    result.1.reported = s.reported ∧
      if min io.written data.length = 0 then result.1.logged = s.logged ∧ result.2 = false
      else result.2 = true ∧ ∃ appended : Log,
        appended.logged = s.logged ++ data.take io.written ∧
        appended.file = s.file.map (fun written => written ++ data.take io.written) ∧
        appended.currentLogSize =
          s.currentLogSize + UInt32.ofNat (min io.written data.length) ∧
        result.1.logged = if maxLogSize ≤ appended.currentLogSize
          then (appended.closeLogfile io).1.logged else appended.logged := by
  rw [writeLogdata, if_neg opened] at wrote
  obtain ⟨checked, done, same⟩ := Option.map_eq_some_iff.mp wrote
  obtain ⟨logged, reported, file, size⟩ := checkDir_logged done
  by_cases none : min io.written data.length = 0
  · simp only [if_pos none] at same
    cases same
    exact ⟨reported, by rw [if_pos none]; exact ⟨logged, rfl⟩⟩
  · simp only [if_neg none] at same
    cases same
    obtain ⟨keptReported, split⟩ :=
      @splitLog_logged (checked.1.append data (min io.written data.length)) io
    refine ⟨keptReported.trans reported, ?_⟩
    rw [if_neg none]
    have still : checked.1.file ≠ .none := by rwa [file]
    refine ⟨rfl, checked.1.append data (min io.written data.length), ?_, ?_, ?_, split⟩
    · rw [append_logged still, logged, ← List.take_eq_take_min]
    · rw [append, file, ← List.take_eq_take_min]
    · rw [append, size]

end Logged

section Steps

variable {s t : Log}

/-- A write of which `fwrite` takes something is honest if it takes all, and a split after it loses
nothing. -/
theorem honest_written {data : List UInt8} {io : Io} {appended : Log}
    (some : min io.written data.length ≠ 0) (opened : s.file ≠ none)
    (logged : appended.logged = s.logged ++ data.take io.written)
    (file : appended.file = s.file.map (fun written => written ++ data.take io.written))
    (size : appended.currentLogSize =
      s.currentLogSize + UInt32.ofNat (min io.written data.length)) :
    s.logged ++ data = (if maxLogSize ≤ appended.currentLogSize
        then (appended.closeLogfile io).1.logged else appended.logged) ↔
      s.Meets (.writeLog data io) := by
  have filled : data ≠ [] := by
    intro empty
    simp [empty] at some
  have condition : s.Meets (.writeLog data io) ↔ data.length ≤ io.written ∧
      (maxLogSize ≤ s.currentLogSize + UInt32.ofNat data.length →
        io.Keeps (s.file.map fun written => written ++ data)) := by
    have taken : io.written ≠ 0 := by omega
    simp [Meets, filled, opened, taken]
  rw [condition]
  by_cases whole : data.length ≤ io.written
  · rw [List.take_of_length_le whole] at logged file
    rw [Nat.min_eq_right whole] at size
    simp only [whole, true_and, ← size, ← file]
    split
    · rename_i full
      constructor
      · intro same
        by_contra lost
        have shorter := closeLogfile_lost fun keeps => lost fun _ => keeps
        rw [← same, logged] at shorter
        exact absurd shorter (Nat.lt_irrefl _)
      · intro keeps
        rw [closeLogfile_logged (keeps full), logged]
    · rename_i room
      exact iff_of_true logged.symm fun full => absurd full room
  · refine iff_of_false (fun same => ?_) fun both => whole both.1
    have most : (if maxLogSize ≤ appended.currentLogSize
        then (appended.closeLogfile io).1.logged else appended.logged).length ≤
          appended.logged.length := by
      split
      · by_cases keeps : io.Keeps appended.file
        · exact Nat.le_of_eq (congrArg List.length (closeLogfile_logged keeps))
        · exact Nat.le_of_lt (closeLogfile_lost keeps)
      · exact Nat.le_refl _
    rw [← same, logged, List.length_append, List.length_append, List.length_take] at most
    omega

/-- Data that is reported as written is in the log files when a file takes all of it and does not
lose it. -/
theorem honest_writeLog {data : List UInt8} {io : Io} (honest : s.Honest)
    (taken : s.step (.writeLog data io) = some t) :
    t.Honest ↔ s.Meets (.writeLog data io) := by
  obtain ⟨result, wrote, same⟩ := Option.map_eq_some_iff.mp taken
  by_cases closed : s.file = none
  · rw [writeLogdata_closed closed] at wrote
    cases wrote
    cases same
    show s.reported ++ data = s.logged ↔ data = [] ∨ s.file ≠ none ∧ _
    rw [← honest]
    simp [closed]
  · obtain ⟨reported, rest⟩ := writeLogdata_logged closed wrote
    by_cases none : min io.written data.length = 0
    · rw [if_pos none] at rest
      have told : t.reported = s.reported ∧ t.logged = s.logged := by
        rw [← same, report, if_neg (by simp [rest.2])]
        exact ⟨reported, rest.1⟩
      rw [Honest, told.1, told.2]
      refine iff_of_true honest ?_
      by_cases empty : data.length = 0
      · exact Or.inl (List.eq_nil_iff_length_eq_zero.mpr empty)
      · exact Or.inr ⟨closed, Or.inl (by omega)⟩
    · rw [if_neg none] at rest
      obtain ⟨answer, appended, logged, file, size, files⟩ := rest
      have told : t.reported = s.reported ++ data ∧ t.logged = result.1.logged := by
        rw [← same, report, if_pos answer, reported]
        exact ⟨rfl, rfl⟩
      rw [Honest, told.1, told.2, files, show s.reported = s.logged from honest]
      exact honest_written none closed logged file size

/-- A log is closed honestly if nothing of it is lost. -/
theorem honest_closed {io : Io} (honest : s.Honest) (reported : t.reported = s.reported)
    (logged : t.logged = (s.closeLogfile io).1.logged) : t.Honest ↔ io.Keeps s.file := by
  rw [Honest, reported, show s.reported = s.logged from honest, logged]
  constructor
  · intro same
    by_contra lost
    have shorter := closeLogfile_lost lost
    rw [← same] at shorter
    exact absurd shorter (Nat.lt_irrefl _)
  · intro keeps
    rw [closeLogfile_logged keeps]

theorem honest_step {command : Command} (honest : s.Honest) (taken : s.step command = some t) :
    t.Honest ↔ s.Meets command := by
  cases command with
  | openLog path io =>
      obtain ⟨result, opened, same⟩ := Option.map_eq_some_iff.mp taken
      cases same
      obtain ⟨reported, ⟨reopens, logged⟩ | ⟨stays, logged⟩⟩ := openLogfile_logged opened
      · rw [honest_closed honest reported logged]
        exact ⟨fun keeps _ => keeps, fun meets => meets reopens⟩
      · exact iff_of_true (reported.trans (honest.trans logged.symm)) fun reopens =>
          absurd reopens stays
  | closeLog io =>
      cases taken
      exact honest_closed honest closeLogfile_reported.1 rfl
  | writeLog data io => exact honest_writeLog honest taken

end Steps

end Log
end Connectivity.LbsLog
