import Connectivity.Nmea.Tokens
import Connectivity.Transition.Run
import Mathlib.Data.List.Basic
import Mathlib.Logic.Function.Basic

set_option autoImplicit false

/- The name that a log of the GPS gets when it is finished, the folder of the logs and the check
that keeps it within its limits. -/
namespace Connectivity.LbsLog

open Transition

abbrev Path := List Char

def maxPathLen : Nat := 256

def logNameSuffix : Path := ['.', 'n', 'm', 'a']

def logNameSuffixWriting : Path := ['.', 'n', 'm', 'a', '.', 'c', 'u', 'r', 'f']

/-- `snprintf` into `MAX_PATH_LEN` bytes. -/
def snprintf (text : Path) : Path := text.take (maxPathLen - 1)

/-- `%d`. -/
def decimal : Int → Path
  | .ofNat n => Nat.toDigits 10 n
  | .negSucc n => '-' :: Nat.toDigits 10 (n + 1)

/-- What the names of a log begin with, the number of its split included. -/
def splitBase (base : Path) (splitNumber : Int) : Path :=
  if splitNumber = 0 then base else base ++ '-' :: decimal splitNumber

/-- A log by the name it was opened with and the number of its split. -/
structure LogName where
  logNameBase : Path
  splitNumber : Int
deriving DecidableEq, Repr

/-- The contents of the files. -/
abbrev Files := Path → Option (List UInt8)

namespace Files

/-- `rename` of a file that is there, when the system does not refuse it. -/
def rename (files : Files) (old new : Path) : Files :=
  Function.update (Function.update files old none) new (files old)

variable (files : Files)

/-- The name with `tmp_suffix`, which is below `a` at first. -/
def withSuffix (filenameBase : Path) (tmpSuffix : Nat) : Path :=
  if tmpSuffix < 'a'.toNat then snprintf (filenameBase ++ logNameSuffix)
  else snprintf (filenameBase ++ '_' :: Char.ofNat tmpSuffix :: logNameSuffix)

/-- The loop of `gps_log_file_rename` while `tmp_suffix` has `left` values to come up to `z`; behind
`z` the name without a suffix is taken as it is. -/
def filenameRename (filenameBase : Path) : Nat → Path
  | 0 => snprintf (filenameBase ++ logNameSuffix)
  | left + 1 =>
      let name := withSuffix filenameBase ('z'.toNat - left)
      if files name ≠ none then filenameRename filenameBase left else name

end Files

namespace LogName

variable (log : LogName)

def filenameBase : Path := snprintf (splitBase log.logNameBase log.splitNumber)

def filenameCurrent : Path :=
  snprintf (splitBase log.logNameBase log.splitNumber ++ logNameSuffixWriting)

/-- The name that `gps_log_file_rename` chooses, if it comes to that. -/
def filenameRename (files : Files) : Option Path :=
  if log.logNameBase = [] then none
  else if files log.filenameCurrent = none then none
  else some (files.filenameRename log.filenameBase 27)

/-- `gps_log_file_rename`, which only logs it when the rename is refused. -/
def gpsLogFileRename (refused : Bool) (files : Files) : Files × Bool :=
  match log.filenameRename files with
  | none => (files, false)
  | some filename =>
      (if refused then files else files.rename log.filenameCurrent filename, true)

/-- The names that are tried. -/
def newNames : List Path :=
  (List.range 27).map fun i => Files.withSuffix log.filenameBase ('a'.toNat - 1 + i)

end LogName

/-- A log is finished, or anything else becomes of a file. -/
inductive Change
  | finished (log : LogName) (refused : Bool)
  | other (path : Path) (data : Option (List UInt8))

namespace Files

def step (files : Files) : Change → Option Files
  | .finished log refused => some (log.gpsLogFileRename refused files).1
  | .other path data => some (Function.update files path data)

/-- The name chosen for a finished log is free or its rename is refused; no other file changes. -/
def KeepsOthers (files : Files) : Change → Prop
  | .finished log refused =>
      (∀ filename, log.filenameRename files = some filename →
        refused = true ∨ files filename = none) ∧
      ∀ path data, path ≠ log.filenameCurrent → files path = some data →
        (log.gpsLogFileRename refused files).1 path = some data
  | .other _ _ => True

/-- There is a name to be had, or there is no rename. -/
def HasName (files : Files) : Change → Prop
  | .finished log refused => log.logNameBase = [] ∨ files log.filenameCurrent = none ∨
      refused = true ∨ ∃ name ∈ log.newNames, files name = none
  | .other _ _ => True

variable {files : Files} {base : Path}

/-- The loop ends with a free name if one is to come. -/
theorem filenameRename_free {left tmpSuffix : Nat} (above : 'z'.toNat < tmpSuffix + left)
    (below : tmpSuffix ≤ 'z'.toNat) (free : files (withSuffix base tmpSuffix) = none) :
    files (files.filenameRename base left) = none := by
  induction left with
  | zero => omega
  | succ left ih =>
      rw [filenameRename]
      split
      · rename_i taken
        by_cases here : tmpSuffix = 'z'.toNat - left
        · rw [here] at free
          exact absurd free taken
        · exact ih (by omega)
      · rename_i found
        exact not_not.mp found

/-- The loop ends with the name it began with if none is free. -/
theorem filenameRename_taken {left : Nat}
    (taken : ∀ tmpSuffix, 'z'.toNat < tmpSuffix + left → tmpSuffix ≤ 'z'.toNat →
      files (withSuffix base tmpSuffix) ≠ none) (within : left ≤ 27) :
    files.filenameRename base left = snprintf (base ++ logNameSuffix) := by
  induction left with
  | zero => rfl
  | succ left ih =>
      have z : 'z'.toNat = 122 := rfl
      rw [filenameRename, if_pos (taken ('z'.toNat - left) (by omega) (by omega))]
      exact ih (fun tmpSuffix above below => taken tmpSuffix (by omega) below) (by omega)

end Files

namespace LogName

variable {log : LogName} {files : Files}

theorem mem_newNames {name : Path} : name ∈ log.newNames ↔
    ∃ tmpSuffix, 'a'.toNat ≤ tmpSuffix + 1 ∧ tmpSuffix ≤ 'z'.toNat ∧
      Files.withSuffix log.filenameBase tmpSuffix = name := by
  have a : 'a'.toNat = 97 := rfl
  have z : 'z'.toNat = 122 := rfl
  unfold newNames
  rw [List.mem_map]
  constructor
  · intro ⟨i, member, same⟩
    have within := List.mem_range.mp member
    exact ⟨'a'.toNat - 1 + i, by omega, by omega, same⟩
  · intro ⟨tmpSuffix, least, most, same⟩
    refine ⟨tmpSuffix - 96, List.mem_range.mpr (by omega), ?_⟩
    have shifted : 'a'.toNat - 1 + (tmpSuffix - 96) = tmpSuffix := by omega
    rw [shifted]
    exact same

theorem chosen_free (free : ∃ name ∈ log.newNames, files name = none) :
    files (files.filenameRename log.filenameBase 27) = none := by
  have a : 'a'.toNat = 97 := rfl
  have z : 'z'.toNat = 122 := rfl
  obtain ⟨name, member, none⟩ := free
  obtain ⟨tmpSuffix, least, most, same⟩ := mem_newNames.mp member
  rw [← same] at none
  exact Files.filenameRename_free (by omega) most none

/-- When no name is free, the one without a suffix is chosen. -/
theorem chosen_taken (taken : ∀ name ∈ log.newNames, files name ≠ none) :
    files (files.filenameRename log.filenameBase 27) ≠ none := by
  have a : 'a'.toNat = 97 := rfl
  have z : 'z'.toNat = 122 := rfl
  have last : files.filenameRename log.filenameBase 27 =
      Files.withSuffix log.filenameBase ('a'.toNat - 1) := by
    refine Files.filenameRename_taken (fun tmpSuffix above below => ?_) (Nat.le_refl 27)
    exact taken _ (mem_newNames.mpr ⟨tmpSuffix, by omega, below, rfl⟩)
  rw [last]
  exact taken _ (mem_newNames.mpr ⟨96, by decide, by decide, rfl⟩)

/-- A rename onto a free name changes no other file. -/
theorem rename_kept {old new path : Path} {data : List UInt8} (free : files new = none)
    (other : path ≠ old) (kept : files path = some data) :
    files.rename old new path = some data := by
  have apart : path ≠ new := by
    intro same
    rw [same, free] at kept
    cases kept
  rw [Files.rename, Function.update_of_ne apart, Function.update_of_ne other]
  exact kept

theorem filenameRename_some {filename : Path} (chosen : log.filenameRename files = some filename) :
    log.logNameBase ≠ [] ∧ files log.filenameCurrent ≠ none ∧
      files.filenameRename log.filenameBase 27 = filename := by
  rw [filenameRename] at chosen
  split at chosen
  · cases chosen
  · rename_i based
    split at chosen
    · cases chosen
    · rename_i present
      exact ⟨based, present, Option.some.inj chosen⟩

end LogName

namespace Files

variable {files : Files}

/-- A rename keeps the other files when a name is to be had, and else it does not. -/
theorem keepsOthers_iff (change : Change) : files.KeepsOthers change ↔ files.HasName change := by
  cases change with
  | other path data => exact Iff.rfl
  | finished log refused =>
      constructor
      · intro ⟨free, _⟩
        by_contra missing
        obtain ⟨based, missing⟩ := not_or.mp missing
        obtain ⟨present, missing⟩ := not_or.mp missing
        obtain ⟨renamed, taken⟩ := not_or.mp missing
        have chosen : log.filenameRename files =
            some (files.filenameRename log.filenameBase 27) := by
          rw [LogName.filenameRename, if_neg based, if_neg present]
        cases free _ chosen with
        | inl other => exact renamed other
        | inr free =>
            exact LogName.chosen_taken (fun name member none => taken ⟨name, member, none⟩) free
      · intro named
        have free : ∀ filename, log.filenameRename files = some filename →
            refused = true ∨ files filename = none := by
          intro filename chosen
          obtain ⟨based, present, same⟩ := LogName.filenameRename_some chosen
          rcases named with empty | missing | refusal | free
          · exact absurd empty based
          · exact absurd missing present
          · exact Or.inl refusal
          · rw [← same]
            exact Or.inr (LogName.chosen_free free)
        refine ⟨free, fun path data other kept => ?_⟩
        rw [LogName.gpsLogFileRename]
        cases chosen : log.filenameRename files with
        | none => exact kept
        | some filename =>
            show (if refused = true then files else _) path = some data
            split
            · exact kept
            · rename_i renamed
              cases free filename chosen with
              | inl other => exact absurd other renamed
              | inr free => exact LogName.rename_kept free other kept

/-- Whatever files there are and whatever becomes of them in between, the renames of finished logs
keep all others as long as each has a name to be had. -/
theorem renames_keep_others (changes : List Change) :
    StepsMeet step KeepsOthers files changes ↔ StepsMeet step HasName files changes := by
  apply @stepsMeet_congr _ _ _ fun _ => True
  case same => exact fun _ change _ => keepsOthers_iff change
  case kept => exact fun _ _ _ _ _ _ => trivial
  case start => trivial

/-- The first log of a second, `g`, with all the names taken that it could get. -/
def crowdedLog : LogName := ⟨['g'], 0⟩

def crowded : Files := fun path =>
  if path = crowdedLog.filenameCurrent then some [1]
  else if path ∈ crowdedLog.newNames then some [0] else none

/-- The name without a suffix is chosen again, and the log that has it is lost. -/
theorem not_renames_keep_others :
    ¬ ∀ (files : Files) (changes : List Change), StepsMeet step KeepsOthers files changes := by
  intro all
  have met := (all crowded [.finished crowdedLog false] _ rfl).1
  have chosen : crowdedLog.filenameRename crowded = some ['g', '.', 'n', 'm', 'a'] := by decide
  cases met.1 _ chosen with
  | inl refusal => cases refusal
  | inr free => exact absurd free (by decide)

end Files
end Connectivity.LbsLog

namespace Connectivity.LbsLog

open Nmea (int32)

def logNamePrefix : Path := ['G', 'P', 'S', '_', 'H', 'O', 'S', 'T']

def maxFolderSize : UInt32 := 1024 * 1024 * 1024

def maxLogNum : Int := 1000

/-- A value as a `short`. -/
def short (value : Int) : Int := value.bmod 65536

/-- A file of the folder; `d_name` has 256 bytes. -/
structure LogFile where
  dName : Path
  stSize : Nat
  stMtime : Int
  named : dName.length < 256
deriving DecidableEq, Repr

/-- `MNLD_STRNCPY`. -/
def mnldStrncpy (src : Path) (size : Nat) : Path := src.take (size - 1)

def findGpsLogFile (filename : Path) : Bool := logNamePrefix.isPrefixOf filename

section Folder

variable (folder : Path) (dir : List LogFile)

def stat (filename : Path) : Option LogFile :=
  if folder.length + filename.length ≥ maxPathLen then none
  else dir.find? fun file => file.dName = filename

/-- `get_file_size`, as it is added to an `unsigned int`. -/
def getFileSize (filename : Path) : UInt32 :=
  match stat folder dir filename with
  | none => 0
  | some file => UInt32.ofNat file.stSize

/-- `cmp_file_time`: the `int` behind `deltaT`. -/
def cmpFileTime (filename1 filename2 : Path) : Option Int :=
  match stat folder dir filename1, stat folder dir filename2 with
  | some file1, some file2 => some (int32 (file1.stMtime - file2.stMtime))
  | _, _ => none

/-- What one round of the check has seen of the folder. -/
structure Scan where
  dirLogSize : UInt32
  totalFileCount : Int
  oldGpsFile : Path
deriving DecidableEq, Repr

def Scan.Over (scan : Scan) : Prop :=
  maxFolderSize < scan.dirLogSize ∨ maxLogNum < scan.totalFileCount

instance (scan : Scan) : Decidable scan.Over := inferInstanceAs (Decidable (_ ∨ _))

/-- The `readdir` loop with one entry. -/
def scanEntry (scan : Scan) (entry : LogFile) : Scan :=
  let tempFilename := mnldStrncpy entry.dName (maxPathLen - 1)
  if entry.dName = ['.'] ∨ entry.dName = ['.', '.'] then scan
  else if findGpsLogFile tempFilename then
    { dirLogSize := scan.dirLogSize + getFileSize folder dir tempFilename
      totalFileCount := scan.totalFileCount + 1
      oldGpsFile :=
        if scan.oldGpsFile.take logNamePrefix.length ≠ tempFilename.take logNamePrefix.length then
          mnldStrncpy tempFilename (maxPathLen - 1)
        else
          match cmpFileTime folder dir tempFilename scan.oldGpsFile with
          | some deltaT =>
              if deltaT < 0 then mnldStrncpy tempFilename (maxPathLen - 1) else scan.oldGpsFile
          | none => scan.oldGpsFile }
  else scan

def scanDir : Scan := dir.foldl (scanEntry folder dir) ⟨0, 0, []⟩

/-- What is counted on after a removal, whether it has succeeded or not. -/
def estimate : Scan :=
  let scan := scanDir folder dir
  { scan with
    dirLogSize := scan.dirLogSize - getFileSize folder dir scan.oldGpsFile
    totalFileCount := scan.totalFileCount - 1 }

def isOldFile (file : LogFile) : Bool :=
  folder ++ file.dName = snprintf (folder ++ (scanDir folder dir).oldGpsFile)

/-- The file that `remove` is called for, if it is there. -/
def oldFile : Option LogFile := dir.find? (isOldFile folder dir)

def dropped : List LogFile := dir.eraseP (isOldFile folder dir)

end Folder

/-- What the database has recorded of the folder. -/
structure Record where
  currentFolderSize : UInt32
  currentLogNum : Int
deriving DecidableEq, Repr

/-- The outcome of a check, with the files it has deleted, each with the folder it was in. -/
structure Checked where
  ret : Bool
  record : Record
  dir : List LogFile
  deleted : List (LogFile × List LogFile)
deriving DecidableEq, Repr

def Scan.record (scan : Scan) : Record := ⟨scan.dirLogSize, short scan.totalFileCount⟩

/-- The `do` loop of `gps_log_dir_check`, with what becomes of its removals. -/
def dirCheckLoop (folder : Path) (removes : Nat → Bool) :
    Nat → Nat → List LogFile → List (LogFile × List LogFile) → Option Checked
  | 0, _, _, _ => none
  | rounds + 1, k, dir, deleted =>
      let scan := scanDir folder dir
      let left := estimate folder dir
      if scan.Over then
        match if removes k then oldFile folder dir else none with
        | some file =>
            if left.Over then
              dirCheckLoop folder removes rounds (k + 1) (dropped folder dir)
                ((file, dir) :: deleted)
            else some ⟨true, left.record, dropped folder dir, (file, dir) :: deleted⟩
        | none =>
            if left.Over then dirCheckLoop folder removes rounds (k + 1) dir deleted
            else some ⟨true, left.record, dir, deleted⟩
      else some ⟨true, scan.record, dir, deleted⟩

/-- A record that is neither empty nor beyond the limits. -/
def Record.Trusted (record : Record) : Prop :=
  (record.currentFolderSize ≠ 0 ∨ record.currentLogNum ≠ 0) ∧
    record.currentFolderSize ≤ maxFolderSize ∧ record.currentLogNum ≤ maxLogNum

instance (record : Record) : Decidable record.Trusted := inferInstanceAs (Decidable (_ ∧ _))

/-- `gps_log_dir_check` with a folder that may not be accessible, `none` if it needs more rounds. -/
def gpsLogDirCheck (rounds : Nat) (folder : Path) (accessible : Bool) (removes : Nat → Bool)
    (record : Record) (dir : List LogFile) : Option Checked :=
  if record.Trusted then some ⟨true, record, dir, []⟩
  else if accessible then dirCheckLoop folder removes rounds 0 dir []
  else some ⟨false, record, dir, []⟩

section Folder

variable (dir : List LogFile)

/-- The bytes of the logs in a folder. -/
def logSize : List LogFile → Nat
  | [] => 0
  | file :: rest => (if findGpsLogFile file.dName then file.stSize else 0) + logSize rest

def logCount : Nat := dir.countP fun file => findGpsLogFile file.dName

/-- None of the logs is older. -/
def Oldest (file : LogFile) : Prop :=
  ∀ other ∈ dir, findGpsLogFile other.dName → file.stMtime ≤ other.stMtime

def Record.Matches (record : Record) : Prop :=
  record.currentFolderSize.toNat = logSize dir ∧ record.currentLogNum = logCount dir

def Record.Within (record : Record) : Prop :=
  record.currentFolderSize ≤ maxFolderSize ∧ record.currentLogNum ≤ maxLogNum

instance (record : Record) : Decidable (record.Matches dir) := inferInstanceAs (Decidable (_ ∧ _))

end Folder

/-- The record is that of the folder and within the limits if the check says so, and each file that
was deleted was the oldest. -/
structure Checked.Right (checked : Checked) : Prop where
  exact : checked.ret = true → checked.record.Matches checked.dir ∧ checked.record.Within
  oldest : ∀ deletion ∈ checked.deleted, Oldest deletion.2 deletion.1

/-- The first of the removals from the `k`-th on that succeeds. -/
def FirstRemoval (removes : Nat → Bool) (k s : Nat) : Prop :=
  k ≤ s ∧ removes s = true ∧ ∀ i, k ≤ i → i < s → removes i = false

/-- The name of a file fits into the buffers, behind the folder too. -/
def LogFile.Fits (folder : Path) (file : LogFile) : Prop :=
  file.dName.length < maxPathLen - 1 ∧ folder.length + file.dName.length < maxPathLen

/-- No two files have one name, and each log has a name that fits, or no bytes and a path that is
too long, even cut. -/
structure Counted (folder : Path) (dir : List LogFile) : Prop where
  names : dir.Pairwise fun file other => file.dName ≠ other.dName
  sizes : ∀ file ∈ dir, findGpsLogFile file.dName → file.Fits folder ∨
    file.stSize = 0 ∧ maxPathLen ≤ folder.length + (mnldStrncpy file.dName (maxPathLen - 1)).length

/-- The check can tell the logs apart: their names fit, and the times of two of them differ by an
`int`. -/
structure Ordinary (folder : Path) (dir : List LogFile) : Prop where
  names : dir.Pairwise fun file other => file.dName ≠ other.dName
  fits : ∀ file ∈ dir, findGpsLogFile file.dName → file.Fits folder
  times : ∀ file ∈ dir, ∀ other ∈ dir, findGpsLogFile file.dName → findGpsLogFile other.dName →
    file.stMtime - other.stMtime < 2147483648

/-- The logs are too many or too large, with their size as an `unsigned int`. -/
def Beyond (dir : List LogFile) : Prop :=
  maxFolderSize.toNat < logSize dir % 4294967296 ∨ maxLogNum < logCount dir

instance (dir : List LogFile) : Decidable (Beyond dir) := inferInstanceAs (Decidable (_ ∨ _))

instance (dir : List LogFile) (file : LogFile) : Decidable (Oldest dir file) :=
  inferInstanceAs (Decidable (∀ other ∈ dir, _))

def isOldestLog (dir : List LogFile) (file : LogFile) : Bool :=
  findGpsLogFile file.dName && decide (Oldest dir file)

/-- The folder without the first of its oldest logs. -/
def dropOldest (dir : List LogFile) : List LogFile := dir.eraseP (isOldestLog dir)

/-- `n` logs have to go, each the oldest, until the folder is within its limits: all removals but
the last are tried until they succeed, the last one succeeds at once, and what is left has a size
below 2^32. -/
def Clears (removes : Nat → Bool) : Nat → Nat → List LogFile → Prop
  | 0, _, dir => ¬ Beyond dir ∧ logSize dir < 4294967296
  | n + 1, k, dir =>
      Beyond dir ∧
        if Beyond (dropOldest dir) then
          ∃ s, FirstRemoval removes k s ∧ Clears removes n (s + 1) (dropOldest dir)
        else n = 0 ∧ removes k = true ∧ logSize (dropOldest dir) < 4294967296

end Connectivity.LbsLog
