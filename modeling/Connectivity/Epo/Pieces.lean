import Connectivity.Bytes.Buffer
import Connectivity.Epo.Downloads
import Mathlib.Logic.Function.Basic

set_option autoImplicit false

/- The download of mnld_entity/src/epo.c: pieces of three days, each an MD5 file and a DAT file,
that are merged into one file. -/
namespace Connectivity.Epo

open Bytes

/-- `MTK_EPO_TYPE`, less the end mark. -/
inductive EpoType
  | gpsGlo
  | gps
deriving DecidableEq

/-- `max_sv_num`: the satellites of a set. -/
def EpoType.maxSvNum : EpoType → Nat
  | .gpsGlo => 32 + 24
  | .gps => 32

/-- `max_segment_size`: the bytes of a set. -/
def EpoType.maxSegmentSize : EpoType → Nat
  | .gpsGlo => 72 * 32 + 72 * 24
  | .gps => 72 * 32

/-- A DAT file, whose size is an `int`. -/
structure EpoDat where
  bytes : List UInt8
  fits : bytes.length < 2 ^ 31
deriving DecidableEq

/-- How the last of the downloads of a file ends that one download process makes: there is none
while another download does not finish, it fails and leaves no file, or it leaves this file. -/
inductive Download (α : Type)
  | skipped
  | failed
  | complete (file : α)

/-- What befalls a piece: how its downloads end, and whether the calls that open a file and ask
for its size go well. -/
structure PieceOutcome where
  md5 : Download (List UInt8)
  dat : Download EpoDat
  /-- In the check of the MD5. -/
  datOpens : Bool
  md5Opens : Bool
  /-- In the check of the checksums. -/
  scanOpens : Bool
  sized : Bool
  /-- In the merge: the file that grows and the one that is read. -/
  halOpens : Bool
  pieceOpens : Bool

/-- `MTK_EPO_MAX_DAY`: `DW_DAYS` is read as a number up to this. -/
def epoMaxDay : Nat := 30

/-- A request: the day of the month, the days that are configured, and for each try what befalls
each piece. -/
structure EpoRequest where
  mday : Int
  days : Fin (epoMaxDay + 1)
  tries : Nat → Nat → PieceOutcome

/-- `gps_epo_download_piece`. -/
def EpoRequest.pieces (r : EpoRequest) : Nat :=
  if r.days.val % 3 > 0 then r.days.val / 3 + 1 else r.days.val / 3

/-- The flags of a piece and its files. -/
structure Piece where
  md5Available : Bool
  datAvailable : Bool
  md5File : Option (List UInt8)
  datFile : Option EpoDat
deriving DecidableEq

/-- `epo_status` and the files; `hal` is `EPO_UPDATE_HAL`. No step reads `passed`: the DAT files
of the day that have passed the check of their MD5. -/
structure EpoStatus where
  pieces : Nat → Piece
  lastDlDate : Int
  todayRetryTime : Nat
  hal : Option (List UInt8)
  passed : List (Nat × List UInt8)

/-- No flag is set at the start, whatever files there are. -/
def EpoStatus.init (md5Files : Nat → Option (List UInt8)) (datFiles : Nat → Option EpoDat)
    (hal : Option (List UInt8)) : EpoStatus :=
  ⟨fun i => ⟨false, false, md5Files i, datFiles i⟩, -1, 0, hal, []⟩

def EpoStatus.setPiece (s : EpoStatus) (count : Nat) (piece : Piece) : EpoStatus :=
  { s with pieces := Function.update s.pieces count piece }

@[simp] theorem setPiece_self (s : EpoStatus) (count : Nat) (piece : Piece) :
    (s.setPiece count piece).pieces count = piece := Function.update_self ..

theorem setPiece_of_ne (s : EpoStatus) (piece : Piece) {count i : Nat} (other : i ≠ count) :
    (s.setPiece count piece).pieces i = s.pieces i := Function.update_of_ne other ..

/-- `EPO_MERGE_FULL_FILE`. -/
def epoMergeFullFile : Int := -1

/-- The size of the buffer that a piece is copied with. -/
def bufSize : Nat := 256

/-- The bytes of a piece that are appended. A file that cannot be opened appends nothing. -/
def merged (fileLength : Int) (o : PieceOutcome) (piece : Piece) : List UInt8 :=
  match piece.datFile with
  | none => []
  | some file =>
      if o.pieceOpens then
        copyChunks bufSize (fun len => fileLength ≠ epoMergeFullFile ∧ fileLength ≤ len)
          file.bytes.length 0 file.bytes
      else []

def epoDATFileMerge (fileLength : Int) (count : Nat) (o : PieceOutcome) (s : EpoStatus) :
    Int × EpoStatus :=
  -- first piece to merge, delete old EPOHAL.DAT
  let s := if count = 0 then { s with hal := none } else s
  if o.halOpens then
    (0, { s with hal := some (s.hal.getD [] ++ merged fileLength o (s.pieces count)) })
  else (-1, s)

/-- The exclusive or of all words of a record but the last. -/
def epoChecksum (u4SVData : List UInt8) : BitVec 32 :=
  (List.range 17).foldl (fun checksum i => checksum ^^^ readWord u4SVData (4 * i)) 0

def mtkEpo1svChecksumCheck (u4SVData : List UInt8) : Bool :=
  epoChecksum u4SVData = readWord u4SVData (4 * 17)

/-- `sv_cnt` behind the loop that reads one record after the other. -/
def countSv (u4FileSize : Int) : Nat → Nat → List UInt8 → Nat
  | 0, svCnt, _ => svCnt
  | fuel + 1, svCnt, rest =>
      if (svCnt * oneSvSize : Nat) < u4FileSize then
        if rest.length < oneSvSize then svCnt
        else if mtkEpo1svChecksumCheck (rest.take oneSvSize) then
          countSv u4FileSize fuel (svCnt + 1) (rest.drop oneSvSize)
        else svCnt
      else svCnt

/-- The length of the sets at the beginning of a piece whose records have good checksums. -/
def epoDATChecksumCheck (type : EpoType) (count : Nat) (o : PieceOutcome) (piece : Piece) : Int :=
  match piece.datFile with
  | none => -1
  | some file =>
      let u4FileSize := getFileSize o.sized file.bytes
      if o.scanOpens = false ∨ u4FileSize = -1 then -1
      else
        let svCnt := countSv u4FileSize (file.bytes.length + 1) 0 file.bytes
        -- check if valid epo set more than 2 days. (1 epo set is 6hours, 8 means 2days)
        if svCnt / type.maxSvNum > 8 ∨ count > 0 then
          (svCnt / type.maxSvNum * type.maxSegmentSize : Nat)
        else -1

/-- `EPO_MD5_FILE_MAX_SIZE`. -/
def epoMd5FileMaxSize : Int := 50

def epoMD5DownloadProcess (o : PieceOutcome) (piece : Piece) : Md5Result × Piece :=
  match o.md5 with
  | .skipped => (.fail, piece)
  | .failed => (.fail, { piece with md5File := none })
  | .complete file =>
      let filesize := getFileSize true file
      if filesize ≤ 0 ∨ filesize > epoMd5FileMaxSize then
        (.fail, { piece with md5File := none })
      else (.updated, { piece with md5File := some file })

def epoDATDownloadProcess (o : PieceOutcome) (piece : Piece) : DownloadResult × Piece :=
  match o.dat with
  | .skipped => (.fail, piece)
  | .failed => (.fail, { piece with datFile := none })
  | .complete file =>
      if getFileSize true file.bytes ≤ 0 then (.fail, { piece with datFile := none })
      else (.success, { piece with datFile := some file })

section

variable (type : EpoType) (md5 : List UInt8 → List UInt8)

/-- Whether the MD5 of the DAT file is the one that the MD5 file begins with. -/
def mtkGpsEpoMd5MatchCheck (o : PieceOutcome) (piece : Piece) : Bool :=
  match piece.datFile, piece.md5File with
  | some dat, some file =>
      o.datOpens && o.md5Opens && !file.isEmpty && md5Text (md5 dat.bytes) = md5Text file
  | _, _ => false

/-- A turn of the loop over the pieces ends in its next turn or in a `break`. -/
inductive Turn
  | go (ret : DownloadResult) (s : EpoStatus)
  | stop (ret : DownloadResult) (s : EpoStatus)

def mergeFull (count : Nat) (o : PieceOutcome) (ret : DownloadResult) (s : EpoStatus) : Turn :=
  let (res, s) := epoDATFileMerge epoMergeFullFile count o s
  if res = -1 then .stop .fail s else .go ret s

def mergeCut (validFileLength : Int) (count : Nat) (o : PieceOutcome) (s : EpoStatus) : Turn :=
  let (res, s) := epoDATFileMerge validFileLength count o s
  if res = -1 then .stop .fail s else .stop .success s

/-- A DAT file whose MD5 matches is noted. -/
def EpoStatus.pass (s : EpoStatus) (count : Nat) (piece : Piece) : EpoStatus :=
  { s.setPiece count piece with
    passed := (piece.datFile.map fun dat => (count, dat.bytes)).toList ++ s.passed }

@[simp] theorem pass_self (s : EpoStatus) (count : Nat) (piece : Piece) :
    (s.pass count piece).pieces count = piece := setPiece_self ..

theorem mem_pass (s : EpoStatus) (count : Nat) {piece : Piece} {dat : EpoDat}
    (datFile : piece.datFile = some dat) : (count, dat.bytes) ∈ (s.pass count piece).passed := by
  rw [EpoStatus.pass, datFile]
  exact List.mem_cons_self

def epoTurn (count : Nat) (o : PieceOutcome) (ret : DownloadResult) (s : EpoStatus) : Turn :=
  let piece := s.pieces count
  if piece.md5Available ∧ piece.datAvailable then mergeFull count o ret s
  else
    let (retMD5, piece) :=
      if piece.md5Available then (Md5Result.updated, piece) else epoMD5DownloadProcess o piece
    if retMD5 ≠ .updated then .stop (if count = 0 then .fail else ret) (s.setPiece count piece)
    else
      let (retDAT, piece) := epoDATDownloadProcess o { piece with md5Available := true }
      if retDAT ≠ .success then .stop .fail (s.setPiece count piece)
      else if mtkGpsEpoMd5MatchCheck md5 o piece then
        mergeFull count o .success (s.pass count { piece with datAvailable := true })
      else
        let validFileLength := epoDATChecksumCheck type count o piece
        if validFileLength > 0 then mergeCut validFileLength count o (s.setPiece count piece)
        else
          .stop .fail
            ({ s with todayRetryTime := s.todayRetryTime + 1 }.setPiece count
              ⟨false, false, none, none⟩)

/-- The result, `gps_epo_file_count` and the status behind the loop over the pieces. -/
def epoPieceLoop (outcomes : Nat → PieceOutcome) :
    Nat → Nat → DownloadResult → EpoStatus → DownloadResult × Nat × EpoStatus
  | 0, count, ret, s => (ret, count, s)
  | left + 1, count, ret, s =>
      match epoTurn type md5 count (outcomes count) ret s with
      | .go ret s => epoPieceLoop outcomes left (count + 1) ret s
      | .stop ret s => (ret, count, s)

/-- A new day comes: reset the flags and delete the files. -/
def EpoStatus.newDay (s : EpoStatus) (r : EpoRequest) : EpoStatus :=
  if s.lastDlDate ≠ r.mday then
    { s with
      pieces := fun i =>
        if i < r.pieces then ⟨false, false, none, none⟩
        else { s.pieces i with md5Available := false, datAvailable := false }
      todayRetryTime := 0
      lastDlDate := r.mday
      passed := [] }
  else s

def checkEpoFileExist (n : Nat) (s : EpoStatus) : EpoStatus :=
  { s with
    pieces := fun i =>
      let piece := s.pieces i
      if i < n then
        { piece with
          md5Available := piece.md5Available && piece.md5File.isSome
          datAvailable := piece.datAvailable && piece.datFile.isSome }
      else piece }

def unlinkPieces (n : Nat) (s : EpoStatus) : EpoStatus :=
  { s with
    pieces := fun i =>
      if i < n then { s.pieces i with md5File := none, datFile := none } else s.pieces i }

/-- `EPO_INVALIDE_DL_MAX_RETRY_TIME`. -/
def epoInvalideDlMaxRetryTime : Nat := 3

/-- The tries that are left; only piece 1 needs to be retried. -/
def epoTries (r : EpoRequest) : Nat → DownloadResult → EpoStatus → DownloadResult × EpoStatus
  | 0, ret, s => (ret, s)
  | left + 1, ret, s =>
      let s := checkEpoFileExist r.pieces (s.newDay r)
      let outcomes := r.tries (epoInvalideDlMaxRetryTime - left)
      let (ret, count, s) := epoPieceLoop type md5 outcomes r.pieces 0 ret s
      if ret = .success then (ret, unlinkPieces r.pieces s)
      else if count = 0 then epoTries r left ret s
      else (ret, s)

def epoFileDownloadImpl (s : EpoStatus) (r : EpoRequest) : DownloadResult × EpoStatus :=
  epoTries type md5 r (epoInvalideDlMaxRetryTime + 1) .success { s with hal := none }

end

end Connectivity.Epo
