import Connectivity.Epo.Pieces

set_option autoImplicit false

/- What the scan of the checksums counts, and what a merge appends. -/
namespace Connectivity.Epo

open Bytes

/-- The first records of a file, so many, are there and have good checksums. -/
def RecordsPass (file : List UInt8) (n : Nat) : Prop :=
  ∀ i < n, oneSvSize * (i + 1) ≤ file.length ∧
    mtkEpo1svChecksumCheck ((file.drop (oneSvSize * i)).take oneSvSize) = true

/-- The length of the most sets that a file begins with, all of whose records pass. -/
def LongestCut (type : EpoType) (file : List UInt8) (length : Nat) : Prop :=
  ∃ sets, length = sets * type.maxSegmentSize ∧ RecordsPass file (sets * type.maxSvNum) ∧
    ∀ more, RecordsPass file (more * type.maxSvNum) → more ≤ sets

theorem RecordsPass.mono {file : List UInt8} {m n : Nat} (pass : RecordsPass file n)
    (fewer : m ≤ n) : RecordsPass file m := by
  intro i small
  exact pass i (Nat.lt_of_lt_of_le small fewer)

/-- Where the scan stops, the next record is missing or bad. -/
theorem recordsPass_iff_of_stop {file : List UInt8} {svCnt : Nat}
    (pass : RecordsPass file svCnt)
    (stop : oneSvSize * (svCnt + 1) ≤ file.length →
      mtkEpo1svChecksumCheck ((file.drop (oneSvSize * svCnt)).take oneSvSize) ≠ true) (n : Nat) :
    RecordsPass file n ↔ n ≤ svCnt := by
  constructor
  · intro all
    by_contra more
    obtain ⟨present, good⟩ := all svCnt (by omega)
    exact stop present good
  · exact pass.mono

theorem recordsPass_succ {file : List UInt8} {svCnt : Nat} (pass : RecordsPass file svCnt)
    (present : oneSvSize * (svCnt + 1) ≤ file.length)
    (good : mtkEpo1svChecksumCheck ((file.drop (oneSvSize * svCnt)).take oneSvSize) = true) :
    RecordsPass file (svCnt + 1) := by
  intro i small
  by_cases last : i = svCnt
  · rw [last]
    exact ⟨present, good⟩
  · exact pass i (by omega)

/-- The scan counts the records in front of the first that is missing or bad. -/
theorem recordsPass_iff {file : List UInt8} (fuel : Nat) {svCnt : Nat}
    (pass : RecordsPass file svCnt)
    (enough : (file.drop (oneSvSize * svCnt)).length < fuel) (n : Nat) :
    RecordsPass file n ↔
      n ≤ countSv file.length fuel svCnt (file.drop (oneSvSize * svCnt)) := by
  have record : oneSvSize = 72 := rfl
  induction fuel generalizing svCnt with
  | zero => exact absurd enough (Nat.not_lt_zero _)
  | succ fuel ih =>
      have next : oneSvSize * (svCnt + 1) = oneSvSize * svCnt + oneSvSize := Nat.mul_succ ..
      have read : svCnt * oneSvSize = oneSvSize * svCnt := Nat.mul_comm ..
      rw [List.length_drop] at enough
      rw [countSv]
      split
      · split
        · rename_i short
          rw [List.length_drop] at short
          apply recordsPass_iff_of_stop pass
          intro present
          omega
        · rename_i full
          rw [List.length_drop] at full
          split
          · rename_i good
            rw [List.drop_drop, ← Nat.mul_succ]
            apply ih (recordsPass_succ pass (by omega) good)
            rw [List.length_drop]
            omega
          · rename_i bad
            exact recordsPass_iff_of_stop pass (fun _ => bad) n
      · rename_i behind
        apply recordsPass_iff_of_stop pass
        intro present
        omega

theorem getFileSize_fits (dat : EpoDat) : getFileSize true dat.bytes = dat.bytes.length := by
  have fits := dat.fits
  rw [getFileSize, if_pos rfl, BitVec.toInt_eq_toNat_of_lt, BitVec.toNat_ofNat]
  · rw [Nat.mod_eq_of_lt (by omega)]
  · rw [BitVec.toNat_ofNat]
    omega

theorem maxSvNum_pos (type : EpoType) : 0 < type.maxSvNum := by
  cases type with
  | gpsGlo => decide
  | gps => decide

/-- The number of records that a scan from the beginning counts. -/
theorem recordsPass_iff_counted (file : List UInt8) (n : Nat) :
    RecordsPass file n ↔ n ≤ countSv file.length (file.length + 1) 0 file := by
  have none : RecordsPass file 0 := fun i small => absurd small (Nat.not_lt_zero i)
  have scan := recordsPass_iff (file.length + 1) none
  rw [Nat.mul_zero, List.drop_zero] at scan
  exact scan (Nat.lt_succ_self _) n

theorem maxSegmentSize_pos (type : EpoType) : 0 < type.maxSegmentSize := by
  cases type with
  | gpsGlo => decide
  | gps => decide

/-- What the check of the checksums says of a piece is the length of its good sets; of the
first piece it demands more than eight. -/
theorem epoDATChecksumCheck_spec {type : EpoType} {count : Nat} {o : PieceOutcome}
    {piece : Piece} {dat : EpoDat} (file : piece.datFile = some dat)
    (valid : epoDATChecksumCheck type count o piece > 0) :
    ∃ length, epoDATChecksumCheck type count o piece = (length : Nat) ∧
      LongestCut type dat.bytes length ∧ (count = 0 → 8 * type.maxSegmentSize < length) := by
  have scan := recordsPass_iff_counted dat.bytes
  rw [epoDATChecksumCheck, file] at valid ⊢
  dsimp only at valid ⊢
  by_cases closed : o.scanOpens = false ∨ getFileSize o.sized dat.bytes = -1
  · rw [if_pos closed] at valid
    omega
  · rw [if_neg closed] at valid ⊢
    have sized : o.sized = true := by
      by_contra unsized
      exact closed (.inr (by rw [getFileSize, if_neg unsized]))
    rw [sized, getFileSize_fits] at valid ⊢
    generalize countSv dat.bytes.length (dat.bytes.length + 1) 0 dat.bytes = svCnt at scan valid ⊢
    by_cases enough : svCnt / type.maxSvNum > 8 ∨ count > 0
    · rw [if_pos enough]
      refine ⟨_, rfl, ⟨svCnt / type.maxSvNum, rfl, ?_, ?_⟩, ?_⟩
      · apply (scan _).mpr
        exact Nat.div_mul_le_self ..
      · intro more pass
        exact (Nat.le_div_iff_mul_le (maxSvNum_pos type)).mpr ((scan _).mp pass)
      · intro first
        have many : 8 < svCnt / type.maxSvNum := by omega
        exact Nat.mul_lt_mul_of_pos_right many (maxSegmentSize_pos type)
    · rw [if_neg enough] at valid
      omega

/-- More than eight good sets are enough for each piece. -/
theorem epoDATChecksumCheck_pos {type : EpoType} {count n : Nat} {o : PieceOutcome}
    {piece : Piece} {dat : EpoDat} (file : piece.datFile = some dat) (opens : o.scanOpens = true)
    (sized : o.sized = true) (pass : RecordsPass dat.bytes n) (enough : 8 < n / type.maxSvNum) :
    epoDATChecksumCheck type count o piece > 0 := by
  have counted := (recordsPass_iff_counted dat.bytes n).mp pass
  have opened : ¬ (o.scanOpens = false ∨ getFileSize o.sized dat.bytes = -1) := by
    intro closed
    rcases closed with shut | unsized
    · rw [opens] at shut
      cases shut
    · rw [sized, getFileSize_fits] at unsized
      omega
  rw [epoDATChecksumCheck, file]
  dsimp only
  rw [if_neg opened, sized, getFileSize_fits]
  generalize countSv dat.bytes.length (dat.bytes.length + 1) 0 dat.bytes = svCnt at counted ⊢
  have many : 8 < svCnt / type.maxSvNum := by
    have sets : n / type.maxSvNum ≤ svCnt / type.maxSvNum := Nat.div_le_div_right counted
    omega
  rw [if_pos (.inl many)]
  have bytes : 0 < svCnt / type.maxSvNum * type.maxSegmentSize :=
    Nat.mul_pos (by omega) (maxSegmentSize_pos type)
  omega

/-- A merge of a whole piece appends all of it. -/
theorem merged_full {o : PieceOutcome} {piece : Piece} {dat : EpoDat}
    (opens : o.pieceOpens = true) (file : piece.datFile = some dat) :
    merged epoMergeFullFile o piece = dat.bytes := by
  rw [merged, file]
  dsimp only
  rw [if_pos opens]
  apply copyChunks_all (by decide) _ (Nat.le_refl _)
  intro n
  simp

/-- A merge of some chunks of a piece appends exactly these. -/
theorem merged_cut {o : PieceOutcome} {piece : Piece} {dat : EpoDat} {length : Nat}
    (opens : o.pieceOpens = true) (file : piece.datFile = some dat) (some : 0 < length)
    (chunks : bufSize ∣ length) : merged length o piece = dat.bytes.take length := by
  have limit : (fun len : Nat =>
      decide ((length : Int) ≠ epoMergeFullFile ∧ (length : Int) ≤ len)) =
        fun len => decide (length ≤ len) := by
    funext len
    rw [epoMergeFullFile]
    apply decide_eq_decide.mpr
    omega
  rw [merged, file]
  dsimp only
  rw [if_pos opens, limit, copyChunks_take some chunks (Nat.le_refl _), Nat.sub_zero]

end Connectivity.Epo
