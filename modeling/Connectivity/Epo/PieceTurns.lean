import Connectivity.Epo.PieceScan

set_option autoImplicit false

/- What a turn of the loop over the pieces can do, and that the flags stay right. -/
namespace Connectivity.Epo

/-- The flags that are set are right: a DAT file that is there has passed. -/
def SoundAt (passed : List (Nat × List UInt8)) (i : Nat) (piece : Piece) : Prop :=
  piece.datAvailable = true →
    piece.md5Available = true ∧ (piece.datFile = none ↔ piece.md5File = none) ∧
      ∀ dat, piece.datFile = some dat → (i, dat.bytes) ∈ passed

def EpoStatus.Sound (s : EpoStatus) : Prop := ∀ i, SoundAt s.passed i (s.pieces i)

/-- A piece that is not downloaded again has its DAT file. -/
def EpoStatus.Ready (s : EpoStatus) (i : Nat) : Prop :=
  (s.pieces i).datAvailable = true → (s.pieces i).datFile ≠ none

theorem soundAt_of_unset {passed : List (Nat × List UInt8)} {i : Nat} {piece : Piece}
    (unset : piece.datAvailable = false) : SoundAt passed i piece := by
  intro set
  rw [unset] at set
  cases set

theorem SoundAt.mono {passed more : List (Nat × List UInt8)} {i : Nat} {piece : Piece}
    (sound : SoundAt passed i piece) (grows : passed ⊆ more) : SoundAt more i piece := by
  intro set
  obtain ⟨md5, files, pass⟩ := sound set
  exact ⟨md5, files, fun dat file => grows (pass dat file)⟩

section Turns

variable {type : EpoType} {md5 : List UInt8 → List UInt8}
variable {count : Nat} {o : PieceOutcome} {ret : DownloadResult} {s : EpoStatus}

/-- The status behind a turn. -/
def Turn.status : Turn → EpoStatus
  | .go _ s => s
  | .stop _ s => s

/-- What a turn can do. -/
inductive TurnOf (type : EpoType) (count : Nat) (o : PieceOutcome) (ret : DownloadResult)
    (s : EpoStatus) : Turn → Prop
  /-- The piece is there already. -/
  | again (set : (s.pieces count).datAvailable = true) :
      TurnOf type count o ret s (mergeFull count o ret s)
  /-- A download fails, or the piece is not good enough. -/
  | ends (piece : Piece) (retry : Nat) (ret' : DownloadResult)
      (unset : piece.datAvailable = false) (failed : ret' = .success → 0 < count) :
      TurnOf type count o ret s
        (.stop ret' ({ s with todayRetryTime := retry }.setPiece count piece))
  | matched (piece : Piece) (dat : EpoDat) (file : List UInt8)
      (datFile : piece.datFile = some dat) (md5File : piece.md5File = some file)
      (md5 : piece.md5Available = true) :
      TurnOf type count o ret s (mergeFull count o .success (s.pass count piece))
  | cut (piece : Piece) (dat : EpoDat) (datFile : piece.datFile = some dat)
      (unset : piece.datAvailable = false) (downloaded : o.dat = .complete dat)
      (valid : epoDATChecksumCheck type count o piece > 0) :
      TurnOf type count o ret s
        (mergeCut (epoDATChecksumCheck type count o piece) count o (s.setPiece count piece))

theorem epoMD5DownloadProcess_spec {piece : Piece} (unset : piece.datAvailable = false) :
    (epoMD5DownloadProcess o piece).2.datAvailable = false := by
  rw [epoMD5DownloadProcess]
  split
  · exact unset
  · exact unset
  · dsimp only
    split
    · exact unset
    · exact unset

theorem epoDATDownloadProcess_spec (o : PieceOutcome) (piece : Piece) :
    (epoDATDownloadProcess o piece).2.datAvailable = piece.datAvailable ∧
      (epoDATDownloadProcess o piece).2.md5Available = piece.md5Available ∧
      ((epoDATDownloadProcess o piece).1 = .success →
        ∃ dat, o.dat = .complete dat ∧ (epoDATDownloadProcess o piece).2.datFile = some dat) := by
  cases dat : o.dat with
  | skipped => simp [epoDATDownloadProcess, dat]
  | failed => simp [epoDATDownloadProcess, dat]
  | complete file =>
      by_cases empty : getFileSize true file.bytes ≤ 0
      · simp [epoDATDownloadProcess, dat, empty]
      · simp [epoDATDownloadProcess, dat, empty]

theorem match_files {piece : Piece} (matches_ : mtkGpsEpoMd5MatchCheck md5 o piece = true) :
    ∃ dat file, piece.datFile = some dat ∧ piece.md5File = some file := by
  rw [mtkGpsEpoMd5MatchCheck] at matches_
  split at matches_
  · exact ⟨_, _, ‹_›, ‹_›⟩
  · cases matches_

theorem epoTurn_cases (type : EpoType) (md5 : List UInt8 → List UInt8) (o : PieceOutcome)
    (ret : DownloadResult) (sound : SoundAt s.passed count (s.pieces count)) :
    TurnOf type count o ret s (epoTurn type md5 count o ret s) := by
  rw [epoTurn]
  dsimp only
  by_cases both : (s.pieces count).md5Available ∧ (s.pieces count).datAvailable
  · rw [if_pos both]
    exact .again both.2
  · rw [if_neg both]
    have unset : (s.pieces count).datAvailable = false := by
      by_contra set
      have set : (s.pieces count).datAvailable = true := by simpa using set
      exact both ⟨(sound set).1, set⟩
    generalize first : (if (s.pieces count).md5Available then
      (Md5Result.updated, s.pieces count) else epoMD5DownloadProcess o (s.pieces count)) = got
    obtain ⟨retMD5, piece⟩ := got
    have kept : piece.datAvailable = false := by
      split at first
      · cases first
        exact unset
      · have spec := epoMD5DownloadProcess_spec (o := o) unset
        rw [first] at spec
        exact spec
    dsimp only
    by_cases available : retMD5 = .updated
    · rw [if_neg (not_not.mpr available)]
      have spec := epoDATDownloadProcess_spec o { piece with md5Available := true }
      generalize epoDATDownloadProcess o { piece with md5Available := true } = got at spec ⊢
      obtain ⟨retDAT, piece'⟩ := got
      obtain ⟨unset', available', success⟩ := spec
      dsimp only at unset' available' success ⊢
      rw [kept] at unset'
      by_cases downloaded : retDAT = .success
      · obtain ⟨dat, complete, datFile⟩ := success downloaded
        rw [if_neg (not_not.mpr downloaded)]
        by_cases equal : mtkGpsEpoMd5MatchCheck md5 o piece' = true
        · rw [if_pos equal]
          obtain ⟨_, file, _, md5File⟩ := match_files equal
          exact .matched { piece' with datAvailable := true } dat file datFile md5File available'
        · rw [if_neg equal]
          by_cases valid : epoDATChecksumCheck type count o piece' > 0
          · rw [if_pos valid]
            exact .cut piece' dat datFile unset' complete valid
          · rw [if_neg valid]
            apply TurnOf.ends _ _ _ rfl
            intro success
            cases success
      · rw [if_pos downloaded]
        apply TurnOf.ends piece' s.todayRetryTime _ unset'
        intro success
        cases success
    · rw [if_pos available]
      apply TurnOf.ends piece s.todayRetryTime _ kept
      intro success
      by_contra first
      rw [if_pos (Nat.eq_zero_of_not_pos first)] at success
      cases success

/-- A merge changes nothing but the file that grows. -/
theorem epoDATFileMerge_cases (fileLength : Int) (count : Nat) (o : PieceOutcome)
    (s : EpoStatus) :
    epoDATFileMerge fileLength count o s =
        (0, { s with
          hal := some ((if count = 0 then [] else s.hal.getD []) ++
            merged fileLength o (s.pieces count)) }) ∨
      ∃ hal, epoDATFileMerge fileLength count o s = (-1, { s with hal := hal }) := by
  rw [epoDATFileMerge]
  by_cases opens : o.halOpens = true
  · apply Or.inl
    by_cases first : count = 0
    · simp [opens, first]
    · simp [opens, first]
  · apply Or.inr
    by_cases first : count = 0
    · exact ⟨none, by simp [opens, first]⟩
    · exact ⟨s.hal, by simp [opens, first]⟩

/-- What a turn leaves alone: the other pieces, and what has passed. -/
structure Frame (count : Nat) (s t : EpoStatus) : Prop where
  others : ∀ i, i ≠ count → t.pieces i = s.pieces i
  grows : s.passed ⊆ t.passed

theorem sound_of_frame {t : EpoStatus} (sound : s.Sound) (frame : Frame count s t)
    (own : SoundAt t.passed count (t.pieces count)) : t.Sound := by
  intro i
  by_cases same : i = count
  · rw [same]
    exact own
  · rw [frame.others i same]
    exact (sound i).mono frame.grows

theorem frame_setPiece (count : Nat) (s : EpoStatus) (retry : Nat) (piece : Piece) :
    Frame count s ({ s with todayRetryTime := retry }.setPiece count piece) := by
  refine ⟨?_, List.Subset.refl _⟩
  intro i other
  exact setPiece_of_ne _ piece other

theorem frame_pass (count : Nat) (s : EpoStatus) (piece : Piece) :
    Frame count s (s.pass count piece) := by
  refine ⟨?_, List.subset_append_right ..⟩
  intro i other
  exact setPiece_of_ne s piece other

theorem mergeFull_status (count : Nat) (o : PieceOutcome) (ret : DownloadResult)
    (s : EpoStatus) :
    (mergeFull count o ret s).status.pieces = s.pieces ∧
      (mergeFull count o ret s).status.passed = s.passed := by
  rw [mergeFull]
  rcases epoDATFileMerge_cases epoMergeFullFile count o s with
    done | ⟨hal, failed⟩
  · rw [done]
    exact ⟨rfl, rfl⟩
  · rw [failed]
    exact ⟨rfl, rfl⟩

theorem mergeCut_status (length : Int) (count : Nat) (o : PieceOutcome) (s : EpoStatus) :
    (mergeCut length count o s).status.pieces = s.pieces ∧
      (mergeCut length count o s).status.passed = s.passed := by
  rw [mergeCut]
  rcases epoDATFileMerge_cases length count o s with
    done | ⟨hal, failed⟩
  · rw [done]
    exact ⟨rfl, rfl⟩
  · rw [failed]
    exact ⟨rfl, rfl⟩

theorem TurnOf.frame {turn : Turn} (case : TurnOf type count o ret s turn) :
    Frame count s turn.status := by
  cases case with
  | again set =>
      obtain ⟨pieces, passed⟩ := mergeFull_status count o ret s
      exact ⟨fun i _ => congrFun pieces i, passed ▸ List.Subset.refl _⟩
  | ends piece retry ret' unset failed => exact frame_setPiece count s retry piece
  | matched piece dat file datFile md5File md5 =>
      obtain ⟨pieces, passed⟩ :=
        mergeFull_status count o .success (s.pass count piece)
      obtain ⟨others, grows⟩ := frame_pass count s piece
      refine ⟨?_, passed ▸ grows⟩
      intro i other
      rw [pieces]
      exact others i other
  | cut piece dat datFile unset downloaded valid =>
      obtain ⟨pieces, passed⟩ := mergeCut_status
        (epoDATChecksumCheck type count o piece) count o (s.setPiece count piece)
      obtain ⟨others, grows⟩ := frame_setPiece count s s.todayRetryTime piece
      refine ⟨?_, passed ▸ grows⟩
      intro i other
      rw [pieces]
      exact others i other

theorem TurnOf.sound {turn : Turn} (case : TurnOf type count o ret s turn) (sound : s.Sound) :
    turn.status.Sound := by
  apply sound_of_frame sound case.frame
  cases case with
  | again set =>
      obtain ⟨pieces, passed⟩ := mergeFull_status count o ret s
      rw [pieces, passed]
      exact sound count
  | ends piece retry ret' unset failed =>
      apply soundAt_of_unset
      rw [Turn.status, setPiece_self]
      exact unset
  | matched piece dat file datFile md5File md5 =>
      obtain ⟨pieces, passed⟩ :=
        mergeFull_status count o .success (s.pass count piece)
      rw [pieces, passed, pass_self]
      intro _
      refine ⟨md5, by simp [datFile, md5File], ?_⟩
      intro own found
      exact mem_pass s count found
  | cut piece dat datFile unset downloaded valid =>
      obtain ⟨pieces, _⟩ := mergeCut_status
        (epoDATChecksumCheck type count o piece) count o (s.setPiece count piece)
      apply soundAt_of_unset
      rw [pieces, setPiece_self]
      exact unset

end Turns

end Connectivity.Epo
