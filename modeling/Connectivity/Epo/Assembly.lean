import Connectivity.Epo.PieceTurns
import Connectivity.Transition.Run

set_option autoImplicit false

/- What the file that is merged consists of when a download of pieces succeeds. -/
namespace Connectivity.Epo

open Bytes Transition

/-- The file consists of pieces that passed the check of their MD5, from the first one on and in
their order, and of what follows them. -/
structure Assembly (s : EpoStatus) (run : List (List UInt8)) (tail : List UInt8) : Prop where
  hal : s.hal = some (run.flatten ++ tail)
  order : ∀ i block, run[i]? = some block → (i, block) ∈ s.passed

/-- A piece that has been downloaded for a request, and the length of its good sets. -/
structure FinalPiece (type : EpoType) (r : EpoRequest) (count : Nat) (dat : EpoDat)
    (length : Nat) : Prop where
  inside : count < r.pieces
  downloaded : ∃ attempt, (r.tries attempt count).dat = .complete dat
  cut : LongestCut type dat.bytes length

/-- There is a run of whole pieces, or one of more than eight sets of the first piece; one cut
piece may follow, of which whole chunks are copied exactly. -/
def Assembled (type : EpoType) (r : EpoRequest) (s : EpoStatus) : Prop :=
  ∃ run tail, Assembly s run tail ∧
    ((run ≠ [] ∧ run.length ≤ r.pieces ∧ tail = []) ∨
      ∃ dat length, FinalPiece type r run.length dat length ∧
        (run = [] → 8 * type.maxSegmentSize < length) ∧
        (bufSize ∣ length → tail = dat.bytes.take length))

/-- The file as it is expected: there always are whole pieces, and a cut is exact. -/
def AssembledExactly (type : EpoType) (r : EpoRequest) (s : EpoStatus) : Prop :=
  ∃ run tail, Assembly s run tail ∧ run ≠ [] ∧
    (tail = [] ∨ ∃ dat length, FinalPiece type r run.length dat length ∧
      tail = dat.bytes.take length)

section Merges

variable {type : EpoType} {md5 : List UInt8 → List UInt8} {r : EpoRequest}
variable {count : Nat} {o : PieceOutcome} {ret : DownloadResult} {s : EpoStatus}
variable {run : List (List UInt8)}

/-- The pieces in front of a turn have been merged. -/
structure MergedTo (s : EpoStatus) (count : Nat) (run : List (List UInt8)) : Prop where
  all : run.length = count
  hal : 0 < count → s.hal = some run.flatten
  order : ∀ i block, run[i]? = some block → (i, block) ∈ s.passed

theorem mergedTo_zero (s : EpoStatus) : MergedTo s 0 [] := by
  refine ⟨rfl, fun further => absurd further (Nat.lt_irrefl 0), ?_⟩
  intro i block found
  cases found

/-- What the next merge appends to. -/
theorem MergedTo.file (sofar : MergedTo s count run) :
    (if count = 0 then [] else s.hal.getD []) = run.flatten := by
  split
  · rename_i first
    have empty : run = [] := List.length_eq_zero_iff.mp (sofar.all.trans first)
    rw [empty]
    rfl
  · rename_i further
    rw [sofar.hal (Nat.pos_of_ne_zero further)]
    rfl

theorem MergedTo.of_passed {t : EpoStatus} (sofar : MergedTo s count run) (hal : t.hal = s.hal)
    (grows : s.passed ⊆ t.passed) : MergedTo t count run := by
  refine ⟨sofar.all, ?_, ?_⟩
  · intro further
    rw [hal]
    exact sofar.hal further
  · intro i block found
    exact grows (sofar.order i block found)

theorem mergeFull_merged {dat : EpoDat} (sofar : MergedTo s count run)
    (opens : o.pieceOpens = true) (datFile : (s.pieces count).datFile = some dat)
    (passed : (count, dat.bytes) ∈ s.passed) :
    (∃ t, mergeFull count o ret s = .go ret t ∧ MergedTo t (count + 1) (run ++ [dat.bytes])) ∨
      ∃ t, mergeFull count o ret s = .stop .fail t := by
  rw [mergeFull]
  rcases epoDATFileMerge_cases epoMergeFullFile count o s with
    done | ⟨hal, failed⟩
  · rw [done, sofar.file, merged_full opens datFile]
    refine .inl ⟨_, rfl, ?_, ?_, ?_⟩
    · rw [List.length_append, sofar.all, List.length_singleton]
    · intro _
      rw [List.flatten_append, List.flatten_singleton]
    · intro i block found
      by_cases before : i < run.length
      · rw [List.getElem?_append_left before] at found
        exact sofar.order i block found
      · rw [List.getElem?_append_right (Nat.le_of_not_lt before),
          List.getElem?_singleton] at found
        split at found
        · rename_i last
          cases found
          have own : i = count := by
            have all := sofar.all
            omega
          rw [own]
          exact passed
        · cases found
  · rw [failed]
    exact .inr ⟨_, rfl⟩

theorem mergeCut_assembled {piece : Piece} {dat : EpoDat} (sofar : MergedTo s count run)
    (opens : o.pieceOpens = true) (datFile : piece.datFile = some dat)
    (own : s.pieces count = piece) (inside : count < r.pieces)
    (downloaded : ∃ attempt, (r.tries attempt count).dat = .complete dat)
    (valid : epoDATChecksumCheck type count o piece > 0) :
    ∃ ret' t, mergeCut (epoDATChecksumCheck type count o piece) count o s = .stop ret' t ∧
      (ret' = .success → Assembled type r t) := by
  obtain ⟨length, exactly, cut, enough⟩ := epoDATChecksumCheck_spec datFile valid
  rw [mergeCut]
  rcases epoDATFileMerge_cases (epoDATChecksumCheck type count o piece) count o s with
    done | ⟨hal, failed⟩
  · rw [done, sofar.file, own]
    refine ⟨_, _, rfl, ?_⟩
    intro _
    refine ⟨run, _, ⟨rfl, sofar.order⟩, .inr ⟨dat, length, ⟨?_, ?_, cut⟩, ?_, ?_⟩⟩
    · rw [sofar.all]
      exact inside
    · rw [sofar.all]
      exact downloaded
    · intro empty
      apply enough
      rw [← sofar.all, empty, List.length_nil]
    · intro chunks
      rw [exactly]
      apply merged_cut opens datFile _ chunks
      omega
  · rw [failed]
    refine ⟨_, _, rfl, ?_⟩
    intro success
    cases success

/-- A turn merges its piece, or it is the last. -/
theorem epoTurn_merged (type : EpoType) (md5 : List UInt8 → List UInt8) (ret : DownloadResult)
    {attempt : Nat} (sound : s.Sound) (ready : s.Ready count)
    (sofar : MergedTo s count run) (inside : count < r.pieces)
    (opens : (r.tries attempt count).pieceOpens = true) :
    (∃ ret' t block, epoTurn type md5 count (r.tries attempt count) ret s = .go ret' t ∧
        MergedTo t (count + 1) (run ++ [block])) ∨
      ∃ ret' t, epoTurn type md5 count (r.tries attempt count) ret s = .stop ret' t ∧
        (ret' = .success → Assembled type r t) := by
  have case := epoTurn_cases type md5 (r.tries attempt count) ret (sound count)
  generalize epoTurn type md5 count (r.tries attempt count) ret s = turn at case
  cases case with
  | again set =>
      obtain ⟨dat, datFile⟩ := Option.ne_none_iff_exists'.mp (ready set)
      obtain ⟨_, _, pass⟩ := sound count set
      rcases mergeFull_merged sofar opens datFile (pass dat datFile) with ⟨t, go, more⟩ | ⟨t, stop⟩
      · exact .inl ⟨_, t, _, go, more⟩
      · exact .inr ⟨_, t, stop, fun success => by cases success⟩
  | ends piece retry ret' unset failed =>
      refine .inr ⟨_, _, rfl, ?_⟩
      intro success
      have further := failed success
      refine ⟨run, [], ⟨?_, sofar.order⟩, .inl ⟨?_, ?_, rfl⟩⟩
      · rw [List.append_nil]
        exact sofar.hal further
      · intro empty
        rw [← sofar.all, empty] at further
        exact absurd further (Nat.lt_irrefl 0)
      · rw [sofar.all]
        exact Nat.le_of_lt inside
  | matched piece dat file datFile md5File md5 =>
      have own : ((s.pass count piece).pieces count).datFile = some dat := by
        rw [pass_self]
        exact datFile
      have passed : (count, dat.bytes) ∈ (s.pass count piece).passed := mem_pass s count datFile
      have before : MergedTo (s.pass count piece) count run :=
        sofar.of_passed rfl (frame_pass count s piece).grows
      rcases mergeFull_merged before opens own passed with ⟨t, go, more⟩ | ⟨t, stop⟩
      · exact .inl ⟨_, t, _, go, more⟩
      · exact .inr ⟨_, t, stop, fun success => by cases success⟩
  | cut piece dat datFile unset downloaded valid =>
      apply Or.inr
      apply mergeCut_assembled _ opens datFile _ inside ⟨attempt, downloaded⟩ valid
      · exact run
      · exact sofar.of_passed rfl (List.Subset.refl _)
      · exact setPiece_self ..

end Merges

section Loops

variable (type : EpoType) (md5 : List UInt8 → List UInt8) {r : EpoRequest}

theorem epoPieceLoop_sound (outcomes : Nat → PieceOutcome) (left count : Nat)
    (ret : DownloadResult) {s : EpoStatus} (sound : s.Sound) :
    (epoPieceLoop type md5 outcomes left count ret s).2.2.Sound := by
  induction left generalizing count ret s with
  | zero => exact sound
  | succ left ih =>
      have case := epoTurn_cases type md5 (outcomes count) ret (sound count)
      rw [epoPieceLoop]
      generalize epoTurn type md5 count (outcomes count) ret s = turn at case ⊢
      cases turn with
      | go ret' t => exact ih (count + 1) ret' (case.sound sound)
      | stop ret' t => exact case.sound sound

/-- The loop over the pieces that are left merges them or ends, with success if the file is
assembled. -/
theorem epoPieceLoop_assembled (some : 0 < r.pieces) {attempt : Nat}
    (opens : ∀ i, (r.tries attempt i).pieceOpens = true) {left count : Nat}
    (ret : DownloadResult) {s : EpoStatus} {run : List (List UInt8)} (all : count + left = r.pieces)
    (sound : s.Sound) (ready : ∀ i, count ≤ i → i < r.pieces → s.Ready i)
    (sofar : MergedTo s count run)
    (success : (epoPieceLoop type md5 (r.tries attempt) left count ret s).1 = .success) :
    Assembled type r (epoPieceLoop type md5 (r.tries attempt) left count ret s).2.2 := by
  induction left generalizing count ret s run with
  | zero =>
      refine ⟨run, [], ⟨?_, sofar.order⟩, .inl ⟨?_, ?_, rfl⟩⟩
      · rw [List.append_nil]
        exact sofar.hal (by omega)
      · intro empty
        have length := sofar.all
        rw [empty, List.length_nil] at length
        omega
      · rw [sofar.all]
        omega
  | succ left ih =>
      have case := epoTurn_cases type md5 (r.tries attempt count) ret (sound count)
      have merging := epoTurn_merged type md5 ret sound (ready count (Nat.le_refl _) (by omega))
          sofar (by omega) (opens count)
      rw [epoPieceLoop] at success ⊢
      rcases merging with ⟨ret', t, block, go, more⟩ | ⟨ret', t, stop, done⟩
      · rw [go] at case success ⊢
        have sound' : t.Sound := case.sound sound
        apply ih ret' (by omega) sound' _ more success
        intro i behind inside set
        have same : t.pieces i = s.pieces i := case.frame.others i (by omega)
        rw [same] at set ⊢
        exact ready i (by omega) inside set
      · rw [stop] at success ⊢
        exact done success

variable {type md5}

theorem newDay_sound {s : EpoStatus} (sound : s.Sound) : (s.newDay r).Sound := by
  rw [EpoStatus.newDay]
  split
  · intro i
    apply soundAt_of_unset
    dsimp only
    split
    · rfl
    · rfl
  · exact sound

theorem checkEpoFileExist_sound {s : EpoStatus} (n : Nat) (sound : s.Sound) :
    (checkEpoFileExist n s).Sound := by
  intro i
  have before := sound i
  rw [checkEpoFileExist]
  dsimp only
  split
  · intro set
    obtain ⟨flag, file⟩ := Bool.and_eq_true_iff.mp set
    obtain ⟨md5, files, pass⟩ := before flag
    refine ⟨?_, files, pass⟩
    have md5File : (s.pieces i).md5File.isSome = true := by
      by_contra missing
      have none := files.mpr (Option.not_isSome_iff_eq_none.mp missing)
      rw [none] at file
      cases file
    exact Bool.and_eq_true_iff.mpr ⟨md5, md5File⟩
  · exact before

theorem unlinkPieces_sound {s : EpoStatus} (n : Nat) (sound : s.Sound) :
    (unlinkPieces n s).Sound := by
  intro i
  rw [unlinkPieces]
  dsimp only
  split
  · intro set
    refine ⟨(sound i set).1, Iff.rfl.trans (by simp), ?_⟩
    intro dat file
    cases file
  · exact sound i

theorem unlinkPieces_assembled {s : EpoStatus} (n : Nat) (assembled : Assembled type r s) :
    Assembled type r (unlinkPieces n s) := by
  obtain ⟨run, tail, ⟨hal, order⟩, parts⟩ := assembled
  exact ⟨run, tail, ⟨hal, order⟩, parts⟩

/-- A flag whose file is missing has been reset. -/
theorem checkEpoFileExist_ready {s : EpoStatus} {n i : Nat} (inside : i < n) :
    (checkEpoFileExist n s).Ready i := by
  intro set
  rw [checkEpoFileExist] at set ⊢
  dsimp only at set ⊢
  rw [if_pos inside] at set ⊢
  intro none
  dsimp only at none
  rw [none, Option.isSome_none, Bool.and_false] at set
  cases set

theorem epoTries_sound (tries : Nat) {ret : DownloadResult} {s : EpoStatus} (sound : s.Sound) :
    (epoTries type md5 r tries ret s).2.Sound := by
  induction tries generalizing ret s with
  | zero => exact sound
  | succ left ih =>
      have looped := epoPieceLoop_sound type md5
        (r.tries (epoInvalideDlMaxRetryTime - left)) r.pieces 0 ret
        (checkEpoFileExist_sound r.pieces (newDay_sound (r := r) sound))
      rw [epoTries]
      dsimp only
      split
      · exact unlinkPieces_sound r.pieces looped
      · split
        · exact ih looped
        · exact looped

theorem epoTries_assembled (some : 0 < r.pieces)
    (opens : ∀ attempt i, (r.tries attempt i).pieceOpens = true) (tries : Nat)
    {ret : DownloadResult} {s : EpoStatus} (sound : s.Sound) (fails : tries = 0 → ret ≠ .success)
    (success : (epoTries type md5 r tries ret s).1 = .success) :
    Assembled type r (epoTries type md5 r tries ret s).2 := by
  induction tries generalizing ret s with
  | zero => exact absurd success (fails rfl)
  | succ left ih =>
      have checked := checkEpoFileExist_sound r.pieces (newDay_sound (r := r) sound)
      have looped := epoPieceLoop_sound type md5
        (r.tries (epoInvalideDlMaxRetryTime - left)) r.pieces 0 ret checked
      have assembled := epoPieceLoop_assembled type md5 some
        (opens (epoInvalideDlMaxRetryTime - left)) ret (Nat.zero_add r.pieces) checked
        (fun i _ inside => checkEpoFileExist_ready inside) (mergedTo_zero _)
      rw [epoTries] at success ⊢
      dsimp only at success ⊢
      split
      · rename_i done
        exact unlinkPieces_assembled r.pieces (assembled done)
      · rename_i failed
        rw [if_neg failed] at success
        split
        · rename_i first
          rw [if_pos first] at success
          exact ih looped (fun _ => failed) success
        · rename_i further
          rw [if_neg further] at success
          exact absurd success failed

theorem epoFileDownloadImpl_sound {s : EpoStatus} (sound : s.Sound) :
    (epoFileDownloadImpl type md5 s r).2.Sound := epoTries_sound _ sound

/-- Without pieces there is nothing to be merged. -/
theorem epoFileDownloadImpl_none (s : EpoStatus) (none : r.pieces = 0) :
    (epoFileDownloadImpl type md5 s r).2.hal = Option.none := by
  rw [epoFileDownloadImpl, epoTries, none]
  dsimp only
  rw [epoPieceLoop, if_pos rfl, unlinkPieces, checkEpoFileExist, EpoStatus.newDay]
  dsimp only
  split
  · rfl
  · rfl

end Loops

section Runs

variable (type : EpoType) (md5 : List UInt8 → List UInt8)

def EpoStatus.step (s : EpoStatus) (r : EpoRequest) : Option EpoStatus :=
  some (epoFileDownloadImpl type md5 s r).2

/-- Whatever files there are at the start, whatever requests have been handled and whatever
befalls the pieces: a download that succeeds leaves its pieces in order, each of which has
passed, and at most one that is cut. -/
theorem epoFileDownloadImpl_assembled (md5Files : Nat → Option (List UInt8))
    (datFiles : Nat → Option EpoDat) (hal : Option (List UInt8)) (history : List EpoRequest)
    {s : EpoStatus} (r : EpoRequest)
    (earlier : exec (EpoStatus.step type md5) (.init md5Files datFiles hal) history = some s)
    (opens : ∀ attempt i, (r.tries attempt i).pieceOpens = true)
    (success : (epoFileDownloadImpl type md5 s r).1 = .success) :
    if r.pieces = 0 then (epoFileDownloadImpl type md5 s r).2.hal = none
    else Assembled type r (epoFileDownloadImpl type md5 s r).2 := by
  have start : (EpoStatus.init md5Files datFiles hal).Sound := by
    intro i
    exact soundAt_of_unset rfl
  have sound : s.Sound := by
    apply exec_invariant _ start earlier
    intro s r t sound taken
    cases taken
    exact epoFileDownloadImpl_sound sound
  split
  · rename_i none
    exact epoFileDownloadImpl_none s none
  · rename_i some
    apply epoTries_assembled (Nat.pos_of_ne_zero some) opens _ _ _ success
    · exact sound
    · intro none
      cases none

end Runs

/-- An MD5 that all files share. -/
def md5Same : List UInt8 → List UInt8 := fun _ => List.replicate 32 97

/-- All goes well for a piece with this MD5 file and this DAT file. -/
def outcomeOf (digit : UInt8) (dat : Download EpoDat) : PieceOutcome where
  md5 := .complete (List.replicate 32 digit)
  dat := dat
  datOpens := true
  md5Opens := true
  scanOpens := true
  sized := true
  halOpens := true
  pieceOpens := true

/-- A request for two pieces of two bytes each, of which the second may be missing. -/
def twoPieces (second : Download EpoDat) : EpoRequest where
  mday := 1
  days := 6
  tries := fun _ i => outcomeOf 97 (if i = 0 then .complete ⟨[1, 2], by decide⟩ else second)

def secondMissing : EpoRequest := twoPieces .failed

def bothFound : EpoRequest := twoPieces (.complete ⟨[3, 4], by decide⟩)

def blankStatus : EpoStatus := .init (fun _ => none) (fun _ => none) none

theorem epoFileDownloadImpl_assembled_two :
    Assembled .gps bothFound
      (epoFileDownloadImpl .gps md5Same
        (epoFileDownloadImpl .gps md5Same blankStatus secondMissing).2 bothFound).2 := by
  have result := epoFileDownloadImpl_assembled .gps md5Same (fun _ => none) (fun _ => none) none
    [secondMissing] bothFound rfl (fun _ _ => rfl) (by decide)
  exact result

/-- Nine sets of records whose words are zero. -/
def nineSets : EpoDat where
  bytes := List.replicate (9 * (72 * 32)) 0
  fits := by
    rw [List.length_replicate]
    decide

/-- A request for one piece whose MD5 does not match. -/
def noMatch (dat : EpoDat) : EpoRequest where
  mday := 1
  days := 3
  tries := fun _ _ => outcomeOf 98 (.complete dat)

theorem recordsPass_zeros (n : Nat) : RecordsPass (List.replicate (oneSvSize * n) 0) n := by
  intro i small
  have fits : oneSvSize * (i + 1) ≤ oneSvSize * n := Nat.mul_le_mul_left _ small
  have next : oneSvSize * (i + 1) = oneSvSize * i + oneSvSize := Nat.mul_succ ..
  refine ⟨?_, ?_⟩
  · rw [List.length_replicate]
    exact fits
  · rw [List.drop_replicate, List.take_replicate, Nat.min_eq_left (by omega)]
    decide

theorem noMatch_pieces (dat : EpoDat) : (noMatch dat).pieces = 1 := by
  show (if (3 : Fin (epoMaxDay + 1)).val % 3 > 0 then (3 : Fin (epoMaxDay + 1)).val / 3 + 1
    else (3 : Fin (epoMaxDay + 1)).val / 3) = 1
  decide

/-- The only turn for such a request merges what the checksums leave of the piece. -/
theorem noMatch_turn {dat : EpoDat} {s : EpoStatus} (nonempty : 0 < dat.bytes.length)
    (nothing : s.pieces 0 = ⟨false, false, none, none⟩)
    (valid : ∀ piece, piece.datFile = some dat →
      epoDATChecksumCheck .gps 0 (outcomeOf 98 (.complete dat)) piece > 0) :
    ∃ t, epoTurn .gps md5Same 0 (outcomeOf 98 (.complete dat)) .success s = .stop .success t ∧
      t.passed = s.passed := by
  have full : ¬ getFileSize true dat.bytes ≤ 0 := by
    rw [getFileSize_fits]
    omega
  have process : epoMD5DownloadProcess (outcomeOf 98 (.complete dat)) ⟨false, false, none, none⟩ =
      (.updated, ⟨false, false, some (List.replicate 32 98), none⟩) := by
    rfl
  have downloaded : epoDATDownloadProcess (outcomeOf 98 (.complete dat))
      ⟨true, false, some (List.replicate 32 98), none⟩ =
      (.success, ⟨true, false, some (List.replicate 32 98), some dat⟩) := by
    simp [epoDATDownloadProcess, outcomeOf, full]
  have rejected : mtkGpsEpoMd5MatchCheck md5Same (outcomeOf 98 (.complete dat))
      ⟨true, false, some (List.replicate 32 98), some dat⟩ = false := by
    rfl
  have cut := valid ⟨true, false, some (List.replicate 32 98), some dat⟩ rfl
  simp only [epoTurn, nothing, process, downloaded, rejected, cut, Bool.false_eq_true, false_and,
    if_false, if_true, ne_eq, not_true_eq_false]
  rw [mergeCut, epoDATFileMerge]
  exact ⟨_, rfl, rfl⟩

theorem noMatch_run {dat : EpoDat} (nonempty : 0 < dat.bytes.length)
    (valid : ∀ piece, piece.datFile = some dat →
      epoDATChecksumCheck .gps 0 (outcomeOf 98 (.complete dat)) piece > 0) :
    (epoFileDownloadImpl .gps md5Same blankStatus (noMatch dat)).1 = .success ∧
      (epoFileDownloadImpl .gps md5Same blankStatus (noMatch dat)).2.passed = [] := by
  have fresh :
      (checkEpoFileExist 1 ({ blankStatus with hal := none }.newDay (noMatch dat))).pieces 0 =
        ⟨false, false, none, none⟩ := by
    have day : ({ blankStatus with hal := none } : EpoStatus).lastDlDate ≠ (noMatch dat).mday := by
      show (-1 : Int) ≠ 1
      decide
    rw [checkEpoFileExist, EpoStatus.newDay, if_pos day, noMatch_pieces]
    rfl
  obtain ⟨t, turn, passed⟩ := noMatch_turn nonempty fresh valid
  rw [epoFileDownloadImpl, epoTries, noMatch_pieces, epoPieceLoop]
  dsimp only
  rw [show (noMatch dat).tries (epoInvalideDlMaxRetryTime - epoInvalideDlMaxRetryTime) 0 =
    outcomeOf 98 (.complete dat) from rfl, turn]
  exact ⟨rfl, passed⟩

/-- The first piece is merged, although its MD5 does not match. -/
theorem not_epoFileDownloadImpl_exact :
    (epoFileDownloadImpl .gps md5Same blankStatus (noMatch nineSets)).1 = .success ∧
      ¬ AssembledExactly .gps (noMatch nineSets)
        (epoFileDownloadImpl .gps md5Same blankStatus (noMatch nineSets)).2 := by
  have valid : ∀ piece, piece.datFile = some nineSets →
      epoDATChecksumCheck .gps 0 (outcomeOf 98 (.complete nineSets)) piece > 0 := by
    intro piece file
    have pass : RecordsPass nineSets.bytes (9 * 32) := recordsPass_zeros (9 * 32)
    exact epoDATChecksumCheck_pos file rfl rfl pass (by decide)
  obtain ⟨success, unpassed⟩ := noMatch_run (by rw [nineSets, List.length_replicate]; decide) valid
  refine ⟨success, ?_⟩
  intro exactly
  obtain ⟨run, tail, ⟨_, order⟩, nonempty, _⟩ := exactly
  obtain ⟨block, rest, whole⟩ := List.exists_cons_of_ne_nil nonempty
  have passed := order 0 block (by rw [whole]; rfl)
  rw [unpassed] at passed
  cases passed

end Connectivity.Epo
