import Connectivity.LbsLog.DirCheck

set_option autoImplicit false

/- When the check of the folder ends with a record that is right. -/
namespace Connectivity.LbsLog

variable {folder : Path} {dir : List LogFile} {removes : Nat → Bool}

section Counts

theorem short_of_small {value : Int} (least : -1 ≤ value) (most : value ≤ maxLogNum) :
    short value = value := by
  have limit : maxLogNum = 1000 := rfl
  exact Int.bmod_eq_of_le (by omega) (by omega)

theorem findGpsLogFile_take {filename : Path} {size : Nat} (room : logNamePrefix.length ≤ size) :
    findGpsLogFile (filename.take size) = findGpsLogFile filename := by
  unfold findGpsLogFile
  rw [Bool.eq_iff_iff, List.isPrefixOf_iff_prefix, List.isPrefixOf_iff_prefix, List.prefix_take_iff]
  exact and_iff_left room

theorem scanEntry_count (scan : Scan) (entry : LogFile) :
    (scanEntry folder dir scan entry).totalFileCount =
      scan.totalFileCount + if findGpsLogFile entry.dName then 1 else 0 := by
  have same : findGpsLogFile (mnldStrncpy entry.dName (maxPathLen - 1)) =
      findGpsLogFile entry.dName := findGpsLogFile_take (by decide)
  rw [scanEntry, same]
  split
  · rename_i dots
    have other : findGpsLogFile entry.dName = false := by
      cases dots with
      | inl dot => rw [dot]; rfl
      | inr dots => rw [dots]; rfl
    simp [other]
  · split <;> simp

theorem foldl_count (scan : Scan) (entries : List LogFile) :
    (entries.foldl (scanEntry folder dir) scan).totalFileCount =
      scan.totalFileCount + logCount entries := by
  induction entries generalizing scan with
  | nil => simp [logCount]
  | cons entry rest ih =>
      rw [List.foldl_cons, ih, scanEntry_count]
      unfold logCount
      rw [List.countP_cons]
      split
      · simp
        omega
      · simp

theorem scanDir_count : (scanDir folder dir).totalFileCount = logCount dir := by
  have counted := @foldl_count folder dir ⟨0, 0, []⟩ dir
  rw [scanDir, counted]
  exact Int.zero_add _

theorem estimate_count : (estimate folder dir).totalFileCount = (logCount dir : Int) - 1 := by
  rw [estimate, scanDir_count]

theorem Scan.within {scan : Scan} (least : -1 ≤ scan.totalFileCount) (fits : ¬ scan.Over) :
    scan.record.Within ∧ scan.record.currentLogNum = scan.totalFileCount := by
  obtain ⟨size, count⟩ := not_or.mp fits
  have counted : short scan.totalFileCount = scan.totalFileCount :=
    short_of_small least (Int.not_lt.mp count)
  refine ⟨⟨UInt32.not_lt.mp size, ?_⟩, counted⟩
  show short scan.totalFileCount ≤ maxLogNum
  rw [counted]
  exact Int.not_lt.mp count

end Counts

/-- The same by what the rounds of the check find in the folder. -/
def ScanClears (folder : Path) (removes : Nat → Bool) : Nat → Nat → List LogFile → Prop
  | 0, _, dir =>
      ¬ (scanDir folder dir).Over ∧ (scanDir folder dir).dirLogSize.toNat = logSize dir
  | n + 1, k, dir =>
      (scanDir folder dir).Over ∧ (∃ file, oldFile folder dir = some file ∧ Oldest dir file) ∧
        if (estimate folder dir).Over then
          ∃ s, FirstRemoval removes k s ∧ ScanClears folder removes n (s + 1) (dropped folder dir)
        else
          n = 0 ∧ removes k = true ∧
            (estimate folder dir).record.Matches (dropped folder dir)

section Ordinary

/-- A name that has been picked of what has been read: the first of the oldest logs, if there are
any. -/
inductive Picked (seen : List LogFile) : Path → Prop
  | none (free : ∀ file ∈ seen, findGpsLogFile file.dName = false) : Picked seen []
  | some (before : List LogFile) (file : LogFile) (after : List LogFile)
      (split : seen = before ++ file :: after) (log : findGpsLogFile file.dName = true)
      (younger : ∀ other ∈ before, findGpsLogFile other.dName → file.stMtime < other.stMtime)
      (noOlder : ∀ other ∈ after, findGpsLogFile other.dName → file.stMtime ≤ other.stMtime) :
      Picked seen file.dName

/-- A log that is read is picked if it is older than all before it. -/
theorem Picked.read {seen : List LogFile} {name : Path} {entry : LogFile}
    (picked : Picked seen name) (log : findGpsLogFile entry.dName = true) :
    (name = [] ∧ Picked (seen ++ [entry]) entry.dName) ∨
    ∃ file ∈ seen, findGpsLogFile file.dName = true ∧ file.dName = name ∧
      Picked (seen ++ [entry])
        (if entry.stMtime < file.stMtime then entry.dName else name) := by
  cases picked with
  | none free =>
      refine .inl ⟨rfl, .some seen entry [] rfl log ?_ ?_⟩
      · intro other member logged
        rw [free other member] at logged
        cases logged
      · exact fun other member => by cases member
  | some before file after split logged younger noOlder =>
      refine .inr ⟨file, by simp [split], logged, rfl, ?_⟩
      split
      · rename_i older
        refine .some seen entry [] rfl log ?_ fun other member => by cases member
        intro other member others
        rw [split] at member
        rcases List.mem_append.mp member with earlier | later
        · exact Int.lt_trans older (younger other earlier others)
        · rcases List.mem_cons.mp later with same | behind
          · rw [same]
            exact older
          · exact Int.lt_of_lt_of_le older (noOlder other behind others)
      · rename_i younger'
        refine .some before file (after ++ [entry]) (by simp [split]) logged younger ?_
        intro other member others
        rcases List.mem_append.mp member with behind | last
        · exact noOlder other behind others
        · rw [List.mem_singleton.mp last]
          exact Int.not_lt.mp younger'

theorem Picked.skip {seen : List LogFile} {name : Path} {entry : LogFile}
    (picked : Picked seen name) (other : findGpsLogFile entry.dName = false) :
    Picked (seen ++ [entry]) name := by
  cases picked with
  | none free =>
      refine .none fun file member => ?_
      rcases List.mem_append.mp member with earlier | last
      · exact free file earlier
      · rw [List.mem_singleton.mp last]
        exact other
  | some before file after split logged younger noOlder =>
      refine .some before file (after ++ [entry]) (by simp [split]) logged younger ?_
      intro another member others
      rcases List.mem_append.mp member with behind | last
      · exact noOlder another behind others
      · rw [List.mem_singleton.mp last, other] at others
        cases others

theorem logSize_append (first later : List LogFile) :
    logSize (first ++ later) = logSize first + logSize later := by
  induction first with
  | nil => exact (Nat.zero_add _).symm
  | cons file rest ih =>
      rw [List.cons_append, logSize, logSize, ih, Nat.add_assoc]

theorem take_log {filename : Path} (log : findGpsLogFile filename = true) :
    filename.take logNamePrefix.length = logNamePrefix :=
  (List.prefix_iff_eq_take.mp (List.isPrefixOf_iff_prefix.mp log)).symm

theorem not_dots {filename : Path} (log : findGpsLogFile filename = true) :
    ¬ (filename = ['.'] ∨ filename = ['.', '.']) := by
  rintro (dot | dots)
  · rw [dot] at log
    exact absurd log (by decide)
  · rw [dots] at log
    exact absurd log (by decide)

theorem cut_log {file : LogFile} (log : findGpsLogFile file.dName = true) :
    findGpsLogFile (mnldStrncpy file.dName (maxPathLen - 1)) = true :=
  (findGpsLogFile_take (by decide)).trans log

theorem scanEntry_other {scan : Scan} {entry : LogFile}
    (other : findGpsLogFile entry.dName = false) : scanEntry folder dir scan entry = scan := by
  have same : findGpsLogFile (mnldStrncpy entry.dName (maxPathLen - 1)) = false :=
    (findGpsLogFile_take (by decide)).trans other
  rw [scanEntry]
  split
  · rfl
  · rw [if_neg (by rw [same]; decide)]

theorem stat_of_mem (names : dir.Pairwise fun file other => file.dName ≠ other.dName)
    {file : LogFile} (member : file ∈ dir) (fits : file.Fits folder) :
    stat folder dir file.dName = some file := by
  have room := fits.2
  rw [stat, if_neg (by omega)]
  obtain ⟨before, after, split⟩ := List.append_of_mem member
  rw [split] at names ⊢
  have apart := (List.pairwise_append.mp names).2.2
  rw [List.find?_append, List.find?_eq_none.mpr, Option.none_or, List.find?_cons_of_pos (by simp)]
  intro other earlier
  simpa using apart other earlier file List.mem_cons_self

theorem mnldStrncpy_of_fits {file : LogFile} (fits : file.Fits folder) :
    mnldStrncpy file.dName (maxPathLen - 1) = file.dName :=
  List.take_of_length_le (Nat.le_sub_one_of_lt fits.1)

/-- What reading a log counts. -/
theorem scanEntry_size (counted : Counted folder dir) {scan : Scan} {entry : LogFile}
    (member : entry ∈ dir) (log : findGpsLogFile entry.dName = true) :
    (scanEntry folder dir scan entry).dirLogSize =
      scan.dirLogSize + UInt32.ofNat entry.stSize := by
  have size : getFileSize folder dir (mnldStrncpy entry.dName (maxPathLen - 1)) =
      UInt32.ofNat entry.stSize := by
    rcases counted.sizes entry member log with fits | ⟨empty, long⟩
    · rw [mnldStrncpy_of_fits fits, getFileSize, stat_of_mem counted.names member fits]
    · rw [getFileSize, stat, if_pos long, empty]
      rfl
  simp only [scanEntry, if_neg (not_dots log), cut_log log, if_true, size]

/-- The scan counts the size as an `unsigned int`. -/
theorem scanDir_size (counted : Counted folder dir) :
    (scanDir folder dir).dirLogSize.toNat = logSize dir % 4294967296 := by
  have run : ∀ entries seen scan, seen ++ entries ⊆ dir →
      scan.dirLogSize.toNat = logSize seen % 4294967296 →
      (entries.foldl (scanEntry folder dir) scan).dirLogSize.toNat =
        logSize (seen ++ entries) % 4294967296 := by
    intro entries
    induction entries with
    | nil =>
        intro seen scan _ size
        rw [List.append_nil]
        exact size
    | cons entry rest ih =>
        intro seen scan within size
        have member : entry ∈ dir := within (List.mem_append_right _ List.mem_cons_self)
        have more : (seen ++ [entry]) ++ rest = seen ++ entry :: rest := by simp
        rw [← more] at within ⊢
        apply ih (seen ++ [entry]) (scanEntry folder dir scan entry) within
        rw [logSize_append]
        cases log : findGpsLogFile entry.dName with
        | false =>
            rw [scanEntry_other log, logSize, log]
            exact size
        | true =>
            rw [scanEntry_size counted member log, UInt32.toNat_add, UInt32.toNat_ofNat', size,
              logSize, log, if_pos rfl, logSize]
            omega
  exact run dir [] ⟨0, 0, []⟩ (List.Subset.refl dir) rfl

theorem over_iff (counted : Counted folder dir) : (scanDir folder dir).Over ↔ Beyond dir := by
  rw [Scan.Over, Beyond, UInt32.lt_iff_toNat_lt, scanDir_size counted, scanDir_count]

section Picks

variable (ordinary : Ordinary folder dir)
include ordinary

theorem Ordinary.counted : Counted folder dir :=
  ⟨ordinary.names, fun file member log => .inl (ordinary.fits file member log)⟩

theorem cmpFileTime_of_mem {file other : LogFile} (member : file ∈ dir) (among : other ∈ dir)
    (log : findGpsLogFile file.dName = true) (logged : findGpsLogFile other.dName = true) :
    cmpFileTime folder dir file.dName other.dName = some (file.stMtime - other.stMtime) := by
  have above := ordinary.times file member other among log logged
  have below := ordinary.times other among file member logged log
  rw [cmpFileTime, stat_of_mem ordinary.names member (ordinary.fits file member log),
    stat_of_mem ordinary.names among (ordinary.fits other among logged)]
  exact congrArg some (Int.bmod_eq_of_le (by omega) (by omega))

/-- What reading a log picks, the first one or a later one. -/
theorem scanEntry_first {scan : Scan} {entry : LogFile} (member : entry ∈ dir)
    (log : findGpsLogFile entry.dName = true) (first : scan.oldGpsFile = []) :
    (scanEntry folder dir scan entry).oldGpsFile = entry.dName := by
  have whole := mnldStrncpy_of_fits (ordinary.fits entry member log)
  have differ : ([] : Path).take logNamePrefix.length ≠ entry.dName.take logNamePrefix.length := by
    rw [take_log log]
    decide
  simp only [scanEntry, whole, if_neg (not_dots log), log, if_true, first, if_pos differ]

theorem scanEntry_later {scan : Scan} {entry file : LogFile} (member : entry ∈ dir)
    (log : findGpsLogFile entry.dName = true) (among : file ∈ dir)
    (logged : findGpsLogFile file.dName = true) (name : file.dName = scan.oldGpsFile) :
    (scanEntry folder dir scan entry).oldGpsFile =
      if entry.stMtime < file.stMtime then entry.dName else scan.oldGpsFile := by
  have whole := mnldStrncpy_of_fits (ordinary.fits entry member log)
  have same : ¬ file.dName.take logNamePrefix.length ≠ entry.dName.take logNamePrefix.length := by
    rw [take_log log, take_log logged]
    exact not_not.mpr rfl
  have older : entry.stMtime - file.stMtime < 0 ↔ entry.stMtime < file.stMtime := by omega
  simp only [scanEntry, whole, if_neg (not_dots log), log, if_true, ← name, if_neg same,
    cmpFileTime_of_mem ordinary member among log logged, older]

/-- One entry of the folder, read behind others. -/
theorem scanEntry_picked {seen : List LogFile} {scan : Scan} {entry : LogFile}
    (within : seen ⊆ dir) (member : entry ∈ dir) (picked : Picked seen scan.oldGpsFile) :
    Picked (seen ++ [entry]) (scanEntry folder dir scan entry).oldGpsFile := by
  cases log : findGpsLogFile entry.dName with
  | false =>
      rw [scanEntry_other log]
      exact picked.skip log
  | true =>
      rcases picked.read log with ⟨first, reads⟩ | ⟨file, among, logged, name, reads⟩
      · rw [scanEntry_first ordinary member log first]
        exact reads
      · rw [scanEntry_later ordinary member log (within among) logged name]
        exact reads

/-- The scan picks the first of the oldest logs. -/
theorem scanDir_picked : Picked dir (scanDir folder dir).oldGpsFile := by
  have run : ∀ entries seen scan, seen ++ entries ⊆ dir → Picked seen scan.oldGpsFile →
      Picked (seen ++ entries) (entries.foldl (scanEntry folder dir) scan).oldGpsFile := by
    intro entries
    induction entries with
    | nil =>
        intro seen scan _ picked
        rw [List.append_nil]
        exact picked
    | cons entry rest ih =>
        intro seen scan within picked
        have member : entry ∈ dir := within (List.mem_append_right _ List.mem_cons_self)
        have before : seen ⊆ dir := fun file among => within (List.mem_append_left _ among)
        have more : (seen ++ [entry]) ++ rest = seen ++ entry :: rest := by simp
        rw [← more] at within ⊢
        exact ih _ _ within (scanEntry_picked ordinary before member picked)
  exact run dir [] ⟨0, 0, []⟩ (List.Subset.refl dir) (.none fun _ member => by cases member)

omit ordinary in
theorem no_logs (free : ∀ file ∈ dir, findGpsLogFile file.dName = false) :
    logSize dir = 0 ∧ logCount dir = 0 := by
  induction dir with
  | nil => exact ⟨rfl, rfl⟩
  | cons file rest ih =>
      obtain ⟨here, later⟩ := List.forall_mem_cons.mp free
      obtain ⟨size, count⟩ := ih later
      rw [logCount] at count ⊢
      rw [logSize, here, size, List.countP_cons, here, count]
      exact ⟨rfl, rfl⟩

omit ordinary in
theorem isOldestLog_split {before after : List LogFile} {file : LogFile}
    (log : findGpsLogFile file.dName = true)
    (younger : ∀ other ∈ before, findGpsLogFile other.dName → file.stMtime < other.stMtime)
    (noOlder : ∀ other ∈ after, findGpsLogFile other.dName → file.stMtime ≤ other.stMtime) :
    Oldest (before ++ file :: after) file ∧
      dropOldest (before ++ file :: after) = before ++ after := by
  have oldest : Oldest (before ++ file :: after) file := by
    intro other member others
    rcases List.mem_append.mp member with earlier | later
    · exact Int.le_of_lt (younger other earlier others)
    · rcases List.mem_cons.mp later with same | behind
      · exact same ▸ Int.le_refl _
      · exact noOlder other behind others
  have notBefore : ∀ other ∈ before, isOldestLog (before ++ file :: after) other = false := by
    intro other earlier
    rw [isOldestLog, Bool.and_eq_false_imp, decide_eq_false_iff_not]
    intro others old
    exact absurd (old file (by simp) log) (Int.not_le.mpr (younger other earlier others))
  have here : isOldestLog (before ++ file :: after) file = true := by
    rw [isOldestLog, log, decide_eq_true oldest]
    rfl
  refine ⟨oldest, ?_⟩
  rw [dropOldest, List.eraseP_append_right _ (fun other earlier => by
    rw [notBefore other earlier]
    decide), List.eraseP_cons_of_pos here]

/-- A folder beyond its limits has an oldest log, the one that is to be removed. -/
theorem oldFile_ordinary (beyond : Beyond dir) : ∃ before file after,
    dir = before ++ file :: after ∧ findGpsLogFile file.dName = true ∧ Oldest dir file ∧
      (scanDir folder dir).oldGpsFile = file.dName ∧ oldFile folder dir = some file ∧
      dropped folder dir = before ++ after ∧ dropOldest dir = before ++ after := by
  have picked := scanDir_picked ordinary
  generalize named : (scanDir folder dir).oldGpsFile = name at picked
  cases picked with
  | none free =>
      obtain ⟨size, count⟩ := no_logs free
      rw [Beyond, size, count] at beyond
      exact absurd beyond (by decide)
  | some before file after split log younger noOlder =>
      have member : file ∈ dir := by simp [split]
      have room := (ordinary.fits file member log).2
      have path : ∀ other, isOldFile folder dir other = decide (other.dName = file.dName) := by
        intro other
        have whole : snprintf (folder ++ file.dName) = folder ++ file.dName := by
          apply List.take_of_length_le
          rw [List.length_append]
          omega
        rw [isOldFile, named, whole]
        simp
      have notBefore : ∀ other ∈ before, isOldFile folder dir other = false := by
        intro other earlier
        have names := ordinary.names
        rw [split] at names
        rw [path, decide_eq_false_iff_not]
        exact (List.pairwise_append.mp names).2.2 other earlier file List.mem_cons_self
      have here : isOldFile folder dir file = true := (path file).trans (decide_eq_true rfl)
      obtain ⟨oldest, drops⟩ := isOldestLog_split log younger noOlder
      rw [← split] at oldest drops
      refine ⟨before, file, after, split, log, oldest, rfl, ?_, ?_, drops⟩
      · rw [oldFile]
        generalize isOldFile folder dir = old at notBefore here
        rw [split, List.find?_append, List.find?_eq_none.mpr (by simpa using notBefore),
          Option.none_or, List.find?_cons_of_pos here]
      · rw [dropped]
        generalize isOldFile folder dir = old at notBefore here
        rw [split, List.eraseP_append_right _ (by simpa using notBefore),
          List.eraseP_cons_of_pos here]

theorem dropOldest_ordinary : Ordinary folder (dropOldest dir) := by
  have kept : (dropOldest dir).Sublist dir := List.eraseP_sublist
  exact ⟨ordinary.names.sublist kept, fun file member => ordinary.fits file (kept.subset member),
    fun file member other among => ordinary.times file (kept.subset member) other
      (kept.subset among)⟩

/-- What is counted on after the removal is what the folder has then. -/
theorem estimate_ordinary (beyond : Beyond dir) :
    (estimate folder dir).dirLogSize.toNat = logSize (dropOldest dir) % 4294967296 ∧
      (estimate folder dir).totalFileCount = logCount (dropOldest dir) := by
  obtain ⟨before, file, after, split, log, _, named, _, _, drops⟩ :=
    oldFile_ordinary ordinary beyond
  have member : file ∈ dir := by simp [split]
  have size := scanDir_size ordinary.counted
  constructor
  · have less := (UInt32.ofNat file.stSize).toNat_lt
    rw [estimate, named, getFileSize,
      stat_of_mem ordinary.names member (ordinary.fits file member log)]
    dsimp only
    rw [UInt32.toNat_sub, UInt32.toNat_ofNat', size, drops, split, logSize_append, logSize, log,
      if_pos rfl, logSize_append]
    omega
  · rw [estimate_count, drops, split, logCount, logCount, List.countP_append, List.countP_append,
      List.countP_cons, log, if_pos rfl]
    omega

theorem estimate_over_iff (beyond : Beyond dir) :
    (estimate folder dir).Over ↔ Beyond (dropOldest dir) := by
  obtain ⟨size, count⟩ := estimate_ordinary ordinary beyond
  rw [Scan.Over, Beyond, UInt32.lt_iff_toNat_lt, size, count]

theorem estimate_matches_iff (beyond : Beyond dir) (last : ¬ Beyond (dropOldest dir)) :
    (estimate folder dir).record.Matches (dropOldest dir) ↔
      logSize (dropOldest dir) < 4294967296 := by
  obtain ⟨size, count⟩ := estimate_ordinary ordinary beyond
  have within := mt (estimate_over_iff ordinary beyond).mp last
  have counted := (Scan.within (by rw [estimate_count]; omega) within).2
  rw [Record.Matches, counted, count, Scan.record, size]
  omega

/-- What the rounds of the check find in an ordinary folder is what the folder has. -/
theorem scanClears_iff {n k : Nat} :
    ScanClears folder removes n k dir ↔ Clears removes n k dir := by
  induction n generalizing k dir with
  | zero =>
      rw [ScanClears, Clears, over_iff ordinary.counted, scanDir_size ordinary.counted]
      refine and_congr_right fun _ => ?_
      omega
  | succ n ih =>
      rw [ScanClears, Clears, over_iff ordinary.counted]
      apply and_congr_right
      intro beyond
      obtain ⟨_, file, _, _, _, oldest, _, found, dropped, drops⟩ :=
        oldFile_ordinary ordinary beyond
      have picks : ∃ file, oldFile folder dir = some file ∧ Oldest dir file := ⟨file, found, oldest⟩
      rw [dropped, ← drops, and_iff_right picks]
      by_cases more : Beyond (dropOldest dir)
      · rw [if_pos ((estimate_over_iff ordinary beyond).mpr more), if_pos more]
        exact exists_congr fun s => and_congr_right fun _ => ih (dropOldest_ordinary ordinary)
      · rw [if_neg (mt (estimate_over_iff ordinary beyond).mp more), if_neg more,
          estimate_matches_iff ordinary beyond more]

end Picks

end Ordinary

section Rounds

variable {rounds k : Nat} {deleted : List (LogFile × List LogFile)} {checked : Checked}

theorem loop_within (within : ¬ (scanDir folder dir).Over) :
    dirCheckLoop folder removes (rounds + 1) k dir deleted =
      some ⟨true, (scanDir folder dir).record, dir, deleted⟩ := by
  rw [dirCheckLoop]
  exact if_neg within

/-- What a round does that finds the folder beyond its limits. -/
theorem loop_removed {file : LogFile} (beyond : (scanDir folder dir).Over)
    (removed : (if removes k then oldFile folder dir else none) = some file) :
    dirCheckLoop folder removes (rounds + 1) k dir deleted =
      if (estimate folder dir).Over then
        dirCheckLoop folder removes rounds (k + 1) (dropped folder dir) ((file, dir) :: deleted)
      else
        some ⟨true, (estimate folder dir).record, dropped folder dir, (file, dir) :: deleted⟩ := by
  simp only [dirCheckLoop, if_pos beyond, removed]

theorem loop_kept (beyond : (scanDir folder dir).Over)
    (kept : (if removes k then oldFile folder dir else none) = none) :
    dirCheckLoop folder removes (rounds + 1) k dir deleted =
      if (estimate folder dir).Over then dirCheckLoop folder removes rounds (k + 1) dir deleted
      else some ⟨true, (estimate folder dir).record, dir, deleted⟩ := by
  simp only [dirCheckLoop, if_pos beyond, kept]

/-- Removals that fail are tried again as long as one more is counted on. -/
theorem loop_skips (beyond : (scanDir folder dir).Over) (more : (estimate folder dir).Over)
    {s : Nat} (skipped : ∀ i, k ≤ i → i < k + s → removes i = false) :
    dirCheckLoop folder removes (rounds + s) k dir deleted =
      dirCheckLoop folder removes rounds (k + s) dir deleted := by
  induction s generalizing k with
  | zero => rfl
  | succ s ih =>
      have here : removes k = false := skipped k (Nat.le_refl k) (by omega)
      have kept : (if removes k then oldFile folder dir else none) = none := by simp [here]
      rw [← Nat.add_assoc rounds, loop_kept beyond kept, if_pos more,
        ih fun i least most => skipped i (by omega) (by omega)]
      congr 1
      omega

/-- A folder that is cleared leaves the right record. -/
theorem right_of_clears {n : Nat} (clears : ScanClears folder removes n k dir)
    (oldest : ∀ deletion ∈ deleted, Oldest deletion.2 deletion.1) :
    ∃ rounds checked, dirCheckLoop folder removes rounds k dir deleted = some checked ∧
      checked.Right := by
  induction n generalizing k dir deleted with
  | zero =>
      obtain ⟨within, exact⟩ := clears
      have least : -1 ≤ (scanDir folder dir).totalFileCount := by
        rw [scanDir_count]
        omega
      obtain ⟨limits, count⟩ := Scan.within least within
      refine ⟨1, _, loop_within within, ⟨fun _ => ⟨⟨exact, ?_⟩, limits⟩, oldest⟩⟩
      exact count.trans scanDir_count
  | succ n ih =>
      obtain ⟨beyond, ⟨file, found, old⟩, rest⟩ := clears
      have others : ∀ deletion ∈ (file, dir) :: deleted, Oldest deletion.2 deletion.1 :=
        List.forall_mem_cons.mpr ⟨old, oldest⟩
      by_cases more : (estimate folder dir).Over
      · rw [if_pos more] at rest
        obtain ⟨s, ⟨least, succeeds, failed⟩, clears⟩ := rest
        obtain ⟨rounds, checked, done, right⟩ := ih clears others
        have removed : (if removes s then oldFile folder dir else none) = some file := by
          simp [succeeds, found]
        refine ⟨rounds + 1 + (s - k), checked, ?_, right⟩
        rw [loop_skips beyond more fun i low high => failed i low (by omega),
          Nat.add_sub_cancel' least, loop_removed beyond removed, if_pos more]
        exact done
      · rw [if_neg more] at rest
        obtain ⟨_, succeeds, exact⟩ := rest
        have removed : (if removes k then oldFile folder dir else none) = some file := by
          simp [succeeds, found]
        have least : -1 ≤ (estimate folder dir).totalFileCount := by
          rw [estimate_count]
          omega
        have last := @loop_removed folder dir removes 0 k deleted file beyond removed
        rw [if_neg more] at last
        exact ⟨1, _, last, ⟨fun _ => ⟨exact, (Scan.within least more).1⟩, others⟩⟩

/-- What has been deleted before a round is in the outcome. -/
theorem loop_deleted (done : dirCheckLoop folder removes rounds k dir deleted = some checked) :
    deleted ⊆ checked.deleted := by
  induction rounds generalizing k dir deleted with
  | zero => cases done
  | succ rounds ih =>
      by_cases beyond : (scanDir folder dir).Over
      · cases removal : (if removes k then oldFile folder dir else none) with
        | none =>
            rw [loop_kept beyond removal] at done
            split at done
            · exact ih done
            · cases done
              exact List.Subset.refl _
        | some file =>
            rw [loop_removed beyond removal] at done
            split at done
            · exact List.Subset.trans (List.subset_cons_self _ _) (ih done)
            · cases done
              exact List.subset_cons_self _ _
      · rw [loop_within beyond] at done
        cases done
        exact List.Subset.refl _

theorem firstRemoval_later {s : Nat} (failed : removes k = false)
    (first : FirstRemoval removes (k + 1) s) : FirstRemoval removes k s := by
  obtain ⟨least, succeeds, before⟩ := first
  refine ⟨by omega, succeeds, fun i low high => ?_⟩
  by_cases here : i = k
  · rw [here]
    exact failed
  · exact before i (by omega) high

/-- A round that removes nothing leaves a folder that is cleared by the later removals only if more
than one was missing. -/
theorem clears_kept {n : Nat} (kept : (if removes k then oldFile folder dir else none) = none)
    (beyond : (scanDir folder dir).Over) (more : (estimate folder dir).Over)
    (clears : ScanClears folder removes n (k + 1) dir) : ScanClears folder removes n k dir := by
  cases n with
  | zero => exact absurd beyond clears.1
  | succ n =>
      obtain ⟨_, ⟨file, found, old⟩, rest⟩ := clears
      have failed : removes k = false := by
        by_contra succeeds
        simp [succeeds, found] at kept
      rw [if_pos more] at rest
      obtain ⟨s, first, later⟩ := rest
      refine ⟨beyond, ⟨file, found, old⟩, ?_⟩
      rw [if_pos more]
      exact ⟨s, firstRemoval_later failed first, later⟩

/-- Only a folder that is cleared leaves the right record. -/
theorem clears_of_right (done : dirCheckLoop folder removes rounds k dir deleted = some checked)
    (right : checked.Right) : ∃ n, ScanClears folder removes n k dir := by
  induction rounds generalizing k dir deleted with
  | zero => cases done
  | succ rounds ih =>
      by_cases beyond : (scanDir folder dir).Over
      · have least : -1 ≤ (estimate folder dir).totalFileCount := by
          rw [estimate_count]
          omega
        cases removal : (if removes k then oldFile folder dir else none) with
        | none =>
            rw [loop_kept beyond removal] at done
            split at done
            · rename_i more
              obtain ⟨n, clears⟩ := ih done
              exact ⟨n, clears_kept removal beyond more clears⟩
            · rename_i last
              cases done
              have count : (estimate folder dir).record.currentLogNum = logCount dir :=
                (right.exact rfl).1.2
              rw [(Scan.within least last).2, estimate_count] at count
              omega
        | some file =>
            obtain ⟨succeeds, found⟩ : removes k = true ∧ oldFile folder dir = some file := by
              split at removal
              · rename_i succeeds
                exact ⟨succeeds, removal⟩
              · cases removal
            have old : Oldest dir file := by
              have kept : (file, dir) ∈ checked.deleted := by
                rw [loop_removed beyond removal] at done
                split at done
                · exact loop_deleted done List.mem_cons_self
                · cases done
                  exact List.mem_cons_self
              exact right.oldest _ kept
            rw [loop_removed beyond removal] at done
            split at done
            · rename_i more
              obtain ⟨n, clears⟩ := ih done
              refine ⟨n + 1, beyond, ⟨file, found, old⟩, ?_⟩
              rw [if_pos more]
              exact ⟨k, ⟨Nat.le_refl k, succeeds, fun i low high => by omega⟩, clears⟩
            · rename_i last
              cases done
              refine ⟨1, beyond, ⟨file, found, old⟩, ?_⟩
              rw [if_neg last]
              exact ⟨rfl, succeeds, (right.exact rfl).1⟩
      · rw [loop_within beyond] at done
        cases done
        exact ⟨0, beyond, (right.exact rfl).1.1⟩

end Rounds

section Check

variable (folder removes dir)

/-- The check ends, and right. -/
def ChecksRight (accessible : Bool) (record : Record) : Prop :=
  ∃ rounds checked,
    gpsLogDirCheck rounds folder accessible removes record dir = some checked ∧ checked.Right

/-- A record that is trusted is right; else, if the folder is accessible, its logs are counted right
and are within the limits, or the check can tell them apart and the oldest can go. -/
def Clearable (accessible : Bool) (record : Record) : Prop :=
  if record.Trusted then record.Matches dir
  else accessible = true → Counted folder dir ∧
    if Beyond dir then Ordinary folder dir ∧ ∃ n, Clears removes n 0 dir
    else logSize dir < 4294967296

/-- A check that does not look at the folder, and one that does. -/
theorem checksRight_iff (accessible : Bool) (record : Record) :
    ChecksRight folder dir removes accessible record ↔
      if record.Trusted then record.Matches dir
      else accessible = true → ∃ n, ScanClears folder removes n 0 dir := by
  unfold ChecksRight
  by_cases trusted : record.Trusted
  · have done : ∀ rounds, gpsLogDirCheck rounds folder accessible removes record dir =
        some ⟨true, record, dir, []⟩ := fun rounds => if_pos trusted
    rw [if_pos trusted]
    constructor
    · intro ⟨rounds, checked, same, right⟩
      rw [done] at same
      cases same
      exact (right.exact rfl).1
    · intro exact
      exact ⟨0, _, done 0, ⟨fun _ => ⟨exact, trusted.2⟩, fun _ member => by cases member⟩⟩
  · rw [if_neg trusted]
    cases accessible with
    | false =>
        have done : gpsLogDirCheck 0 folder false removes record dir =
            some ⟨false, record, dir, []⟩ := if_neg trusted
        refine ⟨fun _ other => (by cases other), fun _ => ?_⟩
        exact ⟨0, _, done, ⟨fun other => (by cases other), fun _ member => by cases member⟩⟩
    | true =>
        have looped : ∀ rounds, gpsLogDirCheck rounds folder true removes record dir =
            dirCheckLoop folder removes rounds 0 dir [] := fun rounds => if_neg trusted
        constructor
        · intro ⟨rounds, checked, done, right⟩ _
          rw [looped] at done
          exact clears_of_right done right
        · intro clears
          obtain ⟨n, clears⟩ := clears rfl
          have unbegun : ∀ deletion ∈ ([] : List (LogFile × List LogFile)),
              Oldest deletion.2 deletion.1 := fun _ member => by cases member
          obtain ⟨rounds, checked, done, right⟩ := right_of_clears clears unbegun
          exact ⟨rounds, checked, (looped rounds).trans done, right⟩

/-- A folder within its limits is counted right, and nothing has to go. -/
theorem scanClears_within (counted : Counted folder dir) (within : ¬ Beyond dir) :
    (∃ n, ScanClears folder removes n 0 dir) ↔ logSize dir < 4294967296 := by
  have size := scanDir_size counted
  have fits := mt (over_iff counted).mp within
  constructor
  · rintro ⟨n, clears⟩
    cases n with
    | zero =>
        have same := clears.2
        omega
    | succ n => exact absurd clears.1 fits
  · intro small
    exact ⟨0, fits, by omega⟩

/-- The check ends with a right record where the folder can be cleared, for every folder and every
outcome of its removals. It does so nowhere else, but perhaps in a folder with logs that it cannot
count or, beyond the limits, not tell apart. -/
theorem checks_right (accessible : Bool) (record : Record) :
    (Clearable folder dir removes accessible record →
      ChecksRight folder dir removes accessible record) ∧
    (record.Trusted ∨ accessible = false ∨
        Counted folder dir ∧ (Beyond dir → Ordinary folder dir) →
      ChecksRight folder dir removes accessible record →
        Clearable folder dir removes accessible record) := by
  rw [checksRight_iff, Clearable]
  by_cases trusted : record.Trusted
  · rw [if_pos trusted, if_pos trusted]
    exact ⟨id, fun _ => id⟩
  · rw [if_neg trusted, if_neg trusted]
    by_cases beyond : Beyond dir
    · rw [if_pos beyond]
      constructor
      · intro clearable access
        obtain ⟨_, ordinary, n, clears⟩ := clearable access
        exact ⟨n, (scanClears_iff ordinary).mpr clears⟩
      · rintro (other | closed | ⟨counted, ordinary⟩) clears access
        · exact absurd other trusted
        · rw [closed] at access
          cases access
        · obtain ⟨n, clears⟩ := clears access
          exact ⟨counted, ordinary beyond, n, (scanClears_iff (ordinary beyond)).mp clears⟩
    · rw [if_neg beyond]
      constructor
      · intro clearable access
        obtain ⟨counted, small⟩ := clearable access
        exact (scanClears_within _ _ _ counted beyond).mpr small
      · rintro (other | closed | ⟨counted, _⟩) clears access
        · exact absurd other trusted
        · rw [closed] at access
          cases access
        · exact ⟨counted, (scanClears_within _ _ _ counted beyond).mp (clears access)⟩

/-- Two logs are there when the first one is opened after a start. -/
def bootFolder : List LogFile :=
  [⟨logNamePrefix ++ ['1'] ++ logNameSuffix, 5, 1, by decide⟩,
    ⟨logNamePrefix ++ ['2'] ++ logNameSuffixWriting, 0, 2, by decide⟩]

/-- The log that was opened is counted before the check, which then trusts the record. -/
theorem not_checks_right :
    ¬ ∀ folder dir removes accessible record, ChecksRight folder dir removes accessible record := by
  intro all
  obtain ⟨rounds, checked, done, right⟩ :=
    all ['/', 'd', '/'] bootFolder (fun _ => true) true ⟨0, 1⟩
  have trusted : Record.Trusted ⟨0, 1⟩ := by decide
  rw [gpsLogDirCheck, if_pos trusted] at done
  cases done
  exact absurd (right.exact rfl).1 (by decide)

end Check

end Connectivity.LbsLog
