import Connectivity.Launcher.PatchSearch

set_option autoImplicit false

/- Which files a search announces, and what it returns. -/
namespace Connectivity.Launcher

open WpaDriver (ascii)

/-- A read fails or has all of its bytes. -/
def Whole (content : List UInt8) (offset size : Nat) (most : Option Nat) : Prop :=
  ∀ bytes, readAt content offset size most = some bytes → bytes.length = size

namespace PatchFile

variable (k : SearchKind) (chipId fwVersion : Int) (e : PatchFile)

/-- The name of the file begins with the prefix of the chip. -/
def isNamed : Bool := (k.namePrefix chipId).isPrefixOf e.name

/-- The file is opened, and its header is gone to. -/
def isReached : Bool := e.fd.isSome && e.seeks

/-- The version of the file has been read, and its low byte is that of the firmware. -/
def carriesVersion : Bool :=
  e.high.isSome && e.low.isSome && decide (((e.content.getD 23 0).toNat : Int) = fwVersion % 256)

/-- The header behind the version. -/
def infoOf : List UInt8 :=
  (e.content.drop 24).take k.infoLen ++ List.replicate (8 - k.infoLen) 0

/-- The driver is to be told of the file once its header has been gone to. -/
def isTold : Bool := e.carriesVersion fwVersion && e.info.isSome && k.accepts (e.infoOf k)

/-- A header that has been gone to is not read, or the driver does not take the file. -/
def isUnread : Bool :=
  e.high.isNone || e.low.isNone || e.carriesVersion fwVersion && (e.info.isNone ||
    k.accepts (e.infoOf k) && k.checks && !e.taken)

/-- The file is one to be announced. -/
def isAnnounced : Bool := e.isNamed k chipId && e.isReached && e.isTold k fwVersion

/-- The file is one of the chip, but cannot be opened, gone to or read, or the driver does not take
it. -/
def hasFailed : Bool := e.isNamed k chipId && (!e.isReached || e.isUnread k fwVersion)

/-- None of the reads of the header is short. -/
structure Untruncated : Prop where
  high : Whole e.content 22 1 e.high
  low : Whole e.content 23 1 e.low
  info : Whole e.content 24 k.infoLen e.info

/-- What the driver is told of the file, with the number of patches if it is the first one. -/
def told (isFirst : Bool) : List DriverCall :=
  (if k.counts = true ∧ isFirst = true then
    [DriverCall.setPatchNum (((e.infoOf k).getD 0 0).toNat / 16)] else []) ++
      [k.call (e.infoOf k) e.name]

/-- What it is told of a row of files, each of them once. -/
def announcements (isFirst : Bool) : List PatchFile → List DriverCall
  | [] => []
  | e :: rest => e.told k isFirst ++ announcements false rest

end PatchFile

variable {k : SearchKind} {chipId fwVersion : Int} {s : Search} {e : PatchFile}
  {content : List UInt8} {offset size : Nat} {most : Option Nat} {path : List UInt8}

/-- A read that is not short has the bytes of the file. -/
theorem readAt_whole (whole : Whole content offset size most) (ok : most.isSome = true) :
    readAt content offset size most = some ((content.drop offset).take size) ∧
      ((content.drop offset).take size).length = size := by
  cases most with
  | none => cases ok
  | some most =>
      have length := whole _ rfl
      rw [List.length_take] at length
      have enough : min most size = size := by omega
      rw [readAt, enough]
      refine ⟨rfl, ?_⟩
      rw [List.length_take]
      omega

theorem readAt_none (error : most.isSome = false) : readAt content offset size most = none := by
  cases most with
  | none => rfl
  | some most => cases error

/-- A version that has been read: its low byte is in the file, and the rest of the header is behind
it. -/
theorem version_whole (untruncated : e.Untruncated k) (high : e.high.isSome = true)
    (low : e.low.isSome = true) : (launcherGetPatchVersion e).ret = 0 ∧
      (launcherGetPatchVersion e).low = e.content.getD 23 0 ∧
      (launcherGetPatchVersion e).passed = 2 := by
  obtain ⟨first, one⟩ := readAt_whole untruncated.high high
  obtain ⟨second, another⟩ := readAt_whole untruncated.low low
  have here : ((e.content.drop 23).take 1).headD 0 = e.content.getD 23 0 := by
    rw [List.headD_eq_head?_getD, List.head?_take, if_neg (by decide), List.head?_drop,
      List.getD_eq_getElem?_getD]
  unfold launcherGetPatchVersion
  simp only [first, Option.getD_some, one, second, another, here, reduceCtorEq, if_false, and_self]

theorem version_failed (failed : ¬ (e.high.isSome = true ∧ e.low.isSome = true)) :
    (launcherGetPatchVersion e).ret ≠ 0 := by
  unfold launcherGetPatchVersion
  cases low : e.low.isSome with
  | false =>
      simp only [readAt_none low, if_true]
      decide
  | true =>
      have high : e.high.isSome = false := by
        rw [low] at failed
        simpa using failed
      simp only [readAt_none high, if_true]
      split <;> decide

/-- What is done with a header that is not short. -/
theorem inspect_whole (untruncated : e.Untruncated k) : s.inspect k fwVersion e =
    if e.high.isSome = true ∧ e.low.isSome = true then
      if e.carriesVersion fwVersion = true then
        if e.info.isSome = true then
          if k.accepts (e.infoOf k) = true then s.tell k e (e.infoOf k) else s
        else { s with ret := -5 }
      else s
    else { s with ret := -4 } := by
  by_cases both : e.high.isSome = true ∧ e.low.isSome = true
  · obtain ⟨ret, low, passed⟩ := version_whole untruncated both.1 both.2
    rw [if_pos both]
    unfold Search.inspect
    simp only [ret, low, passed, ne_eq, not_true_eq_false, if_false]
    by_cases same : ((e.content.getD 23 0).toNat : Int) = fwVersion % 256
    · have carries : e.carriesVersion fwVersion = true := by
        simp only [PatchFile.carriesVersion, both.1, both.2, same, decide_true, Bool.and_self]
      rw [if_neg (not_not.mpr same), if_pos carries]
      cases info : e.info.isSome with
      | false =>
          rw [readAt_none info, if_neg Bool.false_ne_true]
      | true =>
          obtain ⟨read, length⟩ := readAt_whole untruncated.info info
          rw [read, if_pos rfl]
          simp only [length, PatchFile.infoOf]
          rfl
    · have other : ¬ e.carriesVersion fwVersion = true := by
        simp only [PatchFile.carriesVersion, same, decide_false, Bool.and_false]
        decide
      rw [if_pos same, if_neg other]
  · rw [if_neg both]
    unfold Search.inspect
    simp only [if_pos (version_failed both)]

/-- An inspection says nothing of descriptors and buffers. -/
theorem inspect_rest : (s.inspect k fwVersion e).opened = s.opened ∧
    (s.inspect k fwVersion e).closed = s.closed ∧
    (s.inspect k fwVersion e).overflowed = s.overflowed := by
  unfold Search.inspect
  dsimp only
  split
  · exact ⟨rfl, rfl, rfl⟩
  · split
    · exact ⟨rfl, rfl, rfl⟩
    · split
      · exact ⟨rfl, rfl, rfl⟩
      · split
        · exact ⟨rfl, rfl, rfl⟩
        · exact ⟨rfl, rfl, rfl⟩

/-- What an inspection tells the driver, and what it returns. -/
theorem inspect_told (untruncated : e.Untruncated k) :
    (s.inspect k fwVersion e).calls =
        s.calls ++ (if e.isTold k fwVersion = true then e.told k s.isFirst else []) ∧
      (s.inspect k fwVersion e).isFirst = (s.isFirst && !e.isTold k fwVersion) ∧
      ((s.inspect k fwVersion e).ret = 0 ↔ s.ret = 0 ∧ e.isUnread k fwVersion = false) := by
  rw [inspect_whole untruncated]
  by_cases both : e.high.isSome = true ∧ e.low.isSome = true
  · have read : e.high.isNone = false ∧ e.low.isNone = false := by
      rw [Option.isNone_eq_false_iff, Option.isNone_eq_false_iff]
      exact both
    rw [if_pos both]
    cases carries : e.carriesVersion fwVersion with
    | false => simp [PatchFile.isTold, PatchFile.isUnread, carries, read]
    | true =>
        cases info : e.info.isSome with
        | false =>
            have none : e.info.isNone = true := by simpa using info
            simp [PatchFile.isTold, PatchFile.isUnread, carries, read, info, none]
        | true =>
            have some : e.info.isNone = false := by simpa using info
            cases accepts : k.accepts (e.infoOf k) with
            | false =>
                simp [PatchFile.isTold, PatchFile.isUnread, carries, read, info, some, accepts]
            | true =>
                simp only [PatchFile.isTold, PatchFile.isUnread, carries, read, info, some, accepts,
                  if_true, Search.tell, PatchFile.told, Bool.and_self, Bool.not_true,
                  Bool.and_false, Bool.false_or, Bool.true_and, List.append_assoc, true_and]
                by_cases refused : k.checks = true ∧ e.taken = false
                · simp [refused]
                · rw [if_neg refused]
                  have fine : (k.checks && !e.taken) = false := by
                    rw [← Bool.not_eq_true]
                    simpa using refused
                  simp [fine]
  · have missing : e.high.isNone = true ∨ e.low.isNone = true := by
      rw [Option.isNone_iff_eq_none, Option.isNone_iff_eq_none]
      simp only [Option.isSome_iff_ne_none] at both
      tauto
    have other : e.carriesVersion fwVersion = false := by
      rw [← Bool.not_eq_true]
      intro carries
      simp only [PatchFile.carriesVersion, Bool.and_eq_true] at carries
      exact both carries.1
    have unread : e.isUnread k fwVersion = true := by
      simp only [PatchFile.isUnread, Bool.or_eq_true]
      exact .inl missing
    rw [if_neg both, unread]
    simp [PatchFile.isTold, other]

section Visit

variable (path)

theorem visit_other (other : e.isNamed k chipId = false) :
    s.visit k chipId fwVersion path e = s := by
  unfold Search.visit
  exact if_pos other

/-- A visit of a file that cannot be reached tells nothing and returns nothing. -/
theorem visit_unreached (reached : e.isReached = false) :
    (s.visit k chipId fwVersion path e).calls = s.calls ∧
      (s.visit k chipId fwVersion path e).isFirst = s.isFirst ∧
      (s.visit k chipId fwVersion path e).ret = s.ret := by
  unfold Search.visit
  split
  · exact ⟨rfl, rfl, rfl⟩
  · cases opens : e.fd with
    | none => exact ⟨rfl, rfl, rfl⟩
    | some fd =>
        have seeks : e.seeks = false := by simpa [PatchFile.isReached, opens] using reached
        simp only [seeks, Bool.false_eq_true, if_false]
        exact ⟨rfl, rfl, rfl⟩

theorem visit_reached (untruncated : e.Untruncated k) (named : e.isNamed k chipId = true)
    (reached : e.isReached = true) :
    (s.visit k chipId fwVersion path e).calls =
        s.calls ++ (if e.isTold k fwVersion = true then e.told k s.isFirst else []) ∧
      (s.visit k chipId fwVersion path e).isFirst = (s.isFirst && !e.isTold k fwVersion) ∧
      ((s.visit k chipId fwVersion path e).ret = 0 ↔
        s.ret = 0 ∧ e.isUnread k fwVersion = false) := by
  have mine : ¬ (k.namePrefix chipId).isPrefixOf e.name = false := by
    rw [show (k.namePrefix chipId).isPrefixOf e.name = true from named]
    decide
  unfold Search.visit
  rw [if_neg mine]
  cases opens : e.fd with
  | none => simp [PatchFile.isReached, opens] at reached
  | some fd =>
      have seeks : e.seeks = true := by simpa [PatchFile.isReached, opens] using reached
      simp only [seeks, if_true]
      exact inspect_told untruncated

/-- A visit closes what it opens. -/
theorem visit_closed (closed : s.closed = s.opened) :
    (s.visit k chipId fwVersion path e).closed = (s.visit k chipId fwVersion path e).opened := by
  unfold Search.visit
  split
  · exact closed
  · cases opens : e.fd with
    | none => exact closed
    | some fd =>
        dsimp only
        split
        · obtain ⟨opened, shut, _⟩ := @inspect_rest k fwVersion
            { s.copyNames path e with
              opened := (s.copyNames path e).opened ++ [fd]
              patchBuildVer := if k.publishes = true then some (launcherSetPatchVersion e)
                else (s.copyNames path e).patchBuildVer } e
          rw [opened, shut]
          exact congrArg (· ++ [fd]) closed
        · exact congrArg (· ++ [fd]) closed

/-- The names of the files of a chip, and nothing else, are put into the buffers. -/
theorem visit_overflowed : (s.visit k chipId fwVersion path e).overflowed =
    if e.isNamed k chipId = true then (s.copyNames path e).overflowed else s.overflowed := by
  cases named : e.isNamed k chipId with
  | false => rw [visit_other path named, if_neg Bool.false_ne_true]
  | true =>
      unfold Search.visit
      have mine : ¬ (k.namePrefix chipId).isPrefixOf e.name = false := by
        rw [show (k.namePrefix chipId).isPrefixOf e.name = true from named]
        decide
      rw [if_neg mine, if_pos rfl]
      cases opens : e.fd with
      | none => rfl
      | some fd =>
          dsimp only
          split
          · rw [inspect_rest.2.2]
          · rfl

/-- What a visit tells the driver, and what is returned. -/
theorem visit_told (untruncated : e.isNamed k chipId = true → e.Untruncated k) :
    (s.visit k chipId fwVersion path e).calls = s.calls ++
        (if e.isAnnounced k chipId fwVersion = true then e.told k s.isFirst else []) ∧
      (s.visit k chipId fwVersion path e).isFirst =
        (s.isFirst && !e.isAnnounced k chipId fwVersion) ∧
      ((e.isNamed k chipId = true → e.isReached = true) →
        ((s.visit k chipId fwVersion path e).ret = 0 ↔
          s.ret = 0 ∧ e.hasFailed k chipId fwVersion = false)) := by
  cases named : e.isNamed k chipId with
  | false =>
      rw [visit_other path named]
      simp [PatchFile.isAnnounced, PatchFile.hasFailed, named]
  | true =>
      cases reached : e.isReached with
      | false =>
          obtain ⟨calls, isFirst, _⟩ := @visit_unreached k chipId fwVersion s e path reached
          rw [calls, isFirst]
          simp [PatchFile.isAnnounced, named, reached]
      | true =>
          obtain ⟨calls, isFirst, ret⟩ :=
            @visit_reached k chipId fwVersion s e path (untruncated named) named reached
          rw [calls, isFirst, ret]
          simp [PatchFile.isAnnounced, PatchFile.hasFailed, named, reached]

end Visit

section Visits

variable {files : List PatchFile}

/-- The loop over the directory. -/
def visits (k : SearchKind) (chipId fwVersion : Int) (path : List UInt8) (s : Search)
    (files : List PatchFile) : Search := files.foldl (Search.visit k chipId fwVersion path) s

theorem visits_calls (untruncated : ∀ e ∈ files, e.isNamed k chipId = true → e.Untruncated k) :
    (visits k chipId fwVersion path s files).calls = s.calls ++ PatchFile.announcements k s.isFirst
      (files.filter fun e => e.isAnnounced k chipId fwVersion) := by
  induction files generalizing s with
  | nil => exact (List.append_nil _).symm
  | cons e rest ih =>
      obtain ⟨calls, isFirst, _⟩ :=
        @visit_told k chipId fwVersion s e path (untruncated e List.mem_cons_self)
      have later := @ih (s.visit k chipId fwVersion path e) fun other there =>
        untruncated other (List.mem_cons_of_mem _ there)
      rw [visits, List.foldl_cons, List.filter_cons]
      rw [visits] at later
      rw [later, calls, isFirst]
      cases announced : e.isAnnounced k chipId fwVersion with
      | false => simp
      | true => simp [PatchFile.announcements]

theorem visits_ret (untruncated : ∀ e ∈ files, e.isNamed k chipId = true → e.Untruncated k)
    (reached : ∀ e ∈ files, e.isNamed k chipId = true → e.isReached = true) :
    (visits k chipId fwVersion path s files).ret = 0 ↔
      s.ret = 0 ∧ ∀ e ∈ files, e.hasFailed k chipId fwVersion = false := by
  induction files generalizing s with
  | nil => simp [visits]
  | cons e rest ih =>
      obtain ⟨_, _, ret⟩ :=
        @visit_told k chipId fwVersion s e path (untruncated e List.mem_cons_self)
      have later := @ih (s.visit k chipId fwVersion path e)
        (fun other there => untruncated other (List.mem_cons_of_mem _ there))
        (fun other there => reached other (List.mem_cons_of_mem _ there))
      rw [visits] at later
      rw [visits, List.foldl_cons, later, ret (reached e List.mem_cons_self), List.forall_mem_cons,
        and_assoc]

theorem visits_closed (closed : s.closed = s.opened) :
    (visits k chipId fwVersion path s files).closed =
      (visits k chipId fwVersion path s files).opened := by
  induction files generalizing s with
  | nil => exact closed
  | cons e rest ih => exact ih (visit_closed path closed)

theorem visits_overflowed (room : path.length ≤ 17) (inside : s.overflowed = false)
    (short : ∀ e ∈ files, e.isNamed k chipId = true → e.name.length ≤ 127) :
    (visits k chipId fwVersion path s files).overflowed = false := by
  induction files generalizing s with
  | nil => exact inside
  | cons e rest ih =>
      refine ih ?_ fun other there => short other (List.mem_cons_of_mem _ there)
      rw [visit_overflowed]
      split
      next named =>
        have fits := short e List.mem_cons_self named
        have full : decide (256 < path.length + 1 + e.name.length + 1) = false := by
          rw [decide_eq_false_iff_not]
          omega
        have name : decide (128 < e.name.length + 1) = false := by
          rw [decide_eq_false_iff_not]
          omega
        rw [Search.copyNames, inside, full, name]
        rfl
      next => exact inside

theorem patchPath_length (path : List UInt8) : (patchPath path).length ≤ 17 := by
  have one : (((path.drop 16).take 1).takeWhile (· ≠ 0)).length ≤ 1 :=
    Nat.le_trans (List.takeWhile_prefix _).length_le (List.length_take_le _ _)
  have dir : (ascii "/vendor/firmware").length = 16 := by decide
  rw [patchPath, List.length_append, dir]
  omega

end Visits

/-- The files of a chip have names that fit into their buffers. -/
def ShortNames (k : SearchKind) (chipId : Int) (files : List PatchFile) : Prop :=
  ∀ e ∈ files, e.isNamed k chipId = true → e.name.length ≤ 127

/-- The headers of the files of a chip are not short. -/
def WholeHeaders (k : SearchKind) (chipId : Int) (files : List PatchFile) : Prop :=
  ∀ e ∈ files, e.isNamed k chipId = true → e.Untruncated k

structure Ordinary (k : SearchKind) (chipId : Int) (files : List PatchFile) : Prop where
  names : ShortNames k chipId files
  headers : WholeHeaders k chipId files

/-- The names have stayed in their buffers, and what has been opened is closed. With no short header
the driver has been told of the files that are to be announced, in their order and with the number
of patches in front; and zero is returned if no file has failed, provided that those of the chip can
be reached. -/
structure SearchedWell (k : SearchKind) (chipId fwVersion : Int) (files : List PatchFile)
    (found : Search) : Prop where
  inside : found.overflowed = false
  closed : found.closed = found.opened
  calls : WholeHeaders k chipId files → found.calls = PatchFile.announcements k true
    (files.filter fun e => e.isAnnounced k chipId fwVersion)
  ret : WholeHeaders k chipId files →
    (∀ e ∈ files, e.isNamed k chipId = true → e.isReached = true) →
    (found.ret = 0 ↔ ∀ e ∈ files, e.hasFailed k chipId fwVersion = false)

theorem searchPatches_well {files : List PatchFile} {wmtFd : Int} (valid : 0 < wmtFd)
    (fits : (k.namePrefix chipId).length ≤ 15) (named : ShortNames k chipId files) :
    SearchedWell k chipId fwVersion files
      (searchPatches k chipId fwVersion wmtFd path (some files)) := by
  have short : decide (16 < (k.namePrefix chipId).length + 1) = false := by
    rw [decide_eq_false_iff_not]
    omega
  have loop : searchPatches k chipId fwVersion wmtFd path (some files) =
      visits k chipId fwVersion (patchPath path) ⟨0, true, none, [], [], [], false⟩ files := by
    rw [searchPatches, if_neg (by omega)]
    simp only [short]
    rfl
  rw [loop]
  constructor
  · exact visits_overflowed (patchPath_length path) rfl named
  · exact visits_closed rfl
  · intro whole
    rw [visits_calls whole]
    rfl
  · intro whole reached
    rw [visits_ret whole reached]
    exact and_iff_right rfl

/-- The two searches of a directory: the patches of a chip with their number, and the ROM patches
whose headers are of a type they may have. -/
theorem patch_searches (chipId fwVersion wmtFd : Int) (path : List UInt8)
    (files : List PatchFile) (valid : 0 < wmtFd)
    (fits : (launcherGetPatchPrefix chipId).length ≤ 15)
    (patches : ShortNames patchKind chipId files)
    (romPatches : ShortNames romPatchKind chipId files) :
    SearchedWell patchKind chipId fwVersion files
        (cmdHdrSchPatch chipId fwVersion wmtFd path (some files)) ∧
      SearchedWell romPatchKind chipId fwVersion files
        (cmdHdrSchRomPatch chipId fwVersion wmtFd path (some files)) :=
  ⟨searchPatches_well valid fits patches,
    searchPatches_well valid (show (ascii "soc1_0" ++ ascii "_ram").length ≤ 15 by decide)
      romPatches⟩

/-- A file of 32 bytes that can be read, for version 1, with a header of a ROM patch. -/
def sampleFile (name : List UInt8) (type : UInt8) : PatchFile where
  name := name
  content := List.replicate 22 0 ++ [0x8A, 1, 0x11, 0, 0, 0x10, 0, 0, 0, type]
  fd := some 7
  seeks := true
  build := some 16
  high := some 1
  low := some 1
  info := some 8
  taken := true

theorem sampleFile_untruncated (name : List UInt8) (type : UInt8) :
    (sampleFile name type).Untruncated patchKind ∧
      (sampleFile name type).Untruncated romPatchKind := by
  refine ⟨⟨?_, ?_, ?_⟩, ⟨?_, ?_, ?_⟩⟩
  all_goals
    intro bytes read
    cases read
    rfl

/-- A directory with a patch and a ROM patch. -/
theorem patch_searches_two :
    SearchedWell patchKind 0x6765 1 [sampleFile (ascii "soc1_0_patch_mcu_1_1.bin") 0,
        sampleFile (ascii "soc1_0_ram_mcu_1_1.bin") 3]
      (cmdHdrSchPatch 0x6765 1 3 [] (some [sampleFile (ascii "soc1_0_patch_mcu_1_1.bin") 0,
        sampleFile (ascii "soc1_0_ram_mcu_1_1.bin") 3])) ∧
    SearchedWell romPatchKind 0x6765 1 [sampleFile (ascii "soc1_0_patch_mcu_1_1.bin") 0,
        sampleFile (ascii "soc1_0_ram_mcu_1_1.bin") 3]
      (cmdHdrSchRomPatch 0x6765 1 3 [] (some [sampleFile (ascii "soc1_0_patch_mcu_1_1.bin") 0,
        sampleFile (ascii "soc1_0_ram_mcu_1_1.bin") 3])) := by
  have short : ∀ e ∈ [sampleFile (ascii "soc1_0_patch_mcu_1_1.bin") 0,
      sampleFile (ascii "soc1_0_ram_mcu_1_1.bin") 3], e.name.length ≤ 127 := by decide
  exact patch_searches 0x6765 1 3 [] _ (by decide) (by decide)
    (fun e there _ => short e there) (fun e there _ => short e there)

/-- A ROM patch of a type that there is not, whose header is complete and carries the version of the
firmware. -/
theorem not_all_announced : ¬ ∀ (chipId fwVersion : Int) (files : List PatchFile),
    Ordinary romPatchKind chipId files →
      (cmdHdrSchRomPatch chipId fwVersion 3 [] (some files)).calls =
        PatchFile.announcements romPatchKind true (files.filter fun e =>
          e.isNamed romPatchKind chipId && e.isReached && e.carriesVersion fwVersion &&
            e.info.isSome) := by
  intro all
  have ordinary : Ordinary romPatchKind 0x6765 [sampleFile (ascii "soc1_0_ram_mcu_1_1.bin") 6] := by
    constructor
    · intro e there _
      cases List.mem_singleton.mp there
      decide
    · intro e there _
      cases List.mem_singleton.mp there
      exact (sampleFile_untruncated _ _).2
  have none := all 0x6765 1 [sampleFile (ascii "soc1_0_ram_mcu_1_1.bin") 6] ordinary
  exact absurd none (by decide)

end Connectivity.Launcher
