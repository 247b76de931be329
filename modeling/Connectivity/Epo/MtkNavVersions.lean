import Connectivity.Transition.Run
import Connectivity.Epo.Downloads

set_option autoImplicit false

/- Whether the DAT file of the last MD5 has been downloaded when NO_UPDATE is reported. -/
namespace Connectivity.Epo

/-- `MTKNAV_DL_RETRY_TIME`. -/
def mtknavDlRetryTime : Nat := 3

/-- `dl_state`, and what `MTKNAV_MD5_FILE` holds if it is there. -/
structure MtkNav where
  md5DlToday : Bool
  datDlToday : Bool
  lastDlDate : Int
  retryTime : Nat
  md5File : Option (List UInt8)
deriving DecidableEq

def MtkNav.init : MtkNav := ⟨false, false, -1, 0, none⟩

/-- What the server sends and which calls on the files go well while a request is handled. -/
structure NavRequest where
  mday : Int
  /-- Whether `MTKNAV_DAT_FILE` is there. -/
  datExists : Bool
  /-- The file of an MD5 download that completes. -/
  md5 : Option (List UInt8)
  newFound : Bool
  newSized : Bool
  newOpens : Bool
  oldFound : Bool
  oldOpens : Bool
  renames : Bool
  /-- The MD5 of the file of a DAT download that completes. -/
  dat : Option (List UInt8)
  datOpens : Bool
deriving DecidableEq

def checkMtknavFileExist (s : MtkNav) (r : NavRequest) : MtkNav :=
  if s.md5File.isNone ∨ r.datExists = false then
    { s with md5DlToday := false, datDlToday := false, retryTime := 0 }
  else s

/-- The old file that is replaced by the new one if the new one differs. -/
def mtknavMD5FileCheck (old : Option (List UInt8)) (r : NavRequest) (new : List UInt8) :
    Md5Result × Option (List UInt8) :=
  if r.newFound = false then (.fail, old)
  else
    let renamed := if r.renames then some new else old
    match (if r.oldFound then old else none) with
    | none =>
        if getFileSize r.newSized new < 32 then (.fail, old) else (.updated, renamed)
    | some file =>
        if getFileSize r.newSized new < 32 then (.fail, old)
        else
          let oldMd5 := if r.oldOpens then md5Text file else []
          let newMd5 := if r.newOpens then md5Text new else []
          if oldMd5 ≠ newMd5 then (.updated, renamed) else (.noUpdate, old)

def mtknavMD5DownloadProcess (s : MtkNav) (r : NavRequest) : Md5Result × MtkNav :=
  match r.md5 with
  | none => (.fail, s)
  | some new =>
      let (ret, md5File) := mtknavMD5FileCheck s.md5File r new
      (ret, { s with md5File := md5File })

def mtknavDATDownloadProcess (s : MtkNav) (r : NavRequest) : DownloadResult × MtkNav :=
  match r.dat with
  | none => (.fail, s)
  | some _ =>
      if r.datOpens then (.success, s) else (.fail, { s with retryTime := s.retryTime + 1 })

def mtknavFileUpdateImpl (s : MtkNav) (r : NavRequest) : DownloadResult × MtkNav :=
  let (retMD5, s) := mtknavMD5DownloadProcess s r
  let s := if retMD5 ≠ .fail then { s with md5DlToday := true } else s
  -- new MD5 match old MD5, no need download DAT any more
  if retMD5 = .noUpdate then (.noUpdate, { s with datDlToday := true })
  else
    let (retDAT, s) :=
      if retMD5 = .updated then mtknavDATDownloadProcess s r else (.fail, s)
    (retDAT, if retDAT = .success then { s with datDlToday := true } else s)

/-- The flags that a request finds: a missing file and a new date reset them. -/
def MtkNav.opened (s : MtkNav) (r : NavRequest) : MtkNav :=
  let s := checkMtknavFileExist s r
  if s.lastDlDate ≠ r.mday then
    { s with md5DlToday := false, datDlToday := false, retryTime := 0, lastDlDate := r.mday }
  else s

def MtkNav.performs (s : MtkNav) : Bool :=
  s.datDlToday = false ∧ s.retryTime ≤ mtknavDlRetryTime

def mnldMtknavDownload (s : MtkNav) (r : NavRequest) : DownloadResult × MtkNav :=
  let s := s.opened r
  if s.performs then mtknavFileUpdateImpl s r
  else if s.datDlToday = true then (.noUpdate, s)
  else (.retryTooMuch, s)

open Transition

/-- A run of requests: the result of the last, the MD5 seen last on the server, and the MD5s
whose DAT files have been downloaded. -/
structure NavRun where
  nav : MtkNav
  result : Option DownloadResult
  seen : Option (List UInt8)
  complete : List (List UInt8)
deriving DecidableEq

def NavRun.start : NavRun := ⟨.init, none, none, []⟩

/-- A boot leaves the files. -/
inductive NavEvent
  | boot
  | request (r : NavRequest)

section

variable (s : NavRun) (r : NavRequest)

/-- The MD5 of the DAT file that is downloaded for a request. -/
def NavRun.downloaded : Option (List UInt8) :=
  if (s.nav.opened r).performs ∧ (mtknavMD5DownloadProcess (s.nav.opened r) r).1 = .updated ∧
    r.datOpens then r.dat
  else none

def NavRun.next : NavRun :=
  let (result, nav) := mnldMtknavDownload s.nav r
  { nav := nav
    result := result
    seen := if (s.nav.opened r).performs then (r.md5.map md5Text).or s.seen else s.seen
    complete := (s.downloaded r).toList ++ s.complete }

def NavRun.boot : NavRun :=
  { s with
    nav := { MtkNav.init with md5File := s.nav.md5File }
    result := none }

def NavRun.after : NavEvent → NavRun
  | .boot => s.boot
  | .request r => s.next r

def NavRun.step (e : NavEvent) : Option NavRun := some (s.after e)

/-- The DAT file of the MD5 seen last has been downloaded. -/
def NavRun.Current : Prop := ∃ md5, s.seen = some md5 ∧ md5 ∈ s.complete

/-- NO_UPDATE is reported only if there is nothing left to be downloaded. -/
def NavRun.NoneLost : Prop := s.result = some .noUpdate → s.Current

/-- What keeps the MD5 file and the DAT file together. -/
structure NavRun.Together : Prop where
  /-- A new MD5 takes the place of the old one, or has a DAT file downloaded, only along with
  its own DAT file or after that. -/
  updated : (s.nav.opened r).performs → ∀ new, r.md5 = some new →
    (mtknavMD5FileCheck s.nav.md5File r new).1 = .updated →
    r.renames ∨ (r.datOpens ∧ r.dat.isSome) →
    (r.datOpens ∧ r.dat = some (md5Text new)) ∨ md5Text new ∈ s.complete
  /-- The files that are found equal have been read. -/
  read : (s.nav.opened r).performs → ∀ new, r.md5 = some new →
    (mtknavMD5FileCheck s.nav.md5File r new).1 = .noUpdate →
    (r.oldOpens ∧ r.newOpens) ∨ md5Text new ∈ s.complete

def NavRun.Keeps : NavEvent → Prop
  | .boot => True
  | .request r => s.Together r

end

section Requests

variable (s : MtkNav) (r : NavRequest)

theorem opened_md5File : (s.opened r).md5File = s.md5File := by
  simp only [MtkNav.opened, checkMtknavFileExist]
  split
  · split
    · rfl
    · rfl
  · split
    · rfl
    · rfl

/-- A request sets no flag before it is performed. -/
theorem opened_flag (flag : (s.opened r).datDlToday = true) : s.datDlToday = true := by
  simp only [MtkNav.opened, checkMtknavFileExist] at flag
  grind

/-- What the check of a new file says, and the file that is remembered behind it. -/
theorem mtknavMD5FileCheck_spec (old : Option (List UInt8)) (new : List UInt8) :
    mtknavMD5FileCheck old r new = (.fail, old) ∨
      mtknavMD5FileCheck old r new = (.updated, if r.renames then some new else old) ∨
      (mtknavMD5FileCheck old r new = (.noUpdate, old) ∧
        (r.oldOpens ∧ r.newOpens → ∃ file, old = some file ∧ md5Text file = md5Text new)) := by
  rw [mtknavMD5FileCheck]
  split
  · exact .inl rfl
  · dsimp only
    cases found : (if r.oldFound then old else none) with
    | none =>
        dsimp only
        split
        · exact .inl rfl
        · exact .inr (.inl rfl)
    | some file =>
        have remembered : old = some file := by
          split at found
          · exact found
          · cases found
        dsimp only
        split
        · exact .inl rfl
        · by_cases differ : (if r.oldOpens then md5Text file else []) ≠
              (if r.newOpens then md5Text new else [])
          · rw [if_pos differ]
            exact .inr (.inl rfl)
          · rw [if_neg differ]
            refine .inr (.inr ⟨rfl, ?_⟩)
            intro opens
            rw [if_pos opens.1, if_pos opens.2] at differ
            exact ⟨file, remembered, not_not.mp differ⟩

variable {s r}

theorem mtknavFileUpdateImpl_fail (fail : (mtknavMD5DownloadProcess s r).1 = .fail) :
    mtknavFileUpdateImpl s r = (.fail, (mtknavMD5DownloadProcess s r).2) := by
  simp [mtknavFileUpdateImpl, fail]

theorem mtknavFileUpdateImpl_noUpdate (same : (mtknavMD5DownloadProcess s r).1 = .noUpdate) :
    mtknavFileUpdateImpl s r =
      (.noUpdate,
        { (mtknavMD5DownloadProcess s r).2 with md5DlToday := true, datDlToday := true }) := by
  simp [mtknavFileUpdateImpl, same]

theorem mtknavFileUpdateImpl_success (updated : (mtknavMD5DownloadProcess s r).1 = .updated)
    (success : r.datOpens ∧ r.dat.isSome) :
    mtknavFileUpdateImpl s r =
      (.success,
        { (mtknavMD5DownloadProcess s r).2 with md5DlToday := true, datDlToday := true }) := by
  obtain ⟨opens, complete⟩ := success
  obtain ⟨md5, dat⟩ := Option.isSome_iff_exists.mp complete
  simp [mtknavFileUpdateImpl, mtknavDATDownloadProcess, updated, dat, opens]

/-- A DAT file that is not downloaded leaves the new MD5 file, but sets no flag. -/
theorem mtknavFileUpdateImpl_datFail (updated : (mtknavMD5DownloadProcess s r).1 = .updated)
    (fails : ¬ (r.datOpens ∧ r.dat.isSome)) :
    (mtknavFileUpdateImpl s r).1 = .fail ∧
      (mtknavFileUpdateImpl s r).2.datDlToday = (mtknavMD5DownloadProcess s r).2.datDlToday ∧
      (mtknavFileUpdateImpl s r).2.md5File = (mtknavMD5DownloadProcess s r).2.md5File := by
  cases dat : r.dat with
  | none => simp [mtknavFileUpdateImpl, mtknavDATDownloadProcess, updated, dat]
  | some md5 =>
      have closed : r.datOpens = false := by
        rw [dat] at fails
        simpa using fails
      simp [mtknavFileUpdateImpl, mtknavDATDownloadProcess, updated, dat, closed]

end Requests

section Runs

variable {s t : NavRun} {r : NavRequest}

structure NavRun.Inv (s : NavRun) : Prop where
  /-- The DAT file of the MD5 that is remembered has been downloaded. -/
  stored : ∀ old, s.nav.md5File = some old → md5Text old ∈ s.complete
  flagged : s.nav.datDlToday = true → s.Current
  noneLost : s.NoneLost

theorem performs_flag {s : MtkNav} (performs : s.performs = true) : s.datDlToday = false := by
  simp only [MtkNav.performs, Bool.decide_and, Bool.and_eq_true, decide_eq_true_eq] at performs
  exact performs.1

theorem NavRun.next_of_performs {r : NavRequest} (performs : (s.nav.opened r).performs = true) :
    s.next r =
      { nav := (mtknavFileUpdateImpl (s.nav.opened r) r).2
        result := (mtknavFileUpdateImpl (s.nav.opened r) r).1
        seen := (r.md5.map md5Text).or s.seen
        complete := (s.downloaded r).toList ++ s.complete } := by
  simp only [NavRun.next, mnldMtknavDownload, performs, if_true]

/-- A request that is not performed reports what the flag says. -/
theorem NavRun.next_of_refuses {r : NavRequest} (refuses : (s.nav.opened r).performs = false) :
    s.next r =
      { s with
        nav := s.nav.opened r
        result :=
          if (s.nav.opened r).datDlToday = true then some .noUpdate else some .retryTooMuch } := by
  simp only [NavRun.next, mnldMtknavDownload, NavRun.downloaded, refuses, Bool.false_eq_true,
    false_and, if_false]
  split
  · rfl
  · rfl

/-- A request that ends without a result keeps the invariant, if it leaves the MD5 file. -/
theorem inv_of_fail (inv : s.Inv) (kept : t.nav.md5File = s.nav.md5File)
    (more : s.complete ⊆ t.complete) (flag : t.nav.datDlToday = false)
    (fail : t.result = some .fail) : t.Inv := by
  refine ⟨?_, ?_, ?_⟩
  · intro old remembered
    rw [kept] at remembered
    exact more (inv.stored old remembered)
  · intro set
    rw [flag] at set
    cases set
  · intro reported
    rw [fail] at reported
    cases reported

/-- Where the new MD5 is remembered or gets a DAT file, its own DAT file is there. -/
theorem own_complete {new : List UInt8} (together : s.Together r)
    (performs : (s.nav.opened r).performs = true)
    (process : (mtknavMD5DownloadProcess (s.nav.opened r) r).1 = .updated)
    (downloaded : r.md5 = some new)
    (updated : (mtknavMD5FileCheck s.nav.md5File r new).1 = .updated)
    (taken : r.renames ∨ (r.datOpens ∧ r.dat.isSome)) :
    md5Text new ∈ (s.downloaded r).toList ++ s.complete := by
  rcases together.updated performs new downloaded updated taken with ⟨opens, own⟩ | before
  · rw [NavRun.downloaded, if_pos ⟨performs, process, opens⟩, own]
    exact List.mem_cons_self
  · exact List.mem_append_right _ before

/-- What is remembered behind an update is the new MD5 or the one before. -/
theorem stored_of_updated {new old : List UInt8} {complete : List (List UInt8)} (inv : s.Inv)
    (more : s.complete ⊆ complete) (own : r.renames → md5Text new ∈ complete)
    (remembered : (if r.renames then some new else s.nav.md5File) = some old) :
    md5Text old ∈ complete := by
  split at remembered
  · rename_i renames
    cases remembered
    exact own renames
  · exact more (inv.stored old remembered)

/-- A request that is not performed keeps the invariant. -/
theorem inv_of_refuses (inv : s.Inv) (refuses : (s.nav.opened r).performs = false) :
    (s.next r).Inv := by
  rw [NavRun.next_of_refuses refuses]
  refine ⟨?_, ?_, ?_⟩
  · intro old remembered
    rw [opened_md5File] at remembered
    exact inv.stored old remembered
  · intro set
    exact inv.flagged (opened_flag _ _ set)
  · intro reported
    apply inv.flagged
    apply opened_flag
    by_contra unset
    dsimp only at reported
    rw [if_neg unset] at reported
    cases reported

theorem inv_of_boot (inv : s.Inv) : s.boot.Inv := by
  refine ⟨inv.stored, ?_, ?_⟩
  · intro set
    cases set
  · intro reported
    cases reported

theorem inv_of_request (inv : s.Inv) (together : s.Together r) : (s.next r).Inv := by
  cases performs : (s.nav.opened r).performs with
  | false => exact inv_of_refuses inv performs
  | true =>
      have flag := performs_flag performs
      have more : s.complete ⊆ (s.downloaded r).toList ++ s.complete :=
        List.subset_append_right ..
      rw [NavRun.next_of_performs performs]
      cases downloaded : r.md5 with
      | none =>
          have process :
              mtknavMD5DownloadProcess (s.nav.opened r) r = (.fail, s.nav.opened r) := by
            rw [mtknavMD5DownloadProcess, downloaded]
          rw [mtknavFileUpdateImpl_fail (congrArg Prod.fst process), process]
          exact inv_of_fail inv (opened_md5File ..) more flag rfl
      | some new =>
          have process : mtknavMD5DownloadProcess (s.nav.opened r) r =
              ((mtknavMD5FileCheck s.nav.md5File r new).1,
                { s.nav.opened r with
                  md5File := (mtknavMD5FileCheck s.nav.md5File r new).2 }) := by
            rw [mtknavMD5DownloadProcess, downloaded, ← opened_md5File s.nav r]
          rcases mtknavMD5FileCheck_spec r s.nav.md5File new with fail | updated | ⟨same, equal⟩
          · rw [fail] at process
            rw [mtknavFileUpdateImpl_fail (congrArg Prod.fst process), process]
            exact inv_of_fail inv rfl more flag rfl
          · have own := own_complete together performs
              ((congrArg Prod.fst process).trans (congrArg Prod.fst updated)) downloaded
              (congrArg Prod.fst updated)
            rw [updated] at process
            have stored : ∀ old, (if r.renames then some new else s.nav.md5File) = some old →
                md5Text old ∈ (s.downloaded r).toList ++ s.complete := by
              intro old remembered
              exact stored_of_updated inv more (fun renames => own (.inl renames)) remembered
            by_cases success : r.datOpens ∧ r.dat.isSome
            · rw [mtknavFileUpdateImpl_success (congrArg Prod.fst process) success, process]
              refine ⟨stored, ?_, ?_⟩
              · intro _
                exact ⟨md5Text new, rfl, own (.inr success)⟩
              · intro reported
                cases reported
            · obtain ⟨fail, unset, left⟩ :=
                mtknavFileUpdateImpl_datFail (congrArg Prod.fst process) success
              rw [process] at unset left
              refine ⟨?_, ?_, ?_⟩
              · intro old remembered
                rw [left] at remembered
                exact stored old remembered
              · intro set
                rw [unset, flag] at set
                cases set
              · intro reported
                rw [fail] at reported
                cases reported
          · have known : md5Text new ∈ s.complete := by
              rcases together.read performs new downloaded (congrArg Prod.fst same) with
                opens | before
              · obtain ⟨old, remembered, text⟩ := equal opens
                rw [← text]
                exact inv.stored old remembered
              · exact before
            rw [same] at process
            rw [mtknavFileUpdateImpl_noUpdate (congrArg Prod.fst process), process]
            refine ⟨?_, ?_, ?_⟩
            · intro old remembered
              exact more (inv.stored old remembered)
            · intro _
              exact ⟨md5Text new, rfl, more known⟩
            · intro _
              exact ⟨md5Text new, rfl, more known⟩

theorem navRun_kept {e : NavEvent} (inv : s.Inv) (keeps : s.Keeps e) (taken : s.step e = some t) :
    t.Inv := by
  cases taken
  cases e with
  | boot => exact inv_of_boot inv
  | request r => exact inv_of_request inv keeps

end Runs

/-- Whatever the versions on the server, the downloads that fail and the boots: as long as no MD5 is
remembered without its DAT file, NO_UPDATE is reported only when the DAT file of the MD5 seen
last has been downloaded. -/
theorem navUpdates_kept {events : List NavEvent}
    (keeps : StepsMeet NavRun.step NavRun.Keeps .start events) :
    AllStates NavRun.step NavRun.NoneLost .start events := by
  have start : NavRun.start.Inv := by
    refine ⟨?_, ?_, ?_⟩
    · intro old remembered
      cases remembered
    · intro set
      cases set
    · intro reported
      cases reported
  have invariant : AllStates NavRun.step NavRun.Inv .start events := by
    apply allStates_of_stepsMeet _ start keeps
    intro s e t inv condition taken
    exact navRun_kept inv condition taken
  exact invariant.imp fun _ inv => inv.noneLost

/-- The file of an MD5. -/
def md5Of (digit : UInt8) : List UInt8 := List.replicate 32 digit ++ [32, 32, 77, 84, 75]

/-- A request of the first day of a month, with one version on the server. -/
def navRequest (dat : Option (List UInt8)) : NavRequest where
  mday := 1
  datExists := true
  md5 := some (md5Of 97)
  newFound := true
  newSized := true
  newOpens := true
  oldFound := true
  oldOpens := true
  renames := true
  dat := dat
  datOpens := true

theorem navUpdates_kept_two :
    AllStates NavRun.step NavRun.NoneLost .start
      [.request (navRequest (md5Text (md5Of 97))), .boot, .request (navRequest none)] := by
  apply navUpdates_kept
  intro s taken
  refine ⟨⟨?_, ?_⟩, ?_⟩
  · intro _ new downloaded _ _
    cases downloaded
    exact .inl ⟨rfl, rfl⟩
  · intro _ new _ _
    exact .inl ⟨rfl, rfl⟩
  cases taken
  refine fun t booted => ⟨trivial, ?_⟩
  cases booted
  intro u _
  refine ⟨⟨?_, ?_⟩, trivial⟩
  · intro performs
    revert performs
    decide
  · intro _ new _ _
    exact .inl ⟨rfl, rfl⟩

/-- The DAT file cannot be downloaded, but its MD5 is remembered. -/
theorem not_navUpdates_kept :
    ¬ AllStates NavRun.step NavRun.NoneLost .start
      [.request (navRequest none), .request (navRequest none)] := by
  intro all
  have held := all.last (exec_total ..)
  obtain ⟨md5, _, inside⟩ := held (by decide)
  have none : (((NavRun.start.next (navRequest none)).next (navRequest none)).complete) = [] := by
    decide
  have nowhere : md5 ∈ ([] : List (List UInt8)) := none ▸ inside
  cases nowhere

end Connectivity.Epo
