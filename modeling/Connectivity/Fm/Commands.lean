import Connectivity.Fm.Core

set_option autoImplicit false

/- The FM service while the radio is enabled: the calls of its client that tune and search, and
the thread that carries their commands out. -/
namespace Connectivity.Fm

inductive FmCommandType
  | cmdExit | cmdEnable | cmdDisable | cmdConfig | cmdStep | cmdSeekUp | cmdSeekDown
  | cmdScanUp | cmdScanDown | cmdPreScan | cmdTune | cmdCancelSearch
deriving DecidableEq, Repr

inductive SearchMode
  | seek | scan
deriving DecidableEq, Repr

inductive Direction
  | up | down
deriving DecidableEq, Repr

inductive Region
  | ue | japan | japanw | special
deriving DecidableEq, Repr

/-- The locals of a search in `fm_hidl_thread`. -/
structure Search where
  isScan : Bool
  scanDone : Bool
  isUp : Bool
  round : Nat
  startFreq : Int
  origFreq : Int
  scanFreq : Int
deriving DecidableEq, Repr

/-- Where `fm_hidl_thread` is: in `pthread_cond_wait`, in front of the next command of its list,
at the top of a search's loop, behind a round of it, at the loop's condition, behind the loop,
at the end of the search, or at its own. -/
inductive Thread
  | waiting | walking
  | searching (search : Search) | dwelling (search : Search) | looping (search : Search)
  | completed | leaving | exited
deriving DecidableEq, Repr

/-- The members of `FmHidlService` that the calls and the thread share, the frequency of the
`setFreq` that has not queued its command yet, and whether the thread holds `mCommandLock`: it
does from the end of a wait to the next one. -/
structure Service where
  cfg : CustCfg
  mFmCommandList : List FmCommandType
  mTuneFreq : Int
  mSearchMode : SearchMode
  mFmCallback : Bool
  mEnabled : Bool
  mFmTunned : Bool
  mSearching : Bool
  mSearchCancelled : Bool
  calling : Option Int
  mCommandLock : Bool
  thread : Thread
deriving DecidableEq, Repr

/-- The three places that call `FMR_tune`: for a command, for the station a search has found, and
to go back when it has found none. -/
inductive Site
  | command | found | fallback
deriving DecidableEq, Repr

structure Tune where
  site : Site
  freq : Int
deriving DecidableEq, Repr

namespace Service

variable (s : Service)

/-- `sendCommand`, which leaves the list when there is no memory. -/
def sendCommand (type : FmCommandType) (memory : Bool) : Service :=
  if memory then { s with mFmCommandList := s.mFmCommandList ++ [type] } else s

/-- The first half of `setFreq`, in front of the lock: an unsigned frequency becomes an `int`. -/
def setFreq (freq : BitVec 32) : Service :=
  { s with mTuneFreq := freq.toInt, calling := some freq.toInt }

/-- The other half, which returns `OK` in any case. -/
def queueTune (memory : Bool) : Service :=
  { s.sendCommand .cmdTune memory with calling := none }

def searchCommand (dir : Direction) : FmCommandType :=
  match s.mSearchMode, dir with
  | .seek, .up => .cmdSeekUp
  | .seek, .down => .cmdSeekDown
  | .scan, .up => .cmdScanUp
  | .scan, .down => .cmdScanDown

/-- Whether `startSearch` comes to its lock. -/
def searchAllowed : Bool := s.mFmCallback && s.mEnabled

def startSearch (dir : Direction) (memory : Bool) : Service :=
  if s.searchAllowed then s.sendCommand (s.searchCommand dir) memory else s

def cancelSearch : Service :=
  if s.mSearching then { s with mSearchCancelled := true } else s

def setSearchMode (mode : SearchMode) : Service := { s with mSearchMode := mode }

def setRegion (region : Region) : Service :=
  match region with
  | .ue => { s with cfg := s.cfg.setRegion .ue }
  | .japan => { s with cfg := s.cfg.setRegion .japan }
  | .japanw => { s with cfg := s.cfg.setRegion .japanw }
  | .special => { s with cfg := s.cfg.setRegion .special }

def setBand (low high : BitVec 32) : Service :=
  { s with cfg := s.cfg.setCustomizedBandBoundary low.toInt high.toInt }

/-- The end of a wait, by a signal or without one. -/
def wake : Service := { s with thread := .walking, mCommandLock := true }

/-- `CMD_TUNE`: the frequency is read from the service. -/
def runTune (driver : Int) : Service × List Tune :=
  ({ s with mFmTunned := decide (s.cfg.tune s.mTuneFreq driver = 0) },
    [⟨.command, s.mTuneFreq⟩])

/-- The start of a search, which begins at the lower end of the band if the frequency is outside;
`stack` is what `scanFreq` holds before anything is stored there. -/
def beginSearch (isScan isUp : Bool) (stack : Int) : Service :=
  let startFreq := if s.cfg.outside s.mTuneFreq then s.cfg.getBandBoundary.1 else s.mTuneFreq
  { s with
    mSearching := true
    thread := .searching {
      isScan := isScan
      scanDone := false
      isUp := isUp
      round := 0
      startFreq := startFreq
      origFreq := s.mTuneFreq
      scanFreq := stack } }

/-- The `switch` over a command; nobody sends `CMD_PRE_SCAN`, which leaves the frequency. -/
def runCommand (type : FmCommandType) (stack driver : Int) : Service × List Tune :=
  match type with
  | .cmdTune => s.runTune driver
  | .cmdSeekUp => (s.beginSearch false true stack, [])
  | .cmdSeekDown => (s.beginSearch false false stack, [])
  | .cmdScanUp => (s.beginSearch true true stack, [])
  | .cmdScanDown => (s.beginSearch true false stack, [])
  | _ => (s, [])

/-- The next command of the list, or behind the last one the next wait. -/
def walk (stack driver : Int) : Service × List Tune :=
  match s.mFmCommandList with
  | [] => ({ s with thread := .waiting, mCommandLock := false }, [])
  | .cmdExit :: _ => ({ s with mFmCommandList := [], thread := .exited }, [])
  | type :: rest =>
      let s := { s with mFmCommandList := rest }
      if s.mEnabled then s.runCommand type stack driver else (s, [])

/-- The station a round of a search comes upon and can be tuned to. -/
def station (search : Search) (channel : Option Int) (driver : Int) : Option Int :=
  (s.cfg.seek search.startFreq channel).filter fun freq => decide (s.cfg.tune freq driver = 0)

/-- A round of a search. Without a station the service goes back to its frequency, and is
tuned as before if that succeeds. -/
def round (search : Search) (channel : Option Int) (driver again : Int) : Service × List Tune :=
  let sought := s.cfg.seek search.startFreq channel
  let tried := sought.toList.map fun freq => ⟨.found, freq⟩
  let thread := Thread.dwelling { search with scanFreq := sought.getD search.scanFreq }
  match s.station search channel driver with
  | some freq =>
      ({ s with mFmTunned := true, mTuneFreq := freq, thread := thread }, tried)
  | none =>
      ({ s with
          mFmTunned := s.mFmTunned && decide (s.cfg.tune s.mTuneFreq again = 0)
          thread := thread },
        tried ++ [⟨.fallback, s.mTuneFreq⟩])

/-- What a scan makes of the station behind a round, unless it has been cancelled. -/
def nextRound (search : Search) : Search :=
  let passed := (search.isUp ∧ search.scanFreq < search.startFreq) ∨
    (¬ search.isUp ∧ search.startFreq < search.scanFreq)
  let round := if passed then search.round + 1 else search.round
  let beyond := (search.isUp ∧ search.origFreq < search.scanFreq) ∨
    (¬ search.isUp ∧ search.scanFreq < search.origFreq)
  { search with
    round := round
    scanDone := search.scanDone ||
      decide ((round = 1 ∧ beyond) ∨ search.scanFreq = search.origFreq ∨ round = 2)
    startFreq := search.scanFreq }

def dwell (search : Search) : Search :=
  if search.isScan then
    let search := { search with
      scanDone := search.scanDone ||
        decide (search.scanFreq = 0 ∨ search.scanFreq = search.startFreq) }
    if s.mSearchCancelled then search else nextRound search
  else search

/-- The steps of a search in which it calls neither `FMR_seek` nor `FMR_tune`. -/
def advance : Option Service :=
  match s.thread with
  | .dwelling search => some { s with thread := .looping (s.dwell search) }
  | .looping search =>
      if search.isScan && !s.mSearchCancelled && !search.scanDone && s.mEnabled then
        some { s with thread := .searching search }
      else some { s with thread := .completed }
  | .completed => some { s with mSearchCancelled := false, thread := .leaving }
  | .leaving => some { s with mSearching := false, thread := .walking }
  | _ => none

end Service

/-- The calls of the client, `setFreq` in two halves, and the steps of the thread, with what the
allocation, the driver and the search of the band return. -/
inductive Event
  | setFreq (freq : BitVec 32)
  | queueTune (memory : Bool)
  | startSearch (dir : Direction) (memory : Bool)
  | cancelSearch
  | setSearchMode (mode : SearchMode)
  | setRegion (region : Region)
  | setBand (low high : BitVec 32)
  | wake
  | walk (stack driver : Int)
  | round (channel : Option Int) (driver again : Int)
  | advance
deriving DecidableEq, Repr

namespace Service

variable (s : Service)

/-- Calls come one at a time, from the only thread of the pool; a command is queued when the
thread does not hold the lock. -/
def handle : Event → Option (Service × List Tune)
  | .setFreq freq => if s.calling = none then some (s.setFreq freq, []) else none
  | .queueTune memory =>
      if s.calling ≠ none ∧ s.mCommandLock = false then some (s.queueTune memory, []) else none
  | .startSearch dir memory =>
      if s.calling = none ∧ (s.searchAllowed → s.mCommandLock = false) then
        some (s.startSearch dir memory, [])
      else none
  | .cancelSearch => if s.calling = none then some (s.cancelSearch, []) else none
  | .setSearchMode mode => if s.calling = none then some (s.setSearchMode mode, []) else none
  | .setRegion region => if s.calling = none then some (s.setRegion region, []) else none
  | .setBand low high => if s.calling = none then some (s.setBand low high, []) else none
  | .wake => if s.thread = .waiting then some (s.wake, []) else none
  | .walk stack driver => if s.thread = .walking then some (s.walk stack driver) else none
  | .round channel driver again =>
      match s.thread with
      | .searching search => some (s.round search channel driver again)
      | _ => none
  | .advance => s.advance.map fun s => (s, [])

end Service

end Connectivity.Fm
