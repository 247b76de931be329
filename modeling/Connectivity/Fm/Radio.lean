import Connectivity.Fm.Core

set_option autoImplicit false

/- The FM service's hold on its device: the calls that enable and disable the radio, the death of
the client, and the RDS thread. -/
namespace Connectivity.Fm

inductive Result
  | ok | failed | notInitialized | invalidArguments
deriving DecidableEq, Repr

/-- Where `fm_rds_thread` is: at the top of its loop, in `pthread_cond_wait`, in front of its test
of `mEnabled`, or reading. -/
inductive RdsPlace
  | top | waiting | testing | reading
deriving DecidableEq, Repr

inductive DevCall
  | opens | closes
deriving DecidableEq, Repr

/-- The members of the service and the globals of the core that the life of the device depends
on, with `custom` for what `cust_get_cfg` reads, and the value that `disable` will return while it
waits for the RDS thread. Of the system, the descriptors of the device that are open, whether the
device is powered, and the RDS threads that run; beside it the opens and closes, the last first,
and the RDS threads that nobody has joined. -/
structure Radio where
  custom : CustCfg
  pfmrData : Bool
  cfg : CustCfg
  fd : Int
  mFmFd : Int
  mEnabled : Bool
  mRdsOn : Bool
  mRdsThread : Nat
  disabling : Option Result
  opened : List Int
  powered : Bool
  running : List (Nat × RdsPlace)
  created : Nat
  calls : List DevCall
  unjoined : List Nat
deriving DecidableEq, Repr

/-- What the driver returns while the radio is enabled: a descriptor of the device, if it can be
opened, its chip, and the values of the power-up and of a close. -/
structure Driver where
  device : Option Int
  chipRet : Int
  chip : BitVec 16
  power : Int
  close : Int
deriving DecidableEq, Repr

namespace Radio

variable (s : Radio)

/-- `FMR_init`: the only index there is, unless it is taken. -/
def init : Radio × Int :=
  if s.pfmrData then (s, -1) else ({ s with pfmrData := true, fd := 0, cfg := s.custom }, 0)

/-- The constructor of the service. -/
def construct (custom : CustCfg) : Radio :=
  let s : Radio := {
    custom := custom
    pfmrData := false
    cfg := custom
    fd := 0
    mFmFd := -1
    mEnabled := false
    mRdsOn := false
    mRdsThread := 0
    disabling := none
    opened := []
    powered := false
    running := []
    created := 0
    calls := []
    unjoined := [] }
  { s.init.1 with mFmFd := s.init.2 }

/-- `FMR_close_dev`: the descriptor is gone whatever `close` returns, which is an error if there
is no such descriptor. -/
def closeDev (close : Int) : Radio × Int :=
  ({ s with opened := s.opened.erase s.fd, calls := .closes :: s.calls },
    if s.fd ∈ s.opened then close else -1)

/-- `FMR_get_chip_id`. -/
def chipId (driver : Driver) : Int := if driver.chipRet = 0 then driver.chip.toNat else -1

/-- `FMR_open_dev`. -/
def openDev (driver : Driver) : Radio × Int :=
  match driver.device with
  | none => ({ s with fd := -1 }, -errInvalidFd)
  | some fd =>
      let s := { s with fd := fd, opened := fd :: s.opened, calls := .opens :: s.calls }
      if s.cfg.chip ≠ chipId driver then s.closeDev driver.close else (s, driver.chipRet)

/-- `FMR_pwr_up`, which needs an open descriptor; a device that cannot be powered up stays as it
is. -/
def pwrUp (freq power : Int) : Radio × Int :=
  let ret := s.cfg.pwrUp freq (if s.fd ∈ s.opened then power else -1)
  (if ret = 0 then { s with powered := true } else s, ret)

/-- `FMR_pwr_down`. -/
def pwrDown (power : Int) : Radio × Int :=
  let ret := if s.fd ∈ s.opened then power else -1
  (if ret = 0 then { s with powered := false } else s, ret)

/-- The last lines of `enable`, with the thread they create. -/
def started : Radio :=
  { s with
    mEnabled := true
    mRdsThread := s.created
    created := s.created + 1
    running := s.running ++ [(s.created, .top)]
    unjoined := s.created :: s.unjoined }

/-- `enable` behind its tests of what the service has already. -/
def powerOn (driver : Driver) : Radio × Result :=
  let tried := s.openDev driver
  if tried.2 ≠ 0 then (tried.1, .failed)
  else
    let powered := tried.1.pwrUp 8755 driver.power
    if powered.2 ≠ 0 then ((powered.1.closeDev driver.close).1, .failed)
    else (powered.1.started, .ok)

def enable (driver : Driver) : Radio × Result :=
  let s := if s.mFmFd < 0 then { s.init.1 with mFmFd := s.init.2 } else s
  if s.mFmFd < 0 then (s, .notInitialized)
  else if s.mEnabled then (s, .ok)
  else s.powerOn driver

/-- `disable` up to its wait for the RDS thread: the value of the power-down is lost. -/
def disable (power close : Int) : Radio :=
  if s.mEnabled then
    let closed := (s.pwrDown power).1.closeDev close
    { closed.1 with
      mEnabled := false
      disabling := some (if 0 < closed.2 then .failed else .ok) }
  else s

/-- The rest of `disable`, behind `pthread_join`. -/
def joined : Radio :=
  { s with mRdsOn := false, disabling := none, unjoined := s.unjoined.erase s.mRdsThread }

def handleHidlDeath : Radio := { s with mEnabled := false }

def setRdsOnOff (onOff : BitVec 32) (driver : Int) : Radio × Result :=
  if ¬ s.mEnabled then (s, .notInitialized)
  else if onOff = 0 then
    (if s.mRdsOn ∧ driver = 0 then { s with mRdsOn := false } else s, .ok)
  else if onOff = 1 then
    (if ¬ s.mRdsOn ∧ driver = 0 then { s with mRdsOn := true } else s, .ok)
  else (s, .invalidArguments)

def setRegion (band : Band) : Radio := { s with cfg := s.cfg.setRegion band }

/-- Where an RDS thread goes next, if it does not exit. -/
def rdsNext : RdsPlace → Option RdsPlace
  | .top => some (if s.mRdsOn then .testing else .waiting)
  | .waiting => some .testing
  | .testing => if s.mEnabled then some .reading else none
  | .reading => some .top

/-- A step of the RDS thread at a position among those that run. -/
def rdsStep (i : Nat) : Option Radio :=
  s.running[i]?.map fun thread =>
    match s.rdsNext thread.2 with
    | some place => { s with running := s.running.set i (thread.1, place) }
    | none => { s with running := s.running.eraseIdx i }

/-- What the calls of the client, the thread that `disable` waits for, the death of a client and
the RDS threads do. -/
inductive Event
  | enable (driver : Driver)
  | disable (power close : Int)
  | join
  | death
  | setRdsOnOff (onOff : BitVec 32) (driver : Int)
  | setRegion (band : Band)
  | rds (i : Nat)
deriving DecidableEq, Repr

/-- Calls come one at a time, and a descriptor of the device is a new one. -/
def step : Event → Option Radio
  | .enable driver =>
      if s.disabling = none ∧ ∀ fd ∈ driver.device, fd ∉ s.opened then some (s.enable driver).1
      else none
  | .disable power close => if s.disabling = none then some (s.disable power close) else none
  | .join =>
      if s.disabling ≠ none ∧ s.mRdsThread ∉ s.running.map Prod.fst then some s.joined else none
  | .death => some s.handleHidlDeath
  | .setRdsOnOff onOff driver =>
      if s.disabling = none then some (s.setRdsOnOff onOff driver).1 else none
  | .setRegion band => if s.disabling = none then some (s.setRegion band) else none
  | .rds i => s.rdsStep i

end Radio

end Connectivity.Fm
