import Connectivity.Tuner.Seek

set_option autoImplicit false

/- The search of the broadcast-radio HAL on its chip: what each check of a channel leaves there,
and how a stop ends it. -/
namespace Connectivity.Tuner

/-- What a check of a channel meets: whether `FMR_stop_scan` has been called by then, what the soft
mute tune returns, and what the channel then looks like, the desense checks included. -/
structure Answer where
  stopped : Bool
  ret : Int
  probe : Probe
deriving DecidableEq, Repr

/-- The answer to each check of a search, by its turn and its frequency. -/
abbrev Driver := Nat → BitVec 32 → Answer

/-- A channel whose soft mute tune fails is not valid. -/
def Answer.verdict (answer : Answer) : Probe :=
  if answer.ret = 0 then answer.probe else { answer.probe with valid := false }

/-- `cur_freq` and `scan_stop` of `fmr_data`, and the frequency of the chip in kHz. -/
structure Core where
  curFreq : BitVec 16
  scanStop : Bool
  chip : Nat
deriving DecidableEq, Repr

/-- How `FMR_seek` ends: with a channel, without one, or stopped. -/
inductive Sought
  | found (channel : BitVec 32)
  | nothing
  | stopped
deriving DecidableEq, Repr

/-- What is stored as the channel. -/
def Sought.channel (start : BitVec 32) : Sought → BitVec 32
  | .found channel => channel
  | .nothing => start
  | .stopped => start

namespace BandConfig

variable (config : BandConfig)

/-- Where a search begins. -/
def startFreq (channel : BitVec 32) : BitVec 32 :=
  if config.Within channel then channel else config.lowerLimit

/-- `band_channel_no`. -/
def channelNo : BitVec 32 := (config.upperLimit - config.lowerLimit) / config.spacing + 1

/-- The numbers of the channels in the order in which a search comes to them. -/
def order (start : BitVec 32) (dir : Direction) : List Int :=
  let here := (start - config.lowerLimit) / config.spacing
  match dir with
  | .up => indices (here + 1).toInt config.channelNo.toInt ++ indices 0 here.toInt
  | .down => (indices 0 ((here - 1).toInt + 1)).reverse ++
      (indices (here.toInt + 1) ((config.channelNo - 1).toInt + 1)).reverse

def channelFreq (i : Int) : BitVec 32 := config.lowerLimit + config.spacing * BitVec.ofInt 32 i

/-- The step of `FMR_Seek_More`, cut to a byte. -/
def step : BitVec 32 := (config.spacing.setWidth 8).setWidth 32

def nextFreq (dir : Direction) (freq : BitVec 32) : BitVec 32 :=
  match dir with
  | .up => freq + config.step
  | .down => freq - config.step

def beyond (dir : Direction) (freq : BitVec 32) : Bool :=
  match dir with
  | .up => decide (config.upperLimit < freq)
  | .down => decide (freq < config.lowerLimit)

end BandConfig

namespace Core

variable (s : Core)

/-- `FMR_tune`; the frequency is stored whatever the driver returns. -/
def tune (freq : BitVec 32) (ret : Int) : Core :=
  { s with
    curFreq := freq.setWidth 16
    chip := if ret = 0 then chipFreq freq else s.chip }

/-- `FMR_pwr_up`, at 98 MHz; the frequency is stored as a number of 100 kHz. -/
def pwrUp (ret : Int) : Core :=
  { s with
    curFreq := 980
    chip := if ret = 0 then 100 * 980 else s.chip }

def stopScan : Core := { s with scanStop := true }

/-- `COM_Soft_Mute_Tune`, which gives the driver a number of 10 kHz. -/
def softMuteTune (freq : BitVec 32) (ret : Int) : Core :=
  if ret = 0 then { s with chip := 10 * (freq.toNat / 10) } else s

/-- `FMR_Seek_TuneCheck`: nothing is made of the channel when the search has been stopped. The
chip is taken to follow when it is tuned back. -/
def tuneCheck (freq : BitVec 32) (answer : Answer) : Core × Option Probe :=
  let s := if answer.stopped then s.stopScan else s
  if s.scanStop then (s.tune (s.curFreq.setWidth 32) 0, none)
  else (s.softMuteTune freq answer.ret, some answer.verdict)

/-- `FMR_Seek_More` from a turn on; `none` is a stop. -/
def seekMore (config : BandConfig) (dir : Direction) (driver : Driver) :
    Nat → Core → Nat → BitVec 32 → BitVec 32 → Int → Core × Option (BitVec 32)
  | 0, s, _, _, best, _ => (s, some best)
  | more + 1, s, turn, freq, best, rssi =>
      let next := config.nextFreq dir freq
      if config.beyond dir next then (s, some best)
      else
        match s.tuneCheck next (driver turn next) with
        | (s, none) => (s, none)
        | (s, some found) =>
            if found.valid ∧ rssi < found.rssi then
              seekMore config dir driver more s (turn + 1) next next found.rssi
            else seekMore config dir driver more s (turn + 1) next best rssi

/-- The loops of `FMR_seek`. -/
def seekAmong (config : BandConfig) (dir : Direction) (driver : Driver) :
    Core → Nat → List Int → Core × Sought
  | s, _, [] => (s, .nothing)
  | s, turn, i :: rest =>
      let freq := config.channelFreq i
      match s.tuneCheck freq (driver turn freq) with
      | (s, none) => (s, .stopped)
      | (s, some found) =>
          if found.valid then
            match seekMore config dir driver 2 s (turn + 1) freq freq found.rssi with
            | (s, some channel) => (s, .found channel)
            | (s, none) => (s, .stopped)
          else seekAmong config dir driver s (turn + 1) rest

/-- `FMR_seek`; a stop that came before is forgotten. -/
def seek (config : BandConfig) (channel : BitVec 32) (dir : Direction) (driver : Driver) :
    Core × Sought :=
  if config.channelNo = 0 then (s, .nothing)
  else
    seekAmong config dir driver { s with scanStop := false } 0
      (config.order (config.startFreq channel) dir)

end Core

end Connectivity.Tuner
