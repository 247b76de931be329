import Connectivity.Tuner.Seek

set_option autoImplicit false

/- The tuner of the broadcast-radio HAL: the list of commands, the calls that add to it, and the
callback thread that takes from it. -/
namespace Connectivity.Tuner

/-- `struct thread_command` with its type. -/
inductive Command
  | exit
  | config (config : BandConfig)
  | step (dir : Direction)
  | seek (dir : Direction)
  | tune (channel : BitVec 32)
  | cancel | checkRds | showRds
deriving DecidableEq, Repr

/-- The commands that the callback thread throws away behind a cancel. -/
def Command.pending : Command → Bool
  | .step _ => true
  | .seek _ => true
  | .tune _ => true
  | .checkRds => true
  | .showRds => true
  | _ => false

/-- Where `callback_thread_loop` is: in front of its first lock, at the top of its loop, in
`pthread_cond_wait`, in the walk through the list, or at its end. -/
inductive Thread
  | starting | top | waiting | walking (gotCancel : Bool) | exited
deriving DecidableEq, Repr

/-- `struct fmradio_tuner`, with `program.channel` and `program.tuned`. -/
structure Hal where
  commandList : List Command
  config : BandConfig
  channel : BitVec 32
  tuned : Bool
  thread : Thread
deriving DecidableEq, Repr

/-- A TUNED event: the configuration in force, the channel it reports, and what `FMR_tune` was
called with if that succeeded. -/
structure Tuned where
  config : BandConfig
  channel : BitVec 32
  tunedTo : Option (BitVec 32)
deriving DecidableEq, Repr

/-- What the thread does with a command: it throws it away or executes it, perhaps with a TUNED
event. -/
inductive Taken
  | dropped (command : Command)
  | executed (command : Command) (event : Option Tuned)
deriving DecidableEq, Repr

namespace Hal

variable (s : Hal)

/-- The tuner behind `fmr_dev_open_tuner`: everything is zero, the configuration is in the list. -/
def openTuner (config : BandConfig) : Hal where
  commandList := [.config config]
  config := ⟨0, 0, 0⟩
  channel := 0
  tuned := false
  thread := .starting

/-- `send_command_l`; all delays are 0, so the list is in the order of the calls. -/
def sendCommand (command : Command) : Hal := { s with commandList := s.commandList ++ [command] }

/-- Whether `tuner->lock` is free: the thread gives it away while it waits and at no other time. -/
def lockFree : Bool :=
  match s.thread with
  | .starting => true
  | .waiting => true
  | .exited => true
  | _ => false

def setConfiguration (config : Option BandConfig) : Hal :=
  match config with
  | none => s
  | some config =>
      if config.upperLimit < config.lowerLimit then s
      else (s.sendCommand .cancel).sendCommand (.config config)

def step (dir : Direction) : Hal := s.sendCommand (.step dir)

def scan (dir : Direction) : Hal := s.sendCommand (.seek dir)

def tune (channel : BitVec 32) : Hal :=
  if s.config.Within channel then s.sendCommand (.tune channel) else s

def cancel : Hal := s.sendCommand .cancel

/-- The RDS thread, when it has read new metadata. -/
def rdsThread : Hal := s.sendCommand .showRds

/-- The end of a TUNED command: a check of the RDS data follows a success. -/
def reported (tunedTo : Option (BitVec 32)) : Hal × Option Tuned :=
  let s := { s with tuned := tunedTo.isSome }
  (if s.tuned then s.sendCommand .checkRds else s, some ⟨s.config, s.channel, tunedTo⟩)

def tunedTo (freq : BitVec 32) (ret : Int) : Option (BitVec 32) :=
  if ret = 0 then some freq else none

/-- The channel that a step goes to, around the ends of the band. -/
def stepFreq (dir : Direction) : BitVec 32 :=
  let freq := match dir with
    | .up => s.channel + s.config.spacing
    | .down => s.channel - s.config.spacing
  let freq := if s.config.upperLimit < freq then s.config.lowerLimit else freq
  if freq < s.config.lowerLimit then s.config.upperLimit else freq

def runStep (dir : Direction) (ret : Int) : Hal × Option Tuned :=
  let freq := s.stepFreq dir
  let s := if ret = 0 then { s with channel := freq } else s
  s.reported (tunedTo freq ret)

def runSeek (dir : Direction) (probe : Nat → Probe) (ret : Int) : Hal × Option Tuned :=
  let s := { s with channel := s.config.seek s.channel dir probe }
  s.reported (tunedTo s.channel ret)

def runTune (channel : BitVec 32) (ret : Int) : Hal × Option Tuned :=
  let s := { s with channel := channel }
  s.reported (tunedTo channel ret)

/-- The `switch` over a command; `ret` is what `FMR_tune` returns. A search over channels at no
distance divides by zero and has no result. -/
def execute (command : Command) (probe : Nat → Probe) (ret : Int) : Option (Hal × Option Tuned) :=
  match command with
  | .exit => some ({ s with thread := .exited }, none)
  | .config config => some ({ s with config := config }, none)
  | .step dir => some (s.runStep dir ret)
  | .seek dir => if s.config.spacing = 0 then none else some (s.runSeek dir probe ret)
  | .tune channel => some (s.runTune channel ret)
  | .cancel => some ({ s with thread := .walking true }, none)
  | .checkRds => some (s, none)
  | .showRds => some (s, none)

/-- The end of a turn of the walk: `list_for_each_safe` has looked up the next item before, so
what is added behind the last one is left to the next walk. -/
def turned (rest : List Command) : Hal :=
  if rest = [] ∧ s.thread ≠ .exited then { s with thread := .top } else s

/-- A step of the thread. -/
def advance (probe : Nat → Probe) (ret : Int) : Option (Hal × Option Taken) :=
  match s.thread with
  | .starting => some ({ s with thread := .top }, none)
  | .top =>
      if s.commandList = [] then some ({ s with thread := .waiting }, none)
      else some ({ s with thread := .walking false }, none)
  | .waiting =>
      if s.commandList = [] then some ({ s with thread := .top }, none)
      else some ({ s with thread := .walking false }, none)
  | .walking gotCancel =>
      match s.commandList with
      | [] => some ({ s with thread := .top }, none)
      | command :: rest =>
          let s := { s with commandList := rest }
          if gotCancel && command.pending then some (s.turned rest, some (.dropped command))
          else (s.execute command probe ret).map fun r =>
            (r.1.turned rest, some (.executed command r.2))
  | .exited => none

/-- The calls of the client, the RDS thread, and the steps of the callback thread with what the
driver finds and returns. -/
inductive Event
  | setConfiguration (config : Option BandConfig)
  | step (dir : Direction)
  | scan (dir : Direction)
  | tune (channel : BitVec 32)
  | cancel
  | rdsThread
  | thread (probe : Nat → Probe) (ret : Int)

/-- A call waits for the lock. -/
def handle : Event → Option (Hal × Option Taken)
  | .setConfiguration config => if s.lockFree then some (s.setConfiguration config, none) else none
  | .step dir => if s.lockFree then some (s.step dir, none) else none
  | .scan dir => if s.lockFree then some (s.scan dir, none) else none
  | .tune channel => if s.lockFree then some (s.tune channel, none) else none
  | .cancel => if s.lockFree then some (s.cancel, none) else none
  | .rdsThread => if s.lockFree then some (s.rdsThread, none) else none
  | .thread probe ret => s.advance probe ret

end Hal

end Connectivity.Tuner
