import Connectivity.Nmea.Tokens

set_option autoImplicit false

/- The MPE thread that answers the GPS engine, and the sensor threads it creates. -/
namespace Connectivity.Mpe

/-- `MPE_IDLE_MODE` and `MPE_START_MODE`. -/
inductive Mode
  | idle | start
deriving DecidableEq, Repr

/-- How far a sensor thread has come: created, in its loop, out of it, with the sensors closed,
with the notice sent, and with the notice marked. -/
inductive Phase
  | created | loop | left | closed | notified | marked
deriving DecidableEq, Repr

/-- What the engine asks, with `gps_sec` and `leap_sec` where it gives them. -/
inductive Request
  | start (gpsSec leapSec : Nat)
  | stop
  | getAdrStatus
  | gpsAiding (gpsSec leapSec : Nat)
deriving DecidableEq, Repr

/-- A message of the socket. The notice of a sensor thread reads like a stop of the engine. -/
inductive Message
  | engine (r : Request)
  | notice
deriving DecidableEq, Repr

inductive Response
  | start | stop | gpsAiding | adrStatus
deriving DecidableEq, Repr

/-- The variables of both threads, with the messages that wait; beside them the last request
that started, stopped or aided, the number of stops of the engine, and what it was answered. -/
structure Session where
  seListenerMode : Mode
  gMpeThreadExist : Bool
  isUninitSE : Bool
  phoneTimeReset : Bool
  currentGpsSec : Nat
  currentLeapSec : Nat
  mnlInjectSysTime : Int
  gMPERawFlag : Bool
  threads : List Phase
  queue : List Message
  lastRequest : Option Request
  engineStops : Nat
  responses : List Response
deriving DecidableEq, Repr

def Session.init : Session where
  seListenerMode := .idle
  gMpeThreadExist := false
  isUninitSE := false
  phoneTimeReset := false
  currentGpsSec := 0
  currentLeapSec := 18
  mnlInjectSysTime := 0
  gMPERawFlag := false
  threads := []
  queue := []
  lastRequest := none
  engineStops := 0
  responses := []

/-- A second, in the microseconds that times are counted in. -/
def second : Int := 1000000

/-- `DIFF_GPS_C_TIME`, in seconds. -/
def diffGpsCTime : Nat := (365 * 10 + 2 + 5) * 86400

def mpeSysGpsToSysTime (gpsSec : Nat) : Int := Nmea.int32 (gpsSec + diffGpsCTime : Nat)

/-- `mpe_sys_get_time_stamp` at a time of the clock. -/
def timeStamp (clock : Int) (leapSec : Nat) : Int := clock + leapSec * second

namespace Session

variable (s : Session)

def respond (r : Response) : Session := { s with responses := r :: s.responses }

/-- `mpe_sensor_update_mnl_sec`. -/
def updateMnlSec (gpsSec leapSec : Nat) (clock : Int) : Session :=
  { s with
    currentGpsSec := gpsSec
    currentLeapSec := leapSec
    mnlInjectSysTime := timeStamp clock leapSec }

/-- How far the times of the phone and of the engine are apart. -/
def timeDiff : Int := (s.mnlInjectSysTime - mpeSysGpsToSysTime s.currentGpsSec * second).natAbs

/-- `mpe_sensor_check_time`. -/
def checkTime : Session := { s with phoneTimeReset := decide (3600 < s.timeDiff / second) }

/-- `mpe_sys_sensor_threads_create`, where `pthread_create` succeeds or not. -/
def sensorThreadsCreate (created : Bool) : Option Session :=
  if s.gMpeThreadExist = false ∧ created = true then
    some { s with threads := s.threads ++ [.created] }
  else none

/-- `mpe_sensor_run`. -/
def sensorRun (created : Bool) : Session :=
  if s.timeDiff ≤ 3600 * second then
    (s.sensorThreadsCreate created).elim s fun s => { s with seListenerMode := .start }
  else s

/-- `CMD_STOP_MPE_REQ`, from the engine or from a sensor thread. -/
def stopReq : Session :=
  let s := { s with seListenerMode := .idle }
  if s.isUninitSE = false then s.respond .stop else { s with isUninitSE := false }

/-- `CMD_GET_ADR_STATUS_REQ`. -/
def getAdrStatus : Session :=
  if s.seListenerMode = .start then
    { (if s.gMPERawFlag then s.respond .adrStatus else s) with gMPERawFlag := false }
  else s

/-- `mnl2mpe_hdlr`. -/
def mnl2mpeHdlr (clock : Int) (created : Bool) : Message → Session
  | .engine (.start gpsSec leapSec) =>
      let s := (s.respond .start).updateMnlSec gpsSec leapSec clock
      if s.seListenerMode = .idle then s.sensorRun created else s
  | .engine .stop => s.stopReq
  | .engine .getAdrStatus => s.getAdrStatus
  | .engine (.gpsAiding gpsSec leapSec) =>
      if s.seListenerMode = .start then
        ((s.updateMnlSec gpsSec leapSec clock).checkTime).respond .gpsAiding
      else (s.updateMnlSec gpsSec leapSec clock).sensorRun created
  | .notice => s.stopReq

/-- The request that a message was, beside what it does. -/
def note : Message → Session
  | .engine .getAdrStatus => s
  | .engine .stop => { s with lastRequest := some .stop, engineStops := s.engineStops + 1 }
  | .engine r => { s with lastRequest := some r }
  | .notice => s

/-- `mpe_sensor_check_mnl_response`. -/
def mnlResponds (clock : Int) : Bool :=
  (timeStamp clock s.currentLeapSec - s.mnlInjectSysTime).natAbs ≤ 2 * second ∧
    s.phoneTimeReset = false

/-- What a sensor thread does next, where `safe_sendto` of its notice succeeds or not. -/
def threadStep (i : Nat) (clock : Int) (sent : Bool) : Phase → Session
  | .created => { s with gMpeThreadExist := true, threads := s.threads.set i .loop }
  | .loop =>
      if s.mnlResponds clock then s
      else { s with seListenerMode := .idle, threads := s.threads.set i .left }
  | .left =>
      { s with
        seListenerMode := .idle
        phoneTimeReset := false
        threads := s.threads.set i .closed }
  | .closed =>
      { s with
        queue := if sent then s.queue ++ [.notice] else s.queue
        threads := s.threads.set i .notified }
  | .notified => { s with isUninitSE := true, threads := s.threads.set i .marked }
  | .marked => { s with gMpeThreadExist := false, threads := s.threads.eraseIdx i }

end Session

/-- The engine sends a request, the MPE thread handles the next message, the algorithm has
data, or a sensor thread goes on. -/
inductive Event
  | send (r : Request)
  | handle (clock : Int) (created : Bool)
  | data
  | thread (i : Nat) (clock : Int) (sent : Bool)
deriving DecidableEq, Repr

def Session.step (s : Session) : Event → Option Session
  | .send r => some { s with queue := s.queue ++ [.engine r] }
  | .handle clock created =>
      match s.queue with
      | [] => none
      | m :: rest => some (({ s with queue := rest }.note m).mnl2mpeHdlr clock created m)
  | .data => some { s with gMPERawFlag := true }
  | .thread i clock sent => s.threads[i]?.map (s.threadStep i clock sent)

end Connectivity.Mpe
