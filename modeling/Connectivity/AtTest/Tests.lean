import Connectivity.Table.Blocks
import Connectivity.Nmea.Tokens
import Mathlib.Data.Nat.Sqrt

set_option autoImplicit false

/- The tests that AT commands start and stop, and what the NMEA sentences do to them. -/
namespace Connectivity.AtTest

/-- `AT%GPS`. -/
def gpsOp : List UInt8 := [65, 84, 37, 71, 80, 83]

/-- `AT%GNSS`. -/
def gnssOp : List UInt8 := [65, 84, 37, 71, 78, 83, 83]

/-- `AT%CWGPS`. -/
def gpsCwTest : List UInt8 := [65, 84, 37, 67, 87, 71, 80, 83]

/-- The command line that a datagram leaves in the buffer of 20 bytes. -/
def commandLine (datagram : List UInt8) : List UInt8 := (datagram.take 20).takeWhile (· ≠ 0)

def isSpace (byte : UInt8) : Bool := byte = 32 ∨ 9 ≤ byte ∧ byte ≤ 13

def isDigit (byte : UInt8) : Bool := 48 ≤ byte ∧ byte ≤ 57

/-- The sign that `strtoul` finds, and what is behind it. -/
def signOf : List UInt8 → Bool × List UInt8
  | 45 :: rest => (true, rest)
  | 43 :: rest => (false, rest)
  | text => (false, text)

/-- `ULONG_MAX` of 64 bits. -/
def ulongMax : Nat := 2 ^ 64 - 1

/-- `strtoul` to the base 10, with the text from `endptr` on. -/
def strtoul (text : List UInt8) : Nat × List UInt8 :=
  let signed := signOf (text.dropWhile isSpace)
  let digits := signed.2.takeWhile isDigit
  let value := digits.foldl (fun value digit => value * 10 + (digit.toNat - 48)) 0
  if digits = [] then (0, text)
  else if ulongMax < value then (ulongMax, signed.2.drop digits.length)
  else if signed.1 then ((2 ^ 64 - value) % 2 ^ 64, signed.2.drop digits.length)
  else (value, signed.2.drop digits.length)

/-- The number is cut to an `int` when it is returned. -/
def atCommandParseTestNum (command : List UInt8) : Int :=
  let res := strtoul (command.drop (if command.take 7 = gnssOp then 8 else 7))
  if res.1 ≠ 0 ∧ res.2 = [] then Nmea.int32 res.1 else -1

/-- What a command of one of the three families asks for. -/
inductive Request
  | cno | rawOpen | rawClose | state | result | signal | cw | stop
  | number (testNum : Int)
  | illegal
deriving DecidableEq, Repr

/-- Behind `AT%GPS`: `=?`, `=E`, `=D`, `=n`, `?` or nothing. -/
def gpsRequest (command : List UInt8) : Request :=
  match command.drop 6 with
  | [61, 63] => .cno
  | [61, 69] | [61, 101] => .rawOpen
  | [61, 68] | [61, 100] => .rawClose
  | 61 :: _ => .number (atCommandParseTestNum command)
  | [63] => .state
  | [] => .cno
  | _ => .illegal

/-- Behind `AT%GNSS`: `=?`, `=S`, `=E`, `=n`, `?` or nothing. -/
def gnssRequest (command : List UInt8) : Request :=
  match command.drop 7 with
  | [61, 63] => .result
  | [61, 83] | [61, 115] => .signal
  | [61, 69] | [61, 101] => .stop
  | 61 :: _ => .number (atCommandParseTestNum command)
  | [63] => .result
  | [] => .cno
  | _ => .illegal

/-- Behind `AT%CWGPS`: `=E`, `=?` or `?`. -/
def cwRequest (command : List UInt8) : Request :=
  match command.drop 8 with
  | [61, 69] | [61, 101] => .stop
  | [61, 63] => .cw
  | [63] => .result
  | _ => .illegal

/-- The number that is taken may be another one than the text has. -/
example : gpsRequest (gpsOp ++ [61, 52, 50, 57, 52, 57, 54, 55, 50, 57, 55]) = .number 1 := by
  decide

end Connectivity.AtTest

namespace Connectivity.AtTest

open Blocks

inductive State
  | unknown | start | stop | inprogress | done | resultDone
deriving DecidableEq, Repr

/-- The `test_mode` of a start: 0, 1 and 2. -/
inductive Mode
  | normal | signal | cw
deriving DecidableEq, Repr

structure HalAtTest where
  testNum : Int
  prnNum : Int
  timeDelay : Int
deriving DecidableEq, Repr

/-- The variables of the file, with the arrays that `Dev_CNr` has pointed to, and `gps_used`
of the client `at_cmd_test`. -/
structure Vars where
  mnlAtTestFlag : Bool
  mnlAtSignalMode : Bool
  mnlAtCwMode : Bool
  mnlAtSignalTestBegin : Bool
  mnlAtTestState : State
  halTestData : HalAtTest
  devCNr : Option Nat
  heap : Heap Int
  cn : Int
  result : List Int
  cNo : Int
  dCNo : Int
  avgCNo : Int
  devCNo : Int
  completedNum : Int
  successNum : Nat
  failureNum : Nat
  prevSuccessNum : Nat
  waitNum : Nat
  sigSucNum : Int
  errCode : Int
  testModeFlag : Bool
  startTime : Int
  cnr : Int
  gpsUsed : Bool
deriving DecidableEq, Repr

def Vars.init : Vars where
  mnlAtTestFlag := false
  mnlAtSignalMode := false
  mnlAtCwMode := false
  mnlAtSignalTestBegin := false
  mnlAtTestState := .unknown
  halTestData := ⟨0, 0, 0⟩
  devCNr := none
  heap := .empty
  cn := 0
  result := [1, 0, 0, 0, 0, 0, 0, 0]
  cNo := 0
  dCNo := 0
  avgCNo := 0
  devCNo := 0
  completedNum := 0
  successNum := 0
  failureNum := 0
  prevSuccessNum := 0
  waitNum := 0
  sigSucNum := 0
  errCode := 1
  testModeFlag := true
  startTime := 0
  cnr := -1
  gpsUsed := false

def gpsTestPrn : Int := 1

/-- `MAX_VALID_STATUS_WAIT_COUNT`. -/
def maxValidStatusWaitCount : Nat := 20

def atTest2mnlGpsStop (s : Vars) : Vars × Int := ({ s with gpsUsed := false }, 0)

/-- The error is the one of `mnld.c`, which is always 0, or any other. -/
def atTest2mnlGpsStart (s : Vars) (err : Int) : Vars × Int := ({ s with gpsUsed := true }, err)

/-- `free(Dev_CNr)`, which leaves the pointer. -/
def Vars.freeDevCNr (s : Vars) : Heap Int := s.devCNr.elim s.heap s.heap.free

def gpsinfMtkGpsTestStop (s : Vars) : Vars × Int :=
  let stopped := atTest2mnlGpsStop { s with testModeFlag := true }
  if stopped.2 ≠ 0 then (stopped.1, -1)
  else ({ stopped.1 with
    halTestData := ⟨0, 0, 0⟩
    mnlAtTestFlag := false
    mnlAtSignalMode := false
    mnlAtCwMode := false
    mnlAtTestState := .unknown
    mnlAtSignalTestBegin := false
    successNum := 0
    completedNum := 0
    waitNum := 0
    cNo := 0
    dCNo := 0
    devCNo := 0
    errCode := 1
    heap := s.freeDevCNr }, 0)

/-- The flag of a mode is set; the others stay. -/
def Vars.setMode (s : Vars) : Mode → Vars
  | .signal => { s with mnlAtSignalMode := true }
  | .cw => { s with mnlAtCwMode := true }
  | .normal => { s with mnlAtTestFlag := true }

def gpsinfMtkGpsTestStart (s : Vars) (testNum prnNum timeDelay : Int) (testMode : Mode)
    (now err : Int) : Vars × Int :=
  let s := if s.mnlAtTestState ≠ .unknown ∧ s.testModeFlag = true then
      (gpsinfMtkGpsTestStop s).1 else s
  let s := { s with
    halTestData := ⟨testNum, prnNum, timeDelay⟩
    startTime := now
    avgCNo := 0
    devCNr := some s.heap.fresh
    heap := s.heap.malloc (List.replicate testNum.toNat 0) }
  if testNum = 0 ∧ testMode = .normal then (s, -1)
  else
    let started := atTest2mnlGpsStart { s.setMode testMode with mnlAtTestState := .inprogress } err
    if started.2 ≠ 0 then
      ({ started.1 with
        mnlAtTestState := .unknown
        mnlAtTestFlag := false
        mnlAtSignalMode := false
        mnlAtCwMode := false }, -1)
    else (started.1, 0)

def gpsinfMtkGpsTestInprogress (s : Vars) : State :=
  match s.mnlAtTestState with
  | .done | .resultDone => .done
  | .inprogress => .inprogress
  | _ => .unknown

section Replies

def numbers (s : Vars) : String := ", ".intercalate (s.result.map toString)

/-- `at_command_send_cno`; a command `AT%GNSS` has a text added. -/
def atCommandSendCno (s : Vars) (gnss : Bool) : String :=
  let report := fun (value : Int) =>
    if value = 0 then "0, NA" else toString (value.tdiv 10) ++ if gnss then ", NA" else ""
  if gpsinfMtkGpsTestInprogress s = .inprogress then "GNSS Test In Progress"
  else if s.mnlAtSignalMode then report s.cn
  else report s.avgCNo

def gpsTestState (s : Vars) : String :=
  match gpsinfMtkGpsTestInprogress s with
  | .inprogress => "GPS Test In Progress"
  | .done => "<" ++ numbers s ++ ">"
  | _ => "ERROR"

def atCommandSendTestResult (s : Vars) : String :=
  let report := "[" ++ numbers s ++ "][0, 0, 0, 0, 0, 0, 0, 0]"
  match gpsinfMtkGpsTestInprogress s with
  | .inprogress => "GNSS Test In Progress"
  | .done => report
  | _ =>
    if s.result[0]? ≠ some 0 then report
    else if s.result[5]? ≠ some 0 ∧ ¬ (s.mnlAtSignalMode ∨ s.mnlAtSignalTestBegin) then report
    else "[0, 0, 0, 0, 0, 0, 0, 0][0, 0, 0, 0, 0, 0, 0, 0]"

/-- `at_cw_test_command_send_test_result`, up to the clock drift behind the SNR. -/
def atCwTestCommandSendTestResult (s : Vars) : String :=
  if s.mnlAtTestState = .inprogress ∨ s.mnlAtTestState = .done then "AT Command test In Progress"
  else if s.cnr = -1 then "CW Test no valid result"
  else "SNR: " ++ toString s.cnr ++ " Clock drift: "

end Replies

section Parsers

variable (s : Vars) (command : List UInt8) (now err : Int)

def atGpsCommandParser : Vars × Option String :=
  let s := { s with testModeFlag := false, waitNum := 0 }
  if s.mnlAtCwMode then (s, some "GPS CW test is ongoing, please wait")
  else match gpsRequest command with
  | .cno => (s, some (atCommandSendCno s false))
  | .number testNum =>
    if 0 ≤ testNum then
      let started := gpsinfMtkGpsTestStart s testNum gpsTestPrn 2 .normal now err
      (started.1, some (if started.2 = 0 then "GPS TEST START OK" else "GPS ERROR"))
    else (s, some "Invalid Test Num =0")
  | .state => (s, some (gpsTestState s))
  | .illegal => (s, some "GPS ERROR")
  | _ => (s, none)

/-- What `AT%GNSS=n` clears before the number is looked at. -/
def clearResults : Vars :=
  { s with
    result := [1, 0, 0, 0, 0, 0, 0, 0]
    avgCNo := 0
    successNum := 0
    completedNum := 0
    cNo := 0
    dCNo := 0
    devCNo := 0
    cn := 0 }

def atGnssNumber (testNum : Int) : Vars × Option String :=
  let s := clearResults s
  if s.mnlAtSignalMode then
    if testNum ≤ 0 then
      (if s.mnlAtTestState ≠ .unknown then (gpsinfMtkGpsTestStop s).1 else s,
        some "Invalid Test Num = 0")
    else
      ({ s with mnlAtSignalTestBegin := true, mnlAtTestState := .inprogress, startTime := now },
        some "GNSS TEST START OK")
  else if 0 ≤ testNum then
    let started := gpsinfMtkGpsTestStart s testNum gpsTestPrn 2 .normal now err
    (started.1, some (if started.2 = 0 then "GNSS TEST START OK" else "GNSS ERROR"))
  else (s, some "Invalid Test Num =0")

def atGnssSignal : Vars × Option String :=
  let started := if s.mnlAtTestFlag = false then gpsinfMtkGpsTestStart s 0 1 2 .signal now err
    else ({ s with mnlAtSignalMode := true, mnlAtTestFlag := false }, 0)
  (started.1, some (if started.2 = 0 then "GNSS START START OK" else "GNSS START START FAIL"))

def atGnssStop : Vars × Option String :=
  if s.mnlAtTestState = .unknown then (s, some "GNSS Test is Not In Progress")
  else
    let stopped := gpsinfMtkGpsTestStop s
    (stopped.1, some (if stopped.2 = 0 then "GNSS TEST END OK" else "GNSS TEST END FAIL"))

def atGnssCommandParser : Vars × Option String :=
  let s := { s with testModeFlag := false }
  if s.mnlAtCwMode then (s, some "GPS CW test is ongoing, please wait")
  else match gnssRequest command with
  | .result => (s, some (atCommandSendTestResult s))
  | .signal => atGnssSignal s now err
  | .stop => atGnssStop s
  | .number testNum => atGnssNumber s now err testNum
  | .cno => (s, some (atCommandSendCno s true))
  | _ => (s, some "GNSS ERROR")

def atCwStop : Vars × Option String :=
  if s.mnlAtTestState = .unknown then (s, some "CWGPS Test is not in progress")
  else
    let stopped := gpsinfMtkGpsTestStop s
    (stopped.1, some (if stopped.2 = 0 then "CWGPS test end success" else "CWGPS test end fail"))

def atCwStart : Vars × Option String :=
  if s.mnlAtCwMode then (s, some "AT CWGPS is ongoing, please wait")
  else
    let started := gpsinfMtkGpsTestStart s 0 gpsTestPrn 1 .cw now err
    ({ started.1 with cnr := -1 },
      some (if started.2 = 0 then "GPS Open Success" else "GPS Open fail"))

def atCwTestCommandParser : Vars × Option String :=
  let s := { s with testModeFlag := false }
  if s.mnlAtTestFlag ∨ s.mnlAtSignalMode then
    (s, some "AT GPS or AT GNSS is ongoing, please wait")
  else match cwRequest command with
  | .stop => atCwStop s
  | .cw => atCwStart s now err
  | .result => (s, some (atCwTestCommandSendTestResult s))
  | _ => (s, some "Invalid CWGPS Command")

def atCommandParser : Vars × Option String :=
  if command.take 6 = gpsOp then atGpsCommandParser s command now err
  else if command.take 7 = gnssOp then atGnssCommandParser s command now err
  else if command.take 8 = gpsCwTest then atCwTestCommandParser s command now err
  else (s, some "GPS ERROR")

end Parsers

section Sentences

variable (s : Vars)

def countFailure : Vars :=
  if s.prevSuccessNum = s.successNum then { s with failureNum := s.failureNum + 1 } else s

/-- The counts of a sentence; whether the test has come to its end. -/
def completeSentence : Vars × Bool :=
  if 0 < s.successNum then
    let s := countFailure s
    let s := { s with completedNum := s.successNum + s.failureNum }
    (s, s.completedNum = s.halTestData.testNum)
  else
    let s := { s with waitNum := s.waitNum + 1 }
    if s.waitNum = maxValidStatusWaitCount then ({ s with errCode := 32, completedNum := 1 }, true)
    else (s, false)

def countSentence : Vars × Bool :=
  let counted := completeSentence s
  ({ counted.1 with prevSuccessNum := counted.1.successNum }, counted.2)

/-- The results are kept, and a normal test is stopped. -/
def finishTest : Vars :=
  let s := { s with
    result := ((((s.result.set 0 s.errCode).set 3 s.successNum).set 4 s.completedNum).set 5
      s.avgCNo).set 6 s.devCNo
    waitNum := 0
    mnlAtTestState := .done
    errCode := 1 }
  if s.mnlAtTestFlag then
    { (gpsinfMtkGpsTestStop s).1 with failureNum := 0, prevSuccessNum := 0 }
  else s

/-- At the start of every sentence, the last one of its buffer or not. -/
def nmeaParserAtCmdPre (now : Int) (ended : Bool) : Vars :=
  if s.mnlAtTestFlag ∨ s.mnlAtSignalTestBegin then
    if s.halTestData.timeDelay ≤ now - s.startTime ∧ ended = true then
      let counted := countSentence s
      if counted.2 then finishTest counted.1 else counted.1
    else s
  else if s.mnlAtCwMode ∧ s.mnlAtTestState = .inprogress ∧
      s.halTestData.timeDelay ≤ now - s.startTime then { s with mnlAtTestState := .done }
  else s

/-- `Dev_CNr[Success_Num] = snr*10` and the counts beside it. -/
def recordSample (snr : Int) : Vars :=
  { s with
    errCode := 0
    cNo := s.cNo + snr * 10
    heap := s.heap.store (s.devCNr.getD s.heap.fresh) s.successNum (snr * 10)
    successNum := s.successNum + 1
    avgCNo := (s.cNo + snr * 10).tdiv (s.successNum + 1) }

/-- The distance of a sample from the mean; a cell outside of the array is read as 0. -/
def distance (j : Nat) : Int := ((s.devCNr.bind fun p => s.heap.load p j).getD 0) - s.avgCNo

def deviation : Int :=
  (List.range s.successNum).foldl (fun dCNo j => dCNo + distance s j * distance s j) s.dCNo

def updateDeviation : Vars :=
  if s.successNum ≠ 0 then
    { s with
      devCNo := Nat.sqrt ((deviation s).tdiv s.successNum).toNat
      dCNo := 0 }
  else s

/-- The state of a signal test, for the result to be read. -/
def markSignal : Vars :=
  let s := if s.mnlAtSignalMode ∧ ¬ s.mnlAtSignalTestBegin then
      { s with mnlAtTestState := .inprogress } else s
  if s.mnlAtSignalMode ∧ s.mnlAtSignalTestBegin then
    { s with mnlAtTestState := .resultDone, sigSucNum := 1 } else s

def measureSatellite (snr : Int) : Vars :=
  let s := markSignal s
  let s := if s.mnlAtTestFlag then recordSample s snr else s
  { s with cn := snr * 10 }

/-- The first satellite of the number is looked at. -/
def gpsAtCommandSearchSatellite (svs : List (Int × Int)) : Vars :=
  match svs.find? fun sv => sv.1 = s.halTestData.prnNum with
  | none => s
  | some (_, snr) =>
    updateDeviation (if snr ≠ 0 then measureSatellite s snr else { s with sigSucNum := 0 })

/-- With the satellites, as numbers and signals, of a complete set of GSV sentences. -/
def gpsAtCommandTestProc (svs : List (Int × Int)) : Vars :=
  if s.mnlAtTestState ≠ .done then
    if s.mnlAtSignalMode then
      if s.mnlAtSignalTestBegin then
        let s := gpsAtCommandSearchSatellite s svs
        { s with result := ((((s.result.set 0 0).set 3 s.sigSucNum).set 4 1).set 5 s.cn).set 6 0 }
      else s
    else gpsAtCommandSearchSatellite s svs
  else s

def atCwTestCommandTestResult (snr : Int) : Vars :=
  if gpsinfMtkGpsTestInprogress s = .unknown then s
  else
    let s := { s with cnr := snr, mnlAtTestState := .resultDone }
    if s.mnlAtCwMode then (gpsinfMtkGpsTestStop s).1 else s

end Sentences

/-- What a sentence is to the tests: the last of a set of GSV sentences, `PMTK817`, or any
other. -/
inductive Sentence
  | gsv (svs : List (Int × Int))
  | pmtk817 (snr : Int)
  | other
deriving DecidableEq, Repr

/-- What `nmea_reader_parse` does behind `nmea_parser_at_cmd_pre`. -/
def parseSentence (s : Vars) : Sentence → Vars
  | .gsv svs => if s.mnlAtTestFlag ∨ s.mnlAtSignalMode then gpsAtCommandTestProc s svs else s
  | .pmtk817 snr => if s.mnlAtCwMode then atCwTestCommandTestResult s snr else s
  | .other => s

/-- A datagram with a command, or a sentence, at a time. -/
inductive Event
  | command (datagram : List UInt8) (now err : Int)
  | sentence (now : Int) (ended : Bool) (body : Sentence)
deriving DecidableEq, Repr

def Vars.next (s : Vars) : Event → Vars
  | .command datagram now err => (atCommandParser s (commandLine datagram) now err).1
  | .sentence now ended body => parseSentence (nmeaParserAtCmdPre s now ended) body

def Vars.step (s : Vars) (e : Event) : Option Vars := some (s.next e)

end Connectivity.AtTest
