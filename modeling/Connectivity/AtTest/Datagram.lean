import Connectivity.AtTest.TestNumber
import Connectivity.Bytes.Buffer

set_option autoImplicit false

/- The memory that a datagram with an AT command is received into, parsed in and answered from. -/
namespace Connectivity.AtTest

open Bytes

section Commands

/-- What `cmd` of `at_cmd2mnl_hdlr` holds behind `recvfrom`. -/
def received (buffer : Vector UInt8 20) (datagram : List UInt8) : List UInt8 :=
  datagram.take 20 ++ buffer.toList.drop datagram.length

/-- The bytes that `%s` and `strlen` read, with the NUL. -/
def textLength (memory : List UInt8) : Nat := (memory.takeWhile (· ≠ 0)).length + 1

/-- The datagram is logged before `cmd[ret] = 0x00`. -/
def receiveTouches (buffer : Vector UInt8 20) (datagram : List UInt8) : List Touch :=
  [⟨20, 0, min 20 datagram.length⟩, ⟨20, 0, textLength (received buffer datagram)⟩,
    ⟨20, min 20 datagram.length, 1⟩]

/-- The bytes behind the name of a command that are compared. -/
def byteTouches (offset : Nat) : List Touch :=
  [⟨20, offset, 1⟩, ⟨20, offset + 1, 1⟩, ⟨20, offset + 2, 1⟩]

/-- The log of the command and its comparisons; `at_command_send_cno` compares with `AT%GNSS`
once more. -/
def parseTouches (command : List UInt8) : List Touch :=
  [⟨20, 0, textLength command⟩, ⟨20, 0, 6⟩] ++
    if command.take 6 = gpsOp then ⟨20, 0, 7⟩ :: byteTouches 6
    else ⟨20, 0, 7⟩ ::
      if command.take 7 = gnssOp then byteTouches 7
      else ⟨20, 0, 8⟩ :: if command.take 8 = gpsCwTest then byteTouches 8 else []

def requestOf (command : List UInt8) : Request :=
  if command.take 6 = gpsOp then gpsRequest command
  else if command.take 7 = gnssOp then gnssRequest command
  else if command.take 8 = gpsCwTest then cwRequest command
  else .illegal

def Request.isNumber : Request → Bool
  | .number _ => true
  | _ => false

/-- `at_command_parse_test_num` is called for the command. -/
def asksNumber (s : Vars) (command : List UInt8) : Bool :=
  !s.mnlAtCwMode && (requestOf command).isNumber

/-- Where `strtoul` starts. -/
def numberOffset (command : List UInt8) : Nat := if command.take 7 = gnssOp then 8 else 7

def numberText (command : List UInt8) : List UInt8 := command.drop (numberOffset command)

/-- A `char*` of eight bytes is stored in a block of `strlen(command)` bytes. -/
def numberTouches (command : List UInt8) : List Touch :=
  [⟨20, 0, textLength command⟩, ⟨20, 0, 7⟩,
    ⟨20, numberOffset command, textLength (numberText command)⟩,
    ⟨command.length, 0, 8⟩,
    ⟨20, command.length - (strtoul (numberText command)).2.length, 1⟩]

end Commands

section Answers

/-- A text that `sprintf` writes into a buffer; `", NA"` may be put behind it, up to the end. -/
structure Formatted where
  size : Nat
  text : String
  added : Bool
deriving DecidableEq, Repr

def cnoFormatted (s : Vars) (gnss : Bool) : Option Formatted :=
  let value := if s.mnlAtSignalMode then s.cn else s.avgCNo
  if gpsinfMtkGpsTestInprogress s = .inprogress ∨ value = 0 then none
  else some ⟨32, toString (value.tdiv 10), gnss⟩

def stateFormatted (s : Vars) : Option Formatted :=
  if gpsinfMtkGpsTestInprogress s = .done then some ⟨60, "<" ++ numbers s ++ ">", false⟩ else none

/-- The results are printed, and not eight zeros in their place. -/
def resultReported (s : Vars) : Bool :=
  gpsinfMtkGpsTestInprogress s = .done ∨ gpsinfMtkGpsTestInprogress s ≠ .inprogress ∧
    (s.result[0]? ≠ some 0 ∨
      s.result[5]? ≠ some 0 ∧ ¬ (s.mnlAtSignalMode ∨ s.mnlAtSignalTestBegin))

def resultFormatted (s : Vars) : Option Formatted :=
  if resultReported s then some ⟨60, "[" ++ numbers s ++ "][0, 0, 0, 0, 0, 0, 0, 0]", false⟩
  else none

def cwReported (s : Vars) : Bool :=
  ¬ (s.mnlAtTestState = .inprogress ∨ s.mnlAtTestState = .done) ∧ s.cnr ≠ -1

/-- With the clock drift as `%.2f` prints it. -/
def cwFormatted (s : Vars) (drift : String) : Option Formatted :=
  if cwReported s then some ⟨64, "SNR: " ++ toString s.cnr ++ " Clock drift: " ++ drift, false⟩
  else none

/-- What a command has formatted for its answer. -/
def formatted (s : Vars) (command : List UInt8) (drift : String) : Option Formatted :=
  if command.take 6 = gpsOp then
    if s.mnlAtCwMode then none
    else match gpsRequest command with
    | .cno => cnoFormatted s false
    | .state => stateFormatted s
    | _ => none
  else if command.take 7 = gnssOp then
    if s.mnlAtCwMode then none
    else match gnssRequest command with
    | .cno => cnoFormatted s true
    | .result => resultFormatted s
    | _ => none
  else if command.take 8 = gpsCwTest then
    if s.mnlAtTestFlag ∨ s.mnlAtSignalMode then none
    else match cwRequest command with
    | .result => cwFormatted s drift
    | _ => none
  else none

/-- The text is written, `", NA"` behind it, and all of the buffer is sent. -/
def formattedTouches (f : Formatted) : List Touch :=
  ⟨f.size, 0, f.text.length + 1⟩ ::
    ((if f.added then [⟨f.size, f.text.length, f.size - f.text.length⟩] else []) ++
      [⟨f.size, 0, f.size⟩])

/-- An answer that is the text its buffer is declared with. -/
def literalTouches (text : String) : List Touch := [⟨text.length + 1, 0, text.length + 1⟩]

def ackTouches (s : Vars) (command : List UInt8) (now err : Int) (drift : String) : List Touch :=
  (formatted s command drift).elim
    ((atCommandParser s command now err).2.elim [] literalTouches) formattedTouches

end Answers

/-- What `at_cmd2mnl_hdlr` touches of its buffer, of the block for `strtoul` and of the answer. -/
def datagramTouches (s : Vars) (buffer : Vector UInt8 20) (datagram : List UInt8) (now err : Int)
    (drift : String) : List Touch :=
  let command := commandLine datagram
  receiveTouches buffer datagram ++ (parseTouches command ++
    ((if asksNumber s command then numberTouches command else []) ++
      ackTouches s command now err drift))

section Numbers

/-- The least number that is taken: a signal test checks for `test_num <= 0`, any other test
for `test_num >= 0`. -/
def leastNumber (s : Vars) (command : List UInt8) : Int :=
  if command.take 7 = gnssOp ∧ s.mnlAtSignalMode = true then 1 else 0

def takenNumber (s : Vars) (command : List UInt8) : Option Int :=
  accepted (leastNumber s command) (atCommandParseTestNum command)

end Numbers

/-- The datagram is handled as its buffers and the number in it ask for. -/
structure Handled (s : Vars) (buffer : Vector UInt8 20) (datagram : List UInt8) (now err : Int)
    (drift : String) : Prop where
  inside : ∀ touch ∈ datagramTouches s buffer datagram now err drift, touch.Inside
  number : asksNumber s (commandLine datagram) = true →
    takenNumber s (commandLine datagram) = positiveDecimal (numberText (commandLine datagram))

/-- The characters of texts. -/
def characters (texts : List String) : Nat := texts.foldr (fun text count => text.length + count) 0

/-- The digits and signs of numbers. -/
def printed (values : List Int) : Nat := characters (values.map toString)

/-- The results that a command has printed are short enough for the buffer of the answer. -/
def AnswerFits (s : Vars) (command : List UInt8) (drift : String) : Prop :=
  if command.take 6 = gpsOp then
    s.mnlAtCwMode = false → gpsRequest command = .state →
      gpsinfMtkGpsTestInprogress s = .done → printed s.result ≤ 43
  else if command.take 7 = gnssOp then
    s.mnlAtCwMode = false → gnssRequest command = .result →
      resultReported s = true → printed s.result ≤ 19
  else
    command.take 8 = gpsCwTest → ¬ (s.mnlAtTestFlag ∨ s.mnlAtSignalMode) →
      cwRequest command = .result → cwReported s = true →
        (toString s.cnr).length + drift.length ≤ 44

/-- What a datagram and the state have to be. -/
structure Harmless (s : Vars) (buffer : Vector UInt8 20) (datagram : List UInt8)
    (drift : String) : Prop where
  short : datagram.length < 20
  ended : 0 ∈ received buffer datagram
  digits : s.mnlAtCwMode = false → commandLine datagram ≠ gpsOp ++ [61]
  answer : AnswerFits s (commandLine datagram) drift
  number : asksNumber s (commandLine datagram) = true →
    TextFits (leastNumber s (commandLine datagram)) (numberText (commandLine datagram))

/-- The types of the variables: eight results, and `int` for the signal strengths. -/
structure Vars.Typed (s : Vars) : Prop where
  eight : s.result.length = 8
  cn : -2147483648 ≤ s.cn ∧ s.cn < 2147483648
  avgCNo : -2147483648 ≤ s.avgCNo ∧ s.avgCNo < 2147483648

end Connectivity.AtTest
