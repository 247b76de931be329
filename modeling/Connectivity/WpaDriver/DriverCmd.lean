import Connectivity.Bytes.Buffer
import Connectivity.WpaDriver.Tokenize

set_option autoImplicit false

/- What a driver command of `wpa_supplicant` does with its text, with the data for the driver and
with the context of the supplicant. -/
namespace Connectivity.WpaDriver

open Bytes

/-- The text of a command, without the NUL behind it. -/
structure Command where
  text : List UInt8
  ended : 0 ∉ text

def ascii (text : String) : List UInt8 := text.toList.map fun char => UInt8.ofNat char.toNat

section Library

/-- A letter in lower case. -/
def lower (char : UInt8) : UInt8 := if 65 ≤ char ∧ char ≤ 90 then char + 32 else char

/-- How a command is compared with a text: with `os_strncmp` and `os_strncasecmp` over the length of
the text, or with `os_strcasecmp`. -/
inductive Comparison
  | starts | startsCase | isCase
deriving DecidableEq, Repr

def Comparison.holds : Comparison → List UInt8 → List UInt8 → Bool
  | .starts, text, cmd => text.isPrefixOf cmd
  | .startsCase, text, cmd => (text.map lower).isPrefixOf (cmd.map lower)
  | .isCase, text, cmd => text.map lower == cmd.map lower

def isSpace (char : UInt8) : Bool := (9 ≤ char && char ≤ 13) || char == 32

def isDigit (char : UInt8) : Bool := 48 ≤ char && char ≤ 57

/-- The text behind the white space and a sign. -/
def unsigned (text : List UInt8) : List UInt8 :=
  let body := text.dropWhile isSpace
  if body.head? = some 43 ∨ body.head? = some 45 then body.tail else body

/-- Whether `strtol` takes a number of any base. -/
def strtolTakes (text : List UInt8) : Bool := (unsigned text).head?.any isDigit

/-- `atoi`, by a `long` that keeps to its limits. -/
def atoi (longMax : Nat) (text : List UInt8) : Int :=
  let digits := (unsigned text).takeWhile isDigit
  let number := digits.foldl (fun n char => n * 10 + (char.toNat - 48)) 0
  if (text.dropWhile isSpace).head? = some 45 then
    if number > longMax + 1 then -(longMax + 1) else -number
  else if number > longMax then longMax else number

/-- Whether `os_strstr` finds a text. -/
def occurs (text cmd : List UInt8) : Bool := cmd.tails.any fun rest => text.isPrefixOf rest

end Library

/-- What the build decides. -/
structure Build where
  wide : Bool
  hotspotMgr : Bool
  mtkLteCoex : Bool
  wapi : Bool
  mtkWfdSink : Bool
  mtkP2pSigma : Bool
deriving DecidableEq, Repr

namespace Build

variable (b : Build)

def pointer : Nat := if b.wide then 8 else 4

def longMax : Nat := if b.wide then 9223372036854775807 else 2147483647

/-- The values that a `size_t` has. -/
def sizeTRange : Nat := if b.wide then 18446744073709551616 else 4294967296

end Build

/-- The branches of `wpa_driver_nl80211_driver_cmd`. -/
inductive Branch
  | powermode | getStaStatistics | macaddr | country | start | stop | getpower
  | rxfilterAdd | rxfilterRemove | rxfilterStop | rxfilterStart
  | btcoexscanStart | btcoexscanStop | btcoexmode
  | staBlock | staUnblock | setMaxClient | mtkAcs | setWapiKey | wapiMsgSend
  | p2pGetCap | p2pSetCap | miracast | p2pUseMcc | wfdDataUpdate
  | mcc | p2pSetOpps | p2pSetPowerSave | p2pSetSleep | p2pSetSleepAll | sigmaMode
  | p2pSetNoa | p2pSetPs | setSuspendMode | mtkRxPacketFilter | transparent
deriving DecidableEq, Repr

/-- A condition of the chain, if it is compiled. -/
structure Row where
  compiled : Bool
  comparison : Comparison
  text : List UInt8
  branch : Branch

def rows (b : Build) : List Row :=
  [⟨true, .startsCase, ascii "POWERMODE ", .powermode⟩,
    ⟨true, .startsCase, ascii "GET_STA_STATISTICS ", .getStaStatistics⟩,
    ⟨true, .starts, ascii "MACADDR", .macaddr⟩,
    ⟨true, .startsCase, ascii "COUNTRY", .country⟩,
    ⟨true, .isCase, ascii "start", .start⟩,
    ⟨true, .isCase, ascii "stop", .stop⟩,
    ⟨true, .startsCase, ascii "getpower", .getpower⟩,
    ⟨true, .startsCase, ascii "rxfilter-add", .rxfilterAdd⟩,
    ⟨true, .startsCase, ascii "rxfilter-remove", .rxfilterRemove⟩,
    ⟨true, .startsCase, ascii "rxfilter-stop", .rxfilterStop⟩,
    ⟨true, .startsCase, ascii "rxfilter-start", .rxfilterStart⟩,
    ⟨true, .isCase, ascii "btcoexscan-start", .btcoexscanStart⟩,
    ⟨true, .isCase, ascii "btcoexscan-stop", .btcoexscanStop⟩,
    ⟨true, .startsCase, ascii "btcoexmode", .btcoexmode⟩,
    ⟨b.hotspotMgr, .starts, ascii "STA-BLOCK ", .staBlock⟩,
    ⟨b.hotspotMgr, .starts, ascii "STA-UNBLOCK ", .staUnblock⟩,
    ⟨b.hotspotMgr, .startsCase, ascii "set_max_client ", .setMaxClient⟩,
    ⟨b.mtkLteCoex, .starts, ascii "MTK-ACS", .mtkAcs⟩,
    ⟨b.wapi, .startsCase, ascii "set-wapi-key", .setWapiKey⟩,
    ⟨b.wapi, .startsCase, ascii "wapi-msg-send", .wapiMsgSend⟩,
    ⟨b.mtkWfdSink, .starts, ascii "p2p_get_cap ", .p2pGetCap⟩,
    ⟨b.mtkWfdSink, .starts, ascii "p2p_set_cap ", .p2pSetCap⟩,
    ⟨b.mtkWfdSink, .starts, ascii "MIRACAST ", .miracast⟩,
    ⟨b.mtkWfdSink, .startsCase, ascii "p2p_use_mcc=", .p2pUseMcc⟩,
    ⟨b.mtkWfdSink, .starts, ascii "wfd_data_update", .wfdDataUpdate⟩,
    ⟨b.mtkP2pSigma, .startsCase, ascii "mcc", .mcc⟩,
    ⟨b.mtkP2pSigma, .starts, ascii "p2p_set_opps ", .p2pSetOpps⟩,
    ⟨b.mtkP2pSigma, .starts, ascii "p2p_set_power_save ", .p2pSetPowerSave⟩,
    ⟨b.mtkP2pSigma, .starts, ascii "p2p_set_sleep ", .p2pSetSleep⟩,
    ⟨b.mtkP2pSigma, .starts, ascii "p2p_set_sleep", .p2pSetSleepAll⟩,
    ⟨b.mtkP2pSigma, .startsCase, ascii "sigma_mode", .sigmaMode⟩,
    ⟨true, .starts, ascii "P2P_SET_NOA", .p2pSetNoa⟩,
    ⟨true, .starts, ascii "P2P_SET_PS", .p2pSetPs⟩,
    ⟨true, .startsCase, ascii "SETSUSPENDMODE ", .setSuspendMode⟩,
    ⟨true, .startsCase, ascii "mtk_rx_packet_filter ", .mtkRxPacketFilter⟩]

def branchOf (b : Build) (text : List UInt8) : Branch :=
  ((rows b).find? fun row => row.compiled && row.comparison.holds row.text text).elim .transparent
    Row.branch

/-- What the caller of `set-wapi-key` passes in its buffer; `key` and `seq` say whether there is
one. -/
structure WapiKeyParam where
  seq : Bool
  seqLen : Nat
  key : Bool
  keyLen : Nat
deriving DecidableEq, Repr

/-- The interface, and what its surroundings answer. -/
structure Interface where
  drv : Bool
  ctx : Bool
  conf : Bool
  nlmode : Nat
  associated : Bool
  /-- Of `wpa_driver_mediatek_set_country`. -/
  setCountry : Int
  /-- Whether the scan of the `i`-th question has been complete. -/
  scanDone : Nat → Bool
  /-- Whether `hwaddr_aton` takes a text. -/
  isHwaddr : List UInt8 → Bool
  wapiKey : WapiKeyParam
  wfdSessionInformationIELen : Nat
  bufLen : Nat

def nl80211IftypeAp : Nat := 3

/-- Data for the driver: the buffer's size, how much of it is handed over, and the bytes that are
set, each time from an offset on. -/
structure Payload where
  size : Nat
  length : Nat
  set : List (Nat × Nat)
deriving DecidableEq, Repr

namespace Payload

def Sets (p : Payload) (i : Nat) : Prop := ∃ part ∈ p.set, part.1 ≤ i ∧ i < part.1 + part.2

instance (p : Payload) (i : Nat) : Decidable (p.Sets i) :=
  inferInstanceAs (Decidable (∃ part ∈ p.set, _))

/-- What is handed over is inside of the buffer, and has been set. -/
structure Whole (p : Payload) : Prop where
  inside : p.length ≤ p.size
  set : ∀ i < p.length, p.Sets i

/-- A structure that has been cleared. -/
def cleared (size : Nat) : Payload := ⟨size, size, [(0, size)]⟩

end Payload

/-- What a command does: whether it reads the variable for the supplicant's context, what it splits,
what it hands to the driver, and the memory it touches. -/
structure Trace where
  supplicant : Bool
  tokens : Option Tokens
  payloads : List Payload
  touches : List Touch
deriving DecidableEq, Repr

namespace Trace

def quiet : Trace := ⟨false, none, [], []⟩

/-- The context is read, and a payload comes of a condition. -/
def context (sent : Bool) (payload : Payload) : Trace :=
  ⟨true, none, if sent then [payload] else [], []⟩

/-- The same without the context. -/
def sends (sent : Bool) (payload : Payload) : Trace :=
  ⟨false, none, if sent then [payload] else [], []⟩

/-- The reply is cleared or printed, with the length of its buffer. -/
def replies (t : Trace) (bufLen : Nat) : Trace :=
  { t with touches := t.touches ++ [⟨bufLen, 0, bufLen⟩] }

end Trace

section Branches

variable (b : Build) (d : Interface) (cmd : List UInt8)

/-- The sizes of `struct wpa_driver_sw_cmd_params`, `..._hotspot_params`, `..._p2p_sigma_params`,
`..._wapi_key_params` and `..._wfd_data_s`. -/
def swCmdParams : Nat := 20
def hotspotParams : Nat := 16
def p2pSigmaParams : Nat := 16
def wapiKeyParams : Nat := 76
def wfdDataParams : Nat := 464

/-- `p2p_ctrl_iface_set_noa` and `p2p_ctrl_iface_set_ps`, with a vector of 64 places. -/
def splitTrace (params : Nat) : Trace :=
  let tokens := tokenizeSpace cmd (intOf cmd.length)
  { supplicant := true
    tokens := some tokens
    payloads := if tokens.argv.length = 4 then [Payload.cleared params] else []
    touches := (List.range tokens.argv.length).map fun i => ⟨64, i, 1⟩ }

/-- `p2p_ctrl_iface_set_opps`: behind a space there is an address, and a space is looked for in a
text that is NULL when there has been none before. -/
def setOppsTrace (text : List UInt8) : Trace :=
  if 32 ∈ text then
    Trace.context (d.isHwaddr ((text.dropWhile fun char => char != 32).tail))
      (Payload.cleared p2pSigmaParams)
  else ⟨true, none, [Payload.cleared p2pSigmaParams], [⟨0, 0, 1⟩]⟩

/-- `wpa_driver_nl80211_set_wapi_key`: the key goes into 32 bytes, the sequence number into the 8 of
`tx_seq`. -/
def setWapiKeyTrace (param : WapiKeyParam) : Trace :=
  if param.seqLen > 8 * 2 then Trace.quiet
  else
    { supplicant := false
      tokens := none
      payloads := [Payload.cleared wapiKeyParams]
      touches := (if param.key ∧ param.keyLen ≠ 0 then [⟨32, 0, param.keyLen⟩] else []) ++
        if param.seq ∧ param.seqLen ≠ 0 then [⟨8, 0, param.seqLen⟩] else [] }

/-- `wpa_driver_do_mtk_acs` asks until the scan is complete, six times at most. -/
def mtkAcsQuestions : Nat := 1 + ((List.range 5).takeWhile fun i => !d.scanDone i).length

/-- The value of a `MIRACAST` command, an `unsigned char`. -/
def miracastValue : Nat := (atoi b.longMax (cmd.drop 9) % 256).toNat

/-- Whether the command names a frequency, and is rebuilt without it. -/
def miracastRebuilt : Bool := miracastValue b cmd == 2 && occurs (ascii " freq=") cmd

/-- The text that the private command has. -/
def privateText (branch : Branch) : List UInt8 :=
  if branch = .miracast ∧ miracastRebuilt b cmd = true then ascii "MIRACAST 2" else cmd

/-- The command that is handed to the driver as it is, behind a header of eight bytes. -/
def transparentPayload : Payload :=
  ⟨100, (8 + cmd.length) % 4294967296, [(0, 4), (4, 4), (8, 92)]⟩

def suspendPayload : Payload := ⟨12, 12, [(0, 4), (4, 4), (8, 1)]⟩

/-- Of `struct wpa_driver_rx_filter_params` every word is set. -/
def rxFilterPayload : Payload :=
  ⟨32, 32, [(0, 4), (4, 4), (8, 4), (12, 4), (16, 4), (20, 4), (24, 4), (28, 4)]⟩

def branchTrace : Branch → Trace
  | .powermode | .start | .getpower | .btcoexscanStart | .btcoexscanStop | .btcoexmode
  | .wapiMsgSend | .sigmaMode => Trace.quiet
  | .getStaStatistics =>
      (Trace.context (d.isHwaddr (cmd.drop 19)) (Payload.cleared (24 + b.pointer))).replies
        d.bufLen
  | .macaddr | .p2pGetCap => { Trace.quiet with supplicant := true }.replies d.bufLen
  | .p2pSetCap | .p2pUseMcc | .mcc => { Trace.quiet with supplicant := true }
  | .country =>
      { Trace.quiet with supplicant := decide (cmd.length = 10 ∧ d.setCountry = 0) }
  | .stop => { Trace.quiet with supplicant := d.associated }
  | .rxfilterAdd => Trace.sends (strtolTakes (cmd.drop 12)) (Payload.cleared swCmdParams)
  | .rxfilterRemove => Trace.sends (strtolTakes (cmd.drop 15)) (Payload.cleared swCmdParams)
  | .rxfilterStop | .rxfilterStart => Trace.sends true (Payload.cleared swCmdParams)
  | .staBlock => Trace.sends (d.isHwaddr (cmd.drop 10)) (Payload.cleared hotspotParams)
  | .staUnblock => Trace.sends (d.isHwaddr (cmd.drop 12)) (Payload.cleared hotspotParams)
  | .setMaxClient => Trace.sends true (Payload.cleared 16)
  | .mtkAcs =>
      { Trace.quiet with
        payloads := List.replicate (mtkAcsQuestions d) (Payload.cleared (8 + b.pointer))
        touches := [⟨d.bufLen, 0, 1⟩] }
  | .setWapiKey => setWapiKeyTrace d.wapiKey
  | .miracast =>
      { Trace.quiet with
        supplicant := decide (miracastValue b cmd ≤ 2)
        touches := if miracastRebuilt b cmd then [⟨cmd.length + 1, 0, 10⟩] else [] }
  | .wfdDataUpdate =>
      { Trace.context true (Payload.cleared wfdDataParams) with
        touches := [⟨192, 0, d.wfdSessionInformationIELen⟩] }
  | .p2pSetOpps => setOppsTrace d (cmd.drop 13)
  | .p2pSetPowerSave => Trace.context true (Payload.cleared p2pSigmaParams)
  | .p2pSetSleep => Trace.context (d.isHwaddr (cmd.drop 14)) (Payload.cleared p2pSigmaParams)
  | .p2pSetSleepAll =>
      Trace.context (d.isHwaddr (ascii "ff:ff:ff:ff:ff:ff " ++ [34, 34]))
        (Payload.cleared p2pSigmaParams)
  | .p2pSetNoa => splitTrace cmd 28
  | .p2pSetPs => splitTrace cmd p2pSigmaParams
  | .setSuspendMode => Trace.sends true suspendPayload
  | .mtkRxPacketFilter =>
      { Trace.sends (cmd.length = 71) rxFilterPayload with
        touches :=
          if cmd.length = 71 then
            [21, 29, 38, 46, 55, 63].map fun offset => ⟨cmd.length + 1, offset, 8⟩
          else [] }
  | .transparent => Trace.sends true (transparentPayload cmd)

/-- The commands that are not handled, which the driver gets as private commands too. -/
def unhandled : Branch → Bool
  | .miracast | .setSuspendMode | .transparent => true
  | _ => false

/-- `cmd_len` of a private command. -/
def privateLength : Int :=
  if intOf cmd.length ≥ 512 then 511 else intOf cmd.length

/-- How much is copied into the 512 bytes of a private command, a `size_t`. -/
def privateCount : Nat := ((privateLength cmd + 1) % b.sizeTRange).toNat

/-- The private command, of which everything has been cleared before. -/
def privateTrace (t : Trace) : Trace :=
  { t with
    payloads := t.payloads ++ [⟨512, (privateLength cmd + 1).toNat, [(0, 512)]⟩]
    touches := t.touches ++
      [⟨512, 0, privateCount b cmd⟩, ⟨cmd.length + 1, 0, privateCount b cmd⟩] }

/-- There is a driver with a context, which is a supplicant with a configuration in all modes but
that of an access point. -/
def Interface.Ready : Prop :=
  d.drv = true ∧ d.ctx = true ∧ (d.nlmode ≠ nl80211IftypeAp → d.conf = true)

instance : Decidable d.Ready := inferInstanceAs (Decidable (_ ∧ _))

/-- `wpa_driver_nl80211_driver_cmd`. -/
def driverCmd (cmd : Command) : Trace :=
  if d.Ready then
    let branch := branchOf b cmd.text
    let t := branchTrace b d cmd.text branch
    if unhandled branch then
      (privateTrace b (privateText b cmd.text branch) t).replies d.bufLen
    else t
  else Trace.quiet

end Branches

end Connectivity.WpaDriver
