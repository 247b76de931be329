import Connectivity.Fm.Core

set_option autoImplicit false

/- The scan of the whole band below the FM service: one pass over the channels, which keeps the
strongest of those that follow each other, and the table it fills. -/
namespace Connectivity.Fm

/-- `CQI_CH_NUM_MAX`, and the size of `mScanTable`. -/
def cqiChNumMax : Nat := 255

def fmScanMaxChSize : Nat := 200

/-- `RSSI_TH` and `FM_NOISE_FLOOR_OFFSET`. -/
def rssiTh : Int := -296

def fmNoiseFloorOffset : Int := 10

/-- `FM_SCAN_SORT_UP` and `FM_SCAN_SORT_DOWN`; by any other value nothing is sorted. -/
inductive ScanSort
  | non | up | down
deriving DecidableEq, Repr

/-- The part of `CUST_cfg_ds` that a scan reads. -/
structure ScanCfg where
  band : Band
  seekSpace : Int
  scanSort : ScanSort
deriving DecidableEq, Repr

/-- What the scan meets at a channel: whether it has been stopped by then, what the soft mute tune
returns, and what it and the two desense checks say. -/
structure ScanAnswer where
  stopped : Bool
  ret : Int
  valid : Bool
  rssi : Int
  desense : Bool
  severe : Bool
deriving DecidableEq, Repr

/-- The answers by frequency. -/
abbrev ScanDriver := Nat → ScanAnswer

/-- `fm_cqi`. -/
structure Cqi where
  ch : Nat
  rssi : Int
  reserve : Bool
deriving DecidableEq, Repr

/-- The three channels that are looked at for the noise floor, with the sum and the number of those
that were it. -/
structure NoiseFloor where
  f : Bool × Bool × Bool
  fRssi : Int × Int × Int
  pacc : Int
  nacc : Int
deriving Repr

namespace NoiseFloor

variable (floor : NoiseFloor)

def clear : NoiseFloor := { floor with f := (false, false, false) }

/-- `FMR_NoiseFloorDetect`, and what is made of a third channel. -/
def detect (rssi : Int) : NoiseFloor :=
  match floor.f with
  | (false, _, _) =>
      { floor with
        f := (true, floor.f.2.1, floor.f.2.2)
        fRssi := (rssi, floor.fRssi.2.1, floor.fRssi.2.2) }
  | (true, false, _) =>
      { floor with
        f := (true, true, floor.f.2.2)
        fRssi := (floor.fRssi.1, rssi, floor.fRssi.2.2) }
  | (true, true, _) =>
      { f := (true, true, false)
        fRssi := (floor.fRssi.2.1, rssi, 0)
        pacc := floor.pacc + floor.fRssi.2.1
        nacc := floor.nacc + 1 }

/-- The noise floor of a block. -/
def level : Int :=
  if 0 < floor.nacc then floor.pacc.tdiv floor.nacc else rssiTh - fmNoiseFloorOffset

end NoiseFloor

/-- `SortData`, the newest record first, with the other locals of `FMR_scan_Channels`, and each
channel that has made way for its neighbour. -/
structure ScanState where
  data : List Cqi
  lastExist : Bool
  floor : NoiseFloor
  nfIdx : Nat
  displaced : List (Nat × Nat)
deriving Repr

namespace ScanState

variable (s : ScanState)

def start : ScanState :=
  { data := []
    lastExist := false
    floor := ⟨(false, false, false), (0, 0, 0), 0, 0⟩
    nfIdx := 0
    displaced := [] }

/-- A record below the noise floor is not reported. -/
def mark (level : Int) (record : Cqi) : Cqi :=
  if record.rssi < level + fmNoiseFloorOffset then { record with reserve := false } else record

/-- The end of a block: the records since the last one are compared with its noise floor. -/
def blockEnd (nfSpace i : Nat) : ScanState :=
  if i % nfSpace = 0 ∧ i ≠ 0 then
    let fresh := s.data.length - s.nfIdx
    { s with
      data := (s.data.take fresh).map (mark s.floor.level) ++ s.data.drop fresh
      floor := { s.floor with pacc := 0, nacc := 0 }
      nfIdx := max s.nfIdx s.data.length }
  else s

/-- What is made of a channel. -/
def step (nfSpace i freq : Nat) (answer : ScanAnswer) : ScanState :=
  if answer.ret ≠ 0 then { s with lastExist := false }
  else if answer.valid then
    let s := { s with floor := s.floor.clear }
    if answer.desense then { s with lastExist := false }
    else
      match s.lastExist, s.data with
      | true, last :: before =>
          if last.rssi < answer.rssi then
            if answer.severe then { s with lastExist := false }
            else
              blockEnd {
                s with
                data := ⟨freq, answer.rssi, true⟩ :: before
                displaced := (last.ch, freq) :: s.displaced } nfSpace i
          else { s with lastExist := false, displaced := (freq, last.ch) :: s.displaced }
      | _, _ =>
          if answer.severe then { s with lastExist := false }
          else
            blockEnd {
              s with
              data := ⟨freq, answer.rssi, true⟩ :: s.data
              lastExist := true } nfSpace i
  else
    blockEnd {
      s with
      floor := if answer.desense then s.floor.clear else s.floor.detect answer.rssi
      lastExist := false } nfSpace i

end ScanState

/-- What `FMR_scan` is called with: the start, the number of the channels and their space. -/
structure ScanRange where
  startFreq : Nat
  channelNo : Nat
  space : Nat
  nfSpace : Nat
deriving DecidableEq, Repr

namespace ScanRange

variable (range : ScanRange)

def freq (i : Nat) : Nat := (range.startFreq + range.space * i) % 65536

/-- The pass from a channel on; `none` is a stop. -/
def pass (driver : ScanDriver) : Nat → Nat → ScanState → Option ScanState
  | 0, _, s => some s
  | left + 1, i, s =>
      let answer := driver (range.freq i)
      if answer.stopped then none
      else pass driver left (i + 1) (s.step range.nfSpace i (range.freq i) answer)

end ScanRange

namespace ScanSort

/-- Whether a record changes places with the one before it. -/
def swaps (sort : ScanSort) (before record : Cqi) : Bool :=
  match sort with
  | .non => false
  | .up => decide (record.rssi < before.rssi)
  | .down => decide (before.rssi < record.rssi)

/-- The inner loop, with the records in front of this one last first. -/
def insert (sort : ScanSort) (record : Cqi) : List Cqi → List Cqi
  | [] => [record]
  | before :: others =>
      if sort.swaps before record then before :: insert sort record others
      else record :: before :: others

/-- The insertion sort. -/
def sorted (sort : ScanSort) (data : List Cqi) : List Cqi :=
  (data.foldl (fun done record => sort.insert record done) []).reverse

end ScanSort

/-- What a scan stores: the entries of the table, and `max_cnt` if it does; how many channels it
has recorded, and which of them have made way for which. -/
structure Scanned where
  ret : Int
  table : List Nat
  maxCnt : Option Nat
  recorded : Nat
  displaced : List (Nat × Nat)
deriving DecidableEq, Repr

namespace ScanCfg

variable (cfg : ScanCfg)

def space : Nat := if cfg.seekSpace = 5 then 5 else if cfg.seekSpace = 2 then 20 else 10

/-- The arguments that `FMR_scan` computes. -/
def range : ScanRange :=
  match cfg.band with
  | .japan => ⟨7600, (9600 - 7600) / cfg.space + 1, cfg.space, 400 / cfg.space⟩
  | .japanw => ⟨7600, (10800 - 7600) / cfg.space + 1, cfg.space, 640 / cfg.space⟩
  | _ => ⟨8750, (10800 - 8750) / cfg.space + 1, cfg.space, 410 / cfg.space⟩

/-- A channel in the unit of the table: of 100 kHz for a space of 100 kHz, else of 10 kHz. -/
def unit (ch : Nat) : Nat := if cfg.space = 10 then ch / 10 else ch

/-- The records that are reported, in their order. -/
def report (data : List Cqi) : List Cqi :=
  (cfg.scanSort.sorted data.reverse).filter fun record => record.reserve

/-- `FMR_scan_Channels` as `FMR_scan` calls it. -/
def scan (driver : ScanDriver) : Scanned :=
  match cfg.range.pass driver cfg.range.channelNo 0 .start with
  | none => ⟨-1, [], none, 0, []⟩
  | some s =>
      if s.data = [] then ⟨-1, [], some 0, 0, s.displaced⟩
      else
        let reported := cfg.report s.data
        { ret := 0
          table := reported.map fun record => cfg.unit record.ch
          maxCnt := some reported.length
          recorded := s.data.length
          displaced := s.displaced }

end ScanCfg

end Connectivity.Fm
