import Connectivity.Nmea.Tokens

set_option autoImplicit false

/- The parts of the `NmeaReader` that the sentences change, and the static `nmea_cash`. -/
namespace Connectivity.Nmea

/-- `SV_TYPE`. -/
inductive SvType
  | unknown | gps | sbas | glonass | qzss | bds | galileo
  deriving DecidableEq, Repr

/-- The number that the satellites of a constellation are moved by. -/
def SvType.offset : SvType → Int
  | .bds => 200
  | .galileo => 400
  | .unknown | .gps | .sbas | .glonass | .qzss => 0

/-- `gps_location`; the five flags are the bits 1, 2, 4, 8 and 16. -/
structure GpsLocation (F : Type) where
  flags : Nat
  lat : F
  lng : F
  alt : F
  speed : F
  bearing : F
  accuracy : F
  timestamp : Int
  deriving DecidableEq

def hasLatLong : Nat := 0x0001

def hasAlt : Nat := 0x0002

def hasSpeed : Nat := 0x0004

def hasBearing : Nat := 0x0008

def hasAccuracy : Nat := 0x0010

/-- What the reader keeps of the position and the time. -/
structure Position (F : Type) where
  utcYear : Int
  utcMon : Int
  utcDay : Int
  utcDiff : Int
  fix : GpsLocation F
  fixMode : Int

namespace Position

variable {F : Type} (platform : Platform F)

/-- The values of `nmea_reader_init`. -/
def init : Position F where
  utcYear := -1
  utcMon := -1
  utcDay := -1
  utcDiff := platform.utcDiff
  fix :=
    let zero := platform.ofInt 0
    ⟨0, zero, zero, zero, zero, zero, zero, 0⟩
  fixMode := 0

/-- `LOC_FIXED`. -/
def locFixed (p : Position F) : Bool := p.fixMode = 2 ∨ p.fixMode = 3

def updateAltitude (altitude : List UInt8) (p : Position F) : Position F :=
  if altitude = [] then p
  else { p with fix := { p.fix with
    flags := p.fix.flags ||| hasAlt, alt := platform.str2float altitude } }

def updateTime (token : List UInt8) (p : Position F) : Position F :=
  if token.length < 6 then p
  else
    let (year, mon, day) :=
      if p.utcYear < 0 then platform.today else (p.utcYear, p.utcMon, p.utcDay)
    let hour := str2int (token.take 2)
    let minute := str2int ((token.drop 2).take 2)
    let seconds := platform.toInt (platform.str2float (token.drop 4))
    let fixTime := platform.mktime year mon day hour minute seconds - platform.utcDiff
    { p with
      utcYear := year, utcMon := mon, utcDay := day, utcDiff := platform.utcDiff
      fix := { p.fix with timestamp := fixTime * 1000 } }

def updateDate (date time : List UInt8) (p : Position F) : Position F :=
  if date.length ≠ 6 then p
  else
    let day := str2int (date.take 2)
    let mon := str2int ((date.drop 2).take 2)
    let year := str2int ((date.drop 4).take 2) + 2000
    -- `(day|mon|year) < 0`
    if day < 0 ∨ mon < 0 ∨ year < 0 then p
    else updateTime platform time { p with utcYear := year, utcMon := mon, utcDay := day }

def updateLatlong (latitude latitudeHemi longitude longitudeHemi : List UInt8)
    (p : Position F) : Position F :=
  if latitude.length < 6 then p
  else
    let lat := platform.convertFromHhmm latitude
    let lat := if latitudeHemi.head? = some 83 then platform.neg lat else lat
    if longitude.length < 6 then p
    else
      let lon := platform.convertFromHhmm longitude
      let lon := if longitudeHemi.head? = some 87 then platform.neg lon else lon
      { p with fix := { p.fix with flags := p.fix.flags ||| hasLatLong, lat := lat, lng := lon } }

def updateBearing (bearing : List UInt8) (p : Position F) : Position F :=
  if bearing = [] then p
  else { p with fix := { p.fix with
    flags := p.fix.flags ||| hasBearing, bearing := platform.str2float bearing } }

def updateSpeed (speed : List UInt8) (p : Position F) : Position F :=
  if speed = [] then p
  else { p with fix := { p.fix with
    flags := p.fix.flags ||| hasSpeed
    speed := platform.div (platform.str2float speed) platform.knot } }

def updateAccuracy (accuracy : List UInt8) (p : Position F) : Position F :=
  if accuracy = [] then p
  else { p with fix := { p.fix with
    flags := p.fix.flags ||| hasAccuracy, accuracy := platform.str2float accuracy } }

def gga (tokens : List (List UInt8)) (p : Position F) : Position F :=
  let token := getToken tokens
  updateAltitude platform (token 9) (updateLatlong platform (token 2) (token 3) (token 4) (token 5)
    (updateTime platform (token 1) p))

def rmc (tokens : List (List UInt8)) (p : Position F) : Position F :=
  let token := getToken tokens
  if (token 2).head? = some 65 then
    updateSpeed platform (token 7) (updateBearing platform (token 8)
      (updateLatlong platform (token 3) (token 4) (token 5) (token 6)
        (updateDate platform (token 9) (token 1) p)))
  else p

def accuracy (tokens : List (List UInt8)) (p : Position F) : Position F :=
  if p.locFixed then updateAccuracy platform (getToken tokens 1) p else p

end Position

structure NmeaCash where
  prn : Int
  hasEphemerisData : Bool
  hasAlmanacData : Bool
  usedInFix : Bool
  deriving DecidableEq

/-- The static `nmea_cash`, and the indices that sentences have written since the last
`nmea_reader_init`. -/
structure CashTable where
  nmeaCash : Int → NmeaCash
  stores : List Int

namespace CashTable

def clear : Int → NmeaCash := fun _ => ⟨0, false, false, false⟩

def store (index : Int) (change : NmeaCash → NmeaCash) (table : CashTable) : CashTable where
  nmeaCash other :=
    if other = index then change (table.nmeaCash index) else table.nmeaCash other
  stores := index :: table.stores

def maxCash : Int := 450

def useInFix (table : CashTable) (sateId : Int) : CashTable :=
  if 0 ≤ sateId ∧ sateId < maxCash then
    table.store sateId fun cash => { cash with prn := sateId, usedInFix := true }
  else table

/-- The loop of a GSA sentence, up to the first token that is empty or not there. -/
def gsa (svType : SvType) (tokens : List (List UInt8)) (table : CashTable) : CashTable :=
  let satellites := ((List.range 12).map fun idx => getToken tokens (idx + 3)).takeWhile (· ≠ [])
  (satellites.map fun token => int32 (str2int token + svType.offset)).foldl useInFix table

/-- The loops of the EPH and ALM sentences, that differ in the flag they set. -/
def setFlags (change : NmeaCash → NmeaCash) (svs : Nat) (tokens : List (List UInt8))
    (table : CashTable) : CashTable :=
  (List.range svs).foldl (fun table idx =>
    if 0 < str2int (getToken tokens (idx + 2)) then table.store (idx + 1) change else table) table

def eph : Nat → List (List UInt8) → CashTable → CashTable :=
  setFlags fun cash => { cash with hasEphemerisData := true }

def alm : Nat → List (List UInt8) → CashTable → CashTable :=
  setFlags fun cash => { cash with hasAlmanacData := true }

end CashTable

/-- `gnss_sv`. -/
structure GnssSv (F : Type) where
  svid : Int
  constellation : SvType
  cN0Dbhz : F
  elevation : F
  azimuth : F
  flags : UInt8
  deriving DecidableEq

/-- An index that a GSV sentence writes `prn`, `snr` or `sv_list` at. -/
inductive SvStore
  | prn (index : Int) | snr (index : Int) | svList (index : Int)
  deriving DecidableEq, Repr

/-- What the reader keeps of the satellites. The values that reach `prn` and `snr` are
for the AT commands alone; `added` says whether what `svCount` counts is in `numSvs`
already. Neither `stores` nor `added` is read. -/
structure SvReader (F : Type) where
  svCount : Int
  numSvs : Int
  svList : Int → GnssSv F
  stores : List SvStore
  added : Bool

/-- `MTK_MNLD_GNSS_MAX_SVS`. -/
def maxSvs : Int := 64

/-- `NMEA_MAX_SV_INFO`. -/
def nmeaMaxSvInfo : Int := 4

/-- The satellite and the constellation that a number stands for. -/
def svOf (prn : Int) : Option (Int × SvType) :=
  if 0 < prn ∧ prn ≤ 32 then some (prn, .gps)
  else if 65 ≤ prn ∧ prn ≤ 96 then some (prn - 64, .glonass)
  else if 201 ≤ prn ∧ prn ≤ 237 then some (prn - 200, .bds)
  else if 401 ≤ prn ∧ prn ≤ 436 then some (prn - 400, .galileo)
  else if 193 ≤ prn ∧ prn ≤ 197 then some (prn, .qzss)
  else if 33 ≤ prn ∧ prn ≤ 64 then some (prn + 87, .sbas)
  else none

/-- The flags of an entry, from those it had. -/
def svFlags (used almanac ephemeris : Bool) (flags : UInt8) : UInt8 :=
  let flags := if used then flags ||| 0x04 else flags &&& ~~~0x04
  let flags := if almanac then flags ||| 0x02 else flags &&& ~~~0x02
  if ephemeris then flags ||| 0x01 else flags &&& ~~~0x01

def NmeaCash.svFlags (cash : NmeaCash) (flags : UInt8) : UInt8 :=
  Nmea.svFlags cash.usedInFix cash.hasAlmanacData cash.hasEphemerisData flags

namespace SvReader

variable {F : Type} (platform : Platform F) (nmeaCash : Int → NmeaCash)

def init : SvReader F where
  svCount := 0
  numSvs := 0
  svList _ :=
    let zero := platform.ofInt 0
    ⟨0, .unknown, zero, zero, zero, 0⟩
  stores := []
  added := false

def svIndex (r : SvReader F) : Int := int32 (r.svCount + r.numSvs)

/-- `nmea_reader_update_sv_status`. -/
def updateSvStatus (id : Int) (elevation azimuth snr : List UInt8) (r : SvReader F) :
    SvReader F :=
  if maxSvs ≤ r.svIndex then r
  else match svOf id with
    | none => r
    | some (svid, constellation) =>
        let entry : GnssSv F :=
          { svid := svid
            constellation := constellation
            cN0Dbhz := platform.str2float snr
            elevation := platform.ofInt (str2int elevation)
            azimuth := platform.ofInt (str2int azimuth)
            flags := (nmeaCash id).svFlags (r.svList r.svIndex).flags }
        { r with
          svList := fun index => if index = r.svIndex then entry else r.svList index
          stores := .svList r.svIndex :: r.stores
          svCount := int32 (r.svCount + 1) }

end SvReader

/-- The number in a GSV sentence of the satellite at a place of it. -/
def gsvId (svType : SvType) (tokens : List (List UInt8)) (idx : Nat) : Int :=
  int32 (str2int (getToken tokens (4 * (idx + 1))) + svType.offset)

def gsvNum (tokens : List (List UInt8)) : Int := str2int (getToken tokens 1)

def gsvSeq (tokens : List (List UInt8)) : Int := str2int (getToken tokens 2)

def gsvCnt (tokens : List (List UInt8)) : Int := str2int (getToken tokens 3)

/-- How often the loop of a GSV sentence runs. -/
def gsvLoops (tokens : List (List UInt8)) : Nat :=
  let svBase := int32 (int32 (gsvSeq tokens - 1) * nmeaMaxSvInfo)
  (min (int32 (gsvCnt tokens - svBase)) nmeaMaxSvInfo).toNat

namespace SvReader

variable {F : Type} (platform : Platform F) (nmeaCash : Int → NmeaCash)

/-- One turn of the loop of a GSV sentence. -/
def gsvTurn (svType : SvType) (tokens : List (List UInt8)) (r : SvReader F) (idx : Nat) :
    SvReader F :=
  let token := getToken tokens
  updateSvStatus platform nmeaCash (gsvId svType tokens idx) (token (4 * (idx + 1) + 1))
    (token (4 * (idx + 1) + 2)) (token (4 * (idx + 1) + 3))
    { r with stores := .snr r.svCount :: .prn r.svCount :: r.stores }

def cleared (r : SvReader F) : SvReader F := { r with svCount := 0, numSvs := 0, added := false }

/-- A new set of GSV sentences starts with its first. -/
def gsvStart (tokens : List (List UInt8)) (r : SvReader F) : SvReader F :=
  if gsvSeq tokens = 1 then { r with svCount := 0, added := false } else r

/-- The last sentence of a set adds its satellites to the others. -/
def gsvEnd (tokens : List (List UInt8)) (r : SvReader F) : SvReader F :=
  if gsvSeq tokens = gsvNum tokens then
    if r.svCount ≤ gsvCnt tokens then
      { r with numSvs := int32 (r.numSvs + r.svCount), added := 0 < r.svCount }
    else r.cleared
  else r

def gsvTurns (svType : SvType) (tokens : List (List UInt8)) (loops : Nat) (r : SvReader F) :
    SvReader F :=
  (List.range loops).foldl (gsvTurn platform nmeaCash svType tokens) r

def gsv (svType : SvType) (tokens : List (List UInt8)) (r : SvReader F) : SvReader F :=
  gsvEnd tokens
    (gsvTurns platform nmeaCash svType tokens (gsvLoops tokens) (gsvStart tokens r))

end SvReader

end Connectivity.Nmea
