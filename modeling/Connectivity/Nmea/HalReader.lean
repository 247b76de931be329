import Connectivity.Nmea.Parser

set_option autoImplicit false

/- The NMEA reader of `gpsinf3337.c`, as far as it goes about satellites. What it keeps of the
position, and the sentences it hands on as text, do not depend on them. -/
namespace Connectivity.Nmea

/-- `SV_TYPE` of `gpsinf3337.c`. -/
inductive HalSvType
  | unknown | gps | glonass | bds | galileo
  deriving DecidableEq, Repr

namespace HalSvType

/-- The values of the enumeration. -/
def number : HalSvType → UInt8
  | .unknown => 0
  | .gps => 1
  | .glonass => 2
  | .bds => 3
  | .galileo => 4

/-- The number that the satellites of a GSV sentence are moved by. -/
def offset : HalSvType → Int
  | .bds => 200
  | .galileo => 400
  | .unknown | .gps | .glonass => 0

/-- The first two characters of the sentence's id. -/
def ofId (id : List UInt8) : HalSvType :=
  if textAt [66, 68] 0 id then .bds
  else if textAt [71, 80] 0 id then .gps
  else if textAt [71, 76] 0 id then .glonass
  else if textAt [71, 65] 0 id then .galileo
  else .unknown

end HalSvType

/-- An entry of `gnss_sv_list`. -/
structure HalGnssSv (F : Type) where
  svid : Int
  constellation : HalSvType
  cN0Dbhz : F
  elevation : F
  azimuth : F
  flags : UInt8

inductive HalSentenceKind
  | gga | gsa | rmc | gsv | accuracy | listed | pmtk | unknown
  deriving DecidableEq, Repr

/-- The sentences that are known and not read: BOD, BWC, GLL, HDT, ROO, RMA, RMB, RTE, TRF, STN,
VBW, VTG, WPL, XTE and ZDA. -/
def listedIds : List (List UInt8) :=
  [[66, 79, 68], [66, 87, 67], [71, 76, 76], [72, 68, 84], [82, 79, 79], [82, 77, 65],
    [82, 77, 66], [82, 84, 69], [84, 82, 70], [83, 84, 78], [86, 66, 87], [86, 84, 71],
    [87, 80, 76], [88, 84, 69], [90, 68, 65]]

/-- The comparisons of `nmea_reader_parse`, in its order. Only GPS, Beidou and GLONASS have a GSA
sentence. -/
def halKindOf (id : List UInt8) : HalSentenceKind :=
  if textAt [71, 71, 65] 2 id then .gga
  else if textAt [71, 80, 71, 83, 65] 0 id ∨ textAt [66, 68, 71, 83, 65] 0 id ∨
      textAt [71, 76, 71, 83, 65] 0 id then .gsa
  else if textAt [82, 77, 67] 2 id then .rmc
  else if textAt [71, 83, 86] 2 id then .gsv
  else if textAt [65, 67, 67, 85, 82, 65, 67, 89] 2 id then .accuracy
  else if listedIds.any fun text => textAt ([71, 80] ++ text) 0 id then .listed
  else if textAt [80, 77, 84, 75] 0 id then .pmtk
  else .unknown

/-- `MAX_NMEA_TOKENS` of `gpsinf3337.c`. -/
def halMaxTokens : Nat := 24

/-- `nmea_tokenizer_init` of `gpsinf3337.c`. -/
def halTokenize (line : List UInt8) : List (List UInt8) :=
  (fields [] (dropChecksum (dropLineEnd (dropDollar line)))).take halMaxTokens

/-- The numbers that the first check of `nmea_reader_update_sv_status` ignores. -/
def halIgnores (gpsMaxSvs : Nat) (prn : Int) : Prop :=
  prn ≤ 0 ∨ (prn < 65 ∧ (gpsMaxSvs : Int) < prn) ∨ (96 < prn ∧ prn < 200) ∨ 232 < prn

instance (gpsMaxSvs : Nat) (prn : Int) : Decidable (halIgnores gpsMaxSvs prn) :=
  inferInstanceAs (Decidable (_ ∨ _))

/-- The satellite and the constellation that a number stands for. -/
def halSvOf (prn : Int) : Option (Int × HalSvType) :=
  if 0 < prn ∧ prn < 32 then some (prn, .gps)
  else if 65 ≤ prn ∧ prn ≤ 96 then some (prn - 64, .glonass)
  else if 201 ≤ prn ∧ prn ≤ 237 then some (prn - 200, .bds)
  else if 401 ≤ prn ∧ prn ≤ 436 then some (prn - 400, .galileo)
  else none

/-- The part of the `NmeaReader` that satellites are kept in, `sv_used_in_fix` and the lists that
`gnss_sv_status_cb` has been called with. -/
structure HalReader (F : Type) where
  pos : Nat
  overflow : Bool
  input : List UInt8
  fixMode : Int
  svCount : Int
  numSvs : Int
  svList : Int → HalGnssSv F
  svUsedInFix : Int → Int
  reports : List (List (HalGnssSv F))

namespace HalReader

variable {F : Type} (platform : Platform F) (gnssMaxSvs : Nat)

/-- The values of `nmea_reader_init`, and `sv_used_in_fix` as it is at the start. -/
def init : HalReader F where
  pos := 0
  overflow := false
  input := List.replicate (nmeaMaxSize + 1) 0
  fixMode := 0
  svCount := 0
  numSvs := 0
  svList _ :=
    let zero := platform.ofInt 0
    ⟨0, .unknown, zero, zero, zero, 0⟩
  svUsedInFix _ := 0
  reports := []

/-- `LOC_FIXED`. -/
def locFixed (r : HalReader F) : Bool := r.fixMode = 2 ∨ r.fixMode = 3

/-- The loop of a GSA sentence. QZSS satellites do not count as used, and any other number that
no satellite has ends it. -/
def useInFix (svType : HalSvType) : List (List UInt8) → (Int → Int) → (Int → Int)
  | [], used => used
  | token :: rest, used =>
      if token = [] then used
      else
        let sateId := int32 (str2int token + if svType = .bds then 200 else 0)
        if 1 ≤ sateId ∧ sateId ≤ 32 ∨ 65 ≤ sateId ∧ sateId ≤ 96 ∨
            201 ≤ sateId ∧ sateId ≤ 232 then
          useInFix svType rest fun other => if other = sateId then 1 else used other
        else if 193 ≤ sateId ∧ sateId ≤ 197 then
          useInFix svType rest fun other => if other = sateId then 0 else used other
        else used

def gsa (svType : HalSvType) (tokens : List (List UInt8)) (r : HalReader F) : HalReader F :=
  let fixed := { r with fixMode := str2int (getToken tokens 2) }
  if fixed.locFixed then
    let satellites := (List.range 12).map fun idx => getToken tokens (idx + 3)
    { fixed with svUsedInFix := useInFix svType satellites r.svUsedInFix }
  else fixed

def svIndex (r : HalReader F) : Int := int32 (r.svCount + r.numSvs)

/-- `nmea_reader_update_sv_status`. -/
def updateSvStatus (id : Int) (elevation azimuth snr : List UInt8) (r : HalReader F) :
    HalReader F :=
  if halIgnores platform.gpsMaxSvs id ∨ (gnssMaxSvs : Int) ≤ r.svCount then r
  else if (gnssMaxSvs : Int) ≤ r.svIndex then r
  else match halSvOf id with
    | none => r
    | some (svid, constellation) =>
        let flags := (r.svList r.svIndex).flags
        let entry : HalGnssSv F :=
          { svid := svid
            constellation := constellation
            cN0Dbhz := platform.str2float snr
            elevation := platform.ofInt (str2int elevation)
            azimuth := platform.ofInt (str2int azimuth)
            flags := if r.svUsedInFix id = 1 then flags ||| 0x04 else flags &&& 0xFB }
        { r with
          svList := fun index => if index = r.svIndex then entry else r.svList index
          svCount := int32 (r.svCount + 1) }

/-- The number in a GSV sentence of the satellite at a place of it. -/
def svId (svType : HalSvType) (tokens : List (List UInt8)) (idx : Nat) : Int :=
  int32 (str2int (getToken tokens (4 * (idx + 1))) + svType.offset)

/-- One turn of the loop of a GSV sentence. -/
def gsvTurn (svType : HalSvType) (tokens : List (List UInt8)) (r : HalReader F) (idx : Nat) :
    HalReader F :=
  let token := getToken tokens
  updateSvStatus platform gnssMaxSvs (svId svType tokens idx) (token (4 * (idx + 1) + 1))
    (token (4 * (idx + 1) + 2)) (token (4 * (idx + 1) + 3)) r

/-- A new set of GSV sentences starts with its first. -/
def gsvStart (tokens : List (List UInt8)) (r : HalReader F) : HalReader F :=
  if gsvSeq tokens = 1 then { r with svCount := 0 } else r

def cleared (r : HalReader F) : HalReader F := { r with svCount := 0, numSvs := 0 }

/-- The last sentence of a set adds its satellites to the others. -/
def gsvEnd (tokens : List (List UInt8)) (r : HalReader F) : HalReader F :=
  if gsvSeq tokens = gsvNum tokens then
    if r.svCount ≤ gsvCnt tokens then { r with numSvs := int32 (r.numSvs + r.svCount) }
    else r.cleared
  else r

def gsvTurns (svType : HalSvType) (tokens : List (List UInt8)) (loops : Nat) (r : HalReader F) :
    HalReader F :=
  (List.range loops).foldl (gsvTurn platform gnssMaxSvs svType tokens) r

def gsv (svType : HalSvType) (tokens : List (List UInt8)) (r : HalReader F) : HalReader F :=
  gsvEnd tokens
    (gsvTurns platform gnssMaxSvs svType tokens (gsvLoops tokens) (gsvStart tokens r))

/-- What a sentence does, `none` where `nmea_reader_parse` returns before its reports: the
sentence has too few fields or is not known. -/
def sentence (tokens : List (List UInt8)) (r : HalReader F) : Option (HalReader F) :=
  let id := getToken tokens 0
  let svType := HalSvType.ofId id
  match halKindOf id with
  | .gga => if tokens.length < 14 then none else some r
  | .gsa => if tokens.length < 18 then none else some (r.gsa svType tokens)
  | .rmc => if tokens.length < 13 then none else some r
  | .gsv => if tokens.length < 4 then none else some (r.gsv platform gnssMaxSvs svType tokens)
  | .accuracy | .listed => some r
  | .pmtk | .unknown => none

/-- The satellites that are counted go out at the end of what was read. -/
def reportSvs (endTag : Bool) (r : HalReader F) : HalReader F :=
  if r.numSvs ≠ 0 ∧ endTag then
    { r.cleared with
      reports := r.reports ++ [(List.range r.numSvs.toNat).map fun index : Nat => r.svList index]
      svUsedInFix := fun _ => 0 }
  else r

/-- The first `pos` bytes of the line buffer. -/
def line (r : HalReader F) : List UInt8 := r.input.take r.pos

/-- `nmea_reader_parse`. -/
def parse (endTag : Bool) (r : HalReader F) : HalReader F :=
  let tokens := halTokenize r.line
  if (getToken tokens 0).length < 5 then r
  else match r.sentence platform gnssMaxSvs tokens with
    | none => r
    | some next => next.reportSvs endTag

def store (c : UInt8) (r : HalReader F) : HalReader F :=
  { r with input := Bytes.write r.input r.pos [c], pos := r.pos + 1 }

/-- `nmea_reader_addc`. A newline is taken back if it is not the last byte that was read. -/
def addc (endTag : Bool) (c : UInt8) (r : HalReader F) : HalReader F :=
  if r.overflow then { r with overflow := c ≠ newline }
  else if nmeaMaxSize ≤ r.pos then { r with overflow := true, pos := 0 }
  else if c = newline then
    if endTag ∧ 9 ≤ (r.store c).pos then
      { (r.store c).parse platform gnssMaxSvs endTag with pos := 0 }
    else { r.store c with pos := r.pos }
  else r.store c

/-- What `gps_read_nmea_from_uart_thread` does with the bytes that one `read` returns. -/
def process (bytes : List UInt8) (r : HalReader F) : HalReader F :=
  (Parser.tagged bytes).foldl (fun r c => r.addc platform gnssMaxSvs c.2 c.1)
    { r with input := List.replicate (nmeaMaxSize + 1) 0 }

/-- Between two epochs no sentence has begun and no satellite is counted. -/
structure Idle (r : HalReader F) : Prop where
  pos : r.pos = 0
  overflow : r.overflow = false
  numSvs : r.numSvs = 0

theorem init_idle (platform : Platform F) : Idle (init platform) := ⟨rfl, rfl, rfl⟩

end HalReader

end Connectivity.Nmea
