import Connectivity.Nmea.Reader
import Connectivity.Bytes.Buffer
import Connectivity.Transition.Run

set_option autoImplicit false

/- `mtk_mnl_nmea_parser_process`. What the AT commands' test functions do with the reader
is left out: they only read it. -/
namespace Connectivity.Nmea

inductive SentenceKind
  | gga | gsa | rmc | eph | alm | gsv | accuracy | pmtk817 | unknown
  deriving DecidableEq, Repr

/-- The first two characters of the sentence's id. -/
def svTypeOf (id : List UInt8) : SvType :=
  if textAt [66, 68] 0 id then .bds
  else if textAt [71, 80] 0 id then .gps
  else if textAt [71, 76] 0 id then .glonass
  else if textAt [71, 65] 0 id then .galileo
  else .gps

/-- The comparisons of `nmea_reader_parse`, in its order. -/
def kindOf (id : List UInt8) : SentenceKind :=
  if textAt [71, 71, 65] 2 id then .gga
  else if textAt [71, 83, 65] 2 id then .gsa
  else if textAt [82, 77, 67] 2 id then .rmc
  else if textAt [69, 80, 72] 5 id then .eph
  else if textAt [65, 76, 77] 5 id then .alm
  else if textAt [71, 83, 86] 2 id then .gsv
  else if textAt [65, 67, 67, 85, 82, 65, 67, 89] 2 id then .accuracy
  else if textAt [80, 77, 84, 75, 56, 49, 55] 0 id then .pmtk817
  else .unknown

/-- What leaves the parser: the three `mnl2hal` calls, that of `mnl2hal_nmea` with the
line buffer and a length, and `mnld_gps_update_location`. -/
inductive Report (F : Type)
  | location (fix : GpsLocation F)
  | updateLocation (fix : GpsLocation F)
  | nmea (timestamp : Int) (buffer : List UInt8) (length : Nat)
  | gpsSv (numSvs : Int) (svList : List (GnssSv F))
  deriving DecidableEq

/-- The `NmeaReader` and the static `nmea_cash`, with what has been reported and the lines
that `nmea_reader_parse` was called on. -/
structure Parser (F : Type) where
  pos : Nat
  overflow : Bool
  input : List UInt8
  position : Position F
  sv : SvReader F
  cash : CashTable
  reports : List (Report F)
  parsed : List (List UInt8)

/-- `NMEA_MAX_SIZE`. -/
def nmeaMaxSize : Nat := 255

namespace Parser

variable {F : Type} (platform : Platform F)

/-- `nmea_reader_init`, which leaves `nmea_cash` as it is. -/
def init (nmeaCash : Int → NmeaCash) : Parser F where
  pos := 0
  overflow := false
  input := List.replicate (nmeaMaxSize + 1) 0
  position := .init platform
  sv := .init platform
  cash := ⟨nmeaCash, []⟩
  reports := []
  parsed := []

/-- The sentences that say something of the position. -/
def positionAfter (kind : SentenceKind) (tokens : List (List UInt8)) (p : Position F) :
    Position F :=
  match kind with
  | .gga => p.gga platform tokens
  | .gsa => { p with fixMode := str2int (getToken tokens 2) }
  | .rmc => p.rmc platform tokens
  | .accuracy => p.accuracy platform tokens
  | .eph | .alm | .gsv | .pmtk817 | .unknown => p

/-- Those that write `nmea_cash`, a GSA sentence only when it says that there is a fix. -/
def cashAfter (kind : SentenceKind) (svType : SvType) (tokens : List (List UInt8)) (fixed : Bool)
    (table : CashTable) : CashTable :=
  match kind with
  | .gsa => if fixed then table.gsa svType tokens else table
  | .eph => table.eph platform.gpsMaxSvs tokens
  | .alm => table.alm platform.gpsMaxSvs tokens
  | .gga | .rmc | .gsv | .accuracy | .pmtk817 | .unknown => table

/-- Only a GSV sentence changes what is kept of the satellites. -/
def svAfter (kind : SentenceKind) (svType : SvType) (tokens : List (List UInt8))
    (nmeaCash : Int → NmeaCash) (r : SvReader F) : SvReader F :=
  match kind with
  | .gsv => r.gsv platform nmeaCash svType tokens
  | .gga | .gsa | .rmc | .eph | .alm | .accuracy | .pmtk817 | .unknown => r

def sentence (tokens : List (List UInt8)) (s : Parser F) : Parser F :=
  let id := getToken tokens 0
  let position := positionAfter platform (kindOf id) tokens s.position
  { s with
    position := position
    cash := cashAfter platform (kindOf id) (svTypeOf id) tokens position.locFixed s.cash
    sv := svAfter platform (kindOf id) (svTypeOf id) tokens s.cash.nmeaCash s.sv }

/-- The location goes out once the last byte is there, if there is a fix and something new. -/
def reportLocation (endTag : Bool) (s : Parser F) : Parser F :=
  if s.position.locFixed ∧ s.position.fix.flags ≠ 0 ∧ endTag then
    { s with
      reports := s.reports ++ [.location s.position.fix, .updateLocation s.position.fix]
      position := { s.position with fix := { s.position.fix with flags := 0 } } }
  else s

/-- So do the satellites, and all that is kept of them is cleared. -/
def reportSvs (endTag : Bool) (s : Parser F) : Parser F :=
  if endTag then
    { s with
      reports := s.reports ++
        [.gpsSv s.sv.numSvs ((List.range maxSvs.toNat).map fun index => s.sv.svList index)]
      sv := s.sv.cleared
      cash := { s.cash with nmeaCash := CashTable.clear } }
  else s

/-- A sentence of which `nmea_reader_parse` gets past its first checks. -/
def wellFormed (line : List UInt8) : Bool :=
  9 ≤ line.length ∧ 5 ≤ (getToken (tokenize line) 0).length

/-- The first `pos` bytes of the line buffer. -/
def line (s : Parser F) : List UInt8 := s.input.take s.pos

def hand (s : Parser F) : Parser F := { s with parsed := s.parsed ++ [s.line] }

/-- `nmea_reader_parse`. -/
def parse (endTag : Bool) (s : Parser F) : Parser F :=
  if wellFormed s.line then
    reportSvs endTag (reportLocation endTag (s.hand.sentence platform (tokenize s.line)))
  else s.hand

def store (c : UInt8) (s : Parser F) : Parser F :=
  { s with input := Bytes.write s.input s.pos [c], pos := s.pos + 1 }

def endLine (s : Parser F) : Parser F :=
  { s with
    reports := s.reports ++ [.nmea s.position.fix.timestamp s.input s.pos]
    pos := 0
    input := List.replicate (nmeaMaxSize + 1) 0 }

/-- `nmea_reader_addc`. -/
def addc (endTag : Bool) (c : UInt8) (s : Parser F) : Parser F :=
  if s.overflow then { s with overflow := c ≠ newline }
  else if nmeaMaxSize ≤ s.pos then { s with overflow := true, pos := 0 }
  else if c = newline then ((s.store c).parse platform endTag).endLine
  else s.store c

/-- The sentence that a byte completes, if `nmea_reader_parse` gets past its first checks. -/
def completes (c : UInt8) (s : Parser F) : Option (List (List UInt8)) :=
  if s.overflow = false ∧ s.pos < nmeaMaxSize ∧ c = newline ∧ wellFormed (s.store c).line then
    some (tokenize (s.store c).line)
  else none

/-- The bytes of a buffer, each with what `gps_nmea_end_tag` is when it is added. -/
def tagged : List UInt8 → List (UInt8 × Bool)
  | [] => []
  | [last] => [(last, true)]
  | c :: next :: rest => (c, false) :: tagged (next :: rest)

def step (s : Parser F) (c : UInt8 × Bool) : Option (Parser F) := some (s.addc platform c.2 c.1)

/-- `mtk_mnl_nmea_parser_process`. -/
def process (nmeaCash : Int → NmeaCash) (buffer : List UInt8) : Parser F :=
  (tagged buffer).foldl (fun s c => s.addc platform c.2 c.1) (init platform nmeaCash)

/-- The `nmea_cash` that is left after some buffers, the last one first. It is clear at the
start; the time of day may be another at each of them. -/
def cashLeft : List (Platform F × List UInt8) → (Int → NmeaCash)
  | [] => CashTable.clear
  | (platform, buffer) :: earlier => (process platform (cashLeft earlier) buffer).cash.nmeaCash

variable {platform} {s : Parser F}

theorem exec_process (platform : Platform F) (nmeaCash : Int → NmeaCash) (buffer : List UInt8) :
    Transition.exec (step platform) (init platform nmeaCash) (tagged buffer) =
      some (process platform nmeaCash buffer) :=
  Transition.exec_total _ _ _

theorem tagged_bytes (buffer : List UInt8) : (tagged buffer).map Prod.fst = buffer := by
  induction buffer with
  | nil => rfl
  | cons c rest ih =>
      cases rest with
      | nil => rfl
      | cons next rest =>
          rw [tagged, List.map_cons, ih]

theorem untagged (content : List UInt8) : (content.map (·, false)).map Prod.fst = content := by
  rw [List.map_map]
  exact List.map_id content

theorem tagged_append (content : List UInt8) (last : UInt8) :
    tagged (content ++ [last]) = content.map (·, false) ++ [(last, true)] := by
  induction content with
  | nil => rfl
  | cons c rest ih =>
      rw [List.cons_append, List.map_cons, List.cons_append, ← ih]
      cases rest <;> rfl

theorem reportLocation_sv (endTag : Bool) (s : Parser F) : (s.reportLocation endTag).sv = s.sv := by
  unfold reportLocation
  split <;> rfl

theorem reportLocation_cash (endTag : Bool) (s : Parser F) :
    (s.reportLocation endTag).cash = s.cash := by
  unfold reportLocation
  split <;> rfl

theorem reportSvs_sv (endTag : Bool) (s : Parser F) :
    (s.reportSvs endTag).sv = if endTag then s.sv.cleared else s.sv := by
  cases endTag <;> rfl

theorem reportSvs_cash (endTag : Bool) (s : Parser F) : (s.reportSvs endTag).cash =
    if endTag then { s.cash with nmeaCash := CashTable.clear } else s.cash := by
  cases endTag <;> rfl

/-- What is kept of the satellites after a sentence and the reports behind it. -/
theorem reported_sv (endTag : Bool) (s : Parser F) :
    (reportSvs endTag (reportLocation endTag s)).endLine.sv =
      if endTag then s.sv.cleared else s.sv := by
  rw [← reportLocation_sv endTag s]
  exact reportSvs_sv endTag _

theorem reported_svStores (endTag : Bool) (s : Parser F) :
    (reportSvs endTag (reportLocation endTag s)).endLine.sv.stores = s.sv.stores := by
  rw [reported_sv]
  cases endTag <;> rfl

theorem reported_cash (endTag : Bool) (s : Parser F) :
    (reportSvs endTag (reportLocation endTag s)).endLine.cash =
      if endTag then { s.cash with nmeaCash := CashTable.clear } else s.cash := by
  rw [← reportLocation_cash endTag s]
  exact reportSvs_cash endTag _

theorem reported_cashStores (endTag : Bool) (s : Parser F) :
    (reportSvs endTag (reportLocation endTag s)).endLine.cash.stores = s.cash.stores := by
  rw [reported_cash]
  cases endTag <;> rfl

theorem mem_reportLocation {endTag : Bool} {numSvs : Int} {svList : List (GnssSv F)}
    (reported : .gpsSv numSvs svList ∈ (s.reportLocation endTag).reports) :
    .gpsSv numSvs svList ∈ s.reports := by
  unfold reportLocation at reported
  split at reported
  next =>
    rcases List.mem_append.mp reported with before | now
    · exact before
    · simp only [List.mem_cons, reduceCtorEq, List.not_mem_nil, or_self] at now
  next => exact reported

theorem mem_reportSvs {endTag : Bool} {numSvs : Int} {svList : List (GnssSv F)}
    (reported : .gpsSv numSvs svList ∈ (s.reportSvs endTag).reports) :
    .gpsSv numSvs svList ∈ s.reports ∨ numSvs = s.sv.numSvs := by
  unfold reportSvs at reported
  split at reported
  next =>
    rcases List.mem_append.mp reported with before | now
    · exact .inl before
    · rw [List.mem_singleton, Report.gpsSv.injEq] at now
      exact .inr now.1
  next => exact .inl reported

theorem mem_endLine {numSvs : Int} {svList : List (GnssSv F)}
    (reported : .gpsSv numSvs svList ∈ s.endLine.reports) : .gpsSv numSvs svList ∈ s.reports := by
  rcases List.mem_append.mp reported with before | now
  · exact before
  · simp only [List.mem_singleton, reduceCtorEq] at now

theorem reportLocation_frame (endTag : Bool) (s : Parser F) : ∃ position reports,
    s.reportLocation endTag = { s with position := position, reports := reports } := by
  unfold reportLocation
  split
  next => exact ⟨_, _, rfl⟩
  next => exact ⟨s.position, s.reports, rfl⟩

theorem reportSvs_frame (endTag : Bool) (s : Parser F) : ∃ sv cash reports,
    s.reportSvs endTag = { s with sv := sv, cash := cash, reports := reports } := by
  unfold reportSvs
  split
  next => exact ⟨_, _, _, rfl⟩
  next => exact ⟨s.sv, s.cash, s.reports, rfl⟩

/-- The reports behind a sentence leave the line buffer alone. -/
theorem reports_frame (endTag : Bool) (s : Parser F) : ∃ position sv cash reports,
    reportSvs endTag (reportLocation endTag s) =
      { s with position := position, sv := sv, cash := cash, reports := reports } := by
  obtain ⟨position, reports, located⟩ := reportLocation_frame endTag s
  obtain ⟨sv, cash, reports, reported⟩ := reportSvs_frame endTag (reportLocation endTag s)
  rw [reported, located]
  exact ⟨position, sv, cash, reports, rfl⟩

/-- A sentence leaves the line buffer alone. -/
theorem parse_frame (platform : Platform F) (endTag : Bool) (s : Parser F) :
    ∃ position sv cash reports,
    s.parse platform endTag =
      { s.hand with position := position, sv := sv, cash := cash, reports := reports } := by
  unfold parse
  split
  next =>
    obtain ⟨position, sv, cash, reports, reported⟩ :=
      reports_frame endTag (s.hand.sentence platform (tokenize s.line))
    exact ⟨position, sv, cash, reports, reported⟩
  next => exact ⟨s.position, s.sv, s.cash, s.reports, rfl⟩

/-- A byte that completes no sentence leaves the satellites as they are. -/
theorem addc_incomplete {c : UInt8} (platform : Platform F) (endTag : Bool)
    (incomplete : s.completes c = none) :
    (s.addc platform endTag c).sv = s.sv ∧ (s.addc platform endTag c).cash = s.cash ∧
    ∀ numSvs svList, .gpsSv numSvs svList ∈ (s.addc platform endTag c).reports →
      .gpsSv numSvs svList ∈ s.reports := by
  unfold addc
  split
  next => exact ⟨rfl, rfl, fun _ _ reported => reported⟩
  next reads =>
    split
    next => exact ⟨rfl, rfl, fun _ _ reported => reported⟩
    next room =>
      split
      next ends =>
        have malformed : ¬ wellFormed (s.store c).line = true := by
          intro good
          have now := incomplete
          unfold completes at now
          rw [if_pos ⟨eq_false_of_ne_true reads, Nat.not_le.mp room, ends, good⟩] at now
          cases now
        unfold parse
        rw [if_neg malformed]
        exact ⟨rfl, rfl, fun _ _ reported => mem_endLine (s := (s.store c).hand) reported⟩
      next => exact ⟨rfl, rfl, fun _ _ reported => reported⟩

theorem completes_length {c : UInt8} {tokens : List (List UInt8)}
    (complete : s.completes c = some tokens) : tokens.length ≤ maxNmeaTokens := by
  unfold completes at complete
  split at complete
  next =>
    cases complete
    exact List.length_take_le _ _
  next => cases complete

/-- One that completes a sentence has it parsed and, at the end of the buffer, reported. -/
theorem addc_completes {c : UInt8} {tokens : List (List UInt8)} (platform : Platform F)
    (endTag : Bool) (complete : s.completes c = some tokens) : s.addc platform endTag c =
      (reportSvs endTag
          (reportLocation endTag ((s.store c).hand.sentence platform tokens))).endLine := by
  unfold completes at complete
  split at complete
  next now =>
    obtain ⟨reads, room, ends, good⟩ := now
    cases complete
    unfold addc
    rw [if_neg (by rw [reads]; decide), if_neg (Nat.not_le.mpr room), if_pos ends]
    unfold parse
    rw [if_pos good]
  next => cases complete

end Parser

end Connectivity.Nmea
