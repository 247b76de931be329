import Connectivity.Nmea.GsvLoop
import Connectivity.Nmea.Parser

set_option autoImplicit false

/- Two runs over the same buffer that begin with different tables. -/
namespace Connectivity.Nmea

/-- What the flags of an entry are made from. -/
def NmeaCash.marks (cash : NmeaCash) : Bool × Bool × Bool :=
  (cash.usedInFix, cash.hasAlmanacData, cash.hasEphemerisData)

theorem NmeaCash.svFlags_congr {one other : NmeaCash} (same : one.marks = other.marks)
    (flags : UInt8) : one.svFlags flags = other.svFlags flags := by
  simp only [marks, Prod.mk.injEq] at same
  obtain ⟨used, almanac, ephemeris⟩ := same
  unfold svFlags
  rw [used, almanac, ephemeris]

theorem svFlags_injective : ∀ used almanac ephemeris used' almanac' ephemeris' : Bool,
    svFlags used almanac ephemeris 0 = svFlags used' almanac' ephemeris' 0 →
      (used, almanac, ephemeris) = (used', almanac', ephemeris') := by
  decide

/-- The flags of an entry that had none before tell all that they are made from. -/
theorem NmeaCash.svFlags_zero {one other : NmeaCash} (same : one.svFlags 0 = other.svFlags 0) :
    one.marks = other.marks :=
  svFlags_injective _ _ _ _ _ _ same

/-- The tables agree on every number that stands for a satellite. -/
def SameMarks (one other : Int → NmeaCash) : Prop :=
  ∀ prn, reportable prn = true → (one prn).marks = (other prn).marks

/-- A change of an entry that depends on nothing but what its flags are made from. -/
def MarksOnly (change : NmeaCash → NmeaCash) : Prop :=
  ∀ one other : NmeaCash, one.marks = other.marks → (change one).marks = (change other).marks

namespace CashTable

variable {one other : CashTable} {svType : SvType} {tokens : List (List UInt8)}

theorem store_same {change : NmeaCash → NmeaCash} (marksOnly : MarksOnly change)
    (same : SameMarks one.nmeaCash other.nmeaCash) (index : Int) :
    SameMarks (one.store index change).nmeaCash (other.store index change).nmeaCash := by
  intro prn known
  unfold store
  dsimp only
  split
  next here =>
    rw [← here]
    exact marksOnly _ _ (same prn known)
  next => exact same prn known

theorem useInFix_same (same : SameMarks one.nmeaCash other.nmeaCash) (sateId : Int) :
    SameMarks (one.useInFix sateId).nmeaCash (other.useInFix sateId).nmeaCash := by
  unfold useInFix
  split
  next =>
    refine store_same (fun _ _ same => ?_) same sateId
    simp only [NmeaCash.marks, Prod.mk.injEq] at same ⊢
    exact ⟨trivial, same.2⟩
  next => exact same

theorem gsa_same (same : SameMarks one.nmeaCash other.nmeaCash) :
    SameMarks (one.gsa svType tokens).nmeaCash (other.gsa svType tokens).nmeaCash := by
  unfold gsa
  dsimp only
  generalize List.map _ (List.takeWhile _ _) = ids
  induction ids generalizing one other with
  | nil => exact same
  | cons id rest ih => exact ih (useInFix_same same id)

theorem setFlags_same {change : NmeaCash → NmeaCash} (marksOnly : MarksOnly change)
    (same : SameMarks one.nmeaCash other.nmeaCash) (svs : Nat) :
    SameMarks (one.setFlags change svs tokens).nmeaCash
      (other.setFlags change svs tokens).nmeaCash := by
  unfold setFlags
  generalize List.range svs = places
  induction places generalizing one other with
  | nil => exact same
  | cons idx rest ih =>
      rw [List.foldl_cons, List.foldl_cons]
      apply ih
      split
      next => exact store_same marksOnly same _
      next => exact same

theorem eph_same (same : SameMarks one.nmeaCash other.nmeaCash) (svs : Nat) :
    SameMarks (one.eph svs tokens).nmeaCash (other.eph svs tokens).nmeaCash := by
  refine setFlags_same (fun _ _ same => ?_) same svs
  simp only [NmeaCash.marks, Prod.mk.injEq] at same ⊢
  exact ⟨same.1, same.2.1, trivial⟩

theorem alm_same (same : SameMarks one.nmeaCash other.nmeaCash) (svs : Nat) :
    SameMarks (one.alm svs tokens).nmeaCash (other.alm svs tokens).nmeaCash := by
  refine setFlags_same (fun _ _ same => ?_) same svs
  simp only [NmeaCash.marks, Prod.mk.injEq] at same ⊢
  exact ⟨same.1, trivial, same.2.2⟩

end CashTable

namespace SvReader

variable {F : Type} {platform : Platform F} {svType : SvType} {tokens : List (List UInt8)}
  {r : SvReader F} {one other : Int → NmeaCash}

theorem updateSvStatus_same (same : SameMarks one other) (id : Int)
    (elevation azimuth snr : List UInt8) (r : SvReader F) :
    updateSvStatus platform one id elevation azimuth snr r =
      updateSvStatus platform other id elevation azimuth snr r := by
  unfold updateSvStatus
  split
  next => rfl
  next =>
    split
    next => rfl
    next sv constellation known =>
      have counted : reportable id = true := by
        unfold reportable
        rw [known]
        rfl
      rw [NmeaCash.svFlags_congr (same id counted)]

theorem gsv_same (same : SameMarks one other) :
    gsv platform one svType tokens r = gsv platform other svType tokens r := by
  have turn : gsvTurn platform one svType tokens = gsvTurn platform other svType tokens := by
    funext r idx
    exact updateSvStatus_same same _ _ _ _ _
  unfold gsv gsvTurns
  rw [turn]

end SvReader

namespace Parser

variable {F : Type} {platform : Platform F} {s t : Parser F}

/-- The second of two parsers differs from the first in its table alone, and the tables have
the same marks. -/
inductive SameBut (s : Parser F) : Parser F → Prop
  | table (cash : CashTable) (marks : SameMarks s.cash.nmeaCash cash.nmeaCash) :
      SameBut s { s with cash := cash }

theorem SameBut.reports (same : SameBut s t) : s.reports = t.reports := by
  cases same
  rfl

theorem SameBut.store (same : SameBut s t) (c : UInt8) : SameBut (s.store c) (t.store c) := by
  cases same with
  | table cash marks => exact .table cash marks

theorem SameBut.hand (same : SameBut s t) : SameBut s.hand t.hand := by
  cases same with
  | table cash marks => exact .table cash marks

theorem SameBut.endLine (same : SameBut s t) : SameBut s.endLine t.endLine := by
  cases same with
  | table cash marks => exact .table cash marks

theorem SameBut.line (same : SameBut s t) : s.line = t.line := by
  cases same
  rfl

theorem cashAfter_same {kind : SentenceKind} {svType : SvType} {tokens : List (List UInt8)}
    {fixed : Bool} {one other : CashTable} (same : SameMarks one.nmeaCash other.nmeaCash) :
    SameMarks (cashAfter platform kind svType tokens fixed one).nmeaCash
      (cashAfter platform kind svType tokens fixed other).nmeaCash := by
  cases kind with
  | gsa =>
      cases fixed with
      | true => exact CashTable.gsa_same same
      | false => exact same
  | eph => exact CashTable.eph_same same _
  | alm => exact CashTable.alm_same same _
  | gga | rmc | gsv | accuracy | pmtk817 | unknown => exact same

theorem svAfter_same {kind : SentenceKind} {svType : SvType} {tokens : List (List UInt8)}
    {one other : Int → NmeaCash} (same : SameMarks one other) (r : SvReader F) :
    svAfter platform kind svType tokens one r = svAfter platform kind svType tokens other r := by
  cases kind with
  | gsv => exact SvReader.gsv_same same
  | gga | gsa | rmc | eph | alm | accuracy | pmtk817 | unknown => rfl

theorem SameBut.sentence (same : SameBut s t) (tokens : List (List UInt8)) :
    SameBut (s.sentence platform tokens) (t.sentence platform tokens) := by
  cases same with
  | table cash marks =>
      unfold Parser.sentence
      dsimp only
      rw [← svAfter_same marks s.sv]
      exact .table _ (cashAfter_same marks)

theorem SameBut.reportLocation (same : SameBut s t) (endTag : Bool) :
    SameBut (s.reportLocation endTag) (t.reportLocation endTag) := by
  cases same with
  | table cash marks =>
      unfold Parser.reportLocation
      dsimp only
      split
      next => exact .table cash marks
      next => exact .table cash marks

theorem SameBut.reportSvs (same : SameBut s t) (endTag : Bool) :
    SameBut (s.reportSvs endTag) (t.reportSvs endTag) := by
  cases same with
  | table cash marks =>
      cases endTag with
      | true => exact .table ⟨CashTable.clear, cash.stores⟩ fun _ _ => rfl
      | false => exact .table cash marks

theorem SameBut.parse (same : SameBut s t) (endTag : Bool) :
    SameBut (s.parse platform endTag) (t.parse platform endTag) := by
  unfold Parser.parse
  rw [same.line]
  split
  next => exact ((same.hand.sentence _).reportLocation endTag).reportSvs endTag
  next => exact same.hand

theorem SameBut.addc (same : SameBut s t) (endTag : Bool) (c : UInt8) :
    SameBut (s.addc platform endTag c) (t.addc platform endTag c) := by
  have overflow : t.overflow = s.overflow ∧ t.pos = s.pos := by
    cases same
    exact ⟨rfl, rfl⟩
  unfold Parser.addc
  rw [overflow.1, overflow.2]
  split
  next =>
    cases same with
    | table cash marks => exact .table cash marks
  next =>
    split
    next =>
      cases same with
      | table cash marks => exact .table cash marks
    next =>
      split
      next => exact ((same.store c).parse endTag).endLine
      next => exact same.store c

theorem SameBut.foldl (same : SameBut s t) (inputs : List (UInt8 × Bool)) :
    SameBut (inputs.foldl (fun s c => s.addc platform c.2 c.1) s)
      (inputs.foldl (fun s c => s.addc platform c.2 c.1) t) := by
  induction inputs generalizing s t with
  | nil => exact same
  | cons c rest ih => exact ih (same.addc c.2 c.1)

/-- Tables with the same marks make no difference to what is reported. -/
theorem process_same {one other : Int → NmeaCash} (same : SameMarks one other)
    (buffer : List UInt8) :
    (process platform one buffer).reports = (process platform other buffer).reports := by
  have start : SameBut (init platform one) (init platform other) := .table ⟨other, []⟩ same
  exact (start.foldl (tagged buffer)).reports

end Parser

end Connectivity.Nmea
