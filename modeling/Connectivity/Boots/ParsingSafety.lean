import Connectivity.Boots.Parsing
import Connectivity.Bytes.LengthRow

set_option autoImplicit false

/- How much of a packet `boots_pkt_parsing` takes for granted, and which reports of a remote
device it stays inside of. -/
namespace Connectivity.Boots

open Bytes

/-- How many bytes of a Command Complete are looked at. -/
def commandCompleteNeed (buf : Nat → UInt8) (len : Nat) : Nat :=
  if uint16At buf 4 = 0x0C03 then 6
  else if uint16At buf 4 = 0x1009 then if 13 ≤ len then 13 else 6
  else if uint16At buf 4 = 0xFC0D then if buf 2 = 20 then 23 else 6
  else if uint16At buf 4 = 0x201F then 11
  else if uint16At buf 4 = 0xFCD1 then 11
  else if uint16At buf 4 = 0xFF01 then
    if buf 6 = 0 then
      if buf 7 = 0 then if buf 8 = WrFlag.read.toByte then 14 else 9
      else 8
    else 8
  else 6

/-- How many bytes of a packet are looked at, those of the structures in an extended inquiry
result aside. -/
def parsingNeed (efuse : EfuseRegWr) (buf : Nat → UInt8) (len : Nat) : Nat :=
  if len = 0 then 0
  else if buf 0 ≠ hciEventPkt then 1
  else if buf 1 = hceCommandComplete ∧ 7 ≤ len then commandCompleteNeed buf len
  else if buf 1 = hceInquiryResult then 10
  else if buf 1 = hceInquiryResultWithRssi ∨ buf 1 = hceExtInquiryResult then 18
  else if buf 1 = 0xE4 ∧ efuse.wrFlag = .read then
    if efuse.block = efuseBlock buf then efuse.offset + 1 else 11
  else 2

/-- The packet is one whose structures are gone through. -/
def IsExtInquiryResult (buf : Nat → UInt8) (len : Nat) : Prop :=
  0 < len ∧ buf 0 = hciEventPkt ∧ buf 1 = hceExtInquiryResult

variable {buf : Nat → UInt8} {len i : Nat} {efuse : EfuseRegWr} {Allowed : Nat → Prop}

theorem furthest_commandComplete :
    Furthest ([0, 1] ++ commandCompleteReads buf len) (commandCompleteNeed buf len) := by
  unfold commandCompleteReads commandCompleteNeed
  by_cases reset : uint16At buf 4 = 0x0C03
  · simp only [if_pos reset]
    exact furthest_of_mem (by decide) (by decide)
  by_cases bdaddr : uint16At buf 4 = 0x1009
  · simp only [if_neg reset, if_pos bdaddr]
    by_cases long : 13 ≤ len
    · simp only [if_pos long]
      exact furthest_of_mem (by decide) (by decide)
    · simp only [if_neg long]
      exact furthest_of_mem (by decide) (by decide)
  by_cases rfTest : uint16At buf 4 = 0xFC0D
  · simp only [if_neg reset, if_neg bdaddr, if_pos rfTest]
    by_cases results : buf 2 = 20
    · simp only [if_pos results]
      exact furthest_of_mem (by decide) (by decide)
    · simp only [if_neg results]
      exact furthest_of_mem (by decide) (by decide)
  by_cases bleTest : uint16At buf 4 = 0x201F
  · simp only [if_neg reset, if_neg bdaddr, if_neg rfTest, if_pos bleTest]
    by_cases long : 6 ≤ buf 2
    · simp only [if_pos long]
      by_cases good : buf 6 = 0
      · simp only [if_pos good]
        exact furthest_of_mem (by decide) (by decide)
      · simp only [if_neg good]
        exact furthest_of_mem (by decide) (by decide)
    · simp only [if_neg long]
      exact furthest_of_mem (by decide) (by decide)
  by_cases register : uint16At buf 4 = 0xFCD1
  · simp only [if_neg reset, if_neg bdaddr, if_neg rfTest, if_neg bleTest, if_pos register]
    exact furthest_of_mem (by decide) (by decide)
  simp only [if_neg reset, if_neg bdaddr, if_neg rfTest, if_neg bleTest, if_neg register]
  by_cases file : uint16At buf 4 = 0xFF01
  · simp only [if_pos file]
    by_cases low : buf 6 = 0
    · simp only [if_pos low]
      by_cases high : buf 7 = 0
      · simp only [if_pos high]
        by_cases read : buf 8 = WrFlag.read.toByte
        · simp only [if_pos read]
          exact furthest_of_mem (by decide) (by decide)
        · simp only [if_neg read]
          exact furthest_of_mem (by decide) (by decide)
      · simp only [if_neg high]
        exact furthest_of_mem (by decide) (by decide)
    · simp only [if_neg low]
      exact furthest_of_mem (by decide) (by decide)
  · simp only [if_neg file]
    exact furthest_of_mem (by decide) (by decide)

theorem furthest_efuse :
    Furthest ([0, 1] ++ efuseReads efuse buf)
      (if efuse.block = efuseBlock buf then efuse.offset + 1 else 11) := by
  unfold efuseReads
  by_cases same : efuse.block = efuseBlock buf
  · rw [if_neg (not_not.mpr same), if_pos same]
    refine furthest_of_mem (by simp) ?_
    unfold EfuseRegWr.offset
    simp only [List.cons_append, List.nil_append, List.forall_mem_cons, List.not_mem_nil,
      IsEmpty.forall_iff, implies_true, and_true]
    omega
  · rw [if_pos same, if_neg same]
    exact furthest_of_mem (by decide) (by decide)

theorem allowed_of_row (lower : Lower Allowed) (row : Row buf Allowed i) : Allowed i := by
  induction row with
  | stop zero here => exact here
  | @block i nonzero later ih => exact lower _ i (by omega) ih

/-- The loop over the structures keeps to the length bytes up to the zero that ends it. -/
theorem readsOnly_nameLoop (lower : Lower Allowed) :
    ReadsOnly Allowed (fun turns => nameLoop buf turns i) ↔ Row buf Allowed i := by
  constructor
  · rintro ⟨turns, reads, ended, all⟩
    induction turns generalizing i reads with
    | zero => cases ended
    | succ turns ih =>
        change (if buf i = 0 then _ else _) = _ at ended
        by_cases zero : buf i = 0
        · rw [if_pos zero] at ended
          cases ended
          exact .stop zero (all i List.mem_cons_self)
        · rw [if_neg zero] at ended
          obtain ⟨later, done, rfl⟩ := Option.map_eq_some_iff.mp ended
          rw [List.forall_mem_append] at all
          exact .block zero (ih later done all.2)
  · intro row
    induction row with
    | @stop i zero here =>
        refine ⟨1, [i], ?_, by simpa using here⟩
        exact if_pos zero
    | @block i nonzero later ih =>
        obtain ⟨turns, reads, done, all⟩ := ih
        have furthest : ∀ offset ≤ i + (buf i).toNat, Allowed offset := by
          intro offset small
          exact lower _ offset (by omega) (allowed_of_row lower later)
        have positive : 0 < (buf i).toNat := by
          refine Nat.pos_of_ne_zero fun zero => nonzero (UInt8.toNat_inj.mp zero)
        refine ⟨turns + 1, _, (if_neg nonzero).trans (Option.map_eq_some_iff.mpr
          ⟨reads, done, rfl⟩), List.forall_mem_append.mpr ⟨?_, all⟩⟩
        intro offset there
        refine furthest offset ?_
        split_ifs at there
        · simp only [List.cons_append, List.nil_append, List.mem_cons, List.mem_range'_1] at there
          omega
        · simp only [List.append_nil, List.mem_cons, List.not_mem_nil, or_false] at there
          omega

theorem furthest_inquiryResult : Furthest ([0, 1] ++ [9, 8, 7, 6, 5, 4]) 10 :=
  furthest_of_mem (by decide) (by decide)

theorem furthest_withRssi : Furthest ([0, 1] ++ ([9, 8, 7, 6, 5, 4] ++ [17])) 18 :=
  furthest_of_mem (by decide) (by decide)

theorem readsOnly_inquiry (lower : Lower Allowed) :
    ReadsOnly Allowed (fun turns => (inquiryReads buf turns).map ([0, 1] ++ ·)) ↔
      (∀ offset < (if buf 1 = hceInquiryResultWithRssi ∨ buf 1 = hceExtInquiryResult then 18
        else 10), Allowed offset) ∧ (buf 1 = hceExtInquiryResult → Row buf Allowed 18) := by
  by_cases ext : buf 1 = hceExtInquiryResult
  · simp only [inquiryReads, if_pos ext, if_pos (Or.inr ext), forall_prop_of_true ext]
    rw [readsOnly_map, readsOnly_map, readsOnly_nameLoop lower, ← and_assoc,
      ← List.forall_mem_append, furthest_withRssi.all_iff lower]
  by_cases rssi : buf 1 = hceInquiryResultWithRssi
  · simp only [inquiryReads, if_neg ext, if_pos rssi, if_pos (Or.inl rssi), Option.map_some,
      readsOnly_some]
    rw [furthest_withRssi.all_iff lower]
    exact (and_iff_left fun same => absurd same ext).symm
  · simp only [inquiryReads, if_neg ext, if_neg rssi, if_neg (not_or.mpr ⟨rssi, ext⟩),
      Option.map_some, readsOnly_some]
    rw [furthest_inquiryResult.all_iff lower]
    exact (and_iff_left fun same => absurd same ext).symm

/-- `boots_pkt_parsing` keeps to the bytes it takes for granted and to the structures. -/
theorem readsOnly_parsing (lower : Lower Allowed) :
    ReadsOnly Allowed (fun turns => bootsPktParsing efuse buf len turns) ↔
      (∀ offset < parsingNeed efuse buf len, Allowed offset) ∧
        (IsExtInquiryResult buf len → Row buf Allowed 18) := by
  unfold bootsPktParsing parsingNeed IsExtInquiryResult
  by_cases empty : len = 0
  · simp [empty, readsOnly_some]
  by_cases event : buf 0 = hciEventPkt
  case neg =>
    simp [empty, event, readsOnly_some]
  have positive : 0 < len := Nat.pos_of_ne_zero empty
  simp only [empty, event, positive, ne_eq, not_true_eq_false, if_false, true_and]
  by_cases complete : buf 1 = hceCommandComplete ∧ 7 ≤ len
  · simp only [complete, and_self, if_true, Option.map_some, readsOnly_some]
    rw [furthest_commandComplete.all_iff lower]
    simp [show hceCommandComplete ≠ hceExtInquiryResult by decide]
  simp only [complete, if_false]
  by_cases inquiry : buf 1 = hceInquiryResult ∨ buf 1 = hceInquiryResultWithRssi ∨
      buf 1 = hceExtInquiryResult
  · simp only [if_pos inquiry]
    rw [readsOnly_inquiry lower]
    rcases inquiry with result | longer
    · simp [result, show hceInquiryResult ≠ hceInquiryResultWithRssi by decide,
        show hceInquiryResult ≠ hceExtInquiryResult by decide]
    · have other : buf 1 ≠ hceInquiryResult := by
        rcases longer with rssi | ext
        · rw [rssi]
          decide
        · rw [ext]
          decide
      simp only [if_pos longer, if_neg other]
  obtain ⟨result, shorter⟩ := not_or.mp inquiry
  have ext := (not_or.mp shorter).2
  rw [and_iff_left fun same => absurd same ext]
  simp only [if_neg inquiry, if_neg result, if_neg shorter]
  by_cases efuseRead : buf 1 = 0xE4 ∧ efuse.wrFlag = .read
  · have other : buf 1 ≠ hceInquiryComplete := by
      rw [efuseRead.1]
      decide
    simp only [if_pos efuseRead, if_neg other, Option.map_some, readsOnly_some]
    exact furthest_efuse.all_iff lower
  · have front : Furthest ([0, 1] ++ []) 2 := furthest_of_mem (by decide) (by decide)
    simp only [if_neg efuseRead, ite_self, Option.map_some, readsOnly_some]
    exact front.all_iff lower

/-- The events that report a remote device with the structures it has sent about itself. -/
inductive DeviceReport
  | extInquiryResult | leMeta
deriving DecidableEq, Repr

namespace DeviceReport

def code : DeviceReport → UInt8
  | .extInquiryResult => hceExtInquiryResult
  | .leMeta => 0x3E

/-- The packet with `rest` behind the event's code. -/
def packet (kind : DeviceReport) (rest : List UInt8) : List UInt8 :=
  hciEventPkt :: kind.code :: rest

/-- The run of `boots_pkt_parsing` on a report with other bytes behind it. -/
def parsed (kind : DeviceReport) (efuse : EfuseRegWr) (rest : List UInt8) (behind : Nat → UInt8)
    (turns : Nat) : Option (List Nat) :=
  bootsPktParsing efuse (around (kind.packet rest) behind) (kind.packet rest).length turns

end DeviceReport

/-- The walk over the structures of a report ends inside of it when they are whole and a zero byte
of the report follows them; one of an LE report does not take place. -/
theorem parsing_inside_iff (efuse : EfuseRegWr) (kind : DeviceReport) (rest : List UInt8)
    (behind : Nat → UInt8) :
    ReadsOnly (· < (kind.packet rest).length) (kind.parsed efuse rest behind) ↔
      (kind = .extInquiryResult → ∃ (structures : List Block) (tail : List UInt8),
        rest.drop 16 = structures.flatMap Block.encode ++ 0 :: tail) := by
  refine (readsOnly_parsing (lower_lt _)).trans ?_
  rw [lt_iff]
  cases kind with
  | leMeta =>
      have need : parsingNeed efuse (around (DeviceReport.leMeta.packet rest) behind)
          (DeviceReport.leMeta.packet rest).length = 2 := rfl
      have enough : 2 ≤ (DeviceReport.leMeta.packet rest).length := Nat.le_add_left 2 _
      have other : DeviceReport.leMeta.code ≠ hceExtInquiryResult := by decide
      rw [need]
      exact iff_of_true ⟨enough, fun ext => absurd ext.2.2 other⟩ fun same => by cases same
  | extInquiryResult =>
      have need : parsingNeed efuse (around (DeviceReport.extInquiryResult.packet rest) behind)
          (DeviceReport.extInquiryResult.packet rest).length = 18 := rfl
      have ext : IsExtInquiryResult (around (DeviceReport.extInquiryResult.packet rest) behind)
          (DeviceReport.extInquiryResult.packet rest).length := ⟨Nat.succ_pos _, rfl, rfl⟩
      rw [need, forall_prop_of_true ext, forall_prop_of_true rfl, row_iff_blocks]
      constructor
      · exact And.right
      · rintro ⟨structures, tail, there⟩
        refine ⟨?_, structures, tail, there⟩
        have count := congrArg List.length there
        simp only [List.length_drop, List.length_append, List.length_cons] at count
        show 18 ≤ rest.length + 2
        omega

/-- A structure that says to be five bytes long, of which the report has two. -/
theorem parsing_leaves_report : ¬ ∀ (efuse : EfuseRegWr) (kind : DeviceReport) (rest : List UInt8)
    (behind : Nat → UInt8),
    ReadsOnly (· < (kind.packet rest).length) (kind.parsed efuse rest behind) := by
  intro inside
  have runs := inside ⟨0, 0, .no⟩ .extInquiryResult (List.replicate 16 0 ++ [5, 9, 65]) fun _ => 0
  have row := ((readsOnly_parsing (lower_lt _)).mp runs).2 ⟨by decide, rfl, rfl⟩
  cases row with
  | stop zero here => exact absurd zero (by decide)
  | block nonzero later =>
      cases later with
      | stop zero here => exact absurd here (by decide)
      | block nonzero later => exact nonzero rfl

end Connectivity.Boots
