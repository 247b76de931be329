import Connectivity.Ring.Recent
import Mathlib.Data.List.Induction
import Mathlib.Data.List.Nodup
import Mathlib.Data.List.Range

set_option autoImplicit false

/- The last packets that went over the UART, kept for a look at them after an error. -/
namespace Connectivity.Hci

open Connectivity.Ring

inductive PacketDirectionType
  | kTx | kRx
deriving DecidableEq, Repr

/-- `BtHciDebugPacket`. -/
structure BtHciDebugPacket where
  dirType : PacketDirectionType
  packetType : UInt8
  data : List UInt8
  dataLength : UInt16
  timeTag : String
deriving DecidableEq, Repr

def kMaxDumpPacketDataLength : UInt16 := 16

def kCircularSize : Nat := 30

/-- `INT_MAX`. -/
def intMax : Nat := 2147483647

/-- A call of `Archive`, and what the clock says in it. -/
structure Recording where
  dirType : PacketDirectionType
  type : UInt8
  data : List UInt8
  dataLength : UInt16
  timeTag : String
deriving DecidableEq, Repr

/-- What is kept of a packet. -/
def Recording.packet (recording : Recording) : BtHciDebugPacket :=
  let dumpLen := if recording.dataLength < kMaxDumpPacketDataLength then recording.dataLength
    else kMaxDumpPacketDataLength
  { dirType := recording.dirType
    packetType := recording.type
    data := recording.data.take dumpLen.toNat
    dataLength := recording.dataLength
    timeTag := recording.timeTag }

/-- An element of `packets_info_`; `serial` tells the recorded packets apart. -/
structure Slot where
  serial : Option Nat
  packet : BtHciDebugPacket
deriving DecidableEq, Repr

/-- What `resize` puts there. -/
def Slot.blank : Slot where
  serial := none
  packet := ⟨.kTx, 0, [], 0, ""⟩

/-- `BtHciDebuggerImpl`; `recorded` is all it has been given, the oldest first. -/
structure BtHciDebugger where
  packetsInfo : List Slot
  headIndex : Nat
  count : Nat
  recorded : List Slot
deriving DecidableEq, Repr

namespace BtHciDebugger

def initial : BtHciDebugger where
  packetsInfo := List.replicate kCircularSize .blank
  headIndex := 0
  count := 0
  recorded := []

/-- `Archive`. -/
def archive (s : BtHciDebugger) (recording : Recording) : BtHciDebugger :=
  let headIndex := s.count % kCircularSize
  let slot : Slot := ⟨some s.recorded.length, recording.packet⟩
  let count := if intMax = s.count + 1 then 0 else s.count
  { packetsInfo := s.packetsInfo.set headIndex slot
    headIndex := headIndex
    count := count + 1
    recorded := s.recorded ++ [slot] }

/-- `OnNotify`, with the packets in the order in which they are logged. -/
def onNotify (s : BtHciDebugger) : List Slot :=
  (List.range' s.headIndex (kCircularSize - s.headIndex) ++ List.range s.headIndex).map fun i =>
    s.packetsInfo.getD i .blank

/-- The debugger when it has been given some packets. -/
def archived (recordings : List Recording) : BtHciDebugger := recordings.foldl archive initial

section Record

variable {s : BtHciDebugger} {earlier : List Recording} {newest : Recording}

/-- What holds of the ring however much has been recorded: the newest packet is where a dump
begins. -/
structure Circular (s : BtHciDebugger) : Prop where
  size : s.packetsInfo.length = kCircularSize
  head : s.headIndex < kCircularSize
  newest : s.recorded ≠ [] → s.packetsInfo[s.headIndex]? = s.recorded.getLast?
  serials : s.recorded.map Slot.serial = (List.range s.recorded.length).map some

theorem initial_circular : Circular initial where
  size := List.length_replicate
  head := by decide
  newest none := absurd rfl none
  serials := rfl

theorem archive_circular (circular : Circular s) (recording : Recording) :
    Circular (s.archive recording) where
  size := by
    rw [archive, List.length_set]
    exact circular.size
  head := Nat.mod_lt _ (by decide)
  newest _ := by
    have inside : s.count % kCircularSize < s.packetsInfo.length := by
      rw [circular.size]
      exact Nat.mod_lt _ (by decide)
    simp only [archive]
    rw [List.getElem?_set_self inside, List.getLast?_concat]
  serials := by
    simp only [archive]
    rw [List.map_append, circular.serials, List.length_append, List.length_singleton,
      List.range_succ, List.map_append]
    rfl

theorem archived_append : archived (earlier ++ [newest]) = (archived earlier).archive newest := by
  rw [archived, List.foldl_append]
  rfl

theorem archived_circular (recordings : List Recording) : Circular (archived recordings) := by
  induction recordings using List.reverseRecOn with
  | nil => exact initial_circular
  | append_singleton earlier newest ih =>
      rw [archived_append]
      exact archive_circular ih newest

theorem archived_packets (recordings : List Recording) :
    (archived recordings).recorded.map Slot.packet = recordings.map Recording.packet := by
  induction recordings using List.reverseRecOn with
  | nil => rfl
  | append_singleton earlier newest ih =>
      rw [archived_append, archive, List.map_append, List.map_append, ih]
      rfl

theorem archived_length (recordings : List Recording) :
    (archived recordings).recorded.length = recordings.length := by
  have lengths := congrArg List.length (archived_packets recordings)
  rw [List.length_map, List.length_map] at lengths
  exact lengths

theorem Circular.nodup (circular : Circular s) : s.recorded.Nodup := by
  apply List.Nodup.of_map Slot.serial
  rw [circular.serials]
  exact List.nodup_range.map (fun _ _ => Option.some.inj)

theorem Circular.onNotify_eq (circular : Circular s) :
    s.onNotify = s.packetsInfo.drop s.headIndex ++ s.packetsInfo.take s.headIndex := by
  have size := circular.size
  have head := circular.head
  rw [onNotify, List.map_append]
  congr 1
  · apply List.ext_getElem
    · rw [List.length_map, List.length_range', List.length_drop, size]
    · intro i within inside
      rw [List.length_drop] at inside
      have bound : s.headIndex + i < s.packetsInfo.length := by omega
      simp [bound]
  · apply List.ext_getElem
    · rw [List.length_map, List.length_range, List.length_take, size]
      omega
    · intro i within inside
      rw [List.length_take] at inside
      have bound : i < s.packetsInfo.length := by omega
      simp [bound]

theorem Circular.onNotify_length (circular : Circular s) :
    s.onNotify.length = kCircularSize := by
  have head := circular.head
  rw [circular.onNotify_eq, List.length_append, List.length_drop, List.length_take, circular.size]
  omega

/-- A dump begins with the newest packet. -/
theorem Circular.onNotify_head (circular : Circular s) (some : s.recorded ≠ []) :
    s.onNotify.head? = s.recorded.getLast? := by
  have head := circular.head
  rw [circular.onNotify_eq, List.head?_append_of_ne_nil, List.head?_drop, circular.newest some]
  rw [← List.length_pos_iff, List.length_drop, circular.size]
  omega

/-- The ring as long as it has not been full before. -/
structure Filling (s : BtHciDebugger) : Prop where
  slots : s.packetsInfo =
    s.recorded ++ List.replicate (kCircularSize - s.recorded.length) Slot.blank
  count : s.count = s.recorded.length
  head : s.recorded ≠ [] → s.headIndex + 1 = s.recorded.length

theorem archive_filling (filling : Filling s) (room : s.recorded.length < kCircularSize)
    (recording : Recording) : Filling (s.archive recording) := by
  have index : s.count % kCircularSize = s.recorded.length := by
    rw [filling.count]
    exact Nat.mod_eq_of_lt room
  have small : intMax ≠ s.count + 1 := by
    have limit : kCircularSize < intMax := by decide
    rw [filling.count]
    omega
  have blanks : kCircularSize - s.recorded.length =
      kCircularSize - (s.recorded.length + 1) + 1 := by omega
  constructor
  case slots =>
    simp only [archive]
    rw [index, filling.slots, List.length_append, List.length_singleton, blanks,
      List.replicate_succ, List.set_append_right _ _ (Nat.le_refl _), Nat.sub_self,
      List.set_cons_zero, List.append_assoc]
    rfl
  case count =>
    simp only [archive]
    rw [if_neg small, filling.count, List.length_append, List.length_singleton]
  case head =>
    intro _
    simp only [archive]
    rw [index, List.length_append, List.length_singleton]

theorem archived_filling (recordings : List Recording) (room : recordings.length ≤ kCircularSize) :
    Filling (archived recordings) := by
  induction recordings using List.reverseRecOn with
  | nil => exact ⟨rfl, rfl, fun none => absurd rfl none⟩
  | append_singleton earlier newest ih =>
      rw [List.length_append, List.length_singleton] at room
      rw [archived_append]
      apply archive_filling (ih (by omega))
      rw [archived_length]
      omega

end Record

section Dump

variable {κ : Type} [DecidableEq κ] (kind : BtHciDebugPacket → κ) {earlier : List Recording}
  {newest : Recording}

/-- A notification dumps the latest packets of each kind, as many as there is room for. -/
def DumpsMostRecent (s : BtHciDebugger) : Prop :=
  MostRecentOfEach (fun slot => kind slot.packet) kCircularSize s.recorded s.onNotify

/-- The ring has just been filled, and the newest packet is the only one of its kind. -/
def JustFilled (recordings : List Recording) : Prop :=
  recordings.length = kCircularSize ∧
    ∀ newest ∈ recordings.getLast?, ∀ earlier ∈ recordings.dropLast,
      kind earlier.packet ≠ kind newest.packet

/-- What is dumped at the moment at which the ring is full. -/
theorem onNotify_full (full : (earlier ++ [newest]).length = kCircularSize) :
    ∃ slot, (archived (earlier ++ [newest])).recorded = (archived earlier).recorded ++ [slot] ∧
      slot.packet = newest.packet ∧
      (archived (earlier ++ [newest])).onNotify = slot :: (archived earlier).recorded := by
  let slot : Slot := ⟨some (archived earlier).recorded.length, newest.packet⟩
  have recorded : (archived (earlier ++ [newest])).recorded =
      (archived earlier).recorded ++ [slot] := by
    rw [archived_append]
    rfl
  refine ⟨slot, recorded, rfl, ?_⟩
  have circular := archived_circular (earlier ++ [newest])
  have filling := archived_filling (earlier ++ [newest]) (Nat.le_of_eq full)
  have length : (archived (earlier ++ [newest])).recorded.length = kCircularSize := by
    rw [archived_length, full]
  have slots : (archived (earlier ++ [newest])).packetsInfo =
      (archived earlier).recorded ++ [slot] := by
    rw [filling.slots, length, Nat.sub_self, List.replicate_zero, List.append_nil, recorded]
  have head : (archived (earlier ++ [newest])).headIndex = (archived earlier).recorded.length := by
    have next := filling.head (by
      rw [recorded]
      exact List.append_ne_nil_of_right_ne_nil _ (List.cons_ne_nil _ _))
    rw [recorded, List.length_append, List.length_singleton] at next
    omega
  rw [circular.onNotify_eq, slots, head, List.drop_left, List.take_left]
  rfl

/-- At that moment it is right when the newest packet has no other of its kind in front of it. -/
theorem dumpsMostRecent_full (full : (earlier ++ [newest]).length = kCircularSize) :
    DumpsMostRecent kind (archived (earlier ++ [newest])) ↔
      ∀ recording ∈ earlier, kind recording.packet ≠ kind newest.packet := by
  obtain ⟨slot, recorded, packet, dump⟩ := onNotify_full full
  have nodup := (archived_circular (earlier ++ [newest])).nodup
  have room : (archived (earlier ++ [newest])).recorded.length ≤ kCircularSize := by
    rw [archived_length, full]
  rw [recorded] at nodup room
  rw [DumpsMostRecent, recorded, dump, mostRecentOfEach_newest_iff nodup room, packet]
  have packets := archived_packets earlier
  constructor
  · intro alone recording among
    have kept : recording.packet ∈ (archived earlier).recorded.map Slot.packet := by
      rw [packets]
      exact List.mem_map_of_mem among
    obtain ⟨other, stored, same⟩ := List.mem_map.mp kept
    rw [← same]
    exact alone other stored
  · intro alone other stored
    have given : other.packet ∈ earlier.map Recording.packet := by
      rw [← packets]
      exact List.mem_map_of_mem stored
    obtain ⟨recording, among, same⟩ := List.mem_map.mp given
    rw [← same]
    exact alone recording among

/-- At any other time it is wrong: before, there are blank slots in it, and from then on the newest
packet comes before older ones. -/
theorem length_of_dumpsMostRecent {recordings : List Recording}
    (recent : DumpsMostRecent kind (archived recordings)) : recordings.length = kCircularSize := by
  have circular := archived_circular recordings
  have atLeast := MostRecentOfEach.length_le recent
  rw [circular.onNotify_length, archived_length] at atLeast
  have atMost : (archived recordings).recorded.length ≤ kCircularSize := by
    cases recordings using List.reverseRecOn with
    | nil => exact Nat.zero_le _
    | append_singleton earlier newest =>
        have recorded : (archived (earlier ++ [newest])).recorded =
            (archived earlier).recorded ++
              [⟨some (archived earlier).recorded.length, newest.packet⟩] := by
          rw [archived_append]
          rfl
        have head := circular.onNotify_head (by
          rw [recorded]
          exact List.append_ne_nil_of_right_ne_nil _ (List.cons_ne_nil _ _))
        have nodup := circular.nodup
        rw [recorded] at nodup head ⊢
        rw [List.getLast?_concat] at head
        rw [DumpsMostRecent, recorded] at recent
        exact recent.fits nodup circular.onNotify_length (by decide) head
  rw [archived_length] at atMost
  omega

/-- A notification dumps what it should only when the ring has just been filled, and then only if
the newest packet is the only one of its kind. -/
theorem onNotify_iff (recordings : List Recording) :
    DumpsMostRecent kind (archived recordings) ↔ JustFilled kind recordings := by
  by_cases full : recordings.length = kCircularSize
  · cases recordings using List.reverseRecOn with
    | nil => cases full
    | append_singleton earlier newest =>
        rw [dumpsMostRecent_full kind full]
        constructor
        · intro alone
          refine ⟨full, fun last isLast => ?_⟩
          rw [List.getLast?_concat] at isLast
          rw [List.dropLast_concat, ← Option.some.inj isLast]
          exact alone
        · intro justFilled
          have alone := justFilled.2 newest List.getLast?_concat
          rw [List.dropLast_concat] at alone
          exact alone
  · constructor
    · intro recent
      exact absurd (length_of_dumpsMostRecent kind recent) full
    · intro justFilled
      exact absurd justFilled.1 full

/-- Thirty packets that are sent, of which the newest is dumped first. -/
theorem not_onNotify : ¬ ∀ recordings,
    DumpsMostRecent BtHciDebugPacket.dirType (archived recordings) := by
  intro all
  have sent := all (List.replicate kCircularSize ⟨.kTx, 1, [3, 0x0c, 0], 3, "01-01 00:00:00"⟩) .kTx
  have first := congrArg List.head? sent
  revert first
  decide

end Dump

end BtHciDebugger

end Connectivity.Hci
