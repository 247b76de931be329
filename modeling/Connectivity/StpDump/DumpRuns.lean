import Connectivity.StpDump.Decode
import Connectivity.Transition.Run

set_option autoImplicit false

/- What the dumper keeps to over any row of packets. -/
namespace Connectivity.StpDump

open Transition
open WpaDriver (ascii)

namespace Packet

variable (p : Packet)

/-- A dump can be started: its names fit, and the folder is there. -/
def Startable : Prop := p.fileNameLen ≤ 100 ∧ p.folder = true

/-- A file is opened and recorded when a dump is started. -/
def Records : Prop := p.Startable ∧ p.coredumpMode = 2 ∧ p.t32Opens = true

variable {p}

theorem accepted_size (accepted : p.accepted = true) : 0 ≤ p.size := by
  simp only [Packet.accepted, Bool.and_eq_true, decide_eq_true_eq] at accepted
  exact accepted.1.1.1.2

end Packet

namespace Dumper

/-- Everything has been written to open files from what had been received, and no counter has
overflowed; the list has not more names than it may have, the oldest ones are gone if any, and
none is gone before the list is full. -/
structure Sound (s : Dumper) : Prop where
  written : ∀ w ∈ s.writes, w.stream = .opened ∧ w.upTo ≤ w.received
  unharmed : s.overflowed = false
  capacity : s.listHead.length ≤ comboT32NumMax
  oldest : s.listHead <:+ s.history
  full : s.listHead = s.history ∨ comboT32NumMax ≤ s.listHead.length + 1

/-- The packet is looked at behind the start of a dump. -/
def GoesOn (s : Dumper) (p : Packet) : Prop :=
  s.startDump = true → p.Startable ∧ (p.coredumpMode = 2 → p.t32Opens = true)

/-- The file of the dump is open once the packet has been looked at for a start. -/
def FileOpen (s : Dumper) (p : Packet) : Prop :=
  if s.startDump = true ∧ p.coredumpMode = 2 then True else s.fpT32 = .opened

/-- A packet that starts a dump into a file finds room in the counter, and one with data finds the
file open and has been received as far as its data are declared. -/
def Meets (signedChar : Bool) (s : Dumper) (p : Packet) : Prop :=
  p.accepted = true →
    (s.startDump = true → p.Records → s.comboT32Num < 2147483647) ∧
      (s.GoesOn p → p.isEmi = false → 0 < p.len signedChar →
        s.FileOpen p ∧ 29 + p.len signedChar ≤ p.size)

/-- The counter beside the list. -/
structure Counted (s : Dumper) : Prop where
  range : 0 ≤ s.comboT32Num ∧ s.comboT32Num ≤ 2147483647
  few : s.comboT32Num < comboT32NumMax → s.listHead = s.history ∧
    (s.listHead.length : Int) = s.comboT32Num
  many : comboT32NumMax ≤ s.comboT32Num → comboT32NumMax ≤ s.listHead.length + 1

def Inv (s : Dumper) : Prop := s.Sound ∧ s.Counted

variable {s t : Dumper} {p : Packet} {signedChar combo : Bool} {name : List UInt8}

/-- What the invariant is about, apart from what has been written. -/
theorem Inv.same (inv : s.Inv) (list : t.listHead = s.listHead) (history : t.history = s.history)
    (num : t.comboT32Num = s.comboT32Num) (overflowed : t.overflowed = s.overflowed)
    (written : ∀ w ∈ t.writes, w.stream = .opened ∧ w.upTo ≤ w.received) : t.Inv := by
  obtain ⟨sound, counted⟩ := inv
  refine ⟨⟨written, ?_, ?_, ?_, ?_⟩, ⟨?_, ?_, ?_⟩⟩
  · rw [overflowed]
    exact sound.unharmed
  · rw [list]
    exact sound.capacity
  · rw [list, history]
    exact sound.oldest
  · rw [list, history]
    exact sound.full
  · rw [num]
    exact counted.range
  · rw [num, list, history]
    exact counted.few
  · rw [num, list]
    exact counted.many

/-- A list that has to give up its oldest name has one. -/
theorem tail_suffix {list history : List (List UInt8)} (oldest : list <:+ history) :
    list.tail ++ [name] <:+ history ++ [name] := by
  obtain ⟨front, same⟩ := oldest
  cases list with
  | nil => exact ⟨history, rfl⟩
  | cons first rest => exact ⟨front ++ [first], by rw [← same]; simp⟩

theorem record_inv (inv : s.Inv) (room : s.comboT32Num < 2147483647) : (s.record name).Inv := by
  obtain ⟨sound, counted⟩ := inv
  have range := counted.range
  have inside : decide (s.comboT32Num + 1 > 2147483647) = false := by
    rw [decide_eq_false_iff_not]
    omega
  by_cases few : s.comboT32Num + 1 < comboT32NumMax
  · obtain ⟨all, same⟩ := counted.few (by simp only [comboT32NumMax] at few ⊢; omega)
    refine ⟨⟨sound.written, ?_, ?_, ?_, ?_⟩, ⟨?_, ?_, ?_⟩⟩
    · simp only [record, sound.unharmed, inside, Bool.or_false]
    all_goals simp only [record, if_pos few, List.length_append, List.length_singleton]
    · simp only [comboT32NumMax] at few ⊢
      omega
    · exact ⟨[], by simp [all]⟩
    · rw [all]
      exact .inl rfl
    · omega
    · intro _
      rw [all] at same ⊢
      exact ⟨rfl, by omega⟩
    · omega
  · have long : comboT32NumMax ≤ s.listHead.length + 1 := by
      by_cases before : s.comboT32Num < comboT32NumMax
      · have same := (counted.few before).2
        omega
      · exact counted.many (by omega)
    have some : 0 < s.listHead.length := by
      simp only [comboT32NumMax] at long
      omega
    have most := sound.capacity
    refine ⟨⟨sound.written, ?_, ?_, ?_, ?_⟩, ⟨?_, ?_, ?_⟩⟩
    · simp only [record, sound.unharmed, inside, Bool.or_false]
    all_goals simp only [record, if_neg few, List.length_append, List.length_singleton,
      List.length_tail]
    · omega
    · exact tail_suffix sound.oldest
    · exact .inr (by omega)
    · omega
    · intro less
      exact absurd less few
    · intro _
      omega

section Start

theorem startOfDump_refused (refused : ¬ p.Startable) : s.startOfDump p = (s, false) := by
  rw [startOfDump]
  by_cases long : p.fileNameLen > 100
  · rw [if_pos long]
  · by_cases none : p.folder = false
    · rw [if_neg long, if_pos none]
    · exact absurd ⟨Nat.le_of_not_gt long, Bool.not_eq_false _ ▸ none⟩ refused

theorem startOfDump_able (able : p.Startable) : s.startOfDump p =
    if p.coredumpMode = 2 then
      if p.t32Opens = false then
        ({ s with comboEmi := p.dumpFile emiEname, fpT32 := .null }, false)
      else ({ { s with comboEmi := p.dumpFile emiEname }.record (p.dumpFile comboT32Ename) with
        fpT32 := .opened, startDump := false }, true)
    else ({ s with comboEmi := p.dumpFile emiEname, startDump := false }, true) := by
  have folder : ¬ p.folder = false := by rw [able.2]; decide
  rw [startOfDump, if_neg (Nat.not_lt.mpr able.1), if_neg folder]

theorem startOfDump_inv (inv : s.Inv) (room : p.Records → s.comboT32Num < 2147483647) :
    (s.startOfDump p).1.Inv := by
  by_cases able : p.Startable
  · rw [startOfDump_able able]
    by_cases mode : p.coredumpMode = 2
    · rw [if_pos mode]
      by_cases fails : p.t32Opens = false
      · rw [if_pos fails]
        exact inv.same rfl rfl rfl rfl inv.1.written
      · rw [if_neg fails]
        have opens : p.t32Opens = true := by simpa using fails
        have named : ({ s with comboEmi := p.dumpFile emiEname } : Dumper).Inv :=
          inv.same rfl rfl rfl rfl inv.1.written
        have recorded := @record_inv _ (p.dumpFile comboT32Ename) named
          (room ⟨able, mode, opens⟩)
        exact recorded.same rfl rfl rfl rfl recorded.1.written
    · rw [if_neg mode]
      exact inv.same rfl rfl rfl rfl inv.1.written
  · rw [startOfDump_refused able]
    exact inv

/-- Whether a dump is gone on with when it is started. -/
theorem startOfDump_goes : (s.startOfDump p).2 = true ↔
    p.Startable ∧ (p.coredumpMode = 2 → p.t32Opens = true) := by
  by_cases able : p.Startable
  · rw [startOfDump_able able]
    by_cases mode : p.coredumpMode = 2
    · rw [if_pos mode]
      by_cases fails : p.t32Opens = false
      · simp [fails, mode]
      · simp [fails, mode, able]
    · simp [mode, able]
  · rw [startOfDump_refused able]
    simp [able]

theorem startOfDump_stream (goes : (s.startOfDump p).2 = true) : (s.startOfDump p).1.fpT32 =
    if p.coredumpMode = 2 then .opened else s.fpT32 := by
  obtain ⟨able, opens⟩ := startOfDump_goes.mp goes
  rw [startOfDump_able able]
  by_cases mode : p.coredumpMode = 2
  · rw [if_pos mode, if_pos mode, opens mode]
    rfl
  · rw [if_neg mode, if_neg mode]

/-- A counter that is at its end overflows when a name is recorded. -/
theorem startOfDump_overflowed (records : p.Records) (full : ¬ s.comboT32Num < 2147483647) :
    (s.startOfDump p).1.overflowed = true := by
  obtain ⟨able, mode, opens⟩ := records
  have more : s.comboT32Num + 1 > 2147483647 := by omega
  rw [startOfDump_able able, if_pos mode, opens]
  simp [record, more]

end Start

/-- Where a packet leads that is not turned away. -/
def started (s : Dumper) (p : Packet) : Dumper × Bool :=
  if s.startDump then s.startOfDump p else (s, true)

theorem started_goes : (s.started p).2 = true ↔ s.GoesOn p := by
  rw [started, GoesOn]
  by_cases starts : s.startDump = true
  · rw [if_pos starts, startOfDump_goes]
    exact ⟨fun goes _ => goes, fun goes => goes starts⟩
  · rw [if_neg starts]
    exact ⟨fun _ now => absurd now starts, fun _ => rfl⟩

theorem started_inv (inv : s.Inv)
    (room : s.startDump = true → p.Records → s.comboT32Num < 2147483647) : (s.started p).1.Inv := by
  rw [started]
  by_cases starts : s.startDump = true
  · rw [if_pos starts]
    exact startOfDump_inv inv (room starts)
  · rw [if_neg starts]
    exact inv

theorem started_stream (goes : (s.started p).2 = true) :
    (s.started p).1.fpT32 = .opened ↔ s.FileOpen p := by
  rw [started] at goes ⊢
  rw [FileOpen]
  by_cases starts : s.startDump = true
  · rw [if_pos starts] at goes ⊢
    rw [startOfDump_stream goes]
    by_cases mode : p.coredumpMode = 2
    · simp [starts, mode]
    · simp [mode]
  · simp [starts]

theorem decode_accepted (accepted : p.accepted = true) : s.traceLoggerDecode signedChar combo p =
    if (s.started p).2 = false then (s.started p).1
    else if p.isEmi then (s.started p).1.emiDump p
    else (s.started p).1.dumpData signedChar combo p := by
  rw [traceLoggerDecode, accepted, if_neg (by decide)]
  rfl

/-- What is written for `emicoredump` is not of the packet. -/
theorem emiDump_inv (inv : s.Inv) (size : 0 ≤ p.size) : (s.emiDump p).Inv := by
  rw [emiDump]
  split
  · exact inv.same rfl rfl rfl rfl inv.1.written
  · refine inv.same rfl rfl rfl rfl ?_
    intro w there
    cases List.mem_append.mp there with
    | inl before => exact inv.1.written w before
    | inr here =>
        cases List.mem_singleton.mp here
        exact ⟨rfl, size⟩

/-- What is written by `dumpData`. -/
def newWrites (s : Dumper) (signedChar : Bool) (p : Packet) : List Written :=
  if 0 < p.len signedChar then s.writes ++ [⟨s.fpT32, 29 + p.len signedChar, p.size⟩] else s.writes

theorem dumpData_writes : (s.dumpData signedChar combo p).writes = s.newWrites signedChar p := by
  rw [dumpData]
  split <;> rfl

theorem dumpData_inv (inv : s.Inv) (opened : 0 < p.len signedChar →
    s.fpT32 = .opened ∧ 29 + p.len signedChar ≤ p.size) :
    (s.dumpData signedChar combo p).Inv := by
  have written : ∀ w ∈ s.newWrites signedChar p, w.stream = .opened ∧ w.upTo ≤ w.received := by
    intro w there
    rw [newWrites] at there
    by_cases data : 0 < p.len signedChar
    · rw [if_pos data] at there
      cases List.mem_append.mp there with
      | inl before => exact inv.1.written w before
      | inr here =>
          cases List.mem_singleton.mp here
          exact opened data
    · rw [if_neg data] at there
      exact inv.1.written w there
  rw [dumpData]
  split
  · exact inv.same rfl rfl rfl rfl written
  · exact inv.same rfl rfl rfl rfl written

theorem decode_inv (inv : s.Inv) (meets : s.Meets signedChar p) :
    (s.traceLoggerDecode signedChar combo p).Inv := by
  cases accepted : p.accepted with
  | false =>
      rw [traceLoggerDecode, if_pos accepted]
      exact inv
  | true =>
      obtain ⟨room, data⟩ := meets accepted
      have begun := started_inv inv room
      rw [decode_accepted accepted]
      by_cases goes : (s.started p).2 = true
      · rw [if_neg (by rw [goes]; decide)]
        by_cases emi : p.isEmi = true
        · rw [if_pos emi]
          exact emiDump_inv begun (Packet.accepted_size accepted)
        · rw [if_neg emi]
          refine dumpData_inv begun fun some => ?_
          have inside := data (started_goes.mp goes) (by simpa using emi) some
          exact ⟨(started_stream goes).mpr inside.1, inside.2⟩
      · rw [if_pos (by simpa using goes)]
        exact begun

theorem emiDump_overflowed : (s.emiDump p).overflowed = s.overflowed := by
  rw [emiDump]
  split <;> rfl

theorem dumpData_overflowed : (s.dumpData signedChar combo p).overflowed = s.overflowed := by
  rw [dumpData]
  split <;> rfl

/-- A counter that has overflowed when a dump is started stays so. -/
theorem decode_overflowed (accepted : p.accepted = true)
    (wrapped : (s.started p).1.overflowed = true) :
    (s.traceLoggerDecode signedChar combo p).overflowed = true := by
  rw [decode_accepted accepted]
  split
  · exact wrapped
  · split
    · rw [emiDump_overflowed, wrapped]
    · rw [dumpData_overflowed, wrapped]

/-- Data for which the file is not open or that reach too far are written all the same. -/
theorem decode_astray (accepted : p.accepted = true) (goes : s.GoesOn p) (emi : p.isEmi = false)
    (data : 0 < p.len signedChar)
    (astray : ¬ (s.FileOpen p ∧ 29 + p.len signedChar ≤ p.size)) :
    ¬ (s.traceLoggerDecode signedChar combo p).Sound := by
  have on := started_goes.mpr goes
  rw [decode_accepted accepted, if_neg (by rw [on]; decide), emi, if_neg Bool.false_ne_true]
  intro sound
  have here : (⟨(s.started p).1.fpT32, 29 + p.len signedChar, p.size⟩ : Written) ∈
      ((s.started p).1.dumpData signedChar combo p).writes := by
    rw [dumpData_writes, newWrites, if_pos data]
    exact List.mem_append_right _ List.mem_cons_self
  have good := sound.written _ here
  exact astray ⟨(started_stream on).mp good.1, good.2⟩

theorem decode_broken (misses : ¬ s.Meets signedChar p) :
    ¬ (s.traceLoggerDecode signedChar combo p).Sound := by
  rw [Meets, Classical.not_imp, not_and_or] at misses
  obtain ⟨accepted, counter | data⟩ := misses
  · simp only [Classical.not_imp] at counter
    obtain ⟨starts, records, full⟩ := counter
    have wrapped : (s.started p).1.overflowed = true := by
      rw [started, if_pos starts]
      exact startOfDump_overflowed records full
    intro sound
    have still := @decode_overflowed _ _ signedChar combo accepted wrapped
    rw [sound.unharmed] at still
    cases still
  · simp only [Classical.not_imp] at data
    obtain ⟨goes, emi, some, astray⟩ := data
    exact decode_astray accepted goes emi some astray

/-- A step of a run. -/
def step (signedChar combo : Bool) (s : Dumper) (p : Packet) : Option Dumper :=
  some (s.traceLoggerDecode signedChar combo p)

theorem runs_sound_iff_of_inv (inv : s.Inv) (packets : List Packet) :
    AllStates (step signedChar combo) Sound s packets ↔
      StepsMeet (step signedChar combo) (Meets signedChar) s packets := by
  refine @allStates_iff_stepsMeet _ _ _ Inv _ _ ?kept (fun _ inv => inv.1) ?broken _ _ inv
  case kept =>
    intro s p t inv meets taken
    cases taken
    exact decode_inv inv meets
  case broken =>
    intro s p t _ misses taken
    cases taken
    exact decode_broken misses

end Dumper

/-- The directory gives at most as many names as the list has room for. -/
theorem foundNames_length (left : Nat) (dir : List (List UInt8)) :
    (foundNames left dir).length ≤ left := by
  induction dir generalizing left with
  | nil => exact Nat.zero_le _
  | cons row rest ih =>
      rw [foundNames]
      split
      · exact ih left
      · split
        · exact Nat.zero_le _
        · split
          · exact Nat.zero_le _
          · have behind := ih (left - 1)
            rw [List.length_cons]
            omega

/-- The dumper begins with at most fifty names, none of them gone. -/
theorem traceLoggerInit_inv {atoi : List UInt8 → Int} {dir : List (List UInt8)} {s : Dumper}
    (start : traceLoggerInit atoi dir = some s) : s.Inv := by
  obtain ⟨fileName, sorted, rest⟩ := Option.bind_eq_some_iff.mp start
  have same : fileName.length = (foundNames comboT32NumMax dir).length := Bubble.passes_length sorted
  have most := foundNames_length comboT32NumMax dir
  have few : fileName.length ≤ 50 := by rw [same]; exact most
  dsimp only at rest
  split at rest
  · cases rest
    refine ⟨⟨?_, rfl, ?_, List.suffix_refl _, .inl rfl⟩, ⟨?_, ?_, ?_⟩⟩
    · intro w none
      cases none
    · rw [List.length_map]
      exact few
    · exact ⟨Int.natCast_nonneg _, by show (fileName.length : Int) ≤ 2147483647; omega⟩
    · intro _
      exact ⟨rfl, by rw [List.length_map]⟩
    · intro all
      rw [List.length_map]
      have many : (comboT32NumMax : Int) ≤ fileName.length := all
      omega
  · cases rest

/-- From any start of the dumper and over any row of packets, in any modes: all is well as long as
every step meets its condition, and no longer. -/
theorem packets_sound_iff (signedChar combo : Bool) (atoi : List UInt8 → Int)
    (dir : List (List UInt8)) (s : Dumper) (start : traceLoggerInit atoi dir = some s)
    (packets : List Packet) :
    AllStates (Dumper.step signedChar combo) Dumper.Sound s packets ↔
      StepsMeet (Dumper.step signedChar combo) (Dumper.Meets signedChar) s packets :=
  Dumper.runs_sound_iff_of_inv (traceLoggerInit_inv start) packets

/-- A packet with a text for its data, which has come whole, at noon of the 1st of January 2024. -/
def textPacket (coredumpMode : Int) (text : List UInt8) : Packet where
  coredumpMode := coredumpMode
  size := 29 + text.length
  mBuffer := ⟨List.replicate 64 0 ++ [29 + UInt8.ofNat text.length, 0, 0, 0, 16, 0, 0, 0, 0, 0, 0, 0,
    0, 0, 0, 0, 0, 0, 0, 0, 0, 0, 0, 0, 91, 77, 93, UInt8.ofNat text.length, 0] ++ text ++ [0], 64⟩
  date := ascii "20240101120000"
  folder := true
  t32Opens := true
  emiOpens := true

/-- The state of a dumper that has found no dumps. -/
def atStart : Dumper := ⟨.closed, true, 0, [], [], [], [], false⟩

/-- A dump of two packets in mode 2. -/
theorem packets_sound_dump :
    AllStates (Dumper.step false true) Dumper.Sound atStart
        [textPacket 2 (ascii "a dump"), textPacket 2 (ascii "coredump end")] ↔
      StepsMeet (Dumper.step false true) (Dumper.Meets false) atStart
        [textPacket 2 (ascii "a dump"), textPacket 2 (ascii "coredump end")] :=
  packets_sound_iff false true atoi64 [] atStart (by decide) _

/-- A packet in mode 1, in which no file is opened for its data. -/
theorem not_packets_sound : ¬ ∀ (dir : List (List UInt8)) (s : Dumper) (packets : List Packet),
    traceLoggerInit atoi64 dir = some s →
      AllStates (Dumper.step false true) Dumper.Sound s packets := by
  intro sound
  have all := sound [] atStart [textPacket 1 (ascii "a dump")] (by decide)
  have after : Dumper.Sound (atStart.traceLoggerDecode false true (textPacket 1 (ascii "a dump"))) :=
    all.2 _ rfl
  have astray : (⟨.closed, 35, 35⟩ : Written) ∈
      (atStart.traceLoggerDecode false true (textPacket 1 (ascii "a dump"))).writes := by
    decide +kernel
  cases (after.written _ astray).1

end Connectivity.StpDump
