import Connectivity.Bytes.Guards

set_option autoImplicit false

/- The performance counters of the Bluetooth driver: which of them a packet is counted in. -/
namespace Connectivity.Bperf

open Bytes

inductive ThreadStatus
  | unknown | running | stopped
  deriving DecidableEq, Repr

structure BperfEvent where
  id : UInt16
  time : UInt32
  bufLen : UInt32
  deriving DecidableEq, Repr

/-- The arrays of events that packets are recorded in. -/
inductive EventKind
  | voice | rcFwUpgrade | hid | hogp | a2dp
  deriving DecidableEq, Repr

/-- The globals that a packet is looked at with and that it may change. -/
structure Counters where
  mainThreadStatus : ThreadStatus
  mainThreadShouldStop : UInt32
  globalBitpool : UInt8
  globalVobleCodec : UInt8
  events : EventKind → List BperfEvent

/-- `_bperf_record_event`: the first free place of an array, from place `i` on. -/
def recordEvent (time bufLen : UInt32) : Nat → List BperfEvent → List BperfEvent
  | _, [] => []
  | i, event :: rest =>
      if event.id = 0 ∧ event.time = 0 then ⟨UInt16.ofNat (1 + i), time, bufLen⟩ :: rest
      else event :: recordEvent time bufLen (i + 1) rest

/-- Where the bitpool of a packet is taken from. -/
inductive Bitpool
  | kept | sink | src
  deriving DecidableEq, Repr

/-- What is done with a packet that is known. -/
structure Counted where
  event : EventKind
  codec : Option UInt8
  bitpool : Bitpool
  deriving DecidableEq, Repr

def voiceSearch : List (Rule Counted) :=
  -- HT RC Voice Search (2541)
  [⟨[.length [12, 31], .byte 2 [0x08, 0x1b], .byte 3 [0], .byte 8 [0x1b], .byte 9 [0x35],
      .byte 10 [0]], ⟨.voice, some 0, .kept⟩⟩,
   -- HT RC Voice Search (2640)
   ⟨[.length [31], .byte 2 [0x1b], .byte 3 [0], .byte 8 [0x1b], .byte 9 [0x3f], .byte 10 [0]],
      ⟨.voice, some 0, .kept⟩⟩,
   -- HT RC Voice Search (2640)(BLE Data Length Extension)
   ⟨[.length [111], .byte 2 [0x6b], .byte 3 [0], .byte 8 [0x1b], .byte 9 [0x3f], .byte 10 [0]],
      ⟨.voice, some 0, .kept⟩⟩,
   -- Airoha Voice Search
   ⟨[.length [31], .byte 2 [0x1b], .byte 3 [0], .byte 8 [0x1b], .byte 9 [0x29], .byte 10 [0]],
      ⟨.voice, some 0, .kept⟩⟩]

/-- Nordic Voice Search, of Turnkey with 0x1d and of Huitong with 0x23. -/
def nordicVoiceSearch (vendor : UInt8) : Rule Counted :=
  ⟨[.byte 3 [0], .byte 8 [0x1b], .byte 9 [vendor], .byte 10 [0]], ⟨.voice, some 1, .kept⟩⟩

def buttons : List (Rule Counted) :=
  -- HT RC Button
  [⟨[.length [12], .byte 2 [0x08], .byte 3 [0], .byte 4 [0x04], .byte 5 [0], .byte 8 [0x1b]],
      ⟨.hogp, none, .kept⟩⟩,
   -- Logitech Keyboard
   ⟨[.length [18], .byte 2 [0x0e], .byte 3 [0], .byte 4 [0x0a], .byte 5 [0], .byte 8 [0xa1]],
      ⟨.hid, none, .kept⟩⟩,
   -- Microsoft Designer BLE Mouse
   ⟨[.length [20], .byte 2 [0x10], .byte 3 [0], .byte 4 [0x0c], .byte 5 [0], .byte 8 [0x1b]],
      ⟨.hogp, none, .kept⟩⟩,
   -- Elecom BLE Mouse
   ⟨[.length [17], .byte 2 [0x0d], .byte 3 [0], .byte 4 [0x09], .byte 5 [0], .byte 8 [0x1b]],
      ⟨.hogp, none, .kept⟩⟩,
   -- Logitech M557
   ⟨[.length [16], .byte 2 [0x0c], .byte 3 [0], .byte 4 [0x08], .byte 5 [0], .byte 8 [0xa1]],
      ⟨.hid, none, .kept⟩⟩,
   -- DS4
   ⟨[.length [19], .byte 2 [0x0f], .byte 3 [0], .byte 4 [0x0b], .byte 5 [0], .byte 8 [0xa1]],
      ⟨.hid, none, .kept⟩⟩]

def a2dpSink : Rule Counted := ⟨[.byte 8 [0x80], .byte 9 [0x60]], ⟨.a2dp, none, .sink⟩⟩

def a2dpSrcAndUpgrade : List (Rule Counted) :=
  [⟨[.length [587], .byte 8 [0x80], .byte 9 [0x60], .byte 20 [0]], ⟨.a2dp, none, .src⟩⟩,
   -- HT RC FW Upgrade
   ⟨[.length [29], .byte 2 [0x19], .byte 3 [0], .byte 4 [0x15], .byte 5 [0], .byte 9 [0x48],
      .byte 10 [0]], ⟨.rcFwUpgrade, none, .kept⟩⟩]

/-- The branches of `bperf_notify_data`, in their order. -/
def branches : List (Rule Counted) :=
  voiceSearch ++ nordicVoiceSearch 0x1d :: nordicVoiceSearch 0x23 ::
    (buttons ++ a2dpSink :: a2dpSrcAndUpgrade)

/-- The byte that a bitpool is in. -/
def bitpoolAt (buf : Nat → UInt8) : Bitpool → Option Nat
  | .kept => none
  | .sink => if buf 20 = 0 then some 24 else some 23
  | .src => some 24

/-- What is read of a packet once it is known: whether it is protected, and its bitpool. -/
def countedReads (buf : Nat → UInt8) (counted : Counted) : List Nat :=
  (if counted.bitpool = .sink then [20] else []) ++ (bitpoolAt buf counted.bitpool).toList

def count (s : Counters) (time : UInt32) (buf : Nat → UInt8) (bufLen : UInt32) (counted : Counted) :
    Counters :=
  { s with
    globalVobleCodec := counted.codec.getD s.globalVobleCodec
    events := Function.update s.events counted.event
      (recordEvent time bufLen 0 (s.events counted.event))
    globalBitpool := ((bitpoolAt buf counted.bitpool).map buf).getD s.globalBitpool }

/-- The packets are counted. -/
def Counters.Running (s : Counters) : Prop := s.mainThreadStatus = .running ∧ s.mainThreadShouldStop = 0

instance (s : Counters) : Decidable s.Running := inferInstanceAs (Decidable (_ ∧ _))

/-- `bperf_notify_data` at a time, with the offsets of `buf` that it reads; what lies behind the
packet is there to be read as well. -/
def bperfNotifyData (s : Counters) (time : UInt32) (buf : Nat → UInt8) (bufLen : UInt32) :
    Counters × List Nat :=
  if s.Running then
    ((firstRule buf bufLen.toNat branches).elim s (count s time buf bufLen),
      ruleReads buf bufLen.toNat (countedReads buf) branches)
  else (s, [])

/-- The reads stay inside of the packet. -/
def ReadsInside (s : Counters) (time : UInt32) (buf : Nat → UInt8) (bufLen : UInt32) : Prop :=
  ∀ read ∈ (bperfNotifyData s time buf bufLen).2, read < bufLen.toNat

/-- A packet is long enough for the branches that do not ask for its length: those for a voice
search of Nordic and that for an A2DP sink. -/
structure LongEnough (buf : Nat → UInt8) (len : Nat) : Prop where
  any : 9 ≤ len
  notification : buf 3 = 0 → buf 8 = 0x1b → 10 ≤ len ∧ (buf 9 = 0x1d ∨ buf 9 = 0x23 → 11 ≤ len)
  media : buf 8 = 0x80 → 10 ≤ len ∧ (buf 9 = 0x60 → 24 ≤ len ∧ (buf 20 = 0 → 25 ≤ len))

variable {buf : Nat → UInt8} {len : Nat} {rule : Rule Counted}

theorem voiceSearch_guarded : ∀ rule ∈ voiceSearch, rule.guarded (countedReads buf) = true := by
  intro rule there
  simp only [voiceSearch, List.mem_cons, List.not_mem_nil, or_false] at there
  rcases there with rfl | rfl | rfl | rfl <;> rfl

theorem buttons_guarded : ∀ rule ∈ buttons, rule.guarded (countedReads buf) = true := by
  intro rule there
  simp only [buttons, List.mem_cons, List.not_mem_nil, or_false] at there
  rcases there with rfl | rfl | rfl | rfl | rfl | rfl <;> rfl

theorem a2dpSrcAndUpgrade_guarded :
    ∀ rule ∈ a2dpSrcAndUpgrade, rule.guarded (countedReads buf) = true := by
  intro rule there
  simp only [a2dpSrcAndUpgrade, List.mem_cons, List.not_mem_nil, or_false] at there
  rcases there with rfl | rfl <;> rfl

/-- A voice search that is asked for by its length is none of Nordic, and is long. -/
theorem voiceSearch_holds (there : rule ∈ voiceSearch) (held : holds buf len rule.tests = true) :
    12 ≤ len ∧ buf 8 = 0x1b ∧ buf 9 ≠ 0x1d ∧ buf 9 ≠ 0x23 := by
  simp only [voiceSearch, List.mem_cons, List.not_mem_nil, or_false] at there
  rcases there with rfl | rfl | rfl | rfl
  all_goals
    simp only [holds, List.all_cons, List.all_nil, Test.holds, Bool.and_eq_true,
      decide_eq_true_eq, List.mem_cons, List.not_mem_nil, or_false] at held
    obtain ⟨long, _, _, eighth, ninth, _⟩ := held
    rw [eighth, ninth]
    exact ⟨by omega, rfl, by decide, by decide⟩

theorem buttons_holds (there : rule ∈ buttons) (held : holds buf len rule.tests = true) :
    12 ≤ len ∧ buf 8 ≠ 0x80 := by
  simp only [buttons, List.mem_cons, List.not_mem_nil, or_false] at there
  rcases there with rfl | rfl | rfl | rfl | rfl | rfl
  all_goals
    simp only [holds, List.all_cons, List.all_nil, Test.holds, Bool.and_eq_true,
      decide_eq_true_eq, List.mem_cons, List.not_mem_nil, or_false] at held
    obtain ⟨long, _, _, _, _, eighth, _⟩ := held
    rw [eighth]
    exact ⟨by omega, by decide⟩

/-- The tests for an A2DP sink. -/
theorem forall_sinkTests : (∀ read ∈ testReads buf len a2dpSink.tests, read < len) ↔
    8 < len ∧ (buf 8 = 0x80 → 9 < len) := by
  simp only [a2dpSink, forall_testReads_byte, List.mem_singleton]
  simp [testReads]

theorem sink_holds : holds buf len a2dpSink.tests = true ↔ buf 8 = 0x80 ∧ buf 9 = 0x60 := by
  simp [a2dpSink, holds, Test.holds]

theorem forall_sinkReads : (∀ read ∈ countedReads buf a2dpSink.does, read < len) ↔
    24 ≤ len ∧ (buf 20 = 0 → 25 ≤ len) := by
  by_cases scms : buf 20 = 0
  · simp only [countedReads, a2dpSink, bitpoolAt, scms]
    simp
    omega
  · simp only [countedReads, a2dpSink, bitpoolAt, scms]
    simp
    omega

/-- What is read of a packet that gets as far as the question for an A2DP sink. -/
theorem forall_media : (∀ read ∈ ruleReads buf len (countedReads buf)
      (a2dpSink :: a2dpSrcAndUpgrade), read < len) ↔
    9 ≤ len ∧ (buf 8 = 0x80 → 10 ≤ len ∧
      (buf 9 = 0x60 → 24 ≤ len ∧ (buf 20 = 0 → 25 ≤ len))) := by
  have behind := @forall_guarded _ buf len _ _ (@a2dpSrcAndUpgrade_guarded buf)
  rw [forall_ruleReads_cons, forall_sinkTests, sink_holds, forall_sinkReads]
  constructor
  · rintro ⟨⟨any, media⟩, sink, _⟩
    exact ⟨any, fun eighth => ⟨media eighth, fun ninth => sink ⟨eighth, ninth⟩⟩⟩
  · rintro ⟨any, media⟩
    exact ⟨⟨any, fun eighth => (media eighth).1⟩, fun both => (media both.1).2 both.2,
      fun _ => behind⟩

theorem forall_nordicTests {vendor : UInt8} :
    (∀ read ∈ testReads buf len (nordicVoiceSearch vendor).tests, read < len) ↔
      3 < len ∧ (buf 3 = 0 → 8 < len ∧ (buf 8 = 0x1b → 9 < len ∧ (buf 9 = vendor → 10 < len))) := by
  simp only [nordicVoiceSearch, forall_testReads_byte, List.mem_singleton]
  simp [testReads]

theorem nordic_holds {vendor : UInt8} : holds buf len (nordicVoiceSearch vendor).tests = true ↔
    buf 3 = 0 ∧ buf 8 = 0x1b ∧ buf 9 = vendor ∧ buf 10 = 0 := by
  simp [nordicVoiceSearch, holds, Test.holds]

/-- What is read for a voice search of Nordic. -/
theorem forall_nordic {vendor : UInt8} {rest : List (Rule Counted)} :
    (∀ read ∈ ruleReads buf len (countedReads buf) (nordicVoiceSearch vendor :: rest), read < len) ↔
      (3 < len ∧ (buf 3 = 0 → 8 < len ∧ (buf 8 = 0x1b → 9 < len ∧ (buf 9 = vendor → 10 < len)))) ∧
        (¬ (buf 3 = 0 ∧ buf 8 = 0x1b ∧ buf 9 = vendor ∧ buf 10 = 0) →
          ∀ read ∈ ruleReads buf len (countedReads buf) rest, read < len) := by
  have nothing : ∀ read ∈ countedReads buf (nordicVoiceSearch vendor).does, read < len := by
    intro read there
    cases there
  rw [forall_ruleReads_cons, forall_nordicTests, ← Bool.not_eq_true, nordic_holds]
  constructor
  · rintro ⟨tests, _, behind⟩
    exact ⟨tests, behind⟩
  · rintro ⟨tests, behind⟩
    exact ⟨tests, fun _ => nothing, behind⟩

/-- A packet of a notification is long enough if it reaches its eleventh byte. -/
theorem longEnough_notification (eighth : buf 8 ≠ 0x80) (long : 11 ≤ len) : LongEnough buf len :=
  ⟨by omega, fun _ _ => ⟨by omega, fun _ => long⟩, fun media => absurd media eighth⟩

theorem notification_ne (eighth : buf 8 = 0x1b) : buf 8 ≠ 0x80 := by
  rw [eighth]
  decide

/-- What is read of a packet that no voice search with a length of its own takes. -/
theorem forall_open (untaken : ¬ ∃ rule ∈ voiceSearch, holds buf len rule.tests = true) :
    (∀ read ∈ ruleReads buf len (countedReads buf) branches, read < len) ↔ LongEnough buf len := by
  rw [branches, forall_guarded_append voiceSearch_guarded, or_iff_right untaken, forall_nordic,
    forall_nordic, forall_guarded_append buttons_guarded, forall_media]
  constructor
  · rintro ⟨⟨_, turnkey⟩, behind⟩
    by_cases isTurnkey : buf 3 = 0 ∧ buf 8 = 0x1b ∧ buf 9 = 0x1d ∧ buf 10 = 0
    · obtain ⟨third, eighth, ninth, _⟩ := isTurnkey
      exact longEnough_notification (notification_ne eighth)
        (((turnkey third).2 eighth).2 ninth)
    · obtain ⟨⟨_, huitong⟩, later⟩ := behind isTurnkey
      by_cases isHuitong : buf 3 = 0 ∧ buf 8 = 0x1b ∧ buf 9 = 0x23 ∧ buf 10 = 0
      · obtain ⟨third, eighth, ninth, _⟩ := isHuitong
        exact longEnough_notification (notification_ne eighth)
          (((huitong third).2 eighth).2 ninth)
      · cases later isHuitong with
        | inl button =>
            obtain ⟨rule, there, held⟩ := button
            have long := buttons_holds there held
            exact longEnough_notification long.2 (by omega)
        | inr media =>
            refine ⟨media.1, fun third eighth => ?_, media.2⟩
            have first := (turnkey third).2 eighth
            have second := (huitong third).2 eighth
            exact ⟨first.1, fun ninth => ninth.elim first.2 second.2⟩
  · rintro ⟨any, notification, media⟩
    refine ⟨⟨by omega, fun third => ⟨by omega, fun eighth => ?_⟩⟩, fun _ =>
      ⟨⟨by omega, fun third => ⟨by omega, fun eighth => ?_⟩⟩, fun _ => .inr ⟨any, media⟩⟩⟩
    · exact ⟨(notification third eighth).1, fun ninth => (notification third eighth).2 (.inl ninth)⟩
    · exact ⟨(notification third eighth).1, fun ninth => (notification third eighth).2 (.inr ninth)⟩

/-- All the reads of a packet are inside of it. -/
theorem branches_inside :
    (∀ read ∈ ruleReads buf len (countedReads buf) branches, read < len) ↔ LongEnough buf len := by
  by_cases taken : ∃ rule ∈ voiceSearch, holds buf len rule.tests = true
  · obtain ⟨rule, there, held⟩ := taken
    obtain ⟨long, eighth, turnkey, huitong⟩ := voiceSearch_holds there held
    rw [branches, forall_guarded_append voiceSearch_guarded]
    refine ⟨fun _ => ⟨by omega, fun _ _ => ⟨by omega, fun ninth => ?_⟩, fun media => ?_⟩,
      fun _ => .inl ⟨rule, there, held⟩⟩
    · exact absurd ninth (not_or.mpr ⟨turnkey, huitong⟩)
    · rw [eighth] at media
      exact absurd media (by decide)
  · exact forall_open taken

/-- The packets of which nothing is read behind their end. -/
theorem reads_inside_iff (s : Counters) (time : UInt32) (buf : Nat → UInt8) (bufLen : UInt32) :
    ReadsInside s time buf bufLen ↔ (s.Running → LongEnough buf bufLen.toNat) := by
  rw [ReadsInside, bperfNotifyData]
  by_cases running : s.Running
  · rw [if_pos running, branches_inside]
    exact ⟨fun enough _ => enough, fun enough => enough running⟩
  · rw [if_neg running]
    exact ⟨fun _ now => absurd now running, fun _ _ none => absurd none List.not_mem_nil⟩

/-- A Command Complete for a reset, of seven bytes. -/
theorem not_reads_inside : ¬ ReadsInside ⟨.running, 0, 0, 0, fun _ => []⟩ 0
    (fun i => [0x04, 0x0e, 0x04, 0x01, 0x03, 0x0c, 0x00].getD i 0) 7 := by
  unfold ReadsInside
  decide

end Connectivity.Bperf
