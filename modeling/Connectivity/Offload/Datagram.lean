import Connectivity.Offload.Handlers
import Connectivity.Transition.Run

set_option autoImplicit false

namespace Connectivity.Offload

open Bytes Transition

variable {side : Side} {s : Link} {prmsg : HalMsg} {datagram : List UInt8}

/-- A copy of received bytes alone that fits its destination, and is forwarded by no
more than its own size. -/
structure Copy.Within (copy : Copy) (received : Nat) : Prop where
  copied : copy.size ≤ received
  room : copy.size ≤ copy.capacity
  forwarded : copy.length.toNat ≤ copy.size

/-- Every copy a datagram leads to is within the bytes received for its command. -/
def CopiesWithin (side : Side) (s : Link) (datagram : List UInt8) : Prop :=
  ∀ prmsg, receive datagram = some prmsg → ∀ copy, (mainHdlr side prmsg s).copy = some copy →
    copy.Within prmsg.received.length

/-- Where the bytes of a command go: to a slot of the queue, to a block of their own. -/
inductive Place
  | slot | block | nowhere
  deriving DecidableEq, Repr

def flpPlace (s : Link) : HalCmd → Place
  | .startCmd | .diagInjectDataNtf =>
      if s.mnldStatus ≠ .oflLinkOpenDone ∧ s.queue.length < Side.flp.maxBatchingMsg then .slot
      else .nowhere
  | .setOptionCmd | .requestLocNtf | .flushLocNtf | .connScreenStatus =>
      if s.mnldStatus = .oflLinkOpenDone then .block else .nowhere
  | .initCmd | .stopCmd | .dcStartCmd | .dcStopCmd | .geofenceInjectLoc | .other => .nowhere

def gfcPlace (s : Link) : HalCmd → Place
  | .initCmd | .geofenceInjectLoc => .nowhere
  | .connScreenStatus => if s.mnldStatus = .oflLinkOpenDone then .block else .nowhere
  | .startCmd | .stopCmd | .setOptionCmd | .diagInjectDataNtf | .requestLocNtf | .flushLocNtf
  | .dcStartCmd | .dcStopCmd | .other =>
      if s.mnldStatus = .oflLinkOpenDone then .block
      else if s.queue.length < Side.gfc.maxBatchingMsg then .slot
      else .nowhere

/-- In the offload mode alone. -/
def place (side : Side) (s : Link) (cmd : HalCmd) : Place :=
  if s.modeFlag = .offloadMode then
    match side with
    | .flp => flpPlace s cmd
    | .gfc => gfcPlace s cmd
  else .nowhere

/-- The length field tells of bytes that were received. -/
def HalMsg.LengthReceived (prmsg : HalMsg) : Prop :=
  0 ≤ 8 + prmsg.length ∧ 8 + prmsg.length ≤ prmsg.received.length

/-- What the length field of a command has to be where its bytes go. A length below −20
asks for no block that could be had. -/
def LengthFits (side : Side) (prmsg : HalMsg) : Place → Prop
  | .slot => prmsg.LengthReceived ∧ 8 + prmsg.length ≤ side.mnlPayloadLen
  | .block => -20 ≤ prmsg.length → prmsg.LengthReceived
  | .nowhere => True

/-- The message that a datagram holds was received with it, and fits the buffer. -/
theorem receive_length (received : receive datagram = some prmsg) :
    prmsg.received.length ≤ datagram.length - 4 ∧ prmsg.received.length ≤ mnlBuffSize := by
  simp only [receive] at received
  split at received
  · cases received
  · split at received
    · rw [← Option.some.inj received]
      simp only [List.length_take, List.length_drop]
      omega
    · cases received

/-- A length that was received makes the size what it says. -/
theorem size_eq (positive : 0 ≤ 8 + prmsg.length) : (prmsg.size : Int) = 8 + prmsg.length := by
  have range := prmsg.length_range
  rw [HalMsg.size]
  omega

/-- A length below −8 wraps around. -/
theorem size_wraps (negative : ¬ 0 ≤ 8 + prmsg.length) : mnlBuffSize < prmsg.size := by
  have range := prmsg.length_range
  have small : mnlBuffSize = 1024 := rfl
  rw [HalMsg.size]
  omega

theorem linkSend_length_le (positive : 0 ≤ 8 + prmsg.length) :
    (BitVec.ofInt 32 (prmsg.length + 8)).toNat ≤ prmsg.size := by
  have size := size_eq positive
  rw [BitVec.toNat_ofInt]
  omega

/-- A copy by the length field is right exactly when the length was received and fits. -/
theorem copy_within_iff (buffer : prmsg.received.length ≤ mnlBuffSize) (capacity : Nat) :
    (Copy.mk prmsg.size capacity (BitVec.ofInt 32 (prmsg.length + 8))).Within
        prmsg.received.length ↔
      prmsg.LengthReceived ∧ 8 + prmsg.length ≤ capacity := by
  by_cases positive : 0 ≤ 8 + prmsg.length
  · have size := size_eq positive
    refine ⟨fun within => ?_, fun fits => ?_⟩
    · have copied := within.copied
      have room := within.room
      simp only at copied room
      exact ⟨⟨positive, by omega⟩, by omega⟩
    · have inside := fits.1.2
      have room := fits.2
      have copied := linkSend_length_le positive
      constructor
      case copied => simp only; omega
      case room => simp only; omega
      case forwarded => simp only; exact copied
  · refine ⟨fun within => ?_, fun fits => absurd fits.1.1 positive⟩
    have wraps := size_wraps positive
    have copied := within.copied
    simp only at copied
    omega

/-- The copy that a place stands for. -/
def copyTo (side : Side) (prmsg : HalMsg) : Place → Option Copy
  | .slot => some ⟨prmsg.size, side.mnlPayloadLen, BitVec.ofInt 32 (prmsg.length + 8)⟩
  | .block =>
      if prmsg.mallocSize < 2 ^ 63 then
        some ⟨prmsg.size, prmsg.mallocSize - 12, BitVec.ofInt 32 (prmsg.length + 8)⟩
      else none
  | .nowhere => none

theorem queueMsg_copy :
    (queueMsg side prmsg (openFirst (accept prmsg s))).copy =
      copyTo side prmsg (if s.queue.length < side.maxBatchingMsg then .slot else .nowhere) := by
  have queue : (openFirst (accept prmsg s)).queue = s.queue := openFirst_queue (accept prmsg s)
  rw [queueMsg, queue]
  split <;> rfl

theorem forward_copy : (forward prmsg s).copy = copyTo side prmsg .block := by
  rw [forward, copyTo]
  split <;> rfl

theorem flp_copy (offload : s.modeFlag = .offloadMode) :
    (mtkHal2flpMainHdlr prmsg s).copy = copyTo .flp prmsg (flpPlace s prmsg.cmd) := by
  cases cmdClass prmsg.cmd with
  | start start =>
      have goes : flpPlace s prmsg.cmd =
          if s.mnldStatus ≠ .oflLinkOpenDone ∧ s.queue.length < Side.flp.maxBatchingMsg then .slot
          else .nowhere := by
        rcases start with cmd | cmd <;> rw [cmd] <;> rfl
      rw [flp_start offload start, goes]
      by_cases closed : s.mnldStatus ≠ .oflLinkOpenDone
      · rw [if_pos closed, queueMsg_copy]
        simp only [closed, not_false_eq_true, ne_eq, true_and]
      · rw [if_neg closed, if_neg fun both => closed both.1]
        rfl
  | stop stop =>
      rw [flp_stop offload stop, stop]
      rfl
  | passed passed =>
      have goes : flpPlace s prmsg.cmd =
          if s.mnldStatus = .oflLinkOpenDone then .block else .nowhere := by
        rcases passed with cmd | cmd | cmd | cmd <;> rw [cmd] <;> rfl
      rw [flp_passed offload passed, goes]
      by_cases opened : s.mnldStatus = .oflLinkOpenDone
      · rw [if_pos opened, if_pos opened]
        exact forward_copy
      · rw [if_neg opened, if_neg opened]
        rfl
  | ignored ignored =>
      rw [flp_unheard (.inl ignored)]
      rcases ignored with cmd | cmd <;> rw [cmd] <;> rfl
  | unknown unknown =>
      rw [flp_unheard (.inr unknown)]
      rcases unknown with cmd | cmd | cmd <;> rw [cmd] <;> rfl

theorem gfc_copy (offload : s.modeFlag = .offloadMode) :
    (mtkHal2gfcMainHdlr prmsg s).copy = copyTo .gfc prmsg (gfcPlace s prmsg.cmd) := by
  by_cases heard : prmsg.cmd ≠ .initCmd ∧ prmsg.cmd ≠ .geofenceInjectLoc
  · have goes : gfcPlace s prmsg.cmd =
        if s.mnldStatus = .oflLinkOpenDone then .block
        else if prmsg.cmd = .connScreenStatus then .nowhere
        else if s.queue.length < Side.gfc.maxBatchingMsg then .slot
        else .nowhere := by
      cases cmd : prmsg.cmd <;> simp [cmd] at heard <;> rfl
    rw [gfc_heard offload heard, goes]
    by_cases opened : s.mnldStatus = .oflLinkOpenDone
    · rw [if_pos opened, if_pos opened]
      exact forward_copy
    · rw [if_neg opened, if_neg opened]
      by_cases screen : prmsg.cmd = .connScreenStatus
      · rw [if_pos screen, if_pos screen]
        rfl
      · rw [if_neg screen, if_neg screen, queueMsg_copy]
  · have ignored : prmsg.cmd = .initCmd ∨ prmsg.cmd = .geofenceInjectLoc := by
      by_contra neither
      exact heard (not_or.mp neither)
    rw [gfc_ignored ignored]
    rcases ignored with cmd | cmd <;> rw [cmd] <;> rfl

/-- A handler copies a command to its place. -/
theorem mainHdlr_copy :
    (mainHdlr side prmsg s).copy = copyTo side prmsg (place side s prmsg.cmd) := by
  by_cases offload : s.modeFlag = .offloadMode
  · unfold place
    rw [if_pos offload]
    cases side with
    | flp =>
        rw [mainHdlr]
        exact flp_copy offload
    | gfc =>
        rw [mainHdlr]
        exact gfc_copy offload
  · unfold place
    rw [mainHdlr_ap offload, if_neg offload]
    rfl

/-- A copy to a place is right exactly when the length field fits the place. -/
theorem copyTo_within_iff (buffer : prmsg.received.length ≤ mnlBuffSize) (dest : Place) :
    (∀ copy, copyTo side prmsg dest = some copy → copy.Within prmsg.received.length) ↔
      LengthFits side prmsg dest := by
  cases dest with
  | slot =>
      rw [LengthFits, ← copy_within_iff buffer side.mnlPayloadLen]
      exact ⟨fun all => all _ rfl, fun within copy same => Option.some.inj same ▸ within⟩
  | block =>
      by_cases block : -20 ≤ prmsg.length
      · have size : prmsg.LengthReceived →
            8 + prmsg.length ≤ ((prmsg.mallocSize - 12 : Nat) : Int) := by
          intro received
          have range := prmsg.length_range
          have positive := received.1
          rw [HalMsg.mallocSize]
          omega
        have within := copy_within_iff buffer (prmsg.mallocSize - 12)
        rw [copyTo, if_pos ((mallocSize_lt_iff prmsg).mpr block)]
        refine ⟨fun all _ => (within.mp (all _ rfl)).1, fun fits copy same => ?_⟩
        rw [← Option.some.inj same]
        exact within.mpr ⟨fits block, size (fits block)⟩
      · rw [copyTo, if_neg fun small => block ((mallocSize_lt_iff prmsg).mp small)]
        exact ⟨fun _ fits => absurd fits block, fun _ copy none => absurd none (by simp)⟩
  | nowhere => exact ⟨fun _ => trivial, fun _ copy none => absurd none (by simp [copyTo])⟩

/-- Of either interface and in any state, a datagram leads to no copy beyond what was
received or what there is room for exactly when the length field of its command fits the
place where the command goes. -/
theorem copiesWithin_iff (side : Side) (s : Link) (datagram : List UInt8) :
    CopiesWithin side s datagram ↔
      ∀ prmsg, receive datagram = some prmsg →
        LengthFits side prmsg (place side s prmsg.cmd) := by
  refine forall_congr' fun prmsg => forall_congr' fun received => ?_
  rw [mainHdlr_copy]
  exact copyTo_within_iff (receive_length received).2 _

/-- A start command of eight bytes that says it has a thousand more. -/
def overlong : List UInt8 := [8, 0, 0, 0, 201, 0, 0, 0, 232, 3, 0, 0]

/-- 1008 bytes are copied to a slot of 128 or 256. -/
theorem copy_overflow :
    (∃ s prmsg copy, exec (step .flp) Link.initial [.sessionUpdate 1 3] = some s ∧
      receive overlong = some prmsg ∧ (mainHdlr .flp prmsg s).copy = some copy ∧
      prmsg.received.length = 8 ∧ copy.size = 1008 ∧ copy.capacity = 128 ∧
      ¬ CopiesWithin .flp s overlong) ∧
    (∃ s prmsg copy, exec (step .gfc) Link.initial [.sessionUpdate 1 3] = some s ∧
      receive overlong = some prmsg ∧ (mainHdlr .gfc prmsg s).copy = some copy ∧
      prmsg.received.length = 8 ∧ copy.size = 1008 ∧ copy.capacity = 256 ∧
      ¬ CopiesWithin .gfc s overlong) := by
  refine ⟨⟨_, _, _, rfl, rfl, rfl, rfl, rfl, rfl, fun within => ?_⟩,
    ⟨_, _, _, rfl, rfl, rfl, rfl, rfl, rfl, fun within => ?_⟩⟩
  · exact absurd (within _ rfl _ rfl).copied (by decide)
  · exact absurd (within _ rfl _ rfl).copied (by decide)

end Connectivity.Offload
