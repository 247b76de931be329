import Connectivity.Bytes.LittleEndian
import Connectivity.Hci.Reassembly

set_option autoImplicit false

/- The event that answers a command of the vendor library, which the host stack does not see. -/
namespace Connectivity.Hci

open Bytes Posix Transition H4Protocol

def hciPacketTypeEvent : UInt16 := 4

def hciCommandCompleteEvent : UInt8 := 0x0e

def hciEventPreambleSize : Nat := 2

/-- `internal_command`, over callbacks of any kind; a null pointer is `none`. -/
structure InternalCommand (γ : Type) where
  cb : Option γ
  opcode : UInt16

/-- `HC_BT_HDR`, with the bytes behind it. -/
structure HcBtHdr where
  event : UInt16
  len : UInt16
  offset : UInt16
  layerSpecific : UInt16
  data : List UInt8
deriving DecidableEq, Repr

/-- `WrapPacketAndCopy`. -/
def wrapPacketAndCopy (event : UInt16) (data : List UInt8) : HcBtHdr where
  event := event
  len := UInt16.ofNat data.length
  offset := 0
  layerSpecific := 0
  data := data

/-- Where an event goes. -/
inductive Destination (γ : Type)
  | savedCb (cb : γ) (btHdr : HcBtHdr)
  | eventCb (packet : List UInt8)

/-- What becomes of an event; `reads` are the offsets at which it is looked at. -/
structure Incoming (γ : Type) where
  internalCommand : InternalCommand γ
  destination : Destination γ
  reads : List Nat

/-- `operator[]` of a packet, which is not checked: behind its end it is what lies in memory. -/
def packetAt (beyond : Nat → UInt8) (packet : List UInt8) (offset : Nat) : UInt8 :=
  packet.getD offset (beyond offset)

section Handler

variable {γ : Type} (beyond : Nat → UInt8) (internalCommand : InternalCommand γ)
  (packet : List UInt8)

/-- `internal_command_event_match`, with the offsets it reads. -/
def internalCommandEventMatch : Bool × List Nat :=
  let eventCode := packetAt beyond packet 0
  if eventCode ≠ hciCommandCompleteEvent then (false, [0])
  else
    let opcodeOffset := hciEventPreambleSize + 1
    let opcode := UInt16.ofNat ((packetAt beyond packet opcodeOffset).toNat |||
      (packetAt beyond packet (opcodeOffset + 1)).toNat <<< 8)
    (opcode = internalCommand.opcode, [0, opcodeOffset, opcodeOffset + 1])

/-- `VendorInterface::HandleIncomingEvent`. -/
def handleIncomingEvent : Incoming γ :=
  match internalCommand.cb with
  | none => ⟨internalCommand, .eventCb packet, []⟩
  | some savedCb =>
      let (matched, reads) := internalCommandEventMatch beyond internalCommand packet
      if matched then
        ⟨{ internalCommand with cb := none },
          .savedCb savedCb (wrapPacketAndCopy hciPacketTypeEvent packet), reads⟩
      else ⟨internalCommand, .eventCb packet, reads⟩

end Handler

/-- The packet of an event that `H4Protocol` has handed on, whatever came over the UART. -/
structure HciEvent where
  bytes : List UInt8
  reassembled : ∃ uart calls s, exec onDataReady (opened uart) calls = some s ∧
    (.eventCb, bytes) ∈ s.calls

section Shape

variable {s t : H4Protocol} {self : HciPacketizer} {moments : List Moment} {bytes : List UInt8}

/-- The packet of an event as far as it has been read: what its preamble declares is its size. -/
structure EventSized (self : HciPacketizer) : Prop where
  sized : ∃ code data, self.packet = code :: UInt8.ofNat data.length :: data ∧
    self.bytesRead + self.bytesRemaining = data.length ∧ data.length < 256

def IsEvent (bytes : List UInt8) : Prop :=
  ∃ code parameters, bytes = (Packet.event code parameters).bytes

/-- What is handed on as an event is one. -/
structure EventInv (s : H4Protocol) : Prop where
  buffer : s.hciPacketizer.preamble.length = hciPreambleSizeMax
  idle : s.hciPacketType = .unknown → s.hciPacketizer.state = .hciPreamble
  sized : s.hciPacketType = .event → s.hciPacketizer.state = .hciPayload →
    EventSized s.hciPacketizer
  called : ∀ bytes, (Callback.eventCb, bytes) ∈ s.calls → IsEvent bytes

theorem eventInv_opened (uart : File) : EventInv (opened uart) where
  buffer := rfl
  idle _ := rfl
  sized isEvent := by cases isEvent
  called _ called := by cases called

/-- The size of a packet is the one its preamble declares. -/
theorem preambleComplete_sized (buffer : self.preamble.length = hciPreambleSizeMax) :
    EventSized (self.preambleComplete .event) := by
  obtain ⟨code, length, last, rest, preamble⟩ :
      ∃ code length last rest, self.preamble = code :: length :: last :: rest := by
    match self.preamble, buffer with
    | code :: length :: last :: rest, _ => exact ⟨code, length, last, rest, rfl⟩
  have declares : hciGetPacketLengthForType .event self.preamble = length.toNat := by
    rw [preamble]
    rfl
  have size := resize_length self.packet (2 + length.toNat)
  have data : ((HciPacketizer.resize self.packet (2 + length.toNat)).drop 2).length =
      length.toNat := by
    rw [List.length_drop, size]
    omega
  refine ⟨code, (HciPacketizer.resize self.packet (2 + length.toNat)).drop 2, ?_, ?_, ?_⟩
  · rw [data, UInt8.ofNat_toNat]
    show write (HciPacketizer.resize self.packet (2 + hciGetPacketLengthForType .event
      self.preamble)) 0 (self.preamble.take 2) = _
    rw [declares, preamble]
    rfl
  · show 0 + hciGetPacketLengthForType .event self.preamble = _
    rw [declares, data, Nat.zero_add]
  · rw [data]
    exact UInt8.toNat_lt length

/-- The bytes of a payload leave the preamble in front of them alone. -/
theorem payloadRead_sized (sized : EventSized self) (within : bytes.length ≤ self.bytesRemaining) :
    EventSized (self.payloadRead .event bytes) := by
  obtain ⟨code, data, packet, count, small⟩ := sized
  have room : self.bytesRead + bytes.length ≤ data.length := by omega
  have length : (write data self.bytesRead bytes).length = data.length := by
    rw [write, List.length_append, List.length_append, List.length_take, List.length_drop]
    omega
  refine ⟨code, write data self.bytesRead bytes, ?_, ?_, ?_⟩
  · have behind : 2 + self.bytesRead + bytes.length = self.bytesRead + bytes.length + 2 := by omega
    rw [length]
    show write self.packet (2 + self.bytesRead) bytes = _
    rw [packet, write, behind, Nat.add_comm 2]
    rfl
  · rw [length]
    show self.bytesRead + bytes.length + (self.bytesRemaining - bytes.length) = data.length
    omega
  · rw [length]
    exact small

/-- A packet of which nothing remains to be read is a whole event. -/
theorem EventSized.whole (sized : EventSized self) (some : self.bytesRead ≠ 0)
    (last : self.bytesRemaining = 0) : IsEvent self.packet := by
  obtain ⟨code, data, packet, count, small⟩ := sized
  have nonempty : data ≠ [] := by
    intro empty
    rw [empty, List.length_nil] at count
    omega
  exact ⟨code, ⟨data, nonempty, small⟩, packet⟩

theorem typeRead_eventInv (inv : EventInv s) (unknown : s.hciPacketType = .unknown) :
    EventInv (typeRead bytes s) := by
  have state := inv.idle unknown
  have expects (type : HciPacketType) : EventInv { s with hciPacketType := type } := by
    refine ⟨inv.buffer, fun _ => state, fun _ body => ?_, inv.called⟩
    rw [state] at body
    cases body
  unfold typeRead
  split
  next => exact expects .aclData
  next => exact expects .scoData
  next => exact expects .event
  next => exact ⟨inv.buffer, inv.idle, inv.sized, inv.called⟩

theorem preambleRead_eventInv (inv : EventInv s) (known : s.hciPacketType ≠ .unknown)
    (within : s.hciPacketizer.bytesRead + bytes.length ≤ hciPreambleSizeMax)
    (header : s.hciPacketizer.state = .hciPreamble) : EventInv (preambleRead bytes s) := by
  have buffer : (write s.hciPacketizer.preamble s.hciPacketizer.bytesRead bytes).length =
      hciPreambleSizeMax := by
    have before := inv.buffer
    rw [write, List.length_append, List.length_append, List.length_take, List.length_drop]
    omega
  unfold H4Protocol.preambleRead
  by_cases complete :
      s.hciPacketizer.bytesRead + bytes.length = preambleSizeForType s.hciPacketType
  · rw [HciPacketizer.preambleRead_complete complete]
    refine ⟨buffer, fun unknown => absurd unknown known, fun isEvent _ => ?_, inv.called⟩
    have event : s.hciPacketType = .event := isEvent
    rw [event]
    exact preambleComplete_sized buffer
  · rw [HciPacketizer.preambleRead_more complete]
    refine ⟨buffer, fun unknown => absurd unknown known, fun _ body => ?_, inv.called⟩
    have stays : s.hciPacketizer.state = .hciPayload := body
    rw [header] at stays
    cases stays

/-- Handing a packet on ends it, and an event that is handed on must be one. -/
theorem call_eventInv (inv : EventInv s) {callback : Callback} {self : HciPacketizer}
    (preamble : self.preamble = s.hciPacketizer.preamble)
    (isEvent : callback = .eventCb → IsEvent self.packet) :
    EventInv (({ s with hciPacketizer := self } : H4Protocol).call callback).nextPacket where
  buffer := (congrArg List.length preamble).trans inv.buffer
  idle _ := rfl
  sized unknown := by cases unknown
  called packet among := by
    cases List.mem_cons.mp among with
    | inl newest =>
        have same : packet = self.packet := congrArg Prod.snd newest
        rw [same]
        exact isEvent (congrArg Prod.fst newest).symm
    | inr earlier => exact inv.called packet earlier

theorem payloadRead_eventInv (inv : EventInv s) (known : s.hciPacketType ≠ .unknown)
    (some : bytes ≠ []) (within : bytes.length ≤ s.hciPacketizer.bytesRemaining)
    (body : s.hciPacketizer.state = .hciPayload) : EventInv (payloadRead bytes s) := by
  have positive := List.length_pos_of_ne_nil some
  have sized (isEvent : s.hciPacketType = .event) :
      EventSized (s.hciPacketizer.payloadRead s.hciPacketType bytes) := by
    rw [isEvent]
    exact payloadRead_sized (inv.sized isEvent body) within
  by_cases last : s.hciPacketizer.bytesRemaining - bytes.length = 0
  · have count : s.hciPacketizer.bytesRead + bytes.length ≠ 0 := by omega
    rw [payloadRead_last last, onPacketReady]
    cases type : s.hciPacketType with
    | event =>
        have whole := (sized type).whole count last
        rw [type] at whole
        exact call_eventInv inv rfl fun _ => whole
    | aclData => exact call_eventInv inv rfl nofun
    | scoData => exact call_eventInv inv rfl nofun
    | unknown => exact absurd type known
    | command =>
        simp only
        refine ⟨inv.buffer, fun _ => rfl, fun _ preamble => ?_, inv.called⟩
        cases preamble
  · rw [payloadRead_more last]
    exact ⟨inv.buffer, fun unknown => absurd unknown known, fun isEvent _ => sized isEvent,
      inv.called⟩

theorem onDataReady_eventInv (inv : EventInv s) (taken : s.onDataReady moments = some t) :
    EventInv t := by
  have asking (uart : File) (fatal : Option Fatal) : EventInv
      { s with requested := s.wants :: s.requested, uart := uart, fatal := fatal } :=
    ⟨inv.buffer, inv.idle, inv.sized, inv.called⟩
  cases onDataReady_cases taken with
  | failed => exact asking s.uart _
  | ended nothing => exact asking s.uart _
  | got bytes some loop =>
      have received : EventInv (s.received s.wants bytes) :=
        asking (s.uart.skip bytes.length) s.fatal
      have within := (File.readLoop_data loop).2
      cases phase s with
      | type unknown wants receive =>
          rw [receive]
          exact typeRead_eventInv received unknown
      | preamble known header wants receive =>
          have positive := List.length_pos_of_ne_nil some
          have fits := preambleSize_le s.hciPacketType
          rw [receive]
          apply preambleRead_eventInv received known _ header
          show s.hciPacketizer.bytesRead + bytes.length ≤ hciPreambleSizeMax
          omega
      | payload known body wants receive =>
          rw [receive]
          rw [wants] at within
          exact payloadRead_eventInv received known some within body

/-- Every packet that is handed on as an event is one, with parameters. -/
theorem HciEvent.isEvent (event : HciEvent) : IsEvent event.bytes := by
  obtain ⟨uart, calls, s, run, called⟩ := event.reassembled
  have inv : EventInv s := by
    apply @exec_invariant _ _ _ EventInv _ _ _ _ (eventInv_opened uart) run
    intro s moments t inv taken
    exact onDataReady_eventInv inv taken
  exact inv.called event.bytes called

end Shape

section Replies

variable {γ : Type} {beyond : Nat → UInt8} {internalCommand : InternalCommand γ}
  {packet : List UInt8}

/-- A command-complete event with an opcode, behind the number of packets. -/
def Completes (opcode : UInt16) (packet : List UInt8) : Prop :=
  ∃ length numPackets rest,
    packet = hciCommandCompleteEvent :: length :: numPackets :: (toLE 2 opcode.toNat ++ rest)

/-- The handler stays inside the packet, and takes it for the reply to the internal command exactly
when it is. -/
structure Handled (beyond : Nat → UInt8) (internalCommand : InternalCommand γ)
    (packet : List UInt8) : Prop where
  inside : ∀ offset ∈ (handleIncomingEvent beyond internalCommand packet).reads,
    offset < packet.length
  consumed : ∀ cb, internalCommand.cb = some cb → Completes internalCommand.opcode packet →
    (handleIncomingEvent beyond internalCommand packet).destination =
        .savedCb cb (wrapPacketAndCopy hciPacketTypeEvent packet) ∧
      (handleIncomingEvent beyond internalCommand packet).internalCommand.cb = none
  passedOn : internalCommand.cb = none ∨ ¬ Completes internalCommand.opcode packet →
    (handleIncomingEvent beyond internalCommand packet).destination = .eventCb packet ∧
      (handleIncomingEvent beyond internalCommand packet).internalCommand = internalCommand

/-- An event in which the handler finds no opcode behind the end. -/
def RoomForOpcode (internalCommand : InternalCommand γ) (packet : List UInt8) : Prop :=
  internalCommand.cb = none ∨ packet.head? ≠ some hciCommandCompleteEvent ∨ 5 ≤ packet.length

theorem opcode_eq (low high : UInt8) (opcode : UInt16) :
    UInt16.ofNat (low.toNat ||| high.toNat <<< 8) = opcode ↔
      [low, high] = toLE 2 opcode.toNat := by
  have lowSmall := UInt8.toNat_lt low
  have highSmall := UInt8.toNat_lt high
  have bound := UInt16.toNat_lt opcode
  have value : low.toNat ||| high.toNat <<< 8 = low.toNat + 256 * high.toNat := by
    rw [Nat.or_comm, ← Nat.shiftLeft_add_eq_or_of_lt lowSmall, Nat.shiftLeft_eq]
    omega
  have whole : low.toNat + 256 * high.toNat < 65536 := by omega
  have bytes : toLE 2 opcode.toNat =
      [UInt8.ofNat opcode.toNat, UInt8.ofNat (opcode.toNat / 256)] := rfl
  rw [value, ← UInt16.toNat_inj, UInt16.toNat_ofNat_of_lt' whole, bytes, List.cons.injEq,
    List.cons.injEq, ← UInt8.toNat_inj, ← UInt8.toNat_inj, UInt8.toNat_ofNat',
    UInt8.toNat_ofNat', eq_self, and_true]
  omega

/-- An event that is no answer to a command, or that comes when no answer is expected. -/
theorem passedOn_handled (other : internalCommand.cb = none ∨
    packetAt beyond packet 0 ≠ hciCommandCompleteEvent) (some : packet ≠ []) :
    Handled beyond internalCommand packet := by
  have positive := List.length_pos_of_ne_nil some
  cases pending : internalCommand.cb with
  | none =>
      constructor
      case inside =>
        intro offset among
        rw [handleIncomingEvent, pending] at among
        cases among
      case consumed =>
        intro cb expected
        rw [pending] at expected
        cases expected
      case passedOn =>
        intro _
        rw [handleIncomingEvent, pending]
        exact ⟨rfl, rfl⟩
  | some cb =>
      have code : packetAt beyond packet 0 ≠ hciCommandCompleteEvent := by
        rcases other with unexpected | code
        · rw [pending] at unexpected
          cases unexpected
        · exact code
      have result : handleIncomingEvent beyond internalCommand packet =
          ⟨internalCommand, .eventCb packet, [0]⟩ := by
        simp only [handleIncomingEvent, pending, internalCommandEventMatch, if_pos code]
        rfl
      constructor
      case inside =>
        intro offset among
        rw [result] at among
        rw [List.mem_singleton.mp among]
        exact positive
      case consumed =>
        intro _ _ completes
        obtain ⟨length, numPackets, rest, bytes⟩ := completes
        rw [bytes] at code
        exact absurd rfl code
      case passedOn =>
        intro _
        rw [result]
        exact ⟨rfl, rfl⟩

/-- What becomes of a command-complete event while an answer is expected. -/
theorem commandComplete_result {cb : γ} (pending : internalCommand.cb = some cb)
    {length numPackets low high : UInt8} {rest : List UInt8}
    (bytes : packet = hciCommandCompleteEvent :: length :: numPackets :: low :: high :: rest) :
    handleIncomingEvent beyond internalCommand packet =
      if [low, high] = toLE 2 internalCommand.opcode.toNat then
        ⟨{ internalCommand with cb := none },
          .savedCb cb (wrapPacketAndCopy hciPacketTypeEvent packet), [0, 3, 4]⟩
      else ⟨internalCommand, .eventCb packet, [0, 3, 4]⟩ := by
  have code : ¬ packetAt beyond packet 0 ≠ hciCommandCompleteEvent := by
    rw [bytes]
    exact fun other => other rfl
  have first : packetAt beyond packet (hciEventPreambleSize + 1) = low := by
    rw [bytes]
    rfl
  have second : packetAt beyond packet (hciEventPreambleSize + 1 + 1) = high := by
    rw [bytes]
    rfl
  have matches_iff : internalCommandEventMatch beyond internalCommand packet =
      (decide ([low, high] = toLE 2 internalCommand.opcode.toNat), [0, 3, 4]) := by
    simp only [internalCommandEventMatch, if_neg code, first, second, opcode_eq]
    rfl
  simp only [handleIncomingEvent, pending, matches_iff, decide_eq_true_eq]

theorem completes_iff {code length numPackets low high : UInt8} {rest : List UInt8}
    (bytes : packet = code :: length :: numPackets :: low :: high :: rest) (opcode : UInt16) :
    Completes opcode packet ↔
      code = hciCommandCompleteEvent ∧ [low, high] = toLE 2 opcode.toNat := by
  rw [bytes]
  constructor
  · intro completes
    obtain ⟨_, _, others, same⟩ := completes
    have split : toLE 2 opcode.toNat ++ others =
      UInt8.ofNat opcode.toNat :: UInt8.ofNat (opcode.toNat / 256) :: others := rfl
    rw [split] at same
    injection same with first tail
    injection tail with _ tail
    injection tail with _ tail
    injection tail with lowSame tail
    injection tail with highSame _
    rw [lowSame, highSame]
    exact ⟨first, rfl⟩
  · intro opcodeThere
    refine ⟨length, numPackets, rest, ?_⟩
    rw [← opcodeThere.2, opcodeThere.1]
    rfl

theorem commandComplete_handled {cb : γ} (pending : internalCommand.cb = some cb)
    {length numPackets low high : UInt8} {rest : List UInt8}
    (bytes : packet = hciCommandCompleteEvent :: length :: numPackets :: low :: high :: rest) :
    Handled beyond internalCommand packet := by
  have result := @commandComplete_result _ beyond _ _ _ pending _ _ _ _ _ bytes
  have carries := completes_iff bytes internalCommand.opcode
  have long : 5 ≤ packet.length := by
    rw [bytes]
    simp only [List.length_cons]
    omega
  constructor
  case inside =>
    intro offset among
    have read : offset ∈ [0, 3, 4] := by
      rw [result] at among
      split at among
      · exact among
      · exact among
    simp only [List.mem_cons, List.not_mem_nil, or_false] at read
    omega
  case consumed =>
    intro other expected completes
    rw [result, if_pos (carries.mp completes).2]
    rw [pending] at expected
    rw [Option.some.inj expected]
    exact ⟨rfl, rfl⟩
  case passedOn =>
    intro unanswered
    have differs : ¬ [low, high] = toLE 2 internalCommand.opcode.toNat := by
      intro same
      rcases unanswered with none | incomplete
      · rw [pending] at none
        cases none
      · exact incomplete (carries.mpr ⟨rfl, same⟩)
    rw [result, if_neg differs]
    exact ⟨rfl, rfl⟩

/-- The opcode of a command-complete event is read without a look at the length. -/
theorem opcode_read {cb : γ} (pending : internalCommand.cb = some cb)
    (code : packet.head? = some hciCommandCompleteEvent) :
    4 ∈ (handleIncomingEvent beyond internalCommand packet).reads := by
  have found : ¬ packetAt beyond packet 0 ≠ hciCommandCompleteEvent := by
    rw [packetAt, List.getD_eq_getElem?_getD, ← List.head?_eq_getElem?, code]
    exact fun other => other rfl
  simp only [handleIncomingEvent, pending, internalCommandEventMatch, if_neg found]
  split
  · show 4 ∈ [0, 3, 4]
    decide
  · show 4 ∈ [0, 3, 4]
    decide

/-- An event is handled exactly when a command-complete event that may be the answer has its
opcode. -/
theorem handleIncomingEvent_iff (beyond : Nat → UInt8) (internalCommand : InternalCommand γ)
    (event : HciEvent) :
    Handled beyond internalCommand event.bytes ↔ RoomForOpcode internalCommand event.bytes := by
  obtain ⟨code, parameters, packet⟩ := event.isEvent
  have bytes : event.bytes =
      code :: UInt8.ofNat parameters.bytes.length :: parameters.bytes := packet
  have some : event.bytes ≠ [] := by
    rw [bytes]
    exact List.cons_ne_nil _ _
  cases pending : internalCommand.cb with
  | none => exact iff_of_true (passedOn_handled (.inl pending) some) (.inl pending)
  | some cb =>
      by_cases complete : code = hciCommandCompleteEvent
      · rw [complete] at bytes
        constructor
        · intro handled
          have head : event.bytes.head? = .some hciCommandCompleteEvent := by
            rw [bytes]
            rfl
          have inside := handled.inside 4 (opcode_read pending head)
          exact .inr (.inr inside)
        · intro room
          have long : 5 ≤ event.bytes.length := by
            rcases room with none | other | long
            · rw [pending] at none
              cases none
            · rw [bytes] at other
              exact absurd rfl other
            · exact long
          rw [bytes] at long
          match list : parameters.bytes, long with
          | numPackets :: low :: high :: rest, _ =>
              rw [list] at bytes
              exact commandComplete_handled pending bytes
      · have other : packetAt beyond event.bytes 0 ≠ hciCommandCompleteEvent := by
          rw [bytes]
          exact complete
        apply iff_of_true (passedOn_handled (.inr other) some)
        refine .inr (.inl ?_)
        rw [bytes]
        exact fun same => complete (Option.some.inj same)

/-- A command-complete event with one parameter, in three reads of the UART. -/
def shortComplete : HciEvent where
  bytes := [0x0e, 1, 1]
  reassembled := ⟨⟨[4, 0x0e, 1, 1], false⟩, [[.upTo 1], [.upTo 2], [.upTo 1]], _, rfl, by decide⟩

/-- Two bytes behind it are read for the opcode. -/
theorem not_handleIncomingEvent : ¬ ∀ (beyond : Nat → UInt8)
    (internalCommand : InternalCommand Unit) (event : HciEvent),
    Handled beyond internalCommand event.bytes := by
  intro all
  have handled := all (fun _ => 0) ⟨some (), 0x0c03⟩ shortComplete
  have inside := handled.inside 4 (by decide)
  revert inside
  decide

end Replies

end Connectivity.Hci
