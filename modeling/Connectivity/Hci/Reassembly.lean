import Connectivity.Bytes.LittleEndian
import Connectivity.Hci.Packetizer
import Connectivity.Transition.Run

set_option autoImplicit false

namespace Connectivity.Hci

open Bytes Posix Transition H4Protocol

/-- The payload of a packet, in a length field that counts below `limit`. -/
structure Payload (limit : Nat) where
  bytes : List UInt8
  nonempty : bytes ≠ []
  small : bytes.length < limit

/-- The packets a controller sends: an event by its code, data by the two bytes of its
connection handle. -/
inductive Packet
  | event (code : UInt8) (parameters : Payload 256)
  | aclData (low high : UInt8) (data : Payload 65536)
  | scoData (low high : UInt8) (data : Payload 256)

namespace Packet

def type : Packet → HciPacketType
  | event .. => .event
  | aclData .. => .aclData
  | scoData .. => .scoData

def indicator : Packet → UInt8
  | event .. => 4
  | aclData .. => 2
  | scoData .. => 3

def callback : Packet → Callback
  | event .. => .eventCb
  | aclData .. => .aclCb
  | scoData .. => .scoCb

def payload : Packet → List UInt8
  | event _ parameters => parameters.bytes
  | aclData _ _ data => data.bytes
  | scoData _ _ data => data.bytes

def preamble : Packet → List UInt8
  | event code parameters => code :: toLE 1 parameters.bytes.length
  | aclData low high data => low :: high :: toLE 2 data.bytes.length
  | scoData low high data => low :: high :: toLE 1 data.bytes.length

def bytes (packet : Packet) : List UInt8 := packet.preamble ++ packet.payload

def wire (packet : Packet) : List UInt8 := packet.indicator :: packet.bytes

/-- The call that hands it on. -/
def delivery (packet : Packet) : Callback × List UInt8 := (packet.callback, packet.bytes)

variable {packet : Packet}

theorem payload_ne_nil : packet.payload ≠ [] := by
  cases packet with
  | event _ parameters => exact parameters.nonempty
  | aclData _ _ data => exact data.nonempty
  | scoData _ _ data => exact data.nonempty

theorem type_known : packet.type ≠ .unknown := by
  cases packet <;> exact nofun

theorem preamble_length : packet.preamble.length = preambleSizeForType packet.type := by
  cases packet <;> rfl

/-- Whatever follows it in the buffer, the preamble declares the payload's length. -/
theorem declared {buffer : List UInt8} (filled : Filled buffer packet.preamble) :
    hciGetPacketLengthForType packet.type buffer = packet.payload.length := by
  cases packet with
  | event code parameters =>
      have small := parameters.small
      have length := filled.getD (show 1 < 2 by decide) 0
      show (buffer.getD 1 0).toNat = parameters.bytes.length
      rw [length]
      exact UInt8.toNat_ofNat_of_lt' small
  | aclData low high data =>
      have small := data.small
      have lengthLow := filled.getD (show 2 < 4 by decide) 0
      have lengthHigh := filled.getD (show 3 < 4 by decide) 0
      show (buffer.getD 3 0).toNat <<< 8 ||| (buffer.getD 2 0).toNat = data.bytes.length
      rw [lengthLow, lengthHigh, ← Nat.shiftLeft_add_eq_or_of_lt (UInt8.toNat_lt _)]
      show (UInt8.ofNat (data.bytes.length / 256)).toNat <<< 8 +
        (UInt8.ofNat data.bytes.length).toNat = data.bytes.length
      rw [UInt8.toNat_ofNat', UInt8.toNat_ofNat', Nat.shiftLeft_eq]
      omega
  | scoData low high data =>
      have small := data.small
      have length := filled.getD (show 2 < 3 by decide) 0
      show (buffer.getD 2 0).toNat = data.bytes.length
      rw [length]
      exact UInt8.toNat_ofNat_of_lt' small

theorem typeRead_indicator (s : H4Protocol) :
    typeRead [packet.indicator] s = { s with hciPacketType := packet.type } := by
  cases packet <;> rfl

theorem onPacketReady_type {s : H4Protocol} (type : s.hciPacketType = packet.type) :
    s.onPacketReady = s.call packet.callback := by
  cases packet <;> (unfold onPacketReady; rw [type]; rfl)

end Packet

variable {s t : H4Protocol} {packets later : List Packet} {packet : Packet}
  {moments : List Moment} {bytes : List UInt8}

/-- How much of the packets that are still to be handed on has been read: nothing but
whole packets, a part `got` of a preamble, or a part `got` of a payload. -/
inductive Receiving (s : H4Protocol) : List Packet → Prop
  | idle {later : List Packet} (type : s.hciPacketType = .unknown)
      (state : s.hciPacketizer.state = .hciPreamble) (count : s.hciPacketizer.bytesRead = 0)
      (unread : s.uart.unread = later.flatMap Packet.wire) : Receiving s later
  | preamble {packet : Packet} {later : List Packet} (got rest : List UInt8)
      (type : s.hciPacketType = packet.type) (state : s.hciPacketizer.state = .hciPreamble)
      (count : s.hciPacketizer.bytesRead = got.length) (parts : got ++ rest = packet.preamble)
      (more : rest ≠ []) (filled : Filled s.hciPacketizer.preamble got)
      (unread : s.uart.unread = rest ++ (packet.payload ++ later.flatMap Packet.wire)) :
      Receiving s (packet :: later)
  | payload {packet : Packet} {later : List Packet} (got rest : List UInt8)
      (type : s.hciPacketType = packet.type) (state : s.hciPacketizer.state = .hciPayload)
      (count : s.hciPacketizer.bytesRead = got.length)
      (remaining : s.hciPacketizer.bytesRemaining = rest.length)
      (parts : got ++ rest = packet.payload) (more : rest ≠ [])
      (filled : Filled s.hciPacketizer.packet (packet.preamble ++ got))
      (size : s.hciPacketizer.packet.length = packet.bytes.length)
      (unread : s.uart.unread = rest ++ later.flatMap Packet.wire) :
      Receiving s (packet :: later)

/-- The packets before `later` have been handed on, each once and in order. -/
structure HandedOn (packets : List Packet) (s : H4Protocol) (later : List Packet) : Prop where
  alive : s.fatal = none ∨ s.fatal = some .readError
  isOpen : s.uart.closed = false
  buffer : s.hciPacketizer.preamble.length = hciPreambleSizeMax
  inOrder : ∃ front, front ++ later = packets ∧ s.calls.reverse = front.map Packet.delivery

def ReassemblyInv (packets : List Packet) (s : H4Protocol) : Prop :=
  ∃ later, HandedOn packets s later ∧ Receiving s later

/-- The UART with the packets on the way. -/
def onWire (packets : List Packet) : File := ⟨packets.flatMap Packet.wire, false⟩

theorem reassemblyInv_opened (packets : List Packet) :
    ReassemblyInv packets (opened (onWire packets)) :=
  ⟨packets, ⟨.inl rfl, rfl, rfl, [], rfl, rfl⟩, .idle rfl rfl rfl rfl⟩

/-- Bytes from the front of two parts that do not reach the second one. -/
theorem append_split {bytes left rest after : List UInt8} (split : bytes ++ left = rest ++ after)
    (within : bytes.length ≤ rest.length) : ∃ more, bytes ++ more = rest ∧ left =
        more ++ after := by
  rcases List.append_eq_append_iff.mp split with ⟨more, parts, left⟩ | ⟨more, parts, left⟩
  · exact ⟨more, parts.symm, left⟩
  · have none : more = [] := by
      rw [parts, List.length_append] at within
      exact List.eq_nil_of_length_eq_zero (by omega)
    subst none
    exact ⟨[], by rw [parts, List.append_nil, List.append_nil], left.symm⟩

theorem Receiving.wants_ne (receiving : Receiving s later) : s.wants ≠ 0 := by
  cases receiving with
  | idle type =>
      rw [wants, if_pos type]
      decide
  | @preamble packet _ got rest type state count parts more =>
      have known : s.hciPacketType ≠ .unknown := type ▸ packet.type_known
      have lengths := congrArg List.length parts
      have positive := List.length_pos_of_ne_nil more
      rw [List.length_append, packet.preamble_length] at lengths
      rw [wants, if_neg known, state, type, count]
      simp only
      omega
  | @payload packet _ got rest type state _ remaining _ more =>
      have known : s.hciPacketType ≠ .unknown := type ▸ packet.type_known
      rw [wants, if_neg known, state, remaining]
      exact fun zero => more (List.eq_nil_of_length_eq_zero zero)

theorem resize_length (packet : List UInt8) (size : Nat) :
    (HciPacketizer.resize packet size).length = size := by
  rw [HciPacketizer.resize, List.length_append, List.length_take, List.length_replicate]
  omega

theorem preamble_ne_nil (packet : Packet) : packet.preamble ≠ [] := by
  cases packet <;> exact List.cons_ne_nil _ _

theorem preambleSize_le (type : HciPacketType) : preambleSizeForType type ≤ hciPreambleSizeMax := by
  cases type <;> decide

/-- The byte after a whole packet is the type of the next one. -/
theorem typeRead_reassembles (handed : HandedOn packets s later)
    (state : s.hciPacketizer.state = .hciPreamble) (count : s.hciPacketizer.bytesRead = 0)
    (some : bytes ≠ []) (one : bytes.length ≤ 1)
    (unread : bytes ++ s.uart.unread = later.flatMap Packet.wire) :
    ReassemblyInv packets (typeRead bytes s) := by
  obtain ⟨byte, rfl⟩ : ∃ byte, bytes = [byte] := by
    have positive := List.length_pos_of_ne_nil some
    exact List.length_eq_one_iff.mp (by omega)
  match later, handed, unread with
  | packet :: later, handed, unread =>
      obtain ⟨rfl, rest⟩ := List.cons.inj unread
      rw [packet.typeRead_indicator]
      refine ⟨packet :: later, ⟨handed.alive, handed.isOpen, handed.buffer, handed.inOrder⟩, ?_⟩
      refine .preamble [] packet.preamble rfl state count rfl (preamble_ne_nil packet)
        (filled_nil _) ?_
      change s.uart.unread = packet.bytes ++ later.flatMap Packet.wire at rest
      rw [rest, Packet.bytes, List.append_assoc]

/-- A complete preamble gives the packet its size and its first bytes. -/
theorem preambleComplete_receives (self : HciPacketizer)
    (filled : Filled self.preamble packet.preamble) :
    Filled (self.preambleComplete packet.type).packet packet.preamble ∧
      (self.preambleComplete packet.type).packet.length = packet.bytes.length ∧
      (self.preambleComplete packet.type).bytesRemaining = packet.payload.length := by
  have length := packet.declared filled
  have front : self.preamble.take (preambleSizeForType packet.type) = packet.preamble := by
    rw [← packet.preamble_length, filled.front]
  have room : ([] : List UInt8).length + packet.preamble.length ≤ (HciPacketizer.resize self.packet
      (preambleSizeForType packet.type + packet.payload.length)).length := by
    rw [resize_length, ← packet.preamble_length, List.length_nil]
    omega
  simp only [HciPacketizer.preambleComplete, length, front]
  refine ⟨(filled_nil _).write room, ?_, trivial⟩
  refine (write_length room).trans ?_
  rw [resize_length, Packet.bytes, List.length_append, packet.preamble_length]

theorem preambleRead_reassembles (handed : HandedOn packets s (packet :: later))
    {got rest : List UInt8} (type : s.hciPacketType = packet.type)
    (state : s.hciPacketizer.state = .hciPreamble)
    (count : s.hciPacketizer.bytesRead = got.length)
    (parts : got ++ (bytes ++ rest) = packet.preamble)
    (filled : Filled s.hciPacketizer.preamble got)
    (unread : s.uart.unread = rest ++ (packet.payload ++ later.flatMap Packet.wire)) :
    ReassemblyInv packets (preambleRead bytes s) := by
  have lengths := congrArg List.length parts
  rw [packet.preamble_length, List.length_append, List.length_append] at lengths
  have bound : got.length + bytes.length ≤ s.hciPacketizer.preamble.length := by
    have fits := preambleSize_le packet.type
    rw [handed.buffer]
    omega
  have copied : Filled (write s.hciPacketizer.preamble s.hciPacketizer.bytesRead bytes)
      (got ++ bytes) := count ▸ filled.write bound
  have buffer : (write s.hciPacketizer.preamble s.hciPacketizer.bytesRead bytes).length =
      hciPreambleSizeMax := by
    rw [count, write_length bound, handed.buffer]
  rw [← List.append_assoc] at parts
  unfold preambleRead
  by_cases complete :
      s.hciPacketizer.bytesRead + bytes.length = preambleSizeForType s.hciPacketType
  · have none : rest = [] := by
      rw [count, type] at complete
      exact List.eq_nil_of_length_eq_zero (by omega)
    subst none
    rw [List.append_nil] at parts
    rw [parts] at copied
    rw [HciPacketizer.preambleRead_complete complete, type]
    obtain ⟨front, size, remaining⟩ := preambleComplete_receives
      { s.hciPacketizer with
        preamble := write s.hciPacketizer.preamble s.hciPacketizer.bytesRead bytes
        bytesRead := s.hciPacketizer.bytesRead + bytes.length } copied
    refine ⟨packet :: later, ⟨handed.alive, handed.isOpen, buffer, handed.inOrder⟩, ?_⟩
    refine .payload [] packet.payload rfl rfl rfl remaining rfl packet.payload_ne_nil ?_ size unread
    rw [List.append_nil]
    exact front
  · rw [HciPacketizer.preambleRead_more complete]
    refine ⟨packet :: later, ⟨handed.alive, handed.isOpen, buffer, handed.inOrder⟩, ?_⟩
    refine .preamble (got ++ bytes) rest type state ?_ parts ?_ copied unread
    · rw [List.length_append, ← count]
    · intro none
      rw [none, List.length_nil] at lengths
      rw [count, type] at complete
      omega

/-- The last byte of a payload hands the packet on, as it was sent. -/
theorem payloadRead_reassembles (handed : HandedOn packets s (packet :: later))
    {got rest : List UInt8} (type : s.hciPacketType = packet.type)
    (state : s.hciPacketizer.state = .hciPayload)
    (count : s.hciPacketizer.bytesRead = got.length)
    (remaining : s.hciPacketizer.bytesRemaining = (bytes ++ rest).length)
    (parts : got ++ (bytes ++ rest) = packet.payload)
    (filled : Filled s.hciPacketizer.packet (packet.preamble ++ got))
    (size : s.hciPacketizer.packet.length = packet.bytes.length)
    (unread : s.uart.unread = rest ++ later.flatMap Packet.wire) :
    ReassemblyInv packets (payloadRead bytes s) := by
  have lengths := congrArg List.length parts
  rw [List.length_append, List.length_append] at lengths
  have offset : preambleSizeForType s.hciPacketType + s.hciPacketizer.bytesRead =
      (packet.preamble ++ got).length := by
    rw [type, count, ← packet.preamble_length, List.length_append]
  have bound : (packet.preamble ++ got).length + bytes.length ≤ s.hciPacketizer.packet.length := by
    rw [size, Packet.bytes, List.length_append, List.length_append, ← lengths]
    omega
  have copied := filled.write bound
  have length := write_length bound
  rw [← offset] at copied length
  rw [List.append_assoc] at copied
  rw [← List.append_assoc] at parts
  have left : s.hciPacketizer.bytesRemaining - bytes.length = rest.length := by
    rw [remaining, List.length_append]
    omega
  by_cases last : s.hciPacketizer.bytesRemaining - bytes.length = 0
  · have none : rest = [] := List.eq_nil_of_length_eq_zero (left ▸ last)
    subst none
    rw [List.append_nil] at parts
    rw [parts] at copied
    have whole := copied.full (length.trans size).symm
    obtain ⟨front, split, calls⟩ := handed.inOrder
    rw [payloadRead_last last, packet.onPacketReady_type (by exact type)]
    refine ⟨later, ⟨handed.alive, handed.isOpen, handed.buffer, front ++ [packet], ?_, ?_⟩,
      .idle rfl rfl rfl unread⟩
    · rw [List.append_assoc]
      exact split
    · rw [List.map_append, ← calls]
      refine (List.reverse_cons).trans ?_
      rw [HciPacketizer.payloadRead, whole]
      rfl
  · rw [payloadRead_more last]
    refine ⟨packet :: later, ⟨handed.alive, handed.isOpen, handed.buffer, handed.inOrder⟩, ?_⟩
    refine .payload (got ++ bytes) rest type state ?_ left parts ?_ copied
        (length.trans size) unread
    · rw [List.length_append, ← count]
      rfl
    · intro none
      exact last (by rw [left, none, List.length_nil])

/-- Whatever part of the packets a read finds, the call keeps what has been reassembled. -/
theorem received_reassembles (handed : HandedOn packets s later) (receiving : Receiving s later)
    (some : bytes ≠ []) (within : bytes.length ≤ s.wants)
    (split : bytes ++ (s.uart.skip bytes.length).unread = s.uart.unread) :
    ReassemblyInv packets (s.receive bytes (s.received s.wants bytes)) := by
  have kept : HandedOn packets (s.received s.wants bytes) later :=
    ⟨handed.alive, handed.isOpen, handed.buffer, handed.inOrder⟩
  cases receiving with
  | idle type state count unread =>
      rw [receive, if_pos type]
      rw [wants, if_pos type] at within
      exact typeRead_reassembles kept state count some within (split.trans unread)
  | @preamble packet later got rest type state count parts more filled unread =>
      have known : s.hciPacketType ≠ .unknown := type ▸ packet.type_known
      have lengths := congrArg List.length parts
      rw [List.length_append, packet.preamble_length] at lengths
      rw [wants, if_neg known, state, type, count] at within
      simp only at within
      obtain ⟨left, rfl, after⟩ := append_split (split.trans unread) (by omega)
      rw [receive, if_neg known, state]
      exact preambleRead_reassembles kept type state count parts filled after
  | @payload packet later got rest type state count remaining parts more filled size unread =>
      have known : s.hciPacketType ≠ .unknown := type ▸ packet.type_known
      rw [wants, if_neg known, state, remaining] at within
      obtain ⟨left, rfl, after⟩ := append_split (split.trans unread) within
      rw [receive, if_neg known, state]
      exact payloadRead_reassembles kept type state count remaining parts filled size after

theorem onDataReady_reassembles (inv : ReassemblyInv packets s)
    (taken : s.onDataReady moments = some t) : ReassemblyInv packets t := by
  obtain ⟨later, handed, receiving⟩ := inv
  cases onDataReady_cases taken with
  | failed =>
      refine ⟨later, ⟨.inr rfl, handed.isOpen, handed.buffer, handed.inOrder⟩, ?_⟩
      cases receiving with
      | idle type state count unread => exact .idle type state count unread
      | preamble got rest type state count parts more filled unread =>
          exact .preamble got rest type state count parts more filled unread
      | payload got rest type state count remaining parts more filled size unread =>
          exact .payload got rest type state count remaining parts more filled size unread
  | ended nothing =>
      have closed := (nothing.resolve_left receiving.wants_ne).1
      exact absurd (closed.symm.trans handed.isOpen) (by decide)
  | got bytes some loop =>
      obtain ⟨split, within⟩ := File.readLoop_data loop
      exact received_reassembles handed receiving some within split

/-- Of the packets still to be handed on, the bytes `pending` have been read: none between
two packets, where a type byte is expected, and else a part of the next packet. -/
structure Pending (s : H4Protocol) (later : List Packet) (pending : List UInt8) : Prop where
  consumed : pending ++ s.uart.unread = later.flatMap Packet.wire
  short : ∀ packet ∈ later.head?, pending.length < packet.wire.length
  expects : s.hciPacketType = .unknown ↔ pending = []
  ready : pending = [] → s.hciPacketizer.state = .hciPreamble ∧ s.hciPacketizer.bytesRead = 0

/-- The packets have been handed on to the callbacks of their types, in order and each as it
was sent, up to one of which a part has come in; and while anything is left to read, no
number of EAGAIN keeps a call from reading on. -/
structure Reassembled (packets : List Packet) (s : H4Protocol) : Prop where
  alive : s.fatal = none ∨ s.fatal = some .readError
  inOrder : ∃ front later pending, front ++ later = packets ∧
    s.calls.reverse = front.map Packet.delivery ∧ Pending s later pending
  readsOn : s.fatal = none → s.uart.unread ≠ [] → ∀ waits more rest, ∃ t,
    s.onDataReady (List.replicate waits .again ++ .upTo more :: rest) = some t ∧
      t.uart.unread.length < s.uart.unread.length

theorem Receiving.pending (receiving : Receiving s later) : ∃ pending, Pending s later pending := by
  cases receiving with
  | idle type state count unread =>
      refine ⟨[], unread, ?_, ⟨fun _ => rfl, fun _ => type⟩, fun _ => ⟨state, count⟩⟩
      exact fun packet _ => Nat.succ_pos packet.bytes.length
  | @preamble packet later got rest type state count parts more filled unread =>
      have known : s.hciPacketType ≠ .unknown := type ▸ packet.type_known
      have positive := List.length_pos_of_ne_nil more
      refine ⟨packet.indicator :: got, ?_, ?_, ⟨fun unknown => absurd unknown known, nofun⟩, nofun⟩
      · rw [unread, List.flatMap_cons, Packet.wire, Packet.bytes, ← parts]
        simp only [List.cons_append, List.append_assoc]
      · rintro _ ⟨⟩
        rw [Packet.wire, Packet.bytes, ← parts]
        simp only [List.length_cons, List.length_append]
        omega
  | @payload packet later got rest type state count remaining parts more filled size unread =>
      have known : s.hciPacketType ≠ .unknown := type ▸ packet.type_known
      have positive := List.length_pos_of_ne_nil more
      refine ⟨packet.indicator :: (packet.preamble ++ got), ?_, ?_,
        ⟨fun unknown => absurd unknown known, nofun⟩, nofun⟩
      · rw [unread, List.flatMap_cons, Packet.wire, Packet.bytes, ← parts]
        simp only [List.cons_append, List.append_assoc]
      · rintro _ ⟨⟩
        rw [Packet.wire, Packet.bytes, ← parts]
        simp only [List.length_cons, List.length_append]
        omega

theorem typeRead_uart (bytes : List UInt8) (s : H4Protocol) : (typeRead bytes s).uart = s.uart := by
  unfold typeRead
  split <;> rfl

theorem onPacketReady_uart (s : H4Protocol) : s.onPacketReady.uart = s.uart := by
  unfold onPacketReady
  split <;> rfl

/-- Only the read itself takes bytes from the UART. -/
theorem receive_uart (s u : H4Protocol) (bytes : List UInt8) :
    (s.receive bytes u).uart = u.uart := by
  cases phase s with
  | type _ _ receive => rw [receive, typeRead_uart]
  | preamble _ _ _ receive =>
      rw [receive]
      rfl
  | payload _ _ _ receive =>
      rw [receive, payloadRead]
      simp only
      split
      · exact onPacketReady_uart _
      · rfl

theorem onDataReady_readsOn (alive : s.fatal = none) (asks : s.wants ≠ 0)
    (left : s.uart.unread ≠ []) (waits more : Nat) (rest : List Moment) : ∃ t,
    s.onDataReady (List.replicate waits Moment.again ++ Moment.upTo more :: rest) = some t ∧
      t.uart.unread.length < s.uart.unread.length := by
  induction waits with
  | zero =>
      have positive := List.length_pos_of_ne_nil left
      have found := File.readLoop_upTo more rest asks left
      have some := File.take_ne_nil more asks left
      rw [List.replicate_zero, List.nil_append, onDataReady_eq alive, reading_data found some]
      refine ⟨_, rfl, ?_⟩
      have one := List.length_pos_of_ne_nil some
      rw [receive_uart]
      show (List.drop _ s.uart.unread).length < _
      rw [List.length_drop]
      omega
  | succ waits ih =>
      rw [List.replicate_succ, List.cons_append, onDataReady_again]
      exact ih

theorem ReassemblyInv.reassembled (inv : ReassemblyInv packets s) : Reassembled packets s := by
  obtain ⟨later, handed, receiving⟩ := inv
  obtain ⟨front, split, calls⟩ := handed.inOrder
  obtain ⟨pending, part⟩ := receiving.pending
  refine ⟨handed.alive, ⟨front, later, pending, split, calls, part⟩, ?_⟩
  exact fun alive left => onDataReady_readsOn alive receiving.wants_ne left

/-- However the stream is cut into reads, the packets come out as they were sent. -/
theorem h4_reassembles (packets : List Packet) (calls : List (List Moment)) :
    AllStates onDataReady (Reassembled packets) (opened (onWire packets)) calls := by
  apply AllStates.imp fun s inv => ReassemblyInv.reassembled inv
  apply allStates_of_kept _ (reassemblyInv_opened packets)
  exact fun s moments t inv taken => onDataReady_reassembles inv taken

end Connectivity.Hci
