import Connectivity.Bytes.Buffer
import Connectivity.Posix.Descriptor

set_option autoImplicit false

/- The receiving side of the Bluetooth UART: the type byte of a packet, its preamble
and its payload, each read as far as the UART has it. -/
namespace Connectivity.Hci

open Bytes Posix

/-- `HciPacketType`. -/
inductive HciPacketType
  | unknown | command | aclData | scoData | event
  deriving DecidableEq, Repr

/-- The cast of a type byte to `HciPacketType`, where an enumerator has that value. -/
def HciPacketType.ofByte (byte : UInt8) : Option HciPacketType :=
  [HciPacketType.unknown, .command, .aclData, .scoData, .event][byte.toNat]?

/-- `preamble_size_for_type`. -/
def preambleSizeForType : HciPacketType → Nat
  | .unknown => 0
  | .command => 3
  | .aclData => 4
  | .scoData => 3
  | .event => 2

/-- `packet_length_offset_for_type`. -/
def packetLengthOffsetForType : HciPacketType → Nat
  | .unknown => 0
  | .command => 2
  | .aclData => 2
  | .scoData => 2
  | .event => 1

def hciPreambleSizeMax : Nat := 4

def hciGetPacketLengthForType (type : HciPacketType) (preamble : List UInt8) : Nat :=
  let offset := packetLengthOffsetForType type
  if type ≠ .aclData then (preamble.getD offset 0).toNat
  else (preamble.getD (offset + 1) 0).toNat <<< 8 ||| (preamble.getD offset 0).toNat

inductive State
  | hciPreamble | hciPayload
  deriving DecidableEq, Repr

/-- `HciPacketizer`; `preamble` is zero where the code leaves it uninitialised. -/
structure HciPacketizer where
  state : State
  preamble : List UInt8
  packet : List UInt8
  bytesRemaining : Nat
  bytesRead : Nat
  deriving DecidableEq, Repr

namespace HciPacketizer

def initial : HciPacketizer where
  state := .hciPreamble
  preamble := List.replicate hciPreambleSizeMax 0
  packet := []
  bytesRemaining := 0
  bytesRead := 0

/-- `hidl_vec::resize`: the elements that fit are kept, new ones are zero. -/
def resize (packet : List UInt8) (size : Nat) : List UInt8 :=
  packet.take size ++ List.replicate (size - packet.length) 0

/-- The preamble is complete, and the packet gets the size it declares. -/
def preambleComplete (type : HciPacketType) (self : HciPacketizer) : HciPacketizer :=
  let packetLength := hciGetPacketLengthForType type self.preamble
  let size := preambleSizeForType type
  { self with
    packet := write (resize self.packet (size + packetLength)) 0 (self.preamble.take size)
    bytesRemaining := packetLength
    state := .hciPayload
    bytesRead := 0 }

def preambleRead (type : HciPacketType) (bytes : List UInt8) (self : HciPacketizer) :
    HciPacketizer :=
  let next := { self with
    preamble := write self.preamble self.bytesRead bytes
    bytesRead := self.bytesRead + bytes.length }
  if next.bytesRead = preambleSizeForType type then preambleComplete type next else next

def payloadRead (type : HciPacketType) (bytes : List UInt8) (self : HciPacketizer) :
    HciPacketizer :=
  { self with
    packet := write self.packet (preambleSizeForType type + self.bytesRead) bytes
    bytesRemaining := self.bytesRemaining - bytes.length
    bytesRead := self.bytesRead + bytes.length }

variable {self : HciPacketizer} {type : HciPacketType} {bytes : List UInt8}

theorem preambleRead_complete
    (complete : self.bytesRead + bytes.length = preambleSizeForType type) :
    self.preambleRead type bytes = preambleComplete type
      { self with
        preamble := write self.preamble self.bytesRead bytes
        bytesRead := self.bytesRead + bytes.length } :=
  if_pos complete

theorem preambleRead_more (more : self.bytesRead + bytes.length ≠ preambleSizeForType type) :
    self.preambleRead type bytes =
      { self with
        preamble := write self.preamble self.bytesRead bytes
        bytesRead := self.bytesRead + bytes.length } :=
  if_neg more

end HciPacketizer

/-- What `LOG_ALWAYS_FATAL` stops the process for. -/
inductive Fatal
  | unexpectedEof | readError | unimplementedType
  deriving DecidableEq, Repr

inductive Callback
  | eventCb | aclCb | scoCb
  deriving DecidableEq, Repr

/-- `H4Protocol` and the UART it reads. `requested` and `calls` tell the sizes it asked
`read` for and the packets it handed on, latest first. -/
structure H4Protocol where
  uart : File
  hciPacketType : HciPacketType
  hciPacketizer : HciPacketizer
  requested : List Nat
  calls : List (Callback × List UInt8)
  fatal : Option Fatal
  deriving DecidableEq, Repr

namespace H4Protocol

def opened (uart : File) : H4Protocol where
  uart := uart
  hciPacketType := .unknown
  hciPacketizer := .initial
  requested := []
  calls := []
  fatal := none

def call (callback : Callback) (s : H4Protocol) : H4Protocol :=
  { s with
    calls := (callback, s.hciPacketizer.packet) :: s.calls
    hciPacketType := .unknown }

def onPacketReady (s : H4Protocol) : H4Protocol :=
  match s.hciPacketType with
  | .event => s.call .eventCb
  | .aclData => s.call .aclCb
  | .scoData => s.call .scoCb
  | .unknown | .command => { s with fatal := some .unimplementedType }

/-- The loop around each `read` of the source, and what is done with the bytes. -/
def reading (size : Nat) (moments : List Moment) (next : List UInt8 → H4Protocol → H4Protocol)
    (s : H4Protocol) : Option H4Protocol :=
  (s.uart.readLoop size moments).map fun
    | .failed => { s with requested := size :: s.requested, fatal := some .readError }
    | .data [] => { s with requested := size :: s.requested, fatal := some .unexpectedEof }
    | .data bytes => next bytes
        { s with requested := size :: s.requested, uart := s.uart.skip bytes.length }

def typeRead (bytes : List UInt8) (s : H4Protocol) : H4Protocol :=
  match HciPacketType.ofByte (bytes.headD 0) with
  | some .aclData => { s with hciPacketType := .aclData }
  | some .scoData => { s with hciPacketType := .scoData }
  | some .event => { s with hciPacketType := .event }
  | _ => { s with fatal := some .unimplementedType }

def preambleRead (bytes : List UInt8) (s : H4Protocol) : H4Protocol :=
  { s with hciPacketizer := s.hciPacketizer.preambleRead s.hciPacketType bytes }

def nextPacket (s : H4Protocol) : H4Protocol :=
  { s with hciPacketizer := { s.hciPacketizer with state := .hciPreamble, bytesRead := 0 } }

/-- The packetizer is made ready for the next packet after the callback has returned. -/
def payloadRead (bytes : List UInt8) (s : H4Protocol) : H4Protocol :=
  let next := { s with hciPacketizer := s.hciPacketizer.payloadRead s.hciPacketType bytes }
  if next.hciPacketizer.bytesRemaining = 0 then next.onPacketReady.nextPacket else next

/-- `HciPacketizer::OnDataReady`. -/
def packetizerOnDataReady (s : H4Protocol) (moments : List Moment) : Option H4Protocol :=
  match s.hciPacketizer.state with
  | .hciPreamble =>
      s.reading (preambleSizeForType s.hciPacketType - s.hciPacketizer.bytesRead) moments
        preambleRead
  | .hciPayload => s.reading s.hciPacketizer.bytesRemaining moments payloadRead

/-- `H4Protocol::OnDataReady`, one call: `none` while it has read nothing yet, and after
the process was stopped. -/
def onDataReady (s : H4Protocol) (moments : List Moment) : Option H4Protocol :=
  if s.fatal ≠ none then none
  else if s.hciPacketType = .unknown then s.reading 1 moments typeRead
  else s.packetizerOnDataReady moments

variable {s t : H4Protocol} {size : Nat} {moments : List Moment} {bytes : List UInt8}
  {next : List UInt8 → H4Protocol → H4Protocol}

theorem payloadRead_last (last : s.hciPacketizer.bytesRemaining - bytes.length = 0) :
    payloadRead bytes s = nextPacket (onPacketReady
      { s with hciPacketizer := s.hciPacketizer.payloadRead s.hciPacketType bytes }) :=
  if_pos last

theorem payloadRead_more (more : s.hciPacketizer.bytesRemaining - bytes.length ≠ 0) :
    payloadRead bytes s =
      { s with hciPacketizer := s.hciPacketizer.payloadRead s.hciPacketType bytes } :=
  if_neg more

/-- The state in which the bytes of a read are looked at. -/
def received (size : Nat) (bytes : List UInt8) (s : H4Protocol) : H4Protocol :=
  { s with requested := size :: s.requested, uart := s.uart.skip bytes.length }

/-- What a read loop that ends may have come to. -/
inductive Reading (s : H4Protocol) (size : Nat) (moments : List Moment)
    (next : List UInt8 → H4Protocol → H4Protocol) : H4Protocol → Prop
  | failed : Reading s size moments next
      { s with requested := size :: s.requested, fatal := some .readError }
  | ended (nothing : size = 0 ∨ s.uart.closed = true ∧ s.uart.unread = []) :
      Reading s size moments next
        { s with requested := size :: s.requested, fatal := some .unexpectedEof }
  | got (bytes : List UInt8) (some : bytes ≠ [])
      (loop : s.uart.readLoop size moments = .some (.data bytes)) :
      Reading s size moments next (next bytes (s.received size bytes))

theorem reading_cases (read : s.reading size moments next = some t) :
    Reading s size moments next t := by
  obtain ⟨result, loop, rfl⟩ := Option.map_eq_some_iff.mp read
  match result, loop with
  | .failed, _ => exact .failed
  | .data [], loop => exact .ended (File.readLoop_nothing loop)
  | .data (byte :: rest), loop => exact .got (byte :: rest) (List.cons_ne_nil _ _) loop

theorem reading_data (loop : s.uart.readLoop size moments = some (.data bytes))
    (some : bytes ≠ []) :
    s.reading size moments next = .some (next bytes (s.received size bytes)) := by
  rw [reading, loop]
  match bytes, some with
  | _ :: _, _ => rfl

/-- What the next call asks the UART for. -/
def wants (s : H4Protocol) : Nat :=
  if s.hciPacketType = .unknown then 1
  else match s.hciPacketizer.state with
    | .hciPreamble => preambleSizeForType s.hciPacketType - s.hciPacketizer.bytesRead
    | .hciPayload => s.hciPacketizer.bytesRemaining

/-- What it does with the bytes it gets. -/
def receive (s : H4Protocol) : List UInt8 → H4Protocol → H4Protocol :=
  if s.hciPacketType = .unknown then typeRead
  else match s.hciPacketizer.state with
    | .hciPreamble => preambleRead
    | .hciPayload => payloadRead

/-- The three parts of a packet that a call may read. -/
inductive Phase (s : H4Protocol) : Prop
  | type (unknown : s.hciPacketType = .unknown) (wants : s.wants = 1)
      (receive : s.receive = typeRead)
  | preamble (known : s.hciPacketType ≠ .unknown) (header : s.hciPacketizer.state = .hciPreamble)
      (wants : s.wants = preambleSizeForType s.hciPacketType - s.hciPacketizer.bytesRead)
      (receive : s.receive = preambleRead)
  | payload (known : s.hciPacketType ≠ .unknown) (body : s.hciPacketizer.state = .hciPayload)
      (wants : s.wants = s.hciPacketizer.bytesRemaining) (receive : s.receive = payloadRead)

theorem phase (s : H4Protocol) : Phase s := by
  by_cases unknown : s.hciPacketType = .unknown
  · exact .type unknown (if_pos unknown) (if_pos unknown)
  · cases state : s.hciPacketizer.state with
    | hciPreamble =>
        apply Phase.preamble unknown state
        · rw [wants, if_neg unknown, state]
        · rw [receive, if_neg unknown, state]
    | hciPayload =>
        apply Phase.payload unknown state
        · rw [wants, if_neg unknown, state]
        · rw [receive, if_neg unknown, state]

theorem onDataReady_eq (alive : s.fatal = none) :
    s.onDataReady moments = s.reading s.wants moments s.receive := by
  rw [onDataReady, if_neg (fun dead => dead alive), wants, receive, packetizerOnDataReady]
  split
  next => rfl
  next => cases s.hciPacketizer.state <;> rfl

theorem alive_of_onDataReady (taken : s.onDataReady moments = some t) : s.fatal = none := by
  unfold onDataReady at taken
  split at taken
  next => cases taken
  next alive => exact Decidable.not_not.mp alive

theorem onDataReady_cases (taken : s.onDataReady moments = some t) :
    Reading s s.wants moments s.receive t := by
  rw [onDataReady_eq (alive_of_onDataReady taken)] at taken
  exact reading_cases taken

/-- EAGAIN changes nothing, wherever it comes. -/
theorem onDataReady_again : s.onDataReady (.again :: moments) = s.onDataReady moments := by
  unfold onDataReady packetizerOnDataReady reading
  simp only [File.readLoop_again]

end H4Protocol

end Connectivity.Hci
