import Connectivity.Hci.Packetizer
import Connectivity.Transition.Run

set_option autoImplicit false

namespace Connectivity.Hci

open Bytes Posix Transition H4Protocol

variable {s t : H4Protocol} {moments : List Moment} {bytes : List UInt8}

/-- The end of the file is seen only where it is, no read asks for nothing, and no packet
waits for a payload of no bytes. -/
structure EofOnlyWhenClosed (s : H4Protocol) : Prop where
  closed : s.fatal = some .unexpectedEof → s.uart.closed = true ∧ s.uart.unread = []
  asked : 0 ∉ s.requested
  completed : s.hciPacketizer.state = .hciPayload → s.hciPacketizer.bytesRemaining ≠ 0

/-- A call that reads the last bytes of a preamble finds a payload declared there. -/
def DeclaresPayload (s : H4Protocol) (moments : List Moment) : Prop :=
  ∀ bytes, s.hciPacketType ≠ .unknown → s.hciPacketizer.state = .hciPreamble →
    s.uart.readLoop s.wants moments = some (.data bytes) →
    s.hciPacketizer.bytesRead + bytes.length = preambleSizeForType s.hciPacketType →
    hciGetPacketLengthForType s.hciPacketType
      (write s.hciPacketizer.preamble s.hciPacketizer.bytesRead bytes) ≠ 0

/-- Between packets nothing of one has been read, and a preamble that is read is not
complete. -/
structure PacketizerInv (s : H4Protocol) : Prop where
  eof : EofOnlyWhenClosed s
  idle : s.hciPacketType = .unknown →
    s.hciPacketizer.state = .hciPreamble ∧ s.hciPacketizer.bytesRead = 0
  short : s.hciPacketType ≠ .unknown → s.hciPacketizer.state = .hciPreamble →
    s.hciPacketizer.bytesRead < preambleSizeForType s.hciPacketType

theorem packetizerInv_opened (uart : File) : PacketizerInv (opened uart) where
  eof := ⟨nofun, List.not_mem_nil, nofun⟩
  idle _ := ⟨rfl, rfl⟩
  short known := absurd rfl known

theorem preambleSize_pos {type : HciPacketType} (known : type ≠ .unknown) :
    0 < preambleSizeForType type := by
  cases type with
  | unknown => exact absurd rfl known
  | command | aclData | scoData | event => decide

theorem PacketizerInv.wants_ne (inv : PacketizerInv s) : s.wants ≠ 0 := by
  cases phase s with
  | type _ wants _ =>
      rw [wants]
      decide
  | preamble known header wants _ =>
      have short := inv.short known header
      omega
  | payload _ body wants _ =>
      rw [wants]
      exact inv.eof.completed body

/-- A read that was asked for some bytes leaves all as it was but for what is asked. -/
theorem PacketizerInv.asking (inv : PacketizerInv s) (uart : File) (fatal : Option Fatal)
    (closed : fatal = some .unexpectedEof → uart.closed = true ∧ uart.unread = []) :
    PacketizerInv { s with requested := s.wants :: s.requested, uart := uart, fatal := fatal } where
  eof :=
    { closed := closed
      asked := List.not_mem_cons_of_ne_of_not_mem (Ne.symm inv.wants_ne) inv.eof.asked
      completed := inv.eof.completed }
  idle := inv.idle
  short := inv.short

theorem typeRead_inv (inv : PacketizerInv s) (unknown : s.hciPacketType = .unknown) :
    PacketizerInv (typeRead bytes s) := by
  have idle := inv.idle unknown
  have starts (type : HciPacketType) (known : type ≠ .unknown) :
      PacketizerInv { s with hciPacketType := type } := by
    refine ⟨⟨inv.eof.closed, inv.eof.asked, inv.eof.completed⟩, fun same => absurd same known, ?_⟩
    intro _ _
    rw [idle.2]
    exact preambleSize_pos known
  unfold typeRead
  split
  next => exact starts _ (by decide)
  next => exact starts _ (by decide)
  next => exact starts _ (by decide)
  next => exact ⟨⟨nofun, inv.eof.asked, inv.eof.completed⟩, inv.idle, inv.short⟩

theorem preambleRead_inv (inv : PacketizerInv s) (known : s.hciPacketType ≠ .unknown)
    (within : s.hciPacketizer.bytesRead + bytes.length ≤ preambleSizeForType s.hciPacketType)
    (declares : s.hciPacketizer.bytesRead + bytes.length = preambleSizeForType s.hciPacketType →
      hciGetPacketLengthForType s.hciPacketType
        (write s.hciPacketizer.preamble s.hciPacketizer.bytesRead bytes) ≠ 0)
    (header : s.hciPacketizer.state = .hciPreamble) : PacketizerInv (preambleRead bytes s) := by
  unfold H4Protocol.preambleRead
  by_cases complete :
      s.hciPacketizer.bytesRead + bytes.length = preambleSizeForType s.hciPacketType
  · rw [HciPacketizer.preambleRead_complete complete]
    refine ⟨⟨inv.eof.closed, inv.eof.asked, fun _ => declares complete⟩, ?_, nofun⟩
    exact fun unknown => absurd unknown known
  · rw [HciPacketizer.preambleRead_more complete]
    refine ⟨⟨inv.eof.closed, inv.eof.asked, fun body => ?_⟩, ?_, ?_⟩
    · exact absurd (header.symm.trans body) (by decide)
    · exact fun unknown => absurd unknown known
    · exact fun _ _ => Nat.lt_of_le_of_ne within complete

/-- Handing a packet on stops the process for no end of file. -/
theorem onPacketReady_cases (s : H4Protocol) :
    (∃ callback, s.onPacketReady = s.call callback) ∨
      s.onPacketReady = { s with fatal := some .unimplementedType } := by
  unfold onPacketReady
  split
  next => exact .inl ⟨_, rfl⟩
  next => exact .inl ⟨_, rfl⟩
  next => exact .inl ⟨_, rfl⟩
  next => exact .inr rfl
  next => exact .inr rfl

theorem payloadRead_inv (inv : PacketizerInv s) (known : s.hciPacketType ≠ .unknown)
    (body : s.hciPacketizer.state = .hciPayload) : PacketizerInv (payloadRead bytes s) := by
  by_cases last : s.hciPacketizer.bytesRemaining - bytes.length = 0
  · rw [payloadRead_last last]
    rcases onPacketReady_cases { s with
        hciPacketizer := s.hciPacketizer.payloadRead s.hciPacketType bytes } with
      ⟨callback, called⟩ | stopped
    · rw [called]
      exact ⟨⟨inv.eof.closed, inv.eof.asked, nofun⟩, fun _ => ⟨rfl, rfl⟩,
        fun known => absurd rfl known⟩
    · rw [stopped]
      exact ⟨⟨nofun, inv.eof.asked, nofun⟩, fun _ => ⟨rfl, rfl⟩,
        fun _ _ => preambleSize_pos known⟩
  · rw [payloadRead_more last]
    refine ⟨⟨inv.eof.closed, inv.eof.asked, fun _ => last⟩, fun unknown => absurd unknown known, ?_⟩
    exact fun _ header => absurd (body.symm.trans header) (by decide)

theorem onDataReady_inv (inv : PacketizerInv s) (declares : DeclaresPayload s moments)
    (taken : s.onDataReady moments = some t) : PacketizerInv t := by
  have alive := alive_of_onDataReady taken
  cases onDataReady_cases taken with
  | failed => exact inv.asking s.uart _ nofun
  | ended nothing =>
      apply inv.asking s.uart
      exact fun _ => nothing.resolve_left inv.wants_ne
  | got bytes some loop =>
      have received : PacketizerInv (s.received s.wants bytes) :=
        inv.asking (s.uart.skip bytes.length) s.fatal (by rw [alive]; exact nofun)
      have within := (File.readLoop_data loop).2
      cases phase s with
      | type unknown _ receive =>
          rw [receive]
          exact typeRead_inv received unknown
      | preamble known header wants receive =>
          have short := inv.short known header
          rw [receive]
          apply preambleRead_inv received known _ (declares bytes known header loop) header
          show s.hciPacketizer.bytesRead + bytes.length ≤ preambleSizeForType s.hciPacketType
          omega
      | payload known body _ receive =>
          rw [receive]
          exact payloadRead_inv received known body

/-- A preamble that declares no payload leaves the packetizer waiting for one. -/
theorem onDataReady_waits (inv : PacketizerInv s) (missed : ¬ DeclaresPayload s moments)
    (taken : s.onDataReady moments = some t) : ¬ EofOnlyWhenClosed t := by
  intro after
  apply missed
  intro bytes known header loop complete zero
  have short := inv.short known header
  have some : bytes ≠ [] := by
    intro empty
    rw [empty, List.length_nil] at complete
    omega
  rw [onDataReady_eq (alive_of_onDataReady taken), reading_data loop some] at taken
  have next : s.receive = preambleRead := by rw [receive, if_neg known, header]
  have reached : t.hciPacketizer =
      s.hciPacketizer.preambleRead s.hciPacketType bytes := by
    rw [← Option.some.inj taken, next]
    rfl
  rw [HciPacketizer.preambleRead_complete complete] at reached
  apply after.completed
  · rw [reached]
    rfl
  · rw [reached]
    exact zero

/-- The end of the file is fatal only where it is, as long as every preamble declares a
payload. -/
theorem eof_only_when_closed_iff (uart : File) (calls : List (List Moment)) :
    AllStates onDataReady EofOnlyWhenClosed (opened uart) calls ↔
      StepsMeet onDataReady DeclaresPayload (opened uart) calls := by
  apply @allStates_iff_stepsMeet _ _ _ PacketizerInv
  case kept => exact fun s moments t inv declares taken => onDataReady_inv inv declares taken
  case enough => exact fun s inv => inv.eof
  case broken => exact fun s moments t inv missed taken => onDataReady_waits inv missed taken
  case start => exact packetizerInv_opened uart

/-- A command-status event with no parameters, and the type byte of the packet after it. -/
def emptyEvent : List UInt8 := [4, 0x0f, 0, 4]

/-- The process stops for an end of file while the UART is open and holds a byte. -/
theorem empty_event_stops :
    (exec onDataReady (opened ⟨emptyEvent, false⟩) [[.upTo 0], [.upTo 1], [.upTo 0]]).map
        (fun s => (s.fatal, s.requested, s.uart)) =
      some (some .unexpectedEof, [0, 2, 1], ⟨[4], false⟩) ∧
    ¬ AllStates onDataReady EofOnlyWhenClosed (opened ⟨emptyEvent, false⟩)
        [[.upTo 0], [.upTo 1], [.upTo 0]] := by
  refine ⟨by decide, fun all => ?_⟩
  have waiting := (all.2 _ rfl).2 _ rfl
  exact waiting.1.completed rfl rfl

end Connectivity.Hci
