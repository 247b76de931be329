import Connectivity.Posix.Descriptor
import Connectivity.Bytes.LittleEndian

set_option autoImplicit false

/- The two readers of packets agree on every stream: both do with the packet that comes next what
its type, its declared length and the room for it say. -/
namespace Connectivity.Boots

open Posix

/-- What `boots_uart_read` returns, with what it has put into the buffer. -/
structure UartPacket where
  ret : Int
  buf : List UInt8
  port : Port

/-- `uart_read`, which waits for one second. -/
def uartRead (port : Port) (len : Nat) : Received := port.receive 1000 len

/-- The byte for the type, which is tried for three times. -/
def uartHeader : Nat → Port → Option UInt8 × Port
  | 0, port => (none, port)
  | tries + 1, port =>
      let first := uartRead port 1
      if first.ok then (some (first.bytes.headD 0), first.port) else uartHeader tries first.port

/-- A case of the switch: a header of `more` bytes that declares `pktLen`, and what is returned
when it does not come, when the packet is too large and when its data do not come. -/
def uartCase (len : Nat) (ucHeader : UInt8) (port : Port) (more : Nat) (pktLen : List UInt8 → Nat)
    (noHeader tooLarge noData : Int) : UartPacket :=
  let header := uartRead port more
  let buf := ucHeader :: header.bytes
  let u4Len := 1 + more
  if header.ok = false then ⟨noHeader, buf, header.port⟩
  else if u4Len + pktLen buf > len then ⟨tooLarge, buf, header.port⟩
  else
    let data := uartRead header.port (pktLen buf)
    if data.ok = false then ⟨noData, buf ++ data.bytes, data.port⟩
    else ⟨u4Len + pktLen buf, buf ++ data.bytes, data.port⟩

/-- `boots_uart_read` into a buffer of `size` bytes, from an open port. -/
def bootsUartRead (port : Port) (size : Nat) : UartPacket :=
  match uartHeader 3 port with
  | (none, port) => ⟨-2, [], port⟩
  | (some ucHeader, port) =>
      let long := fun buf => (buf.getD 4 0).toNat <<< 8 + (buf.getD 3 0).toNat
      if ucHeader = 0x01 then
        uartCase size ucHeader port 3 (fun buf => (buf.getD 3 0).toNat) (-3) (-4) (-5)
      else if ucHeader = 0x02 then uartCase size ucHeader port 4 long (-6) (-7) (-8)
      else if ucHeader = 0x03 then
        uartCase size ucHeader port 3 (fun buf => (buf.getD 3 0).toNat) (-9) (-10) (-11)
      else if ucHeader = 0x04 then
        uartCase size ucHeader port 2 (fun buf => (buf.getD 2 0).toNat) (-12) (-13) (-14)
      else ⟨-15, [ucHeader], port⟩

/-- `bt_receive_data`, which waits for five seconds. -/
def btReceiveData (port : Port) (len : Nat) : Received := port.receive 5000 len

/-- What `BT_ReadPacketHeader` hands out through its pointers. -/
structure PacketHeader where
  packetType : UInt8
  remainLen : UInt16
  opCode : UInt16
  connHandle : UInt16
  eventCode : UInt8
  deriving DecidableEq, Repr

/-- Two bytes of a header, the low one first. -/
def headerWord (hdr : List UInt8) (i : Nat) : UInt16 :=
  (hdr.getD i 0).toUInt16 ||| (hdr.getD (i + 1) 0).toUInt16 <<< 8

/-- A case of the switch: what is made of a header of `len` bytes. -/
def btHeaderCase (port : Port) (len : Nat) (made : List UInt8 → PacketHeader) :
    Option PacketHeader × Port :=
  let hdr := btReceiveData port len
  if hdr.ok = false then (none, hdr.port) else (some (made hdr.bytes), hdr.port)

/-- `BT_ReadPacketHeader`, `none` for FALSE. What it leaves alone is zero, as its caller has it. -/
def btReadPacketHeader (port : Port) : Option PacketHeader × Port :=
  let first := btReceiveData port 1
  if first.ok = false then (none, first.port)
  else
    let type := first.bytes.headD 0
    if type = 1 then
      btHeaderCase first.port 3 fun ucCmdHdr =>
        ⟨type, (ucCmdHdr.getD 2 0).toUInt16, headerWord ucCmdHdr 0, 0, 0⟩
    else if type = 2 then
      btHeaderCase first.port 4 fun ucAclHdr =>
        ⟨type, headerWord ucAclHdr 2, 0, headerWord ucAclHdr 0, 0⟩
    else if type = 3 then
      btHeaderCase first.port 3 fun ucScoHdr =>
        ⟨type, (ucScoHdr.getD 2 0).toUInt16, 0, headerWord ucScoHdr 0, 0⟩
    else if type = 4 then
      btHeaderCase first.port 2 fun ucEventHdr =>
        ⟨type, (ucEventHdr.getD 1 0).toUInt16, 0, 0, ucEventHdr.getD 0 0⟩
    else (none, first.port)

/-- What `BT_ReadPacket` returns, with what it has put into the packet and its length. -/
structure BtPacket where
  ok : Bool
  pPacket : List UInt8
  u4PktLen : UInt32
  port : Port

/-- What it does for each type: with room for it, it puts a header of `len` bytes together again
and receives what remains. -/
def btReadRemain (u4MaxBufSz : UInt32) (header : PacketHeader) (port : Port) (len : UInt32)
    (hdr : List UInt8) : BtPacket :=
  if u4MaxBufSz < len + header.remainLen.toUInt32 then ⟨false, [header.packetType], 0, port⟩
  else
    let data := btReceiveData port header.remainLen.toNat
    let pPacket := header.packetType :: hdr ++ data.bytes
    if data.ok = false then ⟨false, pPacket, 0, data.port⟩
    else ⟨true, pPacket, len + header.remainLen.toUInt32, data.port⟩

/-- `BT_ReadPacket`; the length is not handed out when it returns FALSE. -/
def btReadPacket (port : Port) (u4MaxBufSz : UInt32) : BtPacket :=
  if u4MaxBufSz = 0 then ⟨false, [], 0, port⟩
  else
    match btReadPacketHeader port with
    | (none, port) => ⟨false, [], 0, port⟩
    | (some header, port) =>
        let ⟨packetType, remainLen, opCode, connHandle, eventCode⟩ := header
        if packetType = 1 then
          btReadRemain u4MaxBufSz header port 4
            [opCode.toUInt8, (opCode >>> 8).toUInt8, remainLen.toUInt8]
        else if packetType = 2 then
          btReadRemain u4MaxBufSz header port 5
            [connHandle.toUInt8, (connHandle >>> 8).toUInt8, remainLen.toUInt8,
              (remainLen >>> 8).toUInt8]
        else if packetType = 3 then
          btReadRemain u4MaxBufSz header port 4
            [connHandle.toUInt8, (connHandle >>> 8).toUInt8, remainLen.toUInt8]
        else if packetType = 4 then
          btReadRemain u4MaxBufSz header port 3 [eventCode, remainLen.toUInt8]
        else ⟨false, [packetType], 0, port⟩

end Connectivity.Boots

namespace Connectivity.Boots

open Posix

/-- What becomes of the packet that comes next: its length and its bytes if it is accepted, and
where the stream goes on. -/
structure Reading where
  packet : Option (Nat × List UInt8)
  after : Nat
  deriving DecidableEq, Repr

/-- What a caller of `boots_uart_read` makes of it. -/
def UartPacket.reading (result : UartPacket) : Reading :=
  ⟨if 0 ≤ result.ret then some (result.ret.toNat, result.buf) else none, result.port.taken⟩

/-- What a caller of `BT_ReadPacket` makes of it. -/
def BtPacket.reading (result : BtPacket) : Reading :=
  ⟨if result.ok then some (result.u4PktLen.toNat, result.pPacket) else none, result.port.taken⟩

/-- A packet of `len` bytes up to its data, of which there are `more`: it is read up to its data if
there is no room for it. -/
def framedAt (stream : Nat → UInt8) (start size len more : Nat) : Reading :=
  if size < len + more then ⟨none, start + len⟩
  else ⟨some (len + more, bytesAt stream start (len + more)), start + (len + more)⟩

/-- The packet of a stream that begins at `start`. -/
def packetAt (stream : Nat → UInt8) (start size : Nat) : Reading :=
  let byte := fun i => (stream (start + i)).toNat
  if stream start = 1 then framedAt stream start size 4 (byte 3)
  else if stream start = 2 then framedAt stream start size 5 (byte 4 <<< 8 + byte 3)
  else if stream start = 3 then framedAt stream start size 4 (byte 3)
  else if stream start = 4 then framedAt stream start size 3 (byte 2)
  else ⟨none, start + 1⟩

variable {stream : Nat → UInt8} {start size more tries : Nat} {port : Port}

/-- A port whose stream has been read up to a byte. -/
structure Stands (stream : Nat → UInt8) (taken : Nat) (port : Port) : Prop where
  stream : port.stream = stream
  taken : port.taken = taken

/-- A receive that does not miss anything: what it has, and where the port stands then. -/
theorem Stands.receive {patience need : Nat} (stands : Stands stream start port)
    (met : (port.receive patience need).port.missed = false) :
    (port.receive patience need).ok = true ∧
      (port.receive patience need).bytes = bytesAt stream start need ∧
      Stands stream (start + need) (port.receive patience need).port := by
  have delivered := (Port.receive_met met).1
  refine ⟨delivered.ok, ?_, ⟨?_, ?_⟩⟩
  · rw [delivered.bytes, stands.stream, stands.taken]
  · rw [delivered.stream, stands.stream]
  · rw [delivered.taken, stands.taken]

section Uart

theorem uartRead_met {need : Nat} (stands : Stands stream start port)
    (met : (uartRead port need).port.missed = false) :
    (uartRead port need).ok = true ∧ (uartRead port need).bytes = bytesAt stream start need ∧
      Stands stream (start + need) (uartRead port need).port := stands.receive met

/-- What has been missed stays so. -/
theorem uartRead_before {need : Nat} (met : (uartRead port need).port.missed = false) :
    port.missed = false := (Port.receive_met met).2

theorem uartHeader_before (met : (uartHeader tries port).2.missed = false) :
    port.missed = false := by
  induction tries generalizing port with
  | zero => exact met
  | succ tries ih =>
      rw [uartHeader] at met
      by_cases ok : (uartRead port 1).ok = true
      · simp only [if_pos ok] at met
        exact uartRead_before met
      · simp only [if_neg ok] at met
        exact uartRead_before (ih met)

/-- The byte for the type, if none is missed on the way to it. -/
theorem uartHeader_met (stands : Stands stream start port)
    (met : (uartHeader (tries + 1) port).2.missed = false) :
    ∃ after, uartHeader (tries + 1) port = (some (stream start), after) ∧
      Stands stream (start + 1) after := by
  rw [uartHeader] at met ⊢
  by_cases ok : (uartRead port 1).ok = true
  · simp only [if_pos ok] at met ⊢
    obtain ⟨_, bytes, later⟩ := uartRead_met stands met
    rw [bytes]
    exact ⟨_, rfl, later⟩
  · simp only [if_neg ok] at met
    have first := uartHeader_before met
    exact absurd (uartRead_met stands first).1 ok

variable {ucHeader : UInt8} {pktLen : List UInt8 → Nat} {noHeader tooLarge noData : Int}

theorem uartCase_before (met : (uartCase size ucHeader port more pktLen noHeader tooLarge
    noData).port.missed = false) : port.missed = false := by
  unfold uartCase at met
  by_cases ok : (uartRead port more).ok = false
  · simp only [if_pos ok] at met
    exact uartRead_before met
  · simp only [if_neg ok] at met
    split at met
    · exact uartRead_before met
    · split at met
      · exact uartRead_before (uartRead_before met)
      · exact uartRead_before (uartRead_before met)

/-- A case of the switch reads its packet and, unless there is no room, its data. -/
theorem uartCase_reading (stands : Stands stream (start + 1) port) (negative : tooLarge < 0)
    (met : (uartCase size (stream start) port more pktLen noHeader tooLarge noData).port.missed =
      false) :
    (uartCase size (stream start) port more pktLen noHeader tooLarge noData).reading =
      framedAt stream start size (1 + more) (pktLen (bytesAt stream start (1 + more))) := by
  have front := bytesAt_one_add stream start more
  unfold uartCase at met ⊢
  by_cases ok : (uartRead port more).ok = false
  · simp only [if_pos ok] at met
    have read := (uartRead_met stands met).1
    cases ok.symm.trans read
  · simp only [if_neg ok] at met ⊢
    by_cases room : 1 + more + pktLen (stream start :: (uartRead port more).bytes) > size
    · simp only [if_pos room] at met ⊢
      obtain ⟨_, bytes, later⟩ := uartRead_met stands met
      rw [bytes, ← front] at room
      have refused : ¬ 0 ≤ tooLarge := by omega
      simp only [framedAt, if_pos room, UartPacket.reading, if_neg refused, Reading.mk.injEq,
        true_and]
      rw [later.taken, Nat.add_assoc]
    · simp only [if_neg room] at met ⊢
      by_cases data : (uartRead (uartRead port more).port
          (pktLen (stream start :: (uartRead port more).bytes))).ok = false
      · simp only [if_pos data] at met
        have first := (uartRead_met stands (uartRead_before met)).2.2
        cases data.symm.trans (uartRead_met first met).1
      · simp only [if_neg data] at met ⊢
        obtain ⟨_, bytes, first⟩ := uartRead_met stands (uartRead_before met)
        obtain ⟨_, rest, later⟩ := uartRead_met first met
        rw [bytes, ← front] at room rest later ⊢
        have declared : (((1 + more : Nat) : Int) + pktLen (bytesAt stream start (1 + more))) =
          ((1 + more + pktLen (bytesAt stream start (1 + more)) : Nat) : Int) := by omega
        simp only [framedAt, if_neg room, UartPacket.reading, declared, Int.toNat_natCast]
        rw [if_pos (Int.natCast_nonneg _), rest, later.taken, Nat.add_assoc start 1 more,
          Nat.add_assoc start, ← bytesAt_add]

theorem bootsUartRead_header (met : (bootsUartRead port size).port.missed = false) :
    (uartHeader 3 port).2.missed = false := by
  unfold bootsUartRead at met
  rcases tried : uartHeader 3 port with ⟨type, after⟩
  rw [tried] at met
  cases type with
  | none => exact met
  | some ucHeader =>
      dsimp only at met
      split at met
      · exact uartCase_before met
      · split at met
        · exact uartCase_before met
        · split at met
          · exact uartCase_before met
          · split at met
            · exact uartCase_before met
            · exact met

/-- `boots_uart_read` does with a packet what there is to do. -/
theorem bootsUartRead_packetAt (stands : Stands stream start port)
    (met : (bootsUartRead port size).port.missed = false) :
    (bootsUartRead port size).reading = packetAt stream start size := by
  obtain ⟨after, tried, behind⟩ := uartHeader_met stands (bootsUartRead_header met)
  unfold bootsUartRead at met ⊢
  rw [tried] at met ⊢
  dsimp only at met ⊢
  rw [packetAt]
  by_cases command : stream start = 1
  · simp only [if_pos command] at met ⊢
    rw [uartCase_reading behind (by omega) met, bytesAt_getD stream start (by omega)]
  · simp only [if_neg command] at met ⊢
    by_cases acl : stream start = 2
    · simp only [if_pos acl] at met ⊢
      rw [uartCase_reading behind (by omega) met, bytesAt_getD stream start (by omega),
        bytesAt_getD stream start (by omega)]
    · simp only [if_neg acl] at met ⊢
      by_cases sco : stream start = 3
      · simp only [if_pos sco] at met ⊢
        rw [uartCase_reading behind (by omega) met, bytesAt_getD stream start (by omega)]
      · simp only [if_neg sco] at met ⊢
        by_cases event : stream start = 4
        · simp only [if_pos event] at met ⊢
          rw [uartCase_reading behind (by omega) met, bytesAt_getD stream start (by omega)]
        · simp only [if_neg event, UartPacket.reading]
          rw [behind.taken]
          rfl

end Uart

section Bt

variable {header : PacketHeader} {len u4MaxBufSz : UInt32} {hdr : List UInt8}
  {made : List UInt8 → PacketHeader}

theorem btReceiveData_met {need : Nat} (stands : Stands stream start port)
    (met : (btReceiveData port need).port.missed = false) :
    (btReceiveData port need).ok = true ∧
      (btReceiveData port need).bytes = bytesAt stream start need ∧
      Stands stream (start + need) (btReceiveData port need).port := stands.receive met

theorem btReceiveData_before {need : Nat} (met : (btReceiveData port need).port.missed = false) :
    port.missed = false := (Port.receive_met met).2

/-- The length of a packet does not wrap around. -/
theorem packetLength (len : UInt32) (remainLen : UInt16) (short : len.toNat ≤ 5) :
    (len + remainLen.toUInt32).toNat = len.toNat + remainLen.toNat := by
  have bound := remainLen.toNat_lt
  rw [UInt32.toNat_add, UInt16.toNat_toUInt32]
  omega

theorem btReadRemain_before
    (met : (btReadRemain u4MaxBufSz header port len hdr).port.missed = false) :
    port.missed = false := by
  unfold btReadRemain at met
  split at met
  · exact met
  · dsimp only at met
    split at met
    · exact btReceiveData_before met
    · exact btReceiveData_before met

/-- A packet whose header has been put together as it came is read with its data, unless there is
no room. -/
theorem btReadRemain_reading (more : Nat)
    (stands : Stands stream (start + (1 + more)) port)
    (lead : len.toNat = 1 + more) (short : len.toNat ≤ 5)
    (front : header.packetType :: hdr = bytesAt stream start (1 + more))
    (met : (btReadRemain u4MaxBufSz header port len hdr).port.missed = false) :
    (btReadRemain u4MaxBufSz header port len hdr).reading =
      framedAt stream start u4MaxBufSz.toNat (1 + more) header.remainLen.toNat := by
  have whole := packetLength len header.remainLen short
  unfold btReadRemain at met ⊢
  by_cases room : u4MaxBufSz < len + header.remainLen.toUInt32
  · have small : u4MaxBufSz.toNat < 1 + more + header.remainLen.toNat := by
      rw [← lead, ← whole]
      exact room
    simp only [if_pos room, framedAt, if_pos small, BtPacket.reading, Bool.false_eq_true, if_false]
    rw [stands.taken]
  · have fits : ¬ u4MaxBufSz.toNat < 1 + more + header.remainLen.toNat := by
      rw [← lead, ← whole]
      exact room
    simp only [if_neg room] at met ⊢
    by_cases data : (btReceiveData port header.remainLen.toNat).ok = false
    · simp only [if_pos data] at met
      cases data.symm.trans (btReceiveData_met stands met).1
    · simp only [if_neg data] at met ⊢
      obtain ⟨_, rest, later⟩ := btReceiveData_met stands met
      simp only [framedAt, if_neg fits, BtPacket.reading, if_true]
      rw [whole, lead, rest, later.taken, front, ← bytesAt_add, Nat.add_assoc start]

theorem btHeaderCase_met {need : Nat} (stands : Stands stream start port)
    (met : (btHeaderCase port need made).2.missed = false) :
    ∃ after, btHeaderCase port need made = (some (made (bytesAt stream start need)), after) ∧
      Stands stream (start + need) after := by
  unfold btHeaderCase at met ⊢
  by_cases ok : (btReceiveData port need).ok = false
  · simp only [if_pos ok] at met
    cases ok.symm.trans (btReceiveData_met stands met).1
  · simp only [if_neg ok] at met ⊢
    obtain ⟨_, bytes, later⟩ := btReceiveData_met stands met
    rw [bytes]
    exact ⟨_, rfl, later⟩

theorem btHeaderCase_before {need : Nat} (met : (btHeaderCase port need made).2.missed = false) :
    port.missed = false := by
  unfold btHeaderCase at met
  dsimp only at met
  split at met
  · exact btReceiveData_before met
  · exact btReceiveData_before met

/-- What `BT_ReadPacketHeader` makes of the header that comes next. -/
def headerAt (stream : Nat → UInt8) (start : Nat) : Option PacketHeader × Nat :=
  let byte := fun i => stream (start + i)
  let word := fun i => (byte i).toUInt16 ||| (byte (i + 1)).toUInt16 <<< 8
  if stream start = 1 then (some ⟨stream start, (byte 3).toUInt16, word 1, 0, 0⟩, start + 4)
  else if stream start = 2 then (some ⟨stream start, word 3, 0, word 1, 0⟩, start + 5)
  else if stream start = 3 then
    (some ⟨stream start, (byte 3).toUInt16, 0, word 1, 0⟩, start + 4)
  else if stream start = 4 then
    (some ⟨stream start, (byte 2).toUInt16, 0, 0, byte 1⟩, start + 3)
  else (none, start + 1)

theorem btReadPacketHeader_first (met : (btReadPacketHeader port).2.missed = false) :
    (btReceiveData port 1).port.missed = false := by
  unfold btReadPacketHeader at met
  dsimp only at met
  split at met
  · exact met
  · split at met
    · exact btHeaderCase_before met
    · split at met
      · exact btHeaderCase_before met
      · split at met
        · exact btHeaderCase_before met
        · split at met
          · exact btHeaderCase_before met
          · exact met

theorem btReadPacketHeader_met (stands : Stands stream start port)
    (met : (btReadPacketHeader port).2.missed = false) :
    ∃ after, btReadPacketHeader port = ((headerAt stream start).1, after) ∧
      Stands stream (headerAt stream start).2 after := by
  have first := btReadPacketHeader_first met
  obtain ⟨ok, bytes, behind⟩ := btReceiveData_met stands first
  have type : (btReceiveData port 1).bytes.headD 0 = stream start := by rw [bytes]; rfl
  have given : ¬ (btReceiveData port 1).ok = false := by rw [ok]; decide
  unfold btReadPacketHeader at met ⊢
  simp only [if_neg given, type] at met ⊢
  rw [headerAt]
  by_cases command : stream start = 1
  · simp only [if_pos command] at met ⊢
    exact btHeaderCase_met behind met
  · simp only [if_neg command] at met ⊢
    by_cases acl : stream start = 2
    · simp only [if_pos acl] at met ⊢
      exact btHeaderCase_met behind met
    · simp only [if_neg acl] at met ⊢
      by_cases sco : stream start = 3
      · simp only [if_pos sco] at met ⊢
        exact btHeaderCase_met behind met
      · simp only [if_neg sco] at met ⊢
        by_cases event : stream start = 4
        · simp only [if_pos event] at met ⊢
          exact btHeaderCase_met behind met
        · simp only [if_neg event]
          exact ⟨_, rfl, behind⟩

theorem btReadPacket_header (met : (btReadPacket port u4MaxBufSz).port.missed = false)
    (asked : u4MaxBufSz ≠ 0) : (btReadPacketHeader port).2.missed = false := by
  unfold btReadPacket at met
  rw [if_neg asked] at met
  rcases tried : btReadPacketHeader port with ⟨header, after⟩
  rw [tried] at met
  cases header with
  | none => exact met
  | some header =>
      dsimp only at met
      split at met
      · exact btReadRemain_before met
      · split at met
        · exact btReadRemain_before met
        · split at met
          · exact btReadRemain_before met
          · split at met
            · exact btReadRemain_before met
            · exact met

/-- `BT_ReadPacket` does with a packet what there is to do. -/
theorem btReadPacket_packetAt (stands : Stands stream start port) (asked : u4MaxBufSz ≠ 0)
    (met : (btReadPacket port u4MaxBufSz).port.missed = false) :
    (btReadPacket port u4MaxBufSz).reading = packetAt stream start u4MaxBufSz.toNat := by
  obtain ⟨after, tried, behind⟩ := btReadPacketHeader_met stands (btReadPacket_header met asked)
  unfold btReadPacket at met ⊢
  rw [if_neg asked, tried] at met ⊢
  rw [packetAt]
  rw [headerAt] at met behind ⊢
  by_cases command : stream start = 1
  · simp only [if_pos command] at met behind ⊢
    rw [btReadRemain_reading 3 behind rfl (by decide) ?_ met, UInt8.toNat_toUInt16]
    rw [Bytes.word16_low, Bytes.word16_high, UInt8.toUInt8_toUInt16]
    rfl
  · by_cases acl : stream start = 2
    · simp only [if_neg command, if_pos acl] at met behind ⊢
      rw [btReadRemain_reading 4 behind rfl (by decide) ?_ met, Bytes.word16_toNat]
      rw [Bytes.word16_low, Bytes.word16_high, Bytes.word16_low, Bytes.word16_high]
      rfl
    · by_cases sco : stream start = 3
      · simp only [if_neg command, if_neg acl, if_pos sco] at met behind ⊢
        rw [btReadRemain_reading 3 behind rfl (by decide) ?_ met, UInt8.toNat_toUInt16]
        rw [Bytes.word16_low, Bytes.word16_high, UInt8.toUInt8_toUInt16]
        rfl
      · by_cases event : stream start = 4
        · simp only [if_neg command, if_neg acl, if_neg sco, if_pos event] at met behind ⊢
          rw [btReadRemain_reading 2 behind rfl (by decide) ?_ met, UInt8.toNat_toUInt16]
          rw [UInt8.toUInt8_toUInt16]
          rfl
        · simp only [if_neg command, if_neg acl, if_neg sco, if_neg event, BtPacket.reading,
            Bool.false_eq_true, if_false] at behind ⊢
          rw [behind.taken]

end Bt

/-- A stream that comes to both readers, to each as it pleases: if neither misses a byte, they
accept the same packets with the same bytes and leave the stream at the same place. -/
theorem readers_agree (stream : Nat → UInt8) (start : Nat) (uart bt : List Arrival) (size : UInt32)
    (asked : 0 < size)
    (uartMet : (bootsUartRead ⟨stream, start, uart, false⟩ size.toNat).port.missed = false)
    (btMet : (btReadPacket ⟨stream, start, bt, false⟩ size).port.missed = false) :
    (bootsUartRead ⟨stream, start, uart, false⟩ size.toNat).reading =
      (btReadPacket ⟨stream, start, bt, false⟩ size).reading := by
  have positive : size ≠ 0 := by
    intro zero
    rw [zero] at asked
    exact absurd asked (by decide)
  rw [bootsUartRead_packetAt ⟨rfl, rfl⟩ uartMet, btReadPacket_packetAt ⟨rfl, rfl⟩ positive btMet]

/-- An event of four bytes: at once for one reader, byte by byte and with a signal for the other. -/
theorem readers_agree_event :
    (bootsUartRead ⟨fun i => [4, 0x13, 1, 7].getD i 0, 0,
        [⟨0, .upTo 0⟩, ⟨3, .upTo 7⟩, ⟨0, .upTo 2⟩], false⟩ 260).reading =
      (btReadPacket ⟨fun i => [4, 0x13, 1, 7].getD i 0, 0,
        [⟨2000, .again⟩, ⟨10, .upTo 0⟩, ⟨0, .upTo 0⟩, ⟨900, .upTo 0⟩, ⟨0, .upTo 0⟩], false⟩
        260).reading :=
  readers_agree _ 0 _ _ 260 (by decide) (by decide) (by decide)

end Connectivity.Boots
