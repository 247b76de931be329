import Connectivity.Bytes.LittleEndian
import Mathlib.Data.List.Basic

set_option autoImplicit false

/- Which packets of the PC reach the controller when some are too large for the relay. -/
namespace Connectivity.BtRelay

/-- What a `select` and a `read` come upon: some bytes, or a signal, which is ignored. -/
inductive Arrival
  | data (bytes : List UInt8)
  | interrupted
deriving DecidableEq, Repr

/-- All the bytes that arrive. -/
def stream : List Arrival → List UInt8
  | [] => []
  | .data bytes :: rest => bytes ++ stream rest
  | .interrupted :: rest => stream rest

/-- `read_data_from_pc`, `none` while it waits. -/
def readDataFromPc : Nat → List Arrival → Option (List UInt8 × List Arrival)
  | 0, arrivals => some ([], arrivals)
  | _ + 1, [] => none
  | len + 1, .interrupted :: rest => readDataFromPc (len + 1) rest
  | len + 1, .data bytes :: rest =>
      if bytes.length ≤ len + 1 then
        (readDataFromPc (len + 1 - bytes.length) rest).map fun later => (bytes ++ later.1, later.2)
      else some (bytes.take (len + 1), .data (bytes.drop (len + 1)) :: rest)

/-- The same on a stream that is all there. -/
def readBytes (len : Nat) (bytes : List UInt8) : Option (List UInt8 × List UInt8) :=
  if len ≤ bytes.length then some (bytes.take len, bytes.drop len) else none

/-- The outcome of `RELAYER_read`, with what it has put into the buffer and what it has left. -/
structure Received (σ : Type) where
  ok : Bool
  buf : List UInt8
  resultLen : Nat
  rest : σ
deriving DecidableEq, Repr

section Relay

variable {σ : Type} (read : Nat → σ → Option (List UInt8 × σ))

/-- A packet with `more` bytes of header behind its type, which declare `pktLen` bytes. -/
def readPacket (len : Nat) (ucHeader : UInt8) (more : Nat) (pktLen : List UInt8 → Nat) (s : σ) :
    Option (Received σ) :=
  (read more s).bind fun header =>
    let buf := ucHeader :: header.1
    let u4Len := 1 + more
    if u4Len + pktLen buf > len then some ⟨false, buf, u4Len, header.2⟩
    else (read (pktLen buf) header.2).map fun data =>
      ⟨true, buf ++ data.1, u4Len + pktLen buf, data.2⟩

/-- `RELAYER_read` into a buffer of `len` bytes. -/
def relayerRead (len : Nat) (s : σ) : Option (Received σ) :=
  (read 1 s).bind fun first =>
    let ucHeader := first.1.headD 0
    if ucHeader = 0x01 then
      readPacket read len ucHeader 3 (fun buf => (buf.getD 3 0).toNat) first.2
    else if ucHeader = 0x02 then
      readPacket read len ucHeader 4
        (fun buf => (buf.getD 4 0).toNat <<< 8 + (buf.getD 3 0).toNat) first.2
    else if ucHeader = 0x03 then
      readPacket read len ucHeader 3 (fun buf => (buf.getD 3 0).toNat) first.2
    else some ⟨false, [ucHeader], 0, first.2⟩

/-- The size of `ucTxBuf`. -/
def txBufSize : Nat := 1026

/-- `bt_tx_monitor`: what it writes to the controller, each packet with how much of the stream is
left where it begins. -/
def btTxMonitor (left : σ → Nat) : Nat → σ → List (Nat × List UInt8)
  | 0, _ => []
  | rounds + 1, s =>
      match relayerRead read txBufSize s with
      | none => []
      | some packet =>
          if packet.ok then
            (left s, packet.buf.take packet.resultLen) :: btTxMonitor left rounds packet.rest
          else btTxMonitor left rounds packet.rest

end Relay

section Chunks

/-- What has been read of a number of chunks is what would have been read of the whole stream. -/
theorem readDataFromPc_stream (len : Nat) (arrivals : List Arrival) :
    (readDataFromPc len arrivals).map (fun read => (read.1, stream read.2)) =
      readBytes len (stream arrivals) := by
  induction arrivals generalizing len with
  | nil =>
      cases len with
      | zero => rfl
      | succ len => rfl
  | cons arrival rest ih =>
      cases len with
      | zero => simp [readDataFromPc, readBytes]
      | succ len =>
          cases arrival with
          | interrupted =>
              rw [readDataFromPc, stream]
              exact ih (len + 1)
          | data bytes =>
              rw [readDataFromPc, stream]
              by_cases whole : bytes.length ≤ len + 1
              · have later := ih (len + 1 - bytes.length)
                rw [if_pos whole, Option.map_map]
                have split : (readDataFromPc (len + 1 - bytes.length) rest).map
                    ((fun read => (read.1, stream read.2)) ∘
                      fun later => (bytes ++ later.1, later.2)) =
                    ((readDataFromPc (len + 1 - bytes.length) rest).map
                      fun read => (read.1, stream read.2)).map
                        fun later => (bytes ++ later.1, later.2) := by
                  rw [Option.map_map]
                  rfl
                rw [split, later, readBytes, readBytes, List.length_append]
                by_cases enough : len + 1 - bytes.length ≤ (stream rest).length
                · rw [if_pos enough, if_pos (by omega), Option.map_some, List.take_append,
                    List.drop_append, List.take_of_length_le whole, List.drop_of_length_le whole]
                  rfl
                · rw [if_neg enough, if_neg (by omega), Option.map_none]
              · rw [if_neg whole, readBytes, if_pos (by rw [List.length_append]; omega),
                  List.take_append_of_le_length (by omega),
                  List.drop_append_of_le_length (by omega)]
                rfl

variable {σ τ : Type} {read : Nat → σ → Option (List UInt8 × σ)}
variable {readWhole : Nat → τ → Option (List UInt8 × τ)} {whole : σ → τ}

/-- Two readers of the same stream receive the same. -/
def Received.map (f : σ → τ) (received : Received σ) : Received τ :=
  ⟨received.ok, received.buf, received.resultLen, f received.rest⟩

theorem readPacket_same (same : ∀ len s,
      (read len s).map (fun result => (result.1, whole result.2)) = readWhole len (whole s))
    (len : Nat) (ucHeader : UInt8) (more : Nat) (pktLen : List UInt8 → Nat) (s : σ) :
    (readPacket read len ucHeader more pktLen s).map (Received.map whole) =
      readPacket readWhole len ucHeader more pktLen (whole s) := by
  rw [readPacket, readPacket, ← same more s]
  cases read more s with
  | none => rfl
  | some header =>
      simp only [Option.bind_some, Option.map_some]
      split
      · rfl
      · rw [← same, Option.map_map, Option.map_map]
        rfl

theorem relayerRead_same (same : ∀ len s,
      (read len s).map (fun result => (result.1, whole result.2)) = readWhole len (whole s))
    (len : Nat) (s : σ) :
    (relayerRead read len s).map (Received.map whole) = relayerRead readWhole len (whole s) := by
  rw [relayerRead, relayerRead, ← same 1 s]
  cases read 1 s with
  | none => rfl
  | some first =>
      simp only [Option.bind_some, Option.map_some]
      split
      · exact readPacket_same same _ _ _ _ _
      · split
        · exact readPacket_same same _ _ _ _ _
        · split
          · exact readPacket_same same _ _ _ _ _
          · rfl

theorem btTxMonitor_same (same : ∀ len s,
      (read len s).map (fun result => (result.1, whole result.2)) = readWhole len (whole s))
    (left : τ → Nat) (rounds : Nat) (s : σ) :
    btTxMonitor read (fun s => left (whole s)) rounds s =
      btTxMonitor readWhole left rounds (whole s) := by
  induction rounds generalizing s with
  | zero => rfl
  | succ rounds ih =>
      have step := relayerRead_same same txBufSize s
      rw [btTxMonitor, btTxMonitor, ← step]
      cases relayerRead read txBufSize s with
      | none => rfl
      | some packet =>
          simp only [Option.map_some, Received.map, ih]

end Chunks

end Connectivity.BtRelay

namespace Connectivity.BtRelay

open Bytes

inductive PcType
  | command | acl | sco
deriving DecidableEq, Repr

namespace PcType

def code : PcType → UInt8
  | .command => 1
  | .acl => 2
  | .sco => 3

/-- How many bytes the length has. -/
def lengthSize : PcType → Nat
  | .acl => 2
  | _ => 1

/-- What the length counts below. -/
def limit : PcType → Nat
  | .acl => 65536
  | _ => 256

end PcType

/-- A packet with its opcode or its handle, and a payload that its length can declare. -/
structure PcPacket where
  type : PcType
  low : UInt8
  high : UInt8
  payload : List UInt8
  sized : payload.length < type.limit

namespace PcPacket

variable (p : PcPacket)

def header : List UInt8 :=
  p.type.code :: p.low :: p.high :: toLE p.type.lengthSize p.payload.length

def bytes : List UInt8 := p.header ++ p.payload

def Fits : Prop := p.bytes.length ≤ txBufSize

instance : Decidable p.Fits := inferInstanceAs (Decidable (_ ≤ _))

end PcPacket

def pcStream (packets : List PcPacket) : List UInt8 := packets.flatMap PcPacket.bytes

/-- The packets that fit, each with how much of the stream is left where it begins. -/
def expected : List PcPacket → List (Nat × List UInt8)
  | [] => []
  | p :: rest =>
      if p.Fits then ((pcStream (p :: rest)).length, p.bytes) :: expected rest else expected rest

/-- Bytes that the relay drops in one round: one that is no type, or the header of an ACL packet
that declares more than there is room for. -/
inductive Dropped : List UInt8 → Prop
  | unknown {ucHeader : UInt8}
      (noType : ucHeader ≠ 0x01 ∧ ucHeader ≠ 0x02 ∧ ucHeader ≠ 0x03) : Dropped [ucHeader]
  | large {low high declaredLow declaredHigh : UInt8}
      (noRoom : txBufSize < 5 + (declaredLow.toNat + 256 * declaredHigh.toNat)) :
      Dropped [0x02, low, high, declaredLow, declaredHigh]

/-- Bytes that are dropped to their last one. -/
inductive Drains : List UInt8 → Prop
  | done : Drains []
  | drop {front rest : List UInt8} (dropped : Dropped front) (drains : Drains rest) :
      Drains (front ++ rest)

/-- Wherever one can get to by dropping bytes, no packet that fits begins. -/
def NoPacket (gap : List UInt8) : Prop :=
  ∀ front rest, gap = front ++ rest → Drains front →
    ∀ p : PcPacket, p.Fits → ¬ p.bytes <+: rest

/-- The bytes between two packets that fit can be dropped to the last one, and those behind the last
such packet have none in them. `gap` is what has come since the last packet that fits. -/
def Resyncs : List UInt8 → List PcPacket → Prop
  | gap, [] => NoPacket gap
  | gap, p :: rest =>
      if p.Fits then Drains gap ∧ Resyncs [] rest else Resyncs (gap ++ p.bytes) rest

/-- What the relay writes of a stream that is all there. -/
def frames (bytes : List UInt8) : List (Nat × List UInt8) :=
  btTxMonitor readBytes List.length bytes.length bytes

section Reading

variable {len : Nat} {bytes tail : List UInt8} {received : Received (List UInt8)}

theorem readBytes_append {a b : List UInt8} (length : len = a.length) :
    readBytes len (a ++ b) = some (a, b) := by
  rw [readBytes, if_pos (by rw [List.length_append]; omega), length]
  simp

theorem relayerRead_nil : relayerRead readBytes len [] = none := rfl

theorem relayerRead_cons (ucHeader : UInt8) (rest : List UInt8) :
    relayerRead readBytes len (ucHeader :: rest) =
      if ucHeader = 0x01 then
        readPacket readBytes len ucHeader 3 (fun buf => (buf.getD 3 0).toNat) rest
      else if ucHeader = 0x02 then
        readPacket readBytes len ucHeader 4
          (fun buf => (buf.getD 4 0).toNat <<< 8 + (buf.getD 3 0).toNat) rest
      else if ucHeader = 0x03 then
        readPacket readBytes len ucHeader 3 (fun buf => (buf.getD 3 0).toNat) rest
      else some ⟨false, [ucHeader], 0, rest⟩ := by
  have first : readBytes 1 (ucHeader :: rest) = some ([ucHeader], rest) :=
    readBytes_append (a := [ucHeader]) rfl
  rw [relayerRead, first]
  rfl

/-- What is received of a packet's header that is there. -/
theorem readPacket_append {ucHeader : UInt8} {more : Nat} {pktLen : List UInt8 → Nat}
    {header : List UInt8} (rest : List UInt8) (length : more = header.length) :
    readPacket readBytes len ucHeader more pktLen (header ++ rest) =
      if 1 + more + pktLen (ucHeader :: header) > len then
        some ⟨false, ucHeader :: header, 1 + more, rest⟩
      else if pktLen (ucHeader :: header) ≤ rest.length then
        some ⟨true, ucHeader :: header ++ rest.take (pktLen (ucHeader :: header)),
          1 + more + pktLen (ucHeader :: header), rest.drop (pktLen (ucHeader :: header))⟩
      else none := by
  rw [readPacket, readBytes_append length]
  simp only [Option.bind_some]
  split
  · rfl
  · rw [readBytes]
    split <;> rfl

theorem readPacket_short {ucHeader : UInt8} {more : Nat} {pktLen : List UInt8 → Nat}
    (short : bytes.length < more) :
    readPacket readBytes len ucHeader more pktLen bytes = none := by
  rw [readPacket, readBytes, if_neg (by omega)]
  rfl

end Reading

section Packets

variable {p : PcPacket}

/-- A packet whose length is read as it is meant. -/
theorem readPacket_packet {len more : Nat} {ucHeader : UInt8} {pktLen : List UInt8 → Nat}
    {header payload : List UInt8} (rest : List UInt8) (length : more = header.length)
    (declared : pktLen (ucHeader :: header) = payload.length) :
    readPacket readBytes len ucHeader more pktLen (header ++ (payload ++ rest)) =
      if (ucHeader :: header ++ payload).length ≤ len then
        some ⟨true, ucHeader :: header ++ payload, (ucHeader :: header ++ payload).length, rest⟩
      else some ⟨false, ucHeader :: header, (ucHeader :: header).length, payload ++ rest⟩ := by
  have whole : (ucHeader :: header ++ payload).length = 1 + more + payload.length := by
    simp only [List.length_append, List.length_cons]
    omega
  have front : (ucHeader :: header).length = 1 + more := by
    rw [List.length_cons]
    omega
  rw [readPacket_append _ length, declared, whole, front]
  by_cases small : 1 + more + payload.length ≤ len
  · rw [if_neg (by omega), if_pos (by rw [List.length_append]; omega), if_pos small,
      List.take_left' rfl, List.drop_left' rfl]
  · rw [if_pos (by omega), if_neg small]

theorem toNat_ofNat_small {value : Nat} (small : value < 256) :
    (UInt8.ofNat value).toNat = value := UInt8.toNat_ofNat_of_lt' small

/-- What is received where a packet begins. -/
theorem relayerRead_packet (p : PcPacket) (rest : List UInt8) :
    relayerRead readBytes txBufSize (p.bytes ++ rest) =
      if p.Fits then some ⟨true, p.bytes, p.bytes.length, rest⟩
      else some ⟨false, p.header, p.header.length, p.payload ++ rest⟩ := by
  obtain ⟨type, low, high, payload, sized⟩ := p
  cases type with
  | command =>
      dsimp only [PcPacket.Fits, PcPacket.bytes, PcPacket.header, PcType.code, PcType.lengthSize]
      rw [List.append_assoc, List.cons_append, relayerRead_cons, if_pos rfl]
      exact readPacket_packet rest rfl (toNat_ofNat_small sized)
  | sco =>
      dsimp only [PcPacket.Fits, PcPacket.bytes, PcPacket.header, PcType.code, PcType.lengthSize]
      rw [List.append_assoc, List.cons_append, relayerRead_cons, if_neg (by decide),
        if_neg (by decide), if_pos rfl]
      exact readPacket_packet rest rfl (toNat_ofNat_small sized)
  | acl =>
      dsimp only [PcPacket.Fits, PcPacket.bytes, PcPacket.header, PcType.code, PcType.lengthSize]
      rw [List.append_assoc, List.cons_append, relayerRead_cons, if_neg (by decide), if_pos rfl]
      have declared : (UInt8.ofNat (payload.length / 256)).toNat <<< 8 +
          (UInt8.ofNat payload.length).toNat = payload.length := by
        have below : payload.length < 65536 := sized
        rw [toNat_ofNat_small (by omega), UInt8.toNat_ofNat', Nat.shiftLeft_eq]
        omega
      exact readPacket_packet rest rfl declared

/-- Bytes at which a round of the relay drops some go on behind these. -/
theorem relayerRead_dropped {front : List UInt8} (rest : List UInt8) (dropped : Dropped front) :
    ∃ resultLen,
      relayerRead readBytes txBufSize (front ++ rest) = some ⟨false, front, resultLen, rest⟩ := by
  cases dropped with
  | unknown noType =>
      refine ⟨0, ?_⟩
      rw [List.singleton_append, relayerRead_cons, if_neg noType.1, if_neg noType.2.1,
        if_neg noType.2.2]
  | @large low high declaredLow declaredHigh noRoom =>
      refine ⟨5, ?_⟩
      show relayerRead readBytes txBufSize
        (0x02 :: ([low, high, declaredLow, declaredHigh] ++ rest)) = _
      rw [relayerRead_cons, if_neg (by decide), if_pos rfl,
        @readPacket_append _ _ 4 _ [low, high, declaredLow, declaredHigh] rest rfl, if_pos]
      show 1 + 4 + (declaredHigh.toNat <<< 8 + declaredLow.toNat) > txBufSize
      rw [Nat.shiftLeft_eq]
      omega

theorem short_or_split (count : Nat) (bytes : List UInt8) :
    bytes.length < count ∨ ∃ header rest, bytes = header ++ rest ∧ count = header.length := by
  by_cases enough : count ≤ bytes.length
  · refine Or.inr ⟨bytes.take count, bytes.drop count, (List.take_append_drop count bytes).symm, ?_⟩
    rw [List.length_take]
    omega
  · exact Or.inl (by omega)

/-- A packet with a length of one byte always fits. -/
theorem readPacket_small {type : PcType} (rest : List UInt8) (one : type.lengthSize = 1)
    (limit : type.limit = 256) :
    readPacket readBytes txBufSize type.code 3 (fun buf => (buf.getD 3 0).toNat) rest = none ∨
      ∃ p : PcPacket, ∃ tail, p.Fits ∧ type.code :: rest = p.bytes ++ tail := by
  cases short_or_split 3 rest with
  | inl short => exact Or.inl (readPacket_short short)
  | inr there =>
      obtain ⟨header, rest, rfl, length⟩ := there
      obtain ⟨low, high, declared, rfl⟩ := List.length_eq_three.mp length.symm
      cases short_or_split declared.toNat rest with
      | inl short =>
          have small : declared.toNat < 256 := declared.toNat_lt
          left
          rw [@readPacket_append _ _ 3 _ [low, high, declared] rest rfl, if_neg, if_neg]
          · show ¬ declared.toNat ≤ rest.length
            omega
          · show ¬ 1 + 3 + declared.toNat > txBufSize
            unfold txBufSize
            omega
      | inr there =>
          obtain ⟨payload, tail, rfl, sized⟩ := there
          have small : declared.toNat < 256 := declared.toNat_lt
          refine Or.inr ⟨⟨type, low, high, payload, by omega⟩, tail, ?_, ?_⟩
          · show (type.code :: low :: high :: toLE type.lengthSize payload.length ++
              payload).length ≤ txBufSize
            rw [one]
            unfold txBufSize
            simp only [toLE, List.length_append, List.length_cons, List.length_nil]
            omega
          · show _ = type.code :: low :: high :: toLE type.lengthSize payload.length ++
              payload ++ tail
            rw [one, ← sized, toLE, UInt8.ofNat_toNat, List.append_assoc]
            rfl

/-- The same for a packet with a length of two bytes, which is dropped when it does not fit. -/
theorem readPacket_acl (rest : List UInt8) :
    readPacket readBytes txBufSize 0x02 4
        (fun buf => (buf.getD 4 0).toNat <<< 8 + (buf.getD 3 0).toNat) rest = none ∨
      (∃ p : PcPacket, ∃ tail, p.Fits ∧ 0x02 :: rest = p.bytes ++ tail) ∨
      ∃ front tail, Dropped front ∧ 0x02 :: rest = front ++ tail := by
  cases short_or_split 4 rest with
  | inl short => exact Or.inl (readPacket_short short)
  | inr there =>
      obtain ⟨header, rest, rfl, length⟩ := there
      obtain ⟨low, high, declaredLow, declaredHigh, rfl⟩ := List.length_eq_four.mp length.symm
      have smallLow : declaredLow.toNat < 256 := declaredLow.toNat_lt
      have smallHigh : declaredHigh.toNat < 256 := declaredHigh.toNat_lt
      by_cases noRoom : txBufSize < 5 + (declaredLow.toNat + 256 * declaredHigh.toNat)
      · exact Or.inr (Or.inr ⟨_, rest, Dropped.large noRoom, rfl⟩)
      · cases short_or_split (declaredLow.toNat + 256 * declaredHigh.toNat) rest with
        | inl short =>
            left
            rw [@readPacket_append _ _ 4 _ [low, high, declaredLow, declaredHigh] rest rfl, if_neg,
              if_neg]
            · show ¬ declaredHigh.toNat <<< 8 + declaredLow.toNat ≤ rest.length
              rw [Nat.shiftLeft_eq]
              omega
            · show ¬ 1 + 4 + (declaredHigh.toNat <<< 8 + declaredLow.toNat) > txBufSize
              rw [Nat.shiftLeft_eq]
              omega
        | inr there =>
            obtain ⟨payload, tail, rfl, sized⟩ := there
            have below : payload.length < PcType.acl.limit := by
              show payload.length < 65536
              omega
            have same : toLE 2 payload.length = [declaredLow, declaredHigh] := by
              have whole := toLE_fromLE [declaredLow, declaredHigh]
              simp only [fromLE, Nat.mul_zero, Nat.add_zero, sized] at whole
              exact whole
            refine Or.inr (Or.inl ⟨⟨.acl, low, high, payload, below⟩, tail, ?_, ?_⟩)
            · show (2 :: low :: high :: toLE 2 payload.length ++ payload).length ≤ txBufSize
              rw [same]
              simp only [List.length_append, List.length_cons, List.length_nil]
              omega
            · show _ = 2 :: low :: high :: toLE 2 payload.length ++ payload ++ tail
              rw [same, List.append_assoc]
              rfl

/-- A round of the relay waits, or finds a packet that fits, or drops some bytes. -/
theorem relayerRead_cases (bytes : List UInt8) :
    relayerRead readBytes txBufSize bytes = none ∨
      (∃ p : PcPacket, ∃ tail, p.Fits ∧ bytes = p.bytes ++ tail) ∨
      ∃ front tail, Dropped front ∧ bytes = front ++ tail := by
  cases bytes with
  | nil => exact Or.inl relayerRead_nil
  | cons ucHeader rest =>
      rw [relayerRead_cons]
      by_cases command : ucHeader = 0x01
      · rw [if_pos command, command]
        cases @readPacket_small .command rest rfl rfl with
        | inl waits => exact Or.inl waits
        | inr packet => exact Or.inr (Or.inl packet)
      · rw [if_neg command]
        by_cases acl : ucHeader = 0x02
        · rw [if_pos acl, acl]
          exact readPacket_acl rest
        · rw [if_neg acl]
          by_cases sco : ucHeader = 0x03
          · rw [if_pos sco, sco]
            cases @readPacket_small .sco rest rfl rfl with
            | inl waits => exact Or.inl waits
            | inr packet => exact Or.inr (Or.inl packet)
          · exact Or.inr (Or.inr ⟨[ucHeader], rest, Dropped.unknown ⟨command, acl, sco⟩, rfl⟩)

theorem PcPacket.bytes_pos : 0 < p.bytes.length := Nat.succ_pos _

theorem Dropped.pos {front : List UInt8} (dropped : Dropped front) : 0 < front.length := by
  cases dropped with
  | unknown => exact Nat.succ_pos _
  | large => exact Nat.succ_pos _

end Packets

section Frames

variable {bytes gap tail : List UInt8} {packets : List PcPacket} {p : PcPacket}

/-- Any two numbers of rounds that there are not more bytes than come to the same. -/
theorem monitor_same (first second : Nat) (few : bytes.length ≤ first)
    (fits : bytes.length ≤ second) :
    btTxMonitor readBytes List.length first bytes =
      btTxMonitor readBytes List.length second bytes := by
  induction first generalizing bytes second with
  | zero =>
      have empty : bytes = [] := List.eq_nil_of_length_eq_zero (by omega)
      cases second with
      | zero => rfl
      | succ second =>
          rw [empty]
          rfl
  | succ first ih =>
      cases second with
      | zero =>
          have empty : bytes = [] := List.eq_nil_of_length_eq_zero (by omega)
          rw [empty]
          rfl
      | succ second =>
          rw [btTxMonitor, btTxMonitor]
          rcases relayerRead_cases bytes with
            waits | ⟨p, rest, room, rfl⟩ | ⟨front, rest, dropped, rfl⟩
          · rw [waits]
          · have positive := p.bytes_pos
            rw [List.length_append] at few fits
            rw [relayerRead_packet, if_pos room]
            simp only [ih second (show rest.length ≤ first by omega) (by omega)]
          · have positive := dropped.pos
            obtain ⟨_, next⟩ := relayerRead_dropped rest dropped
            rw [List.length_append] at few fits
            rw [next]
            simp only [ih second (show rest.length ≤ first by omega) (by omega)]

theorem monitor_enough {rounds : Nat} (enough : bytes.length ≤ rounds) :
    btTxMonitor readBytes List.length rounds bytes = frames bytes :=
  monitor_same rounds bytes.length enough (Nat.le_refl _)

theorem frames_waits (waits : relayerRead readBytes txBufSize bytes = none) :
    frames bytes = [] := by
  rw [frames]
  cases bytes with
  | nil => rfl
  | cons => rw [List.length_cons, btTxMonitor, waits]

theorem frames_packet (fits : p.Fits) :
    frames (p.bytes ++ tail) = ((p.bytes ++ tail).length, p.bytes) :: frames tail := by
  have enough : (p.bytes ++ tail).length ≤ (p.bytes ++ tail).length + 1 := Nat.le_succ _
  have behind : tail.length ≤ (p.bytes ++ tail).length := by
    rw [List.length_append]
    omega
  rw [← monitor_enough enough, btTxMonitor, relayerRead_packet, if_pos fits]
  simp only [if_true, List.take_length, monitor_enough behind]

theorem frames_dropped (dropped : Dropped gap) : frames (gap ++ tail) = frames tail := by
  have enough : (gap ++ tail).length ≤ (gap ++ tail).length + 1 := Nat.le_succ _
  have behind : tail.length ≤ (gap ++ tail).length := by
    rw [List.length_append]
    omega
  obtain ⟨_, next⟩ := relayerRead_dropped tail dropped
  rw [← monitor_enough enough, btTxMonitor, next]
  exact monitor_enough behind

/-- What is drained makes no difference to what comes behind. -/
theorem frames_drains (drains : Drains gap) : frames (gap ++ tail) = frames tail := by
  induction drains with
  | done => rfl
  | drop dropped _ ih => rw [List.append_assoc, frames_dropped dropped, ih]

/-- A packet is written where the stream has no more left than before. -/
theorem frames_left {frame : Nat × List UInt8} (member : frame ∈ frames bytes) :
    frame.1 ≤ bytes.length := by
  induction length : bytes.length using Nat.strongRecOn generalizing bytes with
  | ind size ih =>
      rcases relayerRead_cases bytes with waits | ⟨p, rest, fits, rfl⟩ | ⟨front, rest, dropped, rfl⟩
      · rw [frames_waits waits] at member
        cases member
      · have positive := p.bytes_pos
        rw [frames_packet fits] at member
        cases List.mem_cons.mp member with
        | inl same =>
            rw [same, ← length]
        | inr member =>
            rw [List.length_append] at length
            have few := ih rest.length (by omega) member rfl
            omega
      · have positive := dropped.pos
        rw [frames_dropped dropped] at member
        rw [List.length_append] at length
        have few := ih rest.length (by omega) member rfl
        omega

/-- A packet that is written where the gap ends has been come to by draining the gap. -/
theorem drains_of_frames {packet : List UInt8} {later : List (Nat × List UInt8)}
    (written : frames (gap ++ tail) = (tail.length, packet) :: later) : Drains gap := by
  induction length : gap.length using Nat.strongRecOn generalizing gap with
  | ind size ih =>
      rcases relayerRead_cases (gap ++ tail) with
        waits | ⟨p, rest, fits, same⟩ | ⟨front, rest, dropped, same⟩
      · rw [frames_waits waits] at written
        cases written
      · rw [same, frames_packet fits, ← same] at written
        have place : (gap ++ tail).length = tail.length :=
          congrArg Prod.fst (List.cons.inj written).1
        rw [List.length_append] at place
        rw [List.eq_nil_of_length_eq_zero (show gap.length = 0 by omega)]
        exact Drains.done
      · have positive := dropped.pos
        rw [same, frames_dropped dropped] at written
        have behind : tail.length ≤ rest.length :=
          @frames_left rest (tail.length, packet) (by rw [written]; exact List.mem_cons_self)
        have lengths := congrArg List.length same
        simp only [List.length_append] at lengths
        -- the dropped bytes are not beyond the gap
        have inside : front <+: gap :=
          List.prefix_of_prefix_length_le ⟨rest, same.symm⟩ ⟨tail, rfl⟩ (by omega)
        obtain ⟨left, rfl⟩ := inside
        rw [List.append_assoc] at same
        have rest_eq : rest = left ++ tail := (List.append_cancel_left same).symm
        rw [rest_eq] at written
        rw [List.length_append] at length
        exact Drains.drop dropped (ih left.length (by omega) written rfl)

/-- Nothing is written of a gap when there is no packet that one could get to. -/
theorem frames_noPacket : frames gap = [] ↔ NoPacket gap := by
  constructor
  case mp =>
    intro nothing front rest same drains p fits begins
    obtain ⟨tail, rfl⟩ := begins
    rw [same, frames_drains drains, frames_packet fits] at nothing
    cases nothing
  case mpr =>
    intro free
    induction length : gap.length using Nat.strongRecOn generalizing gap with
    | ind size ih =>
        rcases relayerRead_cases gap with waits | ⟨p, rest, fits, rfl⟩ | ⟨front, rest, dropped, rfl⟩
        · exact frames_waits waits
        · exact absurd ⟨rest, rfl⟩ (free [] _ rfl Drains.done p fits)
        · have positive := dropped.pos
          rw [List.length_append] at length
          rw [frames_dropped dropped]
          apply ih rest.length (by omega) _ rfl
          intro before behind same drains
          apply free (front ++ before) behind _ (Drains.drop dropped drains)
          rw [same, List.append_assoc]

/-- From a gap on the packets that fit are written in their places when the relay comes through. -/
theorem frames_resyncs (gap : List UInt8) (packets : List PcPacket) :
    frames (gap ++ pcStream packets) = expected packets ↔ Resyncs gap packets := by
  induction packets generalizing gap with
  | nil =>
      show frames (gap ++ []) = [] ↔ NoPacket gap
      rw [List.append_nil]
      exact frames_noPacket
  | cons p rest ih =>
      have begun : pcStream (p :: rest) = p.bytes ++ pcStream rest := List.flatMap_cons
      rw [expected, Resyncs]
      by_cases fits : p.Fits
      · rw [if_pos fits, if_pos fits, ← ih, List.nil_append, begun]
        constructor
        · intro written
          have drains := drains_of_frames written
          rw [frames_drains drains, frames_packet fits] at written
          exact ⟨drains, (List.cons.inj written).2⟩
        · intro ⟨drains, written⟩
          rw [frames_drains drains, frames_packet fits, written]
      · rw [if_neg fits, if_neg fits, ← ih, begun, List.append_assoc]

end Frames

/-- What the relay writes of the stream of a PC, in whatever parts it arrives: the packets that
fit, each once, in order and as it is, when it resynchronises behind those that do not. -/
theorem relayed_iff {arrivals : List Arrival} {packets : List PcPacket} {rounds : Nat}
    (arrive : stream arrivals = pcStream packets) (enough : (stream arrivals).length ≤ rounds) :
    btTxMonitor readDataFromPc (fun arrivals => (stream arrivals).length) rounds arrivals =
        expected packets ↔
      Resyncs [] packets := by
  rw [btTxMonitor_same readDataFromPc_stream List.length, monitor_enough enough, arrive,
    ← frames_resyncs, List.nil_append]

/-- The command that resets the controller. -/
def resetCommand : PcPacket := ⟨.command, 0x03, 0x0C, [], by decide⟩

theorem relayed_iff_reset :
    btTxMonitor readDataFromPc (fun arrivals => (stream arrivals).length) 8
        [.data [0x01, 0x03], .interrupted, .data [0x0C, 0x00, 0x01], .data [0x03, 0x0C, 0x00]] =
          expected [resetCommand, resetCommand] ↔
      Resyncs [] [resetCommand, resetCommand] :=
  relayed_iff (by rfl) (by decide)

/-- One byte more than there is room for, and the first four of them are a command. -/
def largePacket : PcPacket where
  type := .acl
  low := 0x00
  high := 0x00
  payload := resetCommand.bytes ++ List.replicate 1018 0xFF
  sized := by
    rw [List.length_append, List.length_replicate]
    decide

/-- The payload of a packet that is too large is taken for packets. -/
theorem not_relayed : ¬ ∀ (arrivals : List Arrival) (packets : List PcPacket) (rounds : Nat),
    stream arrivals = pcStream packets → (stream arrivals).length ≤ rounds →
      btTxMonitor readDataFromPc (fun arrivals => (stream arrivals).length) rounds arrivals =
        expected packets := by
  intro relayed
  have length : largePacket.payload.length = 1022 := by
    show (resetCommand.bytes ++ List.replicate 1018 0xFF).length = 1022
    rw [List.length_append, List.length_replicate]
    decide
  have header : largePacket.header = [0x02, 0x00, 0x00, 0xFE, 0x03] := by
    rw [PcPacket.header, length]
    decide
  have large : ¬ largePacket.Fits := by
    show ¬ (largePacket.header ++ largePacket.payload).length ≤ txBufSize
    rw [header, List.length_append, length]
    decide
  have written := relayed [.data (pcStream [largePacket])] [largePacket] _
    (List.append_nil _) (Nat.le_refl _)
  rw [btTxMonitor_same readDataFromPc_stream List.length, monitor_enough (Nat.le_refl _)] at written
  have nothing : frames (pcStream [largePacket]) = [] := by
    rw [expected, if_neg large] at written
    exact (congrArg frames (List.append_nil _)).symm.trans written
  -- behind the header, which is dropped, the command begins
  have dropped : Dropped [0x02, 0x00, 0x00, 0xFE, 0x03] := Dropped.large (by decide)
  have begun : pcStream [largePacket] = [0x02, 0x00, 0x00, 0xFE, 0x03] ++
      (resetCommand.bytes ++ List.replicate 1018 0xFF) := by
    rw [← header]
    exact List.append_nil _
  have free := frames_noPacket.mp nothing [0x02, 0x00, 0x00, 0xFE, 0x03] _ begun
    (Drains.drop dropped Drains.done)
  exact free resetCommand (by decide) ⟨_, rfl⟩

end Connectivity.BtRelay
