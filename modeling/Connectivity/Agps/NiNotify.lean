import Connectivity.Agps.Agreement
import Connectivity.Bytes.Buffer

set_option autoImplicit false

/- agps_ni_notify of mnld.c, which turns the strings of a notification into UCS-2 and that into hex
characters, both in arrays of a fixed size. -/
namespace Connectivity.Agps

open Bytes DataCoder

/-- The size of `ucs2_buff`, `requestorId` and `clientName`. -/
def niBuffSize : Nat := 1024

/-- A `char` array, and the indices it has been written at. -/
structure Output where
  bytes : List UInt8
  stores : List Nat
deriving DecidableEq

def Output.put (o : Output) (index : Nat) (byte : UInt8) : Output :=
  ⟨o.bytes.set index byte, o.stores ++ [index]⟩

def Output.zeroed : Output := ⟨.replicate niBuffSize 0, []⟩

/-- The loop of `asc_str_to_usc2_str`, and the terminator behind it. -/
def ascLoop : Nat → List UInt8 → Output → Output × Nat
  | len, [], output => ((output.put len 0).put (len + 1) 0, len)
  | len, input :: rest, output => ascLoop (len + 2) rest ((output.put len 0).put (len + 1) input)

def ascStrToUsc2Str (output : Output) (input : List UInt8) : Output × Nat :=
  ascLoop 2 input ((output.put 0 0xfe).put 1 0xff)

def hexCharOf (tmp : UInt8) : UInt8 := if tmp ≤ 9 then tmp + 48 else tmp - 10 + 65

/-- The loop of `raw_data_to_hex_string` over the bytes that are left, from index `i` on. -/
def hexLoop (input : List UInt8) : Nat → Nat → Output → Output
  | 0, i, output => output.put (i * 2) 0
  | left + 1, i, output =>
      hexLoop input left (i + 1)
        ((output.put (i * 2) (hexCharOf (input.getD i 0 >>> 4 &&& 0xf))).put (i * 2 + 1)
          (hexCharOf (input.getD i 0 &&& 0xf)))

def rawDataToHexString (output : Output) (input : List UInt8) (inputLen : Nat) : Output :=
  hexLoop input inputLen 0 output

/-- What a string leaves in `ucs2_buff` and in the array of hex characters, and how many bytes of
the first are read for the second. -/
structure Conversion where
  ucs2 : Output
  read : Nat
  hex : Output

def convert (s : List UInt8) : Conversion :=
  let (ucs2, usc2Len) := ascStrToUsc2Str .zeroed s
  ⟨ucs2, usc2Len, rawDataToHexString .zeroed ucs2.bytes usc2Len⟩

/-- `agps_ni_notify`, the strings that `mnl2hal_request_ni_notify` is called with. -/
def agpsNiNotify (requestorId clientName : List UInt8) : Conversion × Conversion :=
  (convert requestorId, convert clientName)

section Decoding

def hexValue (c : UInt8) : Nat := if c ≤ 57 then c.toNat - 48 else c.toNat - 55

def decodeHex : List UInt8 → List Nat
  | high :: low :: rest => (hexValue high * 16 + hexValue low) :: decodeHex rest
  | _ => []

/-- The units of big-endian UCS-2. -/
def decodeUnits : List Nat → List Nat
  | high :: low :: rest => (high * 256 + low) :: decodeUnits rest
  | _ => []

/-- The characters behind the byte order mark of a string of hex characters. -/
def decodeString (hex : List UInt8) : List Nat :=
  (decodeUnits (decodeHex (hex.takeWhile (· ≠ 0)))).drop 1

end Decoding

/-- All arrays are written and read inside, and the hex characters decode to the string. -/
structure Converted (s : List UInt8) (conversion : Conversion) : Prop where
  ucs2Inside : ∀ index ∈ conversion.ucs2.stores, index < niBuffSize
  readInside : conversion.read ≤ niBuffSize
  hexInside : ∀ index ∈ conversion.hex.stores, index < niBuffSize
  decodes : decodeString conversion.hex.bytes = s.map UInt8.toNat

/-- The characters that there is room for. -/
def maxNiChars : Nat := 254

section Stores

variable {o : Output}

@[simp] theorem Output.put_length (index : Nat) (byte : UInt8) :
    (o.put index byte).bytes.length = o.bytes.length := List.length_set

theorem put_filled {filled : List UInt8} {index : Nat} (before : Filled o.bytes filled)
    (behind : filled.length = index) (room : index < o.bytes.length) (byte : UInt8) :
    Filled (o.put index byte).bytes (filled ++ [byte]) := by
  subst behind
  constructor
  · have there : filled.length < (o.put filled.length byte).bytes.length := by
      rwa [Output.put_length]
    rw [List.length_append, List.length_singleton, List.take_succ_eq_append_getElem there]
    simp only [Output.put, List.getElem_set_self, List.take_set_of_le (Nat.le_refl _),
      before.front]
  · rw [List.length_append, List.length_singleton, Output.put_length]
    exact room

theorem put_put_filled {filled : List UInt8} {index : Nat} (before : Filled o.bytes filled)
    (behind : filled.length = index) (room : index + 1 < o.bytes.length)
    (first second : UInt8) :
    Filled ((o.put index first).put (index + 1) second).bytes (filled ++ [first, second]) := by
  have one := put_filled before behind (by omega) first
  have two := put_filled one (by rw [List.length_append, List.length_singleton, behind])
    (by rwa [Output.put_length]) second
  rwa [List.append_assoc, List.singleton_append] at two

/-- The bytes of a string in UCS-2, behind the byte order mark. -/
def unitBytes (s : List UInt8) : List UInt8 := s.flatMap fun c => [0, c]

theorem ascLoop_len (len : Nat) (s : List UInt8) (o : Output) :
    (ascLoop len s o).2 = len + 2 * s.length := by
  induction s generalizing len o with
  | nil => rfl
  | cons c rest ih =>
      rw [ascLoop, ih, List.length_cons]
      omega

theorem ascLoop_stores (len : Nat) (s : List UInt8) {o : Output} {limit : Nat}
    (fits : len + 2 * s.length + 2 ≤ limit) (before : ∀ index ∈ o.stores, index < limit) :
    ∀ index ∈ (ascLoop len s o).1.stores, index < limit := by
  induction s generalizing len o with
  | nil =>
      intro index inside
      simp only [ascLoop, Output.put, List.mem_append, List.mem_singleton] at inside
      rw [List.length_nil] at fits
      rcases inside with (old | low) | high
      · exact before index old
      · omega
      · omega
  | cons c rest ih =>
      rw [List.length_cons] at fits
      apply ih (len + 2) (by omega)
      intro index inside
      simp only [Output.put, List.mem_append, List.mem_singleton] at inside
      rcases inside with (old | low) | high
      · exact before index old
      · omega
      · omega

theorem ascLoop_filled (len : Nat) (s : List UInt8) {o : Output} {filled : List UInt8}
    (before : Filled o.bytes filled) (behind : filled.length = len)
    (fits : len + 2 * s.length + 2 ≤ o.bytes.length) :
    Filled (ascLoop len s o).1.bytes (filled ++ unitBytes s ++ [0, 0]) := by
  induction s generalizing len filled o with
  | nil =>
      rw [List.length_nil] at fits
      have last := put_put_filled before behind (by omega) 0 0
      simpa [ascLoop, unitBytes] using last
  | cons c rest ih =>
      rw [List.length_cons] at fits
      have unit := put_put_filled before behind (by omega) 0 c
      have later := ih (len + 2) unit (by simp [behind]) (by
        simp only [Output.put_length]
        omega)
      simpa [ascLoop, unitBytes] using later

theorem hexLoop_stores (input : List UInt8) (left i : Nat) {o : Output} {limit : Nat}
    (fits : (i + left) * 2 < limit) (before : ∀ index ∈ o.stores, index < limit) :
    ∀ index ∈ (hexLoop input left i o).stores, index < limit := by
  induction left generalizing i o with
  | zero =>
      intro index inside
      simp only [hexLoop, Output.put, List.mem_append, List.mem_singleton] at inside
      rcases inside with old | last
      · exact before index old
      · omega
  | succ left ih =>
      apply ih (i + 1) (by omega)
      intro index inside
      simp only [Output.put, List.mem_append, List.mem_singleton] at inside
      rcases inside with (old | high) | low
      · exact before index old
      · omega
      · omega

/-- The terminator is written behind all hex characters. -/
theorem hexLoop_last (input : List UInt8) (left i : Nat) (o : Output) :
    (i + left) * 2 ∈ (hexLoop input left i o).stores := by
  induction left generalizing i o with
  | zero => exact List.mem_append_right _ List.mem_cons_self
  | succ left ih =>
      have later := ih (i + 1)
        ((o.put (i * 2) (hexCharOf (input.getD i 0 >>> 4 &&& 0xf))).put (i * 2 + 1)
          (hexCharOf (input.getD i 0 &&& 0xf)))
      rwa [show i + 1 + left = i + (left + 1) by omega] at later

/-- The two hex characters of a byte. -/
def hexPairOf (byte : UInt8) : List UInt8 :=
  [hexCharOf (byte >>> 4 &&& 0xf), hexCharOf (byte &&& 0xf)]

theorem window_succ (input : List UInt8) (i left : Nat) :
    window input i (left + 1) = input.getD i 0 :: window input (i + 1) left := by
  rw [window, window, List.range_succ_eq_map, List.map_cons, List.map_map]
  congr 1
  apply List.map_congr_left
  intro offset _
  rw [Function.comp_apply, Nat.add_right_comm, Nat.add_assoc]

theorem hexLoop_filled (input : List UInt8) (left i : Nat) {o : Output} {filled : List UInt8}
    (before : Filled o.bytes filled) (behind : filled.length = i * 2)
    (fits : (i + left) * 2 < o.bytes.length) :
    Filled (hexLoop input left i o).bytes
      (filled ++ (window input i left).flatMap hexPairOf ++ [0]) := by
  induction left generalizing i filled o with
  | zero =>
      have last := put_filled before behind (by omega) 0
      simpa [hexLoop, window] using last
  | succ left ih =>
      have pair := put_put_filled before behind (by omega)
        (hexCharOf (input.getD i 0 >>> 4 &&& 0xf)) (hexCharOf (input.getD i 0 &&& 0xf))
      have later := ih (i + 1) pair (by
        rw [List.length_append, behind]
        show i * 2 + 2 = _
        omega) (by
        simp only [Output.put_length]
        omega)
      rw [window_succ, List.flatMap_cons, ← List.append_assoc filled]
      exact later

end Stores

section Decoded

theorem hexValue_hexCharOf {tmp : UInt8} (small : tmp.toNat < 16) :
    hexValue (hexCharOf tmp) = tmp.toNat := by
  have each : ∀ n < 16, hexValue (hexCharOf (UInt8.ofNat n)) = n := by decide
  exact @forall_nibble tmp (fun tmp n => hexValue (hexCharOf tmp) = n) each small

theorem hexCharOf_ne_zero {tmp : UInt8} (small : tmp.toNat < 16) : 0 ≠ hexCharOf tmp := by
  have each : ∀ n < 16, 0 ≠ hexCharOf (UInt8.ofNat n) := by decide
  exact @forall_nibble tmp (fun tmp _ => 0 ≠ hexCharOf tmp) each small

theorem hexValue_pair (byte : UInt8) :
    hexValue (hexCharOf (byte >>> 4 &&& 0xf)) * 16 + hexValue (hexCharOf (byte &&& 0xf)) =
      byte.toNat := by
  rw [hexValue_hexCharOf (low_nibble_lt _), hexValue_hexCharOf (low_nibble_lt _), high_nibble,
    low_nibble]
  omega

theorem hexPairOf_ne_zero (byte : UInt8) : 0 ∉ hexPairOf byte := by
  intro inside
  rw [hexPairOf, List.mem_cons, List.mem_singleton] at inside
  cases inside with
  | inl high => exact hexCharOf_ne_zero (low_nibble_lt _) high
  | inr low => exact hexCharOf_ne_zero (low_nibble_lt _) low

theorem decodeHex_pairs (bytes : List UInt8) :
    decodeHex (bytes.flatMap hexPairOf) = bytes.map UInt8.toNat := by
  induction bytes with
  | nil => rfl
  | cons byte rest ih =>
      rw [List.flatMap_cons, hexPairOf, List.cons_append, List.cons_append, List.nil_append,
        decodeHex, hexValue_pair, ih, List.map_cons]

theorem decodeUnits_units (s : List UInt8) :
    decodeUnits ((unitBytes s).map UInt8.toNat) = s.map UInt8.toNat := by
  induction s with
  | nil => rfl
  | cons c rest ih =>
      have first : unitBytes (c :: rest) = 0 :: c :: unitBytes rest := rfl
      rw [first, List.map_cons, List.map_cons, decodeUnits, ih, List.map_cons]
      congr 1
      exact Nat.zero_add _

/-- A string of hex characters ends at the terminator behind it. -/
theorem hex_string {buffer bytes : List UInt8}
    (filled : Filled buffer (bytes.flatMap hexPairOf ++ [0])) :
    buffer.takeWhile (· ≠ 0) = bytes.flatMap hexPairOf := by
  have parts := List.take_append_drop (bytes.flatMap hexPairOf ++ [0]).length buffer
  have all : ∀ c ∈ bytes.flatMap hexPairOf, decide (c ≠ 0) = true := by
    intro c inside
    obtain ⟨byte, _, member⟩ := List.mem_flatMap.mp inside
    apply decide_eq_true
    intro zero
    exact hexPairOf_ne_zero byte (zero ▸ member)
  rw [← parts, filled.front, List.append_assoc, List.takeWhile_append_of_pos all]
  simp

end Decoded

section Conversions

variable {s : List UInt8}

theorem zeroed_length : Output.zeroed.bytes.length = niBuffSize := List.length_replicate

theorem convert_read (s : List UInt8) : (convert s).read = 2 + 2 * s.length :=
  ascLoop_len 2 s _

/-- With room for all that is written, the conversion is what it should be. -/
theorem convert_converted (short : s.length ≤ maxNiChars) : Converted s (convert s) := by
  have size : niBuffSize = 1024 := rfl
  have most : maxNiChars = 254 := rfl
  have read := convert_read s
  have units : (unitBytes s).length = 2 * s.length := by
    rw [unitBytes, List.length_flatMap]
    simp [Nat.mul_comm]
  have mark : Filled ((Output.zeroed.put 0 0xfe).put 1 0xff).bytes [0xfe, 0xff] :=
    put_put_filled (filled_nil _) rfl (by rw [zeroed_length, size]; decide) 0xfe 0xff
  have ucs2 := ascLoop_filled 2 s mark rfl (by
    simp only [Output.put_length, zeroed_length]
    omega)
  have whole : window (convert s).ucs2.bytes 0 (2 + 2 * s.length) =
      [0xfe, 0xff] ++ unitBytes s := by
    have length : ([0xfe, 0xff] ++ unitBytes s).length = 2 + 2 * s.length := by
      rw [List.length_append, units]
      rfl
    have inside : ([0xfe, 0xff] ++ unitBytes s ++ [0, 0]).length ≤
        (convert s).ucs2.bytes.length := ucs2.inside
    rw [List.length_append, length] at inside
    rw [window_inside (by omega)]
    have front : (convert s).ucs2.bytes.take (2 + 2 * s.length + 2) =
        [0xfe, 0xff] ++ unitBytes s ++ [0, 0] := by
      rw [← ucs2.front, List.length_append, length]
      rfl
    have shorter := congrArg (List.take (2 + 2 * s.length)) front
    rwa [List.take_take, Nat.min_eq_left (by omega), List.take_left' length] at shorter
  have hex := hexLoop_filled (convert s).ucs2.bytes (2 + 2 * s.length) 0
    (filled_nil Output.zeroed.bytes) rfl (by rw [zeroed_length]; omega)
  constructor
  · apply ascLoop_stores 2 s (by omega)
    intro index inside
    simp only [Output.put, Output.zeroed, List.mem_append, List.mem_singleton,
      List.not_mem_nil, false_or] at inside
    omega
  · omega
  · show ∀ index ∈ (hexLoop _ (convert s).read 0 .zeroed).stores, index < niBuffSize
    rw [read]
    apply hexLoop_stores _ _ _ (by omega)
    intro index inside
    cases inside
  · rw [whole, List.nil_append] at hex
    have string := hex_string hex
    have same : (convert s).hex = hexLoop (convert s).ucs2.bytes (2 + 2 * s.length) 0 .zeroed := by
      rw [← read]
      rfl
    rw [decodeString, same, string, decodeHex_pairs, List.map_append]
    show (decodeUnits (254 :: 255 :: (unitBytes s).map UInt8.toNat)).drop 1 = _
    rw [decodeUnits, decodeUnits_units]
    rfl

/-- A string is converted inside the arrays exactly if it has at most 254 characters. -/
theorem converted_iff (s : List UInt8) : Converted s (convert s) ↔ s.length ≤ maxNiChars := by
  constructor
  · intro converted
    have last := hexLoop_last (convert s).ucs2.bytes (convert s).read 0 .zeroed
    have inside := converted.hexInside _ last
    have size : niBuffSize = 1024 := rfl
    have most : maxNiChars = 254 := rfl
    rw [convert_read] at inside
    omega
  · exact convert_converted

end Conversions

/-- The strings of the notifications that a datagram has mnld handle. -/
def notified (bytes : List UInt8) : List (CString × CString) :=
  (mnldCalls (fun _ => true) bytes).filterMap fun
    | .message (.niNotify _ _ _ (some requestorId) (some clientName)) =>
        some (requestorId, clientName)
    | _ => none

/-- Both strings of a notification are converted inside the arrays. -/
def NiConverted (strings : CString × CString) : Prop :=
  Converted strings.1.bytes (agpsNiNotify strings.1.bytes strings.2.bytes).1 ∧
    Converted strings.2.bytes (agpsNiNotify strings.1.bytes strings.2.bytes).2

/-- Whatever datagram comes, the strings of its notification stay inside the arrays and can be
decoded exactly if neither has more than 254 characters. -/
theorem niConverted_iff (bytes : List UInt8) :
    (∀ strings ∈ notified bytes, NiConverted strings) ↔
      ∀ strings ∈ notified bytes,
        strings.1.bytes.length ≤ maxNiChars ∧ strings.2.bytes.length ≤ maxNiChars := by
  have each (strings : CString × CString) : NiConverted strings ↔
      strings.1.bytes.length ≤ maxNiChars ∧ strings.2.bytes.length ≤ maxNiChars :=
    and_congr (converted_iff _) (converted_iff _)
  constructor
  · exact fun all strings inside => (each strings).mp (all strings inside)
  · exact fun all strings inside => (each strings).mpr (all strings inside)

/-- A requestor of 255 characters fits a datagram. -/
def longName : CString :=
  ⟨.replicate 255 65, fun inside => absurd (List.eq_of_mem_replicate inside) (by decide)⟩

theorem not_niConverted : ¬ ∀ bytes : List UInt8, bytes.length ≤ maxBuffSize →
    ∀ strings ∈ notified bytes, NiConverted strings := by
  intro all
  have fits : (encoding (Agps2mnl.niNotify 0 0 0 (some longName) (some longName) :
      Agps2mnl (Option CString) Image).fields).length ≤ maxBuffSize := by
    decide +kernel
  have calls := mnldCalls_of_message (fun _ => true) fits
  have short : (datagram maxBuffSize (Agps2mnl.niNotify 0 0 0 (some longName) (some longName) :
      Agps2mnl (Option CString) Image).fields).length ≤ maxBuffSize := by
    rw [datagram_eq]
    exact fits
  have strings : (longName, longName) ∈ notified (datagram maxBuffSize
      (Agps2mnl.niNotify 0 0 0 (some longName) (some longName) :
        Agps2mnl (Option CString) Image).fields) := by
    rw [notified, calls]
    exact List.mem_cons_self
  have converted := (all _ short _ strings).1
  have room := (converted_iff longName.bytes).mp converted
  exact absurd room (by decide +kernel)

end Connectivity.Agps
