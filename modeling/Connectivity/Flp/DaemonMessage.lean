import Connectivity.Bytes.Buffer
import Connectivity.DataCoder.Texts
import Mathlib.Data.List.TakeWhile

set_option autoImplicit false

/- A datagram of the daemon, as the handlers of the location and of the geofence HAL take it. -/
namespace Connectivity.Flp

open Bytes

/-- `RESET_FLP_DATA`. -/
def resetFlpDataText : List UInt8 := [82, 69, 83, 69, 84, 95, 70, 76, 80, 95, 68, 65, 84, 65]

/-- `GEO_COR`. -/
def geoCorText : List UInt8 := [71, 69, 79, 95, 67, 79, 82]

/-- `Unicode2Ascii`, the bytes that are left in `ascii`. -/
def unicode2Ascii (unicode : Nat → UInt8) (len : Nat) : List UInt8 :=
  (List.range len).map fun i => unicode (i * 2)

/-- A byte of `unicode`, of which `size` may be read, and one of the 1024 of `ascii` each time. -/
def unicode2AsciiTouches (size len : Nat) : List Touch :=
  (List.range len).map (fun i => ⟨size, i * 2, 1⟩) ++ (List.range len).map fun i => ⟨1024, i, 1⟩

/-- The fields that `strtok` finds behind the name. -/
def geoFields (text : List UInt8) : List (List UInt8) :=
  ((text.splitOn 44).filter fun field => !field.isEmpty).tail

/-- A message in a block of its own, and behind its length in the `buff` that is sent. -/
def sendTouches (payload : Nat) : List Touch :=
  [⟨8 + payload, 0, 8 + payload⟩, ⟨1024, 0, 4 + (8 + payload)⟩]

/-- What is done with the text in `asciibuf`: four of its numbers at most are kept, and three
sent. -/
def asciiTouches (text : List UInt8) : List Touch :=
  ⟨1024, 0, min 14 (text.length + 1)⟩ ::
    if text.take 14 = resetFlpDataText then sendTouches 0
    else ⟨1024, 0, min 7 (text.length + 1)⟩ ::
      if text.take 7 = geoCorText then
        ⟨1024, 0, text.length + 1⟩ ::
          ((List.range (min 4 (geoFields text).length)).map (fun index => ⟨16, index * 4, 4⟩) ++
            (⟨16, 0, 12⟩ :: sendTouches 12))
      else []

/-- `flphal2mnl_diag_inject_data`, for a text of which `size` bytes may be read. -/
def diagInjectTouches (size : Nat) (data : Option (Nat → UInt8)) (length : Int) : List Touch :=
  match data with
  | none => []
  | some unicode =>
    if length ≤ 0 then []
    else
      let len := length.toNat
      unicode2AsciiTouches size len ++
        (⟨1024, len, 1⟩ :: asciiTouches ((unicode2Ascii unicode len).takeWhile (· ≠ 0)))

section Bounds

variable {size len : Nat} {text : List UInt8}

theorem range_inside {size step width count : Nat} :
    (∀ touch ∈ (List.range count).map (fun i => (⟨size, i * step, width⟩ : Touch)),
      touch.Inside) ↔ ∀ i < count, i * step + width ≤ size := by
  rw [List.forall_mem_map]
  constructor
  · intro inside i below
    exact inside i (List.mem_range.mpr below)
  · intro inside i below
    exact inside i (List.mem_range.mp below)

theorem unicode2Ascii_inside (positive : 0 < len) :
    (∀ touch ∈ unicode2AsciiTouches size len, touch.Inside) ↔
      2 * len ≤ size + 1 ∧ len ≤ 1024 := by
  have bytes : (∀ touch ∈ (List.range len).map (fun i => (⟨1024, i * 1, 1⟩ : Touch)),
      touch.Inside) ↔ ∀ i < len, i * 1 + 1 ≤ 1024 := range_inside
  simp only [Nat.mul_one] at bytes
  unfold unicode2AsciiTouches
  rw [List.forall_mem_append, range_inside, bytes]
  constructor
  · rintro ⟨reads, writes⟩
    have last := reads (len - 1) (by omega)
    have top := writes (len - 1) (by omega)
    omega
  · rintro ⟨room, short⟩
    refine ⟨fun i below => by omega, fun i below => by omega⟩

theorem send_inside {payload : Nat} (small : payload ≤ 1000) :
    ∀ touch ∈ sendTouches payload, touch.Inside := by
  unfold sendTouches
  rw [List.forall_mem_cons, List.forall_mem_singleton]
  refine ⟨Touch.inside_whole _, ?_⟩
  rw [Touch.inside_mk]
  omega

/-- A text that ends in the buffer is looked at inside of it. -/
theorem ascii_inside (short : text.length < 1024) :
    ∀ touch ∈ asciiTouches text, touch.Inside := by
  have numbers : ∀ i < min 4 (geoFields text).length, i * 4 + 4 ≤ 16 := fun i below => by omega
  unfold asciiTouches
  rw [List.forall_mem_cons, Touch.inside_mk]
  refine ⟨by omega, ?_⟩
  split
  next => exact send_inside (by decide)
  next =>
    rw [List.forall_mem_cons, Touch.inside_mk]
    refine ⟨by omega, ?_⟩
    split
    next =>
      rw [List.forall_mem_cons, Touch.inside_mk, List.forall_mem_append, range_inside,
        List.forall_mem_cons]
      exact ⟨by omega, numbers, by decide, send_inside (by decide)⟩
    next =>
      intro touch held
      cases held

/-- The text stays inside of its bytes and of `asciibuf` if every second byte of it is there and
the buffer has a place for the NUL. -/
theorem diag_inside {data : Option (Nat → UInt8)} {length : Int} :
    (∀ touch ∈ diagInjectTouches size data length, touch.Inside) ↔
      (data ≠ none → 0 < length → 2 * length ≤ size + 1 ∧ length < 1024) := by
  cases data with
  | none => exact ⟨fun _ given => absurd rfl given, fun _ touch held => by cases held⟩
  | some unicode =>
      unfold diagInjectTouches
      dsimp only
      by_cases empty : length ≤ 0
      · rw [if_pos empty]
        exact ⟨fun _ _ positive => by omega, fun _ touch held => by cases held⟩
      · have count : ((length.toNat : Nat) : Int) = length := Int.toNat_of_nonneg (by omega)
        have text : ((unicode2Ascii unicode length.toNat).takeWhile (· ≠ 0)).length ≤
            length.toNat := by
          have part := (List.takeWhile_sublist (l := unicode2Ascii unicode length.toNat)
            (fun byte => decide (byte ≠ 0))).length_le
          rw [unicode2Ascii, List.length_map, List.length_range] at part
          exact part
        rw [if_neg empty, List.forall_mem_append, List.forall_mem_cons, Touch.inside_mk,
          unicode2Ascii_inside (by omega)]
        constructor
        · rintro ⟨copied, ended, -⟩ _ _
          omega
        · intro fits
          have bounds := fits (Option.some_ne_none unicode) (by omega)
          exact ⟨by omega, by omega, ascii_inside (by omega)⟩

end Bounds

end Connectivity.Flp

namespace Connectivity.Flp

open Bytes DataCoder

/-- What the target decides: whether `MTK_64_PLATFORM` is defined, the sizes of the location
types, where the daemon puts the accuracy, and the `int` of a `float` that is none. -/
structure Platform where
  wide : Bool
  flpLocation : Nat
  gpsLocation : Nat
  accuracy : Nat
  outOfInt : BitVec 32 → Int
  flpSized : 16 ≤ flpLocation ∧ flpLocation ≤ 128
  gpsSized : 16 ≤ gpsLocation ∧ gpsLocation ≤ 128

section Messages

/-- The buffer of 1024 bytes behind `recvfrom`. -/
def received (buffer : Vector UInt8 1024) (datagram : List UInt8) : List UInt8 :=
  datagram.take 1024 ++ buffer.toList.drop datagram.length

/-- What `get_binary` takes from the buffer; behind it `data` holds zeros. -/
def message (buff : List UInt8) : Binary := ((getBinary 1024).call ⟨buff, 0, 1024⟩).value

/-- The bytes of the message that came with the datagram. -/
def arrived (datagram : List UInt8) (msg : Binary) : Nat :=
  min msg.len.toInt.toNat (min 1024 datagram.length - 4)

/-- Four bytes of `data` as an `unsigned int`. -/
def wordAt (msg : Binary) (offset : Nat) : Nat := fromLE (window msg.data offset 4)

def msgType (msg : Binary) : Nat := wordAt msg 0

def msgLength (msg : Binary) : Nat := wordAt msg 4

/-- Of the buffer and of `data`. -/
def binaryTouches (msg : Binary) : List Touch :=
  ⟨1024, 0, 4⟩ ::
    if 0 < msg.len.toInt then
      [⟨1024, 4, msg.len.toInt.toNat⟩, ⟨1024, 0, msg.len.toInt.toNat⟩, ⟨1024, 0, 8⟩]
    else []

end Messages

section Locations

variable (p : Platform) (datagram : List UInt8) (msg : Binary)

/-- `mnl2flphal_loc_rearrange` and `mtk_loc_rearrange`: the flags and what is behind them go from
128 bytes to a location of a size. -/
def rearrangeTouches (size : Nat) : List Touch :=
  [⟨size, 0, size⟩, ⟨128, 4, 2⟩, ⟨size, 8, 2⟩, ⟨128, 8, size - 16⟩, ⟨size, 16, size - 16⟩]

/-- `accuracy < 0.000001` for the image of a `float`; it is false for one that is no number. -/
def inaccurate (image : Nat) : Bool :=
  image < 0x358637BE ∨ 0x80000000 ≤ image ∧ image ≤ 0xFF800000

/-- `mtk_flp_report_loc` reads `length / sizeof(FlpLocation)` locations of its message. -/
def reportLocTouches (size length : Nat) : List Touch :=
  (List.range (length / p.flpLocation)).map fun i =>
    ⟨size, i * p.flpLocation + 8, p.flpLocation⟩

/-- A message is handed on as it is. -/
def narrowTouches : List Touch :=
  if msgLength msg % p.flpLocation ≠ 0 then []
  else ⟨1024, 8, p.flpLocation⟩ ::
    if inaccurate (wordAt msg (8 + p.accuracy)) then []
    else reportLocTouches p (arrived datagram msg) (msgLength msg)

/-- A message is made of the first location. -/
def wideTouches : List Touch :=
  [⟨1024, 8, 128⟩, ⟨128, 0, 128⟩] ++ (rearrangeTouches p.flpLocation ++
    if inaccurate (wordAt msg (8 + p.accuracy)) then []
    else ⟨8 + p.flpLocation, 0, 8 + p.flpLocation⟩ ::
      reportLocTouches p (8 + p.flpLocation) p.flpLocation)

def reportsLoc : Bool := msgType msg = 300 ∨ msgType msg = 301

/-- `mnl2flphal_hdlr` behind `get_binary`, with what `mtk_mnl2flp_hal_response` reads. -/
def flpHandlerTouches : List Touch :=
  if reportsLoc msg then if p.wide then wideTouches p msg else narrowTouches p datagram msg
  else if msgType msg = 401 ∧ msgLength msg ≠ 0 ∨ msgType msg = 403 then [⟨1024, 8, 4⟩]
  else []

end Locations

/-- `mnl2flphal_jni_thread` with a datagram; nothing is done with an empty one. -/
def flpTouches (p : Platform) (buffer : Vector UInt8 1024) (datagram : List UInt8) : List Touch :=
  let msg := message (received buffer datagram)
  ⟨1024, 0, min 1024 datagram.length⟩ ::
    if datagram = [] then []
    else binaryTouches msg ++
      if 0 < msg.len.toInt then flpHandlerTouches p datagram msg else []

/-- On a target of 32 bits a message with locations is not longer than it says. -/
def LocationsArrive (p : Platform) (buffer : Vector UInt8 1024) (datagram : List UInt8) : Prop :=
  let msg := message (received buffer datagram)
  p.wide = false → datagram ≠ [] → 0 < msg.len.toInt → reportsLoc msg = true →
    msgLength msg % p.flpLocation = 0 → inaccurate (wordAt msg (8 + p.accuracy)) = false →
      msgLength msg = 0 ∨ 8 + msgLength msg ≤ arrived datagram msg

section Bounds

variable {p : Platform} {buffer : Vector UInt8 1024} {datagram : List UInt8} {msg : Binary}

theorem length_received (buffer : Vector UInt8 1024) (datagram : List UInt8) :
    (received buffer datagram).length = 1024 := by
  rw [received, List.length_append, List.length_take, List.length_drop, Vector.length_toList]
  omega

theorem cursor_inside {buff : List UInt8} {offset : Int} (whole : buff.length = 1024)
    (low : 0 ≤ offset) (high : offset ≤ 1024) : (Cursor.mk buff offset 1024).Inside := by
  have int : (1024 : Int) < 2 ^ 31 := by decide
  refine ⟨low, high, ?_, int⟩
  rw [whole]
  exact Int.le_refl _

/-- A message leaves room for its length in the buffer. -/
theorem message_len {buff : List UInt8} (whole : buff.length = 1024) :
    (message buff).len.toInt ≤ 1020 := by
  have inside := cursor_inside whole (Int.le_refl 0) (by omega)
  have behind : (getInt.call ⟨buff, 0, 1024⟩).cursor = ⟨buff, 4, 1024⟩ := getInt_cursor inside
  have size : (1024 : BitVec 32).toInt = 1024 := rfl
  have clipped := clipTo_le (cursor_inside whole (by omega : (0 : Int) ≤ 4) (by omega))
    (1024 : BitVec 32) (getInt.call ⟨buff, 0, 1024⟩).value
  rw [size] at clipped
  unfold message
  rw [getBinary_inside (Int.le_refl 0) inside.within, call_bind]
  dsimp only
  rw [behind, getData_call]
  split
  next => exact clipped
  next => exact clipped

theorem binary_inside (short : msg.len.toInt ≤ 1020) :
    ∀ touch ∈ binaryTouches msg, touch.Inside := by
  unfold binaryTouches
  rw [List.forall_mem_cons]
  refine ⟨by decide, ?_⟩
  split
  next =>
    rw [List.forall_mem_cons, List.forall_mem_cons, List.forall_mem_singleton, Touch.inside_mk,
      Touch.inside_mk, Touch.inside_mk]
    omega
  next =>
    intro touch held
    cases held

theorem rearrange_inside {size : Nat} (sized : 16 ≤ size ∧ size ≤ 128) :
    ∀ touch ∈ rearrangeTouches size, touch.Inside := by
  unfold rearrangeTouches
  rw [List.forall_mem_cons, List.forall_mem_cons, List.forall_mem_cons, List.forall_mem_cons,
    List.forall_mem_singleton, Touch.inside_mk, Touch.inside_mk, Touch.inside_mk,
    Touch.inside_mk, Touch.inside_mk]
  omega

/-- Whole locations are read inside of a message that holds them. -/
theorem reportLoc_inside {size length : Nat} (whole : length % p.flpLocation = 0) :
    (∀ touch ∈ reportLocTouches p size length, touch.Inside) ↔ length = 0 ∨ 8 + length ≤ size := by
  have positive : 0 < p.flpLocation := by
    have sized := p.flpSized
    omega
  have count : length / p.flpLocation * p.flpLocation = length :=
    Nat.div_mul_cancel (Nat.dvd_of_mod_eq_zero whole)
  unfold reportLocTouches
  rw [List.forall_mem_map]
  generalize length / p.flpLocation = locations at count
  constructor
  · intro inside
    cases locations with
    | zero =>
        left
        rw [← count, Nat.zero_mul]
    | succ before =>
        have last := inside before (List.mem_range.mpr (Nat.lt_succ_self before))
        rw [Touch.inside_mk] at last
        rw [Nat.succ_mul] at count
        right
        omega
  · intro room i below
    have part : (i + 1) * p.flpLocation ≤ locations * p.flpLocation :=
      Nat.mul_le_mul_right _ (List.mem_range.mp below)
    rw [Nat.succ_mul] at part
    rw [Touch.inside_mk]
    omega

theorem narrow_inside : (∀ touch ∈ narrowTouches p datagram msg, touch.Inside) ↔
    (msgLength msg % p.flpLocation = 0 → inaccurate (wordAt msg (8 + p.accuracy)) = false →
      msgLength msg = 0 ∨ 8 + msgLength msg ≤ arrived datagram msg) := by
  have sized := p.flpSized
  unfold narrowTouches
  by_cases whole : msgLength msg % p.flpLocation = 0
  · rw [if_neg (not_not.mpr whole), List.forall_mem_cons, Touch.inside_mk]
    cases inaccurate (wordAt msg (8 + p.accuracy)) with
    | true =>
        rw [if_pos rfl]
        exact ⟨fun _ _ other => (by cases other),
          fun _ => ⟨by omega, fun touch held => by cases held⟩⟩
    | false =>
        rw [if_neg (by decide), reportLoc_inside whole]
        exact ⟨fun all _ _ => all.2, fun room => ⟨by omega, room whole rfl⟩⟩
  · rw [if_pos whole]
    exact ⟨fun _ same => absurd same whole, fun _ touch held => by cases held⟩

theorem wide_inside : ∀ touch ∈ wideTouches p msg, touch.Inside := by
  have sized := p.flpSized
  have whole : p.flpLocation % p.flpLocation = 0 := Nat.mod_self _
  unfold wideTouches
  rw [List.forall_mem_append, List.forall_mem_append, List.forall_mem_cons,
    List.forall_mem_singleton]
  refine ⟨⟨by decide, by decide⟩, rearrange_inside sized, ?_⟩
  split
  next =>
    intro touch held
    cases held
  next =>
    rw [List.forall_mem_cons, reportLoc_inside whole]
    exact ⟨Touch.inside_whole _, Or.inr (Nat.le_refl _)⟩

theorem handler_inside : (∀ touch ∈ flpHandlerTouches p datagram msg, touch.Inside) ↔
    (p.wide = false → reportsLoc msg = true → msgLength msg % p.flpLocation = 0 →
      inaccurate (wordAt msg (8 + p.accuracy)) = false →
        msgLength msg = 0 ∨ 8 + msgLength msg ≤ arrived datagram msg) := by
  unfold flpHandlerTouches
  cases reportsLoc msg with
  | true =>
      rw [if_pos rfl]
      cases p.wide with
      | true =>
          rw [if_pos rfl]
          exact ⟨fun _ other => (by cases other), fun _ => wide_inside⟩
      | false =>
          rw [if_neg (by decide), narrow_inside]
          exact ⟨fun room _ _ => room, fun room => room rfl rfl⟩
  | false =>
      rw [if_neg (by decide)]
      refine ⟨fun _ _ other => (by cases other), fun _ => ?_⟩
      split
      next =>
        rw [List.forall_mem_singleton]
        decide
      next =>
        intro touch held
        cases held

/-- A datagram of the daemon is handled inside of the buffers if its locations have arrived. -/
theorem flp_inside : (∀ touch ∈ flpTouches p buffer datagram, touch.Inside) ↔
    LocationsArrive p buffer datagram := by
  have short := message_len (length_received buffer datagram)
  have read : (Touch.mk 1024 0 (min 1024 datagram.length)).Inside := by
    rw [Touch.inside_mk]
    omega
  unfold flpTouches LocationsArrive
  dsimp only
  generalize message (received buffer datagram) = msg at short
  rw [List.forall_mem_cons]
  by_cases empty : datagram = []
  · rw [if_pos empty]
    exact ⟨fun _ _ other => absurd empty other, fun _ => ⟨read, fun touch held => by cases held⟩⟩
  · rw [if_neg empty, List.forall_mem_append]
    have taken := binary_inside short
    by_cases positive : 0 < msg.len.toInt
    · rw [if_pos positive, handler_inside]
      exact ⟨fun all narrow _ _ => all.2.2 narrow,
        fun arrive => ⟨read, taken, fun narrow => arrive narrow empty positive⟩⟩
    · rw [if_neg positive]
      exact ⟨fun _ _ _ other => absurd other positive,
        fun _ => ⟨read, taken, fun touch held => by cases held⟩⟩

end Bounds

end Connectivity.Flp
