import Connectivity.Flp.DaemonMessage
import Connectivity.Geofence.Recovery

set_option autoImplicit false

/- The offsets of fences that the daemon injects, and the memory that the location and the
geofence HAL touch for a datagram and a diagnostic text. -/
namespace Connectivity.Geofence

open Bytes DataCoder Flp

section Conversion

/-- The exponent in the image of a `float`, with its bias of 127. -/
def exponent (image : BitVec 32) : Nat := image.toNat / 2 ^ 23 % 256

/-- What is left of a number of this exponent when it is cut to an integer. -/
def magnitude (image : BitVec 32) : Nat :=
  if exponent image < 127 then 0
  else (2 ^ 23 + image.toNat % 2 ^ 23) * 2 ^ (exponent image - 127) / 2 ^ 23

/-- The conversion of a `float` to an `int`; there is none for -2^31 and below, but for -2^31
itself, for 2^31 and above, and for what is no number. -/
def truncated (image : BitVec 32) : Option Int :=
  if exponent image < 158 then
    some (if image.msb then -(magnitude image : Int) else magnitude image)
  else if image = 0xCF000000#32 then some (-2147483648)
  else none

def toInt (p : Platform) (image : BitVec 32) : Int := (truncated image).getD (p.outOfInt image)

/-- The number is above -1; where it is no `int`, the target does not make it negative. -/
def AboveMinusOne (p : Platform) (image : BitVec 32) : Prop :=
  if exponent image < 158 then image.msb = false ∨ exponent image < 127
  else image ≠ 0xCF000000#32 ∧ 0 ≤ p.outOfInt image

theorem magnitude_zero {image : BitVec 32} : magnitude image = 0 ↔ exponent image < 127 := by
  unfold magnitude
  split
  next small => exact ⟨fun _ => small, fun _ => rfl⟩
  next large =>
    have scale : 1 ≤ 2 ^ (exponent image - 127) := Nat.one_le_two_pow
    have least : 2 ^ 23 * 1 ≤ (2 ^ 23 + image.toNat % 2 ^ 23) * 2 ^ (exponent image - 127) :=
      Nat.mul_le_mul (Nat.le_add_right _ _) scale
    refine ⟨fun zero => ?_, fun small => absurd small large⟩
    have below := (Nat.div_eq_zero_iff_lt (by decide)).mp zero
    omega

/-- A number is cut to a negative integer from -1 on. -/
theorem toInt_nonneg {p : Platform} {image : BitVec 32} :
    0 ≤ toInt p image ↔ AboveMinusOne p image := by
  unfold toInt truncated AboveMinusOne
  by_cases small : exponent image < 158
  · rw [if_pos small, if_pos small, Option.getD_some, ← magnitude_zero]
    cases image.msb with
    | true =>
        rw [if_pos rfl]
        constructor
        · intro least
          right
          omega
        · rintro (other | zero)
          · cases other
          · omega
    | false =>
        rw [if_neg (by decide)]
        exact ⟨fun _ => Or.inl rfl, fun _ => Int.natCast_nonneg _⟩
  · rw [if_neg small, if_neg small]
    by_cases least : image = 0xCF000000#32
    · rw [if_pos least, Option.getD_some]
      exact ⟨fun other => absurd other (by decide), fun other => absurd least other.1⟩
    · rw [if_neg least, Option.getD_none]
      exact ⟨fun nonneg => ⟨least, nonneg⟩, And.right⟩

end Conversion

section Handler

variable (p : Platform) (msg : Binary)

/-- One of the three numbers of `GEOFENCE_INJECT_LOC_ENUM`. -/
def geoInject (k : Nat) : BitVec 32 := BitVec.ofNat 32 (wordAt msg (8 + 4 * k))

def fenceId : Int := toInt p (geoInject msg 0)

/-- The case of `GEOFENCE_INJECT_LOC_ENUM`. -/
def geofenceInjectLoc (s : Gfc) : Gfc :=
  if msgLength msg < 12 then s
  else mtkGeoInjectInfoSet s (fenceId p msg) (geoInject msg 1) (geoInject msg 2)

/-- The row of `injectFenceInfo` that the message is stored under. -/
def storedIndex : Option Int :=
  if 0 < msg.len.toInt ∧ msgType msg = 600 ∧ 12 ≤ msgLength msg ∧ fenceId p msg < maxGoefence then
    some (fenceId p msg)
  else none

/-- The location of a transition, as the daemon sends it, its id before it, and its transition and
time behind it. -/
def transitionTouches : List Touch :=
  let sent := if p.wide then p.gpsLocation - 8 else p.gpsLocation
  [⟨1024, 8, 4⟩, ⟨1024, 12, sent⟩, ⟨1024, 12 + sent, 4⟩, ⟨1024, 16 + sent, 8⟩] ++
    if p.wide then ⟨128, 0, sent⟩ :: rearrangeTouches p.gpsLocation
    else [⟨p.gpsLocation, 0, sent⟩]

/-- `mnl2gfchal_hdlr` behind `get_binary`. -/
def gfcHandlerTouches : List Touch :=
  if msgType msg = 404 then transitionTouches p
  else if msgType msg = 400 ∨ msgType msg = 600 ∧ 12 ≤ msgLength msg then
    [⟨1024, 8, 12⟩, ⟨12, 0, 12⟩]
  else []

end Handler

/-- `mnl2gfchal_jni_thread` with a datagram; an empty one leaves the message before it. -/
def gfcTouches (p : Platform) (buffer : Vector UInt8 1024) (datagram : List UInt8) : List Touch :=
  let msg := message (received buffer datagram)
  ⟨1024, 0, min 1024 datagram.length⟩ ::
    (binaryTouches msg ++ if 0 < msg.len.toInt then gfcHandlerTouches p msg else [])

/-- A datagram is handled inside of the buffers, and its offset stored under a fence of the
table. -/
structure GfcInside (p : Platform) (buffer : Vector UInt8 1024) (datagram : List UInt8) :
    Prop where
  inside : ∀ touch ∈ gfcTouches p buffer datagram, touch.Inside
  stored : ∀ id ∈ storedIndex p (message (received buffer datagram)), 0 ≤ id ∧ id < maxGoefence

/-- The fence of an injected offset is above -1. -/
def FenceAbove (p : Platform) (buffer : Vector UInt8 1024) (datagram : List UInt8) : Prop :=
  let msg := message (received buffer datagram)
  0 < msg.len.toInt → msgType msg = 600 → 12 ≤ msgLength msg → AboveMinusOne p (geoInject msg 0)

section Bounds

variable {p : Platform} {buffer : Vector UInt8 1024} {datagram : List UInt8} {msg : Binary}

theorem transition_inside : ∀ touch ∈ transitionTouches p, touch.Inside := by
  have sized := p.gpsSized
  unfold transitionTouches
  dsimp only
  rw [List.forall_mem_append, List.forall_mem_cons, List.forall_mem_cons, List.forall_mem_cons,
    List.forall_mem_singleton]
  cases p.wide with
  | true =>
      rw [if_pos rfl, if_pos rfl, List.forall_mem_cons]
      simp only [Touch.inside_mk]
      exact ⟨by omega, by omega, rearrange_inside sized⟩
  | false =>
      rw [if_neg (by decide), if_neg (by decide), List.forall_mem_singleton]
      simp only [Touch.inside_mk]
      omega

theorem gfcHandler_inside : ∀ touch ∈ gfcHandlerTouches p msg, touch.Inside := by
  unfold gfcHandlerTouches
  split
  next => exact transition_inside
  next =>
    split
    next =>
      rw [List.forall_mem_cons, List.forall_mem_singleton]
      exact ⟨by decide, by decide⟩
    next =>
      intro touch held
      cases held

theorem gfcTouches_inside : ∀ touch ∈ gfcTouches p buffer datagram, touch.Inside := by
  have short := message_len (length_received buffer datagram)
  unfold gfcTouches
  dsimp only
  rw [List.forall_mem_cons, List.forall_mem_append, Touch.inside_mk]
  refine ⟨by omega, binary_inside short, ?_⟩
  split
  next => exact gfcHandler_inside
  next =>
    intro touch held
    cases held

theorem stored_inside : (∀ id ∈ storedIndex p msg, 0 ≤ id ∧ id < maxGoefence) ↔
    (0 < msg.len.toInt → msgType msg = 600 → 12 ≤ msgLength msg →
      AboveMinusOne p (geoInject msg 0)) := by
  unfold storedIndex
  rw [← toInt_nonneg]
  change (∀ id ∈ _, _) ↔ (_ → _ → _ → 0 ≤ fenceId p msg)
  constructor
  · intro inside positive type length
    by_cases table : fenceId p msg < maxGoefence
    · rw [if_pos ⟨positive, type, length, table⟩] at inside
      exact (inside _ rfl).1
    · have top : (maxGoefence : Int) = 30 := rfl
      omega
  · intro above id given
    split at given
    next taken =>
      cases given
      exact ⟨above taken.1 taken.2.1 taken.2.2.1, taken.2.2.2⟩
    next => cases given

theorem gfc_inside : GfcInside p buffer datagram ↔ FenceAbove p buffer datagram :=
  ⟨fun handled => stored_inside.mp handled.stored,
    fun above => ⟨gfcTouches_inside, stored_inside.mpr above⟩⟩

end Bounds

/-- A text of which `size` bytes may be read, and a datagram for each handler, are handled inside
of the buffers. -/
structure HalInside (p : Platform) (size : Nat) (data : Option (Nat → UInt8)) (length : Int)
    (flpBuffer gfcBuffer : Vector UInt8 1024) (flpDatagram gfcDatagram : List UInt8) : Prop where
  diag : ∀ touch ∈ diagInjectTouches size data length, touch.Inside
  flp : ∀ touch ∈ flpTouches p flpBuffer flpDatagram, touch.Inside
  gfc : GfcInside p gfcBuffer gfcDatagram

/-- Every second byte of the text may be read, and there is a place for its NUL; the locations have
arrived; the fence is above -1. -/
structure HalFits (p : Platform) (size : Nat) (data : Option (Nat → UInt8)) (length : Int)
    (flpBuffer gfcBuffer : Vector UInt8 1024) (flpDatagram gfcDatagram : List UInt8) : Prop where
  text : data ≠ none → 0 < length → 2 * length ≤ size + 1 ∧ length < 1024
  locations : LocationsArrive p flpBuffer flpDatagram
  fence : FenceAbove p gfcBuffer gfcDatagram

theorem hal_inside_iff (p : Platform) (size : Nat) (data : Option (Nat → UInt8)) (length : Int)
    (flpBuffer gfcBuffer : Vector UInt8 1024) (flpDatagram gfcDatagram : List UInt8) :
    HalInside p size data length flpBuffer gfcBuffer flpDatagram gfcDatagram ↔
      HalFits p size data length flpBuffer gfcBuffer flpDatagram gfcDatagram := by
  constructor
  · intro handled
    exact ⟨diag_inside.mp handled.diag, flp_inside.mp handled.flp, gfc_inside.mp handled.gfc⟩
  · intro fits
    exact ⟨diag_inside.mpr fits.text, flp_inside.mpr fits.locations, gfc_inside.mpr fits.fence⟩

theorem arm_flpSized : 16 ≤ 64 ∧ 64 ≤ 128 := by decide

theorem arm_gpsSized : 16 ≤ 56 ∧ 56 ≤ 128 := by decide

/-- A target of 32 bits, whose conversions saturate, with 0 for what is no number. -/
def arm : Platform where
  wide := false
  flpLocation := 64
  gpsLocation := 56
  accuracy := 40
  outOfInt := fun image =>
    if 0x7F800000 < image.toNat % 2 ^ 31 then 0
    else if image.msb then -2147483648
    else 2147483647
  flpSized := arm_flpSized
  gpsSized := arm_gpsSized

/-- A message with one location of an accuracy of ten metres that says it has fifteen. -/
def fifteen : List UInt8 :=
  [72, 0, 0, 0, 44, 1, 0, 0, 192, 3, 0, 0] ++ List.replicate 40 0 ++ [0, 0, 32, 65] ++
    List.replicate 20 0

/-- The offset of the fence -1. -/
def fenceBelow : List UInt8 :=
  [20, 0, 0, 0, 88, 2, 0, 0, 12, 0, 0, 0, 0, 0, 128, 191, 0, 0, 0, 0, 0, 0, 0, 0]

/-- A text of two bytes, one of 1024 characters, fifteen locations and the fence -1. -/
theorem hal_outside :
    ¬ HalInside arm 2 (some fun _ => 65) 2 (Vector.replicate 1024 0) (Vector.replicate 1024 0) []
      [] ∧
    ¬ HalInside arm 2048 (some fun _ => 65) 1024 (Vector.replicate 1024 0)
      (Vector.replicate 1024 0) [] [] ∧
    ¬ HalInside arm 0 none 0 (Vector.replicate 1024 0) (Vector.replicate 1024 0) fifteen [] ∧
    ¬ HalInside arm 0 none 0 (Vector.replicate 1024 0) (Vector.replicate 1024 0) [] fenceBelow := by
  refine ⟨?_, ?_, ?_, ?_⟩
  · intro handled
    have text := diag_inside.mp handled.diag (by decide) (by decide)
    omega
  · intro handled
    have text := diag_inside.mp handled.diag (by decide) (by decide)
    omega
  · intro handled
    have arrive := flp_inside.mp handled.flp rfl (by decide) (by decide)
      (by decide) (by decide) (by decide)
    exact absurd arrive (by decide)
  · intro handled
    have above := handled.gfc.stored (-1) (by decide)
    exact absurd above.1 (by decide)

end Connectivity.Geofence
