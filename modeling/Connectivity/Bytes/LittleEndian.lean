import Mathlib.Algebra.Group.Nat.Defs
import Mathlib.Algebra.Ring.Int.Defs
import Mathlib.Data.List.Basic
import Mathlib.Algebra.Ring.Nat

set_option autoImplicit false

/- Little-endian integers in byte lists, and reads past the end of one: what lies
there is zero. -/
namespace Bytes

/-- The value of some bytes, the least significant first. -/
def fromLE : List UInt8 → Nat
  | [] => 0
  | byte :: rest => byte.toNat + 256 * fromLE rest

/-- The lowest `width` bytes of a value. -/
def toLE : Nat → Nat → List UInt8
  | 0, _ => []
  | width + 1, value => UInt8.ofNat value :: toLE width (value / 256)

/-- `width` bytes from `offset` on. -/
def window (bytes : List UInt8) (offset width : Nat) : List UInt8 :=
  (List.range width).map fun i => bytes.getD (offset + i) 0

/-- A signed 32-bit integer. -/
def int32LE (bytes : List UInt8) : Int := (BitVec.ofNat 32 (fromLE bytes)).toInt

@[simp] theorem window_length (bytes : List UInt8) (offset width : Nat) :
    (window bytes offset width).length = width := by
  rw [window, List.length_map, List.length_range]

theorem window_append (bytes : List UInt8) (offset front back : Nat) :
    window bytes offset (front + back) =
      window bytes offset front ++ window bytes (offset + front) back := by
  rw [window, List.range_add, List.map_append, List.map_map]
  congr 1
  apply List.map_congr_left
  intro i _
  simp only [Function.comp_apply, Nat.add_assoc]

/-- A window that stays inside is a part of the list. -/
theorem window_inside {bytes : List UInt8} {width : Nat} (inside : width ≤ bytes.length) :
    window bytes 0 width = bytes.take width := by
  apply List.ext_getElem
  · rw [window_length, List.length_take]
    omega
  · intro i small _
    rw [window_length] at small
    have bound : i < bytes.length := by omega
    simp [window, bound]

theorem window_middle (front bytes back : List UInt8) :
    window (front ++ (bytes ++ back)) front.length bytes.length = bytes := by
  apply List.ext_getElem (window_length ..)
  intro i small _
  rw [window_length] at small
  have found : (front ++ (bytes ++ back))[front.length + i]? = some bytes[i] := by
    rw [List.getElem?_append_right (Nat.le_add_right ..), Nat.add_sub_cancel_left,
      List.getElem?_append_left small, List.getElem?_eq_getElem small]
  simp [window, found]

theorem toLE_fromLE (bytes : List UInt8) : toLE bytes.length (fromLE bytes) = bytes := by
  induction bytes with
  | nil => rfl
  | cons byte rest ih =>
      have small : byte.toNat < 256 := byte.toNat_lt
      have high : (byte.toNat + 256 * fromLE rest) / 256 = fromLE rest := by omega
      have low : UInt8.ofNat (byte.toNat + 256 * fromLE rest) = byte := by
        apply UInt8.toNat_inj.mp
        rw [UInt8.toNat_ofNat']
        omega
      rw [List.length_cons, fromLE, toLE, high, low, ih]

theorem fromLE_lt (bytes : List UInt8) : fromLE bytes < 256 ^ bytes.length := by
  induction bytes with
  | nil => exact Nat.one_pos
  | cons byte rest ih =>
      have small : byte.toNat < 256 := byte.toNat_lt
      rw [fromLE, List.length_cons, Nat.pow_succ]
      omega

/-- Four bytes are determined by the integer they hold. -/
theorem eq_toLE_of_int32LE {bytes : List UInt8} {value : Nat} (four : bytes.length = 4)
    (small : value < 2 ^ 31) (holds : int32LE bytes = value) : bytes = toLE 4 value := by
  have bound := fromLE_lt bytes
  rw [four] at bound
  have same : fromLE bytes = value := by
    rw [int32LE, BitVec.toInt_eq_toNat_cond, BitVec.toNat_ofNat] at holds
    rw [Nat.mod_eq_of_lt (by omega)] at holds
    split at holds <;> omega
  rw [← same, ← four, toLE_fromLE]

theorem int32LE_ge (bytes : List UInt8) : -2 ^ 31 ≤ int32LE bytes := by
  have bound := BitVec.le_toInt (BitVec.ofNat 32 (fromLE bytes))
  exact bound

theorem int32LE_lt (bytes : List UInt8) : int32LE bytes < 2 ^ 31 := by
  have bound := BitVec.toInt_lt (x := BitVec.ofNat 32 (fromLE bytes))
  exact bound

end Bytes

/- Words put together from two halves, and taken apart, with the promotions and shifts of
C: a value is widened with its sign, masked or shifted there, and cut. -/
namespace Bytes

variable {half whole wide : Nat}

def mask (wide half : Nat) : BitVec wide := BitVec.ofNat wide (2 ^ half - 1)

/-- `(low & mask) | (high << half)`. -/
def joined (wide : Nat) (low high : BitVec half) : BitVec whole :=
  ((low.signExtend wide &&& mask wide half) ||| high.signExtend wide <<< half).setWidth whole

/-- `v & mask`. -/
def lowHalf (wide : Nat) (v : BitVec whole) : BitVec half :=
  (v.signExtend wide &&& mask wide half).setWidth half

/-- `(v >> half) & mask`. -/
def highHalf (wide : Nat) (v : BitVec whole) : BitVec half :=
  ((v.signExtend wide).sshiftRight half &&& mask wide half).setWidth half

theorem getElem_mask (i : Nat) (inside : i < wide) : (mask wide half)[i] = decide (i < half) := by
  rw [mask, ← BitVec.getLsbD_eq_getElem, BitVec.getLsbD_ofNat, Nat.testBit_two_pow_sub_one,
    decide_eq_true inside, Bool.true_and]

theorem getElem_lowHalf (v : BitVec whole) (inside : half ≤ whole) (room : whole ≤ wide) {i : Nat}
    (low : i < half) : (lowHalf wide v : BitVec half)[i] = v[i] := by
  have widened : i < wide := by omega
  have held : i < whole := by omega
  simp [lowHalf, getElem_mask, BitVec.getElem_signExtend, low, widened, held]

theorem getElem_highHalf (v : BitVec whole) (double : whole = half + half) (room : whole ≤ wide)
    {i : Nat} (low : i < half) : (highHalf wide v : BitVec half)[i] = v[half + i] := by
  have widened : half + i < wide := by omega
  have shifted : i < wide := by omega
  have held : half + i < whole := by omega
  simp [highHalf, getElem_mask, BitVec.getElem_sshiftRight, BitVec.getElem_signExtend, low,
    widened, shifted, held]

/-- The halves of a word make the word. -/
theorem joined_halves (v : BitVec whole) (double : whole = half + half) (room : whole ≤ wide) :
    joined wide (lowHalf wide v : BitVec half) (highHalf wide v) = v := by
  apply BitVec.eq_of_getElem_eq
  intro i inside
  have widened : i < wide := by omega
  by_cases low : i < half
  · have held := getElem_lowHalf v (by omega) room low
    simp [joined, getElem_mask, BitVec.getElem_signExtend, held, widened, low]
  · have shifted : i - half < half := by omega
    have back : half + (i - half) = i := by omega
    have held := getElem_highHalf v double room shifted
    simp only [back] at held
    simp [joined, getElem_mask, BitVec.getElem_signExtend, held, widened, low, shifted]

section Word16

variable (low high : UInt8)

/-- A word of two bytes, and the bytes it is taken apart into. -/
theorem word16_low : (low.toUInt16 ||| high.toUInt16 <<< 8).toUInt8 = low := by
  apply UInt8.toBitVec_inj.mp
  ext i inside
  simp

theorem word16_high : ((low.toUInt16 ||| high.toUInt16 <<< 8) >>> 8).toUInt8 = high := by
  apply UInt8.toBitVec_inj.mp
  ext i inside
  have held : i < 16 := by omega
  have here : 8 + i < 16 := by omega
  simp [held, here, BitVec.getLsbD_eq_getElem inside]

theorem word16_toNat : (low.toUInt16 ||| high.toUInt16 <<< 8).toNat =
    high.toNat <<< 8 + low.toNat := by
  have small := low.toNat_lt
  have large := high.toNat_lt
  have joined := Nat.shiftLeft_add_eq_or_of_lt small high.toNat
  have inside : high.toNat <<< 8 < 2 ^ 16 := by rw [Nat.shiftLeft_eq]; omega
  simp only [UInt16.toNat_or, UInt8.toNat_toUInt16, UInt16.toNat_shiftLeft]
  rw [show UInt16.toNat 8 % 16 = 8 from rfl, Nat.mod_eq_of_lt inside, Nat.or_comm, joined]

end Word16

end Bytes
