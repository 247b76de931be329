import Connectivity.DataCoder.Datagram
import Connectivity.DataCoder.Texts
import Mathlib.Data.List.GetD

set_option autoImplicit false

/- What get functions find at an index of a receive buffer, in terms of the bytes that were
received. -/
namespace Connectivity.DataCoder

open Bytes

/-- The receive buffer, from an index on. -/
def receivedAt (size : Nat) (bytes : List UInt8) (index : Int) : Cursor :=
  { received size bytes with offset := index }

def receivedInt (size : Nat) (bytes : List UInt8) (index : Int) : BitVec 32 :=
  (getInt.call (receivedAt size bytes index)).value

/-- The length of a string with its terminator, as far as the buffer goes. -/
def receivedTextSize (size : Nat) (bytes : List UInt8) (index : Int) : Int :=
  (receivedAt size bytes (index + 5)).clip (receivedInt size bytes (index + 1))

/-- What was copied out of the buffer. -/
def copies (accesses : List Access) : List (Int × Int) :=
  accesses.filterMap fun
    | .copy start count => some (start, count)
    | _ => none

theorem copies_append (first second : List Access) :
    copies (first ++ second) = copies first ++ copies second :=
  List.filterMap_append

theorem copies_getByte (c : Cursor) : copies (getByte.call c).accesses = [] := by
  rw [call_getByte]
  split
  · rfl
  · rfl

theorem copies_getShort (c : Cursor) : copies (getShort.call c).accesses = [] := by
  simp only [getShort, call_bind, call_pure, copies_append, copies_getByte, List.nil_append]
  rfl

theorem copies_getInt (c : Cursor) : copies (getInt.call c).accesses = [] := by
  simp only [getInt, call_bind, call_pure, copies_append, copies_getShort, List.nil_append]
  rfl

theorem getByte_buff (c : Cursor) : (getByte.call c).cursor.buff = c.buff := by
  rw [call_getByte]
  split
  · rfl
  · rfl

theorem getShort_buff (c : Cursor) : (getShort.call c).cursor.buff = c.buff := by
  simp only [getShort, call_bind, call_pure, getByte_buff]

theorem getInt_buff (c : Cursor) : (getInt.call c).cursor.buff = c.buff := by
  simp only [getInt, call_bind, call_pure, getShort_buff]

section Indices

variable {size : Nat} {bytes : List UInt8}

theorem receivedAt_inside (fits : bytes.length ≤ size) (int : size < 2 ^ 31) {index : Int}
    (nonneg : 0 ≤ index) (within : index ≤ size) : (receivedAt size bytes index).Inside := by
  have wide : (size : Int) < 2 ^ 31 := by omega
  refine ⟨nonneg, within, ?_, wide⟩
  simp only [receivedAt, received, List.length_append, List.length_replicate]
  omega

theorem receivedAt_getD (index : Int) (i : Nat) :
    (receivedAt size bytes index).buff.getD i 0 = bytes.getD i 0 := by
  simp only [receivedAt, received]
  by_cases inside : i < bytes.length
  · rw [List.getD_append _ _ _ _ inside]
  · rw [List.getD_append_right _ _ _ _ (by omega), List.getD_eq_default bytes 0 (by omega),
      List.getD_eq_getElem?_getD, List.getElem?_getD_replicate_default_eq]

theorem window_receivedAt (index : Int) (start width : Nat) :
    window (receivedAt size bytes index).buff start width = window bytes start width := by
  apply List.map_congr_left
  intro i _
  exact receivedAt_getD index (start + i)

/-- An integer of the datagram; behind its end stand zeros. -/
theorem receivedInt_eq (size : Nat) (bytes : List UInt8) (index : Int) :
    receivedInt size bytes index = (getInt.call ⟨bytes, index, size⟩).value := by
  have same : SameAhead ⟨bytes, index, size⟩ (receivedAt size bytes index) :=
    ⟨rfl, rfl, fun i _ => receivedAt_getD index i⟩
  exact (readsAhead_getInt _ _ same).1

theorem getInt_receivedAt (fits : bytes.length ≤ size) (int : size < 2 ^ 31) {index : Int}
    (nonneg : 0 ≤ index) (within : index + 4 ≤ size) :
    (getInt.call (receivedAt size bytes index)).cursor =
      receivedAt size bytes (index + 4) := by
  rw [getInt_cursor (receivedAt_inside fits int nonneg (by omega))]
  have next : min (index + 4) (size : Int) = index + 4 := Int.min_eq_left within
  simp only [receivedAt, received, next]

theorem getLong_receivedAt (fits : bytes.length ≤ size) (int : size < 2 ^ 31) {index : Int}
    (nonneg : 0 ≤ index) (within : index + 8 ≤ size) :
    (getLong.call (receivedAt size bytes index)).cursor =
      receivedAt size bytes (index + 8) := by
  have first := getInt_receivedAt fits int nonneg (by omega : index + 4 ≤ size)
  have second := getInt_receivedAt fits int (by omega : 0 ≤ index + 4)
    (by omega : index + 4 + 4 ≤ size)
  simp only [getLong, call_bind, call_pure, first, second]
  rw [show index + 4 + 4 = index + 8 by omega]

/-- What is read behind a version and a command. -/
theorem call_header {α : Type} (next : BitVec 32 → Get α) (fits : bytes.length ≤ size)
    (int : size < 2 ^ 31) (room : 8 ≤ size) :
    let got := (getInt >>= fun _ => getInt >>= next).call (received size bytes)
    let rest := (next (receivedInt size bytes 4)).call (receivedAt size bytes 8)
    got.value = rest.value ∧ got.cursor = rest.cursor ∧
      copies got.accesses = copies rest.accesses := by
  have version := getInt_receivedAt fits int (Int.le_refl 0) (by omega : (0 : Int) + 4 ≤ size)
  have command := getInt_receivedAt fits int (by omega : (0 : Int) ≤ 4)
    (by omega : (4 : Int) + 4 ≤ size)
  have start : received size bytes = receivedAt size bytes 0 := rfl
  rw [show (0 : Int) + 4 = 4 from rfl] at version
  rw [show (4 : Int) + 4 = 8 from rfl] at command
  have read : (getInt.call (receivedAt size bytes 4)).value = receivedInt size bytes 4 := rfl
  rw [start]
  simp only [call_bind, version, command, read, copies_append, copies_getInt, List.nil_append,
    and_self]

end Indices

section Strings

variable {size : Nat} {bytes : List UInt8} {index : Int}

theorem receivedTextSize_le (size : Nat) (bytes : List UInt8) (index : Int) :
    receivedTextSize size bytes index ≤ size - (index + 5) :=
  clip_le (receivedAt size bytes (index + 5)) _

theorem receivedTextSize_pos (found : Found (receivedAt size bytes index))
    (room : index + 5 < size) : 0 < receivedTextSize size bytes index := by
  have nonzero : (receivedInt size bytes (index + 1)).toInt ≠ 0 :=
    fun same => found.2.2 (BitVec.eq_of_toInt_eq same)
  have limit : (receivedAt size bytes (index + 5)).srcLen -
      (receivedAt size bytes (index + 5)).offset = size - (index + 5) := rfl
  rw [receivedTextSize, Cursor.clip, limit]
  split <;> omega

/-- A string that is found begins behind its length. -/
theorem getString_receivedAt (fits : bytes.length ≤ size) (int : size < 2 ^ 31)
    (nonneg : 0 ≤ index) (room : index + 5 < size)
    (found : Found (receivedAt size bytes index)) :
    (getString.call (receivedAt size bytes index)).value = some (index + 5) ∧
      (getString.call (receivedAt size bytes index)).cursor =
        { receivedAt size bytes (index + 5 + receivedTextSize size bytes index) with
          buff := (received size bytes).buff.set
            (index + 5 + receivedTextSize size bytes index - 1).toNat 0 } := by
  have inside := receivedAt_inside fits int nonneg (by omega : index ≤ size)
  have first := getByte_cursor inside
  have positive := receivedTextSize_pos found room
  refine ⟨?_, getString_cursor inside found room⟩
  have flag : min (index + 1) (size : Int) = index + 1 := Int.min_eq_left (by omega)
  have length := getInt_receivedAt fits int (by omega : 0 ≤ index + 1)
    (by omega : index + 1 + 4 ≤ size)
  have five : index + 1 + 4 = index + 5 := by omega
  have behind : (getByte.call (receivedAt size bytes index)).cursor =
      receivedAt size bytes (index + 1) := by
    rw [first]
    simp only [receivedAt, received, flag]
  rw [getString_present nonneg found.1 found.2.1]
  simp only [call_bind, behind, length, five]
  have low : 0 ≤ (receivedAt size bytes (index + 5)).offset := by
    simp only [receivedAt]
    omega
  have chars := getChars_inside low room positive
  exact congrArg Got.value chars

theorem takeWhile_set {bytes : List UInt8} {n : Nat} (inside : n < bytes.length) :
    (bytes.set n 0).takeWhile (· ≠ 0) = (bytes.take n).takeWhile (· ≠ 0) := by
  induction bytes generalizing n with
  | nil => exact absurd inside (Nat.not_lt_zero n)
  | cons byte rest ih =>
      cases n with
      | zero => simp
      | succ n =>
          have later := ih (Nat.lt_of_succ_lt_succ inside)
          rw [List.set_cons_succ, List.take_succ_cons, List.takeWhile_cons, List.takeWhile_cons,
            later]

/-- A string that is found ends where its terminator is written, or in front of it. -/
theorem cString_receivedAt (fits : bytes.length ≤ size) (int : size < 2 ^ 31)
    (nonneg : 0 ≤ index) (room : index + 5 < size)
    (found : Found (receivedAt size bytes index)) :
    (cString (getString.call (receivedAt size bytes index)).cursor.buff (index + 5)).bytes =
      (((received size bytes).buff.drop (index + 5).toNat).take
        (receivedTextSize size bytes index - 1).toNat).takeWhile (· ≠ 0) := by
  have positive := receivedTextSize_pos found room
  have onward := receivedTextSize_le size bytes index
  have held := (receivedAt_inside fits int nonneg (by omega : index ≤ size)).held
  have length : (received size bytes).buff.length = (receivedAt size bytes index).buff.length := rfl
  have whole : (receivedAt size bytes index).srcLen = size := rfl
  have later : ¬ (index + 5 + receivedTextSize size bytes index - 1).toNat < (index + 5).toNat := by
    omega
  have last : (index + 5 + receivedTextSize size bytes index - 1).toNat - (index + 5).toNat =
      (receivedTextSize size bytes index - 1).toNat := by
    omega
  have inside : (receivedTextSize size bytes index - 1).toNat <
      ((received size bytes).buff.drop (index + 5).toNat).length := by
    rw [List.length_drop, length]
    omega
  rw [(getString_receivedAt fits int nonneg room found).2, cString]
  simp only
  rw [List.drop_set, if_neg later, last]
  exact takeWhile_set inside

/-- Behind a string stand the bytes that were received there. -/
theorem sameAhead_getString (fits : bytes.length ≤ size) (int : size < 2 ^ 31)
    (nonneg : 0 ≤ index) (room : index + 5 < size)
    (found : Found (receivedAt size bytes index)) :
    SameAhead (receivedAt size bytes (index + 5 + receivedTextSize size bytes index))
      (getString.call (receivedAt size bytes index)).cursor := by
  have positive := receivedTextSize_pos found room
  rw [(getString_receivedAt fits int nonneg room found).2]
  refine ⟨rfl, rfl, fun other behind => ?_⟩
  have later : index + 5 + receivedTextSize size bytes index ≤ other := behind
  have different : (index + 5 + receivedTextSize size bytes index - 1).toNat ≠ other := by
    omega
  rw [List.getD_eq_getElem?_getD, List.getD_eq_getElem?_getD]
  exact congrArg (Option.getD · 0) (List.getElem?_set_ne different)

/-- Whether a second string is found depends on the bytes behind the first. -/
theorem found_behind_iff (fits : bytes.length ≤ size) (int : size < 2 ^ 31)
    (nonneg : 0 ≤ index) (room : index + 5 < size)
    (found : Found (receivedAt size bytes index)) :
    (getString.call (getString.call (receivedAt size bytes index)).cursor).value.isSome ↔
      Found (receivedAt size bytes (index + 5 + receivedTextSize size bytes index)) := by
  have ahead := sameAhead_getString fits int nonneg room found
  have positive := receivedTextSize_pos found room
  have onward := receivedTextSize_le size bytes index
  have inside := receivedAt_inside fits int nonneg (by omega : index ≤ size)
  have behind : (getString.call (receivedAt size bytes index)).cursor.Inside := by
    refine ⟨?_, ?_, ?_, ?_⟩
    · rw [ahead.offset]
      simp only [receivedAt]
      omega
    · rw [ahead.offset, ahead.srcLen]
      simp only [receivedAt, received]
      omega
    · rw [ahead.srcLen, traced_getString.length]
      exact inside.held
    · rw [ahead.srcLen]
      exact inside.int
  have start : 0 ≤ (receivedAt size bytes
      (index + 5 + receivedTextSize size bytes index)).offset := by
    simp only [receivedAt]
    omega
  exact (getString_isSome behind).trans (Found.iff_ahead start ahead)

end Strings

section Binaries

variable {size desLen : Nat} {bytes : List UInt8} {index : Int}

/-- With room for the whole array, a binary is as long as it says, up to the array. -/
theorem clipTo_receivedAt (bytes : List UInt8) (int : size < 2 ^ 31)
    (room : index + desLen ≤ size) (nonneg : 0 ≤ index) (read : BitVec 32) :
    ((receivedAt size bytes index).clipTo desLen read).toInt = min (desLen : Int) read.toInt := by
  have most : min ((receivedAt size bytes index).srcLen - (receivedAt size bytes index).offset)
      (desLen : Int) = desLen := by
    simp only [receivedAt, received]
    omega
  rw [Cursor.clipTo, most]
  split
  · rw [BitVec.toInt_ofInt, Int.bmod_eq_of_le (by omega) (by omega)]
    omega
  · omega

theorem getBinary_receivedAt (fits : bytes.length ≤ size) (int : size < 2 ^ 31)
    (nonneg : 0 ≤ index) (room : index + 4 + desLen ≤ size) :
    (getBinary desLen).call (receivedAt size bytes index) =
      let length := getInt.call (receivedAt size bytes index)
      let got := (getData desLen (receivedInt size bytes index)).call
        (receivedAt size bytes (index + 4))
      ⟨got.value, got.cursor, length.accesses ++ got.accesses⟩ := by
  have inside := receivedAt_inside fits int nonneg (by omega : index ≤ size)
  rw [getBinary_inside inside.nonneg inside.within, call_bind,
    getInt_receivedAt fits int nonneg (by omega)]
  rfl

/-- An array is filled exactly if the length in front of its bytes reaches its end. -/
theorem getBinary_full_iff (fits : bytes.length ≤ size) (int : size < 2 ^ 31)
    (nonneg : 0 ≤ index) (room : index + 4 + desLen ≤ size) :
    ((getBinary desLen).call (receivedAt size bytes index)).value.len.toInt = desLen ↔
      desLen ≤ (receivedInt size bytes index).toInt := by
  have clipped := clipTo_receivedAt bytes int room (by omega)
    (receivedInt size bytes index)
  rw [getBinary_receivedAt fits int nonneg room]
  simp only [getData_call]
  split
  · simp only [clipped]
    omega
  · simp only [clipped]
    omega

/-- The bytes of an array that is filled, and where they come from. -/
theorem getBinary_full (fits : bytes.length ≤ size) (int : size < 2 ^ 31)
    (nonneg : 0 ≤ index) (room : index + 4 + desLen ≤ size) (positive : 0 < desLen)
    (full : desLen ≤ (receivedInt size bytes index).toInt) :
    copies ((getBinary desLen).call (receivedAt size bytes index)).accesses =
        [(index + 4, (desLen : Int))] ∧
      ((getBinary desLen).call (receivedAt size bytes index)).value.data =
        window bytes (index + 4).toNat desLen := by
  have clipped := clipTo_receivedAt bytes int room (by omega)
    (receivedInt size bytes index)
  have whole : min (desLen : Int) (receivedInt size bytes index).toInt = desLen :=
    Int.min_eq_left full
  rw [whole] at clipped
  have some : 0 < ((receivedAt size bytes (index + 4)).clipTo desLen
      (receivedInt size bytes index)).toInt := by
    omega
  rw [getBinary_receivedAt fits int nonneg room]
  simp only [getData_call]
  rw [dif_pos some]
  simp only [clipped, copies_append, copies_getInt, List.nil_append, Int.toNat_natCast]
  exact ⟨rfl, window_receivedAt (index + 4) _ _⟩

end Binaries

end Connectivity.DataCoder
