import Connectivity.DataCoder.RoundTrip
import Connectivity.SocketCoder.Coder

set_option autoImplicit false

/- Whatever the put functions write, the get functions read back as far as their
maximum sizes go, and both sides move on by the same number of bytes. -/
namespace Connectivity.SocketCoder

open Bytes DataCoder

/-- A value that is put, and the get function that reads it: its output array where it
has one, and its maximum sizes. -/
inductive Exchange
  | bool (value : Bool)
  | char (value : UInt8)
  | short (value : BitVec 16)
  | int (value : BitVec 32)
  | int64 (value : BitVec 64)
  | float (value : BitVec 32)
  | double (value : BitVec 64)
  | string (value : CString) (maxSize : Nat)
  | boolArray (input output : List Bool) (maxSize : Nat)
  | charArray (input output : List UInt8) (maxSize : Nat)
  | shortArray (input output : List (BitVec 16)) (maxSize : Nat)
  | intArray (input output : List (BitVec 32)) (maxSize : Nat)
  | int64Array (input output : List (BitVec 64)) (maxSize : Nat)
  | floatArray (input output : List (BitVec 32)) (maxSize : Nat)
  | doubleArray (input output : List (BitVec 64)) (maxSize : Nat)
  | stringArray (input : List UInt8) (size1 size2 : Nat) (output : List UInt8)
      (maxSize1 maxSize2 : Nat)

/-- What a get function returns, and its output array. -/
inductive Value
  | bool (value : Bool)
  | char (value : UInt8)
  | short (value : BitVec 16)
  | int (value : BitVec 32)
  | int64 (value : BitVec 64)
  | float (value : BitVec 32)
  | double (value : BitVec 64)
  | string (value : Int × List UInt8)
  | boolArray (value : Int × List Bool)
  | charArray (value : Int × List UInt8)
  | shortArray (value : Int × List (BitVec 16))
  | intArray (value : Int × List (BitVec 32))
  | int64Array (value : Int × List (BitVec 64))
  | floatArray (value : Int × List (BitVec 32))
  | doubleArray (value : Int × List (BitVec 64))
  | stringArray (value : Int × List UInt8)
deriving DecidableEq

/-- The arrays have room for their maximum sizes, and strings for a terminator. -/
def Exchange.Declared : Exchange → Prop
  | .string _ maxSize => 1 ≤ maxSize
  | .boolArray _ output maxSize => maxSize ≤ output.length
  | .charArray _ output maxSize => maxSize ≤ output.length
  | .shortArray _ output maxSize => maxSize ≤ output.length
  | .intArray _ output maxSize => maxSize ≤ output.length
  | .int64Array _ output maxSize => maxSize ≤ output.length
  | .floatArray _ output maxSize => maxSize ≤ output.length
  | .doubleArray _ output maxSize => maxSize ≤ output.length
  | .stringArray _ _ _ output maxSize1 maxSize2 =>
      1 ≤ maxSize2 ∧ maxSize1 * maxSize2 ≤ output.length
  | _ => True

def put (w : Writer) : Exchange → Writer
  | .bool value => putBool w value
  | .char value => putChar w value
  | .short value => putShort w value
  | .int value => putInt w value
  | .int64 value => putInt64 w value
  | .float value => putFloat w value
  | .double value => putDouble w value
  | .string value _ => putString w value
  | .boolArray input _ _ => putBoolArray w input
  | .charArray input _ _ => putCharArray w input
  | .shortArray input _ _ => putShortArray w input
  | .intArray input _ _ => putIntArray w input
  | .int64Array input _ _ => putInt64Array w input
  | .floatArray input _ _ => putFloatArray w input
  | .doubleArray input _ _ => putDoubleArray w input
  | .stringArray input size1 size2 _ _ _ => putStringArray w input size1 size2

def putAll (w : Writer) (exchanges : List Exchange) : Writer := exchanges.foldl put w

def get : Exchange → Get Value
  | .bool _ => do return .bool (← getBool)
  | .char _ => do return .char (← getChar)
  | .short _ => do return .short (← getShort)
  | .int _ => do return .int (← getInt)
  | .int64 _ => do return .int64 (← getInt64)
  | .float _ => do return .float (← getFloat)
  | .double _ => do return .double (← getDouble)
  | .string _ maxSize => do return .string (← getString maxSize)
  | .boolArray _ output maxSize => do return .boolArray (← getBoolArray output maxSize)
  | .charArray _ output maxSize => do return .charArray (← getCharArray output maxSize)
  | .shortArray _ output maxSize => do return .shortArray (← getShortArray output maxSize)
  | .intArray _ output maxSize => do return .intArray (← getIntArray output maxSize)
  | .int64Array _ output maxSize => do return .int64Array (← getInt64Array output maxSize)
  | .floatArray _ output maxSize => do return .floatArray (← getFloatArray output maxSize)
  | .doubleArray _ output maxSize => do return .doubleArray (← getDoubleArray output maxSize)
  | .stringArray _ _ _ output maxSize1 maxSize2 => do
      return .stringArray (← getStringArray output maxSize1 maxSize2)

def getAll : List Exchange → Get (List Value)
  | [] => pure []
  | exchange :: exchanges => do
      let value ← get exchange
      let values ← getAll exchanges
      return value :: values

/-- A string in `maxSize` bytes: what fits in front of a terminator, and zeros. -/
def chars (maxSize : Nat) (s : CString) : List UInt8 :=
  s.bytes.take (maxSize - 1) ++ .replicate (maxSize - min s.bytes.length (maxSize - 1)) 0

/-- The first `maxSize` elements; what lies behind them in the array is left alone. -/
def kept {α : Type} (input output : List α) (maxSize : Nat) : Int × List α :=
  ((min input.length maxSize : Nat), input.take maxSize ++ output.drop (min input.length maxSize))

/-- A value as far as its maximum sizes go. -/
def Exchange.truncated : Exchange → Value
  | .bool value => .bool value
  | .char value => .char value
  | .short value => .short value
  | .int value => .int value
  | .int64 value => .int64 value
  | .float value => .float value
  | .double value => .double value
  | .string value maxSize => .string ((min value.bytes.length maxSize : Nat), chars maxSize value)
  | .boolArray input output maxSize => .boolArray (kept input output maxSize)
  | .charArray input output maxSize => .charArray (kept input output maxSize)
  | .shortArray input output maxSize => .shortArray (kept input output maxSize)
  | .intArray input output maxSize => .intArray (kept input output maxSize)
  | .int64Array input output maxSize => .int64Array (kept input output maxSize)
  | .floatArray input output maxSize => .floatArray (kept input output maxSize)
  | .doubleArray input output maxSize => .doubleArray (kept input output maxSize)
  | .stringArray input size1 size2 output maxSize1 maxSize2 =>
      .stringArray ((min size1 maxSize1 : Nat),
        ((rows size2 size1 input).take maxSize1).flatMap (chars maxSize2) ++
          output.drop (min size1 maxSize1 * maxSize2))

section Encoding

def boolBytes (value : Bool) : List UInt8 := [if value then 1 else 0]

def charsBytes (value : CString) : List UInt8 :=
  intBytes (.ofNat 32 value.bytes.length) ++ value.bytes

def arrayBytes {α : Type} (bytes : α → List UInt8) (input : List α) : List UInt8 :=
  intBytes (.ofNat 32 input.length) ++ input.flatMap bytes

def Exchange.bytes : Exchange → List UInt8
  | .bool value => boolBytes value
  | .char value => [value]
  | .short value => shortBytes value
  | .int value => intBytes value
  | .int64 value => longBytes value
  | .float value => intBytes value
  | .double value => longBytes value
  | .string value _ => charsBytes value
  | .boolArray input _ _ => arrayBytes boolBytes input
  | .charArray input _ _ => arrayBytes (fun value => [value]) input
  | .shortArray input _ _ => arrayBytes shortBytes input
  | .intArray input _ _ => arrayBytes intBytes input
  | .int64Array input _ _ => arrayBytes longBytes input
  | .floatArray input _ _ => arrayBytes intBytes input
  | .doubleArray input _ _ => arrayBytes longBytes input
  | .stringArray input size1 size2 _ _ _ => arrayBytes charsBytes (rows size2 size1 input)

def encoding (exchanges : List Exchange) : List UInt8 := exchanges.flatMap Exchange.bytes

theorem rows_length (size2 size1 : Nat) (input : List UInt8) :
    (rows size2 size1 input).length = size1 := by
  induction size1 generalizing input with
  | zero => rfl
  | succ size1 ih => rw [rows, List.length_cons, ih]

theorem puts_bool : Puts putBool boolBytes := fun _ _ _ => putByte_writing _

theorem puts_short : Puts putShort shortBytes := fun _ _ _ => putShort_writing _

theorem puts_int : Puts putInt intBytes := fun _ _ _ => putInt_writing _

theorem puts_int64 : Puts putInt64 longBytes := fun _ _ _ => putLong_writing _

theorem puts_string : Puts putString charsBytes := by
  intro before free value
  rw [putString, puts_int, append_writing, charsBytes, List.append_assoc, List.drop_drop,
    List.length_append]

theorem puts_charArray : Puts putCharArray (arrayBytes fun value => [value]) := by
  intro before free value
  have same : value.flatMap (fun byte => [byte]) = value := List.flatMap_singleton' value
  rw [putCharArray, puts_int, append_writing, arrayBytes, same, List.append_assoc,
    List.drop_drop, List.length_append]

theorem puts_array {α : Type} {put : Writer → α → Writer} {bytes : α → List UInt8}
    (puts : Puts put bytes) : Puts (putArray put) (arrayBytes bytes) := by
  intro before free input
  rw [putArray, puts_int, puts.foldl, arrayBytes, List.append_assoc, List.drop_drop,
    List.length_append]

theorem puts_put : Puts put Exchange.bytes := by
  intro before free exchange
  cases exchange with
  | bool value => exact puts_bool before free value
  | char value => exact putByte_writing value
  | short value => exact puts_short before free value
  | int value => exact puts_int before free value
  | int64 value => exact puts_int64 before free value
  | float value => exact puts_int before free value
  | double value => exact puts_int64 before free value
  | string value maxSize => exact puts_string before free value
  | boolArray input => exact puts_array puts_bool before free input
  | charArray input => exact puts_charArray before free input
  | shortArray input => exact puts_array puts_short before free input
  | intArray input => exact puts_array puts_int before free input
  | int64Array input => exact puts_array puts_int64 before free input
  | floatArray input => exact puts_array puts_int before free input
  | doubleArray input => exact puts_array puts_int64 before free input
  | stringArray input size1 size2 =>
      have written := puts_array puts_string before free (rows size2 size1 input)
      rw [putArray, rows_length] at written
      exact written

theorem putAll_writing (before free : List UInt8) (exchanges : List Exchange) :
    putAll (writing before free) exchanges =
      writing (before ++ encoding exchanges) (free.drop (encoding exchanges).length) :=
  puts_put.foldl before free exchanges

end Encoding

section Decoding

theorem reads_getChar (value : UInt8) : ReadsAs getChar [value] value := by
  intro before left beyond
  exact ⟨value, by simp [run, reading, getChar], rfl⟩

theorem reads_getBool (value : Bool) : ReadsAs getBool (boolBytes value) value := by
  apply (reads_getChar _).map
  cases value <;> rfl

theorem reads_getShort (value : BitVec 16) : ReadsAs getShort (shortBytes value) value := by
  have whole : joined 32 (lowHalf 32 value : BitVec 8) (highHalf 32 value) = value :=
    joined_halves value rfl (by decide)
  exact (reads_getChar _).bind ((reads_getChar _).map whole)

theorem reads_getInt (value : BitVec 32) : ReadsAs getInt (intBytes value) value := by
  have whole : joined 32 (lowHalf 32 value : BitVec 16) (highHalf 32 value) = value :=
    joined_halves value rfl (by decide)
  exact (reads_getShort _).bind ((reads_getShort _).map whole)

theorem reads_getInt64 (value : BitVec 64) : ReadsAs getInt64 (longBytes value) value := by
  have whole : joined 64 (lowHalf 64 value : BitVec 32) (highHalf 64 value) = value :=
    joined_halves value rfl (by decide)
  exact (reads_getInt _).bind ((reads_getInt _).map whole)

/-- The front of some bytes is copied, and all of them are passed over. -/
theorem reads_copyOut {α : Type} (bytes : List UInt8) (count : Nat) (inside : count ≤ bytes.length)
    (f : List UInt8 → α) :
    ReadsAs (cursor >>= fun c => copyOut c.offset count >>= fun front =>
      moveTo (c.offset + bytes.length) >>= fun _ => pure (f front)) bytes
      (f (bytes.take count)) := by
  intro before left beyond
  have copied := window_middle before (bytes.take count) (bytes.drop count ++ (left ++ beyond))
  rw [List.length_take, Nat.min_eq_left inside, ← List.append_assoc (bytes.take count),
    List.take_append_drop] at copied
  refine ⟨_, ?_, rfl⟩
  simp [run, reading, copied]

theorem clip_ofNat {maxSize size : Nat} (small : size < 2 ^ 31) :
    clip maxSize (.ofNat 32 size) = (min size maxSize : Nat) := by
  rw [clip, toInt_ofNat_of_lt small]
  split <;> omega

theorem write_zeros (bytes : List UInt8) (maxSize : Nat) :
    write (.replicate maxSize 0) 0 bytes = bytes ++ .replicate (maxSize - bytes.length) 0 := by
  simp only [write, List.take_zero, List.nil_append, Nat.zero_add, List.drop_replicate]

/-- The output of a string: cleared, filled from the front, its last byte cleared again. -/
theorem set_write_zeros (bytes : List UInt8) {maxSize : Nat} (room : 1 ≤ maxSize) :
    (write (.replicate maxSize 0) 0 (bytes.take (min bytes.length maxSize))).set (maxSize - 1) 0 =
      bytes.take (maxSize - 1) ++
        .replicate (maxSize - min bytes.length (maxSize - 1)) 0 := by
  rw [write_zeros]
  by_cases short : bytes.length < maxSize
  · have whole : bytes.take (min bytes.length maxSize) = bytes :=
      List.take_of_length_le (by omega)
    have front : bytes.take (maxSize - 1) = bytes := List.take_of_length_le (by omega)
    rw [whole, front, List.set_append_right _ _ (by omega), List.set_replicate_self,
      Nat.min_eq_left (by omega)]
  · have full : (bytes.take (min bytes.length maxSize)).length = maxSize := by
      rw [List.length_take]
      omega
    have one : maxSize - min bytes.length (maxSize - 1) = 1 := by omega
    have last : maxSize - 1 + 1 = maxSize := by omega
    rw [full, Nat.sub_self, List.replicate_zero, List.append_nil, one,
      List.set_eq_take_append_cons_drop, if_pos (by omega), List.take_take,
      List.drop_eq_nil_of_le (by omega), Nat.min_eq_left (by omega)]
    rfl

theorem reads_getString (value : CString) (small : value.bytes.length < 2 ^ 31) {maxSize : Nat}
    (room : 1 ≤ maxSize) :
    ReadsAs (getString maxSize) (charsBytes value)
      ((min value.bytes.length maxSize : Nat), chars maxSize value) := by
  have filled := set_write_zeros value.bytes room
  have read := reads_copyOut value.bytes (min value.bytes.length maxSize)
    (Nat.min_le_left ..) fun front => (((min value.bytes.length maxSize : Nat) : Int),
      (write (.replicate maxSize 0) 0 front).set (maxSize - 1) 0)
  rw [filled] at read
  apply (reads_getInt _).bind
  rw [clip_ofNat small, toInt_ofNat_of_lt small]
  exact read

theorem write_front {α : List UInt8} {output : List UInt8} :
    write output 0 α = α ++ output.drop α.length := by
  simp only [write, List.take_zero, List.nil_append, Nat.zero_add]

theorem reads_getCharArray (input output : List UInt8) (small : input.length < 2 ^ 31)
    (maxSize : Nat) :
    ReadsAs (getCharArray output maxSize) (arrayBytes (fun value => [value]) input)
      (kept input output maxSize) := by
  have same : input.flatMap (fun byte => [byte]) = input := List.flatMap_singleton' input
  have front : (input.take (min input.length maxSize)) = input.take maxSize := by
    rw [← List.take_take, List.take_of_length_le]
    rw [List.length_take]
    omega
  have read := reads_copyOut input (min input.length maxSize) (Nat.min_le_left ..)
    fun front => (((min input.length maxSize : Nat) : Int), write output 0 front)
  rw [front, write_front, List.length_take, Nat.min_comm maxSize] at read
  rw [arrayBytes, same]
  apply (reads_getInt _).bind
  rw [clip_ofNat small, toInt_ofNat_of_lt small]
  exact read

section Loops

variable {α : Type} {get : Get α} {bytes : α → List UInt8}

/-- What the loop over an array leaves in the output. -/
def stored (maxSize : Nat) : Nat → List α → List α → List α
  | _, [], output => output
  | i, data :: rest, output =>
      stored maxSize (i + 1) rest (if i < maxSize then output.set i data else output)

theorem reads_getElements (reads : ∀ value, ReadsAs get (bytes value) value) (maxSize i : Nat)
    (input output : List α) :
    ReadsAs (getElements get maxSize input.length i output) (input.flatMap bytes)
      (stored maxSize i input output) := by
  induction input generalizing i output with
  | nil => exact reads_pure _ fun _ => rfl
  | cons data rest ih =>
      rw [List.flatMap_cons]
      exact (reads data).bind (ih (i + 1) _)

/-- Behind the maximum nothing is stored. -/
theorem stored_full {maxSize i : Nat} (full : maxSize ≤ i) (input output : List α) :
    stored maxSize i input output = output := by
  induction input generalizing i with
  | nil => rfl
  | cons data rest ih =>
      rw [stored, if_neg (by omega)]
      exact ih (by omega)

theorem stored_behind {maxSize : Nat} (input front output : List α)
    (room : maxSize ≤ front.length + output.length) :
    stored maxSize front.length input (front ++ output) =
      front ++ (input.take (maxSize - front.length) ++
        output.drop (min input.length (maxSize - front.length))) := by
  induction input generalizing front output with
  | nil => simp [stored]
  | cons data rest ih =>
      by_cases unfilled : front.length < maxSize
      · obtain ⟨old, behind, rfl⟩ : ∃ old behind, output = old :: behind := by
          cases output with
          | nil =>
              rw [List.length_nil] at room
              omega
          | cons old behind => exact ⟨old, behind, rfl⟩
        rw [List.length_cons] at room
        have placed : (front ++ old :: behind).set front.length data =
            (front ++ [data]) ++ behind := by
          rw [List.set_append_right _ _ (Nat.le_refl _), Nat.sub_self, List.set_cons_zero,
            List.append_assoc, List.singleton_append]
        have next : front.length + 1 = (front ++ [data]).length := by
          rw [List.length_append, List.length_singleton]
        have later := ih (front ++ [data]) behind (by rw [← next]; omega)
        have step : maxSize - front.length = maxSize - (front.length + 1) + 1 := by omega
        rw [stored, if_pos unfilled, placed, next, later, ← next, step, List.take_succ_cons,
          List.length_cons, Nat.add_min_add_right, List.drop_succ_cons, List.append_assoc,
          List.singleton_append, List.cons_append]
      · have full : maxSize - front.length = 0 := by omega
        rw [stored_full (by omega), full, List.take_zero, Nat.min_zero, List.drop_zero,
          List.nil_append]

theorem reads_getArray (reads : ∀ value, ReadsAs get (bytes value) value)
    (input output : List α) (small : input.length < 2 ^ 31) {maxSize : Nat}
    (room : maxSize ≤ output.length) :
    ReadsAs (getArray get output maxSize) (arrayBytes bytes input) (kept input output maxSize) := by
  have all := stored_behind input [] output (by simpa using room)
  apply (reads_getInt _).bind
  rw [clip_ofNat small, toInt_ofNat_of_lt small, Int.toNat_natCast]
  apply (reads_getElements reads maxSize 0 input output).map
  rw [kept]
  exact congrArg _ all

/-- What the loop over the rows leaves in the output. -/
def storedRows (maxSize1 : Nat) : Nat → List (List UInt8) → Writer → Writer
  | _, [], output => output
  | i, row :: rest, output =>
      storedRows maxSize1 (i + 1) rest (if i < maxSize1 then output.append row else output)

theorem reads_getRows (maxSize1 : Nat) {maxSize2 : Nat} (room : 1 ≤ maxSize2) (i : Nat)
    (strings : List CString) (small : ∀ s ∈ strings, s.bytes.length < 2 ^ 31) (output : Writer) :
    ReadsAs (getRows maxSize1 maxSize2 strings.length i output) (strings.flatMap charsBytes)
      (storedRows maxSize1 i (strings.map (chars maxSize2)) output) := by
  induction strings generalizing i output with
  | nil => exact reads_pure _ fun _ => rfl
  | cons s rest ih =>
      rw [List.flatMap_cons]
      apply (reads_getString s (small s List.mem_cons_self) room).bind
      exact ih (i + 1) (fun t inside => small t (List.mem_cons_of_mem s inside)) _

theorem storedRows_writing (maxSize1 i : Nat) (strings : List (List UInt8))
    (before free : List UInt8) :
    storedRows maxSize1 i strings (writing before free) =
      writing (before ++ (strings.take (maxSize1 - i)).flatten)
        (free.drop (strings.take (maxSize1 - i)).flatten.length) := by
  induction strings generalizing i before free with
  | nil => simp [storedRows]
  | cons row rest ih =>
      by_cases unfilled : i < maxSize1
      · have step : maxSize1 - i = maxSize1 - (i + 1) + 1 := by omega
        rw [storedRows, if_pos unfilled, append_writing, ih, step, List.take_succ_cons,
          List.flatten_cons, List.append_assoc, List.drop_drop, List.length_append]
      · have full : maxSize1 - i = 0 := by omega
        have later : maxSize1 - (i + 1) = 0 := by omega
        rw [storedRows, if_neg unfilled, ih, full, later, List.take_zero, List.take_zero]

theorem chars_length (s : CString) {maxSize : Nat} (room : 1 ≤ maxSize) :
    (chars maxSize s).length = maxSize := by
  rw [chars, List.length_append, List.length_take, List.length_replicate]
  omega

theorem flatten_length_of_all {width : Nat} {strings : List (List UInt8)}
    (all : ∀ row ∈ strings, row.length = width) :
    strings.flatten.length = strings.length * width := by
  induction strings with
  | nil => simp
  | cons row rest ih =>
      rw [List.flatten_cons, List.length_append, all row List.mem_cons_self,
        ih fun r inside => all r (List.mem_cons_of_mem row inside), List.length_cons,
        Nat.succ_mul, Nat.add_comm]

theorem reads_getStringArray (strings : List CString) (output : List UInt8)
    (count : strings.length < 2 ^ 31) (small : ∀ s ∈ strings, s.bytes.length < 2 ^ 31)
    (maxSize1 : Nat) {maxSize2 : Nat} (room : 1 ≤ maxSize2) :
    ReadsAs (getStringArray output maxSize1 maxSize2) (arrayBytes charsBytes strings)
      ((min strings.length maxSize1 : Nat),
        (strings.take maxSize1).flatMap (chars maxSize2) ++
          output.drop (min strings.length maxSize1 * maxSize2)) := by
  have stored := storedRows_writing maxSize1 0 (strings.map (chars maxSize2)) [] output
  have taken : (strings.map (chars maxSize2)).take maxSize1 =
      (strings.take maxSize1).map (chars maxSize2) := List.map_take.symm
  have width : ((strings.take maxSize1).map (chars maxSize2)).flatten.length =
      min strings.length maxSize1 * maxSize2 := by
    rw [flatten_length_of_all, List.length_map, List.length_take, Nat.min_comm]
    intro row inside
    obtain ⟨s, _, rfl⟩ := List.mem_map.mp inside
    exact chars_length s room
  rw [Nat.sub_zero, taken, width, List.nil_append] at stored
  apply (reads_getInt _).bind
  rw [clip_ofNat count, toInt_ofNat_of_lt count, Int.toNat_natCast]
  apply (reads_getRows maxSize1 room 0 strings small ⟨output, 0⟩).map
  have same := congrArg Writer.buff stored
  rw [List.flatMap_def]
  exact congrArg _ same

end Loops

theorem arrayBytes_length {α : Type} (bytes : α → List UInt8) (input : List α)
    (least : ∀ value, 1 ≤ (bytes value).length) :
    input.length ≤ (arrayBytes bytes input).length := by
  have elements : input.length ≤ (input.flatMap bytes).length := by
    induction input with
    | nil => exact Nat.zero_le _
    | cons value rest ih =>
        have first := least value
        rw [List.flatMap_cons, List.length_append, List.length_cons]
        omega
  rw [arrayBytes, List.length_append]
  omega

theorem charsBytes_length (s : CString) : (charsBytes s).length = 4 + s.bytes.length := by
  rw [charsBytes, List.length_append, intBytes_length]

theorem length_le_of_mem {strings : List CString} {s : CString} (inside : s ∈ strings) :
    s.bytes.length ≤ (arrayBytes charsBytes strings).length := by
  have part := (List.sublist_flatten_of_mem (List.mem_map_of_mem inside)
    : (charsBytes s).Sublist (strings.map charsBytes).flatten).length_le
  rw [charsBytes_length, ← List.flatMap_def] at part
  rw [arrayBytes, List.length_append]
  omega

theorem reads_get {exchange : Exchange} (declared : exchange.Declared)
    (fits : exchange.bytes.length < 2 ^ 31) :
    ReadsAs (get exchange) exchange.bytes exchange.truncated := by
  have array {α : Type} {bytes : α → List UInt8} (input : List α)
      (fits : (arrayBytes bytes input).length < 2 ^ 31)
      (least : ∀ value, 1 ≤ (bytes value).length) : input.length < 2 ^ 31 :=
    Nat.lt_of_le_of_lt (arrayBytes_length bytes input least) fits
  cases exchange with
  | bool value => exact (reads_getBool value).map rfl
  | char value => exact (reads_getChar value).map rfl
  | short value => exact (reads_getShort value).map rfl
  | int value => exact (reads_getInt value).map rfl
  | int64 value => exact (reads_getInt64 value).map rfl
  | float value => exact (reads_getInt value).map rfl
  | double value => exact (reads_getInt64 value).map rfl
  | string value maxSize =>
      have small : value.bytes.length < 2 ^ 31 := by
        have size := charsBytes_length value
        rw [Exchange.bytes] at fits
        omega
      exact (reads_getString value small declared).map rfl
  | boolArray input output maxSize =>
      have small := array input fits fun _ => Nat.le_refl 1
      exact (reads_getArray reads_getBool input output small declared).map rfl
  | charArray input output maxSize =>
      have small := array input fits fun _ => Nat.le_refl 1
      exact (reads_getCharArray input output small maxSize).map rfl
  | shortArray input output maxSize =>
      have small := array input fits fun _ => Nat.le_succ 1
      exact (reads_getArray reads_getShort input output small declared).map rfl
  | intArray input output maxSize =>
      have small := array input fits fun _ => by rw [intBytes_length]; omega
      exact (reads_getArray reads_getInt input output small declared).map rfl
  | int64Array input output maxSize =>
      have small := array input fits fun _ => by rw [longBytes_length]; omega
      exact (reads_getArray reads_getInt64 input output small declared).map rfl
  | floatArray input output maxSize =>
      have small := array input fits fun _ => by rw [intBytes_length]; omega
      exact (reads_getArray reads_getInt input output small declared).map rfl
  | doubleArray input output maxSize =>
      have small := array input fits fun _ => by rw [longBytes_length]; omega
      exact (reads_getArray reads_getInt64 input output small declared).map rfl
  | stringArray input size1 size2 output maxSize1 maxSize2 =>
      have count := array (rows size2 size1 input) fits
        fun s => by rw [charsBytes_length]; omega
      have small : ∀ s ∈ rows size2 size1 input, s.bytes.length < 2 ^ 31 :=
        fun s inside => Nat.lt_of_le_of_lt (length_le_of_mem inside) fits
      have read := reads_getStringArray _ output count small maxSize1 declared.1
      rw [rows_length] at read
      exact read.map rfl

theorem encoding_cons (exchange : Exchange) (exchanges : List Exchange) :
    encoding (exchange :: exchanges) = exchange.bytes ++ encoding exchanges := List.flatMap_cons

theorem reads_getAll {exchanges : List Exchange}
    (declared : ∀ exchange ∈ exchanges, exchange.Declared)
    (fits : (encoding exchanges).length < 2 ^ 31) :
    ReadsAs (getAll exchanges) (encoding exchanges) (exchanges.map Exchange.truncated) := by
  induction exchanges with
  | nil => exact reads_pure _ fun _ => rfl
  | cons exchange exchanges ih =>
      rw [encoding_cons, List.length_append] at fits
      rw [encoding_cons]
      have later := ih (fun e inside => declared e (List.mem_cons_of_mem exchange inside))
        (by omega)
      apply (reads_get (declared exchange List.mem_cons_self) (by omega)).bind
      exact later.map rfl

end Decoding

/-- After any number of the values, the decoder has each of them as far as its maximum
goes and stands where the encoder stood. -/
theorem getAll_truncated (exchanges : List Exchange)
    (declared : ∀ exchange ∈ exchanges, exchange.Declared) (w : Writer)
    (start : w.offset ≤ w.buff.length)
    (fits : (putAll w exchanges).offset ≤ w.buff.length)
    (int : w.buff.length < 2 ^ 31) (n : Nat) :
    let buff := (putAll w exchanges).buff
    let got := (getAll (exchanges.take n)).call ⟨buff, w.offset, buff.length⟩
    got.value = (exchanges.take n).map Exchange.truncated ∧
      got.cursor.offset = (putAll w (exchanges.take n)).offset := by
  obtain ⟨before, free, rfl⟩ := exists_writing start
  have whole : encoding exchanges =
      encoding (exchanges.take n) ++ encoding (exchanges.drop n) := by
    rw [encoding, encoding, encoding, ← List.flatMap_append, List.take_append_drop]
  have size : (writing before free).buff.length = before.length + free.length :=
    List.length_append
  have last : (putAll (writing before free) exchanges).offset =
      before.length + ((encoding (exchanges.take n)).length +
        (encoding (exchanges.drop n)).length) := by
    rw [putAll_writing, writing, List.length_append, whole, List.length_append]
  rw [last] at fits
  have first : ∀ exchange ∈ exchanges.take n, exchange.Declared :=
    fun exchange inside => declared exchange (List.mem_of_mem_take inside)
  obtain ⟨got, read, rfl⟩ := reads_getAll first (by omega) before
    (encoding (exchanges.drop n) ++ free.drop (encoding exchanges).length) []
  have cursor : reading before (encoding (exchanges.take n) ++
        (encoding (exchanges.drop n) ++ free.drop (encoding exchanges).length)) [] =
      ⟨(putAll (writing before free) exchanges).buff, (writing before free).offset,
        (putAll (writing before free) exchanges).buff.length⟩ := by
    rw [putAll_writing, reading, List.append_nil, ← List.append_assoc (encoding _), ← whole]
    simp only [writing, List.append_assoc]
  rw [cursor, run, Prod.mk.injEq] at read
  intro buff decoded
  refine ⟨read.1, ?_⟩
  rw [putAll_writing]
  exact congrArg Cursor.offset read.2

theorem getAll_truncated_three :
    let exchanges : List Exchange :=
      [.string ⟨[72, 101, 121], by decide⟩ 3, .shortArray [-1, 5, 300] [7, 7] 2,
        .stringArray [65, 66, 0, 67, 0, 0] 2 3 [1, 1, 1, 1, 1] 1 2]
    let w : Writer := ⟨List.replicate 60 9, 2⟩
    let buff := (putAll w exchanges).buff
    let got := (getAll (exchanges.take 3)).call ⟨buff, w.offset, buff.length⟩
    got.value = (exchanges.take 3).map Exchange.truncated ∧
      got.cursor.offset = (putAll w (exchanges.take 3)).offset :=
  getAll_truncated _
    (by
      intro exchange inside
      simp only [List.mem_cons, List.not_mem_nil, or_false] at inside
      rcases inside with rfl | rfl | rfl
      · exact (by decide : 1 ≤ 3)
      · exact (by decide : 2 ≤ 2)
      · exact (by decide : 1 ≤ 2 ∧ 1 * 2 ≤ 5))
    ⟨List.replicate 60 9, 2⟩ (by decide) (by decide) (by decide) 3

/-- Two bytes of a maximum of two are one character and the terminator. -/
theorem getString_maximum :
    let s : CString := ⟨[97, 98], by decide⟩
    let written := putString ⟨List.replicate 6 0, 0⟩ s
    let got := (getString 2).call ⟨written.buff, 0, 6⟩
    got.value = (2, [97, 0]) ∧ (cString got.value.2 0).bytes ≠ s.bytes.take 2 := by
  decide

end Connectivity.SocketCoder
