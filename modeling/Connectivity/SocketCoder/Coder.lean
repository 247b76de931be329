import Connectivity.DataCoder.Coder

set_option autoImplicit false

/- utility/src/mtk_socket_data_coder.c.
Its put functions for numbers are those of data_coder.c under other names; its get functions
are not told where the source ends. -/
namespace Connectivity.SocketCoder

open Bytes DataCoder

/-- `count` bytes from `start` on, for a `memcpy` out of the buffer. -/
def copyOut (start : Int) (count : Nat) : Get (List UInt8) := ⟨fun c =>
  ⟨window c.buff start.toNat count, c, [.copy start count]⟩⟩

@[simp] theorem call_copyOut (start : Int) (count : Nat) (c : Cursor) :
    (copyOut start count).call c =
      ⟨window c.buff start.toNat count, c, [.copy start count]⟩ := rfl

def getChar : Get UInt8 := do
  let c ← cursor
  let ret ← load c.offset
  moveTo (c.offset + 1)
  return ret

def getBool : Get Bool := do
  let ret ← getChar
  return if ret = 0 then false else true

def getShort : Get (BitVec 16) := do
  let low ← getChar
  let high ← getChar
  return joined 32 low.toBitVec high.toBitVec

def getInt : Get (BitVec 32) := do
  let low ← getShort
  let high ← getShort
  return joined 32 low high

def getInt64 : Get (BitVec 64) := do
  let low ← getInt
  let high ← getInt
  return joined 64 low high

def getFloat : Get (BitVec 32) := getInt

def getDouble : Get (BitVec 64) := getInt64

/-- `(size > max_size)? max_size : size`. -/
def clip (maxSize : Nat) (size : BitVec 32) : Int :=
  if maxSize < size.toInt then maxSize else size.toInt

/-- What is returned, and the `max_size` bytes of `output`. -/
def getString (maxSize : Nat) : Get (Int × List UInt8) := do
  let size ← getInt
  let c ← cursor
  let chars ← copyOut c.offset (clip maxSize size).toNat
  moveTo (c.offset + size.toInt)
  return (clip maxSize size, (write (.replicate maxSize 0) 0 chars).set (maxSize - 1) 0)

section Arrays

variable {α : Type}

/-- The loop over the elements that are left, the next of which is element `i`. -/
def getElements (get : Get α) (maxSize : Nat) : Nat → Nat → List α → Get (List α)
  | 0, _, output => pure output
  | left + 1, i, output => do
      let data ← get
      getElements get maxSize left (i + 1) (if i < maxSize then output.set i data else output)

/-- What is returned, and `output` as it is left. -/
def getArray (get : Get α) (output : List α) (maxSize : Nat) : Get (Int × List α) := do
  let size ← getInt
  let output ← getElements get maxSize size.toInt.toNat 0 output
  return (clip maxSize size, output)

end Arrays

def getBoolArray (output : List Bool) (maxSize : Nat) : Get (Int × List Bool) :=
  getArray getBool output maxSize

def getCharArray (output : List UInt8) (maxSize : Nat) : Get (Int × List UInt8) := do
  let size ← getInt
  let c ← cursor
  let chars ← copyOut c.offset (clip maxSize size).toNat
  moveTo (c.offset + size.toInt)
  return (clip maxSize size, write output 0 chars)

def getShortArray (output : List (BitVec 16)) (maxSize : Nat) : Get (Int × List (BitVec 16)) :=
  getArray getShort output maxSize

def getIntArray (output : List (BitVec 32)) (maxSize : Nat) : Get (Int × List (BitVec 32)) :=
  getArray getInt output maxSize

def getInt64Array (output : List (BitVec 64)) (maxSize : Nat) : Get (Int × List (BitVec 64)) :=
  getArray getInt64 output maxSize

def getFloatArray (output : List (BitVec 32)) (maxSize : Nat) : Get (Int × List (BitVec 32)) :=
  getArray getFloat output maxSize

def getDoubleArray (output : List (BitVec 64)) (maxSize : Nat) : Get (Int × List (BitVec 64)) :=
  getArray getDouble output maxSize

/-- The loop of a string array: rows behind `max_size1` are read into `tmp`. -/
def getRows (maxSize1 maxSize2 : Nat) : Nat → Nat → Writer → Get Writer
  | 0, _, output => pure output
  | left + 1, i, output => do
      let row ← getString maxSize2
      getRows maxSize1 maxSize2 left (i + 1) (if i < maxSize1 then output.append row.2 else output)

def getStringArray (output : List UInt8) (maxSize1 maxSize2 : Nat) :
    Get (Int × List UInt8) := do
  let size1 ← getInt
  let output ← getRows maxSize1 maxSize2 size1.toInt.toNat 0 ⟨output, 0⟩
  return (clip maxSize1 size1, output.buff)

def putChar (w : Writer) (input : UInt8) : Writer := putByte w input

def putBool (w : Writer) (input : Bool) : Writer := putChar w (if input then 1 else 0)

def putShort (w : Writer) (input : BitVec 16) : Writer := DataCoder.putShort w input

def putInt (w : Writer) (input : BitVec 32) : Writer := DataCoder.putInt w input

def putInt64 (w : Writer) (input : BitVec 64) : Writer := putLong w input

def putFloat (w : Writer) (input : BitVec 32) : Writer := putInt w input

def putDouble (w : Writer) (input : BitVec 64) : Writer := putInt64 w input

def putString (w : Writer) (input : CString) : Writer :=
  (putInt w (.ofNat 32 input.bytes.length)).append input.bytes

/-- The size, which is that of `input`, and the elements in a loop. -/
def putArray {α : Type} (put : Writer → α → Writer) (w : Writer) (input : List α) : Writer :=
  input.foldl put (putInt w (.ofNat 32 input.length))

def putBoolArray (w : Writer) (input : List Bool) : Writer := putArray putBool w input

def putCharArray (w : Writer) (input : List UInt8) : Writer :=
  (putInt w (.ofNat 32 input.length)).append input

def putShortArray (w : Writer) (input : List (BitVec 16)) : Writer := putArray putShort w input

def putIntArray (w : Writer) (input : List (BitVec 32)) : Writer := putArray putInt w input

def putInt64Array (w : Writer) (input : List (BitVec 64)) : Writer := putArray putInt64 w input

def putFloatArray (w : Writer) (input : List (BitVec 32)) : Writer := putArray putFloat w input

def putDoubleArray (w : Writer) (input : List (BitVec 64)) : Writer := putArray putDouble w input

/-- The strings at the starts of `size1` rows of `size2` bytes. -/
def rows (size2 : Nat) : Nat → List UInt8 → List CString
  | 0, _ => []
  | size1 + 1, input => cString input 0 :: rows size2 size1 (input.drop size2)

def putStringArray (w : Writer) (input : List UInt8) (size1 size2 : Nat) : Writer :=
  (rows size2 size1 input).foldl putString (putInt w (.ofNat 32 size1))

end Connectivity.SocketCoder
