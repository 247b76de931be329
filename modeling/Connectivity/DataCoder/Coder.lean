import Connectivity.Bytes.Buffer
import Connectivity.Bytes.LittleEndian
import Mathlib.Data.List.TakeWhile

set_option autoImplicit false

/- utility/src/data_coder.c, of which gps_hal and flp_hal hold copies. A `char` is signed,
`float` and `double` are the images that the casts through `int*` and `long long*` make of
them. -/
namespace Connectivity.DataCoder

open Bytes

/-- The arguments that all get functions share: `buff`, `*offset` and `src_len`. -/
structure Cursor where
  buff : List UInt8
  offset : Int
  srcLen : Int
deriving DecidableEq

/-- What a get function does to the buffer and to `*offset`, in order. -/
inductive Access
  | load (index : Int)
  | copy (start count : Int)
  | store (index : Int)
  | moveTo (offset : Int)
deriving DecidableEq

structure Got (α : Type) where
  value : α
  cursor : Cursor
  accesses : List Access

structure Get (α : Type) where
  call : Cursor → Got α

instance : Monad Get where
  pure value := ⟨fun c => ⟨value, c, []⟩⟩
  bind first next := ⟨fun c =>
    let got := first.call c
    let after := (next got.value).call got.cursor
    ⟨after.value, after.cursor, got.accesses ++ after.accesses⟩⟩

/-- A string: what stands before its terminator. -/
structure CString where
  bytes : List UInt8
  noNul : 0 ∉ bytes
deriving DecidableEq

/-- A length and, if it is positive, that many bytes. -/
structure Binary where
  len : BitVec 32
  data : List UInt8
  sized : data.length = len.toInt.toNat
deriving DecidableEq

def cursor : Get Cursor := ⟨fun c => ⟨c, c, []⟩⟩

def load (index : Int) : Get UInt8 := ⟨fun c =>
  ⟨c.buff.getD index.toNat 0, c, [.load index]⟩⟩

def store (index : Int) (byte : UInt8) : Get Unit := ⟨fun c =>
  ⟨(), { c with buff := c.buff.set index.toNat byte }, [.store index]⟩⟩

def moveTo (offset : Int) : Get Unit := ⟨fun c => ⟨(), { c with offset }, [.moveTo offset]⟩⟩

/-- `memcpy(output, &buff[start], len)`. -/
def memcpy (start : Int) (len : BitVec 32) : Get Binary := ⟨fun c =>
  ⟨⟨len, window c.buff start.toNat len.toInt.toNat, window_length ..⟩, c,
    [.copy start len.toInt]⟩⟩

section Calls

variable {α β : Type} (c : Cursor)

@[simp] theorem call_pure (value : α) : (pure value : Get α).call c = ⟨value, c, []⟩ := rfl

@[simp] theorem call_bind (first : Get α) (next : α → Get β) :
    (first >>= next).call c =
      ⟨((next (first.call c).value).call (first.call c).cursor).value,
        ((next (first.call c).value).call (first.call c).cursor).cursor,
        (first.call c).accesses ++
          ((next (first.call c).value).call (first.call c).cursor).accesses⟩ := rfl

@[simp] theorem call_cursor : cursor.call c = ⟨c, c, []⟩ := rfl

@[simp] theorem call_load (index : Int) :
    (load index).call c = ⟨c.buff.getD index.toNat 0, c, [.load index]⟩ := rfl

@[simp] theorem call_store (index : Int) (byte : UInt8) :
    (store index byte).call c =
      ⟨(), { c with buff := c.buff.set index.toNat byte }, [.store index]⟩ := rfl

@[simp] theorem call_moveTo (offset : Int) :
    (moveTo offset).call c = ⟨(), { c with offset }, [.moveTo offset]⟩ := rfl

@[simp] theorem call_memcpy (start : Int) (len : BitVec 32) :
    (memcpy start len).call c =
      ⟨⟨len, window c.buff start.toNat len.toInt.toNat, window_length ..⟩, c,
        [.copy start len.toInt]⟩ := rfl

end Calls

def getByte : Get UInt8 := do
  let c ← cursor
  if 0 ≤ c.offset ∧ c.offset < c.srcLen then
    let ret ← load c.offset
    moveTo (c.offset + 1)
    return ret
  else
    return 0

def getShort : Get (BitVec 16) := do
  let low ← getByte
  let high ← getByte
  return joined 32 low.toBitVec high.toBitVec

def getInt : Get (BitVec 32) := do
  let low ← getShort
  let high ← getShort
  return joined 32 low high

def getLong : Get (BitVec 64) := do
  let low ← getInt
  let high ← getInt
  return joined 64 low high

def getFloat : Get (BitVec 32) := getInt

def getDouble : Get (BitVec 64) := getLong

/-- The length of a string as far as the buffer goes. -/
def Cursor.clip (c : Cursor) (len : BitVec 32) : Int :=
  if c.srcLen - c.offset < len.toInt ∨ len.toInt < 0 then c.srcLen - c.offset else len.toInt

/-- `get_string` behind the length that it has read. -/
def getChars (read : BitVec 32) : Get (Option Int) := do
  let c ← cursor
  if c.offset < 0 ∨ c.srcLen ≤ c.offset then
    moveTo 0
  let c ← cursor
  let len := c.clip read
  if len ≤ 0 then
    return none
  else
    store (c.offset + len - 1) 0
    moveTo (c.offset + len)
    return some c.offset

/-- The index that the returned pointer has in the buffer; none is `NULL`. -/
def getString : Get (Option Int) := do
  let ret ← getByte
  if ret = 0 then
    return none
  else
    let len ← getInt
    getChars len

/-- The characters of a string that begins inside the buffer. -/
theorem getChars_inside {c : Cursor} {read : BitVec 32} (nonneg : 0 ≤ c.offset)
    (inside : c.offset < c.srcLen) (positive : 0 < c.clip read) :
    (getChars read).call c =
      ⟨some c.offset,
        { c with
          buff := c.buff.set (c.offset + c.clip read - 1).toNat 0
          offset := c.offset + c.clip read },
        [.store (c.offset + c.clip read - 1), .moveTo (c.offset + c.clip read)]⟩ := by
  have kept : ¬ (c.offset < 0 ∨ c.srcLen ≤ c.offset) := by omega
  have nonempty : ¬ c.clip read ≤ 0 := by omega
  simp [getChars, kept, nonempty]

/-- An empty string inside the buffer. -/
theorem getChars_empty {c : Cursor} {read : BitVec 32} (nonneg : 0 ≤ c.offset)
    (inside : c.offset < c.srcLen) (empty : c.clip read ≤ 0) :
    (getChars read).call c = ⟨none, c, []⟩ := by
  have kept : ¬ (c.offset < 0 ∨ c.srcLen ≤ c.offset) := by omega
  simp [getChars, kept, empty]

inductive Text
  | literal
  | inBuff (pointer : Int)
deriving DecidableEq

/-- `literal` is the `""` of the source. -/
def getString2 : Get Text := do
  match ← getString with
  | none => return .literal
  | some output => return .inBuff output

/-- The length of a binary as far as the buffer and `desLen` go. -/
def Cursor.clipTo (c : Cursor) (desLen : Int) (len : BitVec 32) : BitVec 32 :=
  if min (c.srcLen - c.offset) desLen < len.toInt then
    BitVec.ofInt 32 (min (c.srcLen - c.offset) desLen)
  else len

/-- `get_binary` behind the length that it has read. -/
def getData (desLen : Int) (read : BitVec 32) : Get Binary := do
  let c ← cursor
  let len := c.clipTo desLen read
  if positive : 0 < len.toInt then
    let output ← memcpy c.offset len
    moveTo (c.offset + len.toInt)
    return output
  else
    return ⟨len, [], (Int.toNat_of_nonpos (Int.not_lt.mp positive)).symm⟩

def getBinary (desLen : Int) : Get Binary := do
  let c ← cursor
  if 0 ≤ c.offset ∧ c.offset ≤ c.srcLen then
    let len ← getInt
    getData desLen len
  else
    return ⟨0, [], rfl⟩

theorem getData_call (c : Cursor) (desLen : Int) (read : BitVec 32) :
    (getData desLen read).call c =
      if positive : 0 < (c.clipTo desLen read).toInt then
        ⟨⟨c.clipTo desLen read,
            window c.buff c.offset.toNat (c.clipTo desLen read).toInt.toNat, window_length ..⟩,
          { c with offset := c.offset + (c.clipTo desLen read).toInt },
          [.copy c.offset (c.clipTo desLen read).toInt,
            .moveTo (c.offset + (c.clipTo desLen read).toInt)]⟩
      else
        ⟨⟨c.clipTo desLen read, [], (Int.toNat_of_nonpos (Int.not_lt.mp positive)).symm⟩,
          c, []⟩ := by
  by_cases positive : 0 < (c.clipTo desLen read).toInt
  · simp [getData, positive]
  · simp [getData, positive]

theorem getBinary_inside {c : Cursor} (nonneg : 0 ≤ c.offset) (within : c.offset ≤ c.srcLen)
    (desLen : Int) : (getBinary desLen).call c = (getInt >>= getData desLen).call c := by
  simp only [getBinary, call_bind, call_cursor, nonneg, within, and_self, if_true,
    List.nil_append]

/-- `buff` and `*offset` of the put functions. -/
structure Writer where
  buff : List UInt8
  offset : Nat
deriving DecidableEq

/-- `memcpy(&buff[*offset], input, len); *offset += len`. -/
def Writer.append (w : Writer) (input : List UInt8) : Writer :=
  ⟨write w.buff w.offset input, w.offset + input.length⟩

def putByte (w : Writer) (input : UInt8) : Writer := w.append [input]

def putShort (w : Writer) (input : BitVec 16) : Writer :=
  let w := putByte w (.ofBitVec (lowHalf 32 input))
  putByte w (.ofBitVec (highHalf 32 input))

def putInt (w : Writer) (input : BitVec 32) : Writer :=
  let w := putShort w (lowHalf 32 input)
  putShort w (highHalf 32 input)

def putLong (w : Writer) (input : BitVec 64) : Writer :=
  let w := putInt w (lowHalf 64 input)
  putInt w (highHalf 64 input)

def putFloat (w : Writer) (input : BitVec 32) : Writer := putInt w input

def putDouble (w : Writer) (input : BitVec 64) : Writer := putLong w input

def putString (w : Writer) : Option CString → Writer
  | none => putByte w 0
  | some input =>
      let w := putByte w 1
      let w := putInt w (BitVec.ofNat 32 (input.bytes.length + 1))
      w.append (input.bytes ++ [0])

def putBinary (w : Writer) (input : Binary) : Writer :=
  let w := putInt w input.len
  if 0 < input.len.toInt then w.append input.data else w

/-- The string that a pointer into the buffer denotes. -/
def cString (buff : List UInt8) (pointer : Int) : CString where
  bytes := (buff.drop pointer.toNat).takeWhile (· ≠ 0)
  noNul := fun inside => by simpa using List.mem_takeWhile_imp inside

end Connectivity.DataCoder
