import Connectivity.DataCoder.Datagram
import Connectivity.SocketCoder.Coder

set_option autoImplicit false

/- The messages of mnld to the threads of the logs, and which bytes of them go to a file. -/
namespace Connectivity.LbsLog

open Bytes DataCoder

/-- `LBS_LOG_INTERFACE_BUFF_SIZE`. -/
def interfaceBuffSize : Nat := 15376

/-- What `safe_recvfrom` puts in `buff`; without any bytes it has failed. -/
structure Message where
  bytes : List UInt8
  fits : bytes.length ≤ interfaceBuffSize

/-- A function of `lbslogd_handler_interface` and its arguments, the data of a log by its place in
`buff`. -/
inductive Call
  | createLogfile (path : List UInt8)
  | writeLogdata (data : Int) (len : Int)
  | closeLogfile
deriving DecidableEq, Repr

/-- The `switch` over the command: what is called, and what is returned. -/
def dispatch (cmd : BitVec 32) : Get (Option Call × Bool) :=
  if cmd = 0 then do
    let path ← SocketCoder.getString interfaceBuffSize
    return (some (.createLogfile path.2), true)
  else if cmd = 2 then do
    let lenLogdata ← SocketCoder.getInt
    let c ← cursor
    return if lenLogdata.toNat ≤ interfaceBuffSize then
      (some (.writeLogdata c.offset lenLogdata.toNat), true)
    else (none, false)
  else if cmd = 1 then return (some .closeLogfile, true)
  else return (none, false)

def readMessage : Get (Option Call × Bool) := do
  let cmd ← SocketCoder.getInt
  dispatch cmd

section Handler

variable (message : Message)

/-- `mnld2lbslogd_hdlr`. -/
def mnld2lbslogdHdlr : Option Call × Bool :=
  if message.bytes.length = 0 then (none, false)
  else (readMessage.call (received interfaceBuffSize message.bytes)).value

/-- What a call hands to `fwrite`: a place in `buff` and a number of bytes. Each of the threads has
a file of its own. -/
def Call.fwrite (file : Option (List UInt8)) : Call → Option (Int × Int)
  | .writeLogdata data len => if file = none then none else some (data, len)
  | _ => none

def fwrite (file : Option (List UInt8)) : Option (Int × Int) :=
  (mnld2lbslogdHdlr message).1.bind (Call.fwrite file)

def Message.cmd : BitVec 32 :=
  (SocketCoder.getInt.call (received interfaceBuffSize message.bytes)).value

/-- The length that a `LBS_LOG_INTERFACE_WRITE_LOG` declares. -/
def Message.lenLogdata : BitVec 32 :=
  (SocketCoder.getInt.call { received interfaceBuffSize message.bytes with offset := 4 }).value

/-- A write whose length the check lets pass, and which is not all there. -/
def Message.Overstated : Prop :=
  message.bytes.length ≠ 0 ∧ message.cmd = 2 ∧ message.lenLogdata.toNat ≤ interfaceBuffSize ∧
    message.bytes.length < 8 + message.lenLogdata.toNat

instance : Decidable message.Overstated := inferInstanceAs (Decidable (_ ∧ _ ∧ _ ∧ _))

end Handler

section Reading

theorem getInt_cursor (c : Cursor) :
    (SocketCoder.getInt.call c).cursor = { c with offset := c.offset + 4 } := by
  have sum : c.offset + 1 + 1 + 1 + 1 = c.offset + 4 := by omega
  simp [SocketCoder.getInt, SocketCoder.getShort, SocketCoder.getChar, sum]

variable {message : Message} {file : Option (List UInt8)}

/-- The data of a write lies behind the command and the length. -/
theorem mnld2lbslogdHdlr_write (some : message.bytes.length ≠ 0) (write : message.cmd = 2) :
    (mnld2lbslogdHdlr message).1 =
      if message.lenLogdata.toNat ≤ interfaceBuffSize then
        .some (.writeLogdata 8 message.lenLogdata.toNat)
      else none := by
  have read : (SocketCoder.getInt.call (received interfaceBuffSize message.bytes)).value = 2 :=
    write
  have behind : (SocketCoder.getInt.call (received interfaceBuffSize message.bytes)).cursor =
      { received interfaceBuffSize message.bytes with offset := 4 } := getInt_cursor _
  have length : (SocketCoder.getInt.call
      { received interfaceBuffSize message.bytes with offset := 4 }).value =
      message.lenLogdata := rfl
  have data : (SocketCoder.getInt.call
      { received interfaceBuffSize message.bytes with offset := 4 }).cursor.offset = 8 :=
    congrArg Cursor.offset (getInt_cursor _)
  rw [mnld2lbslogdHdlr, if_neg some, readMessage, call_bind, read, behind, dispatch,
    if_neg (by decide), if_pos rfl]
  simp only [call_bind, call_cursor, call_pure, length, data]
  split
  · rfl
  · rfl

/-- Any other message has nothing written. -/
theorem fwrite_other (other : message.cmd ≠ 2) : fwrite message file = none := by
  have read : (SocketCoder.getInt.call (received interfaceBuffSize message.bytes)).value =
      message.cmd := rfl
  rw [fwrite, mnld2lbslogdHdlr]
  split
  · rfl
  · rw [readMessage, call_bind, read, dispatch]
    simp only [if_neg other]
    split
    · rfl
    · split
      · rfl
      · rfl

theorem fwrite_write (some : message.bytes.length ≠ 0) (write : message.cmd = 2) :
    fwrite message file =
      if message.lenLogdata.toNat ≤ interfaceBuffSize ∧ file ≠ none then
        .some (8, (message.lenLogdata.toNat : Int))
      else none := by
  rw [fwrite, mnld2lbslogdHdlr_write some write]
  by_cases allowed : message.lenLogdata.toNat ≤ interfaceBuffSize
  · rw [if_pos allowed, Option.bind_some, Call.fwrite]
    by_cases closed : file = none
    · rw [if_pos closed, if_neg (fun both => both.2 closed)]
    · rw [if_neg closed, if_pos ⟨allowed, closed⟩]
  · rw [if_neg allowed, if_neg (fun both => allowed both.1)]
    rfl

end Reading

/-- What goes to a file lies in the message, unless a write that a file is open for declares more
than there is and no more than `buff` has room for. -/
theorem fwrite_inside_iff (message : Message) (file : Option (List UInt8)) :
    (∀ data ∈ fwrite message file, data.1 + data.2 ≤ message.bytes.length) ↔
      ¬ (file ≠ none ∧ message.Overstated) := by
  by_cases write : message.bytes.length ≠ 0 ∧ message.cmd = 2
  · rw [fwrite_write write.1 write.2]
    split
    · rename_i allowed
      have overstated : (file ≠ none ∧ message.Overstated) ↔
          message.bytes.length < 8 + message.lenLogdata.toNat :=
        ⟨fun both => both.2.2.2.2, fun less => ⟨allowed.2, write.1, write.2, allowed.1, less⟩⟩
      rw [overstated]
      constructor
      · intro inside
        have last := inside _ rfl
        simp only at last
        omega
      · intro whole data same
        cases same
        simp only
        omega
    · rename_i refused
      apply iff_of_true
      · intro data none
        cases none
      · exact fun both => refused ⟨both.2.2.2.1, both.1⟩
  · apply iff_of_true
    · intro data written
      by_cases empty : message.bytes.length = 0
      · rw [fwrite, mnld2lbslogdHdlr, if_pos empty] at written
        cases written
      · rw [fwrite_other fun same => write ⟨empty, same⟩] at written
        cases written
    · exact fun both => write ⟨both.2.1, both.2.2.1⟩

/-- Eight bytes that declare one byte more. -/
theorem not_fwrite_inside : ¬ ∀ (message : Message) (file : Option (List UInt8)),
    ∀ data ∈ fwrite message file, data.1 + data.2 ≤ message.bytes.length := by
  intro all
  have written : fwrite ⟨[2, 0, 0, 0, 1, 0, 0, 0], by decide⟩ (some []) = some (8, 1) := by
    decide
  have inside := all _ _ (8, 1) written
  exact absurd inside (by decide)

end Connectivity.LbsLog
