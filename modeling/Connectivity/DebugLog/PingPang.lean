import Connectivity.Bytes.Buffer

set_option autoImplicit false

/- The two buffers between the library that writes the GNSS debug log and the thread
that hands it to the logger. -/
namespace Connectivity.DebugLog

open Bytes

/-- `PINGPANG_BUFFER_SIZE`. -/
def pingpangBufferSize : Nat := 15 * 1024

/-- How far a buffer may be written: the distance of its end address from its start. -/
def endOffset : Nat := pingpangBufferSize - 2

inductive BufferState
  | notInit | writable | writing | readable | reading
  deriving DecidableEq, Repr

inductive Which
  | buffer1 | buffer2
  deriving DecidableEq, Repr

def Which.other : Which → Which
  | .buffer1 => .buffer2
  | .buffer2 => .buffer1

/-- One of the buffers: its memory, `bufferN_lenth_to_write` and `bufferN_state`. -/
structure Half where
  data : List UInt8
  lenthToWrite : Nat
  state : BufferState

def zeroed : List UInt8 := List.replicate pingpangBufferSize 0

/-- `next_write`, by the buffer it points into. -/
structure Cursor where
  buffer : Which
  offset : Nat
  deriving DecidableEq, Repr

/-- Where the thread is that hands the log on: between two of its steps, after a statement
of `gps_dbg_log_pingpang_write` on one of the buffers, or between the flush and the free. -/
inductive ConsumerStep
  | idle | reading (which : Which) | logged (which : Which) | cleared (which : Which)
  | emptied (which : Which) | flushed
  deriving DecidableEq, Repr

/-- What became of the messages accepted between an initialisation and the free. -/
structure Session where
  accepted : List (List UInt8)
  loose : Nat
  logged : List UInt8
  deriving DecidableEq, Repr

/-- `ping_pang_buffer_body` and its two users. `caller` is a message that is about to be
copied, `mutexLost` says that the mutex was left locked, and `accepted`, `logged` and
`ended` tell what happened since the initialisation and before it. -/
structure PingPang where
  nextWrite : Option Cursor
  half : Which → Half
  numLoose : Nat
  pingpangInit : Bool
  mutexLost : Bool
  consumer : ConsumerStep
  caller : Option (List UInt8)
  accepted : List (List UInt8)
  logged : List UInt8
  ended : List Session

inductive PingPangInput
  | call (message : List UInt8) | copy | init (allocated : Bool) | write | flush | free
  deriving DecidableEq, Repr

namespace PingPang

def freed : Half := ⟨[], 0, .notInit⟩

def initial : PingPang where
  nextWrite := none
  half := fun _ => freed
  numLoose := 0
  pingpangInit := false
  mutexLost := false
  consumer := .idle
  caller := none
  accepted := []
  logged := []
  ended := []

def set (which : Which) (half : Half) (s : PingPang) : PingPang :=
  { s with half := fun place => if place = which then half else s.half place }

/-- `mnl_sys_alps_gps_dbg2file_mnld`: its look at `next_write`, without the mutex. -/
def call (message : List UInt8) (s : PingPang) : Option PingPang :=
  if s.nextWrite ≠ none ∧ s.caller = none then some { s with caller := some message } else none

/-- `gps_dbg_log_pingpang_init`. -/
def init (allocated : Bool) (s : PingPang) : Option PingPang :=
  if s.pingpangInit ∨ s.mutexLost ∨ s.consumer ≠ .idle then none
  else if allocated then
    some { s with
      nextWrite := some ⟨.buffer1, 0⟩
      half := fun which => ⟨zeroed, 0, if which = .buffer1 then .writing else .writable⟩
      numLoose := 0
      pingpangInit := true }
  else some { s with nextWrite := none, half := fun _ => freed, numLoose := 0 }

/-- The other buffer is written next. The state of this one is assigned last of all, so
that `gps_dbg_log_pingpang_write`, which takes no mutex, sees the change at once. -/
def turnOver (which : Which) (offset : Nat) (s : PingPang) : PingPang :=
  let written := { s.half which with lenthToWrite := offset, state := .readable }
  { (s.set which.other { s.half which.other with state := .writing }).set which written with
    nextWrite := some ⟨which.other, 0⟩ }

/-- The buffer is written anew, and what was in it is lost. -/
def overwrite (which : Which) (s : PingPang) : PingPang :=
  { s.set which { s.half which with data := zeroed } with
    nextWrite := some ⟨which, 0⟩
    numLoose := s.numLoose + 1 }

/-- A message that does not fit behind the cursor. -/
def overflow (which : Which) (offset : Nat) (s : PingPang) : PingPang :=
  if (s.half which.other).state = .writable then s.turnOver which offset else s.overwrite which

/-- `memcpy` to the cursor, which moves on behind the message. -/
def store (message : List UInt8) (cursor : Cursor) (s : PingPang) : PingPang :=
  let half := s.half cursor.buffer
  { s.set cursor.buffer { half with data := Bytes.write half.data cursor.offset message } with
    nextWrite := some { cursor with offset := cursor.offset + message.length }
    accepted := s.accepted ++ [message] }

/-- One of the two branches of the copy, for the buffer that is being written. -/
def copyTo (which : Which) (message : List UInt8) (cursor : Cursor) (s : PingPang) : PingPang :=
  if endOffset < cursor.offset + message.length then
    let turned := s.overflow which cursor.offset
    turned.store message (turned.nextWrite.getD cursor)
  else s.store message cursor

/-- `gps_dbg_log_pingpang_copy`, all of it under the mutex. Where `next_write` is null it
returns with the mutex locked. -/
def copy (s : PingPang) : Option PingPang :=
  match s.caller with
  | none => none
  | some message =>
      if pingpangBufferSize - 1 ≤ message.length then some { s with caller := none }
      else if s.mutexLost then none
      else match s.nextWrite with
        | none => some { s with caller := none, mutexLost := true }
        | some cursor =>
            if (s.half .buffer1).state = .writing ∧ (s.half .buffer2).state ≠ .writing then
              some (({ s with caller := none } : PingPang).copyTo .buffer1 message cursor)
            else if (s.half .buffer2).state = .writing ∧ (s.half .buffer1).state ≠ .writing then
              some (({ s with caller := none } : PingPang).copyTo .buffer2 message cursor)
            else some { s with caller := none }

/-- `mnld2logd_write_gpslog`. -/
def log (bytes : List UInt8) (s : PingPang) : PingPang := { s with logged := s.logged ++ bytes }

/-- The test of `gps_dbg_log_pingpang_write` for one of the buffers. -/
def canRead (s : PingPang) (which : Which) : Prop :=
  (s.half which).state = .readable ∧ (s.half which.other).state ≠ .readable ∧
    (s.half which).lenthToWrite ≠ 0

instance (s : PingPang) (which : Which) : Decidable (s.canRead which) :=
  inferInstanceAs (Decidable (_ ∧ _ ∧ _))

def startReading (which : Which) (s : PingPang) : PingPang :=
  { s.set which { s.half which with state := .reading } with consumer := .reading which }

/-- The next statement of `gps_dbg_log_pingpang_write`, which takes no mutex. -/
def write (s : PingPang) : Option PingPang :=
  match s.consumer with
  | .idle =>
      if s.canRead .buffer1 then some (s.startReading .buffer1)
      else if s.canRead .buffer2 then some (s.startReading .buffer2)
      else some s
  | .reading which =>
      let half := s.half which
      some { s.log (half.data.take half.lenthToWrite) with consumer := .logged which }
  | .logged which =>
      some { s.set which { s.half which with data := zeroed } with consumer := .cleared which }
  | .cleared which =>
      some { s.set which { s.half which with lenthToWrite := 0 } with consumer := .emptied which }
  | .emptied which =>
      some { s.set which { s.half which with state := .writable } with consumer := .idle }
  | .flushed => none

/-- One of the two branches of the flush, for the buffer that is being written. -/
def flushFrom (which : Which) (offset : Nat) (s : PingPang) : PingPang :=
  let other := s.half which.other
  let first := if other.state = .readable then s.log (other.data.take other.lenthToWrite) else s
  first.log ((s.half which).data.take offset)

/-- `gps_dbg_log_pingpang_flush`, which the thread calls once output is disabled or it is
to exit, if there are buffers. -/
def flush (s : PingPang) : Option PingPang :=
  if s.mutexLost ∨ s.consumer ≠ .idle then none
  else match s.nextWrite with
    | none => none
    | some cursor =>
        if (s.half .buffer1).state = .writing ∧ (s.half .buffer2).state ≠ .writing then
          some { s.flushFrom .buffer1 cursor.offset with consumer := .flushed }
        else if (s.half .buffer2).state = .writing ∧ (s.half .buffer1).state ≠ .writing then
          some { s.flushFrom .buffer2 cursor.offset with consumer := .flushed }
        else some { s with consumer := .flushed }

/-- `gps_dbg_log_pingpang_free`, which the thread calls after the flush. -/
def free (s : PingPang) : Option PingPang :=
  if s.mutexLost ∨ s.consumer ≠ .flushed then none
  else some { s with
    nextWrite := none
    half := fun _ => freed
    numLoose := 0
    pingpangInit := false
    consumer := .idle
    accepted := []
    logged := []
    ended := ⟨s.accepted, s.numLoose, s.logged⟩ :: s.ended }

def step (s : PingPang) : PingPangInput → Option PingPang
  | .call message => s.call message
  | .copy => s.copy
  | .init allocated => s.init allocated
  | .write => s.write
  | .flush => s.flush
  | .free => s.free

end PingPang

end Connectivity.DebugLog
