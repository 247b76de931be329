import Mathlib.Data.List.Basic

set_option autoImplicit false

/- A descriptor that does not block: how many bytes a read finds and how many a write
gets rid of is up to the moment they come at. -/
namespace Posix

/-- What the other end has written or will write and nothing has read yet. -/
structure File where
  unread : List UInt8
  closed : Bool
  deriving DecidableEq, Repr

/-- What a read comes upon: nothing yet, an error, or `more + 1` bytes if as many are
left. -/
inductive Moment
  | again | fails | upTo (more : Nat)
  deriving DecidableEq, Repr

inductive ReadResult
  | failed | data (bytes : List UInt8)
  deriving DecidableEq, Repr

namespace File

/-- One `read`, `none` for EAGAIN. A read of no bytes finds none, and the end of a file
shows only when its writer has closed it. -/
def read (file : File) (size : Nat) : Moment → Option ReadResult
  | .again => none
  | .fails => some .failed
  | .upTo more =>
      if size = 0 then some (.data [])
      else if file.unread = [] then if file.closed then some (.data []) else none
      else some (.data (file.unread.take (min size (more + 1))))

/-- A loop that reads again on EAGAIN, `none` when that is all it gets. -/
def readLoop (file : File) (size : Nat) (moments : List Moment) : Option ReadResult :=
  moments.findSome? (file.read size)

def skip (file : File) (count : Nat) : File := { file with unread := file.unread.drop count }

variable {file : File} {size : Nat} {moments : List Moment} {bytes : List UInt8}

theorem readLoop_again : file.readLoop size (.again :: moments) = file.readLoop size moments := rfl

/-- A read that asks for bytes finds some while any are left. -/
theorem readLoop_upTo (more : Nat) (moments : List Moment) (asks : size ≠ 0)
    (left : file.unread ≠ []) : file.readLoop size (.upTo more :: moments) =
      some (.data (file.unread.take (min size (more + 1)))) := by
  have found : file.read size (.upTo more) =
      some (.data (file.unread.take (min size (more + 1)))) := by
    rw [read, if_neg asks, if_neg left]
  rw [readLoop, List.findSome?_cons, found]

theorem take_ne_nil (more : Nat) (asks : size ≠ 0) (left : file.unread ≠ []) :
    file.unread.take (min size (more + 1)) ≠ [] := by
  intro none
  rcases List.take_eq_nil_iff.mp none with zero | empty
  · omega
  · exact left empty

/-- Bytes that are read are the next ones, and no more than were asked for. -/
theorem read_data {moment : Moment} (read : file.read size moment = some (.data bytes)) :
    bytes ++ (file.skip bytes.length).unread = file.unread ∧ bytes.length ≤ size := by
  unfold File.read at read
  split at read
  next => cases read
  next => cases read
  next more =>
    split at read
    next => cases read; exact ⟨rfl, Nat.zero_le _⟩
    next =>
      split at read
      next =>
        split at read
        next => cases read; exact ⟨rfl, Nat.zero_le _⟩
        next => cases read
      next =>
        cases read
        refine ⟨List.prefix_iff_eq_append.mp (List.take_prefix _ _), ?_⟩
        rw [List.length_take]
        omega

/-- A read returns nothing when nothing was asked for or at the end of a closed file. -/
theorem read_nothing {moment : Moment} (read : file.read size moment = some (.data [])) :
    size = 0 ∨ file.closed = true ∧ file.unread = [] := by
  unfold File.read at read
  split at read
  next => cases read
  next => cases read
  next more =>
    split at read
    next zero => exact .inl zero
    next positive =>
      split at read
      next empty =>
        split at read
        next closed => exact .inr ⟨closed, empty⟩
        next => cases read
      next left =>
        have none := ReadResult.data.inj (Option.some.inj read)
        exact absurd none (take_ne_nil more positive left)

theorem readLoop_data (loop : file.readLoop size moments = some (.data bytes)) :
    bytes ++ (file.skip bytes.length).unread = file.unread ∧ bytes.length ≤ size := by
  obtain ⟨moment, _, read⟩ := List.exists_of_findSome?_eq_some loop
  exact read_data read

theorem readLoop_nothing (loop : file.readLoop size moments = some (.data [])) :
    size = 0 ∨ file.closed = true ∧ file.unread = [] := by
  obtain ⟨moment, _, read⟩ := List.exists_of_findSome?_eq_some loop
  exact read_nothing read

end File

/-- What a write comes upon: a full pipe, an error, or room for `count` bytes. -/
inductive Room
  | again | fails | upTo (count : Nat)
  deriving DecidableEq, Repr

inductive WriteResult
  | again | failed | wrote (count : Nat)
  deriving DecidableEq, Repr

/-- One `write` or `writev` of so many bytes. -/
def Room.write (size : Nat) : Room → WriteResult
  | .again => .again
  | .fails => .failed
  | .upTo count => .wrote (min count size)

theorem Room.write_le {room : Room} {size count : Nat} (wrote : room.write size = .wrote count) :
    count ≤ size := by
  cases room with
  | again => cases wrote
  | fails => cases wrote
  | upTo most =>
      cases wrote
      exact Nat.min_le_right _ _

end Posix

/- A port that a reader waits for with a time-out. The stream that comes in is the same however it
comes; when, and how much at a time, is up to the arrivals. -/
namespace Posix

/-- One wait: the milliseconds it takes, and what the read behind it comes upon. A signal that
ends the wait and an end of file are `again`. -/
structure Arrival where
  delay : Nat
  moment : Moment
  deriving DecidableEq, Repr

/-- `taken` counts the bytes that have been read. `missed` keeps that a receive has ended without
all of its bytes, by a time-out or by an error; nothing arrives after the last arrival. -/
structure Port where
  stream : Nat → UInt8
  taken : Nat
  arrivals : List Arrival
  missed : Bool

/-- The bytes of a stream from one of them on. -/
def bytesAt (stream : Nat → UInt8) (start count : Nat) : List UInt8 :=
  (List.range count).map fun i => stream (start + i)

/-- A receive has all the bytes that were asked for if `ok`, some of them otherwise. -/
structure Received where
  ok : Bool
  bytes : List UInt8
  port : Port

/-- A loop of `select` and `read` for `need` bytes. What `select` has waited is taken off what it
may wait the next time. -/
def receiveLoop (stream : Nat → UInt8) (missed : Bool) :
    (patience need taken : Nat) → List Arrival → Received
  | _, 0, taken, arrivals => ⟨true, [], ⟨stream, taken, arrivals, missed⟩⟩
  | _, _ + 1, taken, [] => ⟨false, [], ⟨stream, taken, [], true⟩⟩
  | patience, need + 1, taken, ⟨delay, moment⟩ :: rest =>
      if patience ≤ delay then
        ⟨false, [], ⟨stream, taken, ⟨delay - patience, moment⟩ :: rest, true⟩⟩
      else
        let later := fun count =>
          receiveLoop stream missed (patience - delay) (need + 1 - count) (taken + count) rest
        match moment with
        | .again => later 0
        | .fails => ⟨false, [], ⟨stream, taken, rest, true⟩⟩
        | .upTo more =>
            let count := min (need + 1) (more + 1)
            ⟨(later count).ok, bytesAt stream taken count ++ (later count).bytes, (later count).port⟩

section Stream

variable (stream : Nat → UInt8) (start : Nat)

theorem bytesAt_add (first later : Nat) : bytesAt stream start (first + later) =
    bytesAt stream start first ++ bytesAt stream (start + first) later := by
  rw [bytesAt, List.range_add, List.map_append, List.map_map, bytesAt, bytesAt]
  congr 1
  apply List.map_congr_left
  intro i _
  simp only [Function.comp_apply, Nat.add_assoc]

theorem bytesAt_one_add (later : Nat) : bytesAt stream start (1 + later) =
    stream start :: bytesAt stream (start + 1) later := by
  rw [bytesAt_add]
  rfl

theorem bytesAt_getD {count i : Nat} (inside : i < count) :
    (bytesAt stream start count).getD i 0 = stream (start + i) := by
  rw [bytesAt, List.getD_eq_getElem?_getD, List.getElem?_map, List.getElem?_range inside]
  rfl

end Stream

namespace Port

/-- `need` bytes, with `patience` milliseconds to wait for them. -/
def receive (port : Port) (patience need : Nat) : Received :=
  receiveLoop port.stream port.missed patience need port.taken port.arrivals

variable {port : Port} {patience need taken : Nat} {stream : Nat → UInt8} {missed : Bool}
  {arrivals : List Arrival}

/-- A receive that has its bytes has the next ones of the stream, and no others are gone. -/
structure Delivered (stream : Nat → UInt8) (missed : Bool) (need taken : Nat)
    (received : Received) : Prop where
  ok : received.ok = true
  bytes : received.bytes = bytesAt stream taken need
  stream : received.port.stream = stream
  taken : received.port.taken = taken + need
  missed : received.port.missed = missed

theorem Delivered.append {count : Nat} {later : Received}
    (delivered : Delivered stream missed (need - count) (taken + count) later)
    (part : count ≤ need) : Delivered stream missed need taken
      ⟨later.ok, bytesAt stream taken count ++ later.bytes, later.port⟩ := by
  have whole : count + (need - count) = need := by omega
  refine ⟨delivered.ok, ?_, delivered.stream, ?_, delivered.missed⟩
  · show bytesAt stream taken count ++ later.bytes = bytesAt stream taken need
    rw [delivered.bytes, ← bytesAt_add, whole]
  · show later.port.taken = taken + need
    rw [delivered.taken, Nat.add_assoc, whole]

/-- By induction on the arrivals: a receive that ends with the port unharmed has been met. -/
theorem receive_delivered (met : (receiveLoop stream missed patience need taken arrivals).port.missed
    = false) : Delivered stream missed need taken
      (receiveLoop stream missed patience need taken arrivals) := by
  induction arrivals generalizing patience need taken with
  | nil =>
      cases need with
      | zero => exact ⟨rfl, rfl, rfl, rfl, rfl⟩
      | succ need => cases met
  | cons arrival rest ih =>
      obtain ⟨delay, moment⟩ := arrival
      cases need with
      | zero => exact ⟨rfl, rfl, rfl, rfl, rfl⟩
      | succ need =>
          rw [receiveLoop] at met ⊢
          by_cases late : patience ≤ delay
          · rw [if_pos late] at met
            cases met
          · rw [if_neg late] at met ⊢
            cases moment with
            | again => exact ih met
            | fails => cases met
            | upTo more => exact (ih met).append (Nat.min_le_left _ _)

/-- A receive that leaves its port unharmed has been met, and the port was unharmed before. -/
theorem receive_met (met : (port.receive patience need).port.missed = false) :
    Delivered port.stream port.missed need port.taken (port.receive patience need) ∧
      port.missed = false := by
  have delivered : Delivered port.stream port.missed need port.taken
    (port.receive patience need) := receive_delivered met
  have before : port.missed = false := by rw [← delivered.missed]; exact met
  exact ⟨delivered, before⟩

end Port

end Posix
