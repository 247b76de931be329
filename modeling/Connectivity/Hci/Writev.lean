import Connectivity.Posix.Descriptor

set_option autoImplicit false

/- The sending side of the UART: one buffer, or an array of them, written until all
of it is out. -/
namespace Connectivity.Hci

open Posix

/-- `HciProtocol::WriteSafely`: the bytes it transmits, `none` while it still tries. -/
def writeSafely : List Room → List UInt8 → Option (List UInt8)
  | _, [] => some []
  | [], _ :: _ => none
  | room :: later, data =>
      match room.write data.length with
      | .again => writeSafely later data
      | .failed | .wrote 0 => some []
      | .wrote ret => (writeSafely later (data.drop ret)).map (data.take ret ++ ·)

/-- The variables of `HciProtocol::WritevSafely`: `iov` is the memory from there on, each
element by the bytes it points to, and `index` the element's place in the array. `read`
tells the places that were looked at; past the end of the memory the process faults. -/
structure Writev where
  iov : List (List UInt8)
  iovcnt : Int
  index : Nat
  transmitted : List UInt8
  read : List Nat
  fault : Bool
  deriving DecidableEq, Repr

namespace Writev

def start (iov : List (List UInt8)) (iovcnt : Nat) : Writev where
  iov := iov
  iovcnt := iovcnt
  index := 0
  transmitted := []
  read := []
  fault := false

/-- What the kernel is given to write. -/
def offered (s : Writev) : List UInt8 := (s.iov.take s.iovcnt.toNat).flatten

def gather (s : Writev) : Writev :=
  { s with read := List.range' s.index s.iovcnt.toNat ++ s.read }

/-- The inner loop: whole elements are consumed, then a part of one. -/
def consume : Nat → List (List UInt8) → Writev → Writev
  | _, [], s => { s with iov := [], read := s.index :: s.read, fault := true }
  | ret, element :: rest, s =>
      if element.length ≤ ret then
        consume (ret - element.length) rest
          { s with
            read := s.index :: s.read
            iovcnt := s.iovcnt - 1
            index := s.index + 1 }
      else { s with read := s.index :: s.read, iov := element.drop ret :: rest }

def wrote (ret : Nat) (s : Writev) : Writev :=
  consume ret s.iov { s with transmitted := s.transmitted ++ s.offered.take ret }

/-- The outer loop. -/
def loop : List Room → Writev → Option Writev
  | rooms, s =>
      if s.fault ∨ s.iovcnt ≤ 0 then some s
      else match rooms with
        | [] => none
        | room :: later =>
            match room.write s.offered.length with
            | .again => loop later s.gather
            | .failed | .wrote 0 => some s.gather
            | .wrote ret => loop later (s.gather.wrote ret)

end Writev

/-- `HciProtocol::WritevSafely` on an array and the memory after it. -/
def writevSafely (iovs beyond : List (List UInt8)) (rooms : List Room) : Option Writev :=
  (Writev.start (iovs ++ beyond) iovs.length).loop rooms

/-- `H4Protocol::Send`. -/
def H4Protocol.send (type : UInt8) (data : List UInt8) (beyond : List (List UInt8))
    (rooms : List Room) : Option Writev :=
  writevSafely [[type], data] beyond rooms

/-- All of the array has been transmitted, as `WriteSafely` transmits the bytes in one
buffer, and nothing was looked at past its end. -/
structure TransmitsExactly (iovs : List (List UInt8)) (t : Writev) : Prop where
  whole : t.transmitted = iovs.flatten
  asWriteSafely : ∀ rooms sent, writeSafely rooms iovs.flatten = some sent →
    sent.length = iovs.flatten.length → t.transmitted = sent
  inside : ∀ place ∈ t.read, place < iovs.length

theorem writeSafely_front {rooms : List Room} {data sent : List UInt8}
    (run : writeSafely rooms data = some sent) : sent <+: data := by
  induction rooms generalizing data sent with
  | nil =>
      match data, run with
      | [], rfl => exact List.nil_prefix
  | cons room later ih =>
      match data, run with
      | [], rfl => exact List.nil_prefix
      | byte :: rest, run =>
          simp only [writeSafely] at run
          split at run
          next => exact ih run
          next => cases run; exact List.nil_prefix
          next => cases run; exact List.nil_prefix
          next ret _ _ =>
            obtain ⟨after, written, rfl⟩ := Option.map_eq_some_iff.mp run
            have extended := (List.prefix_append_right_inj ((byte :: rest).take ret)).mpr
                (ih written)
            rwa [List.take_append_drop] at extended

variable {iovs beyond remaining : List (List UInt8)} {s t : Writev} {ret : Nat}
  {rooms : List Room}

/-- A part of the array is still to be sent, and no place past its end was looked at. -/
structure Sending (iovs beyond : List (List UInt8)) (s : Writev)
    (remaining : List (List UInt8)) : Prop where
  memory : s.iov = remaining ++ beyond
  count : s.iovcnt = remaining.length
  place : s.index + remaining.length = iovs.length
  split : s.transmitted ++ remaining.flatten = iovs.flatten
  inside : ∀ place ∈ s.read, place < iovs.length
  unfinished : remaining.flatten = [] → iovs.flatten = []

namespace Writev

theorem consume_transmitted (ret : Nat) (iov : List (List UInt8)) (s : Writev) :
    (consume ret iov s).transmitted = s.transmitted := by
  induction iov generalizing ret s with
  | nil => rfl
  | cons element rest ih =>
      rw [consume]
      split
      next => rw [ih]
      next => rfl

theorem consume_read {place : Nat} (ret : Nat) (iov : List (List UInt8)) (s : Writev)
    (read : place ∈ s.read) : place ∈ (consume ret iov s).read := by
  induction iov generalizing ret s with
  | nil => exact List.mem_cons_of_mem _ read
  | cons element rest ih =>
      rw [consume]
      split
      next =>
        apply ih
        exact List.mem_cons_of_mem _ read
      next => exact List.mem_cons_of_mem _ read

/-- The element that is looked at first. -/
theorem consume_first (ret : Nat) (iov : List (List UInt8)) (s : Writev) :
    s.index ∈ (consume ret iov s).read := by
  cases iov with
  | nil => exact List.mem_cons_self
  | cons element rest =>
      rw [consume]
      split
      next =>
        apply consume_read
        exact List.mem_cons_self
      next => exact List.mem_cons_self

theorem consume_iovcnt (ret : Nat) (iov : List (List UInt8)) (s : Writev) :
    (consume ret iov s).iovcnt ≤ s.iovcnt := by
  induction iov generalizing ret s with
  | nil => exact Int.le_refl _
  | cons element rest ih =>
      rw [consume]
      split
      next =>
        have next := ih (ret - element.length)
          { s with read := s.index :: s.read, iovcnt := s.iovcnt - 1, index := s.index + 1 }
        simp only at next
        omega
      next => exact Int.le_refl _

/-- A write that leaves some bytes stops the inner loop in the array. -/
theorem consume_part (less : ret < remaining.flatten.length) (count : s.iovcnt = remaining.length)
    (place : s.index + remaining.length = iovs.length)
    (split : s.transmitted ++ remaining.flatten.drop ret = iovs.flatten)
    (inside : ∀ place ∈ s.read, place < iovs.length) :
    ∃ left, Sending iovs beyond (consume ret (remaining ++ beyond) s) left := by
  induction remaining generalizing ret s with
  | nil => exact absurd less (Nat.not_lt_zero ret)
  | cons element rest ih =>
      rw [List.length_cons] at count place
      rw [List.flatten_cons, List.length_append] at less
      rw [List.flatten_cons, List.drop_append] at split
      have looked : ∀ place ∈ s.index :: s.read, place < iovs.length := by
        exact List.forall_mem_cons.mpr ⟨by omega, inside⟩
      rw [List.cons_append, consume]
      split
      next whole =>
        rw [List.drop_eq_nil_of_le whole, List.nil_append] at split
        apply ih
        · omega
        · simp only [count]
          omega
        · simp only
          omega
        · exact split
        · exact looked
      next part =>
        have zero : ret - element.length = 0 := by omega
        rw [zero, List.drop_zero] at split
        refine ⟨element.drop ret :: rest, rfl, count, place, split, looked, ?_⟩
        intro none
        have lengths := congrArg List.length none
        rw [List.flatten_cons, List.length_append, List.length_drop, List.length_nil] at lengths
        omega

/-- A write that leaves none has the inner loop look past the end of the array. -/
theorem consume_all (all : ret = remaining.flatten.length) (count : s.iovcnt = remaining.length) :
    (consume ret (remaining ++ beyond) s).iovcnt ≤ 0 ∧
      s.index + remaining.length ∈ (consume ret (remaining ++ beyond) s).read := by
  induction remaining generalizing ret s with
  | nil =>
      refine ⟨?_, consume_first _ _ _⟩
      have bound := consume_iovcnt ret ([] ++ beyond) s
      simp only [List.length_nil] at count
      omega
  | cons element rest ih =>
      rw [List.flatten_cons, List.length_append] at all
      rw [List.length_cons] at count
      rw [List.cons_append, consume, if_pos (by omega), List.length_cons]
      rw [show s.index + (rest.length + 1) = s.index + 1 + rest.length by omega]
      apply @ih { s with read := s.index :: s.read, iovcnt := s.iovcnt - 1, index := s.index + 1 }
      · omega
      · simp only
        omega

theorem offered_eq (sending : Sending iovs beyond s remaining) : s.offered = remaining.flatten := by
  rw [offered, sending.memory, sending.count, Int.toNat_natCast, List.take_left]

theorem gather_sending (sending : Sending iovs beyond s remaining) :
    Sending iovs beyond s.gather remaining := by
  refine { sending with inside := fun place read => ?_ }
  have bound := sending.place
  rcases List.mem_append.mp read with kernel | before
  · rw [sending.count, Int.toNat_natCast, List.mem_range'_1] at kernel
    omega
  · exact sending.inside place before

/-- A write takes a part of what is left or all of it. -/
theorem wrote_cases (sending : Sending iovs beyond s remaining)
    (within : ret ≤ remaining.flatten.length) :
    (∃ left, Sending iovs beyond (s.wrote ret) left) ∨
      (s.wrote ret).transmitted = iovs.flatten ∧ (s.wrote ret).iovcnt ≤ 0 ∧
        iovs.length ∈ (s.wrote ret).read := by
  have split := sending.split
  have reached : s.wrote ret = consume ret (remaining ++ beyond)
      { s with transmitted := s.transmitted ++ remaining.flatten.take ret } := by
    rw [wrote, offered_eq sending]
    exact congrArg (fun iov => consume ret iov _) sending.memory
  rw [reached]
  by_cases less : ret < remaining.flatten.length
  · left
    refine consume_part less sending.count sending.place ?_ sending.inside
    rw [List.append_assoc, List.take_append_drop]
    exact split
  · right
    have all : ret = remaining.flatten.length := by omega
    obtain ⟨finished, past⟩ := @consume_all beyond remaining
      { s with transmitted := s.transmitted ++ remaining.flatten.take ret } ret all sending.count
    refine ⟨?_, finished, sending.place ▸ past⟩
    rw [consume_transmitted, all, List.take_length]
    exact split

theorem loop_finished (finished : s.iovcnt ≤ 0) (rooms : List Room) : s.loop rooms = some s := by
  cases rooms <;> exact if_pos (.inr finished)

end Writev

/-- How a transfer ends: with a part left to send, or with all sent and the element after
the array looked at. -/
inductive Ends (iovs beyond : List (List UInt8)) (t : Writev) : Prop
  | part {remaining : List (List UInt8)} (sending : Sending iovs beyond t remaining) :
      Ends iovs beyond t
  | all (some : iovs.flatten ≠ []) (whole : t.transmitted = iovs.flatten)
      (past : iovs.length ∈ t.read) : Ends iovs beyond t

theorem loop_ends (sending : Sending iovs beyond s remaining) (run : s.loop rooms = some t) :
    Ends iovs beyond t := by
  induction rooms generalizing s remaining with
  | nil =>
      rw [Writev.loop] at run
      split at run
      next => cases run; exact .part sending
      next => cases run
  | cons room later ih =>
      have gathered := Writev.gather_sending sending
      rw [Writev.loop] at run
      split at run
      next => cases run; exact .part sending
      next =>
        split at run
        next => exact ih gathered run
        next => cases run; exact .part gathered
        next => cases run; exact .part gathered
        next ret positive wrote =>
          have within := Room.write_le wrote
          rw [Writev.offered_eq sending] at within
          rcases Writev.wrote_cases gathered within with ⟨left, sending⟩ | ⟨whole, finished, past⟩
          · exact ih sending run
          · rw [Writev.loop_finished finished] at run
            cases run
            refine .all (fun none => positive ?_) whole past
            have lengths := congrArg List.length (sending.split.trans none)
            rw [List.length_append, List.length_nil] at lengths
            omega

theorem sending_start (iovs beyond : List (List UInt8)) :
    Sending iovs beyond (.start (iovs ++ beyond) iovs.length) iovs where
  memory := rfl
  count := rfl
  place := Nat.zero_add _
  split := List.nil_append _
  inside _ read := absurd read List.not_mem_nil
  unfinished := id

/-- A transfer that gets everything out stays inside the array only when there is nothing
to get out. -/
theorem writevSafely_exact_iff (run : writevSafely iovs beyond rooms = some t)
    (success : t.transmitted.length = iovs.flatten.length) :
    TransmitsExactly iovs t ↔ iovs.flatten = [] := by
  cases loop_ends (sending_start iovs beyond) run with
  | part sending =>
      have lengths := congrArg List.length sending.split
      rw [List.length_append, success] at lengths
      have rest := List.eq_nil_of_length_eq_zero (Nat.add_eq_left.mp lengths)
      have whole := sending.split
      rw [rest, List.append_nil] at whole
      refine ⟨fun _ => sending.unfinished rest, fun _ => ⟨whole, ?_, sending.inside⟩⟩
      intro other sent written all
      rw [whole]
      exact ((writeSafely_front written).eq_of_length all).symm
  | all some whole past =>
      refine ⟨fun exact => ?_, fun none => absurd none some⟩
      exact absurd (exact.inside _ past) (Nat.lt_irrefl _)

theorem writevSafely_exact_on_empty :
    TransmitsExactly [[], []] ⟨[[], []], 2, 0, [], [0, 1], false⟩ :=
  (@writevSafely_exact_iff [[], []] [] _ [.upTo 8] rfl rfl).mpr rfl

/-- The HCI reset command, sent in one write that takes all four bytes of it. -/
theorem send_reset_overruns :
    (H4Protocol.send 1 [0x03, 0x0c, 0x00] [] [.upTo 4]).map
        (fun t => (t.transmitted, t.read, t.fault)) =
      some ([0x01, 0x03, 0x0c, 0x00], [2, 1, 0, 0, 1], true) ∧
    ∃ t, H4Protocol.send 1 [0x03, 0x0c, 0x00] [] [.upTo 4] = some t ∧
      ¬ TransmitsExactly [[1], [0x03, 0x0c, 0x00]] t := by
  refine ⟨by decide, _, rfl, fun exact => ?_⟩
  exact absurd (exact.inside 2 List.mem_cons_self) (by decide)

end Connectivity.Hci
