import Mathlib.Data.List.Basic

set_option autoImplicit false

/- A loop that writes all of its bytes again after a signal, and a number of times after EAGAIN. -/
namespace Posix

/-- What `errno` says after a `write` that has not written all; it is an old value if the `write`
has not failed. -/
inductive Errno
  | eintr | eagain | other
deriving DecidableEq, Repr

/-- One `write`: some of the bytes, with the `errno` there is, or an error. -/
inductive Attempt
  | wrote (count : Nat) (errno : Errno)
  | failed (errno : Errno)
deriving DecidableEq, Repr

namespace Attempt

/-- How many bytes of `len` it has written. -/
def count (len : Nat) : Attempt → Nat
  | .wrote count _ => min count len
  | .failed _ => 0

/-- Whether it has written all; an error has not, even if there is nothing to write. -/
def whole (len : Nat) : Attempt → Bool
  | .wrote count _ => len ≤ count
  | .failed _ => false

def errno : Attempt → Errno
  | .wrote _ errno => errno
  | .failed errno => errno

end Attempt

/-- The retries that are left when there is another one. -/
def Errno.again : Errno → Nat → Option Nat
  | .eintr, retry => some retry
  | .eagain, retry + 1 => some retry
  | _, _ => none

/-- What an attempt that has not written all has written. -/
def Attempt.piece (bytes : List UInt8) (attempt : Attempt) : List (List UInt8) :=
  if attempt.count bytes.length = 0 then [] else [bytes.take (attempt.count bytes.length)]

/-- Whether the loop has success, and the pieces that have been written; `none` if it needs more
attempts. -/
def writeLoop (bytes : List UInt8) : Nat → List Attempt → Option (Bool × List (List UInt8))
  | _, [] => none
  | retry, attempt :: rest =>
      if attempt.whole bytes.length then some (true, [bytes])
      else
        match attempt.errno.again retry with
        | none => some (false, attempt.piece bytes)
        | some retry => (writeLoop bytes retry rest).map fun result =>
            (result.1, attempt.piece bytes ++ result.2)

/-- The first attempt that writes anything writes all, and the loop comes to it. -/
def clean (len : Nat) : Nat → List Attempt → Bool
  | _, [] => false
  | retry, attempt :: rest =>
      attempt.whole len ||
        (attempt.count len = 0 && (attempt.errno.again retry).any fun retry => clean len retry rest)

/-- The loop comes to an attempt that does not write all and is not tried again. -/
def givesUp (len : Nat) : Nat → List Attempt → Bool
  | _, [] => false
  | retry, attempt :: rest =>
      !attempt.whole len && (attempt.errno.again retry).all fun retry => givesUp len retry rest

variable {bytes : List UInt8} {retry : Nat} {attempts : List Attempt}
variable {result : Bool × List (List UInt8)}

theorem writeLoop_fails (done : writeLoop bytes retry attempts = some result) :
    result.1 = false ↔ givesUp bytes.length retry attempts = true := by
  induction attempts generalizing retry result with
  | nil => cases done
  | cons attempt rest ih =>
      rw [writeLoop] at done
      rw [givesUp]
      split at done
      · rename_i whole
        cases done
        simp [whole]
      · rename_i part
        split at done
        · rename_i last
          cases done
          simp [part, last]
        · rename_i left again
          obtain ⟨later, looped, same⟩ := Option.map_eq_some_iff.mp done
          cases same
          simp [part, again, ih looped]

/-- A piece is none of all the bytes. -/
theorem Attempt.piece_short {attempt : Attempt} (part : attempt.whole bytes.length = false)
    {piece : List UInt8} (member : piece ∈ attempt.piece bytes) : piece.length < bytes.length := by
  unfold Attempt.piece at member
  split at member
  · cases member
  · rw [List.mem_singleton.mp member, List.length_take]
    cases attempt with
    | wrote count errno =>
        have few : ¬ bytes.length ≤ count := of_decide_eq_false part
        show min (min count bytes.length) bytes.length < bytes.length
        omega
    | failed errno => exact absurd rfl ‹¬ Attempt.count bytes.length (.failed errno) = 0›

/-- All bytes are written in one piece if nothing was written before. -/
theorem writeLoop_exact (done : writeLoop bytes retry attempts = some result) :
    result.2 = [bytes] ↔ clean bytes.length retry attempts = true := by
  induction attempts generalizing retry result with
  | nil => cases done
  | cons attempt rest ih =>
      rw [writeLoop] at done
      rw [clean]
      split at done
      · rename_i whole
        cases done
        simp [whole]
      · rename_i part
        rw [Bool.not_eq_true] at part
        have other : ∀ pieces, attempt.piece bytes ++ pieces = [bytes] →
            attempt.count bytes.length = 0 := by
          intro pieces same
          by_contra some
          have short : (bytes.take (attempt.count bytes.length)).length < bytes.length :=
            Attempt.piece_short part (by simp [Attempt.piece, some])
          rw [Attempt.piece, if_neg some] at same
          rw [(List.cons.inj same).1] at short
          exact absurd short (Nat.lt_irrefl _)
        split at done
        · rename_i last
          cases done
          simp only [part, last, Bool.false_or, Option.any_none, Bool.and_false]
          refine iff_of_false (fun same => ?_) Bool.false_ne_true
          have nothing := other [] (by simpa using same)
          rw [Attempt.piece, if_pos nothing] at same
          cases same
        · rename_i left again
          obtain ⟨later, looped, same⟩ := Option.map_eq_some_iff.mp done
          cases same
          simp only [part, again, Bool.false_or, Option.any_some, Bool.and_eq_true,
            decide_eq_true_eq, ← ih looped]
          constructor
          · intro same
            have nothing := other _ same
            rw [Attempt.piece, if_pos nothing] at same
            exact ⟨nothing, same⟩
          · intro ⟨nothing, same⟩
            rw [Attempt.piece, if_pos nothing]
            exact same

theorem givesUp_of_clean {len : Nat} (cleaned : clean len retry attempts = true) :
    givesUp len retry attempts = false := by
  induction attempts generalizing retry with
  | nil => rfl
  | cons attempt rest ih =>
      rw [clean, Bool.or_eq_true, Bool.and_eq_true] at cleaned
      rw [givesUp]
      cases cleaned with
      | inl whole => simp [whole]
      | inr later =>
          cases again : attempt.errno.again retry with
          | none => simp [again] at later
          | some left =>
              rw [again] at later
              simp [ih later.2]

/-- It is a success when all bytes are written in one piece. -/
theorem success_of_clean (done : writeLoop bytes retry attempts = some result)
    (cleaned : clean bytes.length retry attempts = true) : result.1 = true := by
  by_contra failed
  rw [Bool.not_eq_true, writeLoop_fails done, givesUp_of_clean cleaned] at failed
  cases failed

end Posix
