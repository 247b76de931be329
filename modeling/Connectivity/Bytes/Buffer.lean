import Mathlib.Data.List.Basic

set_option autoImplicit false

/- A buffer that is filled from the front, by copies that each start where the last
one ended. -/
namespace Bytes

/-- `data` copied into `buffer` from `offset` on. -/
def write (buffer : List UInt8) (offset : Nat) (data : List UInt8) : List UInt8 :=
  buffer.take offset ++ data ++ buffer.drop (offset + data.length)

/-- `filled` stands at the front of the buffer. -/
structure Filled (buffer filled : List UInt8) : Prop where
  front : buffer.take filled.length = filled
  inside : filled.length ≤ buffer.length

variable {buffer filled data : List UInt8}

theorem filled_nil (buffer : List UInt8) : Filled buffer [] := ⟨rfl, Nat.zero_le _⟩

theorem write_length (fits : filled.length + data.length ≤ buffer.length) :
    (write buffer filled.length data).length = buffer.length := by
  simp only [write, List.length_append, List.length_take, List.length_drop]
  omega

theorem Filled.write (before : Filled buffer filled)
    (fits : filled.length + data.length ≤ buffer.length) :
    Filled (write buffer filled.length data) (filled ++ data) := by
  refine ⟨?_, ?_⟩
  · rw [Bytes.write, before.front, List.take_left]
  · rw [write_length fits, List.length_append]
    exact fits

/-- A buffer that is full holds what was copied and nothing else. -/
theorem Filled.full (before : Filled buffer filled) (full : filled.length = buffer.length) :
    buffer = filled := by
  rw [← before.front, full, List.take_length]

theorem Filled.getD (before : Filled buffer filled) {index : Nat} (bound : index < filled.length)
    (other : UInt8) : buffer.getD index other = filled.getD index other := by
  have inside := before.inside
  rw [List.getD_eq_getElem?_getD, List.getD_eq_getElem?_getD, ← before.front,
    List.getElem?_take_of_lt bound]

end Bytes

/- A copy that is made in chunks of one size, until there is nothing left or enough has been
copied. -/
namespace Bytes

variable {α : Type}

/-- `copied` is what has been copied before, which is looked at behind each chunk. -/
def copyChunks (size : Nat) (enough : Nat → Bool) : Nat → Nat → List α → List α
  | 0, _, _ => []
  | fuel + 1, copied, rest =>
      let chunk := rest.take size
      if chunk.isEmpty then []
      else if enough (copied + chunk.length) then chunk
      else chunk ++ copyChunks size enough fuel (copied + chunk.length) (rest.drop size)

variable {size : Nat} {enough : Nat → Bool}

theorem copyChunks_nil (fuel copied : Nat) :
    copyChunks size enough fuel copied ([] : List α) = [] := by
  cases fuel with
  | zero => rfl
  | succ fuel => simp [copyChunks]

/-- What is never enough is a copy of all. -/
theorem copyChunks_all (positive : 0 < size) (never : ∀ n, enough n = false) {fuel : Nat}
    {rest : List α} (fits : rest.length ≤ fuel) (copied : Nat) :
    copyChunks size enough fuel copied rest = rest := by
  induction fuel generalizing copied rest with
  | zero =>
      have empty : rest = [] := List.length_eq_zero_iff.mp (Nat.le_zero.mp fits)
      rw [empty]
      rfl
  | succ fuel ih =>
      by_cases empty : rest = []
      · rw [empty, copyChunks_nil]
      · have nonempty : 0 < rest.length := List.length_pos_iff.mpr empty
        have left : (rest.drop size).length ≤ fuel := by
          rw [List.length_drop]
          omega
        have some : (rest.take size).isEmpty = false := by
          rw [List.isEmpty_eq_false_iff, ← List.length_pos_iff, List.length_take]
          omega
        simp only [copyChunks, some, never, Bool.false_eq_true, if_false, ih left,
          List.take_append_drop]

/-- A whole number of chunks is copied exactly. -/
theorem copyChunks_take {limit copied fuel : Nat} {rest : List α} (before : copied < limit)
    (whole : size ∣ limit - copied) (fits : rest.length ≤ fuel) :
    copyChunks size (fun n => limit ≤ n) fuel copied rest = rest.take (limit - copied) := by
  induction fuel generalizing copied rest with
  | zero =>
      have empty : rest = [] := List.length_eq_zero_iff.mp (Nat.le_zero.mp fits)
      rw [empty, List.take_nil]
      rfl
  | succ fuel ih =>
      have chunk : size ≤ limit - copied := Nat.le_of_dvd (by omega) whole
      have positive : 0 < size := Nat.pos_of_dvd_of_pos whole (by omega)
      by_cases empty : rest = []
      · rw [empty, copyChunks_nil, List.take_nil]
      · have nonempty : 0 < rest.length := List.length_pos_iff.mpr empty
        have left : (rest.drop size).length ≤ fuel := by
          rw [List.length_drop]
          omega
        have some : (rest.take size).isEmpty = false := by
          rw [List.isEmpty_eq_false_iff, ← List.length_pos_iff, List.length_take]
          omega
        have length : (rest.take size).length = min size rest.length := List.length_take ..
        simp only [copyChunks, some, Bool.false_eq_true, if_false, decide_eq_true_eq]
        split
        · rename_i last
          -- the last chunk is a full one, as there is no room for less than one
          have exactly : limit - copied = size := by omega
          rw [exactly]
        · rename_i more
          by_cases full : size ≤ rest.length
          · have advanced : (rest.take size).length = size := by omega
            rw [advanced] at more ⊢
            have further : size ∣ limit - (copied + size) := by
              rw [Nat.sub_add_eq]
              exact Nat.dvd_sub whole (Nat.dvd_refl size)
            rw [ih (by omega) further left, Nat.sub_add_eq]
            conv_rhs => rw [show limit - copied = size + (limit - copied - size) by omega,
              List.take_add]
          · rw [List.drop_of_length_le (by omega), copyChunks_nil, List.append_nil,
              List.take_of_length_le (by omega), List.take_of_length_le (by omega)]

end Bytes

/- Reads and writes of objects of known sizes. -/
namespace Bytes

/-- A read or a write of a number of bytes of an object, from an offset on. -/
structure Touch where
  size : Nat
  offset : Nat
  length : Nat
deriving DecidableEq, Repr

def Touch.Inside (t : Touch) : Prop := t.offset + t.length ≤ t.size

instance (t : Touch) : Decidable t.Inside := inferInstanceAs (Decidable (_ ≤ _))

theorem Touch.inside_mk {size offset length : Nat} :
    (Touch.mk size offset length).Inside ↔ offset + length ≤ size := Iff.rfl

/-- All of an object. -/
theorem Touch.inside_whole (size : Nat) : (Touch.mk size 0 size).Inside :=
  Nat.le_of_eq (Nat.zero_add size)

end Bytes

/- Lines that a terminator ends. What follows the last terminator is no line. -/
namespace Bytes

variable {α : Type} [DecidableEq α]

/-- The lines of a list, without their terminators, after the beginning of the first. -/
def lines (terminator : α) : List α → List α → List (List α)
  | _, [] => []
  | line, c :: rest =>
      if c = terminator then line :: lines terminator [] rest
      else lines terminator (line ++ [c]) rest

/-- What follows the last terminator. -/
def unfinished (terminator : α) : List α → List α → List α
  | line, [] => line
  | line, c :: rest =>
      if c = terminator then unfinished terminator [] rest
      else unfinished terminator (line ++ [c]) rest

/-- How many of the last elements in a row satisfy a predicate. -/
def trailing {β : Type} (p : β → Bool) (xs : List β) : Nat := (xs.reverse.takeWhile p).length

theorem trailing_append {β : Type} (p : β → Bool) (xs : List β) (x : β) :
    trailing p (xs ++ [x]) = if p x then trailing p xs + 1 else 0 := by
  rw [trailing, List.reverse_append, List.reverse_singleton, List.singleton_append,
    List.takeWhile_cons]
  split
  next => rfl
  next => rfl

end Bytes

/- The two halves of a byte. -/
namespace Bytes

variable {byte : UInt8}

theorem low_nibble (byte : UInt8) : (byte &&& 0x0F).toNat = byte.toNat % 16 := by
  rw [UInt8.toNat_and]
  exact Nat.and_two_pow_sub_one_eq_mod byte.toNat 4

theorem shifted_nibble (byte : UInt8) : (byte >>> 4).toNat = byte.toNat / 16 := by
  rw [UInt8.toNat_shiftRight, Nat.shiftRight_eq_div_pow]
  rfl

theorem high_nibble (byte : UInt8) : (byte >>> 4 &&& 0x0F).toNat = byte.toNat / 16 := by
  have small := UInt8.toNat_lt byte
  rw [low_nibble, shifted_nibble]
  exact Nat.mod_eq_of_lt (by omega)

/-- It does not matter whether the other half is masked before or after. -/
theorem masked_nibble (byte : UInt8) : (byte &&& 0xF0) >>> 4 = byte >>> 4 &&& 0x0F := by
  have all : ∀ bits : BitVec 8, (bits &&& 0xF0) >>> 4 = bits >>> 4 &&& 0x0F := by decide
  exact congrArg UInt8.ofBitVec (all byte.toBitVec)

/-- What holds of the sixteen values holds of a half. -/
theorem forall_nibble {P : UInt8 → Nat → Prop} (each : ∀ n < 16, P (UInt8.ofNat n) n)
    (small : byte.toNat < 16) : P byte byte.toNat := by
  have found := each byte.toNat small
  rw [UInt8.ofNat_toNat] at found
  exact found

theorem low_nibble_lt (byte : UInt8) : (byte &&& 0x0F).toNat < 16 := by
  rw [low_nibble]
  exact Nat.mod_lt _ (by decide)

end Bytes
