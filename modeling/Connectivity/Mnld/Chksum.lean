import Connectivity.Bytes.Buffer
import Mathlib.Data.List.TakeWhile

set_option autoImplicit false

/- mnld_uti.c: the checksum behind the commands for the engine. -/
namespace Connectivity.Mnld

open Bytes

/-- `PMTK_MAX_PKT_LENGTH`. -/
def pmtkMaxPktLength : Nat := 256

/-- The string in a buffer. -/
def stringOf (buf : List UInt8) : List UInt8 := buf.takeWhile (· ≠ 0)

/-- The loop over the payload from index `i` on: the checksum and `Size`. -/
def chksumLoop : UInt8 → Nat → List UInt8 → UInt8 × Nat
  | chksum, i, [] => (chksum, i)
  | chksum, i, byte :: rest =>
      if byte ≠ 42 then chksumLoop (chksum ^^^ byte) (i + 1) rest else (chksum, i)

def hexDigit (ch : UInt8) : UInt8 := if 10 ≤ ch then 65 + ch - 10 else 48 + ch

section Command

variable (pBuf : List UInt8)

/-- `strlen` in an `unsigned short`. -/
def textSize : Nat := (stringOf pBuf).length % 65536

/-- `Size`, with six characters to be added. -/
def cutSize : Nat :=
  if pmtkMaxPktLength - 6 < textSize pBuf then pmtkMaxPktLength - 6 else textSize pBuf

/-- `add_chksum`. -/
def addChksum : List UInt8 × Int :=
  if textSize pBuf = 0 then (pBuf, 0)
  else
    let (chksum, size) := chksumLoop 0 1 ((pBuf.take (cutSize pBuf)).drop 1)
    (write pBuf size
      [42, hexDigit ((chksum &&& 0xF0) >>> 4), hexDigit (chksum &&& 0x0F), 13, 10, 0], 1)

end Command

/-- A buffer with a string in it, and with room for six characters behind as much of it as goes into
a packet. -/
structure Destination where
  bytes : List UInt8
  terminated : 0 ∈ bytes
  room : min (stringOf bytes).length (pmtkMaxPktLength - 6) + 6 ≤ bytes.length

/-- A text up to a star behind its first character. -/
def upToStar : List UInt8 → List UInt8
  | [] => []
  | first :: rest => first :: rest.takeWhile (· ≠ 42)

/-- What the checksum is put behind: the text as far as it goes into a packet, up to a star. -/
def checked (text : List UInt8) : List UInt8 :=
  upToStar (text.take (min (text.length % 65536) (pmtkMaxPktLength - 6)))

/-- "0123456789ABCDEF". -/
def upperHex : List UInt8 := [48, 49, 50, 51, 52, 53, 54, 55, 56, 57, 65, 66, 67, 68, 69, 70]

/-- The two hex digits of a byte. -/
def hexPair (byte : UInt8) : List UInt8 :=
  [upperHex.getD (byte.toNat / 16) 0, upperHex.getD (byte.toNat % 16) 0]

def xorOf (bytes : List UInt8) : UInt8 := bytes.foldl (· ^^^ ·) 0

/-- A sentence with its checksum and its line end. -/
def withChksum (front : List UInt8) : List UInt8 :=
  front ++ [42] ++ hexPair (xorOf (front.drop 1)) ++ [13, 10]

section Digits

theorem hexDigit_eq {ch : UInt8} (small : ch.toNat < 16) :
    hexDigit ch = upperHex.getD ch.toNat 0 := by
  have each : ∀ n < 16, hexDigit (UInt8.ofNat n) = upperHex.getD n 0 := by decide
  exact @forall_nibble ch (fun ch n => hexDigit ch = upperHex.getD n 0) each small

theorem hexDigit_low (byte : UInt8) :
    hexDigit (byte &&& 0x0F) = upperHex.getD (byte.toNat % 16) 0 := by
  rw [hexDigit_eq (low_nibble_lt byte), low_nibble]

theorem hexDigit_high (byte : UInt8) :
    hexDigit ((byte &&& 0xF0) >>> 4) = upperHex.getD (byte.toNat / 16) 0 := by
  rw [masked_nibble, hexDigit_eq (low_nibble_lt _), high_nibble]

theorem hexPair_ne_zero (byte : UInt8) : 0 ∉ hexPair byte := by
  have small := UInt8.toNat_lt byte
  have digits : ∀ n < 16, 0 ≠ upperHex.getD n 0 := by decide
  intro inside
  rw [hexPair, List.mem_cons, List.mem_singleton] at inside
  cases inside with
  | inl high => exact digits (byte.toNat / 16) (by omega) high
  | inr low => exact digits (byte.toNat % 16) (by omega) low

end Digits

section Loop

theorem chksumLoop_eq (chksum : UInt8) (i : Nat) (bytes : List UInt8) :
    chksumLoop chksum i bytes =
      ((bytes.takeWhile (· ≠ 42)).foldl (· ^^^ ·) chksum,
        i + (bytes.takeWhile (· ≠ 42)).length) := by
  induction bytes generalizing chksum i with
  | nil => rfl
  | cons byte rest ih =>
      rw [chksumLoop, List.takeWhile_cons]
      by_cases star : byte = 42
      · simp [star]
      · have plain : decide (byte ≠ 42) = true := decide_eq_true star
        rw [if_pos star, ih, plain, if_pos rfl, List.foldl_cons, List.length_cons,
          Nat.add_comm (List.length _) 1, Nat.add_assoc]

/-- Writing the same bytes in the same place again changes nothing. -/
theorem write_write {buf data : List UInt8} {n : Nat} (inside : n ≤ buf.length) :
    write (write buf n data) n data = write buf n data := by
  have front : (buf.take n).length = n := by
    rw [List.length_take]
    omega
  have before : (write buf n data).take n = buf.take n := by
    rw [write, List.append_assoc]
    exact List.take_left' front
  have after : (write buf n data).drop (n + data.length) = buf.drop (n + data.length) := by
    rw [write]
    apply List.drop_left'
    rw [List.length_append, front]
  rw [write, before, after, write]

end Loop

section Sentences

theorem cutSize_eq (buf : List UInt8) :
    cutSize buf = min ((stringOf buf).length % 65536) (pmtkMaxPktLength - 6) := by
  rw [cutSize, textSize]
  split <;> omega

theorem stringOf_plain {buf : List UInt8} {byte : UInt8} (inside : byte ∈ stringOf buf) :
    byte ≠ 0 := by
  have holds := List.mem_takeWhile_imp inside
  exact of_decide_eq_true holds

theorem take_stringOf {buf : List UInt8} {n : Nat} (short : n ≤ (stringOf buf).length) :
    buf.take n = (stringOf buf).take n := by
  have front : stringOf buf = buf.take (stringOf buf).length :=
    List.prefix_iff_eq_take.mp (List.takeWhile_prefix _)
  rw [front, List.take_take, Nat.min_eq_left short]

theorem upToStar_front (cut : List UInt8) : upToStar cut <+: cut := by
  cases cut with
  | nil => exact List.nil_prefix
  | cons first rest => exact List.cons_prefix_cons.mpr ⟨rfl, List.takeWhile_prefix _⟩

/-- A text that has no star, and what stands behind it. -/
theorem upToStar_append {front : List UInt8} (rest : List UInt8) (nonempty : front ≠ [])
    (plain : upToStar front = front) (starred : rest = [] ∨ rest.head? = some 42) :
    upToStar (front ++ rest) = front := by
  cases front with
  | nil => exact absurd rfl nonempty
  | cons first others =>
      have all : others.takeWhile (· ≠ 42) = others := (List.cons.inj plain).2
      have stops : rest.takeWhile (· ≠ 42) = [] := by
        cases rest with
        | nil => rfl
        | cons byte later =>
            have star : byte = 42 := by simpa using starred
            rw [star]
            rfl
      rw [List.cons_append, upToStar, List.takeWhile_append, all, if_pos rfl, stops,
        List.append_nil]

theorem upToStar_upToStar (cut : List UInt8) : upToStar (upToStar cut) = upToStar cut := by
  cases cut with
  | nil => rfl
  | cons first rest =>
      simp [upToStar, List.takeWhile_takeWhile]

variable (text : List UInt8)

theorem checked_front : checked text <+: text :=
  (upToStar_front _).trans (List.take_prefix _ _)

theorem checked_length :
    (checked text).length ≤ min (text.length % 65536) (pmtkMaxPktLength - 6) := by
  have least := (upToStar_front (text.take
    (min (text.length % 65536) (pmtkMaxPktLength - 6)))).length_le
  rw [List.length_take] at least
  exact Nat.le_trans least (Nat.min_le_left _ _)

theorem checked_nonempty (some : text.length % 65536 ≠ 0) : checked text ≠ [] := by
  have packet : pmtkMaxPktLength = 256 := rfl
  cases text with
  | nil => exact absurd rfl some
  | cons first rest =>
      obtain ⟨n, more⟩ : ∃ n, min ((first :: rest).length % 65536) (pmtkMaxPktLength - 6) =
          n + 1 := Nat.exists_eq_add_one.mpr (by omega)
      rw [checked, more, List.take_succ_cons, upToStar]
      exact List.cons_ne_nil _ _

/-- A sentence that has its checksum is checked as far as before. -/
theorem checked_withChksum {front : List UInt8} (nonempty : front ≠ [])
    (plain : upToStar front = front) (short : front.length ≤ pmtkMaxPktLength - 6) :
    checked (withChksum front) = front := by
  have packet : pmtkMaxPktLength = 256 := rfl
  have length : (withChksum front).length = front.length + 5 := by
    simp only [withChksum, hexPair, List.length_append, List.length_cons, List.length_nil]
  have bytes : withChksum front =
      front ++ 42 :: (hexPair (xorOf (front.drop 1)) ++ [13, 10]) := by
    simp only [withChksum, List.append_assoc, List.cons_append, List.nil_append]
  rw [checked, length, bytes, List.take_append, List.take_of_length_le (by omega)]
  apply upToStar_append _ nonempty plain
  cases min ((front.length + 5) % 65536) (pmtkMaxPktLength - 6) - front.length with
  | zero => exact Or.inl rfl
  | succ n => exact Or.inr rfl

end Sentences

section Commands

variable {buf : List UInt8}

/-- What is written, and where. -/
theorem addChksum_eq (some : textSize buf ≠ 0) :
    addChksum buf = (write buf (checked (stringOf buf)).length
      ([42] ++ hexPair (xorOf ((checked (stringOf buf)).drop 1)) ++ [13, 10, 0]), 1) := by
  have short : cutSize buf ≤ (stringOf buf).length := by
    have least := Nat.mod_le (stringOf buf).length 65536
    rw [cutSize_eq]
    omega
  have nonempty := checked_nonempty (stringOf buf) some
  rw [checked, ← cutSize_eq, ← take_stringOf short] at nonempty ⊢
  rw [addChksum, if_neg some]
  cases cut : buf.take (cutSize buf) with
  | nil =>
      rw [cut] at nonempty
      exact absurd rfl nonempty
  | cons first rest =>
      simp only [List.drop_succ_cons, List.drop_zero, chksumLoop_eq, hexDigit_high, hexDigit_low,
        upToStar, List.length_cons, xorOf, hexPair, Nat.add_comm 1]
      rfl

theorem stringOf_withChksum {front rest : List UInt8} (plain : 0 ∉ front) :
    stringOf (withChksum front ++ 0 :: rest) = withChksum front := by
  have none : 0 ∉ withChksum front := by
    simp only [withChksum, List.mem_append, not_or]
    refine ⟨⟨⟨plain, by decide⟩, hexPair_ne_zero _⟩, by decide⟩
  have all : ∀ byte ∈ withChksum front, decide (byte ≠ 0) = true := by
    intro byte inside
    apply decide_eq_true
    intro zero
    exact none (zero ▸ inside)
  rw [stringOf, List.takeWhile_append_of_pos all]
  simp

theorem checked_plain (buf : List UInt8) : 0 ∉ checked (stringOf buf) := by
  intro inside
  exact stringOf_plain ((checked_front (stringOf buf)).subset inside) rfl

/-- The buffer in front of what is written, and behind it. -/
theorem write_checked (data : List UInt8) :
    write buf (checked (stringOf buf)).length data =
      checked (stringOf buf) ++ data ++
        buf.drop ((checked (stringOf buf)).length + data.length) := by
  have front : checked (stringOf buf) <+: buf :=
    (checked_front (stringOf buf)).trans (List.takeWhile_prefix _)
  rw [write, ← List.prefix_iff_eq_take.mp front]

end Commands

/-- A text gets the checksum of what is between its first character and a star or the end of the
packet, in the room that there is; doing it again changes nothing. A text without a length is left
as it is. -/
theorem addChksum_seals (d : Destination) :
    let text := stringOf d.bytes
    let out := addChksum d.bytes
    (text.length % 65536 = 0 → out = (d.bytes, 0)) ∧
      (text.length % 65536 ≠ 0 → out.2 = 1 ∧ stringOf out.1 = withChksum (checked text)) ∧
      out.1.length = d.bytes.length ∧
      out.1.drop ((checked text).length + 6) = d.bytes.drop ((checked text).length + 6) ∧
      (checked text).length + 6 ≤ pmtkMaxPktLength ∧
      (addChksum out.1).1 = out.1 := by
  intro text out
  have packet : pmtkMaxPktLength = 256 := rfl
  have short : (checked text).length ≤ min (text.length % 65536) (pmtkMaxPktLength - 6) :=
    checked_length text
  have least : (checked text).length ≤ min text.length (pmtkMaxPktLength - 6) := by
    have less := Nat.mod_le text.length 65536
    omega
  have room : (checked text).length + 6 ≤ d.bytes.length :=
    Nat.le_trans (Nat.add_le_add_right least 6) d.room
  by_cases none : text.length % 65536 = 0
  · have same : out = (d.bytes, 0) := if_pos none
    rw [same]
    exact ⟨fun _ => rfl, fun some => absurd none some, rfl, rfl, by omega, congrArg Prod.fst same⟩
  · have sealed : out = _ := addChksum_eq none
    have nonempty := checked_nonempty text none
    have plain : upToStar (checked text) = checked text := upToStar_upToStar _
    have bytes : out.1 = withChksum (checked text) ++
        0 :: d.bytes.drop ((checked text).length + 6) := by
      rw [sealed, write_checked]
      simp [withChksum, hexPair, text]
    have string : stringOf out.1 = withChksum (checked text) := by
      rw [bytes]
      exact stringOf_withChksum (checked_plain d.bytes)
    have length : (withChksum (checked text)).length = (checked text).length + 5 := by
      simp only [withChksum, hexPair, List.length_append, List.length_cons, List.length_nil]
    have again : checked (stringOf out.1) = checked text := by
      rw [string, checked_withChksum nonempty plain (by omega)]
    have some : textSize out.1 ≠ 0 := by
      rw [textSize, string, length]
      omega
    refine ⟨fun empty => absurd empty none, fun _ => ⟨?_, string⟩, ?_, ?_, by omega, ?_⟩
    · rw [sealed]
    · rw [bytes, List.length_append, List.length_cons, List.length_drop, length]
      omega
    · have parts : out.1 = (withChksum (checked text) ++ [0]) ++
          d.bytes.drop ((checked text).length + 6) := by
        rw [bytes, List.append_assoc, List.singleton_append]
      rw [parts]
      apply List.drop_left'
      rw [List.length_append, length, List.length_singleton]
    · rw [addChksum_eq some, again, sealed]
      exact write_write (by omega)

/-- The empty text gets nothing. -/
theorem not_addChksum_appends : ¬ ∀ d : Destination,
    stringOf (addChksum d.bytes).1 = withChksum (upToStar (stringOf d.bytes)) := by
  intro all
  have appended := all ⟨.replicate 6 0, by decide, by decide⟩
  exact absurd appended (by decide)

end Connectivity.Mnld
