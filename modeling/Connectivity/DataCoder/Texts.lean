import Connectivity.DataCoder.Consume

set_option autoImplicit false

/- Where the strings are that get functions find in a buffer of any content, and when they
find one. -/
namespace Connectivity.DataCoder

/-- A buffer of the same length that has at least the zeros of the first. -/
structure Cleared (buff after : List UInt8) : Prop where
  length : after.length = buff.length
  zero : ∀ index : Nat, buff[index]? = some 0 → after[index]? = some 0

/-- A string begins in the buffer and ends there. -/
structure TextInside (buff : List UInt8) (pointer : Int) : Prop where
  nonneg : 0 ≤ pointer
  ends : ∃ index : Nat, pointer ≤ index ∧ buff[index]? = some 0

theorem Cleared.refl (buff : List UInt8) : Cleared buff buff := ⟨rfl, fun _ zero => zero⟩

theorem Cleared.trans {first second third : List UInt8} (before : Cleared first second)
    (after : Cleared second third) : Cleared first third :=
  ⟨after.length.trans before.length, fun index zero => after.zero index (before.zero index zero)⟩

theorem cleared_set (buff : List UInt8) (index : Nat) : Cleared buff (buff.set index 0) := by
  refine ⟨List.length_set, fun other zero => ?_⟩
  obtain ⟨inside, _⟩ := List.getElem?_eq_some_iff.mp zero
  by_cases same : index = other
  · rw [same, List.getElem?_set_self inside]
  · rw [List.getElem?_set_ne same, zero]

theorem TextInside.cleared {buff after : List UInt8} {pointer : Int}
    (inside : TextInside buff pointer) (cleared : Cleared buff after) :
    TextInside after pointer := by
  obtain ⟨index, behind, zero⟩ := inside.ends
  exact ⟨inside.nonneg, index, behind, cleared.zero index zero⟩

/-- From any cursor in its buffer, only zeros are written, and in the end the result is
good for the buffer. -/
def Leaves {α : Type} (get : Get α) (good : List UInt8 → α → Prop) : Prop :=
  ∀ c : Cursor, c.srcLen ≤ c.buff.length →
    Cleared c.buff (get.call c).cursor.buff ∧ (get.call c).cursor.srcLen = c.srcLen ∧
      good (get.call c).cursor.buff (get.call c).value

section Rules

variable {α β : Type} {first : Get α} {next : α → Get β} {good : List UInt8 → α → Prop}
  {good' : List UInt8 → β → Prop}

theorem leaves_pure (value : α) (holds : ∀ buff, good buff value) : Leaves (pure value) good :=
  fun c _ => ⟨.refl _, rfl, holds c.buff⟩

theorem Leaves.bind (before : Leaves first good)
    (stable : ∀ buff after value, Cleared buff after → good buff value → good after value)
    (later : ∀ value, Leaves (next value) fun buff got => good buff value → good' buff got) :
    Leaves (first >>= next) good' := by
  intro c held
  obtain ⟨cleared, srcLen, holds⟩ := before c held
  have still : (first.call c).cursor.srcLen ≤ (first.call c).cursor.buff.length := by
    rw [srcLen, cleared.length]
    exact held
  obtain ⟨cleared', srcLen', holds'⟩ := later (first.call c).value _ still
  exact ⟨cleared.trans cleared', srcLen'.trans srcLen,
    holds' (stable _ _ _ cleared' holds)⟩

/-- The same where nothing is asked of the first result. -/
theorem Leaves.andThen (before : Leaves first fun _ _ => True)
    (later : ∀ value, Leaves (next value) good') : Leaves (first >>= next) good' := by
  apply before.bind (fun _ _ _ _ holds => holds)
  intro value c held
  obtain ⟨cleared, srcLen, holds⟩ := later value c held
  exact ⟨cleared, srcLen, fun _ => holds⟩

theorem Leaves.ite {p : Prop} [Decidable p] {first second : Get α} (yes : Leaves first good)
    (no : Leaves second good) : Leaves (if p then first else second) good := by
  split
  · exact yes
  · exact no

end Rules

theorem leaves_cursor : Leaves cursor fun _ _ => True := fun _ _ => ⟨.refl _, rfl, trivial⟩

theorem leaves_getByte : Leaves getByte fun _ _ => True := by
  intro c _
  rw [call_getByte]
  split
  · exact ⟨.refl _, rfl, trivial⟩
  · exact ⟨.refl _, rfl, trivial⟩

theorem leaves_getShort : Leaves getShort fun _ _ => True :=
  leaves_getByte.andThen fun _ => leaves_getByte.andThen fun _ => leaves_pure _ fun _ => trivial

theorem leaves_getInt : Leaves getInt fun _ _ => True :=
  leaves_getShort.andThen fun _ => leaves_getShort.andThen fun _ => leaves_pure _ fun _ => trivial

theorem leaves_getData (desLen : Int) (read : BitVec 32) :
    Leaves (getData desLen read) fun _ _ => True := by
  intro c _
  rw [getData_call]
  split
  · exact ⟨.refl _, rfl, trivial⟩
  · exact ⟨.refl _, rfl, trivial⟩

theorem leaves_getBinary (desLen : Int) : Leaves (getBinary desLen) fun _ _ => True :=
  leaves_cursor.andThen fun _ =>
    (leaves_getInt.andThen fun _ => leaves_getData desLen _).ite (leaves_pure _ fun _ => trivial)

/-- Where the characters of a string are taken from. -/
def charsStart (c : Cursor) : Cursor :=
  if c.offset < 0 ∨ c.srcLen ≤ c.offset then { c with offset := 0 } else c

theorem getChars_call (c : Cursor) (read : BitVec 32) :
    ((getChars read).call c).value =
        (if (charsStart c).clip read ≤ 0 then none else some (charsStart c).offset) ∧
      ((getChars read).call c).cursor =
        if (charsStart c).clip read ≤ 0 then charsStart c
        else { charsStart c with
          buff := c.buff.set ((charsStart c).offset + (charsStart c).clip read - 1).toNat 0
          offset := (charsStart c).offset + (charsStart c).clip read } := by
  by_cases outside : c.offset < 0 ∨ c.srcLen ≤ c.offset
  · by_cases empty : ({ c with offset := 0 } : Cursor).clip read ≤ 0
    · simp [getChars, charsStart, outside, empty]
    · simp [getChars, charsStart, outside, empty]
  · by_cases empty : c.clip read ≤ 0
    · simp [getChars, charsStart, outside, empty]
    · simp [getChars, charsStart, outside, empty]

theorem clip_le (c : Cursor) (read : BitVec 32) : c.clip read ≤ c.srcLen - c.offset := by
  rw [Cursor.clip]
  split <;> omega

theorem leaves_getChars (read : BitVec 32) :
    Leaves (getChars read) fun buff got => ∀ pointer ∈ got, TextInside buff pointer := by
  intro c held
  obtain ⟨value, cursor⟩ := getChars_call c read
  have start : 0 ≤ (charsStart c).offset ∧ (charsStart c).srcLen = c.srcLen ∧
      (charsStart c).buff = c.buff := by
    rw [charsStart]
    split
    · exact ⟨Int.le_refl 0, rfl, rfl⟩
    · exact ⟨by omega, rfl, rfl⟩
  obtain ⟨nonneg, srcLen, buff⟩ := start
  have room := clip_le (charsStart c) read
  rw [value, cursor]
  by_cases empty : (charsStart c).clip read ≤ 0
  · rw [if_pos empty, if_pos empty, buff]
    exact ⟨.refl _, srcLen, fun _ none => by cases none⟩
  · rw [if_neg empty, if_neg empty]
    refine ⟨cleared_set _ _, srcLen, ?_⟩
    intro pointer same
    cases same
    have inside : ((charsStart c).offset + (charsStart c).clip read - 1).toNat <
        c.buff.length := by
      omega
    refine ⟨nonneg, ((charsStart c).offset + (charsStart c).clip read - 1).toNat, by omega, ?_⟩
    exact List.getElem?_set_self inside

/-- A string that is found is inside the buffer and terminated there. -/
theorem leaves_getString :
    Leaves getString fun buff got => ∀ pointer ∈ got, TextInside buff pointer :=
  leaves_getByte.andThen fun _ =>
    (leaves_pure _ fun _ _ none => by cases none).ite
      (leaves_getInt.andThen leaves_getChars)

theorem texts_stable (buff after : List UInt8) (got : Option Int) (cleared : Cleared buff after)
    (inside : ∀ pointer ∈ got, TextInside buff pointer) :
    ∀ pointer ∈ got, TextInside after pointer :=
  fun pointer found => (inside pointer found).cleared cleared

section Ahead

variable {c c' : Cursor}

/-- Two cursors with the same bytes to read. -/
structure SameAhead (c c' : Cursor) : Prop where
  offset : c'.offset = c.offset
  srcLen : c'.srcLen = c.srcLen
  bytes : ∀ index : Nat, c.offset ≤ index → c'.buff.getD index 0 = c.buff.getD index 0

/-- What a get function reads is the same for cursors with the same bytes to read. -/
def ReadsAhead {α : Type} (get : Get α) : Prop :=
  ∀ c c', SameAhead c c' → (get.call c').value = (get.call c).value ∧
    SameAhead (get.call c).cursor (get.call c').cursor

theorem ReadsAhead.bind {α β : Type} {first : Get α} {next : α → Get β}
    (before : ReadsAhead first) (later : ∀ value, ReadsAhead (next value)) :
    ReadsAhead (first >>= next) := by
  intro c c' same
  obtain ⟨value, ahead⟩ := before c c' same
  have after := later (first.call c).value _ _ ahead
  simp only [call_bind, value]
  exact after

theorem readsAhead_pure {α : Type} (value : α) : ReadsAhead (pure value) :=
  fun _ _ same => ⟨rfl, same⟩

theorem readsAhead_getByte : ReadsAhead getByte := by
  intro c c' same
  rw [call_getByte, call_getByte, same.offset, same.srcLen]
  split
  · rename_i inside
    refine ⟨same.bytes c.offset.toNat (by omega), rfl, rfl, fun index behind => ?_⟩
    have later : c.offset + 1 ≤ index := behind
    exact same.bytes index (by omega)
  · exact ⟨rfl, same⟩

theorem readsAhead_getShort : ReadsAhead getShort :=
  readsAhead_getByte.bind fun _ => readsAhead_getByte.bind fun _ => readsAhead_pure _

theorem readsAhead_getInt : ReadsAhead getInt :=
  readsAhead_getShort.bind fun _ => readsAhead_getShort.bind fun _ => readsAhead_pure _

theorem getByte_cursor (inside : c.Inside) :
    (getByte.call c).cursor = { c with offset := min (c.offset + 1) c.srcLen } := by
  have nonneg := inside.nonneg
  have within := inside.within
  rw [call_getByte]
  split
  · rename_i left
    rw [Int.min_eq_left (by omega)]
  · have last : min (c.offset + 1) c.srcLen = c.offset := by omega
    rw [last]

theorem getShort_cursor (inside : c.Inside) :
    (getShort.call c).cursor = { c with offset := min (c.offset + 2) c.srcLen } := by
  have mid := inside.after traced_getByte (safe_getByte c).orderly
  simp only [getShort, call_bind, call_pure, getByte_cursor mid]
  rw [getByte_cursor inside]
  simp only [Cursor.mk.injEq, true_and, and_true]
  omega

theorem getInt_cursor (inside : c.Inside) :
    (getInt.call c).cursor = { c with offset := min (c.offset + 4) c.srcLen } := by
  have mid := inside.after traced_getShort (safe_getShort inside).orderly
  simp only [getInt, call_bind, call_pure, getShort_cursor mid]
  rw [getShort_cursor inside]
  simp only [Cursor.mk.injEq, true_and, and_true]
  omega

/-- A presence byte and a length that is not zero. -/
def Found (c : Cursor) : Prop :=
  c.offset < c.srcLen ∧ c.buff.getD c.offset.toNat 0 ≠ 0 ∧
    (getInt.call { c with offset := c.offset + 1 }).value ≠ 0

theorem Found.iff_ahead (nonneg : 0 ≤ c.offset) (same : SameAhead c c') : Found c' ↔ Found c := by
  have next : SameAhead { c with offset := c.offset + 1 } { c' with offset := c'.offset + 1 } := by
    refine ⟨by rw [same.offset], same.srcLen, fun index behind => ?_⟩
    have later : c.offset + 1 ≤ index := behind
    exact same.bytes index (by omega)
  have read := (readsAhead_getInt _ _ next).1
  rw [same.offset, same.srcLen] at read
  rw [Found, Found, same.offset, same.srcLen, same.bytes _ (by omega), read]

/-- Behind a presence byte and a length there is a string unless the length is zero. -/
theorem getChars_isSome (nonempty : 0 < c.srcLen) (read : BitVec 32) :
    ((getChars read).call c).value.isSome ↔ read ≠ 0 := by
  have start : (charsStart c).offset < (charsStart c).srcLen := by
    rw [charsStart]
    split
    · exact nonempty
    · rename_i inside
      omega
  rw [(getChars_call c read).1]
  by_cases zero : read = 0
  · have empty : (charsStart c).clip read ≤ 0 := by
      have none : read.toInt = 0 := by rw [zero]; rfl
      have clipped : (charsStart c).clip read = 0 := by
        rw [Cursor.clip, none, if_neg (by omega)]
      exact Int.le_of_eq clipped
    rw [if_pos empty]
    exact iff_of_false Bool.false_ne_true (fun nonzero => nonzero zero)
  · have nonzero : read.toInt ≠ 0 := fun same => zero (BitVec.eq_of_toInt_eq same)
    have chars : ¬ (charsStart c).clip read ≤ 0 := by
      rw [Cursor.clip]
      split <;> omega
    rw [if_neg chars]
    exact iff_of_true rfl zero

theorem getString_isSome (inside : c.Inside) :
    (getString.call c).value.isSome ↔ Found c := by
  by_cases present : c.offset < c.srcLen ∧ c.buff.getD c.offset.toNat 0 ≠ 0
  · have nonneg := inside.nonneg
    have first := getByte_cursor inside
    rw [Int.min_eq_left (by omega)] at first
    have chars := getChars_isSome (c := (getInt.call { c with offset := c.offset + 1 }).cursor)
      (by rw [traced_getInt.srcLen]; simp only; omega)
      (getInt.call { c with offset := c.offset + 1 }).value
    rw [getString_present nonneg present.1 present.2]
    simp only [call_bind, first]
    rw [chars, Found]
    exact ⟨fun nonzero => ⟨present.1, present.2, nonzero⟩, fun found => found.2.2⟩
  · rw [getString_absent present]
    constructor
    · intro none
      cases none
    · intro found
      exact absurd ⟨found.1, found.2.1⟩ present

/-- Behind a string that is found. -/
theorem getString_cursor (inside : c.Inside) (found : Found c) (room : c.offset + 5 < c.srcLen) :
    let len := ({ c with offset := c.offset + 5 } : Cursor).clip
      (getInt.call { c with offset := c.offset + 1 }).value
    (getString.call c).cursor =
      { c with
        buff := c.buff.set (c.offset + 5 + len - 1).toNat 0
        offset := c.offset + 5 + len } := by
  have nonneg := inside.nonneg
  have first := getByte_cursor inside
  rw [Int.min_eq_left (by omega)] at first
  have mid : ({ c with offset := c.offset + 1 } : Cursor).Inside :=
    ⟨by simp only; omega, by simp only; omega, inside.held, inside.int⟩
  have second := getInt_cursor mid
  simp only at second
  rw [Int.min_eq_left (by omega)] at second
  have five : c.offset + 1 + 4 = c.offset + 5 := by omega
  rw [five] at second
  intro len
  have chars := (getChars_isSome (c := { c with offset := c.offset + 5 })
    (by simp only; omega) (getInt.call { c with offset := c.offset + 1 }).value).mpr found.2.2
  have start : charsStart { c with offset := c.offset + 5 } =
      { c with offset := c.offset + 5 } := by
    rw [charsStart, if_neg (by simp only; omega)]
  obtain ⟨value, cursor⟩ := getChars_call { c with offset := c.offset + 5 }
    (getInt.call { c with offset := c.offset + 1 }).value
  rw [start] at value cursor
  have positive : ¬ len ≤ 0 := by
    intro empty
    rw [value, if_pos empty] at chars
    cases chars
  rw [getString_present nonneg found.1 found.2.1]
  simp only [call_bind, first, second, cursor]
  rw [if_neg positive]

end Ahead

end Connectivity.DataCoder
