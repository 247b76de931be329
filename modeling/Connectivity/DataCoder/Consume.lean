import Connectivity.DataCoder.Coder
import Connectivity.Transition.Run

set_option autoImplicit false

/- What get functions do to buffers of any content: where they read, where they write
and how the offset moves. -/
namespace Connectivity.DataCoder

open Bytes Transition

/-- The offset behind some accesses. -/
def reach : Int → List Access → Int
  | offset, [] => offset
  | offset, .load _ :: rest => reach offset rest
  | offset, .copy _ _ :: rest => reach offset rest
  | offset, .store _ :: rest => reach offset rest
  | _, .moveTo offset :: rest => reach offset rest

/-- Reads stay inside the source, writes stay there too and behind what was consumed,
and the offset moves forward inside the source. -/
def Orderly (srcLen : Int) : Int → List Access → Prop
  | _, [] => True
  | offset, .load index :: rest => (0 ≤ index ∧ index < srcLen) ∧ Orderly srcLen offset rest
  | offset, .copy start count :: rest =>
      (0 ≤ start ∧ start + count ≤ srcLen) ∧ Orderly srcLen offset rest
  | offset, .store index :: rest =>
      (offset ≤ index ∧ index < srcLen) ∧ Orderly srcLen offset rest
  | offset, .moveTo next :: rest =>
      (offset ≤ next ∧ next ≤ srcLen) ∧ Orderly srcLen next rest

/-- A call reads and writes in order, and it changes only what it consumes. -/
structure Safe {α : Type} (get : Get α) (c : Cursor) : Prop where
  orderly : Orderly c.srcLen c.offset (get.call c).accesses
  frame : ∀ index : Nat, index < c.offset ∨ (get.call c).cursor.offset ≤ index →
    (get.call c).cursor.buff[index]? = c.buff[index]?

/-- Whether the offset is inside the source, and the source inside the buffer. -/
structure Cursor.Inside (c : Cursor) : Prop where
  nonneg : 0 ≤ c.offset
  within : c.offset ≤ c.srcLen
  held : c.srcLen ≤ c.buff.length
  int : c.srcLen < 2 ^ 31

theorem reach_append (offset : Int) (first second : List Access) :
    reach offset (first ++ second) = reach (reach offset first) second := by
  induction first generalizing offset with
  | nil => rfl
  | cons access rest ih => cases access <;> exact ih _

theorem orderly_append (srcLen offset : Int) (first second : List Access) :
    Orderly srcLen offset (first ++ second) ↔
      Orderly srcLen offset first ∧ Orderly srcLen (reach offset first) second := by
  induction first generalizing offset with
  | nil => simp [Orderly, reach]
  | cons access rest ih => cases access <;> simp [Orderly, reach, ih, and_assoc]

theorem Orderly.bounds {srcLen offset : Int} {accesses : List Access}
    (orderly : Orderly srcLen offset accesses) (within : offset ≤ srcLen) :
    offset ≤ reach offset accesses ∧ reach offset accesses ≤ srcLen := by
  induction accesses generalizing offset with
  | nil => exact ⟨Int.le_refl _, within⟩
  | cons access rest ih =>
      cases access with
      | moveTo next =>
          have later := ih orderly.2 orderly.1.2
          exact ⟨Int.le_trans orderly.1.1 later.1, later.2⟩
      | _ => exact ih orderly.2 within

/-- What every get function keeps, whatever it is given. -/
structure Traced {α : Type} (get : Get α) : Prop where
  reached (c : Cursor) : reach c.offset (get.call c).accesses = (get.call c).cursor.offset
  srcLen (c : Cursor) : (get.call c).cursor.srcLen = c.srcLen
  length (c : Cursor) : (get.call c).cursor.buff.length = c.buff.length

section Sequencing

variable {α β : Type} {first : Get α} {next : α → Get β} {c : Cursor}

theorem traced_pure (value : α) : Traced (pure value) := ⟨fun _ => rfl, fun _ => rfl, fun _ => rfl⟩

theorem traced_cursor : Traced cursor := ⟨fun _ => rfl, fun _ => rfl, fun _ => rfl⟩

theorem traced_load (index : Int) : Traced (load index) :=
    ⟨fun _ => rfl, fun _ => rfl, fun _ => rfl⟩

theorem traced_store (index : Int) (byte : UInt8) : Traced (store index byte) :=
  ⟨fun _ => rfl, fun _ => rfl, fun _ => List.length_set⟩

theorem traced_moveTo (offset : Int) : Traced (moveTo offset) :=
  ⟨fun _ => rfl, fun _ => rfl, fun _ => rfl⟩

theorem traced_memcpy (start : Int) (len : BitVec 32) : Traced (memcpy start len) :=
  ⟨fun _ => rfl, fun _ => rfl, fun _ => rfl⟩

theorem Traced.bind (before : Traced first) (after : ∀ value, Traced (next value)) :
    Traced (first >>= next) where
  reached c := by
    rw [call_bind, reach_append, before.reached, (after _).reached]
  srcLen c := by rw [call_bind, (after _).srcLen, before.srcLen]
  length c := by rw [call_bind, (after _).length, before.length]

theorem Traced.ite {p : Prop} [Decidable p] {first second : Get α} (yes : Traced first)
    (no : Traced second) : Traced (if p then first else second) := by
  split
  · exact yes
  · exact no

theorem safe_pure (value : α) : Safe (pure value) c := ⟨trivial, fun _ _ => rfl⟩

theorem Safe.bind (traced : Traced first) (later : ∀ value, Traced (next value))
    (within : c.offset ≤ c.srcLen) (before : Safe first c)
    (after : Safe (next (first.call c).value) (first.call c).cursor) :
    Safe (first >>= next) c := by
  have onward := before.orderly.bounds within
  have orderly := after.orderly
  rw [traced.srcLen] at orderly
  have further := orderly.bounds (by rw [← traced.reached]; exact onward.2)
  rw [(later _).reached] at further
  rw [traced.reached] at onward
  refine ⟨?_, fun index outside => ?_⟩
  · rw [call_bind, orderly_append, traced.reached]
    exact ⟨before.orderly, orderly⟩
  · rw [call_bind] at outside ⊢
    simp only at outside ⊢
    rw [after.frame index (by omega), before.frame index (by omega)]

end Sequencing

theorem traced_getByte : Traced getByte :=
  traced_cursor.bind fun _ =>
    ((traced_load _).bind fun _ => (traced_moveTo _).bind fun _ => traced_pure _).ite
      (traced_pure _)

theorem traced_getShort : Traced getShort :=
  traced_getByte.bind fun _ => traced_getByte.bind fun _ => traced_pure _

theorem traced_getInt : Traced getInt :=
  traced_getShort.bind fun _ => traced_getShort.bind fun _ => traced_pure _

theorem traced_getLong : Traced getLong :=
  traced_getInt.bind fun _ => traced_getInt.bind fun _ => traced_pure _

theorem traced_getChars (read : BitVec 32) : Traced (getChars read) := by
  have chars : Traced (cursor >>= fun c =>
      if c.clip read ≤ 0 then pure none
      else store (c.offset + c.clip read - 1) 0 >>= fun _ =>
        moveTo (c.offset + c.clip read) >>= fun _ => pure (some c.offset)) :=
    traced_cursor.bind fun _ => (traced_pure _).ite
      ((traced_store _ _).bind fun _ => (traced_moveTo _).bind fun _ => traced_pure _)
  exact traced_cursor.bind fun _ => ((traced_moveTo _).bind fun _ => chars).ite chars

theorem traced_getString : Traced getString :=
  traced_getByte.bind fun _ => (traced_pure _).ite (traced_getInt.bind traced_getChars)

theorem traced_getString2 : Traced getString2 :=
  traced_getString.bind fun output => by
    cases output with
    | none => exact traced_pure _
    | some output => exact traced_pure _

theorem traced_getData (desLen : Int) (read : BitVec 32) : Traced (getData desLen read) := by
  refine traced_cursor.bind fun c => ?_
  by_cases positive : 0 < (c.clipTo desLen read).toInt
  · simp only [positive, dif_pos]
    exact (traced_memcpy _ _).bind fun _ => (traced_moveTo _).bind fun _ => traced_pure _
  · simp only [positive, dif_neg, not_false_iff]
    exact traced_pure _

theorem traced_getBinary (desLen : Int) : Traced (getBinary desLen) :=
  traced_cursor.bind fun _ => (traced_getInt.bind (traced_getData desLen)).ite (traced_pure _)

/-- The calls of a reader, with the `des_len` of a binary. -/
inductive Request
  | byte
  | short
  | int
  | long
  | float
  | double
  | string
  | string2
  | binary (desLen : BitVec 32)
deriving DecidableEq

def consume : Request → Get Unit
  | .byte => do let _ ← getByte
  | .short => do let _ ← getShort
  | .int => do let _ ← getInt
  | .long => do let _ ← getLong
  | .float => do let _ ← getFloat
  | .double => do let _ ← getDouble
  | .string => do let _ ← getString
  | .string2 => do let _ ← getString2
  | .binary desLen => do let _ ← getBinary desLen.toInt

def step (c : Cursor) (request : Request) : Option Cursor := some ((consume request).call c).cursor

/-- A string that is present has its length and a byte behind it. -/
def RoomyString (c : Cursor) : Prop :=
  c.offset < c.srcLen → c.buff.getD c.offset.toNat 0 ≠ 0 → c.offset + 5 < c.srcLen

def Roomy (c : Cursor) : Request → Prop
  | .string | .string2 => RoomyString c
  | _ => True

theorem traced_consume (request : Request) : Traced (consume request) := by
  cases request with
  | byte => exact traced_getByte.bind fun _ => traced_pure _
  | short => exact traced_getShort.bind fun _ => traced_pure _
  | int => exact traced_getInt.bind fun _ => traced_pure _
  | long => exact traced_getLong.bind fun _ => traced_pure _
  | float => exact traced_getInt.bind fun _ => traced_pure _
  | double => exact traced_getLong.bind fun _ => traced_pure _
  | string => exact traced_getString.bind fun _ => traced_pure _
  | string2 => exact traced_getString2.bind fun _ => traced_pure _
  | binary desLen => exact (traced_getBinary _).bind fun _ => traced_pure _

variable {c : Cursor}

/-- An orderly call leaves the cursor inside. -/
theorem Cursor.Inside.after {α : Type} {get : Get α} (inside : c.Inside) (traced : Traced get)
    (orderly : Orderly c.srcLen c.offset (get.call c).accesses) : (get.call c).cursor.Inside := by
  have onward := orderly.bounds inside.within
  have nonneg := inside.nonneg
  rw [traced.reached] at onward
  constructor
  · omega
  · rw [traced.srcLen]
    exact onward.2
  · rw [traced.srcLen, traced.length]
    exact inside.held
  · rw [traced.srcLen]
    exact inside.int

/-- One call after another, from a cursor inside. -/
theorem Safe.andThen {α β : Type} {first : Get α} {next : α → Get β} (inside : c.Inside)
    (traced : Traced first) (later : ∀ value, Traced (next value)) (before : Safe first c)
    (after : (first.call c).cursor.Inside →
        Safe (next (first.call c).value) (first.call c).cursor) :
    Safe (first >>= next) c :=
  Safe.bind traced later inside.within before (after (inside.after traced before.orderly))

theorem call_getByte (c : Cursor) :
    getByte.call c =
      if 0 ≤ c.offset ∧ c.offset < c.srcLen then
        ⟨c.buff.getD c.offset.toNat 0, { c with offset := c.offset + 1 },
          [.load c.offset, .moveTo (c.offset + 1)]⟩
      else ⟨0, c, []⟩ := by
  by_cases inside : 0 ≤ c.offset ∧ c.offset < c.srcLen
  · simp [getByte, inside]
  · rw [if_neg inside]
    simp only [getByte, call_bind, call_cursor, inside, if_false, call_pure, List.append_nil]

theorem safe_getByte (c : Cursor) : Safe getByte c := by
  by_cases inside : 0 ≤ c.offset ∧ c.offset < c.srcLen
  · constructor
    · rw [call_getByte, if_pos inside]
      exact ⟨inside, ⟨by omega, by omega⟩, trivial⟩
    · intro index _
      rw [call_getByte, if_pos inside]
  · constructor
    · rw [call_getByte, if_neg inside]
      trivial
    · intro index _
      rw [call_getByte, if_neg inside]

theorem safe_getShort (inside : c.Inside) : Safe getShort c :=
  Safe.andThen inside traced_getByte (fun _ => traced_getByte.bind fun _ => traced_pure _)
    (safe_getByte c) fun inside =>
      Safe.andThen inside traced_getByte (fun _ => traced_pure _) (safe_getByte _)
        fun _ => safe_pure _

theorem safe_getInt (inside : c.Inside) : Safe getInt c :=
  Safe.andThen inside traced_getShort (fun _ => traced_getShort.bind fun _ => traced_pure _)
    (safe_getShort inside) fun inside =>
      Safe.andThen inside traced_getShort (fun _ => traced_pure _) (safe_getShort inside)
        fun _ => safe_pure _

theorem safe_getLong (inside : c.Inside) : Safe getLong c :=
  Safe.andThen inside traced_getInt (fun _ => traced_getInt.bind fun _ => traced_pure _)
    (safe_getInt inside) fun inside =>
      Safe.andThen inside traced_getInt (fun _ => traced_pure _) (safe_getInt inside)
        fun _ => safe_pure _

/-- The length that is left of a binary fits its type. -/
theorem clipTo_le (inside : c.Inside) (desLen read : BitVec 32) :
    (c.clipTo desLen.toInt read).toInt ≤ c.srcLen - c.offset := by
  have room : min (c.srcLen - c.offset) desLen.toInt < 2 ^ 31 := by
    have int := inside.int
    have nonneg := inside.nonneg
    omega
  have least : -2 ^ 31 ≤ min (c.srcLen - c.offset) desLen.toInt := by
    have low := BitVec.le_toInt desLen
    have within := inside.within
    omega
  by_cases long : min (c.srcLen - c.offset) desLen.toInt < read.toInt
  · rw [Cursor.clipTo, if_pos long, BitVec.toInt_ofInt, Int.bmod_eq_of_le (by omega) (by omega)]
    omega
  · rw [Cursor.clipTo, if_neg long]
    omega

theorem safe_getData (inside : c.Inside) (desLen read : BitVec 32) :
    Safe (getData desLen.toInt read) c := by
  have room := clipTo_le inside desLen read
  have nonneg := inside.nonneg
  by_cases positive : 0 < (c.clipTo desLen.toInt read).toInt
  · constructor
    · rw [getData_call, dif_pos positive]
      exact ⟨⟨nonneg, by omega⟩, ⟨by omega, by omega⟩, trivial⟩
    · intro index _
      rw [getData_call, dif_pos positive]
  · constructor
    · rw [getData_call, dif_neg positive]
      trivial
    · intro index _
      rw [getData_call, dif_neg positive]

theorem safe_getBinary (inside : c.Inside) (desLen : BitVec 32) :
    Safe (getBinary desLen.toInt) c := by
  have taken := getBinary_inside inside.nonneg inside.within desLen.toInt
  have safe : Safe (getInt >>= getData desLen.toInt) c :=
    Safe.andThen inside traced_getInt (traced_getData _) (safe_getInt inside)
      fun inside => safe_getData inside desLen _
  constructor
  · rw [taken]
    exact safe.orderly
  · rw [taken]
    exact safe.frame

/-- The characters of a string are taken in order exactly where some are left. -/
theorem safe_getChars (inside : c.Inside) (left : c.offset < c.srcLen) (read : BitVec 32) :
    Safe (getChars read) c := by
  have nonneg := inside.nonneg
  by_cases positive : 0 < c.clip read
  · have room : c.clip read ≤ c.srcLen - c.offset := by
      rw [Cursor.clip]
      split <;> omega
    constructor
    · rw [getChars_inside nonneg left positive]
      exact ⟨⟨by omega, by omega⟩, ⟨by omega, by omega⟩, trivial⟩
    · intro index outside
      rw [getChars_inside nonneg left positive] at outside ⊢
      simp only at outside ⊢
      rw [List.getElem?_set_ne (by omega)]
  · constructor
    · rw [getChars_empty nonneg left (by omega)]
      trivial
    · intro index _
      rw [getChars_empty nonneg left (by omega)]

/-- With nothing left the offset goes back to zero. -/
theorem getChars_back (start : 0 < c.offset) (past : c.srcLen ≤ c.offset) (read : BitVec 32) :
    ¬ Orderly c.srcLen c.offset ((getChars read).call c).accesses := by
  intro orderly
  simp [getChars, past, Orderly] at orderly
  omega

theorem getByte_offset (inside : c.Inside) :
    (getByte.call c).cursor.offset = min (c.offset + 1) c.srcLen := by
  have nonneg := inside.nonneg
  have within := inside.within
  rw [call_getByte]
  split
  · simp only
    omega
  · simp only
    omega

theorem getShort_offset (inside : c.Inside) :
    (getShort.call c).cursor.offset = min (c.offset + 2) c.srcLen := by
  have mid := inside.after traced_getByte (safe_getByte c).orderly
  simp only [getShort, call_bind, call_pure, getByte_offset mid, getByte_offset inside,
    traced_getByte.srcLen]
  omega

theorem getInt_offset (inside : c.Inside) :
    (getInt.call c).cursor.offset = min (c.offset + 4) c.srcLen := by
  have mid := inside.after traced_getShort (safe_getShort inside).orderly
  simp only [getInt, call_bind, call_pure, getShort_offset mid, getShort_offset inside,
    traced_getShort.srcLen]
  omega

theorem safe_congr {α β : Type} {get : Get α} {get' : Get β}
    (accesses : (get.call c).accesses = (get'.call c).accesses)
    (after : (get.call c).cursor = (get'.call c).cursor) : Safe get c ↔ Safe get' c := by
  constructor
  · rintro ⟨orderly, frame⟩
    rw [accesses] at orderly
    rw [after] at frame
    exact ⟨orderly, frame⟩
  · rintro ⟨orderly, frame⟩
    rw [← accesses] at orderly
    rw [← after] at frame
    exact ⟨orderly, frame⟩

/-- A string that its first byte says is there. -/
theorem getString_present (nonneg : 0 ≤ c.offset) (left : c.offset < c.srcLen)
    (present : c.buff.getD c.offset.toNat 0 ≠ 0) :
    getString.call c = (getByte >>= fun _ => getInt >>= getChars).call c := by
  have first : (getByte.call c).value = c.buff.getD c.offset.toNat 0 := by
    rw [call_getByte, if_pos ⟨nonneg, left⟩]
  simp only [getString, call_bind, first, present, if_false]

theorem getString_absent (absent : ¬ (c.offset < c.srcLen ∧ c.buff.getD c.offset.toNat 0 ≠ 0)) :
    getString.call c = (getByte >>= fun _ => pure none).call c := by
  have first : (getByte.call c).value = 0 := by
    rw [call_getByte]
    split
    · rename_i inside
      by_contra present
      exact absent ⟨inside.2, present⟩
    · rfl
  simp only [getString, call_bind, first, if_true]

/-- Behind the presence byte and the length. -/
theorem string_offset (inside : c.Inside) (left : c.offset < c.srcLen) :
    (getInt.call (getByte.call c).cursor).cursor.offset = min (c.offset + 5) c.srcLen := by
  have mid := inside.after traced_getByte (safe_getByte c).orderly
  rw [getInt_offset mid, getByte_offset inside, traced_getByte.srcLen]
  omega

/-- `get_string` is orderly exactly if something is left behind the length. -/
theorem safe_getString_iff (inside : c.Inside) : Safe getString c ↔ RoomyString c := by
  by_cases present : c.offset < c.srcLen ∧ c.buff.getD c.offset.toNat 0 ≠ 0
  · have taken := getString_present inside.nonneg present.1 present.2
    have behind := string_offset inside present.1
    have limit : (getInt.call (getByte.call c).cursor).cursor.srcLen = c.srcLen := by
      rw [traced_getInt.srcLen, traced_getByte.srcLen]
    rw [safe_congr (congrArg Got.accesses taken) (congrArg Got.cursor taken)]
    constructor
    · intro safe _ _
      by_contra short
      have orderly := safe.orderly
      simp only [call_bind, orderly_append, traced_getByte.reached, traced_getInt.reached]
        at orderly
      have nonneg := inside.nonneg
      apply getChars_back (c := (getInt.call (getByte.call c).cursor).cursor) (by omega) (by omega)
      rw [limit]
      exact orderly.2.2
    · intro roomy
      have room := roomy present.1 present.2
      exact Safe.andThen inside traced_getByte (fun _ => traced_getInt.bind traced_getChars)
        (safe_getByte c) fun inside =>
          Safe.andThen inside traced_getInt traced_getChars (safe_getInt inside)
            fun inside => safe_getChars inside (by omega) _
  · have taken := getString_absent present
    rw [safe_congr (congrArg Got.accesses taken) (congrArg Got.cursor taken)]
    constructor
    · intro _ left nonzero
      exact absurd ⟨left, nonzero⟩ present
    · intro _
      exact Safe.andThen inside traced_getByte (fun _ => traced_pure _) (safe_getByte c)
        fun _ => safe_pure _

/-- What a call is worth does not matter. -/
theorem safe_discard {α β : Type} {get : Get α} {next : α → Get β}
    (ends : ∀ value, ∃ result, next value = pure result) : Safe (get >>= next) c ↔ Safe get c := by
  obtain ⟨result, same⟩ := ends (get.call c).value
  apply safe_congr
  · simp only [call_bind, same, call_pure, List.append_nil]
  · simp only [call_bind, same, call_pure]

theorem safe_consume_iff (inside : c.Inside) (request : Request) :
    Safe (consume request) c ↔ Roomy c request := by
  have unit : ∀ {α : Type} (get : Get α), Safe (get >>= fun _ => pure ()) c ↔ Safe get c :=
    fun _ => safe_discard fun _ => ⟨(), rfl⟩
  have string2 : Safe getString2 c ↔ Safe getString c :=
    safe_discard fun output => by cases output <;> exact ⟨_, rfl⟩
  cases request with
  | byte => exact (unit getByte).trans (iff_true_intro (safe_getByte c))
  | short => exact (unit getShort).trans (iff_true_intro (safe_getShort inside))
  | int => exact (unit getInt).trans (iff_true_intro (safe_getInt inside))
  | long => exact (unit getLong).trans (iff_true_intro (safe_getLong inside))
  | float => exact (unit getInt).trans (iff_true_intro (safe_getInt inside))
  | double => exact (unit getLong).trans (iff_true_intro (safe_getLong inside))
  | string => exact (unit getString).trans (safe_getString_iff inside)
  | string2 => exact (unit getString2).trans (string2.trans (safe_getString_iff inside))
  | binary desLen =>
      exact (unit (getBinary _)).trans (iff_true_intro (safe_getBinary inside desLen))

/-- Every call of a sequence is orderly exactly if no string that is present ends with
its length. -/
theorem consume_safe_iff (inside : c.Inside) (requests : List Request) :
    StepsMeet step (fun c request => Safe (consume request) c) c requests ↔
      StepsMeet step Roomy c requests := by
  have same : ∀ (c : Cursor) (request : Request), c.Inside →
      (Safe (consume request) c ↔ Roomy c request) :=
    fun _ request inside => safe_consume_iff inside request
  have kept : ∀ (c : Cursor) (request : Request) (next : Cursor), c.Inside → Roomy c request →
      step c request = some next → next.Inside := by
    intro c request next inside roomy taken
    cases taken
    have safe := (same c request inside).mpr roomy
    exact inside.after (traced_consume request) safe.orderly
  exact stepsMeet_congr same kept inside

theorem consume_safe_iff_two :
    StepsMeet step (fun c request => Safe (consume request) c) ⟨[1, 2, 0, 0, 0, 65, 66], 0, 7⟩
        [.string, .int] ↔
      StepsMeet step Roomy ⟨[1, 2, 0, 0, 0, 65, 66], 0, 7⟩ [.string, .int] :=
  consume_safe_iff ⟨by decide, by decide, by decide, by decide⟩ _

/-- A string of which one byte of the length is left: the offset goes back to zero and
the terminator is written over a byte in front of the first one read. -/
theorem not_consume_safe :
    let c : Cursor := ⟨[9, 9, 1, 1], 2, 4⟩
    c.Inside ∧ ¬ StepsMeet step (fun c request => Safe (consume request) c) c [.string] := by
  intro c
  refine ⟨⟨by decide, by decide, by decide, by decide⟩, fun safe => ?_⟩
  have accesses : ((consume .string).call c).accesses =
      [.load 2, .moveTo 3, .load 3, .moveTo 4, .moveTo 0, .store 0, .moveTo 1] := by
    decide
  have orderly := (safe _ rfl).1.orderly
  rw [accesses] at orderly
  simp [Orderly, c] at orderly

end Connectivity.DataCoder
