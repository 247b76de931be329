import Connectivity.DataCoder.Coder

set_option autoImplicit false

/- What the put functions append is what the get functions read back. -/
namespace Connectivity.DataCoder

open Bytes

/-- A value as it is encoded, or as it is decoded with texts in place. -/
inductive Field (τ : Type)
  | byte (value : UInt8)
  | short (value : BitVec 16)
  | int (value : BitVec 32)
  | long (value : BitVec 64)
  | float (value : BitVec 32)
  | double (value : BitVec 64)
  | string (value : τ)
  | binary (value : Binary)

def Field.map {τ τ' : Type} (f : τ → τ') : Field τ → Field τ'
  | .byte value => .byte value
  | .short value => .short value
  | .int value => .int value
  | .long value => .long value
  | .float value => .float value
  | .double value => .double value
  | .string value => .string (f value)
  | .binary value => .binary value

/-- The get function for a value, with its `des_len`. -/
inductive Kind
  | byte
  | short
  | int
  | long
  | float
  | double
  | string
  | binary (desLen : Int)

def putField (w : Writer) : Field (Option CString) → Writer
  | .byte value => putByte w value
  | .short value => putShort w value
  | .int value => putInt w value
  | .long value => putLong w value
  | .float value => putFloat w value
  | .double value => putDouble w value
  | .string value => putString w value
  | .binary value => putBinary w value

def putAll (w : Writer) (fields : List (Field (Option CString))) : Writer :=
  fields.foldl putField w

def getField : Kind → Get (Field (Option Int))
  | .byte => do return .byte (← getByte)
  | .short => do return .short (← getShort)
  | .int => do return .int (← getInt)
  | .long => do return .long (← getLong)
  | .float => do return .float (← getFloat)
  | .double => do return .double (← getDouble)
  | .string => do return .string (← getString)
  | .binary desLen => do return .binary (← getBinary desLen)

def getAll : List Kind → Get (List (Field (Option Int)))
  | [] => pure []
  | kind :: kinds => do
      let field ← getField kind
      let fields ← getAll kinds
      return field :: fields

/-- The get function for the value, with room for all of a binary. -/
inductive Kind.Matches : Kind → Field (Option CString) → Prop
  | byte (value : UInt8) : Matches .byte (.byte value)
  | short (value : BitVec 16) : Matches .short (.short value)
  | int (value : BitVec 32) : Matches .int (.int value)
  | long (value : BitVec 64) : Matches .long (.long value)
  | float (value : BitVec 32) : Matches .float (.float value)
  | double (value : BitVec 64) : Matches .double (.double value)
  | string (value : Option CString) : Matches .string (.string value)
  | binary (value : Binary) (desLen : Int) (room : value.len.toInt ≤ desLen) :
      Matches (.binary desLen) (.binary value)

def text (buff : List UInt8) : Option Int → Option CString := Option.map (cString buff)

def shortBytes (value : BitVec 16) : List UInt8 :=
  [.ofBitVec (lowHalf 32 value), .ofBitVec (highHalf 32 value)]

def intBytes (value : BitVec 32) : List UInt8 :=
  shortBytes (lowHalf 32 value) ++ shortBytes (highHalf 32 value)

def longBytes (value : BitVec 64) : List UInt8 :=
  intBytes (lowHalf 64 value) ++ intBytes (highHalf 64 value)

def stringBytes : Option CString → List UInt8
  | none => [0]
  | some s => [1] ++ intBytes (BitVec.ofNat 32 (s.bytes.length + 1)) ++ (s.bytes ++ [0])

def Field.bytes : Field (Option CString) → List UInt8
  | .byte value => [value]
  | .short value => shortBytes value
  | .int value => intBytes value
  | .long value => longBytes value
  | .float value => intBytes value
  | .double value => longBytes value
  | .string value => stringBytes value
  | .binary value => intBytes value.len ++ value.data

def encoding (fields : List (Field (Option CString))) : List UInt8 := fields.flatMap Field.bytes

@[simp] theorem shortBytes_length (value : BitVec 16) : (shortBytes value).length = 2 := rfl

@[simp] theorem intBytes_length (value : BitVec 32) : (intBytes value).length = 4 := rfl

@[simp] theorem longBytes_length (value : BitVec 64) : (longBytes value).length = 8 := rfl

theorem encoding_cons (field : Field (Option CString)) (fields : List (Field (Option CString))) :
    encoding (field :: fields) = field.bytes ++ encoding fields := List.flatMap_cons

theorem Binary.data_nil {value : Binary} (empty : ¬ 0 < value.len.toInt) : value.data = [] := by
  apply List.eq_nil_of_length_eq_zero
  rw [value.sized]
  omega

section Writing

variable {before free : List UInt8}

/-- The writer behind `before`. -/
def writing (before free : List UInt8) : Writer := ⟨before ++ free, before.length⟩

/-- Wherever it writes, the function appends the bytes of its argument. -/
def Puts {α : Type} (put : Writer → α → Writer) (bytes : α → List UInt8) : Prop :=
  ∀ before free value, put (writing before free) value =
    writing (before ++ bytes value) (free.drop (bytes value).length)

theorem Puts.foldl {α : Type} {put : Writer → α → Writer} {bytes : α → List UInt8}
    (puts : Puts put bytes) (before free : List UInt8) (values : List α) :
    values.foldl put (writing before free) =
      writing (before ++ values.flatMap bytes) (free.drop (values.flatMap bytes).length) := by
  induction values generalizing before free with
  | nil =>
      rw [List.flatMap_nil, List.append_nil]
      rfl
  | cons value values ih =>
      rw [List.foldl_cons, puts, ih, List.flatMap_cons, List.append_assoc, List.drop_drop,
        List.length_append]

theorem append_writing (input : List UInt8) :
    (writing before free).append input = writing (before ++ input) (free.drop input.length) := by
  have past : (before ++ free).drop (before.length + input.length) = free.drop input.length := by
    rw [← List.drop_drop, List.drop_left]
  simp only [writing, Writer.append, write, List.take_left, past, List.length_append]

theorem putByte_writing (value : UInt8) :
    putByte (writing before free) value = writing (before ++ [value]) (free.drop 1) :=
  append_writing [value]

theorem putShort_writing (value : BitVec 16) :
    putShort (writing before free) value =
      writing (before ++ shortBytes value) (free.drop 2) := by
  rw [putShort, putByte_writing, putByte_writing, List.append_assoc, List.drop_drop]
  rfl

theorem putInt_writing (value : BitVec 32) :
    putInt (writing before free) value = writing (before ++ intBytes value) (free.drop 4) := by
  rw [putInt, putShort_writing, putShort_writing, List.append_assoc, List.drop_drop]
  rfl

theorem putLong_writing (value : BitVec 64) :
    putLong (writing before free) value = writing (before ++ longBytes value) (free.drop 8) := by
  rw [putLong, putInt_writing, putInt_writing, List.append_assoc, List.drop_drop]
  rfl

theorem putString_writing (value : Option CString) :
    putString (writing before free) value =
      writing (before ++ stringBytes value) (free.drop (stringBytes value).length) := by
  cases value with
  | none => exact putByte_writing 0
  | some s =>
      rw [putString, putByte_writing, putInt_writing, append_writing, stringBytes]
      simp only [List.append_assoc, List.drop_drop, List.length_append, List.length_singleton,
        intBytes_length, Nat.add_assoc]

theorem putBinary_writing (value : Binary) :
    putBinary (writing before free) value =
      writing (before ++ (intBytes value.len ++ value.data))
        (free.drop (4 + value.data.length)) := by
  rw [putBinary, putInt_writing, append_writing]
  by_cases positive : 0 < value.len.toInt
  · rw [if_pos positive, List.append_assoc, List.drop_drop]
  · have empty := Binary.data_nil positive
    simp only [positive, if_false, empty, List.append_nil, List.length_nil, Nat.add_zero]

theorem putField_writing (field : Field (Option CString)) :
    putField (writing before free) field =
      writing (before ++ field.bytes) (free.drop field.bytes.length) := by
  cases field with
  | byte value => exact putByte_writing value
  | short value => exact putShort_writing value
  | int value => exact putInt_writing value
  | long value => exact putLong_writing value
  | float value => exact putInt_writing value
  | double value => exact putLong_writing value
  | string value => exact putString_writing value
  | binary value =>
      rw [Field.bytes, List.length_append, intBytes_length]
      exact putBinary_writing value

theorem putAll_writing (fields : List (Field (Option CString))) :
    putAll (writing before free) fields =
      writing (before ++ encoding fields) (free.drop (encoding fields).length) :=
  Puts.foldl (fun _ _ => putField_writing) before free fields

end Writing

section Reading

variable {before left beyond : List UInt8}

/-- What a get function returns and the cursor that it leaves. -/
def run {α : Type} (get : Get α) (c : Cursor) : α × Cursor :=
  ((get.call c).value, (get.call c).cursor)

/-- The reader behind `before`, with `left` to read. -/
def reading (before left beyond : List UInt8) : Cursor where
  buff := before ++ left ++ beyond
  offset := before.length
  srcLen := (before ++ left).length

/-- Wherever the bytes stand, the function reads them and no more, and leaves the
buffer as it is; of the buffer and its result a relation holds. -/
def Reads {α : Type} (get : Get α) (bytes : List UInt8) (good : List UInt8 → α → Prop) : Prop :=
  ∀ before left beyond, ∃ value,
    run get (reading before (bytes ++ left) beyond) =
      (value, reading (before ++ bytes) left beyond) ∧
    good (before ++ bytes ++ left ++ beyond) value

/-- The same for a function that returns what was encoded. -/
abbrev ReadsAs {α : Type} (get : Get α) (bytes : List UInt8) (value : α) : Prop :=
  Reads get bytes fun _ got => got = value

variable {α β : Type} {get : Get α} {next : α → Get β} {bytes later : List UInt8}

theorem reads_pure {good : List UInt8 → α → Prop} (value : α) (holds : ∀ buff, good buff value) :
    Reads (pure value) [] good := by
  intro before left beyond
  exact ⟨value, by rw [List.append_nil]; rfl, holds _⟩

theorem Reads.bind {good : List UInt8 → α → Prop} {good' : List UInt8 → β → Prop}
    (first : Reads get bytes good)
    (continues : ∀ value, (∃ buff, good buff value) →
      Reads (next value) later fun buff got => good buff value → good' buff got) :
    Reads (get >>= next) (bytes ++ later) good' := by
  intro before left beyond
  obtain ⟨value, read, holds⟩ := first before (later ++ left) beyond
  obtain ⟨value', read', holds'⟩ := continues value ⟨_, holds⟩ (before ++ bytes) left beyond
  refine ⟨value', ?_, ?_⟩
  · have split : run (get >>= next) (reading before (bytes ++ (later ++ left)) beyond) =
        run (next (run get (reading before (bytes ++ (later ++ left)) beyond)).1)
          (run get (reading before (bytes ++ (later ++ left)) beyond)).2 := rfl
    rw [List.append_assoc, ← List.append_assoc before bytes later, ← read', split, read]
  · have same : before ++ bytes ++ later ++ left ++ beyond =
        before ++ bytes ++ (later ++ left) ++ beyond := by
      simp only [List.append_assoc]
    rw [← List.append_assoc before bytes later]
    exact holds' (by rw [same]; exact holds)

theorem ReadsAs.bind {good : List UInt8 → β → Prop} {value : α}
    (first : ReadsAs get bytes value) (continues : Reads (next value) later good) :
    Reads (get >>= next) (bytes ++ later) good := by
  apply Reads.bind first
  rintro got ⟨_, rfl⟩ before left beyond
  obtain ⟨value', read, holds⟩ := continues before left beyond
  exact ⟨value', read, fun _ => holds⟩

theorem Reads.map {good : List UInt8 → α → Prop} {good' : List UInt8 → β → Prop} {f : α → β}
    (first : Reads get bytes good) (kept : ∀ buff value, good buff value → good' buff (f value)) :
    Reads (get >>= fun value => pure (f value)) bytes good' := by
  intro before left beyond
  obtain ⟨value, read, holds⟩ := first before left beyond
  refine ⟨f value, ?_, kept _ value holds⟩
  have split : run (get >>= fun value => pure (f value)) (reading before (bytes ++ left) beyond) =
      (f (run get (reading before (bytes ++ left) beyond)).1,
        (run get (reading before (bytes ++ left) beyond)).2) := rfl
  rw [split, read]

theorem ReadsAs.map {f : α → β} {value : α} {whole : β} (first : ReadsAs get bytes value)
    (same : f value = whole) : ReadsAs (get >>= fun value => pure (f value)) bytes whole :=
  Reads.map first fun _ _ got => got ▸ same

theorem reads_getByte (value : UInt8) : ReadsAs getByte [value] value := by
  intro before left beyond
  have inside : (before.length : Int) < before.length + (left.length + 1) := by omega
  exact ⟨value, by simp [run, reading, getByte, inside], rfl⟩

theorem reads_getShort (value : BitVec 16) : ReadsAs getShort (shortBytes value) value := by
  have whole : joined 32 (lowHalf 32 value : BitVec 8) (highHalf 32 value) = value :=
    joined_halves value rfl (by decide)
  exact (reads_getByte _).bind ((reads_getByte _).map whole)

theorem reads_getInt (value : BitVec 32) : ReadsAs getInt (intBytes value) value := by
  have whole : joined 32 (lowHalf 32 value : BitVec 16) (highHalf 32 value) = value :=
    joined_halves value rfl (by decide)
  exact (reads_getShort _).bind ((reads_getShort _).map whole)

theorem reads_getLong (value : BitVec 64) : ReadsAs getLong (longBytes value) value := by
  have whole : joined 64 (lowHalf 64 value : BitVec 32) (highHalf 64 value) = value :=
    joined_halves value rfl (by decide)
  exact (reads_getInt _).bind ((reads_getInt _).map whole)

/-- `text` finds the string again wherever it stands. -/
theorem cString_inside (s : CString) (before after : List UInt8) :
    cString (before ++ (s.bytes ++ 0 :: after)) before.length = s := by
  have chars : (s.bytes ++ 0 :: after).takeWhile (· ≠ 0) = s.bytes := by
    rw [List.takeWhile_append_of_pos fun byte inside => ?_, List.takeWhile_cons_of_neg (by simp),
      List.append_nil]
    exact decide_eq_true fun zero : byte = 0 => s.noNul (zero ▸ inside)
  rcases s with ⟨bytes, noNul⟩
  simp only [cString, Int.toNat_natCast, List.drop_left, chars]

theorem toInt_ofNat_of_lt {n : Nat} (small : n < 2 ^ 31) : (BitVec.ofNat 32 n).toInt = n := by
  rw [BitVec.toInt_eq_toNat_cond, BitVec.toNat_ofNat, Nat.mod_eq_of_lt (by omega),
    if_pos (by omega)]

/-- The characters of a string that stand where they are read. -/
theorem clip_chars (s : CString) (small : s.bytes.length + 1 < 2 ^ 31)
    (before left beyond : List UInt8) :
    (reading before (s.bytes ++ [0] ++ left) beyond).clip
      (BitVec.ofNat 32 (s.bytes.length + 1)) = (s.bytes.length + 1 : Nat) := by
  have len := toInt_ofNat_of_lt small
  rw [Cursor.clip, len, if_neg]
  simp only [reading, List.length_append, List.length_singleton]
  omega

theorem chars_inside (s : CString) (before left beyond : List UInt8) :
    (reading before (s.bytes ++ [0] ++ left) beyond).offset <
      (reading before (s.bytes ++ [0] ++ left) beyond).srcLen := by
  simp only [reading, List.length_append, List.length_singleton]
  omega

theorem reads_getChars (s : CString) (small : s.bytes.length + 1 < 2 ^ 31) :
    Reads (getChars (BitVec.ofNat 32 (s.bytes.length + 1))) (s.bytes ++ [0])
      fun buff got => text buff got = some s := by
  intro before left beyond
  have whole := clip_chars s small before left beyond
  have inside := chars_inside s before left beyond
  have last : (before.length + (s.bytes.length + 1 : Nat) - 1 : Int).toNat =
      (before ++ s.bytes).length := by
    rw [List.length_append]
    omega
  -- the terminator is written over the terminator
  have same : (before ++ (s.bytes ++ [0] ++ left) ++ beyond).set (before ++ s.bytes).length 0 =
      before ++ (s.bytes ++ [0]) ++ left ++ beyond := by
    have grouped : before ++ (s.bytes ++ [0] ++ left) ++ beyond =
        (before ++ s.bytes) ++ 0 :: (left ++ beyond) := by
      simp only [List.append_assoc, List.cons_append, List.nil_append]
    rw [grouped, List.set_append_right _ _ (Nat.le_refl _), Nat.sub_self, List.set_cons_zero,
      ← grouped]
    simp only [List.append_assoc]
  refine ⟨some before.length, ?_, ?_⟩
  · rw [run, getChars_inside (Int.natCast_nonneg _) inside (by omega), whole]
    simp only [reading]
    rw [last, same, Prod.mk.injEq, Cursor.mk.injEq]
    refine ⟨rfl, rfl, ?_, ?_⟩
    · simp only [List.length_append, List.length_singleton, Int.natCast_add]
    · simp only [List.append_assoc]
  · have found := cString_inside s before (left ++ beyond)
    simp only [text, Option.map_some, List.append_assoc, List.cons_append, List.nil_append, found]

theorem reads_getString (value : Option CString) (fits : (stringBytes value).length < 2 ^ 31) :
    Reads getString (stringBytes value) fun buff got => text buff got = value := by
  cases value with
  | none =>
      have empty : Reads (pure none) [] fun buff got => text buff got = none :=
        reads_pure _ fun _ => rfl
      exact (reads_getByte 0).bind empty
  | some s =>
      simp only [stringBytes, List.length_append, List.length_singleton, intBytes_length] at fits
      rw [stringBytes, List.append_assoc]
      exact (reads_getByte 1).bind ((reads_getInt _).bind (reads_getChars s (by omega)))

/-- A last string is found behind the pointer that goes into the value. -/
theorem reads_string_last {β : Type} {good : List UInt8 → β → Prop} {call : Option Int → β}
    {s : Option CString} (fits : (stringBytes s).length < 2 ^ 31)
    (holds : ∀ buff pointer, text buff pointer = s → good buff (call pointer)) :
    Reads (getString >>= fun pointer => pure (call pointer)) (stringBytes s ++ []) good := by
  apply (reads_getString s fits).bind
  intro pointer _
  apply reads_pure
  intro buff found
  exact holds buff pointer found

theorem reads_getData (value : Binary) {desLen : Int} (room : value.len.toInt ≤ desLen) :
    ReadsAs (getData desLen value.len) value.data value := by
  intro before left beyond
  have whole : (reading before (value.data ++ left) beyond).clipTo desLen value.len =
      value.len := by
    have sized := value.sized
    rw [Cursor.clipTo, if_neg]
    simp only [reading, List.length_append]
    omega
  refine ⟨value, ?_, rfl⟩
  rw [run, getData_call]
  simp only [whole]
  by_cases positive : 0 < value.len.toInt
  · have copied := window_middle before value.data (left ++ beyond)
    rw [value.sized] at copied
    have past : (before.length : Int) + value.len.toInt = (before ++ value.data).length := by
      rw [List.length_append, value.sized]
      omega
    rcases value with ⟨len, data, sized⟩
    simp only [positive, dif_pos, reading, Int.toNat_natCast, List.append_assoc, copied, past]
  · have empty := Binary.data_nil positive
    rcases value with ⟨len, data, sized⟩
    subst empty
    simp [positive, reading]

theorem reads_getBinary (value : Binary) {desLen : Int} (room : value.len.toInt ≤ desLen) :
    ReadsAs (getBinary desLen) (intBytes value.len ++ value.data) value := by
  intro before left beyond
  have inside : (before.length : Int) ≤
      (before ++ (intBytes value.len ++ value.data ++ left)).length := by
    rw [List.length_append]
    omega
  obtain ⟨got, read, same⟩ :=
    (reads_getInt value.len).bind (reads_getData value room) before left beyond
  rw [run, ← getBinary_inside (Int.natCast_nonneg _) inside] at read
  exact ⟨got, read, same⟩

theorem reads_getField {kind : Kind} {field : Field (Option CString)}
    (matching : kind.Matches field) (fits : field.bytes.length < 2 ^ 31) :
    Reads (getField kind) field.bytes fun buff got => got.map (text buff) = field := by
  cases matching with
  | byte value => exact Reads.map (reads_getByte value) fun _ _ same => congrArg Field.byte same
  | short value => exact Reads.map (reads_getShort value) fun _ _ same => congrArg Field.short same
  | int value => exact Reads.map (reads_getInt value) fun _ _ same => congrArg Field.int same
  | long value => exact Reads.map (reads_getLong value) fun _ _ same => congrArg Field.long same
  | float value => exact Reads.map (reads_getInt value) fun _ _ same => congrArg Field.float same
  | double value => exact Reads.map (reads_getLong value) fun _ _ same => congrArg Field.double same
  | string value =>
      exact (reads_getString value fits).map fun _ _ same => congrArg Field.string same
  | binary value desLen room =>
      exact Reads.map (reads_getBinary value room) fun _ _ same => congrArg Field.binary same

theorem reads_getAll {kinds : List Kind} {fields : List (Field (Option CString))}
    (matching : List.Forall₂ Kind.Matches kinds fields)
    (fits : (encoding fields).length < 2 ^ 31) :
    Reads (getAll kinds) (encoding fields)
      fun buff got => got.map (Field.map (text buff)) = fields := by
  induction matching with
  | nil => exact reads_pure _ fun _ => rfl
  | @cons kind field kinds fields matching _ ih =>
      rw [encoding_cons, List.length_append] at fits
      rw [encoding_cons]
      apply (reads_getField matching (by omega)).bind
      intro first _
      apply (ih (by omega)).map
      intro buff rest later now
      rw [List.map_cons, now, later]

end Reading

section Offsets

variable (w : Writer)

@[simp] theorem append_offset (input : List UInt8) :
    (w.append input).offset = w.offset + input.length := rfl

@[simp] theorem putByte_offset (value : UInt8) : (putByte w value).offset = w.offset + 1 := rfl

@[simp] theorem putShort_offset (value : BitVec 16) :
    (putShort w value).offset = w.offset + 2 := rfl

@[simp] theorem putInt_offset (value : BitVec 32) : (putInt w value).offset = w.offset + 4 := by
  simp only [putInt, putShort_offset]

@[simp] theorem putLong_offset (value : BitVec 64) :
    (putLong w value).offset = w.offset + 8 := by
  simp only [putLong, putInt_offset]

end Offsets

theorem putField_offset (w : Writer) (field : Field (Option CString)) :
    (putField w field).offset = w.offset + field.bytes.length := by
  cases field with
  | byte value => exact putByte_offset w value
  | short value => exact putShort_offset w value
  | int value => exact putInt_offset w value
  | long value => exact putLong_offset w value
  | float value => exact putInt_offset w value
  | double value => exact putLong_offset w value
  | string value =>
      cases value with
      | none => exact putByte_offset w 0
      | some s =>
          simp only [putField, putString, append_offset, putInt_offset, putByte_offset,
            Field.bytes, stringBytes, List.length_append, List.length_singleton, intBytes_length]
          omega
  | binary value =>
      rw [putField, putBinary, Field.bytes, List.length_append, intBytes_length]
      by_cases positive : 0 < value.len.toInt
      · rw [if_pos positive, append_offset, putInt_offset, Nat.add_assoc]
      · rw [if_neg positive, putInt_offset, Binary.data_nil positive, List.length_nil,
          Nat.add_zero]

theorem putAll_offset (w : Writer) (fields : List (Field (Option CString))) :
    (putAll w fields).offset = w.offset + (encoding fields).length := by
  induction fields generalizing w with
  | nil => rfl
  | cons field fields ih =>
      rw [putAll, List.foldl_cons, ← putAll, ih, putField_offset, encoding_cons,
        List.length_append, Nat.add_assoc]

theorem exists_writing {w : Writer} (inside : w.offset ≤ w.buff.length) :
    ∃ before free, w = writing before free := by
  refine ⟨w.buff.take w.offset, w.buff.drop w.offset, ?_⟩
  rw [writing, List.take_append_drop, List.length_take, Nat.min_eq_left inside]

/-- A reader of what was written that may go `count` bytes further. -/
theorem reading_written (before bytes : List UInt8) {free : List UInt8} {count : Nat}
    (inside : count ≤ free.length) :
    reading before (bytes ++ free.take count) (free.drop count) =
      ⟨(writing (before ++ bytes) free).buff, before.length,
        (before.length + bytes.length + count : Nat)⟩ := by
  have buff : before ++ (bytes ++ free.take count) ++ free.drop count =
      before ++ bytes ++ free := by
    simp only [List.append_assoc, List.take_append_drop]
  have srcLen : (before ++ (bytes ++ free.take count)).length =
      before.length + bytes.length + count := by
    rw [List.length_append, List.length_append, List.length_take, Nat.min_eq_left inside,
      Nat.add_assoc]
  rw [reading, buff, srcLen]
  rfl

/-- Whatever the put functions write from some offset on, the matching get functions
read from there, and the offsets agree at the end. -/
theorem getAll_putAll {kinds : List Kind} {fields : List (Field (Option CString))}
    (matching : List.Forall₂ Kind.Matches kinds fields) (w : Writer) (srcLen : Nat)
    (fits : (putAll w fields).offset ≤ srcLen) (inside : srcLen ≤ w.buff.length)
    (int : srcLen < 2 ^ 31) :
    let written := putAll w fields
    let got := (getAll kinds).call ⟨written.buff, w.offset, srcLen⟩
    got.value.map (Field.map (text got.cursor.buff)) = fields ∧
      got.cursor.offset = written.offset := by
  rw [putAll_offset] at fits
  obtain ⟨before, free, rfl⟩ := exists_writing (w := w) (by omega)
  have start : (writing before free).offset = before.length := rfl
  have size : (writing before free).buff.length = before.length + free.length :=
    List.length_append
  rw [start] at fits
  rw [size] at inside
  have further : srcLen - before.length - (encoding fields).length ≤
      (free.drop (encoding fields).length).length := by
    rw [List.length_drop]
    omega
  have reader := reading_written before (encoding fields) further
  have limit : before.length + (encoding fields).length +
      (srcLen - before.length - (encoding fields).length) = srcLen := by
    omega
  rw [limit] at reader
  obtain ⟨got, read, same⟩ := reads_getAll matching (by omega) before _ _
  rw [reader, run, Prod.mk.injEq] at read
  simp only [putAll_writing, start, read.1, read.2]
  exact ⟨same, rfl⟩

theorem getAll_putAll_seven :
    let fields : List (Field (Option CString)) :=
      [.byte 200, .short (-2), .int (-70000), .long (-5), .string none,
        .string (some ⟨[72, 105], by decide⟩), .binary ⟨2, [0, 255], rfl⟩]
    let w : Writer := ⟨List.replicate 40 7, 3⟩
    let written := putAll w fields
    let got := (getAll [.byte, .short, .int, .long, .string, .string, .binary 8]).call
      ⟨written.buff, w.offset, (36 : Nat)⟩
    got.value.map (Field.map (text got.cursor.buff)) = fields ∧
      got.cursor.offset = written.offset :=
  getAll_putAll
    (.cons (.byte _) (.cons (.short _) (.cons (.int _) (.cons (.long _) (.cons (.string _)
      (.cons (.string _) (.cons (.binary _ _ (by decide)) .nil)))))))
    ⟨List.replicate 40 7, 3⟩ 36 (by decide) (by decide) (by decide)

end Connectivity.DataCoder
