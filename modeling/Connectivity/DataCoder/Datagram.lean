import Connectivity.DataCoder.RoundTrip

set_option autoImplicit false

/- A message that is put together in a cleared buffer, sent up to its offset, and received
in another cleared buffer of the same size. -/
namespace Connectivity.DataCoder

/-- A structure of `size` bytes, as a cast to `char*` sees it. -/
structure Image (size : Nat) where
  bytes : List UInt8
  sized : bytes.length = size
  small : size < 2 ^ 31

/-- A structure as `put_binary` takes it, with its size. -/
def Image.binary {size : Nat} (image : Image size) : Binary where
  len := .ofNat 32 size
  data := image.bytes
  sized := by rw [toInt_ofNat_of_lt image.small, Int.toNat_natCast, image.sized]

theorem Image.binary_len {size : Nat} (image : Image size) : image.binary.len.toInt = size :=
  toInt_ofNat_of_lt image.small

/-- What a function sends that puts the fields into a `char buff[size] = {0}`. -/
def datagram (size : Nat) (fields : List (Field (Option CString))) : List UInt8 :=
  let w := putAll ⟨.replicate size 0, 0⟩ fields
  w.buff.take w.offset

/-- The reader of a `char buff[size] = {0}` that bytes were received in. -/
def received (size : Nat) (bytes : List UInt8) : Cursor :=
  ⟨bytes ++ .replicate (size - bytes.length) 0, 0, size⟩

theorem datagram_eq (size : Nat) (fields : List (Field (Option CString))) :
    datagram size fields = encoding fields := by
  have written : putAll (writing [] (.replicate size 0)) fields =
      writing ([] ++ encoding fields) (.drop (encoding fields).length (.replicate size 0)) :=
    putAll_writing fields
  rw [datagram, show (⟨.replicate size 0, 0⟩ : Writer) = writing [] (.replicate size 0) from rfl,
    written]
  simp [writing]

theorem received_datagram {fields : List (Field (Option CString))} {size : Nat}
    (fits : (encoding fields).length ≤ size) :
    received size (datagram size fields) =
      reading [] (encoding fields ++ .replicate (size - (encoding fields).length) 0) [] := by
  have whole : (encoding fields).length + (size - (encoding fields).length) = size := by omega
  rw [reading, received, datagram_eq]
  simp [whole]

/-- A handler that reads the fields has read them when it is done. -/
theorem handled {α : Type} {handler : Get α} {fields : List (Field (Option CString))}
    {good : List UInt8 → α → Prop} (reads : Reads handler (encoding fields) good) {size : Nat}
    (fits : (encoding fields).length ≤ size) :
    good (handler.call (received size (datagram size fields))).cursor.buff
      (handler.call (received size (datagram size fields))).value := by
  obtain ⟨value, read, holds⟩ := reads []
    (.replicate (size - (encoding fields).length) 0) []
  rw [← received_datagram fits, run, Prod.mk.injEq] at read
  rw [read.1, read.2]
  exact holds

section Parts

variable {fields : List (Field (Option CString))} {size : Nat}

theorem part_length {field : Field (Option CString)} (inside : field ∈ fields) :
    field.bytes.length ≤ (encoding fields).length := by
  have part := (List.sublist_flatten_of_mem (List.mem_map_of_mem inside)
    : field.bytes.Sublist (fields.map Field.bytes).flatten).length_le
  rwa [← List.flatMap_def] at part

/-- A string of a message that fits its buffer has a length that fits an `int`. -/
theorem string_small {s : Option CString} (fits : (encoding fields).length ≤ size)
    (int : size < 2 ^ 31) (inside : .string s ∈ fields) : (stringBytes s).length < 2 ^ 31 := by
  have part := part_length inside
  rw [Field.bytes] at part
  omega

theorem binary_small {value : Binary} (fits : (encoding fields).length ≤ size)
    (inside : .binary value ∈ fields) : value.len.toInt ≤ size := by
  have part := part_length inside
  rw [Field.bytes, List.length_append, value.sized] at part
  omega

end Parts

section Headers

variable (before left beyond : List UInt8)

theorem value_cursor {α : Type} {get : Get α} {bytes : List UInt8} {value : α}
    (reads : ReadsAs get bytes value) :
    (get.call (reading before (bytes ++ left) beyond)).value = value ∧
      (get.call (reading before (bytes ++ left) beyond)).cursor =
        reading (before ++ bytes) left beyond := by
  obtain ⟨_, read, rfl⟩ := reads before left beyond
  rw [run, Prod.mk.injEq] at read
  exact read

theorem getInt_reading (value : BitVec 32) :
    (getInt.call (reading before (intBytes value ++ left) beyond)).value = value ∧
      (getInt.call (reading before (intBytes value ++ left) beyond)).cursor =
        reading (before ++ intBytes value) left beyond :=
  value_cursor before left beyond (reads_getInt value)

/-- The pointer that `get_string` returns is behind the flag and the length. -/
theorem getString_pointer {s : CString} (fits : (stringBytes (some s)).length < 2 ^ 31) :
    (getString.call (reading before (stringBytes (some s) ++ left) beyond)).value =
      some ((before.length + 5 : Nat) : Int) := by
  simp only [stringBytes, List.length_append, List.length_singleton, intBytes_length] at fits
  have small : s.bytes.length + 1 < 2 ^ 31 := by omega
  have bytes : stringBytes (some s) ++ left =
      [1] ++ (intBytes (.ofNat 32 (s.bytes.length + 1)) ++ (s.bytes ++ [0] ++ left)) := by
    simp only [stringBytes, List.append_assoc]
  obtain ⟨flag, flagCursor⟩ := value_cursor before
    (intBytes (.ofNat 32 (s.bytes.length + 1)) ++ (s.bytes ++ [0] ++ left)) beyond
    (reads_getByte 1)
  obtain ⟨len, lenCursor⟩ := getInt_reading (before ++ [1]) (s.bytes ++ [0] ++ left) beyond
    (.ofNat 32 (s.bytes.length + 1))
  have whole := clip_chars s small (before ++ [1] ++ intBytes (.ofNat 32 (s.bytes.length + 1)))
    left beyond
  have inside := chars_inside s (before ++ [1] ++ intBytes (.ofNat 32 (s.bytes.length + 1)))
    left beyond
  have start : (before ++ [1] ++ intBytes (.ofNat 32 (s.bytes.length + 1))).length =
      before.length + 5 := by
    simp only [List.length_append, List.length_singleton, intBytes_length]
  rw [bytes, getString]
  simp only [call_bind, flag, flagCursor, if_neg (by decide : ¬ (1 : UInt8) = 0), len, lenCursor]
  rw [getChars_inside (Int.natCast_nonneg _) inside (by omega)]
  simp only [reading, start]

/-- A binary that is longer than its array is cut. -/
theorem getBinary_cut (value : Binary) {desLen : Nat} (cut : desLen < value.len.toInt) :
    ((getBinary desLen).call
      (reading before (intBytes value.len ++ value.data ++ left) beyond)).value.len =
        .ofNat 32 desLen := by
  have inside : (before.length : Int) ≤
      (before ++ (intBytes value.len ++ (value.data ++ left))).length := by
    rw [List.length_append]
    omega
  obtain ⟨len, cursor⟩ := getInt_reading before (value.data ++ left) beyond value.len
  have room : min ((before ++ intBytes value.len ++ (value.data ++ left)).length -
      (before ++ intBytes value.len).length : Int) desLen = desLen := by
    have sized := value.sized
    simp only [List.length_append, Int.natCast_add]
    omega
  have clipped : (reading (before ++ intBytes value.len) (value.data ++ left) beyond).clipTo
      desLen value.len = .ofNat 32 desLen := by
    rw [Cursor.clipTo]
    simp only [reading, room, cut, if_true, BitVec.ofInt_natCast]
  rw [List.append_assoc, getBinary_inside (Int.natCast_nonneg _) inside]
  simp only [call_bind, len, cursor]
  rw [getData_call]
  split
  · exact clipped
  · exact clipped

end Headers

/-- A handler reaches what stands behind the version and the type, at the body. -/
theorem run_behind_header {α : Type} (next : BitVec 32 → Get α) {version type : BitVec 32}
    {body : List (Field (Option CString))} {size : Nat}
    (fits : (encoding (.int version :: .int type :: body)).length ≤ size) :
    ∃ left, run (getInt >>= fun _ => getInt >>= next)
        (received size (datagram size (.int version :: .int type :: body))) =
      run (next type)
        (reading (intBytes version ++ intBytes type) (encoding body ++ left) []) := by
  have bytes : encoding (.int version :: .int type :: body) =
      intBytes version ++ (intBytes type ++ encoding body) := by
    rw [encoding_cons, encoding_cons]
    rfl
  refine ⟨.replicate (size - (encoding (.int version :: .int type :: body)).length) 0, ?_⟩
  rw [received_datagram fits]
  generalize (List.replicate (size - (encoding (.int version :: .int type :: body)).length) 0
    : List UInt8) = left
  have first := (getInt_reading [] (intBytes type ++ (encoding body ++ left)) [] version).2
  rw [List.nil_append] at first
  obtain ⟨value, cursor⟩ := getInt_reading (intBytes version) (encoding body ++ left) [] type
  rw [bytes, List.append_assoc, List.append_assoc]
  simp only [run, call_bind, first, value, cursor]

/-- Of the buffer and the value that a function leaves, a relation holds. -/
def Ends {α : Type} (get : Get α) (c : Cursor) (good : List UInt8 → α → Prop) : Prop :=
  good (get.call c).cursor.buff (get.call c).value

theorem Reads.ends {α : Type} {get : Get α} {bytes : List UInt8}
    {good : List UInt8 → α → Prop} (reads : Reads get bytes good)
    (before left beyond : List UInt8) :
    Ends get (reading before (bytes ++ left) beyond) good := by
  obtain ⟨value, read, holds⟩ := reads before left beyond
  rw [run, Prod.mk.injEq] at read
  rw [Ends, read.1, read.2]
  exact holds

/-- A handler ends as what stands behind the version and the type does at the body. -/
theorem ends_behind_header {α : Type} {next : BitVec 32 → Get α}
    {good : List UInt8 → α → Prop} {version type : BitVec 32}
    {body : List (Field (Option CString))} {size : Nat}
    (fits : (encoding (.int version :: .int type :: body)).length ≤ size)
    (ends : ∀ left, Ends (next type)
      (reading (intBytes version ++ intBytes type) (encoding body ++ left) []) good) :
    Ends (getInt >>= fun _ => getInt >>= next)
      (received size (datagram size (.int version :: .int type :: body))) good := by
  obtain ⟨left, ran⟩ := run_behind_header next fits
  rw [run, run, Prod.mk.injEq] at ran
  rw [Ends, ran.1, ran.2]
  exact ends left

/-- What a handler does behind the version and the type, it does at the body. -/
theorem value_behind_header {α : Type} (next : BitVec 32 → Get α) {version type : BitVec 32}
    {body : List (Field (Option CString))} {size : Nat}
    (fits : (encoding (.int version :: .int type :: body)).length ≤ size) :
    ∃ before left,
      ((getInt >>= fun _ => getInt >>= next).call
        (received size (datagram size (.int version :: .int type :: body)))).value =
      ((next type).call (reading before (encoding body ++ left) [])).value := by
  obtain ⟨left, ran⟩ := run_behind_header next fits
  exact ⟨intBytes version ++ intBytes type, left, congrArg Prod.fst ran⟩

end Connectivity.DataCoder
