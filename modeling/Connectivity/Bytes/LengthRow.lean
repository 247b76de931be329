import Mathlib.Data.List.Basic

set_option autoImplicit false

/- Blocks that each stand behind a byte with their length, one behind the other up to a zero
byte. -/
namespace Bytes

/-- What is found at an index from the beginning of an object on, `behind` it too. -/
def around (object : List UInt8) (behind : Nat → UInt8) (index : Nat) : UInt8 :=
  object.getD index (behind index)

/-- A block that a byte can say the length of and that is no end mark. -/
structure Block where
  body : List UInt8
  nonempty : 0 < body.length
  small : body.length < 256

def Block.encode (block : Block) : List UInt8 := UInt8.ofNat block.body.length :: block.body

/-- Going from length byte to length byte one comes to a zero, at an index of which `End` holds. -/
inductive Row (memory : Nat → UInt8) (End : Nat → Prop) : Nat → Prop
  | stop {start : Nat} (zero : memory start = 0) (here : End start) : Row memory End start
  | block {start : Nat} (nonzero : memory start ≠ 0)
      (later : Row memory End (start + ((memory start).toNat + 1))) : Row memory End start

variable {object body rest : List UInt8} {behind : Nat → UInt8} {memory : Nat → UInt8}
  {End : Nat → Prop} {start index : Nat}

theorem around_inside (bound : index < object.length) :
    around object behind index = object[index] := by
  rw [around, List.getD_eq_getElem?_getD, List.getElem?_eq_getElem bound, Option.getD_some]

theorem around_of_drop {byte : UInt8} (there : object.drop start = byte :: rest) :
    around object behind start = byte := by
  have found : object[start]? = some byte := by
    rw [← List.head?_drop, there, List.head?_cons]
  rw [around, List.getD_eq_getElem?_getD, found, Option.getD_some]

theorem length_of_drop (there : object.drop start = body ++ rest) (some : 0 < body.length) :
    start + body.length ≤ object.length := by
  have count := congrArg List.length there
  rw [List.length_drop, List.length_append] at count
  omega

theorem Block.length_toNat (block : Block) :
    (UInt8.ofNat block.body.length).toNat = block.body.length := by
  rw [UInt8.toNat_ofNat']
  exact Nat.mod_eq_of_lt block.small

theorem Block.length_ne_zero (block : Block) : UInt8.ofNat block.body.length ≠ 0 := by
  intro zero
  have count := block.length_toNat
  rw [zero] at count
  exact absurd count (Nat.ne_of_lt block.nonempty)

/-- Where a block stands, the walk goes on behind it. -/
theorem Row.encode_iff (block : Block) (there : object.drop start = block.encode ++ rest) :
    Row (around object behind) End start ↔
      Row (around object behind) End (start + (block.body.length + 1)) := by
  have byte : around object behind start = UInt8.ofNat block.body.length := around_of_drop there
  constructor
  · intro row
    cases row with
    | stop zero here => exact absurd (byte.symm.trans zero) block.length_ne_zero
    | block nonzero later =>
        rw [byte, block.length_toNat] at later
        exact later
  · intro later
    refine .block (fun zero => block.length_ne_zero (byte.symm.trans zero)) ?_
    rw [byte, block.length_toNat]
    exact later

theorem row_of_blocks (blocks : List Block)
    (there : object.drop start = blocks.flatMap Block.encode ++ 0 :: rest) :
    Row (around object behind) (· < object.length) start := by
  induction blocks generalizing start with
  | nil =>
      refine .stop (around_of_drop there) ?_
      exact @length_of_drop _ [0] _ _ there Nat.zero_lt_one
  | cons block later ih =>
      rw [List.flatMap_cons, List.append_assoc] at there
      refine (Row.encode_iff block there).mpr (ih ?_)
      have length : block.encode.length = block.body.length + 1 := List.length_cons
      rw [← length, ← List.drop_drop, there, List.drop_left]

theorem Block.encode_of_length (block : Block) {byte : UInt8}
    (length : block.body.length = byte.toNat) : block.encode = byte :: block.body := by
  rw [Block.encode, length, UInt8.ofNat_toNat]

/-- A length byte and as many bytes behind it are a block. -/
theorem exists_block (nonzero : around object behind start ≠ 0)
    (whole : start + ((around object behind start).toNat + 1) ≤ object.length) :
    ∃ block : Block, object.drop start =
      block.encode ++ object.drop (start + ((around object behind start).toNat + 1)) := by
  have inside : start < object.length := by omega
  rw [around_inside inside] at nonzero whole ⊢
  have positive : 0 < object[start].toNat := by
    refine Nat.pos_of_ne_zero fun zero => nonzero (UInt8.toNat_inj.mp zero)
  have length : ((object.drop (start + 1)).take object[start].toNat).length =
      object[start].toNat := by
    rw [List.length_take, List.length_drop]
    omega
  refine ⟨⟨_, length.symm ▸ positive, length.symm ▸ UInt8.toNat_lt _⟩, ?_⟩
  rw [Block.encode_of_length _ length, List.drop_eq_getElem_cons inside, List.cons_append]
  have behindIt : object.drop (start + (object[start].toNat + 1)) =
      (object.drop (start + 1)).drop object[start].toNat := by
    rw [List.drop_drop, Nat.add_assoc, Nat.add_comm 1]
  rw [behindIt]
  exact congrArg _ (List.take_append_drop _ _).symm

theorem blocks_of_row (row : Row (around object behind) (· < object.length) start) :
    ∃ (blocks : List Block) (rest : List UInt8),
      object.drop start = blocks.flatMap Block.encode ++ 0 :: rest := by
  induction row with
  | @stop start zero here =>
      refine ⟨[], object.drop (start + 1), ?_⟩
      rw [List.drop_eq_getElem_cons here, ← @around_inside _ behind _ here, zero]
      rfl
  | @block start nonzero later ih =>
      obtain ⟨blocks, rest, there⟩ := ih
      -- The block is whole because there is a byte behind it.
      have whole : start + ((around object behind start).toNat + 1) ≤ object.length := by
        have count := congrArg List.length there
        rw [List.length_drop, List.length_append, List.length_cons] at count
        omega
      obtain ⟨block, front⟩ := exists_block nonzero whole
      refine ⟨block :: blocks, rest, ?_⟩
      rw [front, there, List.flatMap_cons, List.append_assoc]

/-- The walk that ends inside an object is the one along whole blocks that a zero byte of the
object follows. -/
theorem row_iff_blocks : Row (around object behind) (· < object.length) start ↔
    ∃ (blocks : List Block) (rest : List UInt8),
      object.drop start = blocks.flatMap Block.encode ++ 0 :: rest :=
  ⟨blocks_of_row, fun ⟨blocks, _, there⟩ => row_of_blocks blocks there⟩

end Bytes

/- The offsets that a function reads at, which for a loop are only known once it has come to its
end. -/
namespace Bytes

/-- Within enough turns the function comes to an end, and all its reads are allowed. -/
def ReadsOnly (Allowed : Nat → Prop) (run : Nat → Option (List Nat)) : Prop :=
  ∃ (turns : Nat) (reads : List Nat), run turns = some reads ∧ ∀ offset ∈ reads, Allowed offset

/-- What is allowed at an offset is allowed below it. -/
def Lower (Allowed : Nat → Prop) : Prop :=
  ∀ offset below : Nat, below ≤ offset → Allowed offset → Allowed below

/-- All the reads lie below `need`, and one of them right below it. -/
structure Furthest (reads : List Nat) (need : Nat) : Prop where
  below : ∀ offset ∈ reads, offset < need
  last : ∀ offset : Nat, offset + 1 = need → offset ∈ reads

variable {Allowed : Nat → Prop} {reads : List Nat} {run : Nat → Option (List Nat)} {need : Nat}

theorem lower_lt (bound : Nat) : Lower (· < bound) :=
  fun _ _ least allowed => Nat.lt_of_le_of_lt least allowed

theorem lower_all : Lower fun _ => True := fun _ _ _ _ => trivial

theorem furthest_of_mem {offset : Nat} (there : offset ∈ reads)
    (most : ∀ other ∈ reads, other ≤ offset) : Furthest reads (offset + 1) := by
  constructor
  · intro other found
    exact Nat.lt_succ_of_le (most other found)
  · intro other same
    rw [Nat.succ.inj same]
    exact there

theorem Furthest.all_iff (furthest : Furthest reads need) (lower : Lower Allowed) :
    (∀ offset ∈ reads, Allowed offset) ↔ ∀ offset < need, Allowed offset := by
  constructor
  · intro all offset small
    have there := furthest.last (need - 1) (by omega)
    exact lower (need - 1) offset (by omega) (all _ there)
  · intro all offset there
    exact all offset (furthest.below offset there)

theorem below_iff {base bound : Nat} (fits : base ≤ bound) :
    (∀ offset < need, base + offset < bound) ↔ base + need ≤ bound := by
  constructor
  · intro all
    by_contra more
    have last := all (need - 1) (by omega)
    omega
  · intro enough offset small
    omega

theorem lt_iff {bound : Nat} : (∀ offset < need, offset < bound) ↔ need ≤ bound := by
  simpa only [Nat.zero_add] using below_iff (Nat.zero_le bound)

theorem readsOnly_some : ReadsOnly Allowed (fun _ => some reads) ↔
    ∀ offset ∈ reads, Allowed offset := by
  constructor
  · rintro ⟨turns, found, same, all⟩
    cases same
    exact all
  · intro all
    exact ⟨0, reads, rfl, all⟩

theorem readsOnly_map : ReadsOnly Allowed (fun turns => (run turns).map (reads ++ ·)) ↔
    (∀ offset ∈ reads, Allowed offset) ∧ ReadsOnly Allowed run := by
  constructor
  · rintro ⟨turns, found, same, all⟩
    obtain ⟨later, done, rfl⟩ := Option.map_eq_some_iff.mp same
    rw [List.forall_mem_append] at all
    exact ⟨all.1, turns, later, done, all.2⟩
  · rintro ⟨first, turns, later, done, all⟩
    exact ⟨turns, reads ++ later, Option.map_eq_some_iff.mpr ⟨later, done, rfl⟩,
      List.forall_mem_append.mpr ⟨first, all⟩⟩

end Bytes
