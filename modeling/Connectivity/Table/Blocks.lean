import Mathlib.Data.List.Basic

set_option autoImplicit false

/- Arrays that are allocated and freed by hand. -/
namespace Blocks

/-- An allocated array, with the number of times it has been freed. -/
structure Block (α : Type) where
  cells : List α
  frees : Nat
deriving DecidableEq, Repr

/-- The arrays in the order of their allocation, which a pointer counts, and whether any
write has missed its array or come after its end. -/
structure Heap (α : Type) where
  blocks : List (Block α)
  fault : Bool
deriving DecidableEq, Repr

namespace Heap

variable {α : Type}

def empty : Heap α := ⟨[], false⟩

/-- The pointer that the next allocation returns. -/
def fresh (h : Heap α) : Nat := h.blocks.length

def malloc (h : Heap α) (cells : List α) : Heap α :=
  { h with blocks := h.blocks ++ [⟨cells, 0⟩] }

def free (h : Heap α) (p : Nat) : Heap α :=
  { h with blocks := h.blocks.modify p fun block => { block with frees := block.frees + 1 } }

/-- Whether a cell may be written. -/
def writable (h : Heap α) (p i : Nat) : Bool :=
  h.blocks[p]?.any fun block => block.frees = 0 ∧ i < block.cells.length

def store (h : Heap α) (p i : Nat) (value : α) : Heap α :=
  if h.writable p i then
    { h with blocks := h.blocks.modify p fun block =>
        { block with cells := block.cells.set i value } }
  else { h with fault := true }

def load (h : Heap α) (p i : Nat) : Option α := h.blocks[p]?.bind fun block => block.cells[i]?

/-- Every array has been freed exactly once, but for one that has not been freed. -/
def Settled (h : Heap α) (running : Option Nat) : Prop :=
  ∀ p block, h.blocks[p]? = some block → block.frees = if running = some p then 0 else 1

/-- An array of a length, not freed. -/
def Holds (h : Heap α) (p length : Nat) : Prop :=
  ∃ block, h.blocks[p]? = some block ∧ block.frees = 0 ∧ block.cells.length = length

variable {h : Heap α} {p i length : Nat} {running : Option Nat}

theorem settled_empty : (empty : Heap α).Settled none := by
  intro p block found
  cases found

theorem Holds.lt (holds : h.Holds p length) : p < h.fresh := by
  obtain ⟨block, found, _, _⟩ := holds
  exact (List.getElem?_eq_some_iff.mp found).1

theorem malloc_old (cells : List α) (old : p < h.fresh) :
    (h.malloc cells).blocks[p]? = h.blocks[p]? := List.getElem?_append_left old

theorem malloc_holds (cells : List α) : (h.malloc cells).Holds h.fresh cells.length :=
  ⟨⟨cells, 0⟩, List.getElem?_concat_length, rfl, rfl⟩

theorem Settled.malloc (settled : h.Settled none) (cells : List α) :
    (h.malloc cells).Settled (some h.fresh) := by
  intro p block found
  by_cases old : p < h.fresh
  · rw [malloc_old cells old] at found
    have other : some h.fresh ≠ some p := by
      intro same
      cases same
      omega
    have once := settled p block found
    rw [if_neg (by simp)] at once
    rw [if_neg other]
    exact once
  · have bound := (List.getElem?_eq_some_iff.mp found).1
    have last : p = h.fresh := by
      have length : (h.malloc cells).blocks.length = h.fresh + 1 := List.length_append
      omega
    subst last
    obtain ⟨new, stored, unfreed, _⟩ := malloc_holds (h := h) cells
    rw [found] at stored
    cases stored
    rw [if_pos rfl]
    exact unfreed

/-- What a change of one array leaves of each. -/
theorem modify_block {blocks : List (Block α)} {change : Block α → Block α} {q : Nat}
    {block : Block α} (found : (blocks.modify p change)[q]? = some block) :
    ∃ old, blocks[q]? = some old ∧ block = if p = q then change old else old := by
  rw [List.getElem?_modify, Option.map_eq_map, Option.map_eq_some_iff] at found
  obtain ⟨old, stored, same⟩ := found
  exact ⟨old, stored, same.symm⟩

theorem Settled.free (settled : h.Settled (some p)) : (h.free p).Settled none := by
  intro q block found
  obtain ⟨old, stored, same⟩ := modify_block found
  have before := settled q old stored
  have once : block.frees = 1 := by
    by_cases here : p = q
    · rw [if_pos (congrArg some here)] at before
      rw [same, if_pos here]
      show old.frees + 1 = 1
      omega
    · rw [if_neg (fun same => here (Option.some.inj same))] at before
      rw [same, if_neg here]
      exact before
  rw [once]
  rfl

theorem Holds.writable (holds : h.Holds p length) : h.writable p i = decide (i < length) := by
  obtain ⟨block, found, unfreed, size⟩ := holds
  rw [Heap.writable, found, Option.any_some, unfreed, size]
  simp

theorem store_inside (writable : h.writable p i = true) (value : α) :
    (h.store p i value).fault = h.fault := by
  rw [store, if_pos writable]

theorem store_outside (outside : h.writable p i = false) (value : α) :
    (h.store p i value).fault = true := by
  rw [store, outside]
  rfl

/-- A write frees nothing and keeps the lengths. -/
theorem store_block {q : Nat} {block : Block α} (value : α)
    (found : (h.store p i value).blocks[q]? = some block) :
    ∃ old, h.blocks[q]? = some old ∧ block.frees = old.frees ∧
      block.cells.length = old.cells.length := by
  rw [store] at found
  split at found
  · obtain ⟨old, stored, same⟩ := modify_block found
    refine ⟨old, stored, ?_⟩
    rw [same]
    split
    · exact ⟨rfl, List.length_set⟩
    · exact ⟨rfl, rfl⟩
  · exact ⟨block, found, rfl, rfl⟩

theorem store_fresh (value : α) : (h.store p i value).fresh = h.fresh := by
  rw [store]
  split
  · exact List.length_modify ..
  · rfl

theorem Settled.store (settled : h.Settled running) (value : α) :
    (h.store p i value).Settled running := by
  intro q block found
  obtain ⟨old, stored, frees, _⟩ := store_block value found
  rw [frees]
  exact settled q old stored

theorem Holds.store {q : Nat} (holds : h.Holds q length) (value : α) :
    (h.store p i value).Holds q length := by
  have inside : q < (h.store p i value).blocks.length := by
    have same := store_fresh (h := h) (p := p) (i := i) value
    have old := holds.lt
    rw [fresh] at same
    omega
  obtain ⟨block, found⟩ : ∃ block, (h.store p i value).blocks[q]? = some block :=
    ⟨_, List.getElem?_eq_getElem inside⟩
  obtain ⟨old, stored, frees, size⟩ := store_block value found
  obtain ⟨held, there, unfreed, length⟩ := holds
  rw [there] at stored
  cases stored
  exact ⟨block, found, frees.trans unfreed, size.trans length⟩

/-- An allocation while an array is still held leaves two that have not been freed. -/
theorem Holds.not_settled_malloc (holds : h.Holds p length) (cells : List α)
    (running : Option Nat) : ¬ (h.malloc cells).Settled running := by
  intro settled
  have before := holds.lt
  obtain ⟨block, found, unfreed, _⟩ := holds
  obtain ⟨new, stored, fresh, _⟩ := malloc_holds (h := h) cells
  rw [← malloc_old cells before] at found
  have old := settled p block found
  have last := settled h.fresh new stored
  split at old
  · rename_i here
    rw [here, if_neg] at last
    · omega
    · intro same
      cases same
      omega
  · omega

theorem not_settled_malloc_none (cells : List α) : ¬ (h.malloc cells).Settled none := by
  intro settled
  obtain ⟨new, stored, fresh, _⟩ := malloc_holds (h := h) cells
  have once := settled h.fresh new stored
  rw [if_neg (by simp)] at once
  omega

end Heap

end Blocks
