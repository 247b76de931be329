import Mathlib.Data.List.Basic

set_option autoImplicit false

/- Objects that count the references to them and delete themselves with the last one. -/
namespace RefCount

/-- An object with its count and the number of times it has been deleted. -/
structure Object (α : Type) where
  value : α
  refs : Int
  deletes : Nat
deriving DecidableEq, Repr

variable {α : Type}

/-- The objects in the order of their allocation, which a pointer counts. -/
abbrev Heap (α : Type) : Type := List (Object α)

namespace Heap

def fresh (h : Heap α) : Nat := h.length

/-- A new object belongs to the one who asks for it. -/
def new (h : Heap α) (value : α) : Heap α := h ++ [⟨value, 1, 0⟩]

def addRef (h : Heap α) (p : Nat) : Heap α :=
  h.modify p fun object => { object with refs := object.refs + 1 }

def releaseRef (h : Heap α) (p : Nat) : Heap α :=
  h.modify p fun object =>
    { object with
      refs := object.refs - 1
      deletes := if object.refs - 1 = 0 then object.deletes + 1 else object.deletes }

/-- The counts are the numbers of holders; who has none has been deleted once, and no other. -/
def Counted (h : Heap α) (held : Nat → Nat) : Prop :=
  ∀ p object, h[p]? = some object →
    object.refs = (held p : Int) ∧ object.deletes = if held p = 0 then 1 else 0

variable {h : Heap α} {p : Nat} {held next : Nat → Nat}

theorem counted_nil : Counted ([] : Heap α) held := by
  intro p object found
  cases found

theorem Counted.congr (counted : h.Counted held) (same : ∀ q, q < h.fresh → next q = held q) :
    h.Counted next := by
  intro q object found
  rw [same q (List.getElem?_eq_some_iff.mp found).1]
  exact counted q object found

theorem fresh_addRef : (h.addRef p).fresh = h.fresh := List.length_modify ..

theorem fresh_releaseRef : (h.releaseRef p).fresh = h.fresh := List.length_modify ..

/-- What a change of one object leaves of each. -/
theorem modify_object {change : Object α → Object α} {q : Nat} {object : Object α}
    (found : (h.modify p change)[q]? = some object) :
    ∃ old, h[q]? = some old ∧ object = if p = q then change old else old := by
  rw [List.getElem?_modify, Option.map_eq_map, Option.map_eq_some_iff] at found
  obtain ⟨old, stored, same⟩ := found
  exact ⟨old, stored, same.symm⟩

theorem Counted.new (counted : h.Counted held) (value : α) (one : next h.fresh = 1)
    (others : ∀ q, q < h.fresh → next q = held q) : (h.new value).Counted next := by
  intro q object found
  by_cases old : q < h.fresh
  · rw [Heap.new, List.getElem?_append_left old] at found
    rw [others q old]
    exact counted q object found
  · have bound : q < h.length + 1 := by
      have lt := (List.getElem?_eq_some_iff.mp found).1
      rw [Heap.new, List.length_append] at lt
      exact lt
    have last : q = h.fresh := by
      rw [fresh] at old ⊢
      omega
    subst last
    rw [fresh, Heap.new, List.getElem?_concat_length] at found
    cases found
    rw [one]
    exact ⟨rfl, rfl⟩

theorem Counted.addRef (counted : h.Counted held) (alive : 0 < held p)
    (more : next p = held p + 1) (others : ∀ q, q ≠ p → next q = held q) :
    (h.addRef p).Counted next := by
  intro q object found
  obtain ⟨old, stored, same⟩ := modify_object found
  obtain ⟨refs, deletes⟩ := counted q old stored
  by_cases here : p = q
  · subst here
    rw [if_pos rfl] at same
    rw [same, more]
    rw [if_neg (by omega)] at deletes
    refine ⟨?_, ?_⟩
    · show old.refs + 1 = _
      omega
    · rw [if_neg (by omega)]
      exact deletes
  · rw [if_neg here] at same
    rw [same, others q (Ne.symm here)]
    exact ⟨refs, deletes⟩

theorem Counted.releaseRef (counted : h.Counted held) (fewer : held p = next p + 1)
    (others : ∀ q, q ≠ p → next q = held q) : (h.releaseRef p).Counted next := by
  intro q object found
  obtain ⟨old, stored, same⟩ := modify_object found
  obtain ⟨refs, deletes⟩ := counted q old stored
  by_cases here : p = q
  · subst here
    rw [if_pos rfl] at same
    rw [if_neg (by omega)] at deletes
    rw [same]
    refine ⟨?_, ?_⟩
    · show old.refs - 1 = _
      omega
    · show (if old.refs - 1 = 0 then old.deletes + 1 else old.deletes) = _
      rw [deletes]
      by_cases last : next p = 0
      · rw [if_pos (by omega), if_pos last]
      · rw [if_neg (by omega), if_neg last]
  · rw [if_neg here] at same
    rw [same, others q (Ne.symm here)]
    exact ⟨refs, deletes⟩

/-- References are counted on the values they belong to. -/
theorem value_modify {change : Object α → Object α} {q : Nat}
    (kept : ∀ old, (change old).value = old.value) :
    ((h.modify p change)[q]?).map Object.value = (h[q]?).map Object.value := by
  rw [List.getElem?_modify]
  cases h[q]? with
  | none => rfl
  | some old =>
      show some (if p = q then change old else old).value = _
      split
      · exact congrArg some (kept old)
      · rfl

theorem value_addRef {q : Nat} : ((h.addRef p)[q]?).map Object.value =
    (h[q]?).map Object.value :=
  value_modify fun _ => rfl

theorem value_releaseRef {q : Nat} :
    ((h.releaseRef p)[q]?).map Object.value = (h[q]?).map Object.value :=
  value_modify fun _ => rfl

theorem value_new {value : α} {q : Nat} (old : q < h.fresh) :
    ((h.new value)[q]?).map Object.value = (h[q]?).map Object.value := by
  rw [new, List.getElem?_append_left old]

end Heap

end RefCount
