import Mathlib.Data.List.Count
import Mathlib.Data.List.Perm.Subperm

set_option autoImplicit false

/- Choices of one element from each of several lists, numbered in a mixed radix. The last list
varies fastest. -/
namespace Choices

variable {α : Type}

/-- One element of each list. -/
def IsChoice (slots : List (List α)) (choice : List α) : Prop :=
  List.Forall₂ (· ∈ ·) choice slots

/-- How many choices there are. -/
def size : List (List α) → Nat
  | [] => 1
  | slot :: rest => slot.length * size rest

/-- The choice of a number, any number taken modulo the size. -/
def pick : List (List α) → Nat → List α
  | [], _ => []
  | slot :: rest, k => (slot[k / size rest % slot.length]?).toList ++ pick rest k

variable {slots : List (List α)}

theorem size_pos (nonempty : ∀ slot ∈ slots, slot ≠ []) : 0 < size slots := by
  induction slots with
  | nil => exact Nat.one_pos
  | cons slot rest ih =>
      have first := List.length_pos_iff.mpr (nonempty slot List.mem_cons_self)
      exact Nat.mul_pos first (ih fun other member => nonempty other (List.mem_cons_of_mem _ member))

theorem getElem?_digit {slot : List α} (nonempty : slot ≠ []) (digit : Nat) :
    ∃ a ∈ slot, slot[digit % slot.length]? = some a := by
  have bound := Nat.mod_lt digit (List.length_pos_iff.mpr nonempty)
  exact ⟨_, List.getElem_mem bound, List.getElem?_eq_getElem bound⟩

theorem isChoice_pick (nonempty : ∀ slot ∈ slots, slot ≠ []) (k : Nat) :
    IsChoice slots (pick slots k) := by
  induction slots with
  | nil => exact .nil
  | cons slot rest ih =>
      obtain ⟨a, member, found⟩ :=
        getElem?_digit (nonempty slot List.mem_cons_self) (k / size rest)
      rw [pick, found]
      exact .cons member (ih fun other inside => nonempty other (List.mem_cons_of_mem _ inside))

/-- A number is taken modulo the size. -/
theorem pick_add_mul (nonempty : ∀ slot ∈ slots, slot ≠ []) (k turns : Nat) :
    pick slots (k + turns * size slots) = pick slots k := by
  induction slots generalizing turns with
  | nil => rfl
  | cons slot rest ih =>
      have later : ∀ slot ∈ rest, slot ≠ [] := fun other inside =>
        nonempty other (List.mem_cons_of_mem _ inside)
      have whole : turns * size (slot :: rest) = turns * slot.length * size rest := by
        rw [size, Nat.mul_assoc]
      have digit : (k + turns * size (slot :: rest)) / size rest % slot.length =
          k / size rest % slot.length := by
        rw [whole, Nat.add_mul_div_right _ _ (size_pos later), Nat.add_mul_mod_self_right]
      rw [pick, pick, digit, whole, ih later]

theorem IsChoice.nonempty {choice : List α} (chosen : IsChoice slots choice) :
    ∀ slot ∈ slots, slot ≠ [] := by
  induction chosen with
  | nil => exact fun _ member => absurd member List.not_mem_nil
  | cons member _ ih =>
      intro slot inside
      cases List.mem_cons.mp inside with
      | inl first =>
          rw [first]
          exact List.ne_nil_of_mem member
      | inr later => exact ih slot later

/-- Every choice has a number below the size. -/
theorem exists_pick {choice : List α} (chosen : IsChoice slots choice) :
    ∃ k < size slots, pick slots k = choice := by
  induction chosen with
  | nil => exact ⟨0, Nat.one_pos, rfl⟩
  | @cons a slot choice rest member chosen ih =>
      obtain ⟨k, below, same⟩ := ih
      obtain ⟨i, bound, found⟩ := List.mem_iff_getElem.mp member
      have later := IsChoice.nonempty chosen
      refine ⟨k + i * size rest, ?_, ?_⟩
      · have room := Nat.mul_le_mul_right (size rest) (Nat.succ_le_of_lt bound)
        rw [Nat.succ_mul] at room
        rw [size]
        omega
      · have digit : (k + i * size rest) / size rest % slot.length = i := by
          rw [Nat.add_mul_div_right _ _ (size_pos later), Nat.div_eq_of_lt below, Nat.zero_add,
            Nat.mod_eq_of_lt bound]
        rw [pick, digit, pick_add_mul later, same, List.getElem?_eq_getElem bound, found]
        rfl

end Choices
