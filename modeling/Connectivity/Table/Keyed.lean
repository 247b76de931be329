import Mathlib.Order.Lattice

set_option autoImplicit false

/- A map as the list of its entries in the order of their keys. -/
namespace Table

variable {κ α : Type} [LinearOrder κ]

/-- Every key stands once, in order. -/
def Keyed (entries : List (κ × α)) : Prop := entries.Pairwise fun a b => a.1 < b.1

/-- The value of a key is set, whether it has one or not. -/
def assign (key : κ) (value : α) : List (κ × α) → List (κ × α)
  | [] => [(key, value)]
  | entry :: rest =>
      if key < entry.1 then (key, value) :: entry :: rest
      else if key = entry.1 then (key, value) :: rest
      else entry :: assign key value rest

variable {key : κ} {value : α} {entries : List (κ × α)}

theorem mem_assign (keyed : Keyed entries) (a : κ × α) :
    a ∈ assign key value entries ↔ a = (key, value) ∨ a ∈ entries ∧ a.1 ≠ key := by
  induction entries with
  | nil => simp [assign]
  | cons entry rest ih =>
      obtain ⟨above, keyed⟩ := List.pairwise_cons.mp keyed
      rw [assign]
      rcases lt_trichotomy key entry.1 with less | same | more
      · have apart : ∀ b ∈ entry :: rest, b.1 ≠ key := by
          intro b member
          rcases List.mem_cons.mp member with first | inside
          · rw [first]
            exact less.ne'
          · exact (lt_trans less (above b inside)).ne'
        rw [if_pos less, List.mem_cons]
        exact or_congr_right ⟨fun member => ⟨member, apart a member⟩, And.left⟩
      · have apart : ∀ b ∈ rest, b.1 ≠ key := fun b member => same ▸ (above b member).ne'
        rw [if_neg same.not_lt, if_pos same, List.mem_cons]
        apply or_congr_right
        constructor
        · exact fun member => ⟨List.mem_cons_of_mem entry member, apart a member⟩
        · rintro ⟨member, other⟩
          rcases List.mem_cons.mp member with first | inside
          · exact absurd (first ▸ same.symm) other
          · exact inside
      · rw [if_neg more.not_gt, if_neg more.ne', List.mem_cons, ih keyed, List.mem_cons]
        constructor
        · rintro (first | new | ⟨member, other⟩)
          · exact Or.inr ⟨Or.inl first, first ▸ more.ne⟩
          · exact Or.inl new
          · exact Or.inr ⟨Or.inr member, other⟩
        · rintro (new | ⟨first | member, other⟩)
          · exact Or.inr (Or.inl new)
          · exact Or.inl first
          · exact Or.inr (Or.inr ⟨member, other⟩)

theorem keyed_assign (keyed : Keyed entries) (key : κ) (value : α) :
    Keyed (assign key value entries) := by
  induction entries with
  | nil => exact List.pairwise_singleton _ _
  | cons entry rest ih =>
      obtain ⟨above, later⟩ := List.pairwise_cons.mp keyed
      rw [assign]
      rcases lt_trichotomy key entry.1 with less | same | more
      · rw [if_pos less]
        refine List.pairwise_cons.mpr ⟨fun b member => ?_, keyed⟩
        rcases List.mem_cons.mp member with first | inside
        · rw [first]
          exact less
        · exact lt_trans less (above b inside)
      · rw [if_neg same.not_lt, if_pos same]
        exact List.pairwise_cons.mpr ⟨fun b member => same ▸ above b member, later⟩
      · rw [if_neg more.not_gt, if_neg more.ne']
        refine List.pairwise_cons.mpr ⟨fun b member => ?_, ih later⟩
        rcases (mem_assign later b).mp member with new | ⟨inside, _⟩
        · rw [new]
          exact more
        · exact above b inside

end Table
