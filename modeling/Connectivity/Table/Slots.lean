import Mathlib.Algebra.BigOperators.Group.Finset.Basic
import Mathlib.Algebra.BigOperators.Fin

set_option autoImplicit false

/- A table of a fixed number of slots, each with a key. One key marks the slots
that hold nothing; the others name what the table holds. -/
namespace Slots

variable {n : Nat} {κ α : Type} [DecidableEq κ] (key : α → κ) (free : κ)

/-- The first slot whose entry meets a condition. -/
@[irreducible] def first (table : Fin n → α) (p : α → Prop) [DecidablePred p] : Option (Fin n) :=
  Fin.find? fun i => p (table i)

/-- The first slot with a key. -/
def find (table : Fin n → α) (k : κ) : Option (Fin n) := first table fun x => key x = k

/-- The slots that hold something. -/
def occupied (table : Fin n → α) : Finset (Fin n) :=
  Finset.univ.filter fun i => key (table i) ≠ free

/-- No key is in two slots, but for the one of the free slots. -/
def Distinct (table : Fin n → α) : Prop :=
  ∀ i j, key (table i) = key (table j) → key (table i) ≠ free → i = j

/-- What the table holds, by its key. -/
def contents (table : Fin n → α) (k : κ) : Option α :=
  if k = free then none else (find key table k).map table

/-- An entry that frees its slot, or whose key is in no other slot. -/
def Fits (table : Fin n → α) (i : Fin n) (x : α) : Prop :=
  key x = free ∨ ∀ j, j ≠ i → key (table j) ≠ key x

variable {key free} {table : Fin n → α} {i : Fin n} {x : α} {k : κ}

theorem of_first {p : α → Prop} [DecidablePred p] (found : first table p = some i) :
    p (table i) := by
  rw [first] at found
  exact of_decide_eq_true (Fin.eq_true_of_find?_eq_some found)

theorem first_eq_none_iff {p : α → Prop} [DecidablePred p] :
    first table p = none ↔ ∀ i, ¬ p (table i) := by
  simp only [first, Fin.find?_eq_none_iff, decide_eq_false_iff_not]

theorem key_of_find (found : find key table k = some i) : key (table i) = k := of_first found

theorem find_eq_none_iff : find key table k = none ↔ ∀ i, key (table i) ≠ k := first_eq_none_iff

theorem exists_find (held : key (table i) = k) : ∃ j, find key table k = some j := by
  cases found : find key table k with
  | some j => exact ⟨j, rfl⟩
  | none => exact absurd held (find_eq_none_iff.mp found i)

theorem contents_free : contents key free table free = none := if_pos rfl

theorem contents_eq_none (absent : find key table k = none) :
    contents key free table k = none := by
  simp only [contents, absent, Option.map_none, ite_self]

theorem contents_of_find (named : k ≠ free) (found : find key table k = some i) :
    contents key free table k = some (table i) := by
  simp only [contents, if_neg named, found, Option.map_some]

theorem contents_eq_some (distinct : Distinct key free table) :
    contents key free table k = some x ↔ k ≠ free ∧ ∃ i, table i = x ∧ key x = k := by
  constructor
  · intro holds
    by_cases named : k = free
    · rw [named, contents_free] at holds
      cases holds
    · rw [contents, if_neg named, Option.map_eq_some_iff] at holds
      obtain ⟨i, found, entry⟩ := holds
      exact ⟨named, i, entry, entry ▸ key_of_find found⟩
  · intro ⟨named, i, entry, same⟩
    have held : key (table i) = k := entry ▸ same
    obtain ⟨j, found⟩ := exists_find held
    have one : i = j := by
      apply distinct i j
      · rw [held, key_of_find found]
      · rwa [held]
    rw [contents_of_find named found, ← one, entry]

omit [DecidableEq κ] in
theorem Distinct.update (distinct : Distinct key free table) (fits : Fits key free table i x) :
    Distinct key free (Function.update table i x) := by
  intro a b same named
  by_cases first : a = i
  · subst first
    rw [Function.update_self] at same named
    by_cases second : b = a
    · exact second.symm
    · rw [Function.update_of_ne second] at same
      rcases fits with unused | other
      · exact absurd unused named
      · exact absurd same.symm (other b second)
  · rw [Function.update_of_ne first] at same named
    by_cases second : b = i
    · subst second
      rw [Function.update_self] at same
      rcases fits with unused | other
      · exact absurd (same.trans unused) named
      · exact absurd same (other a first)
    · rw [Function.update_of_ne second] at same
      exact distinct a b same named

/-- One slot changed: its old entry is gone and its new one is held. -/
theorem contents_update (distinct : Distinct key free table) (fits : Fits key free table i x)
    (named : k ≠ free) :
    contents key free (Function.update table i x) k =
      if k = key x then some x
      else if k = key (table i) then none
      else contents key free table k := by
  have after := distinct.update fits
  split
  · rename_i new
    exact (contents_eq_some after).mpr ⟨named, i, Function.update_self .., new.symm⟩
  · rename_i new
    split
    · rename_i old
      apply contents_eq_none
      rw [find_eq_none_iff]
      intro j same
      by_cases here : j = i
      · subst here
        rw [Function.update_self] at same
        exact new same.symm
      · rw [Function.update_of_ne here] at same
        exact here (distinct j i (same.trans old) (by rwa [same]))
    · rename_i old
      ext y
      rw [contents_eq_some after, contents_eq_some distinct]
      apply and_congr_right'
      constructor
      · intro ⟨j, entry, same⟩
        by_cases here : j = i
        · subst here
          rw [Function.update_self] at entry
          subst entry
          exact absurd same.symm new
        · rw [Function.update_of_ne here] at entry
          exact ⟨j, entry, same⟩
      · intro ⟨j, entry, same⟩
        have here : j ≠ i := by
          intro here
          subst here
          exact old (entry ▸ same.symm)
        exact ⟨j, by rwa [Function.update_of_ne here], same⟩

theorem mem_occupied : i ∈ occupied key free table ↔ key (table i) ≠ free := by
  simp only [occupied, Finset.mem_filter, Finset.mem_univ, true_and]

theorem card_occupied : (occupied key free table).card =
    ∑ i, if key (table i) ≠ free then 1 else 0 := Finset.card_filter ..

variable (key free table i x) in
/-- One slot changed: the count gains the new entry and loses the old one. -/
theorem card_update :
    (occupied key free (Function.update table i x)).card + (if key (table i) ≠ free then 1 else 0) =
      (occupied key free table).card + (if key x ≠ free then 1 else 0) := by
  have others : ∑ j ∈ Finset.univ.erase i,
      (if key (Function.update table i x j) ≠ free then 1 else 0) =
      ∑ j ∈ Finset.univ.erase i, if key (table j) ≠ free then 1 else 0 := by
    apply Finset.sum_congr rfl
    intro j other
    rw [Function.update_of_ne (Finset.ne_of_mem_erase other)]
  rw [card_occupied, card_occupied, ← Finset.add_sum_erase _ _ (Finset.mem_univ i), others,
    Function.update_self, ← Finset.add_sum_erase _ _ (Finset.mem_univ i)]
  omega

variable (key free table) in
/-- A table that holds less than its slots has a free one. -/
theorem exists_free (room : (occupied key free table).card < n) :
    ∃ i, key (table i) = free := by
  by_contra all
  have full : occupied key free table = Finset.univ := by
    apply Finset.eq_univ_of_forall
    intro i
    rw [mem_occupied]
    exact fun none => all ⟨i, none⟩
  rw [full, Finset.card_univ, Fintype.card_fin] at room
  omega

end Slots
