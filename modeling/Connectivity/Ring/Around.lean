import Mathlib.Data.List.Basic
import Mathlib.Order.Lattice

set_option autoImplicit false

/- The cells of a ring as they come behind one of them, one way round or the other, and the
strongest of a few cells. -/
namespace Connectivity.Ring

/-- The cells of a ring of `size` other than `here`, in the order in which they come behind it. -/
def around (size here : Nat) (forward : Bool) : List Nat :=
  (List.range (size - 1)).map fun k =>
    if forward then (here + 1 + k) % size else (here + size - 1 - k) % size

/-- The cells behind `here` that are no further than `count` away, up to the end of the ring. -/
def ahead (size here : Nat) (forward : Bool) (count : Nat) : List Nat :=
  if forward then List.range' (here + 1) (min count (size - (here + 1)))
  else (List.range' (here - count) (min count here)).reverse

/-- A valid cell that no valid one of the candidates is stronger than. -/
structure Strongest {Cell Strength : Type} [LE Strength] (valid : Cell → Prop)
    (strength : Cell → Strength) (candidates : List Cell) (best : Cell) : Prop where
  mem : best ∈ candidates
  isValid : valid best
  le : ∀ cell ∈ candidates, valid cell → strength cell ≤ strength best

section Around

variable {size here : Nat}

theorem around_forward (inside : here < size) :
    around size here true = List.range' (here + 1) (size - (here + 1)) ++ List.range here := by
  have split : size - 1 = (size - (here + 1)) + here := by omega
  rw [around, split, List.range_add, List.map_append, List.map_map, List.range'_eq_map_range]
  congr 1
  · apply List.map_congr_left
    intro k member
    have bound := List.mem_range.mp member
    exact Nat.mod_eq_of_lt (by omega)
  · have same : ∀ k ∈ List.range here, (here + 1 + (size - (here + 1) + k)) % size = k := by
      intro k member
      have bound := List.mem_range.mp member
      rw [show here + 1 + (size - (here + 1) + k) = k + size by omega, Nat.add_mod_right]
      exact Nat.mod_eq_of_lt (by omega)
    exact (List.map_congr_left same).trans (List.map_id _)

/-- The other way round the cells come in the reverse order. -/
theorem around_backward : around size here false = (around size here true).reverse := by
  apply List.ext_getElem
  · rw [List.length_reverse, around, around, List.length_map, List.length_map]
  · intro k first second
    have bound : k < size - 1 := by
      rw [around, List.length_map, List.length_range] at first
      exact first
    simp only [around, List.getElem_reverse, List.getElem_map, List.getElem_range,
      List.length_map, List.length_range, if_true]
    rw [if_neg (by decide)]
    congr 1
    omega

theorem mem_around (inside : here < size) {forward : Bool} {cell : Nat} :
    cell ∈ around size here forward ↔ cell < size ∧ cell ≠ here := by
  have ahead : cell ∈ around size here true ↔ cell < size ∧ cell ≠ here := by
    rw [around_forward inside, List.mem_append, List.mem_range, List.mem_range'_1]
    omega
  cases forward with
  | true => exact ahead
  | false => rw [around_backward, List.mem_reverse, ahead]

end Around

section Ahead

variable {size here : Nat}

theorem ahead_none {forward : Bool} : ahead size here forward 0 = [] := by
  cases forward <;> simp [ahead]

/-- Forward, the cells ahead are the next one and those ahead of it. -/
theorem ahead_forward {count : Nat} (inside : here + 1 < size) :
    ahead size here true (count + 1) = (here + 1) :: ahead size (here + 1) true count := by
  have more : min (count + 1) (size - (here + 1)) = min count (size - (here + 1 + 1)) + 1 := by
    omega
  simp only [ahead, if_true]
  rw [more, List.range'_succ]

theorem ahead_forward_end {count : Nat} (last : size ≤ here + 1) :
    ahead size here true count = [] := by
  have more : min count (size - (here + 1)) = 0 := by omega
  simp only [ahead, if_true]
  rw [more, List.range'_zero]

theorem ahead_backward {count : Nat} :
    ahead size (here + 1) false (count + 1) = here :: ahead size here false count := by
  have more : min (count + 1) (here + 1) = min count here + 1 := by omega
  have first : here + 1 - (count + 1) = here - count := by omega
  have last : here - count + min count here = here := by omega
  rw [ahead, ahead, if_neg (by decide), if_neg (by decide), more, first, List.range'_concat,
    List.reverse_append, Nat.one_mul, last]
  rfl

theorem ahead_backward_end {count : Nat} : ahead size 0 false count = [] := by
  rw [ahead, if_neg (by decide), Nat.min_zero]
  rfl

theorem ahead_lt {forward : Bool} {count cell : Nat} (inside : here < size)
    (member : cell ∈ ahead size here forward count) : cell < size := by
  cases forward with
  | true =>
      rw [ahead, if_pos rfl, List.mem_range'_1] at member
      omega
  | false =>
      rw [ahead, if_neg (by decide), List.mem_reverse, List.mem_range'_1] at member
      omega

end Ahead

section Strongest

variable {Cell Strength : Type} [LinearOrder Strength] {valid : Cell → Bool}
  {strength : Cell → Strength}

/-- The best cell so far, unless valid ones that follow are stronger; of equals the earliest. -/
def strongest (valid : Cell → Bool) (strength : Cell → Strength) : Cell → List Cell → Cell
  | best, [] => best
  | best, next :: rest =>
      if valid next ∧ strength best < strength next then strongest valid strength next rest
      else strongest valid strength best rest

theorem strongest_cons {best next : Cell} {rest : List Cell} :
    strongest valid strength best (next :: rest) =
      if valid next ∧ strength best < strength next then strongest valid strength next rest
      else strongest valid strength best rest := rfl

theorem strongest_isStrongest {cells : List Cell} {best : Cell} (isValid : valid best) :
    Strongest (fun cell => valid cell) strength (best :: cells)
      (strongest valid strength best cells) := by
  induction cells generalizing best with
  | nil =>
      refine ⟨List.mem_singleton_self best, isValid, ?_⟩
      intro cell member _
      rw [List.mem_singleton.mp member]
      exact le_refl _
  | cons next rest ih =>
      rw [strongest]
      split
      · rename_i better
        have later := ih better.1
        refine ⟨List.mem_cons_of_mem _ later.mem, later.isValid, ?_⟩
        intro cell member valid
        cases List.mem_cons.mp member with
        | inl same =>
            subst same
            exact le_of_lt (lt_of_lt_of_le better.2 (later.le next List.mem_cons_self better.1))
        | inr behind => exact later.le cell behind valid
      · rename_i worse
        have later := ih isValid
        refine ⟨?_, later.isValid, ?_⟩
        · cases List.mem_cons.mp later.mem with
          | inl same =>
              rw [same]
              exact List.mem_cons_self
          | inr behind => exact List.mem_cons_of_mem _ (List.mem_cons_of_mem _ behind)
        · intro cell member valid
          have start := later.le best List.mem_cons_self isValid
          cases List.mem_cons.mp member with
          | inl same =>
              rw [same]
              exact start
          | inr behind =>
              cases List.mem_cons.mp behind with
              | inl same =>
                  subst same
                  exact le_trans (not_lt.mp fun stronger => worse ⟨valid, stronger⟩) start
              | inr last => exact later.le cell (List.mem_cons_of_mem _ last) valid

end Strongest

/-- A search round the ring from `here`: the first cell that it accepts, or a stronger one of the
two ahead of that. -/
def search {Strength : Type} [LinearOrder Strength] (size here : Nat) (forward : Bool)
    (accepts valid : Nat → Bool) (strength : Nat → Strength) : Option Nat :=
  ((around size here forward).find? accepts).map fun first =>
    strongest valid strength first (ahead size first forward 2)

end Connectivity.Ring
