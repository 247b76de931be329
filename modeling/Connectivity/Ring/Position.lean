import Connectivity.Ring.Around

set_option autoImplicit false

/- The cells of a ring by their positions from its beginning, the end of it for one that is gone
round backward: what is found first behind a cell, and that the strongest ahead does not fall
back. -/
namespace Connectivity.Ring

/-- How far a cell is from the beginning. -/
def position (size : Nat) (forward : Bool) (cell : Nat) : Nat :=
  if forward then cell else size - 1 - cell

section Position

variable {size here : Nat} {forward : Bool}

theorem position_inj (forward : Bool) {first second : Nat} (inside : first < size)
    (within : second < size)
    (same : position size forward first = position size forward second) : first = second := by
  cases forward with
  | true => exact same
  | false =>
      have rest : size - 1 - first = size - 1 - second := same
      omega

/-- When a cell comes behind another one: after the end of the ring if it is in front. -/
def turn (size here : Nat) (forward : Bool) (cell : Nat) : Nat :=
  if position size forward here < position size forward cell then position size forward cell
  else position size forward cell + size

theorem around_turn (inside : here < size) :
    (around size here forward).Pairwise fun first second =>
      turn size here forward first < turn size here forward second := by
  have ordered : ∀ first second, first < second → second < size →
      (first < here ∧ here < second → turn size here true second < turn size here true first ∧
        turn size here false first < turn size here false second) ∧
      (¬ (first < here ∧ here < second) → first ≠ here → second ≠ here →
        turn size here true first < turn size here true second ∧
        turn size here false second < turn size here false first) := by
    intro first second less within
    simp only [turn, position, if_true, Bool.false_eq_true, if_false]
    constructor
    · intro across
      constructor
      · split <;> split <;> omega
      · split <;> split <;> omega
    · intro beside other another
      constructor
      · split <;> split <;> omega
      · split <;> split <;> omega
  have up : (around size here true).Pairwise fun first second =>
      turn size here true first < turn size here true second ∧
        turn size here false second < turn size here false first := by
    rw [around_forward inside]
    refine List.pairwise_append.mpr ⟨?_, ?_, ?_⟩
    · refine (List.pairwise_lt_range' 1).imp_of_mem ?_
      intro first second earlier later less
      have low := List.mem_range'_1.mp earlier
      have high := List.mem_range'_1.mp later
      exact (ordered first second less (by omega)).2 (by omega) (by omega) (by omega)
    · refine List.pairwise_lt_range.imp_of_mem ?_
      intro first second earlier later less
      have low := List.mem_range.mp earlier
      have high := List.mem_range.mp later
      exact (ordered first second less (by omega)).2 (by omega) (by omega) (by omega)
    · intro first behind second front
      have high := List.mem_range'_1.mp behind
      have low := List.mem_range.mp front
      have less : second < first := by omega
      exact (ordered second first less (by omega)).1 ⟨by omega, by omega⟩
  cases forward with
  | true => exact up.imp fun both => both.1
  | false =>
      rw [around_backward]
      exact List.pairwise_reverse.mpr (up.imp fun both => both.2)

/-- What a search finds comes before all else that it would accept. -/
theorem find_least {Cell : Type} {rank : Cell → Nat} {accepts : Cell → Bool} {cells : List Cell}
    {found : Cell} (ordered : cells.Pairwise fun first second => rank first < rank second)
    (search : cells.find? accepts = some found) {cell : Cell} (member : cell ∈ cells)
    (accepted : accepts cell = true) : rank found ≤ rank cell := by
  induction cells with
  | nil => cases member
  | cons first rest ih =>
      obtain ⟨before, others⟩ := List.pairwise_cons.mp ordered
      cases taken : accepts first with
      | true =>
          rw [List.find?_cons_of_pos taken] at search
          cases search
          cases List.mem_cons.mp member with
          | inl same => exact Nat.le_of_eq (congrArg rank same.symm)
          | inr later => exact Nat.le_of_lt (before cell later)
      | false =>
          rw [List.find?_cons_of_neg (ne_true_of_eq_false taken)] at search
          cases List.mem_cons.mp member with
          | inl same =>
              rw [same, taken] at accepted
              cases accepted
          | inr later => exact ih others search later

/-- The two cells ahead, as far as the ring has them. -/
theorem ahead_two (inside : here < size) :
    (ahead size here forward 2 = [] ∧ position size forward here + 1 = size) ∨
    (∃ next, next < size ∧ ahead size here forward 2 = [next] ∧
      position size forward next = position size forward here + 1) ∨
    ∃ next other, next < size ∧ other < size ∧ ahead size here forward 2 = [next, other] ∧
      position size forward next = position size forward here + 1 ∧
      position size forward other = position size forward here + 2 := by
  cases forward with
  | true =>
      have whole : position size true here = here := rfl
      by_cases one : here + 1 < size
      · have first := @ahead_forward size here 1 one
        by_cases two : here + 1 + 1 < size
        · have second := @ahead_forward size (here + 1) 0 two
          rw [ahead_none] at second
          rw [second] at first
          exact .inr (.inr ⟨here + 1, here + 1 + 1, one, two, first, rfl, rfl⟩)
        · have none : ahead size (here + 1) true 1 = [] := ahead_forward_end (by omega)
          rw [none] at first
          exact .inr (.inl ⟨here + 1, one, first, rfl⟩)
      · exact .inl ⟨ahead_forward_end (by omega), by omega⟩
  | false =>
      have whole : position size false here = size - 1 - here := rfl
      cases here with
      | zero => exact .inl ⟨ahead_backward_end, by omega⟩
      | succ here =>
          have first := @ahead_backward size here 1
          have next : position size false here = position size false (here + 1) + 1 := by
            show size - 1 - here = size - 1 - (here + 1) + 1
            omega
          cases here with
          | zero =>
              rw [ahead_backward_end] at first
              exact .inr (.inl ⟨0, by omega, first, next⟩)
          | succ here =>
              have second := @ahead_backward size here 0
              rw [ahead_none] at second
              rw [second] at first
              have last : position size false here = position size false (here + 1 + 1) + 2 := by
                show size - 1 - here = size - 1 - (here + 1 + 1) + 2
                omega
              exact .inr (.inr ⟨here + 1, here, by omega, by omega, first, next, last⟩)

end Position

section Strongest

variable {Strength : Type} [LinearOrder Strength] {size : Nat} {forward : Bool}
  {valid : Nat → Bool} {strength : Nat → Strength}

/-- The strongest of a cell and the two ahead is one of them. -/
theorem strongest_position {first : Nat} (inside : first < size) :
    position size forward first ≤
        position size forward (strongest valid strength first (ahead size first forward 2)) ∧
      position size forward (strongest valid strength first (ahead size first forward 2)) ≤
        position size forward first + 2 := by
  rcases @ahead_two size first forward inside with none | one | two
  · rw [none.1, strongest]
    omega
  · obtain ⟨next, _, cells, near⟩ := one
    rw [cells, strongest_cons]
    split
    · rw [strongest]
      omega
    · rw [strongest]
      omega
  · obtain ⟨next, other, _, _, cells, near, far⟩ := two
    rw [cells, strongest_cons, strongest_cons, strongest_cons]
    split
    · split
      · rw [strongest]
        omega
      · rw [strongest]
        omega
    · split
      · rw [strongest]
        omega
      · rw [strongest]
        omega

/-- The second of two cells ahead is only the strongest when it is stronger than the first. -/
theorem strongest_second {first next other : Nat} (isValid : valid next = true)
    (different : other ≠ first) (another : other ≠ next)
    (best : strongest valid strength first [next, other] = other) :
    strength next < strength other := by
  rw [strongest_cons, strongest_cons, strongest_cons, strongest, strongest, strongest] at best
  split at best
  · split at best
    · rename_i stronger
      exact stronger.2
    · exact absurd best.symm another
  · rename_i weaker
    split at best
    · rename_i stronger
      have bound : strength next ≤ strength first :=
        not_lt.mp fun above => weaker ⟨isValid, above⟩
      exact lt_of_le_of_lt bound stronger.2
    · exact absurd best.symm different

/-- From a valid cell further on the strongest is not further back. -/
theorem strongest_mono {first second : Nat} (inside : first < size) (within : second < size)
    (isValid : valid first = true) (alsoValid : valid second = true)
    (before : position size forward first ≤ position size forward second) :
    position size forward (strongest valid strength first (ahead size first forward 2)) ≤
      position size forward (strongest valid strength second (ahead size second forward 2)) := by
  obtain ⟨_, high⟩ := @strongest_position Strength _ size forward valid strength first inside
  obtain ⟨low, _⟩ := @strongest_position Strength _ size forward valid strength second within
  by_cases same : position size forward first = position size forward second
  · exact Nat.le_of_eq (by rw [position_inj forward inside within same])
  · by_cases short : position size forward
        (strongest valid strength first (ahead size first forward 2)) ≤
          position size forward second
    · exact Nat.le_trans short low
    · rcases @ahead_two size first forward inside with none | one | two
      · rw [none.1, strongest] at short
        omega
      · obtain ⟨next, _, cells, near⟩ := one
        have best := @strongest_isStrongest Nat Strength _ valid strength [next] first isValid
        rw [cells] at short
        rcases List.mem_cons.mp best.mem with start | last
        · rw [start] at short
          omega
        · rw [List.mem_singleton.mp last] at short
          omega
      · obtain ⟨next, other, next_in, other_in, cells, near, far⟩ := two
        have best :=
          @strongest_isStrongest Nat Strength _ valid strength [next, other] first isValid
        rw [cells] at short high ⊢
        have last : strongest valid strength first [next, other] = other := by
          rcases List.mem_cons.mp best.mem with start | later
          · rw [start] at short
            omega
          · rcases List.mem_cons.mp later with middle | final
            · rw [middle] at short
              omega
            · exact List.mem_singleton.mp final
        have isNext : next = second := by
          rw [last] at short
          exact position_inj forward next_in within (by omega)
        have otherValid : valid other = true := by
          have found := best.isValid
          rw [last] at found
          exact found
        have stronger : strength second < strength other := by
          rw [← isNext]
          refine strongest_second ?_ ?_ ?_ last
          · rw [isNext]
            exact alsoValid
          · intro equal
            rw [equal] at far
            omega
          · intro equal
            rw [equal] at far
            omega
        rw [last]
        have further : ∃ rest, ahead size second forward 2 = other :: rest ∧
            position size forward other ≤ position size forward
              (strongest valid strength other rest) := by
          rcases @ahead_two size second forward within with none | one | two
          · have bound : position size forward other < size := by
              rw [position]
              split <;> omega
            omega
          · obtain ⟨following, following_in, cells, close⟩ := one
            have equal : following = other := position_inj forward following_in other_in (by omega)
            rw [equal] at cells
            exact ⟨[], cells, Nat.le_refl _⟩
          · obtain ⟨following, after, following_in, _, cells, close, distant⟩ := two
            have equal : following = other := position_inj forward following_in other_in (by omega)
            rw [equal] at cells
            refine ⟨[after], cells, ?_⟩
            rw [strongest_cons]
            split
            · rw [strongest]
              omega
            · exact Nat.le_refl _
        obtain ⟨rest, cells', bound⟩ := further
        rw [cells', strongest_cons, if_pos ⟨otherValid, stronger⟩]
        exact bound

end Strongest

end Connectivity.Ring
