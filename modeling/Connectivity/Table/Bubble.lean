import Mathlib.Data.List.Chain

set_option autoImplicit false

/- Sorting by exchanges of neighbours, with an exchange that may lose some of what it moves. -/
namespace Bubble

section Sorting

variable {α : Type} (wrong : α → α → Bool) (exchange : α → α → Option (α × α))

/-- So many comparisons of neighbours, from the first pair on. -/
def pass : Nat → List α → Option (List α)
  | count + 1, x :: y :: rest =>
      if wrong x y then
        (exchange x y).bind fun both => (pass count (both.2 :: rest)).map (both.1 :: ·)
      else (pass count (y :: rest)).map (x :: ·)
  | _, rows => some rows

/-- One pass after the other, each by a comparison shorter. -/
def passes : Nat → List α → Option (List α)
  | 0, rows => some rows
  | count + 1, rows => (pass wrong exchange (count + 1) rows).bind (passes count)

def sort (rows : List α) : Option (List α) := passes wrong exchange (rows.length - 1) rows

end Sorting

variable {α : Type} {wrong : α → α → Bool} {exchange : α → α → Option (α × α)}
  {weight : α → Nat} {rows sorted : List α} {count : Nat}

/-- No neighbours are to be exchanged. -/
def Still (wrong : α → α → Bool) (rows : List α) : Prop :=
  rows.IsChain fun x y => wrong x y = false

theorem pass_still (still : Still wrong rows) : pass wrong exchange count rows = some rows := by
  induction rows generalizing count with
  | nil => cases count <;> rfl
  | cons x rows ih =>
      cases count with
      | zero => cases rows <;> rfl
      | succ count =>
          cases rows with
          | nil => rfl
          | cons y rest =>
              obtain ⟨right, later⟩ := List.isChain_cons_cons.mp still
              rw [pass, right, if_neg Bool.false_ne_true, ih later]
              rfl

theorem passes_still (still : Still wrong rows) : passes wrong exchange count rows = some rows := by
  induction count with
  | zero => rfl
  | succ count ih => rw [passes, pass_still still, Option.bind_some, ih]

/-- A comparison and what follows it. -/
theorem pass_cons_cons {x y : α} {rest : List α}
    (done : pass wrong exchange (count + 1) (x :: y :: rest) = some sorted) :
    (wrong x y = true ∧ ∃ both later, exchange x y = some both ∧
        pass wrong exchange count (both.2 :: rest) = some later ∧ sorted = both.1 :: later) ∨
      (wrong x y = false ∧ ∃ later, pass wrong exchange count (y :: rest) = some later ∧
        sorted = x :: later) := by
  rw [pass] at done
  cases exchanged : wrong x y with
  | true =>
      rw [exchanged, if_pos rfl] at done
      obtain ⟨both, made, behind⟩ := Option.bind_eq_some_iff.mp done
      obtain ⟨later, passed, same⟩ := Option.map_eq_some_iff.mp behind
      exact .inl ⟨rfl, both, later, made, passed, same.symm⟩
  | false =>
      rw [exchanged, if_neg Bool.false_ne_true] at done
      obtain ⟨later, passed, same⟩ := Option.map_eq_some_iff.mp done
      exact .inr ⟨rfl, later, passed, same.symm⟩

theorem pass_length (done : pass wrong exchange count rows = some sorted) :
    sorted.length = rows.length := by
  induction count generalizing rows sorted with
  | zero =>
      cases done
      rfl
  | succ count ih =>
      match rows with
      | [] =>
          cases done
          rfl
      | [x] =>
          cases done
          rfl
      | x :: y :: rest =>
          rcases pass_cons_cons done with ⟨_, both, later, made, passed, rfl⟩ | ⟨_, later, passed, rfl⟩
          · have behind := ih passed
            simp only [List.length_cons] at behind ⊢
            omega
          · have behind := ih passed
            simp only [List.length_cons] at behind ⊢
            omega

theorem passes_length (done : passes wrong exchange count rows = some sorted) :
    sorted.length = rows.length := by
  induction count generalizing rows with
  | zero =>
      cases done
      rfl
  | succ count ih =>
      obtain ⟨after, first, later⟩ := Option.bind_eq_some_iff.mp done
      rw [ih later, pass_length first]

/-- What the rows weigh together. -/
def total (weight : α → Nat) : List α → Nat
  | [] => 0
  | x :: rest => weight x + total weight rest

theorem total_perm (perm : sorted.Perm rows) : total weight sorted = total weight rows := by
  induction perm with
  | nil => rfl
  | cons x _ ih => rw [total, total, ih]
  | swap x y rest =>
      simp only [total]
      omega
  | trans _ _ first second => rw [first, second]

/-- Whatever is exchanged weighs less than before. -/
def Loses (weight : α → Nat) (exchange : α → α → Option (α × α)) : Prop :=
  ∀ x y both, exchange x y = some both → weight both.1 + weight both.2 < weight x + weight y

theorem pass_total (loses : Loses weight exchange)
    (done : pass wrong exchange count rows = some sorted) :
    total weight sorted ≤ total weight rows := by
  induction count generalizing rows sorted with
  | zero =>
      cases done
      exact Nat.le_refl _
  | succ count ih =>
      match rows with
      | [] =>
          cases done
          exact Nat.le_refl _
      | [x] =>
          cases done
          exact Nat.le_refl _
      | x :: y :: rest =>
          rcases pass_cons_cons done with ⟨_, both, later, made, passed, rfl⟩ | ⟨_, later, passed, rfl⟩
          · have less := loses x y both made
            have behind := ih passed
            simp only [total] at behind ⊢
            omega
          · have behind := ih passed
            simp only [total] at behind ⊢
            omega

/-- A whole pass with something to be exchanged loses weight. -/
theorem pass_loses (loses : Loses weight exchange) (moved : ¬ Still wrong rows)
    (whole : rows.length ≤ count + 1) (done : pass wrong exchange count rows = some sorted) :
    total weight sorted < total weight rows := by
  induction count generalizing rows sorted with
  | zero =>
      match rows with
      | [] => exact absurd .nil moved
      | [x] => exact absurd (.singleton x) moved
      | x :: y :: rest =>
          simp only [List.length_cons] at whole
          omega
  | succ count ih =>
      match rows with
      | [] => exact absurd .nil moved
      | [x] => exact absurd (.singleton x) moved
      | x :: y :: rest =>
          rw [List.length_cons] at whole
          rcases pass_cons_cons done with ⟨_, both, later, made, passed, rfl⟩ |
            ⟨right, later, passed, rfl⟩
          · have less := loses x y both made
            have behind := pass_total loses passed
            simp only [total] at behind ⊢
            omega
          · have moves : ¬ Still wrong (y :: rest) := fun still =>
              moved (List.isChain_cons_cons.mpr ⟨right, still⟩)
            have behind := ih moves (by omega) passed
            simp only [total] at behind ⊢
            omega

theorem passes_total (loses : Loses weight exchange)
    (done : passes wrong exchange count rows = some sorted) :
    total weight sorted ≤ total weight rows := by
  induction count generalizing rows with
  | zero =>
      cases done
      exact Nat.le_refl _
  | succ count ih =>
      obtain ⟨after, first, later⟩ := Option.bind_eq_some_iff.mp done
      exact (ih later).trans (pass_total loses first)

/-- Sorting that loses nothing has not moved anything. -/
theorem sort_kept (loses : Loses weight exchange) (done : sort wrong exchange rows = some sorted)
    (kept : total weight sorted = total weight rows) : Still wrong rows ∧ sorted = rows := by
  by_cases still : Still wrong rows
  · rw [sort, passes_still still] at done
    exact ⟨still, (Option.some.inj done).symm⟩
  · rw [sort] at done
    cases count : rows.length - 1 with
    | zero =>
        match rows, count with
        | [], _ => exact absurd .nil still
        | [x], _ => exact absurd (.singleton x) still
        | x :: y :: rest, count =>
            simp only [List.length_cons] at count
            omega
    | succ comparisons =>
        rw [count] at done
        obtain ⟨after, first, later⟩ := Option.bind_eq_some_iff.mp done
        have less := pass_loses loses still (by omega) first
        have least := passes_total loses later
        omega

end Bubble
