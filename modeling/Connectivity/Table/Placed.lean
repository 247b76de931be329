import Mathlib.Logic.Function.Basic

set_option autoImplicit false

/- Objects that are numbered as they are made, put at places and taken away. -/
namespace Table

variable {ι : Type} [DecidableEq ι] {objectAt : ι → Option Nat} {isValid : Nat → Bool} {made : Nat}

/-- Objects by their numbers: those that are valid stand at one place each, and no others do. -/
structure Placed (objectAt : ι → Option Nat) (isValid : Nat → Bool) (made : Nat) : Prop where
  below : ∀ i object, objectAt i = some object → object < made
  valid : ∀ object, isValid object = true ↔ ∃ i, objectAt i = some object
  single : ∀ i j object, objectAt i = some object → objectAt j = some object → i = j

/-- A new object at a place where there is none. -/
theorem Placed.place (placed : Placed objectAt isValid made) {i : ι} (free : objectAt i = none) :
    Placed (Function.update objectAt i (some made)) (Function.update isValid made true)
      (made + 1) := by
  have cases : ∀ j object, Function.update objectAt i (some made) j = some object →
      j = i ∧ object = made ∨ objectAt j = some object ∧ object < made := by
    intro j object there
    by_cases same : j = i
    · subst same
      rw [Function.update_self] at there
      exact Or.inl ⟨rfl, (Option.some.inj there).symm⟩
    · rw [Function.update_of_ne same] at there
      exact Or.inr ⟨there, placed.below j object there⟩
  refine ⟨fun j object there => ?_, fun object => ?_, fun j k object there here => ?_⟩
  · rcases cases j object there with ⟨_, new⟩ | ⟨_, less⟩ <;> omega
  · by_cases new : object = made
    · subst new
      rw [Function.update_self]
      exact ⟨fun _ => ⟨i, Function.update_self _ _ _⟩, fun _ => rfl⟩
    · rw [Function.update_of_ne new, placed.valid]
      constructor
      · rintro ⟨j, there⟩
        have apart : j ≠ i := by
          rintro rfl
          rw [free] at there
          cases there
        exact ⟨j, by rw [Function.update_of_ne apart, there]⟩
      · rintro ⟨j, there⟩
        rcases cases j object there with ⟨_, same⟩ | ⟨old, _⟩
        · exact absurd same new
        · exact ⟨j, old⟩
  · rcases cases j object there with ⟨first, new⟩ | ⟨old, less⟩ <;>
      rcases cases k object here with ⟨last, newer⟩ | ⟨older, fewer⟩
    · rw [first, last]
    · omega
    · omega
    · exact placed.single j k object old older

/-- The object of a place is taken away. -/
theorem Placed.clear (placed : Placed objectAt isValid made) {i : ι} {gone : Nat}
    (here : objectAt i = some gone) :
    Placed (Function.update objectAt i none) (Function.update isValid gone false) made := by
  have left : ∀ j object, Function.update objectAt i none j = some object ↔
      objectAt j = some object ∧ object ≠ gone := by
    intro j object
    by_cases same : j = i
    · subst same
      rw [Function.update_self, here]
      simp
      omega
    · rw [Function.update_of_ne same]
      refine ⟨fun there => ⟨there, ?_⟩, And.left⟩
      rintro rfl
      exact same (placed.single j i object there here)
  refine ⟨fun j object there => ?_, fun object => ?_, fun j k object there other => ?_⟩
  · exact placed.below j object ((left j object).mp there).1
  · simp only [left]
    by_cases same : object = gone
    · subst same
      simp
    · rw [Function.update_of_ne same, placed.valid]
      simp [same]
  · exact placed.single j k object ((left j object).mp there).1 ((left k object).mp other).1

end Table
