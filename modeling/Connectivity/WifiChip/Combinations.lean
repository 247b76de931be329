import Connectivity.Table.Choices
import Mathlib.Algebra.Ring.Nat
import Mathlib.Logic.Function.Basic

set_option autoImplicit false

/- The interface combinations of the Wi-Fi chip: how the service finds out whether one more
interface fits into the mode of the chip. -/
namespace Connectivity.WifiChip

open Choices

inductive IfaceType
  | sta | ap | p2p | nan
deriving DecidableEq, Repr

/-- The types that the loops of the chip go through. -/
def IfaceType.all : List IfaceType := [.ap, .nan, .p2p, .sta]

theorem IfaceType.mem_all (type : IfaceType) : type ∈ all := by
  cases type <;> decide

/-- `ChipIfaceCombinationLimit`. -/
structure IfaceCombinationLimit where
  types : List IfaceType
  maxIfaces : Nat
deriving DecidableEq, Repr

/-- `ChipIfaceCombination`. -/
structure IfaceCombination where
  limits : List IfaceCombinationLimit
deriving DecidableEq, Repr

/-- The types that each interface of a combination may be of: the passes of the two nested loops
over the limits and up to `maxIfaces`. -/
def IfaceCombination.slots (combination : IfaceCombination) : List (List IfaceType) :=
  combination.limits.flatMap fun limit => List.replicate limit.maxIfaces limit.types

/-- `std::map<IfaceType, size_t>` with a key for every type. -/
abbrev Counts := IfaceType → Nat

def Counts.zero : Counts := fun _ => 0

def Counts.increment (combo : Counts) (type : IfaceType) : Counts :=
  Function.update combo type (combo type + 1)

/-- `num_expanded_combos`, a `uint32_t`. -/
def numExpandedCombos (combination : IfaceCombination) : Nat :=
  combination.slots.foldl (fun num types => num * types.length % 2 ^ 32) 1

/-- A pass over the combos for one slot. There is none behind a division by zero. -/
def expandSlot (expanded : Nat × List Counts) (types : List IfaceType) :
    Option (Nat × List Counts) :=
  if types.length = 0 then none
  else
    let span := expanded.1 / types.length
    if span = 0 ∧ expanded.2 ≠ [] then none
    else some (span, expanded.2.mapIdx fun k combo =>
      match types[k / span % types.length]? with
      | some type => combo.increment type
      | none => combo)

def expandIfaceCombinations (combination : IfaceCombination) : Option (List Counts) :=
  let num := numExpandedCombos combination
  (combination.slots.foldlM expandSlot (num, List.replicate num Counts.zero)).map (·.2)

def canExpandedIfaceCombinationSupportIfaceOfType (current combo : Counts)
    (requested : IfaceType) : Bool :=
  IfaceType.all.all fun type =>
    decide (current type + (if type = requested then 1 else 0) ≤ combo type)

/-- Whether one of the combinations of the mode has room for one more interface. -/
def canSupportIfaceOfType (combinations : List IfaceCombination) (current : Counts)
    (requested : IfaceType) : Option Bool :=
  match combinations with
  | [] => some false
  | combination :: others =>
      (expandIfaceCombinations combination).bind fun expanded =>
        if expanded.any fun combo =>
          canExpandedIfaceCombinationSupportIfaceOfType current combo requested then some true
        else canSupportIfaceOfType others current requested

section Counting

/-- How many interfaces of each type there are. -/
def countsOf (types : List IfaceType) : Counts := fun type => types.count type

theorem increment_apply (combo : Counts) (type other : IfaceType) :
    combo.increment type other = combo other + if type = other then 1 else 0 := by
  by_cases same : other = type
  · rw [same, Counts.increment, Function.update_self, if_pos rfl]
  · rw [Counts.increment, Function.update_of_ne same, if_neg (Ne.symm same), Nat.add_zero]

theorem foldl_increment (combo : Counts) (types : List IfaceType) (type : IfaceType) :
    types.foldl Counts.increment combo type = combo type + types.count type := by
  induction types generalizing combo with
  | nil => rfl
  | cons first rest ih =>
      rw [List.foldl_cons, ih, increment_apply, List.count_cons, Nat.add_assoc,
        Nat.add_comm (List.count type rest)]
      congr 2
      by_cases same : first = type
      · rw [if_pos same, if_pos (beq_iff_eq.mpr same)]
      · rw [if_neg same, if_neg (fun equal => same (beq_iff_eq.mp equal))]

theorem foldl_increment_zero (types : List IfaceType) :
    types.foldl Counts.increment Counts.zero = countsOf types := by
  funext type
  rw [foldl_increment, Counts.zero, Nat.zero_add, countsOf]

end Counting

section Expanding

variable {slots : List (List IfaceType)}

theorem mapIdx_range {num : Nat} (f : Nat → Counts) (g : Nat → Counts → Counts) :
    ((List.range num).map f).mapIdx g = (List.range num).map fun k => g k (f k) := by
  apply List.ext_getElem
  · simp only [List.length_mapIdx, List.length_map]
  · intro k _ _
    simp only [List.getElem_mapIdx, List.getElem_map, List.getElem_range]

/-- The passes count, for each number, the choice of that number. -/
theorem foldlM_expandSlot (nonempty : ∀ slot ∈ slots, slot ≠ []) (num : Nat) (f : Nat → Counts) :
    slots.foldlM expandSlot (size slots, (List.range num).map f) =
      some (1, (List.range num).map fun k => (pick slots k).foldl Counts.increment (f k)) := by
  induction slots generalizing f with
  | nil => rfl
  | cons slot rest ih =>
      have first := nonempty slot List.mem_cons_self
      have later : ∀ slot ∈ rest, slot ≠ [] := fun other inside =>
        nonempty other (List.mem_cons_of_mem _ inside)
      have length := List.length_pos_iff.mpr first
      have span : size (slot :: rest) / slot.length = size rest := by
        rw [size, Nat.mul_div_cancel_left _ length]
      have positive := size_pos later
      have pass : expandSlot (size (slot :: rest), (List.range num).map f) slot =
          some (size rest, (List.range num).map fun k =>
            (slot[k / size rest % slot.length]?).toList.foldl Counts.increment (f k)) := by
        rw [expandSlot, if_neg (by omega), span, if_neg (by omega)]
        congr 2
        rw [mapIdx_range]
        apply List.map_congr_left
        intro k _
        obtain ⟨type, _, found⟩ := getElem?_digit first (k / size rest)
        rw [found]
        rfl
      rw [List.foldlM_cons, pass]
      show rest.foldlM expandSlot (size rest, _) = _
      rw [ih later]
      simp only [pick, List.foldl_append]

theorem foldl_num (nonempty : ∀ slot ∈ slots, slot ≠ []) {num : Nat}
    (bounded : num * size slots < 2 ^ 32) :
    slots.foldl (fun num types => num * types.length % 2 ^ 32) num = num * size slots := by
  induction slots generalizing num with
  | nil => exact (Nat.mul_one num).symm
  | cons slot rest ih =>
      have later : ∀ slot ∈ rest, slot ≠ [] := fun other inside =>
        nonempty other (List.mem_cons_of_mem _ inside)
      have positive := size_pos later
      rw [size, ← Nat.mul_assoc] at bounded
      have small : num * slot.length < 2 ^ 32 :=
        Nat.lt_of_le_of_lt (Nat.le_mul_of_pos_right _ positive) bounded
      rw [List.foldl_cons, Nat.mod_eq_of_lt small, ih later bounded, size, Nat.mul_assoc]

end Expanding

/-- The loops neither divide by zero nor go beyond a `uint32_t`. -/
structure IfaceCombination.Sound (combination : IfaceCombination) : Prop where
  nonempty : ∀ slot ∈ combination.slots, slot ≠ []
  bounded : size combination.slots < 2 ^ 32

instance (combination : IfaceCombination) : Decidable combination.Sound :=
  decidable_of_iff ((∀ slot ∈ combination.slots, slot ≠ []) ∧ size combination.slots < 2 ^ 32)
    ⟨fun both => ⟨both.1, both.2⟩, fun sound => ⟨sound.nonempty, sound.bounded⟩⟩

variable {combination : IfaceCombination}

theorem expandIfaceCombinations_eq (sound : combination.Sound) :
    expandIfaceCombinations combination = some
      ((List.range (size combination.slots)).map fun k => countsOf (pick combination.slots k)) := by
  have num : numExpandedCombos combination = size combination.slots := by
    have bounded := sound.bounded
    rw [← Nat.one_mul (size combination.slots)] at bounded
    rw [numExpandedCombos, foldl_num sound.nonempty bounded, Nat.one_mul]
  have zeros : List.replicate (size combination.slots) Counts.zero =
      (List.range (size combination.slots)).map fun _ => Counts.zero := by
    rw [List.map_const', List.length_range]
  rw [expandIfaceCombinations, num, zeros, foldlM_expandSlot sound.nonempty]
  simp only [Option.map_some, foldl_increment_zero]

/-- The expanded combos are the counts of the choices of a type for every slot. -/
theorem mem_expandIfaceCombinations (sound : combination.Sound) (combo : Counts) :
    (∃ expanded, expandIfaceCombinations combination = some expanded ∧ combo ∈ expanded) ↔
      ∃ choice, IsChoice combination.slots choice ∧ combo = countsOf choice := by
  rw [expandIfaceCombinations_eq sound]
  constructor
  · rintro ⟨expanded, same, member⟩
    cases same
    obtain ⟨k, _, counts⟩ := List.mem_map.mp member
    exact ⟨_, isChoice_pick sound.nonempty k, counts.symm⟩
  · rintro ⟨choice, chosen, counts⟩
    obtain ⟨k, below, same⟩ := exists_pick chosen
    refine ⟨_, rfl, List.mem_map.mpr ⟨k, List.mem_range.mpr below, ?_⟩⟩
    rw [same, counts]

theorem mem_expandIfaceCombinations_two :
    let combination : IfaceCombination := ⟨[⟨[.sta], 2⟩, ⟨[.p2p, .nan], 1⟩]⟩
    (∃ expanded, expandIfaceCombinations combination = some expanded ∧
        countsOf [.sta, .nan, .sta] ∈ expanded) ↔
      ∃ choice, IsChoice combination.slots choice ∧ countsOf [.sta, .nan, .sta] = countsOf choice :=
  mem_expandIfaceCombinations (by decide) _

theorem canSupportIfaceOfType_defined {combinations : List IfaceCombination}
    (sound : ∀ combination ∈ combinations, combination.Sound) (current : Counts)
    (requested : IfaceType) :
    ∃ supports, canSupportIfaceOfType combinations current requested = some supports := by
  induction combinations with
  | nil => exact ⟨false, rfl⟩
  | cons combination others ih =>
      rw [canSupportIfaceOfType,
        expandIfaceCombinations_eq (sound combination List.mem_cons_self), Option.bind_some]
      split
      · exact ⟨true, rfl⟩
      · exact ih fun other member => sound other (List.mem_cons_of_mem _ member)

/-- Every interface has a slot of its own that admits its type. -/
def IfaceCombination.Fits (combination : IfaceCombination) (types : List IfaceType) : Prop :=
  ∃ choice, IsChoice combination.slots choice ∧ types.Subperm choice

theorem canExpanded_iff {types choice : List IfaceType} {requested : IfaceType} :
    canExpandedIfaceCombinationSupportIfaceOfType (countsOf types) (countsOf choice) requested =
        true ↔ (requested :: types).Subperm choice := by
  have count (type : IfaceType) : (requested :: types).count type =
      countsOf types type + if type = requested then 1 else 0 := by
    rw [List.count_cons, countsOf]
    congr 1
    by_cases same : requested = type
    · rw [if_pos (beq_iff_eq.mpr same), if_pos same.symm]
    · rw [if_neg (fun equal => same (beq_iff_eq.mp equal)), if_neg (Ne.symm same)]
  rw [canExpandedIfaceCombinationSupportIfaceOfType, List.all_eq_true, List.subperm_ext_iff]
  constructor
  · intro all type _
    rw [count]
    exact of_decide_eq_true (all type (IfaceType.mem_all type))
  · intro all type _
    rw [decide_eq_true_iff, ← count]
    by_cases there : type ∈ requested :: types
    · exact all type there
    · rw [List.count_eq_zero_of_not_mem there]
      exact Nat.zero_le _

/-- The service finds room for an interface exactly when each one of those that there are and of
the new one can be given a slot of its own in one of the combinations. -/
theorem canSupportIfaceOfType_iff {combinations : List IfaceCombination}
    (sound : ∀ combination ∈ combinations, combination.Sound) (types : List IfaceType)
    (requested : IfaceType) :
    canSupportIfaceOfType combinations (countsOf types) requested = some true ↔
      ∃ combination ∈ combinations, combination.Fits (requested :: types) := by
  induction combinations with
  | nil =>
      constructor
      · intro supports
        cases supports
      · rintro ⟨_, member, _⟩
        cases member
  | cons combination others ih =>
      have here := sound combination List.mem_cons_self
      have found : ((List.range (size combination.slots)).map fun k =>
          countsOf (pick combination.slots k)).any (fun combo =>
            canExpandedIfaceCombinationSupportIfaceOfType (countsOf types) combo requested) = true ↔
          combination.Fits (requested :: types) := by
        rw [List.any_map, List.any_eq_true]
        constructor
        · rintro ⟨k, _, room⟩
          exact ⟨_, isChoice_pick here.nonempty k, canExpanded_iff.mp room⟩
        · rintro ⟨choice, chosen, fits⟩
          obtain ⟨k, below, same⟩ := exists_pick chosen
          refine ⟨k, List.mem_range.mpr below, canExpanded_iff.mpr ?_⟩
          rw [same]
          exact fits
      rw [canSupportIfaceOfType, expandIfaceCombinations_eq here, Option.bind_some,
        List.exists_mem_cons_iff]
      split
      · rename_i room
        exact ⟨fun _ => Or.inl (found.mp room), fun _ => rfl⟩
      · rename_i full
        rw [ih fun other member => sound other (List.mem_cons_of_mem _ member)]
        constructor
        · exact Or.inr
        · intro fits
          exact fits.resolve_left fun room => full (found.mpr room)

end Connectivity.WifiChip
