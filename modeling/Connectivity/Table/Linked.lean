import Mathlib.Data.List.Nodup
import Mathlib.Logic.Function.Basic

set_option autoImplicit false

/- Cells on a heap that each name the next one, the last one naming the first. -/
namespace Linked

structure Cell (α : Type) where
  item : α
  next : Nat
deriving DecidableEq, Repr

/-- The cells that are allocated, by their addresses. -/
abbrev Heap (α : Type) := Nat → Option (Cell α)

/-- From `start` on stand the given cells one after the other, and the last one names `finish`. -/
def Chain {α : Type} (heap : Heap α) : Nat → List (Nat × α) → Nat → Prop
  | start, [], finish => start = finish
  | start, (address, item) :: rest, finish =>
      start = address ∧ ∃ next, heap address = some ⟨item, next⟩ ∧ Chain heap next rest finish

def addresses {α : Type} (cells : List (Nat × α)) : List Nat := cells.map Prod.fst

/-- The cells are a ring that `list` points to, and there are no others. -/
structure Ring {α : Type} (heap : Heap α) (list : Option Nat) (cells : List (Nat × α)) :
    Prop where
  first : list = (addresses cells).head?
  chain : ∀ address ∈ list, Chain heap address cells address
  nodup : (addresses cells).Nodup
  only : ∀ address, heap address ≠ none → address ∈ addresses cells

variable {α : Type} {heap : Heap α} {start finish address list tail node : Nat}
  {cells front rest : List (Nat × α)} {item last : α} {cell : Cell α}

theorem chain_append : Chain heap start (front ++ rest) finish ↔
    ∃ middle, Chain heap start front middle ∧ Chain heap middle rest finish := by
  induction front generalizing start with
  | nil =>
      constructor
      · intro chain
        exact ⟨start, rfl, chain⟩
      · rintro ⟨middle, same, chain⟩
        cases same
        exact chain
  | cons first front ih =>
      constructor
      · rintro ⟨here, next, there, later⟩
        obtain ⟨middle, before, behind⟩ := ih.mp later
        exact ⟨middle, ⟨here, next, there, before⟩, behind⟩
      · rintro ⟨middle, ⟨here, next, there, before⟩, behind⟩
        exact ⟨here, next, there, ih.mpr ⟨middle, before, behind⟩⟩

/-- What happens at another address does not concern a chain. -/
theorem chain_update {value : Option (Cell α)} (apart : address ∉ addresses cells) :
    Chain (Function.update heap address value) start cells finish ↔
      Chain heap start cells finish := by
  induction cells generalizing start with
  | nil => exact Iff.rfl
  | cons first rest ih =>
      have other : first.1 ≠ address := fun same => apart (same ▸ List.mem_cons_self)
      have behind : address ∉ addresses rest := fun there => apart (List.mem_cons_of_mem _ there)
      simp only [Chain, Function.update_of_ne other, ih behind]

theorem addresses_append : addresses (front ++ rest) = addresses front ++ addresses rest :=
  List.map_append

/-- The cell at the end of a chain. -/
theorem chain_last : Chain heap start (front ++ [(tail, last)]) finish ↔
    Chain heap start front tail ∧ heap tail = some ⟨last, finish⟩ := by
  rw [chain_append]
  constructor
  · rintro ⟨middle, before, here, next, there, same⟩
    cases here
    cases same
    exact ⟨before, there⟩
  · rintro ⟨before, there⟩
    exact ⟨tail, before, rfl, finish, there, rfl⟩

theorem ring_nil : Ring heap none ([] : List (Nat × α)) ↔ heap = fun _ => none := by
  constructor
  · intro ring
    funext address
    by_contra there
    exact List.not_mem_nil (ring.only address there)
  · rintro rfl
    refine ⟨rfl, fun address is => ?_, List.nodup_nil, ?_⟩
    · cases is
    · intro address there
      exact absurd rfl there

/-- The cells of a ring are there. -/
theorem chain_allocated (chain : Chain heap start cells finish) (there : address ∈ addresses cells) :
    heap address ≠ none := by
  induction cells generalizing start with
  | nil => cases there
  | cons first rest ih =>
      obtain ⟨_, next, here, later⟩ := chain
      rcases List.mem_cons.mp there with same | behind
      · rw [same, here]
        exact Option.some_ne_none _
      · exact ih later behind

theorem ring_first (fresh : heap = fun _ => none) :
    Ring (Function.update heap node (some ⟨item, node⟩)) (some node) [(node, item)] := by
  refine ⟨rfl, fun address is => ?_, List.nodup_singleton _, ?_⟩
  · cases is
    exact ⟨rfl, node, Function.update_self .., rfl⟩
  · intro address there
    by_contra other
    have apart : address ≠ node := fun same => other (same ▸ List.mem_cons_self)
    rw [Function.update_of_ne apart, fresh] at there
    exact there rfl

/-- The last cell names another one now, and something has happened at an address apart. -/
theorem chain_relink {value : Option (Cell α)}
    (nodup : (addresses (front ++ [(tail, last)])).Nodup)
    (apart : node ∉ addresses (front ++ [(tail, last)]))
    (chain : Chain heap start (front ++ [(tail, last)]) finish) :
    Chain (Function.update (Function.update heap tail (some ⟨last, address⟩)) node value) start
      (front ++ [(tail, last)]) address := by
  rw [addresses_append] at nodup apart
  obtain ⟨frontApart, tailApart⟩ := not_or.mp fun there => apart (List.mem_append.mpr there)
  have other : tail ≠ node := fun same => tailApart (same ▸ List.mem_cons_self)
  have tailFront : tail ∉ addresses front := by
    intro there
    exact (List.nodup_append.mp nodup).2.2 tail there tail List.mem_cons_self rfl
  obtain ⟨before, _⟩ := chain_last.mp chain
  rw [chain_last]
  constructor
  · rw [chain_update frontApart, chain_update tailFront]
    exact before
  · rw [Function.update_of_ne other, Function.update_self]

/-- A new cell behind the last one. -/
theorem ring_push (ring : Ring heap (some list) (front ++ [(tail, last)]))
    (fresh : heap node = none) :
    Ring (Function.update (Function.update heap tail (some ⟨last, node⟩)) node
      (some ⟨item, list⟩)) (some list) (front ++ [(tail, last)] ++ [(node, item)]) := by
  have chain := ring.chain list rfl
  have apart : node ∉ addresses (front ++ [(tail, last)]) := by
    intro there
    exact chain_allocated chain there fresh
  refine ⟨?_, ?_, ?_, ?_⟩
  · rw [addresses_append, List.head?_append_of_ne_nil]
    · exact ring.first
    · rw [addresses_append]
      exact List.append_ne_nil_of_right_ne_nil _ (List.cons_ne_nil _ _)
  · intro address is
    cases is
    rw [chain_last]
    exact ⟨chain_relink ring.nodup apart chain, Function.update_self ..⟩
  · rw [addresses_append]
    refine List.nodup_append.mpr ⟨ring.nodup, List.nodup_singleton node, ?_⟩
    intro address there other is same
    rw [same.trans (List.mem_singleton.mp is)] at there
    exact apart there
  · intro address there
    by_cases new : address = node
    · rw [new, addresses_append]
      exact List.mem_append_right _ List.mem_cons_self
    · rw [addresses_append]
      refine List.mem_append_left _ (ring.only address ?_)
      rw [Function.update_of_ne new] at there
      by_cases old : address = tail
      · rw [old, (chain_last.mp chain).2]
        exact Option.some_ne_none _
      · rw [Function.update_of_ne old] at there
        exact there

/-- The only cell of a ring is released. -/
theorem ring_release (ring : Ring heap (some list) [(list, item)]) :
    Ring (Function.update heap list none) none ([] : List (Nat × α)) := by
  refine ring_nil.mpr (funext fun address => ?_)
  by_cases same : address = list
  · rw [same, Function.update_self]
  · rw [Function.update_of_ne same]
    by_contra there
    exact same (List.mem_singleton.mp (ring.only address there))

theorem chain_first (chain : Chain heap start (front ++ [(tail, last)]) finish) :
    (addresses (front ++ [(tail, last)])).head? = some start := by
  cases front with
  | nil => exact congrArg some chain.1.symm
  | cons first front => exact congrArg some chain.1.symm

/-- The first cell is taken out of a ring of more than one. -/
theorem ring_pop (ring : Ring heap (some list) ((list, item) :: (front ++ [(tail, last)])))
    (next : heap list = some ⟨item, start⟩) :
    Ring (Function.update (Function.update heap tail (some ⟨last, start⟩)) list none)
      (some start) (front ++ [(tail, last)]) := by
  obtain ⟨_, second, there, chain⟩ := ring.chain list rfl
  rw [next] at there
  cases there
  have nodup := List.nodup_cons.mp ring.nodup
  refine ⟨(chain_first chain).symm, fun address is => ?_, nodup.2, fun address there => ?_⟩
  · cases is
    exact chain_relink nodup.2 nodup.1 chain
  · by_cases gone : address = list
    · rw [gone, Function.update_self] at there
      exact absurd rfl there
    · rw [Function.update_of_ne gone] at there
      by_cases old : address = tail
      · rw [old, addresses_append]
        exact List.mem_append_right _ List.mem_cons_self
      · rw [Function.update_of_ne old] at there
        exact (List.mem_cons.mp (ring.only address there)).resolve_left gone

end Linked
