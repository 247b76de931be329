import Mathlib.Data.List.Basic
import Mathlib.Data.List.Induction

set_option autoImplicit false

/- A table that is filled from the front: the entries that count already, and behind them those
of a set that is not complete yet. -/
namespace Gather

/-- `count` entries of the table are `done`, and the `more` behind them are `pending`. -/
structure Gathered {α : Type} (done pending : List α) (count more : Int) (table : Int → α) :
    Prop where
  count : count = done.length
  more : more = pending.length
  entries : ∀ (index : Nat) entry, (done ++ pending)[index]? = some entry → table index = entry

variable {α : Type} {done pending : List α} {count more : Int} {table next : Int → α} {entry : α}

theorem gathered_nil (table : Int → α) : Gathered [] [] 0 0 table :=
  ⟨rfl, rfl, fun index entry none => by cases none⟩

/-- The next free entry is filled. -/
theorem Gathered.push (gathered : Gathered done pending count more table)
    (filled : next (more + count) = entry)
    (others : ∀ index, index ≠ more + count → next index = table index) :
    Gathered done (pending ++ [entry]) count (more + 1) next := by
  have length := gathered.more
  have counted := gathered.count
  refine ⟨counted, ?_, fun index other there => ?_⟩
  · rw [List.length_append, List.length_singleton, length]
    omega
  · rw [← List.append_assoc] at there
    by_cases before : index < (done ++ pending).length
    · rw [List.getElem?_append_left before] at there
      rw [List.length_append] at before
      rw [others index (by omega)]
      exact gathered.entries index other there
    · have last : index = (done ++ pending).length := by
        have bound := (List.getElem?_eq_some_iff.mp there).1
        rw [List.length_append, List.length_singleton] at bound
        omega
      rw [last, List.getElem?_concat_length] at there
      cases there
      rw [List.length_append] at last
      rw [← filled]
      congr 1
      omega

/-- The entries of a set that is complete count with the others. -/
theorem Gathered.commit (gathered : Gathered done pending count more table) :
    Gathered (done ++ pending) [] (count + more) 0 table := by
  refine ⟨?_, rfl, fun index entry there => gathered.entries index entry ?_⟩
  · rw [List.length_append, gathered.count, gathered.more]
    omega
  · rw [List.append_nil] at there
    exact there

/-- What counts is the front of the table. -/
theorem Gathered.front (gathered : Gathered done pending count more table) :
    (List.range count.toNat).map (fun index : Nat => table index) = done := by
  have length : count.toNat = done.length := by
    have counted := gathered.count
    omega
  apply List.ext_getElem
  · rw [List.length_map, List.length_range, length]
  · intro index _ bound
    rw [List.getElem_map, List.getElem_range]
    apply gathered.entries
    rw [List.getElem?_append_left bound, List.getElem?_eq_getElem bound]

/-- The entries that a loop over the places of a list reads are those of the list. -/
theorem filterMap_places {β : Type} (list : List β) (read : β → Option α) :
    (List.range list.length).filterMap (fun index => list[index]?.bind read) =
      list.filterMap read := by
  induction list using List.reverseRecOn with
  | nil => rfl
  | append_singleton list last ih =>
      have before : (List.range list.length).filterMap
          (fun index => (list ++ [last])[index]?.bind read) = list.filterMap read := by
        rw [← ih]
        apply List.filterMap_congr
        intro index member
        rw [List.getElem?_append_left (List.mem_range.mp member)]
      rw [List.length_append, List.length_singleton, List.range_succ, List.filterMap_append,
        before, List.filterMap_append, List.filterMap_cons, List.filterMap_cons,
        List.getElem?_concat_length]
      rfl

section Loop

variable {S : Type} {counts pendings : S → Int} {entries : S → Int → α} {turn : S → Nat → S}
  {read : Nat → Option α} {limit size : Nat}

/-- A loop whose turns each add an entry, or none, adds those that are read. -/
theorem Gathered.foldl
    (step : ∀ s index pending, index < size →
      Gathered done pending (counts s) (pendings s) (entries s) →
      done.length + pending.length < limit →
      Gathered done (pending ++ (read index).toList) (counts (turn s index))
        (pendings (turn s index)) (entries (turn s index)))
    {s : S} (gathered : Gathered done pending (counts s) (pendings s) (entries s)) (loops : Nat)
    (few : loops ≤ size) (room : done.length + pending.length + loops ≤ limit) :
    let t := (List.range loops).foldl turn s
    Gathered done (pending ++ (List.range loops).filterMap read) (counts t) (pendings t)
      (entries t) := by
  induction loops with
  | zero =>
      show Gathered done (pending ++ []) _ _ _
      rw [List.append_nil]
      exact gathered
  | succ loops ih =>
      have before := ih (by omega) (by omega)
      have found := List.length_filterMap_le read (List.range loops)
      rw [List.length_range] at found
      have after := step _ loops _ (by omega) before (by rw [List.length_append]; omega)
      intro t
      have read_last : (List.range (loops + 1)).filterMap read =
          (List.range loops).filterMap read ++ (read loops).toList := by
        rw [List.range_succ, List.filterMap_append]
        cases last : read loops with
        | none => rw [List.filterMap_cons_none last]; rfl
        | some entry => rw [List.filterMap_cons_some last]; rfl
      have turned : t = turn ((List.range loops).foldl turn s) loops := by
        show (List.range (loops + 1)).foldl turn s = _
        rw [List.range_succ, List.foldl_append]
        rfl
      rw [turned, read_last, ← List.append_assoc]
      exact after

end Loop

end Gather
