import Mathlib.Data.List.Basic
import Mathlib.Data.List.Perm.Subperm

set_option autoImplicit false

/- What a ring of the latest entries hands out of each kind of them. -/
namespace Connectivity.Ring

/-- The last entries of a record, as many as there is room for. -/
def mostRecent {α : Type} (capacity : Nat) (recorded : List α) : List α :=
  recorded.drop (recorded.length - capacity)

/-- Of each kind the last entries are handed out, the oldest first, and nothing else. -/
def MostRecentOfEach {α κ : Type} [DecidableEq κ] (kind : α → κ) (capacity : Nat)
    (recorded dumped : List α) : Prop :=
  ∀ one, dumped.filter (fun entry => kind entry = one) =
    mostRecent capacity (recorded.filter fun entry => kind entry = one)

section Recent

variable {α κ : Type} [DecidableEq κ] {kind : α → κ} {capacity : Nat}
  {recorded dumped earlier : List α} {newest : α}

theorem mostRecent_all (room : recorded.length ≤ capacity) :
    mostRecent capacity recorded = recorded := by
  rw [mostRecent, Nat.sub_eq_zero_of_le room, List.drop_zero]

theorem mostRecent_length (capacity : Nat) (recorded : List α) :
    (mostRecent capacity recorded).length = min recorded.length capacity := by
  rw [mostRecent, List.length_drop]
  omega

/-- The last entry stays the last one. -/
theorem mostRecent_append (some : 0 < capacity) :
    mostRecent capacity (earlier ++ [newest]) = mostRecent (capacity - 1) earlier ++ [newest] := by
  have skipped : (earlier ++ [newest]).length - capacity = earlier.length - (capacity - 1) := by
    rw [List.length_append, List.length_singleton]
    omega
  rw [mostRecent, skipped, List.drop_append_of_le_length (Nat.sub_le ..), mostRecent]

section Counted

variable [DecidableEq α]

/-- An entry counts in the entries of its own kind. -/
theorem count_ofKind (kind : α → κ) (entry : α) (entries : List α) :
    (entries.filter fun other => kind other = kind entry).count entry = entries.count entry :=
  List.count_filter (by simp)

theorem MostRecentOfEach.count_le (recent : MostRecentOfEach kind capacity recorded dumped)
    (entry : α) : dumped.count entry ≤ recorded.count entry := by
  rw [← count_ofKind kind entry dumped, recent (kind entry), ← count_ofKind kind entry recorded]
  exact (List.drop_sublist _ _).count_le entry

/-- No more is handed out than has been recorded. -/
theorem MostRecentOfEach.length_le (recent : MostRecentOfEach kind capacity recorded dumped) :
    dumped.length ≤ recorded.length := by
  apply List.Subperm.length_le
  rw [List.subperm_ext_iff]
  exact fun entry _ => recent.count_le entry

/-- When there is room for all entries of each kind, all entries are handed out. -/
theorem MostRecentOfEach.length_eq (recent : MostRecentOfEach kind capacity recorded dumped)
    (room : ∀ one, (recorded.filter fun entry => kind entry = one).length ≤ capacity) :
    dumped.length = recorded.length := by
  apply List.Perm.length_eq
  rw [List.perm_iff_count]
  intro entry
  rw [← count_ofKind kind entry dumped, recent (kind entry), mostRecent_all (room _),
    count_ofKind]

/-- A ring that begins with its newest entry hands out what it should of no longer a record. -/
theorem MostRecentOfEach.fits (recent : MostRecentOfEach kind capacity (earlier ++ [newest]) dumped)
    (nodup : (earlier ++ [newest]).Nodup) (full : dumped.length = capacity)
    (several : 1 < capacity) (first : dumped.head? = some newest) :
    (earlier ++ [newest]).length ≤ capacity := by
  by_contra long
  have crowded : ∃ one, capacity <
      ((earlier ++ [newest]).filter fun entry => kind entry = one).length := by
    by_contra none
    rw [not_exists] at none
    have all := recent.length_eq fun one => Nat.le_of_not_lt (none one)
    omega
  obtain ⟨one, many⟩ := crowded
  have length : (dumped.filter fun entry => kind entry = one).length = dumped.length := by
    rw [recent one, mostRecent_length, full]
    omega
  have alike := List.length_filter_eq_length_iff.mp length
  have same : dumped = mostRecent capacity
      ((earlier ++ [newest]).filter fun entry => kind entry = one) := by
    rw [← recent one, List.filter_eq_self.mpr alike]
  have kindred : kind newest = one := by
    have among : newest ∈ dumped := List.mem_of_mem_head? first
    exact of_decide_eq_true (alike newest among)
  have last : (earlier ++ [newest]).filter (fun entry => kind entry = one) =
      earlier.filter (fun entry => kind entry = one) ++ [newest] := by
    rw [List.filter_append, List.filter_cons_of_pos (by simpa using kindred), List.filter_nil]
  rw [last, mostRecent_append (by omega)] at same
  -- The newest is then both the first and the last of several entries.
  obtain ⟨oldest, rest, front⟩ : ∃ oldest rest, mostRecent (capacity - 1)
      (earlier.filter fun entry => kind entry = one) = oldest :: rest := by
    apply List.exists_cons_of_length_pos
    have count := congrArg List.length same
    rw [full, List.length_append, List.length_singleton] at count
    omega
  have begins : oldest = newest := by
    rw [same, front] at first
    exact Option.some.inj first
  have before : newest ∈ earlier := by
    have among : newest ∈ oldest :: rest := begins ▸ List.mem_cons_self
    rw [← front] at among
    exact List.mem_of_mem_filter ((List.drop_sublist _ _).subset among)
  exact (List.nodup_append.mp nodup).2.2 newest before newest (List.mem_singleton_self _) rfl

end Counted

/-- When the newest entry is handed out in front of all others, it must be the only one of its
kind. -/
theorem mostRecentOfEach_newest_iff (nodup : (earlier ++ [newest]).Nodup)
    (room : (earlier ++ [newest]).length ≤ capacity) :
    MostRecentOfEach kind capacity (earlier ++ [newest]) (newest :: earlier) ↔
      ∀ entry ∈ earlier, kind entry ≠ kind newest := by
  have whole (one : κ) : mostRecent capacity
      ((earlier ++ [newest]).filter fun entry => kind entry = one) =
        (earlier ++ [newest]).filter fun entry => kind entry = one :=
    mostRecent_all (Nat.le_trans (List.length_filter_le _ _) room)
  constructor
  · intro recent entry among same
    have kindred := recent (kind newest)
    rw [whole, List.filter_cons_of_pos (by simp), List.filter_append] at kindred
    have first : entry ∈ earlier.filter fun other => kind other = kind newest :=
      List.mem_filter.mpr ⟨among, decide_eq_true same⟩
    cases front : earlier.filter fun other => kind other = kind newest with
    | nil =>
        rw [front] at first
        cases first
    | cons oldest rest =>
        rw [front] at kindred
        have begins : newest = oldest := (List.cons.inj kindred).1
        have before : oldest ∈ earlier :=
          List.mem_of_mem_filter (front ▸ List.mem_cons_self)
        rw [← begins] at before
        exact (List.nodup_append.mp nodup).2.2 newest before newest (List.mem_singleton_self _) rfl
  · intro alone one
    rw [whole, List.filter_append]
    by_cases same : kind newest = one
    · have none : earlier.filter (fun entry => kind entry = one) = [] := by
        rw [List.filter_eq_nil_iff]
        intro entry among kindred
        exact alone entry among ((of_decide_eq_true kindred).trans same.symm)
      rw [List.filter_cons_of_pos (by simpa using same), none,
        List.filter_cons_of_pos (by simpa using same)]
      rfl
    · rw [List.filter_cons_of_neg (by simpa using same),
        List.filter_cons_of_neg (by simpa using same), List.filter_nil, List.append_nil]

end Recent

end Connectivity.Ring
