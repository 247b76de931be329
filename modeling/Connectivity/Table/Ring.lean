import Mathlib.Data.List.DropRight

set_option autoImplicit false

/- A ring of a fixed number of slots: entries are put in at one place and taken out at
another, and both places run around. -/
namespace Ring

variable {α : Type} (size : Nat)

/-- The place behind a place. -/
def next (i : Nat) : Nat := if i + 1 = size then 0 else i + 1

/-- The place before a place. -/
def prev (i : Nat) : Nat := if i = 0 then size - 1 else i - 1

/-- The entries from a place on, in the order in which they were put in. -/
def entries (slots : Nat → α) (first count : Nat) : List α :=
  (List.range count).map fun i => slots ((first + i) % size)

variable {size} {slots : Nat → α} {first count : Nat}

theorem next_eq {i : Nat} (inside : i < size) : next size i = (i + 1) % size := by
  rw [next]
  split
  · rename_i last
    rw [last, Nat.mod_self]
  · rw [Nat.mod_eq_of_lt (by omega)]

theorem next_lt {i : Nat} (inside : i < size) : next size i < size := by
  rw [next]
  split <;> omega

theorem prev_next (i : Nat) : prev size (next size i) = i := by
  rw [prev, next]
  split <;> split at * <;> omega

/-- One place further from the start is the next place. -/
theorem next_place (positive : 0 < size) (n : Nat) :
    next size ((first + n) % size) = (first + (n + 1)) % size := by
  rw [next_eq (Nat.mod_lt _ positive), Nat.mod_add_mod, Nat.add_assoc]

/-- Starting one place further is one place further. -/
theorem place_next (inside : first < size) (n : Nat) :
    (next size first + n) % size = (first + (n + 1)) % size := by
  rw [next_eq inside, Nat.mod_add_mod, Nat.add_assoc, Nat.add_comm 1 n]

/-- Before one round is complete, no place is met again. -/
theorem place_ne {i n : Nat} (before : i < n) (round : n < size) :
    (first + i) % size ≠ (first + n) % size := by
  intro same
  have divides : size ∣ (first + n) - (first + i) :=
    Nat.dvd_of_mod_eq_zero (Nat.sub_mod_eq_zero_of_mod_eq same.symm)
  have most := Nat.le_of_dvd (by omega) divides
  omega

theorem entries_length : (entries size slots first count).length = count := by
  rw [entries, List.length_map, List.length_range]

theorem entries_succ : entries size slots first (count + 1) =
    entries size slots first count ++ [slots ((first + count) % size)] := by
  rw [entries, List.range_succ, List.map_append]
  rfl

theorem entries_cons (inside : first < size) : entries size slots first (count + 1) =
    slots first :: entries size slots (next size first) count := by
  induction count with
  | zero =>
      rw [entries_succ, Nat.add_zero, Nat.mod_eq_of_lt inside]
      rfl
  | succ count ih =>
      rw [entries_succ, ih, List.cons_append, entries_succ, place_next inside]

/-- A write behind the entries leaves them as they are. -/
theorem entries_write (room : count < size) (x : α) :
    entries size (Function.update slots ((first + count) % size) x) first count =
      entries size slots first count := by
  apply List.map_congr_left
  intro i member
  exact Function.update_of_ne (place_ne (List.mem_range.mp member) room) x slots

/-- With room left an entry is put behind the others. -/
theorem entries_put (room : count < size) (x : α) :
    entries size (Function.update slots ((first + count) % size) x) first (count + 1) =
      entries size slots first count ++ [x] := by
  rw [entries_succ, entries_write room, Function.update_self]

/-- Without room it is put in the place of the first one. -/
theorem entries_replace (inside : first < size) (x : α) :
    entries size (Function.update slots first x) (next size first) size =
      (entries size slots first size).tail ++ [x] := by
  obtain ⟨n, rfl⟩ : ∃ n, size = n + 1 := ⟨size - 1, by omega⟩
  have last : (next (n + 1) first + n) % (n + 1) = first := by
    rw [place_next inside, Nat.add_mod_right, Nat.mod_eq_of_lt inside]
  have put := @entries_put α (n + 1) slots (next (n + 1) first) n (Nat.lt_succ_self n) x
  rw [last] at put
  rw [put, entries_cons inside, List.tail_cons]

/-- The last entries of a queue, one more being put in. -/
theorem rtake_snoc (l : List α) (x : α) (n : Nat) :
    (l.rtake n ++ [x]).rtake n = (l ++ [x]).rtake n := by
  cases n with
  | zero => rw [List.rtake_zero, List.rtake_zero]
  | succ n =>
      rw [List.rtake_concat_succ, List.rtake_concat_succ]
      congr 1
      rw [List.rtake_eq_reverse_take_reverse, List.rtake_eq_reverse_take_reverse,
        List.rtake_eq_reverse_take_reverse, List.reverse_reverse, List.take_take,
        Nat.min_eq_left (Nat.le_succ n)]

theorem rtake_of_length_le {l : List α} {n : Nat} (short : l.length ≤ n) : l.rtake n = l := by
  rw [List.rtake, Nat.sub_eq_zero_of_le short, List.drop_zero]

/-- A full queue drops its first entry for a new one. -/
theorem rtake_full {l : List α} {n : Nat} (full : l.length = n) (positive : 0 < n) (x : α) :
    (l ++ [x]).rtake n = l.tail ++ [x] := by
  rw [List.rtake, List.length_append, full, List.length_singleton, Nat.add_sub_cancel_left,
    List.drop_append_of_le_length (by omega), List.drop_one]

end Ring
