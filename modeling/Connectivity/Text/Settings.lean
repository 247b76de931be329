import Mathlib.Data.List.Basic
import Mathlib.Data.List.TakeWhile

set_option autoImplicit false

/- Files of settings: on each line a key, a sign and a value. Values are printed up to a character
that ends a text, and a file is read line by line. -/
namespace Settings

/-- What ends a line, what stands behind a key, and what ends a value that is printed. -/
structure Signs (α : Type) where
  newline : α
  equals : α
  stop : α
  newline_equals : newline ≠ equals
  newline_stop : newline ≠ stop
  equals_stop : equals ≠ stop

abbrev Setting (α : Type) := List α × List α

/-- The pieces of a text are without what it is split at, and consist of what is in it. -/
theorem mem_of_mem_splitOnP {β : Type} {p : β → Bool} {text piece : List β}
    (found : piece ∈ text.splitOnP p) :
    ∀ c ∈ piece, p c = false ∧ c ∈ text := by
  induction text generalizing piece with
  | nil =>
      rw [List.splitOnP_nil, List.mem_singleton] at found
      rw [found]
      nofun
  | cons first rest ih =>
      rw [List.splitOnP_cons_eq_if_modifyHead] at found
      split at found
      · rcases List.mem_cons.mp found with empty | later
        · rw [empty]
          nofun
        · exact fun c member => (ih later c member).imp id (List.mem_cons_of_mem first)
      · rename_i kept
        obtain ⟨head, tail, pieces⟩ := List.exists_cons_of_ne_nil (List.splitOnP_ne_nil p rest)
        rw [pieces] at ih found
        rcases List.mem_cons.mp found with here | later
        · rw [here]
          intro c member
          rcases List.mem_cons.mp member with new | old
          · rw [new]
            exact ⟨Bool.eq_false_iff.mpr kept, List.mem_cons_self⟩
          · exact (ih List.mem_cons_self c old).imp id (List.mem_cons_of_mem first)
        · exact fun c member =>
            (ih (List.mem_cons_of_mem head later) c member).imp id (List.mem_cons_of_mem first)

variable {α : Type} [DecidableEq α]

section Value

/-- What a file says of a key: its last line counts. -/
def value (settings : List (Setting α)) (key : List α) : Option (List α) :=
  (settings.reverse.find? (·.1 = key)).map (·.2)

variable {settings : List (Setting α)} {key text : List α}

theorem mem_of_value (found : value settings key = some text) :
    ∃ setting ∈ settings, setting.2 = text := by
  obtain ⟨setting, first, same⟩ := Option.map_eq_some_iff.mp found
  exact ⟨setting, List.mem_reverse.mp (List.mem_of_find?_eq_some first), same⟩

theorem value_eq_none (absent : key ∉ settings.map Prod.fst) : value settings key = none := by
  rw [value, Option.map_eq_none_iff, List.find?_eq_none]
  intro setting among same
  exact absent (List.mem_map.mpr ⟨setting, List.mem_reverse.mp among, of_decide_eq_true same⟩)

theorem value_of_apart (apart : (settings.map Prod.fst).Nodup) (found : (key, text) ∈ settings) :
    value settings key = some text := by
  induction settings with
  | nil => cases found
  | cons first rest ih =>
      rw [List.map_cons, List.nodup_cons] at apart
      rcases List.mem_cons.mp found with here | later
      · have absent : value rest key = none := value_eq_none (by
          have missing := apart.1
          rwa [← here] at missing)
        rw [value, Option.map_eq_none_iff] at absent
        rw [value, List.reverse_cons, List.find?_append, absent, ← here]
        simp
      · obtain ⟨setting, last, same⟩ := Option.map_eq_some_iff.mp (ih apart.2 later)
        rw [value, List.reverse_cons, List.find?_append, last, Option.some_or, Option.map_some,
          same]

end Value

variable (signs : Signs α)

namespace Signs

def readLine (line : List α) : Option (Setting α) :=
  if signs.equals ∈ line then
    some (line.takeWhile (· ≠ signs.equals), (line.dropWhile (· ≠ signs.equals)).drop 1)
  else none

/-- The settings on the lines of a text. A line without a sign holds none. -/
def read (text : List α) : List (Setting α) :=
  (text.splitOnP (· = signs.newline)).filterMap signs.readLine

def cut (value : List α) : List α := value.takeWhile (· ≠ signs.stop)

/-- The line of a setting, or an empty one. -/
def line : Option (Setting α) → List α
  | none => []
  | some setting => setting.1 ++ signs.equals :: signs.cut setting.2

def print (lines : List (Option (Setting α))) : List α :=
  lines.flatMap fun l => signs.line l ++ [signs.newline]

/-- None of the signs is in a key. -/
def Plain (key : List α) : Prop :=
  signs.newline ∉ key ∧ signs.equals ∉ key ∧ signs.stop ∉ key

instance (key : List α) : Decidable (signs.Plain key) := inferInstanceAs (Decidable (_ ∧ _ ∧ _))

/-- A value that is printed as it is, on one line. -/
def Clean (value : List α) : Prop := signs.newline ∉ value ∧ signs.stop ∉ value

instance (value : List α) : Decidable (signs.Clean value) := inferInstanceAs (Decidable (_ ∧ _))

variable {signs}

theorem print_cons (l : Option (Setting α)) (lines : List (Option (Setting α))) :
    signs.print (l :: lines) = signs.line l ++ signs.newline :: signs.print lines := by
  simp only [print, List.flatMap_cons, List.append_assoc, List.singleton_append]

theorem readLine_setting {key : List α} (plain : signs.equals ∉ key) (value : List α) :
    signs.readLine (key ++ signs.equals :: value) = some (key, value) := by
  have before : ∀ c ∈ key, decide (c ≠ signs.equals) = true := by
    intro c member
    rw [decide_eq_true_eq]
    rintro rfl
    exact plain member
  rw [readLine, if_pos (List.mem_append_right _ List.mem_cons_self),
    List.takeWhile_append_of_pos before, List.dropWhile_append_of_pos before]
  simp

/-- What is read of a value is in the text, on one line. -/
theorem mem_of_mem_read {text : List α} {setting : Setting α} (found : setting ∈ signs.read text) :
    ∀ c ∈ setting.2, c ≠ signs.newline ∧ c ∈ text := by
  obtain ⟨piece, among, held⟩ := List.mem_filterMap.mp found
  intro c member
  have inside : c ∈ piece := by
    rw [readLine] at held
    split at held
    · cases held
      exact (List.dropWhile_suffix _).subset (List.mem_of_mem_drop member)
    · cases held
  obtain ⟨apart, here⟩ := mem_of_mem_splitOnP among c inside
  exact ⟨of_decide_eq_false apart, here⟩

theorem cut_of_notMem {value : List α} (free : signs.stop ∉ value) : signs.cut value = value := by
  rw [cut, List.takeWhile_eq_self_iff]
  intro c member
  rw [decide_eq_true_eq]
  rintro rfl
  exact free member

section Lines

variable {lines : List (Option (Setting α))}
  (plain : ∀ setting, some setting ∈ lines → signs.Plain setting.1)
include plain

/-- There is nothing in a file that would end a text. -/
theorem stop_notMem_print : signs.stop ∉ signs.print lines := by
  intro member
  obtain ⟨l, among, here⟩ := List.mem_flatMap.mp member
  rcases List.mem_append.mp here with inside | ends
  · cases l with
    | none => cases inside
    | some setting =>
        rcases List.mem_append.mp inside with key | value
        · exact (plain setting among).2.2 key
        · rcases List.mem_cons.mp value with sign | inside
          · exact signs.equals_stop sign.symm
          · have kept := List.mem_takeWhile_imp inside
            simp at kept
  · exact signs.newline_stop (List.mem_singleton.mp ends).symm

theorem read_print (clean : ∀ setting, some setting ∈ lines → signs.Clean setting.2) :
    signs.read (signs.print lines) = lines.filterMap id := by
  induction lines with
  | nil => simp [print, read, readLine]
  | cons l rest ih =>
      have later := ih (fun setting among => plain setting (List.mem_cons_of_mem l among))
        fun setting among => clean setting (List.mem_cons_of_mem l among)
      have one : ∀ c ∈ signs.line l, decide (c = signs.newline) = false := by
        intro c member
        rw [decide_eq_false_iff_not]
        rintro rfl
        cases l with
        | none => cases member
        | some setting =>
            rw [line, cut_of_notMem (clean setting List.mem_cons_self).2] at member
            rcases List.mem_append.mp member with key | value
            · exact (plain setting List.mem_cons_self).1 key
            · rcases List.mem_cons.mp value with sign | inside
              · exact signs.newline_equals sign
              · exact (clean setting List.mem_cons_self).1 inside
      have split : (signs.print (l :: rest)).splitOnP (· = signs.newline) =
          signs.line l :: (signs.print rest).splitOnP (· = signs.newline) := by
        rw [print_cons, List.splitOnP_append_cons _ _ (by simp), List.splitOnP_eq_singleton one]
        rfl
      rw [read] at later ⊢
      rw [split]
      cases l with
      | none => simpa [line, readLine] using later
      | some setting =>
          have held : signs.readLine (signs.line (some setting)) = some setting := by
            rw [line, cut_of_notMem (clean setting List.mem_cons_self).2,
              readLine_setting (plain setting List.mem_cons_self).2.1]
          rw [List.filterMap_cons_some held, later]
          rfl

end Lines

end Signs
end Settings
