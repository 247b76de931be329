import Mathlib.Data.List.Basic

set_option autoImplicit false

/- The fields of a driver command, split in place. -/
namespace Connectivity.WpaDriver

/-- A newline or a space. -/
def isSeparator (char : UInt8) : Bool := char == 10 || char == 32

/-- What `tokenize_space` leaves: where the fields begin, and the text with its separators set to
NUL. -/
structure Tokens where
  argv : List Nat
  text : List UInt8
deriving DecidableEq, Repr

/-- A `size_t` as an `int`. -/
def intOf (value : Nat) : Int := (BitVec.ofNat 32 value).toInt

/-- The loops of `tokenize_space` at `pos`, of which the outer one begins anew if a field begins
there. Both are left at the length; from there on every character begins a field, up to the next
separator. -/
def tokenizeFrom (len : Int) : Nat → Bool → List UInt8 → Tokens
  | pos, fresh, [] => ⟨if fresh then [pos] else [], []⟩
  | pos, fresh, char :: rest =>
      let begun := if fresh then [pos] else []
      if isSeparator char then
        if len ≤ pos + 1 then ⟨begun, 0 :: rest⟩
        else
          let later := tokenizeFrom len (pos + 1) true rest
          ⟨begun ++ later.argv, 0 :: later.text⟩
      else
        let again := decide (len ≤ pos + 1) && rest.head?.any fun next => !isSeparator next
        let later := tokenizeFrom len (pos + 1) again rest
        ⟨begun ++ later.argv, char :: later.text⟩

/-- `tokenize_space`. -/
def tokenizeSpace (cmd : List UInt8) (len : Int) : Tokens := tokenizeFrom len 0 true cmd

/-- The string that begins at a place. -/
def stringAt (text : List UInt8) (offset : Nat) : List UInt8 :=
  (text.drop offset).takeWhile fun char => char != 0

def Tokens.strings (tokens : Tokens) : List (List UInt8) := tokens.argv.map (stringAt tokens.text)

/-- The fields between the separators, of which one at the end of the text ends the last field. -/
def fields (text : List UInt8) : List (List UInt8) :=
  if text.getLast?.any isSeparator then (text.splitOnP isSeparator).dropLast
  else text.splitOnP isSeparator

section Fields

variable {char : UInt8} {rest : List UInt8}

theorem fields_separator (separator : isSeparator char = true) (more : rest ≠ []) :
    fields (char :: rest) = [] :: fields rest := by
  have parts := List.splitOnP_ne_nil isSeparator rest
  unfold fields
  rw [List.getLast?_cons_of_ne_nil more, List.splitOnP_cons_eq_if_modifyHead, if_pos separator]
  split
  · rw [List.dropLast_cons_of_ne_nil parts]
  · rfl

theorem fields_last (separator : isSeparator char = true) : fields [char] = [[]] := by
  unfold fields
  rw [List.splitOnP_cons_eq_if_modifyHead, if_pos separator, List.splitOnP_nil, if_pos]
  · rfl
  · simpa using separator

theorem dropLast_modifyHead {α : Type} (f : α → α) (items : List α) :
    (items.modifyHead f).dropLast = items.dropLast.modifyHead f := by
  cases items with
  | nil => rfl
  | cons first others =>
      cases others with
      | nil => rfl
      | cons => rfl

theorem fields_char (ordinary : isSeparator char = false) :
    fields (char :: rest) = (fields rest).modifyHead (char :: ·) := by
  have part : (char :: rest).splitOnP isSeparator =
      (rest.splitOnP isSeparator).modifyHead (char :: ·) := by
    rw [List.splitOnP_cons_eq_if_modifyHead, if_neg (by simp [ordinary])]
  unfold fields
  rw [part]
  cases rest with
  | nil => simp [ordinary]
  | cons next rest =>
      rw [List.getLast?_cons_of_ne_nil (List.cons_ne_nil _ _)]
      split
      · exact dropLast_modifyHead _ _
      · rfl

end Fields

section Tokenizing

variable {len : Int} {pos : Nat} {text : List UInt8}

theorem stringAt_cons_succ (char : UInt8) (text : List UInt8) (offset : Nat) :
    stringAt (char :: text) (offset + 1) = stringAt text offset := rfl

/-- Where a field begins, it does so with what a field would go on with. -/
theorem tokenizeFrom_fresh (len : Int) (pos : Nat) (text : List UInt8) :
    tokenizeFrom len pos true text =
      ⟨pos :: (tokenizeFrom len pos false text).argv, (tokenizeFrom len pos false text).text⟩ := by
  cases text with
  | nil => rfl
  | cons char rest =>
      rw [tokenizeFrom, tokenizeFrom]
      simp only [if_true, Bool.false_eq_true, if_false, List.nil_append]
      split
      · split <;> rfl
      · rfl

/-- In the whole text a field is not left before its end. -/
theorem never_again {rest : List UInt8} (whole : len = pos + 1 + rest.length) :
    (decide (len ≤ pos + 1) && rest.head?.any fun next => !isSeparator next) = false := by
  cases rest with
  | nil => simp
  | cons next rest =>
      rw [List.length_cons] at whole
      simp only [Bool.and_eq_false_imp, decide_eq_true_eq]
      omega

/-- The text goes on behind a character with nothing more, with a field that begins there, or with
the field that has begun; behind the length the last only for what ends it. -/
theorem tokenizeFrom_cases (len : Int) (pos : Nat) (char : UInt8) (rest : List UInt8) :
    tokenizeFrom len pos false (char :: rest) = ⟨[], 0 :: rest⟩ ∨
      (∃ first, tokenizeFrom len pos false (char :: rest) =
          ⟨(pos + 1) :: (tokenizeFrom len (pos + 1) false rest).argv,
            first :: (tokenizeFrom len (pos + 1) false rest).text⟩ ∧
        (first = 0 ∨ len ≤ pos + 1)) ∨
      tokenizeFrom len pos false (char :: rest) =
          ⟨(tokenizeFrom len (pos + 1) false rest).argv,
            char :: (tokenizeFrom len (pos + 1) false rest).text⟩ ∧
        (len ≤ pos + 1 → (tokenizeFrom len (pos + 1) false rest).argv = [] ∧
          stringAt (tokenizeFrom len (pos + 1) false rest).text 0 = []) := by
  rw [tokenizeFrom]
  simp only [Bool.false_eq_true, if_false, List.nil_append]
  split
  · split
    · exact .inl rfl
    · rw [tokenizeFrom_fresh]
      exact .inr (.inl ⟨0, rfl, .inl rfl⟩)
  · cases again : decide (len ≤ pos + 1) && rest.head?.any fun next => !isSeparator next with
    | true =>
        rw [Bool.and_eq_true, decide_eq_true_eq] at again
        rw [tokenizeFrom_fresh]
        exact .inr (.inl ⟨char, rfl, .inr again.1⟩)
    | false =>
        refine .inr (.inr ⟨rfl, fun beyond => ?_⟩)
        rw [decide_eq_true beyond, Bool.true_and] at again
        cases rest with
        | nil => exact ⟨rfl, rfl⟩
        | cons next rest =>
            have separator : isSeparator next = true := by simpa using again
            have further : len ≤ ((pos + 1 : Nat) : Int) + 1 := by omega
            rw [tokenizeFrom, if_pos separator, if_pos further]
            exact ⟨rfl, rfl⟩

/-- The next fields begin behind the place. -/
theorem tokenizeFrom_behind (len : Int) (pos : Nat) (text : List UInt8) :
    ∀ offset ∈ (tokenizeFrom len pos false text).argv, pos < offset := by
  induction text generalizing pos with
  | nil =>
      intro offset member
      cases member
  | cons char rest ih =>
      intro offset member
      rcases tokenizeFrom_cases len pos char rest with ends | ⟨first, begins, _⟩ | ⟨goesOn, _⟩
      · rw [ends] at member
        cases member
      · rw [begins] at member
        cases List.mem_cons.mp member with
        | inl here => omega
        | inr there =>
            have after := ih (pos + 1) offset there
            omega
      · rw [goesOn] at member
        have after := ih (pos + 1) offset member
        omega

/-- The strings that begin behind the first one, relative to where that one goes on. -/
def stringsFrom (pos : Nat) (tokens : Tokens) : List (List UInt8) :=
  tokens.argv.map fun offset => stringAt tokens.text (offset - pos)

theorem stringsFrom_cons {char : UInt8} {argv : List Nat}
    (behind : ∀ offset ∈ argv, pos < offset) :
    stringsFrom pos ⟨argv, char :: text⟩ = stringsFrom (pos + 1) ⟨argv, text⟩ := by
  apply List.map_congr_left
  intro offset member
  have after := behind offset member
  show stringAt (char :: text) (offset - pos) = stringAt text (offset - (pos + 1))
  rw [show offset - pos = offset - (pos + 1) + 1 by omega, stringAt_cons_succ]

/-- The field that a text goes on with, and those that begin in it. -/
theorem tokenizeFrom_fields (whole : len = pos + text.length) (ended : 0 ∉ text) :
    stringAt (tokenizeFrom len pos false text).text 0 ::
        stringsFrom pos (tokenizeFrom len pos false text) = fields text := by
  induction text generalizing pos with
  | nil => rfl
  | cons char rest ih =>
      rw [List.mem_cons, not_or] at ended
      rw [List.length_cons] at whole
      have next : len = pos + 1 + rest.length := by omega
      have later := ih next ended.2
      have behind : ∀ offset ∈ (tokenizeFrom len (pos + 1) false rest).argv, pos < offset :=
        fun offset member => Nat.lt_of_succ_lt (tokenizeFrom_behind _ _ _ offset member)
      rw [tokenizeFrom]
      simp only [Bool.false_eq_true, if_false, List.nil_append, never_again next]
      cases separator : isSeparator char with
      | true =>
          rw [if_pos rfl]
          cases rest with
          | nil =>
              have ends : len ≤ pos + 1 := by simpa using Int.le_of_eq next
              rw [if_pos ends, fields_last separator]
              rfl
          | cons other rest =>
              have room : ¬ len ≤ pos + 1 := by
                rw [List.length_cons] at next
                omega
              rw [if_neg room, tokenizeFrom_fresh, fields_separator separator
                (List.cons_ne_nil _ _), ← later]
              show [] :: stringsFrom pos ⟨_ :: _, _⟩ = _
              rw [stringsFrom, List.map_cons, show pos + 1 - pos = 0 + 1 by omega,
                stringAt_cons_succ]
              congr 2
              exact stringsFrom_cons behind
      | false =>
          have noNul : (char != 0) = true := by simpa using Ne.symm ended.1
          rw [if_neg (by decide), fields_char separator, ← later, List.modifyHead_cons,
            stringsFrom_cons behind]
          congr 1
          exact List.takeWhile_cons_of_pos noNul

/-- The strings are the fields of the text. -/
theorem tokenizeSpace_fields (ended : 0 ∉ text) :
    (tokenizeSpace text text.length).strings = fields text := by
  rw [← tokenizeFrom_fields (Int.zero_add _).symm ended, tokenizeSpace, tokenizeFrom_fresh,
    Tokens.strings, List.map_cons]
  rfl

/-- There are as many strings as places in the vector are used. -/
theorem tokenizeSpace_count (ended : 0 ∉ text) :
    (tokenizeSpace text text.length).argv.length = (fields text).length := by
  rw [← tokenizeSpace_fields ended, Tokens.strings, List.length_map]

end Tokenizing

section Weight

variable {len : Int} {pos : Nat}

/-- The room that strings take with a NUL each. -/
def weight : List (List UInt8) → Nat
  | [] => 0
  | string :: others => string.length + 1 + weight others

/-- The fields and what separates them make up the text. -/
theorem length_le_weight (text : List UInt8) :
    fields text ≠ [] ∧ text.length ≤ weight (fields text) := by
  induction text with
  | nil => exact ⟨by decide, by decide⟩
  | cons char rest ih =>
      cases separator : isSeparator char with
      | true =>
          by_cases more : rest = []
          · rw [more, fields_last separator]
            exact ⟨by decide, by simp [weight]⟩
          · rw [fields_separator separator more, weight, List.length_cons, List.length_nil]
            exact ⟨List.cons_ne_nil _ _, by omega⟩
      | false =>
          obtain ⟨first, others, parts⟩ := List.exists_cons_of_ne_nil ih.1
          have rest_le := ih.2
          rw [parts, weight] at rest_le
          rw [fields_char separator, parts, List.modifyHead_cons, weight, List.length_cons,
            List.length_cons]
          exact ⟨List.cons_ne_nil _ _, by omega⟩

theorem stringAt_cons_le (char : UInt8) (text : List UInt8) :
    (stringAt (char :: text) 0).length ≤ (stringAt text 0).length + 1 := by
  show ((char :: text).takeWhile _).length ≤ (text.takeWhile _).length + 1
  rw [List.takeWhile_cons]
  split
  · exact Nat.le_refl _
  · exact Nat.zero_le _

/-- Behind the length a field begins at each place of what goes on. -/
theorem goesOn_le {text : List UInt8} (beyond : len ≤ pos + 1) :
    (stringAt (tokenizeFrom len pos false text).text 0).length ≤
      (tokenizeFrom len pos false text).argv.length + 1 := by
  induction text generalizing pos with
  | nil => exact Nat.zero_le _
  | cons char rest ih =>
      have later := @ih (pos + 1) (by omega)
      rcases tokenizeFrom_cases len pos char rest with
        ends | ⟨first, begins, _⟩ | ⟨goesOn, stops⟩
      · rw [ends]
        exact Nat.zero_le _
      · rw [begins]
        exact Nat.le_trans (stringAt_cons_le _ _) (Nat.succ_le_succ later)
      · rw [goesOn]
        refine Nat.le_trans (stringAt_cons_le _ _) ?_
        rw [(stops beyond).2]
        exact Nat.le_add_left _ _

theorem weight_goesOn {char : UInt8} {tokens : Tokens}
    (behind : ∀ offset ∈ tokens.argv, pos < offset) :
    weight (stringAt (char :: tokens.text) 0 ::
        stringsFrom pos ⟨tokens.argv, char :: tokens.text⟩) ≤
      1 + weight (stringAt tokens.text 0 :: stringsFrom (pos + 1) tokens) := by
  obtain ⟨argv, text⟩ := tokens
  rw [stringsFrom_cons behind, weight, weight]
  have first := stringAt_cons_le char text
  dsimp only
  omega

theorem weight_begins {char : UInt8} {tokens : Tokens}
    (behind : ∀ offset ∈ tokens.argv, pos < offset) :
    weight (stringAt (char :: tokens.text) 0 ::
        stringsFrom pos ⟨(pos + 1) :: tokens.argv, char :: tokens.text⟩) =
      (stringAt (char :: tokens.text) 0).length + 1 +
        weight (stringAt tokens.text 0 :: stringsFrom (pos + 1) tokens) := by
  have here : ∀ offset ∈ (pos + 1) :: tokens.argv, pos < offset :=
    List.forall_mem_cons.mpr ⟨Nat.lt_succ_self pos, behind⟩
  rw [stringsFrom_cons here, weight, stringsFrom, List.map_cons, Nat.sub_self]
  rfl

/-- The strings have room in the length and in the square of their number. -/
theorem weight_le (len : Int) (pos : Nat) (text : List UInt8) :
    weight (stringAt (tokenizeFrom len pos false text).text 0 ::
        stringsFrom pos (tokenizeFrom len pos false text)) ≤
      (len - pos).toNat + ((tokenizeFrom len pos false text).argv.length + 1) *
        ((tokenizeFrom len pos false text).argv.length + 2) := by
  induction text generalizing pos with
  | nil => exact Nat.le_add_left _ _
  | cons char rest ih =>
      have later := ih (pos + 1)
      have behind : ∀ offset ∈ (tokenizeFrom len (pos + 1) false rest).argv, pos < offset :=
        fun offset member => Nat.lt_of_succ_lt (tokenizeFrom_behind _ _ _ offset member)
      have square : ∀ n : Nat, (n + 1 + 1) * (n + 1 + 2) = (n + 1) * (n + 2) + 2 * (n + 2) := by
        intro n
        rw [Nat.add_mul (n + 1) 1, show n + 1 + 2 = n + 2 + 1 from rfl, Nat.mul_succ]
        omega
      rcases tokenizeFrom_cases len pos char rest with
        ends | ⟨first, begins, nul | beyond⟩ | ⟨goesOn, stops⟩
      · rw [ends]
        exact Nat.le_trans (Nat.le_refl (1 + 0)) (Nat.le_add_left 1 _)
      · have empty : (stringAt (0 :: (tokenizeFrom len (pos + 1) false rest).text) 0).length = 0 :=
          rfl
        rw [begins, nul, weight_begins behind, List.length_cons, square]
        omega
      · have string := stringAt_cons_le first (tokenizeFrom len (pos + 1) false rest).text
        have fields := @goesOn_le len (pos + 1) rest (by omega)
        rw [begins, weight_begins behind, List.length_cons, square]
        omega
      · rw [goesOn]
        refine Nat.le_trans (weight_goesOn behind) ?_
        by_cases beyond : len ≤ pos + 1
        · obtain ⟨none, string⟩ := stops beyond
          rw [weight, stringsFrom, none, string]
          exact Nat.le_add_left 2 _
        · dsimp only
          omega

/-- A text that is split into its fields is not much longer than the length says. -/
theorem length_le_of_split {text : List UInt8} {places : Nat}
    (few : (tokenizeSpace text len).argv.length ≤ places)
    (split : (tokenizeSpace text len).strings = fields text) :
    text.length ≤ len.toNat + places * (places + 1) := by
  have room := weight_le len 0 text
  have whole := (length_le_weight text).2
  have strings : fields text = stringAt (tokenizeFrom len 0 false text).text 0 ::
      stringsFrom 0 (tokenizeFrom len 0 false text) := by
    rw [← split, tokenizeSpace, tokenizeFrom_fresh]
    rfl
  rw [tokenizeSpace, tokenizeFrom_fresh, List.length_cons] at few
  have square : ((tokenizeFrom len 0 false text).argv.length + 1) *
      ((tokenizeFrom len 0 false text).argv.length + 2) ≤ places * (places + 1) :=
    Nat.mul_le_mul few (Nat.succ_le_succ few)
  rw [strings] at whole
  omega

theorem intOf_eq (value : Nat) :
    intOf value = if value % 4294967296 < 2147483648 then (value % 4294967296 : Int)
      else (value % 4294967296 : Int) - 4294967296 := by
  rw [intOf, BitVec.toInt_eq_toNat_cond, BitVec.toNat_ofNat]
  split <;> split <;> omega

/-- The strings in 64 places are the fields of a text exactly when its length is not taken for
another one, and it has no more fields. -/
theorem tokenizeSpace_iff {text : List UInt8} (ended : 0 ∉ text) :
    (tokenizeSpace text (intOf text.length)).argv.length ≤ 64 ∧
        (tokenizeSpace text (intOf text.length)).strings = fields text ↔
      text.length < 2147483648 ∧ (fields text).length ≤ 64 := by
  constructor
  · intro ⟨few, split⟩
    have long := length_le_of_split few split
    have same : (fields text).length ≤ 64 := by
      rw [← split, Tokens.strings, List.length_map]
      exact few
    refine ⟨?_, same⟩
    rw [intOf_eq] at long
    split at long <;> omega
  · intro ⟨short, few⟩
    have whole : intOf text.length = text.length := by
      rw [intOf_eq]
      split <;> omega
    rw [whole, tokenizeSpace_count ended]
    exact ⟨few, tokenizeSpace_fields ended⟩

end Weight

end Connectivity.WpaDriver
