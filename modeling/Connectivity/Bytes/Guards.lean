import Mathlib.Data.List.Basic

set_option autoImplicit false

/- Rules that are tried one after the other, each with a condition of tests joined by `&&`, and
the offsets of a buffer that are read on the way. -/
namespace Bytes

/-- A test of the length of a buffer, or of the byte at an offset: it is one of those allowed. -/
inductive Test
  | length (allowed : List Nat)
  | byte (offset : Nat) (allowed : List UInt8)
  deriving DecidableEq, Repr

/-- A condition, and what is done if no rule before it applies and it holds. -/
structure Rule (α : Type) where
  tests : List Test
  does : α

section Guards

variable {α : Type} (buf : Nat → UInt8) (len : Nat)

def Test.holds : Test → Bool
  | .length allowed => decide (len ∈ allowed)
  | .byte offset allowed => decide (buf offset ∈ allowed)

def Test.reads : Test → List Nat
  | .length _ => []
  | .byte offset _ => [offset]

def holds (tests : List Test) : Bool := tests.all (Test.holds buf len)

/-- A test is made when all before it hold. -/
def testReads : List Test → List Nat
  | [] => []
  | test :: rest => test.reads ++ if test.holds buf len then testReads rest else []

def firstRule (rules : List (Rule α)) : Option α :=
  (rules.find? fun rule => holds buf len rule.tests).map Rule.does

/-- The offsets read for the tests and, with `later`, for what is done. -/
def ruleReads (later : α → List Nat) : List (Rule α) → List Nat
  | [] => []
  | rule :: rest => testReads buf len rule.tests ++
      if holds buf len rule.tests then later rule.does else ruleReads later rest

end Guards

variable {α : Type} {buf : Nat → UInt8} {len : Nat} {rule : Rule α} {rules rest : List (Rule α)}
  {later : α → List Nat} {allowed : List Nat} {tests : List Test} {Allowed : Nat → Prop}

theorem holds_cons {test : Test} :
    holds buf len (test :: tests) = (test.holds buf len && holds buf len tests) := rfl

theorem forall_testReads_byte {offset : Nat} {bytes : List UInt8} :
    (∀ read ∈ testReads buf len (.byte offset bytes :: tests), Allowed read) ↔
      Allowed offset ∧ (buf offset ∈ bytes → ∀ read ∈ testReads buf len tests, Allowed read) := by
  by_cases found : buf offset ∈ bytes
  · simp [testReads, Test.reads, Test.holds, found]
  · simp [testReads, Test.reads, Test.holds, found]

theorem forall_ruleReads_cons :
    (∀ read ∈ ruleReads buf len later (rule :: rest), Allowed read) ↔
      (∀ read ∈ testReads buf len rule.tests, Allowed read) ∧
        (holds buf len rule.tests = true → ∀ read ∈ later rule.does, Allowed read) ∧
        (holds buf len rule.tests = false → ∀ read ∈ ruleReads buf len later rest, Allowed read) := by
  cases held : holds buf len rule.tests with
  | true => simp [ruleReads, held, or_imp, forall_and]
  | false => simp [ruleReads, held, or_imp, forall_and]

/-- The offsets of a row of tests, whichever of them are made. -/
def offsets (tests : List Test) : List Nat := tests.flatMap Test.reads

theorem testReads_offsets {offset : Nat} (read : offset ∈ testReads buf len tests) :
    offset ∈ offsets tests := by
  induction tests with
  | nil => cases read
  | cons test tests ih =>
      rw [testReads, List.mem_append] at read
      rw [offsets, List.flatMap_cons, List.mem_append]
      cases read with
      | inl here => exact .inl here
      | inr behind =>
          by_cases held : test.holds buf len = true
          · rw [if_pos held] at behind
            exact .inr (ih behind)
          · rw [if_neg held] at behind
            cases behind

/-- A rule for a few lengths that stays inside all of them. -/
def Rule.guarded (later : α → List Nat) (rule : Rule α) : Bool :=
  match rule.tests with
  | .length allowed :: tests =>
      allowed.all fun len => (offsets tests ++ later rule.does).all fun offset => decide (offset < len)
  | _ => false

/-- What a guarded rule reads is inside. -/
theorem guarded_reads (guarded : rule.guarded later = true) :
    (∀ read ∈ testReads buf len rule.tests, read < len) ∧
      (holds buf len rule.tests = true → ∀ read ∈ later rule.does, read < len) := by
  unfold Rule.guarded at guarded
  split at guarded
  next allowed tests same =>
    rw [same]
    have inside : ∀ read ∈ offsets tests ++ later rule.does, len ∈ allowed → read < len := by
      intro read found there
      have each := List.all_eq_true.mp guarded len there
      exact of_decide_eq_true (List.all_eq_true.mp each read found)
    constructor
    · intro read found
      rw [testReads, Test.reads, List.nil_append] at found
      by_cases held : (Test.length allowed).holds buf len = true
      · rw [if_pos held] at found
        have there : len ∈ allowed := of_decide_eq_true held
        exact inside read (List.mem_append_left _ (testReads_offsets found)) there
      · rw [if_neg held] at found
        cases found
    · intro held read found
      rw [holds_cons, Bool.and_eq_true] at held
      exact inside read (List.mem_append_right _ found) (of_decide_eq_true held.1)
  next => cases guarded

/-- Guarded rules in front of others: unless one of them holds, it is up to the others. -/
theorem forall_guarded_append (guarded : ∀ rule ∈ rules, rule.guarded later = true) :
    (∀ read ∈ ruleReads buf len later (rules ++ rest), read < len) ↔
      (∃ rule ∈ rules, holds buf len rule.tests = true) ∨
        ∀ read ∈ ruleReads buf len later rest, read < len := by
  induction rules with
  | nil => simp
  | cons rule rules ih =>
      obtain ⟨inside, done⟩ := @guarded_reads _ buf len _ _ (guarded rule List.mem_cons_self)
      have behind := ih fun other there => guarded other (List.mem_cons_of_mem _ there)
      rw [List.cons_append, forall_ruleReads_cons, behind]
      cases held : holds buf len rule.tests with
      | true => simpa [held] using ⟨inside, done held⟩
      | false => simpa [held] using fun _ => inside

theorem forall_guarded (guarded : ∀ rule ∈ rules, rule.guarded later = true) :
    ∀ read ∈ ruleReads buf len later rules, read < len := by
  have all := @forall_guarded_append _ buf len _ [] _ guarded
  rw [List.append_nil] at all
  exact all.mpr (.inr fun _ none => absurd none List.not_mem_nil)

end Bytes
