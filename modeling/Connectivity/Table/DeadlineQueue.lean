import Mathlib.Data.List.Induction
import Mathlib.Data.List.Sort

set_option autoImplicit false

/- Queues ordered by a key, in which what has the same key keeps the order in which it came: the
queue of a list of arrivals is its stable sort. -/
namespace DeadlineQueue

variable {α : Type} (key : α → Nat)

/-- In front of what has a later key, behind what has the same. -/
def enqueue (a : α) (queue : List α) : List α := queue.orderedInsert (fun a b => key a < key b) a

def queueOf (arrivals : List α) : List α :=
  arrivals.foldl (fun queue a => enqueue key a queue) []

def InOrder (queue : List α) : Prop := queue.Pairwise fun a b => key a ≤ key b

/-- The element that is due first, the first to have come among those due with it. -/
def First (a : α) (arrivals : List α) : Prop :=
  ∃ earlier later, arrivals = earlier ++ a :: later ∧ (∀ b ∈ earlier, key a < key b) ∧
    ∀ b ∈ later, key a ≤ key b

variable {key} {a : α} {queue arrivals : List α}

theorem enqueue_perm (a : α) (queue : List α) : (enqueue key a queue).Perm (a :: queue) :=
  List.perm_orderedInsert _ a queue

theorem enqueue_inOrder (ordered : InOrder key queue) : InOrder key (enqueue key a queue) := by
  unfold InOrder at ordered ⊢
  induction queue with
  | nil => simp [enqueue]
  | cons b rest ih =>
      obtain ⟨first, tail⟩ := List.pairwise_cons.mp ordered
      simp only [enqueue, List.orderedInsert_cons]
      split
      · rename_i before
        apply List.pairwise_cons.mpr ⟨fun c member => ?_, ordered⟩
        rcases List.mem_cons.mp member with same | inside
        · rw [same]
          omega
        · have := first c inside
          omega
      · rename_i notBefore
        apply List.pairwise_cons.mpr ⟨fun c member => ?_, ih tail⟩
        rcases List.mem_cons.mp ((enqueue_perm a rest).subset member) with same | inside
        · rw [same]
          omega
        · exact first c inside

theorem queueOf_append (arrivals : List α) (a : α) :
    queueOf key (arrivals ++ [a]) = enqueue key a (queueOf key arrivals) := by
  simp [queueOf]

theorem queueOf_perm (arrivals : List α) : (queueOf key arrivals).Perm arrivals := by
  induction arrivals using List.reverseRecOn with
  | nil => exact .nil
  | append_singleton earlier a ih =>
      rw [queueOf_append]
      apply (enqueue_perm a _).trans
      apply (ih.cons a).trans
      exact (List.perm_append_singleton a earlier).symm

theorem queueOf_inOrder (arrivals : List α) : InOrder key (queueOf key arrivals) := by
  induction arrivals using List.reverseRecOn with
  | nil => simp [InOrder, queueOf]
  | append_singleton earlier a ih =>
      rw [queueOf_append]
      exact enqueue_inOrder ih

/-- In front of a queue that is later throughout. -/
theorem enqueue_of_forall_lt (later : ∀ b ∈ queue, key a < key b) :
    enqueue key a queue = a :: queue := by
  cases queue with
  | nil => rfl
  | cons b rest => exact List.orderedInsert_cons_of_le _ rest (later b List.mem_cons_self)

theorem enqueue_filter (ordered : InOrder key queue) (p : α → Bool) :
    (enqueue key a queue).filter p =
      if p a then enqueue key a (queue.filter p) else queue.filter p := by
  induction queue with
  | nil => by_cases keeps : p a <;> simp [enqueue, keeps]
  | cons b rest ih =>
      obtain ⟨first, tail⟩ := List.pairwise_cons.mp ordered
      by_cases before : key a < key b
      · have later : ∀ c ∈ (b :: rest).filter p, key a < key c := by
          intro c member
          rcases List.mem_cons.mp (List.mem_of_mem_filter member) with same | inside
          · rw [same]
            exact before
          · have := first c inside
            omega
        rw [enqueue, List.orderedInsert_cons_of_le _ rest before, List.filter_cons,
          enqueue_of_forall_lt later]
      · have ih := ih tail
        rw [enqueue, List.orderedInsert_of_not_le _ rest before, List.filter_cons]
        unfold enqueue at ih ⊢
        by_cases keeps : p b
        · simp only [keeps, if_true, List.filter_cons, ih]
          split
          · rw [List.orderedInsert_cons, if_neg before]
          · rfl
        · simp only [keeps, Bool.false_eq_true, if_false, List.filter_cons, ih]

/-- What leaves the queue might never have come. -/
theorem queueOf_filter (arrivals : List α) (p : α → Bool) :
    (queueOf key arrivals).filter p = queueOf key (arrivals.filter p) := by
  induction arrivals using List.reverseRecOn with
  | nil => rfl
  | append_singleton earlier a ih =>
      rw [queueOf_append, enqueue_filter (queueOf_inOrder earlier), ih, List.filter_append]
      by_cases keeps : p a
      · simp [keeps, queueOf_append]
      · simp [keeps]

/-- The head of the queue is due first; the rest is the queue of the other arrivals. -/
theorem queueOf_eq_cons {rest : List α} (head : queueOf key arrivals = a :: rest) :
    ∃ earlier later, arrivals = earlier ++ a :: later ∧ (∀ b ∈ earlier, key a < key b) ∧
      (∀ b ∈ later, key a ≤ key b) ∧ queueOf key (earlier ++ later) = rest := by
  induction arrivals using List.reverseRecOn generalizing rest with
  | nil => cases head
  | append_singleton before last ih =>
      rw [queueOf_append] at head
      have ordered := @queueOf_inOrder α key before
      have same := @queueOf_perm α key before
      cases queue : queueOf key before with
      | nil =>
          rw [queue] at head same
          cases head
          have none := same.nil_eq
          subst none
          exact ⟨[], [], rfl, by simp, by simp, rfl⟩
      | cons b others =>
          rw [queue] at head ordered same
          obtain ⟨first, _⟩ := List.pairwise_cons.mp ordered
          by_cases less : key last < key b
          · rw [enqueue, List.orderedInsert_cons_of_le _ others less] at head
            cases head
            refine ⟨before, [], rfl, fun c member => ?_, by simp, by rw [List.append_nil, queue]⟩
            rcases List.mem_cons.mp (same.symm.subset member) with equal | inside
            · rw [equal]
              exact less
            · have := first c inside
              omega
          · rw [enqueue, List.orderedInsert_of_not_le _ others less] at head
            cases head
            obtain ⟨earlier, later, split, greater, atLeast, left⟩ := ih queue
            refine ⟨earlier, later ++ [last], by simp [split], greater, fun c member => ?_, ?_⟩
            · rcases List.mem_append.mp member with old | new
              · exact atLeast c old
              · rw [List.mem_singleton.mp new]
                omega
            · rw [← List.append_assoc, queueOf_append, left]
              rfl

theorem first_of_queueOf {rest : List α} (head : queueOf key arrivals = a :: rest) :
    First key a arrivals := by
  obtain ⟨earlier, later, split, greater, atLeast, _⟩ := queueOf_eq_cons head
  exact ⟨earlier, later, split, greater, atLeast⟩

/-- Taking the head away is taking its arrival away. -/
theorem queueOf_erase [DecidableEq α] {rest : List α} (head : queueOf key arrivals = a :: rest) :
    queueOf key (arrivals.erase a) = rest := by
  obtain ⟨earlier, later, split, greater, _, left⟩ := queueOf_eq_cons head
  have absent : a ∉ earlier := fun member => Nat.lt_irrefl _ (greater a member)
  rw [split, List.erase_append_right _ absent, List.erase_cons_head, left]

end DeadlineQueue
