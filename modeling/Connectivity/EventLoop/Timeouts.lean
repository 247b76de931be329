import Connectivity.EventLoop.Loop
import Connectivity.Table.DeadlineQueue

set_option autoImplicit false

/- What becomes of the timeouts along the runs of the event loop. -/
namespace Connectivity.EventLoop

open DeadlineQueue Transition

def Timeout.due (timeout : Timeout) : Nat := timeout.time.micros

theorem insertTimeout_eq (timeout : Timeout) (queue : List Timeout) :
    insertTimeout timeout queue = enqueue Timeout.due timeout queue := by
  induction queue with
  | nil => rfl
  | cons tmp next ih =>
      simp only [insertTimeout, enqueue, List.orderedInsert_cons, OsTime.before_iff] at ih ⊢
      rw [ih]
      rfl

/-- A timeout with the clock at its registration and the delay that was asked for. -/
structure Registration where
  timeout : Timeout
  clock : OsTime
  delay : Nat

/-- A timeout that ran, with the clock and with what was pending. -/
structure Run where
  timeout : Timeout
  clock : OsTime
  pending : List Timeout

/-- What has become of the timeouts; those that are pending in the order of their registration. -/
structure Book where
  registered : List Registration
  pending : List Timeout
  cancelled : List Timeout
  ran : List Run
  slept : OsTime

namespace Book

def empty (now : OsTime) : Book := ⟨[], [], [], [], now⟩

def record (book : Book) (s : Eloop) : Eloop.Event → Eloop → Book
  | .call (.register_timeout secs usecs handler eloop_data user_data), _ =>
      let time := OsTime.carry (s.now.sec + secs) (s.now.usec + usecs)
      let timeout : Timeout := ⟨time, eloop_data, user_data, handler⟩
      { book with
        registered := book.registered ++ [⟨timeout, s.now, secs * 1000000 + usecs⟩]
        pending := book.pending ++ [timeout] }
  | .call (.cancel_timeout handler eloop_data user_data), _ =>
      { book with
        pending := book.pending.filter fun t => !t.matches handler eloop_data user_data
        cancelled := book.cancelled ++
          book.pending.filter fun t => t.matches handler eloop_data user_data }
  | .advance, t =>
      match t.running with
      | some (.timeout first) =>
          { book with
            pending := book.pending.erase first
            ran := book.ran ++ [⟨first, s.now, book.pending⟩] }
      | _ => if s.place = .condition then { book with slept := s.now } else book
  | _, _ => book

end Book

/-- The time that `select` waits, in microseconds. -/
def microsOf (wait : Int × Int) : Int := wait.1 * 1000000 + wait.2

/-- The queue is the stable sort of what is pending by the time it is due. Each timeout that was
registered is pending, has run or was cancelled, once. None ran before its time, and the one that
ran was the first of those pending. `select` waits until the first one is due. -/
structure Timely (p : Eloop × Book) : Prop where
  queue : p.1.timeout = queueOf Timeout.due p.2.pending
  accounted : (p.2.registered.map Registration.timeout).Perm
    (p.2.pending ++ p.2.ran.map Run.timeout ++ p.2.cancelled)
  deadline : ∀ r ∈ p.2.registered, r.timeout.due = r.clock.micros + r.delay
  due : ∀ run ∈ p.2.ran, run.timeout.due ≤ run.clock.micros
  first : ∀ run ∈ p.2.ran, First Timeout.due run.timeout run.pending
  wait : ∀ wait, p.1.place = .sleeping wait →
    wait.map microsOf = p.1.timeout.head?.map fun first =>
      ((first.due - p.2.slept.micros : Nat) : Int)

theorem wait_micros (s : Eloop) :
    s.wait.map microsOf = s.timeout.head?.map fun first =>
      ((first.due - s.now.micros : Nat) : Int) := by
  unfold Eloop.wait
  cases s.timeout with
  | nil => rfl
  | cons first rest =>
      simp only [List.head?_cons, Option.map_some]
      split
      · rename_i before
        have less := OsTime.before_iff.mp before
        have sub := (first.time.sub_micros s.now).1
        simp only [Option.map_some, microsOf, sub, Timeout.due, Option.some.injEq]
        omega
      · rename_i due
        have atLeast := OsTime.not_before_iff.mp (by simpa using due)
        simp [microsOf, Timeout.due, Nat.sub_eq_zero_of_le atLeast]

/-- Nothing runs while the thread sleeps. -/
structure Kept (p : Eloop × Book) : Prop extends Timely p where
  idle : ∀ wait, p.1.place = .sleeping wait → p.1.running = none

section Steps

variable {s t : Eloop} {book : Book}

theorem kept_init (now : OsTime) : Kept (.init now, .empty now) := by
  refine ⟨⟨rfl, .nil, ?_, ?_, ?_, ?_⟩, fun _ _ => rfl⟩ <;> simp [Book.empty, Eloop.init]

theorem Kept.same (kept : Kept (s, book)) (queue : t.timeout = s.timeout)
    (asleep : ∀ wait, t.place = .sleeping wait → s.place = .sleeping wait ∧ t.running = none) :
    Kept (t, book) := by
  refine ⟨⟨queue.trans kept.queue, kept.accounted, kept.deadline, kept.due, kept.first, ?_⟩, ?_⟩
  · intro wait place
    rw [queue]
    exact kept.wait wait (asleep wait place).1
  · exact fun wait place => (asleep wait place).2

theorem Kept.awake (kept : Kept (s, book)) (may : s.running ≠ none ∨ s.place = .outside)
    (wait : Option (Int × Int)) : s.place ≠ .sleeping wait := by
  intro asleep
  rcases may with running | outside
  · exact running (kept.idle wait asleep)
  · rw [outside] at asleep
    cases asleep

theorem kept_register (kept : Kept (s, book)) (may : s.running ≠ none ∨ s.place = .outside)
    (secs usecs handler eloop_data user_data : Nat) :
    Kept (s.eloop_register_timeout secs usecs handler eloop_data user_data,
      book.record s (.call (.register_timeout secs usecs handler eloop_data user_data)) s) := by
  refine ⟨⟨?_, ?_, ?_, kept.due, kept.first,
    fun wait asleep => absurd asleep (kept.awake may wait)⟩,
    fun wait asleep => absurd asleep (kept.awake may wait)⟩
  · simp only [Eloop.eloop_register_timeout, Book.record, insertTimeout_eq, queueOf_append]
    rw [kept.queue]
  · simp only [Book.record, List.map_append, List.map_cons, List.map_nil]
    apply (List.perm_append_singleton _ _).trans
    apply (kept.accounted.cons _).trans
    simp only [List.append_assoc, List.singleton_append]
    exact List.perm_middle.symm
  · intro r member
    rcases List.mem_append.mp member with old | new
    · exact kept.deadline r old
    · rw [List.mem_singleton.mp new]
      simp only [Timeout.due, OsTime.micros_carry]
      simp only [OsTime.micros]
      omega

theorem kept_cancel (kept : Kept (s, book)) (may : s.running ≠ none ∨ s.place = .outside)
    (handler eloop_data user_data : Nat) :
    Kept (s.eloop_cancel_timeout handler eloop_data user_data,
      book.record s (.call (.cancel_timeout handler eloop_data user_data)) s) := by
  refine ⟨⟨?_, ?_, kept.deadline, kept.due, kept.first,
    fun wait asleep => absurd asleep (kept.awake may wait)⟩,
    fun wait asleep => absurd asleep (kept.awake may wait)⟩
  · simp only [Eloop.eloop_cancel_timeout, Book.record]
    rw [kept.queue, queueOf_filter]
  · apply kept.accounted.trans
    have split := List.filter_append_perm
      (fun t => Timeout.matches t handler eloop_data user_data) book.pending
    rw [List.perm_iff_count]
    intro timeout
    have count := split.count_eq timeout
    simp only [Book.record, List.count_append] at count ⊢
    omega

theorem kept_call (kept : Kept (s, book)) (may : s.running ≠ none ∨ s.place = .outside)
    (c : Eloop.Call) : Kept (s.call c, book.record s (.call c) (s.call c)) := by
  have asleep : ∀ wait, s.place ≠ .sleeping wait := kept.awake may
  cases c with
  | register_timeout secs usecs handler eloop_data user_data =>
      exact kept_register kept may secs usecs handler eloop_data user_data
  | cancel_timeout handler eloop_data user_data =>
      exact kept_cancel kept may handler eloop_data user_data
  | register_sock type entry | register_signal sig handler user_data moved | terminate =>
      exact kept.same rfl fun wait place => absurd place (asleep wait)
  | unregister_sock type sock =>
      simp only [Eloop.call, Eloop.eloop_sock_table_remove_sock]
      split
      all_goals exact kept.same rfl fun wait place => absurd place (asleep wait)

/-- The first timeout runs: it was pending, and is due. -/
theorem kept_timeout (kept : Kept (s, book)) {first : Timeout} {rest : List Timeout}
    {place : Place} (queue : s.timeout = first :: rest) (due : s.now.before first.time = false)
    (awake : ∀ wait, place ≠ .sleeping wait) :
    Kept ({ s with timeout := rest, running := some (.timeout first), place := place },
      { book with
        pending := book.pending.erase first
        ran := book.ran ++ [⟨first, s.now, book.pending⟩] }) := by
  have head : queueOf Timeout.due book.pending = first :: rest := by
    rw [← kept.queue]
    exact queue
  have member : first ∈ book.pending := by
    apply (queueOf_perm book.pending).subset
    rw [head]
    exact List.mem_cons_self
  refine ⟨⟨(queueOf_erase head).symm, ?_, kept.deadline, ?_, ?_,
    fun wait asleep => absurd asleep (awake wait)⟩, fun wait asleep => absurd asleep (awake wait)⟩
  · apply kept.accounted.trans
    rw [List.perm_iff_count]
    intro timeout
    have count := (List.perm_cons_erase member).count_eq timeout
    simp only [List.map_append, List.map_cons, List.map_nil, List.count_append, List.count_cons,
      List.count_nil] at count ⊢
    omega
  · intro run inside
    rcases List.mem_append.mp inside with old | new
    · exact kept.due run old
    · rw [List.mem_singleton.mp new]
      exact OsTime.not_before_iff.mp due
  · intro run inside
    rcases List.mem_append.mp inside with old | new
    · exact kept.first run old
    · rw [List.mem_singleton.mp new]
      exact first_of_queueOf head

theorem kept_advance (kept : Kept (s, book)) (idle : s.running = none) (taken : s.Advance t) :
    Kept (t, book.record s .advance t) := by
  have moved : ∀ t : Eloop, t.timeout = s.timeout → s.place ≠ .condition →
      (∀ timeout, t.running ≠ some (.timeout timeout)) → (∀ wait, t.place ≠ .sleeping wait) →
      Kept (t, book.record s .advance t) := by
    intro t queue place other awake
    have unrecorded : book.record s .advance t = book := by
      cases running : t.running with
      | none => simp [Book.record, running, place]
      | some invocation =>
          cases invocation with
          | timeout first => exact absurd running (other first)
          | sock type entry | signal entry => simp [Book.record, running, place]
    rw [unrecorded]
    exact kept.same queue fun wait asleep => absurd asleep (awake wait)
  cases taken with
  | sleep place going =>
      simp only [Book.record, idle, place, if_true]
      refine ⟨⟨kept.queue, kept.accounted, kept.deadline, kept.due, kept.first, ?_⟩, fun _ _ => rfl⟩
      intro wait asleep
      cases asleep
      exact wait_micros s
  | leave place =>
      simp only [Book.record, idle, place, if_true]
      refine ⟨⟨kept.queue, kept.accounted, kept.deadline, kept.due, kept.first, ?_⟩, ?_⟩
      all_goals
        intro wait asleep
        cases asleep
  | timeout place queue due => exact kept_timeout kept queue due (by simp)
  | clear place | disarmed place | again place | ready place | enter place =>
      exact moved _ rfl (by simp [place]) (by simp [idle]) (by simp)
  | quiet place why | signaled place why | alarm place why | calm place why
  | lastSignal place why | early place why | unchanged place why =>
      exact moved _ rfl (by simp [place]) (by simp [idle]) (by simp)
  | skipSignal place found why | signal place found why | skipSock place found why
  | sock place found why =>
      exact moved _ rfl (by simp [place]) (by simp [idle]) (by simp)
  | @lastSock type fds i place why | @changed type fds i place why =>
      refine moved _ rfl (by simp [place]) (by simp [idle]) fun wait => ?_
      cases type <;> simp [Eloop.next]

/-- The step lemma. -/
theorem kept_step {p q : Eloop × Book} {e : Eloop.Event} (kept : Kept p)
    (taken : traced Eloop.step Book.record p e = some q) : Kept q := by
  obtain ⟨s, book⟩ := p
  obtain ⟨t, done, same⟩ := Option.map_eq_some_iff.mp taken
  subst same
  cases e with
  | run =>
      obtain ⟨_, same⟩ := Option.ite_none_right_eq_some.mp done
      cases same
      exact kept.same rfl fun wait asleep => by cases asleep
  | advance =>
      obtain ⟨⟨idle, _⟩, same⟩ := Option.ite_none_right_eq_some.mp done
      exact kept_advance kept idle (s.advance_cases same)
  | selected result =>
      have leaves : t.timeout = s.timeout ∧ ∀ wait, t.place ≠ .sleeping wait := by
        simp only [Eloop.step] at done
        split at done
        · cases done
          exact ⟨rfl, by simp⟩
        · cases done
          exact ⟨rfl, by simp⟩
        · obtain ⟨_, same⟩ := Option.ite_none_right_eq_some.mp done
          cases same
          exact ⟨rfl, by simp⟩
        · cases done
      exact kept.same leaves.1 fun wait asleep => absurd asleep (leaves.2 wait)
  | call c =>
      obtain ⟨⟨may, _⟩, same⟩ := Option.ite_none_right_eq_some.mp done
      cases same
      exact kept_call kept may c
  | registered =>
      obtain ⟨r, _, same⟩ := Option.map_eq_some_iff.mp done
      cases same
      exact kept.same rfl fun wait asleep => ⟨asleep, kept.idle wait asleep⟩
  | ret =>
      obtain ⟨_, same⟩ := Option.ite_none_right_eq_some.mp done
      cases same
      exact kept.same rfl fun wait asleep => ⟨asleep, rfl⟩
  | clock now =>
      cases done
      exact kept.same rfl fun wait asleep => ⟨asleep, kept.idle wait asleep⟩
  | caught sig =>
      obtain ⟨_, same⟩ := Option.ite_none_right_eq_some.mp done
      cases same
      have unchanged : (s.eloop_handle_signal sig).timeout = s.timeout ∧
          (s.eloop_handle_signal sig).place = s.place ∧
          (s.eloop_handle_signal sig).running = s.running := by
        unfold Eloop.eloop_handle_signal
        split <;> exact ⟨rfl, rfl, rfl⟩
      refine kept.same unchanged.1 fun wait asleep => ?_
      rw [unchanged.2.1] at asleep
      exact ⟨asleep, unchanged.2.2.trans (kept.idle wait asleep)⟩

end Steps

/-- Along every run of the loop, whatever its handlers call and whenever signals come. -/
theorem eloop_timely (now : OsTime) (events : List Eloop.Event) :
    AllStates (traced Eloop.step Book.record) Timely (.init now, .empty now) events :=
  (allStates_of_kept (fun _ _ _ kept taken => kept_step kept taken) (kept_init now)).imp
    fun _ kept => kept.toTimely

end Connectivity.EventLoop
