import Connectivity.Hci.FdWatcher

set_option autoImplicit false

/- Whether `StopWatchingFileDescriptors` returns. -/
namespace Connectivity.Hci.AsyncFdWatcher

open Transition

variable {κ : Type}

/-- A step of the watcher's thread. -/
def Event.ofThread : Event κ → Bool
  | .threadRoutine | .selected _ | .returned => true
  | _ => false

/-- What comes while the client waits: steps of the thread, and `ConfigureTimeout`. -/
def Event.meanwhile : Event κ → Bool
  | .threadRoutine | .selected _ | .returned | .configureTimeout _ _ | .notifyThread => true
  | _ => false

/-- `select` returns for another reason than an error or the time. -/
def Event.prompt : Event κ → Bool
  | .selected .error | .selected .timedOut => false
  | _ => true

section Stop

variable {s t : AsyncFdWatcher κ}

/-- A bound on the steps of a thread that is to stop. -/
def turnsLeft (s : AsyncFdWatcher κ) : Nat :=
  match s.loop with
  | .absent | .exited => 0
  | .head => 1
  | .timing _ | .notified => 2
  | .expired => 3
  | .pass _ rest => 2 * rest.length + 2
  | .calling _ _ _ rest => 2 * rest.length + 3
  | .lock _ => 2 * s.watchedFds.length + 3
  | .sleeping _ _ => 2 * s.watchedFds.length + 4
  | .measure _ => 2 * s.watchedFds.length + 5
  | .collect => 2 * s.watchedFds.length + 6

/-- The client waits for a thread that is to stop, with so many descriptors in the map. -/
structure Joining (s : AsyncFdWatcher κ) (count : Nat) : Prop where
  stopping : s.running = false
  place : s.client = .join
  count : s.watchedFds.length = count

theorem turn_threadRoutine (off : s.running = false) (taken : s.threadStep = some t) :
    t.turnsLeft < s.turnsLeft := by
  cases place : s.loop with
  | absent | sleeping | timing | calling | exited => simp [threadStep, place] at taken
  | head | collect | measure | notified | lock =>
      simp only [threadStep, place, Option.some.injEq] at taken
      subst taken
      simp [turnsLeft, place, off]
  | expired =>
      simp only [threadStep, place] at taken
      split at taken <;> cases taken <;> simp [turnsLeft, place]
  | pass ready rest =>
      cases rest with
      | nil =>
          simp only [threadStep, place, Option.some.injEq] at taken
          subst taken
          simp [turnsLeft, place]
      | cons first rest =>
          simp only [threadStep, place, Option.some.injEq] at taken
          subst taken
          by_cases isReady : first.1 ∈ ready
          · simp only [turnsLeft, place, isReady, if_true, List.length_cons]
            omega
          · simp only [turnsLeft, place, isReady, if_false, List.length_cons]
            omega

theorem turn_select {result : Selected} (taken : s.select result = some t) :
    t.turnsLeft < s.turnsLeft := by
  unfold select at taken
  split at taken
  · rename_i place
    cases taken
    simp [turnsLeft, place]
  · rename_i place
    obtain ⟨_, same⟩ := Option.ite_none_right_eq_some.mp taken
    cases same
    simp only [turnsLeft, place]
    omega
  · rename_i place
    split at taken
    · cases taken
      simp only [turnsLeft, place]
      omega
    · obtain ⟨_, same⟩ := Option.ite_none_right_eq_some.mp taken
      cases same
      simp [turnsLeft, place]
  · cases taken

theorem turn_returned (taken : s.returned = some t) : t.turnsLeft < s.turnsLeft := by
  unfold returned at taken
  split at taken
  · rename_i place
    cases taken
    simp [turnsLeft, place]
  · rename_i place
    cases taken
    simp [turnsLeft, place]
  · cases taken

/-- The thread changes nothing but its place and the pipe. -/
theorem thread_frame {e : Event κ} (own : e.ofThread = true) (taken : s.handle e = some t) :
    ∃ l pipe, t = { s with loop := l, pipe := pipe } := by
  cases e with
  | threadRoutine =>
      simp only [handle, threadStep] at taken
      split at taken
      case h_4 => split at taken <;> cases taken <;> exact ⟨_, _, rfl⟩
      all_goals
        cases taken
        try exact ⟨_, _, rfl⟩
  | selected result =>
      simp only [handle, select] at taken
      split at taken
      · cases taken
        exact ⟨_, _, rfl⟩
      · obtain ⟨_, same⟩ := Option.ite_none_right_eq_some.mp taken
        cases same
        exact ⟨_, _, rfl⟩
      · split at taken
        · cases taken
          exact ⟨_, _, rfl⟩
        · obtain ⟨_, same⟩ := Option.ite_none_right_eq_some.mp taken
          cases same
          exact ⟨_, _, rfl⟩
      · cases taken
  | returned =>
      simp only [handle, returned] at taken
      split at taken <;> cases taken <;> exact ⟨_, _, rfl⟩
  | watchFdForNonBlockingReads | stopWatchingFileDescriptors | client | pipe2 | configureTimeout
  | notifyThread | stopOnThread | own => cases own

theorem turn_thread {e : Event κ} (off : s.running = false) (own : e.ofThread = true)
    (taken : s.handle e = some t) : t.turnsLeft < s.turnsLeft := by
  cases e with
  | threadRoutine => exact turn_threadRoutine off taken
  | selected result => exact turn_select taken
  | returned => exact turn_returned taken
  | watchFdForNonBlockingReads | stopWatchingFileDescriptors | client | pipe2 | configureTimeout
  | notifyThread | stopOnThread | own => cases own

/-- One step while the client waits, whoever takes it. -/
theorem joining_step {count : Nat} {e : Event κ} (joining : s.Joining count)
    (meanwhile : e.meanwhile = true) (taken : s.handle e = some t) :
    t.Joining count ∧ e.orderly = true ∧
      t.turnsLeft + (if e.ofThread then 1 else 0) ≤ s.turnsLeft := by
  have place := joining.place
  by_cases own : e.ofThread = true
  · have fewer := turn_thread joining.stopping own taken
    obtain ⟨l, pipe, rfl⟩ := thread_frame own taken
    refine ⟨⟨joining.stopping, place, joining.count⟩, ?_, by rw [if_pos own]; omega⟩
    cases e <;> first | rfl | cases own
  · rw [if_neg own]
    cases e with
    | client | watchFdForNonBlockingReads | stopWatchingFileDescriptors | pipe2 | stopOnThread
    | own => cases meanwhile
    | configureTimeout timeout cb =>
        cases taken
        exact ⟨⟨joining.stopping, place, joining.count⟩, rfl, Nat.le_refl _⟩
    | notifyThread =>
        obtain ⟨_, same⟩ := Option.ite_none_right_eq_some.mp taken
        cases same
        exact ⟨⟨joining.stopping, place, joining.count⟩, rfl, Nat.le_refl _⟩
    | threadRoutine | selected | returned => exact absurd rfl own

theorem joining_run {count : Nat} {waits : List (Event κ)} {book : Book κ} (inv : Inv (s, book))
    (joining : s.Joining count) (held : ∀ e ∈ waits, e.meanwhile = true)
    (later : exec step s waits = some t) :
    (∃ book, Inv (t, book)) ∧ t.Joining count ∧
      waits.countP Event.ofThread + t.turnsLeft ≤ s.turnsLeft := by
  induction waits generalizing s book with
  | nil =>
      cases later
      exact ⟨⟨book, inv⟩, joining, by simp⟩
  | cons e rest ih =>
      obtain ⟨next, taken, later⟩ := Option.bind_eq_some_iff.mp later
      have handled : s.handle e = some next := (Option.ite_none_left_eq_some.mp taken).2
      obtain ⟨still, orderly, fewer⟩ := joining_step joining (held e List.mem_cons_self) handled
      obtain ⟨kept, last, few⟩ := ih (inv_step inv orderly taken) still
        (fun other member => held other (List.mem_cons_of_mem e member)) later
      refine ⟨kept, last, ?_⟩
      rw [List.countP_cons]
      omega

theorem turnsLeft_le {book : Book κ} (inv : Inv (s, book)) :
    s.turnsLeft ≤ 2 * s.watchedFds.length + 6 := by
  have seat : s.Seat book s.loop := inv.seat
  cases place : s.loop with
  | pass ready rest =>
      rw [place] at seat
      have shorter := seat.length_le
      simp only [turnsLeft, place]
      omega
  | calling ready fd cb rest =>
      rw [place] at seat
      have shorter := seat.1.length_le
      rw [List.length_cons] at shorter
      simp only [turnsLeft, place]
      omega
  | absent | head | collect | measure | sleeping | expired | timing | notified | lock | exited =>
      simp only [turnsLeft, place]
      omega

/-- Until it has ended, a thread that is to stop can go on. -/
theorem joining_enabled {book : Book κ} {count : Nat} (inv : Inv (s, book))
    (joining : s.Joining count) :
    (s.loop = .exited ∧ (s.step .client).isSome = true) ∨
      ∃ e : Event κ, e.ofThread = true ∧ e.prompt = true ∧ (s.step e).isSome = true := by
  have alive : ¬ s.died = true := by simp [show s.died = false from inv.alive]
  have own : s.own = .idle := inv.own
  have phase : s.Phase s.client := inv.phase
  rw [joining.place] at phase
  obtain ⟨stopping, woken⟩ := phase
  simp only [step, if_neg alive]
  cases place : s.loop with
  | absent => exact absurd place stopping.present
  | exited =>
      refine Or.inl ⟨rfl, ?_⟩
      simp [handle, clientStep, stopStep, joining.place, stopping.joinable, place]
  | head | collect | measure | notified | lock =>
      exact Or.inr ⟨.threadRoutine, rfl, rfl, by simp [handle, threadStep, place]⟩
  | expired =>
      refine Or.inr ⟨.threadRoutine, rfl, rfl, ?_⟩
      simp only [handle, threadStep, place]
      split <;> rfl
  | pass ready rest =>
      refine Or.inr ⟨.threadRoutine, rfl, rfl, ?_⟩
      cases rest <;> simp [handle, threadStep, place]
  | timing | calling => exact Or.inr ⟨.returned, rfl, rfl, by simp [handle, returned, own, place]⟩
  | sleeping fds timeout =>
      have byte : 0 < s.pipe.bytes := by simpa [place] using woken
      exact Or.inr ⟨.selected (.ready []), rfl, rfl, by simp [handle, select, place, byte]⟩

end Stop

/-- A stop returns: however timeouts are configured while it waits, the thread takes a bounded
number of steps, and until it has ended it always can take one, without an error of `select` or the
end of a timeout. -/
theorem stop_returns {events waits : List (Event κ)} {s t : AsyncFdWatcher κ}
    (orderly : ∀ e ∈ events, e.orderly = true) (run : exec step new events = some s)
    (joining : s.client = .join) (held : ∀ e ∈ waits, e.meanwhile = true)
    (later : exec step s waits = some t) :
    waits.countP Event.ofThread ≤ 2 * s.watchedFds.length + 6 ∧
      ((t.loop = .exited ∧ (t.step .client).isSome = true) ∨
        ∃ e : Event κ, e.ofThread = true ∧ e.prompt = true ∧ (t.step e).isSome = true) := by
  have inv : Inv (s, history step Book.record new .empty events) :=
    (inv_run orderly).last (by rw [exec_traced, run]; rfl)
  have phase : s.Phase s.client := inv.phase
  rw [joining] at phase
  obtain ⟨⟨book, kept⟩, last, few⟩ :=
    joining_run inv ⟨phase.1.running, joining, rfl⟩ held later
  refine ⟨?_, joining_enabled kept last⟩
  have bound := turnsLeft_le inv
  omega

/-- The stop comes while the thread sleeps. -/
theorem stop_returns_asleep :
    let events : List (Event Nat) := [.watchFdForNonBlockingReads 3 30, .client, .pipe2 true,
      .client, .threadRoutine, .threadRoutine, .threadRoutine, .stopWatchingFileDescriptors,
      .client]
    let waits : List (Event Nat) :=
      [.selected (.ready []), .configureTimeout 500 31, .threadRoutine]
    ∃ s t, exec step new events = some s ∧ exec step s waits = some t ∧
      waits.countP Event.ofThread ≤ 2 * s.watchedFds.length + 6 ∧
      ((t.loop = .exited ∧ (t.step .client).isSome = true) ∨
        ∃ e : Event Nat, e.ofThread = true ∧ e.prompt = true ∧ (t.step e).isSome = true) := by
  intro events waits
  refine ⟨_, _, rfl, rfl, @stop_returns Nat events waits _ _ ?_ rfl rfl ?_ rfl⟩
  · simp [events, Event.orderly]
  · simp [waits, Event.meanwhile]

end Connectivity.Hci.AsyncFdWatcher
