import Connectivity.Transition.Run
import Connectivity.Table.Keyed
import Mathlib.Data.Nat.Basic
import Mathlib.Logic.Function.Basic

set_option autoImplicit false

/- The watcher of file descriptors. `WatchFdForNonBlockingReads` and `StopWatchingFileDescriptors`
come one after the other, but for a stop that a callback calls on the watcher's own thread;
`ConfigureTimeout` comes from any thread at any time, from callbacks too. What a thread does between
two calls that may block is one step. -/
namespace Connectivity.Hci

open Transition Table

/-- The notification pipe: not made yet, with so many bytes in it, or closed. -/
inductive Pipe
  | invalid | opened (bytes : Nat) | closed
deriving DecidableEq, Repr

namespace Pipe

def bytes : Pipe → Nat
  | .opened bytes => bytes
  | .invalid | .closed => 0

def isOpen : Pipe → Bool
  | .opened _ => true
  | .invalid | .closed => false

/-- A pipe takes so many bytes that nobody has read. -/
def capacity : Nat := 65536

def write : Pipe → Pipe
  | .opened bytes => .opened (min (bytes + 1) capacity)
  | pipe => pipe

def read : Pipe → Pipe
  | .opened bytes => .opened (bytes - 1)
  | pipe => pipe

variable (pipe : Pipe)

@[simp]
theorem isOpen_write : pipe.write.isOpen = pipe.isOpen := by cases pipe <;> rfl

@[simp]
theorem isOpen_read : pipe.read.isOpen = pipe.isOpen := by cases pipe <;> rfl

theorem pos_write (opened : pipe.isOpen = true) : 0 < pipe.write.bytes := by
  cases pipe with
  | opened bytes => exact Nat.lt_min.mpr ⟨Nat.succ_pos bytes, by decide⟩
  | invalid | closed => cases opened

theorem pos_mono (pos : 0 < pipe.bytes) : 0 < pipe.write.bytes := by
  apply pos_write
  cases pipe with
  | opened bytes => rfl
  | invalid | closed => cases pos

end Pipe

namespace AsyncFdWatcher

/-- Where `ThreadRoutine` is: nowhere, at the condition of its loop, at the set for `select`, at its
timeout, in `select`, and in one of the three branches behind it. It runs callbacks with no mutex
when a timeout is over and with the one of the map when there is data. -/
inductive Loop (κ : Type)
  | absent | head | collect
  | measure (fds : List Nat)
  | sleeping (fds : List Nat) (timeout : Option Nat)
  | expired | timing (cb : κ) | notified
  | lock (ready : List Nat)
  | pass (ready : List Nat) (rest : List (Nat × κ))
  | calling (ready : List Nat) (fd : Nat) (cb : κ) (rest : List (Nat × κ))
  | exited

def Loop.isAbsent {κ : Type} : Loop κ → Bool
  | .absent => true
  | _ => false

/-- What the thread that starts and stops the watcher has come to: `tryStartThread` up to `thread`,
`stopThread` from `notify` on. -/
inductive Client
  | idle | exchange | pipe | thread | notify | join | clear | clearTimeout | close
deriving DecidableEq, Repr

inductive Selected
  | error | timedOut | ready (fds : List Nat)

end AsyncFdWatcher

open AsyncFdWatcher in
/-- `own` is what a stop on the watcher's own thread has come to. `pending` calls of
`ConfigureTimeout` have set the timeout and not yet written to the pipe; `stray` counts the writes
to a descriptor that is no pipe's, invalid or closed. -/
structure AsyncFdWatcher (κ : Type) where
  running : Bool
  joinable : Bool
  pipe : Pipe
  watchedFds : List (Nat × κ)
  timeoutMs : Nat
  timeoutCb : Option κ
  loop : Loop κ
  client : Client
  own : Client
  pending : Nat
  stray : Nat
  died : Bool

namespace AsyncFdWatcher

variable {κ : Type}

inductive Event (κ : Type)
  | watchFdForNonBlockingReads (fd : Nat) (cb : κ)
  | stopWatchingFileDescriptors
  | client
  | pipe2 (orderly : Bool)
  | configureTimeout (timeout : Nat) (cb : κ)
  | notifyThread
  | threadRoutine
  | selected (result : Selected)
  | returned
  | stopOnThread
  | own

def new : AsyncFdWatcher κ where
  running := false
  joinable := false
  pipe := .invalid
  watchedFds := []
  timeoutMs := 0
  timeoutCb := none
  loop := .absent
  client := .idle
  own := .idle
  pending := 0
  stray := 0
  died := false

variable (s : AsyncFdWatcher κ)

/-- The thread holds `internal_mutex_`. -/
def holdsMutex : Bool :=
  match s.loop with
  | .pass _ _ | .calling _ _ _ _ => true
  | _ => false

/-- What `select` is given. -/
def wait : Option Nat := if 0 < s.timeoutMs then some s.timeoutMs else none

def notifyThread : AsyncFdWatcher κ :=
  { s with
    pipe := s.pipe.write
    stray := if s.pipe.isOpen then s.stray else s.stray + 1 }

/-- `stopThread` behind the exchange, with where it is then. On the watcher's own thread it joins
none. -/
def stopStep (onThread : Bool) : Client → Option (AsyncFdWatcher κ × Client)
  | .notify => some (s.notifyThread, if onThread then .clear else .join)
  | .join =>
      if s.joinable = false then some ({ s with died := true }, .join)
      else
        match s.loop with
        | .exited => some ({ s with joinable := false, loop := .absent }, .clear)
        | _ => none
  | .clear => if s.holdsMutex then none else some ({ s with watchedFds := [] }, .clearTimeout)
  | .clearTimeout => some ({ s with timeoutCb := none }, .close)
  | .close => some ({ s with pipe := .closed }, .idle)
  | .idle | .exchange | .pipe | .thread => none

def clientStep : Option (AsyncFdWatcher κ) :=
  match s.client with
  | .idle | .pipe => none
  | .exchange =>
      if s.running then some { s with client := .idle }
      else some { s with running := true, client := .pipe }
  | .thread =>
      -- a thread is assigned to a variable that holds one
      if s.joinable then some { s with died := true }
      else some { s with joinable := true, loop := .head, client := .idle }
  | place => (s.stopStep false place).map fun p => { p.1 with client := p.2 }

def threadStep : Option (AsyncFdWatcher κ) :=
  match s.loop with
  | .head => some { s with loop := if s.running then .collect else .exited }
  | .collect => some { s with loop := .measure (s.watchedFds.map Prod.fst) }
  | .measure fds => some { s with loop := .sleeping fds s.wait }
  | .expired =>
      match s.wait, s.timeoutCb with
      | some _, some cb => some { s with loop := .timing cb }
      | _, _ => some { s with loop := .head }
  | .notified => some { s with pipe := s.pipe.read, loop := .head }
  | .lock ready => some { s with loop := .pass ready s.watchedFds }
  | .pass _ [] => some { s with loop := .head }
  | .pass ready ((fd, cb) :: rest) =>
      some { s with loop := if fd ∈ ready then .calling ready fd cb rest else .pass ready rest }
  | .absent | .sleeping _ _ | .timing _ | .calling _ _ _ _ | .exited => none

/-- `select` does not return without a reason; a byte in the pipe comes before all others. -/
def select (result : Selected) : Option (AsyncFdWatcher κ) :=
  match s.loop, result with
  | .sleeping _ _, .error => some { s with loop := .head }
  | .sleeping _ (some _), .timedOut =>
      if s.pipe.bytes = 0 then some { s with loop := .expired } else none
  | .sleeping fds _, .ready ready =>
      if 0 < s.pipe.bytes then some { s with loop := .notified }
      else if ready ≠ [] ∧ ∀ fd ∈ ready, fd ∈ fds then some { s with loop := .lock ready }
      else none
  | _, _ => none

/-- A callback returns. -/
def returned : Option (AsyncFdWatcher κ) :=
  match s.own, s.loop with
  | .idle, .timing _ => some { s with loop := .head }
  | .idle, .calling ready _ _ rest => some { s with loop := .pass ready rest }
  | _, _ => none

/-- A callback calls `StopWatchingFileDescriptors`. -/
def stopOnThread : Option (AsyncFdWatcher κ) :=
  match s.own, s.loop with
  | .idle, .timing _ | .idle, .calling _ _ _ _ =>
      some (if s.running then { s with running := false, own := .notify } else s)
  | _, _ => none

def handle : Event κ → Option (AsyncFdWatcher κ)
  | .watchFdForNonBlockingReads fd cb =>
      if s.client = .idle ∧ s.holdsMutex = false then
        some { s with watchedFds := assign fd cb s.watchedFds, client := .exchange }
      else none
  | .stopWatchingFileDescriptors =>
      if s.client = .idle then
        some (if s.running then { s with running := false, client := .notify } else s)
      else none
  | .client => s.clientStep
  | .pipe2 made =>
      if s.client = .pipe then
        some (if made then { s with pipe := .opened 0, client := .thread }
          else { s with client := .idle })
      else none
  | .configureTimeout timeout cb =>
      some { s with timeoutMs := timeout, timeoutCb := some cb, pending := s.pending + 1 }
  | .notifyThread =>
      if 0 < s.pending then some { s.notifyThread with pending := s.pending - 1 } else none
  | .threadRoutine => s.threadStep
  | .selected result => s.select result
  | .returned => s.returned
  | .stopOnThread => s.stopOnThread
  | .own => (s.stopStep true s.own).map fun p => { p.1 with own := p.2 }

def step (e : Event κ) : Option (AsyncFdWatcher κ) := if s.died then none else s.handle e

/-- The callbacks that were registered last, the descriptors that were since the thread last looked
at the map, and how often `ConfigureTimeout` has written to the pipe while there was no thread. -/
structure Book (κ : Type) where
  registered : Nat → Option κ
  late : List Nat
  unheard : Nat

namespace Book

def empty : Book κ := ⟨fun _ => none, [], 0⟩

def record (book : Book κ) (s : AsyncFdWatcher κ) (e : Event κ) (_ : AsyncFdWatcher κ) : Book κ :=
  match e with
  | .watchFdForNonBlockingReads fd cb =>
      { book with
        registered := Function.update book.registered fd (some cb)
        late := fd :: book.late }
  | .notifyThread =>
      { book with unheard := if s.loop.isAbsent then book.unheard + 1 else book.unheard }
  | .client =>
      match s.client with
      | .clear => { book with registered := fun _ => none }
      | _ => book
  | .threadRoutine =>
      match s.loop with
      | .collect => { book with late := [] }
      | _ => book
  | _ => book

/-- A set for `select` has all descriptors but those that came later. -/
def Awaited (book : Book κ) (fds : List Nat) : Prop :=
  ∀ fd cb, book.registered fd = some cb → fd ∈ fds ∨ fd ∈ book.late

end Book

/-- No thread is joined that there is not, or replaced. A callback for data that runs is the one
that was registered last for a descriptor that is ready. A thread that sleeps waits for all
descriptors but those that came since, and if it waits for another time than the configured one then
it will be woken. The thread and a stop use no pipe that is not open; only a `ConfigureTimeout`
writes elsewhere, and only while there is no thread. A watcher that has stopped has no thread and no
callback for data. -/
structure InOrder (p : AsyncFdWatcher κ × Book κ) : Prop where
  alive : p.1.died = false
  called : ∀ ready fd cb rest, p.1.loop = .calling ready fd cb rest →
    p.2.registered fd = some cb ∧ fd ∈ ready
  awaited : ∀ fds timeout, p.1.loop = .sleeping fds timeout → p.2.Awaited fds
  current : ∀ fds timeout, p.1.loop = .sleeping fds timeout →
    timeout = p.1.wait ∨ 0 < p.1.pipe.bytes ∨ 0 < p.1.pending
  opened : p.1.loop ≠ .absent ∨ p.1.client = .notify → p.1.pipe.isOpen = true
  stray : p.1.stray ≤ p.2.unheard
  quiet : p.1.client = .idle → p.1.running = false →
    p.1.loop = .absent ∧ ∀ fd, p.2.registered fd = none

section Phases

/-- The thread is in its loop. -/
structure Runs : Prop where
  running : s.running = true
  joinable : s.joinable = true
  present : s.loop ≠ .absent
  inside : s.loop ≠ .exited
  opened : s.pipe.isOpen = true

structure Stopping : Prop where
  running : s.running = false
  joinable : s.joinable = true
  present : s.loop ≠ .absent
  opened : s.pipe.isOpen = true

structure Stopped : Prop where
  running : s.running = false
  joinable : s.joinable = false
  absent : s.loop = .absent

/-- What has been done of a start or of a stop, by what the client is at. -/
def Phase : Client → Prop
  | .idle => s.Runs ∨ s.Stopped ∧ s.watchedFds = []
  | .exchange => s.Runs ∨ s.Stopped
  | .pipe => s.running = true ∧ s.joinable = false ∧ s.loop = .absent
  | .thread => s.running = true ∧ s.joinable = false ∧ s.loop = .absent ∧ s.pipe.isOpen = true
  | .notify => s.Stopping
  | .join => s.Stopping ∧ (0 < s.pipe.bytes ∨ s.loop = .head ∨ s.loop = .exited)
  | .clear => s.Stopped
  | .clearTimeout | .close => s.Stopped ∧ s.watchedFds = []

variable {s} {place : Client}

theorem Phase.opened (phase : s.Phase place) (present : s.loop ≠ .absent) :
    s.pipe.isOpen = true := by
  cases place with
  | idle =>
      rcases phase with runs | ⟨stopped, _⟩
      · exact runs.opened
      · exact absurd stopped.absent present
  | exchange =>
      rcases phase with runs | stopped
      · exact runs.opened
      · exact absurd stopped.absent present
  | pipe => exact absurd phase.2.2 present
  | thread => exact phase.2.2.2
  | notify => exact Stopping.opened phase
  | join => exact phase.1.opened
  | clear => exact absurd (Stopped.absent phase) present
  | clearTimeout | close => exact absurd phase.1.absent present

/-- The thread moves on: it leaves its loop only when it is to stop, and a byte that is to wake it
is read only to look at the condition. -/
theorem Phase.turn (phase : s.Phase place) {l : Loop κ} {pipe : Pipe} (present : s.loop ≠ .absent)
    (inside : s.loop ≠ .exited) (stays : l ≠ .absent) (leaves : l = .exited → s.running = false)
    (opened : pipe.isOpen = s.pipe.isOpen)
    (woken : s.running = false → 0 < s.pipe.bytes ∨ s.loop = .head →
      0 < pipe.bytes ∨ l = .head ∨ l = .exited) :
    ({ s with loop := l, pipe := pipe }).Phase place := by
  have runs : s.Runs → ({ s with loop := l, pipe := pipe }).Runs := by
    intro runs
    refine ⟨runs.running, runs.joinable, stays, fun left => ?_, opened.trans runs.opened⟩
    have stopped := leaves left
    rw [runs.running] at stopped
    cases stopped
  have stopping : s.Stopping → ({ s with loop := l, pipe := pipe }).Stopping :=
    fun stopping => ⟨stopping.running, stopping.joinable, stays, opened.trans stopping.opened⟩
  cases place with
  | idle =>
      rcases phase with here | ⟨stopped, _⟩
      · exact Or.inl (runs here)
      · exact absurd stopped.absent present
  | exchange =>
      rcases phase with here | stopped
      · exact Or.inl (runs here)
      · exact absurd stopped.absent present
  | pipe => exact absurd phase.2.2 present
  | thread => exact absurd phase.2.2.1 present
  | notify => exact stopping phase
  | join =>
      refine ⟨stopping phase.1, woken phase.1.running ?_⟩
      rcases phase.2 with byte | head | exited
      · exact Or.inl byte
      · exact Or.inr head
      · exact absurd exited inside
  | clear => exact absurd (Stopped.absent phase) present
  | clearTimeout | close => exact absurd phase.1.absent present

/-- The timeout makes no difference, and neither does a byte more. -/
theorem Phase.same {t : AsyncFdWatcher κ} (phase : s.Phase place) (running : t.running = s.running)
    (joinable : t.joinable = s.joinable) (loop : t.loop = s.loop)
    (watched : t.watchedFds = s.watchedFds) (opened : t.pipe.isOpen = s.pipe.isOpen)
    (bytes : 0 < s.pipe.bytes → 0 < t.pipe.bytes) : t.Phase place := by
  have runs : s.Runs → t.Runs := fun runs =>
    ⟨running.trans runs.running, joinable.trans runs.joinable, loop ▸ runs.present,
      loop ▸ runs.inside, opened.trans runs.opened⟩
  have stopping : s.Stopping → t.Stopping := fun stopping =>
    ⟨running.trans stopping.running, joinable.trans stopping.joinable, loop ▸ stopping.present,
      opened.trans stopping.opened⟩
  have stopped : s.Stopped → t.Stopped := fun stopped =>
    ⟨running.trans stopped.running, joinable.trans stopped.joinable, loop.trans stopped.absent⟩
  cases place with
  | idle => exact phase.imp runs (And.imp stopped watched.trans)
  | exchange => exact phase.imp runs stopped
  | pipe | thread => simpa only [Phase, running, joinable, loop, opened] using phase
  | notify => exact stopping phase
  | join => exact ⟨stopping phase.1, phase.2.imp bytes (loop ▸ id)⟩
  | clear => exact stopped phase
  | clearTimeout | close => exact ⟨stopped phase.1, watched.trans phase.2⟩

end Phases

section Invariant

variable {s t : AsyncFdWatcher κ} {book : Book κ}

/-- What the place of the thread says. -/
def Seat (s : AsyncFdWatcher κ) (book : Book κ) : Loop κ → Prop
  | .measure fds => book.Awaited fds
  | .sleeping fds timeout =>
      book.Awaited fds ∧ (timeout = s.wait ∨ 0 < s.pipe.bytes ∨ 0 < s.pending)
  | .pass _ rest => rest <:+ s.watchedFds
  | .calling ready fd cb rest => (fd, cb) :: rest <:+ s.watchedFds ∧ fd ∈ ready
  | .absent | .head | .collect | .expired | .timing _ | .notified | .lock _ | .exited => True

structure Inv (p : AsyncFdWatcher κ × Book κ) : Prop where
  alive : p.1.died = false
  own : p.1.own = .idle
  stray : p.1.stray ≤ p.2.unheard
  phase : p.1.Phase p.1.client
  seat : p.1.Seat p.2 p.1.loop
  keyed : Keyed p.1.watchedFds
  registered : ∀ fd cb, (fd, cb) ∈ p.1.watchedFds ↔ p.2.registered fd = some cb

theorem Inv.inOrder {p : AsyncFdWatcher κ × Book κ} (inv : Inv p) : InOrder p := by
  have seat := inv.seat
  refine ⟨inv.alive, ?_, ?_, ?_, ?_, inv.stray, ?_⟩
  · intro ready fd cb rest here
    rw [here] at seat
    exact ⟨(inv.registered fd cb).mp (seat.1.subset List.mem_cons_self), seat.2⟩
  · intro fds timeout here
    rw [here] at seat
    exact seat.1
  · intro fds timeout here
    rw [here] at seat
    exact seat.2
  · rintro (present | place)
    · exact inv.phase.opened present
    · have phase := inv.phase
      rw [place] at phase
      exact Stopping.opened phase
  · intro idle off
    have phase := inv.phase
    rw [idle] at phase
    rcases phase with runs | ⟨stopped, empty⟩
    · have on := runs.running
      rw [off] at on
      cases on
    · refine ⟨stopped.absent, fun fd => ?_⟩
      apply Option.eq_none_iff_forall_ne_some.mpr
      intro cb known
      have member := (inv.registered fd cb).mpr known
      rw [empty] at member
      cases member

theorem inv_new : Inv ((new : AsyncFdWatcher κ), Book.empty) :=
  ⟨rfl, rfl, Nat.le_refl 0, Or.inr ⟨⟨rfl, rfl, rfl⟩, rfl⟩, trivial, List.Pairwise.nil,
    by simp [new, Book.empty]⟩

theorem Inv.turn (inv : Inv (s, book)) {l : Loop κ} {pipe : Pipe} {later : Book κ}
    (same : later.registered = book.registered ∧ later.unheard = book.unheard)
    (present : s.loop ≠ .absent) (inside : s.loop ≠ .exited) (stays : l ≠ .absent)
    (leaves : l = .exited → s.running = false)
    (opened : pipe.isOpen = s.pipe.isOpen)
    (woken : s.running = false → 0 < s.pipe.bytes ∨ s.loop = .head →
      0 < pipe.bytes ∨ l = .head ∨ l = .exited)
    (seat : ({ s with loop := l, pipe := pipe }).Seat later l) :
    Inv ({ s with loop := l, pipe := pipe }, later) := by
  refine ⟨inv.alive, inv.own, ?_, inv.phase.turn present inside stays leaves opened woken, seat,
    inv.keyed, fun fd cb => ?_⟩
  · rw [same.2]
    exact inv.stray
  · rw [same.1]
    exact inv.registered fd cb

/-- The thread moves on from a place that is not the condition, and reads nothing. -/
theorem Inv.move (inv : Inv (s, book)) {l : Loop κ} {later : Book κ}
    (same : later.registered = book.registered ∧ later.unheard = book.unheard)
    (present : s.loop ≠ .absent) (inside : s.loop ≠ .exited) (behind : s.loop ≠ .head)
    (stays : l ≠ .absent)
    (left : l ≠ .exited) (seat : ({ s with loop := l }).Seat later l) :
    Inv ({ s with loop := l }, later) := by
  apply inv.turn same present inside stays (fun exited => absurd exited left) rfl _ seat
  rintro _ (byte | head)
  · exact Or.inl byte
  · exact absurd head behind

theorem inv_threadRoutine (inv : Inv (s, book)) (taken : s.threadStep = some t) :
    Inv (t, book.record s .threadRoutine t) := by
  have seat : s.Seat book s.loop := inv.seat
  cases place : s.loop with
  | absent | sleeping | timing | calling | exited => simp [threadStep, place] at taken
  | head =>
      simp only [threadStep, place, Option.some.injEq] at taken
      subst taken
      simp only [Book.record, place]
      by_cases running : s.running = true
      · rw [if_pos running]
        apply inv.turn ⟨rfl, rfl⟩ <;> simp [place, running, Seat]
      · rw [if_neg running]
        apply inv.turn ⟨rfl, rfl⟩ <;> simp [place, running, Seat]
  | collect =>
      simp only [threadStep, place, Option.some.injEq] at taken
      subst taken
      simp only [Book.record, place]
      apply @Inv.move κ s book inv _ { book with late := [] } ⟨rfl, rfl⟩ <;>
        simp only [place, Seat, ne_eq, reduceCtorEq, not_false_iff]
      intro fd cb known
      exact Or.inl (List.mem_map.mpr ⟨(fd, cb), (inv.registered fd cb).mpr known, rfl⟩)
  | measure fds =>
      simp only [threadStep, place, Option.some.injEq] at taken
      subst taken
      rw [place] at seat
      simp only [Book.record, place]
      apply inv.move ⟨rfl, rfl⟩ <;> simp only [place, Seat, ne_eq, reduceCtorEq, not_false_iff]
      exact ⟨seat, Or.inl rfl⟩
  | expired =>
      simp only [Book.record, place]
      simp only [threadStep, place] at taken
      split at taken
      · cases taken
        apply inv.move ⟨rfl, rfl⟩ <;> simp [place, Seat]
      · cases taken
        apply inv.move ⟨rfl, rfl⟩ <;> simp [place, Seat]
  | notified =>
      simp only [threadStep, place, Option.some.injEq] at taken
      subst taken
      simp only [Book.record, place]
      apply inv.turn ⟨rfl, rfl⟩ <;> simp [place, Seat]
  | lock ready =>
      simp only [threadStep, place, Option.some.injEq] at taken
      subst taken
      simp only [Book.record, place]
      apply inv.move ⟨rfl, rfl⟩ <;> simp [place, Seat]
  | pass ready rest =>
      rw [place] at seat
      simp only [Book.record, place]
      cases rest with
      | nil =>
          simp only [threadStep, place, Option.some.injEq] at taken
          subst taken
          apply inv.move ⟨rfl, rfl⟩ <;> simp [place, Seat]
      | cons first rest =>
          obtain ⟨fd, cb⟩ := first
          simp only [threadStep, place, Option.some.injEq] at taken
          subst taken
          by_cases isReady : fd ∈ ready
          · rw [if_pos isReady]
            apply inv.move ⟨rfl, rfl⟩ <;>
              simp only [place, Seat, ne_eq, reduceCtorEq, not_false_iff]
            exact ⟨seat, isReady⟩
          · rw [if_neg isReady]
            apply inv.move ⟨rfl, rfl⟩ <;>
              simp only [place, Seat, ne_eq, reduceCtorEq, not_false_iff]
            exact (List.suffix_cons (fd, cb) rest).trans seat

theorem inv_select (inv : Inv (s, book)) {result : Selected} (taken : s.select result = some t) :
    Inv (t, book) := by
  have place : ∃ fds timeout, s.loop = .sleeping fds timeout := by
    unfold select at taken
    split at taken
    · exact ⟨_, _, ‹_›⟩
    · exact ⟨_, _, ‹_›⟩
    · exact ⟨_, _, ‹_›⟩
    · cases taken
  obtain ⟨fds, timeout, place⟩ := place
  have moved : ∀ l : Loop κ, l = .head ∨ l = .expired ∨ l = .notified ∨ (∃ ready, l = .lock ready) →
      Inv ({ s with loop := l }, book) := by
    rintro l (rfl | rfl | rfl | ⟨ready, rfl⟩) <;> apply inv.move ⟨rfl, rfl⟩ <;> simp [place, Seat]
  unfold select at taken
  split at taken
  · cases taken
    exact moved _ (by simp)
  · obtain ⟨_, same⟩ := Option.ite_none_right_eq_some.mp taken
    cases same
    exact moved _ (by simp)
  · split at taken
    · cases taken
      exact moved _ (by simp)
    · obtain ⟨_, same⟩ := Option.ite_none_right_eq_some.mp taken
      cases same
      exact moved _ (by simp)
  · cases taken

theorem inv_returned (inv : Inv (s, book)) (taken : s.returned = some t) : Inv (t, book) := by
  have seat : s.Seat book s.loop := inv.seat
  unfold returned at taken
  split at taken
  · rename_i place
    cases taken
    apply inv.move ⟨rfl, rfl⟩ <;> simp [place, Seat]
  · rename_i place
    cases taken
    rw [place] at seat
    apply inv.move ⟨rfl, rfl⟩ <;> simp only [place, Seat, ne_eq, reduceCtorEq, not_false_iff]
    exact (List.suffix_cons _ _).trans seat.1
  · cases taken

theorem inv_watch (inv : Inv (s, book)) (idle : s.client = .idle) (free : s.holdsMutex = false)
    (fd : Nat) (cb : κ) :
    Inv ({ s with watchedFds := assign fd cb s.watchedFds, client := .exchange },
      { book with
        registered := Function.update book.registered fd (some cb)
        late := fd :: book.late }) := by
  have phase : s.Phase s.client := inv.phase
  rw [idle] at phase
  have awaited : ∀ fds, book.Awaited fds →
      Book.Awaited { book with
        registered := Function.update book.registered fd (some cb)
        late := fd :: book.late } fds := by
    intro fds awaited other known there
    by_cases same : other = fd
    · exact Or.inr (same ▸ List.mem_cons_self)
    · exact (awaited other known (by simpa [Function.update, same] using there)).imp_right
        (List.mem_cons_of_mem fd)
  refine ⟨inv.alive, inv.own, inv.stray, ?_, ?_, keyed_assign inv.keyed fd cb,
    fun other known => ?_⟩
  · rcases phase with runs | ⟨stopped, _⟩
    · exact Or.inl ⟨runs.running, runs.joinable, runs.present, runs.inside, runs.opened⟩
    · exact Or.inr ⟨stopped.running, stopped.joinable, stopped.absent⟩
  · have seat : s.Seat book s.loop := inv.seat
    cases place : s.loop with
    | pass | calling => simp [holdsMutex, place] at free
    | measure fds =>
        rw [place] at seat
        exact awaited fds seat
    | sleeping fds timeout =>
        rw [place] at seat
        exact ⟨awaited fds seat.1, seat.2⟩
    | absent | head | collect | expired | timing | notified | lock | exited => trivial
  · show _ ↔ Function.update book.registered fd (some cb) other = some known
    rw [mem_assign inv.keyed, inv.registered]
    by_cases same : other = fd
    · simp [same, eq_comm]
    · simp [Function.update, same]

theorem inv_stop (inv : Inv (s, book)) (idle : s.client = .idle) :
    Inv (if s.running then { s with running := false, client := .notify } else s, book) := by
  split
  · rename_i running
    have phase : s.Phase s.client := inv.phase
    rw [idle] at phase
    rcases phase with runs | ⟨stopped, _⟩
    · exact ⟨inv.alive, inv.own, inv.stray, ⟨rfl, runs.joinable, runs.present, runs.opened⟩,
        inv.seat, inv.keyed, inv.registered⟩
    · rw [stopped.running] at running
      cases running
  · exact inv

theorem notifyThread_of_open (opened : s.pipe.isOpen = true) :
    s.notifyThread = { s with pipe := s.pipe.write } := by
  rw [notifyThread, if_pos opened]

theorem inv_client (inv : Inv (s, book)) (taken : s.clientStep = some t) :
    Inv (t, book.record s .client t) := by
  have phase : s.Phase s.client := inv.phase
  have seat : s.Seat book s.loop := inv.seat
  cases place : s.client with
  | idle | pipe => simp [clientStep, place] at taken
  | exchange =>
      rw [place] at phase
      simp only [Book.record, place]
      simp only [clientStep, place] at taken
      by_cases running : s.running = true
      · rw [if_pos running] at taken
        cases taken
        rcases phase with runs | stopped
        · refine ⟨inv.alive, inv.own, inv.stray, Or.inl ?_, seat, inv.keyed, inv.registered⟩
          exact ⟨runs.running, runs.joinable, runs.present, runs.inside, runs.opened⟩
        · rw [stopped.running] at running
          cases running
      · rw [if_neg running] at taken
        cases taken
        rcases phase with runs | stopped
        · exact absurd runs.running running
        · exact ⟨inv.alive, inv.own, inv.stray, ⟨rfl, stopped.joinable, stopped.absent⟩, seat,
            inv.keyed, inv.registered⟩
  | thread =>
      rw [place] at phase
      obtain ⟨running, free, _, opened⟩ := phase
      simp only [Book.record, place]
      simp only [clientStep, place, free, Bool.false_eq_true, if_false, Option.some.injEq] at taken
      subst taken
      refine ⟨inv.alive, inv.own, inv.stray, Or.inl ⟨running, rfl, ?_, ?_, opened⟩, trivial,
        inv.keyed, inv.registered⟩
      · simp
      · simp
  | notify =>
      rw [place] at phase
      have stopping : s.Stopping := phase
      simp only [Book.record, place]
      simp only [clientStep, place, stopStep, notifyThread_of_open stopping.opened,
        Bool.false_eq_true, if_false, Option.map_some, Option.some.injEq] at taken
      subst taken
      have byte := s.pipe.pos_write stopping.opened
      refine ⟨inv.alive, inv.own, inv.stray,
        ⟨⟨stopping.running, stopping.joinable, stopping.present, ?_⟩, Or.inl byte⟩, ?_, inv.keyed,
        inv.registered⟩
      · simp [stopping.opened]
      · cases there : s.loop with
        | sleeping fds timeout =>
            rw [there] at seat
            exact ⟨seat.1, Or.inr (Or.inl byte)⟩
        | measure | pass | calling =>
            rw [there] at seat
            exact seat
        | absent | head | collect | expired | timing | notified | lock | exited => trivial
  | join =>
      rw [place] at phase
      simp only [Book.record, place]
      simp only [clientStep, place, stopStep, phase.1.joinable, Bool.true_eq_false, if_false]
        at taken
      split at taken
      · cases taken
        exact ⟨inv.alive, inv.own, inv.stray, ⟨phase.1.running, rfl, rfl⟩, trivial, inv.keyed,
          inv.registered⟩
      · cases taken
  | clear =>
      rw [place] at phase
      have stopped : s.Stopped := phase
      simp only [Book.record, place]
      simp only [clientStep, place, stopStep] at taken
      obtain ⟨next, cleared, rfl⟩ := Option.map_eq_some_iff.mp taken
      obtain ⟨_, same⟩ := Option.ite_none_left_eq_some.mp cleared
      cases same
      refine ⟨inv.alive, inv.own, inv.stray,
        ⟨⟨stopped.running, stopped.joinable, stopped.absent⟩, rfl⟩, ?_, List.Pairwise.nil, by simp⟩
      show Seat _ _ s.loop
      rw [stopped.absent]
      trivial
  | clearTimeout =>
      rw [place] at phase
      obtain ⟨stopped, empty⟩ := phase
      simp only [Book.record, place]
      simp only [clientStep, place, stopStep, Option.map_some, Option.some.injEq] at taken
      subst taken
      exact ⟨inv.alive, inv.own, inv.stray,
        ⟨⟨stopped.running, stopped.joinable, stopped.absent⟩, empty⟩, seat, inv.keyed,
        inv.registered⟩
  | close =>
      rw [place] at phase
      obtain ⟨stopped, empty⟩ := phase
      simp only [Book.record, place]
      simp only [clientStep, place, stopStep, Option.map_some, Option.some.injEq] at taken
      subst taken
      refine ⟨inv.alive, inv.own, inv.stray,
        Or.inr ⟨⟨stopped.running, stopped.joinable, stopped.absent⟩, empty⟩, ?_, inv.keyed,
        inv.registered⟩
      show Seat _ _ s.loop
      rw [stopped.absent]
      trivial

/-- A configured timeout is written to the pipe, or elsewhere while there is no thread. -/
theorem inv_notifyThread (inv : Inv (s, book)) {t : AsyncFdWatcher κ} :
    Inv ({ s.notifyThread with pending := s.pending - 1 }, book.record s .notifyThread t) := by
  refine ⟨inv.alive, inv.own, ?_, ?_, ?_, inv.keyed, inv.registered⟩
  · have kept : s.stray ≤ book.unheard := inv.stray
    simp only [notifyThread, Book.record]
    by_cases opened : s.pipe.isOpen = true
    · rw [if_pos opened]
      split <;> omega
    · rw [if_neg opened]
      cases there : s.loop with
      | absent =>
          rw [Loop.isAbsent, if_pos rfl]
          omega
      | head | collect | measure | sleeping | expired | timing | notified | lock | pass | calling
      | exited => exact absurd (inv.phase.opened (by simp [there])) opened
  · exact inv.phase.same rfl rfl rfl rfl (by simp [notifyThread]) s.pipe.pos_mono
  · have seat : s.Seat book s.loop := inv.seat
    show Seat _ _ s.loop
    cases there : s.loop with
    | sleeping fds wait =>
        rw [there] at seat
        have opened : s.pipe.isOpen = true := inv.phase.opened (by simp [there])
        exact ⟨seat.1, Or.inr (Or.inl (s.pipe.pos_write opened))⟩
    | measure | pass | calling =>
        rw [there] at seat
        exact seat
    | absent | head | collect | expired | timing | notified | lock | exited => trivial

/-- `pipe2` does not fail, and no callback calls `StopWatchingFileDescriptors`. -/
def Event.orderly : Event κ → Bool
  | .pipe2 made => made
  | .stopOnThread => false
  | _ => true

/-- The step lemma. -/
theorem inv_step {e : Event κ} (inv : Inv (s, book)) (orderly : e.orderly = true)
    (taken : s.step e = some t) : Inv (t, book.record s e t) := by
  have alive : s.died = false := inv.alive
  rw [step, if_neg (by simp [alive])] at taken
  cases e with
  | watchFdForNonBlockingReads fd cb =>
      obtain ⟨⟨idle, free⟩, same⟩ := Option.ite_none_right_eq_some.mp taken
      cases same
      exact inv_watch inv idle free fd cb
  | stopWatchingFileDescriptors =>
      obtain ⟨idle, same⟩ := Option.ite_none_right_eq_some.mp taken
      cases same
      exact inv_stop inv idle
  | client => exact inv_client inv taken
  | pipe2 good =>
      obtain ⟨place, same⟩ := Option.ite_none_right_eq_some.mp taken
      have good : good = true := orderly
      rw [if_pos good] at same
      cases same
      have phase : s.Phase s.client := inv.phase
      rw [place] at phase
      obtain ⟨running, free, absent⟩ := phase
      refine ⟨inv.alive, inv.own, inv.stray, ⟨running, free, absent, rfl⟩, ?_, inv.keyed,
        inv.registered⟩
      show Seat _ _ s.loop
      rw [absent]
      trivial
  | configureTimeout timeout cb =>
      cases taken
      refine ⟨inv.alive, inv.own, inv.stray, ?_, ?_, inv.keyed, inv.registered⟩
      · exact inv.phase.same rfl rfl rfl rfl rfl id
      · have seat : s.Seat book s.loop := inv.seat
        show Seat _ _ s.loop
        cases there : s.loop with
        | sleeping fds wait =>
            rw [there] at seat
            exact ⟨seat.1, Or.inr (Or.inr (Nat.succ_pos _))⟩
        | measure | pass | calling =>
            rw [there] at seat
            exact seat
        | absent | head | collect | expired | timing | notified | lock | exited => trivial
  | notifyThread =>
      obtain ⟨_, same⟩ := Option.ite_none_right_eq_some.mp taken
      cases same
      exact inv_notifyThread inv
  | threadRoutine => exact inv_threadRoutine inv taken
  | selected result => exact inv_select inv taken
  | returned => exact inv_returned inv taken
  | stopOnThread => cases orderly
  | own =>
      have idle : s.own = .idle := inv.own
      simp [handle, stopStep, idle] at taken

theorem inv_run {events : List (Event κ)} (orderly : ∀ e ∈ events, e.orderly = true) :
    AllStates (traced step Book.record) Inv ((new : AsyncFdWatcher κ), .empty) events := by
  have meets : StepsMeet (traced step Book.record) (fun _ e => e.orderly = true)
      ((new : AsyncFdWatcher κ), .empty) events :=
    stepsMeet_of_forall fun e member _ => orderly e member
  apply allStates_of_stepsMeet _ inv_new meets
  rintro ⟨s, book⟩ e q inv good taken
  obtain ⟨t, done, same⟩ := Option.map_eq_some_iff.mp taken
  cases same
  exact inv_step inv good done

end Invariant

/-- Along every run of starts and stops and of the thread, with timeouts configured at any time. -/
theorem watcher_inOrder (events : List (Event κ)) (orderly : ∀ e ∈ events, e.orderly = true) :
    AllStates (traced step Book.record) InOrder ((new : AsyncFdWatcher κ), .empty) events :=
  (inv_run orderly).imp fun _ inv => inv.inOrder

/-- A descriptor, a timeout that wakes the thread, data and a stop. -/
theorem watcher_inOrder_stopped :
    AllStates (traced step Book.record) InOrder ((new : AsyncFdWatcher Nat), .empty)
      [.watchFdForNonBlockingReads 3 30, .client, .pipe2 true, .client, .threadRoutine,
        .threadRoutine, .threadRoutine, .configureTimeout 500 31, .notifyThread,
        .selected (.ready []), .threadRoutine, .threadRoutine, .threadRoutine, .threadRoutine,
        .selected (.ready [3]), .threadRoutine, .threadRoutine, .stopWatchingFileDescriptors,
        .returned, .threadRoutine, .threadRoutine, .client, .client, .client, .client, .client] :=
  watcher_inOrder _ (by simp [Event.orderly])

/-- A callback that stops the watcher leaves the variable of the thread assigned, and the next start
replaces it. -/
example : (exec step (new : AsyncFdWatcher Nat)
    [.watchFdForNonBlockingReads 3 30, .client, .pipe2 true, .client, .configureTimeout 500 31,
      .notifyThread, .threadRoutine, .threadRoutine, .threadRoutine, .selected (.ready []),
      .threadRoutine, .threadRoutine, .threadRoutine, .threadRoutine, .selected .timedOut,
      .threadRoutine, .stopOnThread, .own, .own, .own, .own, .returned, .threadRoutine,
      .watchFdForNonBlockingReads 3 30, .client, .pipe2 true, .client]).map died = some true := by
  decide

end AsyncFdWatcher

end Connectivity.Hci
