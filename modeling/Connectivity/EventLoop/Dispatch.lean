import Connectivity.EventLoop.Loop

set_option autoImplicit false

/- Which handlers of sockets and of signals the event loop calls. -/
namespace Connectivity.EventLoop

open Transition

/-- A pass through a table of sockets: the table at its start, what `select` reported, and the
entries whose handlers have been called. -/
structure Pass where
  type : EventType
  table : List Sock
  ready : List Nat
  ran : List Sock

namespace Pass

def isReady (pass : Pass) (entry : Sock) : Bool := entry.sock ∈ pass.ready

/-- The entries that are ready, in the order of the table. -/
def due (pass : Pass) : List Sock := pass.table.filter pass.isReady

end Pass

/-- What `select` has reported last, the pass under way, and the passes that are over with whether
their tables had changed. -/
structure Watch where
  reported : Option Fds
  current : Option Pass
  finished : List (Pass × Bool)

namespace Watch

def empty : Watch := ⟨none, none, []⟩

def ready (watch : Watch) (type : EventType) : List Nat :=
  match watch.reported with
  | some fds => fds.of type
  | none => []

def close (watch : Watch) (changed : Bool) : Watch :=
  { watch with
    current := none
    finished := watch.finished ++ (watch.current.map fun pass => (pass, changed)).toList }

def record (watch : Watch) (s : Eloop) : Eloop.Event → Eloop → Watch
  | .selected (.ready fds), _ => { watch with reported := some fds }
  | .selected _, _ => { watch with reported := none }
  | .advance, t =>
      match s.place, t.place, t.running with
      | .enter type _, _, _ =>
          { watch with current := some ⟨type, (s.tables type).table, watch.ready type, []⟩ }
      | .dispatch _ _ _, .returned _ _ _, some (.sock _ entry) =>
          { watch with
            current := watch.current.map fun pass => { pass with ran := pass.ran ++ [entry] } }
      | .dispatch _ _ _, .dispatch _ _ _, _ => watch
      | .returned _ _ _, .dispatch _ _ _, _ => watch
      | .dispatch type _ _, _, _ => watch.close (s.tables type).changed
      | .returned type _ _, _, _ => watch.close (s.tables type).changed
      | _, _, _ => watch
  | _, _ => watch

end Watch

/-- `select` looks at every socket. A pass calls handlers of ready entries in the order of the table
at its start, each entry's once, and calls all of them unless one has changed the table. The entry
that is looked at is still registered. -/
structure Watched (p : Eloop × Watch) : Prop where
  reached : ∀ type, ∀ entry ∈ (p.1.tables type).table, entry.sock < p.1.max_sock + 1
  finished : ∀ f ∈ p.2.finished, f.1.ran <+: f.1.due ∧ (f.2 = false → f.1.ran = f.1.due)
  current : ∀ pass, p.2.current = some pass → pass.ran <+: pass.due
  registered : ∀ type fds i, p.1.place = .dispatch type fds i → ∃ pass, p.2.current = some pass ∧
    pass.table = (p.1.tables type).table ∧ pass.ready = fds.of type ∧
    pass.ran = (pass.table.take i).filter pass.isReady

/-- The sets that the thread carries along. -/
def Place.fds : Place → Option (Option Fds)
  | .outside | .condition | .sleeping _ => none
  | .pending fds | .clear fds | .alarm fds | .disarmed fds | .signals fds _ | .expiry fds
  | .woken fds => some fds
  | .enter _ fds | .dispatch _ fds _ | .returned _ fds _ => some (some fds)

/-- The pass under way has come to an entry. -/
def Reached (s : Eloop) (watch : Watch) (type : EventType) (fds : Fds) (i : Nat) : Prop :=
  ∃ pass, watch.current = some pass ∧ pass.ready = fds.of type ∧
    ((s.tables type).changed = false → pass.table = (s.tables type).table) ∧
    pass.ran = (pass.table.take i).filter pass.isReady

structure Guarded (p : Eloop × Watch) : Prop where
  reached : ∀ type, ∀ entry ∈ (p.1.tables type).table, entry.sock < p.1.max_sock + 1
  finished : ∀ f ∈ p.2.finished, f.1.ran <+: f.1.due ∧ (f.2 = false → f.1.ran = f.1.due)
  current : ∀ pass, p.2.current = some pass → pass.ran <+: pass.due
  carried : ∀ fds, p.1.place.fds = some fds → p.2.reported = fds
  dispatch : ∀ type fds i, p.1.place = .dispatch type fds i → p.1.running = none ∧
    (p.1.tables type).changed = false ∧ Reached p.1 p.2 type fds i
  returned : ∀ type fds i, p.1.place = .returned type fds i → Reached p.1 p.2 type fds (i + 1)

section Passes

variable {s t : Eloop} {watch : Watch}

theorem Guarded.watched {p : Eloop × Watch} (guarded : Guarded p) : Watched p := by
  refine ⟨guarded.reached, guarded.finished, guarded.current, fun type fds i place => ?_⟩
  obtain ⟨_, unchanged, pass, here, ready, table, ran⟩ := guarded.dispatch type fds i place
  exact ⟨pass, here, table unchanged, ready, ran⟩

theorem guarded_init (now : OsTime) : Guarded (.init now, .empty) := by
  constructor <;> simp [Eloop.init, Watch.empty, Place.fds]

theorem removeSock_sublist (sock : Nat) (table : List Sock) :
    (removeSock sock table).Sublist table := by
  induction table with
  | nil => exact .refl []
  | cons entry rest ih =>
      rw [removeSock]
      split
      · exact List.sublist_cons_self entry rest
      · exact ih.cons_cons entry

/-- A call that leaves a table's mark as it is leaves the table. -/
theorem call_tables (c : Eloop.Call) (type : EventType)
    (unchanged : ((s.call c).tables type).changed = false) :
    (s.call c).tables type = s.tables type := by
  cases c with
  | register_timeout | cancel_timeout | register_signal | terminate => rfl
  | register_sock other entry =>
      by_cases same : type = other
      · subst same
        simp [Eloop.call, Eloop.eloop_sock_table_add_sock] at unchanged
      · simp [Eloop.call, Eloop.eloop_sock_table_add_sock, same]
  | unregister_sock other sock =>
      revert unchanged
      simp only [Eloop.call, Eloop.eloop_sock_table_remove_sock]
      split
      · by_cases same : type = other
        · subst same
          simp
        · simp [same]
      · exact fun _ => rfl

theorem call_reached (c : Eloop.Call)
    (reached : ∀ type, ∀ entry ∈ (s.tables type).table, entry.sock < s.max_sock + 1)
    (type : EventType) : ∀ entry ∈ ((s.call c).tables type).table,
      entry.sock < (s.call c).max_sock + 1 := by
  cases c with
  | register_timeout | cancel_timeout | register_signal | terminate => exact reached type
  | register_sock other new =>
      intro entry member
      have bound : s.max_sock ≤ (s.eloop_sock_table_add_sock other new).max_sock ∧
          new.sock ≤ (s.eloop_sock_table_add_sock other new).max_sock := by
        simp only [Eloop.eloop_sock_table_add_sock]
        split <;> omega
      show entry.sock < (s.eloop_sock_table_add_sock other new).max_sock + 1
      by_cases same : type = other
      · subst same
        simp only [Eloop.call, Eloop.eloop_sock_table_add_sock, Function.update_self,
          List.mem_append, List.mem_singleton] at member
        rcases member with old | equal
        · have := reached type entry old
          omega
        · rw [equal]
          omega
      · simp only [Eloop.call, Eloop.eloop_sock_table_add_sock, Function.update_of_ne same]
          at member
        have := reached type entry member
        omega
  | unregister_sock other sock =>
      simp only [Eloop.call, Eloop.eloop_sock_table_remove_sock]
      split
      · intro entry member
        by_cases same : type = other
        · subst same
          simp only [Function.update_self] at member
          exact reached type entry ((removeSock_sublist sock _).subset member)
        · simp only [Function.update_of_ne same] at member
          exact reached type entry member
      · exact reached type

theorem call_place (c : Eloop.Call) :
    (s.call c).place = s.place ∧ (s.call c).running = s.running := by
  cases c with
  | register_timeout | cancel_timeout | register_signal | terminate | register_sock =>
      exact ⟨rfl, rfl⟩
  | unregister_sock type sock =>
      simp only [Eloop.call, Eloop.eloop_sock_table_remove_sock]
      split <;> exact ⟨rfl, rfl⟩

theorem guarded_call (guarded : Guarded (s, watch)) (may : s.running ≠ none ∨ s.place = .outside)
    (c : Eloop.Call) : Guarded (s.call c, watch) := by
  obtain ⟨place, running⟩ := call_place (s := s) c
  refine ⟨call_reached c guarded.reached, guarded.finished, guarded.current, ?_, ?_, ?_⟩
  · rw [place]
    exact guarded.carried
  · intro type fds i here
    rw [place] at here
    rcases may with busy | outside
    · exact absurd (guarded.dispatch type fds i here).1 busy
    · rw [outside] at here
      cases here
  · intro type fds i here
    rw [place] at here
    obtain ⟨pass, current, ready, table, ran⟩ := guarded.returned type fds i here
    refine ⟨pass, current, ready, fun unchanged => ?_, ran⟩
    have same := call_tables c type unchanged
    rw [same] at unchanged ⊢
    exact table unchanged

/-- To a place outside of the passes. -/
theorem Guarded.move (guarded : Guarded (s, watch)) (tables : t.tables = s.tables)
    (max_sock : t.max_sock = s.max_sock)
    (fds : ∀ fds, t.place.fds = some fds → watch.reported = fds)
    (away : ∀ type fds i, t.place ≠ .dispatch type fds i ∧ t.place ≠ .returned type fds i) :
    Guarded (t, watch) := by
  refine ⟨?_, guarded.finished, guarded.current, fds, fun type fds i here => ?_,
    fun type fds i here => ?_⟩
  · rw [tables, max_sock]
    exact guarded.reached
  · exact absurd here (away type fds i).1
  · exact absurd here (away type fds i).2

/-- The next entry of the table, called when it is ready. -/
theorem filter_take_succ {pass : Pass} {i : Nat} {entry : Sock}
    (found : pass.table[i]? = some entry) :
    (pass.table.take (i + 1)).filter pass.isReady =
      (pass.table.take i).filter pass.isReady ++
        if entry.sock ∈ pass.ready then [entry] else [] := by
  rw [List.take_add_one, found, Option.toList_some, List.filter_append]
  congr 1
  by_cases ready : entry.sock ∈ pass.ready <;> simp [Pass.isReady, ready]

theorem prefix_due {pass : Pass} {i : Nat}
    (ran : pass.ran = (pass.table.take i).filter pass.isReady) :
    pass.ran <+: pass.due := by
  rw [ran]
  exact (List.take_prefix i pass.table).filter _

/-- The end of a pass. -/
theorem Guarded.close (guarded : Guarded (s, watch)) {pass : Pass}
    (here : watch.current = some pass) {type : EventType} {fds : Fds}
    (reported : watch.reported = some fds) {changed : Bool}
    (complete : changed = false → pass.ran = pass.due) :
    Guarded ({ s with place := Eloop.next fds type }, watch.close changed) := by
  refine ⟨guarded.reached, fun f member => ?_, fun _ other => ?_, fun sets same => ?_,
    fun other sets i there => ?_, fun other sets i there => ?_⟩
  · simp only [Watch.close, here, Option.map_some, Option.toList_some, List.mem_append,
      List.mem_singleton] at member
    rcases member with old | new
    · exact guarded.finished f old
    · rw [new]
      exact ⟨guarded.current pass here, complete⟩
  · simp [Watch.close] at other
  · show watch.reported = sets
    cases type <;> cases same <;> exact reported
  · cases type <;> cases there
  · cases type <;> cases there

theorem guarded_advance (guarded : Guarded (s, watch)) (idle : s.running = none)
    (taken : s.Advance t) : Guarded (t, watch.record s .advance t) := by
  have carried := guarded.carried
  cases taken with
  | sleep place why | leave place =>
      simp only [Watch.record, place]
      exact guarded.move rfl rfl (by simp [Place.fds]) (by simp)
  | again place =>
      simp only [Watch.record, place]
      exact guarded.move rfl rfl (by simp [Place.fds]) (by simp)
  | clear place | disarmed place | ready place =>
      simp only [place, Watch.record] at carried ⊢
      exact guarded.move rfl rfl carried (by simp)
  | quiet place why | signaled place why | alarm place why | calm place why
  | lastSignal place why | early place why =>
      simp only [place, Watch.record] at carried ⊢
      exact guarded.move rfl rfl carried (by simp)
  | skipSignal place found why | signal place found why | timeout place found why =>
      simp only [place, Watch.record] at carried ⊢
      exact guarded.move rfl rfl carried (by simp)
  | @enter type fds place =>
      have reported := carried (some fds) (by simp [place, Place.fds])
      have ready : watch.ready type = fds.of type := by
        rw [Watch.ready, reported]
      simp only [Watch.record, place, ready]
      refine ⟨fun other entry member => ?_, guarded.finished, fun pass here => ?_, fun _ same => ?_,
        fun other sets i here => ?_, fun other sets i here => by cases here⟩
      · by_cases same : other = type
        · subst same
          simp only [Function.update_self] at member
          exact guarded.reached other entry member
        · simp only [Function.update_of_ne same] at member
          exact guarded.reached other entry member
      · cases here
        simp [Pass.due]
      · cases same
        exact reported
      · cases here
        exact ⟨idle, by simp, _, rfl, rfl, by simp, by simp⟩
  | @lastSock type fds i place behind =>
      obtain ⟨_, unchanged, pass, here, _, table, ran⟩ := guarded.dispatch type fds i place
      have reported := carried (some fds) (by simp [place, Place.fds])
      have closed : watch.record s .advance { s with place := Eloop.next fds type } =
          watch.close (s.tables type).changed := by
        cases type <;> simp only [Watch.record, place, Eloop.next]
      rw [closed]
      apply guarded.close here reported
      rw [← table unchanged, List.getElem?_eq_none_iff] at behind
      intro _
      rw [ran, List.take_of_length_le behind, Pass.due]
  | @skipSock type fds i entry place found unset =>
      obtain ⟨_, unchanged, pass, here, ready, table, ran⟩ := guarded.dispatch type fds i place
      simp only [Watch.record, place]
      refine ⟨guarded.reached, guarded.finished, guarded.current, fun _ same => ?_,
        fun other sets i here => ?_, fun other sets i here => by cases here⟩
      · rw [place] at carried
        exact carried _ same
      · cases here
        refine ⟨idle, unchanged, pass, here, ready, table, ?_⟩
        rw [← table unchanged] at found
        rw [filter_take_succ found, ready, if_neg unset, List.append_nil]
        exact ran
  | @sock type fds i entry place found set =>
      obtain ⟨_, unchanged, pass, here, ready, table, ran⟩ := guarded.dispatch type fds i place
      rw [← table unchanged] at found
      have more : pass.ran ++ [entry] = (pass.table.take (i + 1)).filter pass.isReady := by
        rw [filter_take_succ found, ready, if_pos set, ran]
      simp only [Watch.record, place]
      rw [here, Option.map_some]
      refine ⟨guarded.reached, guarded.finished, fun _ same => ?_, fun _ same => ?_,
        fun other sets i here => (by cases here), fun other sets i here => ?_⟩
      · cases same
        exact prefix_due (i := i + 1) more
      · rw [place] at carried
        exact carried _ same
      · cases here
        exact ⟨_, rfl, ready, table, more⟩
  | @changed type fds i place changed =>
      obtain ⟨pass, here, _, _, _⟩ := guarded.returned type fds i place
      have reported := carried (some fds) (by simp [place, Place.fds])
      have closed : watch.record s .advance { s with place := Eloop.next fds type } =
          watch.close (s.tables type).changed := by
        cases type <;> simp only [Watch.record, place, Eloop.next]
      rw [closed]
      apply guarded.close here reported
      intro unchanged
      simp [changed] at unchanged
  | @unchanged type fds i place unchanged =>
      obtain ⟨pass, here, ready, table, ran⟩ := guarded.returned type fds i place
      simp only [Watch.record, place]
      refine ⟨guarded.reached, guarded.finished, guarded.current, fun _ same => ?_,
        fun other sets i here => ?_, fun other sets i here => by cases here⟩
      · rw [place] at carried
        exact carried _ same
      · cases here
        exact ⟨idle, unchanged, pass, here, ready, table, ran⟩

/-- The step lemma of the passes. -/
theorem guarded_step {p q : Eloop × Watch} {e : Eloop.Event} (guarded : Guarded p)
    (taken : traced Eloop.step Watch.record p e = some q) : Guarded q := by
  obtain ⟨s, watch⟩ := p
  obtain ⟨t, done, same⟩ := Option.map_eq_some_iff.mp taken
  subst same
  cases e with
  | run =>
      obtain ⟨_, same⟩ := Option.ite_none_right_eq_some.mp done
      cases same
      exact guarded.move rfl rfl (by simp [Place.fds]) (by simp)
  | advance =>
      obtain ⟨⟨idle, _⟩, same⟩ := Option.ite_none_right_eq_some.mp done
      exact guarded_advance guarded idle (s.advance_cases same)
  | selected result =>
      have reports : ∀ reported, Guarded ({ s with place := .outside }, { watch with reported }) ∧
          Guarded ({ s with place := .pending reported }, { watch with reported }) := by
        intro reported
        constructor <;>
          refine ⟨guarded.reached, guarded.finished, guarded.current, fun fds same => ?_,
            by simp, by simp⟩ <;>
          cases same
        rfl
      simp only [Eloop.step] at done
      split at done
      · cases done
        exact (reports none).1
      · cases done
        exact (reports none).2
      · obtain ⟨_, same⟩ := Option.ite_none_right_eq_some.mp done
        cases same
        exact (reports (some _)).2
      · cases done
  | call c =>
      obtain ⟨⟨may, _⟩, same⟩ := Option.ite_none_right_eq_some.mp done
      cases same
      exact guarded_call guarded may c
  | registered =>
      obtain ⟨r, _, same⟩ := Option.map_eq_some_iff.mp done
      cases same
      exact ⟨guarded.reached, guarded.finished, guarded.current, guarded.carried, guarded.dispatch,
        guarded.returned⟩
  | ret =>
      obtain ⟨_, same⟩ := Option.ite_none_right_eq_some.mp done
      cases same
      refine ⟨guarded.reached, guarded.finished, guarded.current, guarded.carried,
        fun type fds i here => ?_, guarded.returned⟩
      exact ⟨rfl, (guarded.dispatch type fds i here).2⟩
  | clock now =>
      cases done
      exact ⟨guarded.reached, guarded.finished, guarded.current, guarded.carried, guarded.dispatch,
        guarded.returned⟩
  | caught sig =>
      obtain ⟨_, same⟩ := Option.ite_none_right_eq_some.mp done
      cases same
      have handled : Guarded (s.eloop_handle_signal sig, watch) := by
        unfold Eloop.eloop_handle_signal
        split
        all_goals
          exact ⟨guarded.reached, guarded.finished, guarded.current, guarded.carried,
            guarded.dispatch, guarded.returned⟩
      exact handled

end Passes

/-- Along every run of the loop, whatever its handlers call and whenever signals come. -/
theorem eloop_watched (now : OsTime) (events : List Eloop.Event) :
    AllStates (traced Eloop.step Watch.record) Watched (.init now, .empty) events :=
  (allStates_of_kept (fun _ _ _ guarded taken => guarded_step guarded taken)
    (guarded_init now)).imp fun _ guarded => guarded.watched

/-- The signals that have been caught and not been handled since, without those that were caught
while the table had been moved and the copy was not in use; and those whose handlers have been
called, with whether they had been caught. -/
structure Mail where
  owed : Nat → Bool
  ran : List (Nat × Bool)

namespace Mail

def empty : Mail := ⟨fun _ => false, []⟩

def record (mail : Mail) (s : Eloop) : Eloop.Event → Eloop → Mail
  | .caught sig, _ =>
      if s.copy = none then { mail with owed := Function.update mail.owed sig true } else mail
  | .advance, t =>
      match t.running with
      | some (.signal entry) =>
          { owed := Function.update mail.owed entry.sig false
            ran := mail.ran ++ [(entry.sig, mail.owed entry.sig)] }
      | _ => mail
  | _, _ => mail

end Mail

/-- In `eloop_process_pending_signals`, behind the reset of the flag. -/
def Place.inSignals : Place → Prop
  | .alarm _ | .disarmed _ | .signals _ _ => True
  | _ => False

/-- The signals that are owed, and no others, are flagged, each at its first registration. -/
def Flagged (table : List Signal) (owed : Nat → Bool) : Prop :=
  ∀ i entry, table[i]? = some entry →
    (entry.signaled ≠ 0 ↔ owed entry.sig = true ∧ entry.sig ∉ (table.map Signal.sig).take i)

/-- A signal is flagged from when it is caught until its handler is called, which is not called
otherwise; until then the flag of the loop is set, unless the registrations are being gone through.
The alarm is not set without a pending termination, which has none only where it has just been
switched off; and the flag of the loop is set with it, unless it is about to be switched off. -/
structure Delivered (p : Eloop × Mail) : Prop where
  flagged : Flagged p.1.table p.2.owed
  ran : ∀ r ∈ p.2.ran, r.2 = true
  waits : ∀ sig, p.2.owed sig = true → p.1.signaled ≠ 0 ∨ p.1.place.inSignals
  alarm : p.1.alarm = true → p.1.pending_terminate = true
  pending : p.1.pending_terminate = true → p.1.alarm = true ∨ ∃ fds, p.1.place = .disarmed fds
  terminates : p.1.alarm = true → p.1.signaled ≠ 0 ∨ ∃ fds, p.1.place = .alarm fds

/-- The registrations from an index on are still to be gone through. -/
def Place.ahead (place : Place) (i : Nat) : Prop :=
  (∃ fds, place = .alarm fds) ∨ (∃ fds, place = .disarmed fds) ∨
    ∃ fds j, place = .signals fds j ∧ j ≤ i

/-- No flag of the table is passed by. -/
def Ahead (table : List Signal) (signaled : Nat) (place : Place) : Prop :=
  ∀ i entry, table[i]? = some entry → entry.signaled ≠ 0 → signaled ≠ 0 ∨ place.ahead i

structure Posted (p : Eloop × Mail) : Prop where
  flagged : Flagged p.1.table p.2.owed
  registered : ∀ sig, p.2.owed sig = true → sig ∈ p.1.table.map Signal.sig
  ahead : Ahead p.1.table p.1.signaled p.1.place
  ran : ∀ r ∈ p.2.ran, r.2 = true
  alarm : p.1.alarm = true → p.1.pending_terminate = true
  pending : p.1.pending_terminate = true → p.1.alarm = true ∨ ∃ fds, p.1.place = .disarmed fds
  terminates : p.1.alarm = true → p.1.signaled ≠ 0 ∨ ∃ fds, p.1.place = .alarm fds
  disarmed : ∀ fds, p.1.place = .disarmed fds → p.1.alarm = false ∧ p.1.pending_terminate = true

section Tables

variable {table : List Signal} {owed : Nat → Bool}

theorem exists_first {sigs : List Nat} {sig : Nat} (member : sig ∈ sigs) :
    ∃ i, sigs[i]? = some sig ∧ sig ∉ sigs.take i := by
  induction sigs with
  | nil => cases member
  | cons head rest ih =>
      by_cases same : head = sig
      · exact ⟨0, by simp [same], by simp⟩
      · have inside : sig ∈ rest := by simpa [Ne.symm same] using member
        obtain ⟨i, found, first⟩ := ih inside
        exact ⟨i + 1, by simpa using found, by simp [Ne.symm same, first]⟩

theorem mem_take_of_lt {sigs : List Nat} {sig i k : Nat} (found : sigs[k]? = some sig)
    (before : k < i) : sig ∈ sigs.take i := by
  apply List.mem_of_getElem? (i := k)
  rw [List.getElem?_take_of_lt before]
  exact found

theorem map_sig_raise (sig : Nat) (table : List Signal) :
    (raise sig table).map Signal.sig = table.map Signal.sig := by
  induction table with
  | nil => rfl
  | cons entry rest ih =>
      rw [raise]
      split
      · rfl
      · rw [List.map_cons, List.map_cons, ih]

/-- The first registration of the signal is flagged, the others are as they were. -/
theorem getElem?_raise {sig i : Nat} {table : List Signal} {after : Signal}
    (found : (raise sig table)[i]? = some after) :
    ∃ entry, table[i]? = some entry ∧ after.sig = entry.sig ∧ (after.signaled ≠ 0 ↔
      entry.signaled ≠ 0 ∨ entry.sig = sig ∧ sig ∉ (table.map Signal.sig).take i) := by
  induction table generalizing i with
  | nil => simp [raise] at found
  | cons entry rest ih =>
      rw [raise] at found
      split at found
      · rename_i same
        cases i with
        | zero =>
            simp only [List.getElem?_cons_zero, Option.some.injEq] at found
            subst found
            exact ⟨entry, rfl, rfl, by simp [same]⟩
        | succ i =>
            refine ⟨after, by simpa using found, rfl, ?_⟩
            simp [same]
      · rename_i other
        cases i with
        | zero =>
            simp only [List.getElem?_cons_zero, Option.some.injEq] at found
            subst found
            exact ⟨entry, rfl, rfl, by simp [other]⟩
        | succ i =>
            obtain ⟨entry', here, same, flag⟩ := ih (by simpa using found)
            refine ⟨entry', by simpa using here, same, ?_⟩
            simpa [Ne.symm other] using flag

theorem Flagged.raise (flagged : Flagged table owed) (sig : Nat) :
    Flagged (raise sig table) (Function.update owed sig true) := by
  intro i after found
  rw [map_sig_raise]
  obtain ⟨entry, here, same, flag⟩ := getElem?_raise found
  rw [flag, flagged i entry here, same]
  by_cases equal : entry.sig = sig
  · subst equal
    simp
  · simp [equal]

theorem map_sig_set {i : Nat} {entry : Signal} (found : table[i]? = some entry) :
    (table.set i { entry with signaled := 0 }).map Signal.sig = table.map Signal.sig := by
  apply List.ext_getElem?
  intro k
  rw [List.getElem?_map, List.getElem?_map, List.getElem?_set]
  split
  · rename_i same
    subst same
    obtain ⟨bound, _⟩ := List.getElem?_eq_some_iff.mp found
    rw [found, if_pos bound]
    rfl
  · rfl

/-- Of the registrations of a signal one at most is flagged. -/
theorem Flagged.unique (flagged : Flagged table owed) {i k : Nat} {entry other : Signal}
    (found : table[i]? = some entry) (raised : entry.signaled ≠ 0) (here : table[k]? = some other)
    (equal : other.sig = entry.sig) (apart : i ≠ k) : other.signaled = 0 := by
  by_contra flag
  have first := ((flagged i entry found).mp raised).2
  have earliest := ((flagged k other here).mp flag).2
  rcases Nat.lt_or_gt_of_ne apart with before | behind
  · apply earliest
    apply mem_take_of_lt _ before
    simp [found, equal]
  · apply first
    apply mem_take_of_lt _ behind
    simp [here, equal]

theorem Flagged.reset (flagged : Flagged table owed) {i : Nat} {entry : Signal}
    (found : table[i]? = some entry) (raised : entry.signaled ≠ 0) :
    Flagged (table.set i { entry with signaled := 0 }) (Function.update owed entry.sig false) := by
  obtain ⟨bound, _⟩ := List.getElem?_eq_some_iff.mp found
  intro k other here
  rw [map_sig_set found]
  by_cases same : i = k
  · subst same
    rw [List.getElem?_set_self bound] at here
    cases here
    simp
  · rw [List.getElem?_set_ne same] at here
    by_cases equal : other.sig = entry.sig
    · have unflagged := flagged.unique found raised here equal same
      simp [unflagged, equal]
    · rw [flagged k other here, Function.update_of_ne equal]

theorem getElem?_append_entry {i : Nat} {new entry : Signal}
    (found : (table ++ [new])[i]? = some entry) :
    table[i]? = some entry ∨ i = table.length ∧ entry = new := by
  rw [List.getElem?_append] at found
  split at found
  · exact Or.inl found
  · have bound := (List.getElem?_eq_some_iff.mp found).1
    simp only [List.length_singleton] at bound
    have last : i = table.length := by omega
    subst last
    exact Or.inr ⟨rfl, by simpa using found.symm⟩

/-- A new registration is not the first one of a signal that is owed. -/
theorem Flagged.append (flagged : Flagged table owed)
    (registered : ∀ sig, owed sig = true → sig ∈ table.map Signal.sig) {new : Signal}
    (unset : new.signaled = 0) : Flagged (table ++ [new]) owed := by
  intro i entry found
  rcases getElem?_append_entry found with old | ⟨last, same⟩
  · have bound := (List.getElem?_eq_some_iff.mp old).1
    rw [flagged i entry old, List.map_append, List.take_append_of_le_length]
    rw [List.length_map]
    omega
  · subst last
    subst same
    simp only [List.map_append, unset, ne_eq, not_true_eq_false, false_iff, not_and, not_not]
    intro owed
    rw [List.take_append_of_le_length (by simp), List.take_of_length_le (by simp)]
    exact registered entry.sig owed

end Tables

section Signals

variable {s t : Eloop} {mail : Mail}

theorem Posted.delivered {p : Eloop × Mail} (posted : Posted p) : Delivered p := by
  refine ⟨posted.flagged, posted.ran, fun sig owed => ?_, posted.alarm, posted.pending,
    posted.terminates⟩
  obtain ⟨i, found, first⟩ := exists_first (posted.registered sig owed)
  rw [List.getElem?_map] at found
  obtain ⟨entry, here, same⟩ := Option.map_eq_some_iff.mp found
  subst same
  have flag := (posted.flagged i entry here).mpr ⟨owed, first⟩
  refine (posted.ahead i entry here flag).imp id fun ahead => ?_
  rcases ahead with ⟨fds, place⟩ | ⟨fds, place⟩ | ⟨fds, j, place, _⟩ <;>
    rw [place] <;> trivial

theorem posted_init (now : OsTime) : Posted (.init now, .empty) := by
  constructor <;> simp [Flagged, Ahead, Eloop.init, Eloop.table, Eloop.copy, Mail.empty]

theorem table_of_copy (unmoved : s.copy = none) : s.table = s.signals := by
  rw [Eloop.table, unmoved, Option.getD_none]

theorem table_of_idle (idle : s.registering = none) : s.table = s.signals :=
  table_of_copy (by rw [Eloop.copy, idle, Option.bind_none])

theorem eloop_handle_signal_fields (s : Eloop) (sig : Nat) :
    (s.eloop_handle_signal sig).signals = raise sig s.signals ∧
      (s.eloop_handle_signal sig).signaled = s.signaled + 1 ∧
      (s.eloop_handle_signal sig).copy = s.copy := by
  unfold Eloop.eloop_handle_signal
  split <;> exact ⟨rfl, rfl, rfl⟩

theorem eloop_handle_signal_ends (posted : Posted (s, mail)) (sig : Nat) :
    ((s.eloop_handle_signal sig).alarm = true →
      (s.eloop_handle_signal sig).pending_terminate = true) ∧
    ((s.eloop_handle_signal sig).pending_terminate = true →
      (s.eloop_handle_signal sig).alarm = true ∨
        ∃ fds, (s.eloop_handle_signal sig).place = .disarmed fds) ∧
    ∀ fds, (s.eloop_handle_signal sig).place = .disarmed fds →
      (s.eloop_handle_signal sig).alarm = false ∧
        (s.eloop_handle_signal sig).pending_terminate = true := by
  unfold Eloop.eloop_handle_signal
  split
  · rename_i calm
    refine ⟨fun _ => rfl, fun _ => Or.inl rfl, fun fds place => ?_⟩
    have waiting := (posted.disarmed fds place).2
    rw [calm.2] at waiting
    cases waiting
  · exact ⟨posted.alarm, posted.pending, posted.disarmed⟩

theorem posted_caught (posted : Posted (s, mail)) (sig : Nat)
    (registered : s.signals.any (fun entry => entry.sig = sig) = true) :
    Posted (s.eloop_handle_signal sig,
      mail.record s (.caught sig) (s.eloop_handle_signal sig)) := by
  obtain ⟨signals, signaled, copy⟩ := eloop_handle_signal_fields s sig
  obtain ⟨alarm, pending, disarmed⟩ := eloop_handle_signal_ends posted sig
  have set : (s.eloop_handle_signal sig).signaled ≠ 0 := by
    rw [signaled]
    exact Nat.succ_ne_zero s.signaled
  rw [Mail.record]
  split
  · rename_i unmoved
    have before := table_of_copy unmoved
    have after : (s.eloop_handle_signal sig).table = raise sig s.table := by
      rw [table_of_copy (copy.trans unmoved), signals, before]
    refine ⟨?_, fun other owed => ?_, fun _ _ _ _ => Or.inl set, posted.ran, alarm, pending,
      fun _ => Or.inl set, disarmed⟩
    · rw [after]
      exact posted.flagged.raise sig
    · rw [after, map_sig_raise]
      by_cases equal : other = sig
      · rw [equal, before]
        simpa using registered
      · apply posted.registered other
        simpa [Function.update_of_ne equal] using owed
  · -- the table that is not in use any more is flagged
    rename_i moved
    have after : (s.eloop_handle_signal sig).table = s.table := by
      obtain ⟨there, here⟩ := Option.ne_none_iff_exists'.mp moved
      rw [Eloop.table, Eloop.table, copy, here, Option.getD_some, Option.getD_some]
    refine ⟨?_, ?_, fun _ _ _ _ => Or.inl set, posted.ran, alarm, pending, fun _ => Or.inl set,
      disarmed⟩
    · rw [after]
      exact posted.flagged
    · rw [after]
      exact posted.registered

/-- The handler of a flagged registration is called. -/
theorem posted_signal (posted : Posted (s, mail)) (idle : s.registering = none) {fds : Option Fds}
    {i : Nat} {entry : Signal} (place : s.place = .signals fds i)
    (found : s.signals[i]? = some entry) (raised : entry.signaled ≠ 0) :
    Posted ({ s with
        signals := s.signals.set i { entry with signaled := 0 }
        running := some (.signal { entry with signaled := 0 })
        place := .signals fds (i + 1) },
      { owed := Function.update mail.owed entry.sig false
        ran := mail.ran ++ [(entry.sig, mail.owed entry.sig)] }) := by
  obtain ⟨flagged, registered, ahead, ran, alarm, pending, terminates, _⟩ := posted
  simp only [table_of_idle idle] at flagged registered ahead
  have owed := ((flagged i entry found).mp raised).1
  obtain ⟨bound, _⟩ := List.getElem?_eq_some_iff.mp found
  have after : Eloop.table { s with
      signals := s.signals.set i { entry with signaled := 0 }
      running := some (.signal { entry with signaled := 0 })
      place := .signals fds (i + 1) } = s.signals.set i { entry with signaled := 0 } :=
    table_of_idle idle
  refine ⟨?_, fun sig still => ?_, fun k other here flag => ?_, fun r member => ?_, alarm,
    fun waiting => ?_, fun set => ?_, nofun⟩
  · rw [after]
    exact flagged.reset found raised
  · rw [after, map_sig_set found]
    apply registered sig
    by_cases equal : sig = entry.sig
    · simp [equal] at still
    · simpa [Function.update_of_ne equal] using still
  · rw [after] at here
    by_cases same : i = k
    · subst same
      rw [List.getElem?_set_self bound] at here
      cases here
      exact absurd rfl flag
    · rw [List.getElem?_set_ne same] at here
      refine (ahead k other here flag).imp id ?_
      rw [place]
      rintro (⟨sets, there⟩ | ⟨sets, there⟩ | ⟨sets, j, there, behind⟩)
      · cases there
      · cases there
      · cases there
        exact Or.inr (Or.inr ⟨fds, i + 1, rfl, by omega⟩)
  · rcases List.mem_append.mp member with old | new
    · exact ran r old
    · rw [List.mem_singleton.mp new]
      exact owed
  · refine (pending waiting).imp id ?_
    rintro ⟨sets, other⟩
    rw [place] at other
    cases other
  · refine (terminates set).imp id ?_
    rintro ⟨sets, other⟩
    rw [place] at other
    cases other

/-- The steps that leave the signals as they are. -/
theorem Posted.move (posted : Posted (s, mail)) (table : t.table = s.table)
    (signaled : t.signaled = s.signaled) (alarm : t.alarm = s.alarm)
    (pending : t.pending_terminate = s.pending_terminate)
    (ahead : ∀ i entry, s.table[i]? = some entry → entry.signaled ≠ 0 → s.place.ahead i →
      s.signaled ≠ 0 ∨ t.place.ahead i)
    (switched : ∀ fds, s.place ≠ .disarmed fds ∧ t.place ≠ .disarmed fds)
    (ends : s.alarm = true → ∀ fds, s.place = .alarm fds → s.signaled ≠ 0 ∨
      ∃ fds, t.place = .alarm fds) : Posted (t, mail) := by
  refine ⟨?_, ?_, fun i entry found flag => ?_, posted.ran, ?_, fun waiting => ?_, fun set => ?_,
    fun fds place => absurd place (switched fds).2⟩
  · rw [table]
    exact posted.flagged
  · rw [table]
    exact posted.registered
  · rw [table] at found
    rw [signaled]
    rcases posted.ahead i entry found flag with set | behind
    · exact Or.inl set
    · exact ahead i entry found flag behind
  · rw [alarm, pending]
    exact posted.alarm
  · rw [pending] at waiting
    rw [alarm]
    rcases posted.pending waiting with set | ⟨fds, place⟩
    · exact Or.inl set
    · exact absurd place (switched fds).1
  · rw [alarm] at set
    rw [signaled]
    rcases posted.terminates set with raised | ⟨fds, place⟩
    · exact Or.inl raised
    · exact ends set fds place

/-- The steps that leave the signals and the place as they are. -/
theorem Posted.stay (posted : Posted (s, mail)) (table : t.table = s.table)
    (signaled : t.signaled = s.signaled) (alarm : t.alarm = s.alarm)
    (pending : t.pending_terminate = s.pending_terminate) (place : t.place = s.place) :
    Posted (t, mail) := by
  obtain ⟨flagged, registered, ahead, ran, armed, waiting, terminates, disarmed⟩ := posted
  refine ⟨?_, ?_, ?_, ran, ?_, ?_, ?_, ?_⟩ <;> simp only [table, signaled, alarm, pending, place]
  · exact flagged
  · exact registered
  · exact ahead
  · exact armed
  · exact waiting
  · exact terminates
  · exact disarmed

theorem posted_call (posted : Posted (s, mail)) (idle : s.registering = none) (c : Eloop.Call) :
    Posted (s.call c, mail) := by
  cases c with
  | register_timeout | cancel_timeout | register_sock | terminate =>
      exact posted.stay rfl rfl rfl rfl rfl
  | unregister_sock type sock =>
      simp only [Eloop.call, Eloop.eloop_sock_table_remove_sock]
      split
      all_goals exact posted.stay rfl rfl rfl rfl rfl
  | register_signal sig handler user_data moved =>
      refine posted.stay ?_ rfl rfl rfl rfl
      rw [table_of_idle idle]
      cases moved <;> rfl

theorem posted_registered (posted : Posted (s, mail)) (r : Registering) :
    Posted (s.eloop_signals_assign r.entry, mail) := by
  have after : (s.eloop_signals_assign r.entry).table = s.table ++ [r.entry] := rfl
  refine ⟨?_, fun sig owed => ?_, fun i entry found flag => ?_, posted.ran, posted.alarm,
    posted.pending, posted.terminates, posted.disarmed⟩
  · rw [after]
    exact posted.flagged.append posted.registered r.unset
  · rw [after, List.map_append]
    exact List.mem_append_left _ (posted.registered sig owed)
  · rw [after] at found
    rcases getElem?_append_entry found with old | ⟨_, new⟩
    · exact posted.ahead i entry old flag
    · rw [new] at flag
      exact absurd r.unset flag

theorem next_ne_disarmed (type : EventType) (sets : Fds) (fds : Option Fds) :
    Eloop.next sets type ≠ .disarmed fds := by
  cases type <;> simp [Eloop.next]

theorem posted_advance (posted : Posted (s, mail)) (idle : s.running = none)
    (unregistering : s.registering = none) (taken : s.Advance t) :
    Posted (t, mail.record s .advance t) := by
  have unrecorded : (∀ entry, t.running ≠ some (.signal entry)) →
      mail.record s .advance t = mail := by
    intro other
    cases running : t.running with
    | none => simp only [Mail.record, running]
    | some invocation =>
        cases invocation with
        | signal entry => exact absurd running (other entry)
        | timeout timeout | sock type entry => simp only [Mail.record, running]
  have switched : (∀ fds, s.place ≠ .disarmed fds) → s.pending_terminate = true →
      s.alarm = true := by
    intro other waiting
    rcases posted.pending waiting with set | ⟨fds, place⟩
    · exact set
    · exact absurd place (other fds)
  cases taken with
  | signal place found raised => exact posted_signal posted unregistering place found raised
  | quiet place none | signaled place some =>
      rw [unrecorded (by simp [idle])]
      refine posted.move rfl rfl rfl rfl ?_ ?_ ?_ <;> simp [place, Place.ahead]
  | @clear fds place =>
      rw [unrecorded (by simp [idle])]
      exact ⟨posted.flagged, posted.registered, fun _ _ _ _ => Or.inr (Or.inl ⟨fds, rfl⟩),
        posted.ran, posted.alarm, fun waiting => Or.inl (switched (by simp [place]) waiting),
        fun _ => Or.inr ⟨fds, rfl⟩, nofun⟩
  | @alarm fds place pending =>
      rw [unrecorded (by simp [idle])]
      exact ⟨posted.flagged, posted.registered, fun _ _ _ _ => Or.inr (Or.inr (Or.inl ⟨fds, rfl⟩)),
        posted.ran, nofun, fun _ => Or.inr ⟨fds, rfl⟩, nofun, fun _ _ => ⟨rfl, pending⟩⟩
  | @calm fds place calm =>
      rw [unrecorded (by simp [idle])]
      have unset : s.alarm ≠ true := by
        intro set
        rw [posted.alarm set] at calm
        cases calm
      exact ⟨posted.flagged, posted.registered,
        fun i _ _ _ => Or.inr (Or.inr (Or.inr ⟨fds, 0, rfl, Nat.zero_le i⟩)), posted.ran,
        posted.alarm, fun waiting => Or.inl (switched (by simp [place]) waiting),
        fun set => absurd set unset, nofun⟩
  | @disarmed fds place =>
      rw [unrecorded (by simp [idle])]
      have unset : s.alarm ≠ true := by
        have off : s.alarm = false := (posted.disarmed fds place).1
        simp [off]
      exact ⟨posted.flagged, posted.registered,
        fun i _ _ _ => Or.inr (Or.inr (Or.inr ⟨fds, 0, rfl, Nat.zero_le i⟩)), posted.ran,
        fun set => absurd set unset, nofun, fun set => absurd set unset, nofun⟩
  | lastSignal place behind =>
      rw [unrecorded (by simp [idle])]
      rw [List.getElem?_eq_none_iff] at behind
      refine posted.move rfl rfl rfl rfl ?_ (by simp [place]) (by simp [place])
      intro k entry found _ ahead
      rw [table_of_idle unregistering] at found
      have bound := (List.getElem?_eq_some_iff.mp found).1
      simp only [place, Place.ahead] at ahead
      rcases ahead with ⟨fds, other⟩ | ⟨fds, other⟩ | ⟨fds, j, same, behind⟩
      · cases other
      · cases other
      · cases same
        omega
  | @skipSignal fds i entry place found quiet =>
      rw [unrecorded (by simp [idle])]
      refine posted.move rfl rfl rfl rfl ?_ (by simp [place]) (by simp [place])
      intro k other here flag ahead
      rw [table_of_idle unregistering] at here
      simp only [place, Place.ahead] at ahead
      rcases ahead with ⟨sets, other⟩ | ⟨sets, other⟩ | ⟨sets, j, same, behind⟩
      · cases other
      · cases other
      · cases same
        have later : k ≠ i := by
          intro equal
          subst equal
          rw [found] at here
          cases here
          exact flag quiet
        exact Or.inr (Or.inr (Or.inr ⟨fds, i + 1, rfl, by omega⟩))
  | timeout place found due =>
      rw [unrecorded (by simp)]
      refine posted.move rfl rfl rfl rfl ?_ ?_ ?_ <;> simp [place, Place.ahead]
  | sock place found set =>
      rw [unrecorded (by simp)]
      refine posted.move rfl rfl rfl rfl ?_ ?_ ?_ <;> simp [place, Place.ahead]
  | leave place | again place | ready place | enter place =>
      rw [unrecorded (by simp [idle])]
      refine posted.move rfl rfl rfl rfl ?_ ?_ ?_ <;> simp [place, Place.ahead]
  | lastSock place why | changed place why =>
      rw [unrecorded (by simp [idle])]
      refine posted.move rfl rfl rfl rfl ?_ ?_ ?_ <;> simp [place, Place.ahead, next_ne_disarmed]
  | sleep place why | early place why | unchanged place why | skipSock place found why =>
      rw [unrecorded (by simp [idle])]
      refine posted.move rfl rfl rfl rfl ?_ ?_ ?_ <;> simp [place, Place.ahead]

/-- The step lemma of the signals. -/
theorem posted_step {p q : Eloop × Mail} {e : Eloop.Event} (posted : Posted p)
    (taken : traced Eloop.step Mail.record p e = some q) : Posted q := by
  obtain ⟨s, mail⟩ := p
  obtain ⟨t, done, same⟩ := Option.map_eq_some_iff.mp taken
  subst same
  cases e with
  | run =>
      obtain ⟨⟨outside, _⟩, same⟩ := Option.ite_none_right_eq_some.mp done
      have place : s.place = .outside := outside
      cases same
      refine posted.move rfl rfl rfl rfl ?_ ?_ ?_ <;> simp [place, Place.ahead]
  | advance =>
      obtain ⟨⟨idle, unregistering⟩, same⟩ := Option.ite_none_right_eq_some.mp done
      exact posted_advance posted idle unregistering (s.advance_cases same)
  | selected result =>
      simp only [Eloop.step] at done
      split at done
      · rename_i asleep
        have place : s.place = .sleeping _ := asleep
        cases done
        refine posted.move rfl rfl rfl rfl ?_ ?_ ?_ <;> simp [place, Place.ahead]
      · rename_i asleep
        have place : s.place = .sleeping _ := asleep
        cases done
        refine posted.move rfl rfl rfl rfl ?_ ?_ ?_ <;> simp [place, Place.ahead]
      · rename_i asleep
        have place : s.place = .sleeping _ := asleep
        obtain ⟨_, same⟩ := Option.ite_none_right_eq_some.mp done
        cases same
        refine posted.move rfl rfl rfl rfl ?_ ?_ ?_ <;> simp [place, Place.ahead]
      · cases done
  | call c =>
      obtain ⟨⟨_, unregistering⟩, same⟩ := Option.ite_none_right_eq_some.mp done
      cases same
      exact posted_call posted unregistering c
  | registered =>
      obtain ⟨r, _, same⟩ := Option.map_eq_some_iff.mp done
      subst same
      exact posted_registered posted r
  | ret =>
      obtain ⟨_, same⟩ := Option.ite_none_right_eq_some.mp done
      cases same
      exact posted.stay rfl rfl rfl rfl rfl
  | clock now =>
      cases done
      exact posted.stay rfl rfl rfl rfl rfl
  | caught sig =>
      obtain ⟨registered, same⟩ := Option.ite_none_right_eq_some.mp done
      cases same
      exact posted_caught posted sig registered

end Signals

/-- Along every run of the loop, whatever its handlers call and whenever signals come. -/
theorem eloop_delivered (now : OsTime) (events : List Eloop.Event) :
    AllStates (traced Eloop.step Mail.record) Delivered (.init now, .empty) events :=
  (allStates_of_kept (fun _ _ _ posted taken => posted_step posted taken) (posted_init now)).imp
    fun _ posted => posted.delivered

end Connectivity.EventLoop
