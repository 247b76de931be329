import Connectivity.Transition.Run
import Mathlib.Algebra.Ring.Nat

set_option autoImplicit false

/- The event loop of the dump tool: its tables of sockets, timeouts and signals, and its thread,
statement by statement, with the signals that come between. -/
namespace Connectivity.EventLoop

/-- `os_time`, with less than a second of microseconds. -/
structure OsTime where
  sec : Nat
  usec : Nat
  below : usec < 1000000
deriving DecidableEq, Repr

namespace OsTime

def micros (t : OsTime) : Nat := t.sec * 1000000 + t.usec

/-- `os_time_before`. -/
def before (a b : OsTime) : Bool := a.sec < b.sec || a.sec = b.sec && a.usec < b.usec

/-- `os_time_sub`. -/
def sub (a b : OsTime) : Int × Int :=
  let usec : Int := a.usec - b.usec
  if usec < 0 then ((a.sec : Int) - b.sec - 1, usec + 1000000) else ((a.sec : Int) - b.sec, usec)

/-- The loop that carries microseconds into seconds. -/
def carry (sec usec : Nat) : OsTime :=
  if below : usec < 1000000 then ⟨sec, usec, below⟩ else carry (sec + 1) (usec - 1000000)
termination_by usec
decreasing_by omega

theorem before_iff {a b : OsTime} : a.before b = true ↔ a.micros < b.micros := by
  have first := a.below
  have second := b.below
  simp only [before, micros, Bool.or_eq_true, Bool.and_eq_true, decide_eq_true_eq]
  omega

theorem not_before_iff {a b : OsTime} : a.before b = false ↔ b.micros ≤ a.micros := by
  rw [← Bool.not_eq_true, before_iff, Nat.not_lt]

/-- The wait until a time that has not come yet. -/
theorem sub_micros (a b : OsTime) :
    (a.sub b).1 * 1000000 + (a.sub b).2 = (a.micros : Int) - b.micros ∧ 0 ≤ (a.sub b).2 ∧
      (a.sub b).2 < 1000000 := by
  have first := a.below
  have second := b.below
  unfold sub micros
  dsimp only
  split <;> omega

@[simp]
theorem micros_carry (sec usec : Nat) : (carry sec usec).micros = sec * 1000000 + usec := by
  induction sec, usec using carry.induct with
  | case1 sec usec below =>
      rw [carry, dif_pos below]
      simp only [micros]
  | case2 sec usec above ih =>
      rw [carry, dif_neg above, ih]
      omega

end OsTime

structure Sock where
  sock : Nat
  eloop_data : Nat
  user_data : Nat
  handler : Nat
deriving DecidableEq, Repr

structure Timeout where
  time : OsTime
  eloop_data : Nat
  user_data : Nat
  handler : Nat
deriving DecidableEq, Repr

structure Signal where
  sig : Nat
  user_data : Nat
  handler : Nat
  signaled : Nat
deriving DecidableEq, Repr

/-- `eloop_register_signal` behind `os_realloc`: the new entry, and the copy of the table if it has
been moved. The table in use is freed then. -/
structure Registering where
  entry : Signal
  unset : entry.signaled = 0
  copy : Option (List Signal)
deriving DecidableEq, Repr

structure SockTable where
  table : List Sock
  changed : Bool
deriving DecidableEq, Repr

/-- `eloop_event_type`: the readers, the writers and the exceptions. -/
inductive EventType
  | read | write | exception
deriving DecidableEq, Repr

/-- A handler with what it is called for. -/
inductive Invocation
  | timeout (timeout : Timeout)
  | sock (type : EventType) (entry : Sock)
  | signal (entry : Signal)
deriving DecidableEq, Repr

/-- The sets that `select` leaves. -/
structure Fds where
  rfds : List Nat
  wfds : List Nat
  efds : List Nat
deriving DecidableEq, Repr

def Fds.of (fds : Fds) : EventType → List Nat
  | .read => fds.rfds
  | .write => fds.wfds
  | .exception => fds.efds

/-- Where the thread is in `eloop_run`. There are no sets where `select` has returned none. -/
inductive Place
  | outside
  | condition
  | sleeping (wait : Option (Int × Int))
  | pending (fds : Option Fds)
  | clear (fds : Option Fds)
  | alarm (fds : Option Fds)
  | disarmed (fds : Option Fds)
  | signals (fds : Option Fds) (i : Nat)
  | expiry (fds : Option Fds)
  | woken (fds : Option Fds)
  | enter (type : EventType) (fds : Fds)
  | dispatch (type : EventType) (fds : Fds) (i : Nat)
  | returned (type : EventType) (fds : Fds) (i : Nat)
deriving DecidableEq, Repr

/-- `eloop_data` with the clock, the thread's place, the handler that runs, the registration of a
signal under way, and whether an alarm is set. -/
structure Eloop where
  max_sock : Nat
  tables : EventType → SockTable
  timeout : List Timeout
  signals : List Signal
  signaled : Nat
  pending_terminate : Bool
  terminate : Bool
  now : OsTime
  place : Place
  running : Option Invocation
  registering : Option Registering
  alarm : Bool

def ELOOP_ALL_CTX : Nat := 2 ^ 64 - 1
def SIGINT : Nat := 2
def SIGTERM : Nat := 15

/-- The place of a new timeout: before the first one that is later. -/
def insertTimeout (timeout : Timeout) : List Timeout → List Timeout
  | [] => [timeout]
  | tmp :: next =>
      if timeout.time.before tmp.time then timeout :: tmp :: next
      else tmp :: insertTimeout timeout next

def Timeout.matches (timeout : Timeout) (handler eloop_data user_data : Nat) : Bool :=
  timeout.handler = handler &&
    (timeout.eloop_data = eloop_data || eloop_data = ELOOP_ALL_CTX) &&
    (timeout.user_data = user_data || user_data = ELOOP_ALL_CTX)

def removeSock (sock : Nat) : List Sock → List Sock
  | [] => []
  | entry :: rest => if entry.sock = sock then rest else entry :: removeSock sock rest

def raise (sig : Nat) : List Signal → List Signal
  | [] => []
  | entry :: rest =>
      if entry.sig = sig then { entry with signaled := entry.signaled + 1 } :: rest
      else entry :: raise sig rest

namespace Eloop

/-- `eloop_init`. -/
def init (now : OsTime) : Eloop where
  max_sock := 0
  tables := fun _ => ⟨[], false⟩
  timeout := []
  signals := []
  signaled := 0
  pending_terminate := false
  terminate := false
  now := now
  place := .outside
  running := none
  registering := none
  alarm := false

variable (s : Eloop)

def eloop_register_timeout (secs usecs handler eloop_data user_data : Nat) : Eloop :=
  let time := OsTime.carry (s.now.sec + secs) (s.now.usec + usecs)
  { s with timeout := insertTimeout ⟨time, eloop_data, user_data, handler⟩ s.timeout }

def eloop_cancel_timeout (handler eloop_data user_data : Nat) : Eloop :=
  { s with timeout := s.timeout.filter fun t => !t.matches handler eloop_data user_data }

def eloop_sock_table_add_sock (type : EventType) (entry : Sock) : Eloop :=
  { s with
    tables := Function.update s.tables type ⟨(s.tables type).table ++ [entry], true⟩
    max_sock := if s.max_sock < entry.sock then entry.sock else s.max_sock }

def eloop_sock_table_remove_sock (type : EventType) (sock : Nat) : Eloop :=
  if (s.tables type).table.any fun entry => entry.sock = sock then
    { s with
      tables := Function.update s.tables type ⟨removeSock sock (s.tables type).table, true⟩ }
  else s

/-- The copy of the table of signals that is not in use yet. -/
def copy : Option (List Signal) := s.registering.bind Registering.copy

/-- The table of signals that stays. -/
def table : List Signal := s.copy.getD s.signals

/-- `eloop_register_signal` up to `os_realloc`, which may move the table. -/
def eloop_register_signal (sig handler user_data : Nat) (moved : Bool) : Eloop :=
  { s with
    registering :=
      some ⟨⟨sig, user_data, handler, 0⟩, rfl, if moved then some s.signals else none⟩ }

/-- The rest of `eloop_register_signal`. -/
def eloop_signals_assign (entry : Signal) : Eloop :=
  { s with signals := s.table ++ [entry], registering := none }

def eloop_terminate : Eloop := { s with terminate := true }

def eloop_handle_signal (sig : Nat) : Eloop :=
  let t : Eloop :=
    if (sig = SIGINT ∨ sig = SIGTERM) ∧ s.pending_terminate = false then
      { s with pending_terminate := true, alarm := true }
    else s
  { t with signaled := t.signaled + 1, signals := raise sig t.signals }

/-- What a handler may call, and the program before it runs the loop. -/
inductive Call
  | register_timeout (secs usecs handler eloop_data user_data : Nat)
  | cancel_timeout (handler eloop_data user_data : Nat)
  | register_sock (type : EventType) (entry : Sock)
  | unregister_sock (type : EventType) (sock : Nat)
  | register_signal (sig handler user_data : Nat) (moved : Bool)
  | terminate
deriving DecidableEq, Repr

def call : Call → Eloop
  | .register_timeout secs usecs handler eloop_data user_data =>
      s.eloop_register_timeout secs usecs handler eloop_data user_data
  | .cancel_timeout handler eloop_data user_data =>
      s.eloop_cancel_timeout handler eloop_data user_data
  | .register_sock type entry => s.eloop_sock_table_add_sock type entry
  | .unregister_sock type sock => s.eloop_sock_table_remove_sock type sock
  | .register_signal sig handler user_data moved =>
      s.eloop_register_signal sig handler user_data moved
  | .terminate => s.eloop_terminate

/-- How long `select` may take. -/
def wait : Option (Int × Int) :=
  match s.timeout with
  | [] => none
  | first :: _ => if s.now.before first.time then some (first.time.sub s.now) else some (0, 0)

/-- The next table, or the loop's condition. -/
def next (fds : Fds) : EventType → Place
  | .read => .enter .write fds
  | .write => .enter .exception fds
  | .exception => .condition

/-- The next statement of `eloop_run`, outside of a handler and of `select`. -/
def advance : Option Eloop :=
  match s.place with
  | .outside => none
  | .sleeping _ => none
  | .condition =>
      if s.terminate = false ∧ (s.timeout ≠ [] ∨ (s.tables .read).table ≠ [] ∨
          (s.tables .write).table ≠ [] ∨ (s.tables .exception).table ≠ []) then
        some { s with place := .sleeping s.wait }
      else some { s with place := .outside }
  | .pending fds =>
      if s.signaled = 0 then some { s with place := .expiry fds }
      else some { s with place := .clear fds }
  | .clear fds => some { s with signaled := 0, place := .alarm fds }
  | .alarm fds =>
      if s.pending_terminate then some { s with alarm := false, place := .disarmed fds }
      else some { s with place := .signals fds 0 }
  | .disarmed fds => some { s with pending_terminate := false, place := .signals fds 0 }
  | .signals fds i =>
      match s.signals[i]? with
      | none => some { s with place := .expiry fds }
      | some entry =>
          if entry.signaled = 0 then some { s with place := .signals fds (i + 1) }
          else
            some { s with
              signals := s.signals.set i { entry with signaled := 0 }
              running := some (.signal { entry with signaled := 0 })
              place := .signals fds (i + 1) }
  | .expiry fds =>
      match s.timeout with
      | [] => some { s with place := .woken fds }
      | first :: rest =>
          if s.now.before first.time then some { s with place := .woken fds }
          else
            some { s with timeout := rest, running := some (.timeout first), place := .woken fds }
  | .woken none => some { s with place := .condition }
  | .woken (some fds) => some { s with place := .enter .read fds }
  | .enter type fds =>
      some { s with
        tables := Function.update s.tables type ⟨(s.tables type).table, false⟩
        place := .dispatch type fds 0 }
  | .dispatch type fds i =>
      match (s.tables type).table[i]? with
      | none => some { s with place := next fds type }
      | some entry =>
          if entry.sock ∈ fds.of type then
            some { s with running := some (.sock type entry), place := .returned type fds i }
          else some { s with place := .dispatch type fds (i + 1) }
  | .returned type fds i =>
      if (s.tables type).changed then some { s with place := next fds type }
      else some { s with place := .dispatch type fds (i + 1) }

/-- What the next statement can do. -/
inductive Advance : Eloop → Prop
  | sleep (place : s.place = .condition) (going : s.terminate = false) :
      Advance { s with place := .sleeping s.wait }
  | leave (place : s.place = .condition) : Advance { s with place := .outside }
  | quiet {fds} (place : s.place = .pending fds) (none : s.signaled = 0) :
      Advance { s with place := .expiry fds }
  | signaled {fds} (place : s.place = .pending fds) (some : s.signaled ≠ 0) :
      Advance { s with place := .clear fds }
  | clear {fds} (place : s.place = .clear fds) :
      Advance { s with signaled := 0, place := .alarm fds }
  | alarm {fds} (place : s.place = .alarm fds) (pending : s.pending_terminate = true) :
      Advance { s with alarm := false, place := .disarmed fds }
  | calm {fds} (place : s.place = .alarm fds) (calm : s.pending_terminate = false) :
      Advance { s with place := .signals fds 0 }
  | disarmed {fds} (place : s.place = .disarmed fds) :
      Advance { s with pending_terminate := false, place := .signals fds 0 }
  | lastSignal {fds i} (place : s.place = .signals fds i) (behind : s.signals[i]? = none) :
      Advance { s with place := .expiry fds }
  | skipSignal {fds i entry} (place : s.place = .signals fds i) (found : s.signals[i]? = some entry)
      (quiet : entry.signaled = 0) : Advance { s with place := .signals fds (i + 1) }
  | signal {fds i entry} (place : s.place = .signals fds i) (found : s.signals[i]? = some entry)
      (raised : entry.signaled ≠ 0) :
      Advance { s with
        signals := s.signals.set i { entry with signaled := 0 }
        running := some (.signal { entry with signaled := 0 })
        place := .signals fds (i + 1) }
  | early {fds} (place : s.place = .expiry fds)
      (early : ∀ first rest, s.timeout = first :: rest → s.now.before first.time = true) :
      Advance { s with place := .woken fds }
  | timeout {fds first rest} (place : s.place = .expiry fds) (queue : s.timeout = first :: rest)
      (due : s.now.before first.time = false) :
      Advance { s with timeout := rest, running := some (.timeout first), place := .woken fds }
  | again (place : s.place = .woken none) : Advance { s with place := .condition }
  | ready {fds} (place : s.place = .woken (some fds)) :
      Advance { s with place := .enter .read fds }
  | enter {type fds} (place : s.place = .enter type fds) :
      Advance { s with
        tables := Function.update s.tables type ⟨(s.tables type).table, false⟩
        place := .dispatch type fds 0 }
  | lastSock {type fds i} (place : s.place = .dispatch type fds i)
      (behind : (s.tables type).table[i]? = none) : Advance { s with place := next fds type }
  | skipSock {type fds i entry} (place : s.place = .dispatch type fds i)
      (found : (s.tables type).table[i]? = some entry) (unset : entry.sock ∉ fds.of type) :
      Advance { s with place := .dispatch type fds (i + 1) }
  | sock {type fds i entry} (place : s.place = .dispatch type fds i)
      (found : (s.tables type).table[i]? = some entry) (set : entry.sock ∈ fds.of type) :
      Advance { s with running := some (.sock type entry), place := .returned type fds i }
  | changed {type fds i} (place : s.place = .returned type fds i)
      (changed : (s.tables type).changed = true) : Advance { s with place := next fds type }
  | unchanged {type fds i} (place : s.place = .returned type fds i)
      (unchanged : (s.tables type).changed = false) :
      Advance { s with place := .dispatch type fds (i + 1) }

variable {s} in
theorem advance_cases {t : Eloop} (taken : s.advance = some t) : s.Advance t := by
  unfold advance at taken
  split at taken
  · cases taken
  · cases taken
  · rename_i place
    split at taken
    · rename_i going
      cases taken
      exact .sleep place going.1
    · cases taken
      exact .leave place
  · rename_i fds place
    split at taken
    · rename_i none
      cases taken
      exact .quiet place none
    · rename_i some
      cases taken
      exact .signaled place some
  · rename_i fds place
    cases taken
    exact .clear place
  · rename_i fds place
    split at taken
    · rename_i pending
      cases taken
      exact .alarm place pending
    · rename_i calm
      cases taken
      exact .calm place (by simpa using calm)
  · rename_i fds place
    cases taken
    exact .disarmed place
  · rename_i fds i place
    split at taken
    · rename_i behind
      cases taken
      exact .lastSignal place behind
    · rename_i entry found
      split at taken
      · rename_i quiet
        cases taken
        exact .skipSignal place found quiet
      · rename_i raised
        cases taken
        exact .signal place found raised
  · rename_i fds place
    split at taken
    · rename_i empty
      cases taken
      exact .early place fun first rest queue => by simp [empty] at queue
    · rename_i first rest queue
      split at taken
      · rename_i before
        cases taken
        refine .early place fun other later same => ?_
        rw [queue] at same
        cases same
        exact before
      · rename_i due
        cases taken
        exact .timeout place queue (by simpa using due)
  · rename_i place
    cases taken
    exact .again place
  · rename_i fds place
    cases taken
    exact .ready place
  · rename_i type fds place
    cases taken
    exact .enter place
  · rename_i type fds i place
    split at taken
    · rename_i behind
      cases taken
      exact .lastSock place behind
    · rename_i entry found
      split at taken
      · rename_i set
        cases taken
        exact .sock place found set
      · rename_i unset
        cases taken
        exact .skipSock place found unset
  · rename_i type fds i place
    split at taken
    · rename_i changed
      cases taken
      exact .changed place changed
    · rename_i unchanged
      cases taken
      exact .unchanged place (by simpa using unchanged)

/-- What `select` returns: an error that ends the loop, no sockets, or those that are ready. -/
inductive Selected
  | error
  | none
  | ready (fds : Fds)
deriving DecidableEq, Repr

/-- `select` looks at the sockets that have been set, up to the highest one. -/
def mayBeReady (fds : Fds) : Bool :=
  [EventType.read, .write, .exception].all fun type =>
    (fds.of type).all fun sock => decide (sock < s.max_sock + 1) &&
      (s.tables type).table.any fun entry => entry.sock = sock

inductive Event
  | run
  | advance
  | selected (result : Selected)
  | call (c : Call)
  | registered
  | ret
  | clock (now : OsTime)
  | caught (sig : Nat)
deriving DecidableEq, Repr

/-- While a signal is registered, nothing comes but the time and other signals. -/
def step : Event → Option Eloop
  | .run =>
      if s.place = .outside ∧ s.registering = none then some { s with place := .condition }
      else none
  | .advance => if s.running = none ∧ s.registering = none then s.advance else none
  | .selected result =>
      match s.place, result with
      | .sleeping _, .error => some { s with place := .outside }
      | .sleeping _, .none => some { s with place := .pending none }
      | .sleeping _, .ready fds =>
          if s.mayBeReady fds then some { s with place := .pending (some fds) }
          else none
      | _, _ => none
  | .call c =>
      if (s.running ≠ none ∨ s.place = .outside) ∧ s.registering = none then some (s.call c)
      else none
  | .registered => s.registering.map fun r => s.eloop_signals_assign r.entry
  | .ret =>
      if s.running ≠ none ∧ s.registering = none then some { s with running := none } else none
  | .clock now => some { s with now := now }
  | .caught sig =>
      if s.signals.any fun entry => entry.sig = sig then some (s.eloop_handle_signal sig)
      else none

end Eloop

end Connectivity.EventLoop
