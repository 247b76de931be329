import Connectivity.LbsDebug.Relay
import Connectivity.Transition.Run

set_option autoImplicit false

/- The relay's descriptor along the sessions of its clients. -/
namespace Connectivity.LbsDebug

open Transition

/-- What has become of the last session: none is left, a client is attached, or its exit is
pending. -/
inductive Phase
  | idle | attached | exiting
deriving DecidableEq, Repr

/-- A client is attached by a connection that does not fail; its request and its death end the
session, pending while there is a descriptor to read the daemon's answer from. -/
def phaseAfter (s : Relay) (phase : Phase) : Event → Phase
  | .setCallback connect =>
      if s.mSocketFd = -1 ∧ connect ≠ .refused then .attached else phase
  | .sendToServer _ => if phase = .attached then .exiting else phase
  | .death =>
      if phase = .attached then if 0 < s.mSocketFd then .exiting else .idle else phase
  | .socket _ => if s.mIsExit then .idle else phase
  | .reconnect _ => phase

/-- The relay with the phase of its session, and whether the loop that connects again has been
entered without a client. -/
structure Run where
  relay : Relay
  phase : Phase
  strayLoop : Bool
deriving DecidableEq, Repr

def Run.start : Run := ⟨.init, .idle, false⟩

def Run.strayAfter (s : Run) (t : Relay) : Bool :=
  s.strayLoop || (t.reconnecting && !s.relay.reconnecting && decide (s.phase ≠ .attached))

def Run.next (s : Run) (e : Event) (t : Relay) : Run where
  relay := t
  phase := phaseAfter s.relay s.phase e
  strayLoop := s.strayAfter t

def Run.step (s : Run) (e : Event) : Option Run := (s.relay.step e).map (s.next e)

namespace Run

variable (s : Run)

/-- The only descriptor that is open is the relay's; it is open while a client is attached or
its exit is pending, but for the time the loop takes, and at no other time. -/
structure Sound : Prop where
  noCrash : s.relay.crashed = false
  noMisuse : s.relay.misused = false
  loop : s.strayLoop = false
  single : s.relay.opened = if s.relay.mSocketFd = -1 then [] else [s.relay.mSocketFd]
  session : s.relay.opened ≠ [] → s.phase ≠ .idle
  opened : s.phase ≠ .idle → s.relay.opened ≠ [] ∨ s.relay.reconnecting = true

/-- A client comes when no descriptor is open; the loop connects again when none has come
since, and for a session that is not over; a socket is to be had. -/
def Meets : Event → Prop
  | .setCallback connect => s.relay.mSocketFd = -1 ∧ connect ≠ .noSocket
  | .reconnect connect =>
      s.relay.mSocketFd = -1 ∧ connect ≠ .noSocket ∧ (connect ≠ .refused → s.phase ≠ .idle)
  | _ => True

structure Inv : Prop where
  sound : s.Sound
  positive : s.relay.mSocketFd = -1 ∨ 0 < s.relay.mSocketFd
  attached : s.phase = .attached → s.relay.mIsExit = false
  exiting : s.phase = .exiting → s.relay.mIsExit = true

theorem inv_begin : Run.start.Inv :=
  ⟨⟨rfl, rfl, rfl, rfl, fun some => absurd rfl some, fun session => absurd rfl session⟩,
    Or.inl rfl, fun other => Phase.noConfusion other, fun other => Phase.noConfusion other⟩

variable {s}

theorem step_cases {e : Event} {t : Run} (taken : s.step e = some t) :
    s.relay.Enabled e ∧ t = s.next e (s.relay.handle e) := by
  obtain ⟨r, stepped, same⟩ := Option.map_eq_some_iff.mp taken
  rw [Relay.step] at stepped
  split at stepped
  · rename_i alive
    cases stepped
    exact ⟨alive.2, same.symm⟩
  · cases stepped

section Relay

variable {r : Relay}

theorem use_of_opened {fd : Int} (opened : fd ∈ r.opened) : r.use fd = r := if_pos opened

/-- With one descriptor open, closing it leaves none. -/
theorem close_single (single : r.opened = [r.mSocketFd]) :
    r.closeSocket = { r with opened := [], mSocketFd := -1 } := by
  have member : r.mSocketFd ∈ r.opened := by simp [single]
  have erased : r.opened.erase r.mSocketFd = [] := by simp [single]
  rw [Relay.closeSocket, use_of_opened member, erased]

/-- A write to the relay's descriptor or to none misuses nothing. -/
theorem write_single (bytes : List UInt8)
    (single : r.opened = if r.mSocketFd = -1 then [] else [r.mSocketFd]) :
    (r.socketWrite r.mSocketFd bytes).misused = r.misused := by
  rw [Relay.socketWrite]
  split
  · rfl
  · have member : r.mSocketFd ∈ r.opened := by
      rw [single, if_neg (by omega)]
      exact List.mem_singleton_self _
    rw [use_of_opened member]

theorem write_state (bytes : List UInt8) : ∃ written misused,
    r.socketWrite r.mSocketFd bytes = { r with written := written, misused := misused } := by
  rw [Relay.socketWrite]
  split
  · exact ⟨r.written, r.misused, rfl⟩
  · rw [Relay.use]
    split
    · exact ⟨_, r.misused, rfl⟩
    · exact ⟨_, true, rfl⟩

end Relay

section Kept

/-- What a callback that finds no descriptor does. -/
theorem setCallback_free {r : Relay} (free : r.mSocketFd = -1) :
    r.setCallback .refused = { r with mLbsCallback := true, mSocketFd := -1 } ∧
      r.setCallback .noSocket =
        { r with mLbsCallback := true, mSocketFd := 0, mIsExit := false } ∧
      ∀ fd, 0 < fd → r.setCallback (.opens fd) =
        { r with
          mLbsCallback := true
          opened := fd :: r.opened
          mSocketFd := fd
          mIsExit := false } := by
  refine ⟨?_, ?_, fun fd positive => ?_⟩
  · rw [Relay.setCallback, if_neg (not_not.mpr free)]
    rfl
  · rw [Relay.setCallback, if_neg (not_not.mpr free)]
    rfl
  · rw [Relay.setCallback, if_neg (not_not.mpr free)]
    exact if_neg (by show ¬ fd < 0; omega)

theorem stray_quiet {r : Relay} (same : r.reconnecting = s.relay.reconnecting) :
    s.strayAfter r = s.strayLoop := by
  rw [strayAfter, same]
  simp

theorem inv_setCallback {connect : Connect} (inv : s.Inv) (free : s.relay.mSocketFd = -1)
    (socket : connect ≠ .noSocket) (fresh : connect.Fresh s.relay.opened) :
    (s.next (.setCallback connect) (s.relay.setCallback connect)).Inv := by
  have none : s.relay.opened = [] := by
    rw [inv.sound.single, if_pos free]
  obtain ⟨refused, _, opens⟩ := setCallback_free free
  cases connect with
  | noSocket => exact absurd rfl socket
  | refused =>
      have phase : phaseAfter s.relay s.phase (.setCallback .refused) = s.phase :=
        if_neg fun both => both.2 rfl
      rw [next, phase, refused]
      exact ⟨⟨inv.sound.noCrash, inv.sound.noMisuse, (stray_quiet rfl).trans inv.sound.loop,
        none.trans (if_pos rfl).symm, inv.sound.session, inv.sound.opened⟩, Or.inl rfl,
        inv.attached, inv.exiting⟩
  | opens fd =>
      obtain ⟨positive, _⟩ := fresh
      have phase : phaseAfter s.relay s.phase (.setCallback (.opens fd)) = .attached :=
        if_pos ⟨free, by simp⟩
      rw [next, phase, opens fd positive, none]
      have single : [fd] = if fd = -1 then [] else [fd] := by
        rw [if_neg (by omega)]
      exact ⟨⟨inv.sound.noCrash, inv.sound.noMisuse, (stray_quiet rfl).trans inv.sound.loop,
        single, fun _ => by simp, fun _ => Or.inl (by simp)⟩, Or.inr positive,
        fun _ => rfl, fun other => Phase.noConfusion other⟩

/-- The phase behind a request of the client or its death. -/
theorem ended_of_session {phase : Phase} (session : phase ≠ .idle) :
    (if phase = .attached then Phase.exiting else phase) ≠ .idle := by
  split
  · decide
  · exact session

theorem ended_ne_attached {phase : Phase} :
    (if phase = .attached then Phase.exiting else phase) ≠ .attached := by
  split
  · decide
  · assumption

theorem inv_sendToServer {data : List UInt8} (inv : s.Inv) :
    (s.next (.sendToServer data) (s.relay.sendToServer data)).Inv := by
  have misused := write_single data inv.sound.single
  obtain ⟨written, misuse, same⟩ := @write_state s.relay data
  rw [same] at misused
  rw [next, Relay.sendToServer, same, phaseAfter]
  have noMisuse : misuse = false := misused.trans inv.sound.noMisuse
  refine ⟨⟨inv.sound.noCrash, noMisuse, (stray_quiet rfl).trans inv.sound.loop,
    inv.sound.single, fun opened => ended_of_session (inv.sound.session opened),
    fun session => inv.sound.opened fun idle => ?_⟩, inv.positive,
    fun attached => absurd attached ended_ne_attached, fun _ => rfl⟩
  apply session
  show (if s.phase = .attached then Phase.exiting else s.phase) = .idle
  rw [idle]
  rfl

theorem inv_death (inv : s.Inv) : (s.next .death s.relay.handleHidlDeath).Inv := by
  by_cases positive : 0 < s.relay.mSocketFd
  · have single := inv.sound.single
    have misused :=
      @write_single { s.relay with mLbsCallback := false } (List.replicate 16 0) single
    obtain ⟨written, misuse, same⟩ :=
      @write_state { s.relay with mLbsCallback := false } (List.replicate 16 0)
    rw [same] at misused
    have noMisuse : misuse = false := misused.trans inv.sound.noMisuse
    have handled : s.relay.handleHidlDeath = { s.relay with
        mLbsCallback := false, written := written, misused := misuse, mIsExit := true } := by
      rw [Relay.handleHidlDeath]
      dsimp only
      rw [if_pos positive, same]
    have phase : phaseAfter s.relay s.phase .death =
        if s.phase = .attached then .exiting else s.phase := by
      rw [phaseAfter, if_pos positive]
    rw [next, handled, phase]
    refine ⟨⟨inv.sound.noCrash, noMisuse, (stray_quiet rfl).trans inv.sound.loop,
      single, fun opened => ended_of_session (inv.sound.session opened),
      fun session => inv.sound.opened fun idle => ?_⟩, inv.positive,
      fun attached => absurd attached ended_ne_attached, fun _ => rfl⟩
    rw [idle] at session
    exact session rfl
  · have none : s.relay.mSocketFd = -1 := inv.positive.resolve_right positive
    have handled : s.relay.handleHidlDeath = { s.relay with mLbsCallback := false } :=
      if_neg positive
    have phase : phaseAfter s.relay s.phase .death =
        if s.phase = .attached then .idle else s.phase := by
      rw [phaseAfter, if_neg positive]
    have closed : s.relay.opened = [] := by
      rw [inv.sound.single, if_pos none]
    rw [next, handled, phase]
    refine ⟨⟨inv.sound.noCrash, inv.sound.noMisuse, (stray_quiet rfl).trans inv.sound.loop,
      inv.sound.single, fun opened => absurd closed opened, fun session => ?_⟩, inv.positive,
      fun attached => ?_, fun exiting => ?_⟩
    · apply inv.sound.opened
      intro idle
      rw [idle] at session
      exact session rfl
    · have same : (if s.phase = .attached then Phase.idle else s.phase) = .attached := attached
      split at same
      · cases same
      · contradiction
    · have same : (if s.phase = .attached then Phase.idle else s.phase) = .exiting := exiting
      split at same
      · cases same
      · exact inv.exiting same

theorem inv_socket {read : Read} (inv : s.Inv)
    (member : s.relay.mSocketFd ∈ s.relay.opened) :
    (s.next (.socket read) (s.relay.handleSocketEvent read)).Inv := by
  have some : s.relay.mSocketFd ≠ -1 := by
    intro none
    rw [inv.sound.single, if_pos none] at member
    cases member
  have single : s.relay.opened = [s.relay.mSocketFd] := by
    rw [inv.sound.single, if_neg some]
  have session : s.phase ≠ .idle := inv.sound.session (by simp [single])
  by_cases exit : s.relay.mIsExit = true
  · have handled : s.relay.handleSocketEvent read =
        { s.relay with opened := [], mSocketFd := -1 } := by
      unfold Relay.handleSocketEvent
      rw [use_of_opened member]
      dsimp only
      rw [if_pos exit, close_single single]
    have phase : phaseAfter s.relay s.phase (.socket read) = .idle := if_pos exit
    rw [next, handled, phase]
    exact ⟨⟨inv.sound.noCrash, inv.sound.noMisuse, (stray_quiet rfl).trans inv.sound.loop,
      rfl, fun some => absurd rfl some, fun session => absurd rfl session⟩, Or.inl rfl,
      fun other => Phase.noConfusion other, fun other => Phase.noConfusion other⟩
  · have attached : s.phase = .attached := by
      cases phase : s.phase with
      | idle => exact absurd phase session
      | attached => rfl
      | exiting => exact absurd (inv.exiting phase) exit
    have phase : phaseAfter s.relay s.phase (.socket read) = s.phase := if_neg exit
    have quiet : ∀ delivered, (⟨{ s.relay with delivered := delivered }, s.phase,
        s.strayAfter { s.relay with delivered := delivered }⟩ : Run).Inv := by
      intro delivered
      exact ⟨⟨inv.sound.noCrash, inv.sound.noMisuse, (stray_quiet rfl).trans inv.sound.loop,
        inv.sound.single, inv.sound.session, inv.sound.opened⟩, inv.positive, inv.attached,
        inv.exiting⟩
    have lost : (⟨{ s.relay with opened := [], mSocketFd := -1, reconnecting := true }, s.phase,
        s.strayAfter { s.relay with opened := [], mSocketFd := -1, reconnecting := true }⟩ :
          Run).Inv := by
      have client : s.strayAfter
          { s.relay with opened := [], mSocketFd := -1, reconnecting := true } = false := by
        rw [strayAfter, inv.sound.loop, attached]
        simp
      exact ⟨⟨inv.sound.noCrash, inv.sound.noMisuse, client, rfl, fun some => absurd rfl some,
        fun _ => Or.inr rfl⟩, Or.inl rfl, inv.attached, inv.exiting⟩
    rw [next, phase]
    unfold Relay.handleSocketEvent
    rw [use_of_opened member]
    dsimp only
    rw [if_neg exit]
    cases read with
    | data first rest =>
        dsimp only
        split
        · exact quiet _
        · exact quiet _
    | endOfFile =>
        dsimp only
        rw [close_single single]
        exact lost
    | error =>
        dsimp only
        rw [close_single single]
        exact lost

theorem inv_reconnect {connect : Connect} (inv : s.Inv)
    (meets : s.Meets (.reconnect connect)) (looping : s.relay.reconnecting = true)
    (fresh : connect.Fresh s.relay.opened) :
    (s.next (.reconnect connect) (s.relay.reconnect connect)).Inv := by
  obtain ⟨free, socket, wanted⟩ := meets
  have none : s.relay.opened = [] := by
    rw [inv.sound.single, if_pos free]
  have calm : ∀ r : Relay, s.strayAfter r = s.strayLoop := by
    intro r
    rw [strayAfter, looping]
    simp
  cases connect with
  | noSocket => exact absurd rfl socket
  | refused =>
      exact ⟨⟨inv.sound.noCrash, inv.sound.noMisuse, (calm _).trans inv.sound.loop,
        none, inv.sound.session, fun _ => Or.inr rfl⟩, Or.inl rfl, inv.attached, inv.exiting⟩
  | opens fd =>
      obtain ⟨positive, _⟩ := fresh
      have session : s.phase ≠ .idle := wanted (by simp)
      have single : fd :: s.relay.opened = if fd = -1 then [] else [fd] := by
        rw [none, if_neg (by omega)]
      exact ⟨⟨inv.sound.noCrash, inv.sound.noMisuse, (calm _).trans inv.sound.loop,
        single, fun _ => session, fun _ => Or.inl (List.cons_ne_nil _ _)⟩, Or.inr positive,
        inv.attached, inv.exiting⟩

/-- The step lemma. -/
theorem meets_kept {e : Event} {t : Run} (inv : s.Inv) (meets : s.Meets e)
    (taken : s.step e = some t) : t.Inv := by
  obtain ⟨enabled, same⟩ := step_cases taken
  subst same
  cases e with
  | setCallback connect => exact inv_setCallback inv meets.1 meets.2 enabled
  | sendToServer data => exact inv_sendToServer inv
  | death => exact inv_death inv
  | socket read => exact inv_socket inv enabled.2
  | reconnect connect => exact inv_reconnect inv meets enabled.1 enabled.2

end Kept

section Broken

theorem broken_setCallback {connect : Connect} (inv : s.Inv)
    (missed : ¬ s.Meets (.setCallback connect)) :
    ¬ (s.next (.setCallback connect) (s.relay.setCallback connect)).Sound := by
  intro sound
  by_cases free : s.relay.mSocketFd = -1
  · cases connect with
    | noSocket =>
        have single : (s.relay.setCallback .noSocket).opened =
            if (s.relay.setCallback .noSocket).mSocketFd = -1 then []
            else [(s.relay.setCallback .noSocket).mSocketFd] := sound.single
        have none : s.relay.opened = [] := by
          rw [inv.sound.single, if_pos free]
        rw [(setCallback_free free).2.1, none] at single
        simp at single
    | refused => exact missed ⟨free, by simp⟩
    | opens fd => exact missed ⟨free, by simp⟩
  · have crash : (s.relay.setCallback connect).crashed = false := sound.noCrash
    rw [Relay.setCallback, if_pos free] at crash
    cases crash

theorem broken_reconnect {connect : Connect} (inv : s.Inv) (fresh : connect.Fresh s.relay.opened)
    (missed : ¬ s.Meets (.reconnect connect)) :
    ¬ (s.next (.reconnect connect) (s.relay.reconnect connect)).Sound := by
  intro sound
  have single : (s.relay.reconnect connect).opened =
      if (s.relay.reconnect connect).mSocketFd = -1 then []
      else [(s.relay.reconnect connect).mSocketFd] := sound.single
  by_cases free : s.relay.mSocketFd = -1
  · have none : s.relay.opened = [] := by
      rw [inv.sound.single, if_pos free]
    cases connect with
    | noSocket =>
        have zero : s.relay.opened = [0] := single
        rw [none] at zero
        cases zero
    | refused => exact missed ⟨free, by simp, fun other => absurd rfl other⟩
    | opens fd =>
        apply missed
        exact ⟨free, by simp, fun _ => sound.session (List.cons_ne_nil _ _)⟩
  · have positive : 0 < s.relay.mSocketFd := inv.positive.resolve_left free
    have held : s.relay.opened = [s.relay.mSocketFd] := by
      rw [inv.sound.single, if_neg free]
    cases connect with
    | noSocket =>
        have zero : s.relay.opened = [0] := single
        rw [held, List.cons.injEq] at zero
        omega
    | refused =>
        have none : s.relay.opened = [] := single
        rw [held] at none
        cases none
    | opens fd =>
        have one : fd :: s.relay.opened = if fd = -1 then [] else [fd] := single
        have other : fd ≠ -1 := by
          have above : 0 < fd := fresh.1
          omega
        rw [held, if_neg other] at one
        simp at one

theorem missed_broken {e : Event} {t : Run} (inv : s.Inv) (missed : ¬ s.Meets e)
    (taken : s.step e = some t) : ¬ t.Sound := by
  obtain ⟨enabled, same⟩ := step_cases taken
  subst same
  cases e with
  | setCallback connect => exact broken_setCallback inv missed
  | sendToServer data => exact absurd trivial missed
  | death => exact absurd trivial missed
  | socket read => exact absurd trivial missed
  | reconnect connect => exact broken_reconnect inv enabled.2 missed

end Broken

end Run

/-- Along a run the relay keeps its descriptor with its sessions exactly if clients come when
none is open and the loop connects for the session it was entered for. -/
theorem relay_sound_iff (events : List Event) :
    AllStates Run.step Run.Sound .start events ↔ StepsMeet Run.step Run.Meets .start events := by
  apply @allStates_iff_stepsMeet _ _ _ Run.Inv
  case kept => exact fun _ _ _ inv meets taken => Run.meets_kept inv meets taken
  case enough => exact fun _ inv => inv.sound
  case broken => exact fun _ _ _ inv missed taken => Run.missed_broken inv missed taken
  case start => exact Run.inv_begin

/-- A client dies, and the next one comes before the daemon has answered. -/
theorem not_relay_sound :
    let events := [Event.setCallback (.opens 5), .death, .setCallback (.opens 6)]
    ¬ AllStates Run.step Run.Sound .start events := by
  intro events all
  have crash : (exec Run.step .start events).map (fun s => s.relay.crashed) = some true := by
    decide
  rw [Option.map_eq_some_iff] at crash
  obtain ⟨s, run, crash⟩ := crash
  have sound : s.Sound := all.last run
  have alive := sound.noCrash
  rw [crash] at alive
  cases alive

end Connectivity.LbsDebug
