import Connectivity.Mpe.Engine
import Connectivity.Transition.Run

set_option autoImplicit false

/- Whether the MPE thread listens to the engine while a sensor thread runs. -/
namespace Connectivity.Mpe

open Transition

/-- A sensor thread runs until it has left its loop. -/
def Phase.Running (p : Phase) : Prop := p = .created ∨ p = .loop

namespace Session

variable (s : Session)

def Running : Prop := ∃ p ∈ s.threads, p.Running

/-- The last request of the engine was a start or an aiding. -/
def Asked : Prop := ∃ gpsSec leapSec,
  s.lastRequest = some (.start gpsSec leapSec) ∨ s.lastRequest = some (.gpsAiding gpsSec leapSec)

/-- There is at most one sensor thread; while it runs and is asked for, the mode is START;
every stop of the engine has had one answer. -/
structure Sound : Prop where
  one : s.threads.length ≤ 1
  listening : s.Running → s.Asked → s.seListenerMode = .start
  answered : s.responses.count .stop = s.engineStops

/-- A start or an aiding is not handled in the mode IDLE while a sensor thread runs, a stop of
the engine not while a notice is marked, and a notice not before it is marked or while a
sensor thread runs that has been asked for again. -/
def Orderly : Message → Prop
  | .engine (.start _ _) => s.seListenerMode = .idle → ¬ s.Running
  | .engine (.gpsAiding _ _) => s.seListenerMode = .idle → ¬ s.Running
  | .engine .stop => s.isUninitSE = false
  | .engine .getAdrStatus => True
  | .notice => s.isUninitSE = true ∧ (s.Running → ¬ s.Asked)

/-- The message that is handled is an orderly one. -/
def Meets (s : Session) : Event → Prop
  | .handle _ _ => ∀ m ∈ s.queue.head?, s.Orderly m
  | _ => True

structure Inv : Prop where
  sound : s.Sound
  exist : ∀ p ∈ s.threads, p ≠ .created → s.gMpeThreadExist = true

variable {s}

theorem inv_init : Session.init.Inv := by
  refine ⟨⟨Nat.zero_le 1, ?_, rfl⟩, ?_⟩
  · rintro ⟨p, none, _⟩
    cases none
  · intro p none
    cases none

theorem mode_of_ne_idle {mode : Mode} (other : ¬ mode = .idle) : mode = .start := by
  cases mode with
  | idle => exact absurd rfl other
  | start => rfl

theorem mode_of_ne_start {mode : Mode} (other : ¬ mode = .start) : mode = .idle := by
  cases mode with
  | idle => rfl
  | start => exact absurd rfl other

section Run

variable {created : Bool}

theorem sensorRun_cases : s.sensorRun created = s ∨
    s.gMpeThreadExist = false ∧ s.sensorRun created =
      { s with threads := s.threads ++ [.created], seListenerMode := .start } := by
  rw [sensorRun, sensorThreadsCreate]
  split
  · split
    · rename_i free
      exact Or.inr ⟨free.1, rfl⟩
    · exact Or.inl rfl
  · exact Or.inl rfl

/-- A run that is asked for while no sensor thread runs. -/
theorem inv_sensorRun (inv : s.Inv) (quiet : ¬ s.Running) : (s.sensorRun created).Inv := by
  rcases @sensorRun_cases s created with same | ⟨free, started⟩
  · rw [same]
    exact inv
  · have none : s.threads = [] := by
      rw [List.eq_nil_iff_forall_not_mem]
      intro p member
      by_cases fresh : p = .created
      · exact quiet ⟨p, member, Or.inl fresh⟩
      · have busy := inv.exist p member fresh
        rw [free] at busy
        cases busy
    rw [started, none]
    refine ⟨⟨Nat.le_refl 1, fun _ _ => rfl, inv.sound.answered⟩, ?_⟩
    intro p member old
    exact absurd (List.mem_singleton.mp member) old

/-- A run that is asked for while a sensor thread runs in the mode IDLE. -/
theorem not_sound_sensorRun (running : s.Running) (asked : s.Asked)
    (idle : s.seListenerMode = .idle) : ¬ (s.sensorRun created).Sound := by
  intro sound
  rcases @sensorRun_cases s created with same | ⟨_, started⟩
  · rw [same] at sound
    have listening := sound.listening running asked
    rw [idle] at listening
    cases listening
  · have one := sound.one
    obtain ⟨p, member, _⟩ := running
    have some := List.length_pos_of_mem member
    rw [started, List.length_append, List.length_singleton] at one
    omega

end Run

section Stop

theorem stopReq_eq : s.stopReq = { s with
    seListenerMode := .idle
    isUninitSE := false
    responses := if s.isUninitSE = false then .stop :: s.responses else s.responses } := by
  rw [stopReq]
  dsimp only
  split
  · rename_i unmarked
    rw [respond, ← unmarked]
  · rfl

end Stop

section Handle

variable {rest : List Message} {clock : Int} {created : Bool}

theorem count_other {r : Response} {responses : List Response} (other : r ≠ .stop) :
    (r :: responses).count .stop = responses.count .stop :=
  List.count_cons_of_ne other

theorem inv_notice (inv : s.Inv) (orderly : s.Orderly .notice) :
    (({ s with queue := rest }.note .notice).mnl2mpeHdlr clock created .notice).Inv := by
  obtain ⟨marked, unasked⟩ := orderly
  rw [mnl2mpeHdlr, stopReq_eq]
  refine ⟨⟨inv.sound.one, ?_, ?_⟩, inv.exist⟩
  · intro running asked
    exact absurd asked (unasked running)
  · show (if s.isUninitSE = false then _ else s.responses).count .stop = s.engineStops
    rw [if_neg (by simp [marked])]
    exact inv.sound.answered

theorem inv_stop (inv : s.Inv) (unmarked : s.isUninitSE = false) :
    (({ s with queue := rest }.note (.engine .stop)).mnl2mpeHdlr clock created
      (.engine .stop)).Inv := by
  rw [mnl2mpeHdlr, stopReq_eq]
  refine ⟨⟨inv.sound.one, ?_, ?_⟩, inv.exist⟩
  · rintro _ ⟨_, _, started | aided⟩
    · cases started
    · cases aided
  · show (if s.isUninitSE = false then .stop :: s.responses else _).count .stop =
      s.engineStops + 1
    rw [if_pos unmarked, List.count_cons_self, inv.sound.answered]

theorem inv_getAdrStatus (inv : s.Inv) :
    (({ s with queue := rest }.note (.engine .getAdrStatus)).mnl2mpeHdlr clock created
      (.engine .getAdrStatus)).Inv := by
  have answered : (Response.adrStatus :: s.responses).count .stop = s.engineStops := by
    rw [count_other (by decide)]
    exact inv.sound.answered
  rw [mnl2mpeHdlr, getAdrStatus]
  split
  · split
    · exact ⟨⟨inv.sound.one, inv.sound.listening, answered⟩, inv.exist⟩
    · exact ⟨⟨inv.sound.one, inv.sound.listening, inv.sound.answered⟩, inv.exist⟩
  · exact ⟨⟨inv.sound.one, inv.sound.listening, inv.sound.answered⟩, inv.exist⟩

theorem inv_start {gpsSec leapSec : Nat} (inv : s.Inv)
    (orderly : s.seListenerMode = .idle → ¬ s.Running) :
    (({ s with queue := rest }.note (.engine (.start gpsSec leapSec))).mnl2mpeHdlr clock created
      (.engine (.start gpsSec leapSec))).Inv := by
  have answered : (Response.start :: s.responses).count .stop = s.engineStops := by
    rw [count_other (by decide)]
    exact inv.sound.answered
  simp only [mnl2mpeHdlr]
  split
  · rename_i idle
    have quiet : ¬ s.Running := orderly idle
    refine inv_sensorRun ?_ quiet
    exact ⟨⟨inv.sound.one, fun running => absurd running quiet, answered⟩, inv.exist⟩
  · rename_i listens
    refine ⟨⟨inv.sound.one, fun _ _ => ?_, answered⟩, inv.exist⟩
    exact mode_of_ne_idle listens

theorem inv_gpsAiding {gpsSec leapSec : Nat} (inv : s.Inv)
    (orderly : s.seListenerMode = .idle → ¬ s.Running) :
    (({ s with queue := rest }.note (.engine (.gpsAiding gpsSec leapSec))).mnl2mpeHdlr clock created
      (.engine (.gpsAiding gpsSec leapSec))).Inv := by
  have answered : (Response.gpsAiding :: s.responses).count .stop = s.engineStops := by
    rw [count_other (by decide)]
    exact inv.sound.answered
  simp only [mnl2mpeHdlr]
  split
  · rename_i listens
    exact ⟨⟨inv.sound.one, fun _ _ => listens, answered⟩, inv.exist⟩
  · rename_i silent
    have quiet : ¬ s.Running := orderly (mode_of_ne_start silent)
    refine inv_sensorRun ?_ quiet
    exact ⟨⟨inv.sound.one, fun running => absurd running quiet, inv.sound.answered⟩, inv.exist⟩

theorem inv_handle {m : Message} (inv : s.Inv) (orderly : s.Orderly m) :
    (({ s with queue := rest }.note m).mnl2mpeHdlr clock created m).Inv := by
  cases m with
  | notice => exact inv_notice inv orderly
  | engine r =>
      cases r with
      | start gpsSec leapSec => exact inv_start inv orderly
      | stop => exact inv_stop inv orderly
      | getAdrStatus => exact inv_getAdrStatus inv
      | gpsAiding gpsSec leapSec => exact inv_gpsAiding inv orderly

end Handle

section Threads

/-- With at most one thread, the one that goes on is all there is. -/
theorem threads_of_getElem {i : Nat} {p : Phase} (one : s.threads.length ≤ 1)
    (here : s.threads[i]? = some p) : s.threads = [p] ∧ i = 0 := by
  have inside := (List.getElem?_eq_some_iff.mp here).1
  have first : i = 0 := by omega
  subst first
  obtain ⟨q, alone⟩ := List.length_eq_one_iff.mp (show s.threads.length = 1 by omega)
  rw [alone] at here
  cases here
  exact ⟨alone, rfl⟩

theorem Phase.running_singleton {p : Phase} (left : ¬ p.Running) :
    ¬ ∃ q ∈ [p], q.Running := by
  rintro ⟨q, member, running⟩
  rw [List.mem_singleton.mp member] at running
  exact left running

theorem not_running_of_late {p : Phase} (late : p ≠ .created ∧ p ≠ .loop) : ¬ p.Running := by
  rintro (created | loop)
  · exact late.1 created
  · exact late.2 loop

theorem inv_thread {i : Nat} {p : Phase} {clock : Int} {sent : Bool} (inv : s.Inv)
    (here : s.threads[i]? = some p) : (s.threadStep i clock sent p).Inv := by
  obtain ⟨alone, first⟩ := threads_of_getElem inv.sound.one here
  subst first
  have exist := inv.exist p (by simp [alone])
  cases p with
  | created =>
      rw [threadStep, alone]
      refine ⟨⟨Nat.le_refl 1, fun _ asked => ?_, inv.sound.answered⟩, fun _ _ _ => rfl⟩
      exact inv.sound.listening ⟨.created, by simp [alone], Or.inl rfl⟩ asked
  | loop =>
      rw [threadStep, alone]
      split
      · exact inv
      · refine ⟨⟨Nat.le_refl 1, fun running => ?_, inv.sound.answered⟩,
          fun _ _ _ => exist (by decide)⟩
        exact absurd running (Phase.running_singleton (not_running_of_late (by decide)))
  | left =>
      rw [threadStep, alone]
      refine ⟨⟨Nat.le_refl 1, fun running => ?_, inv.sound.answered⟩,
        fun _ _ _ => exist (by decide)⟩
      exact absurd running (Phase.running_singleton (not_running_of_late (by decide)))
  | closed =>
      rw [threadStep, alone]
      refine ⟨⟨Nat.le_refl 1, fun running => ?_, inv.sound.answered⟩,
        fun _ _ _ => exist (by decide)⟩
      exact absurd running (Phase.running_singleton (not_running_of_late (by decide)))
  | notified =>
      rw [threadStep, alone]
      refine ⟨⟨Nat.le_refl 1, fun running => ?_, inv.sound.answered⟩,
        fun _ _ _ => exist (by decide)⟩
      exact absurd running (Phase.running_singleton (not_running_of_late (by decide)))
  | marked =>
      rw [threadStep, alone]
      refine ⟨⟨Nat.zero_le 1, ?_, inv.sound.answered⟩, ?_⟩
      · rintro ⟨p, none, _⟩
        cases none
      · intro p none
        cases none

end Threads

/-- The step lemma. -/
theorem meets_kept {e : Event} {t : Session} (inv : s.Inv) (meets : s.Meets e)
    (taken : s.step e = some t) : t.Inv := by
  cases e with
  | send r =>
      cases taken
      exact ⟨⟨inv.sound.one, inv.sound.listening, inv.sound.answered⟩, inv.exist⟩
  | data =>
      cases taken
      exact ⟨⟨inv.sound.one, inv.sound.listening, inv.sound.answered⟩, inv.exist⟩
  | handle clock created =>
      rw [step] at taken
      split at taken
      · cases taken
      · rename_i m rest waiting
        cases taken
        apply inv_handle inv
        exact meets m (by rw [waiting]; rfl)
  | thread i clock sent =>
      obtain ⟨p, here, same⟩ := Option.map_eq_some_iff.mp taken
      cases same
      exact inv_thread inv here

section Broken

variable {rest : List Message} {clock : Int} {created : Bool}

theorem broken_start {gpsSec leapSec : Nat} (idle : s.seListenerMode = .idle)
    (running : s.Running) : ¬ (({ s with queue := rest }.note
      (.engine (.start gpsSec leapSec))).mnl2mpeHdlr clock created
        (.engine (.start gpsSec leapSec))).Sound := by
  simp only [mnl2mpeHdlr]
  split
  · exact not_sound_sensorRun running ⟨gpsSec, leapSec, Or.inl rfl⟩ idle
  · rename_i listens
    exact absurd idle listens

theorem broken_gpsAiding {gpsSec leapSec : Nat} (idle : s.seListenerMode = .idle)
    (running : s.Running) : ¬ (({ s with queue := rest }.note
      (.engine (.gpsAiding gpsSec leapSec))).mnl2mpeHdlr clock created
        (.engine (.gpsAiding gpsSec leapSec))).Sound := by
  simp only [mnl2mpeHdlr]
  split
  · rename_i listens
    have start : s.seListenerMode = .start := listens
    rw [idle] at start
    cases start
  · exact not_sound_sensorRun running ⟨gpsSec, leapSec, Or.inr rfl⟩ idle

theorem broken_stop (inv : s.Inv) (marked : ¬ s.isUninitSE = false) :
    ¬ (({ s with queue := rest }.note (.engine .stop)).mnl2mpeHdlr clock created
      (.engine .stop)).Sound := by
  intro sound
  have answered := sound.answered
  have before := inv.sound.answered
  rw [mnl2mpeHdlr, stopReq_eq] at answered
  have count : (if s.isUninitSE = false then .stop :: s.responses else s.responses).count .stop =
      s.engineStops + 1 := answered
  rw [if_neg marked] at count
  omega

theorem broken_notice (inv : s.Inv) (other : ¬ s.Orderly .notice) :
    ¬ (({ s with queue := rest }.note .notice).mnl2mpeHdlr clock created .notice).Sound := by
  intro sound
  rw [mnl2mpeHdlr, stopReq_eq] at sound
  apply other
  constructor
  · have before := inv.sound.answered
    have count : (if s.isUninitSE = false then .stop :: s.responses
        else s.responses).count .stop = s.engineStops := sound.answered
    cases marked : s.isUninitSE with
    | true => rfl
    | false =>
        rw [if_pos marked, List.count_cons_self] at count
        omega
  · intro running asked
    have listening := sound.listening running asked
    cases listening

end Broken

theorem missed_broken {e : Event} {t : Session} (inv : s.Inv) (missed : ¬ s.Meets e)
    (taken : s.step e = some t) : ¬ t.Sound := by
  cases e with
  | send r => exact absurd trivial missed
  | data => exact absurd trivial missed
  | thread i clock sent => exact absurd trivial missed
  | handle clock created =>
      rw [step] at taken
      split at taken
      · cases taken
      · rename_i m rest waiting
        cases taken
        have other : ¬ s.Orderly m := by
          intro orderly
          apply missed
          intro first here
          rw [waiting] at here
          cases here
          exact orderly
        cases m with
        | notice => exact broken_notice inv other
        | engine r =>
            cases r with
            | start gpsSec leapSec =>
                obtain ⟨idle, running⟩ := Classical.not_imp.mp other
                exact broken_start idle (Classical.not_not.mp running)
            | stop => exact broken_stop inv other
            | getAdrStatus => exact absurd trivial other
            | gpsAiding gpsSec leapSec =>
                obtain ⟨idle, running⟩ := Classical.not_imp.mp other
                exact broken_gpsAiding idle (Classical.not_not.mp running)


end Session

/-- Along a run the MPE thread keeps its session exactly if it handles orderly messages. -/
theorem session_sound_iff (events : List Event) :
    AllStates Session.step Session.Sound .init events ↔
      StepsMeet Session.step Session.Meets .init events := by
  apply @allStates_iff_stepsMeet _ _ _ Session.Inv
  case kept => exact fun _ _ _ inv meets taken => Session.meets_kept inv meets taken
  case enough => exact fun _ inv => inv.sound
  case broken => exact fun _ _ _ inv missed taken => Session.missed_broken inv missed taken
  case start => exact Session.inv_init

/-- A stop and a start within the same period of the sensor thread. -/
theorem not_session_sound :
    let now := mpeSysGpsToSysTime 1300000000 * second
    let events := [Event.send (.start 1300000000 0), .handle now true, .thread 0 now true,
      .send .stop, .handle now true, .send (.start 1300000000 0), .handle now true]
    ¬ AllStates Session.step Session.Sound .init events := by
  intro now events all
  have stuck : (exec Session.step .init events).map (fun s =>
      (s.threads, s.lastRequest, s.seListenerMode)) =
        some ([.loop], some (.start 1300000000 0), .idle) := by decide
  rw [Option.map_eq_some_iff] at stuck
  obtain ⟨s, run, stuck⟩ := stuck
  have sound : s.Sound := all.last run
  have threads : s.threads = [.loop] := congrArg Prod.fst stuck
  have request : s.lastRequest = some (.start 1300000000 0) := congrArg (·.2.1) stuck
  have idle : s.seListenerMode = .idle := congrArg (·.2.2) stuck
  have running : s.Running := ⟨.loop, by simp [threads], Or.inr rfl⟩
  have listening := sound.listening running ⟨_, _, Or.inl request⟩
  rw [idle] at listening
  cases listening

end Connectivity.Mpe
