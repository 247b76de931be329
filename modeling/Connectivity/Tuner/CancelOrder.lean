import Connectivity.Tuner.Commands
import Connectivity.Transition.Run

set_option autoImplicit false

/- Which requests are carried out, against the cancels that are accepted between them. -/
namespace Connectivity.Tuner

open Transition

/-- The commands that a client asks for, but for a cancel. -/
def Command.request : Command → Bool
  | .config _ => true
  | .step _ => true
  | .seek _ => true
  | .tune _ => true
  | _ => false

/-- The requests that a cancel takes back. -/
def Command.revocable : Command → Bool
  | .step _ => true
  | .seek _ => true
  | .tune _ => true
  | _ => false

/-- The requests since the last cancel, one command later. -/
def noted (since : List Command) (command : Command) : List Command :=
  if command = .cancel then []
  else if command.request then since ++ [command] else since

/-- The commands that a call of the client adds to the list. -/
def Hal.requested (s : Hal) : Hal.Event → List Command
  | .setConfiguration none => []
  | .setConfiguration (some config) =>
      if config.upperLimit < config.lowerLimit then [] else [.cancel, .config config]
  | .step dir => [.step dir]
  | .scan dir => [.seek dir]
  | .tune channel => if s.config.Within channel then [.tune channel] else []
  | .cancel => [.cancel]
  | .rdsThread => []
  | .thread _ _ => []

/-- The command that the thread comes to in its walk, with whether it has met a cancel in it, and
what is behind. -/
def Hal.ahead (s : Hal) : Option (Bool × Command × List Command) :=
  match s.thread, s.commandList with
  | .walking gotCancel, command :: rest => some (gotCancel, command, rest)
  | _, _ => none

/-- The tuner with the requests accepted since the last cancel, those of them that have been
carried out, and the ones carried out after a cancel had taken them back. -/
structure CancelRun where
  hal : Hal
  since : List Command
  carriedOut : List Command
  stale : List Command
deriving DecidableEq, Repr

namespace CancelRun

def start (config : BandConfig) : CancelRun := ⟨.openTuner config, [.config config], [], []⟩

variable (s : CancelRun)

def carriedOutAfter (e : Hal.Event) (t : Hal) : Option Taken → List Command
  | some (.executed command _) =>
      if command.request ∧ .cancel ∉ t.commandList then s.carriedOut ++ [command]
      else s.carriedOut
  | _ => if .cancel ∈ s.hal.requested e then [] else s.carriedOut

def staleAfter (t : Hal) : Option Taken → List Command
  | some (.executed command _) =>
      if command.revocable ∧ .cancel ∈ t.commandList then s.stale ++ [command] else s.stale
  | _ => s.stale

def next (e : Hal.Event) (r : Hal × Option Taken) : CancelRun where
  hal := r.1
  since := (s.hal.requested e).foldl noted s.since
  carriedOut := s.carriedOutAfter e r.1 r.2
  stale := s.staleAfter r.1 r.2

def step (e : Hal.Event) : Option CancelRun := (s.hal.handle e).map (s.next e)

/-- The requests since the last cancel have been carried out once and in order, but for those at
the end that are in the list; no step, seek or tune has been that a cancel had taken back. -/
structure Sound : Prop where
  inOrder : s.since = s.carriedOut ++ s.hal.commandList.foldl noted []
  revoked : s.stale = []

/-- A step, seek or tune that the thread comes to has been taken back exactly if the thread has
met a cancel in its walk. -/
def Meets : Hal.Event → Prop
  | .thread _ _ =>
      ∀ ahead ∈ s.hal.ahead, ahead.2.1.revocable = true → (ahead.1 = true ↔ .cancel ∈ ahead.2.2)
  | _ => True

/-- A cancel is not accepted while a step, seek or tune is in the list, nor one of these while a
cancel is. -/
def Calm (e : Hal.Event) : Prop :=
  ∀ command ∈ s.hal.requested e,
    (command = .cancel → ∀ other ∈ s.hal.commandList, other.revocable = false) ∧
      (command.revocable = true → .cancel ∉ s.hal.commandList)

end CancelRun

section Noted

variable {since commands : List Command}

theorem noted_other {command : Command} (other : command ≠ .cancel) :
    noted since command = since ++ [command].filter Command.request := by
  rw [noted, if_neg other]
  cases request : command.request with
  | true => simp [request]
  | false => simp [request]

/-- Without a cancel the requests are added to those before. -/
theorem noted_free (free : Command.cancel ∉ commands) :
    commands.foldl noted since = since ++ commands.filter Command.request := by
  induction commands generalizing since with
  | nil => simp
  | cons command rest ih =>
      rw [List.mem_cons, not_or] at free
      obtain ⟨other, free⟩ := free
      rw [List.foldl_cons, ih free, noted_other (Ne.symm other), List.append_assoc,
        ← List.filter_append]
      rfl

/-- With one in the list it does not matter what came before. -/
theorem noted_cancelled (cancelled : Command.cancel ∈ commands) (other : List Command) :
    commands.foldl noted since = commands.foldl noted other := by
  induction commands generalizing since other with
  | nil => cases cancelled
  | cons command rest ih =>
      rw [List.foldl_cons, List.foldl_cons]
      by_cases later : Command.cancel ∈ rest
      · exact ih later _
      · have here : command = .cancel := by
          cases List.mem_cons.mp cancelled with
          | inl here => exact here.symm
          | inr there => exact absurd there later
        subst here
        rfl

theorem noted_checkRds : (commands ++ [Command.checkRds]).foldl noted since =
    commands.foldl noted since := by
  rw [List.foldl_append]
  rfl

end Noted

namespace Hal

variable {s t : Hal}

theorem turned_commandList {rest : List Command} : (s.turned rest).commandList = s.commandList := by
  rw [turned]
  split <;> rfl

theorem turned_thread {rest : List Command} (walks : (s.turned rest).thread = .walking true) :
    s.thread = .walking true := by
  rw [turned] at walks
  split at walks
  · cases walks
  · exact walks

theorem reported_cases {before : Hal} {tunedTo : Option (BitVec 32)} {event : Option Tuned}
    (reported : before.reported tunedTo = (t, event))
    (list : before.commandList = s.commandList) (thread : before.thread = s.thread) :
    (t.commandList = s.commandList ∨ t.commandList = s.commandList ++ [Command.checkRds]) ∧
      t.thread = s.thread := by
  cases tunedTo with
  | none =>
      cases reported
      exact ⟨Or.inl list, thread⟩
  | some freq =>
      cases reported
      exact ⟨Or.inr (congrArg (· ++ [Command.checkRds]) list), thread⟩

/-- What executing a command leaves of the list, and when the thread has met a cancel. -/
theorem execute_cases {command : Command} {probe : Nat → Probe} {ret : Int} {event : Option Tuned}
    (done : s.execute command probe ret = some (t, event)) :
    (t.commandList = s.commandList ∨ t.commandList = s.commandList ++ [Command.checkRds]) ∧
      (t.thread = .walking true → s.thread = .walking true ∨ command = .cancel) := by
  cases command with
  | step dir =>
      have reported : s.runStep dir ret = (t, event) := Option.some.inj done
      unfold runStep at reported
      dsimp only at reported
      split at reported
      · obtain ⟨left, thread⟩ := reported_cases reported rfl rfl
        exact ⟨left, fun walks => Or.inl (thread ▸ walks)⟩
      · obtain ⟨left, thread⟩ := reported_cases reported rfl rfl
        exact ⟨left, fun walks => Or.inl (thread ▸ walks)⟩
  | seek dir =>
      rw [execute] at done
      split at done
      · cases done
      · have reported : s.runSeek dir probe ret = (t, event) := Option.some.inj done
        obtain ⟨left, thread⟩ := reported_cases reported rfl rfl
        exact ⟨left, fun walks => Or.inl (thread ▸ walks)⟩
  | tune channel =>
      have reported : s.runTune channel ret = (t, event) := Option.some.inj done
      obtain ⟨left, thread⟩ := reported_cases reported rfl rfl
      exact ⟨left, fun walks => Or.inl (thread ▸ walks)⟩
  | cancel =>
      cases done
      exact ⟨Or.inl rfl, fun _ => Or.inr rfl⟩
  | exit =>
      cases done
      exact ⟨Or.inl rfl, fun walks => Thread.noConfusion walks⟩
  | config config =>
      cases done
      exact ⟨Or.inl rfl, fun walks => Or.inl walks⟩
  | checkRds =>
      cases done
      exact ⟨Or.inl rfl, fun walks => Or.inl walks⟩
  | showRds =>
      cases done
      exact ⟨Or.inl rfl, fun walks => Or.inl walks⟩

/-- What a step of the thread does to the list. -/
theorem advance_cases {probe : Nat → Probe} {ret : Int} {taken : Option Taken}
    (moved : s.advance probe ret = some (t, taken)) :
    (taken = none ∧ t.commandList = s.commandList ∧ t.thread ≠ .walking true ∧ s.ahead = none) ∨
      ∃ gotCancel command rest, s.thread = .walking gotCancel ∧
        s.commandList = command :: rest ∧ s.ahead = some (gotCancel, command, rest) ∧
        ((gotCancel && command.pending) = true ∧ taken = some (.dropped command) ∧
            t.commandList = rest ∧ gotCancel = true ∨
          (gotCancel && command.pending) = false ∧
            (∃ event, taken = some (.executed command event)) ∧
            (t.commandList = rest ∨ t.commandList = rest ++ [Command.checkRds]) ∧
            (t.thread = .walking true → gotCancel = true ∨ command = .cancel)) := by
  unfold advance at moved
  split at moved
  · rename_i thread
    cases moved
    exact Or.inl ⟨rfl, rfl, Thread.noConfusion, by simp [ahead, thread]⟩
  · rename_i thread
    left
    split at moved
    · cases moved
      exact ⟨rfl, rfl, Thread.noConfusion, by simp [ahead, thread]⟩
    · cases moved
      exact ⟨rfl, rfl, fun walks => Bool.noConfusion (Thread.walking.inj walks),
        by simp [ahead, thread]⟩
  · rename_i thread
    left
    split at moved
    · cases moved
      exact ⟨rfl, rfl, Thread.noConfusion, by simp [ahead, thread]⟩
    · cases moved
      exact ⟨rfl, rfl, fun walks => Bool.noConfusion (Thread.walking.inj walks),
        by simp [ahead, thread]⟩
  · rename_i gotCancel thread
    split at moved
    · rename_i empty
      cases moved
      exact Or.inl ⟨rfl, rfl, Thread.noConfusion, by simp [ahead, thread, empty]⟩
    · rename_i command rest commands
      refine Or.inr ⟨gotCancel, command, rest, thread, commands, by simp [ahead, thread, commands],
        ?_⟩
      dsimp only at moved
      split at moved
      · rename_i revoked
        cases moved
        exact Or.inl ⟨revoked, rfl, turned_commandList, (Bool.and_eq_true _ _ ▸ revoked).1⟩
      · rename_i runs
        obtain ⟨⟨t', event⟩, done, same⟩ := Option.map_eq_some_iff.mp moved
        obtain ⟨left, met⟩ := execute_cases done
        cases same
        refine Or.inr ⟨eq_false_of_ne_true runs, ⟨event, rfl⟩, ?_, fun walks => ?_⟩
        · rw [turned_commandList]
          exact left
        · cases met (turned_thread walks) with
          | inl before =>
              have same : Thread.walking gotCancel = .walking true := thread.symm.trans before
              exact Or.inl (Thread.walking.inj same)
          | inr cancel => exact Or.inr cancel
  · cases moved

/-- What a call adds to the list. -/
theorem call_commandList {e : Event} {r : Hal × Option Taken} (handled : s.handle e = some r)
    (call : ∀ probe ret, e ≠ .thread probe ret) :
    s.lockFree = true ∧ r.2 = none ∧ r.1.thread = s.thread ∧
      r.1.config = s.config ∧ (r.1.commandList = s.commandList ++ s.requested e ∨
        s.requested e = [] ∧ r.1.commandList = s.commandList ++ [Command.showRds]) := by
  cases e with
  | setConfiguration config =>
      obtain ⟨free, same⟩ := Option.ite_none_right_eq_some.mp handled
      cases same
      refine ⟨free, rfl, ?_⟩
      cases config with
      | none => exact ⟨rfl, rfl, Or.inl (List.append_nil _).symm⟩
      | some config =>
          unfold setConfiguration requested
          dsimp only
          split
          · exact ⟨rfl, rfl, Or.inl (List.append_nil _).symm⟩
          · exact ⟨rfl, rfl, Or.inl (List.append_assoc _ [_] [_])⟩
  | step dir =>
      obtain ⟨free, same⟩ := Option.ite_none_right_eq_some.mp handled
      cases same
      exact ⟨free, rfl, rfl, rfl, Or.inl rfl⟩
  | scan dir =>
      obtain ⟨free, same⟩ := Option.ite_none_right_eq_some.mp handled
      cases same
      exact ⟨free, rfl, rfl, rfl, Or.inl rfl⟩
  | tune channel =>
      obtain ⟨free, same⟩ := Option.ite_none_right_eq_some.mp handled
      cases same
      refine ⟨free, rfl, ?_⟩
      unfold tune requested
      dsimp only
      split
      · exact ⟨rfl, rfl, Or.inl rfl⟩
      · exact ⟨rfl, rfl, Or.inl (List.append_nil _).symm⟩
  | cancel =>
      obtain ⟨free, same⟩ := Option.ite_none_right_eq_some.mp handled
      cases same
      exact ⟨free, rfl, rfl, rfl, Or.inl rfl⟩
  | rdsThread =>
      obtain ⟨free, same⟩ := Option.ite_none_right_eq_some.mp handled
      cases same
      exact ⟨free, rfl, rfl, rfl, Or.inr ⟨rfl, rfl⟩⟩
  | thread probe ret => exact absurd rfl (call probe ret)

end Hal

namespace CancelRun

variable {s : CancelRun}

theorem sound_start (config : BandConfig) : (start config).Sound := ⟨rfl, rfl⟩

theorem sound_call {e : Hal.Event} {r : Hal × Option Taken} (sound : s.Sound)
    (handled : s.hal.handle e = some r) (call : ∀ probe ret, e ≠ .thread probe ret) :
    (s.next e r).Sound := by
  obtain ⟨_, none, _, _, list⟩ := Hal.call_commandList handled call
  obtain ⟨t, taken⟩ := r
  have quiet : taken = Option.none := none
  subst quiet
  refine ⟨?_, sound.revoked⟩
  show (s.hal.requested e).foldl noted s.since =
    (if .cancel ∈ s.hal.requested e then [] else s.carriedOut) ++ t.commandList.foldl noted []
  have after : t.commandList.foldl noted [] =
      (s.hal.requested e).foldl noted (s.hal.commandList.foldl noted []) := by
    cases list with
    | inl added =>
        rw [show t.commandList = _ from added, List.foldl_append]
    | inr silent =>
        rw [show t.commandList = _ from silent.2, silent.1, List.foldl_append]
        rfl
  rw [after, sound.inOrder]
  by_cases cancelled : Command.cancel ∈ s.hal.requested e
  · rw [if_pos cancelled, List.nil_append]
    exact noted_cancelled cancelled _
  · rw [if_neg cancelled, noted_free cancelled, noted_free cancelled, List.append_assoc]

/-- The requests behind the command that the thread comes to, in front of it. -/
theorem noted_cons {command : Command} {rest : List Command} (free : Command.cancel ∉ rest) :
    (command :: rest).foldl noted [] =
      [command].filter Command.request ++ rest.filter Command.request := by
  rw [List.foldl_cons, noted_free free]
  by_cases cancel : command = .cancel
  · subst cancel
    rfl
  · rw [noted_other cancel, List.nil_append]

theorem noted_left {left rest : List Command}
    (same : left = rest ∨ left = rest ++ [Command.checkRds]) :
    left.foldl noted [] = rest.foldl noted [] ∧ (Command.cancel ∈ left ↔ .cancel ∈ rest) := by
  cases same with
  | inl same =>
      rw [same]
      exact ⟨rfl, Iff.rfl⟩
  | inr same =>
      rw [same, noted_checkRds]
      exact ⟨rfl, by simp⟩

/-- A command of the list is executed, with nothing that has been taken back. -/
theorem sound_executed {probe : Nat → Probe} {ret : Int} {t : Hal} {command : Command}
    {event : Option Tuned} {rest : List Command} (sound : s.Sound)
    (list : s.hal.commandList = command :: rest)
    (left : t.commandList = rest ∨ t.commandList = rest ++ [Command.checkRds])
    (fresh : command.revocable = true → .cancel ∉ rest) :
    (s.next (.thread probe ret) (t, some (.executed command event))).Sound := by
  obtain ⟨same, marks⟩ := noted_left left
  constructor
  · show s.since = (if command.request = true ∧ .cancel ∉ t.commandList then
      s.carriedOut ++ [command] else s.carriedOut) ++ t.commandList.foldl noted []
    rw [same, sound.inOrder, list]
    by_cases cancelled : Command.cancel ∈ rest
    · rw [if_neg (fun both => both.2 (marks.mpr cancelled)), List.foldl_cons]
      rw [noted_cancelled cancelled []]
    · rw [noted_cons cancelled, noted_free cancelled]
      cases request : command.request with
      | true =>
          rw [if_pos ⟨rfl, fun member => cancelled (marks.mp member)⟩]
          simp [request]
      | false =>
          rw [if_neg (fun both => Bool.false_ne_true both.1)]
          simp [request]
  · show (if command.revocable = true ∧ .cancel ∈ t.commandList then _ else s.stale) = []
    rw [if_neg (fun both => fresh both.1 (marks.mp both.2))]
    exact sound.revoked

/-- A command that is thrown away has been taken back, or it is none of a client. -/
theorem sound_dropped {probe : Nat → Probe} {ret : Int} {t : Hal} {command : Command}
    {rest : List Command} (sound : s.Sound) (list : s.hal.commandList = command :: rest)
    (left : t.commandList = rest) (pending : command.pending = true)
    (revoked : command.revocable = true → .cancel ∈ rest) :
    (s.next (.thread probe ret) (t, some (.dropped command))).Sound := by
  refine ⟨?_, sound.revoked⟩
  show s.since = s.carriedOut ++ t.commandList.foldl noted []
  rw [left, sound.inOrder, list]
  by_cases cancelled : Command.cancel ∈ rest
  · rw [List.foldl_cons, noted_cancelled cancelled []]
  · have none : command.request = false := by
      cases command with
      | step dir => exact absurd (revoked rfl) cancelled
      | seek dir => exact absurd (revoked rfl) cancelled
      | tune channel => exact absurd (revoked rfl) cancelled
      | config config => cases pending
      | exit => rfl
      | cancel => rfl
      | checkRds => rfl
      | showRds => rfl
    rw [noted_cons cancelled, noted_free cancelled]
    simp [none]

theorem step_cases {e : Hal.Event} {t : CancelRun} (taken : s.step e = some t) :
    ∃ r, s.hal.handle e = some r ∧ t = s.next e r := by
  obtain ⟨r, handled, same⟩ := Option.map_eq_some_iff.mp taken
  exact ⟨r, handled, same.symm⟩

theorem sound_thread {probe : Nat → Probe} {ret : Int} {t : Hal} {taken : Option Taken}
    (sound : s.Sound) (meets : s.Meets (.thread probe ret))
    (moved : s.hal.advance probe ret = some (t, taken)) :
    (s.next (.thread probe ret) (t, taken)).Sound := by
  cases Hal.advance_cases moved with
  | inl silent =>
      obtain ⟨none, list, _, _⟩ := silent
      subst none
      refine ⟨?_, sound.revoked⟩
      show s.since = s.carriedOut ++ t.commandList.foldl noted []
      rw [list]
      exact sound.inOrder
  | inr walks =>
      obtain ⟨gotCancel, command, rest, _, list, ahead, outcome⟩ := walks
      have condition := meets _ ahead
      cases outcome with
      | inl dropped =>
          obtain ⟨both, same, left, cancelled⟩ := dropped
          subst same
          rw [Bool.and_eq_true] at both
          exact sound_dropped sound list left both.2 fun revocable =>
            (condition revocable).mp cancelled
      | inr executed =>
          obtain ⟨neither, ⟨event, same⟩, left, _⟩ := executed
          subst same
          refine sound_executed sound list left fun revocable cancelled => ?_
          have pending : command.pending = true := by
            cases command <;> first | rfl | cases revocable
          have met := (condition revocable).mpr cancelled
          rw [show gotCancel = true from met, pending] at neither
          cases neither

/-- The step lemma. -/
theorem meets_kept {e : Hal.Event} {t : CancelRun} (sound : s.Sound) (meets : s.Meets e)
    (taken : s.step e = some t) : t.Sound := by
  obtain ⟨r, handled, same⟩ := step_cases taken
  subst same
  cases e with
  | thread probe ret => exact sound_thread sound meets handled
  | setConfiguration config => exact sound_call sound handled fun _ _ => Hal.Event.noConfusion
  | step dir => exact sound_call sound handled fun _ _ => Hal.Event.noConfusion
  | scan dir => exact sound_call sound handled fun _ _ => Hal.Event.noConfusion
  | tune channel => exact sound_call sound handled fun _ _ => Hal.Event.noConfusion
  | cancel => exact sound_call sound handled fun _ _ => Hal.Event.noConfusion
  | rdsThread => exact sound_call sound handled fun _ _ => Hal.Event.noConfusion

theorem missed_broken {e : Hal.Event} {t : CancelRun} (sound : s.Sound) (missed : ¬ s.Meets e)
    (taken : s.step e = some t) : ¬ t.Sound := by
  obtain ⟨⟨t, outcome⟩, handled, same⟩ := step_cases taken
  subst same
  intro after
  cases e with
  | thread probe ret =>
      apply missed
      intro ahead here revocable
      cases Hal.advance_cases handled with
      | inl silent =>
          rw [silent.2.2.2] at here
          cases here
      | inr walks =>
          obtain ⟨gotCancel, command, rest, _, list, same, outcome⟩ := walks
          rw [same] at here
          cases here
          have request : command.request = true := by
            cases command <;> first | rfl | cases revocable
          cases outcome with
          | inl dropped =>
              obtain ⟨_, same, left, cancelled⟩ := dropped
              subst same
              refine iff_of_true cancelled (Classical.byContradiction fun free => ?_)
              have order : s.since = s.carriedOut ++ t.commandList.foldl noted [] := after.inOrder
              rw [sound.inOrder, left, list, noted_cons free, noted_free free] at order
              have lengths := congrArg List.length order
              simp [request] at lengths
          | inr executed =>
              obtain ⟨neither, ⟨event, same⟩, left, _⟩ := executed
              subst same
              have pending : command.pending = true := by
                cases command <;> first | rfl | cases revocable
              rw [pending, Bool.and_true] at neither
              refine iff_of_false (neither ▸ Bool.false_ne_true) fun cancelled => ?_
              have stale : (if command.revocable = true ∧ .cancel ∈ t.commandList then
                  s.stale ++ [command] else s.stale) = [] := after.revoked
              rw [if_pos ⟨revocable, (noted_left left).2.mpr cancelled⟩] at stale
              exact List.append_ne_nil_of_right_ne_nil _ (List.cons_ne_nil _ _) stale
  | _ => exact missed trivial

section Calm

variable (s)

/-- A list never has a cancel beside a step, seek or tune, and a walk that has met a cancel has
none of these in front of it. -/
structure Apart : Prop where
  sound : s.Sound
  apart : ∀ command ∈ s.hal.commandList, command.revocable = true →
    .cancel ∉ s.hal.commandList
  behind : s.hal.thread = .walking true →
    ∀ command ∈ s.hal.commandList, command.revocable = false

variable {s}

theorem meets_of_calm {e : Hal.Event} (held : s.Apart) : s.Meets e := by
  cases e with
  | thread probe ret =>
      intro ahead here revocable
      unfold Hal.ahead at here
      split at here
      · rename_i gotCancel command rest thread list
        cases here
        have member : command ∈ s.hal.commandList := by
          rw [list]
          exact List.mem_cons_self
        refine iff_of_false (fun cancelled => ?_) fun later => ?_
        · have met : s.hal.thread = .walking true := thread.trans (congrArg _ cancelled)
          have none := held.behind met command member
          rw [revocable] at none
          cases none
        · apply held.apart command member revocable
          rw [list]
          exact List.mem_cons_of_mem _ later
      · cases here
  | _ => trivial

/-- What the thread leaves has been there before, or is a check of the RDS data. -/
theorem apart_thread {probe : Nat → Probe} {ret : Int} {t : Hal} {taken : Option Taken}
    (held : s.Apart) (moved : s.hal.advance probe ret = some (t, taken)) :
    (∀ command ∈ t.commandList, command.revocable = true → .cancel ∉ t.commandList) ∧
      (t.thread = .walking true → ∀ command ∈ t.commandList, command.revocable = false) := by
  cases Hal.advance_cases moved with
  | inl silent =>
      obtain ⟨_, list, thread, _⟩ := silent
      rw [list]
      exact ⟨held.apart, fun walks => absurd walks thread⟩
  | inr walks =>
      obtain ⟨gotCancel, command, rest, thread, list, _, outcome⟩ := walks
      have apart := held.apart
      have behind := held.behind
      rw [list] at apart behind
      have left : t.commandList = rest ∨ t.commandList = rest ++ [Command.checkRds] := by
        cases outcome with
        | inl dropped => exact Or.inl dropped.2.2.1
        | inr executed => exact executed.2.2.1
      have there : ∀ other ∈ t.commandList, other ∈ rest ∨ other = .checkRds := by
        intro other member
        cases left with
        | inl same => exact Or.inl (same ▸ member)
        | inr same =>
            rw [same, List.mem_append, List.mem_singleton] at member
            exact member
      constructor
      · intro other member revocable cancelled
        have later := (noted_left left).2.mp cancelled
        cases there other member with
        | inl before =>
            exact apart other (List.mem_cons_of_mem _ before) revocable
              (List.mem_cons_of_mem _ later)
        | inr check =>
            subst check
            cases revocable
      · intro walks other member
        cases there other member with
        | inr check =>
            subst check
            rfl
        | inl before =>
            have met : gotCancel = true ∨ command = .cancel := by
              cases outcome with
              | inl dropped => exact Or.inl dropped.2.2.2
              | inr executed => exact executed.2.2.2 walks
            cases met with
            | inl met =>
                exact behind (thread.trans (congrArg _ met)) other (List.mem_cons_of_mem _ before)
            | inr cancel =>
                subst cancel
                cases revocable : other.revocable with
                | false => rfl
                | true =>
                    exact absurd List.mem_cons_self
                      (apart other (List.mem_cons_of_mem _ before) revocable)

theorem apart_call {e : Hal.Event} {r : Hal × Option Taken} (held : s.Apart) (calm : s.Calm e)
    (handled : s.hal.handle e = some r) (call : ∀ probe ret, e ≠ .thread probe ret) :
    (∀ command ∈ r.1.commandList, command.revocable = true → .cancel ∉ r.1.commandList) ∧
      (r.1.thread = .walking true → ∀ command ∈ r.1.commandList, command.revocable = false) := by
  obtain ⟨free, _, thread, _, list⟩ := Hal.call_commandList handled call
  constructor
  · have alone : ∀ command ∈ s.hal.requested e, command.revocable = true →
        .cancel ∉ s.hal.requested e := by
      intro command member revocable
      cases e with
      | setConfiguration config =>
          cases config with
          | none => cases member
          | some config =>
              by_cases reversed : config.upperLimit < config.lowerLimit
              · have none : s.hal.requested (.setConfiguration (some config)) = [] :=
                  if_pos reversed
                rw [none] at member
                cases member
              · have both : s.hal.requested (.setConfiguration (some config)) =
                    [.cancel, .config config] := if_neg reversed
                rw [both, List.mem_cons, List.mem_singleton] at member
                cases member with
                | inl same =>
                    subst same
                    cases revocable
                | inr same =>
                    subst same
                    cases revocable
      | step dir => simp [Hal.requested]
      | scan dir => simp [Hal.requested]
      | tune channel =>
          intro cancelled
          by_cases within : s.hal.config.Within channel
          · have one : s.hal.requested (.tune channel) = [.tune channel] := if_pos within
            rw [one, List.mem_singleton] at cancelled
            cases cancelled
          · have none : s.hal.requested (.tune channel) = [] := if_neg within
            rw [none] at cancelled
            cases cancelled
      | cancel =>
          have same : command = .cancel := List.mem_singleton.mp member
          subst same
          cases revocable
      | rdsThread => cases member
      | thread probe ret => cases member
    intro command member revocable cancelled
    cases list with
    | inl added =>
        rw [added, List.mem_append] at member cancelled
        cases member with
        | inl before =>
            cases cancelled with
            | inl already => exact held.apart command before revocable already
            | inr now =>
                have none := (calm .cancel now).1 rfl command before
                rw [revocable] at none
                cases none
        | inr new =>
            cases cancelled with
            | inl already => exact (calm command new).2 revocable already
            | inr now => exact alone command new revocable now
    | inr silent =>
        rw [silent.2, List.mem_append, List.mem_singleton] at member cancelled
        cases member with
        | inl before =>
            cases cancelled with
            | inl already => exact held.apart command before revocable already
            | inr other => cases other
        | inr show_ =>
            subst show_
            cases revocable
  · intro walks
    rw [thread] at walks
    rw [Hal.lockFree, walks] at free
    cases free

/-- The step lemma of the calm runs. -/
theorem calm_kept {e : Hal.Event} {t : CancelRun} (held : s.Apart) (calm : s.Calm e)
    (taken : s.step e = some t) : t.Apart := by
  have sound := meets_kept held.sound (meets_of_calm held) taken
  obtain ⟨r, handled, same⟩ := step_cases taken
  subst same
  cases e with
  | thread probe ret =>
      obtain ⟨apart, behind⟩ := apart_thread held handled
      exact ⟨sound, apart, behind⟩
  | _ =>
      obtain ⟨apart, behind⟩ := apart_call held calm handled fun _ _ => Hal.Event.noConfusion
      exact ⟨sound, apart, behind⟩

theorem apart_start (config : BandConfig) : (start config).Apart := by
  refine ⟨sound_start config, ?_, fun walks => Thread.noConfusion walks⟩
  intro command member revocable
  have same : command = .config config := List.mem_singleton.mp member
  subst same
  cases revocable

end Calm

end CancelRun

/-- From the opening of a tuner on, the requests since the last cancel are carried out once and in
order, and none that has been taken back, exactly if the walks of the thread have met a cancel
when they come to a request that has been taken back and at no other request. It is enough that
cancels and the requests they take back are never in the list together. -/
theorem cancel_order_iff (config : BandConfig) (events : List Hal.Event) :
    (AllStates CancelRun.step CancelRun.Sound (.start config) events ↔
        StepsMeet CancelRun.step CancelRun.Meets (.start config) events) ∧
      (StepsMeet CancelRun.step CancelRun.Calm (.start config) events →
        AllStates CancelRun.step CancelRun.Sound (.start config) events) := by
  constructor
  · apply @allStates_iff_stepsMeet _ _ _ CancelRun.Sound
    case kept => exact fun _ _ _ sound meets taken => CancelRun.meets_kept sound meets taken
    case enough => exact fun _ sound => sound
    case broken => exact fun _ _ _ sound missed taken => CancelRun.missed_broken sound missed taken
    case start => exact CancelRun.sound_start config
  · intro calm
    have held : AllStates CancelRun.step CancelRun.Apart (.start config) events :=
      allStates_of_stepsMeet (fun _ _ _ held calm taken => CancelRun.calm_kept held calm taken)
        (CancelRun.apart_start config) calm
    exact held.imp fun _ held => held.sound

/-- A tune that is followed by a cancel before the thread wakes is carried out; one that follows a
cancel is thrown away. -/
theorem not_cancel_order :
    let config : BandConfig := ⟨87500, 108000, 100⟩
    let turn : Hal.Event := .thread (fun _ => ⟨false, 0⟩) 0
    ¬ AllStates CancelRun.step CancelRun.Sound (.start config)
        [turn, turn, turn, turn, .tune 98000, .cancel, turn, turn] ∧
      ¬ AllStates CancelRun.step CancelRun.Sound (.start config)
        [turn, turn, turn, turn, .cancel, .tune 98000, turn, turn, turn] := by
  intro config turn
  constructor
  · intro all
    have stale : (exec CancelRun.step (.start config)
        [turn, turn, turn, turn, .tune 98000, .cancel, turn, turn]).map (fun s => s.stale) =
          some [.tune 98000] := by
      decide
    obtain ⟨s, run, stale⟩ := Option.map_eq_some_iff.mp stale
    have sound : s.Sound := all.last run
    rw [sound.revoked] at stale
    cases stale
  · intro all
    have lost : (exec CancelRun.step (.start config)
        [turn, turn, turn, turn, .cancel, .tune 98000, turn, turn, turn]).map
          (fun s => (s.since, s.carriedOut, s.hal.commandList)) =
            some ([.tune 98000], [], []) := by
      decide
    obtain ⟨s, run, lost⟩ := Option.map_eq_some_iff.mp lost
    have sound : s.Sound := all.last run
    have order := sound.inOrder
    rw [Prod.mk.injEq, Prod.mk.injEq] at lost
    obtain ⟨since, carriedOut, list⟩ := lost
    rw [since, carriedOut, list] at order
    cases order

end Connectivity.Tuner
