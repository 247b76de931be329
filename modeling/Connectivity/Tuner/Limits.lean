import Connectivity.Tuner.CancelOrder
import Connectivity.Tuner.SeekBounds

set_option autoImplicit false

/- Whether the chip is left, and the client told, in the band that is configured. -/
namespace Connectivity.Tuner

open Transition

/-- The channel of the event, and the chip if it has been tuned, are in the band. -/
def Tuned.InBand (event : Tuned) : Prop :=
  event.config.Within event.channel ∧ ∀ freq ∈ event.tunedTo,
    event.config.lowerLimit.toNat ≤ chipFreq freq ∧ chipFreq freq ≤ event.config.upperLimit.toNat

/-- The tuner with the TUNED events so far, the last first. -/
structure LimitRun where
  hal : Hal
  events : List Tuned
deriving DecidableEq, Repr

/-- Whether a channel is in the band that will be in force behind a list of commands; behind a
cancel it does not matter. -/
def InForce : BandConfig → List Command → BitVec 32 → Prop
  | config, [], channel => config.Within channel
  | config, command :: rest, channel =>
      match command with
      | .cancel => True
      | .config next => InForce next rest channel
      | _ => InForce config rest channel

instance decidableInForce :
    ∀ (config : BandConfig) (commands : List Command) (channel : BitVec 32),
      Decidable (InForce config commands channel)
  | config, [], channel => inferInstanceAs (Decidable (config.Within channel))
  | _, .cancel :: _, _ => isTrue trivial
  | _, .config next :: rest, channel => decidableInForce next rest channel
  | config, .exit :: rest, channel => decidableInForce config rest channel
  | config, .step _ :: rest, channel => decidableInForce config rest channel
  | config, .seek _ :: rest, channel => decidableInForce config rest channel
  | config, .tune _ :: rest, channel => decidableInForce config rest channel
  | config, .checkRds :: rest, channel => decidableInForce config rest channel
  | config, .showRds :: rest, channel => decidableInForce config rest channel

namespace LimitRun

def start (config : BandConfig) : LimitRun := ⟨.openTuner config, []⟩

variable (s : LimitRun)

def next (r : Hal × Option Taken) : LimitRun where
  hal := r.1
  events := match r.2 with
    | some (.executed _ (some event)) => event :: s.events
    | _ => s.events

def step (e : Hal.Event) : Option LimitRun := (s.hal.handle e).map s.next

def Sound : Prop := ∀ event ∈ s.events, event.InBand

/-- A band whose frequencies are frequencies of the chip. -/
def Aligned (config : BandConfig) : Prop :=
  config.lowerLimit.toNat % 100 = 0 ∧ config.upperLimit.toNat < 6553600

/-- What a command needs of the configuration it is executed with. -/
def Fits (config : BandConfig) (channel : BitVec 32) (ret : Int) : Command → Prop
  | .step _ => config.lowerLimit ≤ config.upperLimit ∧
      (if ret = 0 then Aligned config else config.Within channel)
  | .seek _ => config.lowerLimit ≤ config.upperLimit ∧ (ret = 0 → Aligned config) ∧
      config.moreStep ≤ config.lowerLimit.toNat ∧
      config.upperLimit.toNat + config.moreStep < 4294967296
  | .tune freq => ret = 0 → config.lowerLimit.toNat ≤ chipFreq freq
  | _ => True

instance (config : BandConfig) : Decidable (Aligned config) :=
  inferInstanceAs (Decidable (_ ∧ _))

instance (config : BandConfig) (channel : BitVec 32) (ret : Int) :
    (command : Command) → Decidable (Fits config channel ret command)
  | .step _ => inferInstanceAs (Decidable (config.lowerLimit ≤ config.upperLimit ∧
      (if ret = 0 then Aligned config else config.Within channel)))
  | .seek _ => inferInstanceAs (Decidable (config.lowerLimit ≤ config.upperLimit ∧
      (ret = 0 → Aligned config) ∧ config.moreStep ≤ config.lowerLimit.toNat ∧
      config.upperLimit.toNat + config.moreStep < 4294967296))
  | .tune freq => inferInstanceAs (Decidable (ret = 0 → config.lowerLimit.toNat ≤ chipFreq freq))
  | .exit => inferInstanceAs (Decidable True)
  | .config _ => inferInstanceAs (Decidable True)
  | .cancel => inferInstanceAs (Decidable True)
  | .checkRds => inferInstanceAs (Decidable True)
  | .showRds => inferInstanceAs (Decidable True)

/-- A channel that is accepted is one of the band that waits in the list, if one does; a command
that is executed fits its configuration. -/
def Meets : Hal.Event → Prop
  | .tune channel =>
      s.hal.config.Within channel → InForce s.hal.config s.hal.commandList channel
  | .thread _ ret => ∀ ahead ∈ s.hal.ahead,
      (ahead.1 && ahead.2.1.pending) = false → Fits s.hal.config s.hal.channel ret ahead.2.1
  | _ => True

instance : (e : Hal.Event) → Decidable (s.Meets e)
  | .setConfiguration _ => inferInstanceAs (Decidable True)
  | .step _ => inferInstanceAs (Decidable True)
  | .scan _ => inferInstanceAs (Decidable True)
  | .tune _ => inferInstanceAs (Decidable (_ → _))
  | .cancel => inferInstanceAs (Decidable True)
  | .rdsThread => inferInstanceAs (Decidable True)
  | .thread _ ret => inferInstanceAs (Decidable (∀ ahead ∈ s.hal.ahead,
      (ahead.1 && ahead.2.1.pending) = false → Fits s.hal.config s.hal.channel ret ahead.2.1))

end LimitRun

/-- The tunes of a list that will be executed are to channels of the band in force then. -/
def Waits : BandConfig → Bool → List Command → Prop
  | _, _, [] => True
  | config, gotCancel, command :: rest =>
      match command with
      | .cancel => Waits config true rest
      | .config next => Waits next gotCancel rest
      | .tune channel => (gotCancel = false → config.Within channel) ∧ Waits config gotCancel rest
      | _ => Waits config gotCancel rest

section Waits

variable {config : BandConfig} {gotCancel : Bool} {commands : List Command}

theorem waits_append {added : List Command} (waits : Waits config gotCancel commands)
    (free : ∀ c g, Waits c g added) : Waits config gotCancel (commands ++ added) := by
  induction commands generalizing config gotCancel with
  | nil => exact free config gotCancel
  | cons command rest ih =>
      cases command with
      | tune channel => exact ⟨waits.1, ih waits.2⟩
      | _ => exact ih waits

theorem waits_cancelled {channel : BitVec 32} (waits : Waits config true commands) :
    Waits config true (commands ++ [Command.tune channel]) := by
  induction commands generalizing config with
  | nil => exact ⟨fun other => Bool.noConfusion other, trivial⟩
  | cons command rest ih =>
      cases command with
      | tune other => exact ⟨waits.1, ih waits.2⟩
      | _ => exact ih waits

/-- A channel of the band in force behind the list may be added to it. -/
theorem waits_tune {channel : BitVec 32} (waits : Waits config false commands)
    (inForce : InForce config commands channel) :
    Waits config false (commands ++ [Command.tune channel]) := by
  induction commands generalizing config with
  | nil => exact ⟨fun _ => inForce, trivial⟩
  | cons command rest ih =>
      cases command with
      | tune other => exact ⟨waits.1, ih waits.2 inForce⟩
      | cancel => exact @waits_cancelled config rest channel waits
      | _ => exact ih waits inForce

end Waits

section Frequencies

variable {config : BandConfig}

theorem inBand_of_aligned {event : Tuned} (within : event.config.Within event.channel)
    (same : ∀ freq ∈ event.tunedTo, freq = event.channel)
    (aligned : event.tunedTo ≠ none → LimitRun.Aligned event.config) : event.InBand := by
  refine ⟨within, fun freq tuned => ?_⟩
  obtain ⟨begins, bounded⟩ := aligned (fun none => by rw [none] at tuned; cases tuned)
  rw [same freq tuned]
  exact chipFreq_within within begins bounded

theorem around_within {freq : BitVec 32} (ordered : config.lowerLimit ≤ config.upperLimit) :
    let turned := if config.upperLimit < freq then config.lowerLimit else freq
    config.Within (if turned < config.lowerLimit then config.upperLimit else turned) := by
  intro turned
  by_cases above : config.upperLimit < freq
  · rw [show turned = config.lowerLimit from if_pos above, if_neg (BitVec.lt_irrefl _)]
    exact ⟨Nat.le_refl _, ordered⟩
  · rw [show turned = freq from if_neg above]
    split
    · exact ⟨ordered, Nat.le_refl _⟩
    · rename_i inside
      exact ⟨BitVec.not_lt.mp inside, BitVec.not_lt.mp above⟩

/-- A step goes around the ends of the band. -/
theorem stepFreq_within {hal : Hal} {dir : Direction}
    (ordered : hal.config.lowerLimit ≤ hal.config.upperLimit) :
    hal.config.Within (hal.stepFreq dir) := by
  cases dir with
  | up => exact around_within ordered
  | down => exact around_within ordered

theorem tunedTo_eq {freq tuned : BitVec 32} {ret : Int}
    (member : tuned ∈ Hal.tunedTo freq ret) : tuned = freq ∧ ret = 0 := by
  rw [Hal.tunedTo] at member
  split at member
  · exact ⟨(Option.some.inj member).symm, by assumption⟩
  · cases member

theorem tunedTo_ne {freq : BitVec 32} {ret : Int} (some : Hal.tunedTo freq ret ≠ none) :
    ret = 0 := by
  obtain ⟨tuned, member⟩ := Option.ne_none_iff_exists'.mp some
  exact (tunedTo_eq member).2

/-- The event of a command that fits its configuration is in its band. -/
theorem execute_inBand {hal t : Hal} {command : Command} {probe : Nat → Probe} {ret : Int}
    {event : Tuned} (fits : LimitRun.Fits hal.config hal.channel ret command)
    (accepted : ∀ channel, command = .tune channel → hal.config.Within channel)
    (done : hal.execute command probe ret = some (t, some event)) : event.InBand := by
  cases command with
  | step dir =>
      obtain ⟨ordered, channel⟩ := fits
      have within := @stepFreq_within hal dir ordered
      have reported : hal.runStep dir ret = (t, some event) := Option.some.inj done
      unfold Hal.runStep at reported
      dsimp only at reported
      by_cases tuned : ret = 0
      · rw [if_pos tuned] at reported channel
        cases reported
        exact inBand_of_aligned within (fun _ member => (tunedTo_eq member).1) fun _ => channel
      · rw [if_neg tuned] at reported channel
        cases reported
        refine ⟨channel, fun freq member => absurd (tunedTo_eq member).2 tuned⟩
  | seek dir =>
      obtain ⟨ordered, aligned, step, room⟩ := fits
      rw [Hal.execute] at done
      split at done
      · cases done
      · have reported : hal.runSeek dir probe ret = (t, some event) := Option.some.inj done
        cases reported
        exact inBand_of_aligned (BandConfig.seek_within ordered step room)
          (fun _ member => (tunedTo_eq member).1) fun some => aligned (tunedTo_ne some)
  | tune channel =>
      have within := accepted channel rfl
      have reported : hal.runTune channel ret = (t, some event) := Option.some.inj done
      cases reported
      refine ⟨within, fun freq member => ?_⟩
      obtain ⟨same, tuned⟩ := tunedTo_eq member
      rw [same]
      exact ⟨fits tuned, Nat.le_trans (chipFreq_le channel) within.2⟩
  | exit => cases done
  | config config => cases done
  | cancel => cases done
  | checkRds => cases done
  | showRds => cases done

end Frequencies

section Left

/-- What a command that is executed leaves of the list, when the tunes behind it wait. -/
theorem execute_waits {hal t : Hal} {command : Command} {probe : Nat → Probe} {ret : Int}
    {event : Option Tuned} {gotCancel : Bool} (thread : hal.thread = .walking gotCancel)
    (waits : Waits hal.config gotCancel (command :: hal.commandList))
    (done : hal.execute command probe ret = some (t, event)) :
    t.thread = .exited ∨
      ∃ met, t.thread = .walking met ∧ Waits t.config met t.commandList := by
  have check : Waits hal.config gotCancel hal.commandList →
      ∀ after : Hal, after.config = hal.config → after.thread = hal.thread →
        (after.commandList = hal.commandList ∨
          after.commandList = hal.commandList ++ [Command.checkRds]) →
        ∃ met, after.thread = .walking met ∧ Waits after.config met after.commandList := by
    intro waits after config same list
    refine ⟨gotCancel, same.trans thread, ?_⟩
    rw [config]
    cases list with
    | inl same =>
        rw [same]
        exact waits
    | inr added =>
        rw [added]
        exact waits_append waits fun _ _ => trivial
  have reported : ∀ (before : Hal) (tuned : Option (BitVec 32)),
      before.reported tuned = (t, event) → before.config = hal.config →
      before.commandList = hal.commandList → before.thread = hal.thread →
      Waits hal.config gotCancel hal.commandList →
        ∃ met, t.thread = .walking met ∧ Waits t.config met t.commandList := by
    intro before tuned reported config list same waits
    obtain ⟨left, still⟩ := Hal.reported_cases reported list same
    have kept : t.config = hal.config := by
      cases tuned with
      | none =>
          cases reported
          exact config
      | some freq =>
          cases reported
          exact config
    exact check waits t kept still left
  cases command with
  | step dir =>
      right
      have result : hal.runStep dir ret = (t, event) := Option.some.inj done
      unfold Hal.runStep at result
      dsimp only at result
      split at result
      · exact reported _ _ result rfl rfl rfl waits
      · exact reported _ _ result rfl rfl rfl waits
  | seek dir =>
      right
      rw [Hal.execute] at done
      split at done
      · cases done
      · have result : hal.runSeek dir probe ret = (t, event) := Option.some.inj done
        exact reported _ _ result rfl rfl rfl waits
  | tune channel =>
      right
      have result : hal.runTune channel ret = (t, event) := Option.some.inj done
      exact reported _ _ result rfl rfl rfl waits.2
  | exit =>
      cases done
      exact Or.inl rfl
  | config config =>
      cases done
      exact Or.inr ⟨gotCancel, thread, waits⟩
  | cancel =>
      cases done
      exact Or.inr ⟨true, rfl, waits⟩
  | checkRds =>
      cases done
      exact Or.inr (check waits hal rfl rfl (Or.inl rfl))
  | showRds =>
      cases done
      exact Or.inr (check waits hal rfl rfl (Or.inl rfl))

end Left

namespace LimitRun

/-- Whether the walk of the thread has met a cancel. -/
def gotCancel (thread : Thread) : Bool := decide (thread = .walking true)

theorem gotCancel_walking {met : Bool} : gotCancel (.walking met) = met := by
  cases met <;> rfl

structure Inv (s : LimitRun) : Prop where
  sound : s.Sound
  waits : s.hal.thread ≠ .exited →
    Waits s.hal.config (gotCancel s.hal.thread) s.hal.commandList

variable {s : LimitRun}

theorem inv_start (config : BandConfig) : (start config).Inv :=
  ⟨fun _ none => absurd none List.not_mem_nil, fun _ => trivial⟩

theorem inv_call {e : Hal.Event} {r : Hal × Option Taken} (inv : s.Inv) (meets : s.Meets e)
    (handled : s.hal.handle e = some r) (call : ∀ probe ret, e ≠ .thread probe ret) :
    (s.next r).Inv := by
  obtain ⟨free, none, thread, config, list⟩ := Hal.call_commandList handled call
  obtain ⟨t, taken⟩ := r
  have quiet : taken = Option.none := none
  subst quiet
  refine ⟨inv.sound, fun alive => ?_⟩
  show Waits t.config (gotCancel t.thread) t.commandList
  have before := inv.waits (fun exited => alive (thread.trans exited))
  have fresh : gotCancel s.hal.thread = false := by
    rw [Hal.lockFree] at free
    unfold gotCancel
    rw [decide_eq_false]
    intro walks
    rw [walks] at free
    cases free
  rw [fresh] at before
  rw [show t.thread = _ from thread, show t.config = _ from config, fresh]
  cases list with
  | inr silent =>
      rw [show t.commandList = _ from silent.2]
      exact waits_append before fun _ _ => trivial
  | inl added =>
      rw [show t.commandList = _ from added]
      cases e with
      | tune channel =>
          by_cases within : s.hal.config.Within channel
          · rw [show s.hal.requested (.tune channel) = [.tune channel] from if_pos within]
            exact waits_tune before (meets within)
          · rw [show s.hal.requested (.tune channel) = [] from if_neg within, List.append_nil]
            exact before
      | setConfiguration config =>
          cases config with
          | none =>
              rw [show s.hal.requested (.setConfiguration Option.none) = [] from rfl,
                List.append_nil]
              exact before
          | some config =>
              apply waits_append before
              intro c g
              by_cases reversed : config.upperLimit < config.lowerLimit
              · rw [show s.hal.requested (.setConfiguration (some config)) = [] from
                  if_pos reversed]
                trivial
              · rw [show s.hal.requested (.setConfiguration (some config)) =
                  [.cancel, .config config] from if_neg reversed]
                trivial
      | thread probe ret => exact absurd rfl (call probe ret)
      | _ => exact waits_append before fun _ _ => trivial

theorem turned_waits {hal : Hal} {rest : List Command} {met : Bool}
    (walks : hal.thread = .walking met) (waits : Waits hal.config met hal.commandList)
    (left : hal.commandList = rest ∨ hal.commandList = rest ++ [Command.checkRds]) :
    Waits (hal.turned rest).config (gotCancel (hal.turned rest).thread)
      (hal.turned rest).commandList := by
  rw [Hal.turned]
  split
  · rename_i over_
    show Waits hal.config false hal.commandList
    rw [over_.1] at left
    cases left with
    | inl none =>
        rw [none]
        trivial
    | inr check =>
        rw [check]
        trivial
  · show Waits hal.config (gotCancel hal.thread) hal.commandList
    rw [walks, gotCancel_walking]
    exact waits

/-- The thread goes to or comes from its wait, with no cancel met. -/
theorem inv_quiet {thread : Thread} (inv : s.Inv) (other : thread ≠ .walking true)
    (before : gotCancel s.hal.thread = false) (alive : s.hal.thread ≠ .exited) :
    (s.next ({ s.hal with thread := thread }, none)).Inv := by
  refine ⟨inv.sound, fun _ => ?_⟩
  show Waits s.hal.config (gotCancel thread) s.hal.commandList
  have waits := inv.waits alive
  rw [before] at waits
  rw [gotCancel, decide_eq_false other]
  exact waits

/-- A command that a cancel revokes is taken off the list. -/
theorem inv_revoked {command : Command} {rest : List Command} {met : Bool} (inv : s.Inv)
    (thread : s.hal.thread = .walking met) (waits : Waits s.hal.config met (command :: rest))
    (revoked : (met && command.pending) = true) :
    (s.next (Hal.turned { s.hal with commandList := rest } rest, some (.dropped command))).Inv := by
  refine ⟨inv.sound, fun _ => ?_⟩
  have behind : Waits s.hal.config met rest := by
    cases command with
    | tune channel => exact waits.2
    | step dir => exact waits
    | seek dir => exact waits
    | checkRds => exact waits
    | showRds => exact waits
    | _ =>
        rw [Bool.and_eq_true] at revoked
        cases revoked.2
  exact @turned_waits { s.hal with commandList := rest } rest met thread behind (Or.inl rfl)

/-- A command that fits its configuration is executed. -/
theorem inv_executed {command : Command} {rest : List Command} {met : Bool}
    {probe : Nat → Probe} {ret : Int} {t : Hal} {event : Option Tuned} (inv : s.Inv)
    (thread : s.hal.thread = .walking met) (waits : Waits s.hal.config met (command :: rest))
    (runs : (met && command.pending) = false)
    (fits : Fits s.hal.config s.hal.channel ret command)
    (done : Hal.execute { s.hal with commandList := rest } command probe ret = some (t, event)) :
    (s.next (t.turned rest, some (.executed command event))).Inv := by
  constructor
  · have accepted : ∀ channel, command = .tune channel → s.hal.config.Within channel := by
      intro channel same
      subst same
      apply waits.1
      rw [← Bool.and_true met]
      exact runs
    cases event with
    | none => exact inv.sound
    | some event =>
        intro other member
        cases List.mem_cons.mp member with
        | inl new =>
            rw [new]
            exact @execute_inBand { s.hal with commandList := rest } t command probe ret event
              fits accepted done
        | inr old => exact inv.sound other old
  · intro alive
    have left := (Hal.execute_cases done).1
    cases @execute_waits { s.hal with commandList := rest } t command probe ret event met
        thread waits done with
    | inl exited =>
        have still : (t.turned rest).thread = .exited := by
          rw [Hal.turned, if_neg (fun both => both.2 exited)]
          exact exited
        exact absurd still alive
    | inr walking =>
        obtain ⟨met, walks, waits⟩ := walking
        exact turned_waits walks waits left

theorem inv_thread {probe : Nat → Probe} {ret : Int} {r : Hal × Option Taken} (inv : s.Inv)
    (meets : s.Meets (.thread probe ret)) (moved : s.hal.advance probe ret = some r) :
    (s.next r).Inv := by
  unfold Hal.advance at moved
  split at moved
  · rename_i thread
    cases moved
    exact inv_quiet inv Thread.noConfusion (by rw [thread]; rfl) (by rw [thread]; simp)
  · rename_i thread
    split at moved
    · cases moved
      exact inv_quiet inv Thread.noConfusion (by rw [thread]; rfl) (by rw [thread]; simp)
    · cases moved
      exact inv_quiet inv (by simp) (by rw [thread]; rfl) (by rw [thread]; simp)
  · rename_i thread
    split at moved
    · cases moved
      exact inv_quiet inv Thread.noConfusion (by rw [thread]; rfl) (by rw [thread]; simp)
    · cases moved
      exact inv_quiet inv (by simp) (by rw [thread]; rfl) (by rw [thread]; simp)
  · rename_i met thread
    split at moved
    · rename_i empty
      cases moved
      refine ⟨inv.sound, fun _ => ?_⟩
      show Waits s.hal.config false s.hal.commandList
      rw [empty]
      trivial
    · rename_i command rest list
      have waits := inv.waits (by rw [thread]; simp)
      rw [thread, gotCancel_walking, list] at waits
      dsimp only at moved
      split at moved
      · rename_i revoked
        cases moved
        exact inv_revoked inv thread waits revoked
      · rename_i runs
        obtain ⟨⟨t, event⟩, done, same⟩ := Option.map_eq_some_iff.mp moved
        subst same
        have runs := eq_false_of_ne_true runs
        apply inv_executed inv thread waits runs _ done
        apply meets (met, command, rest) _ runs
        simp [Hal.ahead, thread, list]
  · cases moved

/-- The step lemma. -/
theorem meets_kept {e : Hal.Event} {t : LimitRun} (inv : s.Inv) (meets : s.Meets e)
    (taken : s.step e = some t) : t.Inv := by
  obtain ⟨r, handled, same⟩ := Option.map_eq_some_iff.mp taken
  subst same
  cases e with
  | thread probe ret => exact inv_thread inv meets handled
  | _ => exact inv_call inv meets handled fun _ _ => Hal.Event.noConfusion

end LimitRun

/-- Along a run of calls and commands that meet the condition the chip is left and the client told
in the band in force. -/
theorem limits_kept {config : BandConfig} {events : List Hal.Event}
    (meets : StepsMeet LimitRun.step LimitRun.Meets (.start config) events) :
    AllStates LimitRun.step LimitRun.Sound (.start config) events := by
  have all : AllStates LimitRun.step LimitRun.Inv (.start config) events :=
    allStates_of_stepsMeet (fun _ _ _ inv meets taken => LimitRun.meets_kept inv meets taken)
      (LimitRun.inv_start config) meets
  exact all.imp fun _ inv => inv.sound

/-- A tune, a step and a search in the band of the opening. -/
theorem limits_kept_fm :
    let turn : Hal.Event := .thread (fun _ => ⟨true, 40⟩) 0
    AllStates LimitRun.step LimitRun.Sound (.start ⟨87500, 108000, 100⟩)
      [turn, turn, turn, turn, .tune 98000, .step .up, .scan .down, turn, turn, turn, turn] := by
  intro turn
  exact limits_kept (by decide)

/-- An event out of its band ends a run that cannot be sound. -/
theorem LimitRun.not_all {config : BandConfig} {events : List Hal.Event} {event : Tuned}
    {others : List Tuned}
    (told : (exec LimitRun.step (.start config) events).map (fun s => s.events) =
      some (event :: others)) (outside : ¬ event.InBand) :
    ¬ AllStates LimitRun.step LimitRun.Sound (.start config) events := by
  intro all
  obtain ⟨s, run, told⟩ := Option.map_eq_some_iff.mp told
  have sound : s.Sound := all.last run
  apply outside
  apply sound
  rw [told]
  exact List.mem_cons_self

/-- A tune is accepted before the thread has come to the configuration of the opening; a step fails
behind a change of the band; a band does not begin at a frequency of the chip. -/
theorem not_limits_kept :
    let turn : Hal.Event := .thread (fun _ => ⟨false, 0⟩) 0
    ¬ AllStates LimitRun.step LimitRun.Sound (.start ⟨87500, 108000, 100⟩)
        [.tune 0, turn, turn, turn, turn] ∧
      ¬ AllStates LimitRun.step LimitRun.Sound (.start ⟨87500, 108000, 100⟩)
        [turn, turn, turn, turn, .tune 87500, turn, turn, turn, turn, turn,
          .setConfiguration (some ⟨87900, 107900, 200⟩), turn, turn, turn, turn, .step .up,
          turn, .thread (fun _ => ⟨false, 0⟩) (-1)] ∧
      ¬ AllStates LimitRun.step LimitRun.Sound (.start ⟨87550, 108000, 100⟩)
        [turn, turn, turn, turn, .tune 87550, turn, turn] := by
  intro turn
  refine ⟨?_, ?_, ?_⟩
  · have told : (exec LimitRun.step (.start ⟨87500, 108000, 100⟩)
        [.tune 0, turn, turn, turn, turn]).map (fun s => s.events) =
          some [⟨⟨87500, 108000, 100⟩, 0, some 0⟩] := by
      decide
    exact LimitRun.not_all told fun inBand => absurd inBand.1 (by decide)
  · have told : (exec LimitRun.step (.start ⟨87500, 108000, 100⟩)
        [turn, turn, turn, turn, .tune 87500, turn, turn, turn, turn, turn,
          .setConfiguration (some ⟨87900, 107900, 200⟩), turn, turn, turn, turn, .step .up,
          turn, .thread (fun _ => ⟨false, 0⟩) (-1)]).map (fun s => s.events) =
          some [⟨⟨87900, 107900, 200⟩, 87500, none⟩,
            ⟨⟨87500, 108000, 100⟩, 87500, some 87500⟩] := by
      decide
    exact LimitRun.not_all told fun inBand => absurd inBand.1 (by decide)
  · have told : (exec LimitRun.step (.start ⟨87550, 108000, 100⟩)
        [turn, turn, turn, turn, .tune 87550, turn, turn]).map (fun s => s.events) =
          some [⟨⟨87550, 108000, 100⟩, 87550, some 87550⟩] := by
      decide
    exact LimitRun.not_all told fun inBand => absurd (inBand.2 87550 rfl).1 (by decide)

end Connectivity.Tuner
