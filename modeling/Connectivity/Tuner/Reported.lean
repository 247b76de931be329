import Connectivity.Tuner.Limits

set_option autoImplicit false

/- Whether the channel of a TUNED event is where the chip has been tuned to, and whether a step up
is taken back by a step down. -/
namespace Connectivity.Tuner

open Transition

/-- If the event says tuned, the chip is at its channel. -/
def Tuned.Reported (event : Tuned) : Prop :=
  ∀ freq ∈ event.tunedTo, chipFreq freq = event.channel.toNat

/-- A frequency that a number of 100 kHz in 16 bits can say. -/
def OnChip (freq : BitVec 32) : Prop := freq.toNat % 100 = 0 ∧ freq.toNat < 6553600

instance (freq : BitVec 32) : Decidable (OnChip freq) := inferInstanceAs (Decidable (_ ∧ _))

/-- The channel that a command goes to. -/
def Hal.target (s : Hal) (probe : Nat → Probe) : Command → Option (BitVec 32)
  | .step dir => some (s.stepFreq dir)
  | .seek dir => some (s.config.seek s.channel dir probe)
  | .tune channel => some channel
  | _ => none

namespace LimitRun

variable (s : LimitRun)

def Faithful : Prop := ∀ event ∈ s.events, event.Reported

/-- A command that is executed, and its tune successful, goes to a frequency of the chip. -/
def Targets : Hal.Event → Prop
  | .thread probe ret => ∀ ahead ∈ s.hal.ahead,
      (ahead.1 && ahead.2.1.pending) = false → ret = 0 →
        ∀ freq ∈ s.hal.target probe ahead.2.1, OnChip freq
  | _ => True

instance : (e : Hal.Event) → Decidable (s.Targets e)
  | .setConfiguration _ => inferInstanceAs (Decidable True)
  | .step _ => inferInstanceAs (Decidable True)
  | .scan _ => inferInstanceAs (Decidable True)
  | .tune _ => inferInstanceAs (Decidable True)
  | .cancel => inferInstanceAs (Decidable True)
  | .rdsThread => inferInstanceAs (Decidable True)
  | .thread probe ret => inferInstanceAs (Decidable (∀ ahead ∈ s.hal.ahead,
      (ahead.1 && ahead.2.1.pending) = false → ret = 0 →
        ∀ freq ∈ s.hal.target probe ahead.2.1, OnChip freq))

end LimitRun

/-- The channel behind a step up and a step down, both of them successful. -/
def Hal.upAndDown (s : Hal) : BitVec 32 := ((s.runStep .up 0).1.runStep .down 0).1.channel

/-- A step up stays inside the limits; or it goes around the end of the band, and the channel is
the limit where the step down comes to: the upper one, unless the difference there leaves the 32
bits. -/
def BandConfig.Returns (config : BandConfig) (channel : BitVec 32) : Prop :=
  config.Within (channel + config.spacing) ∨
    (config.upperLimit < channel + config.spacing ∧
      ((config.spacing ≤ config.lowerLimit ∧ channel = config.upperLimit) ∨
        (config.lowerLimit < config.spacing ∧
          config.upperLimit < config.lowerLimit - config.spacing ∧
          channel = config.lowerLimit))) ∨
    (channel + config.spacing < config.lowerLimit ∧
      ((config.spacing ≤ config.upperLimit ∧
          config.upperLimit - config.spacing < config.lowerLimit ∧
          channel = config.upperLimit) ∨
        (config.upperLimit < config.spacing ∧ channel = config.lowerLimit)))

instance (config : BandConfig) (channel : BitVec 32) : Decidable (config.Returns channel) :=
  inferInstanceAs (Decidable (_ ∨ _))

theorem chipFreq_eq_iff {freq : BitVec 32} : chipFreq freq = freq.toNat ↔ OnChip freq := by
  rw [chipFreq, OnChip]
  constructor
  · intro same
    omega
  · rintro ⟨whole, bounded⟩
    omega

section Commands

variable {hal t : Hal} {command : Command} {probe : Nat → Probe} {ret : Int}

theorem reported_event {before : Hal} {tunedTo : Option (BitVec 32)} {event : Tuned}
    (reported : before.reported tunedTo = (t, some event)) :
    event.tunedTo = tunedTo ∧ event.channel = before.channel := by
  cases reported
  exact ⟨rfl, rfl⟩

/-- The event of a command: it says tuned if the tune to its target was successful, and then
reports the target. -/
theorem executed_event {event : Tuned}
    (done : hal.execute command probe ret = some (t, some event)) :
    ∃ freq, hal.target probe command = some freq ∧ event.tunedTo = Hal.tunedTo freq ret ∧
      (ret = 0 → event.channel = freq) := by
  cases command with
  | step dir =>
      have result : hal.runStep dir ret = (t, some event) := Option.some.inj done
      unfold Hal.runStep at result
      dsimp only at result
      obtain ⟨tuned, channel⟩ := reported_event result
      refine ⟨hal.stepFreq dir, rfl, tuned, fun success => ?_⟩
      rw [channel, if_pos success]
  | seek dir =>
      rw [Hal.execute] at done
      split at done
      · cases done
      · have result : hal.runSeek dir probe ret = (t, some event) := Option.some.inj done
        obtain ⟨tuned, channel⟩ := reported_event result
        exact ⟨_, rfl, tuned, fun _ => channel⟩
  | tune channel =>
      have result : hal.runTune channel ret = (t, some event) := Option.some.inj done
      obtain ⟨tuned, same⟩ := reported_event result
      exact ⟨channel, rfl, tuned, fun _ => same⟩
  | exit => cases done
  | config config => cases done
  | cancel => cases done
  | checkRds => cases done
  | showRds => cases done

/-- Only commands without a target have no event. -/
theorem executed_silent (done : hal.execute command probe ret = some (t, none)) :
    hal.target probe command = none := by
  cases command with
  | step dir =>
      have result : hal.runStep dir ret = (t, none) := Option.some.inj done
      unfold Hal.runStep at result
      dsimp only at result
      split at result <;> cases result
  | seek dir =>
      rw [Hal.execute] at done
      split at done <;> cases done
  | tune channel => cases done
  | exit => rfl
  | config config => rfl
  | cancel => rfl
  | checkRds => rfl
  | showRds => rfl

/-- An event reports the chip exactly if a successful command goes to a frequency of it. -/
theorem executed_reported_iff {event : Tuned}
    (done : hal.execute command probe ret = some (t, some event)) :
    event.Reported ↔ (ret = 0 → ∀ freq ∈ hal.target probe command, OnChip freq) := by
  obtain ⟨freq, target, tuned, channel⟩ := executed_event done
  rw [Tuned.Reported, target, tuned]
  by_cases success : ret = 0
  · rw [Hal.tunedTo, if_pos success, channel success]
    constructor
    · intro reported _ other same
      cases same
      exact chipFreq_eq_iff.mp (reported freq rfl)
    · intro onChip other same
      cases same
      exact chipFreq_eq_iff.mpr (onChip success freq rfl)
  · rw [Hal.tunedTo, if_neg success]
    constructor
    · intro _ same
      exact absurd same success
    · intro _ other none
      cases none

end Commands

namespace LimitRun

variable {s t : LimitRun}

/-- What a step adds to the events: nothing, for want of a target, or the event of the command that
is executed. -/
theorem step_events {e : Hal.Event} (taken : s.step e = some t) :
    (t.events = s.events ∧ ∀ probe ret, e = .thread probe ret → ∀ ahead ∈ s.hal.ahead,
        (ahead.1 && ahead.2.1.pending) = false → s.hal.target probe ahead.2.1 = none) ∨
      ∃ probe ret gotCancel command rest after event,
        e = .thread probe ret ∧ s.hal.ahead = some (gotCancel, command, rest) ∧
        (gotCancel && command.pending) = false ∧
        { s.hal with commandList := rest }.execute command probe ret = some (after, some event) ∧
        t.events = event :: s.events := by
  obtain ⟨r, handled, same⟩ := Option.map_eq_some_iff.mp taken
  subst same
  have calls : (∀ probe ret, e ≠ .thread probe ret) → (s.next r).events = s.events := by
    intro call
    have silent := (Hal.call_commandList handled call).2.1
    rw [next, silent]
  cases e with
  | thread probe ret =>
      have moved : s.hal.advance probe ret = some r := handled
      obtain ⟨after, taken⟩ := r
      cases Hal.advance_cases moved with
      | inl quiet =>
          obtain ⟨silent, _, _, none⟩ := quiet
          cases silent
          refine Or.inl ⟨rfl, fun _ _ _ ahead member => ?_⟩
          rw [none] at member
          cases member
      | inr walk =>
          obtain ⟨gotCancel, command, rest, thread, list, ahead, outcome⟩ := walk
          cases outcome with
          | inl dropped =>
              obtain ⟨revoked, silent, _⟩ := dropped
              cases silent
              refine Or.inl ⟨rfl, fun _ _ _ other member runs => ?_⟩
              rw [ahead] at member
              cases member
              rw [revoked] at runs
              cases runs
          | inr executed =>
              obtain ⟨runs, ⟨event, told⟩, _⟩ := executed
              unfold Hal.advance at moved
              rw [thread] at moved
              dsimp only at moved
              rw [list] at moved
              dsimp only at moved
              rw [if_neg (ne_true_of_eq_false runs)] at moved
              obtain ⟨⟨left, known⟩, done, same⟩ := Option.map_eq_some_iff.mp moved
              rw [← thread] at done
              cases same
              cases known with
              | none =>
                  refine Or.inl ⟨rfl, fun other _ same member ahead' runs' => ?_⟩
                  cases same
                  rw [ahead] at ahead'
                  cases ahead'
                  have none := executed_silent done
                  exact none
              | some event =>
                  exact Or.inr ⟨probe, ret, gotCancel, command, rest, left, event, rfl, ahead, runs,
                    done, rfl⟩
  | _ => exact Or.inl ⟨calls fun _ _ => Hal.Event.noConfusion, fun _ _ => Hal.Event.noConfusion⟩

/-- The step lemma. -/
theorem targets_kept {e : Hal.Event} (faithful : s.Faithful) (targets : s.Targets e)
    (taken : s.step e = some t) : t.Faithful := by
  intro event member
  cases step_events taken with
  | inl silent =>
      rw [silent.1] at member
      exact faithful event member
  | inr added =>
      obtain ⟨probe, ret, gotCancel, command, rest, after, told, same, ahead, runs, done, events⟩ :=
        added
      subst same
      rw [events] at member
      cases List.mem_cons.mp member with
      | inl new =>
          rw [new]
          exact (executed_reported_iff done).mpr (targets _ ahead runs)
      | inr old => exact faithful event old

theorem targets_missed {e : Hal.Event} (missed : ¬ s.Targets e) (taken : s.step e = some t) :
    ¬ t.Faithful := by
  intro faithful
  apply missed
  cases e with
  | thread probe ret =>
      intro before ahead runs success freq target
      cases step_events taken with
      | inl silent =>
          rw [silent.2 probe ret rfl before ahead runs] at target
          cases target
      | inr added =>
          obtain ⟨probe, ret, gotCancel, command, rest, after, told, same, found, _, done,
            events⟩ := added
          cases same
          have reported := faithful told (by rw [events]; exact List.mem_cons_self)
          rw [found] at ahead
          cases ahead
          exact (executed_reported_iff done).mp reported success freq target
  | _ => trivial

end LimitRun

section Steps

variable {config : BandConfig} {channel : BitVec 32}

/-- Around the ends of the band, as a step goes. -/
def BandConfig.around (config : BandConfig) (freq : BitVec 32) : BitVec 32 :=
  let freq := if config.upperLimit < freq then config.lowerLimit else freq
  if freq < config.lowerLimit then config.upperLimit else freq

theorem upAndDown_eq (hal : Hal) :
    hal.upAndDown =
      hal.config.around (hal.config.around (hal.channel + hal.config.spacing) -
        hal.config.spacing) := rfl

theorem around_within_eq {freq : BitVec 32} (within : config.Within freq) :
    config.around freq = freq := by
  unfold BandConfig.around
  dsimp only
  rw [if_neg (BitVec.not_lt.mpr within.2), if_neg (BitVec.not_lt.mpr within.1)]

theorem around_above {freq : BitVec 32}
    (above : config.upperLimit < freq) : config.around freq = config.lowerLimit := by
  unfold BandConfig.around
  dsimp only
  rw [if_pos above, if_neg (BitVec.lt_irrefl _)]

theorem around_below (ordered : config.lowerLimit ≤ config.upperLimit) {freq : BitVec 32}
    (below : freq < config.lowerLimit) : config.around freq = config.upperLimit := by
  unfold BandConfig.around
  dsimp only
  have notAbove : ¬ config.upperLimit < freq := by bv_omega
  rw [if_neg notAbove, if_pos below]

/-- Behind a step around the upper end. -/
theorem down_from_lower (within : config.Within channel)
    (above : config.upperLimit < channel + config.spacing) :
    config.around (config.lowerLimit - config.spacing) = channel ↔
      (config.spacing ≤ config.lowerLimit ∧ channel = config.upperLimit) ∨
        (config.lowerLimit < config.spacing ∧
          config.upperLimit < config.lowerLimit - config.spacing ∧
          channel = config.lowerLimit) := by
  obtain ⟨lower, upper⟩ := within
  have ordered : config.lowerLimit ≤ config.upperLimit := BitVec.le_trans lower upper
  by_cases small : config.spacing ≤ config.lowerLimit
  · have below : config.lowerLimit - config.spacing < config.lowerLimit := by bv_omega
    rw [around_below ordered below]
    constructor
    · intro same
      exact Or.inl ⟨small, same.symm⟩
    · intro returns
      bv_omega
  · by_cases beyond : config.upperLimit < config.lowerLimit - config.spacing
    · rw [around_above beyond]
      constructor
      · intro same
        exact Or.inr ⟨BitVec.not_le.mp small, beyond, same.symm⟩
      · intro returns
        bv_omega
    · have inside : config.Within (config.lowerLimit - config.spacing) := by
        constructor <;> bv_omega
      rw [around_within_eq inside]
      constructor
      · intro same
        bv_omega
      · intro returns
        bv_omega

/-- Behind a step whose sum has left the 32 bits. -/
theorem down_from_upper (within : config.Within channel)
    (below : channel + config.spacing < config.lowerLimit) :
    config.around (config.upperLimit - config.spacing) = channel ↔
      (config.spacing ≤ config.upperLimit ∧
          config.upperLimit - config.spacing < config.lowerLimit ∧
          channel = config.upperLimit) ∨
        (config.upperLimit < config.spacing ∧ channel = config.lowerLimit) := by
  obtain ⟨lower, upper⟩ := within
  have ordered : config.lowerLimit ≤ config.upperLimit := BitVec.le_trans lower upper
  by_cases small : config.spacing ≤ config.upperLimit
  · by_cases short : config.upperLimit - config.spacing < config.lowerLimit
    · rw [around_below ordered short]
      constructor
      · intro same
        exact Or.inl ⟨small, short, same.symm⟩
      · intro returns
        bv_omega
    · have inside : config.Within (config.upperLimit - config.spacing) := by
        constructor <;> bv_omega
      rw [around_within_eq inside]
      constructor
      · intro same
        bv_omega
      · intro returns
        bv_omega
  · have beyond : config.upperLimit < config.upperLimit - config.spacing := by bv_omega
    rw [around_above beyond]
    constructor
    · intro same
      exact Or.inr ⟨BitVec.not_le.mp small, same.symm⟩
    · intro returns
      bv_omega

/-- A step up is taken back by a step down exactly if the channel returns. -/
theorem upAndDown_iff {hal : Hal} (within : hal.config.Within hal.channel) :
    hal.upAndDown = hal.channel ↔ hal.config.Returns hal.channel := by
  have ordered : hal.config.lowerLimit ≤ hal.config.upperLimit :=
    BitVec.le_trans within.1 within.2
  rw [upAndDown_eq, BandConfig.Returns]
  by_cases inside : hal.config.Within (hal.channel + hal.config.spacing)
  · rw [around_within_eq inside, BitVec.add_sub_cancel, around_within_eq within]
    exact ⟨fun _ => Or.inl inside, fun _ => rfl⟩
  · by_cases above : hal.config.upperLimit < hal.channel + hal.config.spacing
    · have notBelow : ¬ hal.channel + hal.config.spacing < hal.config.lowerLimit := by bv_omega
      rw [around_above above, down_from_lower within above]
      simp only [inside, above, notBelow, true_and, false_and, false_or, or_false]
    · have below : hal.channel + hal.config.spacing < hal.config.lowerLimit := by
        by_contra other
        exact inside ⟨BitVec.not_lt.mp other, BitVec.not_lt.mp above⟩
      rw [around_below ordered below, down_from_upper within below]
      simp only [inside, above, below, true_and, false_and, false_or]

end Steps

/-- A TUNED event that says tuned reports the frequency of the chip exactly if the commands that
succeed go to multiples of 100 kHz that fit the chip; a step up is taken back by a step down exactly
if the channel returns. -/
theorem reported_tuned_iff (config : BandConfig) (events : List Hal.Event) :
    (AllStates LimitRun.step LimitRun.Faithful (.start config) events ↔
        StepsMeet LimitRun.step LimitRun.Targets (.start config) events) ∧
      ∀ hal : Hal, hal.config.Within hal.channel →
        (hal.upAndDown = hal.channel ↔ hal.config.Returns hal.channel) := by
  refine ⟨?_, fun _ => upAndDown_iff⟩
  apply @allStates_iff_stepsMeet _ _ _ LimitRun.Faithful
  case kept => exact fun _ _ _ faithful targets taken =>
    LimitRun.targets_kept faithful targets taken
  case enough => exact fun _ faithful => faithful
  case broken => exact fun _ _ _ _ missed taken => LimitRun.targets_missed missed taken
  case start => exact fun _ none => absurd none List.not_mem_nil

/-- A tune to a channel between two of the chip; a step up and down at the end of a band that its
spacing does not divide. -/
theorem not_reported_tuned :
    let turn : Hal.Event := .thread (fun _ => ⟨false, 0⟩) 0
    ¬ AllStates LimitRun.step LimitRun.Faithful (.start ⟨87500, 108000, 50⟩)
        [turn, turn, turn, turn, .tune 98050, turn, turn] ∧
      ¬ ∀ hal : Hal, hal.config.Within hal.channel → hal.upAndDown = hal.channel := by
  intro turn
  constructor
  · intro all
    have told : (exec LimitRun.step (.start ⟨87500, 108000, 50⟩)
        [turn, turn, turn, turn, .tune 98050, turn, turn]).map (fun s => s.events) =
          some [⟨⟨87500, 108000, 50⟩, 98050, some 98050⟩] := by decide
    obtain ⟨s, run, told⟩ := Option.map_eq_some_iff.mp told
    have faithful : s.Faithful := all.last run
    have member : (⟨⟨87500, 108000, 50⟩, 98050, some 98050⟩ : Tuned) ∈ s.events := by
      rw [told]
      exact List.mem_cons_self
    have same := faithful _ member 98050 rfl
    exact absurd same (by decide)
  · intro all
    have same := all ⟨[], ⟨87500, 108000, 200⟩, 107900, true, .walking false⟩ (by decide)
    exact absurd same (by decide)

end Connectivity.Tuner
