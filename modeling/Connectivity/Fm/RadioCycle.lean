import Connectivity.Fm.Radio
import Connectivity.Transition.Run
import Mathlib.Data.List.Chain

set_option autoImplicit false

/- The device, its power and the RDS thread along the runs of the service. -/
namespace Connectivity.Fm

open Transition

namespace Radio

variable (s : Radio)

/-- The device is open and powered exactly while the radio is enabled, is opened and closed in
turn, and there is one RDS thread at most, and one that is not joined. -/
structure Sound : Prop where
  device : s.opened = if s.mEnabled then [s.fd] else []
  power : s.powered = s.mEnabled
  inTurn : s.calls.IsChain (· ≠ ·)
  begins : s.calls.getLast? ≠ some .closes
  single : s.running.length ≤ 1
  joined : s.unjoined.length ≤ 1

/-- A device that opens shows the configured chip, or the close behind it fails; a power-down
succeeds; no client dies while the radio is enabled. -/
def Meets : Event → Prop
  | .enable driver =>
      s.mEnabled = false → driver.device ≠ none →
        if s.cfg.chip = chipId driver then driver.chipRet = 0 else driver.close ≠ 0
  | .disable power _ => s.mEnabled = true → power = 0
  | .death => s.mEnabled = false
  | _ => True

instance : (e : Event) → Decidable (s.Meets e)
  | .enable _ => inferInstanceAs (Decidable (_ → _))
  | .disable _ _ => inferInstanceAs (Decidable (_ → _))
  | .join => inferInstanceAs (Decidable True)
  | .death => inferInstanceAs (Decidable (_ = _))
  | .setRdsOnOff _ _ => inferInstanceAs (Decidable True)
  | .setRegion _ => inferInstanceAs (Decidable True)
  | .rds _ => inferInstanceAs (Decidable True)

/-- The last call of the device tells whether the radio is enabled; the thread that may run is the
one that is not joined, and there is none between a `disable` and the next `enable`. -/
structure Inv : Prop where
  sound : s.Sound
  index : 0 ≤ s.mFmFd
  last : s.calls.head? = some .opens ↔ s.mEnabled = true
  calm : s.mEnabled = true → s.disabling = none
  owner : s.unjoined = if s.mEnabled ∨ s.disabling ≠ none then [s.mRdsThread] else []
  runs : s.running.map Prod.fst = [] ∨ s.running.map Prod.fst = s.unjoined

theorem inv_construct (custom : CustCfg) : (construct custom).Inv := by
  refine ⟨⟨rfl, rfl, List.IsChain.nil, ?_, Nat.zero_le _, Nat.zero_le _⟩, Int.le_refl 0, ?_, ?_,
    ?_, Or.inl rfl⟩
  · intro closes
    cases closes
  · refine iff_of_false (fun opens => ?_) Bool.false_ne_true
    cases opens
  · exact fun _ => rfl
  · rfl

variable {s}

theorem enable_eq {driver : Driver} (index : 0 ≤ s.mFmFd) :
    s.enable driver = if s.mEnabled then (s, .ok) else s.powerOn driver := by
  have taken : ¬ s.mFmFd < 0 := by omega
  rw [enable, if_neg taken]
  exact if_neg taken

section Idle

variable {driver : Driver} {fd : Int}

theorem openDev_other (idle : s.opened = []) (device : driver.device = some fd)
    (other : s.cfg.chip ≠ chipId driver) :
    s.openDev driver =
      ({ s with fd := fd, opened := [], calls := .closes :: .opens :: s.calls },
        driver.close) := by
  unfold openDev
  rw [device]
  dsimp only
  rw [if_pos other, closeDev, idle]
  simp

theorem openDev_same (idle : s.opened = []) (device : driver.device = some fd)
    (same : s.cfg.chip = chipId driver) :
    s.openDev driver =
      ({ s with fd := fd, opened := [fd], calls := .opens :: s.calls }, driver.chipRet) := by
  unfold openDev
  rw [device]
  dsimp only
  rw [if_neg (not_not.mpr same), idle]

/-- A power-up through the open descriptor, or the close behind one that fails. -/
theorem powerUp_cases {t : Radio} {power close : Int} (opened : t.opened = [t.fd]) :
    ((t.pwrUp 8755 power).2 = 0 ∧ (t.pwrUp 8755 power).1 = { t with powered := true }) ∨
      ((t.pwrUp 8755 power).2 ≠ 0 ∧ ((t.pwrUp 8755 power).1.closeDev close).1 =
        { t with opened := [], calls := .closes :: t.calls }) := by
  by_cases up : (t.pwrUp 8755 power).2 = 0
  · exact Or.inl ⟨up, if_pos up⟩
  · have still : (t.pwrUp 8755 power).1 = t := if_neg up
    have erased : t.opened.erase t.fd = [] := by simp [opened]
    refine Or.inr ⟨up, ?_⟩
    rw [still, closeDev, erased]

/-- What `enable` comes to from a closed device when the driver keeps to its part. -/
theorem powerOn_cases (idle : s.opened = [])
    (meets : driver.device ≠ none →
      if s.cfg.chip = chipId driver then driver.chipRet = 0 else driver.close ≠ 0) :
    (s.powerOn driver).1 = { s with fd := -1 } ∨
      (∃ fd, (s.powerOn driver).1 =
        { s with fd := fd, opened := [], calls := .closes :: .opens :: s.calls }) ∨
      (∃ fd, (s.powerOn driver).1 = { s with
        fd := fd, opened := [fd], powered := true, calls := .opens :: s.calls }.started) := by
  cases device : driver.device with
  | none =>
      left
      have failed : s.openDev driver = ({ s with fd := -1 }, -errInvalidFd) := by
        unfold openDev
        rw [device]
      rw [powerOn, failed]
      rfl
  | some fd =>
      right
      have condition := meets (by rw [device]; simp)
      by_cases same : s.cfg.chip = chipId driver
      · rw [if_pos same] at condition
        have opened := openDev_same idle device same
        rw [condition] at opened
        rw [powerOn, opened, if_neg (not_not.mpr rfl)]
        cases @powerUp_cases { s with fd := fd, opened := [fd], calls := .opens :: s.calls }
            driver.power driver.close rfl with
        | inl up =>
            right
            refine ⟨fd, ?_⟩
            rw [if_neg (not_not.mpr up.1), up.2]
        | inr failed =>
            left
            refine ⟨fd, ?_⟩
            rw [if_pos failed.1, failed.2]
      · rw [if_neg same] at condition
        left
        refine ⟨fd, ?_⟩
        rw [powerOn, openDev_other idle device same, if_pos condition]

end Idle

section Kept

/-- A device that is open goes on from the calls before. -/
theorem begins_opens {calls : List DevCall} (begins : calls.getLast? ≠ some .closes) :
    (DevCall.opens :: calls).getLast? ≠ some .closes := by
  cases calls with
  | nil => decide
  | cons call rest =>
      rw [List.getLast?_cons_cons]
      exact begins

theorem begins_closes {calls : List DevCall} (begins : calls.getLast? ≠ some .closes)
    (last : calls.head? = some .opens) : (DevCall.closes :: calls).getLast? ≠ some .closes := by
  obtain ⟨rest, rfl⟩ := List.head?_eq_some_iff.mp last
  rw [List.getLast?_cons_cons]
  exact begins

/-- What an idle service has, between a `disable` that has returned and the next `enable`. -/
theorem idle_of_inv (inv : s.Inv) (idle : s.mEnabled = false) (returned : s.disabling = none) :
    s.opened = [] ∧ s.powered = false ∧ s.unjoined = [] ∧ s.running = [] ∧
      s.calls.head? ≠ some .opens := by
  have opened := inv.sound.device
  have power := inv.sound.power
  have owner := inv.owner
  have neither : ¬ (s.mEnabled = true ∨ s.disabling ≠ none) := by
    rw [idle, returned]
    simp
  rw [idle, if_neg Bool.false_ne_true] at opened
  rw [idle] at power
  rw [if_neg neither] at owner
  have running : s.running.map Prod.fst = [] := by
    cases inv.runs with
    | inl none => exact none
    | inr same => rw [same, owner]
  refine ⟨opened, power, owner, List.map_eq_nil_iff.mp running, fun last => ?_⟩
  have enabled := inv.last.mp last
  rw [idle] at enabled
  cases enabled

theorem inv_enable {driver : Driver} (inv : s.Inv) (meets : s.Meets (.enable driver))
    (returned : s.disabling = none) : (s.enable driver).1.Inv := by
  rw [enable_eq inv.index]
  cases enabled : s.mEnabled with
  | true => exact inv
  | false =>
      obtain ⟨opened, power, unjoined, running, last⟩ := idle_of_inv inv enabled returned
      have inTurn := inv.sound.inTurn
      have begins := begins_opens inv.sound.begins
      have turn : (DevCall.opens :: s.calls).IsChain (· ≠ ·) := by
        rw [List.isChain_cons]
        refine ⟨fun call first same => ?_, inTurn⟩
        subst same
        exact last first
      show (s.powerOn driver).1.Inv
      rcases powerOn_cases opened (meets enabled) with none | ⟨fd, closed⟩ | ⟨fd, on⟩
      · rw [none]
        have device : s.opened = if s.mEnabled then [-1] else [] := by
          rw [enabled]
          exact opened
        exact ⟨⟨device, inv.sound.power, inTurn, inv.sound.begins, inv.sound.single,
          inv.sound.joined⟩, inv.index, inv.last, inv.calm, inv.owner, inv.runs⟩
      · rw [closed]
        have device : [] = if s.mEnabled then [fd] else [] := by
          rw [enabled]
          rfl
        have twice : (DevCall.closes :: .opens :: s.calls).IsChain (· ≠ ·) :=
          List.isChain_cons_cons.mpr ⟨by decide, turn⟩
        refine ⟨⟨device, inv.sound.power, twice, begins_closes begins rfl, inv.sound.single,
          inv.sound.joined⟩, inv.index, ?_, inv.calm, inv.owner, inv.runs⟩
        refine iff_of_false (by simp) ?_
        show s.mEnabled ≠ true
        rw [enabled]
        exact Bool.false_ne_true
      · rw [on]
        have owner : s.created :: s.unjoined = [s.created] := by
          rw [unjoined]
        have runs : (s.running ++ [(s.created, RdsPlace.top)]).map Prod.fst = [s.created] := by
          rw [running]
          rfl
        have single : (s.running ++ [(s.created, RdsPlace.top)]).length ≤ 1 := by
          rw [running]
          exact Nat.le_refl 1
        have joined : (s.created :: s.unjoined).length ≤ 1 := by
          rw [owner]
          exact Nat.le_refl 1
        exact ⟨⟨rfl, rfl, turn, begins, single, joined⟩, inv.index, iff_of_true rfl rfl,
          fun _ => returned, owner, Or.inr (runs.trans owner.symm)⟩

theorem inv_disable {power close : Int} (inv : s.Inv) (meets : s.Meets (.disable power close)) :
    (s.disable power close).Inv := by
  cases enabled : s.mEnabled with
  | false =>
      rw [disable, enabled]
      exact inv
  | true =>
      have down : power = 0 := meets enabled
      have opened := inv.sound.device
      rw [enabled, if_pos rfl] at opened
      have member : s.fd ∈ s.opened := by
        rw [opened]
        exact List.mem_singleton_self s.fd
      have erased : s.opened.erase s.fd = [] := by simp [opened]
      have powered : s.pwrDown power = ({ s with powered := false }, 0) := by
        simp only [pwrDown, if_pos member, down, if_pos]
      have last := inv.last.mpr enabled
      have turn : (DevCall.closes :: s.calls).IsChain (· ≠ ·) := by
        rw [List.isChain_cons]
        refine ⟨fun call first same => ?_, inv.sound.inTurn⟩
        have opens : call = .opens := Option.some.inj (first.symm.trans last)
        rw [opens] at same
        cases same
      have owner := inv.owner
      rw [if_pos (Or.inl enabled)] at owner
      rw [disable, if_pos enabled, powered]
      refine ⟨⟨?_, rfl, turn, begins_closes inv.sound.begins last, inv.sound.single,
        inv.sound.joined⟩, inv.index, ?_, ?_, ?_, inv.runs⟩
      · exact erased
      · exact iff_of_false (by simp [closeDev]) Bool.false_ne_true
      · intro other
        cases other
      · rw [if_pos (Or.inr (by simp))]
        exact owner

theorem inv_joined (inv : s.Inv) (waits : s.disabling ≠ none)
    (exited : s.mRdsThread ∉ s.running.map Prod.fst) : s.joined.Inv := by
  have owner := inv.owner
  rw [if_pos (Or.inr waits)] at owner
  have idle : s.mEnabled = false := by
    cases enabled : s.mEnabled with
    | true => exact absurd (inv.calm enabled) waits
    | false => rfl
  have none : s.unjoined.erase s.mRdsThread = [] := by
    rw [owner]
    simp
  have running : s.running.map Prod.fst = [] := by
    cases inv.runs with
    | inl none => exact none
    | inr same =>
        rw [same, owner] at exited
        exact absurd (List.mem_singleton_self _) exited
  have joined : (s.unjoined.erase s.mRdsThread).length ≤ 1 := by
    rw [none]
    exact Nat.zero_le 1
  refine ⟨⟨inv.sound.device, inv.sound.power, inv.sound.inTurn, inv.sound.begins,
    inv.sound.single, joined⟩, inv.index, inv.last, fun _ => rfl, ?_, Or.inl running⟩
  show s.unjoined.erase s.mRdsThread = if s.mEnabled ∨ Option.none ≠ Option.none then _ else []
  rw [none, idle]
  simp

theorem inv_death (inv : s.Inv) (idle : s.mEnabled = false) : s.handleHidlDeath.Inv := by
  have same : s.handleHidlDeath = s := by
    rw [handleHidlDeath, ← idle]
  rw [same]
  exact inv

theorem inv_setRdsOnOff {onOff : BitVec 32} {driver : Int} (inv : s.Inv) :
    (s.setRdsOnOff onOff driver).1.Inv := by
  have other : ∀ mRdsOn, { s with mRdsOn := mRdsOn }.Inv := fun _ =>
    ⟨⟨inv.sound.device, inv.sound.power, inv.sound.inTurn, inv.sound.begins, inv.sound.single,
      inv.sound.joined⟩, inv.index, inv.last, inv.calm, inv.owner, inv.runs⟩
  rw [setRdsOnOff]
  split
  · exact inv
  · split
    · split
      · exact other false
      · exact inv
    · split
      · split
        · exact other true
        · exact inv
      · exact inv

/-- What an RDS thread does moves it or ends it, and nothing else. -/
theorem inv_running {running : List (Nat × RdsPlace)} (inv : s.Inv)
    (fewer : running.length ≤ s.running.length)
    (runs : running.map Prod.fst = [] ∨ running.map Prod.fst = s.running.map Prod.fst) :
    { s with running := running }.Inv := by
  refine ⟨⟨inv.sound.device, inv.sound.power, inv.sound.inTurn, inv.sound.begins,
    Nat.le_trans fewer inv.sound.single, inv.sound.joined⟩, inv.index, inv.last, inv.calm,
    inv.owner, ?_⟩
  cases runs with
  | inl none => exact Or.inl none
  | inr same =>
      show running.map Prod.fst = [] ∨ running.map Prod.fst = s.unjoined
      rw [same]
      exact inv.runs

theorem inv_rds {i : Nat} {t : Radio} (inv : s.Inv) (taken : s.rdsStep i = some t) : t.Inv := by
  obtain ⟨thread, at_i, same⟩ := Option.map_eq_some_iff.mp taken
  subst same
  obtain ⟨within, at_i⟩ := List.getElem?_eq_some_iff.mp at_i
  split
  · rename_i place _
    apply inv_running inv (Nat.le_of_eq List.length_set)
    right
    apply List.ext_getElem
    · simp
    · intro j _ _
      rw [List.getElem_map, List.getElem_map, List.getElem_set]
      split
      · rename_i here
        subst here
        rw [at_i]
      · rfl
  · have single := inv.sound.single
    have one : (s.running.eraseIdx i).length = 0 := by
      rw [List.length_eraseIdx_of_lt within]
      omega
    have none := List.eq_nil_of_length_eq_zero one
    rw [none]
    exact inv_running inv (Nat.zero_le _) (Or.inl rfl)

/-- The step lemma. -/
theorem meets_kept {e : Event} {t : Radio} (inv : s.Inv) (meets : s.Meets e)
    (taken : s.step e = some t) : t.Inv := by
  cases e with
  | enable driver =>
      obtain ⟨condition, same⟩ := Option.ite_none_right_eq_some.mp taken
      cases same
      exact inv_enable inv meets condition.1
  | disable power close =>
      obtain ⟨_, same⟩ := Option.ite_none_right_eq_some.mp taken
      cases same
      exact inv_disable inv meets
  | join =>
      obtain ⟨condition, same⟩ := Option.ite_none_right_eq_some.mp taken
      cases same
      exact inv_joined inv condition.1 condition.2
  | death =>
      cases taken
      exact inv_death inv meets
  | setRdsOnOff onOff driver =>
      obtain ⟨_, same⟩ := Option.ite_none_right_eq_some.mp taken
      cases same
      exact inv_setRdsOnOff inv
  | setRegion band =>
      obtain ⟨_, same⟩ := Option.ite_none_right_eq_some.mp taken
      cases same
      exact ⟨⟨inv.sound.device, inv.sound.power, inv.sound.inTurn, inv.sound.begins,
        inv.sound.single, inv.sound.joined⟩, inv.index, inv.last, inv.calm, inv.owner, inv.runs⟩
  | rds i => exact inv_rds inv taken

end Kept

section Broken

/-- A device that answers for its chip though the chip could not be read is left open; one of
another chip that closes is closed a second time. -/
theorem broken_enable {driver : Driver} (inv : s.Inv) (missed : ¬ s.Meets (.enable driver))
    (returned : s.disabling = none) : ¬ (s.enable driver).1.Sound := by
  obtain ⟨idle, missed⟩ := Classical.not_imp.mp missed
  obtain ⟨device, missed⟩ := Classical.not_imp.mp missed
  obtain ⟨fd, device⟩ := Option.ne_none_iff_exists'.mp device
  obtain ⟨opened, _, _, _, _⟩ := idle_of_inv inv idle returned
  rw [enable_eq inv.index, if_neg (by rw [idle]; exact Bool.false_ne_true)]
  intro sound
  by_cases same : s.cfg.chip = chipId driver
  · rw [if_pos same] at missed
    rw [powerOn, openDev_same opened device same, if_pos missed] at sound
    have left : [fd] = if s.mEnabled then [fd] else [] := sound.device
    rw [idle] at left
    cases left
  · rw [if_neg same, not_not] at missed
    have again := openDev_other opened device same
    rw [missed] at again
    have ret : ∀ t : Radio, t.opened = [] → (t.pwrUp 8755 driver.power).2 ≠ 0 ∧
        (t.pwrUp 8755 driver.power).1 = t := by
      intro t closed
      have absent : t.fd ∉ t.opened := by
        rw [closed]
        exact List.not_mem_nil
      have failed : (t.pwrUp 8755 driver.power).2 ≠ 0 := by
        show t.cfg.pwrUp 8755 (if t.fd ∈ t.opened then driver.power else -1) ≠ 0
        rw [if_neg absent, CustCfg.pwrUp]
        split <;> decide
      exact ⟨failed, if_neg failed⟩
    obtain ⟨failed, still⟩ := ret
      { s with fd := fd, opened := [], calls := .closes :: .opens :: s.calls } rfl
    rw [powerOn, again, if_neg (not_not.mpr rfl), if_pos failed, still] at sound
    have twice : (DevCall.closes :: .closes :: .opens :: s.calls).IsChain (· ≠ ·) := sound.inTurn
    exact (List.isChain_cons_cons.mp twice).1 rfl

theorem broken_disable {power close : Int} (inv : s.Inv)
    (missed : ¬ s.Meets (.disable power close)) : ¬ (s.disable power close).Sound := by
  obtain ⟨enabled, failed⟩ := Classical.not_imp.mp missed
  intro sound
  have opened := inv.sound.device
  rw [enabled, if_pos rfl] at opened
  have member : s.fd ∈ s.opened := by
    rw [opened]
    exact List.mem_singleton_self s.fd
  have still : (s.pwrDown power).1 = s := by
    simp only [pwrDown, if_pos member, if_neg failed]
  rw [disable, if_pos enabled, still] at sound
  have power : s.powered = false := sound.power
  rw [inv.sound.power, enabled] at power
  cases power

theorem broken_death (inv : s.Inv) (missed : ¬ s.Meets .death) : ¬ s.handleHidlDeath.Sound := by
  intro sound
  have enabled : s.mEnabled = true := eq_true_of_ne_false missed
  have power : s.powered = false := sound.power
  rw [inv.sound.power, enabled] at power
  cases power

theorem missed_broken {e : Event} {t : Radio} (inv : s.Inv) (missed : ¬ s.Meets e)
    (taken : s.step e = some t) : ¬ t.Sound := by
  cases e with
  | enable driver =>
      obtain ⟨condition, same⟩ := Option.ite_none_right_eq_some.mp taken
      cases same
      exact broken_enable inv missed condition.1
  | disable power close =>
      obtain ⟨_, same⟩ := Option.ite_none_right_eq_some.mp taken
      cases same
      exact broken_disable inv missed
  | death =>
      cases taken
      exact broken_death inv missed
  | _ => exact absurd trivial missed

end Broken

end Radio

/-- Along a run the device, its power and the RDS thread go with the radio exactly if devices show
their chip, power-downs succeed and no client dies while the radio is enabled. -/
theorem radio_sound_iff (custom : CustCfg) (events : List Radio.Event) :
    AllStates Radio.step Radio.Sound (.construct custom) events ↔
      StepsMeet Radio.step Radio.Meets (.construct custom) events := by
  apply @allStates_iff_stepsMeet _ _ _ Radio.Inv
  case kept => exact fun _ _ _ inv meets taken => Radio.meets_kept inv meets taken
  case enough => exact fun _ inv => inv.sound
  case broken => exact fun _ _ _ inv missed taken => Radio.missed_broken inv missed taken
  case start => exact Radio.inv_construct custom

/-- A client dies and the radio is enabled again; a device shows another chip; a power-down
fails. -/
theorem not_radio_sound :
    let custom : CustCfg := {
      chip := 0x6627
      band := .ue
      lowBand := 8750
      highBand := 10800
      lowBandCust := 0
      highBandCust := 0 }
    let driver : Driver := {
      device := some 5
      chipRet := 0
      chip := 0x6627
      power := 0
      close := 0 }
    ¬ AllStates Radio.step Radio.Sound (.construct custom)
        [.enable driver, .rds 0, .death, .enable { driver with device := some 6 }] ∧
      ¬ AllStates Radio.step Radio.Sound (.construct custom)
        [.enable { driver with chip := 0x6631 }] ∧
      ¬ AllStates Radio.step Radio.Sound (.construct custom)
        [.enable driver, .disable (-1) 0] := by
  intro custom driver
  refine ⟨fun all => ?_, fun all => ?_, fun all => ?_⟩
  · have threads : (exec Radio.step (.construct custom)
        [.enable driver, .rds 0, .death, .enable { driver with device := some 6 }]).map
          (fun s => s.running.length) = some 2 := by
      decide
    obtain ⟨s, run, threads⟩ := Option.map_eq_some_iff.mp threads
    have sound : s.Sound := all.last run
    have single := sound.single
    omega
  · have calls : (exec Radio.step (.construct custom)
        [.enable { driver with chip := 0x6631 }]).map (fun s => s.calls) =
          some [.closes, .closes, .opens] := by
      decide
    obtain ⟨s, run, calls⟩ := Option.map_eq_some_iff.mp calls
    have sound : s.Sound := all.last run
    have inTurn := sound.inTurn
    rw [calls] at inTurn
    exact (List.isChain_cons_cons.mp inTurn).1 rfl
  · have power : (exec Radio.step (.construct custom)
        [.enable driver, .disable (-1) 0]).map (fun s => (s.powered, s.mEnabled)) =
          some (true, false) := by
      decide
    obtain ⟨s, run, power⟩ := Option.map_eq_some_iff.mp power
    have sound : s.Sound := all.last run
    have same := sound.power
    rw [Prod.mk.injEq] at power
    rw [power.1, power.2] at same
    cases same

end Connectivity.Fm
