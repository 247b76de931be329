import Connectivity.WifiChip.Chip

set_option autoImplicit false

/- What holds of the Wi-Fi chip along every run of calls: its interfaces fit into its mode, its
clients know of them, and the objects it does not hold are invalid. -/
namespace Connectivity.WifiChip

open Choices Transition

section Fitting

theorem eq_of_mem_short {α : Type} {xs : List α} {x y : α} (short : xs.length ≤ 1) (first : x ∈ xs)
    (second : y ∈ xs) : x = y := by
  match xs, short with
  | [z], _ => rw [List.mem_singleton.mp first, List.mem_singleton.mp second]

variable {combination : IfaceCombination} {types others : List IfaceType}

theorem fits_of_count (fits : combination.Fits types)
    (fewer : ∀ type, others.count type ≤ types.count type) : combination.Fits others := by
  obtain ⟨choice, chosen, inside⟩ := fits
  refine ⟨choice, chosen, List.Subperm.trans ?_ inside⟩
  rw [List.subperm_ext_iff]
  exact fun type _ => fewer type

theorem countP_choice {slots : List (List IfaceType)} {choice : List IfaceType}
    (chosen : IsChoice slots choice) (p : IfaceType → Bool) :
    choice.countP p ≤ slots.countP fun slot => slot.any p := by
  induction chosen with
  | nil => exact Nat.le_refl 0
  | @cons type slot choice rest member chosen ih =>
      rw [List.countP_cons, List.countP_cons]
      apply Nat.add_le_add ih
      by_cases holds : p type = true
      · have any : slot.any p = true := List.any_eq_true.mpr ⟨type, member, holds⟩
        simp only [holds, any, if_true, Nat.le_refl]
      · simp only [holds, if_false, Nat.zero_le, Bool.false_eq_true]

/-- No more interfaces of a kind fit than there are slots for it. -/
theorem fits_countP (fits : combination.Fits types) (p : IfaceType → Bool) :
    types.countP p ≤ combination.slots.countP fun slot => slot.any p := by
  obtain ⟨choice, chosen, inside⟩ := fits
  exact Nat.le_trans (List.Subperm.countP_le p inside) (countP_choice chosen p)

end Fitting

section Modes

variable {flags : FeatureFlags} {mode : ChipMode} {combination : IfaceCombination}

/-- The combinations of the chip can be expanded. -/
theorem populateModes_sound : ∀ mode ∈ populateModes flags,
    ∀ combination ∈ mode.availableCombinations, combination.Sound := by
  obtain ⟨aware, dual, disabled⟩ := flags
  cases aware <;> cases dual <;> cases disabled <;> decide

/-- There is one slot at most for a station, for an access point, and for the two others. -/
theorem populateModes_single : ∀ mode ∈ populateModes flags,
    ∀ combination ∈ mode.availableCombinations,
      (combination.slots.countP fun slot => slot.any (· = .sta)) ≤ 1 ∧
        (combination.slots.countP fun slot => slot.any (· = .ap)) ≤ 1 ∧
        (combination.slots.countP fun slot => slot.any fun type => type = .p2p ∨ type = .nan) ≤
          1 := by
  obtain ⟨aware, dual, disabled⟩ := flags
  cases aware <;> cases dual <;> cases disabled <;> decide

end Modes

/-- What a client makes of the notifications: the names of the interfaces of each type. -/
def replay (notified : List Notification) : IfaceType → List String :=
  notified.foldl (fun known event =>
    match event with
    | .ifaceAdded type name => Function.update known type (known type ++ [name])
    | .ifaceRemoved type name => Function.update known type ((known type).erase name)
    | .chipReconfigured _ | .chipReconfigureFailure _ => fun _ => []) fun _ => []

namespace Chip

variable (s : Chip)

/-- The types of the interfaces. -/
def types : List IfaceType :=
  IfaceType.all.flatMap fun type => List.replicate (s.ifaces type).length type

/-- An interface or a controller of the chip. -/
def Holds (object : Nat) : Prop :=
  (∃ type, ∃ iface ∈ s.ifaces type, iface.object = object) ∨ object ∈ s.rttControllers

/-- The interfaces fit into a combination of the mode, one station, one access point and one of
the two others at most; the clients know them; an object is valid as long as the chip holds it. -/
structure Sound : Prop where
  fits : s.types = [] ∨ ∃ combination ∈ s.getCurrentModeIfaceCombinations,
    combination.Fits s.types
  sta : (s.ifaces .sta).length ≤ 1
  ap : (s.ifaces .ap).length ≤ 1
  other : (s.ifaces .p2p).length + (s.ifaces .nan).length ≤ 1
  told : s.isValid = true → ∀ type, replay s.notified type = (s.ifaces type).map Iface.name
  live : ∀ object < s.objects, s.Holds object ↔ object ∉ s.invalidated

theorem count_types (type : IfaceType) : s.types.count type = (s.ifaces type).length := by
  cases type <;> simp [types, IfaceType.all, List.count_replicate]

theorem countsOf_types : countsOf s.types = s.getCurrentIfaceCombination :=
  funext s.count_types

theorem types_nil : s.types = [] ↔ ∀ type, s.ifaces type = [] := by
  constructor
  · intro none type
    have count := s.count_types type
    rw [none, List.count_nil] at count
    exact List.eq_nil_of_length_eq_zero count.symm
  · intro none
    simp [types, none]

theorem mem_combinations {combination : IfaceCombination}
    (member : combination ∈ s.getCurrentModeIfaceCombinations) :
    ∃ mode ∈ s.modes, combination ∈ mode.availableCombinations := by
  unfold getCurrentModeIfaceCombinations at member
  split at member
  · split at member
    · rename_i mode found
      exact ⟨mode, List.mem_of_find?_eq_some found, member⟩
    · cases member
  · cases member

/-- The invariant but for what the clients know. -/
structure Kept (flags : FeatureFlags) (s : Chip) : Prop where
  modes : s.modes = populateModes flags
  fits : s.types = [] ∨ ∃ combination ∈ s.getCurrentModeIfaceCombinations,
    combination.Fits s.types
  live : ∀ object < s.objects, s.Holds object ↔ object ∉ s.invalidated
  bounded : ∀ object, s.Holds object ∨ object ∈ s.invalidated → object < s.objects
  apart : ∀ type, ∀ iface ∈ s.ifaces type, iface.object ∉ s.rttControllers ∧
    ∀ other, ∀ later ∈ s.ifaces other, later.object = iface.object → other = type
  ap0 : ∀ iface ∈ s.ifaces .ap, iface.name = "ap0"

variable {s} {flags : FeatureFlags}

theorem kept_new (names : Names) : (new names flags).Kept flags where
  modes := rfl
  fits := Or.inl ((types_nil _).mpr fun _ => rfl)
  live := fun object fresh => absurd fresh (Nat.not_lt_zero object)
  bounded := by
    rintro object ((⟨_, _, member, _⟩ | member) | member) <;> cases member
  apart := fun _ _ member => by cases member
  ap0 := fun _ member => by cases member

theorem Kept.sound (kept : s.Kept flags) :
    ∀ combination ∈ s.getCurrentModeIfaceCombinations, combination.Sound := by
  intro combination member
  obtain ⟨mode, known, inside⟩ := s.mem_combinations member
  rw [kept.modes] at known
  exact populateModes_sound mode known combination inside

theorem Kept.single (kept : s.Kept flags) : (s.ifaces .sta).length ≤ 1 ∧
    (s.ifaces .ap).length ≤ 1 ∧ (s.ifaces .p2p).length + (s.ifaces .nan).length ≤ 1 := by
  cases kept.fits with
  | inl none =>
      rw [types_nil] at none
      simp [none]
  | inr fits =>
      obtain ⟨combination, member, fits⟩ := fits
      obtain ⟨mode, known, inside⟩ := s.mem_combinations member
      rw [kept.modes] at known
      obtain ⟨sta, ap, other⟩ := populateModes_single mode known combination inside
      have first := Nat.le_trans (fits_countP fits (· = .sta)) sta
      have second := Nat.le_trans (fits_countP fits (· = .ap)) ap
      have third := Nat.le_trans (fits_countP fits fun type => type = .p2p ∨ type = .nan) other
      simp [types, IfaceType.all, List.countP_replicate] at first second third
      omega

/-- There is an answer to whether an interface fits, and it is right. -/
theorem Kept.supports (kept : s.Kept flags) (type : IfaceType) :
    ∃ supports, s.canCurrentModeSupportIfaceOfType type = some supports ∧
      (supports = true ↔
        ∃ combination ∈ s.getCurrentModeIfaceCombinations, combination.Fits (type :: s.types)) := by
  unfold canCurrentModeSupportIfaceOfType
  split
  · obtain ⟨supports, answer⟩ := canSupportIfaceOfType_defined kept.sound
      s.getCurrentIfaceCombination type
    refine ⟨supports, answer, ?_⟩
    rw [← canSupportIfaceOfType_iff kept.sound s.types type, s.countsOf_types, answer,
      Option.some_inj]
  · rename_i invalid
    refine ⟨false, rfl, ?_⟩
    rw [getCurrentModeIfaceCombinations, if_neg invalid]
    simp

section Steps

/-- Nothing but the interfaces' counts, the mode and the objects matters. -/
theorem Kept.notify (kept : s.Kept flags) (event : Notification) : (s.notify event).Kept flags :=
  ⟨kept.modes, kept.fits, kept.live, kept.bounded, kept.apart, kept.ap0⟩

theorem Kept.remode (kept : s.Kept flags) (none : s.types = []) (modeId : Nat) :
    Kept flags { s with currentModeId := modeId } :=
  ⟨kept.modes, Or.inl none, kept.live, kept.bounded, kept.apart, kept.ap0⟩

theorem mem_objects {object : Nat} :
    (object ∈ IfaceType.all.flatMap fun type => (s.ifaces type).map Iface.object) ↔
      ∃ type, ∃ iface ∈ s.ifaces type, iface.object = object := by
  simp only [List.mem_flatMap, List.mem_map]
  constructor
  · rintro ⟨type, _, iface, member, same⟩
    exact ⟨type, iface, member, same⟩
  · rintro ⟨type, iface, member, same⟩
    exact ⟨type, type.mem_all, iface, member, same⟩

theorem Kept.removeAll (kept : s.Kept flags) : s.invalidateAndRemoveAllIfaces.Kept flags where
  modes := kept.modes
  fits := Or.inl ((types_nil _).mpr fun _ => rfl)
  live := by
    intro object below
    have live := kept.live object below
    constructor
    · rintro (⟨_, _, member, _⟩ | member) <;> cases member
    · intro valid
      simp only [invalidateAndRemoveAllIfaces, List.mem_append, mem_objects, not_or] at valid
      exfalso
      cases live.mpr valid.1.1 with
      | inl iface => exact valid.1.2 iface
      | inr controller => exact valid.2 controller
  bounded := by
    rintro object (held | gone)
    · rcases held with ⟨_, _, member, _⟩ | member <;> cases member
    · simp only [invalidateAndRemoveAllIfaces, List.mem_append, mem_objects] at gone
      apply kept.bounded object
      rcases gone with (old | iface) | controller
      · exact Or.inr old
      · exact Or.inl (Or.inl iface)
      · exact Or.inl (Or.inr controller)
  apart := fun _ _ member => by cases member
  ap0 := fun _ member => by cases member

theorem mem_addIface {type other : IfaceType} {name : String} {iface : Iface} :
    iface ∈ (s.addIface type name).ifaces other ↔
      iface ∈ s.ifaces other ∨ (other = type ∧ iface = ⟨s.objects, name⟩) := by
  by_cases same : other = type
  · subst same
    simp [addIface]
  · simp [addIface, same]

theorem holds_addIface {type : IfaceType} {name : String} {object : Nat} :
    (s.addIface type name).Holds object ↔ s.Holds object ∨ object = s.objects := by
  unfold Holds
  simp only [mem_addIface]
  constructor
  · rintro (⟨other, iface, member | ⟨_, new⟩, same⟩ | member)
    · exact Or.inl (Or.inl ⟨other, iface, member, same⟩)
    · rw [new] at same
      exact Or.inr same.symm
    · exact Or.inl (Or.inr member)
  · rintro ((⟨other, iface, member, same⟩ | member) | new)
    · exact Or.inl ⟨other, iface, Or.inl member, same⟩
    · exact Or.inr member
    · exact Or.inl ⟨type, ⟨s.objects, name⟩, Or.inr ⟨rfl, rfl⟩, new.symm⟩

theorem Kept.addIface {type : IfaceType} {name : String} (kept : s.Kept flags)
    (fits : ∃ combination ∈ s.getCurrentModeIfaceCombinations,
      combination.Fits (type :: s.types))
    (ap0 : type = .ap → name = "ap0") : (s.addIface type name).Kept flags where
  modes := kept.modes
  fits := by
    obtain ⟨combination, member, fits⟩ := fits
    refine Or.inr ⟨combination, member, fits_of_count fits fun other => ?_⟩
    rw [count_types, List.count_cons, count_types]
    by_cases same : other = type
    · subst same
      simp [Chip.addIface]
    · simp [Chip.addIface, Function.update_of_ne same]
  live := by
    intro object below
    rw [holds_addIface]
    rcases Nat.lt_or_eq_of_le (Nat.le_of_lt_succ below) with old | new
    · rw [kept.live object old]
      exact or_iff_left (Nat.ne_of_lt old)
    · refine iff_of_true (Or.inr new) fun gone => ?_
      have bound := kept.bounded object (Or.inr gone)
      omega
  bounded := by
    intro object known
    rw [holds_addIface] at known
    show object < s.objects + 1
    rcases known with (held | new) | gone
    · exact Nat.lt_succ_of_lt (kept.bounded object (Or.inl held))
    · omega
    · exact Nat.lt_succ_of_lt (kept.bounded object (Or.inr gone))
  apart := by
    have fresh : ∀ object, s.Holds object → object ≠ s.objects := fun object held =>
      Nat.ne_of_lt (kept.bounded object (Or.inl held))
    intro first iface member
    rw [mem_addIface] at member
    rcases member with old | ⟨here, new⟩
    · refine ⟨(kept.apart first iface old).1, fun other later member same => ?_⟩
      rw [mem_addIface] at member
      rcases member with known | ⟨_, new⟩
      · exact (kept.apart first iface old).2 other later known same
      · rw [new] at same
        exact absurd same.symm (fresh _ (Or.inl ⟨first, iface, old, rfl⟩))
    · refine ⟨fun member => ?_, fun other later member same => ?_⟩
      · rw [new] at member
        exact fresh _ (Or.inr member) rfl
      · rw [mem_addIface] at member
        rcases member with known | ⟨there, _⟩
        · rw [new] at same
          exact absurd same (fresh _ (Or.inl ⟨other, later, known, rfl⟩))
        · rw [there, here]
  ap0 := by
    intro iface member
    rw [mem_addIface] at member
    rcases member with old | ⟨here, new⟩
    · exact kept.ap0 iface old
    · rw [new]
      exact ap0 here.symm

theorem mem_cleared {type other : IfaceType} {gone iface : Iface} :
    iface ∈ (s.invalidateAndClear type gone).ifaces other ↔
      iface ∈ s.ifaces other ∧ ¬ (other = type ∧ iface = gone) := by
  by_cases same : other = type
  · subst same
    simp [invalidateAndClear]
  · simp [invalidateAndClear, same]

theorem Kept.invalidateAndClear {type : IfaceType} {iface : Iface} (kept : s.Kept flags)
    (member : iface ∈ s.ifaces type) : (s.invalidateAndClear type iface).Kept flags where
  modes := kept.modes
  fits := by
    have fewer : ∀ other,
        ((s.invalidateAndClear type iface).ifaces other).length ≤ (s.ifaces other).length := by
      intro other
      by_cases same : other = type
      · subst same
        simp [Chip.invalidateAndClear, List.length_filter_le]
      · simp [Chip.invalidateAndClear, same]
    refine kept.fits.imp (fun none => ?_) fun fits => ?_
    · rw [types_nil] at none ⊢
      intro other
      have less := fewer other
      rw [none other, List.length_nil] at less
      exact List.eq_nil_of_length_eq_zero (Nat.le_zero.mp less)
    · obtain ⟨combination, known, fits⟩ := fits
      refine ⟨combination, known, fits_of_count fits fun other => ?_⟩
      rw [count_types, count_types]
      exact fewer other
  live := by
    intro object below
    have live := kept.live object below
    show Holds _ object ↔ object ∉ s.invalidated ++ [iface.object]
    rw [List.mem_append, List.mem_singleton, not_or, ← live]
    unfold Holds
    simp only [mem_cleared]
    constructor
    · rintro (⟨other, left, ⟨held, still⟩, same⟩ | held)
      · refine ⟨Or.inl ⟨other, left, held, same⟩, fun equal => ?_⟩
        have here := (kept.apart type iface member).2 other left held (same.trans equal)
        subst here
        have single := kept.single
        have short : (s.ifaces other).length ≤ 1 := by
          cases other <;> omega
        exact still ⟨rfl, eq_of_mem_short short held member⟩
      · refine ⟨Or.inr held, fun equal => ?_⟩
        rw [equal] at held
        exact (kept.apart type iface member).1 held
    · rintro ⟨⟨other, left, held, same⟩ | held, differs⟩
      · refine Or.inl ⟨other, left, ⟨held, ?_⟩, same⟩
        rintro ⟨_, equal⟩
        rw [equal] at same
        exact differs same.symm
      · exact Or.inr held
  bounded := by
    have bounded := kept.bounded
    rintro object (held | gone)
    · apply bounded object
      unfold Holds at held
      simp only [mem_cleared] at held
      rcases held with ⟨other, left, ⟨held, _⟩, same⟩ | held
      · exact Or.inl (Or.inl ⟨other, left, held, same⟩)
      · exact Or.inl (Or.inr held)
    · rcases List.mem_append.mp gone with old | new
      · exact bounded object (Or.inr old)
      · rw [List.mem_singleton.mp new]
        exact bounded _ (Or.inl (Or.inl ⟨type, iface, member, rfl⟩))
  apart := by
    intro first left held
    have apart := kept.apart first left (mem_cleared.mp held).1
    exact ⟨apart.1, fun other later inside => apart.2 other later (mem_cleared.mp inside).1⟩
  ap0 := fun left held => kept.ap0 left (mem_cleared.mp held).1

theorem Kept.controller (kept : s.Kept flags) :
    s.createRttControllerInternal.1.Kept flags where
  modes := kept.modes
  fits := kept.fits
  live := by
    intro object below
    show _ ∨ object ∈ s.rttControllers ++ [s.objects] ↔ object ∉ s.invalidated
    rw [List.mem_append, List.mem_singleton, ← or_assoc]
    rcases Nat.lt_or_eq_of_le (Nat.le_of_lt_succ below) with old | new
    · rw [← kept.live object old]
      exact or_iff_left (Nat.ne_of_lt old)
    · refine iff_of_true (Or.inr new) fun gone => ?_
      have bound := kept.bounded object (Or.inr gone)
      omega
  bounded := by
    intro object known
    show object < s.objects + 1
    rcases known with (iface | controller) | gone
    · exact Nat.lt_succ_of_lt (kept.bounded object (Or.inl (Or.inl iface)))
    · rcases List.mem_append.mp controller with old | new
      · exact Nat.lt_succ_of_lt (kept.bounded object (Or.inl (Or.inr old)))
      · rw [List.mem_singleton.mp new]
        exact Nat.lt_succ_self _
    · exact Nat.lt_succ_of_lt (kept.bounded object (Or.inr gone))
  apart := by
    intro type iface member
    refine ⟨fun there => ?_, (kept.apart type iface member).2⟩
    rcases List.mem_append.mp there with old | new
    · exact (kept.apart type iface member).1 old
    · have bound := kept.bounded iface.object (Or.inl (Or.inl ⟨type, iface, member, rfl⟩))
      rw [List.mem_singleton.mp new] at bound
      exact Nat.lt_irrefl _ bound
  ap0 := kept.ap0

end Steps

/-- What the clients know. -/
def Told (s : Chip) : Prop :=
  s.isValid = true → ∀ type, replay s.notified type = (s.ifaces type).map Iface.name

structure Inv (flags : FeatureFlags) (names : Names) (s : Chip) : Prop where
  kept : s.Kept flags
  told : s.Told
  names : s.names = names

section Calls

variable {names : Names} {t : Chip} {status : WifiStatus}

theorem Inv.sound (inv : s.Inv flags names) : s.Sound := by
  obtain ⟨sta, ap, other⟩ := inv.kept.single
  exact ⟨inv.kept.fits, sta, ap, other, inv.told, inv.kept.live⟩

theorem replay_append (notified : List Notification) (event : Notification) :
    replay (notified ++ [event]) =
      match event with
      | .ifaceAdded type name =>
          Function.update (replay notified) type (replay notified type ++ [name])
      | .ifaceRemoved type name =>
          Function.update (replay notified) type ((replay notified type).erase name)
      | .chipReconfigured _ | .chipReconfigureFailure _ => fun _ => [] := by
  rw [replay, List.foldl_append, List.foldl_cons, List.foldl_nil]
  rfl

/-- A configuration leaves no interfaces, in whatever way it ends. -/
theorem handleChipConfiguration_kept (kept : s.Kept flags) (modeId : Nat) (outcome : Outcome) :
    (s.handleChipConfiguration modeId outcome).1.Kept flags ∧
      (s.handleChipConfiguration modeId outcome).1.types = [] ∧
      (s.handleChipConfiguration modeId outcome).1.names = s.names ∧
      (s.handleChipConfiguration modeId outcome).1.isValid = s.isValid := by
  unfold handleChipConfiguration
  split
  · exact ⟨kept.removeAll, (types_nil _).mpr fun _ => rfl, rfl, rfl⟩
  · rename_i invalid
    refine ⟨kept, kept.fits.resolve_right ?_, rfl, rfl⟩
    rintro ⟨combination, member, _⟩
    rw [getCurrentModeIfaceCombinations, if_neg invalid] at member
    cases member

/-- A change of the mode tells the clients that there are no interfaces any more. -/
theorem inv_reconfigured (kept : s.Kept flags) (same : s.names = names) {modeId : Nat}
    (valid : s.isValidModeId modeId = true) (other : modeId ≠ s.currentModeId) (outcome : Outcome) :
    (s.configureChipInternal modeId outcome).1.Inv flags names := by
  obtain ⟨after, none, unchanged, _⟩ := handleChipConfiguration_kept kept modeId outcome
  have empty := (types_nil _).mp none
  rw [configureChipInternal, if_neg (by simp [valid]), if_neg other]
  dsimp only
  split
  · refine ⟨after.notify _, fun _ type => ?_, unchanged.trans same⟩
    simp only [Chip.notify, replay_append, empty, List.map_nil]
  · refine ⟨(after.notify _).remode none modeId, fun _ type => ?_, unchanged.trans same⟩
    simp only [Chip.notify, replay_append, empty, List.map_nil]

theorem inv_configureChip (inv : s.Inv flags names) (modeId : Nat) (outcome : Outcome) :
    (s.configureChipInternal modeId outcome).1.Inv flags names := by
  by_cases valid : s.isValidModeId modeId = true
  · by_cases same : modeId = s.currentModeId
    · rw [configureChipInternal, if_neg (by simp [valid]), if_pos same]
      exact inv
    · exact inv_reconfigured inv.kept inv.names valid same outcome
  · simpa [configureChipInternal, valid] using inv

theorem inv_addIface {type : IfaceType} {name : String} (inv : s.Inv flags names)
    (fits : ∃ combination ∈ s.getCurrentModeIfaceCombinations,
      combination.Fits (type :: s.types))
    (ap0 : type = .ap → name = "ap0") : (s.addIface type name).Inv flags names := by
  refine ⟨inv.kept.addIface fits ap0, fun valid other => ?_, inv.names⟩
  have told := inv.told valid
  simp only [addIface, replay_append]
  by_cases same : other = type
  · subst same
    simp [told]
  · simp [same, told]

/-- An interface that there is a name for is created just when the mode has room for it. -/
theorem inv_createIface {type : IfaceType} {name : Option String} (inv : s.Inv flags names)
    (named : (∃ combination ∈ s.getCurrentModeIfaceCombinations,
      combination.Fits (type :: s.types)) → ∃ known, name = some known ∧
        (type = .ap → known = "ap0")) :
    ∃ r, s.createIfaceInternal type name = some r ∧ r.1.Inv flags names ∧
      (r.2.code = .success ↔ ∃ combination ∈ s.getCurrentModeIfaceCombinations,
        combination.Fits (type :: s.types)) := by
  obtain ⟨supports, answer, room⟩ := inv.kept.supports type
  cases supports with
  | false =>
      refine ⟨_, by rw [createIfaceInternal, answer, Option.bind_some, if_pos rfl], inv, ?_⟩
      rw [← room]
      simp [createWifiStatus]
  | true =>
      have fits := room.mp rfl
      obtain ⟨known, same, ap0⟩ := named fits
      subst same
      refine ⟨(s.addIface type known, createWifiStatus .success), ?_, inv_addIface inv fits ap0,
        iff_of_true rfl fits⟩
      rw [createIfaceInternal, answer, Option.bind_some, if_neg (by decide), Option.map_some]

/-- Where there is room for a station there is none, and the access point is called "ap0". -/
theorem allocate_named (inv : s.Inv flags names) (apart : names.wlan0 ≠ "ap0" ∨ names.wlan1 ≠ "ap0")
    (fits : ∃ combination ∈ s.getCurrentModeIfaceCombinations,
      combination.Fits (.sta :: s.types)) : ∃ name, s.allocateApOrStaIfaceName = some name := by
  have none : s.ifaces .sta = [] := by
    obtain ⟨combination, member, fits⟩ := fits
    obtain ⟨mode, known, inside⟩ := s.mem_combinations member
    rw [inv.kept.modes] at known
    have single := (populateModes_single mode known combination inside).1
    have count := Nat.le_trans (fits_countP fits (· = .sta)) single
    apply List.eq_nil_of_length_eq_zero
    rw [← s.count_types .sta]
    simp at count
    exact List.count_eq_zero.mpr fun member => count .sta member rfl
  have free : ∀ name, name ≠ "ap0" → findUsingName (s.ifaces .ap) name = Option.none := by
    intro name other
    rw [findUsingName, List.find?_eq_none]
    intro iface member
    rw [inv.kept.ap0 iface member, decide_eq_true_iff]
    exact other
  unfold allocateApOrStaIfaceName
  rw [none, inv.names]
  rcases apart with first | second
  · rw [if_pos ⟨free _ first, rfl⟩]
    exact ⟨_, rfl⟩
  · split
    · exact ⟨_, rfl⟩
    · rw [if_pos ⟨free _ second, rfl⟩]
      exact ⟨_, rfl⟩

theorem inv_removeIface (inv : s.Inv flags names) (type : IfaceType) (name : String) :
    (s.removeIfaceInternal type name).1.Inv flags names := by
  unfold removeIfaceInternal
  split
  · exact inv
  · rename_i iface found
    have member := List.mem_of_find?_eq_some found
    have called : name = iface.name := by
      simpa [findUsingName] using List.find?_some found
    refine ⟨(inv.kept.invalidateAndClear member).notify _, fun valid other => ?_, inv.names⟩
    have told := inv.told valid
    simp only [Chip.notify, replay_append]
    by_cases same : other = type
    · subst same
      have single := inv.kept.single
      have short : (s.ifaces other).length ≤ 1 := by
        cases other <;> omega
      have only : s.ifaces other = [iface] := by
        match list : s.ifaces other, short with
        | [], _ =>
            rw [list] at member
            cases member
        | [left], _ =>
            rw [list] at member
            rw [List.mem_singleton.mp member]
      simp [Chip.invalidateAndClear, told, only, called]
    · simp [Chip.invalidateAndClear, same, told]

theorem inv_controller (inv : s.Inv flags names) :
    s.createRttControllerInternal.1.Inv flags names :=
  ⟨inv.kept.controller, inv.told, inv.names⟩

theorem inv_invalidate (inv : s.Inv flags names) : s.invalidate.Inv flags names := by
  have kept := inv.kept.removeAll
  refine ⟨⟨kept.modes, kept.fits, kept.live, kept.bounded, kept.apart, kept.ap0⟩, fun valid => ?_,
    inv.names⟩
  cases valid

/-- The call that creates an interface of a type. -/
def Call.create : IfaceType → Call
  | .ap => .createApIface
  | .nan => .createNanIface
  | .p2p => .createP2pIface
  | .sta => .createStaIface

theorem inv_create (apart : names.wlan0 ≠ "ap0" ∨ names.wlan1 ≠ "ap0") (inv : s.Inv flags names)
    (type : IfaceType) : ∃ r, s.answer (.create type) = some r ∧ r.1.Inv flags names ∧
      (r.2.code = .success ↔ ∃ combination ∈ s.getCurrentModeIfaceCombinations,
        combination.Fits (type :: s.types)) := by
  cases type with
  | ap => exact inv_createIface inv fun _ => ⟨"ap0", rfl, fun _ => rfl⟩
  | nan =>
      apply inv_createIface inv
      exact fun _ => ⟨s.names.wlan0, rfl, fun other => IfaceType.noConfusion other⟩
  | p2p =>
      apply inv_createIface inv
      exact fun _ => ⟨s.names.p2p, rfl, fun other => IfaceType.noConfusion other⟩
  | sta =>
      apply inv_createIface inv
      intro fits
      obtain ⟨name, same⟩ := allocate_named inv apart fits
      exact ⟨name, same, fun other => IfaceType.noConfusion other⟩

theorem inv_answer (apart : names.wlan0 ≠ "ap0" ∨ names.wlan1 ≠ "ap0") (inv : s.Inv flags names)
    (c : Call) : ∃ r, s.answer c = some r ∧ r.1.Inv flags names := by
  have created : ∀ type, ∃ r, s.answer (.create type) = some r ∧ r.1.Inv flags names := by
    intro type
    obtain ⟨r, done, after, _⟩ := inv_create apart inv type
    exact ⟨r, done, after⟩
  cases c with
  | configureChip modeId outcome => exact ⟨_, rfl, inv_configureChip inv modeId outcome⟩
  | createApIface => exact created .ap
  | createNanIface => exact created .nan
  | createP2pIface => exact created .p2p
  | createStaIface => exact created .sta
  | removeApIface name => exact ⟨_, rfl, inv_removeIface inv .ap name⟩
  | removeNanIface name => exact ⟨_, rfl, inv_removeIface inv .nan name⟩
  | removeP2pIface name => exact ⟨_, rfl, inv_removeIface inv .p2p name⟩
  | removeStaIface name => exact ⟨_, rfl, inv_removeIface inv .sta name⟩
  | createRttController => exact ⟨_, rfl, inv_controller inv⟩
  | invalidate => exact ⟨_, rfl, inv_invalidate inv⟩

/-- The step lemma: no call ends the process, and each keeps the invariant. -/
theorem inv_step (apart : names.wlan0 ≠ "ap0" ∨ names.wlan1 ≠ "ap0") (inv : s.Inv flags names)
    (c : Call) : ∃ t, s.step c = some t ∧ t.Inv flags names := by
  unfold step validateAndCall
  split
  · obtain ⟨r, same, kept⟩ := inv_answer apart inv c
    exact ⟨r.1, by rw [same, Option.map_some], kept⟩
  · exact ⟨s, rfl, inv⟩

/-- No other call changes the mode. -/
theorem currentModeId_step {c : Call} (other : ∀ modeId outcome, c ≠ .configureChip modeId outcome)
    (taken : s.step c = some t) : t.currentModeId = s.currentModeId := by
  have created : ∀ type name r, s.createIfaceInternal type name = some r →
      r.1.currentModeId = s.currentModeId := by
    intro type name r done
    obtain ⟨supports, _, done⟩ := Option.bind_eq_some_iff.mp done
    split at done
    · cases done
      rfl
    · obtain ⟨known, _, done⟩ := Option.map_eq_some_iff.mp done
      cases done
      rfl
  have removed : ∀ type name,
      (s.removeIfaceInternal type name).1.currentModeId = s.currentModeId := by
    intro type name
    unfold removeIfaceInternal
    split <;> rfl
  obtain ⟨r, done, same⟩ := Option.map_eq_some_iff.mp taken
  subst same
  unfold validateAndCall at done
  split at done
  · cases c with
    | configureChip modeId outcome => exact absurd rfl (other modeId outcome)
    | createApIface | createNanIface | createP2pIface | createStaIface => exact created _ _ r done
    | removeApIface name | removeNanIface name | removeP2pIface name | removeStaIface name =>
        cases done
        exact removed _ name
    | createRttController | invalidate =>
        cases done
        rfl
  · cases done
    rfl

end Calls

theorem inv_new (names : Names) : (new names flags).Inv flags names :=
  ⟨kept_new names, fun _ _ => rfl, rfl⟩

end Chip

/-- Along every run of calls the interfaces fit into the mode of the chip, its clients know which
there are, and the objects that it does not hold are invalid; no check of the source ends the
process. -/
theorem chip_sound (names : Names) (flags : FeatureFlags)
    (apart : names.wlan0 ≠ "ap0" ∨ names.wlan1 ≠ "ap0") (calls : List Chip.Call) :
    (∃ t, exec Chip.step (.new names flags) calls = some t) ∧
      AllStates Chip.step Chip.Sound (.new names flags) calls := by
  constructor
  · obtain ⟨t, run, _⟩ := exec_defined (fun _ c inv => Chip.inv_step apart inv c)
      (@Chip.inv_new flags names) calls
    exact ⟨t, run⟩
  · have all : AllStates Chip.step (Chip.Inv flags names) (.new names flags) calls := by
      apply allStates_of_kept _ (Chip.inv_new names)
      intro s c t inv taken
      obtain ⟨next, same, kept⟩ := Chip.inv_step apart inv c
      rw [taken] at same
      cases same
      exact kept
    exact all.imp fun _ inv => inv.sound

/-- The names that the properties have by default, on a chip for both modes at once. -/
theorem chip_sound_dual :
    let calls : List Chip.Call := [.configureChip 2 ⟨.success, true, .success⟩, .createStaIface,
      .createApIface, .createStaIface, .removeApIface "ap0", .createNanIface]
    (∃ t, exec Chip.step (.new ⟨"wlan0", "wlan1", "p2p0"⟩ ⟨true, true, false⟩) calls = some t) ∧
      AllStates Chip.step Chip.Sound (.new ⟨"wlan0", "wlan1", "p2p0"⟩ ⟨true, true, false⟩) calls :=
  chip_sound ⟨"wlan0", "wlan1", "p2p0"⟩ ⟨true, true, false⟩ (Or.inl (by decide)) _

/-- Behind every run, a valid chip creates an interface just when one more of its type fits into a
combination of the mode. -/
theorem chip_create_iff (names : Names) (flags : FeatureFlags)
    (apart : names.wlan0 ≠ "ap0" ∨ names.wlan1 ≠ "ap0") {calls : List Chip.Call} {s : Chip}
    (run : exec Chip.step (.new names flags) calls = some s) (valid : s.isValid = true)
    (type : IfaceType) :
    ∃ r, s.validateAndCall (.create type) = some r ∧
      (r.2.code = .success ↔ ∃ combination ∈ s.getCurrentModeIfaceCombinations,
        combination.Fits (type :: s.types)) := by
  have inv : s.Inv flags names := by
    refine exec_invariant (fun t c next inv taken => ?_) (Chip.inv_new names) run
    obtain ⟨after, same, kept⟩ := Chip.inv_step apart inv c
    rw [taken] at same
    cases same
    exact kept
  obtain ⟨r, done, _, created⟩ := Chip.inv_create apart inv type
  exact ⟨r, by rw [Chip.validateAndCall, if_pos valid, done], created⟩

theorem chip_create_iff_dual :
    ∃ s, exec Chip.step (.new ⟨"wlan0", "wlan1", "p2p0"⟩ ⟨true, true, false⟩)
        [.configureChip 2 ⟨.success, true, .success⟩, .createNanIface] = some s ∧
      ∃ r, s.validateAndCall .createP2pIface = some r ∧
        (r.2.code = .success ↔ ∃ combination ∈ s.getCurrentModeIfaceCombinations,
          combination.Fits (.p2p :: s.types)) :=
  ⟨_, rfl, @chip_create_iff ⟨"wlan0", "wlan1", "p2p0"⟩ ⟨true, true, false⟩ (Or.inl (by decide))
    [.configureChip 2 ⟨.success, true, .success⟩, .createNanIface] _ rfl rfl .p2p⟩

end Connectivity.WifiChip
