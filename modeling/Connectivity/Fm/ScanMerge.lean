import Connectivity.Fm.ScanTable

set_option autoImplicit false

/- The pass of a scan over the band: what it knows of its records after each channel, whatever the
noise floor is. -/
namespace Connectivity.Fm

/-- A channel that may be recorded. -/
def ScanAnswer.Acceptable (answer : ScanAnswer) : Prop :=
  answer.ret = 0 ∧ answer.valid = true ∧ answer.desense = false ∧ answer.severe = false

/-- What a pass knows of its records, apart from the noise floor. -/
structure Merge where
  keys : List (Nat × Int)
  lastExist : Bool
  displaced : List (Nat × Nat)

def ScanState.merge (s : ScanState) : Merge :=
  { keys := s.data.map fun record => (record.ch, record.rssi)
    lastExist := s.lastExist
    displaced := s.displaced }

namespace Merge

variable (m : Merge)

/-- What is made of a channel: it covers the one before it, makes way for it, or is new. -/
def step (freq : Nat) (answer : ScanAnswer) : Merge :=
  if answer.ret = 0 ∧ answer.valid = true ∧ answer.desense = false then
    match m.lastExist, m.keys with
    | true, last :: before =>
        if last.2 < answer.rssi then
          if answer.severe then { m with lastExist := false }
          else
            { m with
              keys := (freq, answer.rssi) :: before
              displaced := (last.1, freq) :: m.displaced }
        else { m with lastExist := false, displaced := (freq, last.1) :: m.displaced }
    | _, _ =>
        if answer.severe then { m with lastExist := false }
        else { m with keys := (freq, answer.rssi) :: m.keys, lastExist := true }
  else { m with lastExist := false }

end Merge

section Simulation

variable {s : ScanState} {nfSpace i freq : Nat} {answer : ScanAnswer}

theorem mark_key (level : Int) (record : Cqi) :
    (ScanState.mark level record).ch = record.ch ∧
      (ScanState.mark level record).rssi = record.rssi := by
  rw [ScanState.mark]
  split
  · exact ⟨rfl, rfl⟩
  · exact ⟨rfl, rfl⟩

/-- The end of a block changes no record but its mark. -/
theorem blockEnd_merge : (s.blockEnd nfSpace i).merge = s.merge := by
  rw [ScanState.blockEnd]
  split
  · rw [ScanState.merge, ScanState.merge]
    dsimp only
    congr 1
    have marked : ∀ records : List Cqi,
        (records.map (ScanState.mark s.floor.level)).map (fun record => (record.ch, record.rssi)) =
          records.map fun record => (record.ch, record.rssi) := by
      intro records
      rw [List.map_map]
      apply List.map_congr_left
      intro record _
      exact Prod.ext (mark_key _ record).1 (mark_key _ record).2
    rw [List.map_append, marked, ← List.map_append, List.take_append_drop]
  · rfl

theorem step_refused
    (refused : ¬ (answer.ret = 0 ∧ answer.valid = true ∧ answer.desense = false)) :
    (s.step nfSpace i freq answer).merge = { s.merge with lastExist := false } := by
  rw [ScanState.step]
  split
  · rfl
  · rename_i answered
    split
    · rename_i valid
      dsimp only
      split
      · rfl
      · rename_i clean
        exact absurd ⟨not_not.mp answered, valid, eq_false_of_ne_true clean⟩ refused
    · rw [blockEnd_merge]
      rfl

/-- The pass does with its records what it would do without a noise floor. -/
theorem step_merge : (s.step nfSpace i freq answer).merge = s.merge.step freq answer := by
  by_cases all : answer.ret = 0 ∧ answer.valid = true ∧ answer.desense = false
  · rw [ScanState.step, if_neg (not_not.mpr all.1), if_pos all.2.1, Merge.step, if_pos all]
    dsimp only
    rw [if_neg (ne_true_of_eq_false all.2.2)]
    cases exist : s.lastExist with
    | false =>
        have same : s.merge.lastExist = false := exist
        rw [same]
        dsimp only
        split
        · rfl
        · rw [blockEnd_merge]
          rfl
    | true =>
        have same : s.merge.lastExist = true := exist
        rw [same]
        cases data : s.data with
        | nil =>
            have none : s.merge.keys = [] := by
              rw [ScanState.merge, data]
              rfl
            rw [none]
            dsimp only
            split
            · rfl
            · rw [blockEnd_merge]
              rfl
        | cons last before =>
            have some : s.merge.keys = (last.ch, last.rssi) ::
                before.map fun record => (record.ch, record.rssi) := by
              rw [ScanState.merge, data]
              rfl
            rw [some]
            dsimp only
            split
            · split
              · rfl
              · rw [blockEnd_merge]
                rfl
            · rfl
  · rw [step_refused all, Merge.step, if_neg all]

end Simulation

/-- The frequency of a channel of a range that stays within 16 bits. -/
def ScanRange.ch (range : ScanRange) (i : Nat) : Nat := range.startFreq + range.space * i

/-- A range with a space whose channels are frequencies of 16 bits. -/
structure ScanRange.Fits (range : ScanRange) : Prop where
  spaced : 0 < range.space
  small : ∀ i < range.channelNo, range.ch i < 65536

/-- After some channels: the records are acceptable channels among them and no two are next to each
other; the newest is that before the next channel, or is further away; at most every second
channel is recorded. -/
structure MergeInv (range : ScanRange) (driver : ScanDriver) (i : Nat) (m : Merge) : Prop where
  found : ∀ key ∈ m.keys, (∃ k < i, key.1 = range.ch k) ∧ (driver key.1).Acceptable ∧
    key.2 = (driver key.1).rssi
  apart : m.keys.Pairwise fun newer older => older.1 + range.space < newer.1
  latest : m.lastExist = true →
    ∃ last before, m.keys = last :: before ∧ last.1 + range.space = range.ch i
  earlier : m.lastExist = false → ∀ key ∈ m.keys, key.1 + range.space < range.ch i
  few : 2 * m.keys.length ≤ i + if m.lastExist then 1 else 0
  displaced : ∀ pair ∈ m.displaced, (driver pair.1).rssi ≤ (driver pair.2).rssi

namespace MergeInv

variable {range : ScanRange} {driver : ScanDriver} {i : Nat} {m : Merge}

theorem ch_succ (range : ScanRange) (i : Nat) : range.ch (i + 1) = range.ch i + range.space := by
  rw [ScanRange.ch, ScanRange.ch, Nat.mul_succ]
  omega

theorem begins (range : ScanRange) (driver : ScanDriver) :
    MergeInv range driver 0 ScanState.start.merge where
  found key member := by cases member
  apart := List.Pairwise.nil
  latest exist := by cases exist
  earlier _ key member := by cases member
  few := Nat.le_refl _
  displaced pair member := by cases member

/-- A record that is known is one of the channels before a later one. -/
theorem found_later (inv : MergeInv range driver i m) {key : Nat × Int} (member : key ∈ m.keys) :
    (∃ k < i + 1, key.1 = range.ch k) ∧ (driver key.1).Acceptable ∧
      key.2 = (driver key.1).rssi := by
  obtain ⟨⟨k, before, same⟩, acceptable, rssi⟩ := inv.found key member
  exact ⟨⟨k, by omega, same⟩, acceptable, rssi⟩

/-- Every record is at least one channel below the next one. -/
theorem below (inv : MergeInv range driver i m) {key : Nat × Int} (member : key ∈ m.keys) :
    key.1 + range.space ≤ range.ch i := by
  cases exist : m.lastExist with
  | false => exact Nat.le_of_lt (inv.earlier exist key member)
  | true =>
      obtain ⟨last, before, keys, next⟩ := inv.latest exist
      have apart := inv.apart
      rw [keys] at member apart
      cases List.mem_cons.mp member with
      | inl same => exact same ▸ Nat.le_of_eq next
      | inr later =>
          have far := (List.pairwise_cons.mp apart).1 key later
          omega

/-- A channel that is not recorded. -/
theorem skips (fits : range.Fits) (inv : MergeInv range driver i m) {displaced : List (Nat × Nat)}
    (weaker : ∀ pair ∈ displaced, (driver pair.1).rssi ≤ (driver pair.2).rssi) :
    MergeInv range driver (i + 1) { m with lastExist := false, displaced := displaced } where
  found _ member := inv.found_later member
  apart := inv.apart
  latest exist := by cases exist
  earlier _ key member := by
    have lower := inv.below member
    have spaced := fits.spaced
    have next := ch_succ range i
    omega
  few := by
    have few := inv.few
    have bound : (if m.lastExist then 1 else 0) ≤ 1 := by
      split
      · exact Nat.le_refl 1
      · exact Nat.zero_le 1
    show 2 * m.keys.length ≤ i + 1 + 0
    omega
  displaced := weaker

/-- A channel that is new: the one before it has not been recorded. -/
theorem records (inv : MergeInv range driver i m) (exist : m.lastExist = false)
    (acceptable : (driver (range.ch i)).Acceptable) :
    MergeInv range driver (i + 1)
      { m with
        keys := (range.ch i, (driver (range.ch i)).rssi) :: m.keys
        lastExist := true } where
  found key member := by
    cases List.mem_cons.mp member with
    | inl same =>
        subst same
        exact ⟨⟨i, Nat.lt_succ_self i, rfl⟩, acceptable, rfl⟩
    | inr later => exact inv.found_later later
  apart := List.pairwise_cons.mpr ⟨inv.earlier exist, inv.apart⟩
  latest _ := ⟨_, _, rfl, (ch_succ range i).symm⟩
  earlier other := by cases other
  few := by
    have few := inv.few
    rw [exist] at few
    show 2 * (m.keys.length + 1) ≤ i + 1 + 1
    have none : (if false = true then 1 else 0) = 0 := rfl
    omega
  displaced := inv.displaced

/-- A channel that is stronger than the one before it, which has been recorded. -/
theorem covers (inv : MergeInv range driver i m) (exist : m.lastExist = true) {last : Nat × Int}
    {before : List (Nat × Int)} (keys : m.keys = last :: before)
    (acceptable : (driver (range.ch i)).Acceptable)
    (stronger : last.2 < (driver (range.ch i)).rssi) :
    MergeInv range driver (i + 1)
      { m with
        keys := (range.ch i, (driver (range.ch i)).rssi) :: before
        displaced := (last.1, range.ch i) :: m.displaced } := by
  have apart := inv.apart
  rw [keys] at apart
  obtain ⟨far, others⟩ := List.pairwise_cons.mp apart
  have member : last ∈ m.keys := keys ▸ List.mem_cons_self
  have lower := inv.below member
  constructor
  case found =>
      intro key inside
      cases List.mem_cons.mp inside with
      | inl same =>
          subst same
          exact ⟨⟨i, Nat.lt_succ_self i, rfl⟩, acceptable, rfl⟩
      | inr later => exact inv.found_later (keys ▸ List.mem_cons_of_mem _ later)
  case apart =>
      refine List.pairwise_cons.mpr ⟨?_, others⟩
      intro key later
      have further := far key later
      show key.1 + range.space < range.ch i
      omega
  case latest =>
      intro _
      exact ⟨_, _, rfl, (ch_succ range i).symm⟩
  case earlier =>
      intro other
      rw [exist] at other
      cases other
  case few =>
      have few := inv.few
      rw [exist, keys, List.length_cons] at few
      have one : (if true = true then 1 else 0) = 1 := rfl
      show 2 * (before.length + 1) ≤ i + 1 + if m.lastExist then 1 else 0
      omega
  case displaced =>
      intro pair inside
      cases List.mem_cons.mp inside with
      | inl same =>
          subst same
          have rssi := (inv.found last member).2.2
          show (driver last.1).rssi ≤ (driver (range.ch i)).rssi
          omega
      | inr later => exact inv.displaced pair later

theorem step (fits : range.Fits) (inv : MergeInv range driver i m) :
    MergeInv range driver (i + 1) (m.step (range.ch i) (driver (range.ch i))) := by
  rw [Merge.step]
  split
  · rename_i all
    split
    · rename_i last before exist keys
      split
      · rename_i stronger
        split
        · exact inv.skips fits inv.displaced
        · rename_i mild
          exact inv.covers exist keys
            ⟨all.1, all.2.1, all.2.2, eq_false_of_ne_true mild⟩ stronger
      · rename_i weaker
        refine inv.skips fits ?_
        intro pair member
        cases List.mem_cons.mp member with
        | inl same =>
            subst same
            have rssi := (inv.found last (keys ▸ List.mem_cons_self)).2.2
            show (driver (range.ch i)).rssi ≤ (driver last.1).rssi
            omega
        | inr later => exact inv.displaced pair later
    · rename_i other
      split
      · exact inv.skips fits inv.displaced
      · rename_i mild
        have exist : m.lastExist = false := by
          cases exist : m.lastExist with
          | false => rfl
          | true =>
              obtain ⟨last, before, keys, _⟩ := inv.latest exist
              exact absurd keys (other last before exist)
        exact inv.records exist ⟨all.1, all.2.1, all.2.2, eq_false_of_ne_true mild⟩
  · exact inv.skips fits inv.displaced

end MergeInv

theorem freq_eq {range : ScanRange} (fits : range.Fits) {i : Nat} (inside : i < range.channelNo) :
    range.freq i = range.ch i :=
  Nat.mod_eq_of_lt (fits.small i inside)

/-- A pass that is not stopped. -/
theorem pass_inv {range : ScanRange} (fits : range.Fits) {driver : ScanDriver} {left i : Nat}
    {s t : ScanState} (run : range.pass driver left i s = some t)
    (bound : i + left = range.channelNo) (inv : MergeInv range driver i s.merge) :
    MergeInv range driver range.channelNo t.merge := by
  induction left generalizing i s with
  | zero =>
      cases run
      rw [← bound]
      exact inv
  | succ left ih =>
      rw [ScanRange.pass] at run
      split at run
      · cases run
      · refine ih run (by omega) ?_
        rw [step_merge, freq_eq fits (by omega)]
        exact inv.step fits

end Connectivity.Fm
