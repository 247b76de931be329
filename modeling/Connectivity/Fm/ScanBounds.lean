import Connectivity.Fm.ScanMerge

set_option autoImplicit false

/- What a scan of the whole band reports: channels that are acceptable, far enough apart and in the
order that is asked for, and how many of them there can be. -/
namespace Connectivity.Fm

section Sorting

variable {sort : ScanSort}

/-- What the records are sorted by. -/
def ScanSort.rank (sort : ScanSort) (record : Cqi) : Int :=
  match sort with
  | .non => 0
  | .up => record.rssi
  | .down => -record.rssi

theorem swaps_iff {before record : Cqi} :
    sort.swaps before record = true ↔ sort.rank record < sort.rank before := by
  cases sort with
  | non =>
      exact iff_of_false Bool.false_ne_true (Int.lt_irrefl 0)
  | up => exact decide_eq_true_iff
  | down =>
      show decide (before.rssi < record.rssi) = true ↔ -record.rssi < -before.rssi
      rw [decide_eq_true_iff]
      omega

theorem insert_perm (record : Cqi) (done : List Cqi) :
    (sort.insert record done).Perm (record :: done) := by
  induction done with
  | nil => exact List.Perm.refl _
  | cons before others ih =>
      rw [ScanSort.insert]
      split
      · exact (List.Perm.cons before ih).trans (List.Perm.swap record before others)
      · exact List.Perm.refl _

/-- The records in front stay sorted, last first. -/
theorem insert_sorted (record : Cqi) {done : List Cqi}
    (ordered : done.Pairwise fun later earlier => sort.rank earlier ≤ sort.rank later) :
    (sort.insert record done).Pairwise fun later earlier =>
      sort.rank earlier ≤ sort.rank later := by
  induction done with
  | nil => exact List.pairwise_singleton _ _
  | cons before others ih =>
      obtain ⟨lower, rest⟩ := List.pairwise_cons.mp ordered
      rw [ScanSort.insert]
      split
      · rename_i swaps
        have less := swaps_iff.mp swaps
        refine List.pairwise_cons.mpr ⟨?_, ih rest⟩
        intro other member
        cases List.mem_cons.mp ((insert_perm record others).mem_iff.mp member) with
        | inl same =>
            rw [same]
            omega
        | inr later => exact lower other later
      · rename_i stays
        have bound : sort.rank before ≤ sort.rank record := by
          have least := mt swaps_iff.mpr stays
          omega
        refine List.pairwise_cons.mpr ⟨?_, ordered⟩
        intro other member
        cases List.mem_cons.mp member with
        | inl same =>
            rw [same]
            exact bound
        | inr later =>
            have least := lower other later
            omega

theorem fold_perm (data done : List Cqi) :
    (data.foldl (fun done record => sort.insert record done) done).Perm (data ++ done) := by
  induction data generalizing done with
  | nil => exact List.Perm.refl _
  | cons record rest ih =>
      refine (ih (sort.insert record done)).trans ?_
      refine ((insert_perm record done).append_left rest).trans ?_
      exact List.perm_middle

theorem fold_sorted (data : List Cqi) {done : List Cqi}
    (ordered : done.Pairwise fun later earlier => sort.rank earlier ≤ sort.rank later) :
    (data.foldl (fun done record => sort.insert record done) done).Pairwise fun later earlier =>
      sort.rank earlier ≤ sort.rank later := by
  induction data generalizing done with
  | nil => exact ordered
  | cons record rest ih => exact ih (insert_sorted record ordered)

theorem sorted_perm (data : List Cqi) : (sort.sorted data).Perm data := by
  refine (List.reverse_perm _).trans ?_
  have all := @fold_perm sort data []
  rw [List.append_nil] at all
  exact all

theorem sorted_pairwise (data : List Cqi) :
    (sort.sorted data).Pairwise fun earlier later => sort.rank earlier ≤ sort.rank later :=
  List.pairwise_reverse.mpr (fold_sorted data List.Pairwise.nil)

end Sorting

/-- A scan that is sound: it stays in its two tables, and reports acceptable channels of the band
that are no neighbours, each as strong as those that have made way for it, in the order that is
asked for and in one unit. -/
structure ScanSound (cfg : ScanCfg) (driver : ScanDriver) (result : Scanned) : Prop where
  records : result.recorded ≤ cqiChNumMax
  fits : result.table.length ≤ fmScanMaxChSize
  distinct : result.table.Nodup
  listed : ∃ channels : List Nat, result.table = channels.map cfg.unit ∧
    (∀ ch ∈ channels, (∃ i < cfg.range.channelNo, ch = cfg.range.ch i) ∧
      (driver ch).Acceptable) ∧
    (channels.Pairwise fun first second =>
      first + cfg.space < second ∨ second + cfg.space < first) ∧
    (∀ pair ∈ result.displaced, pair.2 ∈ channels →
      (driver pair.1).rssi ≤ (driver pair.2).rssi) ∧
    (cfg.scanSort = .up → channels.Pairwise fun first second =>
      (driver first).rssi ≤ (driver second).rssi) ∧
    (cfg.scanSort = .down → channels.Pairwise fun first second =>
      (driver second).rssi ≤ (driver first).rssi)

section Report

variable {cfg : ScanCfg} {driver : ScanDriver} {s : ScanState}

theorem range_space (cfg : ScanCfg) : cfg.range.space = cfg.space := by
  rw [ScanCfg.range]
  split
  · rfl
  · rfl
  · rfl

theorem space_cases (cfg : ScanCfg) :
    cfg.seekSpace = 5 ∧ cfg.space = 5 ∨
      cfg.seekSpace ≠ 5 ∧ (cfg.space = 20 ∨ cfg.space = 10) := by
  rw [ScanCfg.space]
  split
  · rename_i fine
    exact .inl ⟨fine, rfl⟩
  · rename_i coarse
    refine .inr ⟨coarse, ?_⟩
    split
    · exact .inl rfl
    · exact .inr rfl

theorem range_fits (cfg : ScanCfg) : cfg.range.Fits := by
  have spaces : cfg.space = 5 ∨ cfg.space = 20 ∨ cfg.space = 10 := by
    cases space_cases cfg with
    | inl fine => exact .inl fine.2
    | inr coarse => exact .inr coarse.2
  constructor
  · rw [range_space]
    omega
  · intro i inside
    rw [ScanRange.ch]
    rw [ScanCfg.range] at inside ⊢
    rcases spaces with five | twenty | ten
    · rw [five] at inside ⊢
      split at inside <;> (dsimp only at inside ⊢; omega)
    · rw [twenty] at inside ⊢
      split at inside <;> (dsimp only at inside ⊢; omega)
    · rw [ten] at inside ⊢
      split at inside <;> (dsimp only at inside ⊢; omega)

theorem channelNo_coarse (coarse : cfg.seekSpace ≠ 5) : cfg.range.channelNo ≤ 321 := by
  have spaces := (space_cases cfg).resolve_left fun fine => coarse fine.1
  rw [ScanCfg.range]
  rcases spaces.2 with twenty | ten
  · rw [twenty]
    split <;> decide
  · rw [ten]
    split <;> decide

/-- What the pass knows at its end, record by record. -/
theorem records_spec (inv : MergeInv cfg.range driver cfg.range.channelNo s.merge) :
    (∀ record ∈ s.data, (∃ i < cfg.range.channelNo, record.ch = cfg.range.ch i) ∧
      (driver record.ch).Acceptable ∧ record.rssi = (driver record.ch).rssi) ∧
    s.data.Pairwise fun first second =>
      first.ch + cfg.space < second.ch ∨ second.ch + cfg.space < first.ch := by
  refine ⟨?_, ?_⟩
  · intro record member
    exact inv.found (record.ch, record.rssi) (List.mem_map.mpr ⟨record, member, rfl⟩)
  · have apart := List.pairwise_map.mp inv.apart
    refine apart.imp ?_
    intro newer older far
    rw [range_space] at far
    exact .inr far

theorem report_perm (data : List Cqi) :
    (cfg.report data).Sublist (cfg.scanSort.sorted data.reverse) ∧
      (cfg.scanSort.sorted data.reverse).Perm data :=
  ⟨List.filter_sublist, (sorted_perm _).trans (List.reverse_perm _)⟩

theorem unit_ne {first second : Nat}
    (apart : first + cfg.space < second ∨ second + cfg.space < first) :
    cfg.unit first ≠ cfg.unit second := by
  rw [ScanCfg.unit, ScanCfg.unit]
  split <;> omega

/-- All that is asked of the report, whatever its length. -/
theorem report_sound (inv : MergeInv cfg.range driver cfg.range.channelNo s.merge)
    {result : Scanned}
    (table : result.table = (cfg.report s.data).map fun record => cfg.unit record.ch)
    (displaced : result.displaced = s.displaced) (records : result.recorded ≤ cqiChNumMax)
    (fits : result.table.length ≤ fmScanMaxChSize) : ScanSound cfg driver result := by
  obtain ⟨found, apart⟩ := records_spec inv
  obtain ⟨sublist, perm⟩ := @report_perm cfg s.data
  have inside : ∀ record ∈ cfg.report s.data, record ∈ s.data :=
    fun record member => perm.mem_iff.mp (sublist.subset member)
  have far : (cfg.report s.data).Pairwise fun first second =>
      first.ch + cfg.space < second.ch ∨ second.ch + cfg.space < first.ch :=
    (perm.symm.pairwise apart fun either => either.symm).sublist sublist
  have ordered := (sorted_pairwise s.data.reverse).sublist sublist
  have rssi : ∀ record ∈ cfg.report s.data, record.rssi = (driver record.ch).rssi :=
    fun record member => (found record (inside record member)).2.2
  constructor
  case records => exact records
  case fits => exact fits
  case distinct =>
      rw [table]
      exact List.pairwise_map.mpr (far.imp unit_ne)
  case listed =>
      refine ⟨(cfg.report s.data).map fun record => record.ch, ?_, ?_, ?_, ?_, ?_, ?_⟩
      · rw [table, List.map_map]
        rfl
      · intro ch member
        obtain ⟨record, reported, same⟩ := List.mem_map.mp member
        have all := found record (inside record reported)
        exact same ▸ ⟨all.1, all.2.1⟩
      · exact List.pairwise_map.mpr far
      · intro pair member _
        rw [displaced] at member
        exact inv.displaced pair member
      · intro up
        refine List.pairwise_map.mpr (ordered.imp_of_mem ?_)
        intro first second earlier later least
        rw [up] at least
        have low : first.rssi ≤ second.rssi := least
        rw [← rssi first earlier, ← rssi second later]
        exact low
      · intro down
        refine List.pairwise_map.mpr (ordered.imp_of_mem ?_)
        intro first second earlier later least
        rw [down] at least
        have low : -first.rssi ≤ -second.rssi := least
        rw [← rssi first earlier, ← rssi second later]
        omega

/-- A scan that reports nothing. -/
theorem nothing_sound {result : Scanned} (none : result.table = [])
    (recorded : result.recorded = 0) :
    ScanSound cfg driver result := by
  constructor
  case records =>
      rw [recorded]
      exact Nat.zero_le _
  case fits =>
      rw [none]
      exact Nat.zero_le _
  case distinct =>
      rw [none]
      exact List.Pairwise.nil
  case listed =>
      refine ⟨[], none, ?_, List.Pairwise.nil, ?_, fun _ => List.Pairwise.nil,
        fun _ => List.Pairwise.nil⟩
      · intro ch member
        cases member
      · intro pair _ member
        cases member

theorem recorded_few (inv : MergeInv cfg.range driver cfg.range.channelNo s.merge) :
    2 * s.data.length ≤ cfg.range.channelNo + 1 := by
  have few := inv.few
  have keys : s.merge.keys.length = s.data.length := List.length_map _
  have bound : (if s.merge.lastExist then 1 else 0) ≤ 1 := by
    split
    · exact Nat.le_refl 1
    · exact Nat.zero_le 1
  omega

theorem scan_coarse (coarse : cfg.seekSpace ≠ 5) : ScanSound cfg driver (cfg.scan driver) := by
  rw [ScanCfg.scan]
  cases run : cfg.range.pass driver cfg.range.channelNo 0 .start with
  | none => exact nothing_sound rfl rfl
  | some s =>
      have inv := pass_inv (range_fits cfg) run (Nat.zero_add _) (MergeInv.begins _ _)
      have few := recorded_few inv
      have count := channelNo_coarse coarse
      dsimp only
      split
      · exact nothing_sound rfl rfl
      · refine report_sound inv rfl rfl ?_ ?_
        · show s.data.length ≤ 255
          omega
        · obtain ⟨sublist, perm⟩ := @report_perm cfg s.data
          have shorter := sublist.length_le
          rw [perm.length_eq] at shorter
          show ((cfg.report s.data).map _).length ≤ 200
          rw [List.length_map]
          omega

end Report

/-- A station on every other channel of 50 kHz. -/
def everyOther : ScanDriver := fun freq =>
  { stopped := false
    ret := 0
    valid := decide (freq % 10 = 0)
    rssi := 0
    desense := decide (freq % 10 ≠ 0)
    severe := false }

/-- A pass over such a band: every other channel is recorded, and none is marked. -/
structure Alternating (i : Nat) (s : ScanState) : Prop where
  lastExist : s.lastExist = decide (i % 2 = 1)
  length : s.data.length = (i + 1) / 2
  strong : ∀ record ∈ s.data, record.rssi = 0 ∧ record.reserve = true
  quiet : s.floor.nacc = 0

namespace Alternating

variable {i : Nat} {s : ScanState} {nfSpace freq : Nat}

theorem mark_strong {floor : NoiseFloor} (quiet : floor.nacc = 0) {record : Cqi}
    (strong : record.rssi = 0) : ScanState.mark floor.level record = record := by
  rw [ScanState.mark, NoiseFloor.level, quiet, if_neg (Int.lt_irrefl 0), strong]
  exact if_neg (by decide)

theorem blockEnd (alternating : Alternating i s) (block : Nat) :
    Alternating i (s.blockEnd nfSpace block) := by
  rw [ScanState.blockEnd]
  split
  · have same : ((s.data.take (s.data.length - s.nfIdx)).map (ScanState.mark s.floor.level)) =
        s.data.take (s.data.length - s.nfIdx) := by
      refine (List.map_congr_left ?_).trans (List.map_id _)
      intro record member
      have strong := alternating.strong record (List.mem_of_mem_take member)
      exact mark_strong alternating.quiet strong.1
    dsimp only
    rw [same, List.take_append_drop]
    exact ⟨alternating.lastExist, alternating.length, alternating.strong, rfl⟩
  · exact alternating

theorem step (alternating : Alternating i s) (parity : freq % 10 = 5 * (i % 2)) :
    Alternating (i + 1) (s.step nfSpace i freq (everyOther freq)) := by
  obtain ⟨lastExist, length, strong, quiet⟩ := alternating
  rw [ScanState.step, everyOther]
  dsimp only
  rw [if_neg (fun other => other rfl)]
  by_cases even : i % 2 = 0
  · have on : freq % 10 = 0 := by omega
    have exist : s.lastExist = false := by
      rw [lastExist]
      exact decide_eq_false (by omega)
    rw [if_pos (decide_eq_true on), if_neg (by simp [on]), exist]
    dsimp only
    rw [if_neg Bool.false_ne_true]
    apply Alternating.blockEnd
    refine ⟨?_, ?_, ?_, quiet⟩
    · exact (decide_eq_true (by omega)).symm
    · rw [List.length_cons, length]
      omega
    · intro record member
      cases List.mem_cons.mp member with
      | inl same =>
          rw [same]
          exact ⟨rfl, rfl⟩
      | inr later => exact strong record later
  · have off : ¬ freq % 10 = 0 := by omega
    rw [if_neg (by simp [off]), if_pos (decide_eq_true off)]
    apply Alternating.blockEnd
    refine ⟨?_, ?_, strong, quiet⟩
    · exact (decide_eq_false (by omega)).symm
    · rw [length]
      omega

/-- Such a pass is not stopped, and goes on alternating. -/
theorem pass {range : ScanRange} (fits : range.Fits) (space : range.space = 5)
    (start : range.startFreq % 10 = 0) {left : Nat} (alternating : Alternating i s)
    (bound : i + left = range.channelNo) :
    ∃ t, range.pass everyOther left i s = some t ∧ Alternating range.channelNo t := by
  induction left generalizing i s with
  | zero =>
      refine ⟨s, rfl, ?_⟩
      rw [← bound]
      exact alternating
  | succ left ih =>
      have parity : range.freq i % 10 = 5 * (i % 2) := by
        rw [freq_eq fits (by omega), ScanRange.ch, space]
        omega
      obtain ⟨t, run, ends⟩ := ih (alternating.step parity) (by omega)
      exact ⟨t, run, ends⟩

end Alternating

section Fine

variable {cfg : ScanCfg}

theorem range_fine (fine : cfg.seekSpace = 5) :
    cfg.range.space = 5 ∧ cfg.range.startFreq % 10 = 0 ∧ 401 ≤ cfg.range.channelNo := by
  have space : cfg.space = 5 := if_pos fine
  rw [ScanCfg.range, space]
  split
  · decide
  · decide
  · decide

/-- With a station on every other channel the table is overrun. -/
theorem everyOther_overruns (fine : cfg.seekSpace = 5) :
    200 < (cfg.scan everyOther).table.length := by
  obtain ⟨space, start, many⟩ := range_fine fine
  have empty : ∀ record ∈ ScanState.start.data, record.rssi = 0 ∧ record.reserve = true := by
    intro record member
    cases member
  have begins : Alternating 0 ScanState.start := ⟨rfl, rfl, empty, rfl⟩
  obtain ⟨t, run, ends⟩ := begins.pass (range_fits cfg) space start (Nat.zero_add _)
  have length := ends.length
  rw [ScanCfg.scan, run]
  dsimp only
  rw [if_neg]
  · obtain ⟨_, perm⟩ := @report_perm cfg t.data
    have reserved : cfg.report t.data = cfg.scanSort.sorted t.data.reverse := by
      rw [ScanCfg.report, List.filter_eq_self]
      intro record member
      exact (ends.strong record (perm.mem_iff.mp member)).2
    show 200 < ((cfg.report t.data).map _).length
    rw [List.length_map, reserved, perm.length_eq]
    omega
  · intro none
    rw [none, List.length_nil] at length
    omega

end Fine

/-- A configured band is scanned soundly, whatever is on the air, unless its space is 50 kHz. -/
theorem scan_sound_iff (cfg : ScanCfg) :
    (∀ driver, ScanSound cfg driver (cfg.scan driver)) ↔ cfg.seekSpace ≠ 5 := by
  constructor
  · intro sound fine
    have fits := (sound everyOther).fits
    exact absurd fits (Nat.not_le_of_lt (everyOther_overruns fine))
  · intro coarse driver
    exact scan_coarse coarse

/-- The default band with a space of 50 kHz, where the table is overrun. -/
theorem not_scan_sound :
    ¬ ScanSound ⟨.ue, 5, .non⟩ everyOther
      ((⟨.ue, 5, .non⟩ : ScanCfg).scan everyOther) := by
  intro sound
  exact absurd sound.fits (Nat.not_le_of_lt (everyOther_overruns rfl))

end Connectivity.Fm
