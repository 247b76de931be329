import Connectivity.Nmea.HalEpoch

set_option autoImplicit false

/- When the two readers report the same satellites of an epoch. -/
namespace Connectivity.Nmea

variable {F : Type} {platform : Platform F} {groups : List GsvGroup} {g : GsvGroup}

/-- Both readers report one list, with every satellite of the epoch once and in order. -/
def Agree (platform : Platform F) (gnssMaxSvs : Nat) (nmeaCash : Int → NmeaCash)
    (r : HalReader F) (groups : List GsvGroup) : Prop :=
  (Parser.process platform nmeaCash (epoch groups)).svReports = [satellites platform groups] ∧
    (r.processEpoch platform gnssMaxSvs groups).svReports =
      r.svReports ++ [satellites platform groups]

/-- One group has satellites at all, and these are GPS satellites up to 31. -/
def OneGpsGroup (groups : List GsvGroup) : Prop :=
  ∃ g, groups.filter (fun g => !g.svs.isEmpty) = [g] ∧ g.talker = .gp ∧
    ∀ sv ∈ g.svs, str2int sv.id < 32

/-- Groups without satellites add nothing. -/
theorem flatMap_filled {α : Type} (groups : List GsvGroup) {list : GsvGroup → List α}
    (none : ∀ g, g.svs = [] → list g = []) :
    groups.flatMap list = (groups.filter fun g => !g.svs.isEmpty).flatMap list := by
  induction groups with
  | nil => rfl
  | cons g groups ih =>
      rw [List.flatMap_cons, ih, List.filter_cons]
      split
      next => rw [List.flatMap_cons]
      next empty =>
        have nothing : g.svs = [] := by
          rw [Bool.not_eq_true, Bool.not_eq_false'] at empty
          exact List.isEmpty_iff.mp empty
        rw [none g nothing, List.nil_append]

theorem satellites_filled (platform : Platform F) (groups : List GsvGroup) :
    satellites platform groups =
      satellites platform (groups.filter fun g => !g.svs.isEmpty) :=
  flatMap_filled groups fun g none => by
    rw [GsvGroup.infos, none]
    rfl

theorem listed_filled (platform : Platform F) (groups : List GsvGroup) :
    (groups.flatMap fun g => HalReader.listed (HalReader.taken platform g)) =
      (groups.filter fun g => !g.svs.isEmpty).flatMap fun g =>
        HalReader.listed (HalReader.taken platform g) :=
  flatMap_filled groups fun g none => by
    rw [HalReader.taken, none]
    rfl

/-- All of a group of GPS satellites up to 31 is taken as it is. -/
theorem taken_gps (platform : Platform F) (gps : g.talker = .gp)
    (small : ∀ sv ∈ g.svs, str2int sv.id < 32) :
    HalReader.taken platform g = g.infos platform := by
  rw [HalReader.taken, GsvGroup.infos, ← List.filterMap_eq_map']
  apply List.filterMap_congr
  intro sv member
  unfold SvText.halInfo
  rw [gps]
  exact if_pos (small sv member)

/-- If all of a group is taken as it is, it is one of GPS satellites up to 31. -/
theorem gps_of_taken (filled : g.svs ≠ [])
    (same : HalReader.taken platform g = g.infos platform) :
    g.talker = .gp ∧ ∀ sv ∈ g.svs, str2int sv.id < 32 := by
  have lengths := congrArg List.length same
  rw [HalReader.taken, GsvGroup.infos, List.length_map] at lengths
  have all := List.filterMap_length_eq_length.mp lengths
  have takes : ∀ sv ∈ g.svs, g.talker.HalTakes (str2int sv.id) := by
    intro sv member
    have taken := all sv member
    unfold SvText.halInfo at taken
    split at taken
    next takes => exact takes
    next => cases taken
  obtain ⟨sv, member⟩ := List.exists_mem_of_ne_nil _ filled
  -- the number of its constellation is the one that the daemon has for it
  have number : g.talker.halSvType.number = g.talker.constellation := by
    have info : { sv.info platform g.talker with
        constellation := g.talker.halSvType.number } ∈ HalReader.taken platform g := by
      refine List.mem_filterMap.mpr ⟨sv, member, ?_⟩
      exact if_pos (takes sv member)
    rw [same] at info
    obtain ⟨other, -, equal⟩ := List.mem_map.mp info
    exact (congrArg SvInfo.constellation equal).symm
  cases talker : g.talker with
  | gp =>
      rw [talker] at takes
      exact ⟨rfl, takes⟩
  | gl =>
      rw [talker] at number
      cases number
  | bd =>
      rw [talker] at number
      cases number
  | ga =>
      rw [talker] at takes
      exact (takes sv member).elim

theorem mem_satellites_length (platform : Platform F) (member : g ∈ groups) :
    ∃ front back, groups = front ++ g :: back ∧ (satellites platform groups).length =
      (front.flatMap GsvGroup.svs).length + g.svs.length + (back.flatMap GsvGroup.svs).length := by
  obtain ⟨front, back, split⟩ := List.append_of_mem member
  have length : ∀ groups : List GsvGroup, (satellites platform groups).length =
      (groups.flatMap GsvGroup.svs).length := by
    intro groups
    rw [satellites, List.length_flatMap, List.length_flatMap]
    congr 1
    exact List.map_congr_left fun g _ => List.length_map _
  refine ⟨front, back, split, ?_⟩
  rw [length, split, List.flatMap_append, List.flatMap_cons, List.length_append,
    List.length_append]
  omega

theorem filter_empty {groups : List GsvGroup} (none : groups.flatMap GsvGroup.svs = []) :
    (groups.filter fun g => !g.svs.isEmpty) = [] := by
  apply List.filter_eq_nil_iff.mpr
  intro g member
  rw [List.flatMap_eq_nil_iff.mp none g member]
  decide

/-- A single list that goes out with all satellites is that of the only group with any. -/
theorem oneGpsGroup_of_listed
    (same : (groups.flatMap fun g => HalReader.listed (HalReader.taken platform g)) =
      [satellites platform groups]) : OneGpsGroup groups := by
  have only : satellites platform groups ∈
      groups.flatMap fun g => HalReader.listed (HalReader.taken platform g) := by
    rw [same]
    exact List.mem_singleton.mpr rfl
  obtain ⟨g, member, there⟩ := List.mem_flatMap.mp only
  unfold HalReader.listed at there
  split at there
  next => cases there
  next some =>
    have all := List.mem_singleton.mp there
    have most := List.length_filterMap_le (SvText.halInfo platform g.talker) g.svs
    obtain ⟨front, back, split, length⟩ := mem_satellites_length platform member
    rw [all, HalReader.taken] at length
    have front_empty := List.length_eq_zero_iff.mp
      (by omega : (front.flatMap GsvGroup.svs).length = 0)
    have back_empty := List.length_eq_zero_iff.mp
      (by omega : (back.flatMap GsvGroup.svs).length = 0)
    have filled : g.svs ≠ [] := by
      intro none
      rw [HalReader.taken, none] at some
      exact some rfl
    have nonempty : (!g.svs.isEmpty) = true := by
      rw [Bool.not_eq_true', List.isEmpty_eq_false_iff]
      exact filled
    have one : (groups.filter fun g => !g.svs.isEmpty) = [g] := by
      rw [split, List.filter_append, filter_empty front_empty, List.filter_cons, if_pos nonempty,
        filter_empty back_empty, List.nil_append]
    rw [satellites_filled, one, satellites, List.flatMap_singleton] at all
    exact ⟨g, one, gps_of_taken filled all.symm⟩

theorem oneGpsGroup_of_agree {gnssMaxSvs : Nat} {nmeaCash : Int → NmeaCash} {r : HalReader F}
    (gps : platform.gpsMaxSvs = 32) (idle : r.Idle)
    (room : (groups.flatMap GsvGroup.svs).length ≤ min 64 gnssMaxSvs)
    (agree : Agree platform gnssMaxSvs nmeaCash r groups) : OneGpsGroup groups := by
  have same := agree.2
  rw [HalReader.processEpoch_reports gps room idle, List.append_cancel_left_eq] at same
  exact oneGpsGroup_of_listed same

/-- The readers agree exactly on the epochs in which one group has satellites, all of them GPS
satellites up to 31. -/
theorem gsv_readers_agree_iff (platform : Platform F) (gnssMaxSvs : Nat)
    (nmeaCash : Int → NmeaCash) (r : HalReader F) (groups : List GsvGroup)
    (gps : platform.gpsMaxSvs = 32) (idle : r.Idle)
    (room : (groups.flatMap GsvGroup.svs).length ≤ min 64 gnssMaxSvs) :
    Agree platform gnssMaxSvs nmeaCash r groups ↔ OneGpsGroup groups := by
  refine ⟨oneGpsGroup_of_agree gps idle room, ?_⟩
  rintro ⟨g, only, gp, small⟩
  have some : groups ≠ [] := by
    rintro rfl
    cases only
  have filled : g.svs ≠ [] := by
    have member : g ∈ groups.filter fun g => !g.svs.isEmpty := by
      rw [only]
      exact List.mem_singleton.mpr rfl
    have checked := (List.mem_filter.mp member).2
    intro none
    rw [none] at checked
    cases checked
  refine ⟨Parser.process_epoch platform nmeaCash some (by omega), ?_⟩
  rw [HalReader.processEpoch_reports gps room idle, listed_filled, satellites_filled, only,
    satellites, List.flatMap_singleton, List.flatMap_singleton, taken_gps platform gp small]
  exact congrArg (r.svReports ++ ·) (if_neg (mt List.map_eq_nil_iff.mp filled))

/-- A group of one sentence with one satellite. -/
def oneSatelliteSentence (id : List UInt8) : GsvSentence where
  num := [49]
  seq := [49]
  cnt := [48, 49]
  svs := [⟨id, [49, 48], [48, 50, 48], [51, 48]⟩]
  checksum := [55, 65]

theorem oneSatellite_complete {talker : Talker} {id : List UInt8}
    (plain : (oneSatelliteSentence id).Plain talker) (serves : talker.Serves (str2int id)) :
    CompleteGroup talker [oneSatelliteSentence id] where
  nonempty := List.cons_ne_nil _ _
  numbered k s there := by
    cases k with
    | zero =>
        cases there
        exact ⟨(by decide : str2int [49] = 1), (by decide : str2int [49] = 1),
          (by decide : str2int [48, 49] = 1)⟩
    | succ k => cases there
  full s member := absurd member List.not_mem_nil
  last s member := by
    cases List.mem_singleton.mp member
    exact (by decide : 1 ≤ 4)
  plain s member := by
    cases List.mem_singleton.mp member
    exact plain
  serves sv member := by
    cases List.mem_singleton.mp member
    exact serves
  distinct := List.pairwise_singleton _ _

/-- It is plain whatever number of one or two digits the satellite has. -/
theorem oneSatellite_plain (talker : Talker) {id : List UInt8} (short : id.length ≤ 2)
    (free : ∀ byte ∈ id, byte ∉ separators) : (oneSatelliteSentence id).Plain talker where
  numbers text member := by
    have others : ∀ text ∈ ([[49], [49], [48, 49], [49, 48], [48, 50, 48], [51, 48]] :
        List (List UInt8)), ∀ byte ∈ text, byte ∉ separators := by
      simp [separators, comma, newline]
    by_cases number : text = id
    · rw [number]
      exact free
    · apply others
      have among : text ∈ [[49], [49], [48, 49], id, [49, 48], [48, 50, 48], [51, 48]] := member
      simp only [List.mem_cons, number, false_or] at among ⊢
      exact among
  cnt := List.cons_ne_nil _ _
  checksum := (by decide : ([55, 65] : List UInt8).length = 2 ∧ newline ∉ ([55, 65] : List UInt8))
  fits := by
    have texts : (oneSatelliteSentence id).texts talker = [talker.text ++ [71, 83, 86], [49], [49],
      [48, 49], id, [49, 48], [48, 50, 48], [51, 48]] := rfl
    have name : talker.text.length = 2 := by cases talker <;> rfl
    have checksum : (oneSatelliteSentence id).checksum.length = 2 := rfl
    rw [GsvSentence.line, GsvSentence.content, texts, nmeaMaxSize]
    simp only [joined, List.length_append, List.length_cons, List.length_nil, name, checksum]
    omega

theorem complete_five : CompleteGroup .gp [oneSatelliteSentence [48, 53]] :=
  oneSatellite_complete (oneSatellite_plain .gp (by decide) (by simp [separators, comma, newline]))
    (by decide)

theorem complete_six : CompleteGroup .gp [oneSatelliteSentence [48, 54]] :=
  oneSatellite_complete (oneSatellite_plain .gp (by decide) (by simp [separators, comma, newline]))
    (by decide)

theorem complete_last : CompleteGroup .gp [oneSatelliteSentence [51, 50]] :=
  oneSatellite_complete (oneSatellite_plain .gp (by decide) (by simp [separators, comma, newline]))
    (by decide)

theorem complete_glonass : CompleteGroup .gl [oneSatelliteSentence [54, 53]] :=
  oneSatellite_complete (oneSatellite_plain .gl (by decide) (by simp [separators, comma, newline]))
    (by decide)

/-- The GPS satellites 5, 6 and 32 and the GLONASS satellite 65. -/
def gpsFive : GsvGroup := ⟨.gp, [oneSatelliteSentence [48, 53]], complete_five⟩

def gpsSix : GsvGroup := ⟨.gp, [oneSatelliteSentence [48, 54]], complete_six⟩

def gpsLast : GsvGroup := ⟨.gp, [oneSatelliteSentence [51, 50]], complete_last⟩

def glonassFirst : GsvGroup := ⟨.gl, [oneSatelliteSentence [54, 53]], complete_glonass⟩

theorem gsv_readers_agree_five :
    Agree intPlatform 64 CashTable.clear (.init intPlatform) [gpsFive] := by
  refine (gsv_readers_agree_iff intPlatform 64 CashTable.clear (.init intPlatform) [gpsFive] rfl
    (HalReader.init_idle intPlatform) (by decide)).mpr ?_
  refine ⟨gpsFive, rfl, rfl, fun sv member => ?_⟩
  cases List.mem_singleton.mp member
  decide

/-- One reader has no GPS satellite 32, another number for GLONASS, and a list for each group. -/
theorem gsv_readers_differ :
    ¬ Agree intPlatform 64 CashTable.clear (.init intPlatform) [gpsLast] ∧
    ¬ Agree intPlatform 64 CashTable.clear (.init intPlatform) [glonassFirst] ∧
    ¬ Agree intPlatform 64 CashTable.clear (.init intPlatform) [gpsFive, gpsSix] := by
  have idle := HalReader.init_idle intPlatform
  refine ⟨fun agree => ?_, fun agree => ?_, fun agree => ?_⟩
  · obtain ⟨g, only, -, small⟩ := oneGpsGroup_of_agree rfl idle (by decide) agree
    cases only
    exact absurd (small ⟨[51, 50], [49, 48], [48, 50, 48], [51, 48]⟩ (by decide)) (by decide)
  · obtain ⟨g, only, gp, -⟩ := oneGpsGroup_of_agree rfl idle (by decide) agree
    cases only
    cases gp
  · obtain ⟨g, only, -, -⟩ := oneGpsGroup_of_agree rfl idle (by decide) agree
    cases only

end Connectivity.Nmea
