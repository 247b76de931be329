import Connectivity.Nmea.GsvGroup
import Connectivity.Nmea.HalReader
import Connectivity.Table.Gather

set_option autoImplicit false

/- What a sentence of a complete group makes of the satellites, in the daemon's reader and in
that of `gpsinf3337.c`. -/
namespace Connectivity.Nmea

open Gather

/-- What is reported of a satellite beside its flags. -/
structure SvInfo (F : Type) where
  constellation : UInt8
  svid : Int
  elevation : F
  azimuth : F
  cN0Dbhz : F

/-- The values of the daemon's enumeration. -/
def SvType.number : SvType → UInt8
  | .unknown => 0
  | .gps => 1
  | .sbas => 2
  | .glonass => 3
  | .qzss => 4
  | .bds => 5
  | .galileo => 6

def GnssSv.info {F : Type} (sv : GnssSv F) : SvInfo F :=
  ⟨sv.constellation.number, sv.svid, sv.elevation, sv.azimuth, sv.cN0Dbhz⟩

def HalGnssSv.info {F : Type} (sv : HalGnssSv F) : SvInfo F :=
  ⟨sv.constellation.number, sv.svid, sv.elevation, sv.azimuth, sv.cN0Dbhz⟩

namespace Talker

def svType : Talker → SvType
  | .gp => .gps
  | .gl => .glonass
  | .bd => .bds
  | .ga => .galileo

def halSvType : Talker → HalSvType
  | .gp => .gps
  | .gl => .glonass
  | .bd => .bds
  | .ga => .galileo

/-- The `MTK_GNSS_CONSTELLATION` values of `hal_mnl_interface_common.h`. -/
def constellation : Talker → UInt8
  | .gp => 1
  | .gl => 3
  | .bd => 5
  | .ga => 6

/-- GLONASS satellites count from one. -/
def svid : Talker → Int → Int
  | .gl, id => id - 64
  | .gp, id | .bd, id | .ga, id => id

/-- The satellites that the reader of `gpsinf3337.c` takes. -/
def HalTakes : Talker → Int → Prop
  | .gp, id => id < 32
  | .gl, _ => True
  | .bd, id => id ≤ 32
  | .ga, _ => False

instance (talker : Talker) (id : Int) : Decidable (talker.HalTakes id) :=
  match talker with
  | .gp => inferInstanceAs (Decidable (id < 32))
  | .gl => inferInstanceAs (Decidable True)
  | .bd => inferInstanceAs (Decidable (id ≤ 32))
  | .ga => inferInstanceAs (Decidable False)

end Talker

variable {F : Type} {platform : Platform F} {talker : Talker} {s : GsvSentence}
  {tokens : List (List UInt8)} {k n total : Nat}

/-- What a satellite of a sentence is. -/
def SvText.info (platform : Platform F) (talker : Talker) (sv : SvText) : SvInfo F where
  constellation := talker.constellation
  svid := talker.svid (str2int sv.id)
  elevation := platform.ofInt (str2int sv.elevation)
  azimuth := platform.ofInt (str2int sv.azimuth)
  cN0Dbhz := platform.str2float sv.snr

/-- What the reader of `gpsinf3337.c` makes of it, with the constellation of its own count. -/
def SvText.halInfo (platform : Platform F) (talker : Talker) (sv : SvText) :
    Option (SvInfo F) :=
  if talker.HalTakes (str2int sv.id) then
    some { sv.info platform talker with constellation := talker.halSvType.number }
  else none

/-- The number that a satellite has inside the daemon's reader stands for it. -/
theorem svOf_serves {id : Int} (serves : talker.Serves id) :
    svOf (id + talker.svType.offset) = some (talker.svid id, talker.svType) := by
  cases talker with
  | gp =>
      simp only [Talker.Serves] at serves
      simp only [Talker.svType, SvType.offset, Talker.svid, Int.add_zero]
      unfold svOf
      rw [if_pos (by omega)]
  | gl =>
      simp only [Talker.Serves] at serves
      simp only [Talker.svType, SvType.offset, Talker.svid, Int.add_zero]
      unfold svOf
      rw [if_neg (by omega), if_pos (by omega)]
  | bd =>
      simp only [Talker.Serves] at serves
      simp only [Talker.svType, SvType.offset, Talker.svid]
      unfold svOf
      rw [if_neg (by omega), if_neg (by omega), if_pos (by omega), Int.add_sub_cancel]
  | ga =>
      simp only [Talker.Serves] at serves
      simp only [Talker.svType, SvType.offset, Talker.svid]
      unfold svOf
      rw [if_neg (by omega), if_neg (by omega), if_neg (by omega), if_pos (by omega),
        Int.add_sub_cancel]

/-- In the reader of `gpsinf3337.c` so does that of one it takes, -/
theorem halSvOf_takes {id : Int} (serves : talker.Serves id) (takes : talker.HalTakes id) :
    ¬ halIgnores 32 (id + talker.halSvType.offset) ∧
      halSvOf (id + talker.halSvType.offset) = some (talker.svid id, talker.halSvType) := by
  cases talker with
  | gp =>
      simp only [Talker.Serves] at serves
      simp only [Talker.HalTakes] at takes
      simp only [Talker.halSvType, HalSvType.offset, Talker.svid, Int.add_zero]
      unfold halIgnores halSvOf
      refine ⟨by omega, ?_⟩
      rw [if_pos (by omega)]
  | gl =>
      simp only [Talker.Serves] at serves
      simp only [Talker.halSvType, HalSvType.offset, Talker.svid, Int.add_zero]
      unfold halIgnores halSvOf
      refine ⟨by omega, ?_⟩
      rw [if_neg (by omega), if_pos (by omega)]
  | bd =>
      simp only [Talker.Serves] at serves
      simp only [Talker.HalTakes] at takes
      simp only [Talker.halSvType, HalSvType.offset, Talker.svid]
      unfold halIgnores halSvOf
      refine ⟨by omega, ?_⟩
      rw [if_neg (by omega), if_neg (by omega), if_pos (by omega), Int.add_sub_cancel]
  | ga => exact takes.elim

/-- and that of any other stands for none. -/
theorem halSvOf_drops {id : Int} (serves : talker.Serves id) (drops : ¬ talker.HalTakes id) :
    halIgnores 32 (id + talker.halSvType.offset) ∨
      halSvOf (id + talker.halSvType.offset) = none := by
  cases talker with
  | gp =>
      simp only [Talker.Serves] at serves
      simp only [Talker.HalTakes] at drops
      simp only [Talker.halSvType, HalSvType.offset, Int.add_zero]
      unfold halIgnores halSvOf
      refine Or.inr ?_
      rw [if_neg (by omega), if_neg (by omega), if_neg (by omega), if_neg (by omega)]
  | gl => exact absurd trivial drops
  | bd =>
      simp only [Talker.HalTakes] at drops
      simp only [Talker.halSvType, HalSvType.offset]
      unfold halIgnores halSvOf
      refine Or.inl ?_
      omega
  | ga =>
      simp only [Talker.Serves] at serves
      simp only [Talker.halSvType, HalSvType.offset]
      unfold halIgnores halSvOf
      refine Or.inl ?_
      omega

theorem serves_range {id : Int} (serves : talker.Serves id) : 1 ≤ id ∧ id ≤ 96 := by
  cases talker with
  | gp | gl | bd | ga =>
      simp only [Talker.Serves] at serves
      omega

theorem number_svType (talker : Talker) : talker.svType.number = talker.constellation := by
  cases talker with
  | gp | gl | bd | ga => rfl

section Sentence

/-- The `k`-th sentence of `n` that have `total` satellites, from zero. -/
structure Part (talker : Talker) (s : GsvSentence) (k n total : Nat)
    (tokens : List (List UInt8)) : Prop where
  tokenized : s.Tokenized talker tokens
  num : str2int s.num = n
  seq : str2int s.seq = k + 1
  cnt : str2int s.cnt = total
  serves : ∀ sv ∈ s.svs, talker.Serves (str2int sv.id)
  loops : gsvLoops tokens = s.svs.length

theorem Part.gsvNum (part : Part talker s k n total tokens) : gsvNum tokens = n := by
  rw [Nmea.gsvNum, part.tokenized]
  exact part.num

theorem Part.gsvSeq (part : Part talker s k n total tokens) : gsvSeq tokens = k + 1 := by
  rw [Nmea.gsvSeq, part.tokenized]
  exact part.seq

theorem Part.gsvCnt (part : Part talker s k n total tokens) : gsvCnt tokens = total := by
  rw [Nmea.gsvCnt, part.tokenized]
  exact part.cnt

/-- The four fields of a satellite of a sentence. -/
theorem Part.field (part : Part talker s k n total tokens) {idx : Nat} {sv : SvText}
    (there : s.svs[idx]? = some sv) {place : Nat} (inside : place < 4) :
    getToken tokens (4 * (idx + 1) + place) = sv.fields.getD place [] := by
  have behind : 4 * (idx + 1) + place = 4 * idx + place + 1 + 1 + 1 + 1 := by omega
  rw [part.tokenized, behind]
  exact flatMap_fields there inside

theorem Part.serves_at (part : Part talker s k n total tokens) {idx : Nat} {sv : SvText}
    (there : s.svs[idx]? = some sv) : talker.Serves (str2int sv.id) :=
  part.serves sv (List.mem_of_getElem? there)

/-- The number of a satellite, which an offset takes no further than an `int`. -/
theorem Part.id (part : Part talker s k n total tokens) {idx : Nat} (inside : idx < s.svs.length)
    {offset : Int} (moved : 0 ≤ offset ∧ offset ≤ 400) :
    int32 (str2int (getToken tokens (4 * (idx + 1))) + offset) =
      str2int s.svs[idx].id + offset := by
  have there := List.getElem?_eq_getElem inside
  have range := serves_range (part.serves_at there)
  have number : getToken tokens (4 * (idx + 1)) = s.svs[idx].id :=
    part.field there (Nat.zero_lt_succ 3)
  rw [number]
  exact int32_small (by omega) (by omega)

theorem length_flatMap_full {sentences : List GsvSentence}
    (full : ∀ s ∈ sentences, s.svs.length = 4) :
    (sentences.flatMap (·.svs)).length = 4 * sentences.length := by
  induction sentences with
  | nil => rfl
  | cons s sentences ih =>
      have first := full s List.mem_cons_self
      rw [List.flatMap_cons, List.length_append, first,
        ih fun other member => full other (List.mem_cons_of_mem _ member), List.length_cons]
      omega

/-- The satellites of a complete group before, in and behind a sentence. -/
theorem CompleteGroup.place {sentences : List GsvSentence}
    (complete : CompleteGroup talker sentences) (there : sentences[k]? = some s) :
    s.svs.length ≤ 4 ∧ 4 * k + s.svs.length ≤ (sentences.flatMap (·.svs)).length ∧
      (s.svs.length = 4 ∨ (sentences.flatMap (·.svs)).length = 4 * k + s.svs.length) := by
  obtain ⟨bound, same⟩ := List.getElem?_eq_some_iff.mp there
  have few := complete.last s (List.mem_of_getElem? there)
  have front : ((sentences.take k).flatMap (·.svs)).length = 4 * k := by
    rw [length_flatMap_full, List.length_take, Nat.min_eq_left (Nat.le_of_lt bound)]
    intro other member
    apply complete.full
    rw [List.dropLast_eq_take, ← Nat.min_eq_left (Nat.le_sub_one_of_lt bound), ← List.take_take]
      at *
    exact List.mem_of_mem_take member
  have all : (sentences.flatMap (·.svs)).length =
      4 * k + s.svs.length + ((sentences.drop (k + 1)).flatMap (·.svs)).length := by
    conv_lhs => rw [← List.take_append_drop k sentences, List.drop_eq_getElem_cons bound, same]
    rw [List.flatMap_append, List.flatMap_cons, List.length_append, List.length_append, front]
    omega
  refine ⟨few, by omega, ?_⟩
  by_cases last : k + 1 = sentences.length
  · refine Or.inr ?_
    rw [all, last, List.drop_length]
    rfl
  · refine Or.inl (complete.full s (List.mem_of_getElem? (i := k) ?_))
    rw [List.dropLast_eq_take, List.getElem?_take_of_lt (by omega)]
    exact there

theorem CompleteGroup.part {sentences : List GsvSentence}
    (complete : CompleteGroup talker sentences) (there : sentences[k]? = some s)
    (tokenized : s.Tokenized talker tokens)
    (small : (sentences.flatMap (·.svs)).length ≤ 64) :
    Part talker s k sentences.length (sentences.flatMap (·.svs)).length tokens := by
  obtain ⟨num, seq, cnt⟩ := complete.numbered k s there
  obtain ⟨few, before, behind⟩ := complete.place there
  refine ⟨tokenized, num, seq, cnt, fun sv member => complete.serves sv ?_, ?_⟩
  · exact List.mem_flatMap.mpr ⟨s, List.mem_of_getElem? there, member⟩
  · have seq_token : gsvSeq tokens = k + 1 := by
      rw [Nmea.gsvSeq, tokenized]
      exact seq
    have cnt_token : gsvCnt tokens = (sentences.flatMap (·.svs)).length := by
      rw [Nmea.gsvCnt, tokenized]
      exact cnt
    have first : int32 (k : Int) = k := int32_small (by omega) (by omega)
    have fourfold : int32 ((k : Int) * 4) = k * 4 := int32_small (by omega) (by omega)
    have base : int32 (int32 (gsvSeq tokens - 1) * nmeaMaxSvInfo) = k * 4 := by
      unfold nmeaMaxSvInfo
      rw [seq_token, Int.add_sub_cancel, first, fourfold]
    show (min (int32 (gsvCnt tokens - int32 (int32 (gsvSeq tokens - 1) * nmeaMaxSvInfo)))
      nmeaMaxSvInfo).toNat = _
    rw [base, cnt_token, int32_small (by omega) (by omega)]
    unfold nmeaMaxSvInfo
    omega

/-- The next place of a table that has room, and the count behind it. -/
theorem gathered_places {done pending : List (SvInfo F)} {numSvs svCount : Int}
    {infos : Int → SvInfo F} (gathered : Gathered done pending numSvs svCount infos)
    (room : done.length + pending.length < 64) :
    int32 (svCount + numSvs) = svCount + numSvs ∧ int32 (svCount + 1) = svCount + 1 := by
  have counted := gathered.count
  have more := gathered.more
  exact ⟨int32_small (by omega) (by omega), int32_small (by omega) (by omega)⟩

end Sentence

namespace SvReader

variable {r : SvReader F} {done pending : List (SvInfo F)}

def infos (r : SvReader F) : Int → SvInfo F := fun index => (r.svList index).info

theorem gsvTurn_gathered (platform : Platform F) (nmeaCash : Int → NmeaCash)
    (part : Part talker s k n total tokens)
    {idx : Nat} (inside : idx < s.svs.length)
        (gathered : Gathered done pending r.numSvs r.svCount r.infos)
    (room : done.length + pending.length < 64) :
    let t := gsvTurn platform nmeaCash talker.svType tokens r idx
    Gathered done (pending ++ (s.svs[idx]?.bind fun sv => some (sv.info platform talker)).toList)
      t.numSvs t.svCount t.infos := by
  have there := List.getElem?_eq_getElem inside
  have serves := part.serves_at there
  have moved : 0 ≤ talker.svType.offset ∧ talker.svType.offset ≤ 400 := by
    cases talker with
    | gp | gl | bd | ga => decide
  have id : gsvId talker.svType tokens idx = str2int s.svs[idx].id + talker.svType.offset :=
    part.id inside moved
  have counted := gathered.count
  have more := gathered.more
  obtain ⟨index, next⟩ := gathered_places gathered room
  intro t
  have turned : t = gsvTurn platform nmeaCash talker.svType tokens r idx := rfl
  unfold gsvTurn updateSvStatus svIndex at turned
  rw [index, if_neg (by unfold maxSvs; omega), id, svOf_serves serves] at turned
  dsimp only at turned
  rw [next] at turned
  rw [there, turned]
  refine gathered.push ?_ fun other different => ?_
  · unfold infos GnssSv.info
    dsimp only
    rw [if_pos rfl, number_svType, part.field there (by decide), part.field there (by decide),
      part.field there (by decide)]
    rfl
  · unfold infos
    dsimp only
    rw [if_neg different]

/-- Before the sentence at a place of its group. The first one starts the count again. -/
def Ready (k : Nat) (done pending : List (SvInfo F)) (r : SvReader F) : Prop :=
  Gathered done pending r.numSvs (if k = 0 then 0 else r.svCount) r.infos

/-- The first sentence of a group starts a new one, and any other goes on with it. -/
theorem Ready.started (part : Part talker s k n total tokens) (ready : Ready k done pending r) :
    Gathered done pending (gsvStart tokens r).numSvs (gsvStart tokens r).svCount
      (gsvStart tokens r).infos := by
  unfold Ready at ready
  unfold gsvStart
  rw [part.gsvSeq]
  by_cases first : k = 0
  · rw [if_pos first] at ready
    rw [if_pos (by omega)]
    exact ready
  · rw [if_neg first] at ready
    rw [if_neg (by omega)]
    exact ready

theorem Ready.turns (platform : Platform F) (nmeaCash : Int → NmeaCash)
    (part : Part talker s k n total tokens) (ready : Ready k done pending r)
    (room : done.length + pending.length + s.svs.length ≤ 64) :
    let t := gsvTurns platform nmeaCash talker.svType tokens (gsvLoops tokens) (gsvStart tokens r)
    Gathered done (pending ++ s.svs.map (SvText.info platform talker)) t.numSvs t.svCount
      t.infos := by
  have turned := Gathered.foldl
    (fun r idx pending inside gathered room =>
      gsvTurn_gathered platform nmeaCash part inside gathered room)
    (ready.started part) s.svs.length (Nat.le_refl _) room
  rw [filterMap_places, List.filterMap_eq_map'] at turned
  rw [part.loops]
  exact turned

/-- Behind a sentence that is not the last its satellites wait for the others. -/
theorem Ready.more (platform : Platform F) (nmeaCash : Int → NmeaCash)
    (part : Part talker s k n total tokens) (ready : Ready k done pending r)
    (room : done.length + pending.length + s.svs.length ≤ 64) (more : k + 1 ≠ n) :
    Ready (k + 1) done (pending ++ s.svs.map (SvText.info platform talker))
      (gsv platform nmeaCash talker.svType tokens r) := by
  have turned := ready.turns platform nmeaCash part room
  unfold Ready gsv gsvEnd
  rw [part.gsvSeq, part.gsvNum, if_neg (by omega), if_neg (Nat.succ_ne_zero k)]
  exact turned

/-- Behind the last one all of the group count. -/
theorem Ready.last (platform : Platform F) (nmeaCash : Int → NmeaCash)
    (part : Part talker s k n total tokens) (ready : Ready k done pending r)
    (room : done.length + pending.length + s.svs.length ≤ 64)
    (few : pending.length + s.svs.length ≤ total) (last : k + 1 = n) :
    Ready 0 (done ++ (pending ++ s.svs.map (SvText.info platform talker))) []
      (gsv platform nmeaCash talker.svType tokens r) := by
  have turned := ready.turns platform nmeaCash part room
  have committed := turned.commit
  have counted := turned.count
  have found := turned.more
  rw [List.length_append, List.length_map] at found
  unfold Ready gsv gsvEnd
  rw [part.gsvSeq, part.gsvNum, part.gsvCnt, if_pos (by omega), if_pos (by omega), if_pos rfl]
  dsimp only
  rw [int32_small (by omega) (by omega)]
  exact committed

end SvReader

namespace HalReader

variable {r : HalReader F} {done pending : List (SvInfo F)}

def infos (r : HalReader F) : Int → SvInfo F := fun index => (r.svList index).info

theorem gsvTurn_gathered (gnssMaxSvs : Nat) (gps : platform.gpsMaxSvs = 32)
    (part : Part talker s k n total tokens) {idx : Nat} (inside : idx < s.svs.length)
    (gathered : Gathered done pending r.numSvs r.svCount r.infos)
    (room : done.length + pending.length < min 64 gnssMaxSvs) :
    let t := gsvTurn platform gnssMaxSvs talker.halSvType tokens r idx
    Gathered done (pending ++ (s.svs[idx]?.bind (SvText.halInfo platform talker)).toList)
      t.numSvs t.svCount t.infos := by
  have there := List.getElem?_eq_getElem inside
  have serves := part.serves_at there
  have moved : 0 ≤ talker.halSvType.offset ∧ talker.halSvType.offset ≤ 400 := by
    cases talker with
    | gp | gl | bd | ga => decide
  have id : svId talker.halSvType tokens idx =
      str2int s.svs[idx].id + talker.halSvType.offset := part.id inside moved
  have counted := gathered.count
  have more := gathered.more
  obtain ⟨index, next⟩ := gathered_places gathered (by omega)
  have free : ¬ (gnssMaxSvs : Int) ≤ r.svCount := by omega
  intro t
  have turned : t = gsvTurn platform gnssMaxSvs talker.halSvType tokens r idx := rfl
  unfold gsvTurn updateSvStatus svIndex at turned
  rw [index, id, gps] at turned
  rw [there, Option.bind_some, SvText.halInfo]
  by_cases takes : talker.HalTakes (str2int s.svs[idx].id)
  · obtain ⟨heeds, stands⟩ := halSvOf_takes serves takes
    rw [if_neg (not_or.mpr ⟨heeds, free⟩), if_neg (by omega), stands] at turned
    dsimp only at turned
    rw [next] at turned
    rw [if_pos takes, turned]
    refine gathered.push ?_ fun other different => ?_
    · unfold infos HalGnssSv.info
      dsimp only
      rw [if_pos rfl, part.field there (by decide), part.field there (by decide),
        part.field there (by decide)]
      rfl
    · unfold infos
      dsimp only
      rw [if_neg different]
  · have same : t = r := by
      rw [turned]
      rcases halSvOf_drops serves takes with ignored | none
      · rw [if_pos (Or.inl ignored)]
      · split
        next => rfl
        next => rw [if_neg (by omega), none]
    rw [if_neg takes, same]
    show Gathered done (pending ++ []) _ _ _
    rw [List.append_nil]
    exact gathered

/-- Before the sentence at a place of its group. The first one starts the count again. -/
def Ready (k : Nat) (done pending : List (SvInfo F)) (r : HalReader F) : Prop :=
  Gathered done pending r.numSvs (if k = 0 then 0 else r.svCount) r.infos

theorem Ready.started (part : Part talker s k n total tokens) (ready : Ready k done pending r) :
    Gathered done pending (gsvStart tokens r).numSvs (gsvStart tokens r).svCount
      (gsvStart tokens r).infos := by
  unfold Ready at ready
  unfold gsvStart
  rw [part.gsvSeq]
  by_cases first : k = 0
  · rw [if_pos first] at ready
    rw [if_pos (by omega)]
    exact ready
  · rw [if_neg first] at ready
    rw [if_neg (by omega)]
    exact ready

theorem Ready.turns (gnssMaxSvs : Nat) (gps : platform.gpsMaxSvs = 32)
    (part : Part talker s k n total tokens) (ready : Ready k done pending r)
    (room : done.length + pending.length + s.svs.length ≤ min 64 gnssMaxSvs) :
    let t := gsvTurns platform gnssMaxSvs talker.halSvType tokens (gsvLoops tokens)
      (gsvStart tokens r)
    Gathered done (pending ++ s.svs.filterMap (SvText.halInfo platform talker)) t.numSvs t.svCount
      t.infos := by
  have turned := Gathered.foldl
    (fun r idx pending inside gathered room =>
      gsvTurn_gathered gnssMaxSvs gps part inside gathered room)
    (ready.started part) s.svs.length (Nat.le_refl _) room
  rw [filterMap_places] at turned
  rw [part.loops]
  exact turned

theorem Ready.more (gnssMaxSvs : Nat) (gps : platform.gpsMaxSvs = 32)
    (part : Part talker s k n total tokens) (ready : Ready k done pending r)
    (room : done.length + pending.length + s.svs.length ≤ min 64 gnssMaxSvs)
    (more : k + 1 ≠ n) :
    Ready (k + 1) done (pending ++ s.svs.filterMap (SvText.halInfo platform talker))
      (gsv platform gnssMaxSvs talker.halSvType tokens r) := by
  have turned := ready.turns gnssMaxSvs gps part room
  unfold Ready gsv gsvEnd
  rw [part.gsvSeq, part.gsvNum, if_neg (by omega), if_neg (Nat.succ_ne_zero k)]
  exact turned

theorem Ready.last (gnssMaxSvs : Nat) (gps : platform.gpsMaxSvs = 32)
    (part : Part talker s k n total tokens) (ready : Ready k done pending r)
    (room : done.length + pending.length + s.svs.length ≤ min 64 gnssMaxSvs)
    (few : pending.length + s.svs.length ≤ total) (last : k + 1 = n) :
    Ready 0 (done ++ (pending ++ s.svs.filterMap (SvText.halInfo platform talker))) []
      (gsv platform gnssMaxSvs talker.halSvType tokens r) := by
  have turned := ready.turns gnssMaxSvs gps part room
  have committed := turned.commit
  have counted := turned.count
  have found := turned.more
  have kept := List.length_filterMap_le (SvText.halInfo platform talker) s.svs
  rw [List.length_append] at found
  unfold Ready gsv gsvEnd
  rw [part.gsvSeq, part.gsvNum, part.gsvCnt, if_pos (by omega), if_pos (by omega), if_pos rfl]
  dsimp only
  rw [int32_small (by omega) (by omega)]
  exact committed

end HalReader

end Connectivity.Nmea
