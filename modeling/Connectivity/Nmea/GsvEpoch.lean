import Connectivity.Nmea.GsvGathered
import Connectivity.Nmea.Isolation

set_option autoImplicit false

/- The satellites that the daemon's reader reports of an epoch of complete GSV groups. -/
namespace Connectivity.Nmea

open Gather

variable {F : Type} {platform : Platform F}

/-- The satellites of a report that is about them. -/
def Report.svs : Report F → Option (List (SvInfo F))
  | .gpsSv numSvs svList => some ((svList.take numSvs.toNat).map GnssSv.info)
  | .location _ | .updateLocation _ | .nmea _ _ _ => none

def GsvGroup.infos (platform : Platform F) (g : GsvGroup) : List (SvInfo F) :=
  g.svs.map (SvText.info platform g.talker)

/-- The bytes of an epoch. -/
def epoch (groups : List GsvGroup) : List UInt8 := (groups.flatMap GsvGroup.lines).flatten

/-- The satellites of an epoch. -/
def satellites (platform : Platform F) (groups : List GsvGroup) : List (SvInfo F) :=
  groups.flatMap (GsvGroup.infos platform)

/-- The sentences of an epoch, each with its talker. -/
def places (groups : List GsvGroup) : List (Talker × GsvSentence) :=
  groups.flatMap fun g => g.sentences.map fun s => (g.talker, s)

def placeLine (place : Talker × GsvSentence) : List UInt8 := place.2.line place.1

namespace Parser

variable {s : Parser F} {talker : Talker} {sentence : GsvSentence}

def svReports (s : Parser F) : List (List (SvInfo F)) := s.reports.filterMap Report.svs

/-- The bytes of a line, none of which is the last of the buffer. -/
def addLine (platform : Platform F) (s : Parser F) (line : List UInt8) : Parser F :=
  (line.map (·, false)).foldl (fun s c => s.addc platform c.2 c.1) s

theorem svReports_reportLocation (endTag : Bool) (s : Parser F) :
    (s.reportLocation endTag).svReports = s.svReports := by
  unfold reportLocation svReports
  split
  next =>
    show (s.reports ++ _).filterMap Report.svs = _
    rw [List.filterMap_append]
    exact List.append_nil _
  next => rfl

theorem svReports_sentence (platform : Platform F) (s : Parser F) (c : UInt8)
    (tokens : List (List UInt8)) :
    ((s.store c).hand.sentence platform tokens).svReports = s.svReports := rfl

theorem reportSvs_quiet (s : Parser F) : s.reportSvs false = s := rfl

theorem svReports_endLine (s : Parser F) : s.endLine.svReports = s.svReports := by
  show (s.reports ++ _).filterMap Report.svs = _
  rw [List.filterMap_append]
  exact List.append_nil _

theorem svList_front (r : SvReader F) {count : Nat} (few : count ≤ 64) :
    (((List.range maxSvs.toNat).map fun index => r.svList index).take count).map GnssSv.info =
      (List.range count).map fun index : Nat => r.infos index := by
  have front : (List.range maxSvs.toNat).take count = List.range count := by
    rw [List.take_range]
    congr 1
    exact Nat.min_eq_left few
  rw [← front, bind_pure_comp, List.map_eq_map, List.map_map, ← List.map_take, List.map_map]
  rfl

/-- The list that goes out at the end of the buffer. -/
theorem svReports_reportSvs {done : List (SvInfo F)} (s : Parser F)
    (ready : s.sv.Ready 0 done []) (few : done.length ≤ 64) :
    (s.reportSvs true).svReports = s.svReports ++ [done] := by
  have front := ready.front
  have counted := ready.count
  unfold reportSvs svReports
  rw [if_pos rfl]
  show (s.reports ++ [_]).filterMap Report.svs = _
  rw [List.filterMap_append, ← front]
  have count : s.sv.numSvs.toNat ≤ 64 := by omega
  exact congrArg (fun list => s.svReports ++ [list]) (svList_front s.sv count)

/-- What the parser is before the newline of a line. -/
theorem content_reading (platform : Platform F) (plain : sentence.Plain talker)
    (reading : Reading s false []) : ∃ pos overflow input,
      ((sentence.content talker).map (·, false)).foldl (fun s c => s.addc platform c.2 c.1) s =
          { s with pos := pos, overflow := overflow, input := input } ∧
        Reading { s with pos := pos, overflow := overflow, input := input } false
          (sentence.content talker) ∧
        addLine platform s (sentence.line talker) =
          ({ s with pos := pos, overflow := overflow, input := input } : Parser F).addc platform
            false newline := by
  obtain ⟨reads, pos, overflow, input, same⟩ := foldl_inside platform
    ((sentence.content talker).map (·, false)) reading (by
      intro c member
      obtain ⟨byte, there, rfl⟩ := List.mem_map.mp member
      exact fun ends => plain.newline_free (ends ▸ there))
  rw [untagged, List.nil_append, same] at reads
  refine ⟨pos, overflow, input, same, reads, ?_⟩
  unfold addLine GsvSentence.line
  rw [List.map_append, List.foldl_append, same]
  rfl

/-- A sentence leaves room for its newline. -/
theorem content_short (plain : sentence.Plain talker) :
    (sentence.content talker).length + 1 ≤ nmeaMaxSize := by
  have room := plain.fits
  rw [GsvSentence.line, List.length_append, List.length_singleton] at room
  exact room

theorem kindOf_talker (talker : Talker) : kindOf (talker.text ++ [71, 83, 86]) = .gsv ∧
    svTypeOf (talker.text ++ [71, 83, 86]) = talker.svType := by
  cases talker with
  | gp | gl | bd | ga => decide

theorem sentence_sv (s : Parser F) {tokens : List (List UInt8)}
    (tokenized : sentence.Tokenized talker tokens) : (s.sentence platform tokens).sv =
      s.sv.gsv platform s.cash.nmeaCash talker.svType tokens := by
  have id : getToken tokens 0 = talker.text ++ [71, 83, 86] := tokenized 0
  obtain ⟨kind, svType⟩ := kindOf_talker talker
  show svAfter platform (kindOf (getToken tokens 0)) (svTypeOf (getToken tokens 0)) tokens
    s.cash.nmeaCash s.sv = _
  rw [id, kind, svType]
  rfl

theorem length_joined (text : List UInt8) (texts : List (List UInt8)) :
    text.length ≤ (joined (text :: texts)).length := by
  cases texts with
  | nil => exact Nat.le_refl _
  | cons next texts =>
      show text.length ≤ (text ++ comma :: joined (next :: texts)).length
      rw [List.length_append]
      exact Nat.le_add_right _ _

theorem plain_wellFormed (plain : sentence.Plain talker) (few : sentence.svs.length ≤ 4) :
    wellFormed (sentence.line talker) = true := by
  have id : (talker.text ++ [71, 83, 86]).length = 5 := by
    cases talker with
    | gp | gl | bd | ga => rfl
  have long := length_joined (talker.text ++ [71, 83, 86]) sentence.numbers
  have check := plain.checksum.1
  unfold wellFormed
  rw [plain.tokenize few 0]
  apply decide_eq_true
  refine ⟨?_, Nat.le_of_eq id.symm⟩
  show 9 ≤ (36 :: (joined (sentence.texts talker) ++ 42 :: sentence.checksum) ++ [13] ++
    [newline]).length
  simp only [List.length_append, List.length_cons, List.length_nil]
  show 9 ≤ (joined ((talker.text ++ [71, 83, 86]) :: sentence.numbers)).length + _ + 1 + _ + _
  omega

theorem content_completes (plain : sentence.Plain talker) (few : sentence.svs.length ≤ 4)
    (reading : Reading s false (sentence.content talker)) :
    s.completes newline = some (tokenize (sentence.line talker)) := by
  have fit : fits (sentence.content talker) = true := by
    have room := content_short plain
    exact decide_eq_true (by omega)
  have complete := reading.completes
  rw [fit] at complete
  have good := plain_wellFormed plain few
  rw [GsvSentence.line] at good
  rw [good] at complete
  exact complete

/-- A sentence of an epoch reaches the satellites, and nothing goes out yet. -/
theorem addLine_sentence (platform : Platform F) (plain : sentence.Plain talker)
    (few : sentence.svs.length ≤ 4) (reading : Reading s false []) : ∃ nmeaCash,
    Reading (addLine platform s (sentence.line talker)) false [] ∧
    (addLine platform s (sentence.line talker)).sv =
      s.sv.gsv platform nmeaCash talker.svType (tokenize (sentence.line talker)) ∧
    (addLine platform s (sentence.line talker)).svReports = s.svReports := by
  obtain ⟨pos, overflow, input, same, inside, added⟩ := content_reading platform plain reading
  have complete := content_completes plain few inside
  have next := (addc_newline platform false inside).1
  rw [added]
  have fit : justOver (sentence.content talker) = false := by
    have room := content_short plain
    exact decide_eq_false (by omega)
  rw [fit] at next
  refine ⟨s.cash.nmeaCash, next, ?_, ?_⟩
  · rw [addc_completes platform false complete, reported_sv]
    exact sentence_sv _ (plain.tokenize few)
  · rw [addc_completes platform false complete, svReports_endLine, reportSvs_quiet,
      svReports_reportLocation, svReports_sentence]
    rfl

/-- The last byte of the buffer has what counts reported. -/
theorem addc_last (plain : sentence.Plain talker) (few : sentence.svs.length ≤ 4)
    (reading : Reading s false []) {done : List (SvInfo F)}
    (ready : (addLine platform s (sentence.line talker)).sv.Ready 0 done [])
    (room : done.length ≤ 64) :
    ((((sentence.content talker).map (·, false)).foldl (fun s c => s.addc platform c.2 c.1)
      s).addc platform true newline).svReports = s.svReports ++ [done] := by
  obtain ⟨pos, overflow, input, same, inside, added⟩ := content_reading platform plain reading
  have complete := content_completes plain few inside
  rw [added, addc_completes platform false complete, reported_sv] at ready
  rw [same, addc_completes platform true complete, svReports_endLine, svReports_reportSvs _ _ room,
    svReports_reportLocation]
  · rfl
  · rw [reportLocation_sv]
    exact ready

section Group

variable {sentences : List GsvSentence} {done : List (SvInfo F)}

/-- The sentences of a group from one on add their satellites to those before. -/
theorem addLines_rest (platform : Platform F) (complete : CompleteGroup talker sentences)
    (room : done.length + (sentences.flatMap (·.svs)).length ≤ 64) {rest : List GsvSentence}
    {k : Nat} {pending : List (SvInfo F)} (nonempty : rest ≠ [])
    (there : ∀ (j : Nat) sentence, rest[j]? = some sentence → sentences[k + j]? = some sentence)
    (all : k + rest.length = sentences.length)
    (few : pending.length + (rest.flatMap (·.svs)).length ≤ (sentences.flatMap (·.svs)).length)
    (reading : Reading s false []) (ready : s.sv.Ready k done pending) :
    let t := (rest.map (·.line talker)).foldl (addLine platform) s
    Reading t false [] ∧ t.svReports = s.svReports ∧
      t.sv.Ready 0 (done ++
        (pending ++ (rest.flatMap (·.svs)).map (SvText.info platform talker))) [] := by
  induction rest generalizing k pending s with
  | nil => exact absurd rfl nonempty
  | cons sentence rest ih =>
      have here : sentences[k]? = some sentence := there 0 sentence rfl
      have member := List.mem_of_getElem? here
      have plain := complete.plain sentence member
      have part := complete.part here (plain.tokenize (complete.last sentence member)) (by omega)
      obtain ⟨nmeaCash, next, sv, reports⟩ :=
        addLine_sentence platform plain (complete.last sentence member) reading
      rw [List.flatMap_cons, List.length_append] at few
      rw [List.map_cons, List.foldl_cons, List.flatMap_cons, List.map_append, ← reports]
      by_cases last : rest = []
      · subst last
        refine ⟨next, rfl, ?_⟩
        show (addLine platform s (sentence.line talker)).sv.Ready 0 _ _
        rw [sv, List.flatMap_nil, List.map_nil, List.append_nil]
        exact ready.last platform nmeaCash part (by omega) (by omega) all
      · have more : k + 1 ≠ sentences.length := by
          have length := List.length_pos_iff.mpr last
          rw [List.length_cons] at all
          omega
        have before := ready.more platform nmeaCash part (by omega) more
        rw [← sv] at before
        rw [← List.append_assoc pending]
        refine ih last (fun j other place => ?_) ?_ ?_ next before
        · have after := there (j + 1) other place
          rw [← Nat.add_assoc, Nat.add_right_comm] at after
          exact after
        · rw [List.length_cons] at all
          omega
        · rw [List.length_append, List.length_map]
          omega

theorem addLines_groups (platform : Platform F) {groups : List GsvGroup}
    (room : done.length + (groups.flatMap GsvGroup.svs).length ≤ 64)
    (reading : Reading s false []) (ready : s.sv.Ready 0 done []) :
    ((groups.flatMap GsvGroup.lines).foldl (addLine platform) s).sv.Ready 0
      (done ++ satellites platform groups) [] := by
  induction groups generalizing s done with
  | nil =>
      show s.sv.Ready 0 (done ++ []) []
      rw [List.append_nil]
      exact ready
  | cons g groups ih =>
      rw [List.flatMap_cons, List.length_append] at room
      have few : (g.sentences.flatMap (·.svs)).length = g.svs.length := rfl
      obtain ⟨next, -, after⟩ := addLines_rest platform g.complete (by omega) g.complete.nonempty
        (fun j sentence there => by rw [Nat.zero_add]; exact there) (Nat.zero_add _)
        (by simp only [List.length_nil, Nat.zero_add, Nat.le_refl]) reading ready
      rw [List.nil_append] at after
      have length : (done ++ g.infos platform).length = done.length + g.svs.length := by
        rw [List.length_append, GsvGroup.infos, List.length_map]
      rw [List.flatMap_cons, List.foldl_append, satellites, List.flatMap_cons,
        ← List.append_assoc]
      exact ih (by omega) next after

end Group

theorem lines_places (groups : List GsvGroup) :
    groups.flatMap GsvGroup.lines = (places groups).map placeLine := by
  rw [places, List.map_flatMap]
  congr 1
  funext g
  rw [List.map_map]
  rfl

theorem mem_places {groups : List GsvGroup} {place : Talker × GsvSentence}
    (member : place ∈ places groups) : place.2.Plain place.1 ∧ place.2.svs.length ≤ 4 := by
  obtain ⟨g, -, there⟩ := List.mem_flatMap.mp member
  obtain ⟨sentence, inside, rfl⟩ := List.mem_map.mp there
  exact ⟨g.complete.plain sentence inside, g.complete.last sentence inside⟩

theorem addLines_places (platform : Platform F) {places : List (Talker × GsvSentence)}
    (plain : ∀ place ∈ places, place.2.Plain place.1 ∧ place.2.svs.length ≤ 4)
    (reading : Reading s false []) :
    let t := (places.map placeLine).foldl (addLine platform) s
    Reading t false [] ∧ t.svReports = s.svReports := by
  induction places generalizing s with
  | nil => exact ⟨reading, rfl⟩
  | cons place places ih =>
      obtain ⟨legible, few⟩ := plain place List.mem_cons_self
      obtain ⟨-, next, -, reports⟩ := addLine_sentence platform legible few reading
      rw [List.map_cons, List.foldl_cons, ← reports]
      exact ih (fun other member => plain other (List.mem_cons_of_mem _ member)) next

theorem foldl_lines (platform : Platform F) (lines : List (List UInt8)) (s : Parser F) :
    (lines.flatten.map (·, false)).foldl (fun s c => s.addc platform c.2 c.1) s =
      lines.foldl (addLine platform) s := by
  induction lines generalizing s with
  | nil => rfl
  | cons line lines ih =>
      rw [List.flatten_cons, List.map_append, List.foldl_append, ih]
      rfl

/-- The daemon reports the satellites of an epoch once, all of them and in order. -/
theorem process_epoch (platform : Platform F) (nmeaCash : Int → NmeaCash)
    {groups : List GsvGroup} (some : groups ≠ [])
    (room : (groups.flatMap GsvGroup.svs).length ≤ 64) :
    (process platform nmeaCash (epoch groups)).svReports = [satellites platform groups] := by
  have listed : places groups ≠ [] := by
    cases groups with
    | nil => exact absurd rfl some
    | cons g groups =>
        rw [places, List.flatMap_cons]
        refine List.append_ne_nil_of_left_ne_nil ?_ _
        exact mt List.map_eq_nil_iff.mp g.complete.nonempty
  obtain ⟨front, last, split⟩ := (List.eq_nil_or_concat (places groups)).resolve_left listed
  rw [List.concat_eq_append] at split
  have plain : ∀ place ∈ front ++ [last],
      place.2.Plain place.1 ∧ place.2.svs.length ≤ 4 := by
    rw [← split]
    exact fun place member => mem_places member
  obtain ⟨legible, few⟩ := plain last (List.mem_append_right _ (List.mem_singleton.mpr rfl))
  have start := reading_init platform nmeaCash
  obtain ⟨reading, reports⟩ := addLines_places platform
    (fun place member => plain place (List.mem_append_left _ member)) start
  have counted : ((groups.flatMap GsvGroup.lines).foldl (addLine platform)
      (init platform nmeaCash)).sv.Ready 0 ([] ++ satellites platform groups) [] :=
    addLines_groups platform (by rw [List.length_nil]; omega) start (gathered_nil _)
  rw [List.nil_append, lines_places, split, List.map_append, List.foldl_append] at counted
  have bytes : epoch groups =
      (front.map placeLine).flatten ++ last.2.content last.1 ++ [newline] := by
    rw [epoch, lines_places, split, List.map_append, List.flatten_append, List.append_assoc]
    congr 1
    exact List.append_nil _
  have length : (satellites platform groups).length = (groups.flatMap GsvGroup.svs).length := by
    rw [satellites, List.length_flatMap, List.length_flatMap]
    congr 1
    exact List.map_congr_left fun g _ => List.length_map _
  rw [process, bytes, tagged_append, List.map_append, List.foldl_append, List.foldl_append,
    foldl_lines]
  exact (addc_last legible few reading counted (by omega)).trans (by rw [reports]; rfl)

end Parser

end Connectivity.Nmea
