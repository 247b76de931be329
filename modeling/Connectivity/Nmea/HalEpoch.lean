import Connectivity.Nmea.GsvEpoch

set_option autoImplicit false

/- What the reader of `gpsinf3337.c` reports of an epoch of complete GSV groups, of which the
terminal gives it one line at a time. -/
namespace Connectivity.Nmea

open Gather Bytes

variable {F : Type} {platform : Platform F} {gnssMaxSvs : Nat}

namespace HalReader

variable {r : HalReader F} {svType : HalSvType} {tokens : List (List UInt8)} {talker : Talker}
  {sentence : GsvSentence} {line : List UInt8} {c : UInt8}

def svReports (r : HalReader F) : List (List (SvInfo F)) :=
  r.reports.map fun list => list.map HalGnssSv.info

/-- What a GSV sentence does not change. -/
structure SameFrame (r t : HalReader F) : Prop where
  pos : t.pos = r.pos
  overflow : t.overflow = r.overflow
  reports : t.reports = r.reports

theorem gsvTurn_frame (platform : Platform F) (gnssMaxSvs : Nat) (r : HalReader F) (idx : Nat) :
    SameFrame r (gsvTurn platform gnssMaxSvs svType tokens r idx) := by
  unfold gsvTurn updateSvStatus
  split
  next => exact ⟨rfl, rfl, rfl⟩
  next =>
    split
    next => exact ⟨rfl, rfl, rfl⟩
    next =>
      split
      next => exact ⟨rfl, rfl, rfl⟩
      next => exact ⟨rfl, rfl, rfl⟩

theorem SameFrame.trans {r s t : HalReader F} (first : SameFrame r s) (second : SameFrame s t) :
    SameFrame r t :=
  ⟨second.pos.trans first.pos, second.overflow.trans first.overflow,
    second.reports.trans first.reports⟩

theorem gsv_frame (platform : Platform F) (gnssMaxSvs : Nat) (svType : HalSvType)
    (tokens : List (List UInt8)) (r : HalReader F) :
    SameFrame r (gsv platform gnssMaxSvs svType tokens r) := by
  have started : SameFrame r (gsvStart tokens r) := by
    unfold gsvStart
    split
    next => exact ⟨rfl, rfl, rfl⟩
    next => exact ⟨rfl, rfl, rfl⟩
  have turned : SameFrame (gsvStart tokens r)
      (gsvTurns platform gnssMaxSvs svType tokens (gsvLoops tokens) (gsvStart tokens r)) := by
    unfold gsvTurns
    apply List.foldlRecOn (motive := SameFrame (gsvStart tokens r)) _ _ ⟨rfl, rfl, rfl⟩
    exact fun t same idx _ => same.trans (gsvTurn_frame platform gnssMaxSvs t idx)
  refine (started.trans turned).trans ?_
  unfold gsv gsvEnd
  split
  next =>
    split
    next => exact ⟨rfl, rfl, rfl⟩
    next => exact ⟨rfl, rfl, rfl⟩
  next => exact ⟨rfl, rfl, rfl⟩

/-- The beginning of a line is at the front of the line buffer. -/
structure Reading (r : HalReader F) (line : List UInt8) : Prop where
  overflow : r.overflow = false
  pos : r.pos = line.length
  size : r.input.length = nmeaMaxSize + 1
  filled : Filled r.input line

theorem Reading.store (reading : Reading r line) (room : line.length < nmeaMaxSize) :
    Reading (r.store c) (line ++ [c]) := by
  have inside : line.length + [c].length ≤ r.input.length := by
    rw [reading.size, List.length_singleton]
    omega
  have written := reading.filled.write inside
  have size := write_length inside
  rw [← reading.pos] at written size
  refine ⟨reading.overflow, ?_, size.trans reading.size, written⟩
  rw [List.length_append, List.length_singleton, ← reading.pos]
  rfl

theorem foldl_reading (platform : Platform F) (gnssMaxSvs : Nat) {more : List UInt8}
    (free : newline ∉ more) (room : line.length + more.length ≤ nmeaMaxSize)
    (reading : Reading r line) : ∃ pos input,
      (more.map (·, false)).foldl (fun r c => r.addc platform gnssMaxSvs c.2 c.1) r =
          { r with pos := pos, input := input } ∧
        Reading { r with pos := pos, input := input } (line ++ more) := by
  induction more generalizing r line with
  | nil =>
      rw [List.append_nil]
      exact ⟨r.pos, r.input, rfl, reading⟩
  | cons c more ih =>
      rw [List.length_cons] at room
      have other : c ≠ newline := fun same => free (same ▸ List.mem_cons_self)
      have small : r.pos < nmeaMaxSize := by
        have pos := reading.pos
        omega
      have added : r.addc platform gnssMaxSvs false c = r.store c := by
        unfold addc
        rw [if_neg (by rw [reading.overflow]; decide), if_neg (Nat.not_le.mpr small),
          if_neg other]
      have stored : Reading (r.store c) (line ++ [c]) := reading.store (by omega)
      obtain ⟨pos, input, same, next⟩ := ih (mt (List.mem_cons_of_mem c) free)
        (by rw [List.length_append, List.length_singleton]; omega) stored
      rw [List.append_assoc, List.singleton_append] at next
      rw [List.map_cons, List.foldl_cons, added]
      exact ⟨pos, input, same, next⟩

theorem halKindOf_talker (talker : Talker) : halKindOf (talker.text ++ [71, 83, 86]) = .gsv ∧
    HalSvType.ofId (talker.text ++ [71, 83, 86]) = talker.halSvType := by
  cases talker with
  | gp | gl | bd | ga => decide

/-- A sentence has the fields that it needs to be read. -/
theorem sentence_gsv (r : HalReader F) (plain : sentence.Plain talker)
    (tokenized : sentence.Tokenized talker tokens) : r.sentence platform gnssMaxSvs tokens =
      some (r.gsv platform gnssMaxSvs talker.halSvType tokens) := by
  have id : getToken tokens 0 = talker.text ++ [71, 83, 86] := tokenized 0
  have cnt : getToken tokens 3 = sentence.cnt := tokenized 3
  obtain ⟨kind, svType⟩ := halKindOf_talker talker
  have enough : ¬ tokens.length < 4 := by
    intro few
    rw [getToken, List.getD_eq_getElem?_getD, List.getElem?_eq_none (by omega)] at cnt
    exact plain.cnt cnt.symm
  unfold HalReader.sentence
  dsimp only
  rw [id, kind, svType]
  exact if_neg enough

/-- The newline at the end of what was read has the line parsed, and what counts behind it goes
out. -/
theorem addc_newline (plain : sentence.Plain talker) (few : sentence.svs.length ≤ 4)
    (reading : Reading r (sentence.content talker)) : r.addc platform gnssMaxSvs true newline =
      { reportSvs true (gsv platform gnssMaxSvs talker.halSvType
          (halTokenize (sentence.line talker)) (r.store newline)) with pos := 0 } := by
  have room := plain.fits
  rw [GsvSentence.line, List.length_append, List.length_singleton] at room
  have stored : Reading (r.store newline) (sentence.line talker) := reading.store (by omega)
  have tokenized : sentence.Tokenized talker (halTokenize (sentence.line talker)) :=
    plain.tokenized few (by decide)
  have text : (r.store newline).line = sentence.line talker := by
    have front := stored.filled.front
    rw [← stored.pos] at front
    exact front
  have long : 9 ≤ (r.store newline).pos := by
    have good := Parser.plain_wellFormed plain few
    unfold Parser.wellFormed at good
    rw [stored.pos]
    exact (of_decide_eq_true good).1
  have id : (getToken (halTokenize (sentence.line talker)) 0).length = 5 := by
    rw [tokenized 0]
    cases talker with
    | gp | gl | bd | ga => rfl
  have parsed : (r.store newline).parse platform gnssMaxSvs true = reportSvs true
      (gsv platform gnssMaxSvs talker.halSvType (halTokenize (sentence.line talker))
        (r.store newline)) := by
    unfold parse
    dsimp only
    rw [text, if_neg (by omega), sentence_gsv _ plain tokenized]
  have small : r.pos < nmeaMaxSize := by
    have pos := reading.pos
    omega
  unfold addc
  rw [if_neg (by rw [reading.overflow]; decide), if_neg (Nat.not_le.mpr small), if_pos rfl,
    if_pos ⟨rfl, long⟩, parsed]

/-- A line that is read on its own. -/
theorem process_line (platform : Platform F) (gnssMaxSvs : Nat) (pos : r.pos = 0)
    (overflow : r.overflow = false) (plain : sentence.Plain talker)
    (few : sentence.svs.length ≤ 4) :
    ∃ pos input, r.process platform gnssMaxSvs (sentence.line talker) =
      { reportSvs true (gsv platform gnssMaxSvs talker.halSvType
          (halTokenize (sentence.line talker)) { r with pos := pos, input := input }) with
        pos := 0 } := by
  have room := plain.fits
  rw [GsvSentence.line, List.length_append, List.length_singleton] at room
  have start : Reading { r with input := List.replicate (nmeaMaxSize + 1) 0 } [] :=
    ⟨overflow, pos, List.length_replicate, filled_nil _⟩
  obtain ⟨pos, input, same, inside⟩ := foldl_reading platform gnssMaxSvs plain.newline_free
    (by rw [List.length_nil]; omega) start
  rw [List.nil_append] at inside
  refine ⟨pos + 1, Bytes.write input pos [newline], ?_⟩
  unfold process GsvSentence.line
  rw [Parser.tagged_append, List.foldl_append, same]
  exact addc_newline plain few inside

/-- The lists that go out behind `done`. -/
def listed {α : Type} (done : List α) : List (List α) := if done = [] then [] else [done]

theorem reportSvs_ready {done : List (SvInfo F)} (ready : r.Ready 0 done []) :
    (r.reportSvs true).Ready 0 [] [] ∧ (r.reportSvs true).overflow = r.overflow ∧
      (r.reportSvs true).svReports = r.svReports ++ listed done := by
  have front := ready.front
  have counted := ready.count
  unfold reportSvs listed
  by_cases none : done = []
  · subst none
    have zero : r.numSvs = 0 := counted
    rw [if_neg fun some => some.1 zero, if_pos rfl, List.append_nil]
    exact ⟨ready, rfl, rfl⟩
  · have some : r.numSvs ≠ 0 := by
      have length := List.length_pos_iff.mpr none
      omega
    rw [if_pos ⟨some, rfl⟩, if_neg none]
    refine ⟨gathered_nil _, rfl, ?_⟩
    show (r.reports ++ [_]).map _ = _
    rw [List.map_append, ← front]
    refine congrArg (fun list => r.svReports ++ [list]) ?_
    exact List.map_map

section Group

variable {sentences : List GsvSentence} {k n total : Nat} {pending : List (SvInfo F)}

/-- Behind a line that is not the last of its group nothing goes out. -/
theorem process_more (gnssMaxSvs : Nat) (gps : platform.gpsMaxSvs = 32)
    (part : Part talker sentence k n total (halTokenize (sentence.line talker)))
    (plain : sentence.Plain talker) (few : sentence.svs.length ≤ 4)
    (room : pending.length + sentence.svs.length ≤ min 64 gnssMaxSvs) (pos : r.pos = 0)
    (overflow : r.overflow = false) (ready : r.Ready k [] pending) (more : k + 1 ≠ n) :
    let t := r.process platform gnssMaxSvs (sentence.line talker)
    t.pos = 0 ∧ t.overflow = false ∧ t.svReports = r.svReports ∧
      t.Ready (k + 1) [] (pending ++ sentence.svs.filterMap (SvText.halInfo platform talker)) := by
  obtain ⟨place, input, processed⟩ := process_line platform gnssMaxSvs pos overflow plain few
  have before : Ready k [] pending { r with pos := place, input := input } := ready
  have after := before.more gnssMaxSvs gps part (by rw [List.length_nil]; omega) more
  have frame := gsv_frame platform gnssMaxSvs talker.halSvType
    (halTokenize (sentence.line talker)) { r with pos := place, input := input }
  generalize gsv platform gnssMaxSvs talker.halSvType (halTokenize (sentence.line talker))
    { r with pos := place, input := input } = next at processed after frame
  have none : next.numSvs = 0 := after.count
  unfold reportSvs at processed
  rw [if_neg fun some => some.1 none] at processed
  rw [processed]
  refine ⟨rfl, frame.overflow.trans overflow, ?_, after⟩
  unfold svReports
  rw [frame.reports]

/-- Behind the last one all that is taken of the group goes out. -/
theorem process_last (gnssMaxSvs : Nat) (gps : platform.gpsMaxSvs = 32)
    (part : Part talker sentence k n total (halTokenize (sentence.line talker)))
    (plain : sentence.Plain talker) (few : sentence.svs.length ≤ 4)
    (room : pending.length + sentence.svs.length ≤ min 64 gnssMaxSvs)
    (complete : pending.length + sentence.svs.length ≤ total) (pos : r.pos = 0)
    (overflow : r.overflow = false) (ready : r.Ready k [] pending) (last : k + 1 = n) :
    let t := r.process platform gnssMaxSvs (sentence.line talker)
    t.pos = 0 ∧ t.overflow = false ∧ t.svReports = r.svReports ++
        listed (pending ++ sentence.svs.filterMap (SvText.halInfo platform talker)) ∧
      t.Ready 0 [] [] := by
  obtain ⟨place, input, processed⟩ := process_line platform gnssMaxSvs pos overflow plain few
  have before : Ready k [] pending { r with pos := place, input := input } := ready
  have done := before.last gnssMaxSvs gps part (by rw [List.length_nil]; omega) complete last
  rw [List.nil_append] at done
  have frame := gsv_frame platform gnssMaxSvs talker.halSvType
    (halTokenize (sentence.line talker)) { r with pos := place, input := input }
  generalize gsv platform gnssMaxSvs talker.halSvType (halTokenize (sentence.line talker))
    { r with pos := place, input := input } = next at processed done frame
  obtain ⟨counted, same, reports⟩ := reportSvs_ready done
  generalize reportSvs true next = reported at processed counted same reports
  rw [processed]
  refine ⟨rfl, same.trans (frame.overflow.trans overflow), reports.trans ?_, counted⟩
  unfold svReports
  rw [frame.reports]

/-- The sentences of a group from one on. -/
theorem process_rest (gnssMaxSvs : Nat) (gps : platform.gpsMaxSvs = 32)
    (complete : CompleteGroup talker sentences)
    (room : (sentences.flatMap (·.svs)).length ≤ min 64 gnssMaxSvs) {rest : List GsvSentence}
    (nonempty : rest ≠ [])
    (there : ∀ (j : Nat) sentence, rest[j]? = some sentence → sentences[k + j]? = some sentence)
    (all : k + rest.length = sentences.length)
    (few : pending.length + (rest.flatMap (·.svs)).length ≤ (sentences.flatMap (·.svs)).length)
    (pos : r.pos = 0) (overflow : r.overflow = false) (ready : r.Ready k [] pending) :
    let t := (rest.map (·.line talker)).foldl (fun r line => r.process platform gnssMaxSvs line) r
    t.pos = 0 ∧ t.overflow = false ∧ t.svReports = r.svReports ++
        listed (pending ++ (rest.flatMap (·.svs)).filterMap (SvText.halInfo platform talker)) ∧
      t.Ready 0 [] [] := by
  induction rest generalizing r k pending with
  | nil => exact absurd rfl nonempty
  | cons sentence rest ih =>
      have here : sentences[k]? = some sentence := there 0 sentence rfl
      have member := List.mem_of_getElem? here
      have plain := complete.plain sentence member
      have tokenized : sentence.Tokenized talker (halTokenize (sentence.line talker)) :=
        plain.tokenized (complete.last sentence member) (by decide)
      have part := complete.part here tokenized (by omega)
      rw [List.flatMap_cons, List.length_append] at few
      rw [List.length_cons] at all
      rw [List.map_cons, List.foldl_cons, List.flatMap_cons, List.filterMap_append]
      by_cases last : rest = []
      · subst last
        rw [List.flatMap_nil, List.filterMap_nil, List.append_nil]
        exact process_last gnssMaxSvs gps part plain (complete.last sentence member) (by omega)
            (by omega) pos
          overflow ready all
      · have more : k + 1 ≠ sentences.length := by
          have length := List.length_pos_iff.mpr last
          omega
        obtain ⟨pos, overflow, same, next⟩ := process_more gnssMaxSvs gps part plain
          (complete.last sentence member) (by omega) pos overflow ready more
        have kept := List.length_filterMap_le (SvText.halInfo platform talker) sentence.svs
        rw [← List.append_assoc pending, ← same]
        refine ih last (fun j other place => ?_) (by omega) ?_ pos overflow next
        · have behind := there (j + 1) other place
          rw [← Nat.add_assoc, Nat.add_right_comm] at behind
          exact behind
        · rw [List.length_append]
          omega

end Group

/-- What the reader takes of a group. -/
def taken (platform : Platform F) (g : GsvGroup) : List (SvInfo F) :=
  g.svs.filterMap (SvText.halInfo platform g.talker)

/-- What the reader is given an epoch of, one line at a time. -/
def processEpoch (platform : Platform F) (gnssMaxSvs : Nat) (groups : List GsvGroup)
    (r : HalReader F) : HalReader F :=
  (groups.flatMap GsvGroup.lines).foldl (fun r line => r.process platform gnssMaxSvs line) r

theorem processEpoch_ready (gnssMaxSvs : Nat) (gps : platform.gpsMaxSvs = 32)
    {groups : List GsvGroup}
    (room : (groups.flatMap GsvGroup.svs).length ≤ min 64 gnssMaxSvs) (pos : r.pos = 0)
    (overflow : r.overflow = false) (ready : r.Ready 0 [] []) :
    (r.processEpoch platform gnssMaxSvs groups).svReports =
      r.svReports ++ groups.flatMap fun g => listed (taken platform g) := by
  induction groups generalizing r with
  | nil => exact (List.append_nil _).symm
  | cons g groups ih =>
      rw [List.flatMap_cons, List.length_append] at room
      have few : (g.sentences.flatMap (·.svs)).length = g.svs.length := rfl
      obtain ⟨pos, overflow, reports, next⟩ := process_rest gnssMaxSvs gps g.complete (by omega)
        g.complete.nonempty (fun j sentence there => by rw [Nat.zero_add]; exact there)
        (Nat.zero_add _) (by simp only [List.length_nil, Nat.zero_add, Nat.le_refl]) pos overflow
        ready
      rw [List.nil_append] at reports
      unfold processEpoch at ih ⊢
      rw [List.flatMap_cons, List.foldl_append, List.flatMap_cons, ← List.append_assoc]
      refine (ih (by omega) pos overflow next).trans ?_
      exact congrArg (· ++ _) reports

/-- Each group goes out on its own, if anything of it is taken. -/
theorem processEpoch_reports (gps : platform.gpsMaxSvs = 32) {groups : List GsvGroup}
    (room : (groups.flatMap GsvGroup.svs).length ≤ min 64 gnssMaxSvs) (idle : r.Idle) :
    (r.processEpoch platform gnssMaxSvs groups).svReports =
      r.svReports ++ groups.flatMap fun g => listed (taken platform g) := by
  refine processEpoch_ready gnssMaxSvs gps room idle.pos idle.overflow ?_
  refine ⟨idle.numSvs, rfl, fun index entry none => ?_⟩
  cases none

end HalReader

end Connectivity.Nmea
