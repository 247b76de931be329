import Connectivity.Boots.Handler
import Connectivity.Boots.ParsingSafety
import Connectivity.Transition.Run

set_option autoImplicit false

/- Which of the events in a buffer `boots_pkt_handler` comes to, and how far it reads. -/
namespace Connectivity.Boots

open Bytes Transition

/-- The packet is the event that a pending write waits for. -/
def Answers (surroundings : Surroundings) (buf : Nat → UInt8) (len : Nat) : Prop :=
  2 < len ∧ buf 0 = hciEventPkt ∧ IsEfuseAnswer surroundings buf

/-- A packet can be parsed with reads that are all allowed, and the parsing comes back, a list
being given or not. -/
structure Shown (Allowed : Nat → Prop) (surroundings : Surroundings) (buf : Nat → UInt8)
    (len : Nat) (given : Bool) : Prop where
  bytes : ∀ offset < min len (showLen + 1), Allowed offset
  need : ∀ offset < parsingNeed surroundings.efuse buf len, Allowed offset
  structures : IsExtInquiryResult buf len → Row buf Allowed 18
  answer : Answers surroundings buf len → given = true ∧ ∀ offset < 33, Allowed offset

variable {Allowed : Nat → Prop} {surroundings : Surroundings} {buf : Nat → UInt8}
  {len offset pkgLen turns : Nat} {pList : Option (List Entry)} {parsed : Parsed} {run : Run}

theorem steady_nameLoop (start : Nat) : Steady fun turns => nameLoop buf turns start := by
  intro turns
  induction turns generalizing start with
  | zero =>
      intro value done
      cases done
  | succ turns ih =>
      intro value done
      change (if buf start = 0 then _ else _) = _ at done
      change (if buf start = 0 then _ else _) = _
      by_cases zero : buf start = 0
      · rw [if_pos zero] at done ⊢
        exact done
      · rw [if_neg zero] at done ⊢
        obtain ⟨later, before, rfl⟩ := Option.map_eq_some_iff.mp done
        exact Option.map_eq_some_iff.mpr ⟨later, ih _ later before, rfl⟩

theorem steady_parsing (efuse : EfuseRegWr) : Steady (bootsPktParsing efuse buf len) := by
  unfold bootsPktParsing inquiryReads
  refine (steady_const _).ite ((steady_const _).ite (Steady.map ?_ _))
  refine (steady_const _).ite (Steady.ite ?_ ((steady_const _).ite ((steady_const _).ite
    (steady_const _))))
  exact ((steady_nameLoop 18).map _).ite ((steady_const _).ite (steady_const _))

theorem steady_handlerParse : Steady (handlerParse surroundings buf len pList) :=
  (steady_parsing _).bind fun _ => steady_const _

theorem mem_shownReads (positive : 0 < len) : offset ∈ shownReads len ↔ offset < min len (showLen + 1) := by
  unfold shownReads showLen
  rw [List.mem_cons, List.mem_range'_1]
  omega

theorem afterParsing_other {reads : List Nat} (other : ¬ Answers surroundings buf len) :
    ∃ ret, afterParsing surroundings buf len pList reads = some ⟨reads, ret, pList⟩ := by
  unfold afterParsing
  by_cases event : 2 < len ∧ buf 0 = hciEventPkt
  · have waits : ¬ IsEfuseAnswer surroundings buf := fun is => other ⟨event.1, event.2, is⟩
    rw [if_pos event, if_neg waits]
    by_cases complete : buf 1 = hceCommandComplete ∨ buf 1 = hceInquiryComplete
    · rw [if_pos complete]
      exact ⟨0, rfl⟩
    · rw [if_neg complete]
      exact ⟨1, rfl⟩
  · rw [if_neg event]
    exact ⟨0, rfl⟩

theorem afterParsing_answer {reads : List Nat} (answers : Answers surroundings buf len) :
    afterParsing surroundings buf len pList reads = pList.map fun list =>
      ⟨reads ++ efuseWriteReads, if efuseWrite surroundings list buf = [] then 0 else 1,
        some (efuseWrite surroundings list buf)⟩ := by
  have other : ¬ (buf 1 = hceCommandComplete ∨ buf 1 = hceInquiryComplete) := by
    rw [answers.2.2.1]
    decide
  unfold afterParsing
  rw [if_pos ⟨answers.1, answers.2.1⟩, if_neg other, if_pos answers.2.2]

/-- The list stays one that has been given, or one that has not. -/
theorem afterParsing_isSome {reads : List Nat}
    (done : afterParsing surroundings buf len pList reads = some parsed) :
    parsed.pList.isSome = pList.isSome := by
  by_cases answers : Answers surroundings buf len
  · rw [afterParsing_answer answers] at done
    obtain ⟨list, given, rfl⟩ := Option.map_eq_some_iff.mp done
    rw [given]
    rfl
  · obtain ⟨ret, kept⟩ := @afterParsing_other surroundings buf len pList reads answers
    rw [kept] at done
    cases done
    rfl

theorem furthest_efuseWrite : Furthest efuseWriteReads 33 :=
  furthest_of_mem (by decide) (by decide)

/-- What is read behind the line that has been printed is read for the answer to a write. -/
theorem afterParsing_allowed {reads : List Nat} (lower : Lower Allowed) :
    (∃ parsed, afterParsing surroundings buf len pList reads = some parsed ∧
      ∀ offset ∈ parsed.reads, Allowed offset) ↔
    (∀ offset ∈ reads, Allowed offset) ∧
      (Answers surroundings buf len → pList.isSome ∧ ∀ offset < 33, Allowed offset) := by
  by_cases answers : Answers surroundings buf len
  · rw [afterParsing_answer answers, forall_prop_of_true answers,
      ← furthest_efuseWrite.all_iff lower]
    cases pList with
    | none =>
        constructor
        · rintro ⟨parsed, done, all⟩
          cases done
        · rintro ⟨all, given, more⟩
          cases given
    | some list =>
        constructor
        · rintro ⟨parsed, done, all⟩
          cases done
          rw [List.forall_mem_append] at all
          exact ⟨all.1, rfl, all.2⟩
        · rintro ⟨all, given, more⟩
          exact ⟨_, rfl, List.forall_mem_append.mpr ⟨all, more⟩⟩
  · obtain ⟨ret, kept⟩ := @afterParsing_other surroundings buf len pList reads answers
    rw [kept, and_iff_left fun is => absurd is answers]
    constructor
    · rintro ⟨parsed, done, all⟩
      cases done
      exact all
    · intro all
      exact ⟨_, rfl, all⟩

/-- `boots_pkt_handler_parse` comes back with allowed reads just when the packet can be shown. -/
theorem handlerParse_allowed (lower : Lower Allowed) (positive : 0 < len) :
    (∃ turns parsed, handlerParse surroundings buf len pList turns = some parsed ∧
      ∀ offset ∈ parsed.reads, Allowed offset) ↔
      Shown Allowed surroundings buf len pList.isSome := by
  have parsing := @readsOnly_parsing buf len surroundings.efuse Allowed lower
  constructor
  · rintro ⟨turns, parsed, done, all⟩
    obtain ⟨reads, parsedReads, after⟩ := Option.bind_eq_some_iff.mp done
    obtain ⟨shown, answer⟩ := (afterParsing_allowed lower).mp ⟨parsed, after, all⟩
    rw [List.forall_mem_append] at shown
    obtain ⟨need, structures⟩ := parsing.mp ⟨turns, reads, parsedReads, shown.2⟩
    refine ⟨fun offset small => shown.1 offset ?_, need, structures, answer⟩
    exact (mem_shownReads positive).mpr small
  · intro shown
    obtain ⟨turns, reads, parsedReads, all⟩ := parsing.mpr ⟨shown.need, shown.structures⟩
    have front : ∀ offset ∈ shownReads len, Allowed offset := by
      intro offset there
      exact shown.bytes offset ((mem_shownReads positive).mp there)
    obtain ⟨parsed, after, allowed⟩ := (afterParsing_allowed lower).mpr
      ⟨List.forall_mem_append.mpr ⟨front, all⟩, shown.answer⟩
    exact ⟨turns, parsed, Option.bind_eq_some_iff.mpr ⟨reads, parsedReads, after⟩, allowed⟩

/-- The loop goes from event to event up to where it stops, each of them one that can be shown and
the length of the next one allowed to be read. -/
inductive Followed (Allowed : Nat → Prop) (surroundings : Surroundings) (buf : Nat → UInt8)
    (given : Bool) : Nat → Nat → Nat → Prop
  | longer {len offset pkgLen : Nat} (short : len < pkgLen) :
      Followed Allowed surroundings buf given len offset pkgLen
  | last {len offset pkgLen : Nat} (enters : pkgLen ≤ len)
      (shown : Shown (fun i => Allowed (offset + i)) surroundings (fun i => buf (offset + i))
        (pkgLen + pkgHdr) given) (stops : lenLeft len pkgLen ≤ pkgHdr) :
      Followed Allowed surroundings buf given len offset pkgLen
  | next {len offset pkgLen : Nat} (enters : pkgLen ≤ len)
      (shown : Shown (fun i => Allowed (offset + i)) surroundings (fun i => buf (offset + i))
        (pkgLen + pkgHdr) given) (goes : pkgHdr < lenLeft len pkgLen)
      (header : Allowed (pkgLen + pkgHdr + 2))
      (later : Followed Allowed surroundings buf given (lenLeft len pkgLen) (pkgLen + pkgHdr)
        (buf (pkgLen + pkgHdr + 2)).toNat) :
      Followed Allowed surroundings buf given len offset pkgLen

theorem lower_shift (lower : Lower Allowed) (offset : Nat) :
    Lower fun i => Allowed (offset + i) := by
  intro i below least allowed
  exact lower (offset + i) (offset + below) (by omega) allowed

/-- One turn of the loop: it is not entered, it is left behind an event, or it goes on. -/
inductive Turn (surroundings : Surroundings) (buf : Nat → UInt8) (turns len offset pkgLen : Nat)
    (pList : Option (List Entry)) : Run → Prop
  | longer (short : len < pkgLen) : Turn surroundings buf turns len offset pkgLen pList
      ⟨[], [], 0, pList⟩
  | last {parsed : Parsed} (enters : pkgLen ≤ len)
      (parses : handlerParse surroundings (fun i => buf (offset + i)) (pkgLen + pkgHdr) pList turns =
        some parsed) (stops : lenLeft len pkgLen ≤ pkgHdr) :
      Turn surroundings buf turns len offset pkgLen pList
        ⟨[(offset, pkgLen + pkgHdr)], parsed.reads.map (offset + ·), parsed.ret, parsed.pList⟩
  | next {parsed : Parsed} {later : Run} (enters : pkgLen ≤ len)
      (parses : handlerParse surroundings (fun i => buf (offset + i)) (pkgLen + pkgHdr) pList turns =
        some parsed) (goes : pkgHdr < lenLeft len pkgLen)
      (loops : handlerLoop surroundings buf turns (lenLeft len pkgLen) (pkgLen + pkgHdr)
        (buf (pkgLen + pkgHdr + 2)).toNat parsed.pList = some later) :
      Turn surroundings buf turns len offset pkgLen pList
        { later with
          dispatched := (offset, pkgLen + pkgHdr) :: later.dispatched
          reads := parsed.reads.map (offset + ·) ++ (pkgLen + pkgHdr + 2) :: later.reads
          ret := if parsed.ret = 0 then later.ret else 1 }

theorem handlerLoop_iff : handlerLoop surroundings buf (turns + 1) len offset pkgLen pList =
    some run ↔ Turn surroundings buf turns len offset pkgLen pList run := by
  constructor
  · intro done
    change (if pkgLen ≤ len then _ else _) = _ at done
    by_cases enters : pkgLen ≤ len
    · rw [if_pos enters] at done
      obtain ⟨parsed, parses, rest⟩ := Option.bind_eq_some_iff.mp done
      by_cases goes : pkgHdr < lenLeft len pkgLen
      · simp only [if_pos goes] at rest
        obtain ⟨later, loops, rfl⟩ := Option.map_eq_some_iff.mp rest
        exact .next enters parses goes loops
      · simp only [if_neg goes] at rest
        cases rest
        exact .last enters parses (Nat.not_lt.mp goes)
    · rw [if_neg enters] at done
      cases done
      exact .longer (Nat.not_le.mp enters)
  · intro turn
    change (if pkgLen ≤ len then _ else _) = _
    cases turn with
    | longer short => exact if_neg (Nat.not_le.mpr short)
    | last enters parses stops =>
        rw [if_pos enters, parses, Option.bind_some, if_neg (Nat.not_lt.mpr stops)]
    | next enters parses goes loops =>
        rw [if_pos enters, parses, Option.bind_some, if_pos goes, loops]
        rfl

theorem steady_handlerLoop (len offset pkgLen : Nat) (pList : Option (List Entry)) :
    Steady fun turns => handlerLoop surroundings buf turns len offset pkgLen pList := by
  intro turns
  induction turns generalizing len offset pkgLen pList with
  | zero =>
      intro run done
      cases done
  | succ turns ih =>
      intro run done
      refine handlerLoop_iff.mpr ?_
      cases handlerLoop_iff.mp done with
      | longer short => exact .longer short
      | last enters parses stops => exact .last enters (steady_handlerParse _ _ parses) stops
      | next enters parses goes loops =>
          exact .next enters (steady_handlerParse _ _ parses) goes (ih _ _ _ _ _ loops)

theorem handlerParse_isSome (parses : handlerParse surroundings buf len pList turns = some parsed) :
    parsed.pList.isSome = pList.isSome := by
  obtain ⟨reads, parsing, after⟩ := Option.bind_eq_some_iff.mp parses
  exact afterParsing_isSome after

theorem forall_mem_shift {reads : List Nat} : (∀ i ∈ reads.map (offset + ·), Allowed i) ↔
    ∀ i ∈ reads, Allowed (offset + i) := by
  simp only [List.mem_map, forall_exists_index, and_imp, forall_apply_eq_imp_iff₂]

theorem followed_of_loop (lower : Lower Allowed)
    (done : handlerLoop surroundings buf turns len offset pkgLen pList = some run)
    (all : ∀ offset ∈ run.reads, Allowed offset) :
    Followed Allowed surroundings buf pList.isSome len offset pkgLen := by
  induction turns generalizing len offset pkgLen pList run with
  | zero => cases done
  | succ turns ih =>
      cases handlerLoop_iff.mp done with
      | longer short => exact .longer short
      | last enters parses stops =>
          have shown := (handlerParse_allowed (lower_shift lower offset) (Nat.succ_pos _)).mp
            ⟨turns, _, parses, forall_mem_shift.mp all⟩
          exact .last enters shown stops
      | next enters parses goes loops =>
          rw [List.forall_mem_append, List.forall_mem_cons] at all
          have shown := (handlerParse_allowed (lower_shift lower offset) (Nat.succ_pos _)).mp
            ⟨turns, _, parses, forall_mem_shift.mp all.1⟩
          have later := ih loops all.2.2
          rw [handlerParse_isSome parses] at later
          exact .next enters shown goes all.2.1 later

theorem loop_of_followed (lower : Lower Allowed) {given : Bool}
    (followed : Followed Allowed surroundings buf given len offset pkgLen)
    (same : pList.isSome = given) :
    ∃ turns run, handlerLoop surroundings buf turns len offset pkgLen pList = some run ∧
      ∀ offset ∈ run.reads, Allowed offset := by
  induction followed generalizing pList with
  | longer short =>
      refine ⟨1, _, handlerLoop_iff.mpr (.longer short), ?_⟩
      simp only [List.not_mem_nil, IsEmpty.forall_iff, implies_true]
  | @last len offset pkgLen enters shown stops =>
      rw [← same] at shown
      obtain ⟨turns, parsed, parses, all⟩ :=
        (handlerParse_allowed (lower_shift lower offset) (Nat.succ_pos _)).mpr shown
      exact ⟨turns + 1, _, handlerLoop_iff.mpr (.last enters parses stops), forall_mem_shift.mpr all⟩
  | @next len offset pkgLen enters shown goes header later ih =>
      rw [← same] at shown
      obtain ⟨first, parsed, parses, all⟩ :=
        (handlerParse_allowed (lower_shift lower offset) (Nat.succ_pos _)).mpr shown
      obtain ⟨more, run, loops, rest⟩ := ih ((handlerParse_isSome parses).trans same)
      -- As many turns as both of them need.
      have parses := steady_handlerParse.le parses (Nat.le_max_left first more)
      have loops := (steady_handlerLoop _ _ _ _).le loops (Nat.le_max_right first more)
      refine ⟨max first more + 1, _, handlerLoop_iff.mpr (.next enters parses goes loops), ?_⟩
      exact List.forall_mem_append.mpr
        ⟨forall_mem_shift.mpr all, List.forall_mem_cons.mpr ⟨header, rest⟩⟩

/-- The loop comes to its end with allowed reads just when it can be followed. -/
theorem handlerLoop_allowed (lower : Lower Allowed) :
    (∃ turns run, handlerLoop surroundings buf turns len offset pkgLen pList = some run ∧
      ∀ offset ∈ run.reads, Allowed offset) ↔
      Followed Allowed surroundings buf pList.isSome len offset pkgLen :=
  ⟨fun ⟨_, _, done, all⟩ => followed_of_loop lower done all,
    fun followed => loop_of_followed lower followed rfl⟩

end Connectivity.Boots
