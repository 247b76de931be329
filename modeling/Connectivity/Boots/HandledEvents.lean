import Connectivity.Boots.Dispatch

set_option autoImplicit false

/- What `boots_pkt_handler` makes of the buffers that are rows of events and of the others. -/
namespace Connectivity.Boots

open Bytes Transition

/-- A complete event, with as many parameters as its length byte says. -/
structure HciEvent where
  code : UInt8
  params : List UInt8
  small : params.length < 256

def HciEvent.encode (event : HciEvent) : List UInt8 :=
  hciEventPkt :: event.code :: UInt8.ofNat event.params.length :: event.params

/-- The offset and the length of each event of a row. -/
def places : Nat → List HciEvent → List (Nat × Nat)
  | _, [] => []
  | offset, event :: rest =>
      (offset, event.encode.length) :: places (offset + event.encode.length) rest

/-- The bytes given to the handler, as many as a `size_t` can say. -/
structure Received where
  bytes : List UInt8
  bound : bytes.length < sizeMod

/-- The handler called with the bytes and their number, with others behind them. -/
def Received.handled (received : Received) (behind : Nat → UInt8) (surroundings : Surroundings)
    (pList : Option (List Entry)) (turns : Nat) : Option Run :=
  bootsPktHandler surroundings (around received.bytes behind) received.bytes.length pList turns

/-- Every event of a row is dispatched once and in order, and of another buffer nothing is read
that does not belong to it. -/
structure HandledRight (received : Received) (behind : Nat → UInt8) (surroundings : Surroundings)
    (pList : Option (List Entry)) : Prop where
  row : ∀ events : List HciEvent, received.bytes = events.flatMap HciEvent.encode →
    ∃ turns run, received.handled behind surroundings pList turns = some run ∧
      run.dispatched = places 0 events
  other : (∀ events : List HciEvent, received.bytes ≠ events.flatMap HciEvent.encode) →
    ∃ turns run, received.handled behind surroundings pList turns = some run ∧
      ∀ offset ∈ run.reads, offset < received.bytes.length

/-- The parsing of the packet at an offset comes back, whatever it reads. -/
def ComesBack (surroundings : Surroundings) (buf : Nat → UInt8) (given : Bool)
    (offset len : Nat) : Prop :=
  Shown (fun _ => True) surroundings (fun i => buf (offset + i)) len given

/-- The rows that the loop gets through: up to two events, the second one with parameters. -/
def RowFits (surroundings : Surroundings) (buf : Nat → UInt8) (given : Bool) :
    List HciEvent → Prop
  | [] => True
  | [event] => ComesBack surroundings buf given 0 event.encode.length
  | [event, second] => second.params ≠ [] ∧
      ComesBack surroundings buf given 0 event.encode.length ∧
      ComesBack surroundings buf given event.encode.length second.encode.length
  | _ => False

/-- The loop can be followed without leaving the bytes, and the script's entry that an event is
compared with is no longer than they are. -/
structure OtherFits (received : Received) (behind : Nat → UInt8) (surroundings : Surroundings)
    (pList : Option (List Entry)) : Prop where
  header : 3 ≤ received.bytes.length
  loop : Followed (· < received.bytes.length) surroundings (around received.bytes behind)
    pList.isSome received.bytes.length 0 (around received.bytes behind 2).toNat
  entry : ∀ entry ∈ (pList.getD []).head?, entry.pType = hciEventPkt →
    entry.data.length ≤ received.bytes.length

variable {Allowed : Nat → Prop} {surroundings : Surroundings} {buf : Nat → UInt8}
  {len offset pkgLen turns : Nat} {pList : Option (List Entry)} {run : Run} {given : Bool}
  {list : List Entry} {event second : HciEvent} {events rest : List HciEvent}

theorem nextAction_dispatched : (nextAction buf list run).dispatched = run.dispatched := by
  cases list with
  | nil => rfl
  | cons entry rest =>
      simp only [nextAction]
      split_ifs <;> rfl

theorem nextAction_reads : (∀ offset ∈ (nextAction buf list run).reads, Allowed offset) ↔
    (∀ offset ∈ run.reads, Allowed offset) ∧
      ∀ entry ∈ list.head?, entry.pType = hciEventPkt → buf 0 = hciEventPkt →
        ∀ offset < entry.data.length, Allowed offset := by
  cases list with
  | nil => simp [nextAction]
  | cons entry rest =>
      simp only [nextAction, List.head?_cons, Option.mem_some_iff, forall_eq']
      by_cases compares : entry.pType = hciEventPkt ∧ buf 0 = hciEventPkt
      · have reads : (∀ offset ∈ run.reads ++ List.range entry.data.length, Allowed offset) ↔
            (∀ offset ∈ run.reads, Allowed offset) ∧
              ∀ offset < entry.data.length, Allowed offset := by
          simp only [List.forall_mem_append, List.mem_range]
        rw [forall_prop_of_true compares.1, forall_prop_of_true compares.2]
        simp only [if_pos compares]
        split_ifs <;> exact reads
      · simp only [if_neg compares]
        refine (and_iff_left ?_).symm
        intro type first
        exact absurd ⟨type, first⟩ compares

theorem followed_last_iff (enters : pkgLen ≤ len) (stops : lenLeft len pkgLen ≤ pkgHdr) :
    Followed Allowed surroundings buf given len offset pkgLen ↔
      Shown (fun i => Allowed (offset + i)) surroundings (fun i => buf (offset + i))
        (pkgLen + pkgHdr) given := by
  constructor
  · intro followed
    cases followed with
    | longer short => omega
    | last enters shown stops => exact shown
    | next enters shown goes => omega
  · intro shown
    exact .last enters shown stops

theorem followed_next_iff (enters : pkgLen ≤ len) (goes : pkgHdr < lenLeft len pkgLen) :
    Followed Allowed surroundings buf given len offset pkgLen ↔
      Shown (fun i => Allowed (offset + i)) surroundings (fun i => buf (offset + i))
        (pkgLen + pkgHdr) given ∧ Allowed (pkgLen + pkgHdr + 2) ∧
      Followed Allowed surroundings buf given (lenLeft len pkgLen) (pkgLen + pkgHdr)
        (buf (pkgLen + pkgHdr + 2)).toNat := by
  constructor
  · intro followed
    cases followed with
    | longer short => omega
    | last enters shown stops => omega
    | next enters shown goes header later => exact ⟨shown, header, later⟩
  · rintro ⟨shown, header, later⟩
    exact .next enters shown goes header later

theorem dispatched_last (enters : pkgLen ≤ len) (stops : lenLeft len pkgLen ≤ pkgHdr)
    (done : handlerLoop surroundings buf turns len offset pkgLen pList = some run) :
    run.dispatched = [(offset, pkgLen + pkgHdr)] := by
  cases turns with
  | zero => cases done
  | succ turns =>
      cases handlerLoop_iff.mp done with
      | longer short => omega
      | last enters parses stops => rfl
      | next enters parses goes => omega

theorem dispatched_next (enters : pkgLen ≤ len) (goes : pkgHdr < lenLeft len pkgLen)
    (done : handlerLoop surroundings buf turns len offset pkgLen pList = some run) :
    ∃ turns pList later, handlerLoop surroundings buf turns (lenLeft len pkgLen) (pkgLen + pkgHdr)
      (buf (pkgLen + pkgHdr + 2)).toNat pList = some later ∧
      run.dispatched = (offset, pkgLen + pkgHdr) :: later.dispatched := by
  cases turns with
  | zero => cases done
  | succ turns =>
      cases handlerLoop_iff.mp done with
      | longer short => omega
      | last enters parses stops => omega
      | next enters parses goes loops => exact ⟨turns, _, _, loops, rfl⟩

/-- What is dispatched first is what the loop has come to. -/
theorem dispatched_head {place : Nat × Nat} {later : List (Nat × Nat)}
    (done : handlerLoop surroundings buf turns len offset pkgLen pList = some run)
    (dispatched : run.dispatched = place :: later) : place.1 = offset := by
  cases turns with
  | zero => cases done
  | succ turns =>
      cases handlerLoop_iff.mp done with
      | longer short => cases dispatched
      | last enters parses stops =>
          cases dispatched
          rfl
      | next enters parses goes loops =>
          cases dispatched
          rfl

theorem lenLeft_whole (whole : pkgLen + pkgHdr ≤ len) (bound : len < sizeMod) :
    lenLeft len pkgLen = len - (pkgLen + pkgHdr) := by
  unfold lenLeft sizeMod at *
  omega

theorem HciEvent.length_encode (event : HciEvent) :
    event.encode.length = event.params.length + pkgHdr := rfl

theorem handler_loop (positive : len ≠ 0) (first : buf 0 = hciEventPkt) :
    bootsPktHandler surroundings buf len pList turns =
      (handlerLoop surroundings buf turns len 0 (buf 2).toNat pList).map fun run =>
        nextAction buf (pList.getD []) { run with reads := [0, 2] ++ run.reads } := by
  unfold bootsPktHandler
  rw [if_neg positive, if_pos first]

theorem handler_dispatched (positive : len ≠ 0) (first : buf 0 = hciEventPkt)
    {dispatched : List (Nat × Nat)} :
    (∃ turns run, bootsPktHandler surroundings buf len pList turns = some run ∧
      run.dispatched = dispatched) ↔
    ∃ turns run, handlerLoop surroundings buf turns len 0 (buf 2).toNat pList = some run ∧
      run.dispatched = dispatched := by
  simp only [handler_loop positive first]
  constructor
  · rintro ⟨turns, run, done, same⟩
    obtain ⟨before, loops, rfl⟩ := Option.map_eq_some_iff.mp done
    rw [nextAction_dispatched] at same
    exact ⟨turns, before, loops, same⟩
  · rintro ⟨turns, run, loops, same⟩
    exact ⟨turns, _, Option.map_eq_some_iff.mpr ⟨run, loops, rfl⟩,
      nextAction_dispatched.trans same⟩

theorem HciEvent.length_toNat (event : HciEvent) :
    (UInt8.ofNat event.params.length).toNat = event.params.length := by
  rw [UInt8.toNat_ofNat']
  exact Nat.mod_eq_of_lt event.small

theorem around_append {front object : List UInt8} {behind : Nat → UInt8} (index : Nat) :
    around (front ++ object) behind (front.length + index) =
      around object (fun i => behind (front.length + i)) index := by
  simp only [around, List.getD_eq_getElem?_getD, List.getElem?_append_right (Nat.le_add_right _ _),
    Nat.add_sub_cancel_left]

/-- The length byte of the second event of a row. -/
theorem second_length {behind : Nat → UInt8} {object : List UInt8} :
    (around (event.encode ++ (second.encode ++ object)) behind
      (event.params.length + pkgHdr + 2)).toNat = second.params.length := by
  rw [← event.length_encode, around_append]
  exact second.length_toNat

/-- The loop comes to its end, whatever it reads, when it can be followed. -/
theorem loop_ends : (∃ turns run, handlerLoop surroundings buf turns len offset pkgLen pList =
    some run) ↔ Followed (fun _ => True) surroundings buf pList.isSome len offset pkgLen := by
  rw [← handlerLoop_allowed lower_all]
  simp only [implies_true, and_true]

/-- A single event. -/
theorem one_dispatched (bound : event.encode.length < sizeMod) :
    (∃ turns run, handlerLoop surroundings buf turns event.encode.length 0 event.params.length
      pList = some run ∧ run.dispatched = places 0 [event]) ↔
      ComesBack surroundings buf pList.isSome 0 event.encode.length := by
  have length := event.length_encode
  have left := @lenLeft_whole event.encode.length event.params.length (by omega) bound
  have enters : event.params.length ≤ event.encode.length := by omega
  have stops : lenLeft event.encode.length event.params.length ≤ pkgHdr := by omega
  have ends : Followed (fun _ => True) surroundings buf pList.isSome event.encode.length 0
      event.params.length ↔ ComesBack surroundings buf pList.isSome 0 event.encode.length :=
    followed_last_iff enters stops
  rw [← ends, ← loop_ends]
  constructor
  · rintro ⟨turns, run, done, dispatched⟩
    exact ⟨turns, run, done⟩
  · rintro ⟨turns, run, done⟩
    exact ⟨turns, run, done, dispatched_last enters stops done⟩

/-- Two events, the second one with parameters. -/
theorem two_dispatched (bound : event.encode.length + second.encode.length < sizeMod)
    (params : second.params ≠ [])
    (header : (buf (event.params.length + pkgHdr + 2)).toNat = second.params.length) :
    (∃ turns run, handlerLoop surroundings buf turns (event.encode.length + second.encode.length) 0
      event.params.length pList = some run ∧ run.dispatched = places 0 [event, second]) ↔
      ComesBack surroundings buf pList.isSome 0 event.encode.length ∧
      ComesBack surroundings buf pList.isSome event.encode.length second.encode.length := by
  have length := event.length_encode
  have secondLength := second.length_encode
  have some := List.length_pos_of_ne_nil params
  have left := @lenLeft_whole (event.encode.length + second.encode.length) event.params.length
    (by omega) bound
  rw [length, Nat.add_sub_cancel_left, ← length] at left
  have leftSecond := @lenLeft_whole second.encode.length second.params.length (by omega) (by omega)
  have enters : event.params.length ≤ event.encode.length + second.encode.length := by omega
  have goes : pkgHdr < lenLeft (event.encode.length + second.encode.length) event.params.length := by
    omega
  have entersSecond : second.params.length ≤ second.encode.length := by omega
  have stops : lenLeft second.encode.length second.params.length ≤ pkgHdr := by omega
  have ends : Followed (fun _ => True) surroundings buf pList.isSome
      (event.encode.length + second.encode.length) 0 event.params.length ↔
      ComesBack surroundings buf pList.isSome 0 event.encode.length ∧
      ComesBack surroundings buf pList.isSome event.encode.length second.encode.length := by
    rw [followed_next_iff enters goes, left, header, followed_last_iff entersSecond stops,
      true_and, ← length, ← secondLength]
    rfl
  rw [← ends, ← loop_ends]
  constructor
  · rintro ⟨turns, run, done, dispatched⟩
    exact ⟨turns, run, done⟩
  · rintro ⟨turns, run, done⟩
    obtain ⟨more, list, later, loops, dispatched⟩ := dispatched_next enters goes done
    rw [left, header] at loops
    refine ⟨turns, run, done, ?_⟩
    rw [dispatched, dispatched_last entersSecond stops loops, ← length, ← secondLength]
    simp only [places, Nat.zero_add]

/-- Any other row of more than one event comes out wrong, if at all. -/
theorem more_dispatched (bound : event.encode.length +
      (second.encode.length + (rest.flatMap HciEvent.encode).length) < sizeMod)
    (header : (buf (event.params.length + pkgHdr + 2)).toNat = second.params.length)
    (more : rest ≠ [] ∨ second.params = [])
    (done : handlerLoop surroundings buf turns (event.encode.length +
      (second.encode.length + (rest.flatMap HciEvent.encode).length)) 0 event.params.length pList =
      some run) : run.dispatched ≠ places 0 (event :: second :: rest) := by
  intro same
  have length := event.length_encode
  have secondLength := second.length_encode
  have left := @lenLeft_whole (event.encode.length + (second.encode.length +
    (rest.flatMap HciEvent.encode).length)) event.params.length (by omega) bound
  rw [length, Nat.add_sub_cancel_left, ← length] at left
  have leftSecond := @lenLeft_whole (second.encode.length +
    (rest.flatMap HciEvent.encode).length) second.params.length (by omega) (by omega)
  rw [← secondLength, Nat.add_sub_cancel_left] at leftSecond
  by_cases few : second.encode.length + (rest.flatMap HciEvent.encode).length ≤ pkgHdr
  · rw [dispatched_last (by omega) (le_of_eq_of_le left few) done] at same
    cases (List.cons.inj same).2
  obtain ⟨_, _, later, loops, dispatched⟩ := dispatched_next (by omega) (by omega) done
  rw [left, header] at loops
  rw [dispatched] at same
  have same := (List.cons.inj same).2
  by_cases fewer : (rest.flatMap HciEvent.encode).length ≤ pkgHdr
  · rw [dispatched_last (by omega) (le_of_eq_of_le leftSecond fewer) loops] at same
    have ends := (List.cons.inj same).2
    cases rest with
    | nil =>
        -- The second event is no longer than its header, so that the loop has not come to it.
        have bare := more.resolve_left fun left => left rfl
        rw [bare] at secondLength
        exact few (Nat.le_of_eq secondLength)
    | cons third rest => cases ends
  · obtain ⟨_, _, last, loops, dispatched⟩ := dispatched_next (by omega) (by omega) loops
    rw [dispatched] at same
    have same := (List.cons.inj same).2
    cases rest with
    | nil => exact fewer (Nat.zero_le _)
    | cons third rest =>
        -- The third event is looked for without the length of the first one.
        have place := dispatched_head loops same
        have header : 0 < pkgHdr := Nat.succ_pos 2
        change 0 + event.encode.length + second.encode.length = _ at place
        omega

/-- The rows whose events are all dispatched. -/
theorem row_dispatched {received : Received} {behind : Nat → UInt8}
    (row : received.bytes = events.flatMap HciEvent.encode) :
    (∃ turns run, received.handled behind surroundings pList turns = some run ∧
      run.dispatched = places 0 events) ↔
      RowFits surroundings (around received.bytes behind) pList.isSome events := by
  obtain ⟨bytes, bound⟩ := received
  simp only at row
  subst row
  unfold Received.handled
  cases events with
  | nil => exact iff_of_true ⟨0, _, rfl, rfl⟩ trivial
  | cons event rest =>
      have first : around (List.flatMap HciEvent.encode (event :: rest)) behind 0 = hciEventPkt := rfl
      have params : (around (List.flatMap HciEvent.encode (event :: rest)) behind 2).toNat =
          event.params.length := event.length_toNat
      have positive : (List.flatMap HciEvent.encode (event :: rest)).length ≠ 0 :=
        Nat.succ_ne_zero _
      dsimp only
      rw [handler_dispatched positive first, params]
      cases rest with
      | nil =>
          simp only [List.flatMap_cons, List.flatMap_nil, List.append_nil] at bound ⊢
          exact one_dispatched bound
      | cons second rest =>
          have header := @second_length event second behind (rest.flatMap HciEvent.encode)
          simp only [List.flatMap_cons, List.length_append] at bound header ⊢
          by_cases two : rest = [] ∧ second.params ≠ []
          · obtain ⟨rfl, some⟩ := two
            simp only [List.flatMap_nil, List.append_nil, List.length_nil, Nat.add_zero] at *
            rw [two_dispatched bound some header, RowFits]
            exact (and_iff_right some).symm
          · refine iff_of_false ?_ ?_
            · rintro ⟨turns, run, done, same⟩
              refine more_dispatched bound header ?_ done same
              by_contra other
              exact two (by simpa using other)
            · intro fits
              cases rest with
              | nil => exact two ⟨rfl, fits.1⟩
              | cons third rest => exact fits

/-- A packet that is no event is shown with the bytes there are. -/
theorem shown_other (positive : 0 < len) (other : buf 0 ≠ hciEventPkt) :
    Shown (· < len) surroundings buf len given := by
  refine ⟨fun offset small => ?_, ?_, fun ext => absurd ext.2.1 other,
    fun answers => absurd answers.2.1 other⟩
  · exact Nat.lt_of_lt_of_le small (Nat.min_le_left _ _)
  · have need : parsingNeed surroundings.efuse buf len = 1 := by
      unfold parsingNeed
      rw [if_neg (Nat.ne_of_gt positive), if_pos other]
    rw [need, lt_iff]
    exact positive

theorem other_read (positive : 0 < len) (other : buf 0 ≠ hciEventPkt) :
    ∃ turns run, bootsPktHandler surroundings buf len pList turns = some run ∧
      ∀ offset ∈ run.reads, offset < len := by
  obtain ⟨turns, parsed, parses, all⟩ := (handlerParse_allowed (lower_lt len) positive).mpr
    (shown_other positive other)
  have handled : bootsPktHandler surroundings buf len pList turns = some
      (nextAction buf (pList.getD []) ⟨[(0, len)], 0 :: parsed.reads, 0, parsed.pList⟩) := by
    unfold bootsPktHandler
    rw [if_neg (Nat.ne_of_gt positive), if_neg other, parses]
    rfl
  refine ⟨turns, _, handled, nextAction_reads.mpr ⟨?_, ?_⟩⟩
  · exact List.forall_mem_cons.mpr ⟨positive, all⟩
  · intro entry there type first
    exact absurd first other

theorem event_read (positive : 0 < len) (first : buf 0 = hciEventPkt) :
    (∃ turns run, bootsPktHandler surroundings buf len pList turns = some run ∧
      ∀ offset ∈ run.reads, offset < len) ↔
    3 ≤ len ∧ Followed (· < len) surroundings buf pList.isSome len 0 (buf 2).toNat ∧
      ∀ entry ∈ (pList.getD []).head?, entry.pType = hciEventPkt → entry.data.length ≤ len := by
  simp only [handler_loop (Nat.ne_of_gt positive) first]
  rw [← handlerLoop_allowed (lower_lt len)]
  constructor
  · rintro ⟨turns, run, done, all⟩
    obtain ⟨before, loops, rfl⟩ := Option.map_eq_some_iff.mp done
    obtain ⟨reads, compared⟩ := nextAction_reads.mp all
    rw [List.forall_mem_append] at reads
    refine ⟨reads.1 2 (by decide), ⟨turns, before, loops, reads.2⟩, ?_⟩
    intro entry there type
    exact lt_iff.mp (compared entry there type first)
  · rintro ⟨header, ⟨turns, run, loops, all⟩, entries⟩
    refine ⟨turns, _, Option.map_eq_some_iff.mpr ⟨run, loops, rfl⟩, nextAction_reads.mpr ⟨?_, ?_⟩⟩
    · refine List.forall_mem_append.mpr ⟨?_, all⟩
      simp only [List.forall_mem_cons, List.not_mem_nil, IsEmpty.forall_iff, implies_true, and_true]
      omega
    · intro entry there type _
      exact lt_iff.mpr (entries entry there type)

/-- The handler does what it should with the rows of at most two events, the second one with
parameters, whose parsing comes back; and with the other buffers that are no events or whose events
can be followed inside of them. -/
theorem handled_right_iff (received : Received) (behind : Nat → UInt8)
    (surroundings : Surroundings) (pList : Option (List Entry)) :
    HandledRight received behind surroundings pList ↔
      (∀ events : List HciEvent, received.bytes = events.flatMap HciEvent.encode →
        RowFits surroundings (around received.bytes behind) pList.isSome events) ∧
      ((∀ events : List HciEvent, received.bytes ≠ events.flatMap HciEvent.encode) →
        around received.bytes behind 0 = hciEventPkt →
          OtherFits received behind surroundings pList) := by
  constructor
  · rintro ⟨row, other⟩
    refine ⟨fun events is => (row_dispatched is).mp (row events is), fun none first => ?_⟩
    have positive := List.length_pos_of_ne_nil (none [])
    obtain ⟨header, loop, entry⟩ := (event_read positive first).mp (other none)
    exact ⟨header, loop, entry⟩
  · rintro ⟨rows, others⟩
    refine ⟨fun events is => (row_dispatched is).mpr (rows events is), fun none => ?_⟩
    have positive := List.length_pos_of_ne_nil (none [])
    by_cases first : around received.bytes behind 0 = hciEventPkt
    · obtain ⟨header, loop, entry⟩ := others none first
      exact (event_read positive first).mpr ⟨header, loop, entry⟩
    · exact other_read positive first

/-- Of three events the second one is dispatched twice and the third one never. -/
theorem not_handled_right : ¬ ∀ (received : Received) (behind : Nat → UInt8)
    (surroundings : Surroundings) (pList : Option (List Entry)),
    HandledRight received behind surroundings pList := by
  intro right
  have handled := (right ⟨[4, 0x13, 1, 0, 4, 0x13, 1, 0, 4, 0x13, 1, 0], by decide⟩ (fun _ => 0)
    ⟨⟨0, 0, .no⟩, true⟩ none).row
    [⟨0x13, [0], by decide⟩, ⟨0x13, [0], by decide⟩, ⟨0x13, [0], by decide⟩] rfl
  exact (row_dispatched rfl).mp handled

end Connectivity.Boots
