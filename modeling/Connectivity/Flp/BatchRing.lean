import Connectivity.Transition.Run
import Connectivity.Flp.Session
import Connectivity.Table.Ring

set_option autoImplicit false

/- The ring of the batched locations: it is the queue of the locations that were added last. -/
namespace Connectivity.Flp

def mtkFlpBatchSize : Nat := 30

def mtkFlpBatchWakeOnFifoFull : Nat := 1

/-- `FlpLocBuffer` and its three indices. -/
structure FlpLocRing (α : Type) where
  flpLocBuffer : Nat → α
  flpLocNum : Nat
  flpLocBegin : Nat
  flpLocEnd : Nat

section Ring

variable {α : Type} (r : FlpLocRing α)

def flpLocRingIsFull : Bool := r.flpLocNum = mtkFlpBatchSize

def flpLocRingIsEmpty : Bool := r.flpLocNum = 0

/-- Adds one location; when the ring is full its oldest one is overwritten. -/
def flpLocRingAdd (p : α) : FlpLocRing α where
  flpLocBuffer := Function.update r.flpLocBuffer r.flpLocBegin p
  flpLocBegin := Ring.next mtkFlpBatchSize r.flpLocBegin
  flpLocNum := if r.flpLocNum < mtkFlpBatchSize then r.flpLocNum + 1 else r.flpLocNum
  flpLocEnd :=
    if r.flpLocNum < mtkFlpBatchSize then r.flpLocEnd
    else Ring.next mtkFlpBatchSize r.flpLocEnd

/-- The oldest location. -/
def flpLocRingRemove : Option (α × FlpLocRing α) :=
  if flpLocRingIsEmpty r then none
  else some (r.flpLocBuffer r.flpLocEnd,
    { r with
      flpLocNum := r.flpLocNum - 1
      flpLocEnd := Ring.next mtkFlpBatchSize r.flpLocEnd })

/-- The loop of `FlpLocRingRemoveN`, with the locations that it may still take. -/
def flpLocRingRemoveLoop : Nat → FlpLocRing α → List α × FlpLocRing α
  | 0, r => ([], r)
  | n + 1, r =>
      match flpLocRingRemove r with
      | none => ([], r)
      | some (p, r) => (p :: (flpLocRingRemoveLoop n r).1, (flpLocRingRemoveLoop n r).2)

def flpLocRingRemoveN (n : Int) : List α × FlpLocRing α :=
  if n ≤ 0 then ([], r) else flpLocRingRemoveLoop n.toNat r

/-- The loop of `FlpLocRingPeekLastN`, with the locations that it may still take, those that
are left, and the place behind the next one. -/
def flpLocRingPeekLoop (buffer : Nat → α) : Nat → Nat → Nat → List α
  | 0, _, _ => []
  | _, 0, _ => []
  | n + 1, num + 1, b =>
      let b := Ring.prev mtkFlpBatchSize b
      buffer b :: flpLocRingPeekLoop buffer n num b

def flpLocRingPeekLastN (n : Int) : List α :=
  flpLocRingPeekLoop r.flpLocBuffer n.toNat r.flpLocNum r.flpLocBegin

/-- The assignments that empty the ring. -/
def FlpLocRing.emptied : FlpLocRing α :=
  { r with flpLocBegin := 0, flpLocEnd := 0, flpLocNum := 0 }

end Ring

/-- The variables of flpinf.c and of the interface below it. -/
structure Batching (α : Type) where
  hal : Hal
  gFusedOptions : FlpBatchOptions
  ring : FlpLocRing α
  fgtimerStarted : Bool
  mtkFlpCallbacks : Bool

/-- Behind a first `mtk_flp_init`. -/
def Batching.init {α : Type} (buffer : Nat → α) : Batching α where
  hal := .init
  gFusedOptions := .zero
  ring := ⟨buffer, 0, 0, 0⟩
  fgtimerStarted := false
  mtkFlpCallbacks := true

inductive Source where
  | ofl
  | hsb
deriving DecidableEq

/-- A message of the daemon, a call of the framework, or the end of the timer. A request
message may come without its number. -/
inductive Event (α : Type) where
  | flpdReset
  | requestLoc (reqNum : Option Int)
  | flushLoc
  | reportLoc (source : Source) (locs : List α)
  | startBatching (id : Int) (options : FlpBatchOptions)
  | updateBatchingOptions (id : Int) (options : Option FlpBatchOptions)
  | stopBatching (id : Int)
  | resetFlpData
  | cleanup
  | timeout

/-- The locations of each call of `location_cb`. -/
abbrev LocationCb (α : Type) := List (List α)

section Handlers

variable {α : Type} (s : Batching α)

/-- A call of `location_cb`, if there is one. -/
def Batching.locationCb (locs : List α) : LocationCb α := if s.mtkFlpCallbacks then [locs] else []

def Batching.addAll (locs : List α) : Batching α :=
  { s with ring := locs.foldl flpLocRingAdd s.ring }

/-- The ring behind a flush. -/
def Batching.drained : Batching α :=
  { s with ring := (flpLocRingRemoveN s.ring mtkFlpBatchSize).2.emptied }

def mtkFlpReportLoc (source : Source) (locs : List α) : Batching α × LocationCb α :=
  let s := s.addAll locs
  match source with
  | .ofl => ({ s with fgtimerStarted := true }, [])
  | .hsb =>
      if flpLocRingIsFull s.ring = false then (s, [])
      else if s.gFusedOptions.flags = mtkFlpBatchWakeOnFifoFull then
        (s.drained, s.locationCb (flpLocRingPeekLastN s.ring mtkFlpBatchSize))
      else (s, [])

def mtkFlpRequestLoc (reqNum : Int) : LocationCb α :=
  if reqNum < 0 then []
  else
    let reqNum := if reqNum > mtkFlpBatchSize then (mtkFlpBatchSize : Int) else reqNum
    (flpLocRingPeekLastN s.ring reqNum).flatMap fun loc => s.locationCb [loc]

def mtkFlpFlushLoc : Batching α × LocationCb α :=
  let locs := flpLocRingPeekLastN s.ring mtkFlpBatchSize
  if locs.length < 1 then (s, []) else (s.drained, s.locationCb locs)

/-- The state behind an event, and the calls back to the framework. The timer ends only while
it runs. -/
def Batching.handle : Event α → Option (Batching α × LocationCb α)
  | .flpdReset =>
      some ({ s with
        hal := (flphal2mnlFlpRebootDoneNtf s.hal).1
        ring := s.ring.emptied }, [])
  | .requestLoc none => some (s, [])
  | .requestLoc (some reqNum) => some (s, mtkFlpRequestLoc s reqNum)
  | .flushLoc => some (mtkFlpFlushLoc s)
  | .reportLoc source locs => some (mtkFlpReportLoc s source locs)
  | .startBatching id options =>
      some ({ s with
        gFusedOptions := options
        hal := (flphal2mnlFlpStart s.hal id options).1 }, [])
  | .updateBatchingOptions id options =>
      some ({ s with hal := (flphal2mnlUpdateBatchingOptions s.hal id options).1 }, [])
  | .stopBatching id => some ({ s with hal := (flphal2mnlStopBatching s.hal id).1 }, [])
  | .resetFlpData => some ({ s with hal := (resetFlpData s.hal).1 }, [])
  | .cleanup => some ({ s with mtkFlpCallbacks := false }, [])
  | .timeout =>
      if s.fgtimerStarted then
        some ({ (mtkFlpFlushLoc s).1 with fgtimerStarted := false }, (mtkFlpFlushLoc s).2)
      else none

end Handlers

end Connectivity.Flp

namespace Connectivity.Flp

open Transition

section Ring

variable {α : Type} {r : FlpLocRing α}

/-- What the ring holds, the oldest location first. -/
def FlpLocRing.held (r : FlpLocRing α) : List α :=
  Ring.entries mtkFlpBatchSize r.flpLocBuffer r.flpLocEnd r.flpLocNum

/-- The indices lie in the buffer, and the locations between them. -/
structure FlpLocRing.Valid (r : FlpLocRing α) : Prop where
  endInside : r.flpLocEnd < mtkFlpBatchSize
  atMost : r.flpLocNum ≤ mtkFlpBatchSize
  place : (r.flpLocEnd + r.flpLocNum) % mtkFlpBatchSize = r.flpLocBegin

theorem size_pos : 0 < mtkFlpBatchSize := by decide

theorem held_length : r.held.length = r.flpLocNum := Ring.entries_length

/-- In a full ring the place of the next location is that of the oldest. -/
theorem FlpLocRing.Valid.round (valid : r.Valid) (full : r.flpLocNum = mtkFlpBatchSize) :
    r.flpLocBegin = r.flpLocEnd := by
  rw [← valid.place, full, Nat.add_mod_right, Nat.mod_eq_of_lt valid.endInside]

theorem emptied_valid (r : FlpLocRing α) : r.emptied.Valid :=
  ⟨size_pos, Nat.zero_le _, rfl⟩

theorem emptied_held (r : FlpLocRing α) : r.emptied.held = [] := rfl

theorem add_valid (valid : r.Valid) (p : α) : (flpLocRingAdd r p).Valid := by
  by_cases room : r.flpLocNum < mtkFlpBatchSize
  · simp only [flpLocRingAdd, room, if_true]
    refine ⟨valid.endInside, room, ?_⟩
    dsimp only
    rw [← valid.place, Ring.next_place size_pos]
  · have full : r.flpLocNum = mtkFlpBatchSize := by
      have := valid.atMost
      omega
    simp only [flpLocRingAdd, room, if_false]
    refine ⟨Ring.next_lt valid.endInside, valid.atMost, ?_⟩
    dsimp only
    rw [full, Nat.add_mod_right, valid.round full,
      Nat.mod_eq_of_lt (Ring.next_lt valid.endInside)]

/-- A location that is added is the newest one; a full ring drops the oldest. -/
theorem add_held (valid : r.Valid) (p : α) :
    (flpLocRingAdd r p).held = (r.held ++ [p]).rtake mtkFlpBatchSize := by
  by_cases room : r.flpLocNum < mtkFlpBatchSize
  · have fits : (r.held ++ [p]).length ≤ mtkFlpBatchSize := by
      rw [List.length_append, held_length, List.length_singleton]
      exact room
    rw [Ring.rtake_of_length_le fits]
    simp only [FlpLocRing.held, flpLocRingAdd, room, if_true]
    rw [← valid.place]
    exact Ring.entries_put room p
  · have full : r.flpLocNum = mtkFlpBatchSize := by
      have := valid.atMost
      omega
    rw [Ring.rtake_full (held_length.trans full) size_pos]
    simp only [FlpLocRing.held, flpLocRingAdd, room, if_false]
    rw [valid.round full, full]
    exact Ring.entries_replace valid.endInside p

theorem addAll_valid (valid : r.Valid) (locs : List α) : (locs.foldl flpLocRingAdd r).Valid := by
  induction locs generalizing r with
  | nil => exact valid
  | cons p rest ih => exact ih (add_valid valid p)

/-- All that has been put into the ring, behind the queue that it held the last of. -/
theorem addAll_held (valid : r.Valid) {queue : List α}
    (holds : r.held = queue.rtake mtkFlpBatchSize) (locs : List α) :
    (locs.foldl flpLocRingAdd r).held = (queue ++ locs).rtake mtkFlpBatchSize := by
  induction locs generalizing r queue with
  | nil => rw [List.append_nil, List.foldl_nil, holds]
  | cons p rest ih =>
      have added : (flpLocRingAdd r p).held = (queue ++ [p]).rtake mtkFlpBatchSize := by
        rw [add_held valid, holds, Ring.rtake_snoc]
      rw [List.foldl_cons, ih (add_valid valid p) added, List.append_assoc, List.singleton_append]

/-- The loop walks back from the newest location. -/
theorem peekLoop_eq (buffer : Nat → α) {first : Nat} (n num : Nat) {b : Nat}
    (place : (first + num) % mtkFlpBatchSize = b) :
    flpLocRingPeekLoop buffer n num b =
      (Ring.entries mtkFlpBatchSize buffer first num).reverse.take n := by
  induction n generalizing num b with
  | zero => rw [flpLocRingPeekLoop, List.take_zero]
  | succ n ih =>
      cases num with
      | zero => rfl
      | succ num =>
          have before : Ring.prev mtkFlpBatchSize b = (first + num) % mtkFlpBatchSize := by
            rw [← place, ← Ring.next_place size_pos, Ring.prev_next]
          rw [flpLocRingPeekLoop, before, ih num rfl, Ring.entries_succ, List.reverse_append,
            List.reverse_singleton, List.singleton_append, List.take_succ_cons]

theorem peekLastN_eq (valid : r.Valid) (n : Int) :
    flpLocRingPeekLastN r n = r.held.reverse.take n.toNat :=
  peekLoop_eq r.flpLocBuffer n.toNat r.flpLocNum valid.place

theorem remove_empty (empty : r.flpLocNum = 0) : flpLocRingRemove r = none := by
  rw [flpLocRingRemove, if_pos (by rw [flpLocRingIsEmpty, empty]; rfl)]

theorem remove_some {n : Nat} (some_ : r.flpLocNum = n + 1) :
    flpLocRingRemove r = some (r.flpLocBuffer r.flpLocEnd,
      { r with
        flpLocNum := n
        flpLocEnd := Ring.next mtkFlpBatchSize r.flpLocEnd }) := by
  have present : ¬ flpLocRingIsEmpty r = true := by
    rw [flpLocRingIsEmpty, some_]
    simp
  rw [flpLocRingRemove, if_neg present, some_]
  rfl

/-- The loop takes the oldest locations, and leaves the others as they are. -/
theorem removeLoop_eq (valid : r.Valid) (n : Nat) :
    (flpLocRingRemoveLoop n r).1 = r.held.take n ∧
      (flpLocRingRemoveLoop n r).2.held = r.held.drop n ∧
      (flpLocRingRemoveLoop n r).2.Valid := by
  induction n generalizing r with
  | zero => exact ⟨rfl, rfl, valid⟩
  | succ n ih =>
      cases count : r.flpLocNum with
      | zero =>
          have none : r.held = [] := by
            rw [FlpLocRing.held, count]
            rfl
          rw [flpLocRingRemoveLoop, remove_empty count, none]
          exact ⟨rfl, rfl, valid⟩
      | succ num =>
          have most := valid.atMost
          have rest : FlpLocRing.Valid { r with
              flpLocNum := num
              flpLocEnd := Ring.next mtkFlpBatchSize r.flpLocEnd } := by
            refine ⟨Ring.next_lt valid.endInside, by dsimp only; omega, ?_⟩
            dsimp only
            rw [Ring.place_next valid.endInside, ← count]
            exact valid.place
          have split : r.held = r.flpLocBuffer r.flpLocEnd ::
              FlpLocRing.held { r with
                flpLocNum := num
                flpLocEnd := Ring.next mtkFlpBatchSize r.flpLocEnd } := by
            rw [FlpLocRing.held, count, Ring.entries_cons valid.endInside]
            rfl
          obtain ⟨taken, left, still⟩ := ih rest
          rw [flpLocRingRemoveLoop, remove_some count, split, List.take_succ_cons,
            List.drop_succ_cons]
          exact ⟨congrArg _ taken, left, still⟩

theorem removeN_eq (valid : r.Valid) (n : Int) :
    (flpLocRingRemoveN r n).1 = r.held.take n.toNat ∧
      (flpLocRingRemoveN r n).2.held = r.held.drop n.toNat := by
  rw [flpLocRingRemoveN]
  split
  · rename_i none
    rw [Int.toNat_of_nonpos none]
    exact ⟨rfl, rfl⟩
  · obtain ⟨taken, left, _⟩ := removeLoop_eq valid n.toNat
    exact ⟨taken, left⟩

theorem isFull_iff : flpLocRingIsFull r = true ↔ r.held.length = mtkFlpBatchSize := by
  rw [held_length, flpLocRingIsFull, decide_eq_true_eq]

end Ring

section Runs

variable {α : Type}

/-- The batching beside the locations that were added since the ring was last emptied. -/
structure BatchRun (α : Type) where
  batching : Batching α
  added : List α

def BatchRun.start (buffer : Nat → α) : BatchRun α := ⟨.init buffer, []⟩

/-- A flush, a reset, and a report that fills the ring for a host that is to be woken, empty
the ring. -/
def BatchRun.addedBy (s : BatchRun α) : Event α → List α
  | .flpdReset => []
  | .flushLoc => []
  | .timeout => []
  | .reportLoc source locs =>
      if source = .hsb ∧ mtkFlpBatchSize ≤ (s.added ++ locs).length ∧
          s.batching.gFusedOptions.flags = mtkFlpBatchWakeOnFifoFull then []
      else s.added ++ locs
  | _ => s.added

def BatchRun.step (s : BatchRun α) (e : Event α) : Option (BatchRun α) :=
  (s.batching.handle e).map fun handled => ⟨handled.1, s.addedBy e⟩

/-- The ring holds the locations that were added last, and gives them out in order. -/
structure BatchRun.Sound (s : BatchRun α) : Prop where
  held : s.batching.ring.held = s.added.rtake mtkFlpBatchSize
  peek : ∀ n : Int,
    flpLocRingPeekLastN s.batching.ring n = s.batching.ring.held.reverse.take n.toNat
  remove : ∀ n : Int,
    (flpLocRingRemoveN s.batching.ring n).1 = s.batching.ring.held.take n.toNat ∧
      (flpLocRingRemoveN s.batching.ring n).2.held = s.batching.ring.held.drop n.toNat
  indices : (s.batching.ring.flpLocEnd + s.batching.ring.flpLocNum) % mtkFlpBatchSize =
    s.batching.ring.flpLocBegin

structure BatchRun.Inv (s : BatchRun α) : Prop where
  valid : s.batching.ring.Valid
  held : s.batching.ring.held = s.added.rtake mtkFlpBatchSize

variable {s : BatchRun α}

theorem BatchRun.Inv.sound (inv : s.Inv) : s.Sound :=
  ⟨inv.held, peekLastN_eq inv.valid, removeN_eq inv.valid, inv.valid.place⟩

theorem inv_batchStart (buffer : Nat → α) : (BatchRun.start buffer).Inv :=
  ⟨⟨size_pos, Nat.zero_le _, rfl⟩, rfl⟩

/-- An emptied ring holds none of no locations. -/
theorem inv_emptied {b : Batching α} {r : FlpLocRing α} (ring : b.ring = r.emptied) :
    BatchRun.Inv ⟨b, []⟩ := by
  refine ⟨?_, ?_⟩
  · rw [ring]
    exact emptied_valid r
  · rw [ring, emptied_held]
    rfl

theorem flush_inv (inv : s.Inv) {b : Batching α}
    (ring : b.ring = (mtkFlpFlushLoc s.batching).1.ring) : BatchRun.Inv ⟨b, []⟩ := by
  by_cases none : (flpLocRingPeekLastN s.batching.ring mtkFlpBatchSize).length < 1
  · have state : (mtkFlpFlushLoc s.batching).1 = s.batching := by
      simp only [mtkFlpFlushLoc, none, if_true]
    rw [state] at ring
    have empty : s.batching.ring.held = [] := by
      rw [peekLastN_eq inv.valid, List.length_take, List.length_reverse] at none
      have most := inv.valid.atMost
      rw [← held_length] at most
      apply List.eq_nil_of_length_eq_zero
      rw [Int.toNat_natCast] at none
      have := size_pos
      omega
    refine ⟨?_, ?_⟩
    · rw [ring]
      exact inv.valid
    · rw [ring, empty]
      rfl
  · have state : (mtkFlpFlushLoc s.batching).1 = s.batching.drained := by
      simp only [mtkFlpFlushLoc, none, if_false]
    rw [state] at ring
    exact inv_emptied ring

theorem report_inv (inv : s.Inv) (source : Source) (locs : List α) :
    BatchRun.Inv ⟨(mtkFlpReportLoc s.batching source locs).1,
      s.addedBy (.reportLoc source locs)⟩ := by
  have valid := addAll_valid inv.valid locs
  have held := addAll_held inv.valid inv.held locs
  have added : BatchRun.Inv ⟨s.batching.addAll locs, s.added ++ locs⟩ := ⟨valid, held⟩
  cases source with
  | ofl =>
      rw [BatchRun.addedBy, if_neg (fun full => nomatch full.1)]
      exact ⟨valid, held⟩
  | hsb =>
      have full : flpLocRingIsFull (s.batching.addAll locs).ring = true ↔
          mtkFlpBatchSize ≤ (s.added ++ locs).length := by
        rw [isFull_iff, Batching.addAll, held, List.rtake, List.length_drop]
        omega
      cases complete : flpLocRingIsFull (s.batching.addAll locs).ring with
      | false =>
          have short : ¬ mtkFlpBatchSize ≤ (s.added ++ locs).length := by
            rw [← full, complete]
            nofun
          rw [BatchRun.addedBy, if_neg (fun whole => short whole.2.1)]
          simp only [mtkFlpReportLoc, complete, if_true]
          exact added
      | true =>
          by_cases wakes : s.batching.gFusedOptions.flags = mtkFlpBatchWakeOnFifoFull
          · have still : (s.batching.addAll locs).gFusedOptions.flags =
                mtkFlpBatchWakeOnFifoFull := wakes
            rw [BatchRun.addedBy, if_pos ⟨rfl, full.mp complete, wakes⟩]
            simp only [mtkFlpReportLoc, complete, Bool.true_eq_false, if_false, still, if_true]
            exact inv_emptied rfl
          · have still : ¬ (s.batching.addAll locs).gFusedOptions.flags =
                mtkFlpBatchWakeOnFifoFull := wakes
            rw [BatchRun.addedBy, if_neg (fun whole => wakes whole.2.2)]
            simp only [mtkFlpReportLoc, complete, Bool.true_eq_false, if_false, still]
            exact added

theorem batch_kept {e : Event α} {t : BatchRun α} (inv : s.Inv) (taken : s.step e = some t) :
    t.Inv := by
  rw [BatchRun.step, Option.map_eq_some_iff] at taken
  obtain ⟨handled, state, same⟩ := taken
  subst same
  cases e with
  | flpdReset =>
      cases state
      exact inv_emptied rfl
  | requestLoc reqNum =>
      cases reqNum with
      | none =>
          cases state
          exact inv
      | some n =>
          cases state
          exact inv
  | flushLoc =>
      cases state
      exact flush_inv inv rfl
  | reportLoc source locs =>
      cases state
      exact report_inv inv source locs
  | startBatching id options =>
      cases state
      exact ⟨inv.valid, inv.held⟩
  | updateBatchingOptions id options =>
      cases state
      exact ⟨inv.valid, inv.held⟩
  | stopBatching id =>
      cases state
      exact ⟨inv.valid, inv.held⟩
  | resetFlpData =>
      cases state
      exact ⟨inv.valid, inv.held⟩
  | cleanup =>
      cases state
      exact ⟨inv.valid, inv.held⟩
  | timeout =>
      rw [Batching.handle] at state
      split at state
      · cases state
        exact flush_inv inv rfl
      · cases state

end Runs

/-- The ring holds the last locations along every run. -/
theorem ring_holds_last {α : Type} (buffer : Nat → α) (events : List (Event α)) :
    AllStates BatchRun.step BatchRun.Sound (.start buffer) events := by
  have kept : AllStates BatchRun.step BatchRun.Inv (.start buffer) events :=
    allStates_of_kept (fun _ _ _ inv taken => batch_kept inv taken) (inv_batchStart buffer)
  exact kept.imp fun _ inv => inv.sound

end Connectivity.Flp
