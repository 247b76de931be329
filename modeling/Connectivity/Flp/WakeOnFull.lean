import Connectivity.Flp.BatchRing

set_option autoImplicit false

/- Which locations of the host are overwritten before the framework has had them, while the
active batches ask to be woken when the ring is full. -/
namespace Connectivity.Flp

open Transition

/-- A location with the number of its report and its source. -/
structure Report (α : Type) where
  serial : Nat
  source : Source
  loc : α
deriving DecidableEq

section Overwritten

variable {α : Type}

/-- The locations that are overwritten while others are added. -/
def overwritten : FlpLocRing α → List α → List α
  | _, [] => []
  | r, p :: rest =>
      (if flpLocRingIsFull r then [r.flpLocBuffer r.flpLocBegin] else []) ++
        overwritten (flpLocRingAdd r p) rest

theorem add_num {r : FlpLocRing α} (room : r.flpLocNum < mtkFlpBatchSize) (p : α) :
    (flpLocRingAdd r p).flpLocNum = r.flpLocNum + 1 := if_pos room

/-- Locations for which there is room overwrite none. -/
theorem overwritten_of_fits {locs : List α} {r : FlpLocRing α}
    (fits : r.flpLocNum + locs.length ≤ mtkFlpBatchSize) :
    overwritten r locs = [] ∧
      (locs.foldl flpLocRingAdd r).flpLocNum = r.flpLocNum + locs.length := by
  induction locs generalizing r with
  | nil => exact ⟨rfl, rfl⟩
  | cons p rest ih =>
      rw [List.length_cons] at fits
      have room : r.flpLocNum < mtkFlpBatchSize := by omega
      have notFull : ¬ flpLocRingIsFull r = true := by
        rw [flpLocRingIsFull, decide_eq_true_eq]
        omega
      have count := add_num room p
      obtain ⟨none, later⟩ := @ih (flpLocRingAdd r p) (by omega)
      refine ⟨?_, ?_⟩
      · rw [overwritten, if_neg notFull, none, List.append_nil]
      · rw [List.foldl_cons, later, count, List.length_cons]
        omega

end Overwritten

section Runs

variable {α : Type}

/-- The fused options over the active batches ask for a call when the ring is full. -/
def Hal.wakes (s : Hal) : Bool := (fusedOptions s.gFlpOptions).flags.testBit 0

/-- The batching of numbered reports, those that `location_cb` has had, and those of the host
that were overwritten before, while the options asked for the call. -/
structure WakeRun (α : Type) where
  batching : Batching (Report α)
  reported : Nat
  handed : List (Report α)
  lost : List (Report α)

def WakeRun.start (buffer : Nat → Report α) : WakeRun α := ⟨.init buffer, 0, [], []⟩

/-- Numbers the locations of a report. -/
def numbered (source : Source) (reported : Nat) (locs : List α) : List (Report α) :=
  locs.mapIdx fun i loc => ⟨reported + i, source, loc⟩

def Event.numbered (reported : Nat) : Event α → Event (Report α)
  | .flpdReset => .flpdReset
  | .requestLoc reqNum => .requestLoc reqNum
  | .flushLoc => .flushLoc
  | .reportLoc source locs => .reportLoc source (Flp.numbered source reported locs)
  | .startBatching id options => .startBatching id options
  | .updateBatchingOptions id options => .updateBatchingOptions id options
  | .stopBatching id => .stopBatching id
  | .resetFlpData => .resetFlpData
  | .cleanup => .cleanup
  | .timeout => .timeout

def Event.locs : Event α → List α
  | .reportLoc _ locs => locs
  | _ => []

/-- No location of the host is lost. -/
def WakeRun.NoneLost (s : WakeRun α) : Prop := s.lost = []

/-- The tables that an event leaves. -/
def Hal.after (s : Hal) : Event α → Hal
  | .startBatching id options => (flphal2mnlFlpStart s id options).1
  | .updateBatchingOptions id options => (flphal2mnlUpdateBatchingOptions s id options).1
  | .stopBatching id => (flphal2mnlStopBatching s id).1
  | .resetFlpData => (resetFlpData s).1
  | _ => s

/-- While the options ask for the call, a report of several locations fits into the ring, and
one that fills it comes from the host under a last start that asked for the call alone. The
options do not come to ask for it when the ring is full already. -/
def Heeded (s : Batching (Report α)) : Event α → Prop
  | .reportLoc source locs => s.hal.wakes →
      (locs.length ≤ 1 ∨ s.ring.flpLocNum + locs.length ≤ mtkFlpBatchSize) ∧
      (s.ring.flpLocNum + locs.length = mtkFlpBatchSize →
        source = .hsb ∧ s.gFusedOptions.flags = mtkFlpBatchWakeOnFifoFull)
  | e => (s.hal.after e).wakes → ¬ s.hal.wakes → s.ring.flpLocNum ≠ mtkFlpBatchSize

instance (s : Batching (Report α)) (e : Event α) : Decidable (Heeded s e) := by
  cases e <;> exact inferInstanceAs (Decidable (_ → _))

structure WakeRun.Inv (s : WakeRun α) : Prop where
  valid : s.batching.ring.Valid
  room : s.batching.hal.wakes = true → s.batching.ring.flpLocNum < mtkFlpBatchSize
  noneLost : s.NoneLost

variable {s : WakeRun α}

theorem inv_wakeStart (buffer : Nat → Report α) : (WakeRun.start buffer).Inv :=
  ⟨⟨size_pos, Nat.zero_le _, rfl⟩, fun _ => size_pos, rfl⟩

theorem numbered_length (source : Source) (reported : Nat) (locs : List α) :
    (numbered source reported locs).length = locs.length := List.length_mapIdx

/-- What is known of the ring behind a report that is heeded. -/
theorem report_room {b : Batching α} {source : Source} {locs : List α}
    (fits : b.ring.flpLocNum + locs.length ≤ mtkFlpBatchSize)
    (fills : b.ring.flpLocNum + locs.length = mtkFlpBatchSize →
      source = .hsb ∧ b.gFusedOptions.flags = mtkFlpBatchWakeOnFifoFull) :
    (mtkFlpReportLoc b source locs).1.ring.flpLocNum < mtkFlpBatchSize := by
  have count : (b.addAll locs).ring.flpLocNum = b.ring.flpLocNum + locs.length :=
    (overwritten_of_fits fits).2
  by_cases full : b.ring.flpLocNum + locs.length = mtkFlpBatchSize
  · obtain ⟨host, wakes⟩ := fills full
    subst host
    have complete : flpLocRingIsFull (b.addAll locs).ring = true := by
      rw [flpLocRingIsFull, count, full]
      rfl
    have still : (b.addAll locs).gFusedOptions.flags = mtkFlpBatchWakeOnFifoFull := wakes
    simp only [mtkFlpReportLoc, complete, Bool.true_eq_false, if_false, still, if_true]
    exact size_pos
  · have below : (b.addAll locs).ring.flpLocNum < mtkFlpBatchSize := by omega
    cases source with
    | ofl => exact below
    | hsb =>
        have incomplete : flpLocRingIsFull (b.addAll locs).ring = false := by
          rw [flpLocRingIsFull, count]
          exact decide_eq_false full
        simp only [mtkFlpReportLoc, incomplete, if_true]
        exact below

theorem report_hal (b : Batching α) (source : Source) (locs : List α) :
    (mtkFlpReportLoc b source locs).1.hal = b.hal := by
  cases source with
  | ofl => rfl
  | hsb =>
      simp only [mtkFlpReportLoc]
      split
      · rfl
      · split <;> rfl

theorem report_valid {b : Batching α} (valid : b.ring.Valid) (source : Source) (locs : List α) :
    (mtkFlpReportLoc b source locs).1.ring.Valid := by
  have added := addAll_valid valid locs
  cases source with
  | ofl => exact added
  | hsb =>
      simp only [mtkFlpReportLoc]
      split
      · exact added
      · split
        · exact emptied_valid _
        · exact added

theorem flush_valid {b : Batching α} (valid : b.ring.Valid) :
    (mtkFlpFlushLoc b).1.ring.Valid := by
  simp only [mtkFlpFlushLoc]
  split
  · exact valid
  · exact emptied_valid _

/-- A flush leaves no more locations than there were. -/
theorem flush_num (b : Batching α) :
    (mtkFlpFlushLoc b).1.ring.flpLocNum ≤ b.ring.flpLocNum ∧ (mtkFlpFlushLoc b).1.hal = b.hal := by
  simp only [mtkFlpFlushLoc]
  split
  · exact ⟨Nat.le_refl _, rfl⟩
  · exact ⟨Nat.zero_le _, rfl⟩

/-- A call of the framework leaves the ring, and room in it when it changes what is asked. -/
theorem inv_call {b : Batching (Report α)} {handed : List (Report α)} {reported : Nat}
    (inv : s.Inv) (ring : b.ring = s.batching.ring)
    (heeded : b.hal.wakes = true → ¬ s.batching.hal.wakes = true →
      s.batching.ring.flpLocNum ≠ mtkFlpBatchSize) :
    WakeRun.Inv ⟨b, reported, handed, [] ++ s.lost⟩ := by
  refine ⟨?_, ?_, inv.noneLost⟩
  · rw [ring]
    exact inv.valid
  · intro wakes
    rw [ring]
    by_cases before : s.batching.hal.wakes = true
    · exact inv.room before
    · have most := inv.valid.atMost
      have notFull := heeded wakes before
      omega

/-- A flush keeps the invariant, on the expiry of the timer too. -/
theorem inv_flush {b : Batching (Report α)} {handed : List (Report α)} {reported : Nat}
    (inv : s.Inv) (ring : b.ring = (mtkFlpFlushLoc s.batching).1.ring)
    (hal : b.hal = (mtkFlpFlushLoc s.batching).1.hal) :
    WakeRun.Inv ⟨b, reported, handed, [] ++ s.lost⟩ := by
  obtain ⟨less, still⟩ := flush_num s.batching
  refine ⟨?_, ?_, inv.noneLost⟩
  · rw [ring]
    exact flush_valid inv.valid
  · intro wakes
    rw [hal, still] at wakes
    rw [ring]
    exact Nat.lt_of_le_of_lt less (inv.room wakes)

variable [DecidableEq α]

/-- The locations of the host that a report overwrites unseen. -/
def WakeRun.loses (s : WakeRun α) (e : Event α) : List (Report α) :=
  if s.batching.hal.wakes then
    (overwritten s.batching.ring (e.numbered s.reported).locs).filter fun report =>
      report.source = .hsb ∧ report ∉ s.handed
  else []

def WakeRun.step (s : WakeRun α) (e : Event α) : Option (WakeRun α) :=
  (s.batching.handle (e.numbered s.reported)).map fun handled =>
    { batching := handled.1
      reported := s.reported + e.locs.length
      handed := handled.2.flatten ++ s.handed
      lost := s.loses e ++ s.lost }

theorem loses_of_no_report {e : Event α} (none : (e.numbered s.reported).locs = []) :
    s.loses e = [] := by
  rw [WakeRun.loses, none, overwritten, List.filter_nil, ite_self]

theorem wake_kept {e : Event α} {t : WakeRun α} (inv : s.Inv) (heeded : Heeded s.batching e)
    (taken : s.step e = some t) : t.Inv := by
  rw [WakeRun.step, Option.map_eq_some_iff] at taken
  obtain ⟨handled, state, same⟩ := taken
  subst same
  cases e with
  | reportLoc source locs =>
      cases state
      have length := numbered_length source s.reported locs
      by_cases wakes : s.batching.hal.wakes = true
      · obtain ⟨single, fills⟩ := heeded wakes
        have room := inv.room wakes
        have fits : s.batching.ring.flpLocNum + (numbered source s.reported locs).length ≤
            mtkFlpBatchSize := by
          rw [length]
          omega
        refine ⟨report_valid inv.valid _ _, ?_, ?_⟩
        · intro _
          apply report_room fits
          rw [length]
          exact fills
        · have none : s.loses (.reportLoc source locs) = [] := by
            rw [WakeRun.loses, Event.numbered, Event.locs, (overwritten_of_fits fits).1,
              List.filter_nil, ite_self]
          rw [WakeRun.NoneLost, none]
          exact inv.noneLost
      · refine ⟨report_valid inv.valid _ _, ?_, ?_⟩
        · intro later
          rw [report_hal] at later
          exact absurd later wakes
        · rw [WakeRun.NoneLost, WakeRun.loses, if_neg wakes]
          exact inv.noneLost
  | flpdReset =>
      cases state
      rw [loses_of_no_report rfl]
      exact ⟨emptied_valid _, fun _ => size_pos, inv.noneLost⟩
  | requestLoc reqNum =>
      rw [loses_of_no_report rfl]
      cases reqNum with
      | none =>
          cases state
          exact inv_call inv rfl fun wakes before => absurd wakes before
      | some n =>
          cases state
          exact inv_call inv rfl fun wakes before => absurd wakes before
  | flushLoc =>
      cases state
      rw [loses_of_no_report rfl]
      exact inv_flush inv rfl rfl
  | startBatching id options =>
      cases state
      rw [loses_of_no_report rfl]
      exact inv_call inv rfl heeded
  | updateBatchingOptions id options =>
      cases state
      rw [loses_of_no_report rfl]
      exact inv_call inv rfl heeded
  | stopBatching id =>
      cases state
      rw [loses_of_no_report rfl]
      exact inv_call inv rfl heeded
  | resetFlpData =>
      cases state
      rw [loses_of_no_report rfl]
      exact inv_call inv rfl heeded
  | cleanup =>
      cases state
      rw [loses_of_no_report rfl]
      exact inv_call inv rfl fun wakes before => absurd wakes before
  | timeout =>
      rw [loses_of_no_report rfl]
      rw [Event.numbered, Batching.handle] at state
      split at state
      · cases state
        exact inv_flush inv rfl rfl
      · cases state

/-- No location of the host is lost along a run of heeded events. -/
theorem wake_loses_nothing (buffer : Nat → Report α) (events : List (Event α))
    (heeded : StepsMeet WakeRun.step (fun s e => Heeded s.batching e) (.start buffer) events) :
    AllStates WakeRun.step WakeRun.NoneLost (.start buffer) events := by
  have kept : AllStates WakeRun.step WakeRun.Inv (.start buffer) events :=
    allStates_of_stepsMeet (fun _ _ _ inv condition taken => wake_kept inv condition taken)
      (inv_wakeStart buffer) heeded
  exact kept.imp fun _ inv => inv.noneLost

end Runs

/-- The options of a batch that asks to be woken, or is content to sleep. -/
def gnss (flags : Nat) : FlpBatchOptions := ⟨0, 1, flags, 1000000000⟩

theorem wake_loses_nothing_thirty :
    let events := [Event.startBatching 0 (gnss 1), .reportLoc .hsb (List.replicate 29 ()),
      .reportLoc .hsb [()], .reportLoc .hsb [()]]
    AllStates WakeRun.step WakeRun.NoneLost (.start fun _ => ⟨0, .hsb, ()⟩) events :=
  wake_loses_nothing _ _ (by decide)

/-- A second batch that sleeps is started: the ring fills, the framework is not called, and
the next report overwrites the first. -/
theorem not_wake_loses_nothing :
    let events := [Event.startBatching 0 (gnss 1), .startBatching 1 (gnss 0),
      .reportLoc .hsb (List.replicate 30 ()), .reportLoc .hsb [()]]
    ¬ AllStates WakeRun.step WakeRun.NoneLost (.start fun _ => ⟨0, .hsb, ()⟩) events := by
  intro events all
  have lost : (exec WakeRun.step (.start fun _ => ⟨0, .hsb, ()⟩) events).map WakeRun.lost =
      some [⟨0, .hsb, ()⟩] := by decide
  rw [Option.map_eq_some_iff] at lost
  obtain ⟨s, run, lost⟩ := lost
  have none : s.lost = [] := all.last run
  rw [none] at lost
  cases lost

end Connectivity.Flp
