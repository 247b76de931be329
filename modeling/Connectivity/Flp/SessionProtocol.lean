import Connectivity.Flp.Session
import Connectivity.Transition.Run
import Mathlib.Order.Bounds.Basic

set_option autoImplicit false

/- What the daemon is sent, beside the batches that are active. -/
namespace Connectivity.Flp

open Transition

/-- The batches that are active, with their options. -/
abbrev Batches := Int → Option FlpBatchOptions

/-- A batch without sources is not active. -/
def FlpBatchOptions.batch (options : FlpBatchOptions) : Option FlpBatchOptions :=
  if options.sourcesToUse = 0 then none else some options

/-- The union of the sources of the active batches, their least period and their largest
flags. -/
structure FoldOf (batches : Batches) (options : FlpBatchOptions) : Prop where
  sources : ∀ bit, options.sourcesToUse.getLsbD bit = true ↔
    ∃ id batch, batches id = some batch ∧ batch.sourcesToUse.getLsbD bit = true
  period : IsLeast {period | ∃ id batch, batches id = some batch ∧ batch.periodNs = period}
    options.periodNs
  flags : IsGreatest {flags | ∃ id batch, batches id = some batch ∧ batch.flags = flags}
    options.flags

/-- Whether the session runs, for commands that are listed from the last one back; `none`
when one of them is out of its order. -/
def session : List Command → Option Bool
  | [] => some false
  | command :: earlier =>
      match session earlier, command with
      | some false, .start _ => some true
      | some true, .setOption _ => some true
      | some true, .stop => some false
      | _, _ => none

/-- The interface, the batches as they have been started, changed and stopped, and what the
daemon has been sent since it was started, with the batches of that time. -/
structure Protocol where
  hal : Hal
  batches : Batches
  sent : List (Command × Batches)

def Protocol.start : Protocol := ⟨.init, fun _ => none, []⟩

def Protocol.meant (s : Protocol) : Request → Batches
  | .start id (some options) => Function.update s.batches id options.batch
  | .update id (some options) => Function.update s.batches id options.batch
  | .start _ none => s.batches
  | .update _ none => s.batches
  | .stop id => Function.update s.batches id none
  | .reset => fun _ => none
  | .reboot => s.batches

/-- What the daemon knows of; a restarted one knows nothing. -/
def Protocol.known (s : Protocol) : Request → List (Command × Batches)
  | .reboot => []
  | _ => s.sent

def Protocol.next (s : Protocol) (r : Request) : Protocol where
  hal := (s.hal.handle r).1
  batches := s.meant r
  sent := (s.hal.handle r).2.map (·, s.meant r) ++ s.known r

def Protocol.step (s : Protocol) (r : Request) : Option Protocol := some (s.next r)

/-- The commands keep their order, the session runs exactly while a batch is active, and the
options that were sent are the fold over the batches that were active then. -/
structure Protocol.Sound (s : Protocol) : Prop where
  inside : s.hal.outside = false
  session : ∃ running, session (s.sent.map Prod.fst) = some running ∧
    (running = true ↔ ∃ id batch, s.batches id = some batch)
  options : ∀ command ∈ s.sent, ∀ options, command.1.options = some options →
    FoldOf command.2 options

/-- The batches of a table. -/
def batchesOf (table : Fin flpOptionMax → FlpBatchOptions) : Batches := fun id =>
  match batchIndex id with
  | none => none
  | some i => (table i).batch

/-- An active batch has a period below the one that stands for none. -/
def Bounded (table : Fin flpOptionMax → FlpBatchOptions) : Prop :=
  ∃ i, (table i).sourcesToUse ≠ 0 ∧ (table i).periodNs < periodMax

/-- Requests that keep the protocol: batches of the table, changes and stops only while the
session runs, no start that leaves it without an active batch, and a period to send. -/
def Orderly (s : Hal) : Request → Prop
  | .start id (some options) => ∃ i, batchIndex id = some i ∧
      (options.sourcesToUse = 0 → s.gFlpFirstBatch = false →
        ∃ j ≠ i, (s.gFlpOptions j).sourcesToUse ≠ 0) ∧
      (options.sourcesToUse ≠ 0 → Bounded (Function.update s.gFlpOptions i options))
  | .update id (some options) => ∃ i, batchIndex id = some i ∧ s.gFlpFirstBatch = false ∧
      Bounded (Function.update s.gFlpOptions i options)
  | .stop id => ∀ i, batchIndex id = some i → s.gFlpFirstBatch = false ∧
      ((∃ j ≠ i, (s.gFlpOptions j).sourcesToUse ≠ 0) →
        Bounded (Function.update s.gFlpOptions i .zero))
  | .reboot => s.gFlpFirstBatch = false → Bounded s.gFlpOptions
  | _ => True

section Fold

variable {ι : Type} (table : ι → FlpBatchOptions)

/-- What the loop has gathered behind some batches. -/
structure Gathered (ids : List ι) (first fused : FlpBatchOptions) : Prop where
  sources : ∀ bit, fused.sourcesToUse.getLsbD bit = true ↔
    first.sourcesToUse.getLsbD bit = true ∨
      ∃ i ∈ ids, (table i).sourcesToUse.getLsbD bit = true
  periodLe : fused.periodNs ≤ first.periodNs ∧
    ∀ i ∈ ids, (table i).sourcesToUse ≠ 0 → fused.periodNs ≤ (table i).periodNs
  period : fused.periodNs = first.periodNs ∨
    ∃ i ∈ ids, (table i).sourcesToUse ≠ 0 ∧ (table i).periodNs = fused.periodNs
  flagsLe : first.flags ≤ fused.flags ∧
    ∀ i ∈ ids, (table i).sourcesToUse ≠ 0 → (table i).flags ≤ fused.flags
  flags : fused.flags = first.flags ∨
    ∃ i ∈ ids, (table i).sourcesToUse ≠ 0 ∧ (table i).flags = fused.flags

variable {table}

theorem fuse_bounds (fused options : FlpBatchOptions) :
    (fuse fused options).periodNs ≤ fused.periodNs ∧ fused.flags ≤ (fuse fused options).flags ∧
      (options.sourcesToUse ≠ 0 → (fuse fused options).periodNs ≤ options.periodNs ∧
        options.flags ≤ (fuse fused options).flags) := by
  rw [fuse]
  split
  · rename_i idle
    exact ⟨Int.le_refl _, Nat.le_refl _, fun active => absurd idle active⟩
  · dsimp only
    refine ⟨?_, ?_, fun _ => ⟨?_, ?_⟩⟩
    · split <;> omega
    · split <;> omega
    · split <;> omega
    · split <;> omega

theorem fuse_sources (fused options : FlpBatchOptions) (bit : Nat) :
    (fuse fused options).sourcesToUse.getLsbD bit = true ↔
      fused.sourcesToUse.getLsbD bit = true ∨ options.sourcesToUse.getLsbD bit = true := by
  rw [fuse]
  split
  · rename_i idle
    rw [idle]
    simp
  · simp only [BitVec.getLsbD_or, Bool.or_eq_true]

theorem fuse_period (fused options : FlpBatchOptions) :
    (fuse fused options).periodNs = fused.periodNs ∨
      options.sourcesToUse ≠ 0 ∧ options.periodNs = (fuse fused options).periodNs := by
  rw [fuse]
  split
  · exact .inl rfl
  · rename_i active
    dsimp only
    split
    · exact .inr ⟨active, rfl⟩
    · exact .inl rfl

theorem fuse_flags (fused options : FlpBatchOptions) :
    (fuse fused options).flags = fused.flags ∨
      options.sourcesToUse ≠ 0 ∧ options.flags = (fuse fused options).flags := by
  rw [fuse]
  split
  · exact .inl rfl
  · rename_i active
    dsimp only
    split
    · exact .inr ⟨active, rfl⟩
    · exact .inl rfl

theorem gathered (ids : List ι) (first : FlpBatchOptions) :
    Gathered table ids first (ids.foldl (fun fused i => fuse fused (table i)) first) := by
  induction ids generalizing first with
  | nil =>
      constructor
      · simp
      · exact ⟨Int.le_refl _, fun _ none => nomatch none⟩
      · exact .inl rfl
      · exact ⟨Nat.le_refl _, fun _ none => nomatch none⟩
      · exact .inl rfl
  | cons i rest ih =>
      obtain ⟨sources, ⟨periodLe, periods⟩, period, ⟨flagsLe, allFlags⟩, flags⟩ :=
        ih (fuse first (table i))
      obtain ⟨fromPeriod, fromFlags, own⟩ := fuse_bounds first (table i)
      rw [List.foldl_cons]
      constructor
      · intro bit
        rw [sources, fuse_sources, or_assoc]
        apply or_congr_right
        simp only [List.mem_cons, exists_eq_or_imp]
      · refine ⟨Int.le_trans periodLe fromPeriod, fun j member active => ?_⟩
        rcases List.mem_cons.mp member with here | later
        · subst here
          exact Int.le_trans periodLe (own active).1
        · exact periods j later active
      · rcases period with kept | ⟨j, later, active, same⟩
        · rcases fuse_period first (table i) with start | ⟨active, same⟩
          · exact .inl (kept.trans start)
          · exact .inr ⟨i, List.mem_cons_self, active, same.trans kept.symm⟩
        · exact .inr ⟨j, List.mem_cons_of_mem i later, active, same⟩
      · refine ⟨Nat.le_trans fromFlags flagsLe, fun j member active => ?_⟩
        rcases List.mem_cons.mp member with here | later
        · subst here
          exact Nat.le_trans (own active).2 flagsLe
        · exact allFlags j later active
      · rcases flags with kept | ⟨j, later, active, same⟩
        · rcases fuse_flags first (table i) with start | ⟨active, same⟩
          · exact .inl (kept.trans start)
          · exact .inr ⟨i, List.mem_cons_self, active, same.trans kept.symm⟩
        · exact .inr ⟨j, List.mem_cons_of_mem i later, active, same⟩

end Fold

section Table

variable {table : Fin flpOptionMax → FlpBatchOptions} {id : Int} {i : Fin flpOptionMax}

theorem batchIndex_val (i : Fin flpOptionMax) : batchIndex i.val = some i := by
  have inside : (0 : Int) ≤ i.val ∧ (i.val : Int) < flpOptionMax := by
    have := i.isLt
    omega
  rw [batchIndex, dif_pos inside]
  rfl

theorem val_of_batchIndex (found : batchIndex id = some i) : id = i.val := by
  rw [batchIndex] at found
  split at found
  · cases found
    dsimp only
    omega
  · cases found

theorem batchesOf_missing (missing : batchIndex id = none) : batchesOf table id = none := by
  simp only [batchesOf, missing]

theorem batchesOf_found (found : batchIndex id = some i) :
    batchesOf table id = (table i).batch := by
  simp only [batchesOf, found]

theorem batchesOf_update (found : batchIndex id = some i) (options : FlpBatchOptions) :
    batchesOf (Function.update table i options) =
      Function.update (batchesOf table) id options.batch := by
  funext k
  by_cases here : k = id
  · rw [here, Function.update_self, batchesOf_found found, Function.update_self]
  · rw [Function.update_of_ne here]
    cases other : batchIndex k with
    | none => rw [batchesOf_missing other, batchesOf_missing other]
    | some j =>
        have apart : j ≠ i := by
          intro same
          rw [val_of_batchIndex other, val_of_batchIndex found, same] at here
          exact here rfl
        rw [batchesOf_found other, batchesOf_found other, Function.update_of_ne apart]

theorem batch_eq_some {options batch : FlpBatchOptions} :
    options.batch = some batch ↔ options.sourcesToUse ≠ 0 ∧ options = batch := by
  rw [FlpBatchOptions.batch]
  split
  · rename_i idle
    exact iff_of_false nofun fun active => active.1 idle
  · rename_i active
    rw [Option.some.injEq]
    exact (and_iff_right active).symm

/-- An active batch is one of the table. -/
theorem exists_active {P : FlpBatchOptions → Prop} :
    (∃ id batch, batchesOf table id = some batch ∧ P batch) ↔
      ∃ i, (table i).sourcesToUse ≠ 0 ∧ P (table i) := by
  constructor
  · intro ⟨id, batch, known, holds⟩
    cases found : batchIndex id with
    | none =>
        rw [batchesOf_missing found] at known
        cases known
    | some i =>
        rw [batchesOf_found found, batch_eq_some] at known
        obtain ⟨active, same⟩ := known
        exact ⟨i, active, same ▸ holds⟩
  · intro ⟨i, active, holds⟩
    refine ⟨i.val, table i, ?_, holds⟩
    rw [batchesOf_found (batchIndex_val i), batch_eq_some]
    exact ⟨active, rfl⟩

theorem someActive_iff :
    (∃ id batch, batchesOf table id = some batch) ↔ ∃ i, (table i).sourcesToUse ≠ 0 := by
  have all := @exists_active table fun _ => True
  simpa only [and_true] using all

theorem batchesOf_idle (idle : ¬ ∃ i, (table i).sourcesToUse ≠ 0) :
    batchesOf table = fun _ => none := by
  funext id
  rw [Option.eq_none_iff_forall_ne_some]
  intro batch known
  exact idle (someActive_iff.mp ⟨id, batch, known⟩)

theorem active_update (options : FlpBatchOptions) :
    (∃ j, (Function.update table i options j).sourcesToUse ≠ 0) ↔
      options.sourcesToUse ≠ 0 ∨ ∃ j ≠ i, (table j).sourcesToUse ≠ 0 := by
  constructor
  · intro ⟨j, active⟩
    by_cases here : j = i
    · rw [here, Function.update_self] at active
      exact .inl active
    · rw [Function.update_of_ne here] at active
      exact .inr ⟨j, here, active⟩
  · rintro (active | ⟨j, other, active⟩)
    · exact ⟨i, by rwa [Function.update_self]⟩
    · exact ⟨j, by rwa [Function.update_of_ne other]⟩

variable (table) in
/-- What the loop of `update_options` ends with. -/
theorem gathered_table : ∃ fused, Gathered table (List.finRange flpOptionMax)
    { FlpBatchOptions.zero with periodNs := periodMax } fused ∧
    fusedOptions table =
      if fused.periodNs = periodMax then { fused with periodNs := 0 } else fused :=
  ⟨_, gathered _ _, rfl⟩

theorem fusedOptions_sources (bit : Nat) :
    (fusedOptions table).sourcesToUse.getLsbD bit = true ↔
      ∃ i, (table i).sourcesToUse.getLsbD bit = true := by
  obtain ⟨fused, gathered, same⟩ := gathered_table table
  have sources : (fusedOptions table).sourcesToUse = fused.sourcesToUse := by
    rw [same]
    split <;> rfl
  rw [sources, gathered.sources]
  simp [FlpBatchOptions.zero]

/-- The fused options have no sources exactly if no batch is active. -/
theorem fusedOptions_idle :
    (fusedOptions table).sourcesToUse = 0 ↔ ¬ ∃ i, (table i).sourcesToUse ≠ 0 := by
  constructor
  · intro idle ⟨i, active⟩
    apply active
    apply BitVec.eq_of_getLsbD_eq
    intro bit _
    have none : ¬ (fusedOptions table).sourcesToUse.getLsbD bit = true := by
      rw [idle]
      simp
    rw [fusedOptions_sources] at none
    rw [Bool.eq_false_of_not_eq_true fun set => none ⟨i, set⟩]
    simp
  · intro idle
    apply BitVec.eq_of_getLsbD_eq
    intro bit _
    have none : ¬ (fusedOptions table).sourcesToUse.getLsbD bit = true := by
      rw [fusedOptions_sources]
      intro ⟨i, set⟩
      apply idle
      refine ⟨i, fun zero => ?_⟩
      rw [zero] at set
      simp at set
    rw [Bool.eq_false_of_not_eq_true none]
    simp

/-- With a period to send, the fused options are the fold over the active batches. -/
theorem foldOf_fused (bounded : Bounded table) :
    FoldOf (batchesOf table) (fusedOptions table) := by
  obtain ⟨j, active, below⟩ := bounded
  obtain ⟨fused, gathered, same⟩ := gathered_table table
  have least := gathered.periodLe.2 j (List.mem_finRange j) active
  rw [if_neg (by omega)] at same
  constructor
  · intro bit
    rw [fusedOptions_sources, @exists_active _ fun o => o.sourcesToUse.getLsbD bit = true]
    constructor
    · intro ⟨i, set⟩
      refine ⟨i, fun zero => ?_, set⟩
      rw [zero] at set
      simp at set
    · intro ⟨i, _, set⟩
      exact ⟨i, set⟩
  · rw [same]
    constructor
    · rw [Set.mem_ofPred_eq, @exists_active _ fun o => o.periodNs = fused.periodNs]
      rcases gathered.period with start | ⟨i, _, on, from_⟩
      · have : fused.periodNs = periodMax := start
        omega
      · exact ⟨i, on, from_⟩
    · intro period member
      rw [Set.mem_ofPred_eq, @exists_active _ fun o => o.periodNs = period] at member
      obtain ⟨i, on, from_⟩ := member
      rw [← from_]
      exact gathered.periodLe.2 i (List.mem_finRange i) on
  · rw [same]
    constructor
    · rw [Set.mem_ofPred_eq, @exists_active _ fun o => o.flags = fused.flags]
      rcases gathered.flags with start | ⟨i, _, on, from_⟩
      · -- no flags at all: the active batch has none either
        have zero : fused.flags = 0 := start
        have most := gathered.flagsLe.2 j (List.mem_finRange j) active
        exact ⟨j, active, by omega⟩
      · exact ⟨i, on, from_⟩
    · intro flags member
      rw [Set.mem_ofPred_eq, @exists_active _ fun o => o.flags = flags] at member
      obtain ⟨i, on, from_⟩ := member
      rw [← from_]
      exact gathered.flagsLe.2 i (List.mem_finRange i) on

/-- Without one they are not: the period that is sent is that of no active batch. -/
theorem not_foldOf_fused (unbounded : ¬ Bounded table) :
    ¬ FoldOf (batchesOf table) (fusedOptions table) := by
  intro fold
  obtain ⟨fused, gathered, same⟩ := gathered_table table
  have top : fused.periodNs = periodMax := by
    rcases gathered.period with start | ⟨i, _, on, from_⟩
    · exact start
    · have most : fused.periodNs ≤ periodMax := gathered.periodLe.1
      have least : ¬ (table i).periodNs < periodMax := fun below => unbounded ⟨i, on, below⟩
      omega
  rw [if_pos top] at same
  have held := fold.period.1
  rw [same, Set.mem_ofPred_eq, @exists_active _ fun o => o.periodNs = 0] at held
  obtain ⟨i, on, zero⟩ := held
  apply unbounded
  refine ⟨i, on, ?_⟩
  rw [zero, periodMax]
  omega

end Table

section Runs

/-- The table beside the batches it stands for. -/
structure Synced (s : Hal) (batches : Batches) : Prop where
  exist : s.flpThreadExist = true
  inside : s.outside = false
  batches : batches = batchesOf s.gFlpOptions
  running : s.gFlpFirstBatch = false ↔ ∃ i, (s.gFlpOptions i).sourcesToUse ≠ 0
  fused : s.gFlpFirstBatch = false → s.gFusedOptions = fusedOptions s.gFlpOptions

structure Protocol.Inv (s : Protocol) : Prop where
  synced : Synced s.hal s.batches
  ordered : Flp.session (s.sent.map Prod.fst) = some (!s.hal.gFlpFirstBatch)
  options : ∀ command ∈ s.sent, ∀ options, command.1.options = some options →
    FoldOf command.2 options

variable {s : Protocol}

theorem inv_start : Protocol.start.Inv := by
  constructor
  · constructor
    · rfl
    · rfl
    · exact (batchesOf_idle fun ⟨_, active⟩ => active rfl).symm
    · exact iff_of_false nofun fun ⟨_, active⟩ => active rfl
    · nofun
  · rfl
  · nofun

theorem sound_of_inv (inv : s.Inv) : s.Sound := by
  constructor
  · exact inv.synced.inside
  · refine ⟨_, inv.ordered, ?_⟩
    rw [inv.synced.batches, someActive_iff, ← inv.synced.running, Bool.not_eq_true']
  · exact inv.options

/-- A step that sends nothing. -/
theorem inv_silent {t : Hal} {batches : Batches} (inv : s.Inv) (synced : Synced t batches)
    (still : t.gFlpFirstBatch = s.hal.gFlpFirstBatch) :
    Protocol.Inv ⟨t, batches, s.sent⟩ :=
  ⟨synced, by rw [still]; exact inv.ordered, inv.options⟩

/-- A step that sends one command, behind what the daemon knows. -/
theorem inv_sends {t : Hal} {batches : Batches} {known : List (Command × Batches)}
    {command : Command} (synced : Synced t batches)
    (ordered : Flp.session (command :: known.map Prod.fst) = some (!t.gFlpFirstBatch))
    (earlier : ∀ command ∈ known, ∀ options, command.1.options = some options →
      FoldOf command.2 options)
    (fold : ∀ options, command.options = some options → FoldOf batches options) :
    Protocol.Inv ⟨t, batches, (command, batches) :: known⟩ := by
  refine ⟨synced, ordered, ?_⟩
  intro sent member
  rcases List.mem_cons.mp member with new | old
  · subst new
    exact fold
  · exact earlier sent old

theorem next_silent {t : Hal} {r : Request} (state : s.hal.handle r = (t, [])) :
    s.next r = ⟨t, s.meant r, s.known r⟩ := by
  rw [Protocol.next, state]
  rfl

theorem next_sends {t : Hal} {r : Request} {command : Command}
    (state : s.hal.handle r = (t, [command])) :
    s.next r = ⟨t, s.meant r, (command, s.meant r) :: s.known r⟩ := by
  rw [Protocol.next, state]
  rfl

/-- The state behind `set_options` and `update_options` for a batch of the table. -/
def setBatch (h : Hal) (i : Fin flpOptionMax) (options : FlpBatchOptions) : Hal :=
  { h with
    gFlpOptions := Function.update h.gFlpOptions i options
    gFusedOptions := fusedOptions (Function.update h.gFlpOptions i options) }

section Handled

variable {h : Hal} {id : Int} {i : Fin flpOptionMax} {options : FlpBatchOptions}

theorem setBatch_eq (found : batchIndex id = some i) :
    mtkFlpUpdateOptions (mtkFlpSetOptions h id options) = setBatch h i options := by
  simp only [mtkFlpSetOptions, found, mtkFlpUpdateOptions, setBatch]

theorem handle_start_idle (exist : h.flpThreadExist = true) (found : batchIndex id = some i)
    (idle : options.sourcesToUse = 0) :
    h.handle (.start id (some options)) = (setBatch h i options, []) := by
  simp only [Hal.handle, flphal2mnlFlpStart, exist, Bool.true_eq_false, if_false, idle, if_true,
    setBatch_eq found]

theorem handle_start_first (exist : h.flpThreadExist = true) (found : batchIndex id = some i)
    (active : options.sourcesToUse ≠ 0) (first : h.gFlpFirstBatch = true) :
    h.handle (.start id (some options)) =
      ({ setBatch h i options with gFlpFirstBatch := false },
        [.start (setBatch h i options).gFusedOptions]) := by
  have still : (setBatch h i options).gFlpFirstBatch = true := first
  simp only [Hal.handle, flphal2mnlFlpStart, exist, Bool.true_eq_false, if_false, active,
    setBatch_eq found, still, if_true]

theorem handle_start_again (exist : h.flpThreadExist = true) (found : batchIndex id = some i)
    (active : options.sourcesToUse ≠ 0) (running : h.gFlpFirstBatch = false) :
    h.handle (.start id (some options)) =
      (setBatch h i options, [.setOption (setBatch h i options).gFusedOptions]) := by
  have still : (setBatch h i options).gFlpFirstBatch = false := running
  simp only [Hal.handle, flphal2mnlFlpStart, exist, Bool.true_eq_false, Bool.false_eq_true,
    if_false, active, setBatch_eq found, still]

theorem handle_update (exist : h.flpThreadExist = true) (found : batchIndex id = some i) :
    h.handle (.update id (some options)) =
      (setBatch h i options, [.setOption (setBatch h i options).gFusedOptions]) := by
  simp only [Hal.handle, flphal2mnlUpdateBatchingOptions, exist, Bool.true_eq_false, if_false,
    setBatch_eq found]

theorem handle_stop (exist : h.flpThreadExist = true) (found : batchIndex id = some i) :
    h.handle (.stop id) =
      if (setBatch h i .zero).gFusedOptions.sourcesToUse = 0 then
        ({ setBatch h i .zero with gFlpFirstBatch := true }, [.stop])
      else (setBatch h i .zero, [.setOption (setBatch h i .zero).gFusedOptions]) := by
  simp only [Hal.handle, flphal2mnlStopBatching, found, exist, Bool.true_eq_false, if_false,
    mtkFlpUpdateOptions, setBatch]

end Handled

/-- A table that is written at one place, while the session runs as it then should. -/
theorem synced_setBatch {h : Hal} {batches : Batches} {id : Int} {i : Fin flpOptionMax}
    {options : FlpBatchOptions} (synced : Synced h batches) (found : batchIndex id = some i)
    (first : Bool)
    (running : first = false ↔
      options.sourcesToUse ≠ 0 ∨ ∃ j ≠ i, (h.gFlpOptions j).sourcesToUse ≠ 0) :
    Synced { setBatch h i options with gFlpFirstBatch := first }
      (Function.update batches id options.batch) := by
  constructor
  · exact synced.exist
  · exact synced.inside
  · rw [setBatch, batchesOf_update found, synced.batches]
  · rw [setBatch, active_update]
    exact running
  · exact fun _ => rfl

theorem fold_setBatch {h : Hal} {batches : Batches} {id : Int} {i : Fin flpOptionMax}
    {options : FlpBatchOptions} (synced : Synced h batches) (found : batchIndex id = some i)
    (bounded : Bounded (Function.update h.gFlpOptions i options)) :
    FoldOf (Function.update batches id options.batch) (setBatch h i options).gFusedOptions := by
  rw [synced.batches, ← batchesOf_update found]
  exact foldOf_fused bounded

theorem active_of_bounded {table : Fin flpOptionMax → FlpBatchOptions} {i : Fin flpOptionMax}
    {options : FlpBatchOptions} (bounded : Bounded (Function.update table i options)) :
    options.sourcesToUse ≠ 0 ∨ ∃ j ≠ i, (table j).sourcesToUse ≠ 0 := by
  obtain ⟨j, active, _⟩ := bounded
  exact (active_update options).mp ⟨j, active⟩

theorem start_inv {id : Int} {options : FlpBatchOptions} (inv : s.Inv)
    (orderly : Orderly s.hal (.start id (some options))) :
    (s.next (.start id (some options))).Inv := by
  obtain ⟨i, found, others, bounded⟩ := orderly
  have synced := inv.synced
  by_cases idle : options.sourcesToUse = 0
  · rw [next_silent (handle_start_idle synced.exist found idle)]
    refine inv_silent inv (synced_setBatch synced found s.hal.gFlpFirstBatch ?_) rfl
    constructor
    · exact fun running => .inr (others idle running)
    · rintro (active | ⟨j, _, active⟩)
      · exact absurd idle active
      · exact synced.running.mpr ⟨j, active⟩
  · have fold := fold_setBatch synced found (bounded idle)
    cases first : s.hal.gFlpFirstBatch with
    | true =>
        rw [next_sends (handle_start_first synced.exist found idle first)]
        apply inv_sends
        · exact synced_setBatch synced found false (iff_of_true rfl (.inl idle))
        · simp only [session, Protocol.known, inv.ordered, first, Bool.not_true, Bool.not_false]
        · exact inv.options
        · intro sent same
          cases same
          exact fold
    | false =>
        rw [next_sends (handle_start_again synced.exist found idle first)]
        apply inv_sends
        · exact synced_setBatch synced found s.hal.gFlpFirstBatch
            (iff_of_true first (.inl idle))
        · simp only [session, Protocol.known, inv.ordered, first, Bool.not_false, setBatch]
        · exact inv.options
        · intro sent same
          cases same
          exact fold

theorem update_inv {id : Int} {options : FlpBatchOptions} (inv : s.Inv)
    (orderly : Orderly s.hal (.update id (some options))) :
    (s.next (.update id (some options))).Inv := by
  obtain ⟨i, found, running, bounded⟩ := orderly
  have synced := inv.synced
  rw [next_sends (handle_update synced.exist found)]
  apply inv_sends
  · exact synced_setBatch synced found s.hal.gFlpFirstBatch
      (iff_of_true running (active_of_bounded bounded))
  · simp only [session, Protocol.known, inv.ordered, running, Bool.not_false, setBatch]
  · exact inv.options
  · intro sent same
    cases same
    exact fold_setBatch synced found bounded

/-- The cleared table has sources exactly if another batch is active. -/
theorem cleared_idle {h : Hal} {i : Fin flpOptionMax} :
    (setBatch h i .zero).gFusedOptions.sourcesToUse = 0 ↔
      ¬ ∃ j ≠ i, (h.gFlpOptions j).sourcesToUse ≠ 0 := by
  rw [setBatch, fusedOptions_idle, active_update]
  exact not_congr (or_iff_right fun active => active rfl)

theorem stop_inv {id : Int} (inv : s.Inv) (orderly : Orderly s.hal (.stop id)) :
    (s.next (.stop id)).Inv := by
  have synced := inv.synced
  cases found : batchIndex id with
  | none =>
      have state : s.hal.handle (.stop id) = (s.hal, []) := by
        simp only [Hal.handle, flphal2mnlStopBatching, found]
      have meant : s.meant (.stop id) = s.batches := by
        have none : s.batches id = none := by
          rw [synced.batches, batchesOf_missing found]
        rw [Protocol.meant, ← none, Function.update_eq_self]
      rw [next_silent state, meant]
      exact inv
  | some i =>
      obtain ⟨running, bounded⟩ := orderly i found
      have handled := handle_stop synced.exist found
      by_cases last : (setBatch s.hal i .zero).gFusedOptions.sourcesToUse = 0
      · rw [if_pos last] at handled
        rw [next_sends handled]
        apply inv_sends
        · refine synced_setBatch synced found true (iff_of_false nofun ?_)
          rintro (active | others)
          · exact active rfl
          · exact cleared_idle.mp last others
        · simp only [session, Protocol.known, inv.ordered, running, Bool.not_false, Bool.not_true]
        · exact inv.options
        · nofun
      · rw [if_neg last] at handled
        have others := not_not.mp (mt cleared_idle.mpr last)
        rw [next_sends handled]
        apply inv_sends
        · exact synced_setBatch synced found s.hal.gFlpFirstBatch
            (iff_of_true running (.inr others))
        · simp only [session, Protocol.known, inv.ordered, running, Bool.not_false, setBatch]
        · exact inv.options
        · intro sent same
          cases same
          exact fold_setBatch synced found (bounded others)

theorem reset_inv (inv : s.Inv) : (s.next .reset).Inv := by
  have synced := inv.synced
  cases first : s.hal.gFlpFirstBatch with
  | true =>
      have state : s.hal.handle .reset = (s.hal, []) := by
        simp only [Hal.handle, resetFlpData, first, if_true]
      have idle : ¬ ∃ i, (s.hal.gFlpOptions i).sourcesToUse ≠ 0 := by
        rw [← synced.running, first]
        nofun
      have meant : s.meant .reset = s.batches := by
        rw [synced.batches, batchesOf_idle idle]
        rfl
      rw [next_silent state, meant]
      exact inv
  | false =>
      have state : s.hal.handle .reset =
          ({ s.hal with
              gFlpOptions := fun _ => .zero
              gFusedOptions := .zero
              gFlpFirstBatch := true }, [.stop]) := by
        simp only [Hal.handle, resetFlpData, first, Bool.false_eq_true, if_false]
      rw [next_sends state]
      apply inv_sends
      · constructor
        · exact synced.exist
        · exact synced.inside
        · exact (batchesOf_idle fun ⟨_, active⟩ => active rfl).symm
        · exact iff_of_false nofun fun ⟨_, active⟩ => active rfl
        · nofun
      · simp only [session, Protocol.known, inv.ordered, first, Bool.not_false, Bool.not_true]
      · exact inv.options
      · nofun

theorem reboot_inv (inv : s.Inv) (orderly : Orderly s.hal .reboot) :
    (s.next .reboot).Inv := by
  have synced := inv.synced
  cases first : s.hal.gFlpFirstBatch with
  | true =>
      have state : s.hal.handle .reboot = (s.hal, []) := by
        simp only [Hal.handle, flphal2mnlFlpRebootDoneNtf, first, if_true]
      rw [next_silent state]
      refine ⟨synced, ?_, nofun⟩
      rw [first]
      rfl
  | false =>
      have state : s.hal.handle .reboot = (s.hal, [.start s.hal.gFusedOptions]) := by
        simp only [Hal.handle, flphal2mnlFlpRebootDoneNtf, first, Bool.false_eq_true, if_false]
      rw [next_sends state]
      apply inv_sends synced
      · rw [first]
        rfl
      · nofun
      · intro sent same
        cases same
        rw [synced.fused first, synced.batches]
        exact foldOf_fused (orderly first)

theorem inv_next {r : Request} (inv : s.Inv) (orderly : Orderly s.hal r) : (s.next r).Inv := by
  cases r with
  | start id options =>
      cases options with
      | none => exact inv
      | some options => exact start_inv inv orderly
  | update id options =>
      cases options with
      | none => exact inv
      | some options => exact update_inv inv orderly
  | stop id => exact stop_inv inv orderly
  | reset => exact reset_inv inv
  | reboot => exact reboot_inv inv orderly

section Broken

variable {t : Hal} {batches : Batches} {known : List (Command × Batches)} {command : Command}

/-- A command out of its order. -/
theorem not_sound_disordered (disordered : session (command :: known.map Prod.fst) = none) :
    ¬ Protocol.Sound ⟨t, batches, (command, batches) :: known⟩ := by
  intro sound
  obtain ⟨running, ordered, _⟩ := sound.session
  rw [List.map_cons, disordered] at ordered
  cases ordered

/-- Options without a period to send. -/
theorem not_sound_unbounded {h : Hal} {old : Batches} {id : Int} {i : Fin flpOptionMax}
    {options : FlpBatchOptions} (synced : Synced h old) (found : batchIndex id = some i)
    (carried : command.options = some (setBatch h i options).gFusedOptions)
    (unbounded : ¬ Bounded (Function.update h.gFlpOptions i options)) :
    ¬ Protocol.Sound ⟨t, Function.update old id options.batch,
      (command, Function.update old id options.batch) :: known⟩ := by
  intro sound
  have fold := sound.options _ List.mem_cons_self _ carried
  rw [synced.batches, ← batchesOf_update found] at fold
  exact not_foldOf_fused unbounded fold

theorem setOptions_outside {h : Hal} {id : Int} (missing : batchIndex id = none)
    (options : FlpBatchOptions) :
    (mtkFlpUpdateOptions (mtkFlpSetOptions h id options)).outside = true := by
  simp only [mtkFlpSetOptions, missing, mtkFlpUpdateOptions]

theorem start_outside {h : Hal} {id : Int} (exist : h.flpThreadExist = true)
    (missing : batchIndex id = none) (options : FlpBatchOptions) :
    (h.handle (.start id (some options))).1.outside = true := by
  have outside := setOptions_outside (h := h) missing options
  simp only [Hal.handle, flphal2mnlFlpStart, exist, Bool.true_eq_false, if_false]
  split
  · exact outside
  · split
    · exact outside
    · exact outside

theorem start_broken {id : Int} {options : FlpBatchOptions} (inv : s.Inv)
    (disorderly : ¬ Orderly s.hal (.start id (some options))) :
    ¬ (s.next (.start id (some options))).Sound := by
  have synced := inv.synced
  cases found : batchIndex id with
  | none =>
      intro sound
      have inside := sound.inside
      rw [Protocol.next, start_outside synced.exist found options] at inside
      cases inside
  | some i =>
      by_cases idle : options.sourcesToUse = 0
      · have alone : s.hal.gFlpFirstBatch = false ∧
            ¬ ∃ j ≠ i, (s.hal.gFlpOptions j).sourcesToUse ≠ 0 := by
          rw [← Classical.not_imp]
          exact fun others =>
            disorderly ⟨i, found, fun _ => others, fun active => absurd idle active⟩
        rw [next_silent (handle_start_idle synced.exist found idle)]
        intro sound
        obtain ⟨running, ordered, active⟩ := sound.session
        have before : session (s.sent.map Prod.fst) = some true := by
          rw [inv.ordered, alone.1, Bool.not_false]
        have on : running = true := by
          have same := ordered.symm.trans before
          exact Option.some.inj same
        obtain ⟨k, batch, held⟩ := active.mp on
        have table : s.meant (.start id (some options)) =
            batchesOf (Function.update s.hal.gFlpOptions i options) := by
          rw [batchesOf_update found, ← synced.batches]
          rfl
        rw [table] at held
        rcases (active_update options).mp (someActive_iff.mp ⟨k, batch, held⟩) with own | others
        · exact own idle
        · exact alone.2 others
      · have unbounded : ¬ Bounded (Function.update s.hal.gFlpOptions i options) := fun bounded =>
          disorderly ⟨i, found, fun none => absurd none idle, fun _ => bounded⟩
        cases first : s.hal.gFlpFirstBatch with
        | true =>
            rw [next_sends (handle_start_first synced.exist found idle first)]
            exact not_sound_unbounded synced found rfl unbounded
        | false =>
            rw [next_sends (handle_start_again synced.exist found idle first)]
            exact not_sound_unbounded synced found rfl unbounded

theorem update_broken {id : Int} {options : FlpBatchOptions} (inv : s.Inv)
    (disorderly : ¬ Orderly s.hal (.update id (some options))) :
    ¬ (s.next (.update id (some options))).Sound := by
  have synced := inv.synced
  cases found : batchIndex id with
  | none =>
      intro sound
      have inside := sound.inside
      have outside : (s.hal.handle (.update id (some options))).1.outside = true := by
        simp only [Hal.handle, flphal2mnlUpdateBatchingOptions, synced.exist, Bool.true_eq_false,
          if_false]
        exact setOptions_outside found options
      rw [Protocol.next, outside] at inside
      cases inside
  | some i =>
      rw [next_sends (handle_update synced.exist found)]
      cases first : s.hal.gFlpFirstBatch with
      | true =>
          apply not_sound_disordered
          simp only [session, Protocol.known, inv.ordered, first, Bool.not_true]
      | false =>
          exact not_sound_unbounded synced found rfl
            fun bounded => disorderly ⟨i, found, first, bounded⟩

theorem stop_broken {id : Int} (inv : s.Inv) (disorderly : ¬ Orderly s.hal (.stop id)) :
    ¬ (s.next (.stop id)).Sound := by
  have synced := inv.synced
  rw [Orderly, not_forall] at disorderly
  obtain ⟨i, disorderly⟩ := disorderly
  rw [Classical.not_imp] at disorderly
  obtain ⟨found, disorderly⟩ := disorderly
  have handled := handle_stop synced.exist found
  cases first : s.hal.gFlpFirstBatch with
  | true =>
      by_cases last : (setBatch s.hal i .zero).gFusedOptions.sourcesToUse = 0
      · rw [if_pos last] at handled
        rw [next_sends handled]
        apply not_sound_disordered
        simp only [session, Protocol.known, inv.ordered, first, Bool.not_true]
      · rw [if_neg last] at handled
        rw [next_sends handled]
        apply not_sound_disordered
        simp only [session, Protocol.known, inv.ordered, first, Bool.not_true]
  | false =>
      have unbounded : (∃ j ≠ i, (s.hal.gFlpOptions j).sourcesToUse ≠ 0) ∧
          ¬ Bounded (Function.update s.hal.gFlpOptions i .zero) := by
        rw [← Classical.not_imp]
        exact fun bounded => disorderly ⟨first, bounded⟩
      have last : ¬ (setBatch s.hal i .zero).gFusedOptions.sourcesToUse = 0 :=
        fun idle => cleared_idle.mp idle unbounded.1
      rw [if_neg last] at handled
      rw [next_sends handled]
      exact not_sound_unbounded synced found rfl unbounded.2

theorem reboot_broken (inv : s.Inv) (disorderly : ¬ Orderly s.hal .reboot) :
    ¬ (s.next .reboot).Sound := by
  have synced := inv.synced
  rw [Orderly, Classical.not_imp] at disorderly
  obtain ⟨first, unbounded⟩ := disorderly
  have state : s.hal.handle .reboot = (s.hal, [.start s.hal.gFusedOptions]) := by
    simp only [Hal.handle, flphal2mnlFlpRebootDoneNtf, first, Bool.false_eq_true, if_false]
  rw [next_sends state]
  intro sound
  have fold := sound.options _ List.mem_cons_self _ rfl
  have meant : s.meant .reboot = s.batches := rfl
  rw [meant, synced.fused first, synced.batches] at fold
  exact not_foldOf_fused unbounded fold

end Broken

theorem not_sound_next {r : Request} (inv : s.Inv) (disorderly : ¬ Orderly s.hal r) :
    ¬ (s.next r).Sound := by
  cases r with
  | start id options =>
      cases options with
      | none => exact absurd trivial disorderly
      | some options => exact start_broken inv disorderly
  | update id options =>
      cases options with
      | none => exact absurd trivial disorderly
      | some options => exact update_broken inv disorderly
  | stop id => exact stop_broken inv disorderly
  | reset => exact absurd trivial disorderly
  | reboot => exact reboot_broken inv disorderly

end Runs

/-- The protocol is kept along exactly the runs of orderly requests. -/
theorem session_kept_iff (requests : List Request) :
    AllStates Protocol.step Protocol.Sound .start requests ↔
      StepsMeet Protocol.step (fun s r => Orderly s.hal r) .start requests := by
  apply @allStates_iff_stepsMeet _ _ _ Protocol.Inv
  · intro s r t inv orderly taken
    cases taken
    exact inv_next inv orderly
  · exact fun _ => sound_of_inv
  · intro s r t inv disorderly taken
    cases taken
    exact not_sound_next inv disorderly
  · exact inv_start

/-- A stop of a batch that has never been started is sent to the daemon. -/
theorem not_session_kept :
    (Protocol.start.next (.stop 0)).sent.map Prod.fst = [.stop] ∧
      ¬ AllStates Protocol.step Protocol.Sound .start [.stop 0] := by
  have sent : (Protocol.start.next (.stop 0)).sent.map Prod.fst = [.stop] := by decide
  refine ⟨sent, fun all => ?_⟩
  obtain ⟨running, ordered, _⟩ := (all.last (t := Protocol.start.next (.stop 0)) rfl).session
  rw [sent] at ordered
  cases ordered

end Connectivity.Flp
