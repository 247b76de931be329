import Connectivity.Flp.Session
import Connectivity.Transition.Run
import Mathlib.Data.List.Chain

set_option autoImplicit false

/- mtk_flp_controller.c: the batches of the AP mode. mnld collects locations for the controller
while a source is wanted, and the HAL is handed those that are a period apart. -/
namespace Connectivity.Flp

/-- `MTK_FLP_IDLE_MODE`. -/
def mtkFlpIdleMode : Int := -1

def oneSecNs : Int := 1000000000

/-- `FLP_TECH_MASK_GNSS`. -/
def flpTechMaskGnss : BitVec 32 := 1

/-- `MTK_FLP_BATCH_OPTION_T`. -/
structure MtkFlpBatchOption where
  maxPowerAllocationMW : BitVec 64
  sourcesToUse : BitVec 32
  flags : Int
  periodNs : Int
deriving DecidableEq

/-- `MTK_FLP_MSG_DC_START_CMD` and `MTK_FLP_MSG_DC_STOP_CMD`. -/
inductive DcCommand
  | start (option : MtkFlpBatchOption)
  | stop
deriving DecidableEq

/-- The messages for the controller. Without options they were too short to hold them. -/
inductive ControlMessage
  | start (options : Option FlpBatchOptions)
  | stop
  | setOption (options : Option FlpBatchOptions)
  | other

/-- Which allocations succeed: the command of the controller, and the request to mnld that it is
sent as. -/
structure CommandAlloc where
  command : Bool
  request : Bool
deriving DecidableEq

/-- The same for what the HAL is told. -/
structure NoticeAlloc where
  status : Bool
  report : Bool
deriving DecidableEq

/-- `MTK_FLP_MSG_HAL_REPORT_STATUS_NTF` and `MTK_FLP_MSG_HSB_REPORT_LOC_NTF`. -/
inductive HalNotice (α : Type)
  | status (unavailable : Bool)
  | location (loc : α)
deriving DecidableEq

/-- The time of a location, and the seconds of the period that was in force. -/
structure Fix where
  tick : Int
  seconds : Int
deriving DecidableEq

/-- The variables of the controller, and what it has sent to mnld and to the HAL, latest first. No
branch reads `offered` and `taken`, the locations with a fix that came, and those of them that were
on their period, since the controller last set out to have mnld collect. -/
structure Controller (α : Type) where
  enabled : Bool
  sourceToUse : BitVec 32
  runningSource : BitVec 32
  batchMode : Int
  locAvailable : Option Bool
  periodNs : Int
  updateLastTime : Int
  dc : List DcCommand
  told : List (HalNotice α)
  offered : List Fix
  taken : List Fix
deriving DecidableEq

/-- A message with the allocations behind it, a location of mnld with the times at which it is
looked at, or a switch of mnld to the offload mode. The times are what
`mtk_flp_sys_get_time_tick` returns, and `fix` says whether the accuracy is that of one. -/
inductive ControlInput (α : Type)
  | message (message : ControlMessage) (alloc : CommandAlloc)
  | location (loc : α) (fix : Bool) (checked now : BitVec 32) (alloc : NoticeAlloc)
  | reset

variable {α : Type}

namespace Controller

open Transition

def initial : Controller α where
  enabled := false
  sourceToUse := 0
  runningSource := 0
  batchMode := mtkFlpIdleMode
  locAvailable := none
  periodNs := 0
  updateLastTime := 0
  dc := []
  told := []
  offered := []
  taken := []

variable (s : Controller α)

/-- The period in whole seconds. -/
def seconds : Int := s.periodNs.tdiv oneSecNs

/-- The status at a time: whether the last location lies more than a period and a second back. -/
def unavailable (checked : Int) : Bool := s.seconds + 1 < checked - s.updateLastTime

/-- `mtk_flp_controller_check_loc_available_expired`. -/
def checkLocAvailableExpired (checked : Int) (alloc : NoticeAlloc) : Controller α :=
  if s.batchMode = mtkFlpIdleMode then s
  else if s.locAvailable ≠ some (s.unavailable checked) then
    { s with
      locAvailable := some (s.unavailable checked)
      told := if alloc.status then .status (s.unavailable checked) :: s.told else s.told }
  else s

def offer (now : Int) : Controller α := { s with offered := ⟨now, s.seconds⟩ :: s.offered }

def take (now : Int) : Controller α :=
  { s with updateLastTime := now, taken := ⟨now, s.seconds⟩ :: s.taken }

/-- The part of `mtk_flp_controller_report_loc` behind the check: whether a location with a fix
is on its period. -/
def onPeriod (now : Int) : Controller α × Bool :=
  if s.updateLastTime = 0 then (s.take now, true)
  else
    let s := if now < s.updateLastTime then { s with updateLastTime := 0 } else s
    if s.seconds ≤ now - s.updateLastTime then (s.take now, true) else (s, false)

/-- `mtk_flp_controller_report_loc`, with whether it returns `MTK_FLP_SUCCESS`. -/
def reportLoc (fix : Bool) (checked now : Int) (alloc : NoticeAlloc) : Controller α × Bool :=
  if s.enabled then
    let s := s.checkLocAvailableExpired checked alloc
    if fix then (s.offer now).onPeriod now else (s, false)
  else (s, false)

/-- `MNLD_FLP_TYPE_HBD_GPS_LOCATION` of `mnl2flp_hdlr`. -/
def hbdGpsLocation (loc : α) (fix : Bool) (checked now : Int) (alloc : NoticeAlloc) :
    Controller α :=
  match s.reportLoc fix checked now alloc with
  | (s, false) => s
  | (s, true) =>
      if mtkFlpIdleMode < s.batchMode ∧ alloc.report then
        { s with told := .location loc :: s.told }
      else s

/-- `mtk_flp2mnl_process`, for the commands of the controller. -/
def flp2mnlProcess (alloc : CommandAlloc) (command : DcCommand) : Controller α :=
  if alloc.request then { s with dc := command :: s.dc } else s

/-- `mtk_flp_controller_update_option`. -/
def updateOption (alloc : CommandAlloc) (option : FlpBatchOptions) : Controller α :=
  if s.runningSource ≠ s.sourceToUse then
    if s.runningSource = 0 ∧ s.sourceToUse ≠ 0 then
      let s := { s with updateLastTime := 0, offered := [], taken := [] }
      if alloc.command then
        { s.flp2mnlProcess alloc (.start ⟨option.maxPowerAllocationMW, flpTechMaskGnss,
            s.batchMode, s.periodNs⟩) with runningSource := s.sourceToUse }
      else s
    else if s.runningSource ≠ 0 ∧ s.sourceToUse = 0 then
      if alloc.command then
        { s.flp2mnlProcess alloc .stop with runningSource := s.sourceToUse }
      else s
    else { s with runningSource := s.sourceToUse }
  else { s with runningSource := s.sourceToUse }

/-- `flags` as the `int` that they are kept in. -/
def modeOf (flags : Nat) : Int := (BitVec.ofNat 32 flags).toInt

/-- `MTK_FLP_MSG_HAL_SET_OPTION_CMD`, with its options. -/
def setOption (alloc : CommandAlloc) (option : FlpBatchOptions) : Controller α :=
  let s := { s with
    periodNs :=
      if s.periodNs ≠ option.periodNs ∧ 0 < option.periodNs then option.periodNs else s.periodNs
    batchMode := modeOf option.flags
    sourceToUse := option.sourcesToUse }
  s.updateOption alloc option

/-- `mtk_flp_controller_process`. -/
def process (alloc : CommandAlloc) : ControlMessage → Controller α
  | .start (some option) =>
      let s := { s with
        enabled := true
        batchMode := modeOf option.flags
        periodNs := option.periodNs
        sourceToUse := option.sourcesToUse }
      s.updateOption alloc option
  | .start none => s
  | .stop => { s with enabled := false, sourceToUse := 0 }.updateOption alloc .zero
  | .setOption (some option) => { s with enabled := true }.setOption alloc option
  | .setOption none => { s with enabled := true }
  | .other => s

/-- `mtk_flp_controller_reset_status`. -/
def resetStatus : Controller α :=
  { s with
    enabled := false
    sourceToUse := 0
    runningSource := 0
    batchMode := mtkFlpIdleMode
    periodNs := 0 }

def next : ControlInput α → Controller α
  | .message message alloc => s.process alloc message
  | .location loc fix checked now alloc =>
      s.hbdGpsLocation loc fix checked.toNat now.toNat alloc
  | .reset => s.resetStatus

def step (input : ControlInput α) : Option (Controller α) := some (s.next input)

section Thinning

/-- The locations taken lie a period apart, and any other lies less than one behind one of them. -/
structure Thinned : Prop where
  spaced : s.taken.Pairwise fun later earlier => earlier.tick + later.seconds ≤ later.tick
  covered : ∀ fix ∈ s.offered, ∃ first ∈ s.taken, first.tick ≤ fix.tick ∧
    (first = fix ∨ fix.tick < first.tick + fix.seconds)

/-- A location is looked at while the clock is set, and not before the last one that was taken. -/
def Timely : ControlInput α → Prop
  | .message _ _ => True
  | .location _ _ _ now _ => 0 < now.toNat ∧ s.updateLastTime ≤ now.toNat
  | .reset => True

instance (input : ControlInput α) : Decidable (s.Timely input) := by
  cases input <;> unfold Timely <;> infer_instance

/-- The time that is kept is that of the last location taken. -/
inductive LastTaken : Prop
  | none (time : s.updateLastTime = 0) (taken : s.taken = [])
  | some {last : Fix} {earlier : List Fix} (positive : 0 < s.updateLastTime)
      (time : last.tick = s.updateLastTime) (taken : s.taken = last :: earlier)
      (ordered : ∀ fix ∈ s.taken, fix.tick ≤ s.updateLastTime)

structure ThinInv : Prop extends Thinned s where
  last : LastTaken s

variable {s : Controller α} {t : Controller α}

/-- A step that leaves the locations alone. -/
theorem ThinInv.same (inv : ThinInv s) (time : t.updateLastTime = s.updateLastTime)
    (offered : t.offered = s.offered) (taken : t.taken = s.taken) : ThinInv t := by
  refine ⟨⟨?_, ?_⟩, ?_⟩
  · rw [taken]
    exact inv.spaced
  · rw [offered, taken]
    exact inv.covered
  · cases inv.last with
    | none unset nothing => exact .none (time.trans unset) (taken.trans nothing)
    | some positive same first ordered =>
        rw [← time] at positive same ordered
        rw [← taken] at first ordered
        exact .some positive same first ordered

/-- A step behind which mnld starts to collect. -/
theorem thinInv_fresh (time : t.updateLastTime = 0) (offered : t.offered = [])
    (taken : t.taken = []) : ThinInv t := by
  refine ⟨⟨?_, ?_⟩, .none time taken⟩
  · rw [taken]
    exact List.Pairwise.nil
  · rw [offered]
    nofun

/-- A location that is taken. -/
theorem ThinInv.take (inv : ThinInv s) {now : Int} (set : 0 < now)
    (ordered : ∀ fix ∈ s.taken, fix.tick ≤ now)
    (spaced : ∀ fix ∈ s.taken, fix.tick + s.seconds ≤ now) : ThinInv ((s.offer now).take now) := by
  refine ⟨⟨List.pairwise_cons.mpr ⟨spaced, inv.spaced⟩, ?_⟩, .some set rfl rfl ?_⟩
  · intro fix member
    rcases List.mem_cons.mp member with new | old
    · exact ⟨_, List.mem_cons_self, new ▸ Int.le_refl _, .inl new.symm⟩
    · obtain ⟨first, among, before⟩ := inv.covered fix old
      exact ⟨first, List.mem_cons_of_mem _ among, before⟩
  · intro fix member
    rcases List.mem_cons.mp member with new | old
    · exact new ▸ Int.le_refl _
    · exact ordered fix old

/-- A location that is not. -/
theorem ThinInv.withhold (inv : ThinInv s) {now : Int} {last : Fix} (among : last ∈ s.taken)
    (after : last.tick ≤ now) (close : now < last.tick + s.seconds) : ThinInv (s.offer now) := by
  refine ⟨⟨inv.spaced, ?_⟩, ?_⟩
  · intro fix member
    rcases List.mem_cons.mp member with new | old
    · exact ⟨last, among, new ▸ after, .inr (new ▸ close)⟩
    · exact inv.covered fix old
  · cases inv.last with
    | none time taken => exact .none time taken
    | some positive time taken ordered => exact .some positive time taken ordered

theorem ThinInv.onPeriod (inv : ThinInv s) {now : Int} (set : 0 < now)
    (forward : s.updateLastTime ≤ now) : ThinInv ((s.offer now).onPeriod now).1 := by
  have kept : (s.offer now).updateLastTime = s.updateLastTime := rfl
  have period : (s.offer now).seconds = s.seconds := rfl
  cases inv.last with
  | none time taken =>
      rw [Controller.onPeriod, if_pos (kept.trans time)]
      apply inv.take set <;> (rw [taken]; nofun)
  | @some last earlier positive time taken ordered =>
      have among : last ∈ s.taken := taken ▸ List.mem_cons_self
      simp only [Controller.onPeriod, kept, period, if_neg positive.ne',
        if_neg (Int.not_lt.mpr forward)]
      split
      · rename_i elapsed
        apply inv.take set
        · exact fun fix member => Int.le_trans (ordered fix member) forward
        · intro fix member
          have before := ordered fix member
          omega
      · rename_i running
        apply inv.withhold among
        · omega
        · omega

theorem ThinInv.updateOption (inv : ThinInv s) (alloc : CommandAlloc) (option : FlpBatchOptions) :
    ThinInv (s.updateOption alloc option) := by
  unfold Controller.updateOption flp2mnlProcess
  split_ifs
  all_goals first | exact inv.same rfl rfl rfl | exact thinInv_fresh rfl rfl rfl

theorem ThinInv.check (inv : ThinInv s) (checked : Int) (alloc : NoticeAlloc) :
    ThinInv (s.checkLocAvailableExpired checked alloc) := by
  unfold checkLocAvailableExpired
  split_ifs
  all_goals exact inv.same rfl rfl rfl

theorem check_updateLastTime (checked : Int) (alloc : NoticeAlloc) :
    (s.checkLocAvailableExpired checked alloc).updateLastTime = s.updateLastTime := by
  unfold checkLocAvailableExpired
  split_ifs <;> rfl

theorem ThinInv.reportLoc (inv : ThinInv s) {now : Int} (set : 0 < now)
    (forward : s.updateLastTime ≤ now) (fix : Bool) (checked : Int) (alloc : NoticeAlloc) :
    ThinInv (s.reportLoc fix checked now alloc).1 := by
  unfold Controller.reportLoc
  split
  · have looked := inv.check checked alloc
    cases fix with
    | false => exact looked
    | true =>
        rw [← check_updateLastTime checked alloc] at forward
        exact looked.onPeriod set forward
  · exact inv

theorem ThinInv.hbdGpsLocation (inv : ThinInv s) {now : Int} (set : 0 < now)
    (forward : s.updateLastTime ≤ now) (loc : α) (fix : Bool) (checked : Int)
    (alloc : NoticeAlloc) :
    ThinInv (s.hbdGpsLocation loc fix checked now alloc) := by
  have reported := inv.reportLoc set forward fix checked alloc
  unfold Controller.hbdGpsLocation
  revert reported
  rcases s.reportLoc fix checked now alloc with ⟨t, _ | _⟩ <;> intro reported
  · exact reported
  · dsimp only at reported ⊢
    split
    · exact reported.same rfl rfl rfl
    · exact reported

theorem ThinInv.process (inv : ThinInv s) (alloc : CommandAlloc) (message : ControlMessage) :
    ThinInv (s.process alloc message) := by
  rcases message with (_ | option) | _ | (_ | option) | _
  · exact inv
  · apply ThinInv.updateOption
    exact inv.same rfl rfl rfl
  · apply ThinInv.updateOption
    exact inv.same rfl rfl rfl
  · exact inv.same rfl rfl rfl
  · apply ThinInv.updateOption
    exact inv.same rfl rfl rfl
  · exact inv

theorem ThinInv.next (inv : ThinInv s) {input : ControlInput α} (timely : s.Timely input) :
    ThinInv (s.next input) := by
  cases input with
  | message message alloc => exact inv.process alloc message
  | location loc fix checked now alloc =>
      obtain ⟨set, forward⟩ := timely
      exact inv.hbdGpsLocation (Int.natCast_pos.mpr set) forward loc fix checked.toNat alloc
  | reset => exact inv.same rfl rfl rfl

end Thinning

section Statuses

/-- The statuses among what the HAL has been told. -/
def statuses (told : List (HalNotice α)) : List Bool :=
  told.filterMap fun notice =>
    match notice with
    | .status unavailable => some unavailable
    | .location _ => none

/-- The HAL knows the status that was determined last, and has been told of changes alone. -/
structure Announced : Prop where
  known : (statuses s.told).head? = s.locAvailable
  changes : (statuses s.told).IsChain (· ≠ ·)

/-- The status changes with a location. -/
def Changes (checked : Int) : Prop :=
  s.enabled = true ∧ s.batchMode ≠ mtkFlpIdleMode ∧ s.locAvailable ≠ some (s.unavailable checked)

instance (checked : Int) : Decidable (s.Changes checked) := inferInstanceAs (Decidable (_ ∧ _ ∧ _))

/-- There is memory to tell of a change. -/
def Tells : ControlInput α → Prop
  | .message _ _ => True
  | .location _ _ checked _ alloc => s.Changes checked.toNat → alloc.status = true
  | .reset => True

variable {s : Controller α}

theorem onPeriod_status (now : Int) :
    (s.onPeriod now).1.told = s.told ∧ (s.onPeriod now).1.locAvailable = s.locAvailable := by
  unfold Controller.onPeriod Controller.take
  dsimp only
  split_ifs <;> exact ⟨rfl, rfl⟩

theorem updateOption_status (alloc : CommandAlloc) (option : FlpBatchOptions) :
    (s.updateOption alloc option).told = s.told ∧
      (s.updateOption alloc option).locAvailable = s.locAvailable := by
  unfold Controller.updateOption flp2mnlProcess
  dsimp only
  split_ifs <;> exact ⟨rfl, rfl⟩

theorem process_status (alloc : CommandAlloc) (message : ControlMessage) :
    (s.process alloc message).told = s.told ∧
      (s.process alloc message).locAvailable = s.locAvailable := by
  rcases message with (_ | option) | _ | (_ | option) | _
  · exact ⟨rfl, rfl⟩
  · exact updateOption_status alloc option
  · exact updateOption_status alloc .zero
  · exact ⟨rfl, rfl⟩
  · exact updateOption_status alloc option
  · exact ⟨rfl, rfl⟩

/-- A look at the status. -/
structure Looked (t : Controller α) (checked : Int) (alloc : NoticeAlloc) : Prop where
  same (kept : ¬ s.Changes checked) :
    statuses t.told = statuses s.told ∧ t.locAvailable = s.locAvailable
  changed (changes : s.Changes checked) : t.locAvailable = some (s.unavailable checked) ∧
    statuses t.told =
      if alloc.status then s.unavailable checked :: statuses s.told else statuses s.told

theorem check_looked (enabled : s.enabled = true) (checked : Int) (alloc : NoticeAlloc) :
    Looked (s := s) (s.checkLocAvailableExpired checked alloc) checked alloc := by
  unfold checkLocAvailableExpired
  by_cases idle : s.batchMode = mtkFlpIdleMode
  · rw [if_pos idle]
    exact ⟨fun _ => ⟨rfl, rfl⟩, fun changes => absurd idle changes.2.1⟩
  · by_cases differs : s.locAvailable ≠ some (s.unavailable checked)
    · rw [if_neg idle, if_pos differs]
      refine ⟨fun kept => absurd ⟨enabled, idle, differs⟩ kept, fun _ => ⟨rfl, ?_⟩⟩
      cases alloc.status <;> rfl
    · rw [if_neg idle, if_neg differs]
      exact ⟨fun _ => ⟨rfl, rfl⟩, fun changes => absurd changes.2.2 differs⟩

theorem reportLoc_looked (fix : Bool) (checked now : Int) (alloc : NoticeAlloc) :
    Looked (s := s) (s.reportLoc fix checked now alloc).1 checked alloc := by
  unfold Controller.reportLoc
  cases enabled : s.enabled with
  | false => exact ⟨fun _ => ⟨rfl, rfl⟩, fun changes => absurd changes.1 (by rw [enabled]; decide)⟩
  | true =>
      have looked := check_looked enabled checked alloc
      cases fix with
      | false => exact looked
      | true =>
          obtain ⟨told, status⟩ :=
            @onPeriod_status _ ((s.checkLocAvailableExpired checked alloc).offer now) now
          simp only [if_true]
          constructor
          · rw [told, status]
            exact looked.same
          · rw [told, status]
            exact looked.changed

theorem hbdGpsLocation_looked (loc : α) (fix : Bool) (checked now : Int) (alloc : NoticeAlloc) :
    Looked (s := s) (s.hbdGpsLocation loc fix checked now alloc) checked alloc := by
  have looked := @reportLoc_looked _ s fix checked now alloc
  unfold Controller.hbdGpsLocation
  revert looked
  rcases s.reportLoc fix checked now alloc with ⟨t, _ | _⟩ <;> intro looked
  · exact looked
  · dsimp only at looked ⊢
    split
    · exact ⟨looked.same, looked.changed⟩
    · exact looked

variable {t : Controller α} {checked : Int} {alloc : NoticeAlloc}

theorem Announced.looked (announced : Announced s) (looked : Looked (s := s) t checked alloc)
    (tells : s.Changes checked → alloc.status = true) : Announced t := by
  by_cases changes : s.Changes checked
  · obtain ⟨status, told⟩ := looked.changed changes
    rw [if_pos (tells changes)] at told
    constructor
    · rw [told, status, List.head?_cons]
    · rw [told, List.isChain_cons]
      refine ⟨fun before first same => changes.2.2 ?_, announced.changes⟩
      rw [← announced.known, same]
      exact first
  · obtain ⟨told, status⟩ := looked.same changes
    constructor
    · rw [told, status]
      exact announced.known
    · rw [told]
      exact announced.changes

/-- A change that is not told of leaves the HAL with the status from before it. -/
theorem Looked.missed (looked : Looked (s := s) t checked alloc) (announced : Announced s)
    (missed : ¬ (s.Changes checked → alloc.status = true)) : ¬ Announced t := by
  obtain ⟨changes, silent⟩ := Classical.not_imp.mp missed
  obtain ⟨status, told⟩ := looked.changed changes
  rw [if_neg silent] at told
  intro still
  apply changes.2.2
  rw [← announced.known, ← told, still.known, status]

end Statuses

/-- As long as the clock does not go back behind a location that has been taken, the locations
that are taken thin out the others by the periods in force. -/
theorem runs_thinned (inputs : List (ControlInput α))
    (timely : StepsMeet step Timely (initial : Controller α) inputs) :
    AllStates step Thinned (initial : Controller α) inputs := by
  have all : AllStates step ThinInv (initial : Controller α) inputs := by
    apply allStates_of_stepsMeet _ (thinInv_fresh rfl rfl rfl) timely
    intro s input t inv timely taken
    rw [← Option.some.inj taken]
    exact inv.next timely
  exact all.imp fun _ inv => inv.toThinned

/-- A location a second, of which every other is taken. -/
theorem runs_thinned_seconds :
    AllStates step Thinned (initial : Controller Unit)
      [.message (.start (some ⟨0, 1, 1, 2000000000⟩)) ⟨true, true⟩,
        .location () true 10 10 ⟨true, true⟩, .location () true 11 11 ⟨true, true⟩,
        .location () true 12 12 ⟨true, true⟩] :=
  runs_thinned _ (by decide)

/-- In a run the HAL is told every change of the status, and knows the last, exactly if there is
always memory to tell of one. -/
theorem runs_announced (inputs : List (ControlInput α)) :
    AllStates step Announced (initial : Controller α) inputs ↔
      StepsMeet step Tells (initial : Controller α) inputs := by
  apply @allStates_iff_stepsMeet _ _ _ Announced
  case kept =>
    intro s input t announced tells taken
    rw [← Option.some.inj taken]
    cases input with
    | message message alloc =>
        obtain ⟨told, status⟩ := @process_status _ s alloc message
        refine ⟨?_, ?_⟩
        · rw [next, told, status]
          exact announced.known
        · rw [next, told]
          exact announced.changes
    | location loc fix checked now alloc =>
        exact announced.looked (hbdGpsLocation_looked loc fix checked.toNat now.toNat alloc) tells
    | reset => exact ⟨announced.known, announced.changes⟩
  case enough => exact fun _ announced => announced
  case broken =>
    intro s input t announced missed taken
    rw [← Option.some.inj taken]
    cases input with
    | message message alloc => exact absurd trivial missed
    | location loc fix checked now alloc =>
        exact (hbdGpsLocation_looked loc fix checked.toNat now.toNat alloc).missed announced missed
    | reset => exact absurd trivial missed
  case start => exact ⟨rfl, List.IsChain.nil⟩

end Controller
end Connectivity.Flp
