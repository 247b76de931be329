import Connectivity.WifiHal.Monitor
import Connectivity.Transition.Run

set_option autoImplicit false

/- Whether the handlers of the RSSI monitor are those of the requests that run, and each command
is deleted once. -/
namespace Connectivity.WifiHal

open RefCount Transition

/-- The handler that a request of the RSSI monitor has. -/
def rssiHandler (cmd : Nat) : CbInfo := ⟨nl80211CmdVendor, googleOui, wifiEventRssiMonitor, cmd⟩

namespace HalInfo

variable (s : HalInfo)

def idOf (p : Nat) : Option Int := (s.objects[p]?).map Object.value

/-- The references to a command: of the table, and of the event that it handles. -/
def held (p : Nat) : Nat :=
  (if p ∈ s.cmd.map CmdInfo.cmd then 1 else 0) + (if s.handling = some p then 1 else 0)

end HalInfo

/-- The HAL with the requests that run, in the order of their starts, and the number of events that
one of them has not received. -/
structure MonitorRun where
  hal : HalInfo
  running : List Nat
  missed : Nat
deriving DecidableEq, Repr

namespace MonitorRun

def start : MonitorRun := ⟨.initialized, [], 0⟩

variable (s : MonitorRun)

def runningAfter : HalInfo.Event → List Nat
  | .start _ ok =>
      if s.hal.cmd.length < defaultCmdSize ∧ ok = true then s.running ++ [s.hal.fresh]
      else s.running
  | .stop id => s.running.eraseP fun p => s.hal.idOf p = some id
  | .cleanup => []
  | _ => s.running

def missedAfter (e : HalInfo.Event) (t : HalInfo) : Nat :=
  if e = .message nl80211CmdVendor googleOui wifiEventRssiMonitor ∧
    ¬ ∀ p ∈ s.running, t.handling = some p then s.missed + 1 else s.missed

def next (e : HalInfo.Event) (t : HalInfo) : MonitorRun :=
  ⟨t, s.runningAfter e, s.missedAfter e t⟩

def step (e : HalInfo.Event) : Option MonitorRun := (s.hal.handle e).map (s.next e)

/-- The handlers are those of the requests that run, each registered; every RSSI event has been
received by each of them; a command has been deleted once if nobody refers to it, and else not. -/
structure Sound : Prop where
  handlers : s.hal.eventCb.map CbInfo.cbArg = s.running
  registered : ∀ cbi ∈ s.hal.eventCb, cbi.cbArg ∈ s.hal.cmd.map CmdInfo.cmd
  missed : s.missed = 0
  deleted : ∀ p object, s.hal.objects[p]? = some object →
    object.deletes = if s.hal.held p = 0 then 1 else 0

/-- A start is refused by the driver only when no command has its id; what is stopped has the first
handler; an event comes when there is one handler at most. -/
def Meets : HalInfo.Event → Prop
  | .start id ok =>
      s.hal.cmd.length < defaultCmdSize → ok = false → ∀ info ∈ s.hal.cmd, info.id ≠ id
  | .stop id =>
      if id = -1 then ∀ cbi ∈ s.hal.eventCb.head?, s.hal.idOf cbi.cbArg = some (-1)
      else ∀ info ∈ s.hal.cmd.find? fun info => info.id = id,
        s.hal.eventCb.head?.map CbInfo.cbArg = some info.cmd
  | .message nlCmd vendorId subcmd =>
      nlCmd = nl80211CmdVendor → vendorId = googleOui → subcmd = wifiEventRssiMonitor →
        s.hal.eventCb.length ≤ 1
  | _ => True

structure Inv : Prop where
  handlers : s.hal.eventCb = s.running.map rssiHandler
  counted : s.hal.objects.Counted s.hal.held
  order : (s.hal.cmd.map CmdInfo.cmd).Pairwise (· < ·)
  ids : ∀ info ∈ s.hal.cmd, s.hal.idOf info.cmd = some info.id
  running : s.running.Sublist (s.hal.cmd.map CmdInfo.cmd)
  named : ∀ info ∈ s.hal.cmd, info.id ≠ -1 → info.cmd ∈ s.running
  handling : ∀ p, s.hal.handling = some p → p < s.hal.fresh
  missed : s.missed = 0

end MonitorRun

/-- The command that is found first is the oldest one. -/
theorem find_first {cmds : List CmdInfo} {p : CmdInfo → Bool} {a b : CmdInfo}
    (order : (cmds.map CmdInfo.cmd).Pairwise (· < ·)) (found : cmds.find? p = some a)
    (member : b ∈ cmds) (fits : p b = true) : a.cmd ≤ b.cmd := by
  induction cmds with
  | nil => cases member
  | cons first rest ih =>
      rw [List.map_cons, List.pairwise_cons] at order
      rw [List.find?_cons] at found
      split at found
      · cases found
        cases List.mem_cons.mp member with
        | inl same => exact Nat.le_of_eq (congrArg CmdInfo.cmd same.symm)
        | inr later => exact Nat.le_of_lt (order.1 _ (List.mem_map_of_mem later))
      · rename_i other
        cases List.mem_cons.mp member with
        | inl same =>
            subst same
            rw [fits] at other
            cases other
        | inr later => exact ih order.2 found later

namespace MonitorRun

variable {s : MonitorRun}

theorem inv_start : start.Inv where
  handlers := rfl
  counted := Heap.counted_nil
  order := List.Pairwise.nil
  ids := fun _ member => by cases member
  running := List.Sublist.slnil
  named := fun _ member => by cases member
  handling := fun _ other => by cases other
  missed := rfl

theorem args_rssi (running : List Nat) : (running.map rssiHandler).map CbInfo.cbArg = running := by
  rw [List.map_map]
  exact List.map_id running

theorem Inv.sound (inv : s.Inv) : s.Sound where
  handlers := by
    rw [inv.handlers]
    exact args_rssi s.running
  registered := by
    intro cbi member
    rw [inv.handlers] at member
    obtain ⟨p, runs, same⟩ := List.mem_map.mp member
    subst same
    exact inv.running.subset runs
  missed := inv.missed
  deleted := fun p object found => (inv.counted p object found).2

theorem Inv.lt_fresh (inv : s.Inv) {p : Nat} (member : p ∈ s.hal.cmd.map CmdInfo.cmd) :
    p < s.hal.fresh := by
  obtain ⟨info, registered, same⟩ := List.mem_map.mp member
  have id := inv.ids info registered
  subst same
  obtain ⟨object, found, _⟩ := Option.map_eq_some_iff.mp id
  exact (List.getElem?_eq_some_iff.mp found).1

/-- Nobody refers to an object that is not there yet. -/
theorem Inv.held_fresh (inv : s.Inv) : s.hal.held s.hal.fresh = 0 := by
  have absent : s.hal.fresh ∉ s.hal.cmd.map CmdInfo.cmd := fun member =>
    absurd (inv.lt_fresh member) (Nat.lt_irrefl _)
  have idle : s.hal.handling ≠ some s.hal.fresh := fun handles =>
    absurd (inv.handling _ handles) (Nat.lt_irrefl _)
  rw [HalInfo.held, if_neg absent, if_neg idle]

/-- An object that is made and given up again is deleted. -/
theorem Inv.counted_brief (inv : s.Inv) (id : Int) :
    ((s.hal.objects.new id).releaseRef s.hal.fresh).Counted s.hal.held := by
  have made : (s.hal.objects.new id).Counted
      (fun q => if q = s.hal.fresh then 1 else s.hal.held q) := by
    apply inv.counted.new id
    · exact if_pos rfl
    · intro q old
      exact if_neg (Nat.ne_of_lt old)
  apply made.releaseRef
  · rw [if_pos rfl, inv.held_fresh]
  · intro q other
    rw [if_neg other]

theorem idOf_brief {hal : HalInfo} {p : Nat} (id : Int) (old : p < hal.fresh) :
    ((((hal.objects.new id).releaseRef hal.fresh)[p]?).map Object.value) = hal.idOf p := by
  rw [Heap.value_releaseRef, Heap.value_new old]
  rfl

theorem fresh_brief {hal : HalInfo} (id : Int) :
    hal.fresh < ((hal.objects.new id).releaseRef hal.fresh).fresh := by
  rw [Heap.fresh_releaseRef]
  show hal.objects.length < (hal.objects ++ [_]).length
  rw [List.length_append]
  exact Nat.lt_succ_self _

/-- A command that lives for one call leaves the tables; the handlers that remain are those of the
requests that remain. -/
theorem inv_brief (inv : s.Inv) (id : Int) {running : List Nat}
    (fewer : running.Sublist s.running) (kept : ∀ p ∈ s.running, s.hal.idOf p ≠ some (-1) →
      p ∈ running) :
    Inv ⟨{ s.hal with
      objects := (s.hal.objects.new id).releaseRef s.hal.fresh
      eventCb := running.map rssiHandler }, running, s.missed⟩ where
  handlers := rfl
  counted := inv.counted_brief id
  order := inv.order
  ids := by
    intro info member
    have old := inv.lt_fresh (List.mem_map_of_mem member)
    exact (idOf_brief id old).trans (inv.ids info member)
  running := fewer.trans inv.running
  named := by
    intro info member other
    apply kept info.cmd (inv.named info member other)
    rw [inv.ids info member]
    exact fun same => other (Option.some.inj same)
  handling := fun p handles => Nat.lt_trans (inv.handling p handles) (fresh_brief id)
  missed := inv.missed

theorem map_cmd_append (cmds : List CmdInfo) (id : Int) (p : Nat) :
    (cmds ++ [CmdInfo.mk id p]).map CmdInfo.cmd = cmds.map CmdInfo.cmd ++ [p] := List.map_append

/-- A request that the driver takes. -/
theorem inv_taken (inv : s.Inv) (id : Int) :
    Inv ⟨{ s.hal with
      objects := s.hal.objects.new id
      eventCb := s.hal.eventCb ++ [rssiHandler s.hal.fresh]
      cmd := s.hal.cmd ++ [CmdInfo.mk id s.hal.fresh] }, s.running ++ [s.hal.fresh], s.missed⟩ where
  handlers := by
    show s.hal.eventCb ++ _ = _
    rw [inv.handlers, List.map_append]
    rfl
  counted := by
    have idle : s.hal.handling ≠ some s.hal.fresh := fun handles =>
      absurd (inv.handling _ handles) (Nat.lt_irrefl _)
    apply inv.counted.new id
    · have here : s.hal.fresh ∈ (s.hal.cmd ++ [CmdInfo.mk id s.hal.fresh]).map CmdInfo.cmd := by
        rw [map_cmd_append]
        exact List.mem_append_right _ List.mem_cons_self
      show (if s.hal.fresh ∈ (s.hal.cmd ++ [_]).map CmdInfo.cmd then 1 else 0) +
        (if s.hal.handling = some s.hal.fresh then 1 else 0) = 1
      rw [if_pos here, if_neg idle]
    · intro q old
      have same : q ∈ (s.hal.cmd ++ [CmdInfo.mk id s.hal.fresh]).map CmdInfo.cmd ↔
          q ∈ s.hal.cmd.map CmdInfo.cmd := by
        rw [map_cmd_append, List.mem_append]
        refine or_iff_left fun new => ?_
        rw [List.mem_singleton.mp new] at old
        exact absurd old (Nat.lt_irrefl _)
      show (if q ∈ (s.hal.cmd ++ [_]).map CmdInfo.cmd then 1 else 0) + _ =
        (if q ∈ s.hal.cmd.map CmdInfo.cmd then 1 else 0) + _
      rw [if_congr same rfl rfl]
  order := by
    show ((s.hal.cmd ++ [_]).map CmdInfo.cmd).Pairwise (· < ·)
    rw [map_cmd_append, List.pairwise_append]
    refine ⟨inv.order, List.pairwise_singleton _ _, fun q old new last => ?_⟩
    rw [List.mem_singleton.mp last]
    exact inv.lt_fresh old
  ids := by
    intro info member
    cases List.mem_append.mp member with
    | inl old =>
        exact (Heap.value_new (inv.lt_fresh (List.mem_map_of_mem old))).trans (inv.ids info old)
    | inr new =>
        rw [List.mem_singleton.mp new]
        show ((s.hal.objects ++ [_])[s.hal.objects.length]?).map _ = _
        rw [List.getElem?_concat_length]
        rfl
  running := by
    show (s.running ++ _).Sublist ((s.hal.cmd ++ [_]).map CmdInfo.cmd)
    rw [map_cmd_append]
    exact inv.running.append (List.Sublist.refl _)
  named := by
    intro info member other
    cases List.mem_append.mp member with
    | inl old => exact List.mem_append_left _ (inv.named info old other)
    | inr new =>
        rw [List.mem_singleton.mp new]
        exact List.mem_append_right _ List.mem_cons_self
  handling := by
    intro p handles
    refine Nat.lt_trans (inv.handling p handles) ?_
    show s.hal.objects.length < (s.hal.objects ++ [_]).length
    rw [List.length_append]
    exact Nat.lt_succ_self _
  missed := inv.missed

/-- The three ends of a start. -/
theorem start_full {hal : HalInfo} {id : Int} {ok : Bool}
    (full : ¬ hal.cmd.length < defaultCmdSize) :
    hal.startRssiMonitoring id ok =
      { hal with objects := (hal.objects.new id).releaseRef hal.fresh } := by
  have refused : (hal.new id).registerCmd id hal.fresh = none := if_neg full
  unfold HalInfo.startRssiMonitoring
  dsimp only
  rw [refused]
  rfl

theorem start_refused {hal : HalInfo} {id : Int} (room : hal.cmd.length < defaultCmdSize) :
    hal.startRssiMonitoring id false =
      { hal with
        objects := (hal.objects.new id).releaseRef hal.fresh
        cmd := (hal.cmd ++ [CmdInfo.mk id hal.fresh]).eraseP fun info => info.id = id } := by
  have stored : (hal.new id).registerCmd id hal.fresh =
      some { hal.new id with cmd := hal.cmd ++ [CmdInfo.mk id hal.fresh] } := if_pos room
  unfold HalInfo.startRssiMonitoring
  dsimp only
  rw [stored]
  rfl

theorem start_taken {hal : HalInfo} {id : Int} (room : hal.cmd.length < defaultCmdSize)
    (handlers : hal.eventCb.length < defaultEventCbSize) :
    hal.startRssiMonitoring id true =
      { hal with
        objects := hal.objects.new id
        eventCb := hal.eventCb ++ [rssiHandler hal.fresh]
        cmd := hal.cmd ++ [CmdInfo.mk id hal.fresh] } := by
  have stored : (hal.new id).registerCmd id hal.fresh =
      some { hal.new id with cmd := hal.cmd ++ [CmdInfo.mk id hal.fresh] } := if_pos room
  unfold HalInfo.startRssiMonitoring
  dsimp only
  rw [stored]
  exact if_pos handlers

theorem kept_start {id : Int} {ok : Bool} (inv : s.Inv) (meets : s.Meets (.start id ok)) :
    (s.next (.start id ok) (s.hal.startRssiMonitoring id ok)).Inv := by
  have quiet : s.missedAfter (.start id ok) (s.hal.startRssiMonitoring id ok) = s.missed :=
    if_neg fun both => HalInfo.Event.noConfusion both.1
  have brief := inv_brief inv id (List.Sublist.refl _) fun _ member _ => member
  rw [← inv.handlers] at brief
  unfold next
  rw [quiet]
  by_cases room : s.hal.cmd.length < defaultCmdSize
  · cases ok with
    | false =>
        have same : s.runningAfter (.start id false) = s.running :=
          if_neg fun both => Bool.noConfusion both.2
        have others : ∀ info ∈ s.hal.cmd, ¬ (decide (info.id = id)) = true := by
          intro info member
          rw [decide_eq_true_eq]
          exact meets room rfl info member
        have last : [CmdInfo.mk id s.hal.fresh].eraseP (fun info => info.id = id) = [] :=
          List.eraseP_cons_of_pos (decide_eq_true rfl)
        have erased : (s.hal.cmd ++ [CmdInfo.mk id s.hal.fresh]).eraseP (fun info => info.id = id) =
            s.hal.cmd := by
          rw [List.eraseP_append_right _ others, last, List.append_nil]
        rw [same, start_refused room, erased]
        exact brief
    | true =>
        have more : s.runningAfter (.start id true) = s.running ++ [s.hal.fresh] :=
          if_pos ⟨room, rfl⟩
        have handlers : s.hal.eventCb.length < defaultEventCbSize := by
          have length := inv.running.length_le
          rw [List.length_map] at length
          rw [inv.handlers, List.length_map]
          exact Nat.lt_of_le_of_lt length room
        rw [more, start_taken room handlers]
        exact inv_taken inv id
  · have same : s.runningAfter (.start id ok) = s.running := if_neg fun both => room both.1
    rw [same, start_full room]
    exact brief

/-- A cancel removes the first handler. -/
theorem cancel_eq {hal : HalInfo} {running : List Nat}
    (handlers : hal.eventCb = running.map rssiHandler) :
    hal.cancel = { hal with eventCb := running.tail.map rssiHandler } := by
  unfold HalInfo.cancel HalInfo.unregisterVendorHandler
  rw [handlers]
  cases running with
  | nil => rfl
  | cons first rest =>
      rw [List.map_cons, List.eraseP_cons]
      rfl

theorem kept_stop_all (inv : s.Inv) (meets : s.Meets (.stop (-1))) :
    (s.next (.stop (-1)) (s.hal.stopRssiMonitoring (-1))).Inv := by
  have meets : ∀ cbi ∈ s.hal.eventCb.head?, s.hal.idOf cbi.cbArg = some (-1) := meets
  have stopped : s.hal.stopRssiMonitoring (-1) =
      { s.hal with
        objects := (s.hal.objects.new (-1)).releaseRef s.hal.fresh
        eventCb := s.running.tail.map rssiHandler } := by
    have handlers : (s.hal.new (-1)).eventCb = s.running.map rssiHandler := inv.handlers
    show (s.hal.new (-1)).cancel.releaseRef s.hal.fresh = _
    rw [cancel_eq handlers]
    rfl
  have tail : s.runningAfter (.stop (-1)) = s.running.tail := by
    show s.running.eraseP _ = _
    rw [inv.handlers] at meets
    cases running : s.running with
    | nil => rfl
    | cons first rest =>
        rw [running] at meets
        have named : s.hal.idOf first = some (-1) := meets (rssiHandler first) rfl
        rw [List.eraseP_cons, decide_eq_true named]
        rfl
  unfold next
  rw [stopped, tail]
  apply inv_brief inv (-1) (List.tail_sublist _)
  intro p member other
  cases running : s.running with
  | nil =>
      rw [running] at member
      cases member
  | cons first rest =>
      rw [inv.handlers, running] at meets
      rw [running] at member
      cases List.mem_cons.mp member with
      | inl same =>
          rw [same] at other
          exact absurd (meets (rssiHandler first) rfl) other
      | inr later => exact later

/-- A command is found where it is taken from. -/
theorem unregister_parts {cmds : List CmdInfo} {id : Int} {info : CmdInfo}
    (found : cmds.find? (fun info => info.id = id) = some info) :
    ∃ before after, cmds = before ++ info :: after ∧
      cmds.eraseP (fun info => info.id = id) = before ++ after ∧ info.id = id := by
  have named : info.id = id := by simpa using List.find?_some found
  obtain ⟨_, before, after, same, others⟩ := List.find?_eq_some_iff_append.mp found
  refine ⟨before, after, same, ?_, named⟩
  have none : ∀ other ∈ before, ¬ (decide (other.id = id)) = true := by
    intro other member
    have differs := others other member
    simpa using differs
  rw [same, List.eraseP_append_right _ none, List.eraseP_cons, decide_eq_true named]
  rfl

/-- A request that is stopped and has the first handler. -/
theorem inv_stopped {info : CmdInfo} {before after : List CmdInfo} {rest : List Nat}
    (inv : s.Inv) (parts : s.hal.cmd = before ++ info :: after)
    (running : s.running = info.cmd :: rest) :
    Inv ⟨{ s.hal with
      objects := s.hal.objects.releaseRef info.cmd
      eventCb := rest.map rssiHandler
      cmd := before ++ after }, rest, s.missed⟩ := by
  have pointers : s.hal.cmd.map CmdInfo.cmd =
      before.map CmdInfo.cmd ++ info.cmd :: after.map CmdInfo.cmd := by
    rw [parts, List.map_append]
    rfl
  have order := inv.order
  rw [pointers, List.pairwise_append, List.pairwise_cons] at order
  obtain ⟨_, ⟨above, _⟩, below⟩ := order
  have notBefore : info.cmd ∉ before.map CmdInfo.cmd := fun member =>
    absurd (below _ member _ List.mem_cons_self) (Nat.lt_irrefl _)
  have notAfter : info.cmd ∉ after.map CmdInfo.cmd := fun member =>
    absurd (above _ member) (Nat.lt_irrefl _)
  have here : info.cmd ∈ s.hal.cmd.map CmdInfo.cmd := by
    rw [pointers]
    exact List.mem_append_right _ List.mem_cons_self
  have gone : info.cmd ∉ (before ++ after).map CmdInfo.cmd := by
    rw [List.map_append, List.mem_append, not_or]
    exact ⟨notBefore, notAfter⟩
  have fewer : (before ++ after).Sublist s.hal.cmd := by
    rw [parts]
    exact (List.Sublist.refl before).append (List.sublist_cons_self info after)
  exact {
    handlers := rfl
    counted := by
      apply inv.counted.releaseRef
      · show (if info.cmd ∈ s.hal.cmd.map CmdInfo.cmd then 1 else 0) + _ =
          (if info.cmd ∈ (before ++ after).map CmdInfo.cmd then 1 else 0) + _ + 1
        rw [if_pos here, if_neg gone]
        show 1 + (if s.hal.handling = some info.cmd then 1 else 0) =
          0 + (if s.hal.handling = some info.cmd then 1 else 0) + 1
        omega
      · intro q other
        have same : q ∈ (before ++ after).map CmdInfo.cmd ↔ q ∈ s.hal.cmd.map CmdInfo.cmd := by
          rw [pointers, List.map_append, List.mem_append, List.mem_append, List.mem_cons]
          exact or_congr_right (or_iff_right other).symm
        show (if q ∈ (before ++ after).map CmdInfo.cmd then 1 else 0) + _ =
          (if q ∈ s.hal.cmd.map CmdInfo.cmd then 1 else 0) + _
        rw [if_congr same rfl rfl]
    order := inv.order.sublist (fewer.map _)
    ids := fun other member => Heap.value_releaseRef.trans (inv.ids other (fewer.subset member))
    running := by
      have erased := inv.running.erase info.cmd
      rw [running, List.erase_cons_head, pointers, List.erase_append_right _ notBefore,
        List.erase_cons_head, ← List.map_append] at erased
      exact erased
    named := by
      intro other member name
      have runs := inv.named other (fewer.subset member) name
      rw [running] at runs
      cases List.mem_cons.mp runs with
      | inr later => exact later
      | inl same =>
          apply absurd _ gone
          rw [← same]
          exact List.mem_map_of_mem member
    handling := by
      intro p handles
      show p < (s.hal.objects.releaseRef info.cmd).fresh
      rw [Heap.fresh_releaseRef]
      exact inv.handling p handles
    missed := inv.missed }

/-- What runs has the id of its command. -/
theorem Inv.named_running (inv : s.Inv) {p : Nat} (member : p ∈ s.running) :
    ∃ info ∈ s.hal.cmd, info.cmd = p ∧ s.hal.idOf p = some info.id := by
  obtain ⟨info, registered, same⟩ := List.mem_map.mp (inv.running.subset member)
  refine ⟨info, registered, same, ?_⟩
  rw [← same]
  exact inv.ids info registered

theorem stop_unknown {hal : HalInfo} {id : Int} (other : id ≠ -1)
    (none : hal.cmd.find? (fun info => info.id = id) = none) :
    hal.stopRssiMonitoring id = hal := by
  have kept : hal.cmd.eraseP (fun info => info.id = id) = hal.cmd :=
    List.eraseP_of_forall_not (List.find?_eq_none.mp none)
  have nothing : hal.unregisterCmd id = (hal, Option.none) := by
    unfold HalInfo.unregisterCmd
    rw [none, kept]
    rfl
  unfold HalInfo.stopRssiMonitoring HalInfo.cancelCmd
  rw [if_neg other, nothing]

theorem stop_known {hal : HalInfo} {id : Int} {info : CmdInfo} {running : List Nat}
    (other : id ≠ -1) (handlers : hal.eventCb = running.map rssiHandler)
    (found : hal.cmd.find? (fun info => info.id = id) = some info) :
    hal.stopRssiMonitoring id =
      { hal with
        objects := hal.objects.releaseRef info.cmd
        eventCb := running.tail.map rssiHandler
        cmd := hal.cmd.eraseP fun info => info.id = id } := by
  have taken : hal.unregisterCmd id =
      ({ hal with cmd := hal.cmd.eraseP fun info => info.id = id }, some info.cmd) := by
    unfold HalInfo.unregisterCmd
    rw [found]
    rfl
  unfold HalInfo.stopRssiMonitoring HalInfo.cancelCmd
  rw [if_neg other, taken]
  have handlers : ({ hal with cmd := hal.cmd.eraseP fun info => info.id = id } : HalInfo).eventCb =
      running.map rssiHandler := handlers
  dsimp only
  rw [cancel_eq handlers]
  rfl

theorem kept_stop {id : Int} (inv : s.Inv) (meets : s.Meets (.stop id)) :
    (s.next (.stop id) (s.hal.stopRssiMonitoring id)).Inv := by
  by_cases all : id = -1
  · rw [all] at meets ⊢
    exact kept_stop_all inv meets
  · have meets : ∀ info ∈ s.hal.cmd.find? fun info => info.id = id,
        s.hal.eventCb.head?.map CbInfo.cbArg = some info.cmd := by
      have condition := meets
      rw [Meets, if_neg all] at condition
      exact condition
    unfold next
    cases found : s.hal.cmd.find? fun info => info.id = id with
    | none =>
        have kept : s.runningAfter (.stop id) = s.running := by
          apply List.eraseP_of_forall_not
          intro p member
          obtain ⟨info, registered, _, name⟩ := inv.named_running member
          rw [name, decide_eq_true_eq, Option.some.injEq]
          simpa using List.find?_eq_none.mp found info registered
        rw [kept, stop_unknown all found]
        exact inv
    | some info =>
        have first := meets info found
        obtain ⟨before, after, parts, erased, name⟩ := unregister_parts found
        have here : info ∈ s.hal.cmd := by
          rw [parts]
          exact List.mem_append_right _ List.mem_cons_self
        rw [inv.handlers] at first
        cases running : s.running with
        | nil =>
            rw [running] at first
            cases first
        | cons p rest =>
            rw [running] at first
            have same : p = info.cmd := Option.some.inj first
            subst same
            have kept : s.runningAfter (.stop id) = rest := by
              show s.running.eraseP _ = _
              rw [running, List.eraseP_cons, inv.ids info here, name, decide_eq_true rfl]
              rfl
            rw [kept, stop_known all inv.handlers found, erased, running]
            exact inv_stopped inv parts running

theorem held_ne {hal : HalInfo} {p : Nat} (registered : p ∈ hal.cmd.map CmdInfo.cmd) :
    hal.held p ≠ 0 := by
  rw [HalInfo.held, if_pos registered]
  omega

theorem handling_none (q : Nat) : (if (none : Option Nat) = some q then 1 else 0) = 0 := by
  rw [if_neg]
  exact fun same => by cases same

theorem handling_other {p q : Nat} (other : q ≠ p) :
    (if some p = some q then 1 else 0) = 0 := by
  rw [if_neg]
  exact fun same => other (Option.some.inj same).symm

/-- A message finds the first handler if it is an event of the monitor, and none if not. -/
theorem message_first {hal : HalInfo} {p : Nat} {rest : List Nat}
    (handlers : hal.eventCb = (p :: rest).map rssiHandler) :
    hal.validMessage nl80211CmdVendor googleOui wifiEventRssiMonitor =
      { hal.addRef p with handling := some p } := by
  unfold HalInfo.validMessage
  rw [handlers, List.map_cons, List.find?_cons]
  rfl

theorem message_none {hal : HalInfo} {nlCmd : Int} {vendorId : Nat} {subcmd : Int}
    {running : List Nat} (handlers : hal.eventCb = running.map rssiHandler)
    (other : running = [] ∨
      ¬ (nlCmd = nl80211CmdVendor ∧ vendorId = googleOui ∧ subcmd = wifiEventRssiMonitor)) :
    hal.validMessage nlCmd vendorId subcmd = hal := by
  have nothing : hal.eventCb.find? (fun cbi => nlCmd = cbi.nlCmd ∧
      (nlCmd = nl80211CmdVendor → vendorId = cbi.vendorId ∧ subcmd = cbi.vendorSubcmd)) =
        none := by
    rw [List.find?_eq_none]
    intro cbi member
    rw [handlers] at member
    obtain ⟨p, runs, same⟩ := List.mem_map.mp member
    cases other with
    | inl empty =>
        rw [empty] at runs
        cases runs
    | inr differs =>
        rw [← same, decide_eq_true_eq]
        intro both
        have vendor : nlCmd = nl80211CmdVendor := both.1
        exact differs ⟨vendor, both.2 vendor⟩
  unfold HalInfo.validMessage
  rw [nothing]

/-- A monitor event is taken by the one handler that is registered for it. -/
theorem kept_monitor (inv : s.Inv)
    (one : s.running.length ≤ 1) (idle : s.hal.handling = none) :
    (s.next (.message nl80211CmdVendor googleOui wifiEventRssiMonitor)
      (s.hal.validMessage nl80211CmdVendor googleOui wifiEventRssiMonitor)).Inv := by
  cases running : s.running with
  | nil =>
      have received : s.missedAfter (.message nl80211CmdVendor googleOui wifiEventRssiMonitor)
          s.hal = s.missed := by
        apply if_neg
        intro both
        apply both.2
        intro p member
        rw [running] at member
        cases member
      have silent : s.hal.validMessage nl80211CmdVendor googleOui wifiEventRssiMonitor =
          s.hal := message_none inv.handlers (Or.inl running)
      unfold next
      rw [silent, received]
      exact inv
  | cons p rest =>
      rw [running] at one
      have alone : rest = [] := List.eq_nil_of_length_eq_zero (Nat.le_zero.mp
        (Nat.le_of_succ_le_succ one))
      subst alone
      have handlers := inv.handlers
      rw [running] at handlers
      have received : s.missedAfter (.message nl80211CmdVendor googleOui wifiEventRssiMonitor)
          { s.hal.addRef p with handling := some p } = s.missed := by
        apply if_neg
        intro both
        apply both.2
        intro q member
        rw [running] at member
        rw [List.mem_singleton.mp member]
      have registered : p ∈ s.hal.cmd.map CmdInfo.cmd := by
        apply inv.running.subset
        rw [running]
        exact List.mem_cons_self
      unfold next
      rw [message_first handlers, received]
      exact { inv with
        counted := by
          apply inv.counted.addRef (p := p)
          · exact Nat.pos_of_ne_zero (held_ne registered)
          · show (if p ∈ s.hal.cmd.map CmdInfo.cmd then 1 else 0) +
              (if some p = some p then 1 else 0) =
              (if p ∈ s.hal.cmd.map CmdInfo.cmd then 1 else 0) +
              (if s.hal.handling = some p then 1 else 0) + 1
            rw [idle, handling_none, if_pos (rfl : some p = some p)]
          · intro q other
            show _ + (if some p = some q then 1 else 0) =
              _ + (if s.hal.handling = some q then 1 else 0)
            rw [idle, handling_none, handling_other other]
            rfl
        ids := fun info member => Heap.value_addRef.trans (inv.ids info member)
        handling := by
          intro q handles
          cases handles
          show p < (s.hal.objects.addRef p).fresh
          rw [Heap.fresh_addRef]
          exact inv.lt_fresh registered }

theorem kept_message {nlCmd : Int} {vendorId : Nat} {subcmd : Int} (inv : s.Inv)
    (meets : s.Meets (.message nlCmd vendorId subcmd)) (idle : s.hal.handling = none) :
    (s.next (.message nlCmd vendorId subcmd) (s.hal.validMessage nlCmd vendorId subcmd)).Inv := by
  by_cases monitor : nlCmd = nl80211CmdVendor ∧ vendorId = googleOui ∧
      subcmd = wifiEventRssiMonitor
  · obtain ⟨vendor, google, rssi⟩ := monitor
    have one := meets vendor google rssi
    subst vendor google rssi
    rw [inv.handlers, List.length_map] at one
    exact kept_monitor inv one idle
  · have quiet : s.missedAfter (.message nlCmd vendorId subcmd) s.hal = s.missed := by
      apply if_neg
      intro both
      apply monitor
      have same := both.1
      cases same
      exact ⟨rfl, rfl, rfl⟩
    unfold next
    rw [message_none inv.handlers (Or.inr monitor), quiet]
    exact inv

theorem kept_handled {t : HalInfo} (inv : s.Inv) (moved : s.hal.messageHandled = some t) :
    (s.next .handled t).Inv := by
  obtain ⟨p, handles, same⟩ := Option.map_eq_some_iff.mp moved
  subst same
  have quiet : s.missedAfter .handled { s.hal.releaseRef p with handling := none } = s.missed :=
    if_neg fun both => HalInfo.Event.noConfusion both.1
  unfold next
  rw [quiet]
  exact { inv with
    counted := by
      apply inv.counted.releaseRef (p := p)
      · show _ + (if s.hal.handling = some p then 1 else 0) =
          _ + (if (none : Option Nat) = some p then 1 else 0) + 1
        rw [if_pos handles, handling_none]
        rfl
      · intro q other
        show _ + (if (none : Option Nat) = some q then 1 else 0) =
          _ + (if s.hal.handling = some q then 1 else 0)
        rw [handles, handling_none, handling_other other]
        rfl
    ids := fun info member => Heap.value_releaseRef.trans (inv.ids info member)
    handling := fun _ none => by cases none }

/-- The loop of the cleanup gives every reference of the table back. -/
theorem cancelAll_counted {hal : HalInfo} {rest : List CmdInfo}
    (order : (rest.map CmdInfo.cmd).Pairwise (· < ·))
    (counted : hal.objects.Counted fun p => if p ∈ rest.map CmdInfo.cmd then 1 else 0) :
    (HalInfo.cancelAll hal rest).objects.Counted (fun _ => 0) ∧
      (HalInfo.cancelAll hal rest).handling = hal.handling := by
  induction rest generalizing hal with
  | nil =>
      refine ⟨counted.congr fun q _ => ?_, rfl⟩
      exact (if_neg List.not_mem_nil).symm
  | cons info rest ih =>
      rw [List.map_cons, List.pairwise_cons] at order
      have gone : info.cmd ∉ rest.map CmdInfo.cmd := fun member =>
        absurd (order.1 _ member) (Nat.lt_irrefl _)
      refine @ih (hal.cancel.releaseRef info.cmd) order.2 ?_
      apply counted.releaseRef (p := info.cmd)
      · rw [List.map_cons, if_pos List.mem_cons_self, if_neg gone]
      · intro q other
        rw [List.map_cons, if_congr (List.mem_cons.trans (or_iff_right other)) rfl rfl]

theorem kept_cleanup (inv : s.Inv) (idle : s.hal.handling = none) :
    (s.next .cleanup s.hal.cleanup).Inv := by
  have alone : s.hal.objects.Counted fun p => if p ∈ s.hal.cmd.map CmdInfo.cmd then 1 else 0 := by
    apply inv.counted.congr
    intro q _
    rw [HalInfo.held, idle, handling_none]
    rfl
  obtain ⟨counted, handling⟩ := cancelAll_counted inv.order alone
  have still : s.hal.cleanup.handling = none := handling.trans idle
  have quiet : s.missedAfter .cleanup s.hal.cleanup = s.missed :=
    if_neg fun both => HalInfo.Event.noConfusion both.1
  unfold next
  rw [quiet]
  exact {
    handlers := rfl
    counted := by
      apply counted.congr
      intro q _
      show (if q ∈ ([] : List CmdInfo).map CmdInfo.cmd then 1 else 0) +
        (if s.hal.cleanup.handling = some q then 1 else 0) = 0
      rw [still, handling_none]
      rfl
    order := List.Pairwise.nil
    ids := fun _ member => by cases member
    running := List.Sublist.slnil
    named := fun _ member => by cases member
    handling := fun p handles => by
      rw [show s.hal.cleanup.handling = none from still] at handles
      cases handles
    missed := inv.missed }

/-- The step lemma. -/
theorem meets_kept {e : HalInfo.Event} {t : MonitorRun} (inv : s.Inv) (meets : s.Meets e)
    (taken : s.step e = some t) : t.Inv := by
  obtain ⟨t, handled, same⟩ := Option.map_eq_some_iff.mp taken
  subst same
  unfold HalInfo.handle at handled
  split at handled
  · cases handled
  · cases e with
    | start id ok =>
        cases handled
        exact kept_start inv meets
    | stop id =>
        cases handled
        exact kept_stop inv meets
    | message nlCmd vendorId subcmd =>
        dsimp only at handled
        split at handled
        · rename_i idle
          cases handled
          exact kept_message inv meets idle
        · cases handled
    | handled => exact kept_handled inv handled
    | cleanup =>
        dsimp only at handled
        split at handled
        · rename_i idle
          cases handled
          exact kept_cleanup inv idle
        · cases handled

/-- A start that is refused takes the command of another start out of the table and leaves its
own. -/
theorem broken_start {id : Int} {ok : Bool} (missed : ¬ s.Meets (.start id ok)) :
    ¬ (s.next (.start id ok) (s.hal.startRssiMonitoring id ok)).Sound := by
  intro sound
  apply missed
  intro room refused info member same
  subst refused
  have sound : (s.next (.start id false) _).Sound := start_refused room ▸ sound
  have erased : (s.hal.cmd ++ [CmdInfo.mk id s.hal.fresh]).eraseP (fun info => info.id = id) =
      s.hal.cmd.eraseP (fun info => info.id = id) ++ [CmdInfo.mk id s.hal.fresh] := by
    refine List.eraseP_append_left (a := info) ?_ _ member
    exact decide_eq_true same
  have stored : ((s.hal.objects.new id).releaseRef s.hal.fresh)[s.hal.fresh]? =
      some ⟨id, 0, 1⟩ := by
    rw [Heap.releaseRef, List.getElem?_modify_eq]
    show Option.map _ ((s.hal.objects ++ [_])[s.hal.objects.length]?) = _
    rw [List.getElem?_concat_length]
    rfl
  have registered : s.hal.fresh ∈
      ((s.hal.cmd ++ [CmdInfo.mk id s.hal.fresh]).eraseP fun info => info.id = id).map
        CmdInfo.cmd := by
    rw [erased, map_cmd_append]
    exact List.mem_append_right _ List.mem_cons_self
  have deleted := (sound.deleted s.hal.fresh _ stored).trans (if_neg (held_ne registered))
  cases deleted

theorem Inv.first_once (inv : s.Inv) {first : Nat} {rest : List Nat}
    (running : s.running = first :: rest) : ∀ p ∈ rest, first < p := by
  have order := inv.order.sublist inv.running
  rw [running, List.pairwise_cons] at order
  exact order.1

/-- The first handler is taken from a request that goes on. -/
theorem broken_first {id : Int} {t : HalInfo} {first : Nat} {rest : List Nat} (inv : s.Inv)
    (running : s.running = first :: rest) (other : s.hal.idOf first ≠ some id)
    (handlers : t.eventCb = rest.map rssiHandler) : ¬ (s.next (.stop id) t).Sound := by
  intro sound
  have same : t.eventCb.map CbInfo.cbArg = s.running.eraseP fun p => s.hal.idOf p = some id :=
    sound.handlers
  rw [handlers, args_rssi, running, List.eraseP_cons, decide_eq_false other] at same
  have again : first ∈ rest := by
    rw [same]
    exact List.mem_cons_self
  exact absurd (inv.first_once running first again) (Nat.lt_irrefl _)

theorem broken_stop {id : Int} (inv : s.Inv) (missed : ¬ s.Meets (.stop id)) :
    ¬ (s.next (.stop id) (s.hal.stopRssiMonitoring id)).Sound := by
  rw [Meets] at missed
  by_cases all : id = -1
  · rw [if_pos all, inv.handlers] at missed
    subst all
    cases running : s.running with
    | nil =>
        exfalso
        apply missed
        rw [running]
        intro cbi none
        cases none
    | cons first rest =>
        rw [running] at missed
        have other : s.hal.idOf first ≠ some (-1) := by
          intro named
          apply missed
          intro cbi head
          cases head
          exact named
        have handlers : (s.hal.new (-1)).eventCb = s.running.map rssiHandler := inv.handlers
        apply broken_first inv running other
        show ((s.hal.new (-1)).cancel.releaseRef s.hal.fresh).eventCb = _
        rw [cancel_eq handlers, running]
        rfl
  · rw [if_neg all, inv.handlers] at missed
    cases found : s.hal.cmd.find? fun info => info.id = id with
    | none =>
        exfalso
        apply missed
        rw [found]
        intro info none
        cases none
    | some info =>
        obtain ⟨before, after, parts, _, name⟩ := unregister_parts found
        have here : info ∈ s.hal.cmd := by
          rw [parts]
          exact List.mem_append_right _ List.mem_cons_self
        have runs := inv.named info here fun same => all (name.symm.trans same)
        cases running : s.running with
        | nil =>
            rw [running] at runs
            cases runs
        | cons first rest =>
            have differs : first ≠ info.cmd := by
              intro same
              apply missed
              rw [found, running]
              intro other head
              cases head
              exact congrArg some same
            have later : first < info.cmd := by
              rw [running] at runs
              cases List.mem_cons.mp runs with
              | inl same => exact absurd same.symm differs
              | inr later => exact inv.first_once running _ later
            have other : s.hal.idOf first ≠ some id := by
              intro named
              have member : first ∈ s.running := by
                rw [running]
                exact List.mem_cons_self
              obtain ⟨old, registered, same, its⟩ := inv.named_running member
              rw [named] at its
              have oldest := find_first inv.order found registered
                (decide_eq_true (Option.some.inj its).symm)
              rw [same] at oldest
              exact absurd later (Nat.not_lt.mpr oldest)
            apply broken_first inv running other
            rw [stop_known all inv.handlers found, running]
            rfl

theorem broken_message {nlCmd : Int} {vendorId : Nat} {subcmd : Int} (inv : s.Inv)
    (missed : ¬ s.Meets (.message nlCmd vendorId subcmd)) :
    ¬ (s.next (.message nlCmd vendorId subcmd)
      (s.hal.validMessage nlCmd vendorId subcmd)).Sound := by
  intro sound
  apply missed
  intro vendor google rssi
  subst vendor google rssi
  have handlers := inv.handlers
  rw [handlers, List.length_map]
  cases running : s.running with
  | nil => exact Nat.zero_le 1
  | cons p rest =>
      cases rest with
      | nil => exact Nat.le_refl 1
      | cons q rest =>
          rw [running] at handlers
          have count := sound.missed
          rw [message_first handlers] at count
          have more : (s.next (.message nl80211CmdVendor googleOui wifiEventRssiMonitor)
              { s.hal.addRef p with handling := some p }).missed = s.missed + 1 := by
            apply if_pos
            refine ⟨rfl, fun all => ?_⟩
            have member : q ∈ s.running := by
              rw [running]
              exact List.mem_cons_of_mem _ List.mem_cons_self
            have same : p = q := Option.some.inj (all q member)
            have older := inv.first_once running q List.mem_cons_self
            rw [same] at older
            exact Nat.lt_irrefl _ older
          rw [more] at count
          cases count

/-- A step that misses the condition. -/
theorem missed_broken {e : HalInfo.Event} {t : MonitorRun} (inv : s.Inv) (missed : ¬ s.Meets e)
    (taken : s.step e = some t) : ¬ t.Sound := by
  obtain ⟨t, handled, same⟩ := Option.map_eq_some_iff.mp taken
  subst same
  unfold HalInfo.handle at handled
  split at handled
  · cases handled
  · cases e with
    | start id ok =>
        cases handled
        exact broken_start missed
    | stop id =>
        cases handled
        exact broken_stop inv missed
    | message nlCmd vendorId subcmd =>
        dsimp only at handled
        split at handled
        · cases handled
          exact broken_message inv missed
        · cases handled
    | _ => exact absurd trivial missed

end MonitorRun

/-- From the initialization to the cleanup, the handlers are those of the requests that run, these
receive the events, and each command is deleted once, exactly if each start that is refused, each
stop and each event meets its condition. -/
theorem monitor_iff (events : List HalInfo.Event) :
    AllStates MonitorRun.step MonitorRun.Sound .start events ↔
      StepsMeet MonitorRun.step MonitorRun.Meets .start events := by
  apply @allStates_iff_stepsMeet _ _ _ MonitorRun.Inv
  case kept => exact fun _ _ _ inv meets taken => MonitorRun.meets_kept inv meets taken
  case enough => exact fun _ inv => inv.sound
  case broken => exact fun _ _ _ inv missed taken => MonitorRun.missed_broken inv missed taken
  case start => exact MonitorRun.inv_start

/-- The second of two requests is stopped first: its command is deleted and its handler stays, that
of the first is gone. -/
theorem not_monitor :
    ¬ AllStates MonitorRun.step MonitorRun.Sound .start
      [.start 1 true, .start 2 true, .stop 2] := by
  intro all
  have left : (exec MonitorRun.step .start [.start 1 true, .start 2 true, .stop 2]).map
      (fun s => (s.hal.eventCb.map CbInfo.cbArg, s.running, s.hal.objects)) =
        some ([1], [0], [⟨1, 1, 0⟩, ⟨2, 0, 1⟩]) := by
    decide
  obtain ⟨s, run, left⟩ := Option.map_eq_some_iff.mp left
  have sound : s.Sound := all.last run
  have handlers := sound.handlers
  rw [Prod.mk.injEq, Prod.mk.injEq] at left
  rw [left.1, left.2.1] at handlers
  cases handlers

end Connectivity.WifiHal
