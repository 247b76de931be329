import Connectivity.Geofence.Controller
import Connectivity.Transition.Run

set_option autoImplicit false

/- In which order the controller makes its requests, and when mnld collects for it. -/
namespace Connectivity.Geofence

open Transition

/-- Starts and stops in turn, a start first. -/
def turns (n : Nat) : List DcCommand :=
  (List.range n).map fun i => if i % 2 = 0 then .start else .stop

def Alternates (commands : List DcCommand) : Prop := commands = turns commands.length

instance (commands : List DcCommand) : Decidable (Alternates commands) :=
  inferInstanceAs (Decidable (_ = _))

section Turns

variable {commands : List DcCommand}

theorem turns_succ (n : Nat) :
    turns (n + 1) = turns n ++ [if n % 2 = 0 then DcCommand.start else .stop] := by
  rw [turns, List.range_succ, List.map_append]
  rfl

/-- The command whose turn it is. -/
theorem Alternates.append (alternates : Alternates commands) :
    Alternates (commands ++ [if commands.length % 2 = 0 then DcCommand.start else .stop]) := by
  have longer : (commands ++ [if commands.length % 2 = 0 then DcCommand.start else .stop]).length =
      commands.length + 1 := List.length_append
  rw [Alternates, longer, turns_succ, ← alternates]

end Turns

namespace Controller

variable {alloc : Alloc} {s t : Controller}

def dcRequests (s : Controller) : List DcCommand := s.requests.filterMap fun sent => sent.type.dc

/-- The requests alternate, and mnld collects exactly while the last update of the source has it
that the device is needed. -/
structure Served (s : Controller) : Prop where
  alternates : Alternates s.dcRequests
  running : s.dcRunning = s.sourceToUse

/-- The controller knows whether mnld collects, and whose turn it is. -/
structure Tracked (s : Controller) : Prop where
  served : Served s
  source : s.flpGeofenceSource = s.sourceToUse
  turn : s.dcRequests.length % 2 = if s.dcRunning then 1 else 0

/-- The source that a command of the framework has the controller use, if it is asked for one. -/
def asked (s : Controller) (updateFenceSource : Bool) : GfcCommand → Option Bool
  | .addGeofenceArea | .recover => some (s.addSource updateFenceSource)
  | .remove => some updateFenceSource
  | .clear => some false
  | .init | .pause | .resume | .other => none

/-- No switch to the offload mode and no restart of mnld while the source is in use, and memory for
the requests that change it. -/
def Undisturbed (s : Controller) : GfcInput → Prop
  | .hal (.geofence command) updateFenceSource alloc =>
      s.sysMode = .ap → alloc.copy = true →
        ∀ source, s.asked updateFenceSource command = some source →
          source ≠ s.flpGeofenceSource → alloc.command = true ∧ alloc.request = true
  | .mnl .bootup _ => s.flpGeofenceSource = false
  | .mnl (.sessionUpdate _ support) _ => s.Switches support → s.flpGeofenceSource = false
  | _ => True

/-- A step that leaves alone what the controller asks of mnld. -/
structure Quiet (s t : Controller) : Prop where
  requests : t.dcRequests = s.dcRequests
  running : t.dcRunning = s.dcRunning
  source : t.flpGeofenceSource = s.flpGeofenceSource
  toUse : t.sourceToUse = s.sourceToUse

theorem Quiet.same (s : Controller) : Quiet s s where
  requests := rfl
  running := rfl
  source := rfl
  toUse := rfl

theorem Quiet.served (quiet : Quiet s t) : Served t ↔ Served s := by
  constructor
  · intro served
    constructor
    · rw [← quiet.requests]
      exact served.alternates
    · rw [← quiet.running, ← quiet.toUse]
      exact served.running
  · intro served
    constructor
    · rw [quiet.requests]
      exact served.alternates
    · rw [quiet.running, quiet.toUse]
      exact served.running

theorem Quiet.tracked (quiet : Quiet s t) (tracked : Tracked s) : Tracked t where
  served := quiet.served.mpr tracked.served
  source := by rw [quiet.source, quiet.toUse, tracked.source]
  turn := by rw [quiet.requests, quiet.running, tracked.turn]

theorem Quiet.trans {u : Controller} (first : Quiet s t) (second : Quiet t u) : Quiet s u where
  requests := second.requests.trans first.requests
  running := second.running.trans first.running
  source := second.source.trans first.source
  toUse := second.toUse.trans first.toUse

theorem gfc2mnlHdlr_dcRequests (s : Controller) (type : RequestType) :
    (s.gfc2mnlHdlr type).dcRequests = s.dcRequests ++ type.dc.toList := by
  simp only [dcRequests, gfc2mnlHdlr, List.filterMap_append]
  cases type <;> rfl

/-- The messages over an offload link are no requests for location data. -/
theorem gfc2mnlHdlr_quiet (s : Controller) {type : RequestType} (link : type.dc = none) :
    Quiet s (s.gfc2mnlHdlr type) where
  requests := by
    rw [gfc2mnlHdlr_dcRequests, link]
    exact List.append_nil _
  running := rfl
  source := rfl
  toUse := rfl

section Sources

theorem changeSource_same (same : s.flpGeofenceSource = s.sourceToUse) :
    s.changeSource alloc = s := by
  rw [changeSource, if_neg (fun changed => changed same)]

theorem changeSource_start (unused : s.flpGeofenceSource = false) (needed : s.sourceToUse = true) :
    s.changeSource alloc = if alloc.command then s.gfc2mnlProcess alloc .start else s := by
  simp [changeSource, unused, needed]

theorem changeSource_stop (used : s.flpGeofenceSource = true) (unneeded : s.sourceToUse = false) :
    s.changeSource alloc = if alloc.command then s.gfc2mnlProcess alloc .stop else s := by
  simp [changeSource, used, unneeded]

/-- What a change of the source is for mnld when there is memory for its request. -/
theorem changeSource_sent (changed : s.sourceToUse ≠ s.flpGeofenceSource)
    (memory : alloc.command = true ∧ alloc.request = true) :
    (s.changeSource alloc).dcRequests =
        s.dcRequests ++ [if s.sourceToUse then DcCommand.start else .stop] ∧
      (s.changeSource alloc).dcRunning = s.sourceToUse ∧
      (s.changeSource alloc).sourceToUse = s.sourceToUse := by
  cases used : s.flpGeofenceSource with
  | false =>
      have needed : s.sourceToUse = true := by
        rw [used] at changed
        exact Bool.of_not_eq_false changed
      rw [changeSource_start used needed, if_pos memory.1, gfc2mnlProcess, if_pos memory.2, needed]
      exact ⟨gfc2mnlHdlr_dcRequests s .hbdGpsOpen, rfl, needed⟩
  | true =>
      have unneeded : s.sourceToUse = false := by
        rw [used] at changed
        exact Bool.of_not_eq_true changed
      rw [changeSource_stop used unneeded, if_pos memory.1, gfc2mnlProcess, if_pos memory.2,
        unneeded]
      exact ⟨gfc2mnlHdlr_dcRequests s .hbdGpsClose, rfl, unneeded⟩

/-- Without memory for its request a change of the source is lost. -/
theorem changeSource_lost (memory : ¬ (alloc.command = true ∧ alloc.request = true)) :
    s.changeSource alloc = s := by
  have lost (command : DcCommand) :
      (if alloc.command then s.gfc2mnlProcess alloc command else s) = s := by
    by_cases made : alloc.command = true
    · have unsent : ¬ alloc.request = true := fun request => memory ⟨made, request⟩
      simp only [gfc2mnlProcess, if_neg unsent, ite_self]
    · rw [if_neg made]
  rw [changeSource, lost, lost]
  simp only [ite_self]

/-- The controller is asked for a source. -/
def withSource (s : Controller) (source : Bool) : Controller := { s with sourceToUse := source }

theorem Tracked.running (tracked : Tracked s) : s.dcRunning = s.flpGeofenceSource :=
  tracked.served.running.trans tracked.source.symm

/-- It is the turn of the request for a source that is not the one in use. -/
theorem Tracked.command (tracked : Tracked s) {source : Bool}
    (changed : source ≠ s.flpGeofenceSource) :
    s.dcRequests.length % 2 = (if source then 0 else 1) ∧
      (if s.dcRequests.length % 2 = 0 then DcCommand.start else .stop) =
        if source then .start else .stop := by
  have turn := tracked.turn
  rw [tracked.running] at turn
  cases source with
  | false =>
      rw [Bool.of_not_eq_false (Ne.symm changed), if_pos rfl] at turn
      rw [turn]
      exact ⟨rfl, rfl⟩
  | true =>
      rw [Bool.of_not_eq_true (Ne.symm changed), if_neg Bool.false_ne_true] at turn
      rw [turn]
      exact ⟨rfl, rfl⟩

theorem updateOption_same (tracked : Tracked s) {source : Bool}
    (same : source = s.flpGeofenceSource) :
    Tracked ((s.withSource source).updateOption alloc) := by
  have kept : (s.withSource source).changeSource alloc = s.withSource source :=
    changeSource_same same.symm
  rw [updateOption, kept]
  constructor
  case served => exact ⟨tracked.served.alternates, tracked.running.trans same.symm⟩
  case source => rfl
  case turn => exact tracked.turn

theorem updateOption_changed (tracked : Tracked s) {source : Bool}
    (changed : source ≠ s.flpGeofenceSource)
    (memory : alloc.command = true ∧ alloc.request = true) :
    Tracked ((s.withSource source).updateOption alloc) := by
  obtain ⟨requests, running, toUse⟩ :=
    @changeSource_sent alloc (s.withSource source) changed memory
  obtain ⟨turn, command⟩ := tracked.command changed
  constructor
  case served =>
    constructor
    · show Alternates ((s.withSource source).changeSource alloc).dcRequests
      rw [requests]
      show Alternates (s.dcRequests ++ [if source then DcCommand.start else .stop])
      rw [← command]
      exact tracked.served.alternates.append
    · exact running.trans toUse.symm
  case source => exact toUse.symm
  case turn =>
    show ((s.withSource source).changeSource alloc).dcRequests.length % 2 =
      if ((s.withSource source).changeSource alloc).dcRunning then 1 else 0
    rw [requests, running, List.length_append]
    show (s.dcRequests.length + 1) % 2 = if source then 1 else 0
    cases source with
    | false =>
        rw [if_neg Bool.false_ne_true] at turn ⊢
        omega
    | true =>
        rw [if_pos rfl] at turn ⊢
        omega

/-- A source for which there is memory is asked of mnld in its turn. -/
theorem updateOption_tracked (tracked : Tracked s) (source : Bool)
    (memory : source ≠ s.flpGeofenceSource → alloc.command = true ∧ alloc.request = true) :
    Tracked ((s.withSource source).updateOption alloc) := by
  by_cases same : source = s.flpGeofenceSource
  · exact updateOption_same tracked same
  · exact updateOption_changed tracked same (memory same)

theorem updateOption_unserved (tracked : Tracked s) {source : Bool}
    (changed : source ≠ s.flpGeofenceSource)
    (memory : ¬ (alloc.command = true ∧ alloc.request = true)) :
    ¬ Served ((s.withSource source).updateOption alloc) := by
  intro served
  have running : ((s.withSource source).changeSource alloc).dcRunning =
      ((s.withSource source).changeSource alloc).sourceToUse := served.running
  rw [changeSource_lost memory] at running
  have unchanged : s.dcRunning = source := running
  exact changed (unchanged.symm.trans tracked.running)

end Sources

section Messages

theorem leaveSmart_quiet (s : Controller) : Quiet s s.leaveSmart := by
  rw [leaveSmart]
  split
  · exact ⟨rfl, rfl, rfl, rfl⟩
  · exact Quiet.same s

theorem leaveSmart_inUse (s : Controller) : s.leaveSmart.inUse = s.inUse := by
  rw [leaveSmart]
  split
  · rfl
  · rfl

theorem keepForLink_quiet (alloc : Alloc) (s : Controller) : Quiet s (s.keepForLink alloc) := by
  have opened : Quiet s { s.gfc2mnlHdlr .oflLinkOpen with status := .oflLinkOpen } :=
    (gfc2mnlHdlr_quiet s rfl).trans ⟨rfl, rfl, rfl, rfl⟩
  rw [keepForLink]
  split
  · split
    · exact opened.trans ⟨rfl, rfl, rfl, rfl⟩
    · exact opened
  · split
    · exact ⟨rfl, rfl, rfl, rfl⟩
    · exact Quiet.same s

theorem ofl2mnlProcess_quiet (alloc : Alloc) (s : Controller) (message : HalMessage) :
    Quiet s (s.ofl2mnlProcess alloc message) := by
  have sent : Quiet s (s.gfc2mnlHdlr .oflLinkSend) := gfc2mnlHdlr_quiet s rfl
  rw [ofl2mnlProcess]
  split
  · split
    · exact sent
    · exact Quiet.same s
  · split
    · exact keepForLink_quiet alloc s
    · split
      · exact sent
      · exact Quiet.same s

theorem flush_quiet (s : Controller) : Quiet s s.flush where
  requests := by
    have none_dc : (s.batched.map (Sent.mk .oflLinkSend)).filterMap (fun sent => sent.type.dc) =
        [] := by
      rw [List.filterMap_eq_nil_iff]
      intro sent among
      obtain ⟨session, _, made⟩ := List.mem_map.mp among
      rw [← made]
      rfl
    simp only [dcRequests, flush, List.filterMap_append, none_dc, List.append_nil]
  running := rfl
  source := rfl
  toUse := rfl

theorem lastFence_quiet (alloc : Alloc) (s : Controller) :
    Quiet (s.updateOption alloc)
      (if s.inUse = 0 then
        { s.updateOption alloc with enabled := false, gfcMode := mtkGeofenceIdleMode }
      else s.updateOption alloc) := by
  split
  · exact ⟨rfl, rfl, rfl, rfl⟩
  · exact Quiet.same _

/-- A command that does not ask for a source. -/
theorem process_unasked {command : GfcCommand} {updateFenceSource : Bool}
    (unasked : s.asked updateFenceSource command = none) :
    Quiet s (s.process alloc command updateFenceSource) := by
  cases command with
  | init | pause | resume | other =>
      simp only [process]
      split
      · exact leaveSmart_quiet s
      · exact Quiet.same s
  | addGeofenceArea | recover | remove | clear => cases unasked

/-- A command that asks for one does nothing else that mnld would notice. -/
theorem process_asked {command : GfcCommand} {updateFenceSource source : Bool}
    (copied : alloc.copy = true) (asks : s.asked updateFenceSource command = some source) :
    ∃ u, Quiet s u ∧
      Quiet ((u.withSource source).updateOption alloc)
        (s.process alloc command updateFenceSource) := by
  have left := leaveSmart_quiet s
  have adds (added : s.addSource updateFenceSource = source) :
      ∃ u, Quiet s u ∧ Quiet ((u.withSource source).updateOption alloc)
        (s.leaveSmart.addFence alloc updateFenceSource) := by
    have asksSame : s.leaveSmart.addSource updateFenceSource = source := by
      rw [addSource, leaveSmart_inUse]
      exact added
    refine ⟨{ s.leaveSmart with
      gfcMode := if s.leaveSmart.inUse = 0 then mtkBatchGeofenceOnly else s.leaveSmart.gfcMode },
      left.trans ⟨rfl, rfl, rfl, rfl⟩, ?_⟩
    rw [addFence, asksSame]
    exact ⟨rfl, rfl, rfl, rfl⟩
  simp only [process, if_pos copied]
  cases command with
  | addGeofenceArea => exact adds (Option.some.inj asks)
  | recover => exact adds (Option.some.inj asks)
  | remove =>
      refine ⟨{ s.leaveSmart with
        inUse := if 0 < s.leaveSmart.inUse then s.leaveSmart.inUse - 1 else s.leaveSmart.inUse },
        left.trans ⟨rfl, rfl, rfl, rfl⟩, ?_⟩
      rw [← Option.some.inj asks]
      exact lastFence_quiet alloc _
  | clear =>
      refine ⟨{ s.leaveSmart with inUse := 0, enabled := false },
        left.trans ⟨rfl, rfl, rfl, rfl⟩, ?_⟩
      rw [← Option.some.inj asks]
      exact ⟨rfl, rfl, rfl, rfl⟩
  | init | pause | resume | other => cases asks

/-- Of the messages of the HAL only the commands for geofences on the host can ask for a source. -/
theorem hal_quiet (alloc : Alloc) (s : Controller) {message : HalMessage}
    (updateFenceSource : Bool)
    (other : ∀ command, message = .geofence command → s.sysMode = .offload) :
    Quiet s (s.hal2gfcMainHdlr alloc message updateFenceSource) := by
  cases message with
  | injectLoc => exact Quiet.same s
  | halInit => exact Quiet.same s
  | screenStatus =>
      cases mode : s.sysMode with
      | ap =>
          simp only [hal2gfcMainHdlr, mode]
          exact Quiet.same s
      | offload =>
          simp only [hal2gfcMainHdlr, mode]
          exact ofl2mnlProcess_quiet alloc s _
  | geofence command =>
      simp only [hal2gfcMainHdlr, other command rfl]
      exact ofl2mnlProcess_quiet alloc s _
  | other =>
      cases mode : s.sysMode with
      | ap =>
          simp only [hal2gfcMainHdlr, mode]
          exact Quiet.same s
      | offload =>
          simp only [hal2gfcMainHdlr, mode]
          exact ofl2mnlProcess_quiet alloc s _

end Messages

section Steps

theorem switched (s : Controller) (session : BitVec 32) {support : BitVec 32}
    (switches : s.Switches support) :
    s.sessionUpdate session support =
      { ({ s with currentSession := session, currentSupport := support } : Controller).resetStatus
        with sysMode := .offload } := by
  have host : ¬ (s.status = .oflLinkOpenDone ∧ support &&& gfcOffloadMode ≠ 0) := by
    intro linked
    rw [switches.1] at linked
    cases linked.1
  simp only [sessionUpdate]
  rw [if_neg (fun onHost => switches.2.1 onHost.2), if_neg host, if_pos ⟨switches.1, switches.2.2⟩]

theorem unswitched (s : Controller) (session : BitVec 32) {support : BitVec 32}
    (stays : ¬ s.Switches support) : Quiet s (s.sessionUpdate session support) := by
  simp only [sessionUpdate]
  split
  · exact ⟨rfl, rfl, rfl, rfl⟩
  · rename_i onHost
    split
    · exact ⟨rfl, rfl, rfl, rfl⟩
    · split
      · rename_i leaves
        exact absurd ⟨leaves.1, fun ap => onHost ⟨leaves.1, ap⟩, leaves.2⟩ stays
      · split
        · exact ⟨rfl, rfl, rfl, rfl⟩
        · split
          · exact ⟨rfl, rfl, rfl, rfl⟩
          · split
            · exact ⟨rfl, rfl, rfl, rfl⟩
            · exact ⟨rfl, rfl, rfl, rfl⟩

/-- The other messages of mnld. -/
theorem mnl_quiet (alloc : Alloc) (s : Controller) {message : MnlMessage}
    (running : message ≠ .bootup)
    (stays : ∀ session support, message = .sessionUpdate session support →
      ¬ s.Switches support) :
    Quiet s (s.mnl2gfcHdlr alloc message) := by
  cases message with
  | bootup => exact absurd rfl running
  | sessionUpdate session support => exact unswitched s session (stays session support rfl)
  | hbdGpsLocation => exact Quiet.same s
  | oflLinkRecv message =>
      cases message with
      | halStopRsp =>
          simp only [mnl2gfcHdlr]
          split
          · exact (gfc2mnlHdlr_quiet s rfl).trans ⟨rfl, rfl, rfl, rfl⟩
          · exact Quiet.same s
      | geofenceCallback => exact Quiet.same s
      | other => exact Quiet.same s
  | oflLinkOpenDone =>
      simp only [mnl2gfcHdlr]
      split
      · exact (flush_quiet s).trans ⟨rfl, rfl, rfl, rfl⟩
      · exact Quiet.same s
  | hbdGpsOpenDone | hbdGpsCloseDone | oflLinkCloseDone | flpAttachDone =>
      exact ⟨rfl, rfl, rfl, rfl⟩
  | other => exact Quiet.same s

/-- What a step comes to for mnld: nothing, an update of the source, or that one of both sides
forgets the source. -/
inductive Effect (s : Controller) (input : GfcInput) : Prop
  | quiet (same : Quiet s (s.next input)) (meets : s.Undisturbed input)
  | asks (u : Controller) (source : Bool) (alloc : Alloc) (before : Quiet s u)
      (after : Quiet ((u.withSource source).updateOption alloc) (s.next input))
      (meets : s.Undisturbed input ↔
        (source ≠ s.flpGeofenceSource → alloc.command = true ∧ alloc.request = true))
  | forgets (used : s.flpGeofenceSource = true → ¬ Served (s.next input))
      (unused : s.flpGeofenceSource = false → Quiet s (s.next input))
      (meets : s.Undisturbed input ↔ s.flpGeofenceSource = false)

/-- A restart of mnld, behind which it collects no more. -/
theorem bootup_effect (tracked : Tracked s) : Effect s (.mnl .bootup alloc) := by
  apply Effect.forgets
  case used =>
    intro used served
    have idle : false = s.sourceToUse := served.running
    rw [← tracked.source, used] at idle
    cases idle
  case unused =>
    intro unused
    have idle : false = s.dcRunning := by rw [tracked.running, unused]
    exact ⟨rfl, idle, rfl, rfl⟩
  case meets => exact Iff.rfl

/-- The switch to the offload mode, at which the controller clears its source. -/
theorem switch_effect (tracked : Tracked s) {session support : BitVec 32}
    (switches : s.Switches support) : Effect s (.mnl (.sessionUpdate session support) alloc) := by
  have switched := switched s session switches
  have next : s.next (.mnl (.sessionUpdate session support) alloc) =
      s.sessionUpdate session support := rfl
  apply Effect.forgets
  case used =>
    intro used served
    rw [next, switched] at served
    have idle : s.dcRunning = false := served.running
    rw [tracked.running, used] at idle
    cases idle
  case unused =>
    intro unused
    rw [next, switched]
    exact ⟨rfl, rfl, unused.symm, (tracked.source.symm.trans unused).symm⟩
  case meets => exact ⟨fun meets => meets switches, fun unused _ => unused⟩

theorem mnl_effect (tracked : Tracked s) (message : MnlMessage) :
    Effect s (.mnl message alloc) := by
  by_cases restart : message = .bootup
  · rw [restart]
    exact bootup_effect tracked
  · by_cases switch : ∃ session support, message = .sessionUpdate session support ∧
        s.Switches support
    · obtain ⟨session, support, update, switches⟩ := switch
      rw [update]
      exact switch_effect tracked switches
    · have stays (session support : BitVec 32) (update : message = .sessionUpdate session support) :
          ¬ s.Switches support := fun switches => switch ⟨session, support, update, switches⟩
      apply Effect.quiet (mnl_quiet alloc s restart stays)
      cases message with
      | bootup => exact absurd rfl restart
      | sessionUpdate session support => exact fun switches => absurd switches (stays _ _ rfl)
      | hbdGpsLocation | oflLinkRecv | hbdGpsOpenDone | hbdGpsCloseDone | oflLinkOpenDone
      | oflLinkCloseDone | flpAttachDone | other => trivial

theorem geofence_effect (s : Controller) (command : GfcCommand) (updateFenceSource : Bool)
    (alloc : Alloc) : Effect s (.hal (.geofence command) updateFenceSource alloc) := by
  cases mode : s.sysMode with
  | offload =>
      apply Effect.quiet
      · exact hal_quiet alloc s updateFenceSource fun _ _ => mode
      · intro ap
        rw [mode] at ap
        cases ap
  | ap =>
      have next : s.next (.hal (.geofence command) updateFenceSource alloc) =
          s.process alloc command updateFenceSource := by
        simp only [Controller.next, hal2gfcMainHdlr, mode]
      by_cases copied : alloc.copy = true
      · cases asks : s.asked updateFenceSource command with
        | none =>
            apply Effect.quiet
            · rw [next]
              exact process_unasked asks
            · intro _ _ source asksOne
              rw [asks] at asksOne
              cases asksOne
        | some source =>
            obtain ⟨u, before, after⟩ := process_asked copied asks
            rw [← next] at after
            apply Effect.asks u source alloc before after
            constructor
            · intro meets
              exact meets mode copied source asks
            · intro memory _ _ other asksOther
              rw [asks] at asksOther
              rw [← Option.some.inj asksOther]
              exact memory
      · apply Effect.quiet
        · rw [next]
          simp only [process, if_neg copied]
          exact Quiet.same s
        · intro _ copies
          exact absurd copies copied

theorem effect (tracked : Tracked s) (input : GfcInput) : Effect s input := by
  cases input with
  | hal message updateFenceSource alloc =>
      cases message with
      | geofence command => exact geofence_effect s command updateFenceSource alloc
      | injectLoc => exact Effect.quiet (Quiet.same s) trivial
      | halInit => exact Effect.quiet (Quiet.same s) trivial
      | screenStatus | other =>
          apply Effect.quiet
          case same =>
            apply hal_quiet alloc s updateFenceSource
            intro command same
            cases same
          case meets => trivial
  | mnl message alloc => exact mnl_effect tracked message
  | smartEntry mode => exact Effect.quiet ⟨rfl, rfl, rfl, rfl⟩ trivial

/-- An undisturbed step keeps both sides in step. -/
theorem next_tracked {input : GfcInput} (tracked : Tracked s) (meets : s.Undisturbed input) :
    Tracked (s.next input) := by
  cases effect tracked input with
  | quiet same _ => exact same.tracked tracked
  | asks u source alloc before after condition =>
      apply after.tracked
      apply updateOption_tracked (before.tracked tracked)
      rw [before.source]
      exact condition.mp meets
  | forgets used unused condition => exact (unused (condition.mp meets)).tracked tracked

/-- Any other step is a request that mnld gets twice or that it misses. -/
theorem next_unserved {input : GfcInput} (tracked : Tracked s) (missed : ¬ s.Undisturbed input) :
    ¬ Served (s.next input) := by
  cases effect tracked input with
  | quiet same meets => exact absurd meets missed
  | asks u source alloc before after condition =>
      have lost : ¬ (source ≠ s.flpGeofenceSource →
          alloc.command = true ∧ alloc.request = true) :=
        fun memory => missed (condition.mpr memory)
      rw [Classical.not_imp] at lost
      rw [after.served]
      apply updateOption_unserved (before.tracked tracked)
      · rw [before.source]
        exact lost.1
      · exact lost.2
  | forgets used unused condition =>
      apply used
      cases source : s.flpGeofenceSource with
      | true => rfl
      | false => exact absurd (condition.mpr source) missed

theorem initial_tracked : Tracked initial where
  served := ⟨rfl, rfl⟩
  source := rfl
  turn := rfl

end Steps

/-- In a run the requests alternate and mnld collects as the last update of the source has it
exactly if nothing comes between the two sides. -/
theorem runs_served (inputs : List GfcInput) :
    AllStates step Served initial inputs ↔ StepsMeet step Undisturbed initial inputs := by
  apply @allStates_iff_stepsMeet _ _ _ Tracked
  case kept =>
    intro s input t tracked meets taken
    rw [← Option.some.inj taken]
    exact next_tracked tracked meets
  case enough => exact fun _ tracked => tracked.served
  case broken =>
    intro s input t tracked missed taken
    rw [← Option.some.inj taken]
    exact next_unserved tracked missed
  case start => exact initial_tracked

/-- A fence is set while the host runs, the session moves to the offload mode, and once it is back
the next fence has mnld started once more. -/
theorem not_runs_served : ¬ ∀ inputs, AllStates step Served initial inputs := by
  intro all
  let memory : Alloc := ⟨true, true, true⟩
  let fence : GfcInput := .hal (.geofence .addGeofenceArea) false memory
  let inputs : List GfcInput := [fence, .mnl .hbdGpsOpenDone memory,
    .mnl (.sessionUpdate 1 gfcOffloadMode) memory, fence,
    .mnl (.sessionUpdate 1 gfcApMode) memory, fence]
  have twice : (exec step initial inputs).map dcRequests = some [.start, .start] := by decide
  obtain ⟨s, run, requests⟩ := Option.map_eq_some_iff.mp twice
  have alternates := ((all inputs).last run).alternates
  rw [requests] at alternates
  revert alternates
  decide

end Controller
end Connectivity.Geofence
