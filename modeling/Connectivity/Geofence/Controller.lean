import Mathlib.Data.List.Basic
import Mathlib.Data.Int.Init

set_option autoImplicit false

/- mtk_geofence_controller.c: which requests for location data the geofence interface makes of mnld.
What mnld answers from within a request comes as a message behind it. -/
namespace Connectivity.Geofence

/-- The values of `fgMnldGfcStatus`. -/
inductive MnlStatus
  | none | attach | attachDone | hbdGpsOpen | hbdGpsOpenDone | hbdGpsClose | hbdGpsCloseDone
  | oflLinkOpen | oflLinkOpenDone | oflLinkClose | oflLinkCloseDone
deriving DecidableEq, Repr

/-- `MTK_GFC_SYS_MODE_T`. -/
inductive SysMode
  | ap | offload
deriving DecidableEq, Repr

/-- `MTK_GFC_COMMAND_T`, and what is none of them. -/
inductive GfcCommand
  | init | addGeofenceArea | pause | resume | remove | recover | clear | other
deriving DecidableEq, Repr

inductive DcCommand
  | start | stop
deriving DecidableEq, Repr

inductive RequestType
  | hbdGpsOpen | hbdGpsClose | oflLinkOpen | oflLinkSend | oflLinkClose
deriving DecidableEq, Repr

/-- The request that a `DC_START` or a `DC_STOP` is sent as. -/
def RequestType.dc : RequestType → Option DcCommand
  | .hbdGpsOpen => some .start
  | .hbdGpsClose => some .stop
  | .oflLinkOpen | .oflLinkSend | .oflLinkClose => none

/-- The header of a message to mnld. -/
structure Sent where
  type : RequestType
  session : BitVec 32
deriving DecidableEq, Repr

def mtkGeofenceIdleMode : Int := -1

def mtkBatchGeofenceOnly : Int := 3

def gfcApMode : BitVec 32 := 1

def gfcOffloadMode : BitVec 32 := 2

def maxGfcBatchingMsg : Nat := 100

/-- The variables of the controller and `gModeFlag`; the sources are 0 or 1. `batched` are the
sessions of `gGfc2mnl_msg`, `requests` what mnld has been sent, and `dcRunning` says whether it
collects for the controller: from a `DC_START` to a `DC_STOP` or to its own restart. -/
structure Controller where
  status : MnlStatus
  currentSession : BitVec 32
  currentSupport : BitVec 32
  enabled : Bool
  flpGeofenceSource : Bool
  gfcMode : Int
  inUse : Int
  sourceToUse : Bool
  batched : List (BitVec 32)
  sysMode : SysMode
  requests : List Sent
  dcRunning : Bool
deriving DecidableEq, Repr

/-- Which of the allocations for a message succeed: its copy, the command, the request. -/
structure Alloc where
  copy : Bool
  command : Bool
  request : Bool
deriving DecidableEq, Repr

/-- The types of messages from the HAL. -/
inductive HalMessage
  | injectLoc
  | halInit
  | screenStatus
  | geofence (command : GfcCommand)
  | other
deriving DecidableEq, Repr

/-- The types of messages in the datagrams of an offload link. -/
inductive LinkMessage
  | halStopRsp | geofenceCallback | other
deriving DecidableEq, Repr

inductive MnlMessage
  | bootup
  | sessionUpdate (session support : BitVec 32)
  | hbdGpsLocation
  | oflLinkRecv (message : LinkMessage)
  | hbdGpsOpenDone
  | hbdGpsCloseDone
  | oflLinkOpenDone
  | oflLinkCloseDone
  | flpAttachDone
  | other
deriving DecidableEq, Repr

/-- A message of the HAL with what `update_fence_source` answers, one of mnld, or the entry into a
smart mode by the geofence library. -/
inductive GfcInput
  | hal (message : HalMessage) (updateFenceSource : Bool) (alloc : Alloc)
  | mnl (message : MnlMessage) (alloc : Alloc)
  | smartEntry (mode : Int)
deriving DecidableEq, Repr

namespace Controller

def initial : Controller where
  status := .none
  currentSession := 0
  currentSupport := 0
  enabled := false
  flpGeofenceSource := false
  gfcMode := mtkGeofenceIdleMode
  inUse := 0
  sourceToUse := false
  batched := []
  sysMode := .ap
  requests := []
  dcRunning := false

variable (alloc : Alloc) (s : Controller)

/-- `gfc2mnl_hdlr`. -/
def gfc2mnlHdlr (type : RequestType) : Controller :=
  { s with requests := s.requests ++ [⟨type, s.currentSession⟩] }

/-- `mtk_gfc2mnl_process`. -/
def gfc2mnlProcess (command : DcCommand) : Controller :=
  if alloc.request then
    match command with
    | .start =>
        { s.gfc2mnlHdlr .hbdGpsOpen with status := .hbdGpsOpen, dcRunning := true }
    | .stop =>
        { s.gfc2mnlHdlr .hbdGpsClose with status := .hbdGpsClose, dcRunning := false }
  else s

/-- The command for a change of the source, without which no allocation is made. -/
def changeSource : Controller :=
  if s.flpGeofenceSource ≠ s.sourceToUse then
    if s.flpGeofenceSource = false ∧ s.sourceToUse = true then
      if alloc.command then s.gfc2mnlProcess alloc .start else s
    else if s.flpGeofenceSource = true ∧ s.sourceToUse = false then
      if alloc.command then s.gfc2mnlProcess alloc .stop else s
    else s
  else s

/-- `mtk_gfc_controller_update_option`. -/
def updateOption : Controller :=
  { s.changeSource alloc with flpGeofenceSource := s.sourceToUse }

/-- `mtk_gfc_controller_reset_status`. -/
def resetStatus : Controller :=
  { s with
    enabled := false
    gfcMode := mtkGeofenceIdleMode
    inUse := 0
    sourceToUse := false
    flpGeofenceSource := false }

/-- The source for one more fence. -/
def addSource (updateFenceSource : Bool) : Bool := if 0 < s.inUse then updateFenceSource else true

/-- The smart mode is left for a command of the framework. -/
def leaveSmart : Controller :=
  if s.enabled ∧ mtkBatchGeofenceOnly < s.gfcMode then { s with gfcMode := mtkBatchGeofenceOnly }
  else s

/-- `ADD_GEOFENCE_AREA` and `RECOVER_GEOFENCE`. -/
def addFence (updateFenceSource : Bool) : Controller :=
  let s := { s with
    sourceToUse := s.addSource updateFenceSource
    gfcMode := if s.inUse = 0 then mtkBatchGeofenceOnly else s.gfcMode }
  { s.updateOption alloc with enabled := true, inUse := (s.inUse + 1).bmod 4294967296 }

/-- `REMOVE_GEOFENCE`. -/
def removeFence (updateFenceSource : Bool) : Controller :=
  let s := { s with
    inUse := if 0 < s.inUse then s.inUse - 1 else s.inUse
    sourceToUse := updateFenceSource }
  if s.inUse = 0 then
    { s.updateOption alloc with enabled := false, gfcMode := mtkGeofenceIdleMode }
  else s.updateOption alloc

/-- `CLEAR_GEOFENCE`. -/
def clearFences : Controller :=
  let s := { s with inUse := 0, enabled := false, sourceToUse := false }
  { s.updateOption alloc with gfcMode := mtkGeofenceIdleMode }

/-- `mtk_gfc_controller_process`, for a `MTK_FLP_MSG_OFL_GEOFENCE_CMD`. -/
def process (command : GfcCommand) (updateFenceSource : Bool) : Controller :=
  if alloc.copy then
    match command with
    | .addGeofenceArea | .recover => s.leaveSmart.addFence alloc updateFenceSource
    | .remove => s.leaveSmart.removeFence alloc updateFenceSource
    | .clear => s.leaveSmart.clearFences alloc
    | .init | .pause | .resume | .other => s.leaveSmart
  else s

/-- Messages are kept until the link is open; the first of them opens it. -/
def keepForLink : Controller :=
  let s := if s.batched = [] ∧ alloc.request then
    { s.gfc2mnlHdlr .oflLinkOpen with status := .oflLinkOpen } else s
  if s.batched.length < maxGfcBatchingMsg then
    { s with batched := s.batched ++ [s.currentSession] }
  else s

/-- `mtk_gfc_ofl2mnl_process`. -/
def ofl2mnlProcess (message : HalMessage) : Controller :=
  if message = .screenStatus then
    if s.status = .oflLinkOpenDone ∧ alloc.request then s.gfc2mnlHdlr .oflLinkSend else s
  else if s.status ≠ .oflLinkOpenDone then s.keepForLink alloc
  else if alloc.request then s.gfc2mnlHdlr .oflLinkSend
  else s

/-- `mtk_hal2gfc_main_hdlr`. -/
def hal2gfcMainHdlr (message : HalMessage) (updateFenceSource : Bool) : Controller :=
  match message, s.sysMode with
  | .injectLoc, _ => s
  | .halInit, _ => s
  | .screenStatus, .offload => s.ofl2mnlProcess alloc .screenStatus
  | .screenStatus, .ap => s
  | .geofence command, .offload => s.ofl2mnlProcess alloc (.geofence command)
  | .geofence command, .ap => s.process alloc command updateFenceSource
  | .other, .offload => s.ofl2mnlProcess alloc .other
  | .other, .ap => s

/-- A session update while the host runs that has the controller switch to the offload mode. -/
def Switches (support : BitVec 32) : Prop :=
  s.status = .hbdGpsOpenDone ∧ support ≠ gfcApMode ∧ support &&& gfcOffloadMode ≠ 0

instance (support : BitVec 32) : Decidable (s.Switches support) :=
  inferInstanceAs (Decidable (_ ∧ _ ∧ _))

/-- `MNLD_FLP_TYPE_SESSION_UPDATE`. -/
def sessionUpdate (session support : BitVec 32) : Controller :=
  let s := { s with currentSession := session, currentSupport := support }
  if s.status = .hbdGpsOpenDone ∧ support = gfcApMode then s
  else if s.status = .oflLinkOpenDone ∧ support &&& gfcOffloadMode ≠ 0 then s
  else if s.status = .hbdGpsOpenDone ∧ support &&& gfcOffloadMode ≠ 0 then
    { s.resetStatus with sysMode := .offload }
  else if s.status = .oflLinkOpenDone ∧ support = gfcApMode then { s with sysMode := .ap }
  else if support &&& gfcOffloadMode ≠ 0 then { s with sysMode := .offload }
  else if support = gfcApMode then { s with sysMode := .ap }
  else s

/-- The messages that have been kept are sent. -/
def flush : Controller :=
  { s with
    requests := s.requests ++ s.batched.map (Sent.mk .oflLinkSend)
    batched := [] }

/-- `mnl2gfc_hdlr`. -/
def mnl2gfcHdlr : MnlMessage → Controller
  | .bootup => { s with status := .attachDone, dcRunning := false }
  | .sessionUpdate session support => s.sessionUpdate session support
  | .hbdGpsLocation => s
  | .oflLinkRecv .halStopRsp =>
      if alloc.copy ∧ alloc.request then
        { s.gfc2mnlHdlr .oflLinkClose with status := .oflLinkClose }
      else s
  | .oflLinkRecv .geofenceCallback => s
  | .oflLinkRecv .other => s
  | .hbdGpsOpenDone => { s with status := .hbdGpsOpenDone }
  | .hbdGpsCloseDone => { s with status := .hbdGpsCloseDone }
  | .oflLinkOpenDone =>
      if s.status = .oflLinkOpen then { s.flush with status := .oflLinkOpenDone } else s
  | .oflLinkCloseDone => { s with status := .oflLinkCloseDone }
  | .flpAttachDone => { s with status := .attachDone }
  | .other => s

def next : GfcInput → Controller
  | .hal message updateFenceSource alloc => s.hal2gfcMainHdlr alloc message updateFenceSource
  | .mnl message alloc => s.mnl2gfcHdlr alloc message
  | .smartEntry mode => { s with gfcMode := mode }

def step (input : GfcInput) : Option Controller := some (s.next input)

end Controller
end Connectivity.Geofence
