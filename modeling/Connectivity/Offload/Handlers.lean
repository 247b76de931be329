import Connectivity.Offload.Link

set_option autoImplicit false

/- How the two interfaces take a datagram from the HAL, and the steps of a link. -/
namespace Connectivity.Offload

open Bytes

/-- `FLP_MNL_BUFF_SIZE` and `GFC_MNL_BUFF_SIZE`. -/
def mnlBuffSize : Nat := 1024

/-- `get_binary` from the start of a buffer that is full: the length it returns. -/
def getBinaryLen (buff : List UInt8) (srcLen desLen : Nat) : Int :=
  let len := int32LE (window buff 0 4)
  let room : Int := min (srcLen - 4) desLen
  if len > room then room else len

/-- What both main handlers do first: receive, with what does not fit cut off, and copy
the command out of the datagram. The length is checked against the buffer, not against
what was received. -/
def receive (datagram : List UInt8) : Option HalMsg :=
  let buff := datagram.take mnlBuffSize
  let len := getBinaryLen buff mnlBuffSize mnlBuffSize
  if buff = [] then none
  else if 0 < len ∧ len ≤ mnlBuffSize then some ⟨(buff.drop 4).take len.toNat⟩
  else none

/-- The header of the stop command that the FLP sends in place of the one it got. -/
def stopHeader : List UInt8 := toLE 4 202 ++ toLE 4 0

/-- The interface takes a command from the HAL. -/
@[simps -fullyApplied accepted queue mnldStatus modeFlag currentSession sent] def accept
    (prmsg : HalMsg) (s : Link) : Link :=
  { s with accepted := prmsg :: s.accepted }

def mtkFlp2mnlProcess (prmsg : HalMsg) (s : Link) : Effect :=
  match prmsg.cmd with
  | .startCmd | .diagInjectDataNtf =>
      if s.mnldStatus ≠ .oflLinkOpenDone then
        queueMsg .flp prmsg (openFirst s)
      else { link := s, copy := none }
  | .stopCmd =>
      { link := toMnl ⟨.oflLinkSend, s.currentSession, 8, stopHeader⟩ s, copy := none }
  | .dcStartCmd => { link := hbdGpsOpen s, copy := none }
  | .dcStopCmd => { link := hbdGpsClose s, copy := none }
  | .connScreenStatus =>
      if s.mnldStatus = .oflLinkOpenDone then forward prmsg s else { link := s, copy := none }
  | .initCmd | .setOptionCmd | .requestLocNtf | .flushLocNtf | .geofenceInjectLoc | .other =>
      if s.modeFlag = .offloadMode ∧ s.mnldStatus = .oflLinkOpenDone then forward prmsg s
      else { link := s, copy := none }

/-- The switch of `mtk_hal2flp_main_hdlr`, as far as the offload link goes. In the AP
mode its commands go to the controller. -/
def mtkHal2flpMainHdlr (prmsg : HalMsg) (s : Link) : Effect :=
  match prmsg.cmd with
  | .startCmd | .stopCmd | .setOptionCmd | .diagInjectDataNtf | .connScreenStatus
  | .requestLocNtf | .flushLocNtf =>
      if s.modeFlag = .offloadMode then
        mtkFlp2mnlProcess prmsg (accept prmsg s)
      else { link := s, copy := none }
  | .initCmd | .dcStartCmd | .dcStopCmd | .geofenceInjectLoc | .other => { link := s, copy := none }

def mtkGfcOfl2mnlProcess (prmsg : HalMsg) (s : Link) : Effect :=
  if prmsg.cmd = .connScreenStatus then
    if s.mnldStatus = .oflLinkOpenDone then forward prmsg s else { link := s, copy := none }
  else if s.mnldStatus ≠ .oflLinkOpenDone then
    queueMsg .gfc prmsg (openFirst s)
  else forward prmsg s

/-- The tests of `mtk_hal2gfc_main_hdlr`. An injected location is relayed, all else goes
to the link or, in the AP mode, to the controller. -/
def mtkHal2gfcMainHdlr (prmsg : HalMsg) (s : Link) : Effect :=
  match prmsg.cmd with
  | .geofenceInjectLoc | .initCmd => { link := s, copy := none }
  | .startCmd | .stopCmd | .setOptionCmd | .diagInjectDataNtf | .requestLocNtf | .flushLocNtf
  | .dcStartCmd | .dcStopCmd | .connScreenStatus | .other =>
      if s.modeFlag = .offloadMode then
        mtkGfcOfl2mnlProcess prmsg (accept prmsg s)
      else { link := s, copy := none }

def mainHdlr : Side → HalMsg → Link → Effect
  | .flp => mtkHal2flpMainHdlr
  | .gfc => mtkHal2gfcMainHdlr

/-- A copy that reads past the buffer or writes past its destination has no defined
outcome. -/
def Effect.outcome (effect : Effect) : Option Link :=
  match effect.copy with
  | some copy =>
      if copy.size ≤ mnlBuffSize ∧ copy.size ≤ copy.capacity then some effect.link else none
  | none => some effect.link

/-- What a link meets: a datagram from the HAL, its controller's start or stop of the
host engine in the AP mode, an event of the daemon. The daemon never answers an attach,
for which neither interface asks. -/
inductive Input
  | hal (datagram : List UInt8)
  | dcStart | dcStop
  | bootup
  | sessionUpdate (id support : BitVec 32)
  | hbdGpsOpenDone | hbdGpsCloseDone
  | oflLinkOpenDone | oflLinkCloseDone
  | halStopRsp
  deriving DecidableEq, Repr

def step (side : Side) (s : Link) : Input → Option Link
  | .hal datagram =>
      match receive datagram with
      | some prmsg => (mainHdlr side prmsg s).outcome
      | none => some s
  | .dcStart => some (hbdGpsOpen s)
  | .dcStop => some (hbdGpsClose s)
  | .bootup => some (mnl2linkHdlr side .bootup s)
  | .sessionUpdate id support => some (mnl2linkHdlr side (.sessionUpdate id support) s)
  | .hbdGpsOpenDone => some (mnl2linkHdlr side .hbdGpsOpenDone s)
  | .hbdGpsCloseDone => some (mnl2linkHdlr side .hbdGpsCloseDone s)
  | .oflLinkOpenDone => some (mnl2linkHdlr side .oflLinkOpenDone s)
  | .oflLinkCloseDone => some (mnl2linkHdlr side .oflLinkCloseDone s)
  | .halStopRsp => some (mnl2linkHdlr side .halStopRsp s)

/-- What a datagram of the HAL can do to a link: nothing, nothing but to be accepted, join
the queue behind an open request, or be sent. -/
inductive HalMove (side : Side) (s : Link) : Link → Prop
  | rejected : HalMove side s s
  | dropped (prmsg : HalMsg) : HalMove side s (accept prmsg s)
  | queued (prmsg : HalMsg) (offload : s.modeFlag = .offloadMode)
      (closed : s.mnldStatus ≠ .oflLinkOpenDone) {t : Link}
          (opened : t = openFirst (accept prmsg s)) :
      HalMove side s { t with queue := t.queue ++ [linkSend prmsg t] }
  | sent (prmsg : HalMsg) (msg : MnlMsg) (send : msg.type = .oflLinkSend)
      (session : msg.session = s.currentSession) : HalMove side s (toMnl msg (accept prmsg s))

section

variable {side : Side} {s s' : Link} {prmsg : HalMsg}

theorem outcome_link {effect : Effect} (taken : effect.outcome = some s') : effect.link = s' := by
  unfold Effect.outcome at taken
  split at taken
  · split at taken
    · exact Option.some.inj taken
    · cases taken
  · exact Option.some.inj taken

theorem forward_move : HalMove side s (forward prmsg (accept prmsg s)).link := by
  unfold forward
  split
  · exact .sent prmsg _ rfl rfl
  · exact .dropped prmsg

theorem queueMsg_move {origin : Side} (offload : s.modeFlag = .offloadMode)
    (closed : s.mnldStatus ≠ .oflLinkOpenDone) :
    HalMove side s (queueMsg origin prmsg (openFirst (accept prmsg s))).link := by
  rw [queueMsg]
  split
  next room => exact .queued prmsg offload closed rfl
  next full =>
    rw [openFirst_queue] at full
    rw [openFirst_of_queued (Side.queued_of_full full)]
    exact .dropped prmsg

theorem mtkFlp2mnlProcess_move (offload : s.modeFlag = .offloadMode)
    (known : prmsg.cmd ≠ .dcStartCmd ∧ prmsg.cmd ≠ .dcStopCmd) :
    HalMove side s (mtkFlp2mnlProcess prmsg (accept prmsg s)).link := by
  unfold mtkFlp2mnlProcess
  split
  · split
    next closed => exact queueMsg_move offload closed
    next => exact .dropped prmsg
  · split
    next closed => exact queueMsg_move offload closed
    next => exact .dropped prmsg
  · exact .sent prmsg _ rfl rfl
  next start => exact absurd start known.1
  next stop => exact absurd stop known.2
  all_goals
    split
    · exact forward_move
    · exact .dropped prmsg

theorem mtkGfcOfl2mnlProcess_move (offload : s.modeFlag = .offloadMode) :
    HalMove side s (mtkGfcOfl2mnlProcess prmsg (accept prmsg s)).link := by
  unfold mtkGfcOfl2mnlProcess
  split
  · split
    · exact forward_move
    · exact .dropped prmsg
  · split
    next closed => exact queueMsg_move offload closed
    next => exact forward_move

theorem mainHdlr_move : HalMove side s (mainHdlr side prmsg s).link := by
  cases side with
  | flp =>
      simp only [mainHdlr, mtkHal2flpMainHdlr]
      split
      case h_1 | h_2 | h_3 | h_4 | h_5 | h_6 | h_7 =>
        split
        next offload => exact mtkFlp2mnlProcess_move offload (by simp [*])
        next => exact .rejected
      all_goals exact .rejected
  | gfc =>
      simp only [mainHdlr, mtkHal2gfcMainHdlr]
      split
      case h_1 | h_2 => exact .rejected
      all_goals
        split
        next offload => exact mtkGfcOfl2mnlProcess_move offload
        next => exact .rejected

/-- Every defined step on a datagram is one of these moves. -/
theorem hal_move {datagram : List UInt8} (taken : step side s (.hal datagram) = some s') :
    HalMove side s s' := by
  simp only [step] at taken
  split at taken
  next prmsg _ =>
    rw [← outcome_link taken]
    exact mainHdlr_move
  next =>
    cases taken
    exact .rejected

end

/-- The classes of commands that the conditions tell apart. -/
inductive CmdClass (cmd : HalCmd) : Prop
  | start (start : cmd = .startCmd ∨ cmd = .diagInjectDataNtf)
  | stop (stop : cmd = .stopCmd)
  | passed (passed : cmd = .setOptionCmd ∨ cmd = .requestLocNtf ∨ cmd = .flushLocNtf ∨
      cmd = .connScreenStatus)
  | ignored (ignored : cmd = .initCmd ∨ cmd = .geofenceInjectLoc)
  | unknown (unknown : cmd = .dcStartCmd ∨ cmd = .dcStopCmd ∨ cmd = .other)

theorem cmdClass (cmd : HalCmd) : CmdClass cmd := by
  cases cmd with
  | startCmd | diagInjectDataNtf => exact .start (by decide)
  | stopCmd => exact .stop rfl
  | setOptionCmd | requestLocNtf | flushLocNtf | connScreenStatus => exact .passed (by decide)
  | initCmd | geofenceInjectLoc => exact .ignored (by decide)
  | dcStartCmd | dcStopCmd | other => exact .unknown (by decide)

section

variable {side : Side} {s : Link} {prmsg : HalMsg}

section

variable (offload : s.modeFlag = .offloadMode)
include offload

theorem flp_start (start : prmsg.cmd = .startCmd ∨ prmsg.cmd = .diagInjectDataNtf) :
    mtkHal2flpMainHdlr prmsg s =
      if s.mnldStatus ≠ .oflLinkOpenDone then queueMsg .flp prmsg (openFirst (accept prmsg s))
      else { link := accept prmsg s, copy := none } := by
  rcases start with cmd | cmd <;> simp [mtkHal2flpMainHdlr, mtkFlp2mnlProcess, cmd, offload]

theorem flp_stop (stop : prmsg.cmd = .stopCmd) :
    mtkHal2flpMainHdlr prmsg s =
      { link := toMnl ⟨.oflLinkSend, s.currentSession, 8, stopHeader⟩ (accept prmsg s)
        copy := none } := by
  simp [mtkHal2flpMainHdlr, mtkFlp2mnlProcess, stop, offload]

theorem flp_passed (passed : prmsg.cmd = .setOptionCmd ∨ prmsg.cmd = .requestLocNtf ∨
      prmsg.cmd = .flushLocNtf ∨ prmsg.cmd = .connScreenStatus) :
    mtkHal2flpMainHdlr prmsg s =
      if s.mnldStatus = .oflLinkOpenDone then forward prmsg (accept prmsg s)
      else { link := accept prmsg s, copy := none } := by
  rcases passed with cmd | cmd | cmd | cmd <;>
    simp [mtkHal2flpMainHdlr, mtkFlp2mnlProcess, cmd, offload]

/-- The geofence treats every command it takes alike, but for the screen status. -/
theorem gfc_heard (heard : prmsg.cmd ≠ .initCmd ∧ prmsg.cmd ≠ .geofenceInjectLoc) :
    mtkHal2gfcMainHdlr prmsg s =
      if s.mnldStatus = .oflLinkOpenDone then forward prmsg (accept prmsg s)
      else if prmsg.cmd = .connScreenStatus then { link := accept prmsg s, copy := none }
      else queueMsg .gfc prmsg (openFirst (accept prmsg s)) := by
  cases cmd : prmsg.cmd <;> simp [cmd] at heard <;>
    simp [mtkHal2gfcMainHdlr, mtkGfcOfl2mnlProcess, cmd, offload]

end

theorem flp_unheard (unheard : (prmsg.cmd = .initCmd ∨ prmsg.cmd = .geofenceInjectLoc) ∨
      prmsg.cmd = .dcStartCmd ∨ prmsg.cmd = .dcStopCmd ∨ prmsg.cmd = .other) :
    mtkHal2flpMainHdlr prmsg s = { link := s, copy := none } := by
  rcases unheard with (cmd | cmd) | cmd | cmd | cmd <;> simp [mtkHal2flpMainHdlr, cmd]

theorem gfc_ignored (ignored : prmsg.cmd = .initCmd ∨ prmsg.cmd = .geofenceInjectLoc) :
    mtkHal2gfcMainHdlr prmsg s = { link := s, copy := none } := by
  rcases ignored with cmd | cmd <;> simp [mtkHal2gfcMainHdlr, cmd]

/-- In the AP mode the link is not concerned. -/
theorem mainHdlr_ap (ap : s.modeFlag ≠ .offloadMode) :
    mainHdlr side prmsg s = { link := s, copy := none } := by
  cases side with
  | flp =>
      simp only [mainHdlr, mtkHal2flpMainHdlr, if_neg ap]
      split <;> rfl
  | gfc =>
      simp only [mainHdlr, mtkHal2gfcMainHdlr, if_neg ap]
      split <;> rfl

end

/-- A start command with no data: its length, its type, and its own length of zero. -/
example : (receive [8, 0, 0, 0, 201, 0, 0, 0, 0, 0, 0, 0]).map HalMsg.cmd = some .startCmd := by
  decide

end Connectivity.Offload
