import Connectivity.Bytes.LittleEndian
import Mathlib.Tactic.Simps.Basic

set_option autoImplicit false

/- The offload link that the FLP and the geofence interface keep with the daemon:
the messages on both sides, the state of the link and what the daemon's messages do
to it. The two interfaces are copies of one protocol. -/
namespace Connectivity.Offload

open Bytes

/-- The two copies of the protocol. -/
inductive Side
  | flp | gfc
  deriving DecidableEq, Repr

/-- `MAX_FLP_BATCHING_MSG` and `MAX_GFC_BATCHING_MSG`. -/
def Side.maxBatchingMsg : Side → Nat
  | .flp => 10
  | .gfc => 100

/-- `FLP_MNL_PAYLOAD_LEN` and `GFC_MNL_PAYLOAD_LEN`, the data bytes of a queue slot. -/
def Side.mnlPayloadLen : Side → Nat
  | .flp => 128
  | .gfc => 256

/-- The members of `MTK_FLP_MSG_TYPE` the handlers tell apart, and the value that
`GEOFENCE_INJECT_LOC_ENUM` adds to them. -/
inductive HalCmd
  | initCmd | startCmd | stopCmd | setOptionCmd | diagInjectDataNtf | requestLocNtf | flushLocNtf
  | dcStartCmd | dcStopCmd | connScreenStatus | geofenceInjectLoc | other
  deriving DecidableEq, Repr

def HalCmd.values : List (Int × HalCmd) :=
  [(200, .initCmd), (201, .startCmd), (202, .stopCmd), (204, .setOptionCmd),
    (206, .diagInjectDataNtf), (401, .requestLocNtf), (402, .flushLocNtf), (500, .dcStartCmd),
    (501, .dcStopCmd), (502, .connScreenStatus), (600, .geofenceInjectLoc)]

def HalCmd.ofInt (type : Int) : HalCmd :=
  match HalCmd.values.find? fun value => value.1 == type with
  | some value => value.2
  | none => .other

theorem HalCmd.type_of_stop {type : Int} (stop : HalCmd.ofInt type = .stopCmd) : type = 202 := by
  have stops : ∀ value ∈ HalCmd.values, value.2 = .stopCmd → value.1 = 202 := by decide
  unfold HalCmd.ofInt at stop
  split at stop
  next value found =>
    have same := List.find?_some found
    rw [← eq_of_beq same]
    exact stops value (List.mem_of_find?_eq_some found) stop
  next => cases stop

/-- `MTK_FLP_MSG_T` in the zeroed buffer of 1024 bytes that a command from the HAL is
copied to, by the bytes copied that were received. -/
structure HalMsg where
  received : List UInt8
  deriving DecidableEq, Repr

namespace HalMsg

def type (prmsg : HalMsg) : Int := int32LE (window prmsg.received 0 4)

def length (prmsg : HalMsg) : Int := int32LE (window prmsg.received 4 4)

def cmd (prmsg : HalMsg) : HalCmd := HalCmd.ofInt prmsg.type

/-- `sizeof(MTK_FLP_MSG_T) + prmsg->length` as the `size_t` it is for `memcpy`. -/
def size (prmsg : HalMsg) : Nat := ((8 + prmsg.length) % 2 ^ 64).toNat

/-- The bytes such a copy takes. -/
def bytes (prmsg : HalMsg) : List UInt8 := window prmsg.received 0 prmsg.size

theorem length_range (prmsg : HalMsg) : -2 ^ 31 ≤ prmsg.length ∧ prmsg.length < 2 ^ 31 :=
  ⟨int32LE_ge _, int32LE_lt _⟩

end HalMsg

/-- The requests of an interface to the daemon. -/
inductive MnlMsgType
  | hbdGpsOpen | hbdGpsClose | oflLinkOpen | oflLinkClose | oflLinkSend
  deriving DecidableEq, Repr

/-- `MTK_FLP_MNL_MSG_T` and `MTK_GFC_MNL_MSG_T`. -/
structure MnlMsg where
  type : MnlMsgType
  session : BitVec 32
  length : BitVec 32
  data : List UInt8
  deriving DecidableEq, Repr

/-- The values of `fgMnldStatus` that the code assigns or tests. -/
inductive MnlStatus
  | none | attachDone | hbdGpsOpen | hbdGpsOpenDone | hbdGpsClose | hbdGpsCloseDone
  | oflLinkOpen | oflLinkOpenDone | oflLinkClose | oflLinkCloseDone
  deriving DecidableEq, Repr

inductive SysMode
  | apMode | offloadMode
  deriving DecidableEq, Repr

/-- A request handed to the daemon, with the session that was current then and
whether the daemon took it. -/
structure Sent where
  msg : MnlMsg
  current : BitVec 32
  taken : Bool
  deriving DecidableEq, Repr

/-- The file-scope variables of one interface, the queue cut to its counter, and the
daemon's own session id. `sent` and `accepted` tell what was handed to the daemon and
what was taken from the HAL, latest first. -/
structure Link where
  mnldStatus : MnlStatus
  currentSession : BitVec 32
  currentSupport : BitVec 32
  modeFlag : SysMode
  queue : List MnlMsg
  mnldSession : BitVec 32
  resetNtfs : Nat
  sent : List Sent
  accepted : List HalMsg

def Link.initial : Link where
  mnldStatus := .none
  currentSession := 0
  currentSupport := 0
  modeFlag := .apMode
  queue := []
  mnldSession := 1
  resetNtfs := 0
  sent := []
  accepted := []

/-- `flp2mnl_hdlr` and `gfc2mnl_hdlr`: the daemon ignores another session's request. -/
@[simps -fullyApplied sent queue] def toMnl (msg : MnlMsg) (s : Link) : Link :=
  { s with sent := ⟨msg, s.currentSession, msg.session == s.mnldSession⟩ :: s.sent }

/-- A request that is its header alone. -/
def sendHeader (type : MnlMsgType) (s : Link) : Link :=
  toMnl ⟨type, s.currentSession, 0, []⟩ s

/-- A request that the status tells of before it is sent. -/
def request (type : MnlMsgType) (status : MnlStatus) (s : Link) : Link :=
  sendHeader type { s with mnldStatus := status }

def openLink (s : Link) : Link := request .oflLinkOpen .oflLinkOpen s

/-- The first message to be queued opens the link. -/
def openFirst (s : Link) : Link := if s.queue = [] then openLink s else s

theorem openFirst_of_empty {s : Link} (empty : s.queue = []) : openFirst s = openLink s :=
  if_pos empty

theorem openFirst_of_queued {s : Link} (queued : s.queue ≠ []) : openFirst s = s :=
  if_neg queued

/-- What an open leaves alone, the first message leaves alone. -/
theorem openFirst_keeps {α : Type} (s : Link) (field : Link → α)
    (kept : field (openLink s) = field s) : field (openFirst s) = field s := by
  by_cases empty : s.queue = []
  · rw [openFirst_of_empty empty, kept]
  · rw [openFirst_of_queued empty]

theorem openFirst_queue (s : Link) : (openFirst s).queue = s.queue :=
  openFirst_keeps s Link.queue rfl

def hbdGpsOpen (s : Link) : Link := request .hbdGpsOpen .hbdGpsOpen s

def hbdGpsClose (s : Link) : Link := request .hbdGpsClose .hbdGpsClose s

/-- The message that carries a command of the HAL. -/
def linkSend (prmsg : HalMsg) (s : Link) : MnlMsg where
  type := .oflLinkSend
  session := s.currentSession
  length := BitVec.ofInt 32 (prmsg.length + 8)
  data := prmsg.bytes

/-- A `memcpy` of a command: the bytes it takes, the room where they go, and the
length field by which the daemon forwards them later. -/
structure Copy where
  size : Nat
  capacity : Nat
  length : BitVec 32
  deriving DecidableEq, Repr

/-- What a handler does: to the link, and the copy it makes of the command. -/
structure Effect where
  link : Link
  copy : Option Copy

theorem Side.queued_of_full {side : Side} {queue : List MnlMsg}
    (full : ¬ queue.length < side.maxBatchingMsg) : queue ≠ [] := by
  intro empty
  apply full
  rw [empty]
  cases side <;> decide

/-- Queue a command, unless the queue is full. -/
def queueMsg (side : Side) (prmsg : HalMsg) (s : Link) : Effect :=
  if s.queue.length < side.maxBatchingMsg then
    { link := { s with queue := s.queue ++ [linkSend prmsg s] }
      copy := some ⟨prmsg.size, side.mnlPayloadLen, (linkSend prmsg s).length⟩ }
  else { link := s, copy := none }

/-- `sizeof(header) + sizeof(MTK_FLP_MSG_T) + prmsg->length` as a `size_t`. -/
def HalMsg.mallocSize (prmsg : HalMsg) : Nat := ((20 + prmsg.length) % 2 ^ 64).toNat

/-- A block is refused exactly where its size wraps around. -/
theorem mallocSize_lt_iff (prmsg : HalMsg) : prmsg.mallocSize < 2 ^ 63 ↔ -20 ≤ prmsg.length := by
  have range := prmsg.length_range
  rw [HalMsg.mallocSize]
  omega

/-- Send a command at once from a block of its own. No block is larger than half the
address space, and without one nothing is sent. -/
def forward (prmsg : HalMsg) (s : Link) : Effect :=
  if prmsg.mallocSize < 2 ^ 63 then
    { link := toMnl (linkSend prmsg s) s
      copy := some ⟨prmsg.size, prmsg.mallocSize - 12, (linkSend prmsg s).length⟩ }
  else { link := s, copy := none }

/-- What the daemon tells an interface, as far as the link takes note of it. -/
inductive MnldEvent
  | bootup
  | sessionUpdate (id support : BitVec 32)
  | attachDone
  | hbdGpsOpenDone | hbdGpsCloseDone
  | oflLinkOpenDone | oflLinkCloseDone
  | halStopRsp
  deriving DecidableEq, Repr

def setStatus (status : MnlStatus) (s : Link) : Link :=
  { s with mnldStatus := status }

/-- The sessions and the capability that the handler stores first. -/
def storeSession (id support : BitVec 32) (s : Link) : Link :=
  { s with currentSession := id, mnldSession := id, currentSupport := support }

/-- `MNLD_FLP_TYPE_SESSION_UPDATE`. -/
def sessionUpdate (id support : BitVec 32) (s : Link) : Link :=
  let s := storeSession id support s
  if s.mnldStatus = .hbdGpsOpenDone ∧ support = 1 then s
  else if s.mnldStatus = .oflLinkOpenDone ∧ support &&& 2 ≠ 0 then s
  else if s.mnldStatus = .hbdGpsOpenDone ∧ support &&& 2 ≠ 0 then
    { s with modeFlag := .offloadMode, resetNtfs := s.resetNtfs + 1 }
  else if s.mnldStatus = .oflLinkOpenDone ∧ support = 1 then
    { s with modeFlag := .apMode, resetNtfs := s.resetNtfs + 1 }
  else if support &&& 2 ≠ 0 then { s with modeFlag := .offloadMode }
  else if support = 1 then { s with modeFlag := .apMode }
  else s

/-- The queued messages are sent in their order and the counter is cleared. -/
def flush (s : Link) : Link :=
  { s.queue.foldl (fun s msg => toMnl msg s) (setStatus .oflLinkOpenDone s) with queue := [] }

/-- `mnl2flp_hdlr` and `mnl2gfc_hdlr`. Only the geofence knows the end of an attach. -/
def mnl2linkHdlr (side : Side) : MnldEvent → Link → Link
  | .bootup, s => { setStatus .attachDone s with resetNtfs := s.resetNtfs + 1 }
  | .sessionUpdate id support, s => sessionUpdate id support s
  | .attachDone, s => if side = .gfc then setStatus .attachDone s else s
  | .hbdGpsOpenDone, s => setStatus .hbdGpsOpenDone s
  | .hbdGpsCloseDone, s => setStatus .hbdGpsCloseDone s
  | .oflLinkOpenDone, s => if s.mnldStatus = .oflLinkOpen then flush s else s
  | .oflLinkCloseDone, s => setStatus .oflLinkCloseDone s
  | .halStopRsp, s => setStatus .oflLinkClose (sendHeader .oflLinkClose s)

section

variable (s : Link) (id support : BitVec 32)

/-- A session update leaves all but the sessions, the mode and the HAL's notice alone. -/
theorem sessionUpdate_eq :
    ∃ mode ntfs, sessionUpdate id support s =
      { storeSession id support s with modeFlag := mode, resetNtfs := ntfs } := by
  unfold sessionUpdate
  simp only
  split_ifs <;> exact ⟨_, _, rfl⟩

@[simp] theorem sessionUpdate_mnldStatus :
    (sessionUpdate id support s).mnldStatus = s.mnldStatus := by
  obtain ⟨mode, ntfs, same⟩ := sessionUpdate_eq s id support
  rw [same]
  rfl

@[simp] theorem sessionUpdate_currentSession :
    (sessionUpdate id support s).currentSession = id := by
  obtain ⟨mode, ntfs, same⟩ := sessionUpdate_eq s id support
  rw [same]
  rfl

@[simp] theorem sessionUpdate_mnldSession :
    (sessionUpdate id support s).mnldSession = id := by
  obtain ⟨mode, ntfs, same⟩ := sessionUpdate_eq s id support
  rw [same]
  rfl

@[simp] theorem sessionUpdate_queue : (sessionUpdate id support s).queue = s.queue := by
  obtain ⟨mode, ntfs, same⟩ := sessionUpdate_eq s id support
  rw [same]
  rfl

@[simp] theorem sessionUpdate_sent : (sessionUpdate id support s).sent = s.sent := by
  obtain ⟨mode, ntfs, same⟩ := sessionUpdate_eq s id support
  rw [same]
  rfl

@[simp] theorem sessionUpdate_accepted : (sessionUpdate id support s).accepted = s.accepted := by
  obtain ⟨mode, ntfs, same⟩ := sessionUpdate_eq s id support
  rw [same]
  rfl

/-- A message on its way, as the log of a link tells it. -/
def Link.send (s : Link) (msg : MnlMsg) : Sent :=
  ⟨msg, s.currentSession, msg.session == s.mnldSession⟩

theorem foldl_toMnl (msgs : List MnlMsg) :
    msgs.foldl (fun s msg => toMnl msg s) s =
        { s with sent := (msgs.map s.send).reverse ++ s.sent } := by
  induction msgs generalizing s with
  | nil => rfl
  | cons msg rest ih =>
      have same : (toMnl msg s).send = s.send := rfl
      rw [List.foldl_cons, ih, same]
      simp only [List.map_cons, List.reverse_cons, List.append_assoc, List.singleton_append]
      rfl

theorem flush_eq :
    flush s =
      { s with
        mnldStatus := .oflLinkOpenDone
        queue := []
        sent := (s.queue.map s.send).reverse ++ s.sent } := by
  rw [flush, foldl_toMnl]
  rfl

end

end Connectivity.Offload
