import Connectivity.Offload.QueueDrain

set_option autoImplicit false

namespace Connectivity.Offload

open Bytes Transition

variable {side : Side} {s s' : Link} {input : Input} {prmsg : HalMsg}

/-- A request that carried a command to the daemon. -/
def Sent.delivers (sent : Sent) : Bool := sent.msg.type == .oflLinkSend && sent.taken

/-- The commands the daemon has got, the first one first. -/
def delivered (s : Link) : List (List UInt8) :=
  ((s.sent.filter Sent.delivers).map fun sent => sent.msg.data).reverse

/-- The commands that wait in the queue. -/
def queuedData (s : Link) : List (List UInt8) := s.queue.map fun msg => msg.data

/-- The commands taken from the HAL. -/
def commands (s : Link) : List (List UInt8) := (s.accepted.map HalMsg.bytes).reverse

/-- Every command the interface accepted was delivered once or is queued, in the order of
acceptance, under the session that was current, and what is queued will be sent. -/
structure Delivers (s : Link) : Prop where
  inOrder : delivered s ++ queuedData s = commands s
  tagged : ∀ sent ∈ s.sent, sent.msg.type = .oflLinkSend → sent.msg.session = sent.current
  drains : Drains s

/-- The FLP and the geofence interface, each right and both alike. -/
structure DeliversAlike (flp gfc : Link) : Prop where
  flpDelivers : Delivers flp
  gfcDelivers : Delivers gfc
  sameDelivered : delivered flp = delivered gfc
  sameQueued : queuedData flp = queuedData gfc

/-- The two interfaces meet the same events. -/
def pairStep (pair : Link × Link) (input : Input) : Option (Link × Link) :=
  (step .flp pair.1 input).bind fun flp => (step .gfc pair.2 input).map fun gfc => (flp, gfc)

/-- The commands that the FLP carries as the geofence does: a start or diagnostic data
before the link is open and while the queue has room, any other the FLP knows once the
link is open. -/
def CommandFits (s : Link) (prmsg : HalMsg) : Prop :=
  match prmsg.cmd with
  | .startCmd | .diagInjectDataNtf =>
      s.mnldStatus ≠ .oflLinkOpenDone ∧ s.queue.length < Side.flp.maxBatchingMsg
  | .stopCmd => s.mnldStatus = .oflLinkOpenDone ∧ prmsg.length = 0
  | .setOptionCmd | .requestLocNtf | .flushLocNtf | .connScreenStatus =>
      s.mnldStatus = .oflLinkOpenDone ∧ -20 ≤ prmsg.length
  | .initCmd | .geofenceInjectLoc => True
  | .dcStartCmd | .dcStopCmd | .other => False

/-- The steps after which both are still right and alike. -/
structure DeliveryStep (pair : Link × Link) (input : Input) : Prop where
  command : pair.1.modeFlag = .offloadMode → ∀ datagram prmsg, input = .hal datagram →
    receive datagram = some prmsg → CommandFits pair.1 prmsg
  status : RewritesEmpty pair.1 input
  tags : input = .oflLinkOpenDone → pair.1.mnldStatus = .oflLinkOpen →
    ∀ msg ∈ pair.1.queue, msg.session = pair.1.currentSession

/-- What both keep. -/
structure DeliveryInv (s : Link) : Prop where
  sound : LinkSound s
  delivers : Delivers s
  opened : s.mnldStatus = .oflLinkOpenDone → s.queue = []
  joined : s.queue ≠ [] → s.currentSession = s.mnldSession
  sends : ∀ msg ∈ s.queue, msg.type = .oflLinkSend

theorem delivered_toMnl {msg : MnlMsg} (send : msg.type = .oflLinkSend)
    (session : msg.session = s.mnldSession) :
    delivered (toMnl msg s) = delivered s ++ [msg.data] := by
  have delivers : (s.send msg).delivers = true := by
    simp [Sent.delivers, Link.send, send, session]
  have sent : (toMnl msg s).sent = s.send msg :: s.sent := rfl
  rw [delivered, sent, List.filter_cons_of_pos delivers, List.map_cons, List.reverse_cons]
  rfl

theorem delivered_openFirst : delivered (openFirst s) = delivered s :=
  openFirst_keeps s delivered rfl

theorem commands_accept : commands (accept prmsg s) = commands s ++ [prmsg.bytes] := by
  rw [commands, accept_accepted, List.map_cons, List.reverse_cons]
  rfl

/-- A command that was accepted and no more is lost. -/
theorem accept_loses (delivers : Delivers s) : ¬ Delivers (accept prmsg s) := by
  intro after
  have lengths := congrArg List.length (delivers.inOrder.symm.trans after.inOrder)
  rw [commands_accept, List.length_append] at lengths
  simp at lengths

/-- A stop command with no data is the header the FLP sends for it. -/
theorem bytes_of_stop (stop : prmsg.cmd = .stopCmd) (empty : prmsg.length = 0) :
    prmsg.bytes = stopHeader := by
  have type : prmsg.type = 202 := HalCmd.type_of_stop stop
  have size : prmsg.size = 4 + 4 := by rw [HalMsg.size, empty]; rfl
  have first : window prmsg.received 0 4 = toLE 4 202 :=
    eq_toLE_of_int32LE (window_length _ 0 4) (by decide) type
  have second : window prmsg.received 4 4 = toLE 4 0 :=
    eq_toLE_of_int32LE (window_length _ 4 4) (by decide) empty
  rw [HalMsg.bytes, size, window_append, first, second]
  rfl

theorem length_of_stop (same : prmsg.bytes = stopHeader) : prmsg.length = 0 := by
  have range := prmsg.length_range
  have size : prmsg.size = 8 := by
    have lengths := congrArg List.length same
    rwa [HalMsg.bytes, window_length] at lengths
  rw [HalMsg.size] at size
  omega

/-- What a command that fits makes of either link. -/
inductive CommandMove (s : Link) (prmsg : HalMsg) : Link → Prop
  | kept (other : prmsg.cmd = .initCmd ∨ prmsg.cmd = .geofenceInjectLoc) : CommandMove s prmsg s
  | queued (closed : s.mnldStatus ≠ .oflLinkOpenDone) {t : Link}
      (opened : t = openFirst (accept prmsg s)) :
      CommandMove s prmsg { t with queue := t.queue ++ [linkSend prmsg t] }
  | sent (opened : s.mnldStatus = .oflLinkOpenDone) :
      CommandMove s prmsg (toMnl (linkSend prmsg s) (accept prmsg s))

theorem forward_link (block : -20 ≤ prmsg.length) :
    (forward prmsg s).link = toMnl (linkSend prmsg s) s := by
  rw [forward, if_pos ((mallocSize_lt_iff prmsg).mpr block)]

theorem forward_refused (refused : ¬ -20 ≤ prmsg.length) : (forward prmsg s).link = s := by
  rw [forward, if_neg (fun block => refused ((mallocSize_lt_iff prmsg).mp block))]

theorem fits_start (start : prmsg.cmd = .startCmd ∨ prmsg.cmd = .diagInjectDataNtf) :
    CommandFits s prmsg ↔
      s.mnldStatus ≠ .oflLinkOpenDone ∧ s.queue.length < Side.flp.maxBatchingMsg := by
  rcases start with cmd | cmd <;> rw [CommandFits, cmd]

theorem fits_stop (stop : prmsg.cmd = .stopCmd) :
    CommandFits s prmsg ↔ s.mnldStatus = .oflLinkOpenDone ∧ prmsg.length = 0 := by
  rw [CommandFits, stop]

theorem fits_passed (passed : prmsg.cmd = .setOptionCmd ∨ prmsg.cmd = .requestLocNtf ∨
      prmsg.cmd = .flushLocNtf ∨ prmsg.cmd = .connScreenStatus) :
    CommandFits s prmsg ↔ s.mnldStatus = .oflLinkOpenDone ∧ -20 ≤ prmsg.length := by
  rcases passed with cmd | cmd | cmd | cmd <;> rw [CommandFits, cmd]

theorem fits_unknown (unknown : prmsg.cmd = .dcStartCmd ∨ prmsg.cmd = .dcStopCmd ∨
      prmsg.cmd = .other) : ¬ CommandFits s prmsg := by
  rcases unknown with cmd | cmd | cmd <;> rw [CommandFits, cmd] <;> exact id

theorem queueMsg_openFirst (room : s.queue.length < side.maxBatchingMsg) :
    (queueMsg side prmsg (openFirst (accept prmsg s))).link =
      { openFirst (accept prmsg s) with
        queue := (openFirst (accept prmsg s)).queue ++
          [linkSend prmsg (openFirst (accept prmsg s))] } := by
  rw [← accept_queue prmsg s, ← openFirst_queue] at room
  rw [queueMsg, if_pos room]

theorem CommandMove.halMove (offload : s.modeFlag = .offloadMode) (move : CommandMove s prmsg s') :
    HalMove side s s' := by
  cases move with
  | kept => exact .rejected
  | queued closed opened => exact .queued prmsg offload closed opened
  | sent opened => exact .sent prmsg _ rfl rfl

/-- A command that fits does the same to both links. -/
theorem CommandFits.moves (fits : CommandFits s prmsg) (offload : s.modeFlag = .offloadMode) :
    CommandMove s prmsg (mtkHal2flpMainHdlr prmsg s).link ∧
      (mtkHal2gfcMainHdlr prmsg s).link = (mtkHal2flpMainHdlr prmsg s).link := by
  cases cmdClass prmsg.cmd with
  | start start =>
      obtain ⟨closed, room⟩ := (fits_start start).mp fits
      have gfcRoom : s.queue.length < Side.gfc.maxBatchingMsg := Nat.lt_trans room (by decide)
      have heard : prmsg.cmd ≠ .initCmd ∧ prmsg.cmd ≠ .geofenceInjectLoc := by
        rcases start with cmd | cmd <;> simp [cmd]
      have screen : prmsg.cmd ≠ .connScreenStatus := by
        rcases start with cmd | cmd <;> simp [cmd]
      rw [flp_start offload start, if_pos closed, queueMsg_openFirst room, gfc_heard offload heard,
        if_neg closed, if_neg screen, queueMsg_openFirst gfcRoom]
      exact ⟨.queued closed rfl, rfl⟩
  | stop stop =>
      obtain ⟨opened, empty⟩ := (fits_stop stop).mp fits
      have message : (⟨.oflLinkSend, s.currentSession, 8, stopHeader⟩ : MnlMsg) =
          linkSend prmsg s := by
        rw [linkSend, bytes_of_stop stop empty, empty]
        rfl
      rw [flp_stop offload stop, gfc_heard offload (by simp [stop]), if_pos opened,
        forward_link (by omega), message]
      exact ⟨.sent opened, rfl⟩
  | passed passed =>
      obtain ⟨opened, block⟩ := (fits_passed passed).mp fits
      have heard : prmsg.cmd ≠ .initCmd ∧ prmsg.cmd ≠ .geofenceInjectLoc := by
        rcases passed with cmd | cmd | cmd | cmd <;> simp [cmd]
      rw [flp_passed offload passed, if_pos opened, gfc_heard offload heard, if_pos opened,
        forward_link block]
      exact ⟨.sent opened, rfl⟩
  | ignored ignored =>
      rw [flp_unheard (.inl ignored), gfc_ignored ignored]
      exact ⟨.kept ignored, rfl⟩
  | unknown unknown => exact absurd fits (fits_unknown unknown)

/-- An open request carries no command. -/
theorem tagged_openFirst
    (tagged : ∀ sent ∈ s.sent, sent.msg.type = .oflLinkSend → sent.msg.session = sent.current) :
    ∀ sent ∈ (openFirst s).sent, sent.msg.type = .oflLinkSend →
      sent.msg.session = sent.current := by
  by_cases empty : s.queue = []
  · rw [openFirst_of_empty empty]
    exact List.forall_mem_cons.mpr ⟨nofun, tagged⟩
  · rw [openFirst_of_queued empty]
    exact tagged

theorem openFirst_status (closed : s.mnldStatus ≠ .oflLinkOpenDone) :
    (openFirst s).mnldStatus ≠ .oflLinkOpenDone := by
  by_cases empty : s.queue = []
  · rw [openFirst_of_empty empty]
    exact nofun
  · rw [openFirst_of_queued empty]
    exact closed

theorem CommandMove.inv (move : CommandMove s prmsg s') (offload : s.modeFlag = .offloadMode)
    (inv : DeliveryInv s) : DeliveryInv s' := by
  have halMove : HalMove .flp s s' := move.halMove offload
  obtain ⟨sound, drains⟩ := halMove.sound inv.sound inv.delivers.drains
  cases move with
  | kept => exact inv
  | @queued closed t opened =>
      have queue : t.queue = s.queue := by
        rw [opened, openFirst_queue, accept_queue]
      have inOrder : delivered t ++ (queuedData s ++ [prmsg.bytes]) =
          commands s ++ [prmsg.bytes] := by
        rw [opened, delivered_openFirst, ← List.append_assoc]
        exact congrArg (· ++ [prmsg.bytes]) inv.delivers.inOrder
      have took : commands t = commands s ++ [prmsg.bytes] := by
        rw [opened]
        exact (openFirst_keeps _ commands rfl).trans commands_accept
      have still : t.modeFlag = .offloadMode := by
        rw [opened]
        exact (openFirst_keeps _ Link.modeFlag rfl).trans offload
      have tagged := tagged_openFirst (s := accept prmsg s) inv.delivers.tagged
      have unopened := openFirst_status (s := accept prmsg s) closed
      rw [← opened] at tagged unopened
      refine ⟨sound, ⟨?_, tagged, drains⟩, fun up => absurd up unopened,
        fun _ => sound.session still, ?_⟩
      · simp only [queuedData, List.map_append, List.map_singleton, linkSend, queue]
        exact inOrder.trans took.symm
      · intro msg inside
        rcases List.mem_append.mp inside with inside | inside
        · rw [queue] at inside
          exact inv.sends msg inside
        · rw [List.mem_singleton.mp inside]
          rfl
  | sent opened =>
      have empty := inv.opened opened
      have session : (linkSend prmsg s).session = (accept prmsg s).mnldSession :=
        inv.sound.session offload
      have inOrder := inv.delivers.inOrder
      rw [queuedData, empty, List.map_nil, List.append_nil] at inOrder
      refine ⟨sound, ⟨?_, ?_, drains⟩, fun _ => empty, fun queued => absurd empty queued, inv.sends⟩
      · rw [delivered_toMnl rfl session, queuedData, toMnl_queue]
        show _ ++ s.queue.map _ = commands (accept prmsg s)
        have same : delivered (accept prmsg s) = delivered s := rfl
        rw [empty, List.map_nil, List.append_nil, commands_accept, ← inOrder, linkSend, same]
      · exact List.forall_mem_cons.mpr ⟨fun _ => rfl, inv.delivers.tagged⟩

/-- A full queue drops the command. -/
theorem queueMsg_drops (full : ¬ s.queue.length < side.maxBatchingMsg) :
    (queueMsg side prmsg (openFirst (accept prmsg s))).link = accept prmsg s := by
  have queued : (accept prmsg s).queue ≠ [] := Side.queued_of_full full
  rw [openFirst_of_queued queued]
  exact congrArg Effect.link (if_neg full)

/-- A queue delivers nothing yet. -/
theorem queueMsg_delivered :
    delivered (queueMsg side prmsg (openFirst (accept prmsg s))).link = delivered s := by
  by_cases room : s.queue.length < side.maxBatchingMsg
  · rw [queueMsg_openFirst room]
    exact delivered_openFirst
  · rw [queueMsg_drops room]
    rfl

/-- A stop that the FLP sends at once and the geofence keeps, or that the FLP replaces. -/
theorem stop_parts (inv : DeliveryInv s) (offload : s.modeFlag = .offloadMode)
    (stop : prmsg.cmd = .stopCmd) (missed : ¬ CommandFits s prmsg) :
    ¬ DeliversAlike (mtkHal2flpMainHdlr prmsg s).link (mtkHal2gfcMainHdlr prmsg s).link := by
  intro alike
  have session : s.currentSession = (accept prmsg s).mnldSession := inv.sound.session offload
  have sent : delivered (mtkHal2flpMainHdlr prmsg s).link = delivered s ++ [stopHeader] := by
    rw [flp_stop offload stop, delivered_toMnl rfl session]
    rfl
  by_cases opened : s.mnldStatus = .oflLinkOpenDone
  · have inOrder := alike.flpDelivers.inOrder
    have before := inv.delivers.inOrder
    have empty := inv.opened opened
    have kept : queuedData (mtkHal2flpMainHdlr prmsg s).link = [] := by
      rw [flp_stop offload stop, queuedData, toMnl_queue]
      show s.queue.map _ = []
      rw [empty, List.map_nil]
    have took : commands (mtkHal2flpMainHdlr prmsg s).link = commands s ++ [prmsg.bytes] := by
      rw [flp_stop offload stop]
      exact commands_accept
    rw [queuedData, empty, List.map_nil, List.append_nil] at before
    rw [sent, kept, took, List.append_nil, before] at inOrder
    have same : stopHeader = prmsg.bytes := List.singleton_inj.mp (List.append_cancel_left inOrder)
    exact missed ((fits_stop stop).mpr ⟨opened, length_of_stop same.symm⟩)
  · have same := alike.sameDelivered
    rw [sent, gfc_heard offload (by simp [stop]), if_neg opened, if_neg (by simp [stop]),
      queueMsg_delivered] at same
    simp at same

/-- A command that the FLP does not know reaches the daemon, or its queue, by the
geofence alone. -/
theorem unknown_parts (inv : DeliveryInv s) (offload : s.modeFlag = .offloadMode)
    (unknown : prmsg.cmd = .dcStartCmd ∨ prmsg.cmd = .dcStopCmd ∨ prmsg.cmd = .other) :
    ¬ DeliversAlike (mtkHal2flpMainHdlr prmsg s).link (mtkHal2gfcMainHdlr prmsg s).link := by
  intro alike
  have heard : prmsg.cmd ≠ .initCmd ∧ prmsg.cmd ≠ .geofenceInjectLoc := by
    rcases unknown with cmd | cmd | cmd <;> simp [cmd]
  have screen : prmsg.cmd ≠ .connScreenStatus := by
    rcases unknown with cmd | cmd | cmd <;> simp [cmd]
  have gfc := congrArg Effect.link (gfc_heard offload heard)
  rw [if_neg screen] at gfc
  rw [flp_unheard (.inr unknown)] at alike
  by_cases opened : s.mnldStatus = .oflLinkOpenDone
  · rw [if_pos opened] at gfc
    by_cases block : -20 ≤ prmsg.length
    · rw [forward_link block] at gfc
      have session : (linkSend prmsg (accept prmsg s)).session = (accept prmsg s).mnldSession :=
        inv.sound.session offload
      have same := alike.sameDelivered
      rw [gfc, delivered_toMnl rfl session] at same
      have lengths := congrArg List.length same
      rw [List.length_append] at lengths
      simp [delivered] at lengths
    · rw [forward_refused block] at gfc
      have kept := alike.gfcDelivers
      rw [gfc] at kept
      exact accept_loses inv.delivers kept
  · rw [if_neg opened] at gfc
    by_cases room : s.queue.length < Side.gfc.maxBatchingMsg
    · have same := alike.sameQueued
      rw [gfc, queueMsg_openFirst room, queuedData, queuedData, List.map_append,
        openFirst_queue] at same
      have lengths := congrArg List.length same
      simp at lengths
    · rw [queueMsg_drops room] at gfc
      have kept := alike.gfcDelivers
      rw [gfc] at kept
      exact accept_loses inv.delivers kept

/-- A command that does not fit leaves the two interfaces wrong or different. -/
theorem misfit_parts (inv : DeliveryInv s) (offload : s.modeFlag = .offloadMode)
    (missed : ¬ CommandFits s prmsg) :
    ¬ DeliversAlike (mtkHal2flpMainHdlr prmsg s).link (mtkHal2gfcMainHdlr prmsg s).link := by
  have loses : (mtkHal2flpMainHdlr prmsg s).link = accept prmsg s →
      ¬ DeliversAlike (mtkHal2flpMainHdlr prmsg s).link (mtkHal2gfcMainHdlr prmsg s).link := by
    intro dropped alike
    have kept := alike.flpDelivers
    rw [dropped] at kept
    exact accept_loses inv.delivers kept
  cases cmdClass prmsg.cmd with
  | start start =>
      apply loses
      rw [flp_start offload start]
      by_cases opened : s.mnldStatus = .oflLinkOpenDone
      · rw [if_neg fun closed => closed opened]
      · rw [if_pos opened]
        exact queueMsg_drops fun room => missed ((fits_start start).mpr ⟨opened, room⟩)
  | stop stop => exact stop_parts inv offload stop missed
  | passed passed =>
      apply loses
      rw [flp_passed offload passed]
      by_cases opened : s.mnldStatus = .oflLinkOpenDone
      · rw [if_pos opened]
        exact forward_refused fun block => missed ((fits_passed passed).mpr ⟨opened, block⟩)
      · rw [if_neg opened]
  | ignored ignored =>
      refine absurd ?_ missed
      rcases ignored with cmd | cmd <;> rw [CommandFits, cmd] <;> trivial
  | unknown unknown => exact unknown_parts inv offload unknown

theorem step_command {datagram : List UInt8} (received : receive datagram = some prmsg)
    (taken : step side s (.hal datagram) = some s') : s' = (mainHdlr side prmsg s).link := by
  simp only [step, received] at taken
  exact (outcome_link taken).symm

theorem step_nothing {datagram : List UInt8} (nothing : receive datagram = none)
    (taken : step side s (.hal datagram) = some s') : s' = s := by
  simp only [step, nothing] at taken
  exact (Option.some.inj taken).symm

/-- Requests that carry no command change nothing for the commands. -/
theorem Delivers.frame (delivers : Delivers s) (drains : Drains s') (queue : s'.queue = s.queue)
    (accepted : s'.accepted = s.accepted)
    (log : s'.sent = s.sent ∨
      ∃ header : Sent, header.msg.type ≠ .oflLinkSend ∧ s'.sent = header :: s.sent) :
    Delivers s' := by
  have same : delivered s' = delivered s := by
    rw [delivered, delivered]
    rcases log with log | ⟨header, other, log⟩
    · rw [log]
    · rw [log, List.filter_cons_of_neg (by simp [Sent.delivers, other])]
  refine ⟨?_, ?_, drains⟩
  · rw [same, queuedData, queue, commands, accepted]
    exact delivers.inOrder
  · rcases log with log | ⟨header, other, log⟩
    · rw [log]
      exact delivers.tagged
    · rw [log]
      exact List.forall_mem_cons.mpr ⟨fun send => absurd send other, delivers.tagged⟩

theorem step_rewritten_log (rewrites : input.rewritesStatus = true)
    (taken : step side s input = some s') :
    s'.accepted = s.accepted ∧ (s'.sent = s.sent ∨
      ∃ header : Sent, header.msg.type ≠ .oflLinkSend ∧ s'.sent = header :: s.sent) := by
  cases input with
  | hal | sessionUpdate | oflLinkOpenDone => cases rewrites
  | dcStart | dcStop | halStopRsp =>
      cases taken
      refine ⟨rfl, .inr ⟨_, ?_, rfl⟩⟩
      exact nofun
  | bootup | hbdGpsOpenDone | hbdGpsCloseDone | oflLinkCloseDone =>
      cases taken
      exact ⟨rfl, .inl rfl⟩

/-- A flush delivers the whole queue, in its order. -/
theorem delivered_flush (inv : DeliveryInv s)
    (tags : ∀ msg ∈ s.queue, msg.session = s.currentSession) :
    delivered (flush s) = delivered s ++ queuedData s := by
  have taken : ∀ sent ∈ (s.queue.map s.send).reverse, sent.delivers = true := by
    intro sent inside
    rw [List.mem_reverse, List.mem_map] at inside
    obtain ⟨msg, queued, rfl⟩ := inside
    have session : msg.session = s.mnldSession :=
      (tags msg queued).trans (inv.joined (List.ne_nil_of_mem queued))
    simp [Sent.delivers, Link.send, inv.sends msg queued, session]
  rw [flush_eq, delivered, List.filter_append, List.filter_eq_self.mpr taken, List.map_append,
    List.reverse_append, List.map_reverse, List.reverse_reverse, List.map_map]
  rfl

theorem tagged_flush (inv : DeliveryInv s)
    (tags : ∀ msg ∈ s.queue, msg.session = s.currentSession) :
    ∀ sent ∈ (flush s).sent, sent.msg.type = .oflLinkSend → sent.msg.session = sent.current := by
  intro sent inside send
  rw [flush_eq] at inside
  rcases List.mem_append.mp inside with inside | inside
  · rw [List.mem_reverse, List.mem_map] at inside
    obtain ⟨msg, queued, rfl⟩ := inside
    exact tags msg queued
  · exact inv.delivers.tagged sent inside send

/-- A stale message in the queue is sent under a session that is no longer current. -/
theorem flush_stale (inv : DeliveryInv s) {msg : MnlMsg} (queued : msg ∈ s.queue)
    (stale : msg.session ≠ s.currentSession) : ¬ Delivers (flush s) := by
  intro delivers
  have inside : s.send msg ∈ (flush s).sent := by
    rw [flush_eq]
    exact List.mem_append_left _ (List.mem_reverse.mpr (List.mem_map_of_mem queued))
  exact stale (delivers.tagged (s.send msg) inside (inv.sends msg queued))

theorem flush_inv (inv : DeliveryInv s)
    (tags : ∀ msg ∈ s.queue, msg.session = s.currentSession) (sound : LinkSound (flush s))
    (drains : Drains (flush s)) : DeliveryInv (flush s) := by
  have cleared : (flush s).queue = [] := rfl
  refine ⟨sound, ⟨?_, tagged_flush inv tags, drains⟩, fun _ => cleared, ?_, ?_⟩
  · have waiting : queuedData (flush s) = [] := rfl
    rw [delivered_flush inv tags, waiting, List.append_nil, inv.delivers.inOrder,
        commands, flush_eq]
    rfl
  · exact fun queued => absurd cleared queued
  · rw [cleared]
    exact nofun

/-- What the daemon and the controllers do to one link. -/
theorem step_mnld_inv (inv : DeliveryInv s) (status : RewritesEmpty s input)
    (tags : input = .oflLinkOpenDone → s.mnldStatus = .oflLinkOpen →
      ∀ msg ∈ s.queue, msg.session = s.currentSession)
    (event : ∀ datagram, input ≠ .hal datagram) (taken : step side s input = some s') :
    DeliveryInv s' := by
  obtain ⟨sound, drains⟩ := step_drains inv.sound inv.delivers.drains status taken
  by_cases rewrites : input.rewritesStatus = true
  · have queue := (step_rewritten rewrites taken).queue
    have empty : s'.queue = [] := queue.trans (status rewrites)
    obtain ⟨accepted, log⟩ := step_rewritten_log rewrites taken
    refine ⟨sound, inv.delivers.frame drains queue accepted log, fun _ => empty,
      fun queued => absurd empty queued, ?_⟩
    rw [empty]
    exact nofun
  · cases input with
    | hal datagram => exact absurd rfl (event datagram)
    | sessionUpdate id support =>
        cases taken
        simp only [mnl2linkHdlr] at sound drains ⊢
        refine ⟨sound, inv.delivers.frame drains (by simp) (by simp) (.inl (by simp)), ?_, ?_, ?_⟩
        · simpa using inv.opened
        · simp
        · simpa using inv.sends
    | oflLinkOpenDone =>
        cases taken
        simp only [mnl2linkHdlr] at sound drains ⊢
        by_cases opening : s.mnldStatus = .oflLinkOpen
        · rw [if_pos opening] at sound drains ⊢
          exact flush_inv inv (tags rfl opening) sound drains
        · rw [if_neg opening]
          exact inv
    | dcStart | dcStop | bootup | hbdGpsOpenDone | hbdGpsCloseDone | oflLinkCloseDone
    | halStopRsp => exact absurd rfl rewrites

/-- The two interfaces differ in what they do with the HAL's commands alone. -/
theorem step_mnld_alike (event : ∀ datagram, input ≠ .hal datagram) :
    step .flp s input = step .gfc s input := by
  cases input with
  | hal datagram => exact absurd rfl (event datagram)
  | _ => rfl

/-- Both links are one, and it is sound. -/
def PairInv (pair : Link × Link) : Prop := pair.2 = pair.1 ∧ DeliveryInv pair.1

theorem pairStep_some {pair pair' : Link × Link} (taken : pairStep pair input = some pair') :
    step .flp pair.1 input = some pair'.1 ∧ step .gfc pair.2 input = some pair'.2 := by
  obtain ⟨flp, flpStep, taken⟩ := Option.bind_eq_some_iff.mp taken
  obtain ⟨gfc, gfcStep, same⟩ := Option.map_eq_some_iff.mp taken
  rw [← same]
  exact ⟨flpStep, gfcStep⟩

theorem PairInv.alike {pair : Link × Link} (inv : PairInv pair) : DeliversAlike pair.1 pair.2 := by
  rw [inv.1]
  exact ⟨inv.2.delivers, inv.2.delivers, rfl, rfl⟩

theorem pairStep_inv {pair pair' : Link × Link} (inv : PairInv pair)
    (condition : DeliveryStep pair input) (taken : pairStep pair input = some pair') :
    PairInv pair' := by
  obtain ⟨flpStep, gfcStep⟩ := pairStep_some taken
  rw [inv.1] at gfcStep
  by_cases command : ∃ datagram, input = .hal datagram
  · obtain ⟨datagram, rfl⟩ := command
    cases received : receive datagram with
    | none =>
        rw [PairInv, step_nothing received flpStep, step_nothing received gfcStep]
        exact ⟨rfl, inv.2⟩
    | some prmsg =>
        rw [PairInv, step_command received flpStep, step_command received gfcStep]
        by_cases offload : pair.1.modeFlag = .offloadMode
        · have fits := condition.command offload datagram prmsg rfl received
          obtain ⟨move, same⟩ := fits.moves offload
          exact ⟨same, move.inv offload inv.2⟩
        · rw [mainHdlr_ap offload, mainHdlr_ap offload]
          exact ⟨rfl, inv.2⟩
  · have event : ∀ datagram, input ≠ .hal datagram :=
      fun datagram same => command ⟨datagram, same⟩
    rw [step_mnld_alike event] at flpStep
    refine ⟨Option.some.inj (gfcStep.symm.trans flpStep), ?_⟩
    exact step_mnld_inv inv.2 condition.status condition.tags event flpStep

/-- A step that misses the condition leaves a link wrong or the two different. -/
theorem pairStep_broken {pair pair' : Link × Link} (inv : PairInv pair)
    (missed : ¬ DeliveryStep pair input) (taken : pairStep pair input = some pair') :
    ¬ DeliversAlike pair'.1 pair'.2 := by
  obtain ⟨flpStep, gfcStep⟩ := pairStep_some taken
  rw [inv.1] at gfcStep
  intro alike
  apply missed
  refine ⟨?_, ?_, ?_⟩
  · intro offload datagram prmsg hal received
    subst hal
    rw [step_command received flpStep, step_command received gfcStep] at alike
    exact Classical.byContradiction fun misfit => misfit_parts inv.2 offload misfit alike
  · exact Classical.byContradiction fun rewritten =>
      rewritten_stuck rewritten flpStep alike.flpDelivers.drains
  · intro done opening msg queued
    subst done
    have flushed : flush pair.1 = pair'.1 := by
      simp only [step, mnl2linkHdlr, if_pos opening] at flpStep
      exact Option.some.inj flpStep
    have delivers := alike.flpDelivers
    rw [← flushed] at delivers
    exact Classical.byContradiction fun stale => flush_stale inv.2 queued stale delivers

/-- Along a run of both interfaces under one sequence of events every accepted command is
delivered once, in order and under the session of its time, and by both alike, exactly
when every step is one the FLP handles as the geofence does. -/
theorem deliveredOnce_iff (inputs : List Input) :
    AllStates pairStep (fun pair => DeliversAlike pair.1 pair.2) (Link.initial, Link.initial)
        inputs ↔
      StepsMeet pairStep DeliveryStep (Link.initial, Link.initial) inputs := by
  apply @allStates_iff_stepsMeet _ _ _ PairInv
  · intro pair input pair' inv condition taken
    exact pairStep_inv inv condition taken
  · exact fun pair inv => inv.alike
  · exact fun pair input pair' inv missed taken => pairStep_broken inv missed taken
  · refine ⟨rfl, ⟨⟨nofun, nofun⟩, ⟨rfl, nofun, fun queued => absurd rfl queued⟩, ?_, ?_, ?_⟩⟩
    · exact nofun
    · exact fun queued => absurd rfl queued
    · exact nofun

/-- A second start while the link is open: the geofence sends it, the FLP drops it. -/
theorem start_lost :
    ∃ flp gfc, exec pairStep (Link.initial, Link.initial)
        [.sessionUpdate 1 3, .hal [8, 0, 0, 0, 201, 0, 0, 0, 0, 0, 0, 0], .oflLinkOpenDone,
          .hal [8, 0, 0, 0, 201, 0, 0, 0, 0, 0, 0, 0]] = some (flp, gfc) ∧
      flp.accepted.length = 2 ∧ flp.queue = [] ∧ (delivered flp).length = 1 ∧
      (delivered gfc).length = 2 ∧ ¬ DeliversAlike flp gfc := by
  refine ⟨_, _, rfl, rfl, rfl, rfl, rfl, ?_⟩
  intro alike
  have lengths := congrArg List.length alike.sameDelivered
  exact absurd lengths (by decide)

end Connectivity.Offload
