import Connectivity.Offload.Handlers
import Connectivity.Transition.Run

set_option autoImplicit false

namespace Connectivity.Offload

open Transition

variable {side : Side} {s s' : Link} {input : Input}

/-- The latest request to the daemon that carries no command. -/
def lastRequest (s : Link) : Option Sent := s.sent.find? fun sent => sent.msg.type ≠ .oflLinkSend

/-- That request is an open the daemon took, and no end of an open came after it. -/
def OpenOutstanding (s : Link) : Prop :=
  s.mnldStatus = .oflLinkOpen ∧
    ∃ sent, lastRequest s = some sent ∧ sent.msg.type = .oflLinkOpen ∧ sent.taken = true

/-- What is queued waits for the end of an open. -/
def Drains (s : Link) : Prop := s.queue ≠ [] → OpenOutstanding s

/-- The inputs that give the link another status without a look at the queue. -/
def Input.rewritesStatus : Input → Bool
  | .dcStart | .dcStop | .bootup | .hbdGpsOpenDone | .hbdGpsCloseDone | .oflLinkCloseDone
  | .halStopRsp => true
  | .hal _ | .sessionUpdate _ _ | .oflLinkOpenDone => false

/-- A new status finds the queue empty. -/
def RewritesEmpty (s : Link) (input : Input) : Prop := input.rewritesStatus = true → s.queue = []

/-- What an input that rewrites the status leaves alone. -/
structure Rewritten (s s' : Link) : Prop where
  status : s'.mnldStatus ≠ .oflLinkOpen
  queue : s'.queue = s.queue
  modeFlag : s'.modeFlag = s.modeFlag
  currentSession : s'.currentSession = s.currentSession
  mnldSession : s'.mnldSession = s.mnldSession

theorem step_rewritten (rewrites : input.rewritesStatus = true)
    (taken : step side s input = some s') : Rewritten s s' := by
  cases input with
  | hal | sessionUpdate | oflLinkOpenDone => cases rewrites
  | dcStart | dcStop | bootup | hbdGpsOpenDone | hbdGpsCloseDone | oflLinkCloseDone | halStopRsp =>
      cases taken
      exact ⟨nofun, rfl, rfl, rfl, rfl⟩

/-- What every step keeps: in the offload mode the link has the daemon's session, and in
the status of an open the open is outstanding. -/
structure LinkSound (s : Link) : Prop where
  session : s.modeFlag = .offloadMode → s.currentSession = s.mnldSession
  opening : s.mnldStatus = .oflLinkOpen → OpenOutstanding s

theorem toMnl_lastRequest {msg : MnlMsg} (send : msg.type = .oflLinkSend) :
    lastRequest (toMnl msg s) = lastRequest s := by
  rw [lastRequest, toMnl_sent, List.find?_cons_of_neg]
  · rfl
  · simp [send]

theorem OpenOutstanding.frame {t : Link} (outstanding : OpenOutstanding s)
    (status : t.mnldStatus = s.mnldStatus) (last : lastRequest t = lastRequest s) :
    OpenOutstanding t := by
  rw [OpenOutstanding, status, last]
  exact outstanding

/-- An open that the daemon takes is outstanding. -/
theorem openLink_outstanding (session : s.currentSession = s.mnldSession) :
    OpenOutstanding (openLink s) :=
  ⟨rfl, _, rfl, rfl, beq_iff_eq.mpr session⟩

theorem HalMove.sound (move : HalMove side s s') (sound : LinkSound s) (drains : Drains s) :
    LinkSound s' ∧ Drains s' := by
  cases move with
  | rejected => exact ⟨sound, drains⟩
  | dropped prmsg => exact ⟨⟨sound.session, sound.opening⟩, drains⟩
  | @queued prmsg offload closed t opened =>
      have outstanding : OpenOutstanding t := by
        subst opened
        by_cases empty : (accept prmsg s).queue = []
        · rw [openFirst_of_empty empty]
          exact openLink_outstanding (sound.session offload)
        · rw [openFirst_of_queued empty]
          exact drains empty
      have session : t.currentSession = t.mnldSession := by
        rw [opened, openFirst_keeps _ Link.currentSession rfl,
            openFirst_keeps _ Link.mnldSession rfl]
        exact sound.session offload
      exact ⟨⟨fun _ => session, fun _ => outstanding⟩, fun _ => outstanding⟩
  | sent prmsg msg send session =>
      have kept : OpenOutstanding s → OpenOutstanding (toMnl msg (accept prmsg s)) :=
        fun outstanding => outstanding.frame rfl (toMnl_lastRequest send)
      exact ⟨⟨sound.session, fun opening => kept (sound.opening opening)⟩,
        fun queued => kept (drains queued)⟩

theorem step_drains (sound : LinkSound s) (drains : Drains s) (condition : RewritesEmpty s input)
    (taken : step side s input = some s') : LinkSound s' ∧ Drains s' := by
  by_cases rewrites : input.rewritesStatus = true
  · have rewritten := step_rewritten rewrites taken
    refine ⟨⟨?_, fun opening => absurd opening rewritten.status⟩, fun queued => ?_⟩
    · rw [rewritten.modeFlag, rewritten.currentSession, rewritten.mnldSession]
      exact sound.session
    · rw [rewritten.queue] at queued
      exact absurd (condition rewrites) queued
  · cases input with
    | hal datagram => exact (hal_move taken).sound sound drains
    | sessionUpdate id support =>
        cases taken
        have last : lastRequest (sessionUpdate id support s) = lastRequest s := by
          rw [lastRequest, sessionUpdate_sent]
          rfl
        have kept : OpenOutstanding s → OpenOutstanding (sessionUpdate id support s) :=
          fun outstanding => outstanding.frame (sessionUpdate_mnldStatus s id support) last
        refine ⟨⟨fun _ => ?_, fun opening => kept (sound.opening ?_)⟩,
            fun queued => kept (drains ?_)⟩
        · exact (sessionUpdate_currentSession s id support).trans
            (sessionUpdate_mnldSession s id support).symm
        · exact (sessionUpdate_mnldStatus s id support).symm.trans opening
        · exact fun empty => queued ((sessionUpdate_queue s id support).trans empty)
    | oflLinkOpenDone =>
        cases taken
        simp only [mnl2linkHdlr]
        split
        · rw [flush_eq]
          exact ⟨⟨sound.session, nofun⟩, fun queued => absurd rfl queued⟩
        · exact ⟨sound, drains⟩
    | dcStart | dcStop | bootup | hbdGpsOpenDone | hbdGpsCloseDone | oflLinkCloseDone
    | halStopRsp => exact absurd rfl rewrites

/-- A queue that holds messages across a new status waits for nothing. -/
theorem rewritten_stuck (missed : ¬ RewritesEmpty s input)
    (taken : step side s input = some s') : ¬ Drains s' := by
  obtain ⟨rewrites, queued⟩ := Classical.not_imp.mp missed
  have rewritten := step_rewritten rewrites taken
  intro drains
  have outstanding := drains (by rwa [rewritten.queue])
  exact rewritten.status outstanding.1

/-- Along a run of either interface no queue is ever stuck exactly when every new status
finds the queue empty. -/
theorem queueDrains_iff (side : Side) (inputs : List Input) :
    AllStates (step side) Drains Link.initial inputs ↔
      StepsMeet (step side) RewritesEmpty Link.initial inputs := by
  apply @allStates_iff_stepsMeet _ _ _ fun s => LinkSound s ∧ Drains s
  · intro s input s' before condition taken
    exact step_drains before.1 before.2 condition taken
  · exact fun s sound => sound.2
  · exact fun s input s' before missed taken => rewritten_stuck missed taken
  · exact ⟨⟨nofun, nofun⟩, fun queued => absurd rfl queued⟩

/-- The daemon restarts between an open and its end. -/
def restartDuringOpen : List Input :=
  [.sessionUpdate 1 3, .hal [8, 0, 0, 0, 201, 0, 0, 0, 0, 0, 0, 0], .sessionUpdate 1 3, .bootup,
    .oflLinkOpenDone, .hal [8, 0, 0, 0, 201, 0, 0, 0, 0, 0, 0, 0]]

/-- The command stays queued, and so does every later one. -/
theorem queue_stuck :
    (∃ s, exec (step .flp) Link.initial restartDuringOpen = some s ∧
      s.queue.length = 2 ∧ s.mnldStatus = .attachDone ∧ ¬ Drains s) ∧
    (∃ s, exec (step .gfc) Link.initial restartDuringOpen = some s ∧
      s.queue.length = 2 ∧ s.mnldStatus = .attachDone ∧ ¬ Drains s) := by
  have stuck : ∀ t : Link, t.queue ≠ [] → t.mnldStatus = .attachDone → ¬ Drains t := by
    intro t queued status drains
    have opening := (drains queued).1
    rw [status] at opening
    cases opening
  exact ⟨⟨_, rfl, rfl, rfl, stuck _ nofun rfl⟩, ⟨_, rfl, rfl, rfl, stuck _ nofun rfl⟩⟩

end Connectivity.Offload
