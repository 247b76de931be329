import Connectivity.Transition.Run

set_option autoImplicit false

/- The launcher's descriptor of the serial port, which the driver has opened, closed, reset and set
to a baud rate as it pleases. -/
namespace Connectivity.Launcher

open Transition

/-- `STP_UART_FULL`. -/
def stpUartFull : Int := 1

/-- The global descriptor, the descriptors of the port that are open, and whether a call has been
given one that is not. -/
structure Tty where
  gTtyFd : Int
  opened : List Int
  misused : Bool
  deriving DecidableEq, Repr

/-- What comes of the calls of an open: the descriptor, the line discipline, the protocol. -/
structure OpenOutcome where
  fd : Option Nat
  setDiscipline : Bool
  setProto : Bool
  deriving DecidableEq, Repr

/-- What comes of the calls that set the parameters of the port. -/
structure UartOutcome where
  getAttr : Bool
  setAttr : Bool
  setSpeed : Bool
  deriving DecidableEq, Repr

namespace Tty

variable (stpMode : Int) (s : Tty)

/-- A call with the global descriptor. -/
def call : Tty := { s with misused := s.misused || decide (s.gTtyFd ∉ s.opened) }

/-- `cmd_hdr_stp_open`, undefined when a descriptor is given out that is open. -/
def cmdHdrStpOpen (outcome : OpenOutcome) : Option (Tty × Int) :=
  if stpMode = stpUartFull ∧ s.gTtyFd = -1 then
    match outcome.fd with
    | none => some ({ s with gTtyFd := -1 }, -2)
    | some fd =>
        if (fd : Int) ∈ s.opened then none
        else
          let disciplined := ({ s with gTtyFd := fd, opened := s.opened ++ [(fd : Int)] } : Tty).call
          if outcome.setDiscipline = false then some (disciplined, -3)
          else if outcome.setProto = false then some (disciplined.call, -4)
          else some (disciplined.call, 0)
  else some (s, -1)

/-- `cmd_hdr_stp_close`, with whether the line discipline can be restored. -/
def cmdHdrStpClose (restored : Bool) : Tty × Int :=
  if stpMode = stpUartFull ∧ 0 ≤ s.gTtyFd then
    if restored = false then (s.call, -2)
    else ({ s.call.call with gTtyFd := -1, opened := s.opened.erase s.gTtyFd }, 0)
  else if s.gTtyFd = -1 then (s, 0)
  else (s, -1)

/-- `cmd_hdr_stp_rst`. -/
def cmdHdrStpRst (restored : Bool) (outcome : OpenOutcome) : Option (Tty × Int) :=
  (s.cmdHdrStpClose stpMode restored).1.cmdHdrStpOpen stpMode outcome

/-- `launcher_setup_uart_param` on the global descriptor. -/
def launcherSetupUartParam (outcome : UartOutcome) : Tty × Int :=
  if s.gTtyFd < 0 then (s, -2)
  else if outcome.getAttr = false then (s.call, -3)
  else if outcome.setAttr = false then (s.call, -4)
  else if outcome.setSpeed = false then (s.call, -5)
  else (s.call, 0)

/-- The handlers for the baud rates. -/
def cmdHdrBaud (outcome : UartOutcome) : Tty × Int :=
  if s.gTtyFd ≠ -1 then s.launcherSetupUartParam outcome else (s, -1)

end Tty

/-- The commands that have to do with the port, with what comes of their calls. -/
inductive TtyCommand
  | stpOpen (outcome : OpenOutcome)
  | stpClose (restored : Bool)
  | stpRst (restored : Bool) (outcome : OpenOutcome)
  | baud (outcome : UartOutcome)
  deriving DecidableEq, Repr

def ttyStep (stpMode : Int) (s : Tty) : TtyCommand → Option Tty
  | .stpOpen outcome => (s.cmdHdrStpOpen stpMode outcome).map Prod.fst
  | .stpClose restored => some (s.cmdHdrStpClose stpMode restored).1
  | .stpRst restored outcome => (s.cmdHdrStpRst stpMode restored outcome).map Prod.fst
  | .baud outcome => some (s.cmdHdrBaud outcome).1

namespace Tty

/-- The descriptor is marked invalid and none is open. -/
def Closed (s : Tty) : Prop := s.gTtyFd = -1 ∧ s.opened = []

/-- The descriptor is open and no other one is. -/
def Opened (s : Tty) : Prop := 0 ≤ s.gTtyFd ∧ s.opened = [s.gTtyFd]

/-- No descriptor has leaked, and none has been used that was not open. -/
structure Sound (s : Tty) : Prop where
  recorded : s.Closed ∨ s.Opened
  unharmed : s.misused = false

/-- A failure to open the port leaves no descriptor, a refusal leaves things as they were, and a
success the one descriptor open. -/
def OpensWell (stpMode : Int) (s : Tty) : Prop :=
  ∀ outcome t ret, s.cmdHdrStpOpen stpMode outcome = some (t, ret) →
    (ret = -1 → t = s) ∧ (ret = -2 → t.Closed) ∧ (ret = 0 → t.Opened)

/-- Whenever an open fails, the descriptor is closed and marked invalid. -/
def ClosedOnFailure (stpMode : Int) (s : Tty) : Prop :=
  ∀ outcome t ret, s.cmdHdrStpOpen stpMode outcome = some (t, ret) → ret ≠ 0 → t.Closed

variable {stpMode : Int} {s t : Tty} {ret : Int} {outcome : OpenOutcome}

/-- A call is harmless where the descriptor is open. -/
theorem call_opened (opened : s.Opened) : s.call = s := by
  have inside : decide (s.gTtyFd ∉ s.opened) = false := by
    rw [opened.2, decide_eq_false_iff_not, not_not]
    exact List.mem_cons_self
  rw [call, inside, Bool.or_false]

/-- What an open can do: it is refused, it finds no port, or it has one. -/
theorem open_cases (sound : s.Sound) (run : s.cmdHdrStpOpen stpMode outcome = some (t, ret)) :
    (t = s ∧ ret = -1) ∨ (t = s ∧ s.Closed ∧ ret = -2) ∨
      (t.Opened ∧ t.misused = false ∧ (ret = 0 ∨ ret = -3 ∨ ret = -4)) := by
  rw [cmdHdrStpOpen] at run
  by_cases free : stpMode = stpUartFull ∧ s.gTtyFd = -1
  · have closed : s.Closed := sound.recorded.resolve_right fun opened => by
      have low := opened.1
      omega
    rw [if_pos free] at run
    cases given : outcome.fd with
    | none =>
        rw [given] at run
        cases run
        refine .inr (.inl ⟨?_, closed, rfl⟩)
        rw [← free.2]
    | some fd =>
        rw [given] at run
        have fresh : ¬ (fd : Int) ∈ s.opened := by
          rw [closed.2]
          exact List.not_mem_nil
        have opened : ({ s with gTtyFd := fd, opened := s.opened ++ [(fd : Int)] } : Tty).Opened := by
          refine ⟨Int.natCast_nonneg fd, ?_⟩
          show s.opened ++ [(fd : Int)] = [(fd : Int)]
          rw [closed.2]
          rfl
        simp only [if_neg fresh, call_opened opened] at run
        right
        right
        split at run
        · cases run
          exact ⟨opened, sound.unharmed, .inr (.inl rfl)⟩
        · split at run
          · cases run
            exact ⟨opened, sound.unharmed, .inr (.inr rfl)⟩
          · cases run
            exact ⟨opened, sound.unharmed, .inl rfl⟩
  · rw [if_neg free] at run
    cases run
    exact .inl ⟨rfl, rfl⟩

theorem open_sound (sound : s.Sound) (run : s.cmdHdrStpOpen stpMode outcome = some (t, ret)) :
    t.Sound := by
  rcases open_cases sound run with ⟨same, _⟩ | ⟨same, _, _⟩ | ⟨opened, unharmed, _⟩
  · rw [same]
    exact sound
  · rw [same]
    exact sound
  · exact ⟨.inr opened, unharmed⟩

theorem open_opensWell (sound : s.Sound) : s.OpensWell stpMode := by
  intro outcome t ret run
  rcases open_cases sound run with ⟨same, rfl⟩ | ⟨same, closed, rfl⟩ | ⟨opened, _, value⟩
  · exact ⟨fun _ => same, fun other => absurd other (by decide), fun other => absurd other (by decide)⟩
  · exact ⟨fun other => absurd other (by decide), fun _ => same ▸ closed,
      fun other => absurd other (by decide)⟩
  · refine ⟨fun other => ?_, fun other => ?_, fun _ => opened⟩
    · omega
    · omega

theorem close_sound (sound : s.Sound) (restored : Bool) :
    (s.cmdHdrStpClose stpMode restored).1.Sound := by
  rw [cmdHdrStpClose]
  by_cases held : stpMode = stpUartFull ∧ 0 ≤ s.gTtyFd
  · have opened : s.Opened := sound.recorded.resolve_left fun closed => by
      have invalid := closed.1
      omega
    rw [if_pos held]
    simp only [call_opened opened]
    split
    · exact sound
    · refine ⟨.inl ⟨rfl, ?_⟩, sound.unharmed⟩
      show s.opened.erase s.gTtyFd = []
      rw [opened.2, List.erase_cons_head]
  · rw [if_neg held]
    split
    · exact sound
    · exact sound

theorem baud_sound (sound : s.Sound) (outcome : UartOutcome) : (s.cmdHdrBaud outcome).1.Sound := by
  rw [cmdHdrBaud]
  split
  next valid =>
    have opened : s.Opened := sound.recorded.resolve_left fun closed => valid closed.1
    rw [launcherSetupUartParam, call_opened opened]
    repeat' split
    all_goals exact sound
  next => exact sound

theorem ttyStep_sound {command : TtyCommand} (sound : s.Sound)
    (taken : ttyStep stpMode s command = some t) : t.Sound := by
  cases command with
  | stpOpen outcome =>
      obtain ⟨⟨after, ret⟩, run, rfl⟩ := Option.map_eq_some_iff.mp taken
      exact open_sound sound run
  | stpClose restored =>
      cases taken
      exact close_sound sound restored
  | stpRst restored outcome =>
      obtain ⟨⟨after, ret⟩, run, rfl⟩ := Option.map_eq_some_iff.mp taken
      exact open_sound (close_sound sound restored) run
  | baud outcome =>
      cases taken
      exact baud_sound sound outcome

end Tty

/-- The launcher at its start. -/
def noTty : Tty := ⟨-1, [], false⟩

/-- In any order of commands and with any outcomes of their calls: the descriptor that is recorded
is the one that is open, if any, and no other is used; an open that fails leaves none, one that is
refused changes nothing. -/
theorem tty_sound (stpMode : Int) (commands : List TtyCommand) :
    AllStates (ttyStep stpMode) (fun s => s.Sound ∧ s.OpensWell stpMode) noTty commands := by
  have start : noTty.Sound := ⟨.inl ⟨rfl, rfl⟩, rfl⟩
  refine AllStates.imp (fun s sound => ⟨sound, Tty.open_opensWell sound⟩)
    (allStates_of_kept (fun s command t sound taken => Tty.ttyStep_sound sound taken) start)

/-- A second open is refused, with the descriptor of the first one open. -/
theorem not_closedOnFailure : ¬ ∀ (stpMode : Int) (commands : List TtyCommand),
    AllStates (ttyStep stpMode) (fun s => s.Sound ∧ s.ClosedOnFailure stpMode) noTty commands := by
  intro all
  have after := (all stpUartFull [.stpOpen ⟨some 5, true, true⟩]).2 ⟨5, [5], false⟩ (by decide)
  have closed := after.2 ⟨some 6, true, true⟩ ⟨5, [5], false⟩ (-1) (by decide) (by decide)
  cases closed.2

end Connectivity.Launcher
