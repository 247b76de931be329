import Connectivity.WifiChip.Combinations
import Connectivity.Transition.Run

set_option autoImplicit false

/- The Wi-Fi chip of the service: its modes, the interfaces it creates and removes, and what it
tells its clients of them. -/
namespace Connectivity.WifiChip

/-- `wifi_error`. -/
inductive LegacyError
  | success | uninitialized | notAvailable | notSupported | invalidArgs | invalidRequestId
  | timedOut | tooManyRequests | outOfMemory | busy | unknown
deriving DecidableEq, Repr

inductive WifiStatusCode
  | success | errorWifiChipInvalid | errorNotAvailable | errorNotStarted | errorInvalidArgs
  | errorNotSupported | errorBusy | errorUnknown
deriving DecidableEq, Repr

structure WifiStatus where
  code : WifiStatusCode
  description : String
deriving DecidableEq, Repr

def createWifiStatus (code : WifiStatusCode) : WifiStatus := ⟨code, ""⟩

def createWifiStatusFromLegacyError : LegacyError → WifiStatus
  | .uninitialized | .notAvailable => ⟨.errorNotAvailable, ""⟩
  | .notSupported => ⟨.errorNotSupported, ""⟩
  | .invalidArgs | .invalidRequestId => ⟨.errorInvalidArgs, ""⟩
  | .timedOut => ⟨.errorUnknown, ", timed out"⟩
  | .tooManyRequests => ⟨.errorUnknown, ", too many requests"⟩
  | .outOfMemory => ⟨.errorUnknown, ", out of memory"⟩
  | .busy => ⟨.errorBusy, ""⟩
  | .success => ⟨.success, ""⟩
  | .unknown => ⟨.errorUnknown, "unknown"⟩

def kInvalidModeId : Nat := 2 ^ 32 - 1
def kV1StaChipModeId : Nat := 0
def kV1ApChipModeId : Nat := 1
def kV2ChipModeId : Nat := 2

structure ChipMode where
  id : Nat
  availableCombinations : List IfaceCombination
deriving DecidableEq, Repr

/-- `WifiFeatureFlags`, three switches of the build. -/
structure FeatureFlags where
  isAwareSupported : Bool
  isDualInterfaceSupported : Bool
  isApDisabled : Bool
deriving DecidableEq, Repr

def populateModes (flags : FeatureFlags) : List ChipMode :=
  let sta : IfaceCombinationLimit := ⟨[.sta], 1⟩
  let ap : IfaceCombinationLimit := ⟨[.ap], 1⟩
  let p2p : IfaceCombinationLimit :=
    if flags.isAwareSupported then ⟨[.p2p, .nan], 1⟩ else ⟨[.p2p], 1⟩
  if flags.isDualInterfaceSupported then
    if flags.isApDisabled then [⟨kV2ChipModeId, [⟨[sta, p2p]⟩]⟩]
    else [⟨kV2ChipModeId, [⟨[sta, ap, p2p]⟩]⟩]
  else
    if flags.isApDisabled then [⟨kV1StaChipModeId, [⟨[sta, p2p]⟩]⟩]
    else [⟨kV1StaChipModeId, [⟨[sta, p2p]⟩]⟩, ⟨kV1ApChipModeId, [⟨[ap]⟩]⟩]

/-- The interface names that system properties give. -/
structure Names where
  wlan0 : String
  wlan1 : String
  p2p : String
deriving DecidableEq, Repr

/-- An interface object with its place. -/
structure Iface where
  object : Nat
  name : String
deriving DecidableEq, Repr

/-- What the clients are called back with. -/
inductive Notification
  | ifaceAdded (type : IfaceType) (name : String)
  | ifaceRemoved (type : IfaceType) (name : String)
  | chipReconfigured (modeId : Nat)
  | chipReconfigureFailure (status : WifiStatus)
deriving DecidableEq, Repr

/-- `WifiChip` with the objects it has made: how many, and which of them are invalid. -/
structure Chip where
  names : Names
  modes : List ChipMode
  isValid : Bool
  currentModeId : Nat
  ifaces : IfaceType → List Iface
  rttControllers : List Nat
  objects : Nat
  invalidated : List Nat
  notified : List Notification

/-- How a configuration of the chip goes: the stop of the legacy HAL, the change of the firmware
mode, the start of the legacy HAL. -/
structure Outcome where
  stop : LegacyError
  firmware : Bool
  start : LegacyError
deriving DecidableEq, Repr

def findUsingName (ifaces : List Iface) (name : String) : Option Iface :=
  ifaces.find? fun iface => name = iface.name

namespace Chip

def new (names : Names) (flags : FeatureFlags) : Chip where
  names := names
  modes := populateModes flags
  isValid := true
  currentModeId := kInvalidModeId
  ifaces := fun _ => []
  rttControllers := []
  objects := 0
  invalidated := []
  notified := []

variable (s : Chip)

def notify (event : Notification) : Chip := { s with notified := s.notified ++ [event] }

def isValidModeId (modeId : Nat) : Bool := s.modes.any fun mode => mode.id = modeId

def getCurrentModeIfaceCombinations : List IfaceCombination :=
  if s.isValidModeId s.currentModeId then
    match s.modes.find? fun mode => mode.id = s.currentModeId with
    | some mode => mode.availableCombinations
    | none => []
  else []

def getCurrentIfaceCombination : Counts := fun type => (s.ifaces type).length

def canCurrentModeSupportIfaceOfType (type : IfaceType) : Option Bool :=
  if s.isValidModeId s.currentModeId then
    canSupportIfaceOfType s.getCurrentModeIfaceCombinations s.getCurrentIfaceCombination type
  else some false

def invalidateAndRemoveAllIfaces : Chip :=
  { s with
    ifaces := fun _ => []
    rttControllers := []
    invalidated := s.invalidated ++
      (IfaceType.all.flatMap fun type => (s.ifaces type).map Iface.object) ++ s.rttControllers }

/-- Behind the stop of the legacy HAL. `setConcurrentMode` is called too, its result is overwritten
by that of `changeFirmwareMode`. -/
def changeMode (modeId : Nat) (outcome : Outcome) : WifiStatus :=
  let success :=
    if modeId = kV1StaChipModeId then outcome.firmware
    else if modeId = kV1ApChipModeId then outcome.firmware
    else if modeId = kV2ChipModeId then outcome.firmware
    else true
  if success = false then createWifiStatus .errorUnknown
  else if outcome.start ≠ .success then createWifiStatusFromLegacyError outcome.start
  else createWifiStatus .success

def handleChipConfiguration (modeId : Nat) (outcome : Outcome) : Chip × WifiStatus :=
  if s.isValidModeId s.currentModeId then
    (s.invalidateAndRemoveAllIfaces,
      if outcome.stop ≠ .success then createWifiStatusFromLegacyError outcome.stop
      else changeMode modeId outcome)
  else (s, changeMode modeId outcome)

def configureChipInternal (modeId : Nat) (outcome : Outcome) : Chip × WifiStatus :=
  if s.isValidModeId modeId = false then (s, createWifiStatus .errorInvalidArgs)
  else if modeId = s.currentModeId then (s, createWifiStatus .success)
  else
    let (t, status) := s.handleChipConfiguration modeId outcome
    if status.code ≠ .success then (t.notify (.chipReconfigureFailure status), status)
    else ({ t.notify (.chipReconfigured modeId) with currentModeId := modeId }, status)

/-- "wlan0" if it is not in use, else "wlan1". There is none where the `CHECK` ends the process. -/
def allocateApOrStaIfaceName : Option String :=
  if findUsingName (s.ifaces .ap) s.names.wlan0 = none ∧
      findUsingName (s.ifaces .sta) s.names.wlan0 = none then some s.names.wlan0
  else if findUsingName (s.ifaces .ap) s.names.wlan1 = none ∧
      findUsingName (s.ifaces .sta) s.names.wlan1 = none then some s.names.wlan1
  else none

def addIface (type : IfaceType) (name : String) : Chip :=
  { s with
    ifaces := Function.update s.ifaces type (s.ifaces type ++ [⟨s.objects, name⟩])
    objects := s.objects + 1
    notified := s.notified ++ [.ifaceAdded type name] }

/-- The four functions that create an interface. -/
def createIfaceInternal (type : IfaceType) (name : Option String) : Option (Chip × WifiStatus) :=
  (s.canCurrentModeSupportIfaceOfType type).bind fun supports =>
    if supports = false then some (s, createWifiStatus .errorNotAvailable)
    else name.map fun name => (s.addIface type name, createWifiStatus .success)

def createApIfaceInternal : Option (Chip × WifiStatus) := s.createIfaceInternal .ap (some "ap0")

def createNanIfaceInternal : Option (Chip × WifiStatus) :=
  s.createIfaceInternal .nan (some s.names.wlan0)

def createP2pIfaceInternal : Option (Chip × WifiStatus) :=
  s.createIfaceInternal .p2p (some s.names.p2p)

def createStaIfaceInternal : Option (Chip × WifiStatus) :=
  s.createIfaceInternal .sta s.allocateApOrStaIfaceName

def invalidateAndClear (type : IfaceType) (iface : Iface) : Chip :=
  { s with
    ifaces := Function.update s.ifaces type ((s.ifaces type).filter (· ≠ iface))
    invalidated := s.invalidated ++ [iface.object] }

/-- The four functions that remove an interface. -/
def removeIfaceInternal (type : IfaceType) (name : String) : Chip × WifiStatus :=
  match findUsingName (s.ifaces type) name with
  | none => (s, createWifiStatus .errorInvalidArgs)
  | some iface =>
      ((s.invalidateAndClear type iface).notify (.ifaceRemoved type name),
        createWifiStatus .success)

def removeApIfaceInternal (name : String) : Chip × WifiStatus := s.removeIfaceInternal .ap name

def removeNanIfaceInternal (name : String) : Chip × WifiStatus := s.removeIfaceInternal .nan name

def removeP2pIfaceInternal (name : String) : Chip × WifiStatus := s.removeIfaceInternal .p2p name

def removeStaIfaceInternal (name : String) : Chip × WifiStatus := s.removeIfaceInternal .sta name

def createRttControllerInternal : Chip × WifiStatus :=
  ({ s with rttControllers := s.rttControllers ++ [s.objects], objects := s.objects + 1 },
    createWifiStatus .success)

/-- `WifiChip::invalidate`; there are no clients behind it. -/
def invalidate : Chip := { s.invalidateAndRemoveAllIfaces with isValid := false }

inductive Call
  | configureChip (modeId : Nat) (outcome : Outcome)
  | createApIface | createNanIface | createP2pIface | createStaIface
  | removeApIface (name : String) | removeNanIface (name : String)
  | removeP2pIface (name : String) | removeStaIface (name : String)
  | createRttController
  | invalidate
deriving DecidableEq, Repr

/-- The result of a call. There is none where the process ends. -/
def answer : Call → Option (Chip × WifiStatus)
  | .configureChip modeId outcome => some (s.configureChipInternal modeId outcome)
  | .createApIface => s.createApIfaceInternal
  | .createNanIface => s.createNanIfaceInternal
  | .createP2pIface => s.createP2pIfaceInternal
  | .createStaIface => s.createStaIfaceInternal
  | .removeApIface name => some (s.removeApIfaceInternal name)
  | .removeNanIface name => some (s.removeNanIfaceInternal name)
  | .removeP2pIface name => some (s.removeP2pIfaceInternal name)
  | .removeStaIface name => some (s.removeStaIfaceInternal name)
  | .createRttController => some s.createRttControllerInternal
  | .invalidate => some (s.invalidate, createWifiStatus .success)

/-- The calls of the clients go through here; the service invalidates a chip once. -/
def validateAndCall (c : Call) : Option (Chip × WifiStatus) :=
  if s.isValid then s.answer c else some (s, createWifiStatus .errorWifiChipInvalid)

def step (c : Call) : Option Chip := (s.validateAndCall c).map Prod.fst

end Chip

end Connectivity.WifiChip
