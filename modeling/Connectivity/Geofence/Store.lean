import Connectivity.Table.Slots

set_option autoImplicit false

/- The store from which the HAL recovers its fences, and the requests that read
and write it. Floating-point numbers are carried as their images. -/
namespace Connectivity.Geofence

def maxGoefence : Nat := 30

def geoConfigMaskDisableSmd : BitVec 32 := 1

def gpsGeofenceEntered : Int := 1

def gpsGeofenceExited : Int := 2

def gpsGeofenceUncertain : Int := 4

/-- `uncertain` of `SET_STATE`. -/
def uncertain : Int := 2

/-- The image of the float one. -/
def one : BitVec 32 := 0x3F800000

/-- The key of a slot without a fence. -/
def noFence : Int := -1

/-- `MTK_GEOFENCE_PROPERTY_T`. -/
structure Property where
  geofenceId : Int
  latitude : BitVec 64
  longitude : BitVec 64
  radius : BitVec 64
  coordinateDn : BitVec 32
  coordinateDe : BitVec 32
  lastTransition : Int
  monitorTransition : Int
  notificationPeriod : Int
  unknownTimer : Int
  alive : Int
  latestState : Int
  config : BitVec 32
deriving DecidableEq

/-- All bytes zero. -/
def Property.zero : Property := ⟨0, 0, 0, 0, 0, 0, 0, 0, 0, 0, 0, 0, 0⟩

def Property.paused (fence : Property) : Property :=
  { fence with alive := 0, lastTransition := gpsGeofenceUncertain, latestState := uncertain }

def Property.resumed (transition : Int) (fence : Property) : Property :=
  { fence with monitorTransition := transition, alive := 1 }

def Property.crossed (transition : Int) (fence : Property) : Property :=
  { fence with lastTransition := transition, latestState := transition >>> (1 : Nat) }

/-- A row of `injectFenceInfo`. -/
structure InjectInfo where
  valid : BitVec 32
  dn : BitVec 32
  de : BitVec 32
deriving DecidableEq

def InjectInfo.zero : InjectInfo := ⟨0, 0, 0⟩

/-- The variables of the interface. An access in front of `injectFenceInfo` is noted. -/
structure Gfc where
  isgfcExist : Bool
  geofenceCbs : Bool
  geofenceProperty : Fin maxGoefence → Property
  injectFenceInfo : Fin maxGoefence → InjectInfo
  gTotalFence : Int
  gConfigHalGeofence : BitVec 32
  outside : Bool

def Gfc.start : Gfc where
  isgfcExist := false
  geofenceCbs := false
  geofenceProperty := fun _ => .zero
  injectFenceInfo := fun _ => .zero
  gTotalFence := 0
  gConfigHalGeofence := 0
  outside := false

/-- A message of `MTK_FLP_MSG_OFL_GEOFENCE_CMD` to the daemon. -/
inductive Command where
  | addGeofenceArea (partialSize : Int) (fence : Property)
  | pauseGeofence (geofenceId : Int)
  | resumeGeofence (geofenceId monitorTransitions : Int)
  | removeGeofence (geofenceId : Int)
  | recoverGeofence (partialSize : Int) (fence : Property)
deriving DecidableEq

section Buffer

variable (s : Gfc)

def setBuffInitFence : Gfc :=
  { s with
    geofenceProperty := fun _ => { Property.zero with geofenceId := noFence }
    gTotalFence := 0 }

def setBuffPauseFence (item : Fin maxGoefence) : Gfc :=
  { s with geofenceProperty :=
      Function.update s.geofenceProperty item (s.geofenceProperty item).paused }

def setBuffResumeFence (item : Fin maxGoefence) (transition : Int) : Gfc :=
  { s with geofenceProperty :=
      Function.update s.geofenceProperty item ((s.geofenceProperty item).resumed transition) }

def setBuffRemoveFence (item : Fin maxGoefence) : Gfc :=
  { s with
    geofenceProperty :=
      Function.update s.geofenceProperty item { Property.zero with geofenceId := noFence }
    gTotalFence := if s.gTotalFence > 0 then s.gTotalFence - 1 else s.gTotalFence }

def checkBuffFullOfFence : Bool := s.gTotalFence ≥ maxGoefence

def checkBuffFenceExist (fenceId : Int) : Option (Fin maxGoefence) :=
  Slots.find Property.geofenceId s.geofenceProperty fenceId

def checkValidTransition (transition : Int) : Bool :=
  transition = gpsGeofenceEntered ∨ transition = gpsGeofenceExited ∨
    transition = gpsGeofenceEntered + gpsGeofenceExited ∨
    transition = gpsGeofenceEntered + gpsGeofenceExited + gpsGeofenceUncertain

def getBuffAvalibaleItem : Option (Fin maxGoefence) :=
  Slots.first s.geofenceProperty fun fence => fence.alive ≠ 1

def checkFenceVadility (fence : Property) : Int :=
  if checkBuffFullOfFence s then -1
  else if (checkBuffFenceExist s fence.geofenceId).isSome then -2
  else if checkValidTransition fence.monitorTransition then 0
  else -3

/-- Without a slot the fence is not stored. -/
def setBuffAddFence (fence : Property) : Gfc :=
  match getBuffAvalibaleItem s with
  | none => s
  | some item =>
      { s with
        geofenceProperty := Function.update s.geofenceProperty item { fence with alive := 1 }
        gTotalFence := s.gTotalFence + 1 }

def setBuffTransitionFence (fenceId transition : Int) : Gfc :=
  if transition ≠ gpsGeofenceEntered ∧ transition ≠ gpsGeofenceExited ∧
      transition ≠ gpsGeofenceUncertain then s
  else
    match checkBuffFenceExist s fenceId with
    | none => s
    | some item =>
        let crossed := (s.geofenceProperty item).crossed transition
        { s with geofenceProperty := Function.update s.geofenceProperty item crossed }

/-- The row of a fence, `none` behind the table. -/
def injectRow (fenceId : Int) : Option (Fin maxGoefence) :=
  if fits : fenceId.toNat < maxGoefence then some ⟨fenceId.toNat, fits⟩ else none

/-- Writes a row; an id below zero writes in front of the table. -/
def setInjectInfo (fenceId : Int) (info : InjectInfo) : Gfc :=
  if fenceId < 0 then { s with outside := true }
  else
    match injectRow fenceId with
    | none => s
    | some row => { s with injectFenceInfo := Function.update s.injectFenceInfo row info }

def mtkGeoInjectInfoInit : Gfc := { s with injectFenceInfo := fun _ => .zero }

def mtkGeoInjectInfoSet (fenceId : Int) (dn de : BitVec 32) : Gfc :=
  setInjectInfo s fenceId ⟨one, dn, de⟩

def mtkGeoInjectInfoReset (fenceId : Int) : Gfc := setInjectInfo s fenceId .zero

/-- The coordinates of a fence, and the state that notes a read in front of the table. -/
def mtkGeoInjectInfoGet (fenceId : Int) : Gfc × BitVec 32 × BitVec 32 :=
  if fenceId < 0 then ({ s with outside := true }, 0, 0)
  else
    match injectRow fenceId with
    | none => (s, 0, 0)
    | some row =>
        let info := s.injectFenceInfo row
        -- a float is zero for both images of zero
        if info.valid <<< 1 = 0 then (s, 0, 0) else (s, info.dn, info.de)

end Buffer

section Interface

variable (s : Gfc)

def hal2GeofenceInit (disableSmd : Bool) : Gfc :=
  if s.isgfcExist then s
  else
    { mtkGeoInjectInfoInit (setBuffInitFence { s with isgfcExist := true }) with
      gConfigHalGeofence := if disableSmd then geoConfigMaskDisableSmd else 0 }

def hal2GeofenceAddGeofences (dbgFence : Property) : Gfc × List Command :=
  if checkFenceVadility s dbgFence = 0 then
    (setBuffAddFence s dbgFence, [.addGeofenceArea 1 dbgFence])
  else (s, [])

def hal2GeofencePauseGeofence (geofenceId : Int) : Gfc × List Command :=
  match checkBuffFenceExist s geofenceId with
  | none => (s, [])
  | some item => (setBuffPauseFence s item, [.pauseGeofence geofenceId])

def hal2GeofenceResumeGeofence (geofenceId monitorTransitions : Int) : Gfc × List Command :=
  match checkBuffFenceExist s geofenceId with
  | none => (s, [])
  | some item =>
      (setBuffResumeFence s item monitorTransitions,
        [.resumeGeofence geofenceId monitorTransitions])

def hal2GeofenceRemoveGeofences (geofenceId : Int) : Gfc × List Command :=
  match checkBuffFenceExist s geofenceId with
  | none => (s, [])
  | some item =>
      (setBuffRemoveFence (mtkGeoInjectInfoReset s geofenceId) item,
        [.removeGeofence geofenceId])

/-- The messages of a recovery, up to the first that cannot be sent. -/
def hal2GeofenceRecoverGeofences (sends : Fin maxGoefence → Bool) : List Command :=
  (((List.finRange maxGoefence).filter fun i => (s.geofenceProperty i).alive = 1).takeWhile
    sends).map fun i => .recoverGeofence 1 (s.geofenceProperty i)

/-- The arguments of `mtk_hal_geofence_add_geofences`. -/
structure Area where
  geofenceId : Int
  latitude : BitVec 64
  longitude : BitVec 64
  radiusMeters : BitVec 64
  lastTransition : Int
  monitorTransitions : Int
  notificationResponsivenessMs : Int
  unknownTimerMs : Int

/-- `dbg_fence`. -/
def Area.fence (area : Area) : Property where
  geofenceId := area.geofenceId
  latitude := area.latitude
  longitude := area.longitude
  radius := area.radiusMeters
  coordinateDn := (mtkGeoInjectInfoGet s area.geofenceId).2.1
  coordinateDe := (mtkGeoInjectInfoGet s area.geofenceId).2.2
  lastTransition := area.lastTransition
  monitorTransition := area.monitorTransitions
  notificationPeriod := area.notificationResponsivenessMs
  unknownTimer := area.unknownTimerMs
  alive := 1
  latestState := area.lastTransition >>> (1 : Nat)
  config := s.gConfigHalGeofence

/-- A call of the framework, or a message of the daemon. -/
inductive Request where
  | init (callbacks disableSmd : Bool)
  | add (area : Area)
  | pause (geofenceId : Int)
  | resume (geofenceId monitorTransitions : Int)
  | remove (geofenceId : Int)
  | recover (sends : Fin maxGoefence → Bool)
  | transition (geofenceId transition : Int)
  | injectLoc (fenceId : Int) (dn de : BitVec 32)

/-- The state behind a request, and what has been sent to the daemon. Before the first
`init` no request but that one does anything. -/
def Gfc.handle : Request → Gfc × List Command
  | .init callbacks disableSmd =>
      ({ hal2GeofenceInit s disableSmd with geofenceCbs := callbacks }, [])
  | .add area =>
      if s.isgfcExist then
        hal2GeofenceAddGeofences (mtkGeoInjectInfoGet s area.geofenceId).1 (area.fence s)
      else (s, [])
  | .pause geofenceId =>
      if s.isgfcExist then hal2GeofencePauseGeofence s geofenceId else (s, [])
  | .resume geofenceId monitorTransitions =>
      if s.isgfcExist then hal2GeofenceResumeGeofence s geofenceId monitorTransitions
      else (s, [])
  | .remove geofenceId =>
      if s.isgfcExist then hal2GeofenceRemoveGeofences s geofenceId else (s, [])
  | .recover sends =>
      if s.isgfcExist then (s, hal2GeofenceRecoverGeofences s sends) else (s, [])
  | .transition geofenceId transition =>
      if s.isgfcExist ∧ s.geofenceCbs then (setBuffTransitionFence s geofenceId transition, [])
      else (s, [])
  | .injectLoc fenceId dn de =>
      if s.isgfcExist then (mtkGeoInjectInfoSet s fenceId dn de, []) else (s, [])

end Interface

end Connectivity.Geofence
