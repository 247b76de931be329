import Connectivity.Table.RefCount

set_option autoImplicit false

/- The tables of the Wi-Fi HAL, the commands by their ids and the handlers of the events, and the
RSSI monitor that works on them. -/
namespace Connectivity.WifiHal

open RefCount

def nl80211CmdVendor : Int := 103
def googleOui : Nat := 0x001A11
def wifiEventRssiMonitor : Int := 7
def defaultEventCbSize : Nat := 64
def defaultCmdSize : Nat := 64

/-- `cb_info`; all handlers are `WifiCommand::event_handler` of their command. -/
structure CbInfo where
  nlCmd : Int
  vendorId : Nat
  vendorSubcmd : Int
  cbArg : Nat
deriving DecidableEq, Repr

/-- `cmd_info`. -/
structure CmdInfo where
  id : Int
  cmd : Nat
deriving DecidableEq, Repr

/-- `hal_info` with the command objects, each with its `mId`. `handling` is the command whose event
handler runs in the event loop. The two tables are gone behind the cleanup. -/
structure HalInfo where
  objects : Heap Int
  eventCb : List CbInfo
  cmd : List CmdInfo
  handling : Option Nat
  cleanUp : Bool
deriving DecidableEq, Repr

namespace HalInfo

/-- Behind `wifi_initialize`. -/
def initialized : HalInfo := ⟨[], [], [], none, false⟩

variable (s : HalInfo)

/-- The place of the next object. -/
def fresh : Nat := s.objects.fresh

def new (id : Int) : HalInfo := { s with objects := s.objects.new id }

def addRef (p : Nat) : HalInfo := { s with objects := s.objects.addRef p }

def releaseRef (p : Nat) : HalInfo := { s with objects := s.objects.releaseRef p }

/-- `wifi_register_vendor_handler`; its callers do not read the result. -/
def registerVendorHandler (id : Nat) (subcmd : Int) (arg : Nat) : HalInfo :=
  if s.eventCb.length < defaultEventCbSize then
    { s with eventCb := s.eventCb ++ [⟨nl80211CmdVendor, id, subcmd, arg⟩] }
  else s

/-- `wifi_unregister_vendor_handler`: the first handler of the sub-command. -/
def unregisterVendorHandler (id : Nat) (subcmd : Int) : HalInfo :=
  { s with eventCb := s.eventCb.eraseP fun cbi =>
      cbi.nlCmd = nl80211CmdVendor ∧ cbi.vendorId = id ∧ cbi.vendorSubcmd = subcmd }

def registerCmd (id : Int) (cmd : Nat) : Option HalInfo :=
  if s.cmd.length < defaultCmdSize then some { s with cmd := s.cmd ++ [⟨id, cmd⟩] } else none

/-- `wifi_unregister_cmd`: the first command of the id. -/
def unregisterCmd (id : Int) : HalInfo × Option Nat :=
  ({ s with cmd := s.cmd.eraseP fun info => info.id = id },
    (s.cmd.find? fun info => info.id = id).map CmdInfo.cmd)

/-- `SetRSSIMonitorCommand::cancel`, whatever the driver answers. -/
def cancel : HalInfo := s.unregisterVendorHandler googleOui wifiEventRssiMonitor

/-- `wifi_start_rssi_monitoring`; `ok` is whether the driver takes the request. -/
def startRssiMonitoring (id : Int) (ok : Bool) : HalInfo :=
  let cmd := s.fresh
  match (s.new id).registerCmd id cmd with
  | none => (s.new id).releaseRef cmd
  | some s =>
      if ok then s.registerVendorHandler googleOui wifiEventRssiMonitor cmd
      else (s.unregisterCmd id).1.releaseRef cmd

/-- `wifi_cancel_cmd`. -/
def cancelCmd (id : Int) : HalInfo :=
  match s.unregisterCmd id with
  | (s, none) => s
  | (s, some cmd) => s.cancel.releaseRef cmd

/-- `wifi_stop_rssi_monitoring`. -/
def stopRssiMonitoring (id : Int) : HalInfo :=
  if id = -1 then (s.new id).cancel.releaseRef s.fresh else s.cancelCmd id

/-- `internal_valid_message_handler` up to the call of the handler: the first one of the event. -/
def validMessage (nlCmd : Int) (vendorId : Nat) (subcmd : Int) : HalInfo :=
  match s.eventCb.find? fun cbi => nlCmd = cbi.nlCmd ∧
      (nlCmd = nl80211CmdVendor → vendorId = cbi.vendorId ∧ subcmd = cbi.vendorSubcmd) with
  | none => s
  | some cbi => { s.addRef cbi.cbArg with handling := some cbi.cbArg }

/-- The handler has returned. -/
def messageHandled : Option HalInfo :=
  s.handling.map fun cmd => { s.releaseRef cmd with handling := none }

/-- The loop of `wifi_cleanup` over the commands: a cancel leaves them in the table, so each is
counted as bad and released. -/
def cancelAll : HalInfo → List CmdInfo → HalInfo
  | s, [] => s
  | s, info :: rest => cancelAll (s.cancel.releaseRef info.cmd) rest

/-- `wifi_cleanup`, behind the end of the event loop. -/
def cleanup : HalInfo :=
  { cancelAll s s.cmd with eventCb := [], cmd := [], cleanUp := true }

/-- The calls of the framework and the events of the driver. -/
inductive Event
  | start (id : Int) (ok : Bool)
  | stop (id : Int)
  | message (nlCmd : Int) (vendorId : Nat) (subcmd : Int)
  | handled
  | cleanup
deriving DecidableEq, Repr

/-- The event loop handles one message at a time, and ends before the cleanup. -/
def handle (e : Event) : Option HalInfo :=
  if s.cleanUp then none
  else
    match e with
    | .start id ok => some (s.startRssiMonitoring id ok)
    | .stop id => some (s.stopRssiMonitoring id)
    | .message nlCmd vendorId subcmd =>
        if s.handling = none then some (s.validMessage nlCmd vendorId subcmd) else none
    | .handled => s.messageHandled
    | .cleanup => if s.handling = none then some s.cleanup else none

end HalInfo

end Connectivity.WifiHal
