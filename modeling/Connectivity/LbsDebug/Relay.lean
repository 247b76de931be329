import Mathlib.Data.List.Basic

set_option autoImplicit false

/- The relay between a client of the AGPS debug interface and the AGPS daemon. -/
namespace Connectivity.LbsDebug

/-- What `mtk_socket_tcp_connect_local` comes upon: a new descriptor, no socket, which it
returns as `false`, or no daemon. -/
inductive Connect
  | opens (fd : Int) | noSocket | refused
deriving DecidableEq, Repr

/-- What a `read` returns: some bytes, none, or -1. -/
inductive Read
  | data (first : UInt8) (rest : List UInt8) | endOfFile | error
deriving DecidableEq, Repr

/-- The members of the service, whether there is a callback, whether the epoll thread is in the
loop that connects again, and the descriptors that have been opened and not closed; beside them
what was written to which descriptor and what the client was called with, whether a descriptor
was used that was not open, and whether the process has crashed. -/
structure Relay where
  mSocketFd : Int
  mIsExit : Bool
  mLbsCallback : Bool
  reconnecting : Bool
  opened : List Int
  written : List (Int × List UInt8)
  delivered : List (List UInt8)
  misused : Bool
  crashed : Bool
deriving DecidableEq, Repr

namespace Relay

def init : Relay where
  mSocketFd := -1
  mIsExit := true
  mLbsCallback := false
  reconnecting := false
  opened := []
  written := []
  delivered := []
  misused := false
  crashed := false

variable (s : Relay)

def use (fd : Int) : Relay := if fd ∈ s.opened then s else { s with misused := true }

/-- The descriptor that a connection gives is a new one. -/
def tcpConnectLocal : Connect → Relay × Int
  | .opens fd => ({ s with opened := fd :: s.opened }, fd)
  | .noSocket => (s, 0)
  | .refused => (s, -1)

/-- `mtk_socket_write`, whose error nobody looks at. -/
def socketWrite (fd : Int) (bytes : List UInt8) : Relay :=
  if fd < 0 then s else { s.use fd with written := (fd, bytes) :: s.written }

def closeSocket : Relay :=
  { s.use s.mSocketFd with opened := s.opened.erase s.mSocketFd, mSocketFd := -1 }

def setCallback (connect : Connect) : Relay :=
  if s.mSocketFd ≠ -1 then { s with crashed := true }
  else
    let connected := tcpConnectLocal { s with mLbsCallback := true } connect
    let s : Relay := { connected.1 with mSocketFd := connected.2 }
    if s.mSocketFd < 0 then s else { s with mIsExit := false }

def sendToServer (data : List UInt8) : Relay :=
  { s.socketWrite s.mSocketFd data with mIsExit := true }

def handleHidlDeath : Relay :=
  let s := { s with mLbsCallback := false }
  if 0 < s.mSocketFd then
    { s.socketWrite s.mSocketFd (List.replicate 16 0) with mIsExit := true }
  else s

def handleSocketEvent (read : Read) : Relay :=
  let s := s.use s.mSocketFd
  if s.mIsExit then s.closeSocket
  else match read with
  | .data first rest =>
      if s.mLbsCallback then { s with delivered := (first :: rest) :: s.delivered } else s
  | _ => { s.closeSocket with reconnecting := true }

/-- One turn of the loop in `handleSocketEvent`, from its sleep to the next one. -/
def reconnect (connect : Connect) : Relay :=
  let connected := s.tcpConnectLocal connect
  { connected.1 with
    mSocketFd := connected.2
    reconnecting := decide (connected.2 < 0) }

end Relay

inductive Event
  | setCallback (connect : Connect)
  | sendToServer (data : List UInt8)
  | death
  | socket (read : Read)
  | reconnect (connect : Connect)
deriving DecidableEq, Repr

/-- A descriptor that is opened is positive and none of those that are open. -/
def Connect.Fresh (opened : List Int) : Connect → Prop
  | .opens fd => 0 < fd ∧ fd ∉ opened
  | _ => True

instance (opened : List Int) : (c : Connect) → Decidable (c.Fresh opened)
  | .opens _ => inferInstanceAs (Decidable (_ ∧ _))
  | .noSocket => inferInstanceAs (Decidable True)
  | .refused => inferInstanceAs (Decidable True)

namespace Relay

variable (s : Relay)

/-- What can happen: the epoll thread waits for the relay's descriptor while that is open, or
is in its loop. -/
def Enabled : Event → Prop
  | .setCallback connect => connect.Fresh s.opened
  | .sendToServer _ => True
  | .death => True
  | .socket _ => s.reconnecting = false ∧ s.mSocketFd ∈ s.opened
  | .reconnect connect => s.reconnecting = true ∧ connect.Fresh s.opened

instance : (e : Event) → Decidable (s.Enabled e)
  | .setCallback _ => inferInstanceAs (Decidable (Connect.Fresh _ _))
  | .sendToServer _ => inferInstanceAs (Decidable True)
  | .death => inferInstanceAs (Decidable True)
  | .socket _ => inferInstanceAs (Decidable (_ ∧ _))
  | .reconnect _ => inferInstanceAs (Decidable (_ ∧ _))

def handle : Event → Relay
  | .setCallback connect => s.setCallback connect
  | .sendToServer data => s.sendToServer data
  | .death => s.handleHidlDeath
  | .socket read => s.handleSocketEvent read
  | .reconnect connect => s.reconnect connect

/-- A process that has crashed does nothing any more. -/
def step (e : Event) : Option Relay :=
  if s.crashed = false ∧ s.Enabled e then some (s.handle e) else none

end Relay

end Connectivity.LbsDebug
