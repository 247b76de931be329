import Connectivity.Bytes.Buffer
import Connectivity.LbsDebug.Relay
import Connectivity.Nmea.Tokens
import Connectivity.Posix.Write

set_option autoImplicit false

/- The requests that the relay passes on from its clients to the daemons. -/
namespace Connectivity.LbsDebug

open Bytes Posix
open Nmea (int32)

/-- A vector of a client, whose size has 32 bits. -/
structure HidlVec where
  bytes : List UInt8
  sized : bytes.length < 4294967296
deriving DecidableEq, Repr

/-- `(int)tmp.size()`. -/
def HidlVec.size (data : HidlVec) : Int := int32 data.bytes.length

def buffSize : Nat := 16 * 1024

/-- What becomes of a request: the parts of the buffer that are used, the answer, the pieces that
have reached the socket, whether the socket opened for it is left open, and what the client is
called with. -/
structure Call where
  touches : List Touch
  ret : Bool
  sent : List (List UInt8)
  leaked : Bool
  calledBack : Option (List UInt8)
deriving DecidableEq, Repr

/-- What `covertVector2Array` writes of the buffer, and `mtk_socket_write` reads. -/
def HidlVec.touches (data : HidlVec) : List Touch :=
  [⟨buffSize, 0, data.size.toNat⟩, ⟨buffSize, 0, data.size.toNat⟩]

/-- `mtk_socket_write`. -/
def mtkSocketWrite (fd : Int) (data : HidlVec) (attempts : List Attempt) :
    Option (Bool × List (List UInt8)) :=
  if fd < 0 ∨ data.size < 0 then some (false, []) else writeLoop data.bytes 10 attempts

/-- A request to one of the services, with what its `connect` and its `read` come upon. -/
inductive Request
  | tbd
  | udp (connects : Option Nat)
  | agpsInterface (connect : Connect) (reply : Option (List UInt8))
  | agpsDebugInterface (mSocketFd : Int)
deriving DecidableEq, Repr

section Services

variable (attempts : List Attempt) (data : HidlVec)

/-- `LbsHidlService::sendToServer`. -/
def sendToServer : Call := ⟨[], false, [], false, none⟩

/-- `UdpHidlService::sendToServer`, with the descriptor of its connection if there is one. -/
def udpSendToServer : Option Nat → Option Call
  | none => some ⟨[], false, [], false, none⟩
  | some fd => (mtkSocketWrite fd data attempts).map fun written =>
      if written.1 then ⟨data.touches, true, written.2, false, none⟩
      else ⟨data.touches, false, written.2, true, none⟩

/-- `AgpsInterfaceHidlService::sendToServerWithCallback` with a descriptor: the answer is read into
the buffer and passed on. -/
def sendToServerWithCallback (fd : Int) (reply : Option (List UInt8)) : Option Call :=
  (mtkSocketWrite fd data attempts).map fun written =>
    let read := if written.1 then (reply.getD []).take buffSize else []
    ⟨data.touches ++ [⟨buffSize, 0, buffSize⟩, ⟨buffSize, 0, read.length⟩], written.1, written.2,
      false, some read⟩

/-- The same with its connection; 0 is returned for no socket, and is none. -/
def agpsSendToServer (connect : Connect) (reply : Option (List UInt8)) : Option Call :=
  match connect with
  | .refused => some ⟨[], false, [], false, none⟩
  | .noSocket => (sendToServerWithCallback attempts data 0 reply).map
      fun call => { call with sent := [] }
  | .opens fd => sendToServerWithCallback attempts data fd reply

/-- `AgpsDebugInterfaceHidlService::sendToServer`, on the descriptor of the session. -/
def debugSendToServer (mSocketFd : Int) : Option Call :=
  (mtkSocketWrite mSocketFd data attempts).map fun written =>
    ⟨data.touches, true, if mSocketFd = 0 then [] else written.2, false, none⟩

def Request.send : Request → Option Call
  | .tbd => some sendToServer
  | .udp connects => udpSendToServer attempts data connects
  | .agpsInterface connect reply => agpsSendToServer attempts data connect reply
  | .agpsDebugInterface mSocketFd => debugSendToServer attempts data mSocketFd

end Services

/-- The buffer is not left, the vector has reached the socket in one piece if the request has
success, and the socket that was opened is closed. -/
structure Call.Right (call : Call) (data : HidlVec) : Prop where
  inside : ∀ touch ∈ call.touches, touch.Inside
  exact : call.ret = true → call.sent = [data.bytes]
  closed : call.leaked = false

section Conditions

variable (attempts : List Attempt) (data : HidlVec)

/-- The vector fits, and the first attempt that writes any of it writes all. -/
def Delivered : Prop := data.bytes.length ≤ buffSize ∧ clean data.bytes.length 10 attempts = true

/-- The vector has no size as an `int`, or it fits and nobody goes on writing. -/
def Refused (fd : Int) : Prop :=
  data.size < 0 ∨ data.bytes.length ≤ buffSize ∧
    (fd < 0 ∨ givesUp data.bytes.length 10 attempts = true)

def Request.Meets : Request → Prop
  | .tbd => True
  | .udp connects => connects = none ∨ Delivered attempts data
  | .agpsInterface .refused _ => True
  | .agpsInterface .noSocket _ => Refused attempts data 0
  | .agpsInterface (.opens fd) _ => 0 ≤ fd ∧ Delivered attempts data ∨ Refused attempts data fd
  | .agpsDebugInterface mSocketFd => 0 < mSocketFd ∧ Delivered attempts data

end Conditions

section Calls

variable {attempts : List Attempt} {data : HidlVec} {call : Call}

/-- A size that is not negative is that of the vector. -/
theorem size_of_nonneg (sized : ¬ data.size < 0) : data.size = data.bytes.length := by
  have short := data.sized
  unfold HidlVec.size int32 at sized ⊢
  rw [Int.bmod_def] at sized ⊢
  split <;> omega

theorem touches_inside : (∀ touch ∈ data.touches, touch.Inside) ↔
    data.size < 0 ∨ data.bytes.length ≤ buffSize := by
  unfold HidlVec.touches
  rw [List.forall_mem_cons, List.forall_mem_singleton, Touch.inside_mk, and_self]
  by_cases sized : data.size < 0
  · have none : data.size.toNat = 0 := by omega
    simp [sized, none]
  · rw [size_of_nonneg sized]
    omega

theorem fits_sized (fits : data.bytes.length ≤ buffSize) : ¬ data.size < 0 := by
  have buff : buffSize = 16384 := rfl
  unfold HidlVec.size int32
  rw [Int.bmod_eq_of_le (by omega) (by omega)]
  omega

section Write

variable {fd : Int} {written : Bool × List (List UInt8)}

/-- A vector is in the buffer and has been written when it is delivered. -/
theorem delivered_iff (done : mtkSocketWrite fd data attempts = some written) :
    ((∀ touch ∈ data.touches, touch.Inside) ∧ written.2 = [data.bytes]) ↔
      0 ≤ fd ∧ Delivered attempts data := by
  rw [mtkSocketWrite] at done
  rw [touches_inside, Delivered]
  split at done
  · rename_i refused
    cases done
    refine iff_of_false (fun both => by cases both.2) fun both => ?_
    have sized := fits_sized both.2.1
    omega
  · rename_i writes
    rw [writeLoop_exact done]
    constructor
    · intro ⟨fits, cleaned⟩
      exact ⟨by omega, fits.resolve_left (by omega), cleaned⟩
    · intro ⟨_, fits, cleaned⟩
      exact ⟨Or.inr fits, cleaned⟩

theorem refused_iff (done : mtkSocketWrite fd data attempts = some written) :
    ((∀ touch ∈ data.touches, touch.Inside) ∧ written.1 = false) ↔ Refused attempts data fd := by
  rw [mtkSocketWrite] at done
  rw [touches_inside, Refused]
  split at done
  · rename_i refused
    cases done
    by_cases sized : data.size < 0
    · simp [sized]
    · have closed : fd < 0 := refused.resolve_right sized
      simp [sized, closed]
  · rename_i writes
    have sized : ¬ data.size < 0 := fun negative => writes (Or.inr negative)
    have opened : ¬ fd < 0 := fun negative => writes (Or.inl negative)
    rw [writeLoop_fails done]
    simp [sized, opened]

/-- What has been written in one piece is a success. -/
theorem success_of_exact (done : mtkSocketWrite fd data attempts = some written)
    (exact : written.2 = [data.bytes]) : written.1 = true := by
  rw [mtkSocketWrite] at done
  split at done
  · cases done
    cases exact
  · exact success_of_clean done ((writeLoop_exact done).mp exact)

end Write

theorem udp_right {fd : Nat} (done : udpSendToServer attempts data (some fd) = some call) :
    call.Right data ↔ Delivered attempts data := by
  unfold udpSendToServer at done
  obtain ⟨written, wrote, same⟩ := Option.map_eq_some_iff.mp done
  have delivered := (delivered_iff wrote).trans (and_iff_right (Int.natCast_nonneg fd))
  have success := success_of_exact wrote
  rw [← delivered, ← same]
  constructor
  · intro right
    cases ok : written.1 with
    | true =>
        rw [ok] at right
        exact ⟨right.inside, right.exact rfl⟩
    | false =>
        rw [ok] at right
        cases right.closed
  · intro ⟨inside, exact⟩
    rw [success exact]
    exact ⟨inside, fun _ => exact, rfl⟩

/-- What a service has used of the buffer when it has sent a request with an answer to read. -/
theorem reply_inside {read : List UInt8} (short : read.length ≤ buffSize) :
    (∀ touch : Touch, touch ∈ data.touches ++
        [⟨buffSize, 0, buffSize⟩, ⟨buffSize, 0, read.length⟩] → touch.Inside) ↔
      ∀ touch ∈ data.touches, touch.Inside := by
  rw [List.forall_mem_append]
  apply and_iff_left
  rw [List.forall_mem_cons, List.forall_mem_singleton, Touch.inside_mk, Touch.inside_mk]
  omega

theorem withCallback_cases {fd : Int} {reply : Option (List UInt8)}
    (done : sendToServerWithCallback attempts data fd reply = some call) :
    ((∀ touch ∈ call.touches, touch.Inside) ∧ call.ret = true ∧ call.sent = [data.bytes] ↔
      0 ≤ fd ∧ Delivered attempts data) ∧
    ((∀ touch ∈ call.touches, touch.Inside) ∧ call.ret = false ↔ Refused attempts data fd) ∧
    call.leaked = false := by
  unfold sendToServerWithCallback at done
  obtain ⟨written, wrote, same⟩ := Option.map_eq_some_iff.mp done
  have short : (if written.1 then (reply.getD []).take buffSize else []).length ≤ buffSize := by
    split
    · exact List.length_take_le _ _
    · exact Nat.zero_le _
  rw [← same, reply_inside short, ← delivered_iff wrote, ← refused_iff wrote]
  refine ⟨⟨fun ⟨inside, _, exact⟩ => ⟨inside, exact⟩, fun ⟨inside, exact⟩ => ?_⟩, Iff.rfl, rfl⟩
  exact ⟨inside, success_of_exact wrote exact, exact⟩

theorem agps_right {connect : Connect} {reply : Option (List UInt8)}
    (done : agpsSendToServer attempts data connect reply = some call) :
    call.Right data ↔ Request.Meets attempts data (.agpsInterface connect reply) := by
  cases connect with
  | refused =>
      cases done
      exact iff_of_true ⟨fun _ member => (by cases member), fun other => (by cases other), rfl⟩
        trivial
  | noSocket =>
      rw [agpsSendToServer] at done
      obtain ⟨sent, wrote, same⟩ := Option.map_eq_some_iff.mp done
      obtain ⟨_, refused, closed⟩ := withCallback_cases wrote
      show call.Right data ↔ Refused attempts data 0
      rw [← refused, ← same]
      constructor
      · intro right
        refine ⟨right.inside, ?_⟩
        by_contra success
        rw [Bool.not_eq_false] at success
        cases right.exact success
      · intro ⟨inside, failed⟩
        refine ⟨inside, fun success => ?_, closed⟩
        rw [failed] at success
        cases success
  | opens fd =>
      obtain ⟨delivered, refused, closed⟩ := withCallback_cases done
      show call.Right data ↔ 0 ≤ fd ∧ Delivered attempts data ∨ Refused attempts data fd
      rw [← delivered, ← refused]
      constructor
      · intro right
        cases ok : call.ret with
        | true => exact Or.inl ⟨right.inside, rfl, right.exact ok⟩
        | false => exact Or.inr ⟨right.inside, rfl⟩
      · rintro (⟨inside, _, exact⟩ | ⟨inside, failed⟩)
        · exact ⟨inside, fun _ => exact, closed⟩
        · refine ⟨inside, fun success => ?_, closed⟩
          rw [failed] at success
          cases success

theorem debug_right {mSocketFd : Int}
    (done : debugSendToServer attempts data mSocketFd = some call) :
    call.Right data ↔ 0 < mSocketFd ∧ Delivered attempts data := by
  unfold debugSendToServer at done
  obtain ⟨written, wrote, same⟩ := Option.map_eq_some_iff.mp done
  have delivered := delivered_iff wrote
  rw [← same]
  by_cases none : mSocketFd = 0
  · rw [if_pos none]
    refine iff_of_false (fun right => ?_) fun both => ?_
    · cases right.exact rfl
    · omega
  · rw [if_neg none]
    constructor
    · intro right
      obtain ⟨least, fits⟩ := delivered.mp ⟨right.inside, right.exact rfl⟩
      exact ⟨by omega, fits⟩
    · intro ⟨least, fits⟩
      obtain ⟨inside, exact⟩ := delivered.mpr ⟨by omega, fits⟩
      exact ⟨inside, fun _ => exact, rfl⟩

end Calls

/-- A request that comes to its end has been handled right when it meets its service's condition. -/
theorem send_right {attempts : List Attempt} {data : HidlVec} {request : Request} {call : Call}
    (done : request.send attempts data = some call) :
    call.Right data ↔ request.Meets attempts data := by
  cases request with
  | tbd =>
      cases done
      exact iff_of_true ⟨fun _ member => (by cases member), fun other => (by cases other), rfl⟩
        trivial
  | udp connects =>
      cases connects with
      | none =>
          cases done
          exact iff_of_true ⟨fun _ member => (by cases member), fun other => (by cases other), rfl⟩
            (Or.inl rfl)
      | some fd =>
          rw [Request.send] at done
          rw [udp_right done]
          exact (or_iff_right (Option.some_ne_none fd)).symm
  | agpsInterface connect reply => exact agps_right done
  | agpsDebugInterface mSocketFd => exact debug_right done

/-- A byte that the daemon takes when it is asked a second time. -/
theorem send_right_one :
    Call.Right ⟨[⟨buffSize, 0, 1⟩, ⟨buffSize, 0, 1⟩], true, [[1]], false, none⟩ ⟨[1], by decide⟩ ↔
      Request.Meets [.failed .eagain, .wrote 1 .eagain] ⟨[1], by decide⟩ (.udp (some 5)) :=
  @send_right [.failed .eagain, .wrote 1 .eagain] _ _ _ rfl

/-- The socket of a request stays open when its daemon does not take a byte. -/
theorem not_send_right : ¬ ∀ (attempts : List Attempt) (data : HidlVec) (request : Request)
    (call : Call), request.send attempts data = some call → call.Right data := by
  intro all
  have right := all [.failed .other] ⟨[1], by decide⟩ (.udp (some 5))
    ⟨[⟨buffSize, 0, 1⟩, ⟨buffSize, 0, 1⟩], false, [], true, none⟩ (by decide)
  cases right.closed

end Connectivity.LbsDebug
