import Connectivity.Boots.Parsing

set_option autoImplicit false

/- `boots_pkt_handler`, which takes the events out of a buffer one after the other. -/
namespace Connectivity.Boots

/-- `PKG_HDR`. -/
def pkgHdr : Nat := 3

/-- `SHOW_LEN`. -/
def showLen : Nat := 17

/-- How many values a `size_t` has. -/
def sizeMod : Nat := 18446744073709551616

def scriptNone : UInt8 := 0x00

def scriptWaitrx : UInt8 := 0x05

def hciCmdPkt : UInt8 := 0x01

/-- What the handler looks at of an entry of the script. -/
structure Entry where
  sType : UInt8
  pType : UInt8
  data : List UInt8
deriving DecidableEq, Repr

/-- What a run of the handler meets besides its buffer: `efuse_reg_wr`, and whether `malloc` has
room for another entry. -/
structure Surroundings where
  efuse : EfuseRegWr
  room : Bool
deriving DecidableEq, Repr

/-- The offsets of the four times four bytes that `boots_efuse_write` copies. -/
def efuseWriteReads : List Nat :=
  [11, 12, 13, 14, 17, 18, 19, 20, 23, 24, 25, 26, 29, 30, 31, 32]

/-- The packet `efuse`, with what has been popped in front of it. -/
def efusePacket (popped : List UInt8) : List UInt8 :=
  let efuse := [0x01, 0x6F, 0xFC, 0x18, 0x01, 0x0D, 0x14, 0x00, 0x01, 0x01] ++
    List.replicate 18 0
  popped.take 28 ++ efuse.drop popped.length

/-- `boots_efuse_write` with `&buf[9]`: the only entry of the new script. -/
def efuseWrite (around : Surroundings) (list : List Entry) (buf : Nat → UInt8) : List Entry :=
  let popped := match list with
    | [] => []
    | entry :: _ => entry.data
  let addr := around.efuse.block % 65536
  let front := (efusePacket popped).take 10 ++ [UInt8.ofNat addr, UInt8.ofNat (addr / 256)]
  let efuse := front ++ efuseWriteReads.map buf
  let written := efuse.set (12 + around.efuse.addr.toNat % 16) around.efuse.value.toUInt8
  if around.room then [⟨scriptNone, hciCmdPkt, written⟩] else []

/-- What `boots_pkt_handler_parse` leaves. -/
structure Parsed where
  reads : List Nat
  ret : Nat
  pList : Option (List Entry)
deriving DecidableEq, Repr

/-- The event that a write to the efuse waits for. -/
def IsEfuseAnswer (around : Surroundings) (buf : Nat → UInt8) : Prop :=
  buf 1 = 0xE4 ∧ buf 2 = 0x1E ∧ around.efuse.wrFlag = .write

instance (around : Surroundings) (buf : Nat → UInt8) : Decidable (IsEfuseAnswer around buf) :=
  inferInstanceAs (Decidable (_ ∧ _ ∧ _))

/-- What `boots_pkt_handler_parse` does behind the line it prints, `none` when it writes to a list
that it has not been given. -/
def afterParsing (around : Surroundings) (buf : Nat → UInt8) (len : Nat)
    (pList : Option (List Entry)) (reads : List Nat) : Option Parsed :=
  if 2 < len ∧ buf 0 = hciEventPkt then
    if buf 1 = hceCommandComplete ∨ buf 1 = hceInquiryComplete then some ⟨reads, 0, pList⟩
    else if IsEfuseAnswer around buf then
      pList.map fun list =>
        let written := efuseWrite around list buf
        ⟨reads ++ efuseWriteReads, if written = [] then 0 else 1, some written⟩
    else some ⟨reads, 1, pList⟩
  else some ⟨reads, 0, pList⟩

/-- The offsets read to print a packet's type and its first bytes. -/
def shownReads (len : Nat) : List Nat := 0 :: List.range' 1 (min (len - 1) showLen)

/-- `boots_pkt_handler_parse`. -/
def handlerParse (around : Surroundings) (buf : Nat → UInt8) (len : Nat)
    (pList : Option (List Entry)) (turns : Nat) : Option Parsed :=
  (bootsPktParsing around.efuse buf len turns).bind fun parsing =>
    afterParsing around buf len pList (shownReads len ++ parsing)

/-- What `boots_pkt_handler` does: the offset and the length of each packet that it has parsed, the
offsets it has read at, what it returns and what the list is then. -/
structure Run where
  dispatched : List (Nat × Nat)
  reads : List Nat
  ret : Nat
  pList : Option (List Entry)
deriving DecidableEq, Repr

/-- `len -= (pkg_len + PKG_HDR)`. -/
def lenLeft (len pkgLen : Nat) : Nat := (len + sizeMod - (pkgLen + pkgHdr)) % sizeMod

/-- `while (len >= pkg_len)`, `buf_parse` being so far from `buf`. -/
def handlerLoop (around : Surroundings) (buf : Nat → UInt8) :
    Nat → Nat → Nat → Nat → Option (List Entry) → Option Run
  | 0, _, _, _, _ => none
  | turns + 1, len, offset, pkgLen, pList =>
      if pkgLen ≤ len then
        (handlerParse around (fun i => buf (offset + i)) (pkgLen + pkgHdr) pList turns).bind
          fun parsed =>
            let reads := parsed.reads.map (offset + ·)
            if pkgHdr < lenLeft len pkgLen then
              -- The next event is counted from `buf`, not from `buf_parse`.
              (handlerLoop around buf turns (lenLeft len pkgLen) (pkgLen + pkgHdr)
                (buf (pkgLen + pkgHdr + 2)).toNat parsed.pList).map fun later =>
                { later with
                  dispatched := (offset, pkgLen + pkgHdr) :: later.dispatched
                  reads := reads ++ (pkgLen + pkgHdr + 2) :: later.reads
                  ret := if parsed.ret = 0 then later.ret else 1 }
            else some ⟨[(offset, pkgLen + pkgHdr)], reads, parsed.ret, parsed.pList⟩
      else some ⟨[], [], 0, pList⟩

/-- The end of the handler, where the script goes on; `list` is its first entry from before. -/
def nextAction (buf : Nat → UInt8) (list : List Entry) (run : Run) : Run :=
  match list with
  | [] => run
  | entry :: rest =>
      if entry.pType = hciEventPkt ∧ buf 0 = hciEventPkt then
        let reads := run.reads ++ List.range entry.data.length
        if (List.range entry.data.length).map buf ≠ entry.data then
          if entry.sType = scriptWaitrx then { run with reads := reads, ret := 1 }
          else { run with reads := reads, ret := 0, pList := some [] }
        else
          { run with reads := reads, ret := if rest = [] then run.ret else 1, pList := some rest }
      else { run with ret := if run.pList = some [] then run.ret else 1 }

/-- `boots_pkt_handler`. -/
def bootsPktHandler (around : Surroundings) (buf : Nat → UInt8) (len : Nat)
    (pList : Option (List Entry)) (turns : Nat) : Option Run :=
  if len = 0 then some ⟨[], [], 0, pList⟩
  else if buf 0 = hciEventPkt then
    (handlerLoop around buf turns len 0 (buf 2).toNat pList).map fun run =>
      nextAction buf (pList.getD []) { run with reads := [0, 2] ++ run.reads }
  else
    (handlerParse around buf len pList turns).map fun parsed =>
      nextAction buf (pList.getD []) ⟨[(0, len)], 0 :: parsed.reads, 0, parsed.pList⟩

end Connectivity.Boots
