import Connectivity.Bytes.LengthRow

set_option autoImplicit false

/- Which bytes of a packet `boots_pkt_parsing` looks at to print what it says. -/
namespace Connectivity.Boots

open Bytes (Row around)

/-- `HCI_EVENT_PKT`. -/
def hciEventPkt : UInt8 := 0x04

def hceInquiryComplete : UInt8 := 0x01

def hceInquiryResult : UInt8 := 0x02

def hceCommandComplete : UInt8 := 0x0E

def hceInquiryResultWithRssi : UInt8 := 0x22

def hceExtInquiryResult : UInt8 := 0x2F

/-- `wr_flag_e`, with its numbers. -/
inductive WrFlag
  | no | read | write
deriving DecidableEq, Repr

def WrFlag.toByte : WrFlag → UInt8
  | .no => 0
  | .read => 1
  | .write => 2

/-- `efuse_reg_wr_s`. -/
structure EfuseRegWr where
  addr : UInt32
  value : UInt32
  wrFlag : WrFlag
deriving DecidableEq, Repr

/-- A `uint16_t` at an offset. -/
def uint16At (buf : Nat → UInt8) (offset : Nat) : Nat :=
  (buf offset).toNat + 256 * (buf (offset + 1)).toNat

/-- The offsets of the four bytes that a register read prints. -/
def registerReads : List Nat := [10, 9, 8, 7]

/-- The offsets read under `switch (*(uint16_t *)(buf + 4))`, those of the opcode first. -/
def commandCompleteReads (buf : Nat → UInt8) (len : Nat) : List Nat :=
  [4, 5] ++
  if uint16At buf 4 = 0x0C03 then []
  else if uint16At buf 4 = 0x1009 then if 13 ≤ len then [12, 11, 10, 9, 8, 7] else []
  else if uint16At buf 4 = 0xFC0D then 2 :: if buf 2 = 20 then List.range' 7 16 else []
  else if uint16At buf 4 = 0x201F then
    -- There is no `break`: the register's value is printed too.
    (2 :: if 6 ≤ buf 2 then 6 :: if buf 6 = 0 then [7, 8] else [] else []) ++ registerReads
  else if uint16At buf 4 = 0xFCD1 then registerReads
  else if uint16At buf 4 = 0xFF01 then
    6 :: if buf 6 = 0 then
      7 :: if buf 7 = 0 then
        8 :: if buf 8 = WrFlag.read.toByte then [12, 11, 10, 9, 13] else []
      else [6, 7]
    else [6, 7]
  else []

/-- `while (buf[i])` over the structures of an extended inquiry result, with so many turns left. -/
def nameLoop (buf : Nat → UInt8) : Nat → Nat → Option (List Nat)
  | 0, _ => none
  | turns + 1, i =>
      if buf i = 0 then some [i]
      else
        let name := if buf (i + 1) = 8 ∨ buf (i + 1) = 9
          then List.range' (i + 2) ((buf i).toNat - 1) else []
        (nameLoop buf turns (i + ((buf i).toNat + 1))).map fun later => [i, i + 1] ++ name ++ later

def inquiryReads (buf : Nat → UInt8) (turns : Nat) : Option (List Nat) :=
  let bdaddr := [9, 8, 7, 6, 5, 4]
  if buf 1 = hceExtInquiryResult then
    (nameLoop buf turns 18).map fun names => bdaddr ++ [17] ++ names
  else if buf 1 = hceInquiryResultWithRssi then some (bdaddr ++ [17])
  else some bdaddr

/-- Where in an efuse event the block of an address stands. -/
def efuseBlock (buf : Nat → UInt8) : Nat := uint16At buf 9

def EfuseRegWr.block (efuse : EfuseRegWr) : Nat := efuse.addr.toNat / 16 * 4

def EfuseRegWr.offset (efuse : EfuseRegWr) : Nat :=
  9 + efuse.addr.toNat / 4 % 4 * 6 + 2 + efuse.addr.toNat % 4

def efuseReads (efuse : EfuseRegWr) (buf : Nat → UInt8) : List Nat :=
  [9, 10] ++ if efuse.block ≠ efuseBlock buf then [] else [efuse.offset]

/-- `boots_pkt_parsing`: the offsets it reads at, `none` when the structures have not come to an
end within so many turns. -/
def bootsPktParsing (efuse : EfuseRegWr) (buf : Nat → UInt8) (len turns : Nat) :
    Option (List Nat) :=
  if len = 0 then some []
  else if buf 0 ≠ hciEventPkt then some [0]
  else
    let reads := if buf 1 = hceCommandComplete ∧ 7 ≤ len then some (commandCompleteReads buf len)
      else if buf 1 = hceInquiryResult ∨ buf 1 = hceInquiryResultWithRssi ∨
          buf 1 = hceExtInquiryResult then inquiryReads buf turns
      else if buf 1 = hceInquiryComplete then some []
      else if buf 1 = 0xE4 ∧ efuse.wrFlag = .read then some (efuseReads efuse buf)
      else some []
    reads.map fun reads => [0, 1] ++ reads

end Connectivity.Boots
