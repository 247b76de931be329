import Connectivity.Table.Bubble
import Connectivity.WpaDriver.DriverCmd

set_option autoImplicit false

/- The dumper of the connectivity chip's memory: the names it finds when it starts, sorted by their
dates, and what it does with each packet of the driver. -/
namespace Connectivity.StpDump

open WpaDriver (isDigit)

/-- The text in a row of bytes. -/
def cstr (row : List UInt8) : List UInt8 := row.takeWhile (· ≠ 0)

def strncpy (dst src : List UInt8) (n : Nat) : List UInt8 :=
  (cstr src).take n ++ List.replicate (n - (cstr src).length) 0 ++ dst.drop n

def comStrMax : Nat := 100

/-- The length of a name as it is copied with. -/
def copyLen (row : List UInt8) : Nat :=
  if (cstr row).length ≤ comStrMax then (cstr row).length else comStrMax

/-- A copy of so many bytes the last of which is made the terminator, `none` where that lies in
front of the row. -/
def copyCut (dst src : List UInt8) (len : Nat) : Option (List UInt8) :=
  if len = 0 then none else some ((strncpy dst src len).set (len - 1) 0)

/-- What `bubble_sort` does with two names in the wrong order. Of `temp` only its text is used
again, so that what it held before does not matter. -/
def exchange (x y : List UInt8) : Option (List UInt8 × List UInt8) :=
  (copyCut [] x (copyLen x)).bind fun temp =>
    (copyCut x y (copyLen y)).bind fun upper =>
      (copyCut y temp (copyLen y)).map fun lower => (upper, lower)

section Sorting

variable (atoi : List UInt8 → Int)

/-- `atoi(&a[i][10]) > atoi(&a[i+1][10])`. -/
def wrongOrder (x y : List UInt8) : Bool := decide (atoi (x.drop 10) > atoi (y.drop 10))

/-- `bubble_sort`, with the `atoi` of the library; `none` when it writes in front of a row. -/
def bubbleSort (a : List (List UInt8)) : Option (List (List UInt8)) :=
  Bubble.sort (wrongOrder atoi) exchange a

/-- The time stamp in a name. -/
def stamp (name : List UInt8) : Nat :=
  ((name.drop 10).takeWhile isDigit).foldl (fun n char => n * 10 + (char.toNat - 48)) 0

def InOrder (a : List (List UInt8)) : Prop :=
  a.Pairwise fun x y => stamp (cstr x) ≤ stamp (cstr y)

/-- The names are the same as before, in the order of their time stamps. -/
def Sorts (a : List (List UInt8)) : Prop :=
  ∃ sorted, bubbleSort atoi a = some sorted ∧ (sorted.map cstr).Perm (a.map cstr) ∧ InOrder sorted

/-- No name has a larger key than the one behind it. -/
def NothingMoves (a : List (List UInt8)) : Prop :=
  a.IsChain fun x y => atoi (x.drop 10) ≤ atoi (y.drop 10)

end Sorting

variable {atoi : List UInt8 → Int} {row dst src x y : List UInt8} {len k : Nat}
  {a : List (List UInt8)}

theorem cstr_le (nul : row[k]? = some 0) : (cstr row).length ≤ k := by
  induction row generalizing k with
  | nil => cases nul
  | cons char rest ih =>
      cases k with
      | zero =>
          cases nul
          exact Nat.le_refl 0
      | succ k =>
          have behind := ih nul
          rw [cstr, List.takeWhile_cons]
          split
          · exact Nat.succ_le_succ behind
          · exact Nat.zero_le _

/-- A copy is shorter than what is copied with, and no longer than what is copied. -/
theorem copyCut_length (copied : copyCut dst src len = some row) :
    0 < len ∧ (cstr row).length ≤ len - 1 ∧ (cstr row).length ≤ (cstr src).length := by
  unfold copyCut at copied
  by_cases none : len = 0
  · rw [if_pos none] at copied
    cases copied
  rw [if_neg none] at copied
  cases copied
  have cut : ((strncpy dst src len).set (len - 1) 0)[len - 1]? = some 0 := by
    rw [List.getElem?_set_self]
    simp only [strncpy, List.length_append, List.length_take, List.length_replicate]
    omega
  refine ⟨by omega, cstr_le cut, ?_⟩
  by_cases short : (cstr src).length < len
  · -- What is copied ends before the copy does, and is filled up with zeros.
    apply cstr_le
    by_cases last : len - 1 = (cstr src).length
    · rw [← last]
      exact cut
    · rw [List.getElem?_set_ne last, strncpy, List.take_of_length_le (by omega),
        List.append_assoc, List.getElem?_append_right (Nat.le_refl _), Nat.sub_self]
      cases room : len - (cstr src).length with
      | zero => omega
      | succ more => rfl
  · have ends := cstr_le cut
    omega

theorem copyLen_le (row : List UInt8) : copyLen row ≤ (cstr row).length := by
  unfold copyLen
  split
  · exact Nat.le_refl _
  · omega

/-- An exchange loses a character of each of the names. -/
theorem exchange_loses : Bubble.Loses (fun row => (cstr row).length) exchange := by
  intro x y both made
  obtain ⟨temp, first, rest⟩ := Option.bind_eq_some_iff.mp made
  obtain ⟨upper, second, later⟩ := Option.bind_eq_some_iff.mp rest
  obtain ⟨lower, third, rfl⟩ := Option.map_eq_some_iff.mp later
  have held := copyCut_length first
  have above := copyCut_length second
  have below := copyCut_length third
  have ofX : copyLen x ≤ (cstr x).length := copyLen_le x
  have ofY : copyLen y ≤ (cstr y).length := copyLen_le y
  show (cstr upper).length + (cstr lower).length < (cstr x).length + (cstr y).length
  omega

theorem still_iff : Bubble.Still (wrongOrder atoi) a ↔ NothingMoves atoi a := by
  have same : ∀ x y, wrongOrder atoi x y = false ↔ atoi (x.drop 10) ≤ atoi (y.drop 10) := by
    intro x y
    rw [wrongOrder, decide_eq_false_iff_not, gt_iff_lt, Int.not_lt]
  constructor
  · exact List.IsChain.imp fun x y => (same x y).mp
  · exact List.IsChain.imp fun x y => (same x y).mpr

theorem total_names : Bubble.total (fun row => (cstr row).length) a =
    Bubble.total List.length (a.map cstr) := by
  induction a with
  | nil => rfl
  | cons row rest ih => rw [Bubble.total, ih, List.map_cons, Bubble.total]

/-- The lists of names that are sorted: those in which nothing moves because they are in order. -/
theorem sorts_iff (atoi : List UInt8 → Int) (a : List (List UInt8)) :
    Sorts atoi a ↔ NothingMoves atoi a ∧ InOrder a := by
  constructor
  · rintro ⟨sorted, done, names, ordered⟩
    have kept := @Bubble.total_perm _ List.length _ _ names
    rw [← total_names, ← total_names] at kept
    obtain ⟨still, same⟩ := Bubble.sort_kept exchange_loses done kept
    rw [same] at ordered
    exact ⟨still_iff.mp still, ordered⟩
  · rintro ⟨nothing, ordered⟩
    exact ⟨a, Bubble.passes_still (still_iff.mpr nothing), List.Perm.refl _, ordered⟩

/-- The `atoi` of a library whose `long` has 64 bits. -/
def atoi64 (text : List UInt8) : Int :=
  (BitVec.ofInt 32 (WpaDriver.atoi 9223372036854775807 text)).toInt

/-- The name that a dump of a date is given. -/
def dumpName (date : List UInt8) : List UInt8 :=
  [99, 111, 109, 98, 111, 95, 116, 51, 50, 95] ++ date.map (48 + ·) ++ [46, 99, 109, 109]

/-- Two dumps, of the 2nd of January 2024 and of the day before. -/
theorem not_sorts : ¬ Sorts atoi64
    [dumpName [2, 0, 2, 4, 0, 1, 0, 2, 0, 0, 0, 0, 0, 0] ++ [0],
      dumpName [2, 0, 2, 4, 0, 1, 0, 1, 0, 0, 0, 0, 0, 0] ++ [0]] := by
  rintro ⟨sorted, done, names, _⟩
  have cut : (bubbleSort atoi64
      [dumpName [2, 0, 2, 4, 0, 1, 0, 2, 0, 0, 0, 0, 0, 0] ++ [0],
        dumpName [2, 0, 2, 4, 0, 1, 0, 1, 0, 0, 0, 0, 0, 0] ++ [0]]).map (List.map cstr) =
      some [(dumpName [2, 0, 2, 4, 0, 1, 0, 1, 0, 0, 0, 0, 0, 0]).dropLast,
        (dumpName [2, 0, 2, 4, 0, 1, 0, 2, 0, 0, 0, 0, 0, 0]).dropLast] := by decide
  rw [done, Option.map_some] at cut
  rw [Option.some.inj cut] at names
  exact absurd names (by decide)

end Connectivity.StpDump

namespace Connectivity.StpDump

open WpaDriver (ascii occurs)

def comboT32Dir : List UInt8 := ascii "/sdcard/mtklog/connsyslog/connsysdump/"

def comboT32Name : List UInt8 := ascii "combo_t32"

def comboT32Ename : List UInt8 := ascii ".cmm"

def emiEname : List UInt8 := ascii ".emi"

def emicoredumpCmd : List UInt8 := ascii "emicoredump"

def comboT32NumMax : Nat := 50

/-- A `FILE *`: none, one whose file has been closed, one whose file is open. -/
inductive Stream
  | null | closed | opened
  deriving DecidableEq, Repr

/-- Dump data that are written: where they go, how far into what `recv` has been given they reach,
and how much of that has been received. -/
structure Written where
  stream : Stream
  upTo : Int
  received : Int
  deriving DecidableEq, Repr

/-- The statics of the dumper. `history` has all the names that have been recorded, `writes` what
has been written of the packets, `overflowed` that a signed counter has. -/
structure Dumper where
  fpT32 : Stream
  startDump : Bool
  comboT32Num : Int
  listHead : List (List UInt8)
  comboEmi : List UInt8
  history : List (List UInt8)
  writes : List Written
  overflowed : Bool
  deriving DecidableEq, Repr

section Init

/-- The part of a name from its last dot on. -/
def ending : List UInt8 → List UInt8
  | [] => []
  | char :: rest => if 46 ∈ rest then ending rest else if char = 46 then char :: rest else []

/-- `combo_t32_xxxx.cmm`. -/
def isDumpName (name : List UInt8) : Bool :=
  comboT32Name.isPrefixOf name && comboT32Ename.isPrefixOf (ending name)

/-- The loop over the directory, from which it takes `left` names more; it ends at a name that is
too long. A row is what the name has been copied to. -/
def foundNames : Nat → List (List UInt8) → List (List UInt8)
  | _, [] => []
  | left, row :: rest =>
      if isDumpName (cstr row) = false then foundNames left rest
      else if left = 0 then []
      else if (cstr row).length + 1 > 100 then []
      else row :: foundNames (left - 1) rest

/-- The part of `stp_dump_ctrl_iface_trace_logger_init` behind the directories: `none` when it
writes beside its rows. -/
def traceLoggerInit (atoi : List UInt8 → Int) (dir : List (List UInt8)) : Option Dumper :=
  (bubbleSort atoi (foundNames comboT32NumMax dir)).bind fun fileName =>
    let names := fileName.map fun row => comboT32Dir ++ cstr row
    if names.all fun name => decide (name.length < 100) then
      some ⟨.closed, true, fileName.length, names, [], names, [], false⟩
    else none

end Init

/-- The memory around a buffer, which begins at `base`. -/
structure Memory where
  bytes : List UInt8
  base : Nat
  deriving DecidableEq, Repr

def Memory.byte (m : Memory) (offset : Int) : UInt8 := m.bytes.getD (m.base + offset).toNat 0

/-- The text that begins at an offset. -/
def Memory.text (m : Memory) (offset : Int) : List UInt8 :=
  cstr (m.bytes.drop (m.base + offset).toNat)

/-- What a call of the decoder comes upon: the mode of the system, what `recv` returns and what is
in `mBuffer` then, the date, and whether the folder is there and the files can be opened. -/
structure Packet where
  coredumpMode : Int
  size : Int
  mBuffer : Memory
  date : List UInt8
  folder : Bool
  t32Opens : Bool
  emiOpens : Bool
  deriving DecidableEq, Repr

namespace Packet

variable (p : Packet)

/-- A number of `width` bytes, the low one first. -/
def number (offset : Int) : Nat → Nat
  | 0 => 0
  | width + 1 => (p.mBuffer.byte offset).toNat + 256 * number (offset + 1) width

def nlmsgLen : Nat := p.number 0 4

def nlmsgType : Nat := p.number 4 2

/-- `NLMSG_OK`. -/
def nlmsgOk : Bool :=
  decide (16 ≤ p.size) && decide (16 ≤ p.nlmsgLen) && decide (p.nlmsgLen ≤ p.size)

/-- A byte of `stpmsghdr`, which is behind the headers of netlink. -/
def stpmsghdr (offset : Int) : UInt8 := p.mBuffer.byte (24 + offset)

/-- The packet is received, and is one of a dump. -/
def accepted : Bool :=
  decide (p.coredumpMode ≠ 0) && decide (0 ≤ p.size) && p.nlmsgOk && decide (p.nlmsgType ≠ 2) &&
    decide (p.stpmsghdr 0 = 91 ∧ p.stpmsghdr 1 = 77 ∧ p.stpmsghdr 2 = 93)

/-- `file_name_len`. -/
def fileNameLen : Nat :=
  comboT32Dir.length + comboT32Name.length + p.date.length + comboT32Ename.length + 2

/-- The name of a file of the dump. -/
def dumpFile (ename : List UInt8) : List UInt8 :=
  comboT32Dir ++ comboT32Name ++ [95] ++ p.date ++ ename

/-- The packet is one that asks for the memory itself. -/
def isEmi : Bool := occurs emicoredumpCmd (p.mBuffer.text 29)

/-- A `char` as an `int`. -/
def charValue (signedChar : Bool) (char : UInt8) : Int :=
  if signedChar = true ∧ 128 ≤ char.toNat then (char.toNat : Int) - 256 else char.toNat

/-- The declared length. -/
def len (signedChar : Bool) : Int :=
  charValue signedChar (p.stpmsghdr 4) * 256 + charValue signedChar (p.stpmsghdr 3)

/-- How far in front of its end the text is searched a second time: all of a long packet, else
from a `c` on. -/
def endFrom (len : Int) : Int :=
  if len < 1024 then
    (((List.range 49).map (· + 1)).find? fun i => p.stpmsghdr (len - (i : Nat)) = 99).getD 50
  else len

/-- The packet is the last one of a dump. -/
def isEnd (len : Int) : Bool :=
  occurs (ascii "coredump end") (p.mBuffer.text 29) ||
    occurs (ascii "coredump end") (p.mBuffer.text (24 + (len - p.endFrom len)))

end Packet

namespace Dumper

variable (s : Dumper)

/-- A name that is recorded: in place of the oldest one if there are too many. -/
def record (name : List UInt8) : Dumper :=
  let comboT32Num := s.comboT32Num + 1
  let kept := if comboT32Num < comboT32NumMax then s.listHead else s.listHead.tail
  { s with
    comboT32Num := comboT32Num
    listHead := kept ++ [name]
    history := s.history ++ [name]
    overflowed := s.overflowed || decide (comboT32Num > 2147483647) }

/-- The start of a dump, and whether the packet is looked at any further. -/
def startOfDump (p : Packet) : Dumper × Bool :=
  if p.fileNameLen > 100 then (s, false)
  else if p.folder = false then (s, false)
  else
    let named := { s with comboEmi := p.dumpFile emiEname }
    if p.coredumpMode = 2 then
      if p.t32Opens = false then ({ named with fpT32 := .null }, false)
      else ({ named.record (p.dumpFile comboT32Ename) with fpT32 := .opened, startDump := false },
        true)
    else ({ named with startDump := false }, true)

/-- What is done for `emicoredump`; its file is one of its own. -/
def emiDump (p : Packet) : Dumper :=
  if p.emiOpens = false then { s with startDump := true }
  else { s with startDump := true, writes := s.writes ++ [⟨.opened, 0, p.size⟩] }

/-- What is done with the data of a packet, and at the end of a dump. -/
def dumpData (signedChar combo : Bool) (p : Packet) : Dumper :=
  let len := p.len signedChar
  let written := if 0 < len then s.writes ++ [⟨s.fpT32, 29 + len, p.size⟩] else s.writes
  if p.isEnd len then
    { s with writes := written, fpT32 := .null, startDump := s.startDump || combo }
  else { s with writes := written }

/-- `stp_dump_ctrl_iface_trace_logger_decode`, for a combo chip or another one. -/
def traceLoggerDecode (signedChar combo : Bool) (p : Packet) : Dumper :=
  if p.accepted = false then s
  else
    let started := if s.startDump then s.startOfDump p else (s, true)
    if started.2 = false then started.1
    else if p.isEmi then started.1.emiDump p
    else started.1.dumpData signedChar combo p

end Dumper

end Connectivity.StpDump
