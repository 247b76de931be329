import Connectivity.WpaDriver.DriverCmd

set_option autoImplicit false

/- The launcher's two searches for firmware: the patches and the ROM patches of the chip. -/
namespace Connectivity.Launcher

open WpaDriver (ascii)

/-- A file of the patch directory, and what comes of the calls for it: the descriptor it is opened
with, whether the header can be gone to, how much each read gets at most (`none` for an error), and
whether the driver takes it. -/
structure PatchFile where
  name : List UInt8
  content : List UInt8
  fd : Option Nat
  seeks : Bool
  build : Option Nat
  high : Option Nat
  low : Option Nat
  info : Option Nat
  taken : Bool
  deriving DecidableEq, Repr

/-- What the driver is told with `ioctl`. -/
inductive DriverCall
  | setPatchNum (num : Nat)
  | setPatchInfo (downloadSeq : Nat) (address name : List UInt8)
  | setRomPatchInfo (type : UInt8) (address name : List UInt8)
  deriving DecidableEq, Repr

/-- What a search comes to. Descriptors are listed in the order they are opened and closed in;
`overflowed` is for a name that does not fit into its buffer. -/
structure Search where
  ret : Int
  isFirst : Bool
  patchBuildVer : Option (List UInt8)
  calls : List DriverCall
  opened : List Nat
  closed : List Nat
  overflowed : Bool
  deriving DecidableEq, Repr

section Prefixes

/-- The chips that are known by the number of another one. -/
def chipConversions : List (Int × Int) :=
  [(0x0321, 0x6735), (0x0335, 0x6735), (0x0337, 0x6735), (0x0326, 0x6755), (0x0279, 0x6797),
    (0x0551, 0x6757), (0x0633, 0x6570), (0x0690, 0x6763), (0x0507, 0x6759), (0x0699, 0x6739),
    (0x0713, 0x6775), (0x0788, 0x6771)]

def patchFamilies : List (List UInt8 × List Int) :=
  [(ascii "ROMv1", [0x6572, 0x6582, 0x6592]),
   (ascii "ROMv2", [0x8127, 0x6571]),
   (ascii "ROMv2_lm", [0x6755, 0x6752, 0x8163, 0x7623, 0x6735, 0x6570, 0x6580, 0x6757, 0x6763,
     0x6739, 0x8167]),
   (ascii "ROMv3", [0x6797]),
   (ascii "ROMv4", [0x6759]),
   (ascii "ROMv4_be", [0x6775, 0x6771]),
   (ascii "soc1_0", [0x6765, 0x3967, 0x6761])]

/-- `%04x`. -/
def hex4 (value : Int) : List UInt8 :=
  let digits := (Nat.toDigits 16 (BitVec.ofInt 32 value).toNat).map fun c => UInt8.ofNat c.toNat
  List.replicate (4 - digits.length) 48 ++ digits

/-- `launcher_get_patch_prefix`. -/
def launcherGetPatchPrefix (chipId : Int) : List UInt8 :=
  let chip := ((chipConversions.find? fun entry => entry.1 = chipId).map Prod.snd).getD chipId
  let family := (patchFamilies.find? fun entry => chip ∈ entry.2).map Prod.fst
  family.getD (ascii "mt" ++ hex4 chip) ++ ascii "_patch"

/-- `launcher_get_rom_patch_prefix`. -/
def launcherGetRomPatchPrefix (_ : Int) : List UInt8 := ascii "soc1_0" ++ ascii "_ram"

end Prefixes

/-- What the two searches differ in: the prefix, whether the build version of a file is published,
how much of a header is read behind the version, whether a header is accepted, whether the first
one gives the number of patches, what the driver is told and whether it is asked for its answer. -/
structure SearchKind where
  namePrefix : Int → List UInt8
  publishes : Bool
  infoLen : Nat
  accepts : List UInt8 → Bool
  counts : Bool
  call : List UInt8 → List UInt8 → DriverCall
  checks : Bool

/-- The address in a header, whose first byte is set to zero. -/
def addressOf (info : List UInt8) : List UInt8 := (info.take 4).set 0 0

/-- What `launcher_set_patch_info` tells the driver. -/
def patchKind : SearchKind where
  namePrefix := launcherGetPatchPrefix
  publishes := true
  infoLen := 4
  accepts := fun _ => true
  counts := true
  call := fun info name => .setPatchInfo ((info.getD 0 0).toNat % 16) (addressOf info) name
  checks := false

/-- What `launcher_set_rom_patch_info` tells the driver. -/
def romPatchKind : SearchKind where
  namePrefix := launcherGetRomPatchPrefix
  publishes := false
  infoLen := 8
  accepts := fun info => decide (info.getD 3 0 &&& 0xF0 ≠ 0) && decide (info.getD 7 0 ≤ 5)
  counts := false
  call := fun info name => .setRomPatchInfo (info.getD 7 0) (addressOf info) name
  checks := true

/-- A read of `size` bytes at an offset. -/
def readAt (content : List UInt8) (offset size : Nat) : Option Nat → Option (List UInt8)
  | none => none
  | some most => some ((content.drop offset).take (min most size))

/-- What `launcher_get_patch_version` returns, the two bytes of the version, which are zero where
nothing is read, and how many bytes it has gone on in the file. -/
structure PatchVersion where
  ret : Int
  high : UInt8
  low : UInt8
  passed : Nat

def launcherGetPatchVersion (e : PatchFile) : PatchVersion :=
  let first := readAt e.content 22 1 e.high
  let second := readAt e.content (22 + (first.getD []).length) 1 e.low
  { ret := if second = none then -2 else if first = none then -1 else 0
    high := (first.getD []).headD 0
    low := (second.getD []).headD 0
    passed := (first.getD []).length + (second.getD []).length }

/-- `launcher_set_patch_version`: the text that the property is set to. -/
def launcherSetPatchVersion (e : PatchFile) : List UInt8 :=
  (((readAt e.content 0 16 e.build).getD []).take 15).takeWhile (· ≠ 0)

section Searching

variable (k : SearchKind) (chipId fwVersion : Int)

/-- The driver is told of a file. -/
def Search.tell (s : Search) (e : PatchFile) (info : List UInt8) : Search :=
  let count :=
    if k.counts = true ∧ s.isFirst = true then
      [DriverCall.setPatchNum ((info.getD 0 0).toNat / 16)]
    else []
  { s with
    calls := s.calls ++ count ++ [k.call info e.name]
    isFirst := false
    ret := if k.checks = true ∧ e.taken = false then -6 else s.ret }

/-- What is done with a file whose header has been gone to. Of the version, the low byte has to be
that of the firmware: `((patch_ver ^ fw_version) & 0x00ff)` is zero. -/
def Search.inspect (s : Search) (e : PatchFile) : Search :=
  let version := launcherGetPatchVersion e
  if version.ret ≠ 0 then { s with ret := -4 }
  else if (version.low.toNat : Int) ≠ fwVersion % 256 then s
  else
    match readAt e.content (22 + version.passed) k.infoLen e.info with
    | none => { s with ret := -5 }
    | some bytes =>
        let info := bytes ++ List.replicate (8 - bytes.length) 0
        if k.accepts info = true then s.tell k e info else s

/-- The path of the file and its name are put into their buffers of 256 and 128 bytes. -/
def Search.copyNames (path : List UInt8) (s : Search) (e : PatchFile) : Search :=
  { s with overflowed := s.overflowed || decide (256 < path.length + 1 + e.name.length + 1) ||
      decide (128 < e.name.length + 1) }

/-- The body of the loop over the directory. -/
def Search.visit (path : List UInt8) (s : Search) (e : PatchFile) : Search :=
  if (k.namePrefix chipId).isPrefixOf e.name = false then s
  else
    let copied := s.copyNames path e
    match e.fd with
    | none => copied
    | some fd =>
        let opened :=
          { copied with
            opened := copied.opened ++ [fd]
            patchBuildVer :=
              if k.publishes then some (launcherSetPatchVersion e) else copied.patchBuildVer }
        let inspected := if e.seeks = true then opened.inspect k fwVersion e else opened
        { inspected with closed := inspected.closed ++ [fd] }

/-- The path of the directory: `patch_path` is overwritten, but for its character behind the new
one, which is not made a terminator. -/
def patchPath (patchPath : List UInt8) : List UInt8 :=
  ascii "/vendor/firmware" ++ ((patchPath.drop 16).take 1).takeWhile (· ≠ 0)

/-- A search, in a directory that is opened or not. The prefix has a buffer of 16 bytes. -/
def searchPatches (wmtFd : Int) (path : List UInt8) (dir : Option (List PatchFile)) : Search :=
  let start : Search := ⟨0, true, none, [], [], [], false⟩
  if wmtFd ≤ 0 then { start with ret := -1 }
  else
    let named := { start with overflowed := decide (16 < (k.namePrefix chipId).length + 1) }
    match dir with
    | none => { named with ret := -3 }
    | some files => files.foldl (Search.visit k chipId fwVersion (patchPath path)) named

end Searching

/-- `cmd_hdr_sch_patch`. -/
def cmdHdrSchPatch := searchPatches patchKind

/-- `cmd_hdr_sch_rom_patch`. -/
def cmdHdrSchRomPatch := searchPatches romPatchKind

end Connectivity.Launcher
