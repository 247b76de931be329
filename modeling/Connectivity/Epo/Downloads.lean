import Connectivity.Bytes.LittleEndian

set_option autoImplicit false

/- What the downloads of epo.c, qepo.c and mtknav.c share: the results of mnld.h, the size of
a file, the words of a satellite's record and the text of an MD5 file. -/
namespace Connectivity.Epo

open Bytes

/-- The results of a download. -/
inductive DownloadResult
  | success
  | noUpdate
  | fail
  | retryTooMuch
deriving DecidableEq

/-- The results of an MD5 download. -/
inductive Md5Result
  | updated
  | noUpdate
  | fail
deriving DecidableEq

/-- `MTK_EPO_ONE_SV_SIZE`. -/
def oneSvSize : Nat := 72

def readWord (bytes : List UInt8) (offset : Nat) : BitVec 32 :=
  .ofNat 32 (fromLE (window bytes offset 4))

/-- `get_file_size`. -/
def getFileSize (sized : Bool) (file : List UInt8) : Int :=
  if sized then (BitVec.ofNat 32 file.length).toInt else -1

/-- Only the first 32 bytes are useful, and `strncmp` ends at a zero. -/
def md5Text (file : List UInt8) : List UInt8 := (file.take 32).takeWhile (· ≠ 0)

end Connectivity.Epo
