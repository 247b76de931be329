import Mathlib.Algebra.Group.Nat.Defs
import Mathlib.Data.List.Basic
import Mathlib.Data.Int.Init

set_option autoImplicit false

/- The fields of an NMEA sentence and the numbers in them. -/
namespace Connectivity.Nmea

/-- A 32-bit `int` after an operation that may have left its range. -/
def int32 (value : Int) : Int := value.bmod (2 ^ 32)

def newline : UInt8 := 10

def comma : UInt8 := 44

/-- The loop of `str2int` over the digits, `none` where one of the bytes is not a digit. -/
def digits : Int → List UInt8 → Option Int
  | result, [] => some result
  | result, byte :: rest =>
      if 48 ≤ byte ∧ byte ≤ 57 then digits (int32 (result * 10 + (byte.toNat - 48))) rest else none

def str2int (bytes : List UInt8) : Int :=
  match bytes with
  | 45 :: rest => ((digits 0 rest).map fun result => int32 (-result)).getD (-1)
  | _ => (digits 0 bytes).getD (-1)

/-- The text between the commas; a comma at the very end starts no field. -/
def fields : List UInt8 → List UInt8 → List (List UInt8)
  | token, [] => if token = [] then [] else [token]
  | token, byte :: rest =>
      if byte = comma then token :: fields [] rest else fields (token ++ [byte]) rest

def dropDollar : List UInt8 → List UInt8
  | 36 :: rest => rest
  | bytes => bytes

/-- A newline at the end, with a carriage return before it. -/
def dropLineEnd (bytes : List UInt8) : List UInt8 :=
  if bytes.getLast? = some newline then
    if bytes.dropLast.getLast? = some 13 then bytes.dropLast.dropLast else bytes.dropLast
  else bytes

def dropChecksum (bytes : List UInt8) : List UInt8 :=
  if 3 ≤ bytes.length ∧ bytes[bytes.length - 3]? = some 42 then bytes.take (bytes.length - 3)
  else bytes

/-- `MAX_NMEA_TOKENS`. -/
def maxNmeaTokens : Nat := 64

/-- `nmea_tokenizer_init`. -/
def tokenize (line : List UInt8) : List (List UInt8) :=
  (fields [] (dropChecksum (dropLineEnd (dropDollar line)))).take maxNmeaTokens

/-- `nmea_tokenizer_get`: a token that is not there is empty. -/
def getToken (tokens : List (List UInt8)) (index : Nat) : List UInt8 := tokens.getD index []

/-- `memcmp` at an offset in a token. What follows a token in the line is a comma, a star
or a line end, none of which the texts compared with contain. -/
def textAt (text : List UInt8) (offset : Nat) (token : List UInt8) : Bool :=
  (token.drop offset).take text.length == text

/-- What the parser needs of floating point, `double` and `float` alike, of the C library's
calendar and of the platform's headers. `knot` is 1.942795467, `toInt` the cast to `int`,
`today` the date in UTC, and `mktime` takes year, month, day, hour, minute and second. -/
structure Platform (F : Type) where
  gpsMaxSvs : Nat
  ofInt : Int → F
  knot : F
  strtod : List UInt8 → F
  floor : F → F
  neg : F → F
  add : F → F → F
  sub : F → F → F
  mul : F → F → F
  div : F → F → F
  toInt : F → Int
  today : Int × Int × Int
  mktime : Int → Int → Int → Int → Int → Int → Int
  utcDiff : Int

namespace Platform

variable {F : Type} (platform : Platform F)

def str2float (bytes : List UInt8) : F :=
  if 16 ≤ bytes.length then platform.ofInt 0 else platform.strtod bytes

def convertFromHhmm (token : List UInt8) : F :=
  let val := platform.str2float token
  let degrees := platform.ofInt
    (platform.toInt (platform.div (platform.floor val) (platform.ofInt 100)))
  let minutes := platform.sub val (platform.mul degrees (platform.ofInt 100))
  platform.add degrees (platform.div minutes (platform.ofInt 60))

end Platform

/-- A platform for sentences all of whose numbers are whole. -/
def intPlatform : Platform Int where
  gpsMaxSvs := 32
  ofInt := id
  knot := 1
  strtod bytes := (digits 0 (bytes.takeWhile fun byte => 48 ≤ byte ∧ byte ≤ 57)).getD 0
  floor := id
  neg := (- ·)
  add := (· + ·)
  sub := (· - ·)
  mul := (· * ·)
  div := (· / ·)
  toInt := int32
  today := (2016, 1, 1)
  mktime _ _ _ hour minute second := hour * 3600 + minute * 60 + second
  utcDiff := 0

end Connectivity.Nmea
