import Mathlib.Data.List.Basic

set_option autoImplicit false

/- The hexadecimal parameters of a boots script: which bytes they are made into, and where these are
put. -/
namespace Connectivity.Boots

/-- `LINEVALUESIZE`, which is the size of `packet_value_array` too. -/
def lineValueSize : Nat := 4096

/-- The digits that `xatoi` knows. -/
def hexDigit (p : UInt8) : Option UInt8 :=
  if 48 ≤ p ∧ p ≤ 57 then some (p - 48)
  else if 65 ≤ p ∧ p ≤ 70 then some (10 + p - 65)
  else if 97 ≤ p ∧ p ≤ 102 then some (10 + p - 97)
  else none

/-- The loop of `xatoi`; behind the text there is its terminator. -/
def xatoiFrom (v : UInt8) : Nat → List UInt8 → UInt8
  | 0, _ => v
  | len + 1, p =>
      match hexDigit (p.headD 0) with
      | some digit => xatoiFrom (v * 16 + digit) len p.tail
      -- The -1 is returned as a `uint8_t`.
      | none => 255

/-- `xatoi`. -/
def xatoi (p : List UInt8) (len : Nat) : UInt8 := xatoiFrom 0 len p

/-- The tokens that `strtok_r` finds between spaces. -/
def strtokR (valueStr : List UInt8) : List (List UInt8) :=
  (valueStr.splitOn 32).filter fun token => !token.isEmpty

/-- `num`, and what has been stored at `valueIs` from its beginning on. -/
structure Value where
  num : Nat
  valueIs : List UInt8
deriving DecidableEq, Repr

/-- The inner loop over a token, with `repeat` more turns to go. A line of 8192 characters keeps
`len` in the range of an `int`. -/
def pairLoop (token : List UInt8) : Nat → Nat → Int → Value → Value
  | 0, _, _, value => value
  | turns + 1, i, len, value =>
      let splitNum := if 2 ≤ len then 2 else 1
      let ret := xatoi (token.drop (i * 2)) splitNum
      if (ret.toNat : Int) < 0 then { value with num := 0 }
      else pairLoop token turns (i + 1) (len - ((i + 1) * 2 : Nat))
        { num := value.num + 1, valueIs := value.valueIs ++ [ret] }

/-- The outer loop over the tokens. -/
def tokenLoop : List (List UInt8) → Value → Value
  | [], value => value
  | token :: rest, value =>
      let value := pairLoop token (token.length / 2 + token.length % 2) 0 token.length value
      if 0 < value.num then tokenLoop rest value else value

/-- `packet_safe_atoi`. -/
def packetSafeAtoi (valueStr : List UInt8) : Value := tokenLoop (strtokR valueStr) ⟨0, []⟩

/-- The functions for the lines of a script that have such parameters. -/
inductive PacketFun
  | funTx | funRx | funWaitrx | funCmd
deriving DecidableEq, Repr

/-- `*opktType`, `*oLen` and the bytes at `*oValue`. -/
structure LineValue where
  pktType : UInt8
  len : Nat
  value : Option (List UInt8)
deriving DecidableEq, Repr

namespace PacketFun

/-- Where in `packet_value_array` a function has the bytes put. -/
def offset : PacketFun → Nat
  | funTx | funRx | funWaitrx => 0
  | funCmd => 1

/-- What is put in front of the bytes. -/
def front : PacketFun → List UInt8
  | funTx | funRx | funWaitrx => []
  | funCmd => [1]

def pktType : PacketFun → Option (List UInt8) → UInt8
  | funTx, some text | funRx, some text | funWaitrx, some text => xatoi text 2
  | funTx, none | funRx, none | funWaitrx, none => 0
  | funCmd, _ => 1

/-- The function on the text behind the name, or on a null pointer. -/
def call (f : PacketFun) (invalue : Option (List UInt8)) : LineValue :=
  match invalue with
  | none => ⟨f.pktType none, 0, none⟩
  | some text =>
      let value := packetSafeAtoi text
      if 0 < value.num then
        ⟨f.pktType (some text), f.front.length + value.num, some (f.front ++ value.valueIs)⟩
      else ⟨f.pktType (some text), 0, none⟩

/-- The bytes that are cleared and those that are stored stay in `packet_value_array`. -/
def Inside (f : PacketFun) (invalue : List UInt8) : Prop :=
  f.offset + lineValueSize ≤ lineValueSize ∧
    f.offset + (packetSafeAtoi invalue).valueIs.length ≤ lineValueSize

end PacketFun

/-- The value of a digit. -/
def digitValue (p : UInt8) : UInt8 := (hexDigit p).getD 0

/-- The bytes that a token stands for, two digits each but for an odd last one. -/
def tokenBytes : List UInt8 → List UInt8
  | [] => []
  | [digit] => [digitValue digit]
  | high :: low :: rest => (digitValue high * 16 + digitValue low) :: tokenBytes rest

/-- The bytes that a string stands for. -/
def textBytes (valueStr : List UInt8) : List UInt8 := (strtokR valueStr).flatMap tokenBytes

/-- There are only digits in the tokens, and none of these is longer than a limit. -/
def Legal (limit : Nat) (valueStr : List UInt8) : Prop :=
  ∀ token ∈ strtokR valueStr, (∀ p ∈ token, (hexDigit p).isSome = true) ∧ token.length ≤ limit

/-- A string is made into its bytes, inside of the array, and any other than a legal one is
reported by a length of zero. -/
structure Parses (f : PacketFun) (limit : Nat) (valueStr : List UInt8) : Prop where
  inside : f.Inside valueStr
  bytes : Legal limit valueStr →
    packetSafeAtoi valueStr = ⟨(textBytes valueStr).length, textBytes valueStr⟩
  reported : ¬ Legal limit valueStr → (packetSafeAtoi valueStr).num = 0

/-- A pair of digits behind which the counter has too little left for two of them. -/
def ReadShort (token : List UInt8) (j : Nat) : Prop :=
  2 * j + 2 ≤ token.length ∧ token.length < j * (j + 1) + 2

/-- The pairs that are read short are zeros. -/
def ShortPairsZero (token : List UInt8) : Prop :=
  ∀ j, ReadShort token j → token[2 * j]? = some 48 ∧ token[2 * j + 1]? = some 48

section Xatoi

variable {token : List UInt8}

/-- What the inner loop makes of a pair: its turn, and what the counter allows it to read. -/
def pairByte (token : List UInt8) (j : Nat) : UInt8 :=
  xatoi (token.drop (j * 2)) (if 2 ≤ (token.length : Int) - (j * (j + 1) : Nat) then 2 else 1)

/-- The counter and the turns left when a pair is come to. -/
theorem pairLoop_eq (token : List UInt8) (turns i : Nat) (value : Value) :
    pairLoop token turns i ((token.length : Int) - (i * (i + 1) : Nat)) value =
      { num := value.num + turns
        valueIs := value.valueIs ++ (List.range' i turns).map (pairByte token) } := by
  induction turns generalizing i value with
  | zero =>
      rw [pairLoop, List.range'_zero, List.map_nil, List.append_nil]
      rfl
  | succ turns ih =>
      have counter : (token.length : Int) - (i * (i + 1) : Nat) - ((i + 1) * 2 : Nat) =
          (token.length : Int) - ((i + 1) * (i + 1 + 1) : Nat) := by
        have grows : (i + 1) * (i + 1 + 1) = i * (i + 1) + (i + 1) * 2 := by
          rw [Nat.mul_comm i, ← Nat.mul_add]
        rw [grows]
        omega
      have positive (ret : UInt8) : ¬ (ret.toNat : Int) < 0 := Int.not_lt.mpr (Int.natCast_nonneg _)
      rw [pairLoop]
      simp only [if_neg (positive _)]
      have count : value.num + 1 + turns = value.num + (turns + 1) := by omega
      rw [counter, ih, List.range'_succ, List.map_cons, List.append_assoc]
      simp only [count]
      rfl

/-- How many bytes a token is made into. -/
def pairs (token : List UInt8) : Nat := token.length / 2 + token.length % 2

theorem pairLoop_token (token : List UInt8) (value : Value) :
    pairLoop token (pairs token) 0 token.length value =
      { num := value.num + pairs token
        valueIs := value.valueIs ++ (List.range (pairs token)).map (pairByte token) } := by
  have start : (token.length : Int) = token.length - (0 * (0 + 1) : Nat) := by omega
  rw [start, pairLoop_eq, List.range_eq_range']

theorem pairs_pos (some : token ≠ []) : 0 < pairs token := by
  have positive := List.length_pos_of_ne_nil some
  rw [pairs]
  omega

/-- No token ends the outer loop. -/
theorem tokenLoop_eq {tokens : List (List UInt8)} (some : ∀ token ∈ tokens, token ≠ [])
    {value : Value} (count : value.num = value.valueIs.length) :
    tokenLoop tokens value =
      { num := value.num +
          (tokens.flatMap fun token => (List.range (pairs token)).map (pairByte token)).length
        valueIs := value.valueIs ++
          tokens.flatMap fun token => (List.range (pairs token)).map (pairByte token) } := by
  induction tokens generalizing value with
  | nil =>
      rw [tokenLoop, List.flatMap_nil, List.append_nil]
      rfl
  | cons token rest ih =>
      have positive := pairs_pos (some token List.mem_cons_self)
      have loop := pairLoop_token token value
      rw [pairs] at loop
      rw [tokenLoop, loop]
      simp only
      rw [if_pos (by rw [pairs] at positive; omega), ih]
      · rw [List.flatMap_cons, List.append_assoc, List.length_append, List.length_map,
          List.length_range, pairs, Nat.add_assoc]
      · exact fun other later => some other (List.mem_cons_of_mem _ later)
      · simp only
        rw [List.length_append, List.length_map, List.length_range, count]

theorem strtokR_ne_nil {valueStr : List UInt8} :
    ∀ token ∈ strtokR valueStr, token ≠ [] := by
  intro token among empty
  have kept := (List.mem_filter.mp among).2
  rw [empty] at kept
  cases kept

/-- What the code stores for a string. -/
def storedBytes (valueStr : List UInt8) : List UInt8 :=
  (strtokR valueStr).flatMap fun token => (List.range (pairs token)).map (pairByte token)

theorem packetSafeAtoi_eq (valueStr : List UInt8) :
    packetSafeAtoi valueStr = ⟨(storedBytes valueStr).length, storedBytes valueStr⟩ := by
  rw [packetSafeAtoi, tokenLoop_eq strtokR_ne_nil rfl, Nat.zero_add, List.nil_append]
  rfl

theorem tokenBytes_length (token : List UInt8) : (tokenBytes token).length = pairs token := by
  induction token using tokenBytes.induct with
  | case1 => rfl
  | case2 digit => simp [tokenBytes, pairs]
  | case3 high low rest ih =>
      rw [tokenBytes, List.length_cons, ih, pairs, pairs, List.length_cons, List.length_cons]
      omega

theorem tokenBytes_eq (token : List UInt8) :
    tokenBytes token =
      (List.range (pairs token)).map fun j => (tokenBytes (token.drop (j * 2))).headD 0 := by
  induction token using tokenBytes.induct with
  | case1 => rfl
  | case2 digit => simp [tokenBytes, pairs]
  | case3 high low rest ih =>
      have more : pairs (high :: low :: rest) = pairs rest + 1 := by
        rw [pairs, pairs, List.length_cons, List.length_cons]
        omega
      have later (j : Nat) : (high :: low :: rest).drop ((j + 1) * 2) = rest.drop (j * 2) := by
        rw [Nat.add_mul]
        rfl
      rw [more, List.range_succ_eq_map, List.map_cons, List.map_map, tokenBytes, ih]
      congr 1
      apply List.map_congr_left
      intro j _
      rw [Function.comp_apply, Nat.succ_eq_add_one, later]

end Xatoi

section Digits

variable {token : List UInt8} {high low : UInt8}

theorem digitValue_small (p : UInt8) : (digitValue p).toNat < 16 := by
  have bound := p.toNat_lt
  unfold digitValue hexDigit
  simp only [UInt8.le_iff_toNat_le, UInt8.reduceToNat]
  split
  · simp only [Option.getD_some, UInt8.toNat_sub, UInt8.reduceToNat]
    omega
  split
  · simp only [Option.getD_some, UInt8.toNat_sub, UInt8.toNat_add, UInt8.reduceToNat]
    omega
  split
  · simp only [Option.getD_some, UInt8.toNat_sub, UInt8.toNat_add, UInt8.reduceToNat]
    omega
  · decide

theorem digitValue_zero {p : UInt8} (digit : (hexDigit p).isSome = true)
    (zero : digitValue p = 0) : p = 48 := by
  have bound := p.toNat_lt
  have value := congrArg UInt8.toNat zero
  apply UInt8.toNat_inj.mp
  unfold digitValue hexDigit at value
  unfold hexDigit at digit
  simp only [UInt8.le_iff_toNat_le, UInt8.reduceToNat] at value digit ⊢
  by_cases figure : 48 ≤ p.toNat ∧ p.toNat ≤ 57
  · simp only [if_pos figure, Option.getD_some, UInt8.toNat_sub, UInt8.reduceToNat] at value
    omega
  by_cases upper : 65 ≤ p.toNat ∧ p.toNat ≤ 70
  · simp only [if_neg figure, if_pos upper, Option.getD_some, UInt8.toNat_sub, UInt8.toNat_add,
      UInt8.reduceToNat] at value
    omega
  by_cases lower : 97 ≤ p.toNat ∧ p.toNat ≤ 102
  · simp only [if_neg figure, if_neg upper, if_pos lower, Option.getD_some, UInt8.toNat_sub,
      UInt8.toNat_add, UInt8.reduceToNat] at value
    omega
  · rw [if_neg figure, if_neg upper, if_neg lower] at digit
    cases digit

theorem hexDigit_eq {p : UInt8} (digit : (hexDigit p).isSome = true) :
    hexDigit p = some (digitValue p) := by
  obtain ⟨value, found⟩ := Option.isSome_iff_exists.mp digit
  rw [digitValue, found]
  rfl

theorem xatoi_one {rest : List UInt8} (digit : (hexDigit high).isSome = true) :
    xatoi (high :: rest) 1 = digitValue high := by
  rw [xatoi, xatoiFrom, List.headD_cons, hexDigit_eq digit]
  simp only [xatoiFrom]
  rw [UInt8.zero_mul, UInt8.zero_add]

theorem xatoi_two {rest : List UInt8} (first : (hexDigit high).isSome = true)
    (second : (hexDigit low).isSome = true) :
    xatoi (high :: low :: rest) 2 = digitValue high * 16 + digitValue low := by
  rw [xatoi, xatoiFrom, List.headD_cons, hexDigit_eq first]
  simp only [xatoiFrom, List.tail_cons, List.headD_cons, hexDigit_eq second]
  rw [UInt8.zero_mul, UInt8.zero_add]

/-- One digit does for a pair only if both are zeros. -/
theorem digitValue_pair (first : (hexDigit high).isSome = true)
    (second : (hexDigit low).isSome = true) :
    digitValue high = digitValue high * 16 + digitValue low ↔ high = 48 ∧ low = 48 := by
  have highSmall := digitValue_small high
  have lowSmall := digitValue_small low
  constructor
  · intro same
    have numbers := congrArg UInt8.toNat same
    rw [UInt8.toNat_add, UInt8.toNat_mul] at numbers
    have product : (digitValue high).toNat * (16 : UInt8).toNat % 2 ^ 8 =
        (digitValue high).toNat * 16 := Nat.mod_eq_of_lt (by
      show (digitValue high).toNat * 16 < 256
      omega)
    rw [product, Nat.mod_eq_of_lt (by omega)] at numbers
    have highZero : digitValue high = 0 := UInt8.toNat_inj.mp (by
      show (digitValue high).toNat = 0
      omega)
    have lowZero : digitValue low = 0 := UInt8.toNat_inj.mp (by
      show (digitValue low).toNat = 0
      omega)
    exact ⟨digitValue_zero first highZero, digitValue_zero second lowZero⟩
  · intro zeros
    rw [zeros.1, zeros.2]
    decide

/-- The counter has never two characters left for an odd last digit. -/
theorem counter_last {j : Nat} (last : token.length = 2 * j + 1) :
    ¬ 2 ≤ (token.length : Int) - (j * (j + 1) : Nat) := by
  cases j with
  | zero => omega
  | succ j =>
      have grows : (j + 1) * 2 ≤ (j + 1) * (j + 1 + 1) := Nat.mul_le_mul_left _ (by omega)
      omega

/-- A pair is read right unless it is cut to a digit that says something else. -/
theorem pairByte_eq_iff (digits : ∀ p ∈ token, (hexDigit p).isSome = true) {j : Nat}
    (inside : j < pairs token) :
    pairByte token j = (tokenBytes (token.drop (j * 2))).headD 0 ↔
      (ReadShort token j → token[2 * j]? = some 48 ∧ token[2 * j + 1]? = some 48) := by
  have rest : ∀ p ∈ token.drop (j * 2), (hexDigit p).isSome = true :=
    fun p among => digits p (List.mem_of_mem_drop among)
  have length : (token.drop (j * 2)).length = token.length - j * 2 := List.length_drop
  have first : token[2 * j]? = (token.drop (j * 2))[0]? := by
    rw [List.getElem?_drop, Nat.mul_comm]
    rfl
  have second : token[2 * j + 1]? = (token.drop (j * 2))[1]? := by
    rw [List.getElem?_drop, Nat.mul_comm]
  rw [pairs] at inside
  rw [pairByte, first, second]
  match split : token.drop (j * 2) with
  | [] =>
      rw [split, List.length_nil] at length
      omega
  | [digit] =>
      rw [split] at rest
      rw [split, List.length_singleton] at length
      have last : token.length = 2 * j + 1 := by omega
      rw [if_neg (counter_last last), xatoi_one (rest digit List.mem_cons_self)]
      apply iff_of_true rfl
      intro short
      have pair := short.1
      omega
  | high :: low :: others =>
      rw [split] at rest
      rw [split, List.length_cons, List.length_cons] at length
      have highDigit := rest high List.mem_cons_self
      have lowDigit := rest low (List.mem_cons_of_mem _ List.mem_cons_self)
      show _ = digitValue high * 16 + digitValue low ↔
        (ReadShort token j → some high = some 48 ∧ some low = some 48)
      rw [Option.some.injEq, Option.some.injEq]
      by_cases two : 2 ≤ (token.length : Int) - (j * (j + 1) : Nat)
      · rw [if_pos two, xatoi_two highDigit lowDigit]
        apply iff_of_true rfl
        intro short
        have few := short.2
        omega
      · have short : ReadShort token j := ⟨by omega, by omega⟩
        rw [if_neg two, xatoi_one highDigit, digitValue_pair highDigit lowDigit]
        exact ⟨fun zeros _ => zeros, fun zeros => zeros short⟩

end Digits

section Texts

variable {α β : Type} {f g : α → List β} {token : List UInt8} {valueStr : List UInt8} {limit : Nat}

/-- Parts that are as long as those they are compared with are the same one by one. -/
theorem flatMap_eq_iff (lengths : ∀ x, (f x).length = (g x).length) (l : List α) :
    l.flatMap f = l.flatMap g ↔ ∀ x ∈ l, f x = g x := by
  induction l with
  | nil => exact iff_of_true rfl (by simp)
  | cons x rest ih =>
      rw [List.flatMap_cons, List.flatMap_cons, List.forall_mem_cons, ← ih]
      constructor
      · intro same
        exact List.append_inj same (lengths x)
      · intro parts
        rw [parts.1, parts.2]

theorem storedToken_iff (digits : ∀ p ∈ token, (hexDigit p).isSome = true) :
    (List.range (pairs token)).map (pairByte token) = tokenBytes token ↔ ShortPairsZero token := by
  rw [tokenBytes_eq, List.map_inj_left]
  constructor
  · intro same j short
    have inside : j < pairs token := by
      have pair := short.1
      rw [pairs]
      omega
    exact (pairByte_eq_iff digits inside).mp (same j (List.mem_range.mpr inside)) short
  · intro zeros j among
    exact (pairByte_eq_iff digits (List.mem_range.mp among)).mpr (zeros j)

theorem storedBytes_iff (legal : Legal limit valueStr) :
    storedBytes valueStr = textBytes valueStr ↔
      ∀ token ∈ strtokR valueStr, ShortPairsZero token := by
  have lengths (token : List UInt8) :
      ((List.range (pairs token)).map (pairByte token)).length = (tokenBytes token).length := by
    rw [List.length_map, List.length_range, tokenBytes_length]
  rw [storedBytes, textBytes, flatMap_eq_iff lengths]
  constructor
  · intro same token among
    exact (storedToken_iff (legal token among).1).mp (same token among)
  · intro zeros token among
    exact (storedToken_iff (legal token among).1).mpr (zeros token among)

theorem storedBytes_length (valueStr : List UInt8) :
    (storedBytes valueStr).length = (textBytes valueStr).length := by
  rw [storedBytes, textBytes, List.length_flatMap, List.length_flatMap]
  congr 1
  apply List.map_congr_left
  intro token _
  rw [List.length_map, List.length_range, tokenBytes_length]

/-- Nothing that is found in a token is reported. -/
theorem num_ne_zero (illegal : ¬ Legal limit valueStr) : (packetSafeAtoi valueStr).num ≠ 0 := by
  obtain ⟨token, among⟩ : ∃ token, token ∈ strtokR valueStr := by
    by_contra none
    exact illegal fun token among => absurd ⟨token, among⟩ none
  rw [packetSafeAtoi_eq]
  intro zero
  have empty : storedBytes valueStr = [] := List.eq_nil_of_length_eq_zero zero
  rw [storedBytes, List.flatMap_eq_nil_iff] at empty
  have length := congrArg List.length (empty token among)
  rw [List.length_map, List.length_range] at length
  exact absurd length (Nat.ne_of_gt (pairs_pos (strtokR_ne_nil token among)))

theorem inside_iff (f : PacketFun) :
    f.Inside valueStr ↔ f ≠ .funCmd ∧ (textBytes valueStr).length ≤ lineValueSize := by
  rw [PacketFun.Inside, packetSafeAtoi_eq]
  simp only
  rw [storedBytes_length]
  cases f with
  | funTx | funRx | funWaitrx =>
      simp only [PacketFun.offset]
      rw [Nat.zero_add, Nat.zero_add]
      exact ⟨fun inside => ⟨by decide, inside.2⟩, fun room => ⟨Nat.le_refl _, room.2⟩⟩
  | funCmd =>
      apply iff_of_false
      · intro inside
        exact absurd inside.1 (by decide)
      · intro room
        exact room.1 rfl

/-- Whatever the limit, a string is parsed as it should be exactly when it is legal, its bytes have
room, they are not put behind the type of a command, and no pair but of zeros is read short. -/
theorem parses_iff (f : PacketFun) (limit : Nat) (valueStr : List UInt8) :
    Parses f limit valueStr ↔
      f ≠ .funCmd ∧ (textBytes valueStr).length ≤ lineValueSize ∧ Legal limit valueStr ∧
        ∀ token ∈ strtokR valueStr, ShortPairsZero token := by
  constructor
  · intro parses
    have room := (inside_iff f).mp parses.inside
    have legal : Legal limit valueStr :=
      Classical.byContradiction fun illegal => num_ne_zero illegal (parses.reported illegal)
    have bytes := parses.bytes legal
    rw [packetSafeAtoi_eq] at bytes
    injection bytes with _ same
    exact ⟨room.1, room.2, legal, (storedBytes_iff legal).mp same⟩
  · intro condition
    obtain ⟨other, room, legal, zeros⟩ := condition
    constructor
    case inside => exact (inside_iff f).mpr ⟨other, room⟩
    case bytes =>
      intro _
      rw [packetSafeAtoi_eq, (storedBytes_iff legal).mpr zeros]
    case reported => exact fun illegal => absurd legal illegal

/-- The last pair of six digits is read short: of 010203 the last byte is a zero. -/
theorem not_parses : ¬ ∀ f limit valueStr, Parses f limit valueStr := by
  intro all
  have parses := all .funTx 6 [48, 49, 48, 50, 48, 51]
  have bytes := parses.bytes (by unfold Legal; decide +kernel)
  exact absurd bytes (by decide)

end Texts

end Connectivity.Boots
