import Connectivity.Nmea.Tokens
import Mathlib.Data.List.GetD

set_option autoImplicit false

/- nmea_parser.c: the tokenizer, which walks over a sentence with pointers, and the fields that the
tokens are. -/
namespace Connectivity.Nmea

/-- The bytes of a sentence from `p` up to `end`. -/
structure Span where
  p : Nat
  stop : Nat
deriving DecidableEq, Repr

def Span.text (line : List UInt8) (span : Span) : List UInt8 :=
  (line.drop span.p).take (span.stop - span.p)

/-- A token is a part of the sentence, or the static `dummy`. -/
inductive Token
  | span (place : Span)
  | dummy
deriving DecidableEq, Repr

def Token.text (line : List UInt8) : Token → List UInt8
  | .span place => place.text line
  | .dummy => []

/-- `memchr` over `n` bytes from `p` on. -/
def memchr (line : List UInt8) (c : UInt8) : Nat → Nat → Option Nat
  | _, 0 => none
  | p, n + 1 => if line.getD p 0 = c then some p else memchr line c (p + 1) n

theorem memchr_inside {line : List UInt8} {c : UInt8} {p n q : Nat}
    (found : memchr line c p n = some q) : p ≤ q ∧ q < p + n := by
  induction n generalizing p with
  | zero => cases found
  | succ n ih =>
      rw [memchr] at found
      split at found
      · cases found
        omega
      · have later := ih found
        omega

section Init

variable (line : List UInt8)

/-- The initial '$' is optional. -/
def skipDollar (span : Span) : Span :=
  if span.p < span.stop ∧ line.getD span.p 0 = 36 then { span with p := span.p + 1 } else span

/-- The trailing newline. -/
def cutLineEnd (span : Span) : Span :=
  if span.p < span.stop ∧ line.getD (span.stop - 1) 0 = newline then
    if span.p < span.stop - 1 ∧ line.getD (span.stop - 1 - 1) 0 = 13 then
      { span with stop := span.stop - 1 - 1 }
    else { span with stop := span.stop - 1 }
  else span

/-- The checksum at the end of the sentence. -/
def cutChecksum (span : Span) : Span :=
  if span.p + 3 ≤ span.stop ∧ line.getD (span.stop - 3) 0 = 42 then
    { span with stop := span.stop - 3 }
  else span

/-- The comma behind `p`, or the end. -/
def fieldEnd (stop p : Nat) : Nat := (memchr line comma p (stop - p)).getD stop

theorem fieldEnd_inside {stop p : Nat} (more : p < stop) :
    p ≤ fieldEnd line stop p ∧ fieldEnd line stop p ≤ stop := by
  rw [fieldEnd]
  cases found : memchr line comma p (stop - p) with
  | none => exact ⟨Nat.le_of_lt more, Nat.le_refl stop⟩
  | some q =>
      have inside := memchr_inside found
      simp only [Option.getD_some]
      omega

def keepToken (p q : Nat) (tokens : List Span) : List Span :=
  if p ≤ q ∧ tokens.length < maxNmeaTokens then tokens ++ [⟨p, q⟩] else tokens

/-- Where the next field begins. -/
def behind (stop q : Nat) : Nat := if q < stop then q + 1 else q

/-- The loop of `nmea_tokenizer_init`. -/
def tokensFrom (stop p : Nat) (tokens : List Span) : List Span :=
  if _ : p < stop then
    tokensFrom stop (behind stop (fieldEnd line stop p))
      (keepToken p (fieldEnd line stop p) tokens)
  else tokens
termination_by stop - p
decreasing_by
  have inside := fieldEnd_inside line ‹p < stop›
  rw [behind]
  split <;> omega

/-- The sentence without its `$`, its line end and its checksum. -/
def payloadSpan : Span :=
  cutChecksum line (cutLineEnd line (skipDollar line ⟨0, line.length⟩))

/-- `nmea_tokenizer_init`, the tokens that are filled in. -/
def nmeaTokenizerInit : List Span :=
  tokensFrom line (payloadSpan line).stop (payloadSpan line).p []

end Init

/-- `nmea_tokenizer_get`. -/
def nmeaTokenizerGet (tokens : List Span) (index : Int) : Token :=
  if index < 0 ∨ (tokens.length : Int) ≤ index then .dummy
  else (tokens[index.toNat]?).elim .dummy .span

/-- The payload of a sentence, by its bytes. -/
def payload (line : List UInt8) : List UInt8 := dropChecksum (dropLineEnd (dropDollar line))

section Texts

variable {line : List UInt8} {p stop : Nat}

theorem text_length (inside : stop ≤ line.length) :
    (Span.text line ⟨p, stop⟩).length = stop - p := by
  simp only [Span.text, List.length_take, List.length_drop]
  omega

theorem text_empty (least : stop ≤ p) : Span.text line ⟨p, stop⟩ = [] := by
  simp only [Span.text, Nat.sub_eq_zero_of_le least, List.take_zero]

theorem text_cons (some : p < stop) (inside : stop ≤ line.length) :
    Span.text line ⟨p, stop⟩ = line.getD p 0 :: Span.text line ⟨p + 1, stop⟩ := by
  have here : p < line.length := by omega
  have left : stop - p = stop - (p + 1) + 1 := by omega
  simp only [Span.text]
  rw [List.drop_eq_getElem_cons here, left, List.take_succ_cons, List.getD_eq_getElem _ _ here]

theorem text_concat (some : p < stop) (inside : stop ≤ line.length) :
    Span.text line ⟨p, stop⟩ = Span.text line ⟨p, stop - 1⟩ ++ [line.getD (stop - 1) 0] := by
  have last : stop - 1 < line.length := by omega
  have left : stop - p = stop - 1 - p + 1 := by omega
  have there : stop - 1 - p < (line.drop p).length := by
    rw [List.length_drop]
    omega
  have place : p + (stop - 1 - p) = stop - 1 := by omega
  simp only [Span.text]
  rw [left, List.take_succ_eq_append_getElem there, List.getElem_drop,
    List.getD_eq_getElem _ _ last]
  simp only [place]

theorem text_whole : Span.text line ⟨0, line.length⟩ = line := List.take_length

/-- A span of a sentence. -/
structure Span.Inside (line : List UInt8) (span : Span) : Prop where
  ordered : span.p ≤ span.stop
  within : span.stop ≤ line.length

variable {span : Span}

theorem skipDollar_inside (inside : span.Inside line) : (skipDollar line span).Inside line := by
  have ordered := inside.ordered
  rw [skipDollar]
  split
  · exact ⟨by simp only; omega, inside.within⟩
  · exact inside

theorem skipDollar_text (inside : span.Inside line) :
    (skipDollar line span).text line = dropDollar (span.text line) := by
  have within := inside.within
  rw [skipDollar]
  by_cases some : span.p < span.stop
  · rw [show span = ⟨span.p, span.stop⟩ from rfl, text_cons some within]
    split
    · rename_i dollar
      rw [dollar.2]
      rfl
    · rename_i other
      have different : line.getD span.p 0 ≠ 36 := fun same => other ⟨some, same⟩
      rw [dropDollar, text_cons some within]
      exact fun _ same => different (List.cons.inj same).1
  · rw [if_neg fun both => some both.1, show span = ⟨span.p, span.stop⟩ from rfl,
      text_empty (Nat.not_lt.mp some)]
    rfl

theorem cutLineEnd_inside (inside : span.Inside line) : (cutLineEnd line span).Inside line := by
  have ordered := inside.ordered
  have within := inside.within
  rw [cutLineEnd]
  split
  · split
    · exact ⟨by simp only; omega, by simp only; omega⟩
    · exact ⟨by simp only; omega, by simp only; omega⟩
  · exact inside

theorem cutLineEnd_text (inside : span.Inside line) :
    (cutLineEnd line span).text line = dropLineEnd (span.text line) := by
  have within := inside.within
  rw [cutLineEnd, dropLineEnd]
  by_cases some : span.p < span.stop
  · have last : (span.text line).getLast? = .some (line.getD (span.stop - 1) 0) := by
      rw [show span = ⟨span.p, span.stop⟩ from rfl, text_concat some within,
        List.getLast?_concat]
    have front : (span.text line).dropLast = Span.text line ⟨span.p, span.stop - 1⟩ := by
      rw [show span = ⟨span.p, span.stop⟩ from rfl, text_concat some within,
        List.dropLast_concat]
    simp only [last, front, Option.some.injEq]
    by_cases newlined : line.getD (span.stop - 1) 0 = newline
    · rw [if_pos ⟨some, newlined⟩, if_pos newlined]
      by_cases more : span.p < span.stop - 1
      · have lastBut : (Span.text line ⟨span.p, span.stop - 1⟩).getLast? =
            .some (line.getD (span.stop - 1 - 1) 0) := by
          rw [text_concat more (by omega), List.getLast?_concat]
        have frontBut : (Span.text line ⟨span.p, span.stop - 1⟩).dropLast =
            Span.text line ⟨span.p, span.stop - 1 - 1⟩ := by
          rw [text_concat more (by omega), List.dropLast_concat]
        simp only [lastBut, frontBut, Option.some.injEq]
        by_cases returned : line.getD (span.stop - 1 - 1) 0 = 13
        · rw [if_pos ⟨more, returned⟩, if_pos returned]
        · rw [if_neg fun both => returned both.2, if_neg returned]
      · rw [if_neg fun both => more both.1, text_empty (Nat.not_lt.mp more)]
        rfl
    · rw [if_neg fun both => newlined both.2, if_neg newlined]
  · have empty : span.text line = [] := text_empty (Nat.not_lt.mp some)
    rw [if_neg fun both => some both.1, empty]
    rfl

theorem cutChecksum_inside (inside : span.Inside line) : (cutChecksum line span).Inside line := by
  have within := inside.within
  rw [cutChecksum]
  split
  · exact ⟨by simp only; omega, by simp only; omega⟩
  · exact inside

theorem cutChecksum_text (inside : span.Inside line) :
    (cutChecksum line span).text line = dropChecksum (span.text line) := by
  have within := inside.within
  have ordered := inside.ordered
  have length : (span.text line).length = span.stop - span.p := text_length within
  rw [cutChecksum, dropChecksum, length]
  by_cases room : span.p + 3 ≤ span.stop
  · have three : 3 ≤ span.stop - span.p := by omega
    have there : span.stop - 3 < line.length := by omega
    have place : span.p + (span.stop - span.p - 3) = span.stop - 3 := by omega
    have star : (span.text line)[span.stop - span.p - 3]? = some (line.getD (span.stop - 3) 0) := by
      rw [Span.text, List.getElem?_take_of_lt (by omega), List.getElem?_drop, place,
        List.getElem?_eq_getElem there, List.getD_eq_getElem _ _ there]
    have front : (span.text line).take (span.stop - span.p - 3) =
        Span.text line ⟨span.p, span.stop - 3⟩ := by
      rw [Span.text, Span.text, List.take_take]
      congr 1
      simp only
      omega
    simp only [star, front, Option.some.injEq]
    by_cases checked : line.getD (span.stop - 3) 0 = 42
    · rw [if_pos ⟨room, checked⟩, if_pos ⟨three, checked⟩]
    · rw [if_neg fun both => checked both.2, if_neg fun both => checked both.2]
  · rw [if_neg fun both => room both.1, if_neg fun both => room (by omega)]

theorem payloadSpan_inside (line : List UInt8) : (payloadSpan line).Inside line :=
  cutChecksum_inside (cutLineEnd_inside (skipDollar_inside
    ⟨Nat.zero_le _, Nat.le_refl _⟩))

/-- The pointers end up around the payload. -/
theorem payloadSpan_text (line : List UInt8) : (payloadSpan line).text line = payload line := by
  have whole : Span.Inside line ⟨0, line.length⟩ := ⟨Nat.zero_le _, Nat.le_refl _⟩
  have behind := skipDollar_inside whole
  rw [payloadSpan, cutChecksum_text (cutLineEnd_inside behind), cutLineEnd_text behind,
    skipDollar_text whole, text_whole, payload]

end Texts

section Fields

variable {line : List UInt8} {p stop : Nat}

theorem fields_found {n q : Nat} (token : List UInt8) (inside : p + n ≤ line.length)
    (found : memchr line comma p n = some q) :
    fields token (Span.text line ⟨p, p + n⟩) =
      (token ++ Span.text line ⟨p, q⟩) :: fields [] (Span.text line ⟨q + 1, p + n⟩) := by
  induction n generalizing p token with
  | zero => cases found
  | succ n ih =>
      rw [text_cons (by omega) inside, fields]
      rw [memchr] at found
      split at found
      · rename_i here
        cases found
        rw [if_pos here, text_empty (Nat.le_refl _), List.append_nil]
      · rename_i other
        have behind := (memchr_inside found).1
        have next : p + (n + 1) = p + 1 + n := by omega
        rw [if_neg other, next, ih _ (by omega) found, text_cons (by omega : p < q)]
        · simp
        · have last := (memchr_inside found).2
          omega

theorem fields_rest {n : Nat} (token : List UInt8) (inside : p + n ≤ line.length)
    (missing : memchr line comma p n = none) :
    fields token (Span.text line ⟨p, p + n⟩) =
      if token ++ Span.text line ⟨p, p + n⟩ = [] then []
      else [token ++ Span.text line ⟨p, p + n⟩] := by
  induction n generalizing p token with
  | zero =>
      rw [Nat.add_zero, text_empty (Nat.le_refl p), List.append_nil]
      rfl
  | succ n ih =>
      rw [memchr] at missing
      split at missing
      · cases missing
      · rename_i other
        have next : p + (n + 1) = p + 1 + n := by omega
        have later := ih (token ++ [line.getD p 0]) (by omega) missing
        rw [text_cons (by omega) inside, fields, if_neg other, next, later]
        simp

/-- What one round of the loop finds. -/
theorem fields_fieldEnd (more : p < stop) (inside : stop ≤ line.length) :
    fields [] (Span.text line ⟨p, stop⟩) =
      Span.text line ⟨p, fieldEnd line stop p⟩ ::
        fields [] (Span.text line ⟨behind stop (fieldEnd line stop p), stop⟩) := by
  have whole : p + (stop - p) = stop := by omega
  cases found : memchr line comma p (stop - p) with
  | none =>
      have last : fieldEnd line stop p = stop := by rw [fieldEnd, found, Option.getD_none]
      have rest := fields_rest [] (by omega : p + (stop - p) ≤ line.length) found
      have nonempty : Span.text line ⟨p, stop⟩ ≠ [] := by
        rw [text_cons more inside]
        exact List.cons_ne_nil _ _
      rw [whole, List.nil_append, if_neg nonempty] at rest
      rw [rest, last, behind, if_neg (Nat.lt_irrefl _), text_empty (Nat.le_refl stop)]
      rfl
  | some q =>
      have last : fieldEnd line stop p = q := by rw [fieldEnd, found, Option.getD_some]
      have bound := (memchr_inside found).2
      have first := fields_found [] (by omega : p + (stop - p) ≤ line.length) found
      rw [whole, List.nil_append] at first
      rw [first, last, behind, if_pos (by omega)]

/-- The loop appends the fields that are left, up to the limit. -/
theorem tokensFrom_text (inside : stop ≤ line.length) (tokens : List Span)
    (room : tokens.length ≤ maxNmeaTokens) :
    (tokensFrom line stop p tokens).map (Span.text line) =
      (tokens.map (Span.text line) ++ fields [] (Span.text line ⟨p, stop⟩)).take
        maxNmeaTokens := by
  induction p, tokens using tokensFrom.induct line stop with
  | case1 p tokens more ih =>
      have ordered := (fieldEnd_inside line more).1
      rw [tokensFrom, dif_pos more, fields_fieldEnd more inside]
      by_cases space : tokens.length < maxNmeaTokens
      · have kept : keepToken p (fieldEnd line stop p) tokens =
            tokens ++ [⟨p, fieldEnd line stop p⟩] := if_pos ⟨ordered, space⟩
        have fits : (keepToken p (fieldEnd line stop p) tokens).length ≤ maxNmeaTokens := by
          rw [kept, List.length_append, List.length_singleton]
          omega
        rw [ih fits, kept, List.map_append, List.append_assoc]
        rfl
      · have kept : keepToken p (fieldEnd line stop p) tokens = tokens :=
          if_neg fun both => space both.2
        have full : maxNmeaTokens ≤ (tokens.map (Span.text line)).length := by
          rw [List.length_map]
          omega
        rw [kept] at ih ⊢
        rw [ih room, List.take_append_of_le_length full, List.take_append_of_le_length full]
  | case2 p tokens done =>
      have full : (tokens.map (Span.text line)).length ≤ maxNmeaTokens := by
        rwa [List.length_map]
      rw [tokensFrom, dif_neg done, text_empty (Nat.not_lt.mp done), fields, if_pos rfl,
        List.append_nil, List.take_of_length_le full]

theorem tokensFrom_inside (inside : stop ≤ line.length) (tokens : List Span)
    (all : ∀ token ∈ tokens, token.Inside line) :
    ∀ token ∈ tokensFrom line stop p tokens, token.Inside line := by
  induction p, tokens using tokensFrom.induct line stop with
  | case1 p tokens more ih =>
      obtain ⟨ordered, last⟩ := fieldEnd_inside line more
      have each : ∀ token ∈ keepToken p (fieldEnd line stop p) tokens, token.Inside line := by
        intro token member
        rw [keepToken] at member
        split at member
        · cases List.mem_append.mp member with
          | inl old => exact all token old
          | inr new =>
              rw [List.mem_singleton.mp new]
              exact ⟨ordered, Nat.le_trans last inside⟩
        · exact all token member
      rw [tokensFrom, dif_pos more]
      exact ih each
  | case2 p tokens done =>
      rw [tokensFrom, dif_neg done]
      exact all

/-- The tokens are those that the parser is modelled with. -/
theorem nmeaTokenizerInit_text (line : List UInt8) :
    (nmeaTokenizerInit line).map (Span.text line) = tokenize line := by
  have inside := (payloadSpan_inside line).within
  rw [nmeaTokenizerInit, tokensFrom_text inside [] (Nat.zero_le _)]
  show (fields [] ((payloadSpan line).text line)).take maxNmeaTokens = _
  rw [payloadSpan_text, payload, tokenize]

/-- The fields are the texts between the commas, but for an empty one at the end. -/
theorem fields_splitOn (token bytes : List UInt8) (free : comma ∉ token) :
    ∃ last, (last = [] ∨ last = [[]]) ∧
      (token ++ bytes).splitOn comma = fields token bytes ++ last := by
  induction bytes generalizing token with
  | nil =>
      rw [List.append_nil, List.splitOn_eq_singleton free, fields]
      by_cases empty : token = []
      · exact ⟨[[]], Or.inr rfl, by rw [if_pos empty, empty, List.nil_append]⟩
      · exact ⟨[], Or.inl rfl, by rw [if_neg empty, List.append_nil]⟩
  | cons byte rest ih =>
      rw [fields]
      by_cases separator : byte = comma
      · obtain ⟨last, shape, later⟩ := ih [] List.not_mem_nil
        refine ⟨last, shape, ?_⟩
        rw [if_pos separator, separator, List.splitOn_append_cons_self_of_not_mem free,
          List.cons_append, ← later, List.nil_append]
      · have longer : comma ∉ token ++ [byte] := by
          intro member
          cases List.mem_append.mp member with
          | inl inside => exact free inside
          | inr last => exact separator (List.mem_singleton.mp last).symm
        obtain ⟨last, shape, later⟩ := ih _ longer
        refine ⟨last, shape, ?_⟩
        rw [if_neg separator, ← later, List.append_assoc, List.singleton_append]

end Fields

section Tokens

variable (line : List UInt8) (tokens : List Span)

theorem nmeaTokenizerGet_text (i : Nat) :
    (nmeaTokenizerGet tokens i).text line = (tokens.map (Span.text line)).getD i [] := by
  rw [nmeaTokenizerGet, List.getD_eq_getElem?_getD, List.getElem?_map]
  by_cases inside : i < tokens.length
  · have present : ¬ ((i : Int) < 0 ∨ (tokens.length : Int) ≤ i) := by omega
    rw [if_neg present, Int.toNat_natCast, List.getElem?_eq_getElem inside]
    simp [Token.text]
  · have absent : (i : Int) < 0 ∨ (tokens.length : Int) ≤ i := by omega
    rw [if_pos absent, List.getElem?_eq_none (Nat.not_lt.mp inside)]
    simp [Token.text]

theorem nmeaTokenizerGet_behind {i : Nat} (least : tokens.length ≤ i) :
    nmeaTokenizerGet tokens i = .dummy := if_pos (Or.inr (by omega))

/-- A token of the line is what the parser is modelled with. -/
theorem nmeaTokenizer_getToken (i : Nat) :
    (nmeaTokenizerGet (nmeaTokenizerInit line) i).text line = getToken (tokenize line) i := by
  rw [nmeaTokenizerGet_text, nmeaTokenizerInit_text, getToken]

end Tokens

/-- Whatever the sentence is, a token below the limit is the field of its number, one behind the
last field is the dummy, and what has been filled in lies in the sentence. -/
theorem nmeaTokenizer_fields (line : List UInt8) :
    (∀ i < maxNmeaTokens, (nmeaTokenizerGet (nmeaTokenizerInit line) i).text line =
        ((payload line).splitOn comma).getD i []) ∧
      (∀ i : Nat, ((payload line).splitOn comma).length ≤ i →
        nmeaTokenizerGet (nmeaTokenizerInit line) i = .dummy) ∧
      ∀ token ∈ nmeaTokenizerInit line, token.p ≤ token.stop ∧ token.stop ≤ line.length := by
  obtain ⟨last, shape, split⟩ := fields_splitOn [] (payload line) List.not_mem_nil
  rw [List.nil_append] at split
  have tokens : tokenize line = (fields [] (payload line)).take maxNmeaTokens := rfl
  refine ⟨fun i limit => ?_, fun i least => ?_, fun token member => ?_⟩
  · rw [nmeaTokenizer_getToken, getToken, tokens, split, List.getD_eq_getElem?_getD,
      List.getElem?_take_of_lt limit, ← List.getD_eq_getElem?_getD]
    by_cases inside : i < (fields [] (payload line)).length
    · rw [List.getD_append _ _ _ _ inside]
    · rw [List.getD_append_right _ _ _ _ (Nat.not_lt.mp inside),
        List.getD_eq_default _ _ (Nat.not_lt.mp inside)]
      cases shape with
      | inl none => rw [none, List.getD_nil]
      | inr one =>
          rw [one]
          cases i - (fields [] (payload line)).length with
          | zero => rfl
          | succ more => rfl
  · apply nmeaTokenizerGet_behind
    have counts := congrArg List.length (nmeaTokenizerInit_text line)
    have splits := congrArg List.length split
    rw [List.length_map, tokens, List.length_take] at counts
    rw [List.length_append] at splits
    omega
  · have inside := tokensFrom_inside (payloadSpan_inside line).within [] (by simp) token member
    exact ⟨inside.ordered, inside.within⟩

/-- A byte that can stand in a checksum. -/
def isHexDigit (byte : UInt8) : Bool :=
  (48 ≤ byte && byte ≤ 57) || (65 ≤ byte && byte ≤ 70) || (97 ≤ byte && byte ≤ 102)

/-- The checksum taken off only where it is one. -/
def dropHexChecksum (bytes : List UInt8) : List UInt8 :=
  if (bytes.drop (bytes.length - 2)).all isHexDigit then dropChecksum bytes else bytes

/-- In `$A*,B` the star and what follows are taken for a checksum. -/
theorem not_nmeaTokenizer_hexFields : ¬ ∀ line : List UInt8, ∀ i < maxNmeaTokens,
    (nmeaTokenizerGet (nmeaTokenizerInit line) i).text line =
      ((dropHexChecksum (dropLineEnd (dropDollar line))).splitOn comma).getD i [] := by
  intro all
  have field := all [36, 65, 42, 44, 66] 0 (by decide)
  have got : (nmeaTokenizerGet (nmeaTokenizerInit [36, 65, 42, 44, 66]) (0 : Nat)).text
      [36, 65, 42, 44, 66] = [65] := by
    rw [nmeaTokenizer_getToken]
    decide
  rw [got] at field
  exact absurd field (by decide)

end Connectivity.Nmea
