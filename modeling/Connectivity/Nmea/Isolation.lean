import Connectivity.Nmea.TableMarks
import Connectivity.Nmea.Resync

set_option autoImplicit false

/- What a history of buffers leaves in `nmea_cash`, from the sentences in them alone, and what of it
shows in the reports of a later buffer. -/
namespace Connectivity.Nmea

open Bytes

/-- The sentences among the lines of a buffer that are read. -/
def sentences (skip : Bool) (ls : List (List UInt8)) : List (List (List UInt8)) :=
  (((read skip ls).map (· ++ [newline])).filter Parser.wellFormed).map tokenize

/-- What a sentence marks in the table. -/
def mark {F : Type} (platform : Platform F) (table : CashTable) (tokens : List (List UInt8)) :
    CashTable :=
  let id := getToken tokens 0
  let fixMode := str2int (getToken tokens 2)
  Parser.cashAfter platform (kindOf id) (svTypeOf id) tokens (fixMode = 2 ∨ fixMode = 3) table

/-- The last byte of the buffer completes a sentence. -/
def endsSentence (buffer : List UInt8) : Bool :=
  let line := unfinished newline [] buffer.dropLast
  buffer.getLast? = some newline && !skipsNext (lines newline [] buffer.dropLast) && fits line &&
    Parser.wellFormed (line ++ [newline])

/-- A buffer that ends with a sentence clears the table; in any other one the sentences leave
what they mark. -/
def tableAfter {F : Type} (platform : Platform F) (nmeaCash : Int → NmeaCash)
    (buffer : List UInt8) : Int → NmeaCash :=
  if endsSentence buffer then CashTable.clear
  else ((sentences false (lines newline [] buffer.dropLast)).foldl (mark platform)
    ⟨nmeaCash, []⟩).nmeaCash

/-- What some buffers leave, the last one first. -/
def pending {F : Type} : List (Platform F × List UInt8) → (Int → NmeaCash)
  | [] => CashTable.clear
  | (platform, buffer) :: earlier => tableAfter platform (pending earlier) buffer

namespace Parser

variable {F : Type} {platform : Platform F} {s : Parser F} {skip : Bool} {line : List UInt8}

theorem completes_ne {c : UInt8} (more : c ≠ newline) (s : Parser F) : s.completes c = none :=
  if_neg fun complete => more complete.2.2.1

/-- A newline completes a sentence if it ends a line that is read and well formed. -/
theorem Reading.completes (reading : Reading s skip line) : s.completes newline =
    if !skip && fits line && wellFormed (line ++ [newline]) then
      some (tokenize (line ++ [newline]))
    else none := by
  cases fit : !skip && fits line with
  | true =>
      simp only [Bool.and_eq_true, Bool.not_eq_true'] at fit
      rw [fit.1] at reading
      obtain ⟨reads, room, own⟩ := reading.ready fit.2
      unfold Parser.completes
      rw [own, Bool.true_and]
      cases wellFormed (line ++ [newline]) with
      | true => exact if_pos ⟨reads, room, rfl, rfl⟩
      | false => exact if_neg fun complete => absurd complete.2.2.2 (by decide)
  | false =>
      apply if_neg
      rintro ⟨reads, room, -, -⟩
      cases reading with
      | inside _ pos small =>
          have fits : fits line = true := decide_eq_true (by omega)
          rw [fits] at fit
          cases fit
      | skipping skips => exact absurd (reads.symm.trans skips) (by decide)

theorem sentence_cash (s : Parser F) (tokens : List (List UInt8)) :
    (s.sentence platform tokens).cash = mark platform s.cash tokens := by
  unfold sentence mark
  dsimp only
  cases kindOf (getToken tokens 0) <;> rfl

theorem sentences_cons (skip : Bool) (line : List UInt8) (rest : List (List UInt8)) :
    sentences skip (line :: rest) =
      (if !skip && fits line && wellFormed (line ++ [newline]) then
        [tokenize (line ++ [newline])] else []) ++ sentences (!skip && justOver line) rest := by
  unfold sentences
  rw [read_cons, List.map_append, List.filter_append, List.map_append]
  congr 1
  cases !skip && fits line with
  | true =>
      rw [if_pos rfl, List.map_singleton, List.filter_singleton, Bool.true_and]
      cases wellFormed (line ++ [newline]) <;> rfl
  | false => rfl

/-- The state of the line buffer after some bytes, and the marks of the sentences in them. -/
theorem foldl_cash (platform : Platform F) (inputs : List (UInt8 × Bool))
    (before : List (List UInt8)) (reading : Reading s (skipsNext before) line)
    (going : ∀ c ∈ inputs, c.2 = false) :
    Reading (inputs.foldl (fun s c => s.addc platform c.2 c.1) s)
        (skipsNext (before ++ lines newline line (inputs.map Prod.fst)))
        (unfinished newline line (inputs.map Prod.fst)) ∧
      (inputs.foldl (fun s c => s.addc platform c.2 c.1) s).cash =
        (sentences (skipsNext before) (lines newline line (inputs.map Prod.fst))).foldl
          (mark platform) s.cash := by
  induction inputs generalizing s before line with
  | nil =>
      rw [List.map_nil, lines, unfinished, List.append_nil]
      refine ⟨reading, ?_⟩
      cases skipsNext before <;> rfl
  | cons input rest ih =>
      obtain ⟨c, endTag⟩ := input
      have continues : endTag = false := going (c, endTag) List.mem_cons_self
      have later := fun c member => going c (List.mem_cons_of_mem _ member)
      subst continues
      rw [List.foldl_cons, List.map_cons]
      by_cases ends : c = newline
      · subst ends
        have next := (addc_newline platform false reading).1
        rw [← skipsNext_append] at next
        obtain ⟨after, cash⟩ := ih (before ++ [line]) next later
        rw [lines, unfinished, if_pos rfl, if_pos rfl]
        rw [List.append_assoc, List.singleton_append] at after
        refine ⟨after, cash.trans ?_⟩
        rw [sentences_cons, List.foldl_append, ← skipsNext_append]
        congr 1
        have completed := reading.completes
        split
        next good =>
          rw [if_pos good] at completed
          rw [addc_completes platform false completed, reported_cash, if_neg (by decide),
            List.foldl_cons, List.foldl_nil, sentence_cash]
          rfl
        next bad =>
          rw [if_neg bad] at completed
          exact (addc_incomplete platform false completed).2.1
      · have next := (addc_inside platform false reading ends).1
        obtain ⟨after, cash⟩ := ih before next later
        rw [lines, unfinished, if_neg ends, if_neg ends]
        refine ⟨after, cash.trans ?_⟩
        rw [(addc_incomplete platform false (completes_ne ends s)).2.1]

/-- What a buffer leaves in the table is what its sentences say. -/
theorem process_cash (platform : Platform F) (nmeaCash : Int → NmeaCash) (buffer : List UInt8) :
    (process platform nmeaCash buffer).cash.nmeaCash = tableAfter platform nmeaCash buffer := by
  rcases List.eq_nil_or_concat buffer with rfl | ⟨content, last, rfl⟩
  · rfl
  · rw [List.concat_eq_append]
    obtain ⟨reading, cash⟩ := foldl_cash platform (content.map (·, false)) []
      (reading_init platform nmeaCash) (by
        intro c member
        obtain ⟨byte, -, rfl⟩ := List.mem_map.mp member
        rfl)
    rw [untagged] at reading cash
    rw [process, tagged_append, List.foldl_append, List.foldl_cons, List.foldl_nil]
    unfold tableAfter endsSentence
    rw [List.dropLast_concat, List.getLast?_concat]
    by_cases ends : last = newline
    · subst ends
      have completed := reading.completes
      rw [List.nil_append] at completed
      rw [decide_eq_true rfl, Bool.true_and]
      split
      next good =>
        rw [if_pos good] at completed
        rw [addc_completes platform true completed, reported_cash, if_pos rfl]
      next bad =>
        rw [if_neg bad] at completed
        rw [(addc_incomplete platform true completed).2.1, cash]
        rfl
    · rw [(addc_incomplete platform true (completes_ne ends _)).2.1, cash]
      have other : ¬ some last = some newline := fun same => ends (Option.some.inj same)
      rw [decide_eq_false other, Bool.false_and]
      rfl

theorem cashLeft_eq_pending (history : List (Platform F × List UInt8)) :
    cashLeft history = pending history := by
  induction history with
  | nil => rfl
  | cons buffer earlier ih =>
      rw [cashLeft, pending, ← ih]
      exact process_cash _ _ _

end Parser

end Connectivity.Nmea

namespace Connectivity.Nmea

namespace Parser

variable {F : Type} {platform : Platform F} {s : Parser F}

theorem foldl_inside (platform : Platform F) (inputs : List (UInt8 × Bool)) {skip : Bool}
    {line : List UInt8} (reading : Reading s skip line) (free : ∀ c ∈ inputs, c.1 ≠ newline) :
    Reading (inputs.foldl (fun s c => s.addc platform c.2 c.1) s) skip
        (line ++ inputs.map Prod.fst) ∧
      ∃ pos overflow input, inputs.foldl (fun s c => s.addc platform c.2 c.1) s =
        { s with pos := pos, overflow := overflow, input := input } := by
  induction inputs generalizing s line with
  | nil =>
      rw [List.map_nil, List.append_nil]
      exact ⟨reading, s.pos, s.overflow, s.input, rfl⟩
  | cons c rest ih =>
      have more := free c List.mem_cons_self
      have next := (addc_inside platform c.2 reading more).1
      obtain ⟨after, pos, overflow, input, same⟩ :=
        ih next fun c later => free c (List.mem_cons_of_mem _ later)
      rw [List.append_assoc, List.singleton_append] at after
      refine ⟨after, pos, overflow, input, same.trans ?_⟩
      unfold Parser.addc
      split
      next => rfl
      next =>
        split
        next => rfl
        next => rfl

/-- A buffer that is one line is parsed at its last byte. -/
theorem process_line (platform : Platform F) (nmeaCash : Int → NmeaCash) {content : List UInt8}
    (free : newline ∉ content) (fit : fits content = true)
    (good : wellFormed (content ++ [newline]) = true) : ∃ s : Parser F,
      s.position = .init platform ∧ s.sv = .init platform ∧ s.cash = ⟨nmeaCash, []⟩ ∧
      s.reports = [] ∧ process platform nmeaCash (content ++ [newline]) =
        (reportSvs true (reportLocation true
          (s.sentence platform (tokenize (content ++ [newline]))))).endLine := by
  obtain ⟨reading, pos, overflow, input, same⟩ := foldl_inside platform
    (content.map (·, false)) (reading_init platform nmeaCash) (by
      intro c member
      obtain ⟨byte, there, rfl⟩ := List.mem_map.mp member
      exact fun ends => free (ends ▸ there))
  rw [untagged, List.nil_append] at reading
  have complete := reading.completes
  rw [fit, good, Bool.not_false, Bool.true_and, Bool.true_and, if_pos rfl] at complete
  have last := addc_completes platform true complete
  rw [same] at last
  refine ⟨({ init platform nmeaCash with
    pos := pos, overflow := overflow, input := input }.store newline).hand, rfl, rfl, rfl, rfl, ?_⟩
  rw [process, tagged_append, List.foldl_append, same]
  exact last

end Parser

namespace SvReader

variable {F : Type} {platform : Platform F} {svType : SvType} {tokens : List (List UInt8)}
  {r : SvReader F} {nmeaCash : Int → NmeaCash}

/-- The first satellite of the first set brings the flags of its number. -/
theorem gsvTurn_first (empty : r.svIndex = 0) {idx : Nat} {prn : Int}
    (id : gsvId svType tokens idx = prn) (known : reportable prn = true) :
    ((gsvTurn platform nmeaCash svType tokens r idx).svList 0).flags =
      (nmeaCash prn).svFlags (r.svList 0).flags := by
  have index : ∀ stores, svIndex { r with stores := stores } = 0 := fun _ => empty
  unfold gsvTurn updateSvStatus
  rw [id]
  split
  next full =>
    rw [index] at full
    exact absurd full (by decide)
  next =>
    split
    next none =>
      unfold reportable at known
      rw [none] at known
      cases known
    next =>
      dsimp only
      rw [index, if_pos rfl]

theorem gsvEnd_svList (tokens : List (List UInt8)) (r : SvReader F) :
    (gsvEnd tokens r).svList = r.svList := by
  unfold gsvEnd
  split
  next => split <;> rfl
  next => rfl

/-- So does the satellite of a sentence that is a set of its own, if there is nothing yet. -/
theorem gsv_first (platform : Platform F) (nmeaCash : Int → NmeaCash) {r : SvReader F} {prn : Int}
    (loops : gsvLoops tokens = 1) (seq : gsvSeq tokens = 1)
    (empty : r.numSvs = 0) (id : gsvId svType tokens 0 = prn) (known : reportable prn = true) :
    ((gsv platform nmeaCash svType tokens r).svList 0).flags =
      (nmeaCash prn).svFlags (r.svList 0).flags := by
  have index : (gsvStart tokens r).svIndex = 0 := by
    rw [gsvStart, if_pos seq]
    show int32 (0 + r.numSvs) = 0
    rw [empty]
    decide
  have list : (gsvStart tokens r).svList = r.svList := by
    rw [gsvStart, if_pos seq]
  rw [gsv, gsvEnd_svList, loops, ← list]
  exact gsvTurn_first index id known

end SvReader

/-- The digit that a number ends with. -/
def digitOf (n : Nat) : UInt8 := UInt8.ofNat (48 + n % 10)

theorem digitOf_plain (n : Nat) : digitOf n ≠ newline ∧ digitOf n ≠ comma ∧ digitOf n ≠ 13 ∧
    digitOf n ≠ 42 ∧ digitOf n ≠ 45 := by
  have last : n % 10 < 10 := Nat.mod_lt n (by decide)
  unfold digitOf
  generalize n % 10 = digit at last
  revert digit
  decide

theorem digitOf_digit (n : Nat) : (48 ≤ digitOf n ∧ digitOf n ≤ 57) ∧ (digitOf n).toNat =
    48 + n % 10 := by
  have last : n % 10 < 10 := Nat.mod_lt n (by decide)
  unfold digitOf
  generalize n % 10 = digit at last
  revert digit
  decide

def threeDigits (n : Nat) : List UInt8 := [digitOf (n / 100), digitOf (n / 10), digitOf n]

theorem digits_digitOf {result : Int} (n : Nat) (rest : List UInt8) (low : 0 ≤ result)
    (high : result ≤ 1000) :
    digits result (digitOf n :: rest) = digits (result * 10 + (n % 10 : Nat)) rest := by
  obtain ⟨digit, value⟩ := digitOf_digit n
  have last : n % 10 < 10 := Nat.mod_lt n (by decide)
  have same : result * 10 + ((digitOf n).toNat - 48) = result * 10 + (n % 10 : Nat) := by
    rw [value]
    omega
  rw [digits, if_pos digit, same, int32_small (by omega) (by omega)]

theorem str2int_threeDigits {n : Nat} (small : n < 1000) : str2int (threeDigits n) = n := by
  have plain := (digitOf_plain (n / 100)).2.2.2.2
  have unsigned : str2int (threeDigits n) = (digits 0 (threeDigits n)).getD (-1) := by
    unfold str2int threeDigits
    split
    next same => exact absurd (List.cons.inj same).1 plain
    next => rfl
  rw [unsigned, threeDigits, digits_digitOf _ _ (by omega) (by omega),
    digits_digitOf _ _ (by omega) (by omega), digits_digitOf _ _ (by omega) (by omega), digits,
    Option.getD_some]
  omega

/-- The fields of a GSV sentence with one satellite, by its number. -/
def probeTokens (digits : List UInt8) : List (List UInt8) :=
  [[71, 80, 71, 83, 86], [49], [49], [49], digits]

/-- `$GPGSV,1,1,1,` and the number. -/
def probe (digits : List UInt8) : List UInt8 :=
  [36, 71, 80, 71, 83, 86, 44, 49, 44, 49, 44, 49, 44] ++ digits

theorem probe_counts (digits : List UInt8) :
    gsvSeq (probeTokens digits) = 1 ∧ gsvCnt (probeTokens digits) = 1 := by
  have one : str2int [49] = 1 := by decide
  exact ⟨one, one⟩

theorem probe_loops (digits : List UInt8) : gsvLoops (probeTokens digits) = 1 := by
  obtain ⟨seq, cnt⟩ := probe_counts digits
  rw [gsvLoops, seq, cnt]
  decide

theorem tokenize_probe (n : Nat) :
    tokenize (probe (threeDigits n) ++ [newline]) = probeTokens (threeDigits n) := by
  obtain ⟨-, comma₁, -, star₁, -⟩ := digitOf_plain (n / 100)
  obtain ⟨-, comma₂, -, -, -⟩ := digitOf_plain (n / 10)
  obtain ⟨-, comma₃, return₃, -, -⟩ := digitOf_plain n
  have line : dropLineEnd (dropDollar (probe (threeDigits n) ++ [newline])) =
      (probe (threeDigits n)).tail := by
    simp [probe, threeDigits, dropDollar, dropLineEnd, return₃]
  have unchecked : dropChecksum (probe (threeDigits n)).tail = (probe (threeDigits n)).tail := by
    simp [probe, threeDigits, dropChecksum, star₁]
  rw [tokenize, line, unchecked]
  unfold comma at comma₁ comma₂ comma₃
  simp [probe, probeTokens, threeDigits, fields, comma, maxNmeaTokens, comma₁, comma₂, comma₃]

namespace Parser

variable {F : Type} {platform : Platform F} {s : Parser F}

/-- What a parser reports that has just been initialised and is given a GSV sentence. -/
theorem gsv_reports (tokens : List (List UInt8)) (position : s.position = .init platform)
    (reports : s.reports = []) (gsv : kindOf (getToken tokens 0) = .gsv) : ∃ nmea,
    (reportSvs true (reportLocation true (s.sentence platform tokens))).endLine.reports =
      [.gpsSv (s.sentence platform tokens).sv.numSvs
        ((List.range maxSvs.toNat).map fun index => (s.sentence platform tokens).sv.svList index),
       nmea] := by
  have unfixed : (s.sentence platform tokens).position.locFixed = false := by
    show (positionAfter platform (kindOf (getToken tokens 0)) tokens s.position).locFixed = false
    rw [gsv, position]
    rfl
  have unreported : reportLocation true (s.sentence platform tokens) =
      s.sentence platform tokens := by
    unfold reportLocation
    rw [unfixed]
    exact if_neg fun fixed => absurd fixed.1 (by decide)
  have none : (s.sentence platform tokens).reports = [] := reports
  rw [unreported]
  unfold endLine reportSvs
  rw [if_pos rfl, none]
  exact ⟨_, rfl⟩

/-- The first entry that is reported of a satellite shows the flags of its number. -/
theorem probe_report (platform : Platform F) (nmeaCash : Int → NmeaCash) {n : Nat}
    (small : n < 1000) (known : reportable n = true) : ∃ numSvs entry rest nmea,
    (process platform nmeaCash (probe (threeDigits n) ++ [newline])).reports =
      [.gpsSv numSvs (entry :: rest), nmea] ∧
    entry.flags = (nmeaCash n).svFlags 0 := by
  have good : wellFormed (probe (threeDigits n) ++ [newline]) = true := by
    unfold wellFormed
    rw [tokenize_probe]
    rfl
  have free : newline ∉ probe (threeDigits n) := by
    have first := (digitOf_plain (n / 100)).1
    have second := (digitOf_plain (n / 10)).1
    have third := (digitOf_plain n).1
    unfold newline at first second third
    simp [probe, threeDigits, newline, first.symm, second.symm, third.symm]
  obtain ⟨s, position, sv, cash, none, done⟩ := process_line platform nmeaCash free rfl good
  rw [tokenize_probe] at done
  obtain ⟨nmea, reports⟩ := gsv_reports (probeTokens (threeDigits n)) position none rfl
  rw [← done] at reports
  refine ⟨_, _, _, nmea, reports, ?_⟩
  have id : gsvId .gps (probeTokens (threeDigits n)) 0 = n := by
    show int32 (str2int (threeDigits n) + 0) = n
    rw [str2int_threeDigits small, Int.add_zero]
    exact int32_small (by omega) (by omega)
  have empty : (SvReader.init platform).numSvs = 0 := rfl
  have first := SvReader.gsv_first platform nmeaCash (probe_loops (threeDigits n))
    (probe_counts (threeDigits n)).1 empty id known
  show ((svAfter platform .gsv .gps _ s.cash.nmeaCash s.sv).svList 0).flags = _
  rw [cash, sv]
  exact first

end Parser

/-- Two histories of buffers are the same to every later buffer exactly if what their sentences
mark, and no buffer that ends with one has cleared, agrees on every number that stands for a
satellite. -/
theorem reports_isolated_iff {F : Type} (platform : Platform F)
    (one other : List (Platform F × List UInt8)) :
    (∀ buffer, (Parser.process platform (Parser.cashLeft one) buffer).reports =
        (Parser.process platform (Parser.cashLeft other) buffer).reports) ↔
      SameMarks (pending one) (pending other) := by
  rw [← Parser.cashLeft_eq_pending, ← Parser.cashLeft_eq_pending]
  constructor
  · intro equal prn known
    obtain ⟨low, high⟩ := reportable_range known
    obtain ⟨n, rfl⟩ := Int.eq_ofNat_of_zero_le (Int.le_of_lt low)
    obtain ⟨_, entry, _, _, reports, flags⟩ := Parser.probe_report platform (Parser.cashLeft one)
      (n := n) (by omega) known
    obtain ⟨_, entry', _, _, reports', flags'⟩ := Parser.probe_report platform
      (Parser.cashLeft other) (n := n) (by omega) known
    have same := equal (probe (threeDigits n) ++ [newline])
    rw [reports, reports'] at same
    simp only [List.cons.injEq, Report.gpsSv.injEq] at same
    apply NmeaCash.svFlags_zero
    rw [← flags, ← flags', same.1.2.1]
  · exact fun marks buffer => Parser.process_same marks buffer

/-- `$GPGSA,A,3,05` and the first byte of the next sentence. -/
def cutShort : List UInt8 := [36, 71, 80, 71, 83, 65, 44, 65, 44, 51, 44, 48, 53, 10, 36]

/-- The satellite of an earlier buffer that was cut short is still used in the fix. -/
theorem used_flag_leaks :
    (Parser.process intPlatform (Parser.cashLeft [(intPlatform, cutShort)])
        (probe (threeDigits 5) ++ [newline])).reports ≠
      (Parser.process intPlatform (Parser.cashLeft (F := Int) [])
        (probe (threeDigits 5) ++ [newline])).reports := by
  decide

end Connectivity.Nmea
