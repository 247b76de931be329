import Connectivity.Nmea.Parser
import Connectivity.Bytes.Buffer

set_option autoImplicit false

/- Which lines of a buffer reach `nmea_reader_parse`. -/
namespace Connectivity.Nmea

open Bytes

/-- A line that the line buffer holds together with its newline. -/
def fits (line : List UInt8) : Bool := line.length < nmeaMaxSize

/-- A line whose newline is the byte that the line buffer has no room for. -/
def justOver (line : List UInt8) : Bool := line.length = nmeaMaxSize

/-- The lines that are parsed, by whether the next one is skipped. -/
def read : Bool → List (List UInt8) → List (List UInt8)
  | _, [] => []
  | true, _ :: rest => read false rest
  | false, line :: rest => if fits line then line :: read false rest else read (justOver line) rest

namespace Parser

variable {F : Type} {platform : Platform F} {s : Parser F} {skip : Bool} {line : List UInt8}
  {c : UInt8}

/-- Where the parser is after the beginning of a line. -/
inductive Reading (s : Parser F) : Bool → List UInt8 → Prop
  | inside {line : List UInt8} (reads : s.overflow = false) (pos : s.pos = line.length)
      (fits : line.length ≤ nmeaMaxSize) (size : s.input.length = nmeaMaxSize + 1)
      (filled : Filled s.input line) : Reading s false line
  | skipping {skip : Bool} {line : List UInt8} (skips : s.overflow = true) (pos : s.pos = 0)
      (size : s.input.length = nmeaMaxSize + 1)
      (long : skip = true ∨ nmeaMaxSize < line.length) : Reading s skip line

theorem reading_init (platform : Platform F) (nmeaCash : Int → NmeaCash) :
    Reading (init platform nmeaCash) false [] :=
  .inside rfl rfl (Nat.zero_le _) List.length_replicate (filled_nil _)

/-- A byte of the line goes after the others or, at the one too many, ends the reading. -/
theorem addc_inside (platform : Platform F) (endTag : Bool) (reading : Reading s skip line)
    (more : c ≠ newline) :
    Reading (s.addc platform endTag c) skip (line ++ [c]) ∧
      (s.addc platform endTag c).parsed = s.parsed := by
  cases reading with
  | inside reads pos fits size filled =>
      by_cases full : nmeaMaxSize ≤ s.pos
      · have added : s.addc platform endTag c = { s with overflow := true, pos := 0 } := by
          simp only [addc, reads, full, if_true, if_false, Bool.false_eq_true]
        rw [added]
        refine ⟨.skipping rfl rfl size (.inr ?_), rfl⟩
        rw [List.length_append, List.length_singleton]
        omega
      · have added : s.addc platform endTag c = s.store c := by
          simp only [addc, reads, full, more, if_false, Bool.false_eq_true]
        have room : line.length + [c].length ≤ s.input.length := by
          rw [List.length_singleton]
          omega
        rw [added]
        refine ⟨.inside reads ?_ ?_ ?_ ?_, rfl⟩
        · rw [List.length_append, List.length_singleton, ← pos]
          rfl
        · rw [List.length_append, List.length_singleton]
          omega
        · exact (congrArg (fun pos => (Bytes.write s.input pos [c]).length) pos).trans
            ((write_length room).trans size)
        · have written := filled.write room
          rw [← pos] at written
          exact written
  | skipping skips pos size long =>
      have added : s.addc platform endTag c = { s with overflow := true } := by
        simp only [addc, skips, more, if_true, ne_eq, not_false_eq_true, decide_true]
      rw [added]
      refine ⟨.skipping rfl pos size (long.imp_right fun longer => ?_), rfl⟩
      rw [List.length_append]
      omega

/-- There is room for the newline of a line that fits, and the line is in the buffer then. -/
theorem Reading.ready (reading : Reading s false line) (fit : fits line = true) :
    s.overflow = false ∧ s.pos < nmeaMaxSize ∧ (s.store newline).line = line ++ [newline] := by
  have small : line.length < nmeaMaxSize := of_decide_eq_true fit
  cases reading with
  | inside reads pos _ size filled =>
      have room : line.length + [newline].length ≤ s.input.length := by
        rw [List.length_singleton]
        omega
      have front := (filled.write room).front
      rw [List.length_append, List.length_singleton, ← pos] at front
      exact ⟨reads, by omega, front⟩
  | skipping _ _ _ long =>
      rcases long with skipped | longer
      · cases skipped
      · omega

/-- The newline of a line that fits hands it on, one that comes just too late makes the parser
skip a line, and any other one ends what is skipped. -/
theorem addc_newline (platform : Platform F) (endTag : Bool) (reading : Reading s skip line) :
    Reading (s.addc platform endTag newline) (!skip && justOver line) [] ∧
      (s.addc platform endTag newline).parsed =
        s.parsed ++ if !skip && fits line then [line ++ [newline]] else [] := by
  cases reading with
  | inside reads pos small size filled =>
      by_cases full : nmeaMaxSize ≤ s.pos
      · have added : s.addc platform endTag newline = { s with overflow := true, pos := 0 } := by
          simp only [addc, reads, full, if_true, if_false, Bool.false_eq_true]
        have just : justOver line = true := decide_eq_true (by omega)
        have long : fits line = false := decide_eq_false (by omega)
        rw [added, just, long]
        exact ⟨.skipping rfl rfl size (.inl rfl), (List.append_nil _).symm⟩
      · have just : justOver line = false := decide_eq_false (by omega)
        have short : fits line = true := decide_eq_true (by omega)
        obtain ⟨-, -, own⟩ := (Reading.inside reads pos small size filled).ready short
        have added : s.addc platform endTag newline =
            ((s.store newline).parse platform endTag).endLine := by
          simp only [addc, reads, full, if_true, if_false, Bool.false_eq_true]
        obtain ⟨position, sv, cash, reports, parsed⟩ :=
          parse_frame platform endTag (s.store newline)
        rw [added, parsed, just, short]
        refine ⟨.inside reads rfl (Nat.zero_le _) List.length_replicate (filled_nil _), ?_⟩
        exact congrArg (fun line => s.parsed ++ [line]) own
  | skipping skips pos size long =>
      have added : s.addc platform endTag newline = { s with overflow := false } := by
        simp only [addc, skips, if_true, ne_eq, not_true_eq_false, decide_false]
      have passed : (!skip && justOver line) = false ∧ (!skip && fits line) = false := by
        rcases long with skipped | longer
        · rw [skipped]
          exact ⟨rfl, rfl⟩
        · have just : justOver line = false := decide_eq_false (by omega)
          have long : fits line = false := decide_eq_false (by omega)
          rw [just, long, Bool.and_false]
          exact ⟨rfl, rfl⟩
      rw [added, passed.1, passed.2]
      exact ⟨.inside rfl pos (Nat.zero_le _) size (filled_nil _), (List.append_nil _).symm⟩

/-- What one line more adds to the lines that are read. -/
theorem read_cons (skip : Bool) (line : List UInt8) (rest : List (List UInt8)) :
    read skip (line :: rest) =
      (if !skip && fits line then [line] else []) ++ read (!skip && justOver line) rest := by
  cases skip with
  | true => rfl
  | false =>
      simp only [read, Bool.not_false, Bool.true_and]
      split
      next fit =>
        have small : line.length < nmeaMaxSize := of_decide_eq_true fit
        have just : justOver line = false := decide_eq_false (by omega)
        rw [just]
        rfl
      next => rfl

theorem foldl_parsed (platform : Platform F) (inputs : List (UInt8 × Bool))
    (reading : Reading s skip line) :
    (inputs.foldl (fun s c => s.addc platform c.2 c.1) s).parsed =
      s.parsed ++ (read skip (lines newline line (inputs.map Prod.fst))).map (· ++ [newline]) := by
  induction inputs generalizing s skip line with
  | nil => cases skip <;> exact (List.append_nil _).symm
  | cons input rest ih =>
      obtain ⟨c, endTag⟩ := input
      rw [List.foldl_cons, List.map_cons]
      by_cases ends : c = newline
      · subst ends
        obtain ⟨next, parsed⟩ := addc_newline platform endTag reading
        rw [ih next, parsed, lines, if_pos rfl, read_cons, List.map_append, List.append_assoc]
        congr 2
        split
        next => rfl
        next => rfl
      · obtain ⟨next, parsed⟩ := addc_inside platform endTag reading ends
        rw [ih next, parsed, lines, if_neg ends]

/-- The sentences that a buffer brings are the lines of it that are read, each with its own
bytes and its newline. -/
theorem process_parsed (nmeaCash : Int → NmeaCash) (buffer : List UInt8) :
    (process platform nmeaCash buffer).parsed =
      (read false (lines newline [] buffer)).map (· ++ [newline]) := by
  have run := foldl_parsed platform (tagged buffer) (reading_init platform nmeaCash)
  rw [tagged_bytes] at run
  exact run

end Parser

theorem read_sublist (skip : Bool) (ls : List (List UInt8)) :
    (read skip ls).Sublist (ls.filter fits) := by
  induction ls generalizing skip with
  | nil => cases skip <;> exact .slnil
  | cons line rest ih =>
      rw [Parser.read_cons, List.filter_cons]
      cases fit : fits line with
      | true =>
          cases skip with
          | true => exact (ih _).cons line
          | false => exact (ih _).cons_cons line
      | false =>
          rw [Bool.and_false]
          exact ih _

/-- After the lines before it, the next line is skipped: they end with an odd number of lines
that are just too long. -/
def skipsNext (before : List (List UInt8)) : Bool := trailing justOver before % 2 = 1

theorem skipsNext_append (before : List (List UInt8)) (line : List UInt8) :
    skipsNext (before ++ [line]) = (!skipsNext before && justOver line) := by
  rw [skipsNext, trailing_append]
  cases justOver line with
  | false => rw [Bool.and_false]; rfl
  | true =>
      rw [if_pos rfl, Bool.and_true, skipsNext, ← decide_not]
      apply decide_eq_decide.mpr
      omega

/-- No line that fits is one that is skipped. -/
def NoneSkipped (before ls : List (List UInt8)) : Prop :=
  ∀ mid line after, ls = mid ++ line :: after → fits line = true →
    skipsNext (before ++ mid) = false

theorem noneSkipped_cons (before : List (List UInt8)) (line : List UInt8)
    (rest : List (List UInt8)) : NoneSkipped before (line :: rest) ↔
      (fits line = true → skipsNext before = false) ∧ NoneSkipped (before ++ [line]) rest := by
  constructor
  · intro none
    refine ⟨fun fit => ?_, fun mid other after same fit => ?_⟩
    · have now := none [] line rest rfl fit
      rw [List.append_nil] at now
      exact now
    · have later := none (line :: mid) other after (congrArg (line :: ·) same) fit
      rw [List.append_assoc, List.singleton_append]
      exact later
  · rintro ⟨now, later⟩ mid other after same fit
    cases mid with
    | nil =>
        rw [List.nil_append, List.cons.injEq] at same
        rw [List.append_nil]
        rw [← same.1] at fit
        exact now fit
    | cons first mid =>
        rw [List.cons_append, List.cons.injEq] at same
        rw [← same.1]
        have there := later mid other after same.2 fit
        rw [List.append_assoc, List.singleton_append] at there
        exact there

theorem read_filter_iff (before ls : List (List UInt8)) :
    read (skipsNext before) ls = ls.filter fits ↔ NoneSkipped before ls := by
  induction ls generalizing before with
  | nil =>
      constructor
      · intro _ mid line after none
        exact absurd none.symm (List.append_ne_nil_of_right_ne_nil mid (List.cons_ne_nil _ _))
      · intro _
        cases skipsNext before <;> rfl
  | cons line rest ih =>
      rw [noneSkipped_cons, ← ih, skipsNext_append, Parser.read_cons, List.filter_cons]
      cases fit : fits line with
      | false => simp only [Bool.and_false, Bool.false_eq_true, if_false, List.nil_append,
          false_imp_iff, true_and]
      | true =>
          cases skips : skipsNext before with
          | false => simp
          | true =>
              -- a line that is left out cannot be made up for by the others
              have short := (read_sublist (!true && justOver line) rest).length_le
              constructor
              · intro same
                have lengths := congrArg List.length same
                simp only [Bool.not_true, Bool.false_and, Bool.false_eq_true, if_false,
                  List.nil_append, if_true, List.length_cons] at lengths short
                omega
              · intro none
                exact absurd (none.1 rfl) (by decide)

/-- Every newline-terminated line that fits the line buffer is parsed once, in order and with
its own bytes, exactly if none of them comes straight after an odd number of lines that are
just too long. -/
theorem lines_parsed_iff {F : Type} (platform : Platform F) (nmeaCash : Int → NmeaCash)
    (buffer : List UInt8) :
    (Parser.process platform nmeaCash buffer).parsed =
        ((lines newline [] buffer).filter fits).map (· ++ [newline]) ↔
      NoneSkipped [] (lines newline [] buffer) := by
  have injective : Function.Injective fun line : List UInt8 => line ++ [newline] :=
    fun _ _ same => List.append_cancel_right same
  rw [Parser.process_parsed, List.map_injective_iff.mpr injective |>.eq_iff]
  exact read_filter_iff [] _

/-- A line that is just too long, and then `$GPGSA,A,1`. -/
def lostAfterLong : List UInt8 :=
  List.replicate 255 65 ++ [10] ++ [36, 71, 80, 71, 83, 65, 44, 65, 44, 49, 10]

/-- The overflow is noticed at the newline, which is dropped, and the line after it is too. -/
theorem gsa_lost_after_long :
    (Parser.process intPlatform CashTable.clear lostAfterLong).parsed = [] ∧
    ((lines newline [] lostAfterLong).filter fits).map (· ++ [newline]) =
      [[36, 71, 80, 71, 83, 65, 44, 65, 44, 49, 10]] := by
  rw [Parser.process_parsed]
  constructor
  · decide +kernel
  · decide +kernel

end Connectivity.Nmea
