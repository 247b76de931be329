import Connectivity.Nmea.GsvLoop
import Connectivity.Nmea.Resync

set_option autoImplicit false

/- Complete groups of GSV sentences, and the fields that a tokenizer finds in them. -/
namespace Connectivity.Nmea

/-- A satellite in a GSV sentence, by its four fields. -/
structure SvText where
  id : List UInt8
  elevation : List UInt8
  azimuth : List UInt8
  snr : List UInt8
  deriving DecidableEq

def SvText.fields (sv : SvText) : List (List UInt8) := [sv.id, sv.elevation, sv.azimuth, sv.snr]

/-- The number of sentences, the place of this one, the satellites in view, and those of them
that it is about. -/
structure GsvSentence where
  num : List UInt8
  seq : List UInt8
  cnt : List UInt8
  svs : List SvText
  checksum : List UInt8
  deriving DecidableEq

inductive Talker
  | gp | gl | bd | ga
  deriving DecidableEq, Repr

namespace Talker

def text : Talker → List UInt8
  | .gp => [71, 80]
  | .gl => [71, 76]
  | .bd => [66, 68]
  | .ga => [71, 65]

/-- The satellites of a constellation: GPS 1 to 32, GLONASS 65 to 96, Beidou 1 to 37 and Galileo
1 to 36. -/
def Serves : Talker → Int → Prop
  | .gp, id => 1 ≤ id ∧ id ≤ 32
  | .gl, id => 65 ≤ id ∧ id ≤ 96
  | .bd, id => 1 ≤ id ∧ id ≤ 37
  | .ga, id => 1 ≤ id ∧ id ≤ 36

instance (talker : Talker) (id : Int) : Decidable (talker.Serves id) := by
  cases talker <;> exact instDecidableAnd

end Talker

/-- The fields with a comma between any two. -/
def joined : List (List UInt8) → List UInt8
  | [] => []
  | [text] => text
  | text :: next :: rest => text ++ comma :: joined (next :: rest)

/-- The bytes that fields are told apart by. -/
def separators : List UInt8 := [comma, 42, 13, newline]

namespace GsvSentence

variable (talker : Talker) (s : GsvSentence)

def numbers : List (List UInt8) := [s.num, s.seq, s.cnt] ++ s.svs.flatMap SvText.fields

def texts : List (List UInt8) := (talker.text ++ [71, 83, 86]) :: s.numbers

/-- The sentence up to its newline. -/
def content : List UInt8 := 36 :: (joined (s.texts talker) ++ 42 :: s.checksum) ++ [13]

def line : List UInt8 := s.content talker ++ [newline]

/-- The fields hold no separators, and the line buffers hold the sentence. -/
structure Plain : Prop where
  numbers : ∀ text ∈ s.numbers, ∀ byte ∈ text, byte ∉ separators
  cnt : s.cnt ≠ []
  checksum : s.checksum.length = 2 ∧ newline ∉ s.checksum
  fits : (s.line talker).length ≤ nmeaMaxSize

end GsvSentence

/-- Sentences that are one complete group: numbered from one, each with the same count, which is
that of the satellites, with four satellites in each but the last. -/
structure CompleteGroup (talker : Talker) (sentences : List GsvSentence) : Prop where
  nonempty : sentences ≠ []
  numbered : ∀ (k : Nat) s, sentences[k]? = some s → str2int s.num = sentences.length ∧
    str2int s.seq = k + 1 ∧ str2int s.cnt = (sentences.flatMap (·.svs)).length
  full : ∀ s ∈ sentences.dropLast, s.svs.length = 4
  last : ∀ s ∈ sentences, s.svs.length ≤ 4
  plain : ∀ s ∈ sentences, s.Plain talker
  serves : ∀ sv ∈ sentences.flatMap (·.svs), talker.Serves (str2int sv.id)
  distinct : ((sentences.flatMap (·.svs)).map fun sv => str2int sv.id).Nodup

structure GsvGroup where
  talker : Talker
  sentences : List GsvSentence
  complete : CompleteGroup talker sentences

namespace GsvGroup

def svs (g : GsvGroup) : List SvText := g.sentences.flatMap (·.svs)

def lines (g : GsvGroup) : List (List UInt8) := g.sentences.map (·.line g.talker)

end GsvGroup

section Fields

variable {text rest : List UInt8} {texts : List (List UInt8)}

theorem fields_comma (token : List UInt8) (free : comma ∉ text) (rest : List UInt8) :
    fields token (text ++ comma :: rest) = (token ++ text) :: fields [] rest := by
  induction text generalizing token with
  | nil =>
      show fields token (comma :: rest) = _
      rw [fields, if_pos rfl, List.append_nil]
  | cons byte text ih =>
      have other : byte ≠ comma := fun same => free (same ▸ List.mem_cons_self)
      show fields token (byte :: (text ++ comma :: rest)) = _
      rw [fields, if_neg other, ih _ (mt (List.mem_cons_of_mem byte) free), List.append_assoc]
      rfl

theorem fields_last (token : List UInt8) (free : comma ∉ text) :
    fields token text = if token ++ text = [] then [] else [token ++ text] := by
  induction text generalizing token with
  | nil => rw [fields, List.append_nil]
  | cons byte text ih =>
      have other : byte ≠ comma := fun same => free (same ▸ List.mem_cons_self)
      rw [fields, if_neg other, ih _ (mt (List.mem_cons_of_mem byte) free), List.append_assoc]
      rfl

/-- An empty field at the end is not found, which no reader can tell. -/
theorem fields_joined (free : ∀ text ∈ texts, comma ∉ text) (index : Nat) :
    (fields [] (joined texts)).getD index [] = texts.getD index [] := by
  induction texts generalizing index with
  | nil => rfl
  | cons text texts ih =>
      have plain := free text List.mem_cons_self
      cases texts with
      | nil =>
          show (fields [] text).getD index [] = _
          rw [fields_last [] plain, List.nil_append]
          split
          next empty =>
            rw [empty]
            cases index <;> rfl
          next => rfl
      | cons next texts =>
          show (fields [] (text ++ comma :: joined (next :: texts))).getD index [] = _
          rw [fields_comma [] plain, List.nil_append]
          cases index with
          | zero => rfl
          | succ index =>
              exact ih (fun other member => free other (List.mem_cons_of_mem _ member)) index

theorem length_fields_joined (free : ∀ text ∈ texts, comma ∉ text) :
    (fields [] (joined texts)).length ≤ texts.length := by
  induction texts with
  | nil => exact Nat.le_refl _
  | cons text texts ih =>
      have plain := free text List.mem_cons_self
      cases texts with
      | nil =>
          show (fields [] text).length ≤ _
          rw [fields_last [] plain]
          split
          next => exact Nat.zero_le _
          next => exact Nat.le_refl _
      | cons next texts =>
          show (fields [] (text ++ comma :: joined (next :: texts))).length ≤ _
          rw [fields_comma [] plain, List.length_cons, List.length_cons]
          exact Nat.succ_le_succ (ih fun other member => free other (List.mem_cons_of_mem _ member))

theorem dropLineEnd_return (text : List UInt8) :
    dropLineEnd (text ++ [13] ++ [newline]) = text := by
  unfold dropLineEnd
  rw [List.getLast?_concat, if_pos rfl, List.dropLast_concat, List.getLast?_concat, if_pos rfl,
    List.dropLast_concat]

theorem dropChecksum_star (text : List UInt8) {checksum : List UInt8}
    (two : checksum.length = 2) : dropChecksum (text ++ 42 :: checksum) = text := by
  have length : (text ++ 42 :: checksum).length = text.length + 3 := by
    rw [List.length_append, List.length_cons, two]
  unfold dropChecksum
  rw [length, Nat.add_sub_cancel, if_pos, List.take_left']
  · rfl
  · refine ⟨Nat.le_add_left _ _, ?_⟩
    rw [List.getElem?_append_right (Nat.le_refl _), Nat.sub_self]
    rfl

theorem flatMap_fields {svs : List SvText} {idx : Nat} {sv : SvText} (there : svs[idx]? = some sv)
    {field : Nat} (inside : field < 4) :
    (svs.flatMap SvText.fields).getD (4 * idx + field) [] = sv.fields.getD field [] := by
  induction svs generalizing idx with
  | nil => cases there
  | cons first svs ih =>
      have four : first.fields.length = 4 := rfl
      rw [List.flatMap_cons, List.getD_eq_getElem?_getD]
      cases idx with
      | zero =>
          cases there
          rw [Nat.mul_zero, Nat.zero_add, List.getElem?_append_left (by omega),
            ← List.getD_eq_getElem?_getD]
      | succ idx =>
          have back : 4 * (idx + 1) + field - 4 = 4 * idx + field := by omega
          rw [List.getElem?_append_right (by omega), four, back, ← List.getD_eq_getElem?_getD]
          exact ih there

end Fields

namespace GsvSentence

variable {talker : Talker} {s : GsvSentence}

theorem text_free : ∀ byte ∈ talker.text ++ [71, 83, 86], byte ∉ separators := by
  cases talker <;> simp [Talker.text, separators, comma, newline]

theorem Plain.texts_free (plain : s.Plain talker) : ∀ text ∈ s.texts talker, ∀ byte ∈ text,
    byte ∉ separators := by
  intro text member
  rcases List.mem_cons.mp member with rfl | number
  · exact text_free
  · exact plain.numbers text number

theorem Plain.comma_free (plain : s.Plain talker) : ∀ text ∈ s.texts talker, comma ∉ text :=
  fun text member inside => plain.texts_free text member comma inside List.mem_cons_self

theorem joined_free {texts : List (List UInt8)} {byte : UInt8} (other : byte ≠ comma)
    (free : ∀ text ∈ texts, byte ∉ text) : byte ∉ joined texts := by
  induction texts with
  | nil => exact List.not_mem_nil
  | cons text texts ih =>
      have first := free text List.mem_cons_self
      cases texts with
      | nil => exact first
      | cons next texts =>
          show byte ∉ text ++ comma :: joined (next :: texts)
          rw [List.mem_append, List.mem_cons]
          rintro (here | same | later)
          · exact first here
          · exact other same
          · exact ih (fun text member => free text (List.mem_cons_of_mem _ member)) later

theorem Plain.newline_free (plain : s.Plain talker) : newline ∉ s.content talker := by
  have inside : newline ∉ joined (s.texts talker) := joined_free (by decide)
    fun text member here => plain.texts_free text member newline here (by decide)
  have check := plain.checksum.2
  unfold content
  simp only [List.mem_append, List.mem_cons, List.not_mem_nil, or_false, not_or]
  exact ⟨⟨by decide, inside, by decide, check⟩, by decide⟩

theorem Plain.fields (plain : s.Plain talker) :
    dropChecksum (dropLineEnd (dropDollar (s.line talker))) = joined (s.texts talker) := by
  show dropChecksum (dropLineEnd
    (joined (s.texts talker) ++ 42 :: s.checksum ++ [13] ++ [newline])) = _
  rw [dropLineEnd_return, dropChecksum_star _ plain.checksum.1]

/-- The tokens of a line of a sentence, as `nmea_tokenizer_get` returns them. -/
def Tokenized (talker : Talker) (s : GsvSentence) (tokens : List (List UInt8)) : Prop :=
  ∀ index, getToken tokens index = (s.texts talker).getD index []

theorem length_texts (few : s.svs.length ≤ 4) : (s.texts talker).length ≤ 20 := by
  have each : ∀ svs : List SvText, (svs.flatMap SvText.fields).length = 4 * svs.length := by
    intro svs
    induction svs with
    | nil => rfl
    | cons sv svs ih =>
        rw [List.flatMap_cons, List.length_append, ih, List.length_cons]
        show 4 + _ = _
        omega
  show ([s.num, s.seq, s.cnt] ++ s.svs.flatMap SvText.fields).length + 1 ≤ 20
  rw [List.length_append, each]
  show 3 + _ + 1 ≤ 20
  omega

/-- Any tokenizer that has room for the fields finds them. -/
theorem Plain.tokenized (plain : s.Plain talker) (few : s.svs.length ≤ 4) {limit : Nat}
    (room : 20 ≤ limit) : Tokenized talker s
      ((Nmea.fields [] (dropChecksum (dropLineEnd (dropDollar (s.line talker))))).take limit) := by
  have short := length_fields_joined plain.comma_free
  have most : (s.texts talker).length ≤ 20 := length_texts few
  rw [plain.fields, List.take_of_length_le (by omega)]
  exact fields_joined plain.comma_free

theorem Plain.tokenize (plain : s.Plain talker) (few : s.svs.length ≤ 4) :
    Tokenized talker s (tokenize (s.line talker)) :=
  plain.tokenized few (by decide)

end GsvSentence

end Connectivity.Nmea
