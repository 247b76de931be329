import Connectivity.WifiChip.Dumps
import Mathlib.Algebra.Ring.Int.Defs

set_option autoImplicit false

/- The archive of the dump folder that a bug report gets, and a reader of its format. -/
namespace Connectivity.WifiChip

/-- What is written to: the bytes, and how many writes still succeed, if not all of them. -/
structure Out where
  bytes : List UInt8
  left : Option Nat
deriving DecidableEq, Repr

def Out.write (out : Out) (data : List UInt8) : Option Out :=
  match out.left with
  | none => some ⟨out.bytes ++ data, none⟩
  | some 0 => none
  | some (left + 1) => some ⟨out.bytes ++ data, some left⟩

/-- One write after another, until one fails. -/
def Out.writes (out : Out) : List (List UInt8) → Out × Bool
  | [] => (out, true)
  | data :: rest =>
      match out.write data with
      | none => (out, false)
      | some out => out.writes rest

def hexChar (digit : Nat) : UInt8 :=
  if digit < 10 then UInt8.ofNat (48 + digit) else UInt8.ofNat (55 + digit)

/-- The digits that `%0*X` prints of a number that has no more of them. -/
def hex : Nat → Nat → List UInt8
  | 0, _ => []
  | width + 1, n => hex width (n / 16) ++ [hexChar (n % 16)]

/-- "070701". -/
def kCpioMagic : List UInt8 := [48, 55, 48, 55, 48, 49]

/-- The numbers of a header, as `int` or `unsigned`. -/
def headerFields (st : Stat) (file_name_len : Nat) : List Nat :=
  [st.st_ino % 2 ^ 32, st.st_mode % 2 ^ 32, st.st_uid % 2 ^ 32, st.st_gid % 2 ^ 32,
    st.st_nlink % 2 ^ 32, (st.st_mtime % 2 ^ 32).toNat, st.st_size % 2 ^ 32, st.st_dev.1 % 2 ^ 32,
    st.st_dev.2 % 2 ^ 32, st.st_rdev.1 % 2 ^ 32, st.st_rdev.2 % 2 ^ 32, file_name_len % 2 ^ 32, 0]

def header (fields : List Nat) : List UInt8 := kCpioMagic ++ fields.flatMap (hex 8)

/-- The zeros behind so many bytes, if there are any. -/
def padding (llen : Nat) : List (List UInt8) :=
  if llen % 4 ≠ 0 then [List.replicate (4 - llen % 4) 0] else []

def cpioWriteHeader (out : Out) (st : Stat) (file_name : List UInt8) : Out × Bool :=
  let read_buf := header (headerFields st file_name.length)
  out.writes ([read_buf, file_name] ++ padding (read_buf.length + file_name.length))

/-- The loop over the reads of a file. There is no number of errors where it returns. -/
def contentLoop (llen : Int) (reads : Option Nat) (content : List UInt8) (out : Out) :
    Out × Option Nat :=
  if llen ≤ 0 then (out, some 0)
  else if reads = some 0 then (out, none)
  else
    match out.write (content.take (32 * 1024)) with
    | none => (out, none)
    | some out =>
        if content = [] then (out, some 1)
        else
          contentLoop (llen - (content.take (32 * 1024)).length) (reads.map (· - 1))
            (content.drop (32 * 1024)) out
termination_by content.length
decreasing_by
  rename_i some
  have positive := List.length_pos_iff.mpr some
  rw [List.length_drop]
  omega

def cpioWriteFileContent (out : Out) (st : Stat) (file : DirEntry) : Out × Nat :=
  match contentLoop st.st_size file.readError file.content out with
  | (out, none) => (out, 1)
  | (out, some n_error) =>
      match out.writes (padding st.st_size) with
      | (out, true) => (out, n_error)
      | (out, false) => (out, n_error + 1)

/-- "TRAILER!!!". -/
def trailerName : List UInt8 := [84, 82, 65, 73, 76, 69, 82, 33, 33, 33]

/-- What `sprintf` prints, and four bytes of the buffer behind it. -/
def trailer : List UInt8 :=
  kCpioMagic ++ hex 40 1 ++ hex 56 0x0b ++ hex 8 0 ++ trailerName ++ List.replicate 4 0

def cpioWriteFileTrailer (out : Out) : Out × Bool := out.writes [trailer]

/-- The loop over the folder. -/
def archiveLoop : Nat → List DirEntry → Out → Out × Nat
  | n_error, [], out =>
      match cpioWriteFileTrailer out with
      | (out, true) => (out, n_error)
      | (out, false) => (out, n_error + 1)
  | n_error, entry :: rest, out =>
      if entry.regular = false then archiveLoop n_error rest out
      else
        match entry.stat with
        | none => archiveLoop (n_error + 1) rest out
        | some st =>
            if entry.opens = false then archiveLoop (n_error + 1) rest out
            else
              match cpioWriteHeader out st (entry.name ++ [0]) with
              | (out, false) => (out, n_error + 1)
              | (out, true) =>
                  match cpioWriteFileContent out st entry with
                  | (out, 0) => archiveLoop n_error rest out
                  | (out, write_error + 1) => (out, n_error + (write_error + 1))

/-- There is no folder where `opendir` fails. -/
def cpioArchiveFilesInDir (out : Out) : Option (List DirEntry) → Out × Nat
  | none => (out, 1)
  | some folder => archiveLoop 0 folder out

section Format

/-- A member of an archive, with the numbers of its header. -/
structure Member where
  fields : List Nat
  name : List UInt8
  content : List UInt8
deriving DecidableEq, Repr

def hexValue (c : UInt8) : Option Nat :=
  if 48 ≤ c ∧ c ≤ 57 then some (c.toNat - 48)
  else if 65 ≤ c ∧ c ≤ 70 then some (c.toNat - 55)
  else none

def readHex (digits : List UInt8) : Option Nat :=
  digits.foldlM (fun n c => (hexValue c).map (16 * n + ·)) 0

/-- So many numbers of eight digits. -/
def readFields : Nat → List UInt8 → Option (List Nat)
  | 0, _ => some []
  | count + 1, bytes =>
      (readHex (bytes.take 8)).bind fun n =>
        (readFields count (bytes.drop 8)).map fun others => n :: others

/-- The next multiple of four. -/
def aligned (n : Nat) : Nat := (n + 3) / 4 * 4

/-- The header with the name, aligned, and the content, aligned. -/
def readMember (bytes : List UInt8) : Option (Member × List UInt8) :=
  if bytes.take 6 ≠ kCpioMagic then none
  else
    (readFields 13 (bytes.drop 6)).bind fun fields =>
      let filesize := fields.getD 6 0
      let namesize := fields.getD 11 0
      let name := (bytes.drop 110).take namesize
      let rest := bytes.drop (aligned (110 + namesize))
      if name.getLast? ≠ some 0 ∨ name.length ≠ namesize ∨ rest.length < filesize then none
      else some (⟨fields, name.dropLast, rest.take filesize⟩, rest.drop (aligned filesize))

/-- The members in front of the trailer. -/
def readMembers : Nat → List UInt8 → Option (List Member)
  | 0, _ => none
  | fuel + 1, bytes =>
      (readMember bytes).bind fun (member, rest) =>
        if member.name = trailerName then some []
        else (readMembers fuel rest).map fun others => member :: others

/-- Every member takes some bytes. -/
def readArchive (bytes : List UInt8) : Option (List Member) := readMembers bytes.length bytes

end Format

section Digits

@[simp]
theorem hex_length (width n : Nat) : (hex width n).length = width := by
  induction width generalizing n with
  | zero => rfl
  | succ width ih => simp [hex, ih]

theorem hexValue_hexChar {digit : Nat} (small : digit < 16) :
    hexValue (hexChar digit) = some digit := by
  have each : ∀ digit < 16, hexValue (hexChar digit) = some digit := by decide
  exact each digit small

theorem readHex_hex {width n : Nat} (small : n < 16 ^ width) : readHex (hex width n) = some n := by
  induction width generalizing n with
  | zero =>
      have zero : n = 0 := by simpa using small
      rw [zero]
      rfl
  | succ width ih =>
      have high : n / 16 < 16 ^ width := by
        rw [Nat.pow_succ] at small
        exact Nat.div_lt_of_lt_mul (by omega)
      have first := ih high
      unfold readHex at first ⊢
      rw [hex, List.foldlM_append, first]
      simp only [Option.bind_eq_bind, Option.bind_some, List.foldlM_cons, List.foldlM_nil,
        hexValue_hexChar (Nat.mod_lt n (by decide)), Option.map_some]
      exact congrArg some (by omega)

theorem readFields_flatMap {fields : List Nat} (small : ∀ n ∈ fields, n < 2 ^ 32)
    (rest : List UInt8) :
    readFields fields.length (fields.flatMap (hex 8) ++ rest) = some fields := by
  induction fields with
  | nil => rfl
  | cons n others ih =>
      have later := ih fun other member => small other (List.mem_cons_of_mem n member)
      have first : n < 16 ^ 8 := small n List.mem_cons_self
      rw [List.flatMap_cons, List.append_assoc, List.length_cons, readFields,
        List.take_left' (hex_length 8 n), List.drop_left' (hex_length 8 n), readHex_hex first, later]
      rfl

theorem flatMap_hex_length (fields : List Nat) :
    (fields.flatMap (hex 8)).length = 8 * fields.length := by
  induction fields with
  | nil => rfl
  | cons n others ih =>
      rw [List.flatMap_cons, List.length_append, hex_length, ih, List.length_cons]
      omega

theorem headerFields_small (st : Stat) (file_name_len : Nat) :
    ∀ n ∈ headerFields st file_name_len, n < 2 ^ 32 := by
  intro n member
  simp only [headerFields, List.mem_cons, List.not_mem_nil, or_false] at member
  omega

theorem header_length (st : Stat) (file_name_len : Nat) :
    (header (headerFields st file_name_len)).length = 110 := by
  rw [header, List.length_append, flatMap_hex_length]
  rfl

end Digits

section Padding

theorem padding_length (n : Nat) : n + (padding n).flatten.length = aligned n := by
  unfold padding aligned
  split
  · simp
    omega
  · simp
    omega

end Padding

/-- The bytes of a member. -/
def memberBytes (st : Stat) (name content : List UInt8) : List UInt8 :=
  header (headerFields st (name.length + 1)) ++ (name ++ [0]) ++
    (padding (110 + (name.length + 1))).flatten ++ content ++ (padding st.st_size).flatten

def memberOf (st : Stat) (name content : List UInt8) : Member :=
  ⟨headerFields st (name.length + 1), name, content⟩

/-- A member is read back, whatever comes behind it. -/
theorem readMember_append {st : Stat} {name content : List UInt8}
    (named : name.length + 1 < 2 ^ 32) (sized : content.length = st.st_size)
    (small : st.st_size < 2 ^ 32) (rest : List UInt8) :
    readMember (memberBytes st name content ++ rest) = some (memberOf st name content, rest) := by
  have length := header_length st (name.length + 1)
  have fields : readFields 13 ((memberBytes st name content ++ rest).drop 6) =
      some (headerFields st (name.length + 1)) := by
    simp only [memberBytes, header, List.append_assoc]
    rw [List.drop_left' (show kCpioMagic.length = 6 from rfl)]
    exact readFields_flatMap (headerFields_small st _) _
  have magic : (memberBytes st name content ++ rest).take 6 = kCpioMagic := by
    simp only [memberBytes, header, List.append_assoc]
    exact List.take_left' rfl
  have filesize : (headerFields st (name.length + 1)).getD 6 0 = st.st_size :=
    Nat.mod_eq_of_lt small
  have namesize : (headerFields st (name.length + 1)).getD 11 0 = name.length + 1 :=
    Nat.mod_eq_of_lt named
  have called : ((memberBytes st name content ++ rest).drop 110).take (name.length + 1) =
      name ++ [0] := by
    simp only [memberBytes, List.append_assoc]
    rw [List.drop_left' length, ← List.append_assoc name]
    exact List.take_left' (by simp)
  have body : (memberBytes st name content ++ rest).drop (aligned (110 + (name.length + 1))) =
      content ++ ((padding st.st_size).flatten ++ rest) := by
    simp only [memberBytes, List.append_assoc]
    rw [← List.append_assoc name, ← List.append_assoc, ← List.append_assoc]
    apply List.drop_left'
    rw [List.length_append, List.length_append, length, ← padding_length]
    simp
  rw [readMember, if_neg (not_not.mpr magic), fields, Option.bind_some]
  simp only [filesize, namesize, called, body]
  rw [if_neg, List.dropLast_concat, List.take_left' sized, ← padding_length, ← sized,
    List.drop_append, List.drop_eq_nil_of_le (Nat.le_add_right _ _), sized]
  · simp [memberOf]
  · simp [sized]

theorem name_trailer : (readMember trailer).map (fun read => read.1.name) = some trailerName := by
  decide

section Whole

/-- What `stat` says of a file that is archived. -/
def DirEntry.archived (entry : DirEntry) : Option Stat :=
  if entry.regular && entry.opens then entry.stat else none

/-- A file that is left out, which is counted as an error. -/
def DirEntry.missed (entry : DirEntry) : Bool :=
  entry.regular && (entry.stat.isNone || !entry.opens)

/-- The file does not change under the reads, which do not fail; its numbers fit into the header,
and it is not called as the trailer is. -/
structure DirEntry.Faithful (entry : DirEntry) (st : Stat) : Prop where
  reads : entry.readError = none
  sized : entry.content.length = st.st_size
  small : st.st_size < 2 ^ 32
  named : entry.name.length + 1 < 2 ^ 32
  apart : entry.name ≠ trailerName

/-- The files that are archived, in the order of the folder. -/
def archivedFiles (folder : List DirEntry) : List (Stat × DirEntry) :=
  folder.filterMap fun entry => entry.archived.map fun st => (st, entry)

def bytesOf (file : Stat × DirEntry) : List UInt8 :=
  memberBytes file.1 file.2.name file.2.content

theorem writes_all (bytes : List UInt8) (pieces : List (List UInt8)) :
    (⟨bytes, none⟩ : Out).writes pieces = (⟨bytes ++ pieces.flatten, none⟩, true) := by
  induction pieces generalizing bytes with
  | nil => simp [Out.writes]
  | cons data rest ih =>
      simp only [Out.writes, Out.write]
      rw [ih, List.flatten_cons, List.append_assoc]

theorem contentLoop_all (bytes content : List UInt8) :
    contentLoop content.length none content ⟨bytes, none⟩ = (⟨bytes ++ content, none⟩, some 0) := by
  induction length : content.length using Nat.strongRecOn generalizing bytes content with
  | ind left ih =>
      rw [contentLoop]
      by_cases empty : content = []
      · subst empty
        cases length
        simp
      · have positive := List.length_pos_iff.mpr empty
        have taken : ((left : Int) - (content.take (32 * 1024)).length) =
            (content.drop (32 * 1024)).length := by
          rw [List.length_take, List.length_drop]
          omega
        have fewer : (content.drop (32 * 1024)).length < left := by
          rw [List.length_drop]
          omega
        rw [if_neg (by omega), if_neg (by simp)]
        simp only [Out.write, empty, if_false, Option.map_none, taken]
        rw [ih _ fewer _ _ rfl, List.append_assoc, List.take_append_drop]

theorem writeMember_all {entry : DirEntry} {st : Stat} (faithful : entry.Faithful st)
    (bytes : List UInt8) :
    ∃ out, cpioWriteHeader ⟨bytes, none⟩ st (entry.name ++ [0]) = (out, true) ∧
      cpioWriteFileContent out st entry = (⟨bytes ++ bytesOf (st, entry), none⟩, 0) := by
  refine ⟨_, writes_all _ _, ?_⟩
  rw [cpioWriteFileContent, faithful.reads, ← faithful.sized, contentLoop_all]
  simp only [writes_all, faithful.sized, bytesOf, memberBytes, List.length_append, header_length,
    List.length_singleton, List.flatten_append, List.flatten_cons, List.flatten_nil,
    List.append_nil, List.append_assoc]

theorem archiveLoop_all {folder : List DirEntry}
    (faithful : ∀ file ∈ archivedFiles folder, file.2.Faithful file.1) (n_error : Nat)
    (bytes : List UInt8) :
    archiveLoop n_error folder ⟨bytes, none⟩ =
      (⟨bytes ++ ((archivedFiles folder).flatMap bytesOf ++ trailer), none⟩,
        n_error + folder.countP DirEntry.missed) := by
  induction folder generalizing n_error bytes with
  | nil => simp [archiveLoop, cpioWriteFileTrailer, writes_all, archivedFiles]
  | cons entry rest ih =>
      have later : ∀ file ∈ archivedFiles rest, file.2.Faithful file.1 := by
        intro file member
        apply faithful file
        rw [archivedFiles, List.filterMap_cons]
        split
        · exact member
        · exact List.mem_cons_of_mem _ member
      rw [archiveLoop, List.countP_cons, archivedFiles, List.filterMap_cons]
      by_cases regular : entry.regular = false
      · rw [if_pos regular, ih later]
        simp [DirEntry.missed, DirEntry.archived, regular, archivedFiles]
      · rw [if_neg regular]
        rw [Bool.not_eq_false] at regular
        cases stat : entry.stat with
        | none =>
            simp only
            rw [ih later]
            simp [DirEntry.missed, DirEntry.archived, stat, regular, archivedFiles]
            omega
        | some st =>
            simp only
            by_cases opens : entry.opens = false
            · rw [if_pos opens, ih later]
              simp [DirEntry.missed, DirEntry.archived, stat, regular, opens, archivedFiles]
              omega
            · rw [if_neg opens]
              rw [Bool.not_eq_false] at opens
              have archived : entry.archived = some st := by
                simp [DirEntry.archived, regular, opens, stat]
              have here : entry.Faithful st := by
                apply faithful (st, entry)
                simp [archivedFiles, archived]
              obtain ⟨out, header, content⟩ := writeMember_all here bytes
              rw [header]
              simp only
              rw [content]
              simp only
              rw [ih later]
              simp [DirEntry.missed, archived, stat, opens, archivedFiles]

theorem readMembers_all {files : List (Stat × DirEntry)}
    (faithful : ∀ file ∈ files, file.2.Faithful file.1) {fuel : Nat} (enough : files.length < fuel) :
    readMembers fuel (files.flatMap bytesOf ++ trailer) =
      some (files.map fun file => memberOf file.1 file.2.name file.2.content) := by
  induction files generalizing fuel with
  | nil =>
      cases fuel with
      | zero => cases enough
      | succ fuel =>
          obtain ⟨read, found, name⟩ := Option.map_eq_some_iff.mp name_trailer
          simp [readMembers, found, name]
  | cons file rest ih =>
      cases fuel with
      | zero => cases enough
      | succ fuel =>
          have here := faithful file List.mem_cons_self
          have later := ih (fun other member => faithful other (List.mem_cons_of_mem file member))
            (Nat.lt_of_succ_lt_succ enough)
          rw [List.flatMap_cons, List.append_assoc, readMembers, bytesOf,
            readMember_append here.named here.sized here.small, Option.bind_some]
          simp only [memberOf, here.apart, if_false]
          rw [later]
          rfl

theorem length_lt_bytes (files : List (Stat × DirEntry)) :
    files.length < (files.flatMap bytesOf ++ trailer).length := by
  have each : files.length ≤ (files.flatMap bytesOf).length := by
    induction files with
    | nil => exact Nat.zero_le _
    | cons file rest ih =>
        have header := header_length file.1 (file.2.name.length + 1)
        simp only [List.flatMap_cons, List.length_append, List.length_cons, bytesOf, memberBytes,
          header]
        omega
  rw [List.length_append]
  have last : 0 < trailer.length := by
    simp only [trailer, List.length_append, hex_length]
    omega
  omega

end Whole

/-- When no write fails, the archive of a folder whose files stay as they are is read back as those
of its regular files that could be looked at and opened, in its order, and the others are the
errors. -/
theorem archive_read {folder : List DirEntry}
    (faithful : ∀ file ∈ archivedFiles folder, file.2.Faithful file.1) :
    let result := cpioArchiveFilesInDir ⟨[], none⟩ (some folder)
    readArchive result.1.bytes = some ((archivedFiles folder).map fun file =>
        memberOf file.1 file.2.name file.2.content) ∧
      result.2 = folder.countP DirEntry.missed := by
  simp only [cpioArchiveFilesInDir, archiveLoop_all faithful]
  refine ⟨?_, Nat.zero_add _⟩
  rw [List.nil_append]
  exact readMembers_all faithful (length_lt_bytes _)

/-- A file of three bytes, a folder, and a file that cannot be opened. -/
theorem archive_read_three :
    let folder : List DirEntry :=
      [⟨[97], true, some ⟨1, 33188, 0, 0, 1, 9000, 3, (0, 0), (0, 0)⟩, true, [1, 2, 3], none⟩,
        ⟨[98], false, none, false, [], none⟩,
        ⟨[99], true, some ⟨2, 33024, 0, 0, 1, 9000, 1, (0, 0), (0, 0)⟩, false, [4], none⟩]
    let result := cpioArchiveFilesInDir ⟨[], none⟩ (some folder)
    readArchive result.1.bytes = some ((archivedFiles folder).map fun file =>
        memberOf file.1 file.2.name file.2.content) ∧
      result.2 = folder.countP DirEntry.missed := by
  intro folder
  refine archive_read fun file member => ?_
  have only : file = (⟨1, 33188, 0, 0, 1, 9000, 3, (0, 0), (0, 0)⟩,
      ⟨[97], true, some ⟨1, 33188, 0, 0, 1, 9000, 3, (0, 0), (0, 0)⟩, true, [1, 2, 3], none⟩) := by
    simpa [folder, archivedFiles, DirEntry.archived] using member
  rw [only]
  exact ⟨rfl, rfl, by decide, by decide, by decide⟩

section Cut

variable {ρ σ : Type}

/-- The same with no limit to the writes. -/
def Out.whole (out : Out) : Out := ⟨out.bytes, none⟩

/-- What is written when writes may fail, beside what is written when none does: the same, or the
beginning of it, with a result that tells. -/
structure Cuts (failed : ρ → Prop) (program : Out → Out × ρ) : Prop where
  appends : ∀ out : Out, out.bytes <+: (program out).1.bytes
  left : ∀ out : Out, (program out.whole).1.left = none
  cut : ∀ out : Out, (program out).1.bytes = (program out.whole).1.bytes ∧
      (program out).2 = (program out.whole).2 ∨
    (program out).1.bytes <+: (program out.whole).1.bytes ∧ failed (program out).2

variable {failed : ρ → Prop} {stopped : σ → Prop}

/-- A result without a write. -/
theorem cuts_pure (r : ρ) : Cuts failed fun out => (out, r) :=
  ⟨fun _ => List.prefix_refl _, fun _ => rfl, fun _ => Or.inl ⟨rfl, rfl⟩⟩

/-- One program behind the other, which does nothing behind a failure. -/
theorem Cuts.bind {program : Out → Out × ρ} {both : Out → Out × σ} (first : Cuts failed program)
    (k : ρ → Out → Out × σ) (later : ∀ r, Cuts stopped (k r))
    (stops : ∀ r, failed r → ∀ out, (k r out).1 = out ∧ stopped (k r out).2)
    (same : ∀ out, both out = k (program out).2 (program out).1) : Cuts stopped both := by
  obtain rfl : both = fun out => k (program out).2 (program out).1 := funext same
  have same : ∀ out : Out, (program out.whole).1 = (program out.whole).1.whole := by
    intro out
    have left := first.left out
    cases ended : (program out.whole).1
    rw [ended] at left
    cases left
    rfl
  refine ⟨fun out => ?_, fun out => ?_, fun out => ?_⟩
  · exact (first.appends out).trans ((later _).appends _)
  · rw [same out]
    exact (later _).left _
  · rcases first.cut out with ⟨bytes, result⟩ | ⟨short, failure⟩
    · have whole : (program out.whole).1 = (program out).1.whole := by
        rw [same out]
        exact congrArg (fun bytes => Out.mk bytes none) bytes.symm
      rw [whole, ← result]
      exact (later _).cut _
    · obtain ⟨nothing, told⟩ := stops _ failure (program out).1
      refine Or.inr ⟨?_, told⟩
      rw [nothing]
      exact short.trans ((later _).appends _)

theorem Cuts.weaken {program : Out → Out × ρ} {looser : ρ → Prop} (cuts : Cuts failed program)
    (weaker : ∀ r, failed r → looser r) : Cuts looser program :=
  ⟨cuts.appends, cuts.left, fun out => (cuts.cut out).imp id (And.imp id (weaker _))⟩

/-- One write, and the rest of the program where it succeeds. -/
theorem cuts_write (data : List UInt8) {ended : σ} {k : Out → Out × σ} (told : stopped ended)
    (later : Cuts stopped k) :
    Cuts stopped fun out =>
      match out.write data with
      | none => (out, ended)
      | some out => k out := by
  refine ⟨fun out => ?_, fun out => later.left ⟨out.bytes ++ data, none⟩, fun out => ?_⟩ <;>
    obtain ⟨bytes, left⟩ := out
  · have sent := fun left => (List.prefix_append bytes data).trans (later.appends ⟨_, left⟩)
    rcases left with _ | _ | left
    · exact sent none
    · exact List.prefix_refl bytes
    · exact sent (some left)
  · rcases left with _ | _ | left
    · exact Or.inl ⟨rfl, rfl⟩
    · exact Or.inr ⟨(List.prefix_append bytes data).trans (later.appends ⟨_, none⟩), told⟩
    · exact later.cut ⟨bytes ++ data, some left⟩

theorem cuts_writes (pieces : List (List UInt8)) :
    Cuts (· = false) fun out => out.writes pieces := by
  induction pieces with
  | nil => exact cuts_pure true
  | cons data rest ih => exact cuts_write data rfl ih

theorem cuts_contentLoop (llen : Int) (reads : Option Nat) (content : List UInt8) :
    Cuts (· = none) fun out => contentLoop llen reads content out := by
  induction length : content.length using Nat.strongRecOn generalizing llen reads content with
  | ind left ih =>
      simp only [contentLoop.eq_def llen reads content]
      by_cases done : llen ≤ 0
      · simp only [done, if_true]
        exact cuts_pure (some 0)
      by_cases fails : reads = some 0
      · simp only [done, fails, if_false, if_true]
        exact cuts_pure none
      simp only [done, fails, if_false]
      apply @cuts_write _ (· = none) (content.take (32 * 1024)) none _ rfl
      by_cases empty : content = []
      · simp only [empty, if_true]
        exact cuts_pure (some 1)
      have positive := List.length_pos_iff.mpr empty
      have fewer : (content.drop (32 * 1024)).length < left := by
        rw [List.length_drop]
        omega
      simp only [empty, if_false]
      exact ih _ fewer _ _ _ rfl

/-- A number that tells whether the writes succeeded. -/
theorem cuts_counted (pieces : List (List UInt8)) (n_error : Nat) :
    Cuts (n_error < ·) fun out =>
      match out.writes pieces with
      | (out, true) => (out, n_error)
      | (out, false) => (out, n_error + 1) := by
  apply (cuts_writes pieces).bind fun written out => (out, if written then n_error else n_error + 1)
  · exact fun written => cuts_pure _
  · rintro written failure out
    rw [failure]
    exact ⟨rfl, Nat.lt_succ_self n_error⟩
  · intro out
    rcases out.writes pieces with ⟨next, _ | _⟩ <;> rfl

/-- What comes behind the loop over the reads of a file. -/
def endContent (llen : Nat) : Option Nat → Out → Out × Nat
  | none, out => (out, 1)
  | some n_error, out =>
      match out.writes (padding llen) with
      | (out, true) => (out, n_error)
      | (out, false) => (out, n_error + 1)

theorem cuts_content (st : Stat) (file : DirEntry) :
    Cuts (0 < ·) fun out => cpioWriteFileContent out st file := by
  apply (cuts_contentLoop st.st_size file.readError file.content).bind (endContent st.st_size)
  · rintro (_ | n_error)
    · exact cuts_pure 1
    · exact (cuts_counted (padding st.st_size) n_error).weaken fun r => Nat.zero_lt_of_lt
  · rintro ended failure out
    rw [failure]
    exact ⟨rfl, Nat.one_pos⟩
  · intro out
    rw [cpioWriteFileContent]
    rcases contentLoop _ _ _ out with ⟨next, _ | n_error⟩ <;> rfl

/-- What comes behind the content of a file. -/
def afterContent (n_error : Nat) (rest : List DirEntry) : Nat → Out → Out × Nat
  | 0, out => archiveLoop n_error rest out
  | write_error + 1, out => (out, n_error + (write_error + 1))

/-- What comes behind the header of a file. -/
def afterHeader (n_error : Nat) (rest : List DirEntry) (st : Stat) (file : DirEntry) :
    Bool → Out → Out × Nat
  | false, out => (out, n_error + 1)
  | true, out =>
      let written := cpioWriteFileContent out st file
      afterContent n_error rest written.2 written.1

section Entry

variable {n_error : Nat} {rest : List DirEntry}

theorem cuts_afterContent (later : Cuts (n_error < ·) fun out => archiveLoop n_error rest out)
    (st : Stat) (file : DirEntry) :
    Cuts (n_error < ·) fun out => afterHeader n_error rest st file true out := by
  apply (cuts_content st file).bind (afterContent n_error rest)
  · rintro (_ | write_error)
    · exact later
    · exact cuts_pure _
  · rintro (_ | write_error) failure out
    · cases failure
    · exact ⟨rfl, Nat.lt_add_of_pos_right (Nat.succ_pos write_error)⟩
  · exact fun _ => rfl

theorem archiveLoop_file {file : DirEntry} {st : Stat} (regular : file.regular = true)
    (stat : file.stat = some st) (opens : file.opens = true) (out : Out) :
    archiveLoop n_error (file :: rest) out =
      let written := cpioWriteHeader out st (file.name ++ [0])
      afterHeader n_error rest st file written.2 written.1 := by
  simp only [archiveLoop, regular, stat, opens, Bool.true_eq_false, if_false]
  rcases cpioWriteHeader out st _ with ⟨next, _ | _⟩
  · rfl
  · simp only [afterHeader]
    rcases cpioWriteFileContent next st file with ⟨last, _ | _⟩ <;> rfl

end Entry

theorem cuts_archiveLoop (n_error : Nat) (folder : List DirEntry) :
    Cuts (n_error < ·) fun out => archiveLoop n_error folder out := by
  induction folder generalizing n_error with
  | nil => exact cuts_counted [trailer] n_error
  | cons entry rest ih =>
      have missed := (ih (n_error + 1)).weaken fun r more => Nat.lt_of_succ_lt more
      cases regular : entry.regular with
      | false =>
          simp only [archiveLoop, regular, if_true]
          exact ih n_error
      | true =>
          cases stat : entry.stat with
          | none =>
              simp only [archiveLoop, regular, stat, Bool.true_eq_false, if_false]
              exact missed
          | some st =>
              cases opens : entry.opens with
              | false =>
                  simp only [archiveLoop, regular, stat, opens, Bool.true_eq_false, if_false,
                    if_true]
                  exact missed
              | true =>
                  apply (cuts_writes _).bind (afterHeader n_error rest st entry)
                  · rintro (_ | _)
                    · exact cuts_pure _
                    · exact cuts_afterContent (ih n_error) st entry
                  · rintro written failure out
                    rw [failure]
                    exact ⟨rfl, Nat.lt_succ_self n_error⟩
                  · exact fun out => archiveLoop_file regular stat opens out

end Cut

/-- Whatever write is the first to fail, what has been written is the beginning of the archive that
would have been, and if it is not the whole of it then an error is counted. -/
theorem archive_cut (folder : Option (List DirEntry)) (out : Out) :
    let result := cpioArchiveFilesInDir out folder
    let whole := cpioArchiveFilesInDir ⟨out.bytes, none⟩ folder
    (result.1.bytes = whole.1.bytes ∧ result.2 = whole.2) ∨
      (result.1.bytes <+: whole.1.bytes ∧ 0 < result.2) := by
  cases folder with
  | none => exact Or.inl ⟨rfl, rfl⟩
  | some folder => exact (cuts_archiveLoop 0 folder).cut out

end Connectivity.WifiChip
