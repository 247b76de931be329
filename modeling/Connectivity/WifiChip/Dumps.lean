import Connectivity.Transition.Run
import Mathlib.Algebra.Ring.Nat
import Mathlib.Data.List.Lex
import Mathlib.Data.Prod.Lex

set_option autoImplicit false

/- The ring buffers of the Wi-Fi chip and the folder they are dumped to. -/
namespace Connectivity.WifiChip

open Transition

abbrev Block := List UInt8

structure Ringbuffer where
  data : List Block
  size : Nat
  maxSize : Nat
deriving DecidableEq, Repr

/-- The bytes of the blocks. -/
def total (blocks : List Block) : Nat := (blocks.map List.length).sum

/-- The loop that drops blocks from the front. There is no front of an empty list. -/
def trim (maxSize : Nat) : List Block → Nat → Option (List Block × Nat)
  | [], size => if maxSize < size then none else some ([], size)
  | front :: rest, size =>
      if maxSize < size then trim maxSize rest (size - front.length)
      else some (front :: rest, size)

namespace Ringbuffer

def new (maxSize : Nat) : Ringbuffer := ⟨[], 0, maxSize⟩

def append (r : Ringbuffer) (input : Block) : Option Ringbuffer :=
  if input.length = 0 then some r
  else if r.maxSize < input.length then some r
  else
    (trim r.maxSize (r.data ++ [input]) (r.size + input.length)).map fun (data, size) =>
      { r with data, size }

/-- What is kept is the longest end of what has come that fits. -/
structure Recent (came : List Block) (r : Ringbuffer) : Prop where
  size : r.size = total r.data
  fits : total r.data ≤ r.maxSize
  longest : ∃ dropped, came = dropped ++ r.data ∧
    ∀ block, dropped.getLast? = some block → r.maxSize < block.length + total r.data

end Ringbuffer

section Recent

variable {maxSize : Nat}

@[simp]
theorem total_cons (block : Block) (rest : List Block) :
    total (block :: rest) = block.length + total rest := by
  simp [total]

@[simp]
theorem total_append (first later : List Block) :
    total (first ++ later) = total first + total later := by
  simp [total]

/-- Blocks are dropped until the others fit; the last block is not dropped if it fits alone. -/
theorem trim_spec {blocks : List Block} {last : Block} (alone : last.length ≤ maxSize) :
    ∃ dropped kept, trim maxSize (blocks ++ [last]) (total (blocks ++ [last])) =
        some (kept ++ [last], total (kept ++ [last])) ∧
      blocks = dropped ++ kept ∧ total (kept ++ [last]) ≤ maxSize ∧
      ∀ block, dropped.getLast? = some block →
        maxSize < block.length + total (kept ++ [last]) := by
  induction blocks with
  | nil =>
      refine ⟨[], [], ?_, rfl, by simpa [total] using alone, by simp⟩
      simp [trim, total, alone]
  | cons front rest ih =>
      by_cases fits : total (front :: rest ++ [last]) ≤ maxSize
      · refine ⟨[], front :: rest, ?_, rfl, fits, by simp⟩
        rw [List.cons_append, trim, if_neg (by simpa using fits)]
      · obtain ⟨dropped, kept, done, split, small, longest⟩ := ih
        refine ⟨front :: dropped, kept, ?_, by rw [split, List.cons_append], small, ?_⟩
        · rw [List.cons_append, trim, if_pos (by simpa using fits), total_cons,
            Nat.add_sub_cancel_left]
          exact done
        · intro block there
          cases dropped with
          | nil =>
              cases there
              rw [← List.nil_append kept, ← split]
              simpa [Nat.add_assoc] using fits
          | cons next more => exact longest block (by simpa using there)

theorem recent_new (maxSize : Nat) : (Ringbuffer.new maxSize).Recent [] := by
  refine ⟨rfl, Nat.zero_le _, [], rfl, by simp⟩

/-- The blocks that are taken: those that are neither empty nor too large. -/
def accepted (maxSize : Nat) (inputs : List Block) : List Block :=
  inputs.filter fun input => 0 < input.length ∧ input.length ≤ maxSize

theorem append_recent {r : Ringbuffer} {came : List Block} (recent : r.Recent came)
    (input : Block) : ∃ next, r.append input = some next ∧ next.maxSize = r.maxSize ∧
      next.Recent (came ++ accepted r.maxSize [input]) := by
  unfold Ringbuffer.append
  split
  · rename_i empty
    refine ⟨r, rfl, rfl, ?_⟩
    simpa [accepted, empty] using recent
  · rename_i nonempty
    split
    · rename_i large
      refine ⟨r, rfl, rfl, ?_⟩
      simpa [accepted, Nat.not_le.mpr large] using recent
    · rename_i fits
      obtain ⟨dropped, kept, done, split, small, longest⟩ :=
        @trim_spec r.maxSize r.data input (Nat.not_lt.mp fits)
      have taken : accepted r.maxSize [input] = [input] := by
        apply List.filter_eq_self.mpr
        intro block member
        rw [List.mem_singleton.mp member, decide_eq_true_iff]
        omega
      obtain ⟨older, came, before⟩ := recent.longest
      have whole : r.size + input.length = total (r.data ++ [input]) := by
        rw [recent.size, total_append]
        simp [total]
      rw [whole, done, taken]
      refine ⟨_, rfl, rfl, rfl, small, older ++ dropped, ?_, fun block there => ?_⟩
      · rw [came, split]
        simp
      · cases dropped with
        | nil =>
            rw [List.append_nil] at there
            have more := before block there
            rw [split, List.nil_append] at more
            simp only [total_append] at more ⊢
            omega
        | cons next more =>
            apply longest block
            simpa [List.getLast?_append] using there

end Recent

/-- After any blocks a ring buffer holds the longest end of those it could take that fits, and the
list it drops blocks from is never empty. -/
theorem ringbuffer_recent (maxSize : Nat) (inputs : List Block) :
    ∃ r, exec Ringbuffer.append (.new maxSize) inputs = some r ∧
      r.Recent (accepted maxSize inputs) := by
  have run : ∀ (inputs : List Block) (r : Ringbuffer) (came : List Block), r.maxSize = maxSize →
      r.Recent came → ∃ last, exec Ringbuffer.append r inputs = some last ∧
        last.Recent (came ++ accepted maxSize inputs) := by
    intro inputs
    induction inputs with
    | nil =>
        intro r came _ recent
        exact ⟨r, rfl, by simpa [accepted] using recent⟩
    | cons input rest ih =>
        intro r came bound recent
        obtain ⟨next, taken, same, later⟩ := append_recent recent input
        obtain ⟨last, run, final⟩ := ih next _ (same.trans bound) later
        refine ⟨last, by rw [exec, taken, Option.bind_some, run], ?_⟩
        rw [List.append_assoc, bound] at final
        have split : accepted maxSize (input :: rest) =
            accepted maxSize [input] ++ accepted maxSize rest := by
          rw [accepted, accepted, accepted, ← List.filter_append, List.singleton_append]
        rw [split]
        exact final
  exact run inputs (.new maxSize) [] rfl (recent_new maxSize)

/-- What `stat` says of a file. -/
structure Stat where
  st_ino : Nat
  st_mode : Nat
  st_uid : Nat
  st_gid : Nat
  st_nlink : Nat
  st_mtime : Int
  st_size : Nat
  st_dev : Nat × Nat
  st_rdev : Nat × Nat
deriving DecidableEq, Repr

/-- An entry of the folder: its name without the NUL, whether it is a regular file, what `stat` and
`open` make of it, its content, and how many reads of it succeed before one fails. -/
structure DirEntry where
  name : List UInt8
  regular : Bool
  stat : Option Stat
  opens : Bool
  content : List UInt8
  readError : Option Nat
deriving DecidableEq, Repr

/-- A file with its time. -/
structure DumpFile where
  mtime : Int
  name : List UInt8
deriving DecidableEq, Repr

/-- The files are sorted by their times, then by their paths. -/
def DumpFile.key (file : DumpFile) : Int ×ₗ List Nat :=
  toLex (file.mtime, file.name.map UInt8.toNat)

def kMaxRingBufferFileAgeSeconds : Int := 60 * 60
def kMaxRingBufferFileNum : Nat := 20

def validFiles (folder : List DirEntry) : List DumpFile :=
  folder.filterMap fun entry =>
    if entry.regular then entry.stat.map fun st => ⟨st.st_mtime, entry.name⟩ else none

/-- The loop over the sorted files: those that it has removed, and its success. -/
def removeLoop (delete_files_before : Int) (unlinks : DumpFile → Bool) :
    Nat → List DumpFile → List DumpFile × Bool
  | _, [] => ([], true)
  | cur_file_count, cur_file :: rest =>
      if kMaxRingBufferFileNum < cur_file_count ∨ cur_file.mtime < delete_files_before then
        let others := removeLoop delete_files_before unlinks ((cur_file_count + 2 ^ 32 - 1) % 2 ^ 32) rest
        if unlinks cur_file then (cur_file :: others.1, others.2) else (others.1, false)
      else ([], true)

/-- `removeOldFilesInternal`; there is no folder where `opendir` fails. -/
def removeOldFilesInternal (now : Int) (unlinks : DumpFile → Bool) :
    Option (List DirEntry) → List DumpFile × Bool
  | none => ([], false)
  | some folder =>
      let valid_files := (validFiles folder).mergeSort fun a b => decide (a.key ≤ b.key)
      let done := removeLoop (now - kMaxRingBufferFileAgeSeconds) unlinks
        (valid_files.length % 2 ^ 32) valid_files
      (done.1, done.2 && folder.all fun entry => !entry.regular || entry.stat.isSome)

section Removal

variable {delete_files_before : Int} {unlinks : DumpFile → Bool}

theorem removeLoop_spec {files : List DumpFile} (bounded : files.length < 2 ^ 32)
    (sorted : files.Pairwise fun a b => a.key ≤ b.key) :
    ∃ tried kept, files = tried ++ kept ∧
      (removeLoop delete_files_before unlinks files.length files).1 = tried.filter unlinks ∧
      ((removeLoop delete_files_before unlinks files.length files).2 = true ↔
        ∀ file ∈ tried, unlinks file = true) ∧
      (∀ file ∈ tried, file.mtime < delete_files_before ∨ kMaxRingBufferFileNum ≤ kept.length) ∧
      kept.length ≤ kMaxRingBufferFileNum ∧ ∀ file ∈ kept, delete_files_before ≤ file.mtime := by
  induction files with
  | nil => exact ⟨[], [], rfl, rfl, by simp [removeLoop], by simp, Nat.zero_le _, by simp⟩
  | cons file rest ih =>
      obtain ⟨first, tail⟩ := List.pairwise_cons.mp sorted
      rw [List.length_cons] at bounded ⊢
      have later : ∀ other ∈ rest, file.mtime ≤ other.mtime := fun other member =>
        Prod.Lex.monotone_fst _ _ (first other member)
      obtain ⟨tried, kept, split, removed, success, old, few, young⟩ := ih (by omega) tail
      have count : (rest.length + 1 + 2 ^ 32 - 1) % 2 ^ 32 = rest.length := by omega
      by_cases goes : kMaxRingBufferFileNum < rest.length + 1 ∨ file.mtime < delete_files_before
      · refine ⟨file :: tried, kept, by rw [split, List.cons_append], ?_, ?_, ?_, few, young⟩
        · rw [removeLoop, if_pos goes, count, List.filter_cons, ← removed]
          dsimp only
          split <;> rfl
        · rw [removeLoop, if_pos goes, count]
          by_cases unlinked : unlinks file = true <;> simp [unlinked, success]
        · intro other member
          rcases List.mem_cons.mp member with same | inside
          · rw [same]
            rcases goes with many | late
            · cases tried with
              | nil =>
                  rw [split, List.nil_append] at many
                  exact Or.inr (Nat.le_of_lt_succ many)
              | cons next more =>
                  -- what is removed next is younger than this one
                  refine (old next List.mem_cons_self).imp_left fun late => ?_
                  have := later next (by simp [split])
                  omega
            · exact Or.inl late
          · exact old other inside
      · obtain ⟨enough, recent⟩ := not_or.mp goes
        refine ⟨[], file :: rest, rfl, ?_, ?_, by simp, ?_, ?_⟩
        · rw [removeLoop, if_neg goes]
          rfl
        · rw [removeLoop, if_neg goes]
          simp
        · rw [List.length_cons]
          omega
        · intro other member
          rcases List.mem_cons.mp member with same | inside
          · rw [same]
            omega
          · have := later other inside
            omega

end Removal

/-- The files that are deleted are the oldest ones. Each of them is older than an hour or has twenty
that are kept behind it; twenty at most are kept, none of them older than an hour. -/
theorem removeOldFiles_spec (now : Int) (unlinks : DumpFile → Bool) (folder : List DirEntry)
    (bounded : (validFiles folder).length < 2 ^ 32) :
    ∃ tried kept : List DumpFile, (tried ++ kept).Perm (validFiles folder) ∧
      (tried ++ kept).Pairwise (fun a b => a.key ≤ b.key) ∧
      (removeOldFilesInternal now unlinks (some folder)).1 = tried.filter unlinks ∧
      ((removeOldFilesInternal now unlinks (some folder)).2 = true ↔
        (∀ file ∈ tried, unlinks file = true) ∧
          ∀ entry ∈ folder, entry.regular = true → entry.stat.isSome = true) ∧
      (∀ file ∈ tried, file.mtime < now - 60 * 60 ∨ kept.length = 20) ∧
      kept.length ≤ 20 ∧ ∀ file ∈ kept, now - 60 * 60 ≤ file.mtime := by
  have perm := List.mergeSort_perm (validFiles folder) fun a b => decide (a.key ≤ b.key)
  have sorted : ((validFiles folder).mergeSort fun a b => decide (a.key ≤ b.key)).Pairwise
      fun a b => a.key ≤ b.key := by
    refine (List.pairwise_mergeSort ?_ ?_ (validFiles folder)).imp fun le => of_decide_eq_true le
    · intro a b c first second
      exact decide_eq_true (le_trans (of_decide_eq_true first) (of_decide_eq_true second))
    · intro a b
      simpa using le_total a.key b.key
  have length := perm.length_eq
  obtain ⟨tried, kept, split, removed, success, old, few, young⟩ :=
    @removeLoop_spec (now - kMaxRingBufferFileAgeSeconds) unlinks _ (length ▸ bounded) sorted
  refine ⟨tried, kept, split ▸ perm, split ▸ sorted, ?_, ?_, ?_, few, young⟩
  · rw [removeOldFilesInternal, length, Nat.mod_eq_of_lt bounded, ← length]
    exact removed
  · rw [removeOldFilesInternal, length, Nat.mod_eq_of_lt bounded, ← length]
    rw [Bool.and_eq_true, success, List.all_eq_true]
    apply and_congr_right
    intro _
    apply forall₂_congr
    intro entry _
    cases entry.regular <;> simp
  · intro file member
    refine (old file member).imp id fun many => ?_
    exact Nat.le_antisymm few many

/-- Two files, one of them of two hours before. -/
theorem removeOldFiles_spec_two :
    let folder : List DirEntry :=
      [⟨[97], true, some ⟨1, 0, 0, 0, 1, 9000, 4, (0, 0), (0, 0)⟩, true, [1, 2, 3, 4], none⟩,
        ⟨[98], true, some ⟨2, 0, 0, 0, 1, 1800, 0, (0, 0), (0, 0)⟩, true, [], none⟩]
    ∃ tried kept : List DumpFile, (tried ++ kept).Perm (validFiles folder) ∧
      (tried ++ kept).Pairwise (fun a b => a.key ≤ b.key) ∧
      (removeOldFilesInternal 9000 (fun _ => true) (some folder)).1 =
        tried.filter (fun _ => true) ∧
      ((removeOldFilesInternal 9000 (fun _ => true) (some folder)).2 = true ↔
        (∀ file ∈ tried, (fun _ => true) file = true) ∧
          ∀ entry ∈ folder, entry.regular = true → entry.stat.isSome = true) ∧
      (∀ file ∈ tried, file.mtime < 9000 - 60 * 60 ∨ kept.length = 20) ∧
      kept.length ≤ 20 ∧ ∀ file ∈ kept, 9000 - 60 * 60 ≤ file.mtime :=
  removeOldFiles_spec 9000 (fun _ => true) _ (by decide)

end Connectivity.WifiChip
