import Connectivity.WpaDriver.DriverCmd

set_option autoImplicit false

/- The launcher of the combo chip: which commands of the driver are answered by which handlers. -/
namespace Connectivity.Launcher

open WpaDriver (ascii)

/-- The handlers of `g_cmd_hdr_table`. -/
inductive CmdHdr
  | baud115k | baud921k | baud2kk | baud2_5kk | baud3kk | baud3_5kk | baud4kk
  | stpOpen | stpClose | stpRst | schPatch | schRomPatch
  deriving DecidableEq, Repr

def cmdHdrTable : List (List UInt8 × CmdHdr) :=
  [(ascii "baud_115200_0", .baud115k),
   (ascii "baud_921600_0", .baud921k),
   (ascii "baud_2000000_0", .baud2kk),
   (ascii "baud_2500000_0", .baud2_5kk),
   (ascii "baud_3000000_0", .baud3kk),
   (ascii "baud_3500000_0", .baud3_5kk),
   (ascii "baud_4000000_0", .baud4kk),
   (ascii "open_stp", .stpOpen),
   (ascii "close_stp", .stpClose),
   (ascii "rst_stp", .stpRst),
   (ascii "srh_patch", .schPatch),
   (ascii "srh_rom_patch", .schRomPatch)]

/-- Whether `strncmp` finds two texts equal; behind their ends there are terminators. -/
def strncmpSame : Nat → List UInt8 → List UInt8 → Bool
  | 0, _, _ => true
  | n + 1, x, y =>
      if x.headD 0 ≠ y.headD 0 then false
      else if x.headD 0 = 0 then true
      else strncmpSame n x.tail y.tail

/-- The comparison with a name of the table, of the shorter one of the two lengths. -/
def agrees (cmd name : List UInt8) : Bool :=
  strncmpSame (if cmd.length < name.length then cmd.length else name.length) name cmd

section Handle

variable {σ : Type} (hdrFunc : CmdHdr → σ → σ × Int)

/-- What has come of a command: the state, the value to be returned, and the handlers that have
been run. -/
structure Handled (σ : Type) where
  state : σ
  ret : Int
  ran : List CmdHdr

/-- The loop of `launcher_handle_cmd`. -/
def handleFrom (cmd : List UInt8) (handled : Handled σ) : List (List UInt8 × CmdHdr) → Handled σ
  | [] => handled
  | entry :: rest =>
      if agrees cmd entry.1 then
        let after := hdrFunc entry.2 handled.state
        handleFrom cmd ⟨after.1, after.2, handled.ran ++ [entry.2]⟩ rest
      else handleFrom cmd handled rest

/-- `launcher_handle_cmd`; 1 is for a command that has not been found. -/
def launcherHandleCmd (s : σ) (cmd : List UInt8) : Handled σ :=
  handleFrom hdrFunc cmd ⟨s, 1, []⟩ cmdHdrTable

/-- The handler whose name is the whole command, and nothing if there is none. -/
def handledByName (s : σ) (cmd : List UInt8) : Handled σ :=
  match cmdHdrTable.find? fun entry => entry.1 = cmd with
  | some entry => ⟨(hdrFunc entry.2 s).1, (hdrFunc entry.2 s).2, [entry.2]⟩
  | none => ⟨s, 1, []⟩

end Handle

/-- A command is a name of the table. -/
def IsName (cmd : List UInt8) : Prop := ∃ entry ∈ cmdHdrTable, entry.1 = cmd

/-- A command neither begins a name of the table nor is begun by one. -/
def Unrelated (cmd : List UInt8) : Prop :=
  ∀ entry ∈ cmdHdrTable, ¬ cmd <+: entry.1 ∧ ¬ entry.1 <+: cmd

variable {σ : Type} {hdrFunc : CmdHdr → σ → σ × Int} {cmd name : List UInt8} {s : σ}

/-- By induction on the length: inside of a text without a terminator, the comparison is one of
bytes. -/
theorem strncmpSame_iff {n : Nat} (noNul : 0 ∉ name) (inside : n ≤ name.length)
    (given : n ≤ cmd.length) : strncmpSame n name cmd = true ↔ name.take n = cmd.take n := by
  induction n generalizing name cmd with
  | zero => simp [strncmpSame]
  | succ n ih =>
      match name, cmd with
      | [], _ => simp only [List.length_nil] at inside; omega
      | x :: name, [] => simp only [List.length_nil] at given; omega
      | x :: name, y :: cmd =>
          have some : x ≠ 0 := fun zero => noNul (zero ▸ List.mem_cons_self)
          have later := ih (fun there => noNul (List.mem_cons_of_mem _ there))
            (Nat.le_of_succ_le_succ inside) (Nat.le_of_succ_le_succ given)
          by_cases same : x = y
          · simp [strncmpSame, same, same ▸ some, later]
          · simp [strncmpSame, same]

/-- A command agrees with a name when one of them begins with the other. -/
theorem agrees_iff (noNul : 0 ∉ name) : agrees cmd name = true ↔ cmd <+: name ∨ name <+: cmd := by
  rw [agrees]
  by_cases short : cmd.length < name.length
  · have longer : ¬ name <+: cmd := by
      intro begins
      have least := begins.length_le
      omega
    rw [if_pos short, strncmpSame_iff noNul (Nat.le_of_lt short) (Nat.le_refl _),
      List.take_of_length_le (Nat.le_refl cmd.length), or_iff_left longer, List.prefix_iff_eq_take,
      eq_comm]
  · have least : name.length ≤ cmd.length := Nat.le_of_not_lt short
    rw [if_neg short, strncmpSame_iff noNul (Nat.le_refl _) least,
      List.take_of_length_le (Nat.le_refl name.length), ← List.prefix_iff_eq_take]
    constructor
    · exact .inr
    · rintro (begins | begins)
      · have same := begins.eq_of_length_le least
        exact ⟨[], by simp [same]⟩
      · exact begins

/-- The handlers of a row, one after the other. -/
def runHandlers (hdrFunc : CmdHdr → σ → σ × Int) (handled : Handled σ) : List CmdHdr → Handled σ
  | [] => handled
  | hdr :: rest =>
      runHandlers hdrFunc ⟨(hdrFunc hdr handled.state).1, (hdrFunc hdr handled.state).2,
        handled.ran ++ [hdr]⟩ rest

theorem runHandlers_ran (handled : Handled σ) (hdrs : List CmdHdr) :
    (runHandlers hdrFunc handled hdrs).ran = handled.ran ++ hdrs := by
  induction hdrs generalizing handled with
  | nil => exact (List.append_nil _).symm
  | cons hdr rest ih => rw [runHandlers, ih, List.append_assoc, List.singleton_append]

/-- The handlers of the names that a command agrees with. -/
def agreeing (cmd : List UInt8) : List CmdHdr :=
  (cmdHdrTable.filter fun entry => agrees cmd entry.1).map Prod.snd

/-- The handler that a command is the name of. -/
def named (cmd : List UInt8) : List CmdHdr :=
  ((cmdHdrTable.find? fun entry => entry.1 = cmd).map Prod.snd).toList

theorem handleFrom_agreeing (handled : Handled σ) (table : List (List UInt8 × CmdHdr)) :
    handleFrom hdrFunc cmd handled table = runHandlers hdrFunc handled
      ((table.filter fun entry => agrees cmd entry.1).map Prod.snd) := by
  induction table generalizing handled with
  | nil => rfl
  | cons entry rest ih =>
      rw [handleFrom, List.filter_cons]
      by_cases same : agrees cmd entry.1 = true
      · rw [if_pos same, if_pos same, List.map_cons, runHandlers]
        exact ih _
      · rw [if_neg same, if_neg same]
        exact ih _

theorem handledByName_named :
    handledByName hdrFunc s cmd = runHandlers hdrFunc ⟨s, 1, []⟩ (named cmd) := by
  rw [handledByName, named]
  cases cmdHdrTable.find? fun entry => entry.1 = cmd with
  | none => rfl
  | some entry => rfl

/-- A command is handled by its name just if no other names agree with it. -/
theorem handled_iff_named :
    launcherHandleCmd hdrFunc s cmd = handledByName hdrFunc s cmd ↔ agreeing cmd = named cmd := by
  rw [launcherHandleCmd, handleFrom_agreeing, handledByName_named]
  constructor
  · intro same
    have ran := congrArg Handled.ran same
    rw [runHandlers_ran, runHandlers_ran] at ran
    exact ran
  · intro same
    rw [← same]
    rfl

theorem table_noNul : ∀ entry ∈ cmdHdrTable, 0 ∉ entry.1 := by decide +kernel

/-- Of the names of the table, none but itself agrees with it. -/
theorem agreeing_name : ∀ entry ∈ cmdHdrTable, agreeing entry.1 = named entry.1 := by
  decide +kernel

theorem agreeing_nil : agreeing cmd = [] ↔ Unrelated cmd := by
  rw [agreeing, List.map_eq_nil_iff, List.filter_eq_nil_iff]
  constructor
  · intro none entry there
    exact not_or.mp fun related => none entry there ((agrees_iff (table_noNul entry there)).mpr related)
  · intro none entry there same
    exact not_or.mpr (none entry there) ((agrees_iff (table_noNul entry there)).mp same)

theorem named_nil (other : ¬ IsName cmd) : named cmd = [] := by
  have none : (cmdHdrTable.find? fun entry => entry.1 = cmd) = none := by
    rw [List.find?_eq_none]
    intro entry there same
    exact other ⟨entry, there, of_decide_eq_true same⟩
  rw [named, none]
  rfl

/-- The commands that are answered by the handler of their name, or not at all. -/
theorem handled_by_name_iff (hdrFunc : CmdHdr → σ → σ × Int) (s : σ) (cmd : List UInt8) :
    launcherHandleCmd hdrFunc s cmd = handledByName hdrFunc s cmd ↔ IsName cmd ∨ Unrelated cmd := by
  rw [handled_iff_named]
  by_cases isName : IsName cmd
  · obtain ⟨entry, there, rfl⟩ := isName
    exact ⟨fun _ => .inl ⟨entry, there, rfl⟩, fun _ => agreeing_name entry there⟩
  · rw [named_nil isName, agreeing_nil, or_iff_right isName]

/-- The beginning of the names for baud rates, which runs the handlers of all of them. -/
theorem not_handled_by_name : ¬ ∀ (hdrFunc : CmdHdr → Unit → Unit × Int) (cmd : List UInt8),
    launcherHandleCmd hdrFunc () cmd = handledByName hdrFunc () cmd := by
  intro all
  have same := congrArg Handled.ran (all (fun _ s => (s, 0)) (ascii "baud"))
  have ran : (launcherHandleCmd (fun _ s => (s, 0)) () (ascii "baud")).ran =
      [.baud115k, .baud921k, .baud2kk, .baud2_5kk, .baud3kk, .baud3_5kk, .baud4kk] := by
    decide +kernel
  have none : (handledByName (fun _ s => (s, 0)) () (ascii "baud")).ran = [] := by decide
  rw [ran, none] at same
  cases same

end Connectivity.Launcher
