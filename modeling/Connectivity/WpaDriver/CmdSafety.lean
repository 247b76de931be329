import Connectivity.WpaDriver.DriverCmd

set_option autoImplicit false

/- When a driver command keeps to its buffers, to bytes that have been set and to the context of its
mode. -/
namespace Connectivity.WpaDriver

open Bytes

/-- The strings are the fields of the text; what is touched is inside, what is handed over is whole,
and the supplicant's context is not read where there is none. -/
structure Trace.Safe (d : Interface) (text : List UInt8) (t : Trace) : Prop where
  split : ∀ tokens, t.tokens = some tokens → tokens.strings = fields text
  whole : ∀ payload ∈ t.payloads, payload.Whole
  inside : ∀ touch ∈ t.touches, touch.Inside
  context : t.supplicant = true → d.nlmode ≠ nl80211IftypeAp

/-- The length of a private command is not taken for a negative number, that of -1 apart. -/
def PrivateSound (text : List UInt8) : Prop :=
  text.length % 4294967296 < 2147483648 ∨ text.length % 4294967296 = 4294967295

/-- A key and a sequence number that are not refused fit into their fields. -/
def WapiKeyParam.Fits (param : WapiKeyParam) : Prop :=
  param.seqLen ≤ 16 → (param.key = true → param.keyLen ≤ 32) ∧
    (param.seq = true → param.seqLen ≤ 8)

/-- What a branch takes for granted. -/
def BranchSound (b : Build) (d : Interface) (text : List UInt8) : Branch → Prop
  | .getStaStatistics | .macaddr | .p2pGetCap | .p2pSetCap | .p2pUseMcc | .mcc
  | .p2pSetPowerSave | .p2pSetSleep | .p2pSetSleepAll => d.nlmode ≠ nl80211IftypeAp
  | .country => text.length = 10 → d.setCountry = 0 → d.nlmode ≠ nl80211IftypeAp
  | .stop => d.associated = true → d.nlmode ≠ nl80211IftypeAp
  | .mtkAcs => 0 < d.bufLen
  | .setWapiKey => d.wapiKey.Fits
  | .miracast =>
      (miracastValue b text ≤ 2 → d.nlmode ≠ nl80211IftypeAp) ∧
        (miracastRebuilt b text = false → PrivateSound text)
  | .wfdDataUpdate => d.nlmode ≠ nl80211IftypeAp ∧ d.wfdSessionInformationIELen ≤ 192
  | .p2pSetOpps => d.nlmode ≠ nl80211IftypeAp ∧ 32 ∈ text.drop 13
  | .p2pSetNoa | .p2pSetPs =>
      d.nlmode ≠ nl80211IftypeAp ∧ text.length < 2147483648 ∧ (fields text).length ≤ 64
  | .setSuspendMode => False
  | .transparent => (8 + text.length) % 4294967296 ≤ 100 ∧ PrivateSound text
  | _ => True

section Payloads

theorem cleared_whole (size : Nat) : (Payload.cleared size).Whole where
  inside := Nat.le_refl size
  set i below := ⟨(0, size), List.mem_singleton_self _, Nat.zero_le i, by rwa [Nat.zero_add]⟩

theorem rxFilter_whole : rxFilterPayload.Whole where
  inside := by decide
  set := by decide

/-- The padding behind the mode is handed over as it is. -/
theorem suspend_not_whole : ¬ suspendPayload.Whole := by
  intro whole
  exact absurd (whole.set 9 (by decide)) (by decide)

theorem transparent_whole (cmd : List UInt8) :
    (transparentPayload cmd).Whole ↔ (8 + cmd.length) % 4294967296 ≤ 100 := by
  constructor
  · intro whole
    exact whole.inside
  · intro inside
    refine ⟨inside, fun i below => ?_⟩
    have room : i < 100 := Nat.lt_of_lt_of_le below inside
    by_cases index : i < 4
    · exact ⟨(0, 4), by simp [transparentPayload], Nat.zero_le i, by omega⟩
    · by_cases buflen : i < 8
      · exact ⟨(4, 4), by simp [transparentPayload], by omega, by omega⟩
      · exact ⟨(8, 92), by simp [transparentPayload], by omega, by omega⟩

end Payloads

section Traces

variable {b : Build} {d : Interface} {text : List UInt8} {t : Trace}

/-- Without a split and with whole payloads it is the memory and the context that count. -/
theorem safe_plain (tokens : t.tokens = none) (whole : ∀ payload ∈ t.payloads, payload.Whole) :
    t.Safe d text ↔ (t.supplicant = true → d.nlmode ≠ nl80211IftypeAp) ∧
      ∀ touch ∈ t.touches, touch.Inside := by
  constructor
  · intro safe
    exact ⟨safe.context, safe.inside⟩
  · intro safe
    exact ⟨fun split other => (by rw [tokens] at other; cases other), whole, safe.2, safe.1⟩

theorem forall_mem_none {α : Type} (P : α → Prop) : ∀ a ∈ ([] : List α), P a := by
  intro a member
  cases member

/-- What a condition sends is whole. -/
theorem sent_whole {sent : Prop} [Decidable sent] {payload : Payload} (whole : payload.Whole) :
    ∀ other ∈ if sent then [payload] else [], other.Whole := by
  split
  · exact List.forall_mem_singleton.mpr whole
  · exact forall_mem_none _

theorem safe_context {sent : Bool} {payload : Payload} (whole : payload.Whole) :
    (Trace.context sent payload).Safe d text ↔ d.nlmode ≠ nl80211IftypeAp := by
  rw [safe_plain rfl (sent_whole whole)]
  exact ⟨fun safe => safe.1 rfl, fun mode => ⟨fun _ => mode, forall_mem_none _⟩⟩

theorem safe_sends {sent : Bool} {payload : Payload} (whole : payload.Whole) :
    (Trace.sends sent payload).Safe d text := by
  rw [safe_plain rfl (sent_whole whole)]
  exact ⟨fun other => (by cases other), forall_mem_none _⟩

/-- Only the context is read. -/
theorem safe_reads (reads : Bool) : ({ Trace.quiet with supplicant := reads }).Safe d text ↔
    (reads = true → d.nlmode ≠ nl80211IftypeAp) := by
  rw [safe_plain rfl (forall_mem_none _)]
  exact and_iff_left (forall_mem_none _)

theorem safe_quiet : Trace.quiet.Safe d text := by
  rw [safe_plain rfl (forall_mem_none _)]
  exact ⟨fun other => (by cases other), forall_mem_none _⟩

/-- A reply that is no longer than its buffer changes nothing. -/
theorem safe_replies (bufLen : Nat) : (t.replies bufLen).Safe d text ↔ t.Safe d text := by
  have within : (⟨bufLen, 0, bufLen⟩ : Touch).Inside := by
    rw [Touch.inside_mk]
    omega
  constructor
  · intro safe
    exact ⟨safe.split, safe.whole, (List.forall_mem_append.mp safe.inside).1, safe.context⟩
  · intro safe
    exact ⟨safe.split, safe.whole,
      List.forall_mem_append.mpr ⟨safe.inside, List.forall_mem_singleton.mpr within⟩,
      safe.context⟩

/-- The vector has a place for each field, and the length is that of the text. -/
theorem safe_split {params : Nat} (ended : 0 ∉ text) : (splitTrace text params).Safe d text ↔
    d.nlmode ≠ nl80211IftypeAp ∧ text.length < 2147483648 ∧ (fields text).length ≤ 64 := by
  have places : (∀ touch ∈ (splitTrace text params).touches, touch.Inside) ↔
      (tokenizeSpace text (intOf text.length)).argv.length ≤ 64 := by
    rw [splitTrace, List.forall_mem_map]
    simp only [List.mem_range, Touch.inside_mk]
    constructor
    · intro inside
      by_contra many
      have place := inside 64 (by omega)
      omega
    · intro few i below
      omega
  rw [← tokenizeSpace_iff ended]
  constructor
  · intro safe
    exact ⟨safe.context rfl, places.mp safe.inside, safe.split _ rfl⟩
  · intro ⟨mode, few, split⟩
    refine ⟨fun tokens same => ?_, sent_whole (cleared_whole params), places.mpr few,
      fun _ => mode⟩
    cases same
    exact split

theorem safe_setOpps (argument : List UInt8) : (setOppsTrace d argument).Safe d text ↔
    d.nlmode ≠ nl80211IftypeAp ∧ 32 ∈ argument := by
  unfold setOppsTrace
  split
  · rename_i space
    rw [safe_context (cleared_whole _)]
    exact (and_iff_left space).symm
  · rename_i none
    constructor
    · intro safe
      exact absurd (safe.inside _ (List.mem_singleton_self _)) (by decide)
    · intro sound
      exact absurd sound.2 none

/-- A field that is copied only where it is given and not empty. -/
theorem copied_inside {given : Bool} {size length : Nat} :
    (∀ touch ∈ (if given ∧ length ≠ 0 then [(⟨size, 0, length⟩ : Touch)] else []),
      touch.Inside) ↔ (given = true → length ≤ size) := by
  split
  · rename_i copied
    rw [List.forall_mem_singleton, Touch.inside_mk, Nat.zero_add]
    exact ⟨fun inside _ => inside, fun sound => sound copied.1⟩
  · rename_i none
    refine iff_of_true (forall_mem_none _) fun present => ?_
    have empty : ¬ length ≠ 0 := fun some => none ⟨present, some⟩
    omega

theorem safe_setWapiKey (param : WapiKeyParam) : (setWapiKeyTrace param).Safe d text ↔
    param.Fits := by
  unfold setWapiKeyTrace WapiKeyParam.Fits
  split
  · rename_i refused
    exact iff_of_true safe_quiet fun other => by omega
  · rename_i taken
    have whole : ∀ payload ∈ [Payload.cleared wapiKeyParams], payload.Whole := by
      rw [List.forall_mem_singleton]
      exact cleared_whole _
    rw [safe_plain rfl whole, List.forall_mem_append, copied_inside, copied_inside]
    constructor
    · intro safe _
      exact safe.2
    · intro fits
      exact ⟨fun other => (by cases other), fits (by omega)⟩

end Traces

section Private

variable (b : Build) {d : Interface} {text command : List UInt8} {t : Trace}

theorem private_inside : (∀ touch ∈ ([⟨512, 0, privateCount b text⟩,
    ⟨text.length + 1, 0, privateCount b text⟩] : List Touch), touch.Inside) ↔
      PrivateSound text := by
  rw [List.forall_mem_cons, List.forall_mem_singleton, Touch.inside_mk, Touch.inside_mk,
    PrivateSound, privateCount, privateLength, intOf_eq, Build.sizeTRange]
  cases b.wide with
  | false =>
      simp only [Bool.false_eq_true, if_false]
      split <;> split <;> omega
  | true =>
      simp only [if_true]
      split <;> split <;> omega

theorem privateLength_le : (privateLength text + 1).toNat ≤ 512 := by
  unfold privateLength
  split <;> omega

theorem safe_private : (privateTrace b command t).Safe d text ↔
    t.Safe d text ∧ PrivateSound command := by
  have whole : (⟨512, (privateLength command + 1).toNat, [(0, 512)]⟩ : Payload).Whole := by
    refine ⟨privateLength_le, fun i below => ⟨(0, 512), List.mem_singleton_self _, ?_, ?_⟩⟩
    · exact Nat.zero_le i
    · exact Nat.lt_of_lt_of_le below privateLength_le
  constructor
  · intro safe
    have touches := List.forall_mem_append.mp safe.inside
    exact ⟨⟨safe.split, (List.forall_mem_append.mp safe.whole).1, touches.1, safe.context⟩,
      (private_inside b).mp touches.2⟩
  · intro sound
    refine ⟨sound.1.split, ?_, ?_, sound.1.context⟩
    · exact List.forall_mem_append.mpr
        ⟨sound.1.whole, List.forall_mem_singleton.mpr whole⟩
    · exact List.forall_mem_append.mpr ⟨sound.1.inside, (private_inside b).mpr sound.2⟩

end Private

section Branches

variable (b : Build) (d : Interface) {text : List UInt8}

theorem miracastRebuilt_long (rebuilt : miracastRebuilt b text = true) : 9 < text.length := by
  by_contra short
  have value : miracastValue b text = 2 := by
    rw [miracastRebuilt, Bool.and_eq_true, beq_iff_eq] at rebuilt
    exact rebuilt.1
  rw [miracastValue, List.drop_of_length_le (by omega)] at value
  have zero : atoi b.longMax [] = 0 := by simp [atoi, unsigned]
  rw [zero] at value
  cases value

theorem safe_miracast : (branchTrace b d text .miracast).Safe d text ↔
    (miracastValue b text ≤ 2 → d.nlmode ≠ nl80211IftypeAp) := by
  have inside : ∀ touch ∈ if miracastRebuilt b text = true then
      [(⟨text.length + 1, 0, 10⟩ : Touch)] else [], touch.Inside := by
    split
    · rename_i rebuilt
      have long := miracastRebuilt_long b rebuilt
      rw [List.forall_mem_singleton, Touch.inside_mk]
      omega
    · exact forall_mem_none _
  rw [branchTrace, safe_plain rfl (forall_mem_none _)]
  simp only [decide_eq_true_eq]
  exact and_iff_left inside

theorem safe_mtkAcs : (branchTrace b d text .mtkAcs).Safe d text ↔ 0 < d.bufLen := by
  have whole : ∀ payload ∈ (branchTrace b d text .mtkAcs).payloads, payload.Whole := by
    intro payload member
    rw [List.eq_of_mem_replicate member]
    exact cleared_whole _
  rw [safe_plain rfl whole]
  constructor
  · intro safe
    exact safe.2 _ (List.mem_singleton_self _)
  · intro room
    refine ⟨fun other => (by cases other), List.forall_mem_singleton.mpr ?_⟩
    rw [Touch.inside_mk]
    omega

theorem safe_wfdDataUpdate : (branchTrace b d text .wfdDataUpdate).Safe d text ↔
    d.nlmode ≠ nl80211IftypeAp ∧ d.wfdSessionInformationIELen ≤ 192 := by
  have whole : ∀ payload ∈ (branchTrace b d text .wfdDataUpdate).payloads, payload.Whole :=
    List.forall_mem_singleton.mpr (cleared_whole wfdDataParams)
  rw [safe_plain rfl whole]
  constructor
  · intro safe
    have inside := safe.2 _ (List.mem_singleton_self _)
    rw [Touch.inside_mk, Nat.zero_add] at inside
    exact ⟨safe.1 rfl, inside⟩
  · intro sound
    refine ⟨fun _ => sound.1, List.forall_mem_singleton.mpr ?_⟩
    rw [Touch.inside_mk, Nat.zero_add]
    exact sound.2

theorem safe_mtkRxPacketFilter : (branchTrace b d text .mtkRxPacketFilter).Safe d text := by
  have whole : ∀ payload ∈ (branchTrace b d text .mtkRxPacketFilter).payloads, payload.Whole :=
    sent_whole rxFilter_whole
  rw [safe_plain rfl whole]
  refine ⟨fun other => (by cases other), ?_⟩
  show ∀ touch ∈ if text.length = 71 then
    [21, 29, 38, 46, 55, 63].map fun offset => (⟨text.length + 1, offset, 8⟩ : Touch) else [],
    touch.Inside
  split
  · rename_i length
    rw [length]
    decide
  · exact forall_mem_none _

theorem safe_transparent : (branchTrace b d text .transparent).Safe d text ↔
    (8 + text.length) % 4294967296 ≤ 100 := by
  rw [← transparent_whole]
  constructor
  · intro safe
    exact safe.whole _ (List.mem_singleton_self _)
  · intro whole
    exact safe_sends whole

/-- A command is safe exactly when what its branch takes for granted is so. -/
theorem branch_safe_iff (ended : 0 ∉ text) (branch : Branch) :
    (if unhandled branch = true then
        (privateTrace b (privateText b text branch) (branchTrace b d text branch)).replies d.bufLen
      else branchTrace b d text branch).Safe d text ↔ BranchSound b d text branch := by
  cases branch with
  | powermode | start | getpower | btcoexscanStart | btcoexscanStop | btcoexmode | wapiMsgSend
  | sigmaMode => exact iff_of_true safe_quiet trivial
  | getStaStatistics => exact (safe_replies _).trans (safe_context (cleared_whole _))
  | p2pSetPowerSave | p2pSetSleep | p2pSetSleepAll => exact safe_context (cleared_whole _)
  | macaddr | p2pGetCap =>
      exact (safe_replies _).trans ((safe_reads true).trans (forall_prop_of_true rfl))
  | p2pSetCap | p2pUseMcc | mcc => exact (safe_reads true).trans (forall_prop_of_true rfl)
  | country =>
      refine (safe_reads _).trans ?_
      rw [decide_eq_true_eq, and_imp]
      rfl
  | stop => exact safe_reads d.associated
  | rxfilterAdd | rxfilterRemove | rxfilterStop | rxfilterStart | staBlock | staUnblock
  | setMaxClient => exact iff_of_true (safe_sends (cleared_whole _)) trivial
  | mtkAcs => exact safe_mtkAcs b d
  | setWapiKey => exact safe_setWapiKey d.wapiKey
  | miracast =>
      refine ((safe_replies _).trans (safe_private b)).trans ?_
      rw [safe_miracast, BranchSound, privateText]
      apply and_congr_right
      intro _
      cases rebuilt : miracastRebuilt b text with
      | false =>
          rw [if_neg (by decide)]
          exact ⟨fun sound _ => sound, fun sound => sound rfl⟩
      | true =>
          rw [if_pos (by decide)]
          exact iff_of_true (Or.inl (by decide)) (fun other => by cases other)
  | wfdDataUpdate => exact safe_wfdDataUpdate b d
  | p2pSetOpps => exact safe_setOpps (text.drop 13)
  | p2pSetNoa | p2pSetPs => exact safe_split ended
  | setSuspendMode =>
      refine ((safe_replies _).trans (safe_private b)).trans (iff_of_false ?_ id)
      intro safe
      exact suspend_not_whole (safe.1.whole _ (List.mem_singleton_self _))
  | mtkRxPacketFilter => exact iff_of_true (safe_mtkRxPacketFilter b d) trivial
  | transparent =>
      refine ((safe_replies _).trans (safe_private b)).trans ?_
      rw [safe_transparent]
      rfl

end Branches

/-- Every command stays safe exactly when it comes to an interface that is not ready, or its branch
has what it takes for granted. -/
theorem driverCmd_safe_iff (b : Build) (d : Interface) (cmd : Command) :
    (driverCmd b d cmd).Safe d cmd.text ↔
      (d.Ready → BranchSound b d cmd.text (branchOf b cmd.text)) := by
  rw [driverCmd]
  split
  · rename_i ready
    rw [forall_prop_of_true ready]
    exact branch_safe_iff b d cmd.ended (branchOf b cmd.text)
  · rename_i other
    exact iff_of_true safe_quiet fun ready => absurd ready other

/-- A station. -/
def station : Interface where
  drv := true
  ctx := true
  conf := true
  nlmode := 2
  associated := false
  setCountry := 0
  scanDone := fun _ => true
  isHwaddr := fun _ => false
  wapiKey := ⟨false, 0, false, 0⟩
  wfdSessionInformationIELen := 0
  bufLen := 4096

/-- A command of 93 letters, one more than there is room for behind the header. -/
def longCommand : Command where
  text := List.replicate 93 88
  ended := by decide

theorem not_driverCmd_safe : ¬ ∀ (b : Build) (d : Interface) (cmd : Command),
    (driverCmd b d cmd).Safe d cmd.text := by
  intro safe
  have whole := (safe ⟨true, true, false, true, false, true⟩ station longCommand).whole
    ⟨100, 101, [(0, 4), (4, 4), (8, 92)]⟩ (by decide)
  exact absurd whole.inside (by decide)

end Connectivity.WpaDriver
