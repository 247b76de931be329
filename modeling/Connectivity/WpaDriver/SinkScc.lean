import Mathlib.Data.List.Basic
import Connectivity.Transition.Run

set_option autoImplicit false

/- The channel of a Wi-Fi Display sink: the one of another connection (SCC), or what is configured
(MCC). -/
namespace Connectivity.WpaDriver

open Transition

/-- `priv_p2p_freq_to_channel`: the operating class and the channel number. -/
def privP2pFreqToChannel (freq : Nat) : Option (UInt8 × UInt8) :=
  if 2412 ≤ freq ∧ freq ≤ 2472 then
    if (freq - 2407) % 5 ≠ 0 then none else some (81, UInt8.ofNat ((freq - 2407) / 5))
  else if freq = 2484 then some (82, 14)
  else if 5180 ≤ freq ∧ freq ≤ 5240 then
    if (freq - 5000) % 5 ≠ 0 then none else some (115, UInt8.ofNat ((freq - 5000) / 5))
  else if 5260 ≤ freq ∧ freq ≤ 5320 then some (118, UInt8.ofNat ((freq - 5000) / 5))
  else if 5500 ≤ freq ∧ freq ≤ 5700 then some (121, UInt8.ofNat ((freq - 5000) / 5))
  else if 5745 ≤ freq ∧ freq ≤ 5805 then
    if (freq - 5000) % 5 ≠ 0 then none else some (124, UInt8.ofNat ((freq - 5000) / 5))
  else if 5825 ≤ freq ∧ freq ≤ 5845 then some (125, UInt8.ofNat ((freq - 5000) / 5))
  else none

/-- `struct p2p_reg_class`. -/
structure P2pRegClass (size : Nat) where
  regClass : UInt8
  channel : Vector UInt8 (size + 1)
  channels : Nat
deriving DecidableEq

/-- `struct p2p_channels`. -/
@[ext] structure P2pChannels (classes size : Nat) where
  regClass : Vector (P2pRegClass size) (classes + 1)
  regClasses : Nat
deriving DecidableEq

/-- What of `struct p2p_config` is used. -/
structure P2pConfig (classes size : Nat) where
  cfgOpChannel : UInt8
  channels : P2pChannels classes size

/-- What of `struct p2p_data` is used. -/
structure P2pData (classes size : Nat) where
  opRegClass : UInt8
  opChannel : UInt8
  channels : P2pChannels classes size
  cfg : P2pConfig classes size

/-- What of the configuration of `wpa_supplicant` is used. -/
structure WpaConfig where
  p2pOperRegClass : Int
  p2pOperChannel : Int
deriving DecidableEq, Repr

/-- The arguments of a call, with the number it would draw. -/
structure SinkCall where
  scc : Int
  operFreq : Nat
  r : UInt32
deriving DecidableEq, Repr

variable {classes size : Nat}

/-- The list has one class with one channel, the entries behind them stay what they are. -/
def P2pChannels.only (channels : P2pChannels classes size) (opClass channel : UInt8) :
    P2pChannels classes size where
  regClasses := 1
  regClass := channels.regClass.set 0
    { channels.regClass[0] with
      channels := 1
      regClass := opClass
      channel := channels.regClass[0].channel.set 0 channel }

/-- An `int` stored as a `u8`. -/
def toU8 (value : Int) : UInt8 := UInt8.ofNat (value % 256).toNat

/-- What `p2p_wfd_sink_config_scc` makes of the peer-to-peer data. -/
def sinkConfig (conf : WpaConfig) (p2p : P2pData classes size) (call : SinkCall) :
    P2pData classes size :=
  if call.scc ≠ 0 ∧ call.operFreq ≠ 0 then
    let op := (privP2pFreqToChannel call.operFreq).getD (0, 0)
    { p2p with
      opChannel := op.2
      opRegClass := op.1
      channels := p2p.channels.only op.1 op.2 }
  else
    let op :=
      if conf.p2pOperRegClass ≠ 0 ∧ conf.p2pOperChannel ≠ 0 then
        (toU8 conf.p2pOperRegClass, toU8 conf.p2pOperChannel, 1)
      else (81, 1 + UInt8.ofNat (call.r.toNat % 3) * 5, 0)
    { opRegClass := op.1
      opChannel := op.2.1
      channels := p2p.cfg.channels
      cfg := { p2p.cfg with cfgOpChannel := op.2.2 } }

/-- `p2p_wfd_sink_config_scc`, which does nothing when there are no such data. -/
def p2pWfdSinkConfigScc (conf : WpaConfig) (p2p : Option (P2pData classes size))
    (call : SinkCall) : Option (P2pData classes size) :=
  p2p.map fun p2p => sinkConfig conf p2p call

section Bands

/-- A range of frequencies with its operating class, in which channel 0 would be at `start`. Only
some of the ranges have frequencies between channels refused. -/
structure Band where
  opClass : UInt8
  start : Nat
  first : Nat
  last : Nat
  checked : Bool
deriving DecidableEq, Repr

def bands : List Band :=
  [⟨81, 2407, 2412, 2472, true⟩, ⟨82, 2414, 2484, 2484, true⟩, ⟨115, 5000, 5180, 5240, true⟩,
    ⟨118, 5000, 5260, 5320, false⟩, ⟨121, 5000, 5500, 5700, false⟩, ⟨124, 5000, 5745, 5805, true⟩,
    ⟨125, 5000, 5825, 5845, false⟩]

/-- The range a frequency is in. -/
def band (freq : Nat) : Option Band :=
  bands.find? fun b => decide (b.first ≤ freq ∧ freq ≤ b.last)

/-- The frequency that channel 0 of an operating class would be at. -/
def startFrequency (opClass : UInt8) : Option Nat :=
  (bands.find? fun b => b.opClass == opClass).map Band.start

/-- A frequency at which there is a channel. -/
def OnChannel (freq : Nat) : Prop :=
  ∃ b, band freq = some b ∧ (freq - b.start) % 5 = 0

/-- What is written for a frequency at which there is none: the channel below it in the ranges where
this is not checked, no class and no channel else. -/
def misplaced (freq : Nat) : UInt8 × UInt8 :=
  match band freq with
  | none => (0, 0)
  | some b => if b.checked then (0, 0) else (b.opClass, UInt8.ofNat ((freq - b.start) / 5))

end Bands

/-- The list has this one channel. -/
structure P2pChannels.Only (channels : P2pChannels classes size) (opClass channel : UInt8) :
    Prop where
  classes : channels.regClasses = 1
  regClass : channels.regClass[0].regClass = opClass
  count : channels.regClass[0].channels = 1
  number : channels.regClass[0].channel[0] = channel

/-- The class, the channel and the list are all of this channel. -/
structure P2pData.IsAt (p2p : P2pData classes size) (opClass channel : UInt8) : Prop where
  regClass : p2p.opRegClass = opClass
  number : p2p.opChannel = channel
  list : p2p.channels.Only opClass channel

/-- The same with a channel whose centre is at a frequency. -/
def P2pData.Centred (p2p : P2pData classes size) (freq : Nat) : Prop :=
  ∃ opClass channel start, startFrequency opClass = some start ∧
    start + 5 * channel.toNat = freq ∧ p2p.IsAt opClass channel

structure P2pData.Unchanged (before after : P2pData classes size) : Prop where
  regClass : after.opRegClass = before.opRegClass
  number : after.opChannel = before.opChannel
  list : after.channels = before.channels

/-- The call is for the channel of a frequency. -/
def SinkCall.Requests (call : SinkCall) : Prop := call.scc ≠ 0 ∧ call.operFreq ≠ 0

/-- A request leaves everything as it is or sets all of it to the frequency's channel; another call
restores the list that is `configured`. -/
def Right (conf : WpaConfig) (configured : Option (P2pChannels classes size))
    (p2p : Option (P2pData classes size)) (call : SinkCall) : Prop :=
  ∀ before after, p2p = some before → p2pWfdSinkConfigScc conf p2p call = some after →
    (call.Requests → before.Unchanged after ∨ after.Centred call.operFreq) ∧
      (¬ call.Requests → some after.channels = configured)

/-- A request is for a frequency with a channel, or changes nothing. -/
def Takes (p2p : Option (P2pData classes size)) (call : SinkCall) : Prop :=
  ∀ before, p2p = some before → call.Requests → OnChannel call.operFreq ∨
    before.IsAt (misplaced call.operFreq).1 (misplaced call.operFreq).2

section Frequencies

variable {freq : Nat} {b : Band}

theorem band_contains (found : band freq = some b) :
    b ∈ bands ∧ b.first ≤ freq ∧ freq ≤ b.last := by
  rw [band] at found
  have inside := List.find?_some found
  exact ⟨List.mem_of_find?_eq_some found, of_decide_eq_true inside⟩

/-- The conversion refuses a frequency outside the ranges, and one between channels where this is
checked. -/
theorem privP2pFreqToChannel_band (freq : Nat) :
    privP2pFreqToChannel freq = (band freq).bind fun b =>
      if b.checked = true ∧ (freq - b.start) % 5 ≠ 0 then none
      else some (b.opClass, UInt8.ofNat ((freq - b.start) / 5)) := by
  have only : (2484 ≤ freq ∧ freq ≤ 2484) ↔ freq = 2484 := by omega
  simp only [privP2pFreqToChannel, band, bands, List.find?_cons, List.find?_nil, only]
  by_cases one : 2412 ≤ freq ∧ freq ≤ 2472
  · simp [one]
  by_cases two : freq = 2484
  · simp [two]
  by_cases three : 5180 ≤ freq ∧ freq ≤ 5240
  · simp [one, two, three]
  by_cases four : 5260 ≤ freq ∧ freq ≤ 5320
  · simp [one, two, three, four]
  by_cases five : 5500 ≤ freq ∧ freq ≤ 5700
  · simp [one, two, three, four, five]
  by_cases six : 5745 ≤ freq ∧ freq ≤ 5805
  · simp [one, two, three, four, five, six]
  by_cases seven : 5825 ≤ freq ∧ freq ≤ 5845
  · simp [one, two, three, four, five, six, seven]
  simp only [one, two, three, four, five, six, seven, if_false, decide_false, Option.bind_none]

/-- What the ranges have in common. -/
theorem band_bounds : ∀ b ∈ bands, startFrequency b.opClass = some b.start ∧
    b.start ≤ b.first ∧ b.last - b.start < 5 * 256 := by decide

/-- The channel of a frequency that has one is found, and is at this frequency. -/
theorem privP2pFreqToChannel_onChannel (on : OnChannel freq) :
    ∃ opClass channel start, privP2pFreqToChannel freq = some (opClass, channel) ∧
      startFrequency opClass = some start ∧ start + 5 * channel.toNat = freq := by
  obtain ⟨b, found, whole⟩ := on
  obtain ⟨member, low, high⟩ := band_contains found
  obtain ⟨start, below, small⟩ := band_bounds b member
  refine ⟨b.opClass, UInt8.ofNat ((freq - b.start) / 5), b.start, ?_, start, ?_⟩
  · rw [privP2pFreqToChannel_band, found, Option.bind_some, if_neg]
    exact fun between => between.2 whole
  · rw [UInt8.toNat_ofNat_of_lt' (show (freq - b.start) / 5 < 256 by omega)]
    omega

/-- Of another one something is written that is not at this frequency. -/
theorem privP2pFreqToChannel_misplaced (off : ¬ OnChannel freq) :
    (privP2pFreqToChannel freq).getD (0, 0) = misplaced freq ∧
      ∀ start, startFrequency (misplaced freq).1 = some start →
        start + 5 * (misplaced freq).2.toNat ≠ freq := by
  rw [privP2pFreqToChannel_band, misplaced]
  cases found : band freq with
  | none => exact ⟨rfl, fun start other => by cases other⟩
  | some b =>
      obtain ⟨member, low, high⟩ := band_contains found
      obtain ⟨start, below, small⟩ := band_bounds b member
      have between : (freq - b.start) % 5 ≠ 0 := fun whole => off ⟨b, found, whole⟩
      rw [Option.bind_some]
      by_cases checked : b.checked = true
      · rw [if_pos ⟨checked, between⟩]
        simp only [if_pos checked]
        exact ⟨rfl, fun start other => by cases other⟩
      · rw [if_neg fun both => checked both.1]
        simp only [if_neg checked]
        refine ⟨rfl, fun other same => ?_⟩
        rw [start] at same
        cases same
        rw [UInt8.toNat_ofNat_of_lt' (show (freq - b.start) / 5 < 256 by omega)]
        omega

end Frequencies

section Lists

variable {channels : P2pChannels classes size} {opClass channel : UInt8}

theorem P2pChannels.only_only (channels : P2pChannels classes size) (opClass channel : UInt8) :
    (channels.only opClass channel).Only opClass channel where
  classes := rfl
  regClass := by simp [P2pChannels.only]
  count := by simp [P2pChannels.only]
  number := by simp [P2pChannels.only]

theorem P2pRegClass.set_eq {entry : P2pRegClass size} (regClass : entry.regClass = opClass)
    (count : entry.channels = 1) (number : entry.channel[0] = channel) :
    (⟨opClass, entry.channel.set 0 channel, 1⟩ : P2pRegClass size) = entry := by
  cases entry with
  | mk =>
      cases regClass
      cases count
      cases number
      rw [Vector.set_getElem_self]

/-- The list stays what it is when it has this one channel already. -/
theorem P2pChannels.only_eq_iff :
    channels.only opClass channel = channels ↔ channels.Only opClass channel := by
  constructor
  · intro same
    rw [← same]
    exact channels.only_only opClass channel
  · intro alone
    have entry := P2pRegClass.set_eq alone.regClass alone.count alone.number
    have list : channels.only opClass channel = ⟨channels.regClass.set 0 channels.regClass[0], 1⟩ :=
      congrArg (fun entry => (⟨channels.regClass.set 0 entry, 1⟩ : P2pChannels classes size)) entry
    rw [list, Vector.set_getElem_self]
    cases channels with
    | mk =>
        cases alone.classes
        rfl

/-- A class and a channel are where they are only once. -/
theorem P2pData.IsAt.same {p2p : P2pData classes size} {otherClass otherChannel : UInt8}
    (here : p2p.IsAt opClass channel) (other : p2p.IsAt otherClass otherChannel) :
    otherClass = opClass ∧ otherChannel = channel :=
  ⟨other.regClass.symm.trans here.regClass, other.number.symm.trans here.number⟩

end Lists

section Calls

variable {conf : WpaConfig} {p2p : P2pData classes size} {call : SinkCall}

/-- A request leaves the one channel that it has written. -/
theorem sinkConfig_request (requests : call.Requests) :
    let op := (privP2pFreqToChannel call.operFreq).getD (0, 0)
    (sinkConfig conf p2p call).IsAt op.1 op.2 ∧
      (p2p.Unchanged (sinkConfig conf p2p call) ↔ p2p.IsAt op.1 op.2) := by
  intro op
  have done : sinkConfig conf p2p call = { p2p with
      opChannel := op.2
      opRegClass := op.1
      channels := p2p.channels.only op.1 op.2 } := if_pos requests
  rw [done]
  refine ⟨⟨rfl, rfl, P2pChannels.only_only ..⟩, ?_, ?_⟩
  · intro unchanged
    exact ⟨unchanged.regClass.symm, unchanged.number.symm,
      P2pChannels.only_eq_iff.mp unchanged.list⟩
  · intro here
    exact ⟨here.regClass.symm, here.number.symm, P2pChannels.only_eq_iff.mpr here.list⟩

/-- Another call takes the list of the configuration. -/
theorem sinkConfig_restore (other : ¬ call.Requests) :
    (sinkConfig conf p2p call).channels = p2p.cfg.channels := by
  rw [sinkConfig, if_neg (show ¬ (call.scc ≠ 0 ∧ call.operFreq ≠ 0) from other)]

theorem sinkConfig_configured (conf : WpaConfig) (p2p : P2pData classes size) (call : SinkCall) :
    (sinkConfig conf p2p call).cfg.channels = p2p.cfg.channels := by
  rw [sinkConfig]
  split <;> rfl

theorem request_right_iff (requests : call.Requests) :
    (p2p.Unchanged (sinkConfig conf p2p call) ∨
        (sinkConfig conf p2p call).Centred call.operFreq) ↔
      OnChannel call.operFreq ∨
        p2p.IsAt (misplaced call.operFreq).1 (misplaced call.operFreq).2 := by
  obtain ⟨here, unchanged⟩ := @sinkConfig_request _ _ conf p2p call requests
  by_cases on : OnChannel call.operFreq
  · obtain ⟨opClass, channel, start, found, begins, centre⟩ := privP2pFreqToChannel_onChannel on
    rw [found] at here
    exact iff_of_true (Or.inr ⟨opClass, channel, start, begins, centre, here⟩) (Or.inl on)
  · obtain ⟨written, apart⟩ := privP2pFreqToChannel_misplaced on
    rw [written] at here unchanged
    rw [unchanged, or_iff_left, or_iff_right on]
    intro ⟨opClass, channel, start, begins, centre, there⟩
    obtain ⟨sameClass, sameChannel⟩ := here.same there
    rw [sameClass] at begins
    rw [sameChannel] at centre
    exact apart start begins centre

end Calls

/-- What is configured, which no call changes. -/
def configured (p2p : Option (P2pData classes size)) : Option (P2pChannels classes size) :=
  p2p.map fun p2p => p2p.cfg.channels

theorem configured_kept (conf : WpaConfig) (p2p : Option (P2pData classes size)) (call : SinkCall) :
    configured (p2pWfdSinkConfigScc conf p2p call) = configured p2p := by
  cases p2p with
  | none => rfl
  | some p2p => exact congrArg some (sinkConfig_configured conf p2p call)

theorem right_iff_takes (conf : WpaConfig) (p2p : Option (P2pData classes size)) (call : SinkCall) :
    Right conf (configured p2p) p2p call ↔ Takes p2p call := by
  constructor
  · intro right before same requests
    have after : p2pWfdSinkConfigScc conf p2p call = some (sinkConfig conf before call) := by
      rw [same]
      rfl
    exact (request_right_iff requests).mp ((right before _ same after).1 requests)
  · intro takes before after same done
    rw [same] at done
    cases done
    refine ⟨fun requests => ?_, fun other => ?_⟩
    · exact (request_right_iff requests).mpr (takes before same requests)
    · rw [sinkConfig_restore other, same]
      rfl

/-- Along every run of calls a request sets all or nothing and another call restores what is
configured, exactly when the requests are for frequencies with a channel or change nothing. -/
theorem sink_right_iff (conf : WpaConfig) (p2p : Option (P2pData classes size))
    (calls : List SinkCall) :
    StepsMeet (fun p2p call => some (p2pWfdSinkConfigScc conf p2p call))
        (Right conf (configured p2p)) p2p calls ↔
      StepsMeet (fun p2p call => some (p2pWfdSinkConfigScc conf p2p call)) Takes p2p calls := by
  apply @stepsMeet_congr _ _ _ fun now => configured now = configured p2p
  case same =>
    intro now call kept
    rw [← kept]
    exact right_iff_takes conf now call
  case kept =>
    intro now call after kept _ done
    cases done
    rw [configured_kept, kept]
  case start => rfl

/-- At 2417 MHz is channel 2 of class 81. -/
def channelTwo : P2pChannels 0 0 := ⟨#v[⟨81, #v[2], 1⟩], 1⟩

/-- A request for a frequency outside the ranges leaves no class, and no channel. -/
theorem not_sink_right : ¬ ∀ (classes size : Nat) (conf : WpaConfig)
    (p2p : Option (P2pData classes size)) (calls : List SinkCall),
    StepsMeet (fun p2p call => some (p2pWfdSinkConfigScc conf p2p call))
      (Right conf (configured p2p)) p2p calls := by
  intro right
  have first := right 0 0 ⟨0, 0⟩ (some ⟨81, 2, channelTwo, ⟨0, channelTwo⟩⟩) [⟨1, 5900, 0⟩] _ rfl
  have request := (first.1 _ _ rfl rfl).1 ⟨by decide, by decide⟩
  cases request with
  | inl unchanged => exact absurd unchanged.regClass (by decide)
  | inr centred =>
      obtain ⟨opClass, channel, start, begins, _, here⟩ := centred
      rw [← here.regClass] at begins
      cases begins

end Connectivity.WpaDriver
