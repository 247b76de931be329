import Connectivity.WifiHal.Replies

set_option autoImplicit false

/- When the handlers of the Wi-Fi HAL stay inside of what the driver has sent and of what their
callers provide. -/
namespace Connectivity.WifiHal

open Bytes

/-- The identifiers of a reply have four bytes each. -/
def IdsSized (reply : WifiEvent) : Prop :=
  ∀ attr ∈ reply.vendorId.toList ++ reply.vendorSubcmd.toList, 4 ≤ attr.data.length

/-- There is an attribute in the data, and all of an event in it if it is one. -/
def RssiSized (event : WifiEvent) : Prop :=
  ∀ vendor, event.vendor = some vendor → 4 ≤ vendor.attr.data.length ∧
    (rssiType vendor = wifiEventRssi →
      12 ≤ vendor.attr.data.length ∧ 12 ≤ rssiLength vendor)

/-- The capabilities for which there is room in the matrix. -/
def capabilities (setSizeMax : Int) (nested : List NlAttr) : List NlAttr :=
  (nested.filter fun it => (it.nlaType : Int) = wifiAttributeRoamingCapabilities).take
    setSizeMax.toNat

/-- There are not more of them than maxima, and each has four bytes. -/
def CapabilitiesSized (setSizeMax : Int) (nested : List NlAttr) : Prop :=
  (capabilities setSizeMax nested).length ≤ 2 ∧
    ∀ it ∈ capabilities setSizeMax nested, 4 ≤ it.data.length

/-- The number that the last count of some attributes declares. -/
def announced (maxChannels : Int) (before : List NlAttr) (numChannels : Int) : Int :=
  before.foldl
    (fun n it => if it.nlaType = wifiAttributeNumChannels then clipped maxChannels it else n)
    numChannels

section Channels

variable (p : Platform) (maxChannels : Int)

/-- A count has four bytes; a list has all the channels that have been declared before it, and there
is room for these. -/
def ChannelSized (it : NlAttr) (numChannels : Int) : Prop :=
  (it.nlaType = wifiAttributeNumChannels → 4 ≤ it.data.length) ∧
    (it.nlaType = wifiAttributeChannelList → numChannels ≠ 0 →
      channelBytes p numChannels ≤ it.data.length ∧
        channelBytes p numChannels ≤ p.wifiChannel * maxChannels.toNat)

def ChannelsSized (nested : List NlAttr) (numChannels : Int) : Prop :=
  ∀ before it behind, nested = before ++ it :: behind →
    ChannelSized p maxChannels it (announced maxChannels before numChannels)

end Channels

/-- Each SSID up to the first one that is not put has the length of a text. -/
def WhitelistSized (p : Platform) (result : Nat → Int) (entries : List Ssid) (k : Nat) : Prop :=
  ∀ before entry behind, entries = before ++ entry :: behind → allDone result k before.length →
    entry.length ≤ p.maxSsidLength

/-- An event or a reply of the driver with the command that takes it, or a configuration with what
libnl answers when it is put into a request. -/
inductive Work
  | rssiEvent (event : WifiEvent)
  | featureSet (command : FeatureSetCommand) (reply : WifiEvent)
  | channelList (maxChannels : Int) (reply : WifiEvent)
  | configureRoaming (capa : RoamingCapabilities) (result : Nat → Int) (config : RoamingConfig)

def Work.touches (p : Platform) : Work → List Touch
  | .rssiEvent event => rssiTouches event
  | .featureSet command reply => featureSetTouches p command reply
  | .channelList maxChannels reply => channelListTouches p maxChannels reply
  | .configureRoaming capa result config => configureRoamingTouches p capa result config

/-- What the handlers take for granted. -/
def Work.Sized (p : Platform) : Work → Prop
  | .rssiEvent event => RssiSized event
  | .featureSet command reply =>
      reply.cmd = nl80211CmdVendor → IdsSized reply ∧
        ∀ vendor, reply.vendor = some vendor →
          command.featureType = wifiAttributeRoamingCapabilities →
          command.featureMatrix = true → command.fmSize = true →
          CapabilitiesSized command.setSizeMax vendor.nested
  | .channelList maxChannels reply =>
      reply.cmd = nl80211CmdVendor → IdsSized reply ∧
        ∀ vendor, reply.vendor = some vendor →
          2 ≤ maxChannels ∧ ChannelsSized p maxChannels vendor.nested 0
  | .configureRoaming capa result config =>
      config.Within capa → allDone result 0 (callsBefore config) →
        WhitelistSized p result config.whitelistSsid (callsBefore config)

section Loops

variable {p : Platform}

theorem ids_inside (reply : WifiEvent) :
    (∀ touch ∈ reply.idTouches, touch.Inside) ↔ IdsSized reply := by
  rw [WifiEvent.idTouches, List.forall_mem_map]
  exact forall₂_congr fun attr _ => by rw [NlAttr.touch, Touch.inside_mk, Nat.zero_add]

theorem roaming_inside (setSizeMax : Int) (nested : List NlAttr) (i : Nat) :
    (∀ touch ∈ roamingTouches setSizeMax nested i, touch.Inside) ↔
      ((nested.filter fun it => (it.nlaType : Int) = wifiAttributeRoamingCapabilities).take
          (setSizeMax.toNat - i)).length ≤ 2 - i ∧
        ∀ it ∈ (nested.filter fun it =>
            (it.nlaType : Int) = wifiAttributeRoamingCapabilities).take (setSizeMax.toNat - i),
          4 ≤ it.data.length := by
  induction nested generalizing i with
  | nil => simp [roamingTouches]
  | cons it rest ih =>
      rw [roamingTouches]
      by_cases capability : (it.nlaType : Int) = wifiAttributeRoamingCapabilities
      · rw [List.filter_cons_of_pos (by simpa using capability)]
        by_cases room : (i : Int) < setSizeMax
        · have count : setSizeMax.toNat - i = setSizeMax.toNat - (i + 1) + 1 := by omega
          have here : (∀ touch ∈ [it.touch 0 4, ⟨2, i, 1⟩, ⟨setSizeMax.toNat, i, 1⟩],
              touch.Inside) ↔ 4 ≤ it.data.length ∧ i + 1 ≤ 2 := by
            rw [List.forall_mem_cons, List.forall_mem_cons, List.forall_mem_singleton,
              NlAttr.touch, Touch.inside_mk, Touch.inside_mk, Touch.inside_mk]
            omega
          rw [if_pos ⟨capability, room⟩, List.forall_mem_append, here, ih, count,
            List.take_succ_cons, List.length_cons, List.forall_mem_cons]
          constructor
          · rintro ⟨⟨whole, two⟩, few, all⟩
            exact ⟨by omega, whole, all⟩
          · rintro ⟨few, whole, all⟩
            exact ⟨⟨whole, by omega⟩, by omega, all⟩
        · have count : setSizeMax.toNat - i = 0 := by omega
          rw [if_neg fun both => room both.2, ih, count]
          simp
      · rw [if_neg fun both => capability both.1, ih,
          List.filter_cons_of_neg (by simpa using capability)]

theorem channelsSized_cons (maxChannels : Int) (it : NlAttr) (rest : List NlAttr)
    (numChannels : Int) :
    ChannelsSized p maxChannels (it :: rest) numChannels ↔
      ChannelSized p maxChannels it numChannels ∧
        ChannelsSized p maxChannels rest (announced maxChannels [it] numChannels) := by
  constructor
  · intro sized
    refine ⟨sized [] it rest rfl, fun before next behind same => ?_⟩
    exact sized (it :: before) next behind (by rw [same]; rfl)
  · rintro ⟨first, later⟩ before next behind same
    cases before with
    | nil =>
        cases same
        exact first
    | cons other before =>
        cases same
        exact later before next behind rfl

theorem channels_inside (maxChannels : Int) (nested : List NlAttr) (numChannels : Int) :
    (∀ touch ∈ channelTouches p maxChannels nested numChannels, touch.Inside) ↔
      ChannelsSized p maxChannels nested numChannels := by
  induction nested generalizing numChannels with
  | nil =>
      refine iff_of_true (fun touch member => by cases member) ?_
      intro before it behind same
      cases before <;> cases same
  | cons it rest ih =>
      rw [channelsSized_cons, channelTouches, announced, List.foldl_cons, List.foldl_nil,
        ChannelSized]
      by_cases count : it.nlaType = wifiAttributeNumChannels
      · have noList : it.nlaType ≠ wifiAttributeChannelList := by
          rw [count]
          decide
        rw [if_pos count, if_pos count, List.forall_mem_cons, ih, NlAttr.touch, Touch.inside_mk,
          Nat.zero_add]
        constructor
        · intro both
          exact ⟨⟨fun _ => both.1, fun list => absurd list noList⟩, both.2⟩
        · intro both
          exact ⟨both.1.1 count, both.2⟩
      · rw [if_neg count, if_neg count]
        by_cases list : it.nlaType = wifiAttributeChannelList ∧ numChannels ≠ 0
        · rw [if_pos list, List.forall_mem_append, ih, List.forall_mem_cons,
            List.forall_mem_singleton, NlAttr.touch, Touch.inside_mk, Touch.inside_mk,
            Nat.zero_add]
          constructor
          · intro both
            exact ⟨⟨fun other => absurd other count, fun _ _ => both.1⟩, both.2⟩
          · intro both
            exact ⟨both.1.2 list.1 list.2, both.2⟩
        · rw [if_neg list, ih]
          rw [not_and, not_not] at list
          constructor
          · intro later
            exact ⟨⟨fun other => absurd other count,
              fun type some => absurd (list type) some⟩, later⟩
          · intro both
            exact both.2

theorem ssid_inside (entry : Ssid) :
    (∀ touch ∈ ssidTouches p entry, touch.Inside) ↔ entry.length ≤ p.maxSsidLength := by
  have modulo : (entry.length + 1) % 4294967296 ≤ entry.length + 1 := Nat.mod_le _ _
  rw [ssidTouches, List.forall_mem_cons, List.forall_mem_cons, List.forall_mem_cons,
    List.forall_mem_singleton, Touch.inside_mk, Touch.inside_mk, Touch.inside_mk, Touch.inside_mk]
  omega

theorem allDone_succ (result : Nat → Int) (k count : Nat) :
    allDone result k (count + 1) ↔ 0 ≤ result k ∧ allDone result (k + 1) count := by
  constructor
  · intro done
    refine ⟨done 0 (Nat.succ_pos _), fun i small => ?_⟩
    rw [Nat.add_right_comm]
    exact done (i + 1) (Nat.succ_lt_succ small)
  · rintro ⟨first, later⟩ i small
    cases i with
    | zero => exact first
    | succ i =>
        have done := later i (Nat.lt_of_succ_lt_succ small)
        rwa [Nat.add_right_comm] at done

theorem whitelist_inside (result : Nat → Int) (entries : List Ssid) (k : Nat) :
    (∀ touch ∈ whitelistTouches p result entries k, touch.Inside) ↔
      WhitelistSized p result entries k := by
  induction entries generalizing k with
  | nil =>
      refine iff_of_true (fun touch member => by cases member) ?_
      intro before entry behind same
      cases before <;> cases same
  | cons entry rest ih =>
      rw [whitelistTouches, List.forall_mem_append, ssid_inside]
      constructor
      · rintro ⟨first, later⟩ before next behind same done
        cases before with
        | nil =>
            cases same
            exact first
        | cons other before =>
            cases same
            rw [List.length_cons, allDone_succ] at done
            rw [if_neg (by omega), ih] at later
            exact later before next behind rfl done.2
      · intro sized
        refine ⟨sized [] entry rest rfl (fun i small => by cases small), ?_⟩
        split
        · intro touch member
          cases member
        · rename_i put
          rw [ih]
          intro before next behind same done
          apply sized (entry :: before) next behind (by rw [same]; rfl)
          rw [List.length_cons, allDone_succ]
          exact ⟨by omega, done⟩

end Loops

section Handlers

variable {p : Platform} {α : Type}

/-- Of the vendor's data nothing is touched if there are none. -/
theorem vendor_inside (vendor : Option VendorData) (touches : VendorData → List Touch) :
    (∀ touch ∈ vendor.elim [] touches, touch.Inside) ↔
      ∀ data, vendor = some data → ∀ touch ∈ touches data, touch.Inside := by
  cases vendor with
  | none =>
      exact iff_of_true (fun touch member => by cases member) (fun data other => by cases other)
  | some vendor =>
      constructor
      · intro inside data same
        cases same
        exact inside
      · intro inside
        exact inside vendor rfl

theorem rssi_inside (event : WifiEvent) :
    (∀ touch ∈ rssiTouches event, touch.Inside) ↔ RssiSized event := by
  rw [rssiTouches, vendor_inside]
  apply forall₂_congr
  intro vendor _
  rw [List.forall_mem_cons, NlAttr.touch, Touch.inside_mk]
  by_cases type : rssiType vendor = wifiEventRssi
  · rw [if_pos type, List.forall_mem_cons, List.forall_mem_singleton, NlAttr.touch,
      Touch.inside_mk, Touch.inside_mk]
    constructor
    · intro inside
      exact ⟨inside.1, fun _ => inside.2⟩
    · intro sized
      exact ⟨sized.1, sized.2 type⟩
  · rw [if_neg type]
    constructor
    · intro inside
      exact ⟨inside.1, fun other => absurd other type⟩
    · intro sized
      exact ⟨sized.1, fun touch member => by cases member⟩

/-- The capabilities are only touched when they are asked for. -/
theorem features_inside (command : FeatureSetCommand) (vendor : VendorData) :
    (∀ touch ∈
        if command.featureType = wifiAttributeFeatureSet then
          if command.fset = false then []
          else
            [vendor.attr.touch 0 (min vendor.attr.data.length p.featureSet),
              ⟨p.featureSet, 0, min vendor.attr.data.length p.featureSet⟩]
        else if command.featureType = wifiAttributeRoamingCapabilities then
          if command.featureMatrix = false ∨ command.fmSize = false then []
          else roamingTouches command.setSizeMax vendor.nested 0
        else [], touch.Inside) ↔
      (command.featureType = wifiAttributeRoamingCapabilities → command.featureMatrix = true →
        command.fmSize = true → CapabilitiesSized command.setSizeMax vendor.nested) := by
  have nothing : ∀ touch ∈ ([] : List Touch), touch.Inside := fun touch member => by cases member
  split
  · rename_i features
    have other : command.featureType ≠ wifiAttributeRoamingCapabilities := by
      rw [features]
      decide
    refine iff_of_true ?_ (fun asked => absurd asked other)
    split
    · exact nothing
    · rw [List.forall_mem_cons, List.forall_mem_singleton, NlAttr.touch, Touch.inside_mk,
        Touch.inside_mk]
      omega
  · split
    · rename_i asked
      split
      · rename_i missing
        refine iff_of_true nothing fun _ matrix size => ?_
        cases missing with
        | inl none => exact absurd (none.symm.trans matrix) (by decide)
        | inr none => exact absurd (none.symm.trans size) (by decide)
      · rename_i there
        rw [not_or, Bool.not_eq_false, Bool.not_eq_false] at there
        rw [roaming_inside]
        constructor
        · intro inside _ _ _
          exact inside
        · intro sized
          exact sized asked there.1 there.2
    · rename_i other
      exact iff_of_true nothing fun asked => absurd asked other

/-- A reply is looked at when it is one of a vendor. -/
theorem reply_inside (reply : WifiEvent) (touches : VendorData → List Touch) :
    (∀ touch ∈
        if reply.cmd ≠ nl80211CmdVendor then []
        else reply.idTouches ++ reply.vendor.elim [] touches, touch.Inside) ↔
      (reply.cmd = nl80211CmdVendor → IdsSized reply ∧
        ∀ vendor, reply.vendor = some vendor → ∀ touch ∈ touches vendor, touch.Inside) := by
  by_cases cmd : reply.cmd = nl80211CmdVendor
  · rw [if_neg fun other => other cmd, List.forall_mem_append, ids_inside, vendor_inside]
    exact ⟨fun inside _ => inside, fun sized => sized cmd⟩
  · rw [if_pos cmd]
    exact iff_of_true (fun touch member => by cases member) (fun same => absurd same cmd)

theorem configure_inside (capa : RoamingCapabilities) (result : Nat → Int)
    (config : RoamingConfig) :
    (∀ touch ∈ configureRoamingTouches p capa result config, touch.Inside) ↔
      (config.Within capa → allDone result 0 (callsBefore config) →
        WhitelistSized p result config.whitelistSsid (callsBefore config)) := by
  rw [configureRoamingTouches]
  split
  · rename_i within
    rw [createRequestTouches]
    split
    · rename_i done
      rw [whitelist_inside]
      exact ⟨fun inside _ _ => inside, fun sized => sized within done⟩
    · rename_i failed
      exact iff_of_true (fun touch member => by cases member)
        (fun _ done => absurd done failed)
  · rename_i refused
    exact iff_of_true (fun touch member => by cases member)
      (fun within => absurd within refused)

end Handlers

/-- The handlers stay inside of their attributes and of what their callers provide, and the SSIDs
inside of the buffer, exactly when all has the sizes that are taken for granted. -/
theorem work_inside_iff (p : Platform) (work : Work) :
    (∀ touch ∈ work.touches p, touch.Inside) ↔ work.Sized p := by
  cases work with
  | rssiEvent event => exact rssi_inside event
  | featureSet command reply =>
      rw [Work.touches, featureSetTouches, reply_inside]
      simp only [features_inside]
      rfl
  | channelList maxChannels reply =>
      rw [Work.touches, channelListTouches, reply_inside]
      simp only [List.forall_mem_append, channels_inside]
      rw [Work.Sized]
      apply imp_congr_right
      intro _
      apply and_congr_right
      intro _
      apply forall₂_congr
      intro vendor _
      rw [List.forall_mem_cons, List.forall_mem_singleton, Touch.inside_mk, Touch.inside_mk,
        and_comm]
      apply and_congr_left
      intro _
      omega
  | configureRoaming capa result config => exact configure_inside capa result config

section Alone

variable {p : Platform}

/-- The attribute with nothing behind its data. -/
def NlAttr.alone (attr : NlAttr) : NlAttr := { attr with behind := [] }

def VendorData.alone (vendor : VendorData) : VendorData :=
  ⟨vendor.attr.alone, vendor.nested.map NlAttr.alone⟩

def WifiEvent.alone (reply : WifiEvent) : WifiEvent :=
  { reply with vendorData := reply.vendorData.map VendorData.alone }

theorem vendor_alone (reply : WifiEvent) :
    reply.alone.vendor = reply.vendor.map VendorData.alone := by
  unfold WifiEvent.vendor WifiEvent.alone
  cases reply.vendorData with
  | none => rfl
  | some vendor =>
      show Option.filter _ (some vendor.alone) = Option.map _ (Option.filter _ (some vendor))
      have data : vendor.alone.attr.data = vendor.attr.data := rfl
      by_cases empty : vendor.attr.data = [] <;> simp [Option.filter, data, empty]

/-- Bytes inside of the data do not depend on what is behind. -/
theorem bytes_alone {attr : NlAttr} {offset length : Nat}
    (inside : offset + length ≤ attr.data.length) :
    attr.alone.bytes offset length = attr.bytes offset length := by
  unfold NlAttr.bytes NlAttr.alone window
  apply List.map_congr_left
  intro i member
  have bound := List.mem_range.mp member
  rw [List.append_nil, List.getD_eq_getElem?_getD, List.getD_eq_getElem?_getD,
    List.getElem?_append_left (by omega)]

theorem rssi_alone (registered : Bool) {event : WifiEvent}
    (inside : ∀ touch ∈ rssiTouches event, touch.Inside) :
    handleRssiEvent registered event.alone = handleRssiEvent registered event := by
  rw [handleRssiEvent, handleRssiEvent, vendor_alone]
  rw [rssiTouches] at inside
  cases found : event.vendor with
  | none => rfl
  | some vendor =>
      rw [found, Option.elim_some, List.forall_mem_cons] at inside
      obtain ⟨type, fields⟩ := inside
      have same : rssiType vendor.alone = rssiType vendor := congrArg fromLE (bytes_alone type)
      rw [Option.map_some, Option.bind_some, Option.bind_some, same]
      by_cases rssi : rssiType vendor = wifiEventRssi
      · rw [if_pos rssi] at fields
        have whole : 4 + 8 ≤ vendor.attr.data.length := fields _ List.mem_cons_self
        have attr : vendor.alone.attr = vendor.attr.alone := rfl
        rw [attr, bytes_alone (show 4 + 1 ≤ _ by omega), bytes_alone (show 6 + 6 ≤ _ by omega),
          bytes_alone (show 5 + 1 ≤ _ by omega)]
      · rw [if_neg fun all => rssi all.1, if_neg fun all => rssi all.1]

theorem roaming_alone {setSizeMax : Int} {nested : List NlAttr} {i : Nat}
    (inside : ∀ touch ∈ roamingTouches setSizeMax nested i, touch.Inside) :
    roamingMatrix p setSizeMax (nested.map NlAttr.alone) i =
      roamingMatrix p setSizeMax nested i := by
  induction nested generalizing i with
  | nil => rfl
  | cons it rest ih =>
      rw [roamingTouches] at inside
      rw [List.map_cons, roamingMatrix, roamingMatrix]
      have type : it.alone.nlaType = it.nlaType := rfl
      rw [type]
      split
      · rename_i taken
        rw [if_pos taken, List.forall_mem_append, List.forall_mem_cons] at inside
        have value : it.alone.getU32 = it.getU32 := congrArg fromLE (bytes_alone inside.1.1)
        rw [value, ih inside.2]
      · rename_i left
        rw [if_neg left] at inside
        exact ih inside

theorem channels_alone {maxChannels : Int} {nested : List NlAttr} {numChannels : Int}
    (inside : ∀ touch ∈ channelTouches p maxChannels nested numChannels, touch.Inside)
    (out : ChannelList) :
    channelLoop p maxChannels (nested.map NlAttr.alone) numChannels out =
      channelLoop p maxChannels nested numChannels out := by
  induction nested generalizing numChannels out with
  | nil => rfl
  | cons it rest ih =>
      rw [channelTouches] at inside
      rw [List.map_cons, channelLoop, channelLoop]
      have type : it.alone.nlaType = it.nlaType := rfl
      rw [type]
      by_cases count : it.nlaType = wifiAttributeNumChannels
      · rw [if_pos count, List.forall_mem_cons] at inside
        have value : it.alone.getInt = it.getInt := congrArg int32LE (bytes_alone inside.1)
        have most : clipped maxChannels it.alone = clipped maxChannels it := by
          rw [clipped, clipped, value]
        rw [if_pos count, if_pos count, most]
        exact ih inside.2 _
      · rw [if_neg count] at inside
        rw [if_neg count, if_neg count]
        split
        · rename_i list
          rw [if_pos list, List.forall_mem_append, List.forall_mem_cons] at inside
          have here : 0 + channelBytes p numChannels ≤ it.data.length := inside.1.1
          rw [bytes_alone here]
          exact ih inside.2 _
        · rename_i other
          rw [if_neg other] at inside
          exact ih inside _

theorem featureSet_alone {command : FeatureSetCommand} {reply : WifiEvent}
    (inside : ∀ touch ∈ featureSetTouches p command reply, touch.Inside) :
    handleFeatureSet p command reply.alone = handleFeatureSet p command reply := by
  rw [handleFeatureSet, handleFeatureSet, vendor_alone]
  rw [featureSetTouches] at inside
  have cmd : reply.alone.cmd = reply.cmd := rfl
  rw [cmd]
  by_cases other : reply.cmd ≠ nl80211CmdVendor
  · rw [if_pos other, if_pos other]
  · rw [if_neg other, List.forall_mem_append] at inside
    rw [if_neg other, if_neg other]
    cases found : reply.vendor with
    | none => rfl
    | some vendor =>
        rw [found, Option.elim_some] at inside
        rw [Option.map_some, Option.elim_some, Option.elim_some]
        by_cases features : command.featureType = wifiAttributeFeatureSet
        · have attr : vendor.alone.attr = vendor.attr.alone := rfl
          have size : vendor.attr.alone.data.length = vendor.attr.data.length := rfl
          rw [if_pos features, if_pos features, attr, size,
            bytes_alone (show 0 + min vendor.attr.data.length p.featureSet ≤ _ by omega)]
        · rw [if_neg features, if_neg features]
          rw [if_neg features] at inside
          by_cases roaming : command.featureType = wifiAttributeRoamingCapabilities
          · rw [if_pos roaming] at inside
            rw [if_pos roaming, if_pos roaming]
            split
            · rfl
            · rename_i given
              rw [if_neg given] at inside
              rw [VendorData.alone, roaming_alone inside.2]
          · rw [if_neg roaming, if_neg roaming]

theorem channelList_alone {maxChannels : Int} {reply : WifiEvent}
    (inside : ∀ touch ∈ channelListTouches p maxChannels reply, touch.Inside)
    (before : ChannelList) :
    handleChannelList p maxChannels before reply.alone =
      handleChannelList p maxChannels before reply := by
  rw [handleChannelList, handleChannelList, vendor_alone]
  rw [channelListTouches] at inside
  have cmd : reply.alone.cmd = reply.cmd := rfl
  rw [cmd]
  by_cases other : reply.cmd ≠ nl80211CmdVendor
  · rw [if_pos other, if_pos other]
  · rw [if_neg other, List.forall_mem_append] at inside
    rw [if_neg other, if_neg other]
    cases found : reply.vendor with
    | none => rfl
    | some vendor =>
        rw [found, Option.elim_some, List.forall_mem_append] at inside
        rw [Option.map_some, Option.elim_some, Option.elim_some, VendorData.alone,
          channels_alone inside.2.1]

/-- What the handlers of events and replies hand on comes from the data of the attributes alone, as
long as they stay inside. -/
theorem handled_alone (p : Platform) :
    (∀ registered event, (∀ touch ∈ rssiTouches event, touch.Inside) →
      handleRssiEvent registered event.alone = handleRssiEvent registered event) ∧
    (∀ command reply, (∀ touch ∈ featureSetTouches p command reply, touch.Inside) →
      handleFeatureSet p command reply.alone = handleFeatureSet p command reply) ∧
    ∀ maxChannels before reply,
      (∀ touch ∈ channelListTouches p maxChannels reply, touch.Inside) →
        handleChannelList p maxChannels before reply.alone =
          handleChannelList p maxChannels before reply :=
  ⟨fun registered _ inside => rssi_alone registered inside,
    fun _ _ inside => featureSet_alone inside,
    fun _ before _ inside => channelList_alone inside before⟩

end Alone

/-- A reply with 100 channels, of which the list has one. -/
def shortChannelList : WifiEvent where
  cmd := nl80211CmdVendor
  vendorId := some ⟨195, [0x11, 0x1A, 0x00, 0x00], []⟩
  vendorSubcmd := some ⟨196, [0x00, 0x10, 0x00, 0x00], []⟩
  vendorData := some
    { attr := ⟨197, [8, 0, 2, 0, 100, 0, 0, 0, 8, 0, 3, 0, 36, 0, 0, 0], []⟩
      nested := [⟨2, [100, 0, 0, 0], []⟩, ⟨3, [36, 0, 0, 0], []⟩] }

/-- The list is copied as far as its count says. -/
theorem not_work_inside : ¬ ∀ (p : Platform) (work : Work), ∀ touch ∈ work.touches p,
    touch.Inside := by
  intro inside
  have copied := inside ⟨4, 4, 4294967296, 32, 16, 8⟩ (.channelList 100 shortChannelList)
    ⟨4, 0, 400⟩ (by decide)
  exact absurd copied (by decide)

end Connectivity.WifiHal
