import Connectivity.Bytes.LittleEndian
import Connectivity.Bytes.Buffer
import Connectivity.WifiHal.Monitor

set_option autoImplicit false

/- What the driver answers and reports to the Wi-Fi HAL, and the configuration it is sent. -/
namespace Connectivity.WifiHal

open Bytes

def wifiAttributeNumChannels : Nat := 2
def wifiAttributeChannelList : Nat := 3
def wifiAttributeFeatureSet : Int := 5
def wifiAttributeRoamingCapabilities : Int := 12

/-- What the framework's header and the compiler decide: the sizes of two types, how many values a
`size_t` has, and the limits of a roaming configuration. -/
structure Platform where
  featureSet : Nat
  wifiChannel : Nat
  sizeTRange : Nat
  maxSsidLength : Nat
  maxBlacklistBssid : Nat
  maxWhitelistSsid : Nat
deriving DecidableEq, Repr

/-- An attribute: its data and what lies behind them in the memory. -/
structure NlAttr where
  nlaType : Nat
  data : List UInt8
  behind : List UInt8
deriving DecidableEq, Repr

namespace NlAttr

variable (attr : NlAttr)

/-- Some bytes from the beginning of the data on, which are read whether these have them or not. -/
def bytes (offset length : Nat) : List UInt8 := window (attr.data ++ attr.behind) offset length

def touch (offset length : Nat) : Touch := ⟨attr.data.length, offset, length⟩

def getU32 : Nat := fromLE (attr.bytes 0 4)

/-- The same as an `int`. -/
def getInt : Int := int32LE (attr.bytes 0 4)

end NlAttr

/-- The data of the vendor, and the attributes that an iteration over them comes to. -/
structure VendorData where
  attr : NlAttr
  nested : List NlAttr
deriving DecidableEq, Repr

/-- A parsed message. -/
structure WifiEvent where
  cmd : Int
  vendorId : Option NlAttr
  vendorSubcmd : Option NlAttr
  vendorData : Option VendorData
deriving DecidableEq, Repr

/-- What a handler returns to libnl. -/
inductive NlResult
  | skip | ok
deriving DecidableEq, Repr

namespace WifiEvent

variable (reply : WifiEvent)

/-- The data that there are, if they are not empty. -/
def vendor : Option VendorData := reply.vendorData.filter fun vendor => vendor.attr.data ≠ []

/-- `get_vendor_id` and `get_vendor_subcmd`. -/
def idTouches : List Touch :=
  (reply.vendorId.toList ++ reply.vendorSubcmd.toList).map fun attr => attr.touch 0 4

end WifiEvent

section Rssi

/-- What the callback is called with. -/
structure RssiBreach where
  bssid : List UInt8
  rssi : Int
deriving DecidableEq, Repr

/-- `vendor_data->nla_type`, of the attribute in the vendor's data. -/
def rssiType (vendor : VendorData) : Nat := fromLE (vendor.attr.bytes 2 2)

/-- The attribute's own length, header included. -/
def rssiLength (vendor : VendorData) : Nat := fromLE (vendor.attr.bytes 0 2)

def wifiEventRssi : Nat := 7

/-- `SetRSSIMonitorCommand::handleEvent`: the callback, if there is one. -/
def handleRssiEvent (registered : Bool) (event : WifiEvent) : Option RssiBreach :=
  event.vendor.bind fun vendor =>
    if rssiType vendor = wifiEventRssi ∧ vendor.attr.bytes 4 1 = [1] ∧ registered = true then
      some ⟨vendor.attr.bytes 6 6, (BitVec.ofNat 8 (fromLE (vendor.attr.bytes 5 1))).toInt⟩
    else none

/-- The type is read, and for the log all the fields, which belong to an attribute of the vendor's
data. -/
def rssiTouches (event : WifiEvent) : List Touch :=
  event.vendor.elim [] fun vendor =>
    vendor.attr.touch 2 2 ::
      if rssiType vendor = wifiEventRssi then
        [vendor.attr.touch 4 8, ⟨rssiLength vendor, 4, 8⟩]
      else []

end Rssi

section Replies

variable (p : Platform)

/-- The pointers and the capacity that a `GetFeatureSetCommand` has. -/
structure FeatureSetCommand where
  featureType : Int
  fset : Bool
  featureMatrix : Bool
  fmSize : Bool
  setSizeMax : Int
deriving DecidableEq, Repr

def maxima : List Nat := [p.maxBlacklistBssid, p.maxWhitelistSsid]

/-- The loop over the capabilities from the `i`-th on: the entries of `feature_matrix`. -/
def roamingMatrix (setSizeMax : Int) : List NlAttr → Nat → List Nat
  | [], _ => []
  | it :: rest, i =>
      if it.nlaType = wifiAttributeRoamingCapabilities ∧ (i : Int) < setSizeMax then
        (if it.getU32 > (maxima p).getD i 0 then (maxima p).getD i 0 else it.getU32) ::
          roamingMatrix setSizeMax rest (i + 1)
      else roamingMatrix setSizeMax rest i

/-- Of the attribute, of an entry of the two maxima and of one of the matrix. -/
def roamingTouches (setSizeMax : Int) : List NlAttr → Nat → List Touch
  | [], _ => []
  | it :: rest, i =>
      if it.nlaType = wifiAttributeRoamingCapabilities ∧ (i : Int) < setSizeMax then
        [it.touch 0 4, ⟨2, i, 1⟩, ⟨setSizeMax.toNat, i, 1⟩] ++
          roamingTouches setSizeMax rest (i + 1)
      else roamingTouches setSizeMax rest i

/-- What `GetFeatureSetCommand::handleResponse` has written. -/
inductive FeatureSetOutput
  | none
  | fset (bytes : List UInt8)
  | matrix (fmSize : Int) (entries : List Nat)
deriving DecidableEq, Repr

/-- `GetFeatureSetCommand::handleResponse`. -/
def handleFeatureSet (command : FeatureSetCommand) (reply : WifiEvent) :
    NlResult × FeatureSetOutput :=
  if reply.cmd ≠ nl80211CmdVendor then (.skip, .none)
  else
    reply.vendor.elim (.skip, .none) fun vendor =>
      if command.featureType = wifiAttributeFeatureSet then
        if command.fset = false then (.skip, .none)
        else (.ok, .fset (vendor.attr.bytes 0 (min vendor.attr.data.length p.featureSet)))
      else if command.featureType = wifiAttributeRoamingCapabilities then
        if command.featureMatrix = false ∨ command.fmSize = false then (.skip, .none)
        else
          (.ok, .matrix command.setSizeMax (roamingMatrix p command.setSizeMax vendor.nested 0))
      else (.ok, .none)

def featureSetTouches (command : FeatureSetCommand) (reply : WifiEvent) : List Touch :=
  if reply.cmd ≠ nl80211CmdVendor then []
  else
    reply.idTouches ++ reply.vendor.elim [] fun vendor =>
      if command.featureType = wifiAttributeFeatureSet then
        if command.fset = false then []
        else
          [vendor.attr.touch 0 (min vendor.attr.data.length p.featureSet),
            ⟨p.featureSet, 0, min vendor.attr.data.length p.featureSet⟩]
      else if command.featureType = wifiAttributeRoamingCapabilities then
        if command.featureMatrix = false ∨ command.fmSize = false then []
        else roamingTouches command.setSizeMax vendor.nested 0
      else []

/-- `num_channels` of an attribute, not above the capacity. -/
def clipped (maxChannels : Int) (it : NlAttr) : Int :=
  if it.getInt > maxChannels then maxChannels else it.getInt

/-- `sizeof(wifi_channel) * num_channels`, a `size_t`. -/
def channelBytes (numChannels : Int) : Nat :=
  (p.wifiChannel * numChannels % p.sizeTRange).toNat

/-- What has been written of a `GetChannelListCommand`: the number and the channels. -/
structure ChannelList where
  numOfChannel : Option Int
  channels : List UInt8
deriving DecidableEq, Repr

/-- The loop of `GetChannelListCommand::handleResponse`. -/
def channelLoop (maxChannels : Int) : List NlAttr → Int → ChannelList → ChannelList
  | [], _, out => out
  | it :: rest, numChannels, out =>
      if it.nlaType = wifiAttributeNumChannels then
        channelLoop maxChannels rest (clipped maxChannels it)
          { out with numOfChannel := some (clipped maxChannels it) }
      else if it.nlaType = wifiAttributeChannelList ∧ numChannels ≠ 0 then
        channelLoop maxChannels rest numChannels
          { out with channels := it.bytes 0 (channelBytes p numChannels) ++
              out.channels.drop (channelBytes p numChannels) }
      else channelLoop maxChannels rest numChannels out

/-- Of the attributes and of the caller's channels. -/
def channelTouches (maxChannels : Int) : List NlAttr → Int → List Touch
  | [], _ => []
  | it :: rest, numChannels =>
      if it.nlaType = wifiAttributeNumChannels then
        it.touch 0 4 :: channelTouches maxChannels rest (clipped maxChannels it)
      else if it.nlaType = wifiAttributeChannelList ∧ numChannels ≠ 0 then
        [it.touch 0 (channelBytes p numChannels),
            ⟨p.wifiChannel * maxChannels.toNat, 0, channelBytes p numChannels⟩] ++
          channelTouches maxChannels rest numChannels
      else channelTouches maxChannels rest numChannels

/-- `GetChannelListCommand::handleResponse` for a capacity of channels. -/
def handleChannelList (maxChannels : Int) (before : ChannelList) (reply : WifiEvent) :
    NlResult × ChannelList :=
  if reply.cmd ≠ nl80211CmdVendor then (.skip, before)
  else
    reply.vendor.elim (.skip, before) fun vendor =>
      (.ok, channelLoop p maxChannels vendor.nested 0 before)

/-- At the end the first two channels of the caller are read for the log. -/
def channelListTouches (maxChannels : Int) (reply : WifiEvent) : List Touch :=
  if reply.cmd ≠ nl80211CmdVendor then []
  else
    reply.idTouches ++ reply.vendor.elim [] fun vendor =>
      channelTouches p maxChannels vendor.nested 0 ++
        [⟨maxChannels.toNat, 0, 1⟩, ⟨maxChannels.toNat, 1, 1⟩]

end Replies

section Roaming

variable (p : Platform)

/-- `ssid_t`. -/
structure Ssid where
  length : Nat
  ssidStr : List UInt8
deriving DecidableEq, Repr

/-- `wifi_roaming_config`, each list with as many entries as it declares. -/
structure RoamingConfig where
  blacklistBssid : List (List UInt8)
  whitelistSsid : List Ssid
deriving DecidableEq, Repr

/-- `wifi_roaming_capabilities`. -/
structure RoamingCapabilities where
  maxBlacklistSize : Nat
  maxWhitelistSize : Nat
deriving DecidableEq, Repr

/-- A number of calls from the `k`-th on, of which none fails. -/
def allDone (result : Nat → Int) (k count : Nat) : Prop := ∀ i < count, 0 ≤ result (k + i)

instance (result : Nat → Int) (k count : Nat) : Decidable (allDone result k count) :=
  inferInstanceAs (Decidable (∀ i < count, 0 ≤ result (k + i)))

/-- The copy of an SSID, of its text and into the buffer, with the NUL that is put behind it, and
what is put into the request. -/
def ssidTouches (entry : Ssid) : List Touch :=
  [⟨p.maxSsidLength, 0, entry.length⟩, ⟨p.maxSsidLength + 1, 0, entry.length⟩,
    ⟨p.maxSsidLength + 1, entry.length, 1⟩,
    ⟨p.maxSsidLength + 1, 0, (entry.length + 1) % 4294967296⟩]

/-- The loop over the SSIDs, whose first one is put by the `k`-th call. -/
def whitelistTouches (result : Nat → Int) : List Ssid → Nat → List Touch
  | [], _ => []
  | entry :: rest, k =>
      ssidTouches p entry ++ if result k < 0 then [] else whitelistTouches result rest (k + 1)

/-- How many calls there are before the SSIDs: the request, the number of the BSSIDs, each of these
and the number of the SSIDs. -/
def callsBefore (config : RoamingConfig) : Nat := 3 + config.blacklistBssid.length

/-- `ConfigRoamingCommand::createRequest`, with the results of the calls of libnl in their order. -/
def createRequestTouches (result : Nat → Int) (config : RoamingConfig) : List Touch :=
  if allDone result 0 (callsBefore config) then
    whitelistTouches p result config.whitelistSsid (callsBefore config)
  else []

/-- A configuration that `wifi_configure_roaming` does not refuse. -/
def RoamingConfig.Within (config : RoamingConfig) (capa : RoamingCapabilities) : Prop :=
  config.blacklistBssid.length ≤ capa.maxBlacklistSize ∧
    config.whitelistSsid.length ≤ capa.maxWhitelistSize

instance (config : RoamingConfig) (capa : RoamingCapabilities) : Decidable (config.Within capa) :=
  inferInstanceAs (Decidable (_ ∧ _))

/-- `wifi_configure_roaming`. -/
def configureRoamingTouches (capa : RoamingCapabilities) (result : Nat → Int)
    (config : RoamingConfig) : List Touch :=
  if config.Within capa then createRequestTouches p result config else []

end Roaming

end Connectivity.WifiHal
