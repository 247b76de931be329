import Connectivity.Supplicant.HidlManager
import Connectivity.Text.Settings
import Mathlib.Data.List.Nodup

set_option autoImplicit false

/- The configuration that the HIDL service writes for hostapd, and what it says of the access point
to one who reads it line by line. -/
namespace Connectivity.Hostapd

open Supplicant (decimal)
open Settings

/-- A `std::string`, a character for each byte. -/
abbrev Text := List Char

def signs : Signs Char where
  newline := '\n'
  equals := '='
  stop := Char.ofNat 0
  newline_equals := by decide
  newline_stop := by decide
  equals_stop := by decide

/-- The values of the enumeration, and what is none of them. -/
inductive EncryptionType
  | none | wpa | wpa2 | other
deriving DecidableEq, Repr

inductive Band
  | band24Ghz | band5Ghz | bandAny | other
deriving DecidableEq, Repr

structure ChannelParams where
  enableAcs : Bool
  acsShouldExcludeDfs : Bool
  channel : BitVec 32
  band : Band
deriving DecidableEq, Repr

structure HwModeParams where
  enable80211N : Bool
  enable80211AC : Bool
deriving DecidableEq, Repr

structure IfaceParams where
  ifaceName : Text
  hwModeParams : HwModeParams
  channelParams : ChannelParams
deriving DecidableEq, Repr

/-- The parameters of a network, without the content of the accept file. -/
structure NetworkParams where
  ssid : List UInt8
  isHidden : Bool
  encryptionType : EncryptionType
  pskPassphrase : Text
  maxNumSta : BitVec 32
  macAddrAcl : Text
deriving DecidableEq, Repr

/-- `IHostapd::ParamSizeLimits`. -/
structure ParamSizeLimits where
  ssidMaxLenInBytes : Nat
  wpa2PskPassphraseMinLenInBytes : Nat
  wpa2PskPassphraseMaxLenInBytes : Nat
deriving DecidableEq, Repr

/-- A number from a `bool`. -/
def flag (b : Bool) : Text := if b then ['1'] else ['0']

/-- `%d`. -/
def number (n : BitVec 32) : Text := decimal n.toInt

/-- `std::hex` with two places. -/
def hexByte (b : UInt8) : Text := [Nat.digitChar (b.toNat / 16), Nat.digitChar (b.toNat % 16)]

def kAcceptMacFileNameFmt : Text := "/data/vendor/wifi/hostapd/accept_mac_update.conf".toList

/-- The encryption, where its type is known. -/
def encryptionConfig (nw : NetworkParams) : Option Text :=
  match nw.encryptionType with
  | .none => some []
  | .wpa => some ("wpa=3\nwpa_pairwise=TKIP CCMP\nwpa_passphrase=".toList ++
      signs.cut nw.pskPassphrase)
  | .wpa2 => some ("wpa=2\nrsn_pairwise=CCMP\nwpa_passphrase=".toList ++ signs.cut nw.pskPassphrase)
  | .other => Option.none

def channelConfig (params : ChannelParams) : Text :=
  if params.enableAcs then
    "channel=0\nacs_exclude_dfs=".toList ++ flag params.acsShouldExcludeDfs
  else "channel=".toList ++ number params.channel

def htCapVhtOperChwidth (params : ChannelParams) : Text :=
  if params.enableAcs then "ht_capab=[HT40+]\nvht_oper_chwidth=1".toList else []

/-- The mode of the hardware and the width of the channel, where the band is known. -/
def hwModeConfig (params : ChannelParams) : Option (Text × Text) :=
  match params.band with
  | .band24Ghz => some ("hw_mode=g".toList, [])
  | .band5Ghz => some ("hw_mode=a".toList, htCapVhtOperChwidth params)
  | .bandAny => some ("hw_mode=any".toList, htCapVhtOperChwidth params)
  | .other => none

section Model

variable (limits : ParamSizeLimits) (iface : IfaceParams) (nw : NetworkParams)

/-- The sizes that are checked first. -/
def SizesFit : Prop :=
  nw.ssid.length ≤ limits.ssidMaxLenInBytes ∧
    (nw.encryptionType ≠ .none →
      limits.wpa2PskPassphraseMinLenInBytes ≤ nw.pskPassphrase.length ∧
        nw.pskPassphrase.length ≤ limits.wpa2PskPassphraseMaxLenInBytes)

instance : Decidable (SizesFit limits nw) := inferInstanceAs (Decidable (_ ∧ (_ → _)))

/-- `CreateHostapdConfig`, with the lines of its format one by one. -/
def createHostapdConfig : Text :=
  if SizesFit limits nw then
    match encryptionConfig nw, hwModeConfig iface.channelParams with
    | some encryption, some (hwMode, htCap) =>
        ["interface=".toList ++ signs.cut iface.ifaceName,
          "driver=nl80211".toList,
          "ctrl_interface=/data/vendor/wifi/hostapd/ctrl".toList,
          "ssid2=".toList ++ nw.ssid.flatMap hexByte,
          channelConfig iface.channelParams,
          "ieee80211n=".toList ++ flag iface.hwModeParams.enable80211N,
          "ieee80211ac=".toList ++ flag iface.hwModeParams.enable80211AC,
          hwMode,
          htCap,
          "ignore_broadcast_ssid=".toList ++ flag nw.isHidden,
          "wowlan_triggers=any".toList,
          encryption,
          "max_num_sta=".toList ++ number nw.maxNumSta,
          "macaddr_acl=".toList ++ signs.cut nw.macAddrAcl,
          "accept_mac_file=".toList ++ kAcceptMacFileNameFmt,
          "device_name=AndroidAP".toList,
          "manufacturer=MediaTek Inc.".toList,
          "model_name=MTK Wireless Model".toList,
          "model_number=66xx".toList,
          "serial_number=1.0".toList,
          "device_type=10-0050F204-5".toList].flatMap (· ++ ['\n'])
    | _, _ => []
  else []

end Model

section Lines

abbrev Line := Option (Setting Char)

def setting (key : String) (value : Text) : Line := some (key.toList, value)

def encryptionLines (nw : NetworkParams) : List Line :=
  match nw.encryptionType with
  | .wpa => [setting "wpa" "3".toList, setting "wpa_pairwise" "TKIP CCMP".toList,
      setting "wpa_passphrase" nw.pskPassphrase]
  | .wpa2 => [setting "wpa" "2".toList, setting "rsn_pairwise" "CCMP".toList,
      setting "wpa_passphrase" nw.pskPassphrase]
  | .none | .other => [none]

def channelLines (params : ChannelParams) : List Line :=
  if params.enableAcs then
    [setting "channel" "0".toList, setting "acs_exclude_dfs" (flag params.acsShouldExcludeDfs)]
  else [setting "channel" (number params.channel)]

def hwMode : Band → Text
  | .band24Ghz => "g".toList
  | .band5Ghz => "a".toList
  | .bandAny | .other => "any".toList

def htCapLines (params : ChannelParams) : List Line :=
  if params.enableAcs ∧ params.band ≠ .band24Ghz then
    [setting "ht_capab" "[HT40+]".toList, setting "vht_oper_chwidth" "1".toList]
  else [none]

/-- The lines of the configuration. -/
def lines (iface : IfaceParams) (nw : NetworkParams) : List Line :=
  [setting "interface" iface.ifaceName, setting "driver" "nl80211".toList,
    setting "ctrl_interface" "/data/vendor/wifi/hostapd/ctrl".toList,
    setting "ssid2" (nw.ssid.flatMap hexByte)] ++
  channelLines iface.channelParams ++
  [setting "ieee80211n" (flag iface.hwModeParams.enable80211N),
    setting "ieee80211ac" (flag iface.hwModeParams.enable80211AC),
    setting "hw_mode" (hwMode iface.channelParams.band)] ++
  htCapLines iface.channelParams ++
  [setting "ignore_broadcast_ssid" (flag nw.isHidden),
    setting "wowlan_triggers" "any".toList] ++
  encryptionLines nw ++
  [setting "max_num_sta" (number nw.maxNumSta), setting "macaddr_acl" nw.macAddrAcl,
    setting "accept_mac_file" kAcceptMacFileNameFmt, setting "device_name" "AndroidAP".toList,
    setting "manufacturer" "MediaTek Inc.".toList,
    setting "model_name" "MTK Wireless Model".toList, setting "model_number" "66xx".toList,
    setting "serial_number" "1.0".toList, setting "device_type" "10-0050F204-5".toList]

end Lines

section Values

/-- A value of digits alone. -/
theorem clean_of_isAlphanum {value : Text} (digits : ∀ c ∈ value, c.isAlphanum = true ∨ c = '-') :
    signs.Clean value := by
  constructor
  · intro member
    rcases digits _ member with alike | alike <;> exact absurd alike (by decide)
  · intro member
    rcases digits _ member with alike | alike <;> exact absurd alike (by decide)

theorem clean_literal {value : List Char} (clean : signs.Clean value) :
    signs.Clean (String.ofList value).toList := by
  rwa [String.toList_ofList]

theorem clean_flag (b : Bool) : signs.Clean (flag b) := by
  cases b <;> decide

theorem clean_number (n : BitVec 32) : signs.Clean (number n) := by
  apply clean_of_isAlphanum
  intro c member
  have digit (m : Nat) (inside : c ∈ Nat.toDigits 10 m) : c.isAlphanum = true := by
    have digit := Nat.isDigit_of_mem_toDigits (by decide) (by decide) inside
    rw [Char.isAlphanum, digit, Bool.or_true]
  unfold number decimal at member
  split at member
  · rcases List.mem_cons.mp member with sign | inside
    · exact .inr sign
    · exact .inl (digit _ inside)
  · exact .inl (digit _ member)

theorem clean_hex (ssid : List UInt8) : signs.Clean (ssid.flatMap hexByte) := by
  apply clean_of_isAlphanum
  intro c member
  have digit : ∀ n < 16, (Nat.digitChar n).isAlphanum = true := by decide
  obtain ⟨b, _, inside⟩ := List.mem_flatMap.mp member
  have small : b.toNat < 256 := b.toNat_lt
  rcases List.mem_cons.mp inside with high | low
  · exact .inl (high ▸ digit _ (by omega))
  · exact .inl (List.mem_singleton.mp low ▸ digit _ (by omega))

end Values

section Print

variable {limits : ParamSizeLimits} {iface : IfaceParams} {nw : NetworkParams}

theorem line_cut (key : List Char) (value : Text) :
    signs.line (setting (String.ofList key) value) =
      (String.ofList (key ++ ['='])).toList ++ signs.cut value := by
  rw [setting, Signs.line, String.toList_ofList, String.toList_ofList, List.append_assoc]
  rfl

theorem line_setting (key : List Char) {value : Text} (clean : signs.Clean value) :
    signs.line (setting (String.ofList key) value) =
      (String.ofList (key ++ ['='])).toList ++ value := by
  rw [line_cut, Signs.cut_of_notMem clean.2]

theorem line_literal {key value : List Char} (clean : signs.Clean value) :
    signs.line (setting (String.ofList key) (String.ofList value).toList) =
      (String.ofList (key ++ '=' :: value)).toList := by
  rw [String.toList_ofList, line_setting key clean, String.toList_ofList, String.toList_ofList,
    List.append_assoc]
  rfl

theorem print_append (first later : List Line) :
    signs.print (first ++ later) = signs.print first ++ signs.print later := List.flatMap_append

theorem print_nil : signs.print [] = [] := rfl

theorem print_texts {ls : List Line} {texts : List Text} (same : ls.map signs.line = texts)
    (rest : List Line) :
    signs.print (ls ++ rest) = texts.flatMap (· ++ ['\n']) ++ signs.print rest := by
  rw [print_append, ← same, List.flatMap_map]
  rfl

theorem print_last (key : List Char) (value : Text) :
    signs.print [setting (String.ofList key) value] =
      (String.ofList (key ++ ['='])).toList ++ (signs.cut value ++ ['\n']) := by
  rw [Signs.print_cons, line_cut, print_nil, List.append_assoc]
  rfl

theorem print_clean (key : List Char) {value : Text} (clean : signs.Clean value) :
    signs.print [setting (String.ofList key) value] =
      (String.ofList (key ++ ['='])).toList ++ (value ++ ['\n']) := by
  rw [print_last, Signs.cut_of_notMem clean.2]

theorem print_literal {key value : List Char} (clean : signs.Clean value) (rest : List Line) :
    signs.print (setting (String.ofList key) (String.ofList value).toList :: rest) =
      (String.ofList (key ++ '=' :: value)).toList ++ ['\n'] ++ signs.print rest := by
  rw [Signs.print_cons, line_literal clean, List.append_assoc]
  rfl

/-- Several lines of one literal. -/
theorem print_before {key value front : List Char} {rest : List Line} {more : Text}
    (clean : signs.Clean value)
    (printed : signs.print rest = (String.ofList front).toList ++ more) :
    signs.print (setting (String.ofList key) (String.ofList value).toList :: rest) =
      (String.ofList (key ++ '=' :: value ++ '\n' :: front)).toList ++ more := by
  rw [Signs.print_cons, line_literal clean, printed]
  simp only [String.toList_ofList, List.append_assoc, List.cons_append]
  rfl

theorem print_encryption {nw : NetworkParams} {encryption : Text}
    (known : encryptionConfig nw = some encryption) :
    signs.print (encryptionLines nw) = encryption ++ ['\n'] := by
  unfold encryptionConfig at known
  unfold encryptionLines
  cases type : nw.encryptionType <;> rw [type] at known <;> cases known
  · rfl
  · rw [List.append_assoc]
    exact print_before (by decide) (print_before (by decide) (print_last _ _))
  · rw [List.append_assoc]
    exact print_before (by decide) (print_before (by decide) (print_last _ _))

theorem print_channel (params : ChannelParams) :
    signs.print (channelLines params) = channelConfig params ++ ['\n'] := by
  unfold channelLines channelConfig
  split
  · rw [List.append_assoc]
    exact print_before (by decide) (print_clean _ (clean_flag _))
  · rw [List.append_assoc]
    exact print_clean _ (clean_number _)

theorem print_hwMode {params : ChannelParams} {mode htCap : Text}
    (known : hwModeConfig params = some (mode, htCap)) :
    signs.print (setting "hw_mode" (hwMode params.band) :: htCapLines params) =
      mode ++ ['\n'] ++ (htCap ++ ['\n']) := by
  have wide : signs.print [setting "ht_capab" "[HT40+]".toList,
      setting "vht_oper_chwidth" "1".toList] =
        "ht_capab=[HT40+]\nvht_oper_chwidth=1".toList ++ ['\n'] :=
    print_before (by decide) (print_literal (by decide) [])
  unfold hwModeConfig at known
  unfold htCapLines
  cases band : params.band <;> rw [band] at known <;> cases known
  · rw [if_neg (by simp)]
    exact print_literal (by decide) _
  all_goals
    rw [htCapVhtOperChwidth]
    cases params.enableAcs
    · rw [if_neg (by decide)]
      exact print_literal (by decide) _
    · rw [if_pos (by decide), if_pos rfl, ← wide]
      exact print_literal (by decide) _

theorem print_lines {encryption mode htCap : Text}
    (encrypted : encryptionConfig nw = some encryption)
    (known : hwModeConfig iface.channelParams = some (mode, htCap)) (fit : SizesFit limits nw) :
    createHostapdConfig limits iface nw = signs.print (lines iface nw) := by
  have names : [setting "interface" iface.ifaceName, setting "driver" "nl80211".toList,
        setting "ctrl_interface" "/data/vendor/wifi/hostapd/ctrl".toList,
        setting "ssid2" (nw.ssid.flatMap hexByte)].map signs.line =
      ["interface=".toList ++ signs.cut iface.ifaceName, "driver=nl80211".toList,
        "ctrl_interface=/data/vendor/wifi/hostapd/ctrl".toList,
        "ssid2=".toList ++ nw.ssid.flatMap hexByte] := by
    simp only [List.map_cons, List.map_nil, List.cons.injEq, and_true]
    exact ⟨line_cut _ _, line_literal (by decide), line_literal (by decide),
      line_setting _ (clean_hex _)⟩
  have modes : [setting "ieee80211n" (flag iface.hwModeParams.enable80211N),
        setting "ieee80211ac" (flag iface.hwModeParams.enable80211AC)].map signs.line =
      ["ieee80211n=".toList ++ flag iface.hwModeParams.enable80211N,
        "ieee80211ac=".toList ++ flag iface.hwModeParams.enable80211AC] := by
    simp only [List.map_cons, List.map_nil, List.cons.injEq, and_true]
    exact ⟨line_setting _ (clean_flag _), line_setting _ (clean_flag _)⟩
  have hidden : [setting "ignore_broadcast_ssid" (flag nw.isHidden),
        setting "wowlan_triggers" "any".toList].map signs.line =
      ["ignore_broadcast_ssid=".toList ++ flag nw.isHidden, "wowlan_triggers=any".toList] := by
    simp only [List.map_cons, List.map_nil, List.cons.injEq, and_true]
    exact ⟨line_setting _ (clean_flag _), line_literal (by decide)⟩
  have device : [setting "max_num_sta" (number nw.maxNumSta),
        setting "macaddr_acl" nw.macAddrAcl, setting "accept_mac_file" kAcceptMacFileNameFmt,
        setting "device_name" "AndroidAP".toList, setting "manufacturer" "MediaTek Inc.".toList,
        setting "model_name" "MTK Wireless Model".toList, setting "model_number" "66xx".toList,
        setting "serial_number" "1.0".toList,
        setting "device_type" "10-0050F204-5".toList].map signs.line =
      ["max_num_sta=".toList ++ number nw.maxNumSta,
        "macaddr_acl=".toList ++ signs.cut nw.macAddrAcl,
        "accept_mac_file=".toList ++ kAcceptMacFileNameFmt, "device_name=AndroidAP".toList,
        "manufacturer=MediaTek Inc.".toList, "model_name=MTK Wireless Model".toList,
        "model_number=66xx".toList, "serial_number=1.0".toList,
        "device_type=10-0050F204-5".toList] := by
    simp only [List.map_cons, List.map_nil, List.cons.injEq, and_true]
    exact ⟨line_setting _ (clean_number _), line_cut _ _, line_setting _ (by decide),
      line_literal (by decide), line_literal (by decide), line_literal (by decide),
      line_literal (by decide), line_literal (by decide), line_literal (by decide)⟩
  have last := print_texts device []
  rw [List.append_nil, print_nil, List.append_nil] at last
  have turned (later : List Line) : [setting "ieee80211n" (flag iface.hwModeParams.enable80211N),
      setting "ieee80211ac" (flag iface.hwModeParams.enable80211AC),
      setting "hw_mode" (hwMode iface.channelParams.band)] ++
        (htCapLines iface.channelParams ++ later) =
      [setting "ieee80211n" (flag iface.hwModeParams.enable80211N),
        setting "ieee80211ac" (flag iface.hwModeParams.enable80211AC)] ++
          (setting "hw_mode" (hwMode iface.channelParams.band) ::
            htCapLines iface.channelParams ++ later) := rfl
  rw [createHostapdConfig, if_pos fit, encrypted, known, lines]
  simp only [List.append_assoc]
  rw [print_texts names, print_append, print_channel, turned, print_texts modes, print_append,
    print_hwMode known, print_texts hidden, print_append, print_encryption encrypted, last]
  simp only [List.flatMap_cons, List.flatMap_nil, List.append_assoc, List.append_nil]

end Print

section Meaning

variable {limits : ParamSizeLimits} {iface : IfaceParams} {nw : NetworkParams}

def hexDigit (c : Char) : Option Nat := (List.range 16).find? (Nat.digitChar · = c)

def unhex : Text → Option (List UInt8)
  | [] => some []
  | [_] => none
  | high :: low :: rest =>
      (hexDigit high).bind fun h => (hexDigit low).bind fun l =>
        (unhex rest).map (UInt8.ofNat (16 * h + l) :: ·)

def EncryptionType.wpaVersion : EncryptionType → Option Text
  | .wpa => some "3".toList
  | .wpa2 => some "2".toList
  | .none | .other => Option.none

/-- The settings are those of the access point that was asked for. -/
structure Describes (iface : IfaceParams) (nw : NetworkParams) (settings : List (Setting Char)) :
    Prop where
  interface : value settings "interface".toList = some iface.ifaceName
  ssid : (value settings "ssid2".toList).bind unhex = some nw.ssid
  hidden : value settings "ignore_broadcast_ssid".toList = some (flag nw.isHidden)
  wpa : value settings "wpa".toList = nw.encryptionType.wpaVersion
  passphrase : value settings "wpa_passphrase".toList =
    if nw.encryptionType = .none then none else some nw.pskPassphrase
  channel : value settings "channel".toList =
    some (if iface.channelParams.enableAcs then "0".toList else number iface.channelParams.channel)
  excludeDfs : value settings "acs_exclude_dfs".toList =
    if iface.channelParams.enableAcs then some (flag iface.channelParams.acsShouldExcludeDfs)
    else none
  hwMode : value settings "hw_mode".toList = some (hwMode iface.channelParams.band)
  ieee80211n : value settings "ieee80211n".toList = some (flag iface.hwModeParams.enable80211N)
  ieee80211ac : value settings "ieee80211ac".toList = some (flag iface.hwModeParams.enable80211AC)
  maxNumSta : value settings "max_num_sta".toList = some (number nw.maxNumSta)
  macAddrAcl : value settings "macaddr_acl".toList = some nw.macAddrAcl

/-- What is not refused. -/
def Accepted (limits : ParamSizeLimits) (iface : IfaceParams) (nw : NetworkParams) : Prop :=
  SizesFit limits nw ∧ nw.encryptionType ≠ .other ∧ iface.channelParams.band ≠ .other

theorem unhex_hex (ssid : List UInt8) : unhex (ssid.flatMap hexByte) = some ssid := by
  have digit : ∀ n < 16, hexDigit (Nat.digitChar n) = some n := by decide
  induction ssid with
  | nil => rfl
  | cons b rest ih =>
      have small : b.toNat < 256 := b.toNat_lt
      have whole : 16 * (b.toNat / 16) + b.toNat % 16 = b.toNat := by omega
      rw [List.flatMap_cons, hexByte, List.cons_append, List.singleton_append, unhex,
        digit _ (by omega), digit _ (by omega), ih]
      simp only [Option.bind_some, Option.map_some, whole, UInt8.ofNat_toNat]

def keys (ls : List Line) : List Text := (ls.filterMap id).map Prod.fst

def channelKeys (enableAcs : Bool) : List String :=
  if enableAcs then ["channel", "acs_exclude_dfs"] else ["channel"]

def encryptionKeys : EncryptionType → List String
  | .wpa => ["wpa", "wpa_pairwise", "wpa_passphrase"]
  | .wpa2 => ["wpa", "rsn_pairwise", "wpa_passphrase"]
  | .none | .other => []

/-- The keys of a configuration, in their order, and two that may be missing. -/
def configKeys (enableAcs : Bool) (type : EncryptionType) : List Text :=
  (["interface", "driver", "ctrl_interface", "ssid2"] ++ channelKeys enableAcs ++
    ["ieee80211n", "ieee80211ac", "hw_mode"] ++ ["ht_capab", "vht_oper_chwidth"] ++
    ["ignore_broadcast_ssid", "wowlan_triggers"] ++ encryptionKeys type ++
    ["max_num_sta", "macaddr_acl", "accept_mac_file", "device_name", "manufacturer", "model_name",
      "model_number", "serial_number", "device_type"]).map String.toList

theorem toList_injective : Function.Injective String.toList := fun _ _ => String.toList_injective

theorem configKeys_nodup (enableAcs : Bool) (type : EncryptionType) :
    (configKeys enableAcs type).Nodup := by
  apply List.Nodup.map toList_injective
  have channel : (channelKeys enableAcs).Sublist ["channel", "acs_exclude_dfs"] := by
    cases enableAcs <;> simp [channelKeys]
  have encryption : (encryptionKeys type).Sublist
      ["wpa", "wpa_pairwise", "rsn_pairwise", "wpa_passphrase"] := by
    cases type <;> simp [encryptionKeys]
  refine .sublist ((((((List.Sublist.refl _).append channel).append (.refl _)).append
    (.refl _)).append (.refl _)).append encryption |>.append (.refl _)) ?_
  simp

theorem wpa_notMem (enableAcs : Bool) : "wpa".toList ∉ configKeys enableAcs .none := by
  rw [configKeys, List.mem_map_of_injective toList_injective]
  cases enableAcs <;> simp [channelKeys, encryptionKeys]

theorem passphrase_notMem (enableAcs : Bool) :
    "wpa_passphrase".toList ∉ configKeys enableAcs .none := by
  rw [configKeys, List.mem_map_of_injective toList_injective]
  cases enableAcs <;> simp [channelKeys, encryptionKeys]

theorem excludeDfs_notMem (type : EncryptionType) :
    "acs_exclude_dfs".toList ∉ configKeys false type := by
  rw [configKeys, List.mem_map_of_injective toList_injective]
  cases type <;> simp [channelKeys, encryptionKeys]

theorem configKeys_plain (enableAcs : Bool) (type : EncryptionType) :
    ∀ key ∈ configKeys enableAcs type, signs.Plain key := by
  simp only [configKeys, List.map_append, List.forall_mem_append]
  refine ⟨⟨⟨⟨⟨⟨by decide, ?_⟩, by decide⟩, by decide⟩, by decide⟩, ?_⟩, by decide⟩
  · cases enableAcs <;> decide
  · cases type <;> decide

theorem keys_append (first later : List Line) :
    keys (first ++ later) = keys first ++ keys later := by
  rw [keys, List.filterMap_append, List.map_append]
  rfl

theorem keys_lines : (keys (lines iface nw)).Sublist
    (configKeys iface.channelParams.enableAcs nw.encryptionType) := by
  have channel : keys (channelLines iface.channelParams) =
      (channelKeys iface.channelParams.enableAcs).map String.toList := by
    unfold channelLines channelKeys
    split <;> rfl
  have htCap : (keys (htCapLines iface.channelParams)).Sublist
      (["ht_capab", "vht_oper_chwidth"].map String.toList) := by
    unfold htCapLines
    split
    · exact List.Sublist.refl _
    · exact List.nil_sublist _
  have encryption : keys (encryptionLines nw) =
      (encryptionKeys nw.encryptionType).map String.toList := by
    unfold encryptionLines encryptionKeys
    cases nw.encryptionType <;> rfl
  simp only [lines, keys_append, channel, encryption, configKeys, List.map_append]
  exact ((((List.Sublist.refl _).append htCap).append (.refl _)).append (.refl _)).append (.refl _)

theorem value_lines {key : String} {text : Text} (found : setting key text ∈ lines iface nw) :
    value ((lines iface nw).filterMap id) key.toList = some text :=
  value_of_apart (keys_lines.nodup (configKeys_nodup _ _))
    (List.mem_filterMap.mpr ⟨_, found, rfl⟩)

/-- What is printed describes the access point, as long as it is read as it was meant. -/
theorem describes_lines (type : nw.encryptionType ≠ .other) :
    Describes iface nw ((lines iface nw).filterMap id) := by
  have ssid2 : value ((lines iface nw).filterMap id) "ssid2".toList =
      some (nw.ssid.flatMap hexByte) :=
    value_lines (by simp [lines])
  have absent {key : String}
      (missing : key.toList ∉ configKeys iface.channelParams.enableAcs nw.encryptionType) :
      value ((lines iface nw).filterMap id) key.toList = none :=
    value_eq_none fun member => missing (keys_lines.subset member)
  constructor
  case ssid => rw [ssid2, Option.bind_some, unhex_hex]
  case wpa =>
    cases known : nw.encryptionType with
    | none =>
        exact absent (known ▸ wpa_notMem _)
    | wpa => exact value_lines (by simp [lines, encryptionLines, known])
    | wpa2 => exact value_lines (by simp [lines, encryptionLines, known])
    | other => exact absurd known type
  case passphrase =>
    cases known : nw.encryptionType with
    | none =>
        exact absent (known ▸ passphrase_notMem _)
    | wpa => exact value_lines (by simp [lines, encryptionLines, known])
    | wpa2 => exact value_lines (by simp [lines, encryptionLines, known])
    | other => exact absurd known type
  case channel =>
    apply value_lines
    cases acs : iface.channelParams.enableAcs <;> simp [lines, channelLines, acs]
  case excludeDfs =>
    cases acs : iface.channelParams.enableAcs
    · exact absent (acs ▸ excludeDfs_notMem _)
    · exact value_lines (by simp [lines, channelLines, acs])
  all_goals exact value_lines (by simp [lines])

theorem plain_lines (s : Setting Char) (among : some s ∈ lines iface nw) : signs.Plain s.1 := by
  have member : s.1 ∈ keys (lines iface nw) :=
    List.mem_map.mpr ⟨s, List.mem_filterMap.mpr ⟨_, among, rfl⟩, rfl⟩
  exact configKeys_plain _ _ _ (keys_lines.subset member)

/-- The values that come from the framework as they are. -/
structure CleanParams (iface : IfaceParams) (nw : NetworkParams) : Prop where
  ifaceName : signs.Clean iface.ifaceName
  macAddrAcl : signs.Clean nw.macAddrAcl
  pskPassphrase : nw.encryptionType ≠ .none → signs.Clean nw.pskPassphrase

theorem clean_lines (clean : CleanParams iface nw) (s : Setting Char)
    (among : some s ∈ lines iface nw) : signs.Clean s.2 := by
  have all : ∀ l ∈ lines iface nw, ∀ s ∈ l, signs.Clean s.2 := by
    have one {key : String} {text : Text} (known : signs.Clean text) :
        ∀ s ∈ setting key text, signs.Clean s.2 := by
      rintro _ ⟨⟩
      exact known
    have fixed {key : String} {text : List Char} (known : signs.Clean text) :
        ∀ s ∈ setting key (String.ofList text).toList, signs.Clean s.2 :=
      one (clean_literal known)
    have blank : ∀ s ∈ (none : Line), signs.Clean s.2 := nofun
    simp only [lines, List.forall_mem_append, List.forall_mem_cons]
    refine ⟨⟨⟨⟨⟨⟨?_, ?_⟩, ?_⟩, ?_⟩, ?_⟩, ?_⟩, ?_⟩
    · exact ⟨one clean.ifaceName, fixed (by decide), fixed (by decide), one (clean_hex _),
        nofun⟩
    · unfold channelLines
      split
      · simp only [List.forall_mem_cons]
        exact ⟨fixed (by decide), one (clean_flag _), nofun⟩
      · simp only [List.forall_mem_cons]
        exact ⟨one (clean_number _), nofun⟩
    · refine ⟨one (clean_flag _), one (clean_flag _), one ?_, nofun⟩
      cases iface.channelParams.band <;> exact clean_literal (by decide)
    · unfold htCapLines
      split
      · simp only [List.forall_mem_cons]
        exact ⟨fixed (by decide), fixed (by decide), nofun⟩
      · exact List.forall_mem_singleton.mpr blank
    · exact ⟨one (clean_flag _), fixed (by decide), nofun⟩
    · unfold encryptionLines
      cases known : nw.encryptionType with
      | none => exact List.forall_mem_singleton.mpr blank
      | other => exact List.forall_mem_singleton.mpr blank
      | wpa =>
          have passphrase := clean.pskPassphrase (by rw [known]; decide)
          simp only [List.forall_mem_cons]
          exact ⟨fixed (by decide), fixed (by decide), one passphrase, nofun⟩
      | wpa2 =>
          have passphrase := clean.pskPassphrase (by rw [known]; decide)
          simp only [List.forall_mem_cons]
          exact ⟨fixed (by decide), fixed (by decide), one passphrase, nofun⟩
    · exact ⟨one (clean_number _), one clean.macAddrAcl, fixed (by decide), fixed (by decide),
        fixed (by decide), fixed (by decide), fixed (by decide), fixed (by decide),
        fixed (by decide), nofun⟩
  exact all _ among s rfl

/-- The configuration is refused, or it is printed line by line. -/
theorem createHostapdConfig_cases (limits : ParamSizeLimits) (iface : IfaceParams)
    (nw : NetworkParams) :
    createHostapdConfig limits iface nw = [] ∧ ¬ Accepted limits iface nw ∨
      createHostapdConfig limits iface nw = signs.print (lines iface nw) ∧
        Accepted limits iface nw := by
  by_cases fit : SizesFit limits nw
  case neg => exact .inl ⟨if_neg fit, fun accepted => fit accepted.1⟩
  cases type : encryptionConfig nw with
  | none =>
      have unknown : nw.encryptionType = .other := by
        unfold encryptionConfig at type
        cases known : nw.encryptionType <;> rw [known] at type <;> cases type
      refine .inl ⟨?_, fun accepted => accepted.2.1 unknown⟩
      rw [createHostapdConfig, if_pos fit, type]
  | some encryption =>
      cases band : hwModeConfig iface.channelParams with
      | none =>
          have unknown : iface.channelParams.band = .other := by
            unfold hwModeConfig at band
            cases known : iface.channelParams.band <;> rw [known] at band <;> cases band
          refine .inl ⟨?_, fun accepted => accepted.2.2 unknown⟩
          rw [createHostapdConfig, if_pos fit, type, band]
      | some mode =>
          refine .inr ⟨print_lines type band fit, fit, ?_, ?_⟩
          · intro unknown
            rw [encryptionConfig, unknown] at type
            cases type
          · intro unknown
            rw [hwModeConfig, unknown] at band
            cases band

/-- What hostapd reads is the access point that was asked for exactly if it was accepted and no
value that is copied brings the end of a line or of a string with it. -/
theorem describes_iff : Describes iface nw (signs.read (createHostapdConfig limits iface nw)) ↔
    Accepted limits iface nw ∧ CleanParams iface nw := by
  rcases createHostapdConfig_cases limits iface nw with ⟨empty, refused⟩ |
    ⟨printed, accepted⟩
  · constructor
    · intro described
      have interface := described.interface
      rw [empty] at interface
      cases interface
    · exact fun both => absurd both.1 refused
  · rw [printed]
    constructor
    · intro described
      have clean {key : String} {text : Text}
          (found : value (signs.read (signs.print (lines iface nw))) key.toList = some text) :
          signs.Clean text := by
        obtain ⟨setting, among, same⟩ := mem_of_value found
        have inside := Signs.mem_of_mem_read among
        rw [same] at inside
        exact ⟨fun member => (inside _ member).1 rfl,
          fun member => Signs.stop_notMem_print plain_lines (inside _ member).2⟩
      refine ⟨accepted, clean described.interface, clean described.macAddrAcl, fun encrypted => ?_⟩
      have passphrase := described.passphrase
      rw [if_neg encrypted] at passphrase
      exact clean passphrase
    · rintro ⟨_, clean⟩
      rw [Signs.read_print plain_lines (clean_lines clean)]
      exact describes_lines accepted.2.1

end Meaning

end Connectivity.Hostapd
