import Mathlib.Logic.Function.Basic

set_option autoImplicit false

/- The objects that the supplicant hands out for interfaces and networks, and their callbacks. -/
namespace Connectivity.Supplicant

abbrev Name := List Char

/-- `std::to_string`. -/
def decimal (n : Int) : List Char :=
  if n < 0 then '-' :: Nat.toDigits 10 n.natAbs else Nat.toDigits 10 n.natAbs

def getNetworkObjectMapKey (ifname : Name) (network_id : Int) : Name :=
  ifname ++ '_' :: decimal network_id

section Keys

theorem decimal_injective : Function.Injective decimal := by
  intro m n same
  have digits : ∀ {m n : Nat}, Nat.toDigits 10 m = Nat.toDigits 10 n → m = n := by
    intro m n same
    rw [← @Nat.ofDigitChars_ten_toDigits m, same, Nat.ofDigitChars_ten_toDigits]
  have sign : ∀ {m : Nat} {l : List Char}, Nat.toDigits 10 m ≠ '-' :: l := by
    intro m l same
    have digit := Nat.isDigit_of_mem_toDigits (by decide) (by decide)
      (same ▸ List.mem_cons_self : '-' ∈ Nat.toDigits 10 m)
    cases digit
  unfold decimal at same
  split at same <;> split at same
  · have := digits (List.cons.inj same).2
    omega
  · exact absurd same.symm sign
  · exact absurd same sign
  · have := digits same
    omega

theorem underscore_notMem_decimal (n : Int) : '_' ∉ decimal n := by
  unfold decimal
  split
  · simp [Nat.underscore_not_in_toDigits]
  · exact Nat.underscore_not_in_toDigits

/-- What stands behind the last of the separators is determined, and so is what stands before. -/
theorem append_cons_inj {α : Type} {a : α} {first last first' last' : List α} (clean : a ∉ last)
    (clean' : a ∉ last') (same : first ++ a :: last = first' ++ a :: last') :
    first = first' ∧ last = last' := by
  induction first generalizing first' with
  | nil =>
      cases first' with
      | nil => exact ⟨rfl, (List.cons.inj same).2⟩
      | cons b rest =>
          have tail := (List.cons.inj same).2
          exact absurd (tail ▸ List.mem_append_right rest List.mem_cons_self) clean
  | cons b rest ih =>
      cases first' with
      | nil =>
          have tail := (List.cons.inj same).2
          exact absurd (tail ▸ List.mem_append_right rest List.mem_cons_self) clean'
      | cons c others =>
          obtain ⟨head, tail⟩ := List.cons.inj same
          obtain ⟨front, behind⟩ := ih tail
          exact ⟨by rw [head, front], behind⟩

theorem getNetworkObjectMapKey_injective :
    Function.Injective fun network : Name × Int => getNetworkObjectMapKey network.1 network.2 := by
  rintro ⟨ifname, id⟩ ⟨ifname', id'⟩ same
  obtain ⟨name, digits⟩ :=
    append_cons_inj (underscore_notMem_decimal id) (underscore_notMem_decimal id') same
  exact Prod.ext name (decimal_injective digits)

end Keys

abbrev Callback := Nat

/-- A map with the objects and one with the callbacks, both by the same keys. -/
structure Maps where
  objects : Name → Option Nat
  callbacks : Name → Option (List Callback)

namespace Maps

def empty : Maps := ⟨fun _ => none, fun _ => none⟩

/-- `addHidlObjectToMap`, and a new list of callbacks. -/
def register (maps : Maps) (key : Name) (object : Nat) : Option Maps :=
  if (maps.objects key).isSome then none
  else
    some ⟨Function.update maps.objects key (some object),
      Function.update maps.callbacks key (some [])⟩

/-- `removeHidlObjectFromMap`, with the object that is to be invalidated, and
`removeAll*CallbackHidlObjectsFromMap`, with whether there were any to remove. -/
def unregister (maps : Maps) (key : Name) : Option (Maps × Nat × Bool) :=
  (maps.objects key).map fun object =>
    match maps.callbacks key with
    | none => (⟨Function.update maps.objects key none, maps.callbacks⟩, object, false)
    | some _ =>
        (⟨Function.update maps.objects key none, Function.update maps.callbacks key none⟩, object,
          true)

def addCallback (maps : Maps) (key : Name) (callback : Callback) : Option Maps :=
  (maps.callbacks key).map fun list =>
    { maps with callbacks := Function.update maps.callbacks key (some (list ++ [callback])) }

end Maps

/-- What the callbacks are told. -/
inductive Notice
  | onNetworkAdded (id : Int) | onNetworkRemoved (id : Int)
  | onEssDisassocImminentNotice (bssid : Vector UInt8 6) (pmf_enabled reauth_delay : Nat)
      (url : List Char)
deriving DecidableEq, Repr

/-- `isP2pIface` of a `wpa_supplicant`, its name and its `bssid`. -/
structure WpaSupplicant where
  isP2pIface : Bool
  ifname : Name
  bssid : Vector UInt8 6
deriving DecidableEq, Repr

/-- The maps of the P2P interfaces, and those of the others; the objects are numbered as they are
made, and `told` is what their callbacks have been told. -/
structure HidlManager where
  ifaces : Bool → Maps
  networks : Bool → Maps
  made : Nat
  isValid : Nat → Bool
  told : List (Callback × Notice)

inductive Call
  | registerInterface (wpa_s : Option WpaSupplicant)
  | unregisterInterface (wpa_s : Option WpaSupplicant)
  | registerNetwork (wpa_s : Option WpaSupplicant) (ssid : Option Int)
  | unregisterNetwork (wpa_s : Option WpaSupplicant) (ssid : Option Int)
  | getIfaceHidlObjectByIfname (p2p : Bool) (ifname : Name)
  | getNetworkHidlObjectByIfnameAndNetworkId (p2p : Bool) (ifname : Name) (network_id : Int)
  | addIfaceCallbackHidlObject (p2p : Bool) (ifname : Name) (callback : Callback)
  | addNetworkCallbackHidlObject (p2p : Bool) (ifname : Name) (network_id : Int)
      (callback : Callback)
  | notifyWNMRxEssDisassocImminentNotice (wpa_s : Option WpaSupplicant)
      (pmf_enabled reauth_delay : Nat) (url : Option (List Char))
deriving DecidableEq, Repr

/-- What a call returns: zero, with the object if it is to find one, or one. -/
inductive Answer
  | failure | success (object : Option Nat)
deriving DecidableEq, Repr

namespace HidlManager

def empty : HidlManager := ⟨fun _ => .empty, fun _ => .empty, 0, fun _ => false, []⟩

variable (s : HidlManager)

/-- An object that is not taken is gone at once. -/
def registerInterface (wpa_s : WpaSupplicant) : HidlManager × Answer :=
  match (s.ifaces wpa_s.isP2pIface).register wpa_s.ifname s.made with
  | none => (s, .failure)
  | some maps =>
      ({ s with
          ifaces := Function.update s.ifaces wpa_s.isP2pIface maps
          made := s.made + 1
          isValid := Function.update s.isValid s.made true }, .success none)

def unregisterInterface (wpa_s : WpaSupplicant) : HidlManager × Answer :=
  match (s.ifaces wpa_s.isP2pIface).unregister wpa_s.ifname with
  | none => (s, .failure)
  | some (maps, object, removed) =>
      ({ s with
          ifaces := Function.update s.ifaces wpa_s.isP2pIface maps
          isValid := Function.update s.isValid object false },
        if removed then .success none else .failure)

def callWithEachIfaceCallback (p2p : Bool) (ifname : Name) (notice : Notice) : HidlManager :=
  if ifname = [] then s
  else
    match (s.ifaces p2p).callbacks ifname with
    | none => s
    | some list => { s with told := s.told ++ list.map fun callback => (callback, notice) }

def registerNetwork (wpa_s : WpaSupplicant) (id : Int) : HidlManager × Answer :=
  match (s.networks wpa_s.isP2pIface).register (getNetworkObjectMapKey wpa_s.ifname id) s.made with
  | none => (s, .failure)
  | some maps =>
      let s :=
        { s with
          networks := Function.update s.networks wpa_s.isP2pIface maps
          made := s.made + 1
          isValid := Function.update s.isValid s.made true }
      (if wpa_s.isP2pIface then s.callWithEachIfaceCallback true wpa_s.ifname (.onNetworkAdded id)
        else s, .success none)

def unregisterNetwork (wpa_s : WpaSupplicant) (id : Int) : HidlManager × Answer :=
  match (s.networks wpa_s.isP2pIface).unregister (getNetworkObjectMapKey wpa_s.ifname id) with
  | none => (s, .failure)
  | some (maps, object, removed) =>
      let s :=
        { s with
          networks := Function.update s.networks wpa_s.isP2pIface maps
          isValid := Function.update s.isValid object false }
      if removed = false then (s, .failure)
      else
        (if wpa_s.isP2pIface then
            s.callWithEachIfaceCallback true wpa_s.ifname (.onNetworkRemoved id)
          else s, .success none)

def getIfaceHidlObjectByIfname (p2p : Bool) (ifname : Name) : Answer :=
  if ifname = [] then .failure
  else
    match (s.ifaces p2p).objects ifname with
    | none => .failure
    | some object => .success (some object)

def getNetworkHidlObjectByIfnameAndNetworkId (p2p : Bool) (ifname : Name) (network_id : Int) :
    Answer :=
  if ifname = [] ∨ network_id < 0 then .failure
  else
    match (s.networks p2p).objects (getNetworkObjectMapKey ifname network_id) with
    | none => .failure
    | some object => .success (some object)

def addIfaceCallbackHidlObject (p2p : Bool) (ifname : Name) (callback : Callback) :
    HidlManager × Answer :=
  if ifname = [] then (s, .failure)
  else
    match (s.ifaces p2p).addCallback ifname callback with
    | none => (s, .failure)
    | some maps => ({ s with ifaces := Function.update s.ifaces p2p maps }, .success none)

def addNetworkCallbackHidlObject (p2p : Bool) (ifname : Name) (network_id : Int)
    (callback : Callback) : HidlManager × Answer :=
  if ifname = [] ∨ network_id < 0 then (s, .failure)
  else
    match (s.networks p2p).addCallback (getNetworkObjectMapKey ifname network_id) callback with
    | none => (s, .failure)
    | some maps => ({ s with networks := Function.update s.networks p2p maps }, .success none)

/-- It goes to the callbacks of the other interfaces, whatever `wpa_s` is. -/
def notifyWNMRxEssDisassocImminentNotice (wpa_s : WpaSupplicant) (pmf_enabled reauth_delay : Nat)
    (url : List Char) : HidlManager :=
  if ((s.ifaces false).objects wpa_s.ifname).isNone then s
  else
    s.callWithEachIfaceCallback false wpa_s.ifname
      (.onEssDisassocImminentNotice wpa_s.bssid pmf_enabled reauth_delay url)

/-- Without a `wpa_s`, a network or a URL nothing is done. -/
def call : Call → HidlManager × Answer
  | .registerInterface (some wpa_s) => s.registerInterface wpa_s
  | .unregisterInterface (some wpa_s) => s.unregisterInterface wpa_s
  | .registerNetwork (some wpa_s) (some id) => s.registerNetwork wpa_s id
  | .unregisterNetwork (some wpa_s) (some id) => s.unregisterNetwork wpa_s id
  | .registerInterface none | .unregisterInterface none | .registerNetwork _ _
  | .unregisterNetwork _ _ => (s, .failure)
  | .getIfaceHidlObjectByIfname p2p ifname => (s, s.getIfaceHidlObjectByIfname p2p ifname)
  | .getNetworkHidlObjectByIfnameAndNetworkId p2p ifname network_id =>
      (s, s.getNetworkHidlObjectByIfnameAndNetworkId p2p ifname network_id)
  | .addIfaceCallbackHidlObject p2p ifname callback =>
      s.addIfaceCallbackHidlObject p2p ifname callback
  | .addNetworkCallbackHidlObject p2p ifname network_id callback =>
      s.addNetworkCallbackHidlObject p2p ifname network_id callback
  | .notifyWNMRxEssDisassocImminentNotice (some wpa_s) pmf_enabled reauth_delay (some url) =>
      (s.notifyWNMRxEssDisassocImminentNotice wpa_s pmf_enabled reauth_delay url, .success none)
  | .notifyWNMRxEssDisassocImminentNotice _ _ _ _ => (s, .success none)

end HidlManager

end Connectivity.Supplicant
