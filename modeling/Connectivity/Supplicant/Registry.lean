import Connectivity.Supplicant.HidlManager
import Connectivity.Table.Placed
import Mathlib.Tactic.Convert

set_option autoImplicit false

/- What the maps of the manager are for, and that they do it. -/
namespace Connectivity.Supplicant

open Table

/-- What the maps are for: an interface, or a network of one. -/
inductive Thing
  | iface (p2p : Bool) (ifname : Name)
  | network (p2p : Bool) (ifname : Name) (id : Int)
deriving DecidableEq, Repr

structure Entry where
  object : Nat
  callbacks : List Callback
deriving DecidableEq, Repr

/-- One map of what is registered. -/
structure Registry where
  held : Thing → Option Entry
  made : Nat
  isValid : Nat → Bool
  told : List (Callback × Notice)

namespace Registry

def empty : Registry := ⟨fun _ => none, 0, fun _ => false, []⟩

variable (r : Registry)

def register (thing : Thing) : Option Registry :=
  if (r.held thing).isSome then none
  else
    some
      { r with
        held := Function.update r.held thing (some ⟨r.made, []⟩)
        made := r.made + 1
        isValid := Function.update r.isValid r.made true }

def unregister (thing : Thing) : Option Registry :=
  (r.held thing).map fun entry =>
    { r with
      held := Function.update r.held thing none
      isValid := Function.update r.isValid entry.object false }

def tell (p2p : Bool) (ifname : Name) (notice : Notice) : Registry :=
  if ifname = [] then r
  else
    match r.held (.iface p2p ifname) with
    | none => r
    | some entry => { r with told := r.told ++ entry.callbacks.map fun c => (c, notice) }

def addCallback (thing : Thing) (callback : Callback) : Registry × Answer :=
  match r.held thing with
  | none => (r, .failure)
  | some entry =>
      ({ r with
          held := Function.update r.held thing
            (some { entry with callbacks := entry.callbacks ++ [callback] }) }, .success none)

def find (thing : Thing) : Answer :=
  match r.held thing with
  | none => .failure
  | some entry => .success (some entry.object)

@[simp] def call : Call → Registry × Answer
  | .registerInterface (some wpa_s) =>
      match r.register (.iface wpa_s.isP2pIface wpa_s.ifname) with
      | none => (r, .failure)
      | some r => (r, .success none)
  | .unregisterInterface (some wpa_s) =>
      match r.unregister (.iface wpa_s.isP2pIface wpa_s.ifname) with
      | none => (r, .failure)
      | some r => (r, .success none)
  | .registerNetwork (some wpa_s) (some id) =>
      match r.register (.network wpa_s.isP2pIface wpa_s.ifname id) with
      | none => (r, .failure)
      | some r =>
          (if wpa_s.isP2pIface then r.tell true wpa_s.ifname (.onNetworkAdded id) else r,
            .success none)
  | .unregisterNetwork (some wpa_s) (some id) =>
      match r.unregister (.network wpa_s.isP2pIface wpa_s.ifname id) with
      | none => (r, .failure)
      | some r =>
          (if wpa_s.isP2pIface then r.tell true wpa_s.ifname (.onNetworkRemoved id) else r,
            .success none)
  | .registerInterface none | .unregisterInterface none | .registerNetwork _ _
  | .unregisterNetwork _ _ => (r, .failure)
  | .getIfaceHidlObjectByIfname p2p ifname =>
      (r, if ifname = [] then .failure else r.find (.iface p2p ifname))
  | .getNetworkHidlObjectByIfnameAndNetworkId p2p ifname network_id =>
      (r, if ifname = [] ∨ network_id < 0 then .failure
        else r.find (.network p2p ifname network_id))
  | .addIfaceCallbackHidlObject p2p ifname callback =>
      if ifname = [] then (r, .failure) else r.addCallback (.iface p2p ifname) callback
  | .addNetworkCallbackHidlObject p2p ifname network_id callback =>
      if ifname = [] ∨ network_id < 0 then (r, .failure)
      else r.addCallback (.network p2p ifname network_id) callback
  | .notifyWNMRxEssDisassocImminentNotice (some wpa_s) pmf_enabled reauth_delay (some url) =>
      (r.tell false wpa_s.ifname
          (.onEssDisassocImminentNotice wpa_s.bssid pmf_enabled reauth_delay url),
        .success none)
  | .notifyWNMRxEssDisassocImminentNotice _ _ _ _ => (r, .success none)

end Registry

section Holding

variable {ι : Type} [DecidableEq ι] {maps : Maps} {key : ι → Name} {held : ι → Option Entry}

/-- Two maps over keys for one over what the keys are of. -/
structure Maps.Holds (maps : Maps) (key : ι → Name) (held : ι → Option Entry) : Prop where
  objects : ∀ i, maps.objects (key i) = (held i).map Entry.object
  callbacks : ∀ i, maps.callbacks (key i) = (held i).map Entry.callbacks

/-- Both maps are written where the key of an index is. -/
theorem Maps.Holds.update (holds : maps.Holds key held) (injective : Function.Injective key) (i : ι)
    (entry : Option Entry) :
    Maps.Holds ⟨Function.update maps.objects (key i) (entry.map Entry.object),
      Function.update maps.callbacks (key i) (entry.map Entry.callbacks)⟩ key
      (Function.update held i entry) := by
  constructor
  · intro j
    refine (Function.update_apply_of_injective _ injective i _ j).trans ?_
    by_cases same : j = i
    · simp [same]
    · simp [same, holds.objects]
  · intro j
    refine (Function.update_apply_of_injective _ injective i _ j).trans ?_
    by_cases same : j = i
    · simp [same]
    · simp [same, holds.callbacks]

theorem Maps.Holds.register (holds : maps.Holds key held) (injective : Function.Injective key)
    (i : ι) (object : Nat) :
    (held i = none ∧ ∃ next, maps.register (key i) object = some next ∧
        next.Holds key (Function.update held i (some ⟨object, []⟩))) ∨
      ((held i).isSome = true ∧ maps.register (key i) object = none) := by
  have objects := holds.objects i
  cases here : held i with
  | none =>
      refine Or.inl ⟨rfl, _, ?_, holds.update injective i (some ⟨object, []⟩)⟩
      simp [Maps.register, objects, here]
  | some entry =>
      refine Or.inr ⟨rfl, ?_⟩
      simp [Maps.register, objects, here]

theorem Maps.Holds.unregister (holds : maps.Holds key held) (injective : Function.Injective key)
    (i : ι) :
    (held i = none ∧ maps.unregister (key i) = none) ∨
      ∃ entry next, held i = some entry ∧
        maps.unregister (key i) = some (next, entry.object, true) ∧
        next.Holds key (Function.update held i none) := by
  have objects := holds.objects i
  have callbacks := holds.callbacks i
  cases here : held i with
  | none => exact Or.inl ⟨rfl, by simp [Maps.unregister, objects, here]⟩
  | some entry =>
      refine Or.inr ⟨entry, _, rfl, ?_, holds.update injective i none⟩
      simp [Maps.unregister, objects, callbacks, here]

theorem Maps.Holds.addCallback (holds : maps.Holds key held) (injective : Function.Injective key)
    (i : ι) (callback : Callback) :
    (held i = none ∧ maps.addCallback (key i) callback = none) ∨
      ∃ entry next, held i = some entry ∧ maps.addCallback (key i) callback = some next ∧
        next.Holds key (Function.update held i
          (some { entry with callbacks := entry.callbacks ++ [callback] })) := by
  have objects := holds.objects i
  have callbacks := holds.callbacks i
  cases here : held i with
  | none => exact Or.inl ⟨rfl, by simp [Maps.addCallback, callbacks, here]⟩
  | some entry =>
      have same : Function.update maps.objects (key i) (some entry.object) = maps.objects := by
        rw [here] at objects
        exact (congrArg _ objects.symm).trans (Function.update_eq_self _ _)
      refine Or.inr ⟨entry, _, rfl, ?_, holds.update injective i
        (some { entry with callbacks := entry.callbacks ++ [callback] })⟩
      simp [Maps.addCallback, callbacks, here, same]

end Holding

/-- The manager's maps are what the registry holds, and the objects and what has been told are the
same. -/
structure Refines (s : HidlManager) (r : Registry) : Prop where
  ifaces : ∀ p2p, (s.ifaces p2p).Holds id fun ifname => r.held (.iface p2p ifname)
  networks : ∀ p2p, (s.networks p2p).Holds
    (fun network : Name × Int => getNetworkObjectMapKey network.1 network.2)
    fun network => r.held (.network p2p network.1 network.2)
  made : s.made = r.made
  isValid : s.isValid = r.isValid
  told : s.told = r.told

section Refinement

variable {s : HidlManager} {r : Registry}

theorem refines_empty : Refines .empty .empty :=
  ⟨fun _ => ⟨fun _ => rfl, fun _ => rfl⟩, fun _ => ⟨fun _ => rfl, fun _ => rfl⟩, rfl, rfl, rfl⟩

/-- An entry of an interface is exchanged. -/
theorem Refines.iface (refines : Refines s r) {p2p : Bool} {ifname : Name} {maps : Maps}
    {entry : Option Entry} (made : Nat) (isValid : Nat → Bool)
    (holds : maps.Holds id
      (Function.update (fun ifname => r.held (.iface p2p ifname)) ifname entry)) :
    Refines ⟨Function.update s.ifaces p2p maps, s.networks, made, isValid, s.told⟩
      ⟨Function.update r.held (.iface p2p ifname) entry, made, isValid, r.told⟩ := by
  refine ⟨fun other => ?_, fun other => ?_, rfl, rfl, refines.told⟩
  · by_cases same : other = p2p
    · subst same
      have injective : Function.Injective (Thing.iface other) := fun _ _ => (Thing.iface.inj · |>.2)
      show (Function.update s.ifaces other maps other).Holds id fun name =>
        Function.update r.held (.iface other ifname) entry (.iface other name)
      rw [Function.update_self]
      simpa only [Function.update_apply_of_injective _ injective] using holds
    · show (Function.update s.ifaces p2p maps other).Holds id fun name =>
        Function.update r.held (.iface p2p ifname) entry (.iface other name)
      have apart : ∀ name, Thing.iface other name ≠ .iface p2p ifname := by simp [same]
      simpa only [Function.update_of_ne same, Function.update_of_ne (apart _)]
        using refines.ifaces other
  · show Maps.Holds _ _ fun network : Name × Int =>
      Function.update r.held (.iface p2p ifname) entry (.network other network.1 network.2)
    have apart : ∀ name id, Thing.network other name id ≠ .iface p2p ifname := by simp
    simpa only [Function.update_of_ne (apart _ _)] using refines.networks other

theorem Refines.network (refines : Refines s r) {p2p : Bool} {ifname : Name} {id : Int}
    {maps : Maps} {entry : Option Entry} (made : Nat) (isValid : Nat → Bool)
    (holds : maps.Holds (fun network : Name × Int => getNetworkObjectMapKey network.1 network.2)
      (Function.update (fun network => r.held (.network p2p network.1 network.2)) (ifname, id)
        entry)) :
    Refines ⟨s.ifaces, Function.update s.networks p2p maps, made, isValid, s.told⟩
      ⟨Function.update r.held (.network p2p ifname id) entry, made, isValid, r.told⟩ := by
  refine ⟨fun other => ?_, fun other => ?_, rfl, rfl, refines.told⟩
  · show Maps.Holds _ _ fun name =>
      Function.update r.held (.network p2p ifname id) entry (.iface other name)
    have apart : ∀ name, Thing.iface other name ≠ .network p2p ifname id := by simp
    simpa only [Function.update_of_ne (apart _)] using refines.ifaces other
  · by_cases same : other = p2p
    · subst same
      have injective : Function.Injective fun network : Name × Int =>
          Thing.network other network.1 network.2 := by
        rintro ⟨name, id⟩ ⟨name', id'⟩ same
        simpa using same
      show (Function.update s.networks other maps other).Holds _ fun network : Name × Int =>
        Function.update r.held (.network other ifname id) entry (.network other network.1 network.2)
      rw [Function.update_self]
      convert holds using 2
      exact Function.update_apply_of_injective r.held injective (ifname, id) entry _
    · show (Function.update s.networks p2p maps other).Holds _ fun network : Name × Int =>
        Function.update r.held (.network p2p ifname id) entry (.network other network.1 network.2)
      have apart : ∀ name number, Thing.network other name number ≠ .network p2p ifname id := by
        simp [same]
      simpa only [Function.update_of_ne same, Function.update_of_ne (apart _ _)]
        using refines.networks other

theorem Refines.tell (refines : Refines s r) (p2p : Bool) (ifname : Name) (notice : Notice) :
    Refines (s.callWithEachIfaceCallback p2p ifname notice) (r.tell p2p ifname notice) := by
  unfold HidlManager.callWithEachIfaceCallback Registry.tell
  by_cases unnamed : ifname = []
  · rw [if_pos unnamed, if_pos unnamed]
    exact refines
  · have callbacks : (s.ifaces p2p).callbacks ifname =
        (r.held (.iface p2p ifname)).map Entry.callbacks := (refines.ifaces p2p).callbacks ifname
    rw [if_neg unnamed, if_neg unnamed, callbacks]
    cases r.held (.iface p2p ifname) with
    | none => exact refines
    | some entry =>
        refine ⟨refines.ifaces, refines.networks, refines.made, refines.isValid, ?_⟩
        show s.told ++ _ = r.told ++ _
        rw [refines.told]

/-- The two do the same in a call, and give the same answer. -/
def Agree (p : HidlManager × Answer) (q : Registry × Answer) : Prop :=
  Refines p.1 q.1 ∧ p.2 = q.2

theorem agree_registerInterface (refines : Refines s r) (wpa_s : WpaSupplicant) :
    Agree (s.registerInterface wpa_s) (r.call (.registerInterface (some wpa_s))) := by
  simp only [HidlManager.registerInterface, Registry.call, Registry.register]
  rcases (refines.ifaces wpa_s.isP2pIface).register Function.injective_id wpa_s.ifname s.made with
    ⟨free, next, taken, holds⟩ | ⟨held, refused⟩
  · simp only [id_eq] at taken
    rw [taken, free, ← refines.made, ← refines.isValid]
    exact ⟨refines.iface _ _ holds, rfl⟩
  · simp only [id_eq] at refused
    rw [refused, if_pos held]
    exact ⟨refines, rfl⟩

theorem agree_unregisterInterface (refines : Refines s r) (wpa_s : WpaSupplicant) :
    Agree (s.unregisterInterface wpa_s) (r.call (.unregisterInterface (some wpa_s))) := by
  simp only [HidlManager.unregisterInterface, Registry.call, Registry.unregister]
  rcases (refines.ifaces wpa_s.isP2pIface).unregister Function.injective_id wpa_s.ifname with
    ⟨absent, refused⟩ | ⟨entry, next, here, taken, holds⟩
  · simp only [id_eq] at refused
    rw [refused, absent]
    exact ⟨refines, rfl⟩
  · simp only [id_eq] at taken
    rw [taken, here, ← refines.made, ← refines.isValid]
    exact ⟨refines.iface _ _ holds, rfl⟩

/-- The callbacks of a P2P interface are told of its networks. -/
theorem Refines.told_network (refines : Refines s r) (wpa_s : WpaSupplicant) (notice : Notice) :
    Refines (if wpa_s.isP2pIface then s.callWithEachIfaceCallback true wpa_s.ifname notice else s)
      (if wpa_s.isP2pIface then r.tell true wpa_s.ifname notice else r) := by
  split
  · exact refines.tell true wpa_s.ifname notice
  · exact refines

theorem agree_registerNetwork (refines : Refines s r) (wpa_s : WpaSupplicant) (id : Int) :
    Agree (s.registerNetwork wpa_s id) (r.call (.registerNetwork (some wpa_s) (some id))) := by
  simp only [HidlManager.registerNetwork, Registry.call, Registry.register]
  rcases (refines.networks wpa_s.isP2pIface).register getNetworkObjectMapKey_injective
    (wpa_s.ifname, id) s.made with ⟨free, next, taken, holds⟩ | ⟨held, refused⟩
  · simp only at taken free
    rw [taken, free, ← refines.made, ← refines.isValid]
    exact ⟨(refines.network _ _ holds).told_network wpa_s (.onNetworkAdded id), rfl⟩
  · simp only at refused held
    rw [refused, if_pos held]
    exact ⟨refines, rfl⟩

theorem agree_unregisterNetwork (refines : Refines s r) (wpa_s : WpaSupplicant) (id : Int) :
    Agree (s.unregisterNetwork wpa_s id) (r.call (.unregisterNetwork (some wpa_s) (some id))) := by
  simp only [HidlManager.unregisterNetwork, Registry.call, Registry.unregister]
  rcases (refines.networks wpa_s.isP2pIface).unregister getNetworkObjectMapKey_injective
    (wpa_s.ifname, id) with ⟨absent, refused⟩ | ⟨entry, next, here, taken, holds⟩
  · simp only at refused absent
    rw [refused, absent]
    exact ⟨refines, rfl⟩
  · simp only at taken here
    rw [taken, here, ← refines.made, ← refines.isValid]
    exact ⟨(refines.network _ _ holds).told_network wpa_s (.onNetworkRemoved id), rfl⟩

theorem getIface_find (refines : Refines s r) (p2p : Bool) (ifname : Name) :
    s.getIfaceHidlObjectByIfname p2p ifname =
      if ifname = [] then .failure else r.find (.iface p2p ifname) := by
  have objects : (s.ifaces p2p).objects ifname = (r.held (.iface p2p ifname)).map Entry.object :=
    (refines.ifaces p2p).objects ifname
  rw [HidlManager.getIfaceHidlObjectByIfname, objects, Registry.find]
  cases r.held (.iface p2p ifname) <;> rfl

theorem getNetwork_find (refines : Refines s r) (p2p : Bool) (ifname : Name) (network_id : Int) :
    s.getNetworkHidlObjectByIfnameAndNetworkId p2p ifname network_id =
      if ifname = [] ∨ network_id < 0 then .failure
      else r.find (.network p2p ifname network_id) := by
  have objects : (s.networks p2p).objects (getNetworkObjectMapKey ifname network_id) =
      (r.held (.network p2p ifname network_id)).map Entry.object :=
    (refines.networks p2p).objects (ifname, network_id)
  rw [HidlManager.getNetworkHidlObjectByIfnameAndNetworkId, objects, Registry.find]
  cases r.held (.network p2p ifname network_id) <;> rfl

theorem agree_addIface (refines : Refines s r) (p2p : Bool) (ifname : Name) (callback : Callback) :
    Agree (s.addIfaceCallbackHidlObject p2p ifname callback)
      (r.call (.addIfaceCallbackHidlObject p2p ifname callback)) := by
  simp only [HidlManager.addIfaceCallbackHidlObject, Registry.call, Registry.addCallback]
  by_cases unnamed : ifname = []
  · rw [if_pos unnamed, if_pos unnamed]
    exact ⟨refines, rfl⟩
  · rw [if_neg unnamed, if_neg unnamed]
    rcases (refines.ifaces p2p).addCallback Function.injective_id ifname callback with
      ⟨absent, refused⟩ | ⟨entry, next, here, taken, holds⟩
    · simp only [id_eq] at refused
      rw [refused, absent]
      exact ⟨refines, rfl⟩
    · simp only [id_eq] at taken
      have kept := refines.iface s.made s.isValid holds
      rw [taken, here]
      refine ⟨?_, rfl⟩
      rw [refines.made, refines.isValid] at kept
      simpa only [refines.made, refines.isValid] using kept

theorem agree_addNetwork (refines : Refines s r) (p2p : Bool) (ifname : Name) (network_id : Int)
    (callback : Callback) :
    Agree (s.addNetworkCallbackHidlObject p2p ifname network_id callback)
      (r.call (.addNetworkCallbackHidlObject p2p ifname network_id callback)) := by
  simp only [HidlManager.addNetworkCallbackHidlObject, Registry.call, Registry.addCallback]
  by_cases unnamed : ifname = [] ∨ network_id < 0
  · rw [if_pos unnamed, if_pos unnamed]
    exact ⟨refines, rfl⟩
  · rw [if_neg unnamed, if_neg unnamed]
    rcases (refines.networks p2p).addCallback getNetworkObjectMapKey_injective
      (ifname, network_id) callback with ⟨absent, refused⟩ | ⟨entry, next, here, taken, holds⟩
    · simp only at refused absent
      rw [refused, absent]
      exact ⟨refines, rfl⟩
    · simp only at taken here
      have kept := refines.network s.made s.isValid holds
      rw [taken, here]
      refine ⟨?_, rfl⟩
      simpa only [refines.made, refines.isValid] using kept

theorem Refines.notify (refines : Refines s r) (wpa_s : WpaSupplicant)
    (pmf_enabled reauth_delay : Nat) (url : List Char) :
    Refines (s.notifyWNMRxEssDisassocImminentNotice wpa_s pmf_enabled reauth_delay url)
      (r.tell false wpa_s.ifname
        (.onEssDisassocImminentNotice wpa_s.bssid pmf_enabled reauth_delay url)) := by
  have objects : (s.ifaces false).objects wpa_s.ifname =
      (r.held (.iface false wpa_s.ifname)).map Entry.object :=
    (refines.ifaces false).objects wpa_s.ifname
  rw [HidlManager.notifyWNMRxEssDisassocImminentNotice, objects]
  cases here : r.held (.iface false wpa_s.ifname) with
  | none =>
      have untold : ∀ notice, r.tell false wpa_s.ifname notice = r := by
        intro notice
        simp [Registry.tell, here]
      rw [untold]
      exact refines
  | some entry => exact refines.tell false wpa_s.ifname _

/-- The step lemma. -/
theorem agree_call (refines : Refines s r) (c : Call) : Agree (s.call c) (r.call c) := by
  cases c with
  | registerInterface wpa_s =>
      cases wpa_s with
      | none => exact ⟨refines, rfl⟩
      | some wpa_s => exact agree_registerInterface refines wpa_s
  | unregisterInterface wpa_s =>
      cases wpa_s with
      | none => exact ⟨refines, rfl⟩
      | some wpa_s => exact agree_unregisterInterface refines wpa_s
  | registerNetwork wpa_s ssid =>
      cases wpa_s with
      | none => exact ⟨refines, rfl⟩
      | some wpa_s =>
          cases ssid with
          | none => exact ⟨refines, rfl⟩
          | some id => exact agree_registerNetwork refines wpa_s id
  | unregisterNetwork wpa_s ssid =>
      cases wpa_s with
      | none => exact ⟨refines, rfl⟩
      | some wpa_s =>
          cases ssid with
          | none => exact ⟨refines, rfl⟩
          | some id => exact agree_unregisterNetwork refines wpa_s id
  | getIfaceHidlObjectByIfname p2p ifname => exact ⟨refines, getIface_find refines p2p ifname⟩
  | getNetworkHidlObjectByIfnameAndNetworkId p2p ifname network_id =>
      exact ⟨refines, getNetwork_find refines p2p ifname network_id⟩
  | addIfaceCallbackHidlObject p2p ifname callback =>
      exact agree_addIface refines p2p ifname callback
  | addNetworkCallbackHidlObject p2p ifname network_id callback =>
      exact agree_addNetwork refines p2p ifname network_id callback
  | notifyWNMRxEssDisassocImminentNotice wpa_s pmf_enabled reauth_delay url =>
      cases wpa_s with
      | none => exact ⟨refines, rfl⟩
      | some wpa_s =>
          cases url with
          | none => exact ⟨refines, rfl⟩
          | some url => exact ⟨refines.notify wpa_s pmf_enabled reauth_delay url, rfl⟩

end Refinement

/-- The state behind a list of calls, and their answers. -/
def answers {σ : Type} (call : σ → Call → σ × Answer) : σ → List Call → σ × List Answer
  | s, [] => (s, [])
  | s, c :: rest =>
      let later := answers call (call s c).1 rest
      (later.1, (call s c).2 :: later.2)

theorem answers_agree {s : HidlManager} {r : Registry} (refines : Refines s r) (calls : List Call) :
    Refines (answers HidlManager.call s calls).1 (answers Registry.call r calls).1 ∧
      (answers HidlManager.call s calls).2 = (answers Registry.call r calls).2 := by
  induction calls generalizing s r with
  | nil => exact ⟨refines, rfl⟩
  | cons c rest ih =>
      obtain ⟨here, answer⟩ := agree_call refines c
      obtain ⟨last, others⟩ := ih here
      exact ⟨last, by rw [answers, answers, answer, others]⟩

/-- Whatever the calls, the manager answers, tells the callbacks and invalidates the objects as the
registry does, and its maps hold the same: its keys never bring two networks together. -/
theorem hidlManager_refines (calls : List Call) :
    let manager := answers HidlManager.call .empty calls
    let registry := answers Registry.call .empty calls
    manager.2 = registry.2 ∧ Refines manager.1 registry.1 := by
  obtain ⟨refines, same⟩ := answers_agree refines_empty calls
  exact ⟨same, refines⟩

/-- Where an object is found. -/
def HidlManager.objectOf (s : HidlManager) : Thing → Option Nat
  | .iface p2p ifname => (s.ifaces p2p).objects ifname
  | .network p2p ifname id => (s.networks p2p).objects (getNetworkObjectMapKey ifname id)

section Validity

variable {r t : Registry}

def Registry.Sound (r : Registry) : Prop :=
  Placed (fun thing => (r.held thing).map Entry.object) r.isValid r.made

theorem Registry.Sound.register (sound : r.Sound) {thing : Thing}
    (taken : r.register thing = some t) : t.Sound := by
  obtain ⟨free, same⟩ := Option.ite_none_left_eq_some.mp taken
  have absent : r.held thing = none := by simpa using free
  cases same
  have placed := Placed.place sound (i := thing) (by simp [absent])
  unfold Registry.Sound
  convert placed using 1
  funext place
  by_cases same : place = thing
  · simp [same]
  · simp [same]

theorem Registry.Sound.unregister (sound : r.Sound) {thing : Thing}
    (taken : r.unregister thing = some t) : t.Sound := by
  obtain ⟨entry, here, same⟩ := Option.map_eq_some_iff.mp taken
  subst same
  have found : (r.held thing).map Entry.object = some entry.object := by rw [here]; rfl
  have placed := Placed.clear (i := thing) sound found
  unfold Registry.Sound
  convert placed using 1
  funext place
  by_cases same : place = thing
  · simp [same]
  · simp [same]

theorem Registry.Sound.tell (sound : r.Sound) (p2p : Bool) (ifname : Name) (notice : Notice) :
    (r.tell p2p ifname notice).Sound := by
  unfold Registry.tell
  split
  · exact sound
  · split
    · exact sound
    · exact sound

theorem Registry.Sound.addCallback (sound : r.Sound) (thing : Thing) (callback : Callback) :
    (r.addCallback thing callback).1.Sound := by
  unfold Registry.addCallback
  cases here : r.held thing with
  | none => exact sound
  | some entry =>
      unfold Registry.Sound at sound ⊢
      convert sound using 1
      funext place
      by_cases same : place = thing
      · simp [same, here]
      · simp [same]

theorem Registry.Sound.call (sound : r.Sound) (c : Call) : (r.call c).1.Sound := by
  cases c with
  | registerInterface wpa_s =>
      cases wpa_s with
      | none => exact sound
      | some wpa_s =>
          simp only [Registry.call]
          cases taken : r.register (.iface wpa_s.isP2pIface wpa_s.ifname) with
          | none => exact sound
          | some t => exact sound.register taken
  | unregisterInterface wpa_s =>
      cases wpa_s with
      | none => exact sound
      | some wpa_s =>
          simp only [Registry.call]
          cases taken : r.unregister (.iface wpa_s.isP2pIface wpa_s.ifname) with
          | none => exact sound
          | some t => exact sound.unregister taken
  | registerNetwork wpa_s ssid =>
      cases wpa_s with
      | none => exact sound
      | some wpa_s =>
          cases ssid with
          | none => exact sound
          | some id =>
              simp only [Registry.call]
              cases taken : r.register (.network wpa_s.isP2pIface wpa_s.ifname id) with
              | none => exact sound
              | some t =>
                  simp only
                  split
                  · exact (sound.register taken).tell true wpa_s.ifname (.onNetworkAdded id)
                  · exact sound.register taken
  | unregisterNetwork wpa_s ssid =>
      cases wpa_s with
      | none => exact sound
      | some wpa_s =>
          cases ssid with
          | none => exact sound
          | some id =>
              simp only [Registry.call]
              cases taken : r.unregister (.network wpa_s.isP2pIface wpa_s.ifname id) with
              | none => exact sound
              | some t =>
                  simp only
                  split
                  · exact (sound.unregister taken).tell true wpa_s.ifname (.onNetworkRemoved id)
                  · exact sound.unregister taken
  | getIfaceHidlObjectByIfname | getNetworkHidlObjectByIfnameAndNetworkId => exact sound
  | addIfaceCallbackHidlObject p2p ifname callback =>
      simp only [Registry.call]
      split
      · exact sound
      · exact sound.addCallback _ callback
  | addNetworkCallbackHidlObject p2p ifname network_id callback =>
      simp only [Registry.call]
      split
      · exact sound
      · exact sound.addCallback _ callback
  | notifyWNMRxEssDisassocImminentNotice wpa_s pmf_enabled reauth_delay url =>
      cases wpa_s with
      | none => exact sound
      | some wpa_s =>
          cases url with
          | none => exact sound
          | some url => exact sound.tell false wpa_s.ifname _

theorem sound_answers (sound : r.Sound) (calls : List Call) :
    (answers Registry.call r calls).1.Sound := by
  induction calls generalizing r with
  | nil => exact sound
  | cons c rest ih => exact ih (sound.call c)

theorem Refines.objectOf {s : HidlManager} (refines : Refines s r) (thing : Thing) :
    s.objectOf thing = (r.held thing).map Entry.object := by
  cases thing with
  | iface p2p ifname => exact (refines.ifaces p2p).objects ifname
  | network p2p ifname id => exact (refines.networks p2p).objects (ifname, id)

end Validity

/-- Whatever the calls, an object is valid just as long as it is found, which is at one place. -/
theorem object_valid_iff (calls : List Call) (object : Nat) :
    let manager := (answers HidlManager.call .empty calls).1
    manager.isValid object = true ↔ ∃! thing, manager.objectOf thing = some object := by
  obtain ⟨refines, _⟩ := answers_agree refines_empty calls
  have empty : Registry.empty.Sound := by constructor <;> simp [Registry.empty]
  have sound : Placed _ _ _ := sound_answers empty calls
  simp only [refines.objectOf, refines.isValid]
  rw [sound.valid]
  constructor
  · rintro ⟨thing, there⟩
    exact ⟨thing, there, fun other here => sound.single other thing object here there⟩
  · rintro ⟨thing, there, _⟩
    exact ⟨thing, there⟩

end Connectivity.Supplicant
