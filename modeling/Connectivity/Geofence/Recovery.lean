import Connectivity.Geofence.Store
import Connectivity.Transition.Run
import Mathlib.Data.List.TakeWhile

set_option autoImplicit false

/- The slots beside the fences that they stand for: those that have been accepted and
not removed since. -/
namespace Connectivity.Geofence

open Transition

abbrev occupied (s : Gfc) : Finset (Fin maxGoefence) :=
  Slots.occupied Property.geofenceId noFence s.geofenceProperty

structure Recovery where
  gfc : Gfc
  /-- The fences by their ids, each as its requests have left it. -/
  fences : Int → Option Property

def Recovery.start : Recovery := ⟨.start, fun _ => none⟩

/-- Changes the fence with an id, if there is one. -/
def change (fences : Int → Option Property) (id : Int) (f : Property → Property) :
    Int → Option Property := Function.update fences id ((fences id).map f)

/-- What a request means for the fences. -/
def Recovery.meant (s : Recovery) : Request → Int → Option Property
  | .init _ _ => s.fences
  | .add area =>
      if s.gfc.isgfcExist ∧ checkFenceVadility s.gfc (area.fence s.gfc) = 0 then
        Function.update s.fences area.geofenceId (some (area.fence s.gfc))
      else s.fences
  | .pause id => change s.fences id Property.paused
  | .resume id monitorTransitions => change s.fences id (Property.resumed monitorTransitions)
  | .remove id => Function.update s.fences id none
  | .recover _ => s.fences
  | .transition id transition =>
      if s.gfc.geofenceCbs ∧ (transition = gpsGeofenceEntered ∨ transition = gpsGeofenceExited ∨
          transition = gpsGeofenceUncertain) then
        change s.fences id (Property.crossed transition)
      else s.fences
  | .injectLoc _ _ _ => s.fences

def Recovery.next (s : Recovery) (r : Request) : Recovery := ⟨(s.gfc.handle r).1, s.meant r⟩

def Recovery.step (s : Recovery) (r : Request) : Option Recovery := some (s.next r)

/-- Every fence is stored, and its later requests and a recovery reach the daemon. -/
structure Recovery.Sound (s : Recovery) : Prop where
  inside : s.gfc.outside = false
  total : s.gfc.isgfcExist → s.gfc.gTotalFence = (occupied s.gfc).card
  distinct : s.gfc.isgfcExist →
    Slots.Distinct Property.geofenceId noFence s.gfc.geofenceProperty
  stored : ∀ id fence, s.fences id = some fence →
    id ≠ noFence ∧ fence.geofenceId = id ∧ ∃ i, s.gfc.geofenceProperty i = fence
  resumed : ∀ id fence, s.fences id = some fence → ∀ transitions,
    (s.gfc.handle (.resume id transitions)).2 = [.resumeGeofence id transitions]
  removed : ∀ id fence, s.fences id = some fence →
    (s.gfc.handle (.remove id)).2 = [.removeGeofence id]
  recovered : ∀ fence,
    (s.gfc.handle (.recover fun _ => true)).2.count (.recoverGeofence 1 fence) =
      if s.fences fence.geofenceId = some fence ∧ fence.alive = 1 then 1 else 0

/-- A request for the key of the free slots finds none of them. -/
def Unmarked (s : Gfc) (id : Int) : Prop :=
  s.isgfcExist → id = noFence → checkBuffFenceExist s noFence = none

/-- A fence that is added has an id of the table, and the first slot that is not alive holds
no fence; the key of the free slots is not resumed or removed while there is one. -/
def Proper (s : Gfc) : Request → Prop
  | .add area => s.isgfcExist → 0 ≤ area.geofenceId ∧
      (checkFenceVadility s (area.fence s) = 0 → ∀ item, getBuffAvalibaleItem s = some item →
        (s.geofenceProperty item).geofenceId = noFence)
  | .resume id _ => Unmarked s id
  | .remove id => Unmarked s id
  | .injectLoc id _ _ => s.isgfcExist → 0 ≤ id
  | _ => True

/-- The table holds the fences and nothing else, and no free slot is alive. -/
structure Stored (s : Gfc) (fences : Int → Option Property) : Prop where
  distinct : Slots.Distinct Property.geofenceId noFence s.geofenceProperty
  contents : ∀ id, fences id = Slots.contents Property.geofenceId noFence s.geofenceProperty id
  total : s.gTotalFence = (occupied s).card
  unused : ∀ i, (s.geofenceProperty i).geofenceId = noFence → (s.geofenceProperty i).alive ≠ 1
  nonneg : ∀ i, (s.geofenceProperty i).geofenceId ≠ noFence →
    0 ≤ (s.geofenceProperty i).geofenceId

structure Recovery.Inv (s : Recovery) : Prop where
  inside : s.gfc.outside = false
  fresh : s.gfc.isgfcExist = false → ∀ id, s.fences id = none
  stored : s.gfc.isgfcExist = true → Stored s.gfc s.fences

section Table

variable {s : Gfc} {fences : Int → Option Property} {id : Int} {item : Fin maxGoefence}

theorem change_none {f : Property → Property} (absent : fences id = none) :
    change fences id f = fences := by
  rw [change, absent, Option.map_none, ← absent, Function.update_eq_self]

theorem Stored.absent (stored : Stored s fences) (none : checkBuffFenceExist s id = none) :
    fences id = .none := by
  rw [stored.contents]
  exact Slots.contents_eq_none none

theorem Stored.found (stored : Stored s fences) (named : id ≠ noFence)
    (found : checkBuffFenceExist s id = some item) :
    fences id = some (s.geofenceProperty item) := by
  rw [stored.contents]
  exact Slots.contents_of_find named found

theorem Stored.unmarked (stored : Stored s fences) : fences noFence = none := by
  rw [stored.contents]
  exact Slots.contents_free

/-- A fence that is known is found in its slot. -/
theorem Stored.known (stored : Stored s fences) {fence : Property}
    (known : fences id = some fence) :
    id ≠ noFence ∧ fence.geofenceId = id ∧
      ∃ item, checkBuffFenceExist s id = some item ∧ s.geofenceProperty item = fence := by
  rw [stored.contents] at known
  obtain ⟨named, i, entry, key⟩ := (Slots.contents_eq_some stored.distinct).mp known
  refine ⟨named, key, ?_⟩
  obtain ⟨item, found⟩ := Slots.exists_find (entry ▸ key : (s.geofenceProperty i).geofenceId = id)
  refine ⟨item, found, ?_⟩
  rw [Slots.contents_of_find named found] at known
  exact Option.some.inj known

/-- One slot is written. The rest of the state may change but for the table and the count. -/
theorem Stored.write {t : Gfc} {kept : Int → Option Property} {x : Property}
    (stored : Stored s fences)
    (fits : Slots.Fits Property.geofenceId noFence s.geofenceProperty item x)
    (table : t.geofenceProperty = Function.update s.geofenceProperty item x)
    (unmarked : kept noFence = none)
    (meant : ∀ id ≠ noFence, kept id =
      if id = x.geofenceId then some x
      else if id = (s.geofenceProperty item).geofenceId then none
      else fences id)
    (total : t.gTotalFence + (if (s.geofenceProperty item).geofenceId ≠ noFence then 1 else 0) =
      s.gTotalFence + (if x.geofenceId ≠ noFence then 1 else 0))
    (unused : x.geofenceId = noFence → x.alive ≠ 1)
    (nonneg : x.geofenceId ≠ noFence → 0 ≤ x.geofenceId) : Stored t kept := by
  have counted := Slots.card_update Property.geofenceId noFence s.geofenceProperty item x
  have counts : s.gTotalFence =
    (Slots.occupied Property.geofenceId noFence s.geofenceProperty).card := stored.total
  constructor
  · rw [table]
    exact stored.distinct.update fits
  · intro id
    rw [table]
    by_cases named : id = noFence
    · rw [named, unmarked, Slots.contents_free]
    · rw [Slots.contents_update stored.distinct fits named, meant id named, stored.contents]
  · rw [occupied, table]
    split_ifs at total counted <;> omega
  · intro i
    rw [table]
    by_cases here : i = item
    · subst here
      rw [Function.update_self]
      exact unused
    · rw [Function.update_of_ne here]
      exact stored.unused i
  · intro i
    rw [table]
    by_cases here : i = item
    · subst here
      rw [Function.update_self]
      exact nonneg
    · rw [Function.update_of_ne here]
      exact stored.nonneg i

/-- A slot that is found by its key is changed under that key. -/
theorem Stored.changed {t : Gfc} {f : Property → Property} (stored : Stored s fences)
    (found : checkBuffFenceExist s id = some item)
    (same : ∀ fence : Property, (f fence).geofenceId = fence.geofenceId)
    (quiet : id = noFence → (f (s.geofenceProperty item)).alive ≠ 1)
    (table : t.geofenceProperty =
      Function.update s.geofenceProperty item (f (s.geofenceProperty item)))
    (total : t.gTotalFence = s.gTotalFence) : Stored t (change fences id f) := by
  have key : (s.geofenceProperty item).geofenceId = id := Slots.key_of_find found
  have new : (f (s.geofenceProperty item)).geofenceId = id := (same _).trans key
  apply @Stored.write s fences item t (change fences id f) (f (s.geofenceProperty item)) stored
  · by_cases named : id = noFence
    · exact .inl (new.trans named)
    · refine .inr fun j other held => ?_
      rw [new] at held
      exact other (stored.distinct j item (held.trans key.symm) (by rwa [held]))
  · exact table
  · by_cases named : id = noFence
    · subst named
      rw [change_none stored.unmarked]
      exact stored.unmarked
    · rw [change, Function.update_of_ne (Ne.symm named)]
      exact stored.unmarked
  · intro k named
    rw [new, key]
    by_cases here : k = id
    · subst here
      rw [if_pos rfl, change, Function.update_self, stored.found named found, Option.map_some]
    · rw [if_neg here, if_neg here, change, Function.update_of_ne here]
  · rw [total, same]
  · intro none
    exact quiet (new.symm.trans none)
  · rw [same]
    exact stored.nonneg item

/-- What the requests for one fence do to its slot. -/
def changeSlot (s : Gfc) (id : Int) (f : Property → Property) : Gfc :=
  match checkBuffFenceExist s id with
  | none => s
  | some item =>
      { s with geofenceProperty :=
          Function.update s.geofenceProperty item (f (s.geofenceProperty item)) }

theorem changeSlot_none {f : Property → Property} (absent : checkBuffFenceExist s id = none) :
    changeSlot s id f = s := by
  simp only [changeSlot, absent]

theorem changeSlot_some {f : Property → Property} (found : checkBuffFenceExist s id = some item) :
    changeSlot s id f =
      { s with
        geofenceProperty :=
          Function.update s.geofenceProperty item (f (s.geofenceProperty item)) } := by
  simp only [changeSlot, found]

theorem Stored.changeSlot {f : Property → Property} (stored : Stored s fences)
    (same : ∀ fence : Property, (f fence).geofenceId = fence.geofenceId)
    (quiet : id = noFence → ∀ item, checkBuffFenceExist s id = some item →
      (f (s.geofenceProperty item)).alive ≠ 1) :
    Stored (changeSlot s id f) (change fences id f) := by
  cases found : checkBuffFenceExist s id with
  | none =>
      rw [changeSlot_none found, change_none (stored.absent found)]
      exact stored
  | some item =>
      rw [changeSlot_some found]
      exact stored.changed found same (fun none => quiet none item found) rfl rfl

theorem Stored.frame {t : Gfc} (stored : Stored s fences)
    (table : t.geofenceProperty = s.geofenceProperty) (total : t.gTotalFence = s.gTotalFence) :
    Stored t fences := by
  constructor
  · rw [table]
    exact stored.distinct
  · rw [table]
    exact stored.contents
  · rw [total, occupied, table]
    exact stored.total
  · rw [table]
    exact stored.unused
  · rw [table]
    exact stored.nonneg

/-- The slot that is found for a request that is not for the free slots holds a fence. -/
theorem Stored.nonneg_of_found (stored : Stored s fences) (unmarked : Unmarked s id)
    (exist : s.isgfcExist) (found : checkBuffFenceExist s id = some item) :
    id ≠ noFence ∧ 0 ≤ id := by
  have named : id ≠ noFence := by
    intro none
    have absent := unmarked exist none
    rw [none, absent] at found
    cases found
  have key : (s.geofenceProperty item).geofenceId = id := Slots.key_of_find found
  refine ⟨named, ?_⟩
  rw [← key] at named ⊢
  exact stored.nonneg item named

end Table

section Requests

variable {s : Gfc}

theorem setInjectInfo_inside {id : Int} (info : InjectInfo) (nonneg : 0 ≤ id) :
    (setInjectInfo s id info).outside = s.outside ∧
      (setInjectInfo s id info).isgfcExist = s.isgfcExist ∧
      (setInjectInfo s id info).geofenceProperty = s.geofenceProperty ∧
      (setInjectInfo s id info).gTotalFence = s.gTotalFence := by
  rw [setInjectInfo, if_neg (by omega)]
  split <;> exact ⟨rfl, rfl, rfl, rfl⟩

theorem setInjectInfo_outside {id : Int} (info : InjectInfo) (negative : id < 0) :
    (setInjectInfo s id info).outside = true := by
  rw [setInjectInfo, if_pos negative]

theorem mtkGeoInjectInfoGet_inside {id : Int} (nonneg : 0 ≤ id) :
    (mtkGeoInjectInfoGet s id).1 = s := by
  rw [mtkGeoInjectInfoGet, if_neg (by omega)]
  split
  · rfl
  · dsimp only
    split <;> rfl

theorem mtkGeoInjectInfoGet_outside {id : Int} (negative : id < 0) :
    (mtkGeoInjectInfoGet s id).1 = { s with outside := true } := by
  rw [mtkGeoInjectInfoGet, if_pos negative]

/-- A fence that is accepted finds fewer fences than slots, and its id among none of them. -/
theorem accepted {fence : Property} (accepts : checkFenceVadility s fence = 0) :
    s.gTotalFence < maxGoefence ∧ checkBuffFenceExist s fence.geofenceId = none := by
  rw [checkFenceVadility] at accepts
  split at accepts
  · cases accepts
  · rename_i room
    split at accepts
    · cases accepts
    · rename_i absent
      refine ⟨?_, ?_⟩
      · simpa only [checkBuffFullOfFence, ge_iff_le, decide_eq_true_eq, not_le] using room
      · simpa only [Option.isSome_iff_ne_none, ne_eq, not_not] using absent

theorem handle_pause (exist : s.isgfcExist = true) (id : Int) :
    (s.handle (.pause id)).1 = changeSlot s id Property.paused := by
  cases found : checkBuffFenceExist s id with
  | none => simp only [Gfc.handle, exist, if_true, hal2GeofencePauseGeofence, changeSlot, found]
  | some item =>
      simp only [Gfc.handle, exist, if_true, hal2GeofencePauseGeofence, changeSlot, found,
        setBuffPauseFence]

theorem handle_resume (exist : s.isgfcExist = true) (id transitions : Int) :
    (s.handle (.resume id transitions)).1 = changeSlot s id (Property.resumed transitions) := by
  cases found : checkBuffFenceExist s id with
  | none => simp only [Gfc.handle, exist, if_true, hal2GeofenceResumeGeofence, changeSlot, found]
  | some item =>
      simp only [Gfc.handle, exist, if_true, hal2GeofenceResumeGeofence, changeSlot, found,
        setBuffResumeFence]

theorem setBuffTransitionFence_eq (id transition : Int) :
    setBuffTransitionFence s id transition =
      if transition = gpsGeofenceEntered ∨ transition = gpsGeofenceExited ∨
          transition = gpsGeofenceUncertain then
        changeSlot s id (Property.crossed transition)
      else s := by
  by_cases valid : transition = gpsGeofenceEntered ∨ transition = gpsGeofenceExited ∨
      transition = gpsGeofenceUncertain
  · have passes : ¬ (transition ≠ gpsGeofenceEntered ∧ transition ≠ gpsGeofenceExited ∧
        transition ≠ gpsGeofenceUncertain) := by
      rw [← not_or, ← not_or, not_not]
      exact valid
    rw [if_pos valid, setBuffTransitionFence, if_neg passes]
    cases found : checkBuffFenceExist s id with
    | none => rw [changeSlot_none found]
    | some item => rw [changeSlot_some found]
  · rw [if_neg valid, setBuffTransitionFence, if_pos]
    rw [not_or, not_or] at valid
    exact valid

theorem setBuffRemoveFence_same (item : Fin maxGoefence) :
    (setBuffRemoveFence s item).isgfcExist = s.isgfcExist ∧
      (setBuffRemoveFence s item).outside = s.outside := ⟨rfl, rfl⟩

theorem changeSlot_same (id : Int) (f : Property → Property) :
    (changeSlot s id f).isgfcExist = s.isgfcExist ∧ (changeSlot s id f).outside = s.outside := by
  cases found : checkBuffFenceExist s id with
  | none => simp only [changeSlot, found, and_self]
  | some item => simp only [changeSlot, found, and_self]

theorem stored_init (disableSmd : Bool) (fresh : s.isgfcExist = false)
    {fences : Int → Option Property} (none : ∀ id, fences id = none) :
    Stored (hal2GeofenceInit s disableSmd) fences := by
  have table : (hal2GeofenceInit s disableSmd).geofenceProperty =
      fun _ => { Property.zero with geofenceId := noFence } := by
    simp only [hal2GeofenceInit, fresh, Bool.false_eq_true, if_false, mtkGeoInjectInfoInit,
      setBuffInitFence]
  have total : (hal2GeofenceInit s disableSmd).gTotalFence = 0 := by
    simp only [hal2GeofenceInit, fresh, Bool.false_eq_true, if_false, mtkGeoInjectInfoInit,
      setBuffInitFence]
  have free : occupied (hal2GeofenceInit s disableSmd) = ∅ := by
    rw [occupied, table]
    exact Finset.filter_eq_empty_iff.mpr fun _ _ named => named rfl
  constructor
  · rw [table]
    intro _ _ _ named
    exact absurd rfl named
  · intro id
    rw [none, table]
    by_cases named : id = noFence
    · rw [named, Slots.contents_free]
    · apply (Slots.contents_eq_none _).symm
      rw [Slots.find_eq_none_iff]
      exact fun _ => Ne.symm named
  · rw [total, free]
    rfl
  · rw [table]
    intro _ _ alive
    cases alive
  · rw [table]
    intro _ named
    exact absurd rfl named

/-- A slot without a fence takes the fence that is accepted. -/
theorem stored_add {fences : Int → Option Property} {fence : Property} (stored : Stored s fences)
    (accepts : checkFenceVadility s fence = 0) (nonneg : 0 ≤ fence.geofenceId)
    (vacant : ∀ item, getBuffAvalibaleItem s = some item →
      (s.geofenceProperty item).geofenceId = noFence) :
    Stored (setBuffAddFence s fence)
      (Function.update fences fence.geofenceId (some { fence with alive := 1 })) := by
  obtain ⟨room, absent⟩ := accepted accepts
  have named : fence.geofenceId ≠ noFence := by
    rw [noFence]
    omega
  cases available : getBuffAvalibaleItem s with
  | none =>
      -- with less fences than slots some slot is free, and no free slot is alive
      have count := stored.total
      obtain ⟨i, free⟩ := Slots.exists_free Property.geofenceId noFence s.geofenceProperty
        (by rw [occupied] at count; omega)
      exact absurd (stored.unused i free) (Slots.first_eq_none_iff.mp available i)
  | some item =>
      have free := vacant item available
      apply @Stored.write s fences item _ _ { fence with alive := 1 } stored
      · exact .inr fun j _ => Slots.find_eq_none_iff.mp absent j
      · simp only [setBuffAddFence, available]
      · rw [Function.update_of_ne (Ne.symm named)]
        exact stored.unmarked
      · intro id other
        rw [free, if_neg other]
        exact Function.update_apply ..
      · simp only [setBuffAddFence, available, free, ne_eq, not_true_eq_false, if_false, named,
          not_false_eq_true, if_true]
        omega
      · intro none
        exact absurd none named
      · exact fun _ => nonneg

theorem stored_remove {fences : Int → Option Property} {id : Int} {item : Fin maxGoefence}
    {t : Gfc} (stored : Stored s fences) (named : id ≠ noFence)
    (found : checkBuffFenceExist s id = some item) (table : t.geofenceProperty = s.geofenceProperty)
    (total : t.gTotalFence = s.gTotalFence) :
    Stored (setBuffRemoveFence t item) (Function.update fences id none) := by
  have key : (s.geofenceProperty item).geofenceId = id := Slots.key_of_find found
  have held : 0 < (occupied s).card := by
    apply Finset.card_pos.mpr
    exact ⟨item, Slots.mem_occupied.mpr (by rwa [key])⟩
  have count := stored.total
  apply @Stored.write s fences item _ _ { Property.zero with geofenceId := noFence } stored
  · exact .inl rfl
  · rw [setBuffRemoveFence, table]
  · rw [Function.update_of_ne (Ne.symm named)]
    exact stored.unmarked
  · intro k other
    rw [if_neg other, key]
    by_cases here : k = id
    · rw [if_pos here, here, Function.update_self]
    · rw [if_neg here, Function.update_of_ne here]
  · have positive : s.gTotalFence > 0 := by omega
    simp only [setBuffRemoveFence, total, positive, if_true, key, named, ne_eq, not_false_eq_true,
      not_true_eq_false, if_false]
    omega
  · intro _
    decide
  · exact fun named => absurd rfl named

end Requests

section Runs

variable {s : Recovery}

theorem inv_change {t : Gfc} {id : Int} {f : Property → Property} (inv : s.Inv)
    (exist : s.gfc.isgfcExist = true) (state : t = changeSlot s.gfc id f)
    (same : ∀ fence : Property, (f fence).geofenceId = fence.geofenceId)
    (quiet : id = noFence → ∀ item, checkBuffFenceExist s.gfc id = some item →
      (f (s.gfc.geofenceProperty item)).alive ≠ 1) :
    Recovery.Inv ⟨t, change s.fences id f⟩ := by
  obtain ⟨exists_, outside⟩ := changeSlot_same (s := s.gfc) id f
  subst state
  constructor
  · exact outside.trans inv.inside
  · intro off
    rw [exists_, exist] at off
    cases off
  · intro _
    exact (inv.stored exist).changeSlot same quiet

/-- Nothing but the state of the interface changes, and there not the table. -/
theorem inv_frame {t : Gfc} (inv : s.Inv) (exist : t.isgfcExist = s.gfc.isgfcExist)
    (outside : t.outside = s.gfc.outside) (table : t.geofenceProperty = s.gfc.geofenceProperty)
    (total : t.gTotalFence = s.gfc.gTotalFence) : Recovery.Inv ⟨t, s.fences⟩ := by
  constructor
  · exact outside.trans inv.inside
  · intro off
    exact inv.fresh (exist ▸ off)
  · intro on
    exact (inv.stored (exist ▸ on)).frame table total

theorem inv_start : Recovery.start.Inv := by
  refine ⟨rfl, fun _ _ => rfl, fun exist => ?_⟩
  cases exist

/-- Before the first `init` there are no fences, and a request does nothing. -/
theorem inv_before {r : Request} (inv : s.Inv)
    (idle : (s.gfc.handle r).1 = s.gfc) (meant : s.meant r = s.fences) : (s.next r).Inv := by
  rw [Recovery.next, idle, meant]
  exact inv

/-- Before the first `init` nothing but another one changes the state. -/
theorem handle_idle {r : Request} (off : s.gfc.isgfcExist = false)
    (other : ∀ callbacks disableSmd, r ≠ .init callbacks disableSmd) :
    (s.gfc.handle r).1 = s.gfc := by
  cases r with
  | init callbacks disableSmd => exact absurd rfl (other callbacks disableSmd)
  | transition id transition =>
      simp only [Gfc.handle, off, Bool.false_eq_true, false_and, if_false]
  | add area => simp only [Gfc.handle, off, Bool.false_eq_true, if_false]
  | pause id => simp only [Gfc.handle, off, Bool.false_eq_true, if_false]
  | resume id transitions => simp only [Gfc.handle, off, Bool.false_eq_true, if_false]
  | remove id => simp only [Gfc.handle, off, Bool.false_eq_true, if_false]
  | recover sends => simp only [Gfc.handle, off, Bool.false_eq_true, if_false]
  | injectLoc id dn de => simp only [Gfc.handle, off, Bool.false_eq_true, if_false]

/-- Without fences there is nothing that a request could be meant to change. -/
theorem meant_idle {r : Request} (off : s.gfc.isgfcExist = false) (none : ∀ id, s.fences id = none) :
    s.meant r = s.fences := by
  cases r with
  | init callbacks disableSmd => rfl
  | add area => simp only [Recovery.meant, off, Bool.false_eq_true, false_and, if_false]
  | pause id => exact change_none (none id)
  | resume id transitions => exact change_none (none id)
  | remove id => rw [Recovery.meant, ← none id, Function.update_eq_self]
  | recover sends => rfl
  | transition id transition =>
      rw [Recovery.meant]
      split
      · exact change_none (none id)
      · rfl
  | injectLoc id dn de => rfl

/-- The first `init` puts up an empty table. -/
theorem inv_firstInit {callbacks : Bool} {disableSmd : Bool} (inv : s.Inv)
    (off : s.gfc.isgfcExist = false) : (s.next (.init callbacks disableSmd)).Inv := by
  have none := inv.fresh off
  constructor
  · simp only [Recovery.next, Gfc.handle, hal2GeofenceInit, off, Bool.false_eq_true, if_false]
    exact inv.inside
  · intro _
    exact none
  · intro _
    exact (stored_init disableSmd off none).frame rfl rfl

theorem inv_add {area : Area} (inv : s.Inv) (exist : s.gfc.isgfcExist = true)
    (proper : Proper s.gfc (.add area)) : (s.next (.add area)).Inv := by
  obtain ⟨nonneg, vacant⟩ := proper exist
  have state : s.gfc.handle (.add area) =
      hal2GeofenceAddGeofences s.gfc (area.fence s.gfc) := by
    simp only [Gfc.handle, exist, if_true, mtkGeoInjectInfoGet_inside nonneg]
  rw [Recovery.next, state, hal2GeofenceAddGeofences]
  by_cases accepts : checkFenceVadility s.gfc (area.fence s.gfc) = 0
  · have added := stored_add (inv.stored exist) accepts nonneg (vacant accepts)
    simp only [Recovery.meant, exist, accepts, true_and, if_true]
    have same : (setBuffAddFence s.gfc (area.fence s.gfc)).outside = s.gfc.outside ∧
        (setBuffAddFence s.gfc (area.fence s.gfc)).isgfcExist = s.gfc.isgfcExist := by
      rw [setBuffAddFence]
      split <;> exact ⟨rfl, rfl⟩
    constructor
    · exact same.1.trans inv.inside
    · intro off
      rw [same.2, exist] at off
      cases off
    · exact fun _ => added
  · simp only [Recovery.meant, accepts, and_false, if_false]
    exact inv

theorem inv_remove {id : Int} (inv : s.Inv) (exist : s.gfc.isgfcExist = true)
    (proper : Proper s.gfc (.remove id)) : (s.next (.remove id)).Inv := by
  have stored := inv.stored exist
  cases found : checkBuffFenceExist s.gfc id with
  | none =>
      have state : s.gfc.handle (.remove id) = (s.gfc, []) := by
        simp only [Gfc.handle, exist, if_true, hal2GeofenceRemoveGeofences, found]
      have meant : s.meant (.remove id) = s.fences := by
        rw [Recovery.meant, ← stored.absent found, Function.update_eq_self]
      rw [Recovery.next, state, meant]
      exact inv
  | some item =>
      obtain ⟨named, nonneg⟩ := stored.nonneg_of_found proper exist found
      obtain ⟨outside, still, table, total⟩ := setInjectInfo_inside (s := s.gfc) .zero nonneg
      have state : (s.gfc.handle (.remove id)).1 =
          setBuffRemoveFence (mtkGeoInjectInfoReset s.gfc id) item := by
        simp only [Gfc.handle, exist, if_true, hal2GeofenceRemoveGeofences, found]
      obtain ⟨same, within⟩ :=
        setBuffRemoveFence_same (s := mtkGeoInjectInfoReset s.gfc id) item
      rw [Recovery.next, state]
      constructor
      · exact (within.trans outside).trans inv.inside
      · intro off
        have on := (same.trans still).trans exist
        rw [off] at on
        cases on
      · intro _
        exact stored_remove stored named found table total

theorem inv_transition {id : Int} {transition : Int} (inv : s.Inv)
    (exist : s.gfc.isgfcExist = true) : (s.next (.transition id transition)).Inv := by
  by_cases heard : s.gfc.geofenceCbs = true
  · have state : (s.gfc.handle (.transition id transition)).1 =
        setBuffTransitionFence s.gfc id transition := by
      simp only [Gfc.handle, exist, heard, and_self, if_true]
    rw [Recovery.next, state, setBuffTransitionFence_eq]
    split
    · rename_i valid
      rw [Recovery.meant, if_pos ⟨heard, valid⟩]
      apply inv_change (f := Property.crossed transition) inv exist rfl (fun _ => rfl)
      intro none item found
      exact (inv.stored exist).unused item ((Slots.key_of_find found).trans none)
    · rename_i invalid
      rw [Recovery.meant, if_neg (fun valid => invalid valid.2)]
      exact inv
  · have state : (s.gfc.handle (.transition id transition)).1 = s.gfc := by
      simp only [Gfc.handle, heard, and_false, Bool.false_eq_true, if_false]
    rw [Recovery.next, state, Recovery.meant, if_neg (fun valid => heard valid.1)]
    exact inv

theorem inv_next {r : Request} (inv : s.Inv) (proper : Proper s.gfc r) : (s.next r).Inv := by
  cases exist : s.gfc.isgfcExist with
  | false =>
      by_cases first : ∃ callbacks disableSmd, r = .init callbacks disableSmd
      · obtain ⟨callbacks, disableSmd, rfl⟩ := first
        exact inv_firstInit inv exist
      · apply inv_before inv
        · exact handle_idle exist fun callbacks disableSmd same =>
            first ⟨callbacks, disableSmd, same⟩
        · exact meant_idle exist (inv.fresh exist)
  | true =>
      cases r with
      | init callbacks disableSmd =>
          apply inv_frame inv <;> simp only [Gfc.handle, hal2GeofenceInit, exist, if_true]
      | add area => exact inv_add inv exist proper
      | pause id =>
          apply inv_change inv exist (handle_pause exist id) (fun _ => rfl)
          intro _ _ _ alive
          cases alive
      | resume id transitions =>
          apply inv_change inv exist (handle_resume exist id transitions) (fun _ => rfl)
          intro none item found
          rw [none, proper exist none] at found
          cases found
      | remove id => exact inv_remove inv exist proper
      | recover sends =>
          simp only [Recovery.next, Gfc.handle, exist, if_true]
          exact inv
      | transition id transition => exact inv_transition inv exist
      | injectLoc id dn de =>
          obtain ⟨outside, still, table, total⟩ :=
            setInjectInfo_inside (s := s.gfc) ⟨one, dn, de⟩ (proper exist)
          have state : (s.gfc.handle (.injectLoc id dn de)).1 =
              setInjectInfo s.gfc id ⟨one, dn, de⟩ := by
            simp only [Gfc.handle, exist, if_true, mtkGeoInjectInfoSet]
          rw [Recovery.next, state]
          exact inv_frame inv still outside table total

theorem handle_recover (exist : s.gfc.isgfcExist = true) :
    (s.gfc.handle (.recover fun _ => true)).2 =
      ((List.finRange maxGoefence).filter fun i => (s.gfc.geofenceProperty i).alive = 1).map
        fun i => .recoverGeofence 1 (s.gfc.geofenceProperty i) := by
  simp only [Gfc.handle, exist, if_true, hal2GeofenceRecoverGeofences,
    List.takeWhile_eq_self_iff.mpr fun _ _ => rfl]

/-- A recovery sends the fences that are alive, each from its one slot. -/
theorem count_recovered (stored : Stored s.gfc s.fences) (exist : s.gfc.isgfcExist = true)
    (fence : Property) :
    (s.gfc.handle (.recover fun _ => true)).2.count (.recoverGeofence 1 fence) =
      if s.fences fence.geofenceId = some fence ∧ fence.alive = 1 then 1 else 0 := by
  rw [handle_recover exist]
  have once : (((List.finRange maxGoefence).filter
      fun i => (s.gfc.geofenceProperty i).alive = 1).map
        fun i => Command.recoverGeofence 1 (s.gfc.geofenceProperty i)).Nodup := by
    apply List.Nodup.map_on
    · intro i alive j _ same
      have entry : s.gfc.geofenceProperty i = s.gfc.geofenceProperty j :=
        (Command.recoverGeofence.inj same).2
      rw [List.mem_filter, decide_eq_true_eq] at alive
      apply stored.distinct i j (by rw [entry])
      exact fun free => stored.unused i free alive.2
    · exact (List.nodup_finRange maxGoefence).filter _
  rw [List.Nodup.count once]
  congr 1
  rw [eq_iff_iff, List.mem_map]
  constructor
  · intro ⟨i, alive, same⟩
    have entry : s.gfc.geofenceProperty i = fence := (Command.recoverGeofence.inj same).2
    rw [List.mem_filter, decide_eq_true_eq, entry] at alive
    refine ⟨?_, alive.2⟩
    rw [stored.contents, Slots.contents_eq_some stored.distinct]
    exact ⟨fun free => stored.unused i (entry ▸ free) (entry ▸ alive.2), i, entry, rfl⟩
  · intro ⟨known, alive⟩
    obtain ⟨_, _, item, _, entry⟩ := stored.known known
    refine ⟨item, ?_, by rw [entry]⟩
    rw [List.mem_filter, decide_eq_true_eq, entry]
    exact ⟨List.mem_finRange item, alive⟩

theorem sound_of_inv (inv : s.Inv) : s.Sound := by
  cases exist : s.gfc.isgfcExist with
  | false =>
      have none := inv.fresh exist
      constructor
      · exact inv.inside
      · intro on
        rw [exist] at on
        cases on
      · intro on
        rw [exist] at on
        cases on
      · intro id fence known
        rw [none] at known
        cases known
      · intro id fence known
        rw [none] at known
        cases known
      · intro id fence known
        rw [none] at known
        cases known
      · intro fence
        rw [none, if_neg (fun known => nomatch known.1)]
        simp only [Gfc.handle, exist, Bool.false_eq_true, if_false, List.count_nil]
  | true =>
      have stored := inv.stored exist
      constructor
      · exact inv.inside
      · exact fun _ => stored.total
      · exact fun _ => stored.distinct
      · intro id fence known
        obtain ⟨named, key, item, _, entry⟩ := stored.known known
        exact ⟨named, key, item, entry⟩
      · intro id fence known transitions
        obtain ⟨_, _, item, found, _⟩ := stored.known known
        simp only [Gfc.handle, exist, if_true, hal2GeofenceResumeGeofence, found]
      · intro id fence known
        obtain ⟨_, _, item, found, _⟩ := stored.known known
        simp only [Gfc.handle, exist, if_true, hal2GeofenceRemoveGeofences, found]
      · exact count_recovered stored exist

/-- A fence that is added over another one loses it. -/
theorem add_loses {area : Area} {item : Fin maxGoefence} (inv : s.Inv)
    (exist : s.gfc.isgfcExist = true) (nonneg : 0 ≤ area.geofenceId)
    (accepts : checkFenceVadility s.gfc (area.fence s.gfc) = 0)
    (available : getBuffAvalibaleItem s.gfc = some item)
    (held : (s.gfc.geofenceProperty item).geofenceId ≠ noFence) :
    ¬ (s.next (.add area)).Sound := by
  intro sound
  have stored := inv.stored exist
  have absent := Slots.find_eq_none_iff.mp (accepted accepts).2
  have other : (s.gfc.geofenceProperty item).geofenceId ≠ area.geofenceId := absent item
  have known : s.meant (.add area) (s.gfc.geofenceProperty item).geofenceId =
      some (s.gfc.geofenceProperty item) := by
    rw [Recovery.meant, if_pos ⟨exist, accepts⟩, Function.update_of_ne other, stored.contents,
      Slots.contents_eq_some stored.distinct]
    exact ⟨held, item, rfl, rfl⟩
  obtain ⟨_, _, i, entry⟩ := sound.stored _ _ known
  have table : (s.gfc.handle (.add area)).1.geofenceProperty =
      Function.update s.gfc.geofenceProperty item { area.fence s.gfc with alive := 1 } := by
    simp only [Gfc.handle, exist, if_true, mtkGeoInjectInfoGet_inside nonneg,
      hal2GeofenceAddGeofences, accepts, setBuffAddFence, available]
  rw [Recovery.next, table] at entry
  by_cases here : i = item
  · rw [here, Function.update_self] at entry
    exact other (congrArg Property.geofenceId entry).symm
  · rw [Function.update_of_ne here] at entry
    exact here (stored.distinct i item (congrArg Property.geofenceId entry) (by rwa [entry]))

/-- A free slot that is made alive is sent in a recovery. -/
theorem resume_marks {transitions : Int} {item : Fin maxGoefence} (inv : s.Inv)
    (exist : s.gfc.isgfcExist = true)
    (found : checkBuffFenceExist s.gfc noFence = some item) :
    ¬ (s.next (.resume noFence transitions)).Sound := by
  intro sound
  have stored := inv.stored exist
  have key : (s.gfc.geofenceProperty item).geofenceId = noFence := Slots.key_of_find found
  have state : (s.next (.resume noFence transitions)).gfc =
      changeSlot s.gfc noFence (Property.resumed transitions) :=
    handle_resume exist noFence transitions
  have still : (s.next (.resume noFence transitions)).gfc.isgfcExist = true := by
    rw [state, (changeSlot_same (s := s.gfc) _ _).1]
    exact exist
  have none : (s.next (.resume noFence transitions)).fences noFence = none := by
    rw [Recovery.next, Recovery.meant, change_none stored.unmarked]
    exact stored.unmarked
  have count := sound.recovered ((s.gfc.geofenceProperty item).resumed transitions)
  have marked : (((s.gfc.geofenceProperty item).resumed transitions).geofenceId) = noFence := key
  rw [marked, none, if_neg (fun known => nomatch known.1), handle_recover still,
    List.count_eq_zero] at count
  apply count
  rw [List.mem_map]
  have entry : (s.next (.resume noFence transitions)).gfc.geofenceProperty item =
      (s.gfc.geofenceProperty item).resumed transitions := by
    rw [state, changeSlot_some found]
    exact Function.update_self ..
  refine ⟨item, ?_, by rw [entry]⟩
  rw [List.mem_filter, decide_eq_true_eq, entry]
  exact ⟨List.mem_finRange item, rfl⟩

theorem not_sound_next {r : Request} (inv : s.Inv) (improper : ¬ Proper s.gfc r) :
    ¬ (s.next r).Sound := by
  cases r with
  | init callbacks disableSmd => exact absurd trivial improper
  | add area =>
      rw [Proper, Classical.not_imp] at improper
      obtain ⟨exist, improper⟩ := improper
      by_cases nonneg : 0 ≤ area.geofenceId
      · have misses : ¬ (checkFenceVadility s.gfc (area.fence s.gfc) = 0 → ∀ item,
            getBuffAvalibaleItem s.gfc = some item →
              (s.gfc.geofenceProperty item).geofenceId = noFence) :=
          fun vacant => improper ⟨nonneg, vacant⟩
        rw [Classical.not_imp, not_forall] at misses
        obtain ⟨accepts, item, taken⟩ := misses
        rw [Classical.not_imp] at taken
        exact add_loses inv exist nonneg accepts taken.1 taken.2
      · intro sound
        have outside : (s.gfc.handle (.add area)).1.outside = true := by
          simp only [Gfc.handle, exist, if_true,
            mtkGeoInjectInfoGet_outside (by omega : area.geofenceId < 0), hal2GeofenceAddGeofences]
          split
          · rw [setBuffAddFence]
            split <;> rfl
          · rfl
        have inside := sound.inside
        rw [Recovery.next, outside] at inside
        cases inside
  | pause id => exact absurd trivial improper
  | resume id transitions =>
      rw [Proper, Unmarked, Classical.not_imp, Classical.not_imp] at improper
      obtain ⟨exist, named, present⟩ := improper
      subst named
      obtain ⟨item, found⟩ := Option.ne_none_iff_exists'.mp present
      exact resume_marks inv exist found
  | remove id =>
      rw [Proper, Unmarked, Classical.not_imp, Classical.not_imp] at improper
      obtain ⟨exist, named, present⟩ := improper
      subst named
      obtain ⟨item, found⟩ := Option.ne_none_iff_exists'.mp present
      intro sound
      have outside : (s.gfc.handle (.remove noFence)).1.outside = true := by
        simp only [Gfc.handle, exist, if_true, hal2GeofenceRemoveGeofences, found]
        exact setInjectInfo_outside .zero (by decide)
      have inside := sound.inside
      rw [Recovery.next, outside] at inside
      cases inside
  | recover sends => exact absurd trivial improper
  | transition id transition => exact absurd trivial improper
  | injectLoc id dn de =>
      rw [Proper, Classical.not_imp] at improper
      obtain ⟨exist, negative⟩ := improper
      intro sound
      have outside : (s.gfc.handle (.injectLoc id dn de)).1.outside = true := by
        simp only [Gfc.handle, exist, if_true, mtkGeoInjectInfoSet]
        exact setInjectInfo_outside _ (by omega)
      have inside := sound.inside
      rw [Recovery.next, outside] at inside
      cases inside

end Runs

/-- All fences stay stored along exactly the runs that add none over a paused one, keep away
from the key of the free slots, and name no row in front of the table. -/
theorem fences_stored_iff (requests : List Request) :
    AllStates Recovery.step Recovery.Sound .start requests ↔
      StepsMeet Recovery.step (fun s r => Proper s.gfc r) .start requests := by
  apply @allStates_iff_stepsMeet _ _ _ Recovery.Inv
  · intro s r t inv proper taken
    cases taken
    exact inv_next inv proper
  · exact fun _ => sound_of_inv
  · intro s r t inv improper taken
    cases taken
    exact not_sound_next inv improper
  · exact inv_start

/-- The second fence is added over the first, which is paused. -/
theorem not_fences_stored :
    let area (id : Int) : Area := ⟨id, 0, 0, 0, gpsGeofenceUncertain, gpsGeofenceEntered, 0, 0⟩
    ¬ AllStates Recovery.step Recovery.Sound .start
      [.init true false, .add (area 1), .pause 1, .add (area 2)] := by
  intro area all
  have last := all.last (t := _) rfl
  have total := last.total (by decide +kernel)
  revert total
  decide +kernel

end Connectivity.Geofence
