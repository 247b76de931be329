import Connectivity.Agps.Handlers
import Connectivity.DataCoder.Received

set_option autoImplicit false

/- What agps2mnl_hdlr hands to the callbacks of mnld.c for datagrams of any content. -/
namespace Connectivity.Agps

open DataCoder

namespace Agps2mnlCall

/-- The texts that a call hands over. -/
def texts {τ : Type} : Agps2mnlCall τ → List τ
  | .message (.niNotify _ _ _ requestorId clientName) => [requestorId, clientName]
  | .message (.niNotify2 _ _ _ requestorId clientName _ _) => [requestorId, clientName]
  | .message (.pmtk text) => [text]
  | .vzwDebugScreenOutput str => [str]
  | _ => []

/-- The texts that the callback reads without a test for `NULL`: `asc_str_to_usc2_str` reads
those of agps_ni_notify, while `put_string` tests those of agps_ni_notify2 and
vzw_debug_screen_output. What `mtk_agps_set_param` of libmnl does with the text of
agps_rcv_pmtk is not known here. -/
def dereferenced {τ : Type} (setParamReads : Bool) : Agps2mnlCall τ → List τ
  | .message (.niNotify _ _ _ requestorId clientName) => [requestorId, clientName]
  | .message (.pmtk text) => if setParamReads then [text] else []
  | _ => []

/-- The start and the length of LPPe assistance data. -/
def assistance {τ : Type} : Agps2mnlCall τ → Option (Int × Int)
  | .lppe _ data len => some (data, len.toInt)
  | _ => none

end Agps2mnlCall

/-- Texts are in the buffer, assistance data in the datagram, and no `NULL` is read. -/
structure Sound (setParamReads : Bool) (bytes buff : List UInt8)
    (call : Agps2mnlCall (Option Int)) : Prop where
  texts : ∀ text ∈ call.texts, ∀ pointer ∈ text, TextInside buff pointer
  assistance : ∀ data len, call.assistance = some (data, len) →
    0 ≤ len ∧ (len = 0 ∨ 0 ≤ data ∧ data + len ≤ bytes.length)
  present : none ∉ call.dereferenced setParamReads

/-- The calls that mnld, which sets every callback, gets for a datagram, and the buffer. -/
def onDatagram (bytes : List UInt8) : Got (List (Agps2mnlCall (Option Int))) :=
  (agps2mnlHdlr fun _ => true).call (received maxBuffSize bytes)

section Condition

variable (bytes : List UInt8)

/-- The receive buffer, from an index on. -/
def bufferAt (index : Int) : Cursor := { received maxBuffSize bytes with offset := index }

def intAt (index : Int) : BitVec 32 := (getInt.call (bufferAt bytes index)).value

/-- At the index stands a presence byte that is not zero, and behind it a length that is
not zero. -/
def HasString (index : Int) : Prop :=
  index < maxBuffSize ∧ (bufferAt bytes index).buff.getD index.toNat 0 ≠ 0 ∧
    intAt bytes (index + 1) ≠ 0

/-- Where the string that begins at the index ends, as far as the buffer goes. -/
def behindString (index : Int) : Int :=
  index + 5 + (bufferAt bytes (index + 5)).clip (intAt bytes (index + 1))

/-- The assistance data that the message announces has been received. -/
def Announced : Prop :=
  let len := (intAt bytes 8).toInt
  0 ≤ len ∧ (len = 0 ∨ 12 + len ≤ bytes.length)

/-- Assistance data has been received, and the strings of NI_NOTIFY are there. -/
def Tame (setParamReads : Bool) : Prop :=
  match MnlAgpsType.ofInt (intAt bytes 4) with
  | some .niNotify => HasString bytes 16 ∧ HasString bytes (behindString bytes 16)
  | some .agps2mnlPmtk => setParamReads = true → HasString bytes 8
  | some .lppeAssistCommonIono => Announced bytes
  | some .lppeAssistCommonTrop => Announced bytes
  | some .lppeAssistCommonAlt => Announced bytes
  | some .lppeAssistCommonSolar => Announced bytes
  | some .lppeAssistCommonCcp => Announced bytes
  | some .lppeAssistGenericCcp => Announced bytes
  | some .lppeAssistGenericDm => Announced bytes
  | _ => True

end Condition

section Arms

variable {bytes : List UInt8}

theorem maxBuffSize_int : maxBuffSize < 2 ^ 31 := by decide

theorem bufferAt_inside (fits : bytes.length ≤ maxBuffSize) {index : Int} (nonneg : 0 ≤ index)
    (within : index ≤ maxBuffSize) : (bufferAt bytes index).Inside :=
  receivedAt_inside fits maxBuffSize_int nonneg within

theorem getInt_bufferAt (fits : bytes.length ≤ maxBuffSize) {index : Int} (nonneg : 0 ≤ index)
    (within : index + 4 ≤ maxBuffSize) :
    (getInt.call (bufferAt bytes index)).value = intAt bytes index ∧
      (getInt.call (bufferAt bytes index)).cursor = bufferAt bytes (index + 4) :=
  ⟨rfl, getInt_receivedAt fits maxBuffSize_int nonneg within⟩

/-- What follows the version and the type. -/
theorem onDatagram_behind (fits : bytes.length ≤ maxBuffSize) :
    let rest := ((MnlAgpsType.ofInt (intAt bytes 4)).elim (return [])
      (agps2mnlArm fun _ => true)).call (bufferAt bytes 8)
    (onDatagram bytes).value = rest.value ∧ (onDatagram bytes).cursor = rest.cursor := by
  rw [onDatagram, agps2mnlHdlr_elim]
  obtain ⟨value, cursor, _⟩ := call_header (fun type =>
    (MnlAgpsType.ofInt type).elim (return []) (agps2mnlArm fun _ => true)) fits maxBuffSize_int
      (by decide)
  exact ⟨value, cursor⟩

theorem onDatagram_eq (fits : bytes.length ≤ maxBuffSize) {type : MnlAgpsType}
    (known : MnlAgpsType.ofInt (intAt bytes 4) = some type) :
    (onDatagram bytes).value =
        ((agps2mnlArm (fun _ => true) type).call (bufferAt bytes 8)).value ∧
      (onDatagram bytes).cursor =
        ((agps2mnlArm (fun _ => true) type).call (bufferAt bytes 8)).cursor := by
  have behind := onDatagram_behind fits
  rw [known] at behind
  exact behind

theorem onDatagram_unknown (fits : bytes.length ≤ maxBuffSize)
    (unknown : MnlAgpsType.ofInt (intAt bytes 4) = none) : (onDatagram bytes).value = [] := by
  have behind := onDatagram_behind fits
  rw [unknown] at behind
  exact behind.1

end Arms

/-- The texts of all calls are in the buffer. -/
def TextsInside (buff : List UInt8) (calls : List (Agps2mnlCall (Option Int))) : Prop :=
  ∀ call ∈ calls, ∀ text ∈ call.texts, ∀ pointer ∈ text, TextInside buff pointer

theorem textsInside_of_texts {buff : List UInt8} {type : MnlAgpsType}
    {interface : MnlAgpsType → Bool} {call : Agps2mnlCall (Option Int)}
    (inside : ∀ text ∈ call.texts, ∀ pointer ∈ text, TextInside buff pointer) :
    TextsInside buff (invoke interface type call) := by
  intro other called
  rw [invoke] at called
  split at called
  · rw [List.mem_singleton] at called
    rw [called]
    exact inside
  · cases called

/-- A call without texts. -/
theorem textsInside_of_none {buff : List UInt8} {type : MnlAgpsType}
    {interface : MnlAgpsType → Bool} {call : Agps2mnlCall (Option Int)}
    (none : call.texts = []) : TextsInside buff (invoke interface type call) := by
  apply textsInside_of_texts
  intro text inside
  rw [none] at inside
  cases inside

theorem leaves_getSettings (fields : Nat) : Leaves (getSettings fields) fun _ _ => True := by
  induction fields with
  | zero => exact leaves_pure _ fun _ => trivial
  | succ fields ih =>
      exact leaves_getInt.andThen fun _ => ih.andThen fun _ => leaves_pure _ fun _ => trivial

theorem leaves_lppeArm (interface : MnlAgpsType → Bool) (type : MnlAgpsType)
    (assist : LppeAssist) : Leaves (lppeArm interface type assist) TextsInside := by
  have silent : Leaves (pure []) TextsInside := leaves_pure _ fun _ _ called => by cases called
  apply Leaves.ite (leaves_getInt.andThen fun len => leaves_cursor.andThen fun c => ?_) silent
  apply leaves_pure
  intro buff call called text inside
  rw [List.mem_singleton] at called
  rw [called] at inside
  cases inside

theorem mem_pair {buff : List UInt8} {first second : Option Int}
    (inside : ∀ pointer ∈ first, TextInside buff pointer)
    (inside' : ∀ pointer ∈ second, TextInside buff pointer) :
    ∀ text ∈ [first, second], ∀ pointer ∈ text, TextInside buff pointer := by
  intro text listed
  rw [List.mem_pair] at listed
  cases listed with
  | inl same =>
      rw [same]
      exact inside
  | inr same =>
      rw [same]
      exact inside'

theorem mem_one {buff : List UInt8} {first : Option Int}
    (inside : ∀ pointer ∈ first, TextInside buff pointer) :
    ∀ text ∈ [first], ∀ pointer ∈ text, TextInside buff pointer := by
  intro text listed
  rw [List.mem_singleton] at listed
  rw [listed]
  exact inside

/-- Every text that an arm hands over is in the buffer, whatever was received. -/
theorem leaves_agps2mnlArm (interface : MnlAgpsType → Bool) (type : MnlAgpsType) :
    Leaves (agps2mnlArm interface type) TextsInside := by
  have silent : Leaves (pure []) TextsInside := leaves_pure _ fun _ _ called => by cases called
  have number {call : BitVec 32 → Agps2mnlCall (Option Int)}
      (none : ∀ n, (call n).texts = []) :
      Leaves (getInt >>= fun n => pure (invoke interface type (call n))) TextsInside :=
    leaves_getInt.andThen fun n => leaves_pure _ fun _ => textsInside_of_none (none n)
  cases type with
  | agpsReboot => exact leaves_pure _ fun _ => textsInside_of_none rfl
  | agpsOpenGpsReq => exact number fun _ => rfl
  | agpsCloseGpsReq => exact leaves_pure _ fun _ => textsInside_of_none rfl
  | agpsResetGpsReq => exact number fun _ => rfl
  | agpsSessionDone => exact leaves_pure _ fun _ => textsInside_of_none rfl
  | niNotify =>
      apply leaves_getInt.andThen
      intro sessionId
      apply leaves_getInt.andThen
      intro notifyType
      apply leaves_getString.bind texts_stable
      intro requestorId
      apply leaves_getString.bind texts_stable
      intro clientName
      apply leaves_getInt.andThen
      intro niType
      apply leaves_pure
      intro buff client requestor
      exact textsInside_of_texts (mem_pair requestor client)
  | niNotify2 =>
      apply leaves_getInt.andThen
      intro sessionId
      apply leaves_getInt.andThen
      intro notifyType
      apply leaves_getString.bind texts_stable
      intro requestorId
      apply leaves_getString.bind texts_stable
      intro clientName
      apply leaves_getInt.andThen
      intro requestorIdEncoding
      apply leaves_getInt.andThen
      intro clientNameEncoding
      apply leaves_getInt.andThen
      intro niType
      apply leaves_pure
      intro buff client requestor
      exact textsInside_of_texts (mem_pair requestor client)
  | dataConnReq => exact leaves_getInt.andThen fun _ => number fun _ => rfl
  | dataConnReq2 => exact (leaves_getBinary _).andThen fun _ => number fun _ => rfl
  | dataConnRelease => exact leaves_pure _ fun _ => textsInside_of_none rfl
  | setIdReq => exact number fun _ => rfl
  | refLocReq => exact number fun _ => rfl
  | agps2mnlPmtk =>
      apply leaves_getString.bind texts_stable
      intro text
      exact leaves_pure _ fun _ inside => textsInside_of_texts (mem_one inside)
  | gpevt => exact number fun _ => rfl
  | agpsLoc =>
      exact (leaves_getBinary _).andThen fun _ => leaves_pure _ fun _ => textsInside_of_none rfl
  | settingsSync =>
      exact (leaves_getSettings 10).andThen fun _ =>
        leaves_pure _ fun _ => textsInside_of_none rfl
  | vzwDebugScreenOutput =>
      apply leaves_getString.bind texts_stable
      intro str
      exact leaves_pure _ fun _ inside => textsInside_of_texts (mem_one inside)
  | lppeAssistCommonIono => exact leaves_lppeArm _ _ _
  | lppeAssistCommonTrop => exact leaves_lppeArm _ _ _
  | lppeAssistCommonAlt => exact leaves_lppeArm _ _ _
  | lppeAssistCommonSolar => exact leaves_lppeArm _ _ _
  | lppeAssistCommonCcp => exact leaves_lppeArm _ _ _
  | lppeAssistGenericCcp => exact leaves_lppeArm _ _ _
  | lppeAssistGenericDm => exact leaves_lppeArm _ _ _
  | _ => exact silent

variable {bytes : List UInt8}

theorem onDatagram_texts (fits : bytes.length ≤ maxBuffSize) :
    TextsInside (onDatagram bytes).cursor.buff (onDatagram bytes).value := by
  cases known : MnlAgpsType.ofInt (intAt bytes 4) with
  | none =>
      rw [onDatagram_unknown fits known]
      intro call called
      cases called
  | some type =>
      obtain ⟨value, cursor⟩ := onDatagram_eq fits known
      rw [value, cursor]
      exact (leaves_agps2mnlArm _ type _ (bufferAt_inside fits (by decide) (by decide)).held).2.2

/-- A call that neither hands over assistance data nor reads a text. -/
def Plain (call : Agps2mnlCall (Option Int)) : Prop :=
  call.assistance = none ∧ ∀ setParamReads, call.dereferenced setParamReads = []

theorem lppeArm_value (fits : bytes.length ≤ maxBuffSize) (type : MnlAgpsType)
    (assist : LppeAssist) :
    ((lppeArm (fun _ => true) type assist).call (bufferAt bytes 8)).value =
      [.lppe assist 12 (intAt bytes 8)] := by
  obtain ⟨value, cursor⟩ :=
    getInt_bufferAt fits (by decide : (0 : Int) ≤ 8) (by decide : (8 : Int) + 4 ≤ maxBuffSize)
  simp only [lppeArm, if_true, call_bind, call_cursor, call_pure, value, cursor]
  rfl

/-- Assistance data is sound exactly if it has been received. -/
theorem sound_lppe_iff {buff : List UInt8} {setParamReads : Bool} {assist : LppeAssist} :
    (∀ call ∈ [Agps2mnlCall.lppe assist 12 (intAt bytes 8)],
      Sound setParamReads bytes buff call) ↔ Announced bytes := by
  constructor
  · intro sound
    have received := (sound _ List.mem_cons_self).assistance 12 _ rfl
    refine ⟨received.1, ?_⟩
    cases received.2 with
    | inl empty => exact .inl empty
    | inr within => exact .inr within.2
  · intro announced call called
    rw [List.mem_singleton] at called
    subst called
    constructor
    · intro text inside
      cases inside
    · intro data len same
      cases same
      refine ⟨announced.1, ?_⟩
      cases announced.2 with
      | inl empty => exact .inl empty
      | inr within => exact .inr ⟨by decide, within⟩
    · intro inside
      cases inside

theorem hasString_iff_found {index : Int} :
    HasString bytes index ↔ Found (receivedAt maxBuffSize bytes index) := Iff.rfl

theorem hasString_iff (fits : bytes.length ≤ maxBuffSize) {index : Int} (nonneg : 0 ≤ index)
    (within : index ≤ maxBuffSize) :
    (getString.call (bufferAt bytes index)).value.isSome ↔ HasString bytes index :=
  (getString_isSome (bufferAt_inside fits nonneg within)).trans hasString_iff_found.symm

/-- Whether a second string is found depends on the bytes behind the first. -/
theorem hasString_behind_iff (fits : bytes.length ≤ maxBuffSize) {index : Int}
    (nonneg : 0 ≤ index) (room : index + 5 < maxBuffSize) (first : HasString bytes index) :
    (getString.call (getString.call (bufferAt bytes index)).cursor).value.isSome ↔
      HasString bytes (behindString bytes index) :=
  (found_behind_iff fits maxBuffSize_int nonneg room (hasString_iff_found.mp first)).trans
    hasString_iff_found.symm

theorem niNotify_value (fits : bytes.length ≤ maxBuffSize) :
    ∃ sessionId type niType,
      ((agps2mnlArm (fun _ => true) .niNotify).call (bufferAt bytes 8)).value =
        [.message (.niNotify sessionId niType type
          (getString.call (bufferAt bytes 16)).value
          (getString.call (getString.call (bufferAt bytes 16)).cursor).value)] := by
  have session := (getInt_bufferAt fits (by decide : (0 : Int) ≤ 8)
    (by decide : (8 : Int) + 4 ≤ maxBuffSize)).2
  have type := (getInt_bufferAt fits (by decide : (0 : Int) ≤ 8 + 4)
    (by decide : (8 : Int) + 4 + 4 ≤ maxBuffSize)).2
  rw [show (8 : Int) + 4 + 4 = 16 from rfl] at type
  simp only [agps2mnlArm, call_bind, call_pure, invoke, if_true, session, type]
  exact ⟨_, _, _, rfl⟩

theorem pmtk_value :
    ((agps2mnlArm (fun _ => true) .agps2mnlPmtk).call (bufferAt bytes 8)).value =
      [.message (.pmtk (getString.call (bufferAt bytes 8)).value)] := rfl

/-- For texts in the buffer, a call without assistance data is sound exactly if no text that
its callback reads is missing. -/
theorem sound_iff_present {buff : List UInt8} {setParamReads : Bool}
    {call : Agps2mnlCall (Option Int)} (inside : TextsInside buff [call])
    (noAssistance : call.assistance = none) :
    (∀ other ∈ [call], Sound setParamReads bytes buff other) ↔
      none ∉ call.dereferenced setParamReads := by
  constructor
  · intro sound
    exact (sound _ List.mem_cons_self).present
  · intro present other called
    rw [List.mem_singleton] at called
    subst called
    constructor
    · exact inside _ List.mem_cons_self
    · intro data len same
      rw [noAssistance] at same
      cases same
    · exact present

theorem none_notMem_pair {first second : Option Int} :
    none ∉ [first, second] ↔ first.isSome ∧ second.isSome := by
  cases first <;> cases second <;> simp

theorem none_notMem_singleton {text : Option Int} : none ∉ [text] ↔ text.isSome := by
  cases text <;> simp

/-- The arms that can hand over something else than plain calls. -/
def Delicate : MnlAgpsType → Prop
  | .niNotify => True
  | .agps2mnlPmtk => True
  | .lppeAssistCommonIono => True
  | .lppeAssistCommonTrop => True
  | .lppeAssistCommonAlt => True
  | .lppeAssistCommonSolar => True
  | .lppeAssistCommonCcp => True
  | .lppeAssistGenericCcp => True
  | .lppeAssistGenericDm => True
  | _ => False

theorem plain_of_not_delicate {type : MnlAgpsType} (harmless : ¬ Delicate type) (c : Cursor) :
    ∀ call ∈ ((agps2mnlArm (fun _ => true) type).call c).value, Plain call := by
  have plain {call : Agps2mnlCall (Option Int)} (is : Plain call) :
      ∀ other ∈ [call], Plain other := by
    intro other called
    rw [List.mem_singleton] at called
    rw [called]
    exact is
  cases type <;> first
    | exact absurd trivial harmless
    | exact plain ⟨rfl, fun _ => rfl⟩
    | exact fun _ called => by cases called

/-- What mnld's callbacks are handed is sound exactly if assistance data has been received as
announced and the texts that they read are there. -/
theorem onDatagram_sound_iff (setParamReads : Bool) {bytes : List UInt8}
    (fits : bytes.length ≤ maxBuffSize) :
    (∀ call ∈ (onDatagram bytes).value,
      Sound setParamReads bytes (onDatagram bytes).cursor.buff call) ↔
      Tame bytes setParamReads := by
  have inside := onDatagram_texts fits
  rw [Tame]
  cases known : MnlAgpsType.ofInt (intAt bytes 4) with
  | none =>
      rw [onDatagram_unknown fits known]
      exact iff_of_true (fun call called => by cases called) trivial
  | some type =>
      have value := (onDatagram_eq fits known).1
      have lppe {assist : LppeAssist} (arm : agps2mnlArm (fun _ => true) type =
          lppeArm (fun _ => true) type assist) :
          (∀ call ∈ (onDatagram bytes).value,
            Sound setParamReads bytes (onDatagram bytes).cursor.buff call) ↔
          Announced bytes := by
        rw [value, arm, lppeArm_value fits]
        exact sound_lppe_iff
      by_cases delicate : Delicate type
      · cases type with
        | niNotify =>
            obtain ⟨sessionId, notifyType, niType, calls⟩ := niNotify_value fits
            rw [value, calls] at inside ⊢
            rw [sound_iff_present inside rfl, Agps2mnlCall.dereferenced, none_notMem_pair,
              hasString_iff fits (by decide) (by decide)]
            exact and_congr_right fun first =>
              hasString_behind_iff fits (by decide) (by decide) first
        | agps2mnlPmtk =>
            rw [value, pmtk_value] at inside ⊢
            rw [sound_iff_present inside rfl, Agps2mnlCall.dereferenced]
            have found := hasString_iff fits (by decide : (0 : Int) ≤ 8)
              (by decide : (8 : Int) ≤ maxBuffSize)
            cases setParamReads with
            | false =>
                exact iff_of_true (by simp) fun set => by cases set
            | true =>
                exact none_notMem_singleton.trans
                  (found.trans ⟨fun has _ => has, fun has => has rfl⟩)
        | lppeAssistCommonIono => exact lppe rfl
        | lppeAssistCommonTrop => exact lppe rfl
        | lppeAssistCommonAlt => exact lppe rfl
        | lppeAssistCommonSolar => exact lppe rfl
        | lppeAssistCommonCcp => exact lppe rfl
        | lppeAssistGenericCcp => exact lppe rfl
        | lppeAssistGenericDm => exact lppe rfl
        | _ => cases delicate
      · have plain := plain_of_not_delicate delicate (bufferAt bytes 8)
        rw [← value] at plain
        have sound : ∀ call ∈ (onDatagram bytes).value,
            Sound setParamReads bytes (onDatagram bytes).cursor.buff call := by
          intro call called
          constructor
          · exact inside call called
          · intro data len same
            rw [(plain call called).1] at same
            cases same
          · rw [(plain call called).2]
            exact List.not_mem_nil
        cases type <;> first
          | exact absurd trivial delicate
          | exact iff_of_true sound trivial

/-- A location request for the reference location hands over nothing to read. -/
theorem onDatagram_sound_iff_refLoc :
    (∀ call ∈ (onDatagram [1, 0, 0, 0, 234, 0, 0, 0, 5]).value,
      Sound true [1, 0, 0, 0, 234, 0, 0, 0, 5]
        (onDatagram [1, 0, 0, 0, 234, 0, 0, 0, 5]).cursor.buff call) ↔
      Tame [1, 0, 0, 0, 234, 0, 0, 0, 5] true :=
  onDatagram_sound_iff true (by decide)

/-- A message of twelve bytes that announces a hundred bytes of assistance data. -/
theorem not_onDatagram_sound :
    let bytes : List UInt8 := [1, 0, 0, 0, 255, 0, 0, 0, 100, 0, 0, 0]
    bytes.length ≤ maxBuffSize ∧
      ¬ ∀ call ∈ (onDatagram bytes).value,
        Sound false bytes (onDatagram bytes).cursor.buff call := by
  intro bytes
  have fits : bytes.length ≤ maxBuffSize := by decide
  refine ⟨fits, fun sound => ?_⟩
  have known : MnlAgpsType.ofInt (intAt bytes 4) = some .lppeAssistCommonIono := by decide
  have len : (intAt bytes 8).toInt = 100 := by decide
  have arm := lppeArm_value fits .lppeAssistCommonIono .commonIono
  have value := (onDatagram_eq fits known).1
  rw [agps2mnlArm, arm] at value
  rw [value] at sound
  have announced := sound_lppe_iff.mp sound
  rw [Announced, len] at announced
  exact absurd announced (by decide)

end Connectivity.Agps
