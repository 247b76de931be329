import Connectivity.Hal.Handlers

set_option autoImplicit false

/- When the handler of the other side calls back with what a message function was given. -/
namespace Connectivity.Hal

open DataCoder

def Outcome.map {α β : Type} (f : α → β) (outcome : Outcome α) : Outcome β :=
  ⟨outcome.calls.map f, outcome.ret⟩

namespace Hal2mnl

variable {τ τ' : Type}

def map (f : τ → τ') : Hal2mnl τ → Hal2mnl τ'
  | halReboot => halReboot
  | gpsInit => gpsInit
  | gpsStart => gpsStart
  | gpsStop => gpsStop
  | gpsCleanup => gpsCleanup
  | gpsInjectTime time timeReference uncertainty => gpsInjectTime time timeReference uncertainty
  | gpsInjectLocation lat lng acc => gpsInjectLocation lat lng acc
  | gpsDeleteAidingData flags => gpsDeleteAidingData flags
  | gpsSetPositionMode mode recurrence minInterval preferredAcc preferredTime =>
      gpsSetPositionMode mode recurrence minInterval preferredAcc preferredTime
  | dataConnOpen apn => dataConnOpen (f apn)
  | dataConnOpenWithApnIpType apn ipType => dataConnOpenWithApnIpType (f apn) ipType
  | dataConnClosed => dataConnClosed
  | dataConnFailed => dataConnFailed
  | setServer type hostname port => setServer type (f hostname) port
  | setRefLocation type mcc mnc lac cid => setRefLocation type mcc mnc lac cid
  | setId type setid => setId type (f setid)
  | niMessage msg => niMessage msg
  | niRespond notifId userResponse => niRespond notifId userResponse
  | updateNetworkState connected type roaming extraInfo =>
      updateNetworkState connected type roaming (f extraInfo)
  | updateNetworkAvailability available apn => updateNetworkAvailability available (f apn)
  | setGpsMeasurement enabled => setGpsMeasurement enabled
  | setGpsNavigation enabled => setGpsNavigation enabled
  | setVzwDebug enabled => setVzwDebug enabled

/-- The array of the handler takes all of a network initiated message. -/
def Handled : Hal2mnl (Option CString) → Prop
  | niMessage msg => msg.len.toInt ≤ 1024
  | _ => True

end Hal2mnl

/-- What of the receiver's buffer a sentence can take: it begins behind the version, the
command, the timestamp, and its own flag and length. -/
def sentenceRoom : Nat := buffSize - (4 + 4 + 8 + 1 + 4)

namespace Mnl2hal

variable {τ τ' : Type} {image image' : Nat → Type}

def map (f : τ → τ') (g : ∀ size, image size → image' size) :
    Mnl2hal τ image → Mnl2hal τ' image'
  | mnldReboot => mnldReboot
  | location fix => location (g _ fix)
  | gpsStatus status => gpsStatus (g _ status)
  | gpsSv sv => gpsSv (g _ sv)
  | nmea timestamp text length => nmea timestamp (f text) length
  | gpsCapabilities capabilities => gpsCapabilities (g _ capabilities)
  | gpsMeasurements data => gpsMeasurements (g _ data)
  | gpsNavigation msg => gpsNavigation (g _ msg)
  | gnssMeasurements data => gnssMeasurements (g _ data)
  | gnssNavigation msg => gnssNavigation (g _ msg)
  | requestWakelock => requestWakelock
  | releaseWakelock => releaseWakelock
  | requestUtcTime => requestUtcTime
  | requestDataConn addr => requestDataConn (g _ addr)
  | releaseDataConn => releaseDataConn
  | requestNiNotify sessionId niType type requestorId clientName requestorIdEncoding
      clientNameEncoding =>
      requestNiNotify sessionId niType type (f requestorId) (f clientName) requestorIdEncoding
        clientNameEncoding
  | requestSetId flags => requestSetId flags
  | requestRefLoc flags => requestRefLoc flags
  | vzwDebugScreenOutput str => vzwDebugScreenOutput (f str)

/-- The callback that a report corresponds to, with its arguments. -/
def callback : Mnl2hal (Option CString) Image → Mnl2hal (Option CString) fun _ => Binary
  | nmea timestamp text length =>
      nmea timestamp text
        (if length.toInt < sentenceRoom then length else .ofNat 32 sentenceRoom)
  | m => m.map id fun _ => Image.binary

/-- A sentence has a text. -/
def Handled : Mnl2hal (Option CString) Image → Prop
  | nmea _ text _ => text.isSome
  | _ => True

end Mnl2hal

/-- The outcome at mnld, its texts read where the callback finds them. -/
def mnldOutcome (interface : Hal2mnlCmd → Bool) (bytes : List UInt8) :
    Outcome (Hal2mnl (Option CString)) :=
  if bytes = [] then ⟨[], -1⟩
  else
    let got := (hal2mnlHdlr interface).call (received buffSize bytes)
    got.value.map (Hal2mnl.map (text got.cursor.buff))

/-- The outcome at the HAL, and its counters afterwards. -/
def halOutcome (address : BitVec 64) (interface : Mnl2halCmd → Bool)
    (reports : LocationReports) (bytes : List UInt8) :
    Outcome (Mnl2hal (Option CString) fun _ => Binary) × LocationReports :=
  if bytes = [] then (⟨[], -1⟩, reports)
  else
    let got := (mnl2halHdlr address interface reports).call (received buffSize bytes)
    (got.value.1.map (Mnl2hal.map (text got.cursor.buff) fun _ copied => copied), got.value.2)

/-- One call of the callback of a command, if it is set. -/
def invoke {α Cmd : Type} (interface : Cmd → Bool) (cmd : Cmd) (call : α) : Outcome α :=
  if interface cmd then ⟨[call], 0⟩ else ⟨[], -1⟩

theorem datagram_ne_nil (size : Nat) (version : BitVec 32)
    (fields : List (DataCoder.Field (Option CString))) :
        datagram size (.int version :: fields) ≠ [] := by
  rw [datagram_eq, encoding_cons]
  exact List.cons_ne_nil _ _

theorem boolInt_ne_zero (value : Bool) : (boolInt value != 0) = value := by
  cases value <;> rfl

/-- The arguments of a request are read as the function for it put them. -/
theorem reads_hal2mnlArguments {m : Hal2mnl (Option CString)}
    (fits : (encoding m.fields).length ≤ buffSize) (handled : m.Handled) :
    Reads (hal2mnlArguments m.cmd) (encoding m.body)
      fun buff call => call.map (text buff) = m := by
  have string {s : Option CString} (inside : Field.string s ∈ m.body) :
      (stringBytes s).length < 2 ^ 31 :=
    string_small fits (by decide) (List.mem_cons_of_mem _ (List.mem_cons_of_mem _ inside))
  cases m with
  | halReboot => exact reads_pure _ fun _ => rfl
  | gpsInit => exact reads_pure _ fun _ => rfl
  | gpsStart => exact reads_pure _ fun _ => rfl
  | gpsStop => exact reads_pure _ fun _ => rfl
  | gpsCleanup => exact reads_pure _ fun _ => rfl
  | gpsInjectTime time timeReference uncertainty =>
      apply (reads_getLong time).bind
      apply (reads_getLong timeReference).bind
      exact (reads_getInt uncertainty).bind (reads_pure _ fun _ => rfl)
  | gpsInjectLocation lat lng acc =>
      apply (reads_getLong lat).bind
      apply (reads_getLong lng).bind
      exact (reads_getInt acc).bind (reads_pure _ fun _ => rfl)
  | gpsDeleteAidingData flags => exact (reads_getInt flags).bind (reads_pure _ fun _ => rfl)
  | gpsSetPositionMode mode recurrence minInterval preferredAcc preferredTime =>
      apply (reads_getInt mode).bind
      apply (reads_getInt recurrence).bind
      apply (reads_getInt minInterval).bind
      apply (reads_getInt preferredAcc).bind
      exact (reads_getInt preferredTime).bind (reads_pure _ fun _ => rfl)
  | dataConnOpen apn =>
      refine reads_string_last (string (by simp [Hal2mnl.body])) fun buff pointer found => ?_
      rw [Hal2mnl.map, found]
  | dataConnOpenWithApnIpType apn ipType =>
      apply (reads_getString apn (string (by simp [Hal2mnl.body]))).bind
      intro pointer _
      apply (reads_getInt ipType).bind
      apply reads_pure
      intro buff found
      rw [Hal2mnl.map, found]
  | dataConnClosed => exact reads_pure _ fun _ => rfl
  | dataConnFailed => exact reads_pure _ fun _ => rfl
  | setServer type hostname port =>
      apply (reads_getInt type).bind
      apply (reads_getString hostname (string (by simp [Hal2mnl.body]))).bind
      intro pointer _
      apply (reads_getInt port).bind
      apply reads_pure
      intro buff found
      rw [Hal2mnl.map, found]
  | setRefLocation type mcc mnc lac cid =>
      apply (reads_getInt type).bind
      apply (reads_getInt mcc).bind
      apply (reads_getInt mnc).bind
      apply (reads_getInt lac).bind
      exact (reads_getInt cid).bind (reads_pure _ fun _ => rfl)
  | setId type setid =>
      apply (reads_getInt type).bind
      refine reads_string_last (string (by simp [Hal2mnl.body])) fun buff pointer found => ?_
      rw [Hal2mnl.map, found]
  | niMessage msg => exact (reads_getBinary msg handled).bind (reads_pure _ fun _ => rfl)
  | niRespond notifId userResponse =>
      apply (reads_getInt notifId).bind
      exact (reads_getInt userResponse).bind (reads_pure _ fun _ => rfl)
  | updateNetworkState connected type roaming extraInfo =>
      apply (reads_getInt connected).bind
      apply (reads_getInt type).bind
      apply (reads_getInt roaming).bind
      refine reads_string_last (string (by simp [Hal2mnl.body])) fun buff pointer found => ?_
      rw [Hal2mnl.map, found]
  | updateNetworkAvailability available apn =>
      apply (reads_getInt available).bind
      refine reads_string_last (string (by simp [Hal2mnl.body])) fun buff pointer found => ?_
      rw [Hal2mnl.map, found]
  | setGpsMeasurement enabled =>
      apply (reads_getInt (boolInt enabled)).bind
      exact reads_pure _ fun _ => congrArg Hal2mnl.setGpsMeasurement (boolInt_ne_zero enabled)
  | setGpsNavigation enabled =>
      apply (reads_getInt (boolInt enabled)).bind
      exact reads_pure _ fun _ => congrArg Hal2mnl.setGpsNavigation (boolInt_ne_zero enabled)
  | setVzwDebug enabled =>
      apply (reads_getInt (boolInt enabled)).bind
      exact reads_pure _ fun _ => congrArg Hal2mnl.setVzwDebug (boolInt_ne_zero enabled)

theorem arm_ends {α β : Type} {arguments : Get α} {c : Cursor} {f : List UInt8 → α → β}
    {whole : β} (callback : Bool) (ends : Ends arguments c fun buff call => f buff call = whole) :
    Ends (arm callback arguments) c fun buff outcome =>
      outcome.map (f buff) = if callback then ⟨[whole], 0⟩ else ⟨[], -1⟩ := by
  cases callback with
  | false => rfl
  | true =>
      rw [Ends] at ends
      rw [if_pos rfl, ← ends]
      rfl

/-- What a report carries is read as the function for it put it. Of a sentence this is shown
apart, for its length depends on where its text stands. -/
theorem reads_mnl2halArguments (address : BitVec 64) {m : Mnl2hal (Option CString) Image}
    (fits : (encoding m.fields).length ≤ buffSize) (other : m.cmd ≠ .nmea) :
    Reads (mnl2halArguments address m.cmd) (encoding m.body)
      fun buff call => call.map (text buff) (fun _ copied => copied) = m.callback := by
  have string {s : Option CString} (inside : Field.string s ∈ m.body) :
      (stringBytes s).length < 2 ^ 31 :=
    string_small fits (by decide) (List.mem_cons_of_mem _ (List.mem_cons_of_mem _ inside))
  have image {size : Nat} (value : Image size) :
      ReadsAs (getBinary size) (intBytes value.binary.len ++ value.binary.data) value.binary :=
    reads_getBinary value.binary (Int.le_of_eq value.binary_len)
  cases m with
  | mnldReboot => exact reads_pure _ fun _ => rfl
  | location fix => exact (image fix).bind (reads_pure _ fun _ => rfl)
  | gpsStatus status => exact (image status).bind (reads_pure _ fun _ => rfl)
  | gpsSv sv => exact (image sv).bind (reads_pure _ fun _ => rfl)
  | nmea timestamp text length => exact absurd rfl other
  | gpsCapabilities capabilities => exact (image capabilities).bind (reads_pure _ fun _ => rfl)
  | gpsMeasurements data => exact (image data).bind (reads_pure _ fun _ => rfl)
  | gpsNavigation msg => exact (image msg).bind (reads_pure _ fun _ => rfl)
  | gnssMeasurements data => exact (image data).bind (reads_pure _ fun _ => rfl)
  | gnssNavigation msg => exact (image msg).bind (reads_pure _ fun _ => rfl)
  | requestWakelock => exact reads_pure _ fun _ => rfl
  | releaseWakelock => exact reads_pure _ fun _ => rfl
  | requestUtcTime => exact reads_pure _ fun _ => rfl
  | requestDataConn addr => exact (image addr).bind (reads_pure _ fun _ => rfl)
  | releaseDataConn => exact reads_pure _ fun _ => rfl
  | requestNiNotify sessionId niType type requestorId clientName requestorIdEncoding
      clientNameEncoding =>
      apply (reads_getInt sessionId).bind
      apply (reads_getInt type).bind
      apply (reads_getString requestorId (string (by simp [Mnl2hal.body]))).bind
      intro requestor _
      apply (reads_getString clientName (string (by simp [Mnl2hal.body]))).bind
      intro client _
      apply (reads_getInt requestorIdEncoding).bind
      apply (reads_getInt clientNameEncoding).bind
      apply (reads_getInt niType).bind
      apply reads_pure
      intro buff foundClient foundRequestor
      rw [Mnl2hal.map, foundClient, foundRequestor]
      rfl
  | requestSetId flags => exact (reads_getInt flags).bind (reads_pure _ fun _ => rfl)
  | requestRefLoc flags => exact (reads_getInt flags).bind (reads_pure _ fun _ => rfl)
  | vzwDebugScreenOutput str =>
      refine reads_string_last (string (by simp [Mnl2hal.body])) fun buff pointer found => ?_
      rw [Mnl2hal.map, found]
      rfl

theorem clippedLength_sentence (length : BitVec 32) :
    clippedLength (.ofInt 32 ((8 + 8 + 5 : Nat) : Int)) length =
      if length.toInt < sentenceRoom then length else .ofNat 32 sentenceRoom := rfl

/-- The text of a sentence stands behind the header, the timestamp, its flag and its length. -/
theorem sentence_at_body (address : BitVec 64) (timestamp : BitVec 64) {s : CString}
    (length : BitVec 32) (small : (stringBytes (some s)).length < 2 ^ 31)
    {header : List UInt8} (eight : header.length = 8) (left : List UInt8) :
    Ends (mnl2halArguments address .nmea)
      (reading header (encoding [.long timestamp, .string (some s), .int length] ++ left) [])
      fun buff call => call.map (text buff) (fun _ copied => copied) =
        Mnl2hal.callback (.nmea timestamp (some s) length) := by
  have bytes : encoding [.long timestamp, .string (some s), .int length] ++ left =
      longBytes timestamp ++ (stringBytes (some s) ++ (intBytes length ++ left)) := by
    simp only [encoding, List.flatMap_cons, List.flatMap_nil, Field.bytes, List.append_nil,
      List.append_assoc]
  obtain ⟨time, timeCursor⟩ := value_cursor header
    (stringBytes (some s) ++ (intBytes length ++ left)) [] (reads_getLong timestamp)
  have pointer := getString_pointer (header ++ longBytes timestamp) (intBytes length ++ left) []
    small
  have start : (header ++ longBytes timestamp).length + 5 = 8 + 8 + 5 := by
    rw [List.length_append, eight, longBytes_length]
  rw [start] at pointer
  obtain ⟨found, read, same⟩ := reads_getString (some s) small (header ++ longBytes timestamp)
    (intBytes length ++ left) []
  rw [run, pointer, Prod.mk.injEq] at read
  obtain ⟨rfl, textCursor⟩ := read
  obtain ⟨len, lenCursor⟩ := getInt_reading (header ++ longBytes timestamp ++
    stringBytes (some s)) left [] length
  have whole : header ++ longBytes timestamp ++ stringBytes (some s) ++
      (intBytes length ++ left) ++ [] = (reading (header ++ longBytes timestamp ++
        stringBytes (some s) ++ intBytes length) left []).buff := by
    simp only [reading, List.append_assoc]
  rw [whole] at same
  have call : (mnl2halArguments address .nmea).call (reading header (longBytes timestamp ++
        (stringBytes (some s) ++ (intBytes length ++ left))) []) =
      ⟨.nmea timestamp (some ((8 + 8 + 5 : Nat) : Int))
          (clippedLength (.ofInt 32 ((8 + 8 + 5 : Nat) : Int)) length),
        reading (header ++ longBytes timestamp ++ stringBytes (some s) ++ intBytes length)
          left [],
        ((mnl2halArguments address .nmea).call (reading header (longBytes timestamp ++
          (stringBytes (some s) ++ (intBytes length ++ left))) [])).accesses⟩ := by
    simp only [mnl2halArguments, call_bind, call_pure, time, timeCursor, pointer, textCursor,
      len, lenCursor, usedLength]
  rw [bytes, Ends, call, clippedLength_sentence, Mnl2hal.map, same]
  rfl

/-- Behind the header, what a report carries is read as the function for it put it. -/
theorem arguments_at_body (address : BitVec 64) {m : Mnl2hal (Option CString) Image}
    (fits : (encoding m.fields).length ≤ buffSize) (handled : m.Handled)
    {header : List UInt8} (eight : header.length = 8) (left : List UInt8) :
    Ends (mnl2halArguments address m.cmd) (reading header (encoding m.body ++ left) [])
      fun buff call => call.map (text buff) (fun _ copied => copied) = m.callback := by
  by_cases sentence : m.cmd = .nmea
  · cases m with
    | nmea timestamp text length =>
        cases text with
        | none => cases handled
        | some s =>
            have small : (stringBytes (some s)).length < 2 ^ 31 :=
              string_small fits (by decide) (List.mem_cons_of_mem _
                (List.mem_cons_of_mem _ (by simp [Mnl2hal.body])))
            exact sentence_at_body address timestamp length small eight left
    | _ => cases sentence
  · exact (reads_mnl2halArguments address fits sentence).ends header left []

theorem mnldOutcome_of_handled (interface : Hal2mnlCmd → Bool) {m : Hal2mnl (Option CString)}
    (fits : (encoding m.fields).length ≤ buffSize) (handled : m.Handled) :
    mnldOutcome interface (datagram buffSize m.fields) = invoke interface m.cmd m := by
  have sent : datagram buffSize m.fields ≠ [] := datagram_ne_nil _ _ _
  have ends : Ends (hal2mnlHdlr interface) (received buffSize (datagram buffSize m.fields))
      fun buff outcome => outcome.map (Hal2mnl.map (text buff)) = invoke interface m.cmd m := by
    apply ends_behind_header fits
    intro left
    rw [Hal2mnlCmd.ofInt_toInt]
    exact arm_ends (interface m.cmd) ((reads_hal2mnlArguments fits handled).ends _ left [])
  rw [mnldOutcome, if_neg sent]
  exact ends

/-- The counters after a report: only a location report changes them. -/
def LocationReports.after (reports : LocationReports) (cmd : Mnl2halCmd) : LocationReports :=
  if cmd = .location then
    if reports.early then reports.counted else { reports with count := 0 }
  else reports

theorem mnl2halArm_early (address : BitVec 64) (interface : Mnl2halCmd → Bool)
    {reports : LocationReports} (early : reports.early) :
    mnl2halArm address interface reports .location = pure (⟨[], 0⟩, reports.counted) := by
  simp only [mnl2halArm, if_pos early]

theorem mnl2halArm_other (address : BitVec 64) (interface : Mnl2halCmd → Bool)
    (reports : LocationReports) {cmd : Mnl2halCmd}
    (other : ¬ (cmd = .location ∧ reports.early)) :
    mnl2halArm address interface reports cmd =
      arm (interface cmd) (mnl2halArguments address cmd) >>= fun outcome =>
        pure (outcome, reports.after cmd) := by
  cases cmd with
  | location =>
      have late : ¬ reports.early := fun early => other ⟨rfl, early⟩
      simp only [mnl2halArm, LocationReports.after, if_neg late, if_true]
  | _ => rfl

theorem halOutcome_of_handled (address : BitVec 64) (interface : Mnl2halCmd → Bool)
    (reports : LocationReports) {m : Mnl2hal (Option CString) Image}
    (fits : (encoding m.fields).length ≤ buffSize) (handled : m.Handled) :
    halOutcome address interface reports (datagram buffSize m.fields) =
      (if m.cmd = .location ∧ reports.early then ⟨[], 0⟩ else invoke interface m.cmd m.callback,
        reports.after m.cmd) := by
  have sent : datagram buffSize m.fields ≠ [] := datagram_ne_nil _ _ _
  have ends : Ends (mnl2halHdlr address interface reports)
      (received buffSize (datagram buffSize m.fields)) fun buff value =>
        (value.1.map (Mnl2hal.map (text buff) fun _ copied => copied), value.2) =
          (if m.cmd = .location ∧ reports.early then ⟨[], 0⟩
            else invoke interface m.cmd m.callback, reports.after m.cmd) := by
    apply ends_behind_header fits
    intro left
    rw [Mnl2halCmd.ofInt_toInt]
    by_cases early : m.cmd = .location ∧ reports.early
    · simp only [early, mnl2halArm_early, LocationReports.after, and_self, if_true]
      rfl
    · simp only [if_neg early, mnl2halArm_other address interface reports early]
      exact Prod.ext (arm_ends (interface m.cmd) (arguments_at_body address fits handled rfl left))
        rfl
  rw [halOutcome, if_neg sent]
  exact ends

/-- Whatever a message function is given that fits the buffer, the other side is called back
once with it. A location report that comes early is only counted, and the length of a sentence
is cut where the receiver's buffer ends. -/
theorem hal_wire_agreement :
    (∀ m : Hal2mnl (Option CString), (encoding m.fields).length ≤ buffSize → m.Handled →
      ∀ interface, mnldOutcome interface (datagram buffSize m.fields) =
        invoke interface m.cmd m) ∧
    (∀ m : Mnl2hal (Option CString) Image, (encoding m.fields).length ≤ buffSize → m.Handled →
      ∀ address interface reports,
        halOutcome address interface reports (datagram buffSize m.fields) =
          (if m.cmd = .location ∧ reports.early then ⟨[], 0⟩
            else invoke interface m.cmd m.callback, reports.after m.cmd)) := by
  constructor
  · intro m fits handled interface
    exact mnldOutcome_of_handled interface fits handled
  · intro m fits handled address interface reports
    exact halOutcome_of_handled address interface reports fits handled

theorem hal_wire_agreement_two :
    (∀ interface,
        mnldOutcome interface (datagram buffSize (Hal2mnl.niMessage ⟨1, [6], rfl⟩).fields) =
      invoke interface .niMessage (.niMessage ⟨1, [6], rfl⟩)) ∧
    ∀ address interface reports, halOutcome address interface reports
        (datagram buffSize (Mnl2hal.nmea 7 (some ⟨[36, 71], by decide⟩) 2).fields) =
      (invoke interface .nmea (.nmea 7 (some ⟨[36, 71], by decide⟩) 2), reports) :=
  ⟨hal_wire_agreement.1 _ (by decide) (by decide : (1 : BitVec 32).toInt ≤ 1024),
    hal_wire_agreement.2 (.nmea 7 (some ⟨[36, 71], by decide⟩) 2) (by decide) rfl⟩

/-- With a position mode of five seconds the first location report is not handed over. -/
theorem not_hal_wire_agreement :
    let reports := LocationReports.start.setPositionMode 5000
    let m : Mnl2hal (Option CString) Image :=
      .location ⟨.replicate gpsLocation.size 0, List.length_replicate, by decide⟩
    (encoding m.fields).length ≤ buffSize ∧
      (halOutcome 0 (fun _ => true) reports (datagram buffSize m.fields)).1 ≠
        invoke (fun _ => true) m.cmd m.callback := by
  intro reports m
  have fits : (encoding m.fields).length ≤ buffSize := by decide
  have early : reports.early := by decide
  refine ⟨fits, ?_⟩
  rw [halOutcome_of_handled 0 (fun _ => true) reports fits trivial, if_pos ⟨rfl, early⟩]
  exact fun same => List.cons_ne_nil _ _ (congrArg Outcome.calls same).symm

end Connectivity.Hal
