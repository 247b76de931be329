import Mathlib.Data.List.GetD

set_option autoImplicit false

/- The samples of the accelerometer and of the gyroscope on their way to the sensor fusion. -/
namespace Connectivity.Mpe

/-- Three `float`s, by their images. -/
structure Axes where
  x : UInt32
  y : UInt32
  z : UInt32
deriving DecidableEq, Repr

structure EventData where
  axes : Axes
  timestamp : Int
  utcTimestamp : UInt64
deriving DecidableEq, Repr

/-- What `memset` leaves. -/
def EventData.zero : EventData := ⟨⟨0, 0, 0⟩, 0, 0⟩

structure Tm where
  tmYear : Int
  tmMon : Int
  tmMday : Int
  tmHour : Int
  tmMin : Int
  tmSec : Int
deriving DecidableEq, Repr

/-- The times of the last `mpe_sensor_sync_kernel_utc_time`. -/
structure Sync where
  sysLatestKernelTime : Int
  sysLatestUtcTime : UInt64
  tvSec : Int
  tvUsec : Int
deriving DecidableEq, Repr

/-- An event of the sensors; what is computed from the clocks comes with it. -/
inductive SensorEvent
  | accelerometer (axes : Axes) (timestamp : Int)
  | gyroscope (axes : Axes) (timestamp : Int)
  | gyroscopeUncalibrated (axes : Axes) (timestamp : Int) (sync : Sync)
  | magneticField (axes : Axes) (timestamp : Int)
  | pressure (value : UInt32)
  | gyroTemperature (value : UInt32)
deriving DecidableEq, Repr

structure Imu where
  acceleration : Axes
  accelerationRaw : Axes
  inputTimeAcc : Int
  angularVelocity : Axes
  angularVelocityRaw : Axes
  inputTimeGyro : Int
  thermometer : UInt32
  magnetic : Axes
  magneticRaw : Axes
  inputTimeMag : Int
  pressure : UInt32
deriving DecidableEq, Repr

/-- The variables of the listener, the arrays by what their counts have of them; beside them what
has been handed to the algorithm, each sample with its `data_utc`. -/
structure Listener where
  accSamples : List EventData
  gyrSamples : List EventData
  prevDataIsGyro : Bool
  magSamples : EventData
  barSamples : UInt32
  gyrTemperature : UInt32
  handed : List (Imu × UInt64)
deriving DecidableEq, Repr

def Listener.init : Listener := ⟨[], [], false, .zero, 0, 0, []⟩

/-- `MAX_NUM_SAMPLES`. -/
def maxNumSamples : Nat := 15

section Handlers

variable (gmtime : Int → Tm)

/-- The UTC of a sample as a number of 17 digits. -/
def utcTimestamp (sync : Sync) (timestamp : Int) : UInt64 :=
  if sync.sysLatestUtcTime = 0 then 0
  else
    let behind := timestamp - sync.sysLatestKernelTime
    let sec := behind.tdiv 1000000000 + sync.tvSec
    let usec := (behind.tmod 1000000000).tdiv 1000 + sync.tvUsec
    let tvSec := if 1000000 ≤ usec then sec + 1 else sec
    let tvUsec := if 1000000 ≤ usec then usec - 1000000 else usec
    let tm := gmtime tvSec
    UInt64.ofInt (tm.tmYear + 1900) * 10000000000000 + UInt64.ofInt (tm.tmMon + 1) * 100000000000 +
      UInt64.ofInt tm.tmMday * 1000000000 + UInt64.ofInt tm.tmHour * 10000000 +
      UInt64.ofInt tm.tmMin * 100000 + UInt64.ofInt tm.tmSec * 1000 +
      UInt64.ofInt (tvUsec.tdiv 1000)

namespace Listener

variable (s : Listener)

def imu (acc gyr : EventData) : Imu where
  acceleration := acc.axes
  accelerationRaw := acc.axes
  inputTimeAcc := acc.timestamp
  angularVelocity := gyr.axes
  angularVelocityRaw := gyr.axes
  inputTimeGyro := gyr.timestamp
  thermometer := s.gyrTemperature
  magnetic := s.magSamples.axes
  magneticRaw := s.magSamples.axes
  inputTimeMag := s.magSamples.timestamp
  pressure := s.barSamples

/-- `mpe_sensor_acquire_Data`. -/
def acquireData : Listener × List (Imu × UInt64) :=
  let data :=
    if s.gyrSamples.length ≥ maxNumSamples ∨ s.gyrSamples.length = 0 then []
    else if s.accSamples.length ≥ maxNumSamples ∨ s.accSamples.length = 0 then []
    else
      (List.range s.gyrSamples.length).map fun i =>
        let j := if i ≥ s.accSamples.length then s.accSamples.length - 1 else i
        let acc := s.accSamples.getD j .zero
        let gyr := s.gyrSamples.getD i .zero
        (s.imu acc gyr, gyr.utcTimestamp)
  ({ s with accSamples := [], gyrSamples := [] }, data)

/-- `mpe_run_algo`, whose `mpe_kernel_inject` takes the samples one after another. -/
def mpeRunAlgo : Listener :=
  let acquired := s.acquireData
  { acquired.1 with handed := acquired.1.handed ++ acquired.2 }

/-- A sample of the gyroscope. -/
def onGyro (sample : EventData) : Listener :=
  let s := if s.gyrSamples.length < maxNumSamples then
    { s with gyrSamples := s.gyrSamples ++ [sample] } else s
  { s with prevDataIsGyro := true }

/-- `MpeListenrCallback::onEvent`. The UTC of a calibrated sample stays zero. -/
def onEvent : SensorEvent → Listener
  | .accelerometer axes timestamp =>
      let s := if s.prevDataIsGyro then
        mpeRunAlgo { s with prevDataIsGyro := false } else s
      if s.accSamples.length < maxNumSamples then
        { s with accSamples := s.accSamples ++ [⟨axes, timestamp, 0⟩] }
      else s
  | .gyroscope axes timestamp => s.onGyro ⟨axes, timestamp, 0⟩
  | .gyroscopeUncalibrated axes timestamp sync =>
      s.onGyro ⟨axes, timestamp, utcTimestamp gmtime sync timestamp⟩
  | .magneticField axes timestamp => { s with magSamples := ⟨axes, timestamp, 0⟩ }
  | .pressure value => { s with barSamples := value }
  | .gyroTemperature value => { s with gyrTemperature := value }

end Listener

end Handlers

/-- The samples that come between two runs of the algorithm. -/
structure SampleBatch where
  acc : List EventData
  gyr : List EventData
deriving DecidableEq, Repr

/-- Samples of both kinds as a pair, each with its time, and the UTC of the second. -/
structure Motion where
  acceleration : Axes
  inputTimeAcc : Int
  angularVelocity : Axes
  inputTimeGyro : Int
  utc : UInt64
deriving DecidableEq, Repr

def Imu.motion (imu : Imu) (utc : UInt64) : Motion :=
  ⟨imu.acceleration, imu.inputTimeAcc, imu.angularVelocity, imu.inputTimeGyro, utc⟩

def EventData.motion (acc gyr : EventData) : Motion :=
  ⟨acc.axes, acc.timestamp, gyr.axes, gyr.timestamp, gyr.utcTimestamp⟩

namespace SampleBatch

variable (batch : SampleBatch)

/-- What a batch is to the algorithm: each sample of the gyroscope in its order, with the sample of
the accelerometer that has its index, or the last one. -/
def motions : List Motion :=
  batch.gyr.mapIdx fun i gyr => (batch.acc.getD (min i (batch.acc.length - 1)) .zero).motion gyr

/-- It has samples of both kinds, and no more than the arrays hold. -/
def Fits : Prop :=
  (1 ≤ batch.acc.length ∧ batch.acc.length ≤ maxNumSamples) ∧
    1 ≤ batch.gyr.length ∧ batch.gyr.length ≤ maxNumSamples

/-- It has samples of both kinds and fills neither array. At a full array, where the counts stop, it
cannot be told whether samples have been left out. -/
def Regular : Prop :=
  (1 ≤ batch.acc.length ∧ batch.acc.length < maxNumSamples) ∧
    1 ≤ batch.gyr.length ∧ batch.gyr.length < maxNumSamples

instance : Decidable batch.Fits := inferInstanceAs (Decidable (_ ∧ _))

instance : Decidable batch.Regular := inferInstanceAs (Decidable (_ ∧ _))

end SampleBatch

/-- The batches of a sequence of events; a batch ends where a sample of the accelerometer follows
one of the gyroscope. -/
structure Batches where
  ended : List SampleBatch
  current : SampleBatch
deriving DecidableEq, Repr

namespace Batches

def start : Batches := ⟨[], ⟨[], []⟩⟩

variable (gmtime : Int → Tm) (b : Batches)

def addGyro (sample : EventData) : Batches :=
  { b with current := { b.current with gyr := b.current.gyr ++ [sample] } }

def add : SensorEvent → Batches
  | .accelerometer axes timestamp =>
      if b.current.gyr = [] then
        { b with current := { b.current with acc := b.current.acc ++ [⟨axes, timestamp, 0⟩] } }
      else ⟨b.ended ++ [b.current], ⟨[⟨axes, timestamp, 0⟩], []⟩⟩
  | .gyroscope axes timestamp => b.addGyro ⟨axes, timestamp, 0⟩
  | .gyroscopeUncalibrated axes timestamp sync =>
      b.addGyro ⟨axes, timestamp, utcTimestamp gmtime sync timestamp⟩
  | _ => b

end Batches

section Runs

variable (gmtime : Int → Tm) (events : List SensorEvent)

def listened : Listener := events.foldl (Listener.onEvent gmtime) .init

def batches : Batches := events.foldl (Batches.add gmtime) .start

/-- The pairs that have been handed to the algorithm. -/
def Listener.motions (s : Listener) : List Motion :=
  s.handed.map fun sample => sample.1.motion sample.2

/-- The listener holds what fits of the batch that has begun, and has handed on the regular ones of
the batches that have ended. -/
structure Keeps (s : Listener) (b : Batches) : Prop where
  edge : s.prevDataIsGyro = true ↔ b.current.gyr ≠ []
  acc : s.accSamples = b.current.acc.take maxNumSamples
  gyr : s.gyrSamples = b.current.gyr.take maxNumSamples
  handed : s.motions = (b.ended.filter fun batch => batch.Regular).flatMap SampleBatch.motions

variable {gmtime} {s : Listener} {b : Batches}

theorem keeps_init : Keeps .init .start := by
  refine ⟨⟨fun other => ?_, fun other => ?_⟩, ?_, ?_, rfl⟩
  · cases other
  · exact absurd rfl other
  · exact List.take_nil.symm
  · exact List.take_nil.symm

/-- A sample that finds its array full is the one that does not fit. -/
theorem take_sample {samples : List EventData} (sample : EventData) :
    (if (samples.take maxNumSamples).length < maxNumSamples then
      samples.take maxNumSamples ++ [sample] else samples.take maxNumSamples) =
    (samples ++ [sample]).take maxNumSamples := by
  rw [List.length_take]
  split
  · rename_i room
    have whole : samples.length < maxNumSamples := by omega
    rw [List.take_of_length_le (by omega),
      List.take_of_length_le (by rw [List.length_append]; exact whole)]
  · rw [List.take_append_of_le_length (by omega)]

theorem keeps_gyro (keeps : Keeps s b) (sample : EventData) :
    Keeps (s.onGyro sample) (b.addGyro sample) := by
  have stored : (s.onGyro sample).gyrSamples =
      (b.current.gyr ++ [sample]).take maxNumSamples := by
    rw [← take_sample, ← keeps.gyr, Listener.onGyro]
    split <;> rfl
  have others : (s.onGyro sample).prevDataIsGyro = true ∧
      (s.onGyro sample).accSamples = s.accSamples ∧
      (s.onGyro sample).motions = s.motions := by
    rw [Listener.onGyro]
    split <;> exact ⟨rfl, rfl, rfl⟩
  obtain ⟨edge, acc, handed⟩ := others
  refine ⟨iff_of_true edge ?_, acc.trans keeps.acc, stored, handed.trans keeps.handed⟩
  simp [Batches.addGyro]

/-- The samples that are acquired of two arrays that are not full are those of their batch. -/
theorem imus_motions : ((List.range s.gyrSamples.length).map fun i =>
      let j := if i ≥ s.accSamples.length then s.accSamples.length - 1 else i
      let acc := s.accSamples.getD j .zero
      let gyr := s.gyrSamples.getD i .zero
      (s.imu acc gyr, gyr.utcTimestamp)).map (fun sample => sample.1.motion sample.2) =
    (SampleBatch.mk s.accSamples s.gyrSamples).motions := by
  apply List.ext_getElem
  · simp [SampleBatch.motions]
  · intro i inside _
    have index : (if i ≥ s.accSamples.length then s.accSamples.length - 1 else i) =
        min i (s.accSamples.length - 1) := by
      split <;> omega
    have here : i < s.gyrSamples.length := by simpa using inside
    simp only [List.getElem_map, List.getElem_range, SampleBatch.motions, List.getElem_mapIdx,
      index, List.getD_eq_getElem _ _ here]
    rfl

/-- What is acquired of the batch that ends. -/
theorem acquireData_motions (acc : s.accSamples = b.current.acc.take maxNumSamples)
    (gyr : s.gyrSamples = b.current.gyr.take maxNumSamples) :
    s.acquireData.2.map (fun sample => sample.1.motion sample.2) =
      if b.current.Regular then b.current.motions else [] := by
  have accLength := congrArg List.length acc
  have gyrLength := congrArg List.length gyr
  rw [List.length_take] at accLength gyrLength
  simp only [Listener.acquireData]
  by_cases gyrBad : s.gyrSamples.length ≥ maxNumSamples ∨ s.gyrSamples.length = 0
  · rw [if_pos gyrBad, if_neg]
    · rfl
    · intro ⟨_, someGyr, fewGyr⟩
      omega
  · by_cases accBad : s.accSamples.length ≥ maxNumSamples ∨ s.accSamples.length = 0
    · rw [if_neg gyrBad, if_pos accBad, if_neg]
      · rfl
      · intro ⟨⟨someAcc, fewAcc⟩, _⟩
        omega
    · have regular : b.current.Regular := ⟨⟨by omega, by omega⟩, by omega, by omega⟩
      rw [List.take_of_length_le (Nat.le_of_lt regular.1.2)] at acc
      rw [List.take_of_length_le (Nat.le_of_lt regular.2.2)] at gyr
      rw [if_neg gyrBad, if_neg accBad, if_pos regular, imus_motions, acc, gyr]

/-- A sample of the accelerometer behind one of the gyroscope ends the batch. -/
theorem keeps_acc (keeps : Keeps s b) (axes : Axes) (timestamp : Int) :
    Keeps (s.onEvent gmtime (.accelerometer axes timestamp))
      (b.add gmtime (.accelerometer axes timestamp)) := by
  have stored : ∀ t : Listener, ∀ samples : List EventData,
      t.accSamples = samples.take maxNumSamples →
      (if t.accSamples.length < maxNumSamples then
        { t with accSamples := t.accSamples ++ [EventData.mk axes timestamp 0] } else t) =
      { t with accSamples := (samples ++ [EventData.mk axes timestamp 0]).take maxNumSamples } := by
    intro t samples same
    rw [← take_sample, ← same]
    split <;> rfl
  by_cases ends : s.prevDataIsGyro = true
  · have later : b.current.gyr ≠ [] := keeps.edge.mp ends
    simp only [Listener.onEvent, Batches.add, if_pos ends, if_neg later]
    rw [stored _ [] (by simp [Listener.mpeRunAlgo, Listener.acquireData])]
    refine ⟨iff_of_false (fun other => by cases other) fun other => other rfl, rfl, ?_, ?_⟩
    · exact List.take_nil.symm
    · show List.map _ (s.handed ++ _) = _
      rw [List.map_append, List.filter_append, List.flatMap_append]
      refine congrArg₂ _ keeps.handed ((acquireData_motions keeps.acc keeps.gyr).trans ?_)
      by_cases regular : b.current.Regular <;> simp [regular]
  · have none : b.current.gyr = [] :=
      Classical.byContradiction fun some => ends (keeps.edge.mpr some)
    simp only [Listener.onEvent, Batches.add, if_neg ends, if_pos none]
    rw [stored s b.current.acc keeps.acc]
    exact ⟨keeps.edge, rfl, keeps.gyr, keeps.handed⟩

theorem keeps_event (keeps : Keeps s b) (e : SensorEvent) :
    Keeps (s.onEvent gmtime e) (b.add gmtime e) := by
  cases e with
  | accelerometer axes timestamp => exact keeps_acc keeps axes timestamp
  | gyroscope axes timestamp => exact keeps_gyro keeps _
  | gyroscopeUncalibrated axes timestamp sync => exact keeps_gyro keeps _
  | magneticField axes timestamp => exact ⟨keeps.edge, keeps.acc, keeps.gyr, keeps.handed⟩
  | pressure value => exact ⟨keeps.edge, keeps.acc, keeps.gyr, keeps.handed⟩
  | gyroTemperature value => exact ⟨keeps.edge, keeps.acc, keeps.gyr, keeps.handed⟩

theorem keeps_run : Keeps (listened gmtime events)
    (batches gmtime events) := by
  have run : ∀ s b, Keeps s b →
      Keeps (events.foldl (Listener.onEvent gmtime) s)
        (events.foldl (Batches.add gmtime) b) := by
    induction events with
    | nil => exact fun _ _ keeps => keeps
    | cons e rest ih => exact fun s b keeps => ih _ _ (keeps_event keeps e)
  exact run .init .start keeps_init

end Runs

/-- Of the batches that have ended the regular ones are handed on, each sample of the gyroscope
once, in order, and with its sample of the accelerometer. Nothing else is. -/
theorem batches_handed (gmtime : Int → Tm) (events : List SensorEvent) :
    (listened gmtime events).motions =
      ((batches gmtime events).ended.filter fun batch => batch.Regular).flatMap
        SampleBatch.motions :=
  (keeps_run events).handed

/-- A sample of one kind with the time it was taken at. -/
def accEvent (timestamp : Int) : SensorEvent := .accelerometer ⟨1, 2, 3⟩ timestamp

def gyrEvent (timestamp : Int) : SensorEvent :=
  .gyroscopeUncalibrated ⟨4, 5, 6⟩ timestamp ⟨0, 0, 0, 0⟩

def noTime (_ : Int) : Tm := ⟨0, 0, 0, 0, 0, 0⟩

/-- Fifteen samples of the gyroscope fill their array and are dropped. -/
theorem not_batches_handed : ¬ ∀ (gmtime : Int → Tm) (events : List SensorEvent),
    (∀ batch ∈ (batches gmtime events).ended, batch.Fits) →
      (listened gmtime events).motions =
        (batches gmtime events).ended.flatMap SampleBatch.motions := by
  intro all
  have handed := all noTime
    (accEvent 0 :: (List.range 15).map (fun i => gyrEvent (Int.ofNat i)) ++ [accEvent 15])
    (by decide)
  exact absurd handed (by decide)

end Connectivity.Mpe
