import Connectivity.DebugLog.PingPang
import Connectivity.Transition.Run

set_option autoImplicit false

namespace Connectivity.DebugLog

open Bytes Transition

/-- The bytes of some messages in order, less as many whole batches as have been overwritten,
each of them some bytes that fit one buffer. -/
inductive Batched : List (List UInt8) → Nat → List UInt8 → Prop
  | nil : Batched [] 0 []
  | kept {messages : List (List UInt8)} {loose : Nat} {bytes : List UInt8}
      (batch : List (List UInt8)) (before : Batched messages loose bytes) :
      Batched (messages ++ batch) loose (bytes ++ batch.flatten)
  | lost {messages : List (List UInt8)} {loose : Nat} {bytes : List UInt8}
      (batch : List (List UInt8)) (some : batch.flatten ≠ [])
      (fits : batch.flatten.length ≤ endOffset) (before : Batched messages loose bytes) :
      Batched (messages ++ batch) (loose + 1) bytes

theorem Batched.all {messages : List (List UInt8)} {bytes : List UInt8}
    (batched : Batched messages 0 bytes) : bytes = messages.flatten := by
  generalize none : 0 = loose at batched
  induction batched with
  | nil => rfl
  | kept batch before ih => rw [List.flatten_append, ih none]
  | lost => exact absurd none (Nat.succ_ne_zero _).symm

/-- The buffer that the thread reads. -/
def ConsumerStep.reads : ConsumerStep → Option Which
  | .reading which | .logged which | .cleared which | .emptied which => some which
  | .idle | .flushed => none

namespace PingPang

variable {s t : PingPang} {which : Which} {message content ready : List UInt8}
  {messages batch : List (List UInt8)}

/-- What waits in a buffer to be logged. -/
def waiting (s : PingPang) (which : Which) : List UInt8 :=
  let half := s.half which
  if half.state = .readable ∨ s.consumer = .reading which then half.data.take half.lenthToWrite
  else []

/-- What is in the buffers and has not been passed to the logger. -/
def held (s : PingPang) : List UInt8 :=
  match s.nextWrite with
  | none => []
  | some cursor =>
      if s.consumer = .flushed then []
      else s.waiting cursor.buffer.other ++ (s.half cursor.buffer).data.take cursor.offset

/-- One buffer is being written, with its cursor in it, and what was passed to the logger is
what was accepted, but for the batches counted as lost and for what is still held. -/
structure InOrder (s : PingPang) : Prop where
  oneWriting : s.nextWrite ≠ none → ∃ which offset, s.nextWrite = some ⟨which, offset⟩ ∧
    (s.half which).state = .writing ∧ (s.half which.other).state ≠ .writing ∧
    (s.half which).data.length = pingpangBufferSize ∧ offset ≤ endOffset
  inOrder : Batched s.accepted s.numLoose (s.logged ++ s.held)
  ended : ∀ session ∈ s.ended, Batched session.accepted session.loose session.logged

/-- Between a flush and the free after it no message with a byte in it is copied. -/
def CopiesApart (s : PingPang) : PingPangInput → Prop
  | .copy => s.consumer = .flushed → ∀ message, s.caller = some message →
      message = [] ∨ pingpangBufferSize - 1 ≤ message.length
  | .call _ | .init _ | .write | .flush | .free => True

/-- The buffer that is being written. -/
structure Writing (half : Half) (nextWrite : Option Cursor) (which : Which)
    (content : List UInt8) : Prop where
  state : half.state = .writing
  cursor : nextWrite = some ⟨which, content.length⟩
  size : half.data.length = pingpangBufferSize
  filled : Filled half.data content
  inside : content.length ≤ endOffset

/-- The other buffer, by what it holds that has not been logged. -/
inductive Drain (half : Half) (consumer : ConsumerStep) (which : Which) : List UInt8 → Prop
  | writable (state : half.state = .writable) (free : consumer.reads = none) :
      Drain half consumer which []
  | readable {ready : List UInt8} (state : half.state = .readable) (free : consumer.reads = none)
      (filled : Filled half.data ready) (length : half.lenthToWrite = ready.length)
      (some : ready ≠ []) : Drain half consumer which ready
  | reading {ready : List UInt8} (state : half.state = .reading)
      (reads : consumer = .reading which) (filled : Filled half.data ready)
      (length : half.lenthToWrite = ready.length) : Drain half consumer which ready
  | done (state : half.state = .reading) (unlogged : consumer ≠ .reading which)
      (reads : consumer.reads = some which) : Drain half consumer which []

/-- A session that is under way: of the messages accepted, `batch` is in the buffer that is
being written, and those `before` it have been logged, wait in the other one or are lost. -/
structure Running (s : PingPang) (which : Which) (content ready : List UInt8)
    (before batch : List (List UInt8)) : Prop where
  writing : Writing (s.half which) s.nextWrite which content
  drain : Drain (s.half which.other) s.consumer which.other ready
  size : (s.half which.other).data.length = pingpangBufferSize
  unflushed : s.consumer ≠ .flushed
  initialised : s.pingpangInit = true
  accepted : s.accepted = before ++ batch
  contents : batch.flatten = content
  batched : Batched before s.numLoose (s.logged ++ ready)

/-- A session all of which has been passed to the logger. -/
structure Flushed (s : PingPang) (which : Which) (content ready : List UInt8) : Prop where
  writing : Writing (s.half which) s.nextWrite which content
  drain : Drain (s.half which.other) s.consumer which.other ready
  size : (s.half which.other).data.length = pingpangBufferSize
  flushed : s.consumer = .flushed
  initialised : s.pingpangInit = true
  batched : Batched s.accepted s.numLoose s.logged

inductive Phase (s : PingPang) : Prop
  | off (nextWrite : s.nextWrite = none) (half : s.half = fun _ => freed)
      (consumer : s.consumer = .idle) (accepted : s.accepted = []) (loose : s.numLoose = 0)
      (logged : s.logged = []) : Phase s
  | on {which : Which} {content ready : List UInt8} {before batch : List (List UInt8)}
      (running : Running s which content ready before batch) : Phase s
  | flushed {which : Which} {content ready : List UInt8}
      (flushed : Flushed s which content ready) : Phase s

structure Inv (s : PingPang) : Prop where
  phase : Phase s
  ended : ∀ session ∈ s.ended, Batched session.accepted session.loose session.logged

theorem inv_initial : Inv initial :=
  ⟨.off rfl rfl rfl rfl rfl rfl, fun _ none => absurd none List.not_mem_nil⟩

theorem set_self (half : Half) : (s.set which half).half which = half := if_pos rfl

theorem other_ne (which : Which) : which.other ≠ which := by
  cases which <;> decide

theorem other_other (which : Which) : which.other.other = which := by
  cases which <;> rfl

theorem set_other (half : Half) : (s.set which half).half which.other = s.half which.other :=
  if_neg (other_ne which)

theorem Drain.not_writing {half : Half} {consumer : ConsumerStep}
    (drain : Drain half consumer which ready) : half.state ≠ .writing := by
  cases drain with
  | writable state => rw [state]; decide
  | readable state => rw [state]; decide
  | reading state => rw [state]; decide
  | done state => rw [state]; decide

theorem zeroed_length : zeroed.length = pingpangBufferSize := List.length_replicate

theorem store_writing (writing : Writing (s.half which) s.nextWrite which content)
    (room : content.length + message.length ≤ endOffset) :
    Writing ((s.store message ⟨which, content.length⟩).half which)
      (s.store message ⟨which, content.length⟩).nextWrite which (content ++ message) := by
  have bound : content.length + message.length ≤ (s.half which).data.length := by
    rw [writing.size]
    exact Nat.le_trans room (by decide)
  have stored : (s.store message ⟨which, content.length⟩).half which =
      { s.half which with data := Bytes.write (s.half which).data content.length message } :=
    set_self _
  rw [stored]
  refine ⟨writing.state, ?_, ?_, writing.filled.write bound, ?_⟩
  · rw [List.length_append]
    rfl
  · exact (write_length bound).trans writing.size
  · rw [List.length_append]
    exact room

theorem store_other (offset : Nat) :
    (s.store message ⟨which, offset⟩).half which.other = s.half which.other :=
  set_other _

theorem Running.store {before : List (List UInt8)}
    (running : Running s which content ready before batch)
    (room : content.length + message.length ≤ endOffset) :
    Running (s.store message ⟨which, content.length⟩) which (content ++ message) ready before
      (batch ++ [message]) where
  writing := store_writing running.writing room
  drain := by
    rw [store_other]
    exact running.drain
  size := by
    rw [store_other]
    exact running.size
  unflushed := running.unflushed
  initialised := running.initialised
  accepted := by
    rw [← List.append_assoc, ← running.accepted]
    rfl
  contents := by
    rw [List.flatten_append, running.contents, List.flatten_singleton]
  batched := running.batched

theorem turnOver_self (offset : Nat) : (s.turnOver which offset).half which =
    { s.half which with lenthToWrite := offset, state := .readable } :=
  set_self _

theorem turnOver_other (offset : Nat) : (s.turnOver which offset).half which.other =
    { s.half which.other with state := .writing } :=
  (set_other _).trans (set_self _)

theorem overwrite_self : (s.overwrite which).half which = { s.half which with data := zeroed } :=
  set_self _

theorem overwrite_other : (s.overwrite which).half which.other = s.half which.other :=
  set_other _

variable {before : List (List UInt8)}

theorem Running.turnOver (running : Running s which content ready before batch)
    (some : content ≠ []) (free : (s.half which.other).state = .writable) :
    Running (s.turnOver which content.length) which.other [] content s.accepted [] := by
  have writing := running.writing
  obtain ⟨none, idle⟩ : ready = [] ∧ s.consumer.reads = .none := by
    cases running.drain with
    | writable _ idle => exact ⟨rfl, idle⟩
    | readable state => exact absurd (free.symm.trans state) (by decide)
    | reading state => exact absurd (free.symm.trans state) (by decide)
    | done state => exact absurd (free.symm.trans state) (by decide)
  have batched := running.batched
  rw [none, List.append_nil] at batched
  refine ⟨?_, ?_, ?_, running.unflushed, running.initialised, (List.append_nil _).symm, rfl, ?_⟩
  · rw [turnOver_other]
    exact ⟨rfl, rfl, running.size, filled_nil _, Nat.zero_le _⟩
  · rw [other_other, turnOver_self]
    exact .readable rfl idle writing.filled rfl some
  · rw [other_other, turnOver_self]
    exact writing.size
  · rw [running.accepted, ← running.contents]
    exact .kept batch batched

theorem Running.overwrite (running : Running s which content ready before batch)
    (some : content ≠ []) :
    Running (s.overwrite which) which [] ready s.accepted [] := by
  have writing := running.writing
  refine ⟨?_, ?_, ?_, running.unflushed, running.initialised, (List.append_nil _).symm, rfl, ?_⟩
  · rw [overwrite_self]
    exact ⟨writing.state, rfl, zeroed_length, filled_nil _, Nat.zero_le _⟩
  · rw [overwrite_other]
    exact running.drain
  · rw [overwrite_other]
    exact running.size
  · rw [running.accepted]
    have contents := running.contents
    apply Batched.lost batch
    · rw [contents]
      exact some
    · rw [contents]
      exact writing.inside
    · exact running.batched

/-- A full buffer is turned over to the reader, or else it is one more lost batch. -/
theorem Running.overflow (running : Running s which content ready before batch)
    (some : content ≠ []) : ∃ turned ready,
      Running (s.overflow which content.length) turned [] ready s.accepted [] := by
  unfold PingPang.overflow
  split
  next free => exact ⟨which.other, content, running.turnOver some free⟩
  next => exact ⟨which, ready, running.overwrite some⟩

/-- Whatever buffer a message goes to, the session goes on. -/
theorem Running.copyTo (running : Running s which content ready before batch)
    (fits : message.length ≤ endOffset) :
    Phase (s.copyTo which message ⟨which, content.length⟩) := by
  by_cases full : endOffset < content.length + message.length
  · have some : content ≠ [] := by
      intro none
      rw [none, List.length_nil] at full
      omega
    obtain ⟨turned, ready, beyond⟩ := running.overflow some
    rw [PingPang.copyTo, if_pos full]
    simp only [beyond.writing.cursor, Option.getD_some]
    refine .on (beyond.store ?_)
    rw [List.length_nil]
    omega
  · rw [PingPang.copyTo, if_neg full]
    exact .on (running.store (by omega))

/-- A message with no bytes leaves a flushed session as it is. -/
theorem Flushed.copyTo (flushed : Flushed s which content ready) :
    Phase (s.copyTo which [] ⟨which, content.length⟩) := by
  have inside := flushed.writing.inside
  have room : content.length + ([] : List UInt8).length ≤ endOffset := inside
  rw [PingPang.copyTo, if_neg (Nat.not_lt.mpr room)]
  refine @Phase.flushed _ which (content ++ []) ready
    ⟨store_writing flushed.writing room, ?_, ?_, flushed.flushed, flushed.initialised, ?_⟩
  · rw [store_other]
    exact flushed.drain
  · rw [store_other]
    exact flushed.size
  · have batched := Batched.kept [[]] flushed.batched
    rw [List.flatten_singleton, List.append_nil] at batched
    exact batched

/-- The branch that the states of the two buffers select is that of the one being written. -/
theorem select_writing {α : Type} (first second neither : α)
    (state : (s.half which).state = .writing) (other : (s.half which.other).state ≠ .writing) :
    (if (s.half .buffer1).state = .writing ∧ (s.half .buffer2).state ≠ .writing then first
      else if (s.half .buffer2).state = .writing ∧ (s.half .buffer1).state ≠ .writing then second
      else neither) = match which with
        | .buffer1 => first
        | .buffer2 => second := by
  cases which with
  | buffer1 => exact if_pos ⟨state, other⟩
  | buffer2 => rw [if_neg (fun both => both.2 state), if_pos ⟨state, other⟩]

theorem copy_writing (caller : s.caller = some message)
    (fits : message.length < pingpangBufferSize - 1) (given : s.mutexLost = false)
    (writing : Writing (s.half which) s.nextWrite which content)
    (other : (s.half which.other).state ≠ .writing) :
    s.copy = some (({ s with caller := none } : PingPang).copyTo which message
      ⟨which, content.length⟩) := by
  unfold copy
  simp only [caller, Nat.not_le.mpr fits, if_false, given, Bool.false_eq_true, writing.cursor]
  rw [select_writing _ _ _ writing.state other]
  cases which <;> rfl

theorem copyTo_ended (cursor : Cursor) : (s.copyTo which message cursor).ended = s.ended := by
  unfold PingPang.copyTo PingPang.overflow
  split
  · simp only
    split <;> rfl
  · rfl

/-- Nothing depends on who is about to copy. -/
theorem Running.called (running : Running s which content ready before batch)
    (caller : Option (List UInt8)) (mutexLost : Bool) :
    Running { s with caller := caller, mutexLost := mutexLost } which content ready before batch :=
  ⟨running.writing, running.drain, running.size, running.unflushed, running.initialised,
    running.accepted, running.contents, running.batched⟩

theorem Flushed.called (flushed : Flushed s which content ready) (caller : Option (List UInt8))
    (mutexLost : Bool) :
    Flushed { s with caller := caller, mutexLost := mutexLost } which content ready :=
  ⟨flushed.writing, flushed.drain, flushed.size, flushed.flushed, flushed.initialised,
    flushed.batched⟩

theorem Phase.called (phase : Phase s) (caller : Option (List UInt8)) (mutexLost : Bool) :
    Phase { s with caller := caller, mutexLost := mutexLost } := by
  cases phase with
  | off nextWrite half consumer accepted loose logged =>
      exact .off nextWrite half consumer accepted loose logged
  | on running => exact .on (running.called caller mutexLost)
  | flushed flushed => exact .flushed (flushed.called caller mutexLost)

theorem copy_inv (inv : Inv s) (apart : CopiesApart s .copy) (taken : s.copy = some t) : Inv t := by
  cases caller : s.caller with
  | none => rw [copy, caller] at taken; cases taken
  | some message =>
    by_cases refused : pingpangBufferSize - 1 ≤ message.length
    · rw [copy, caller] at taken
      simp only [if_pos refused] at taken
      cases taken
      exact ⟨inv.phase.called none s.mutexLost, inv.ended⟩
    cases given : s.mutexLost with
    | true =>
        rw [copy, caller] at taken
        simp only [if_neg refused, given, if_true] at taken
        cases taken
    | false =>
      have fits := Nat.not_le.mp refused
      have inside : message.length ≤ endOffset := by
        have size : endOffset + 1 = pingpangBufferSize - 1 := by decide
        omega
      cases inv.phase with
      | off nextWrite half consumer accepted loose logged =>
          rw [copy, caller] at taken
          simp only [if_neg refused, given, nextWrite, Bool.false_eq_true, if_false] at taken
          cases taken
          exact ⟨.off rfl half consumer accepted loose logged, inv.ended⟩
      | @on which content ready before batch running =>
          rw [copy_writing caller fits given running.writing running.drain.not_writing] at taken
          cases taken
          refine ⟨(running.called none s.mutexLost).copyTo inside, ?_⟩
          rw [copyTo_ended]
          exact inv.ended
      | @flushed which content ready flushed =>
          obtain rfl := (apart flushed.flushed message caller).resolve_right refused
          rw [copy_writing caller fits given flushed.writing flushed.drain.not_writing] at taken
          cases taken
          refine ⟨(flushed.called none s.mutexLost).copyTo, ?_⟩
          rw [copyTo_ended]
          exact inv.ended

theorem init_inv {allocated : Bool} (inv : Inv s) (taken : s.init allocated = some t) : Inv t := by
  unfold init at taken
  split at taken
  next => cases taken
  next free =>
    have fresh : s.pingpangInit ≠ true := (not_or.mp free).1
    cases inv.phase with
    | on running => exact absurd running.initialised fresh
    | flushed flushed => exact absurd flushed.initialised fresh
    | off nextWrite half consumer accepted loose logged =>
        split at taken
        next =>
          cases taken
          refine ⟨@Phase.on _ .buffer1 [] [] [] [] ?_, inv.ended⟩
          refine ⟨⟨rfl, rfl, zeroed_length, filled_nil _, Nat.zero_le _⟩,
            .writable rfl (congrArg _ consumer), zeroed_length, ?_, rfl, accepted, rfl, ?_⟩
          · exact fun flushed => absurd (consumer.symm.trans flushed) (by decide)
          · simp only [logged, List.append_nil]
            exact .nil
        next =>
          cases taken
          exact ⟨.off rfl rfl consumer accepted rfl logged, inv.ended⟩

theorem set_this (half : Half) : (s.set which.other half).half which = s.half which :=
  if_neg (other_ne which).symm

/-- A step of the reader changes the other buffer and its own place. -/
theorem Running.drainTo (running : Running s which content ready before batch) {half : Half}
    {consumer : ConsumerStep} {left : List UInt8} (drain : Drain half consumer which.other left)
    (size : half.data.length = pingpangBufferSize) (unflushed : consumer ≠ .flushed)
    (batched : Batched before s.numLoose (s.logged ++ left)) :
    Running { s.set which.other half with consumer := consumer } which content left before
      batch where
  writing := by
    simp only [set_this]
    exact running.writing
  drain := by
    simp only [set_self]
    exact drain
  size := by
    simp only [set_self]
    exact size
  unflushed := unflushed
  initialised := running.initialised
  accepted := running.accepted
  contents := running.contents
  batched := batched

/-- Only the other buffer can be read. -/
theorem Running.canRead {place : Which} (running : Running s which content ready before batch)
    (reads : s.canRead place) : place = which.other := by
  have writing := running.writing.state
  cases place <;> cases which
  · exact absurd (writing.symm.trans reads.1) (by decide)
  · rfl
  · rfl
  · exact absurd (writing.symm.trans reads.1) (by decide)

theorem Running.startReading {place : Which}
    (running : Running s which content ready before batch) (reads : s.canRead place) :
    Running (s.startReading place) which content ready before batch := by
  obtain rfl := running.canRead reads
  refine running.drainTo ?_ running.size nofun running.batched
  cases running.drain with
  | writable state => exact absurd (state.symm.trans reads.1) (by decide)
  | readable state free filled length => exact .reading rfl rfl filled length
  | reading state => exact absurd (state.symm.trans reads.1) (by decide)
  | done state => exact absurd (state.symm.trans reads.1) (by decide)

/-- A buffer that is read is the other one. -/
theorem Running.reads {place : Which} (running : Running s which content ready before batch)
    (reads : s.consumer.reads = some place) :
    place = which.other ∧ (s.half which.other).state = .reading := by
  cases running.drain with
  | writable _ free => exact absurd (free.symm.trans reads) nofun
  | readable _ free => exact absurd (free.symm.trans reads) nofun
  | reading state at_ =>
      rw [at_] at reads
      exact ⟨(Option.some.inj reads).symm, state⟩
  | done state _ at_ => exact ⟨(Option.some.inj (at_.symm.trans reads)).symm, state⟩

/-- The bytes that a reader passes to the logger are those that were ready. -/
theorem Running.log {place : Which} (running : Running s which content ready before batch)
    (reading : s.consumer = .reading place) :
    Running { s.log ((s.half place).data.take (s.half place).lenthToWrite) with
      consumer := .logged place } which content [] before batch := by
  obtain ⟨rfl, state⟩ := running.reads (congrArg ConsumerStep.reads reading)
  have bytes : (s.half which.other).data.take (s.half which.other).lenthToWrite = ready := by
    cases running.drain with
    | writable free => exact absurd (free.symm.trans state) (by decide)
    | readable free => exact absurd (free.symm.trans state) (by decide)
    | reading _ _ filled length => rw [length, filled.front]
    | done _ unlogged => exact absurd reading unlogged
  rw [bytes]
  refine ⟨running.writing, .done state nofun rfl, running.size, nofun, running.initialised,
    running.accepted, running.contents, ?_⟩
  rw [List.append_nil]
  exact running.batched

/-- Once a buffer has been logged, the reader clears it and gives it back. -/
theorem Running.clear {step consumer : ConsumerStep} {place : Which} {half : Half}
    (running : Running s which content ready before batch) (at_ : s.consumer = step)
    (reads : step.reads = some place) (unlogged : step ≠ .reading place)
    (drain : (s.half place).state = .reading → Drain half consumer place [])
    (size : (s.half place).data.length = pingpangBufferSize →
      half.data.length = pingpangBufferSize) (unflushed : consumer ≠ .flushed) :
    Running { s.set place half with consumer := consumer } which content [] before batch := by
  rw [← at_] at reads unlogged
  obtain ⟨rfl, state⟩ := running.reads reads
  refine running.drainTo (drain state) (size running.size) unflushed ?_
  have batched := running.batched
  cases running.drain with
  | writable free => exact batched
  | readable free => exact absurd (free.symm.trans state) (by decide)
  | reading _ at_ => exact absurd at_ unlogged
  | done => exact batched

theorem Running.write (running : Running s which content ready before batch)
    (taken : s.write = some t) : Phase t := by
  unfold PingPang.write at taken
  cases consumer : s.consumer with
  | idle =>
      simp only [consumer] at taken
      split at taken
      next reads =>
        cases taken
        exact .on (running.startReading reads)
      next =>
        split at taken
        next reads =>
          cases taken
          exact .on (running.startReading reads)
        next =>
          cases taken
          exact .on running
  | reading place =>
      simp only [consumer] at taken
      cases taken
      exact .on (running.log consumer)
  | logged place =>
      simp only [consumer] at taken
      cases taken
      exact .on (running.clear consumer rfl nofun (fun state => .done state nofun rfl)
        (fun _ => zeroed_length) nofun)
  | cleared place =>
      simp only [consumer] at taken
      cases taken
      exact .on (running.clear consumer rfl nofun (fun state => .done state nofun rfl)
        (fun size => size) nofun)
  | emptied place =>
      simp only [consumer] at taken
      cases taken
      exact .on (running.clear consumer rfl nofun (fun _ => .writable rfl rfl)
        (fun size => size) nofun)
  | flushed => exact absurd consumer running.unflushed

/-- The write changes what a session holds, and nothing else. -/
theorem write_ended (taken : s.write = some t) : t.ended = s.ended := by
  unfold PingPang.write at taken
  split at taken
  next =>
    split at taken
    next => cases taken; rfl
    next => split at taken <;> (cases taken; rfl)
  next => cases taken; rfl
  next => cases taken; rfl
  next => cases taken; rfl
  next => cases taken; rfl
  next => cases taken

theorem write_inv (inv : Inv s) (taken : s.write = some t) : Inv t := by
  refine ⟨?_, (write_ended taken).symm ▸ inv.ended⟩
  cases inv.phase with
  | on running => exact running.write taken
  | flushed flushed =>
      rw [PingPang.write, flushed.flushed] at taken
      cases taken
  | off nextWrite half consumer =>
      have unread (which : Which) : ¬ s.canRead which := by
        rw [canRead, half]
        exact fun reads => absurd reads.1 nofun
      rw [PingPang.write, consumer] at taken
      simp only [if_neg (unread _)] at taken
      cases taken
      exact inv.phase

/-- The flush passes to the logger what is ready and then what is being written. -/
theorem Running.flushFrom (running : Running s which content ready before batch)
    (idle : s.consumer = .idle) :
    s.flushFrom which content.length = s.log (ready ++ content) := by
  have written : (s.half which).data.take content.length = content := running.writing.filled.front
  unfold PingPang.flushFrom
  cases running.drain with
  | writable state =>
      simp only [state, reduceCtorEq, if_false, written]
      rfl
  | readable state _ filled length =>
      have bytes : (s.half which.other).data.take (s.half which.other).lenthToWrite = ready := by
        rw [length, filled.front]
      simp only [state, if_true, bytes, PingPang.log, written, List.append_assoc]
  | reading _ reads => rw [idle] at reads; cases reads
  | done _ _ reads => rw [idle] at reads; cases reads

theorem flush_inv (inv : Inv s) (taken : s.flush = some t) : Inv t := by
  unfold flush at taken
  split at taken
  next => cases taken
  next ready =>
    have idle : s.consumer = .idle := Decidable.not_not.mp (not_or.mp ready).2
    cases inv.phase with
    | off nextWrite => simp only [nextWrite] at taken; cases taken
    | flushed flushed => exact absurd (idle.symm.trans flushed.flushed) (by decide)
    | @on which content ready before batch running =>
        have writing := running.writing
        simp only [writing.cursor] at taken
        rw [select_writing _ _ _ writing.state running.drain.not_writing] at taken
        have flushed : t = { s.log (ready ++ content) with consumer := .flushed } := by
          rw [← running.flushFrom idle]
          cases which <;> exact (Option.some.inj taken).symm
        rw [flushed]
        refine ⟨@Phase.flushed _ which content ready ⟨writing, ?_, running.size, rfl,
          running.initialised, ?_⟩, inv.ended⟩
        · cases running.drain with
          | writable state => exact .writable state rfl
          | readable state _ filled length some => exact .readable state rfl filled length some
          | reading _ reads => rw [idle] at reads; cases reads
          | done _ _ reads => rw [idle] at reads; cases reads
        · have batched := Batched.kept batch running.batched
          rw [← running.accepted, running.contents, List.append_assoc] at batched
          exact batched

theorem free_inv (inv : Inv s) (taken : s.free = some t) : Inv t := by
  unfold free at taken
  split at taken
  next => cases taken
  next ready =>
    cases taken
    have consumer : s.consumer = .flushed := Decidable.not_not.mp (not_or.mp ready).2
    refine ⟨.off rfl rfl rfl rfl rfl rfl, fun session member => ?_⟩
    rcases List.mem_cons.mp member with same | earlier
    · rw [same]
      cases inv.phase with
      | off _ _ idle => rw [consumer] at idle; cases idle
      | on running => exact absurd consumer running.unflushed
      | flushed flushed => exact flushed.batched
    · exact inv.ended session earlier

theorem step_inv {input : PingPangInput} (inv : Inv s) (apart : CopiesApart s input)
    (taken : s.step input = some t) : Inv t := by
  cases input with
  | call message =>
      simp only [step, call] at taken
      split at taken
      next => cases taken; exact ⟨inv.phase.called _ s.mutexLost, inv.ended⟩
      next => cases taken
  | copy => exact copy_inv inv apart taken
  | init allocated => exact init_inv inv taken
  | write => exact write_inv inv taken
  | flush => exact flush_inv inv taken
  | free => exact free_inv inv taken

/-- What waits to be logged is what the other buffer holds. -/
theorem Running.waiting (running : Running s which content ready before batch) :
    s.waiting which.other = ready := by
  unfold PingPang.waiting
  cases running.drain with
  | writable state free =>
      have unread : s.consumer ≠ .reading which.other := by
        intro reads
        rw [reads] at free
        cases free
      exact if_neg (not_or.mpr ⟨by rw [state]; decide, unread⟩)
  | readable state _ filled length =>
      simp only [if_pos (Or.inl state), length, filled.front]
  | reading _ reads filled length =>
      simp only [if_pos (Or.inr reads), length, filled.front]
  | done state unlogged => exact if_neg (not_or.mpr ⟨by rw [state]; decide, unlogged⟩)

theorem Writing.inBounds (writing : Writing (s.half which) s.nextWrite which content)
    (drain : Drain (s.half which.other) s.consumer which.other ready) :
    ∃ which offset, s.nextWrite = some ⟨which, offset⟩ ∧ (s.half which).state = .writing ∧
      (s.half which.other).state ≠ .writing ∧
      (s.half which).data.length = pingpangBufferSize ∧ offset ≤ endOffset :=
  ⟨which, content.length, writing.cursor, writing.state, drain.not_writing, writing.size,
    writing.inside⟩

theorem Inv.inOrder (inv : Inv s) : InOrder s := by
  cases inv.phase with
  | off nextWrite half consumer accepted loose logged =>
      refine ⟨fun some => absurd nextWrite some, ?_, inv.ended⟩
      rw [accepted, loose, logged, held, nextWrite]
      exact .nil
  | @on which content ready before batch running =>
      refine ⟨fun _ => running.writing.inBounds running.drain, ?_, inv.ended⟩
      have batched := Batched.kept batch running.batched
      rw [← running.accepted, running.contents, List.append_assoc] at batched
      rw [held, running.writing.cursor]
      simp only [if_neg running.unflushed, running.waiting, running.writing.filled.front]
      exact batched
  | flushed flushed =>
      refine ⟨fun _ => flushed.writing.inBounds flushed.drain, ?_, inv.ended⟩
      rw [held, flushed.writing.cursor]
      simp only [if_pos flushed.flushed, List.append_nil]
      exact flushed.batched

end PingPang

/-- The log keeps its order as long as nothing is copied between a flush and its free. -/
theorem pingpang_inOrder {inputs : List PingPangInput}
    (apart : StepsMeet PingPang.step PingPang.CopiesApart .initial inputs) :
    AllStates PingPang.step PingPang.InOrder .initial inputs := by
  apply AllStates.imp fun s inv => PingPang.Inv.inOrder inv
  apply allStates_of_stepsMeet _ PingPang.inv_initial apart
  exact fun s input t inv apart taken => PingPang.step_inv inv apart taken

/-- A message is logged before the buffers are freed. -/
theorem pingpang_inOrder_once :
    AllStates PingPang.step PingPang.InOrder .initial
      [.init true, .call [7], .copy, .flush, .free] := by
  apply pingpang_inOrder
  rintro _ ⟨⟩
  refine ⟨trivial, ?_⟩
  rintro _ ⟨⟩
  refine ⟨trivial, ?_⟩
  rintro _ ⟨⟩
  refine ⟨nofun, ?_⟩
  rintro _ ⟨⟩
  refine ⟨trivial, ?_⟩
  rintro _ ⟨⟩
  exact ⟨trivial, trivial⟩

/-- A message is copied between the flush and the free. -/
def flushedTooSoon : List PingPangInput :=
  [.init true, .call [7], .copy, .call [8], .flush, .copy, .free]

/-- It is accepted, counted nowhere and not logged. -/
theorem message_lost_unlogged :
    (exec PingPang.step .initial flushedTooSoon).map PingPang.ended =
      some [⟨[[7], [8]], 0, [7]⟩] ∧
    ¬ AllStates PingPang.step PingPang.InOrder .initial flushedTooSoon := by
  refine ⟨rfl, fun all => ?_⟩
  have inOrder := all.last rfl
  have bytes := (inOrder.ended _ List.mem_cons_self).all
  exact absurd bytes (by decide)

end Connectivity.DebugLog
