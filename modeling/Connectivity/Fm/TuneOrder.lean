import Connectivity.Fm.Commands
import Connectivity.Transition.Run

set_option autoImplicit false

/- The tune requests of the client against the calls of `FMR_tune` they lead to. -/
namespace Connectivity.Fm

open Transition

namespace Service

variable (s : Service)

/-- The radio is enabled and no tune request waits. -/
structure Ready : Prop where
  enabled : s.mEnabled = true
  quiet : s.calling = none
  noTune : FmCommandType.cmdTune ∉ s.mFmCommandList
  noExit : FmCommandType.cmdExit ∉ s.mFmCommandList

/-- The commands for tune requests that have not been carried out. -/
def pending : Nat := s.mFmCommandList.count .cmdTune

/-- Whether the next command of the thread is one for a tune request. -/
def tunes : Bool := decide (s.mFmCommandList.head? = some .cmdTune) && s.mEnabled

def found (channel : Option Int) (driver : Int) : Option Int :=
  match s.thread with
  | .searching search => s.station search channel driver
  | _ => none

end Service

/-- The service with the frequencies of the requests it has accepted, those it has called
`FMR_tune` with for their commands, and those a search has gone back to while they stood for a
request that waited; `asked` says that `mTuneFreq` was last written by a `setFreq`. -/
structure Run where
  service : Service
  accepted : List Int
  tuned : List Int
  early : List Int
  asked : Bool
deriving DecidableEq, Repr

def freqsAt (site : Site) (tunes : List Tune) : List Int :=
  (tunes.filter fun tune => decide (tune.site = site)).map Tune.freq

namespace Run

def start (service : Service) : Run := ⟨service, [], [], [], false⟩

variable (s : Run)

/-- A request waits from its write of `mTuneFreq` to its `FMR_tune`. -/
def unserved : Bool := s.service.calling.isSome || decide (0 < s.service.pending)

def acceptedAfter : Event → List Int
  | .queueTune _ => s.accepted ++ s.service.calling.toList
  | _ => s.accepted

def askedAfter : Event → Bool
  | .setFreq _ => true
  | .round channel driver _ => s.asked && (s.service.found channel driver).isNone
  | _ => s.asked

def next (e : Event) (r : Service × List Tune) : Run where
  service := r.1
  accepted := s.acceptedAfter e
  tuned := s.tuned ++ freqsAt .command r.2
  early := s.early ++ if s.asked && s.unserved then freqsAt .fallback r.2 else []
  asked := s.askedAfter e

def step (e : Event) : Option Run := (s.service.handle e).map (s.next e)

/-- What has been tuned to for the commands is what was asked for, in the same order and but for
the requests whose command is still in the list; no search has tuned to any of these. -/
structure Sound : Prop where
  inOrder : s.tuned <+: s.accepted
  counted : s.accepted.length = s.tuned.length + s.service.pending
  once : s.early = []

/-- The requests that wait, the oldest first. -/
def waiting : List Int := s.accepted.drop s.tuned.length ++ s.service.calling.toList

/-- A command is allocated; a command for a request finds the request's frequency in the
service; a search that goes back does not go to a request that waits. -/
def Meets : Event → Prop
  | .queueTune memory => memory = true
  | .walk _ _ =>
      s.service.tunes = true → s.accepted[s.tuned.length]? = some s.service.mTuneFreq
  | .round channel driver _ =>
      s.service.found channel driver = none → s.asked = true → s.unserved = false
  | _ => True

instance : (e : Event) → Decidable (s.Meets e)
  | .setFreq _ => inferInstanceAs (Decidable True)
  | .queueTune memory => inferInstanceAs (Decidable (memory = true))
  | .startSearch _ _ => inferInstanceAs (Decidable True)
  | .cancelSearch => inferInstanceAs (Decidable True)
  | .setSearchMode _ => inferInstanceAs (Decidable True)
  | .setRegion _ => inferInstanceAs (Decidable True)
  | .setBand _ _ => inferInstanceAs (Decidable True)
  | .wake => inferInstanceAs (Decidable True)
  | .walk _ _ => inferInstanceAs (Decidable (_ → _))
  | .round _ _ _ => inferInstanceAs (Decidable (_ → _))
  | .advance => inferInstanceAs (Decidable True)

/-- While a request waits nothing but its own frequency is written, by no other `setFreq` and by
no search, and no search goes back. -/
def Calm : Event → Prop
  | .setFreq freq => ∀ asked ∈ s.waiting, asked = freq.toInt
  | .queueTune memory => memory = true
  | .round channel driver _ => ∀ asked ∈ s.waiting, s.service.found channel driver = some asked
  | _ => True

structure Inv : Prop where
  sound : s.Sound
  enabled : s.service.mEnabled = true
  noExit : FmCommandType.cmdExit ∉ s.service.mFmCommandList

theorem inv_start {service : Service} (ready : service.Ready) : (start service).Inv := by
  have none : service.pending = 0 := List.count_eq_zero.mpr ready.noTune
  have counted : 0 = 0 + service.pending := by omega
  exact ⟨⟨List.prefix_rfl, counted, rfl⟩, ready.enabled, ready.noExit⟩

variable {s}

theorem step_cases {e : Event} {t : Run} (taken : s.step e = some t) :
    ∃ r, s.service.handle e = some r ∧ t = s.next e r := by
  obtain ⟨r, handled, same⟩ := Option.map_eq_some_iff.mp taken
  exact ⟨r, handled, same.symm⟩

/-- One more frequency keeps what has been tuned to in order if it is the next one. -/
theorem prefix_next {tuned accepted : List Int} {freq : Int} (inOrder : tuned <+: accepted) :
    tuned ++ [freq] <+: accepted ↔ accepted[tuned.length]? = some freq := by
  obtain ⟨rest, rfl⟩ := inOrder
  rw [List.prefix_append_right_inj, List.getElem?_append_right (by omega), Nat.sub_self]
  cases rest with
  | nil => simp
  | cons first rest => simp [eq_comm]

/-- A step that tunes for no command, goes back for no request and leaves the number of commands
for requests. -/
theorem Inv.of_quiet {e : Event} {r : Service × List Tune} (inv : s.Inv)
    (accepted : s.acceptedAfter e = s.accepted) (called : freqsAt .command r.2 = [])
    (once : (s.next e r).early = s.early) (pending : r.1.pending = s.service.pending)
    (enabled : r.1.mEnabled = s.service.mEnabled)
    (noExit : FmCommandType.cmdExit ∉ r.1.mFmCommandList) : (s.next e r).Inv := by
  have tuned : (s.next e r).tuned = s.tuned := by
    show s.tuned ++ freqsAt .command r.2 = s.tuned
    rw [called, List.append_nil]
  refine ⟨⟨?_, ?_, once.trans inv.sound.once⟩, enabled.trans inv.enabled, noExit⟩
  · show (s.next e r).tuned <+: s.acceptedAfter e
    rw [tuned, accepted]
    exact inv.sound.inOrder
  · show (s.acceptedAfter e).length = (s.next e r).tuned.length + r.1.pending
    rw [tuned, accepted, pending]
    exact inv.sound.counted

/-- A step that calls nothing. -/
theorem early_silent {e : Event} {service : Service} :
    (s.next e (service, [])).early = s.early := by
  show s.early ++ (if s.asked && s.unserved then freqsAt .fallback [] else []) = s.early
  rw [show freqsAt .fallback [] = [] from rfl, ite_self, List.append_nil]

/-- A step that calls nothing and leaves the list. -/
theorem Inv.of_silent {e : Event} {service : Service} (inv : s.Inv)
    (accepted : s.acceptedAfter e = s.accepted)
    (commands : service.mFmCommandList = s.service.mFmCommandList)
    (enabled : service.mEnabled = s.service.mEnabled) : (s.next e (service, [])).Inv := by
  have pending : service.pending = s.service.pending := by
    rw [Service.pending, commands, Service.pending]
  refine inv.of_quiet accepted rfl early_silent pending enabled ?_
  rw [commands]
  exact inv.noExit

section Calls

theorem inv_queueTune (inv : s.Inv) (waits : s.service.calling ≠ none) :
    (s.next (.queueTune true) (s.service.queueTune true, [])).Inv := by
  obtain ⟨freq, calling⟩ := Option.ne_none_iff_exists'.mp waits
  have accepted : s.acceptedAfter (.queueTune true) = s.accepted ++ [freq] := by
    show s.accepted ++ s.service.calling.toList = _
    rw [calling]
    rfl
  have pending : (s.service.queueTune true).pending = s.service.pending + 1 := by
    show (s.service.mFmCommandList ++ [FmCommandType.cmdTune]).count .cmdTune = _
    rw [List.count_append]
    rfl
  refine ⟨⟨?_, ?_, early_silent.trans inv.sound.once⟩, inv.enabled, ?_⟩
  · show s.tuned ++ [] <+: s.acceptedAfter (.queueTune true)
    rw [accepted, List.append_nil]
    exact inv.sound.inOrder.trans (List.prefix_append _ _)
  · show (s.acceptedAfter (.queueTune true)).length =
      (s.tuned ++ []).length + (s.service.queueTune true).pending
    have counted := inv.sound.counted
    rw [accepted, List.append_nil, List.length_append, List.length_singleton, pending]
    omega
  · show FmCommandType.cmdExit ∉ s.service.mFmCommandList ++ [FmCommandType.cmdTune]
    simp [inv.noExit]

theorem searchCommand_ne {service : Service} {dir : Direction} :
    service.searchCommand dir ≠ .cmdTune ∧ service.searchCommand dir ≠ .cmdExit := by
  unfold Service.searchCommand
  cases service.mSearchMode <;> cases dir <;> decide

theorem inv_startSearch {dir : Direction} {memory : Bool} (inv : s.Inv) :
    (s.next (.startSearch dir memory) (s.service.startSearch dir memory, [])).Inv := by
  rw [Service.startSearch]
  split
  · cases memory with
    | false => exact inv.of_silent rfl rfl rfl
    | true =>
        obtain ⟨noTune, noExit⟩ := @searchCommand_ne s.service dir
        refine inv.of_quiet rfl rfl early_silent ?_ rfl ?_
        · show (s.service.mFmCommandList ++ [s.service.searchCommand dir]).count .cmdTune = _
          rw [List.count_append, List.count_singleton, if_neg (by simpa using noTune)]
          rfl
        · show FmCommandType.cmdExit ∉ s.service.mFmCommandList ++ [s.service.searchCommand dir]
          simp [inv.noExit, noExit.symm]
  · exact inv.of_silent rfl rfl rfl

theorem inv_cancelSearch (inv : s.Inv) :
    (s.next .cancelSearch (s.service.cancelSearch, [])).Inv := by
  rw [Service.cancelSearch]
  split
  · exact inv.of_silent rfl rfl rfl
  · exact inv.of_silent rfl rfl rfl

theorem inv_setRegion {region : Region} (inv : s.Inv) :
    (s.next (.setRegion region) (s.service.setRegion region, [])).Inv := by
  cases region <;> exact inv.of_silent rfl rfl rfl

theorem inv_advance {service : Service} (inv : s.Inv) (taken : s.service.advance = some service) :
    (s.next .advance (service, [])).Inv := by
  rw [Service.advance] at taken
  split at taken
  · cases taken
    exact inv.of_silent rfl rfl rfl
  · split at taken
    · cases taken
      exact inv.of_silent rfl rfl rfl
    · cases taken
      exact inv.of_silent rfl rfl rfl
  · cases taken
    exact inv.of_silent rfl rfl rfl
  · cases taken
    exact inv.of_silent rfl rfl rfl
  · cases taken

end Calls

section Walk

variable {stack driver : Int}

/-- A command that is none for a request is taken from the list. -/
theorem inv_popped {service : Service} {type : FmCommandType} {rest : List FmCommandType}
    (inv : s.Inv) (commands : s.service.mFmCommandList = type :: rest) (other : type ≠ .cmdTune)
    (left : service.mFmCommandList = rest) (enabled : service.mEnabled = s.service.mEnabled) :
    (s.next (.walk stack driver) (service, [])).Inv := by
  have noExit := inv.noExit
  rw [commands] at noExit
  refine inv.of_quiet rfl rfl early_silent ?_ enabled ?_
  · have none : ¬ ((type == FmCommandType.cmdTune) = true) := by simpa using other
    rw [Service.pending, Service.pending, left, commands, List.count_cons, if_neg none]
    rfl
  · rw [left]
    exact fun member => noExit (List.mem_cons_of_mem type member)

/-- The command for a request is carried out. -/
theorem walk_tune {rest : List FmCommandType}
    (commands : s.service.mFmCommandList = .cmdTune :: rest) (enabled : s.service.mEnabled = true) :
    s.service.walk stack driver =
      ({ s.service with
          mFmCommandList := rest
          mFmTunned := decide (s.service.cfg.tune s.service.mTuneFreq driver = 0) },
        [⟨.command, s.service.mTuneFreq⟩]) := by
  unfold Service.walk
  rw [commands]
  show (if s.service.mEnabled then _ else _) = _
  rw [if_pos enabled]
  rfl

theorem inv_walk (inv : s.Inv) (meets : s.Meets (.walk stack driver)) :
    (s.next (.walk stack driver) (s.service.walk stack driver)).Inv := by
  cases commands : s.service.mFmCommandList with
  | nil =>
      have waits : s.service.walk stack driver =
          ({ s.service with thread := .waiting, mCommandLock := false }, []) := by
        simp only [Service.walk, commands]
      rw [waits]
      exact inv.of_silent rfl rfl rfl
  | cons type rest =>
      by_cases tune : type = .cmdTune
      · subst tune
        have tunes : s.service.tunes = true := by
          rw [Service.tunes, commands, inv.enabled]
          rfl
        have next := meets tunes
        rw [walk_tune commands inv.enabled]
        have pending : s.service.pending = rest.count .cmdTune + 1 := by
          rw [Service.pending, commands, List.count_cons_self]
        refine ⟨⟨(prefix_next inv.sound.inOrder).mpr next, ?_, ?_⟩, inv.enabled, ?_⟩
        · show s.accepted.length =
            (s.tuned ++ [s.service.mTuneFreq]).length + rest.count .cmdTune
          have counted := inv.sound.counted
          rw [List.length_append, List.length_singleton]
          omega
        · show s.early ++ (if s.asked && s.unserved then [] else []) = []
          rw [ite_self, inv.sound.once]
          rfl
        · have noExit := inv.noExit
          rw [commands] at noExit
          exact fun member => noExit (List.mem_cons_of_mem _ member)
      · have popped : ∃ service, s.service.walk stack driver = (service, []) ∧
            service.mFmCommandList = rest ∧ service.mEnabled = s.service.mEnabled := by
          have noExit := inv.noExit
          rw [commands] at noExit
          unfold Service.walk
          rw [commands]
          cases type <;> first
            | exact absurd List.mem_cons_self noExit
            | exact absurd rfl tune
            | (show ∃ service, (if s.service.mEnabled then _ else _) = _ ∧ _
               rw [if_pos inv.enabled]
               exact ⟨_, rfl, rfl, rfl⟩)
        obtain ⟨service, walked, left, enabled⟩ := popped
        rw [walked]
        exact inv_popped inv commands tune left enabled

end Walk

section Round

theorem handled_round {service : Service} {channel : Option Int} {driver again : Int}
    {r : Service × List Tune} (handled : service.handle (.round channel driver again) = some r) :
    ∃ search, service.thread = .searching search ∧
      r = service.round search channel driver again := by
  unfold Service.handle at handled
  cases thread : service.thread with
  | searching search =>
      rw [thread] at handled
      exact ⟨search, rfl, (Option.some.inj handled).symm⟩
  | _ =>
      rw [thread] at handled
      cases handled

variable {channel : Option Int} {driver again : Int}

/-- A round of a search leaves the commands and calls `FMR_tune` for none of them; it goes back
to the frequency of the service exactly if it finds no station. -/
theorem round_cases {search : Search} (thread : s.service.thread = .searching search) :
    ∃ service tunes, s.service.round search channel driver again = (service, tunes) ∧
      service.mFmCommandList = s.service.mFmCommandList ∧
      service.mEnabled = s.service.mEnabled ∧ service.calling = s.service.calling ∧
      freqsAt .command tunes = [] ∧
      ((∃ freq, s.service.found channel driver = some freq ∧ service.mTuneFreq = freq ∧
          freqsAt .fallback tunes = []) ∨
        (s.service.found channel driver = none ∧ service.mTuneFreq = s.service.mTuneFreq ∧
          freqsAt .fallback tunes = [s.service.mTuneFreq])) := by
  have found : s.service.found channel driver = s.service.station search channel driver := by
    rw [Service.found, thread]
  have tried : ∀ site, site ≠ Site.found → ∀ sought : Option Int, ∀ back : List Tune,
      freqsAt site ((sought.toList.map fun freq => ⟨.found, freq⟩) ++ back) =
        freqsAt site back := by
    intro site other sought back
    cases sought with
    | none => rfl
    | some freq => simp [freqsAt, other.symm]
  rw [found]
  unfold Service.round
  cases station : s.service.station search channel driver with
  | some freq =>
      refine ⟨_, _, rfl, rfl, rfl, rfl, ?_, Or.inl ⟨freq, rfl, rfl, ?_⟩⟩
      · have none := tried .command (by decide) (s.service.cfg.seek search.startFreq channel) []
        rw [List.append_nil] at none
        exact none
      · have none := tried .fallback (by decide) (s.service.cfg.seek search.startFreq channel) []
        rw [List.append_nil] at none
        exact none
  | none =>
      refine ⟨_, _, rfl, rfl, rfl, rfl, ?_, Or.inr ⟨rfl, rfl, ?_⟩⟩
      · exact tried .command (by decide) _ _
      · exact tried .fallback (by decide) _ _

theorem inv_round {search : Search} (inv : s.Inv) (meets : s.Meets (.round channel driver again))
    (thread : s.service.thread = .searching search) :
    (s.next (.round channel driver again)
      (s.service.round search channel driver again)).Inv := by
  obtain ⟨service, tunes, same, commands, enabled, _, called, outcome⟩ :=
    @round_cases s channel driver again search thread
  rw [same]
  have pending : service.pending = s.service.pending := by
    rw [Service.pending, commands, Service.pending]
  refine inv.of_quiet rfl called ?_ pending enabled (by rw [commands]; exact inv.noExit)
  show s.early ++ (if s.asked && s.unserved then freqsAt .fallback tunes else []) = s.early
  cases outcome with
  | inl success =>
      obtain ⟨freq, _, _, back⟩ := success
      rw [back, ite_self, List.append_nil]
  | inr failure =>
      obtain ⟨none, _, _⟩ := failure
      have free : (s.asked && s.unserved) = false := by
        cases asked : s.asked with
        | false => rfl
        | true => exact meets none asked
      rw [free, if_neg Bool.false_ne_true, List.append_nil]

end Round

/-- The step lemma. -/
theorem meets_kept {e : Event} {t : Run} (inv : s.Inv) (meets : s.Meets e)
    (taken : s.step e = some t) : t.Inv := by
  obtain ⟨r, handled, same⟩ := step_cases taken
  subst same
  cases e with
  | setFreq freq =>
      obtain ⟨_, same⟩ := Option.ite_none_right_eq_some.mp handled
      cases same
      exact inv.of_silent rfl rfl rfl
  | queueTune memory =>
      obtain ⟨enabled, same⟩ := Option.ite_none_right_eq_some.mp handled
      cases same
      have allocated : memory = true := meets
      subst allocated
      exact inv_queueTune inv enabled.1
  | startSearch dir memory =>
      obtain ⟨_, same⟩ := Option.ite_none_right_eq_some.mp handled
      cases same
      exact inv_startSearch inv
  | cancelSearch =>
      obtain ⟨_, same⟩ := Option.ite_none_right_eq_some.mp handled
      cases same
      exact inv_cancelSearch inv
  | setSearchMode mode =>
      obtain ⟨_, same⟩ := Option.ite_none_right_eq_some.mp handled
      cases same
      exact inv.of_silent rfl rfl rfl
  | setRegion region =>
      obtain ⟨_, same⟩ := Option.ite_none_right_eq_some.mp handled
      cases same
      exact inv_setRegion inv
  | setBand low high =>
      obtain ⟨_, same⟩ := Option.ite_none_right_eq_some.mp handled
      cases same
      exact inv.of_silent rfl rfl rfl
  | wake =>
      obtain ⟨_, same⟩ := Option.ite_none_right_eq_some.mp handled
      cases same
      exact inv.of_silent rfl rfl rfl
  | walk stack driver =>
      obtain ⟨_, same⟩ := Option.ite_none_right_eq_some.mp handled
      cases same
      exact inv_walk inv meets
  | round channel driver again =>
      obtain ⟨search, thread, same⟩ := handled_round handled
      subst same
      exact inv_round inv meets thread
  | advance =>
      obtain ⟨service, moved, same⟩ := Option.map_eq_some_iff.mp handled
      subst same
      exact inv_advance inv moved

section Broken

theorem broken_queueTune (inv : s.Inv) (waits : s.service.calling ≠ none) :
    ¬ (s.next (.queueTune false) (s.service.queueTune false, [])).Sound := by
  intro sound
  obtain ⟨freq, calling⟩ := Option.ne_none_iff_exists'.mp waits
  have before := inv.sound.counted
  have after : (s.accepted ++ s.service.calling.toList).length =
      (s.tuned ++ []).length + s.service.pending := sound.counted
  rw [calling, List.append_nil, List.length_append] at after
  have one : (some freq).toList.length = 1 := rfl
  omega

theorem broken_walk {stack driver : Int} (inv : s.Inv)
    (missed : ¬ s.Meets (.walk stack driver)) :
    ¬ (s.next (.walk stack driver) (s.service.walk stack driver)).Sound := by
  intro sound
  obtain ⟨tunes, wrong⟩ := Classical.not_imp.mp missed
  apply wrong
  have first : s.service.mFmCommandList.head? = some .cmdTune := by
    rw [Service.tunes, Bool.and_eq_true] at tunes
    exact of_decide_eq_true tunes.1
  obtain ⟨rest, commands⟩ := List.head?_eq_some_iff.mp first
  rw [walk_tune commands inv.enabled] at sound
  exact (prefix_next inv.sound.inOrder).mp sound.inOrder

theorem broken_round {channel : Option Int} {driver again : Int} {search : Search}
    (inv : s.Inv) (missed : ¬ s.Meets (.round channel driver again))
    (thread : s.service.thread = .searching search) :
    ¬ (s.next (.round channel driver again)
      (s.service.round search channel driver again)).Sound := by
  intro sound
  obtain ⟨none, missed⟩ := Classical.not_imp.mp missed
  obtain ⟨asked, unserved⟩ := Classical.not_imp.mp missed
  obtain ⟨service, tunes, same, _, _, _, _, outcome⟩ :=
    @round_cases s channel driver again search thread
  rw [same] at sound
  have once : s.early ++ (if s.asked && s.unserved then freqsAt .fallback tunes else []) = [] :=
    sound.once
  rw [asked, eq_true_of_ne_false unserved, inv.sound.once] at once
  cases outcome with
  | inl success =>
      obtain ⟨freq, found, _⟩ := success
      rw [none] at found
      cases found
  | inr failure =>
      rw [failure.2.2] at once
      cases once

theorem missed_broken {e : Event} {t : Run} (inv : s.Inv) (missed : ¬ s.Meets e)
    (taken : s.step e = some t) : ¬ t.Sound := by
  obtain ⟨r, handled, same⟩ := step_cases taken
  subst same
  cases e with
  | queueTune memory =>
      obtain ⟨enabled, same⟩ := Option.ite_none_right_eq_some.mp handled
      cases same
      have failed : memory = false := eq_false_of_ne_true missed
      subst failed
      exact broken_queueTune inv enabled.1
  | walk stack driver =>
      obtain ⟨_, same⟩ := Option.ite_none_right_eq_some.mp handled
      cases same
      exact broken_walk inv missed
  | round channel driver again =>
      obtain ⟨search, thread, same⟩ := handled_round handled
      subst same
      exact broken_round inv missed thread
  | _ => exact absurd trivial missed

end Broken

section Held

variable (s)

/-- The service holds the frequency of every request that waits. -/
structure Held : Prop where
  inv : s.Inv
  held : ∀ asked ∈ s.waiting, asked = s.service.mTuneFreq

variable {s}

/-- A step that writes no frequency and asks for none leaves no more requests. -/
theorem held_of_quiet {e : Event} {r : Service × List Tune} (held : s.Held)
    (accepted : s.acceptedAfter e = s.accepted) (calling : r.1.calling = s.service.calling)
    (same : r.1.mTuneFreq = s.service.mTuneFreq) :
    ∀ asked ∈ (s.next e r).waiting, asked = r.1.mTuneFreq := by
  intro asked member
  rw [same]
  apply held.held
  have later : asked ∈ (s.acceptedAfter e).drop (s.tuned ++ freqsAt .command r.2).length ++
      r.1.calling.toList := member
  rw [accepted, calling] at later
  cases List.mem_append.mp later with
  | inl waits =>
      apply List.mem_append_left
      have longer : s.tuned.length ≤ (s.tuned ++ freqsAt .command r.2).length := by
        rw [List.length_append]
        omega
      exact List.drop_subset_drop_left s.accepted longer waits
  | inr called => exact List.mem_append_right _ called

theorem waiting_pending (inv : s.Inv) (free : s.waiting = []) : s.unserved = false := by
  obtain ⟨none, quiet⟩ := List.append_eq_nil_iff.mp free
  have counted := inv.sound.counted
  have short := List.drop_eq_nil_iff.mp none
  have idle : s.service.pending = 0 := by omega
  rw [unserved, idle, Option.toList_eq_nil_iff.mp quiet]
  rfl

/-- A calm step of a service that holds what is waited for meets the condition. -/
theorem meets_of_calm {e : Event} (held : s.Held) (calm : s.Calm e) : s.Meets e := by
  cases e with
  | queueTune memory => exact calm
  | walk stack driver =>
      intro tunes
      rw [Service.tunes, Bool.and_eq_true] at tunes
      obtain ⟨rest, commands⟩ := List.head?_eq_some_iff.mp (of_decide_eq_true tunes.1)
      have pending : 0 < s.service.pending := by
        rw [Service.pending, commands, List.count_cons_self]
        omega
      have counted := held.inv.sound.counted
      have within : s.tuned.length < s.accepted.length := by omega
      have member : s.accepted[s.tuned.length] ∈ s.waiting := by
        apply List.mem_append_left
        rw [List.drop_eq_getElem_cons within]
        exact List.mem_cons_self
      rw [List.getElem?_eq_getElem within, held.held _ member]
  | round channel driver again =>
      intro none _
      apply waiting_pending held.inv
      rw [List.eq_nil_iff_forall_not_mem]
      intro asked member
      have found := calm asked member
      rw [none] at found
      cases found
  | _ => trivial

theorem held_setFreq {freq : BitVec 32} (calm : s.Calm (.setFreq freq)) :
    ∀ asked ∈ (s.next (.setFreq freq) (s.service.setFreq freq, [])).waiting,
      asked = freq.toInt := by
  intro asked member
  have later : asked ∈ s.accepted.drop (s.tuned ++ []).length ++ [freq.toInt] := member
  rw [List.append_nil] at later
  cases List.mem_append.mp later with
  | inl waits => exact calm asked (List.mem_append_left _ waits)
  | inr called => exact List.mem_singleton.mp called

theorem waiting_queued (inv : s.Inv) :
    (s.next (.queueTune true) (s.service.queueTune true, [])).waiting = s.waiting := by
  have within := inv.sound.inOrder.length_le
  show (s.accepted ++ s.service.calling.toList).drop (s.tuned ++ []).length ++ [] = _
  rw [List.append_nil, List.append_nil, List.drop_append_of_le_length within]
  rfl

theorem startSearch_writes_nothing {service : Service} {dir : Direction} {memory : Bool} :
    (service.startSearch dir memory).calling = service.calling ∧
      (service.startSearch dir memory).mTuneFreq = service.mTuneFreq := by
  rw [Service.startSearch]
  split
  · cases memory <;> exact ⟨rfl, rfl⟩
  · exact ⟨rfl, rfl⟩

theorem cancelSearch_writes_nothing {service : Service} :
    service.cancelSearch.calling = service.calling ∧
      service.cancelSearch.mTuneFreq = service.mTuneFreq := by
  rw [Service.cancelSearch]
  split <;> exact ⟨rfl, rfl⟩

theorem walk_writes_nothing {service : Service} {stack driver : Int} :
    (service.walk stack driver).1.calling = service.calling ∧
      (service.walk stack driver).1.mTuneFreq = service.mTuneFreq := by
  unfold Service.walk
  split
  · exact ⟨rfl, rfl⟩
  · exact ⟨rfl, rfl⟩
  · rename_i type _ _ _
    dsimp only
    split
    · cases type <;> exact ⟨rfl, rfl⟩
    · exact ⟨rfl, rfl⟩

theorem advance_writes_nothing {service after : Service} (moved : service.advance = some after) :
    after.calling = service.calling ∧ after.mTuneFreq = service.mTuneFreq := by
  unfold Service.advance at moved
  split at moved
  · cases moved
    exact ⟨rfl, rfl⟩
  · split at moved
    · cases moved
      exact ⟨rfl, rfl⟩
    · cases moved
      exact ⟨rfl, rfl⟩
  · cases moved
    exact ⟨rfl, rfl⟩
  · cases moved
    exact ⟨rfl, rfl⟩
  · cases moved

theorem held_round {channel : Option Int} {driver again : Int} {search : Search} (held : s.Held)
    (calm : s.Calm (.round channel driver again))
    (thread : s.service.thread = .searching search) :
    ∀ asked ∈ (s.next (.round channel driver again)
        (s.service.round search channel driver again)).waiting,
      asked = (s.service.round search channel driver again).1.mTuneFreq := by
  obtain ⟨service, tunes, same, _, _, calling, called, outcome⟩ :=
    @round_cases s channel driver again search thread
  rw [same]
  cases outcome with
  | inl success =>
      obtain ⟨freq, found, written, _⟩ := success
      intro asked member
      have later : asked ∈ s.accepted.drop (s.tuned ++ freqsAt .command tunes).length ++
          service.calling.toList := member
      rw [called, List.append_nil, calling] at later
      have sought := calm asked later
      rw [found] at sought
      exact (Option.some.inj sought).symm.trans written.symm
  | inr failure => exact held_of_quiet held rfl calling failure.2.1

/-- The step lemma of the calm runs. -/
theorem calm_kept {e : Event} {t : Run} (held : s.Held) (calm : s.Calm e)
    (taken : s.step e = some t) : t.Held := by
  refine ⟨meets_kept held.inv (meets_of_calm held calm) taken, ?_⟩
  obtain ⟨r, handled, same⟩ := step_cases taken
  subst same
  cases e with
  | setFreq freq =>
      obtain ⟨_, same⟩ := Option.ite_none_right_eq_some.mp handled
      cases same
      exact held_setFreq calm
  | queueTune memory =>
      obtain ⟨_, same⟩ := Option.ite_none_right_eq_some.mp handled
      cases same
      have allocated : memory = true := calm
      subst allocated
      rw [waiting_queued held.inv]
      exact held.held
  | startSearch dir memory =>
      obtain ⟨_, same⟩ := Option.ite_none_right_eq_some.mp handled
      cases same
      exact held_of_quiet held rfl startSearch_writes_nothing.1 startSearch_writes_nothing.2
  | cancelSearch =>
      obtain ⟨_, same⟩ := Option.ite_none_right_eq_some.mp handled
      cases same
      exact held_of_quiet held rfl cancelSearch_writes_nothing.1 cancelSearch_writes_nothing.2
  | setSearchMode mode =>
      obtain ⟨_, same⟩ := Option.ite_none_right_eq_some.mp handled
      cases same
      exact held_of_quiet held rfl rfl rfl
  | setRegion region =>
      obtain ⟨_, same⟩ := Option.ite_none_right_eq_some.mp handled
      cases same
      cases region <;> exact held_of_quiet held rfl rfl rfl
  | setBand low high =>
      obtain ⟨_, same⟩ := Option.ite_none_right_eq_some.mp handled
      cases same
      exact held_of_quiet held rfl rfl rfl
  | wake =>
      obtain ⟨_, same⟩ := Option.ite_none_right_eq_some.mp handled
      cases same
      exact held_of_quiet held rfl rfl rfl
  | walk stack driver =>
      obtain ⟨_, same⟩ := Option.ite_none_right_eq_some.mp handled
      cases same
      exact held_of_quiet held rfl walk_writes_nothing.1 walk_writes_nothing.2
  | round channel driver again =>
      obtain ⟨search, thread, same⟩ := handled_round handled
      subst same
      exact held_round held calm thread
  | advance =>
      obtain ⟨service, moved, same⟩ := Option.map_eq_some_iff.mp handled
      subst same
      obtain ⟨calling, written⟩ := advance_writes_nothing moved
      exact held_of_quiet held rfl calling written

theorem held_start {service : Service} (ready : service.Ready) : (start service).Held := by
  refine ⟨inv_start ready, ?_⟩
  intro asked member
  have later : asked ∈ service.calling.toList := member
  rw [ready.quiet] at later
  cases later

end Held

end Run

/-- From an enabled radio without requests on, every request is tuned to once and in its turn
exactly if commands find their frequency in the service and searches go back to none that waits.
It is enough that nothing else is written there while a request waits. -/
theorem tunes_in_order_iff {service : Service} (ready : service.Ready) (events : List Event) :
    (AllStates Run.step Run.Sound (.start service) events ↔
        StepsMeet Run.step Run.Meets (.start service) events) ∧
      (StepsMeet Run.step Run.Calm (.start service) events →
        AllStates Run.step Run.Sound (.start service) events) := by
  constructor
  · apply @allStates_iff_stepsMeet _ _ _ Run.Inv
    case kept => exact fun _ _ _ inv meets taken => Run.meets_kept inv meets taken
    case enough => exact fun _ inv => inv.sound
    case broken => exact fun _ _ _ inv missed taken => Run.missed_broken inv missed taken
    case start => exact Run.inv_start ready
  · intro calm
    have held : AllStates Run.step Run.Held (.start service) events :=
      allStates_of_stepsMeet (fun _ _ _ held calm taken => Run.calm_kept held calm taken)
        (Run.held_start ready) calm
    exact held.imp fun _ held => held.inv.sound

/-- The service as its constructor leaves it, once the radio is enabled and the thread waits. -/
def Service.enabled : Service where
  cfg := {
    chip := 0x6627
    band := .ue
    lowBand := 8750
    highBand := 10800
    lowBandCust := 0
    highBandCust := 0 }
  mFmCommandList := []
  mTuneFreq := 0
  mSearchMode := .seek
  mFmCallback := true
  mEnabled := true
  mFmTunned := false
  mSearching := false
  mSearchCancelled := false
  calling := none
  mCommandLock := false
  thread := .waiting

theorem Service.enabled_ready : Service.enabled.Ready :=
  ⟨rfl, rfl, List.not_mem_nil, List.not_mem_nil⟩

/-- One request after the other is tuned to. -/
theorem tunes_in_order_alternating :
    let events := [Event.setFreq 8800, .queueTune true, .wake, .walk 0 0, .walk 0 0,
      .setFreq 9000, .queueTune true, .wake, .walk 0 0]
    StepsMeet Run.step Run.Meets (.start .enabled) events ∧
      AllStates Run.step Run.Sound (.start .enabled) events := by
  intro events
  have meets : StepsMeet Run.step Run.Meets (.start .enabled) events := by decide
  exact ⟨meets, (tunes_in_order_iff Service.enabled_ready events).1.mpr meets⟩

/-- Two requests before the thread wakes; a request while a seek runs, which then finds a station;
one while a seek runs that finds none. -/
theorem not_tunes_in_order :
    (let events := [Event.setFreq 8800, .queueTune true, .setFreq 9000, .queueTune true, .wake,
      .walk 0 0]
    ¬ AllStates Run.step Run.Sound (.start .enabled) events) ∧
    (let events := [Event.startSearch .up true, .wake, .walk 0 0, .setFreq 9000,
      .round (some 9200) 0 0, .advance, .advance, .advance, .advance, .walk 0 0, .queueTune true,
      .wake, .walk 0 0]
    ¬ AllStates Run.step Run.Sound (.start .enabled) events) ∧
    (let events := [Event.startSearch .up true, .wake, .walk 0 0, .setFreq 9000, .round none 0 0]
    ¬ AllStates Run.step Run.Sound (.start .enabled) events) := by
  have replaced : ∀ events, ((exec Run.step (.start .enabled) events).map fun s =>
      s.tuned.isPrefixOf s.accepted) = some false →
        ¬ AllStates Run.step Run.Sound (.start .enabled) events := by
    intro events wrong all
    obtain ⟨s, run, wrong⟩ := Option.map_eq_some_iff.mp wrong
    have sound : s.Sound := all.last run
    rw [List.isPrefixOf_iff_prefix.mpr sound.inOrder] at wrong
    cases wrong
  have twice : ∀ events, ((exec Run.step (.start .enabled) events).map fun s =>
      s.early.isEmpty) = some false →
        ¬ AllStates Run.step Run.Sound (.start .enabled) events := by
    intro events wrong all
    obtain ⟨s, run, wrong⟩ := Option.map_eq_some_iff.mp wrong
    have sound : s.Sound := all.last run
    rw [sound.once] at wrong
    cases wrong
  exact ⟨replaced _ (by decide), replaced _ (by decide),
    twice _ (by decide)⟩

end Connectivity.Fm
