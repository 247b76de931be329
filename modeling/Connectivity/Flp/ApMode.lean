import Connectivity.Flp.Controller
import Connectivity.Flp.SessionProtocol

set_option autoImplicit false

/- The FLP while the host runs it: the HAL, the commands on their way to the daemon and the
controller there, beside the batches that are active. -/
namespace Connectivity.Flp

open Transition

variable {α : Type}

/-- Whether mnld collects, for commands that are listed from the last one back; `none` when one of
them is out of its order. -/
def collecting : List DcCommand → Option Bool
  | [] => some false
  | command :: earlier =>
      match collecting earlier, command with
      | some false, .start _ => some true
      | some true, .stop => some false
      | _, _ => none

def Command.message : Command → ControlMessage
  | .start options => .start (some options)
  | .stop => .stop
  | .setOption options => .setOption (some options)

structure ApMode (α : Type) where
  hal : Protocol
  channel : List Command
  controller : Controller α

/-- A call of the framework or the notice of a restart, the next command at the daemon, or a
location of mnld. -/
inductive ApInput (α : Type)
  | request (r : Request)
  | deliver (alloc : CommandAlloc)
  | location (loc : α) (fix : Bool) (checked now : BitVec 32) (alloc : NoticeAlloc)

namespace ApMode

def start : ApMode α := ⟨.start, [], .initial⟩

variable (s : ApMode α)

/-- The commands on their way and the controller are lost with a daemon that restarts. -/
def request (r : Request) : ApMode α :=
  let sent := (s.hal.hal.handle r).2
  match r with
  | .reboot => ⟨s.hal.next r, sent, .initial⟩
  | r => ⟨s.hal.next r, s.channel ++ sent, s.controller⟩

def deliver (alloc : CommandAlloc) : ApMode α :=
  match s.channel with
  | [] => s
  | command :: rest =>
      { s with channel := rest, controller := s.controller.process alloc command.message }

def next : ApInput α → ApMode α
  | .request r => s.request r
  | .deliver alloc => s.deliver alloc
  | .location loc fix checked now alloc =>
      { s with controller := s.controller.next (.location loc fix checked now alloc) }

def step (input : ApInput α) : Option (ApMode α) := some (s.next input)

/-- The options of a batch that asks for something. -/
def Filled (options : FlpBatchOptions) : Prop := options.sourcesToUse ≠ 0 ∧ 0 < options.periodNs

/-- Calls that keep the protocol of the HAL, for batches with sources and periods, and memory for
the requests to mnld. -/
def Served : ApInput α → Prop
  | .request r => Orderly s.hal.hal r ∧
      match r with
      | .start _ (some options) => Filled options
      | .update _ (some options) => options.sourcesToUse ≠ 0 → 0 < options.periodNs
      | _ => True
  | .deliver alloc => alloc = ⟨true, true⟩
  | .location _ _ _ _ _ => True

/-- mnld is asked to start and to stop in turn; once no command is on its way it collects exactly
while a batch is active, and the period and the mode that the controller counts by are the least
period and the largest flags of these. -/
structure Sound : Prop where
  ordered : ∃ running, collecting s.controller.dc = some running
  settled : s.channel = [] →
    (collecting s.controller.dc = some true ↔ ∃ id batch, s.hal.batches id = some batch)
  enabled : s.channel = [] →
    (s.controller.enabled = true ↔ ∃ id batch, s.hal.batches id = some batch)
  options : s.channel = [] → collecting s.controller.dc = some true →
    ∃ options, FoldOf s.hal.batches options ∧ s.controller.periodNs = options.periodNs ∧
      s.controller.batchMode = Controller.modeOf options.flags

end ApMode

section Commands

/-- The options that the daemon was sent last. -/
def lastOptions (sent : List Command) : Option FlpBatchOptions := sent.head?.bind Command.options

/-- The controller behind commands that have been sent in their order. -/
structure Controlled (sent : List Command) (c : Controller α) : Prop where
  served : ∃ running, session sent = some running ∧ c.enabled = running ∧
    collecting c.dc = some running ∧ (running = true ↔ c.sourceToUse ≠ 0)
  source : c.runningSource = c.sourceToUse
  options : c.sourceToUse ≠ 0 → ∃ options, lastOptions sent = some options ∧
    c.periodNs = options.periodNs ∧ c.batchMode = Controller.modeOf options.flags

theorem controlled_initial : Controlled [] (Controller.initial : Controller α) where
  served := ⟨false, rfl, rfl, rfl, iff_of_false nofun fun wanted => wanted rfl⟩
  source := rfl
  options := fun wanted => absurd rfl wanted

variable {sent : List Command} {c t : Controller α}

/-- A step that leaves alone what the commands set. -/
theorem Controlled.same (controlled : Controlled sent c) (enabled : t.enabled = c.enabled)
    (dc : t.dc = c.dc) (wanted : t.sourceToUse = c.sourceToUse)
    (running : t.runningSource = c.runningSource) (period : t.periodNs = c.periodNs)
    (mode : t.batchMode = c.batchMode) : Controlled sent t := by
  constructor
  · rw [enabled, dc, wanted]
    exact controlled.served
  · rw [running, wanted]
    exact controlled.source
  · rw [wanted, period, mode]
    exact controlled.options

theorem session_cons {command : Command} {running : Bool}
    (ordered : session (command :: sent) = some running) :
    ∃ before, session sent = some before ∧
      (before = true ∧ command = .stop ∧ running = false ∨
        running = true ∧ ∃ options, command.options = some options ∧
          (before = false ∧ command = .start options ∨
            before = true ∧ command = .setOption options)) := by
  rcases before : session sent with _ | _ | _ <;> rcases command with options | _ | options <;>
    simp only [session, before] at ordered <;> cases ordered
  · exact ⟨false, rfl, .inr ⟨rfl, options, rfl, .inl ⟨rfl, rfl⟩⟩⟩
  · exact ⟨true, rfl, .inl ⟨rfl, rfl, rfl⟩⟩
  · exact ⟨true, rfl, .inr ⟨rfl, options, rfl, .inr ⟨rfl, rfl⟩⟩⟩

theorem session_append {later : List Command} {running : Bool}
    (ordered : session (later ++ sent) = some running) : ∃ before, session sent = some before := by
  induction later generalizing running with
  | nil => exact ⟨running, ordered⟩
  | cons command rest ih =>
      obtain ⟨before, earlier, _⟩ := session_cons ordered
      exact ih earlier

section Update

variable {options : FlpBatchOptions}

theorem updateOption_open (idle : c.runningSource = 0) (wanted : c.sourceToUse ≠ 0) :
    c.updateOption ⟨true, true⟩ options =
      { c with
        updateLastTime := 0
        offered := []
        taken := []
        dc := .start ⟨options.maxPowerAllocationMW, flpTechMaskGnss, c.batchMode, c.periodNs⟩ ::
          c.dc
        runningSource := c.sourceToUse } := by
  have differs : c.runningSource ≠ c.sourceToUse := by
    rw [idle]
    exact wanted.symm
  simp only [Controller.updateOption, if_pos differs, if_pos (And.intro idle wanted), if_true,
    Controller.flp2mnlProcess]

theorem updateOption_close (running : c.runningSource ≠ 0) (unwanted : c.sourceToUse = 0) :
    c.updateOption ⟨true, true⟩ options =
      { c with dc := .stop :: c.dc, runningSource := c.sourceToUse } := by
  have differs : c.runningSource ≠ c.sourceToUse := by
    rw [unwanted]
    exact running
  have first : ¬ (c.runningSource = 0 ∧ c.sourceToUse ≠ 0) := fun both => running both.1
  simp only [Controller.updateOption, if_pos differs, if_neg first,
    if_pos (And.intro running unwanted), if_true, Controller.flp2mnlProcess]

theorem updateOption_keep (running : c.runningSource ≠ 0) (wanted : c.sourceToUse ≠ 0) :
    c.updateOption ⟨true, true⟩ options = { c with runningSource := c.sourceToUse } := by
  have first : ¬ (c.runningSource = 0 ∧ c.sourceToUse ≠ 0) := fun both => running both.1
  have second : ¬ (c.runningSource ≠ 0 ∧ c.sourceToUse = 0) := fun both => wanted both.2
  simp only [Controller.updateOption, if_neg first, if_neg second, ite_self]

end Update

/-- What a run of the session that ends has behind it. -/
theorem Controlled.stop (controlled : Controlled sent c) (before : session sent = some true) :
    Controlled (.stop :: sent) (c.process ⟨true, true⟩ Command.stop.message) := by
  obtain ⟨running, ordered, enabled, collects, wanted⟩ := controlled.served
  rw [before, Option.some.injEq] at ordered
  subst ordered
  have source : c.runningSource ≠ 0 := controlled.source ▸ wanted.mp rfl
  have next : c.process ⟨true, true⟩ Command.stop.message =
      { c with enabled := false, sourceToUse := 0, dc := .stop :: c.dc, runningSource := 0 } :=
    @updateOption_close _ { c with enabled := false, sourceToUse := 0 } .zero source rfl
  rw [next]
  constructor
  · refine ⟨false, ?_, rfl, ?_, iff_of_false nofun fun wanted => wanted rfl⟩
    · simp only [session, before]
    · simp only [collecting, collects]
  · rfl
  · exact fun wanted => absurd rfl wanted

theorem Controlled.start {options : FlpBatchOptions} (controlled : Controlled sent c)
    (before : session sent = some false) (filled : ApMode.Filled options) :
    Controlled (.start options :: sent)
      (c.process ⟨true, true⟩ (Command.start options).message) := by
  obtain ⟨running, ordered, enabled, collects, wanted⟩ := controlled.served
  rw [before, Option.some.injEq] at ordered
  subst ordered
  have source : c.runningSource = 0 := by
    rw [controlled.source]
    exact not_not.mp fun used => nomatch wanted.mpr used
  have next := @updateOption_open _ { c with
      enabled := true
      batchMode := Controller.modeOf options.flags
      periodNs := options.periodNs
      sourceToUse := options.sourcesToUse } options source filled.1
  have same : c.process ⟨true, true⟩ (Command.start options).message = _ := next
  rw [same]
  constructor
  · refine ⟨true, ?_, rfl, ?_, iff_of_true rfl filled.1⟩
    · simp only [session, before]
    · simp only [collecting, collects]
  · rfl
  · exact fun _ => ⟨options, rfl, rfl, rfl⟩

theorem Controlled.setOption {options : FlpBatchOptions} (controlled : Controlled sent c)
    (before : session sent = some true) (filled : ApMode.Filled options) :
    Controlled (.setOption options :: sent)
      (c.process ⟨true, true⟩ (Command.setOption options).message) := by
  obtain ⟨running, ordered, enabled, collects, wanted⟩ := controlled.served
  rw [before, Option.some.injEq] at ordered
  subst ordered
  have source : c.runningSource ≠ 0 := controlled.source ▸ wanted.mp rfl
  have period : (if c.periodNs ≠ options.periodNs ∧ 0 < options.periodNs then options.periodNs
      else c.periodNs) = options.periodNs := by
    split
    · rfl
    · rename_i kept
      exact not_not.mp fun differs => kept ⟨differs, filled.2⟩
  have next := @updateOption_keep _ { c with
      enabled := true
      periodNs := if c.periodNs ≠ options.periodNs ∧ 0 < options.periodNs then options.periodNs
        else c.periodNs
      batchMode := Controller.modeOf options.flags
      sourceToUse := options.sourcesToUse } options source filled.1
  have same : c.process ⟨true, true⟩ (Command.setOption options).message = _ := next
  rw [same]
  constructor
  · refine ⟨true, ?_, rfl, collects, iff_of_true rfl filled.1⟩
    simp only [session, before]
  · rfl
  · exact fun _ => ⟨options, rfl, period, rfl⟩

/-- A command that reaches the daemon in its order. -/
theorem Controlled.deliver {command : Command} {running : Bool} (controlled : Controlled sent c)
    (ordered : session (command :: sent) = some running)
    (filled : ∀ options, command.options = some options → ApMode.Filled options) :
    Controlled (command :: sent) (c.process ⟨true, true⟩ command.message) := by
  obtain ⟨before, earlier, ⟨on, rfl, _⟩ | ⟨_, options, carried, ⟨off, rfl⟩ | ⟨on, rfl⟩⟩⟩ :=
    session_cons ordered
  · exact controlled.stop (on ▸ earlier)
  · exact controlled.start (off ▸ earlier) (filled options carried)
  · exact controlled.setOption (on ▸ earlier) (filled options carried)

/-- A location leaves alone what the commands set. -/
theorem Controlled.location (controlled : Controlled sent c) (loc : α) (fix : Bool)
    (checked now : BitVec 32) (alloc : NoticeAlloc) :
    Controlled sent (c.next (.location loc fix checked now alloc)) := by
  have look : Controlled sent (c.checkLocAvailableExpired checked.toNat alloc) := by
    unfold Controller.checkLocAvailableExpired
    split_ifs <;> exact controlled.same rfl rfl rfl rfl rfl rfl
  have report : Controlled sent (c.reportLoc fix checked.toNat now.toNat alloc).1 := by
    unfold Controller.reportLoc Controller.onPeriod
    dsimp only
    split_ifs <;> first | exact controlled | exact look.same rfl rfl rfl rfl rfl rfl
  show Controlled sent (c.hbdGpsLocation loc fix checked.toNat now.toNat alloc)
  unfold Controller.hbdGpsLocation
  revert report
  rcases c.reportLoc fix checked.toNat now.toNat alloc with ⟨t, _ | _⟩ <;> intro report
  · exact report
  · dsimp only at report ⊢
    split
    · exact report.same rfl rfl rfl rfl rfl rfl
    · exact report

end Commands

section Hal

variable {p : Protocol} {r : Request}

/-- A call of the framework sends one command at most. -/
theorem handle_sends (h : Hal) (r : Request) :
    (h.handle r).2 = [] ∨ ∃ command, (h.handle r).2 = [command] := by
  rcases r with ⟨id, _ | options⟩ | ⟨id, _ | options⟩ | id | _ | _
  · exact .inl rfl
  · simp only [Hal.handle, flphal2mnlFlpStart]
    split_ifs <;> simp
  · exact .inl rfl
  · simp only [Hal.handle, flphal2mnlUpdateBatchingOptions]
    split_ifs <;> simp
  · simp only [Hal.handle, flphal2mnlStopBatching]
    cases batchIndex id with
    | none => exact .inl rfl
    | some i =>
        dsimp only
        split_ifs <;> simp
  · simp only [Hal.handle, resetFlpData]
    split_ifs <;> simp
  · simp only [Hal.handle, flphal2mnlFlpRebootDoneNtf]
    split_ifs <;> simp

/-- Options that are folded over batches with periods ask for something. -/
theorem filled_of_fold {batches : Batches} {options : FlpBatchOptions}
    (synced : Synced p.hal batches)
    (positive : ∀ id batch, batches id = some batch → 0 < batch.periodNs)
    (fold : FoldOf batches options) : ApMode.Filled options := by
  obtain ⟨id, batch, active, period⟩ := fold.period.1
  refine ⟨fun zero => ?_, period ▸ positive id batch active⟩
  have sources : batch.sourcesToUse ≠ 0 := by
    rw [synced.batches] at active
    cases found : batchIndex id with
    | none =>
        rw [batchesOf_missing found] at active
        cases active
    | some i =>
        rw [batchesOf_found found, batch_eq_some] at active
        exact active.2 ▸ active.1
  apply sources
  apply BitVec.eq_of_getLsbD_eq
  intro bit _
  have unset : ¬ batch.sourcesToUse.getLsbD bit = true := by
    intro set
    have wanted := (fold.sources bit).mpr ⟨id, batch, active, set⟩
    rw [zero] at wanted
    simp at wanted
  rw [Bool.eq_false_of_not_eq_true unset]
  simp

/-- Without a command the batches stay as they are. -/
theorem meant_of_silent (inv : p.Inv) (orderly : Orderly p.hal r)
    (filled : ∀ id options, r = .start id (some options) → options.sourcesToUse ≠ 0)
    (silent : (p.hal.handle r).2 = []) : p.meant r = p.batches := by
  have synced := inv.synced
  rcases r with ⟨id, _ | options⟩ | ⟨id, _ | options⟩ | id | _ | _
  · rfl
  · obtain ⟨i, found, _, _⟩ := orderly
    have active := filled id options rfl
    cases first : p.hal.gFlpFirstBatch with
    | true =>
        rw [handle_start_first synced.exist found active first] at silent
        cases silent
    | false =>
        rw [handle_start_again synced.exist found active first] at silent
        cases silent
  · rfl
  · obtain ⟨i, found, _, _⟩ := orderly
    rw [handle_update synced.exist found] at silent
    cases silent
  · cases found : batchIndex id with
    | none =>
        have none : p.batches id = none := by rw [synced.batches, batchesOf_missing found]
        rw [Protocol.meant, ← none, Function.update_eq_self]
    | some i =>
        rw [handle_stop synced.exist found] at silent
        split at silent <;> cases silent
  · cases first : p.hal.gFlpFirstBatch with
    | true =>
        have idle : ¬ ∃ i, (p.hal.gFlpOptions i).sourcesToUse ≠ 0 := by
          rw [← synced.running, first]
          decide
        rw [synced.batches, batchesOf_idle idle]
        rfl
    | false =>
        simp only [Hal.handle, resetFlpData, first, Bool.false_eq_true, if_false] at silent
        cases silent
  · rfl

end Hal

namespace ApMode

/-- The commands that have reached the controller are the older ones of those that were sent since
the daemon was started, and the latest was sent for the batches that are active. -/
structure Inv (s : ApMode α) : Prop where
  protocol : s.hal.Inv
  positive : ∀ id batch, s.hal.batches id = some batch → 0 < batch.periodNs
  current : s.hal.hal.gFlpFirstBatch = false →
    s.hal.sent.head?.map Prod.snd = some s.hal.batches
  filled : ∀ command ∈ s.hal.sent, ∀ options, command.1.options = some options → Filled options
  delivered : ∃ delivered, s.hal.sent.map Prod.fst = s.channel.reverse ++ delivered ∧
    Controlled delivered s.controller

variable {s : ApMode α} {r : Request}

theorem inv_begin : (start : ApMode α).Inv where
  protocol := inv_start
  positive := nofun
  current := nofun
  filled := nofun
  delivered := ⟨[], rfl, controlled_initial⟩

theorem meant_positive (inv : s.Inv) (served : s.Served (.request r)) :
    ∀ id batch, s.hal.meant r id = some batch → 0 < batch.periodNs := by
  have replaced (id : Int) (new : Option FlpBatchOptions)
      (positive : ∀ batch, new = some batch → 0 < batch.periodNs) :
      ∀ k batch, Function.update s.hal.batches id new k = some batch → 0 < batch.periodNs := by
    intro k batch active
    by_cases here : k = id
    · rw [here, Function.update_self] at active
      exact positive batch active
    · rw [Function.update_of_ne here] at active
      exact inv.positive k batch active
  rcases r with ⟨id, _ | options⟩ | ⟨id, _ | options⟩ | id | _ | _
  · exact inv.positive
  · apply replaced id
    intro batch active
    exact (batch_eq_some.mp active).2 ▸ served.2.2
  · exact inv.positive
  · apply replaced id
    intro batch active
    obtain ⟨sources, same⟩ := batch_eq_some.mp active
    exact same ▸ served.2 sources
  · exact replaced id none nofun
  · nofun
  · exact inv.positive

theorem request_running (reboot : r ≠ .reboot) :
    s.request r = ⟨s.hal.next r, s.channel ++ (s.hal.hal.handle r).2, s.controller⟩ ∧
      s.hal.known r = s.hal.sent := by
  cases r with
  | reboot => exact absurd rfl reboot
  | start id options | update id options | stop id | reset => exact ⟨rfl, rfl⟩

/-- What the controller still has to be told, behind a call. -/
theorem request_delivered (inv : s.Inv) (r : Request) :
    ∃ delivered, (s.hal.next r).sent.map Prod.fst = (s.request r).channel.reverse ++ delivered ∧
      Controlled delivered (s.request r).controller := by
  obtain ⟨delivered, order, controlled⟩ := inv.delivered
  have sent : ((s.hal.next r).sent.map Prod.fst) =
      (s.hal.hal.handle r).2.reverse ++ (s.hal.known r).map Prod.fst := by
    rcases handle_sends s.hal.hal r with silent | ⟨command, sends⟩
    · simp only [Protocol.next, silent, List.map_nil, List.nil_append, List.reverse_nil]
    · simp only [Protocol.next, sends, List.map_cons, List.map_nil, List.reverse_singleton,
        List.singleton_append]
  by_cases reboot : r = .reboot
  · subst reboot
    refine ⟨[], ?_, controlled_initial⟩
    rw [sent]
    rfl
  · obtain ⟨next, known⟩ := @request_running _ s r reboot
    refine ⟨delivered, ?_, ?_⟩
    · rw [sent, known, order, next, List.reverse_append, List.append_assoc]
    · rw [next]
      exact controlled

theorem request_hal (s : ApMode α) (r : Request) : (s.request r).hal = s.hal.next r := by
  cases r <;> rfl

theorem Inv.request (inv : s.Inv) (served : s.Served (.request r)) : (s.request r).Inv := by
  have protocol := inv_next inv.protocol served.1
  have positive := meant_positive inv served
  have delivered := request_delivered inv r
  have older : ∀ command ∈ s.hal.known r, command ∈ s.hal.sent := by
    intro command member
    cases r with
    | reboot => cases member
    | start id options | update id options | stop id | reset => exact member
  constructor
  case delivered =>
    rw [request_hal]
    exact delivered
  all_goals rw [request_hal]
  case protocol => exact protocol
  case positive => exact positive
  case current =>
    intro running
    rcases handle_sends s.hal.hal r with silent | ⟨command, sends⟩
    · have state : s.hal.hal.handle r = ((s.hal.hal.handle r).1, []) := Prod.ext rfl silent
      rw [next_silent state] at protocol running ⊢
      have ordered := protocol.ordered
      dsimp only at ordered running ⊢
      rw [running] at ordered
      by_cases reboot : r = .reboot
      · subst reboot
        cases ordered
      · rw [(request_running (s := s) reboot).2] at ordered ⊢
        rw [inv.protocol.ordered, Option.some.injEq, Bool.not_false, Bool.not_eq_true'] at ordered
        rw [meant_of_silent inv.protocol served.1 ?_ silent]
        · exact inv.current ordered
        · rintro id options rfl
          exact served.2.1
    · have state : s.hal.hal.handle r = ((s.hal.hal.handle r).1, [command]) := Prod.ext rfl sends
      rw [next_sends state]
      rfl
  case filled =>
    intro command member options carried
    rcases handle_sends s.hal.hal r with silent | ⟨sent, sends⟩
    · have state : s.hal.hal.handle r = ((s.hal.hal.handle r).1, []) := Prod.ext rfl silent
      rw [next_silent state] at member
      exact inv.filled command (older command member) options carried
    · have state : s.hal.hal.handle r = ((s.hal.hal.handle r).1, [sent]) := Prod.ext rfl sends
      have fold := protocol.options command member options carried
      rw [next_sends state] at member
      rcases List.mem_cons.mp member with new | old
      · rw [new] at fold
        exact filled_of_fold protocol.synced positive fold
      · exact inv.filled command (older command old) options carried

theorem Inv.deliver (inv : s.Inv) : (s.deliver ⟨true, true⟩).Inv := by
  obtain ⟨delivered, order, controlled⟩ := inv.delivered
  unfold ApMode.deliver
  cases channel : s.channel with
  | nil => exact inv
  | cons command rest =>
      have order : s.hal.sent.map Prod.fst = rest.reverse ++ command :: delivered := by
        rw [order, channel, List.reverse_cons, List.append_assoc, List.singleton_append]
      have among : command ∈ s.hal.sent.map Prod.fst := by
        rw [order]
        exact List.mem_append_right _ List.mem_cons_self
      obtain ⟨sent, member, same⟩ := List.mem_map.mp among
      have whole := inv.protocol.ordered
      rw [order] at whole
      obtain ⟨running, ordered⟩ := session_append whole
      exact { inv with
        delivered := ⟨command :: delivered, order,
          controlled.deliver ordered fun options carried =>
            inv.filled sent member options (same ▸ carried)⟩ }

theorem Inv.next (inv : s.Inv) {input : ApInput α} (served : s.Served input) :
    (s.next input).Inv := by
  cases input with
  | request r => exact inv.request served
  | deliver alloc =>
      obtain rfl : alloc = ⟨true, true⟩ := served
      exact inv.deliver
  | location loc fix checked now alloc =>
      obtain ⟨delivered, order, controlled⟩ := inv.delivered
      exact { inv with
        delivered := ⟨delivered, order, controlled.location loc fix checked now alloc⟩ }

theorem Inv.sound (inv : s.Inv) : s.Sound := by
  obtain ⟨delivered, order, controlled⟩ := inv.delivered
  obtain ⟨running, session, enabled, collects, wanted⟩ := controlled.served
  have settled (empty : s.channel = []) : s.hal.sent.map Prod.fst = delivered ∧
      (running = true ↔ ∃ id batch, s.hal.batches id = some batch) := by
    rw [empty] at order
    have ordered := inv.protocol.ordered
    rw [order, List.reverse_nil, List.nil_append, session, Option.some.injEq] at ordered
    refine ⟨order, ?_⟩
    rw [ordered, Bool.not_eq_true', inv.protocol.synced.running, inv.protocol.synced.batches,
      someActive_iff]
  constructor
  · exact ⟨running, collects⟩
  · intro empty
    rw [collects, Option.some.injEq]
    exact (settled empty).2
  · intro empty
    rw [enabled]
    exact (settled empty).2
  · intro empty on
    rw [collects, Option.some.injEq] at on
    obtain ⟨options, last, period, mode⟩ := controlled.options (wanted.mp on)
    obtain ⟨same, active⟩ := settled empty
    have first : s.hal.hal.gFlpFirstBatch = false := by
      rw [inv.protocol.synced.running, ← someActive_iff, ← inv.protocol.synced.batches]
      exact active.mp on
    refine ⟨options, ?_, period, mode⟩
    have current := inv.current first
    have fold := inv.protocol.options
    rw [← same] at last
    cases sent : s.hal.sent with
    | nil =>
        rw [sent] at current
        cases current
    | cons command earlier =>
        rw [sent] at current last
        have carried : command.1.options = some options := last
        have batches : command.2 = s.hal.batches := Option.some.inj current
        rw [← batches]
        exact fold command (sent ▸ List.mem_cons_self) options carried

/-- However calls, commands and locations follow each other, mnld collects for the FLP as its
batches ask for it. -/
theorem runs_sound (inputs : List (ApInput α))
    (served : StepsMeet step Served (start : ApMode α) inputs) :
    AllStates step Sound (start : ApMode α) inputs := by
  have all : AllStates step Inv (start : ApMode α) inputs := by
    apply allStates_of_stepsMeet _ inv_begin served
    intro s input t inv served taken
    rw [← Option.some.inj taken]
    exact inv.next served
  exact all.imp fun _ inv => inv.sound

/-- A batch that is started, and its command at the daemon. -/
theorem runs_sound_start :
    AllStates step Sound (start : ApMode Unit)
      [.request (.start 0 (some ⟨0, 1, 1, 2000000000⟩)), .deliver ⟨true, true⟩] := by
  apply runs_sound
  intro t taken
  refine ⟨⟨⟨⟨0, by decide⟩, rfl, fun idle => absurd idle (by decide), fun _ => ?_⟩, ?_⟩, ?_⟩
  · exact ⟨⟨0, by decide⟩, by decide, by decide⟩
  · exact ⟨by decide, by decide⟩
  · exact fun t taken => ⟨rfl, trivial⟩

end ApMode

end Connectivity.Flp
