import Mathlib.Data.List.Basic

set_option autoImplicit false

/- Runs of a partial step function. A step that is undefined (`none`) ends the
run: nothing is said of what would follow it. -/
namespace Transition

variable {σ α η : Type}

/-- The state after a whole list of inputs, if every step is defined. -/
def exec (step : σ → α → Option σ) : σ → List α → Option σ
  | s, [] => some s
  | s, a :: rest => (step s a).bind fun t => exec step t rest

/-- Every state met by the run, its first and its last included. -/
def AllStates (step : σ → α → Option σ) (P : σ → Prop) : σ → List α → Prop
  | s, [] => P s
  | s, a :: rest => P s ∧ ∀ t, step s a = some t → AllStates step P t rest

/-- Every step the run takes meets a condition on the state before and the input. -/
def StepsMeet (step : σ → α → Option σ) (C : σ → α → Prop) : σ → List α → Prop
  | _, [] => True
  | s, a :: rest => ∀ t, step s a = some t → C s a ∧ StepsMeet step C t rest

/-- A history variable: folded along the steps the run takes, read by no step. -/
def history (step : σ → α → Option σ) (record : η → σ → α → σ → η) : σ → η → List α → η
  | _, h, [] => h
  | s, h, a :: rest =>
      match step s a with
      | some t => history step record t (record h s a t) rest
      | none => h

/-- The steps with the history variable beside the state. -/
def traced (step : σ → α → Option σ) (record : η → σ → α → σ → η) (p : σ × η) (a : α) :
    Option (σ × η) :=
  (step p.1 a).map fun t => (t, record p.2 p.1 a t)

variable {step : σ → α → Option σ}

/-- An invariant kept by every step holds at the end of every run. -/
theorem exec_invariant {Inv : σ → Prop}
    (kept : ∀ s a t, Inv s → step s a = some t → Inv t)
    {s t : σ} {inputs : List α} (start : Inv s) (run : exec step s inputs = some t) : Inv t := by
  induction inputs generalizing s with
  | nil =>
      cases run
      exact start
  | cons a rest ih =>
      obtain ⟨next, taken, run⟩ := Option.bind_eq_some_iff.mp run
      exact ih (kept s a next start taken) run

theorem exec_append {s : σ} {first later : List α} :
    exec step s (first ++ later) = (exec step s first).bind fun t => exec step t later := by
  induction first generalizing s with
  | nil => rfl
  | cons a rest ih =>
      show (step s a).bind (fun t => exec step t (rest ++ later)) = _
      rw [exec, Option.bind_assoc]
      exact congrArg _ (funext fun _ => ih)

/-- The same with a history variable carried along. -/
theorem exec_history {record : η → σ → α → σ → η} {Inv : σ → η → Prop}
    (kept : ∀ s h a t, Inv s h → step s a = some t → Inv t (record h s a t))
    {s t : σ} {h : η} {inputs : List α} (start : Inv s h)
    (run : exec step s inputs = some t) : Inv t (history step record s h inputs) := by
  induction inputs generalizing s h with
  | nil =>
      cases run
      exact start
  | cons a rest ih =>
      obtain ⟨next, taken, run⟩ := Option.bind_eq_some_iff.mp run
      simpa only [history, taken] using ih (kept s h a next start taken) run

theorem exec_traced {record : η → σ → α → σ → η} {s : σ} {h : η} {inputs : List α} :
    exec (traced step record) (s, h) inputs =
      (exec step s inputs).map fun t => (t, history step record s h inputs) := by
  induction inputs generalizing s h with
  | nil => rfl
  | cons a rest ih => cases taken : step s a <;> simp [exec, traced, history, taken, ih]

/-- When every step is defined, a run is a fold. -/
theorem exec_total (next : σ → α → σ) (s : σ) (inputs : List α) :
    exec (fun s a => some (next s a)) s inputs = some (inputs.foldl next s) := by
  induction inputs generalizing s with
  | nil => rfl
  | cons a rest ih => exact ih (next s a)

/-- When an invariant makes every step defined, every run is. -/
theorem exec_defined {Inv : σ → Prop}
    (kept : ∀ s a, Inv s → ∃ t, step s a = some t ∧ Inv t) {s : σ} (start : Inv s)
    (inputs : List α) : ∃ t, exec step s inputs = some t ∧ Inv t := by
  induction inputs generalizing s with
  | nil => exact ⟨s, rfl, start⟩
  | cons a rest ih =>
      obtain ⟨next, taken, inv⟩ := kept s a start
      obtain ⟨last, run, final⟩ := ih inv
      exact ⟨last, by rw [exec, taken, Option.bind_some, run], final⟩

instance decidableStepsMeet {C : σ → α → Prop} [∀ s a, Decidable (C s a)] :
    ∀ (s : σ) (inputs : List α), Decidable (StepsMeet step C s inputs)
  | _, [] => isTrue trivial
  | s, a :: rest =>
      match taken : step s a with
      | none => isTrue fun t other => by rw [taken] at other; cases other
      | some t =>
          have := decidableStepsMeet (C := C) t rest
          decidable_of_iff (C s a ∧ StepsMeet step C t rest) (by simp only [StepsMeet, taken,
            Option.some.injEq, forall_eq'])

theorem AllStates.imp {P Q : σ → Prop} (weaker : ∀ s, P s → Q s) {s : σ} {inputs : List α}
    (all : AllStates step P s inputs) : AllStates step Q s inputs := by
  induction inputs generalizing s with
  | nil => exact weaker s all
  | cons a rest ih => exact ⟨weaker s all.1, fun t taken => ih (all.2 t taken)⟩

theorem AllStates.last {P : σ → Prop} {s t : σ} {inputs : List α}
    (all : AllStates step P s inputs) (run : exec step s inputs = some t) : P t := by
  induction inputs generalizing s with
  | nil =>
      cases run
      exact all
  | cons a rest ih =>
      obtain ⟨next, taken, run⟩ := Option.bind_eq_some_iff.mp run
      exact ih (all.2 next taken) run

/-- An invariant kept by every step holds all along every run. -/
theorem allStates_of_kept {Inv : σ → Prop}
    (kept : ∀ s a t, Inv s → step s a = some t → Inv t)
    {s : σ} (start : Inv s) {inputs : List α} : AllStates step Inv s inputs := by
  induction inputs generalizing s with
  | nil => exact start
  | cons a rest ih => exact ⟨start, fun t taken => ih (kept s a t start taken)⟩

/-- An invariant that conditional steps keep holds all along a run whose steps
meet the condition. -/
theorem allStates_of_stepsMeet {Inv : σ → Prop} {C : σ → α → Prop}
    (kept : ∀ s a t, Inv s → C s a → step s a = some t → Inv t)
    {s : σ} {inputs : List α} (start : Inv s) (meets : StepsMeet step C s inputs) :
    AllStates step Inv s inputs := by
  induction inputs generalizing s with
  | nil => exact start
  | cons a rest ih =>
      refine ⟨start, fun t taken => ?_⟩
      obtain ⟨condition, later⟩ := meets t taken
      exact ih (kept s a t start condition taken) later

/-- A condition on the inputs alone is met along every run of such inputs. -/
theorem stepsMeet_of_forall {C : σ → α → Prop} {s : σ} {inputs : List α}
    (each : ∀ a ∈ inputs, ∀ s, C s a) : StepsMeet step C s inputs := by
  induction inputs generalizing s with
  | nil => trivial
  | cons a rest ih =>
      intro t _
      exact ⟨each a List.mem_cons_self s, ih fun b later => each b (List.mem_cons_of_mem a later)⟩

/-- When, under the invariant, a step that misses the condition leaves the
property, the condition is exactly what a run needs to keep the property. -/
theorem allStates_iff_stepsMeet {Inv P : σ → Prop} {C : σ → α → Prop}
    (kept : ∀ s a t, Inv s → C s a → step s a = some t → Inv t)
    (enough : ∀ s, Inv s → P s)
    (broken : ∀ s a t, Inv s → ¬ C s a → step s a = some t → ¬ P t)
    {s : σ} {inputs : List α} (start : Inv s) :
    AllStates step P s inputs ↔ StepsMeet step C s inputs := by
  refine ⟨fun all => ?_, fun meets => (allStates_of_stepsMeet kept start meets).imp enough⟩
  induction inputs generalizing s with
  | nil => trivial
  | cons a rest ih =>
      intro t taken
      have after := all.2 t taken
      have here : P t := by
        cases rest with
        | nil => exact after
        | cons => exact after.1
      have condition : C s a :=
        Classical.byContradiction fun missed => broken s a t start missed taken here
      exact ⟨condition, ih (kept s a t start condition taken) after⟩

/-- Two conditions that agree under an invariant which one of them keeps hold along
the same runs. -/
theorem stepsMeet_congr {Inv : σ → Prop} {C D : σ → α → Prop}
    (same : ∀ s a, Inv s → (C s a ↔ D s a))
    (kept : ∀ s a t, Inv s → D s a → step s a = some t → Inv t)
    {s : σ} (start : Inv s) {inputs : List α} :
    StepsMeet step C s inputs ↔ StepsMeet step D s inputs := by
  induction inputs generalizing s with
  | nil => exact Iff.rfl
  | cons a rest ih =>
      constructor
      · intro meets t taken
        obtain ⟨here, later⟩ := meets t taken
        have condition := (same s a start).mp here
        exact ⟨condition, (ih (kept s a t start condition taken)).mp later⟩
      · intro meets t taken
        obtain ⟨condition, later⟩ := meets t taken
        exact ⟨(same s a start).mpr condition, (ih (kept s a t start condition taken)).mpr later⟩

end Transition

/- Loops that are given a number of turns: `none` says that these were too few. -/
namespace Transition

variable {α β : Type}

/-- More turns make no difference to what a run comes to. -/
def Steady (run : Nat → Option α) : Prop :=
  ∀ (turns : Nat) (value : α), run turns = some value → run (turns + 1) = some value

variable {run : Nat → Option α} {value : α} {turns more : Nat}

theorem Steady.le (steady : Steady run) (done : run turns = some value) (least : turns ≤ more) :
    run more = some value := by
  induction least with
  | refl => exact done
  | step _ ih => exact steady _ value ih

theorem steady_const (result : Option α) : Steady fun _ => result := fun _ _ done => done

theorem Steady.map (steady : Steady run) (f : α → β) : Steady fun turns => (run turns).map f := by
  intro turns value done
  obtain ⟨before, first, rfl⟩ := Option.map_eq_some_iff.mp done
  exact Option.map_eq_some_iff.mpr ⟨before, steady turns before first, rfl⟩

theorem Steady.bind (steady : Steady run) {next : α → Nat → Option β}
    (later : ∀ value, Steady (next value)) :
    Steady fun turns => (run turns).bind fun value => next value turns := by
  intro turns value done
  obtain ⟨before, first, rest⟩ := Option.bind_eq_some_iff.mp done
  exact Option.bind_eq_some_iff.mpr
    ⟨before, steady turns before first, later before turns value rest⟩

theorem Steady.ite {c : Prop} [Decidable c] {other : Nat → Option α} (yes : Steady run)
    (no : Steady other) : Steady fun turns => if c then run turns else other turns := by
  by_cases holds : c
  · simpa only [if_pos holds] using yes
  · simpa only [if_neg holds] using no

end Transition
