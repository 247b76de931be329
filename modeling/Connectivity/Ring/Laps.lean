import Mathlib.Data.List.Basic

set_option autoImplicit false

/- A walk round a ring that goes from each place to the next one, until it is back at its home or
beyond it: when it ends, and which places it comes to. -/
namespace Connectivity.Ring

/-- The lap a walk is in, and its place. -/
structure Walk where
  lap : Nat
  place : Int
deriving DecidableEq, Repr

namespace Walk

/-- A step back is one into the next lap. -/
def step (next : Int → Int) (walk : Walk) : Walk :=
  { lap := if next walk.place < walk.place then walk.lap + 1 else walk.lap
    place := next walk.place }

/-- A walk ends when it stays, comes home, passes its home in the second lap, or begins a third. -/
def ends (home : Int) (before after : Walk) : Bool :=
  decide (after.place = before.place ∨ after.place = home ∨
    (after.lap = 1 ∧ home < after.place) ∨ after.lap = 2)

/-- The places a walk comes to; it may be halted at one for another reason. -/
def visits (next : Int → Int) (home : Int) (halts : Int → Bool) : Nat → Walk → List Int
  | 0, _ => []
  | fuel + 1, walk =>
      let after := walk.step next
      after.place ::
        if ends home walk after || halts after.place then [] else visits next home halts fuel after

/-- Whether a walk has ended. -/
def finished (next : Int → Int) (home : Int) (halts : Int → Bool) : Nat → Walk → Bool
  | 0, _ => false
  | fuel + 1, walk =>
      let after := walk.step next
      ends home walk after || halts after.place || finished next home halts fuel after

end Walk

/-- No place comes twice, but the last may be the first one again. -/
def OnceRound (places : List Int) : Prop :=
  ∀ seen last, places = seen ++ [last] → seen.Nodup ∧ (last ∈ seen → seen.head? = some last)

section OnceRound

theorem onceRound_append {seen : List Int} {last : Int} (nodup : seen.Nodup)
    (again : last ∈ seen → seen.head? = some last) : OnceRound (seen ++ [last]) := by
  intro others other split
  obtain ⟨same, ends⟩ := List.append_inj' split rfl
  cases same
  cases ends
  exact ⟨nodup, again⟩

theorem onceRound_of_nodup {places : List Int} (nodup : places.Nodup) : OnceRound places := by
  intro seen last split
  rw [split] at nodup
  refine ⟨(List.nodup_append.mp nodup).1, ?_⟩
  intro member
  exact absurd rfl (List.nodup_append.mp nodup |>.2.2 last member last (List.mem_singleton_self _))

theorem onceRound_map {places : List Int} {f : Int → Int}
    (injective : ∀ first second, f first = f second → first = second) (once : OnceRound places) :
    OnceRound (places.map f) := by
  intro seen last split
  obtain ⟨before, final, rfl, rfl, single⟩ := List.map_eq_append_iff.mp split
  obtain ⟨place, rest, rfl, rfl, none⟩ := List.map_eq_cons_iff.mp single
  rw [List.map_eq_nil_iff.mp none] at once
  obtain ⟨nodup, again⟩ := once before place rfl
  have apart : ∀ first second, first ≠ second → f first ≠ f second :=
    fun first second other same => other (injective first second same)
  refine ⟨List.Pairwise.map f apart nodup, ?_⟩
  intro member
  obtain ⟨other, isBefore, same⟩ := List.mem_map.mp member
  rw [injective other place same] at isBefore
  rw [List.head?_map, again isBefore]
  rfl

theorem nodup_append {seen : List Int} {last : Int} (nodup : seen.Nodup) (fresh : last ∉ seen) :
    (seen ++ [last]).Nodup := by
  refine List.nodup_append.mpr ⟨nodup, List.pairwise_singleton _ _, ?_⟩
  intro place member other single same
  rw [List.mem_singleton.mp single] at same
  exact fresh (same ▸ member)

end OnceRound

section Termination

variable {next : Int → Int} {home : Int} {halts : Int → Bool}

/-- Within bounds a walk ends: a step goes forward, or into the next lap, of which there are two. -/
theorem finished_of_bounded {least most : Int}
    (bounded : ∀ place, least ≤ place → place ≤ most → least ≤ next place ∧ next place ≤ most)
    {fuel : Nat} {walk : Walk} (low : least ≤ walk.place) (high : walk.place ≤ most)
    (laps : walk.lap ≤ 1)
    (enough : (2 - walk.lap) * ((most - least).toNat + 1) + (most - walk.place).toNat < fuel) :
    walk.finished next home halts fuel = true := by
  induction fuel generalizing walk with
  | zero => omega
  | succ fuel ih =>
      obtain ⟨above, below⟩ := bounded walk.place low high
      rw [Walk.finished]
      cases ends : Walk.ends home walk (walk.step next) with
      | true => rw [Bool.true_or, Bool.true_or]
      | false =>
          have going := of_decide_eq_false ends
          have moved : next walk.place ≠ walk.place := fun stays => going (.inl stays)
          have lap : (walk.step next).lap ≠ 2 := fun third => going (.inr (.inr (.inr third)))
          rw [Walk.step] at lap
          dsimp only at lap
          have later : (walk.step next).finished next home halts fuel = true := by
            apply ih
            · exact above
            · exact below
            · rw [Walk.step]
              dsimp only
              split at lap
              · rw [if_pos ‹_›]
                omega
              · rw [if_neg ‹_›]
                omega
            · rw [Walk.step]
              dsimp only
              split at lap
              · rename_i back
                have first : walk.lap = 0 := by omega
                rw [first] at enough
                rw [if_pos back, first]
                omega
              · rename_i forward
                rw [if_neg forward]
                omega
          rw [later, Bool.or_true]

end Termination

/-- The rules of a walk whose first place is beyond its home. From each place beyond it goes on,
stays at the first place, or goes back to one that is not between; from each place in front of the
home it goes on, and no further than the first place. -/
structure Ahead (Place : Int → Prop) (next : Int → Int) (home first : Int) : Prop where
  beyond : home < first
  starts : Place first
  onward : ∀ place, Place place → first ≤ place →
    (place < next place ∧ Place (next place)) ∨ (next place = place ∧ place ≤ first) ∨
      (next place < place ∧ Place (next place) ∧ next place ≤ first)
  homeward : ∀ place, Place place → place < home →
    place < next place ∧ Place (next place) ∧ (home < next place → next place ≤ first)

/-- The rules of a walk whose first place is in front of its home: it goes on, stays there, or goes
back there. -/
structure Behind (Place : Int → Prop) (next : Int → Int) (home first : Int) : Prop where
  before : first < home
  starts : Place first
  onward : ∀ place, Place place → first ≤ place →
    (place < next place ∧ Place (next place)) ∨ (next place = place ∧ place ≤ first) ∨
      next place = first

/-- The walks that keep to such rules from their first step on, or end by the second one. -/
inductive Orderly (Place : Int → Prop) (next : Int → Int) (home start : Int) : Prop
  | stays (same : next start = start)
  | returns (back : next start = home)
  | ahead (forward : start < next start) (rules : Ahead Place next home (next start))
  | passes (back : next start < start) (beyond : home < next start)
  | behind (back : next start < start) (rules : Behind Place next home (next start))
  | single (again : next (next start) = next start)

namespace Walk

variable {Place : Int → Prop} {next : Int → Int} {home first : Int} {halts : Int → Bool}
  {seen : List Int} {walk : Walk}

/-- A walk after a step: with what it comes to from there, unless it ends. -/
theorem visits_succ (fuel : Nat) (nodup : seen.Nodup)
    (again : next walk.place ∈ seen → seen.head? = some (next walk.place))
    (later : ends home walk (walk.step next) = false →
      OnceRound ((seen ++ [next walk.place]) ++
        (walk.step next).visits next home halts fuel)) :
    OnceRound (seen ++ walk.visits next home halts (fuel + 1)) := by
  rw [visits]
  cases ended : ends home walk (walk.step next) with
  | true => exact onceRound_append nodup again
  | false =>
      rw [Bool.false_or]
      split
      · exact onceRound_append nodup again
      · have all := later ended
        rw [List.append_assoc] at all
        exact all

theorem not_ended (ended : ends home walk (walk.step next) = false) :
    next walk.place ≠ walk.place ∧ next walk.place ≠ home ∧
      ¬ ((walk.step next).lap = 1 ∧ home < next walk.place) ∧ (walk.step next).lap ≠ 2 := by
  have going := of_decide_eq_false ended
  refine ⟨fun stays => going (.inl stays), fun back => going (.inr (.inl back)), ?_, ?_⟩
  · exact fun passed => going (.inr (.inr (.inl passed)))
  · exact fun third => going (.inr (.inr (.inr third)))

theorem head_append {last : Int} (head : seen.head? = some first) :
    (seen ++ [last]).head? = some first := by
  rw [List.head?_append, head]
  rfl

/-- A place further on extends the range of what has been seen. -/
theorem range_append {least most last : Int} (range : ∀ other ∈ seen, least ≤ other ∧ other ≤ most)
    (above : least ≤ last) (further : most ≤ last) :
    ∀ other ∈ seen ++ [last], least ≤ other ∧ other ≤ last := by
  intro other member
  cases List.mem_append.mp member with
  | inl earlier =>
      obtain ⟨lower, upper⟩ := range other earlier
      exact ⟨lower, Int.le_trans upper further⟩
  | inr single =>
      rw [List.mem_singleton.mp single]
      exact ⟨above, Int.le_refl _⟩

theorem lap_forward (forward : walk.place < next walk.place) : (walk.step next).lap = walk.lap :=
  if_neg (by omega)

theorem lap_back (back : next walk.place < walk.place) :
    (walk.step next).lap = walk.lap + 1 :=
  if_pos back

/-- The second lap of a walk whose first place is beyond its home: it ends there at the latest. -/
theorem ahead_second (rules : Ahead Place next home first) {fuel : Nat} (lap : walk.lap = 1)
    (place : Place walk.place) (front : walk.place < home) (nodup : seen.Nodup)
    (head : seen.head? = some first)
    (sorted : ∀ other ∈ seen, (home < other → first ≤ other) ∧ other ≠ home ∧
      (other < home → other ≤ walk.place)) :
    OnceRound (seen ++ walk.visits next home halts fuel) := by
  induction fuel generalizing walk seen with
  | zero =>
      rw [visits, List.append_nil]
      exact onceRound_of_nodup nodup
  | succ fuel ih =>
      obtain ⟨forward, isPlace, notPast⟩ := rules.homeward walk.place place front
      have fresh : next walk.place ∈ seen → next walk.place = first := by
        intro member
        obtain ⟨lower, other, upper⟩ := sorted _ member
        by_cases past : home < next walk.place
        · have least := lower past
          have most := notPast past
          omega
        · have below := upper (by omega)
          omega
      refine visits_succ fuel nodup (fun member => (fresh member).symm ▸ head) ?_
      intro going
      obtain ⟨_, home_ne, past, _⟩ := not_ended going
      rw [lap_forward forward] at past
      have still : next walk.place < home := by
        have inside : ¬ home < next walk.place := fun beyond => past ⟨lap, beyond⟩
        omega
      have unseen : next walk.place ∉ seen := by
        intro member
        have same := fresh member
        have beyond := rules.beyond
        omega
      refine ih ((lap_forward forward).trans lap) isPlace still (nodup_append nodup unseen)
        (head_append head) ?_
      intro other member
      cases List.mem_append.mp member with
      | inl earlier =>
          obtain ⟨lower, different, upper⟩ := sorted other earlier
          refine ⟨lower, different, fun below => ?_⟩
          have bound := upper below
          show other ≤ next walk.place
          omega
      | inr last =>
          rw [List.mem_singleton.mp last]
          exact ⟨fun beyond => by omega, home_ne, fun _ => Int.le_refl _⟩

/-- The first lap, beyond the home. -/
theorem ahead_first (rules : Ahead Place next home first) {fuel : Nat} (lap : walk.lap = 0)
    (place : Place walk.place) (start : first ≤ walk.place) (nodup : seen.Nodup)
    (head : seen.head? = some first)
    (sorted : ∀ other ∈ seen, first ≤ other ∧ other ≤ walk.place) :
    OnceRound (seen ++ walk.visits next home halts fuel) := by
  have beyond := rules.beyond
  induction fuel generalizing walk seen with
  | zero =>
      rw [visits, List.append_nil]
      exact onceRound_of_nodup nodup
  | succ fuel ih =>
      have fresh : next walk.place ∈ seen → next walk.place = first := by
        intro member
        obtain ⟨lower, upper⟩ := sorted _ member
        rcases rules.onward walk.place place start with on | stays | back
        · omega
        · omega
        · omega
      refine visits_succ fuel nodup (fun member => (fresh member).symm ▸ head) ?_
      intro going
      obtain ⟨moved, home_ne, past, _⟩ := not_ended going
      rcases rules.onward walk.place place start with on | stays | back
      · have unseen : next walk.place ∉ seen := by
          intro member
          have bound := (sorted _ member).2
          omega
        have further : first ≤ next walk.place := by omega
        exact ih ((lap_forward on.1).trans lap) on.2 further (nodup_append nodup unseen)
          (head_append head) (range_append sorted further (Int.le_of_lt on.1))
      · exact absurd stays.1 moved
      · have second : (walk.step next).lap = 1 := by rw [lap_back back.1, lap]
        have front : next walk.place < home := by
          have inside : ¬ home < next walk.place := fun further => past ⟨second, further⟩
          omega
        have unseen : next walk.place ∉ seen := by
          intro member
          have bound := (sorted _ member).1
          omega
        refine ahead_second rules second back.2.1 front (nodup_append nodup unseen)
          (head_append head) ?_
        intro other member
        cases List.mem_append.mp member with
        | inl earlier =>
            obtain ⟨lower, _⟩ := sorted other earlier
            exact ⟨fun _ => lower, by omega, fun below => by omega⟩
        | inr last =>
            rw [List.mem_singleton.mp last]
            exact ⟨fun further => by omega, home_ne, fun _ => Int.le_refl _⟩

/-- A walk whose first place is in front of its home, after that place. -/
theorem behind_second (rules : Behind Place next home first) {fuel : Nat} (lap : walk.lap = 1)
    (place : Place walk.place) (start : first ≤ walk.place) (nodup : seen.Nodup)
    (head : seen.head? = some first)
    (sorted : ∀ other ∈ seen, first ≤ other ∧ other ≤ walk.place) :
    OnceRound (seen ++ walk.visits next home halts fuel) := by
  induction fuel generalizing walk seen with
  | zero =>
      rw [visits, List.append_nil]
      exact onceRound_of_nodup nodup
  | succ fuel ih =>
      have fresh : next walk.place ∈ seen → next walk.place = first := by
        intro member
        obtain ⟨lower, upper⟩ := sorted _ member
        rcases rules.onward walk.place place start with on | stays | back
        · omega
        · omega
        · exact back
      refine visits_succ fuel nodup (fun member => (fresh member).symm ▸ head) ?_
      intro going
      obtain ⟨moved, _, _, third⟩ := not_ended going
      have forward : walk.place < next walk.place := by
        refine Int.lt_of_not_ge fun behind => ?_
        have back : next walk.place < walk.place := by omega
        rw [lap_back back, lap] at third
        exact third rfl
      have isPlace : Place (next walk.place) := by
        rcases rules.onward walk.place place start with on | stays | back
        · exact on.2
        · omega
        · omega
      have unseen : next walk.place ∉ seen := by
        intro member
        have bound := (sorted _ member).2
        omega
      have further : first ≤ next walk.place := by omega
      exact ih ((lap_forward forward).trans lap) isPlace further (nodup_append nodup unseen)
        (head_append head) (range_append sorted further (Int.le_of_lt forward))

/-- A whole walk comes to no place twice, but to its first one perhaps. -/
theorem visits_once {start : Int} (fuel : Nat) (orderly : Orderly Place next home start) :
    OnceRound (visits next home halts fuel ⟨0, start⟩) := by
  cases fuel with
  | zero => exact onceRound_of_nodup List.Pairwise.nil
  | succ fuel =>
      have one : ([next start] : List Int).Nodup := List.pairwise_singleton _ _
      have range : ∀ other ∈ [next start], next start ≤ other ∧ other ≤ next start := by
        intro other member
        rw [List.mem_singleton.mp member]
        exact ⟨Int.le_refl _, Int.le_refl _⟩
      have whole : OnceRound ([] ++ visits next home halts (fuel + 1) ⟨0, start⟩) := by
        refine visits_succ fuel List.Pairwise.nil (fun member => by cases member) ?_
        intro going
        obtain ⟨moved, home_ne, past, _⟩ := not_ended going
        cases orderly with
        | stays same => exact absurd same moved
        | returns back => exact absurd back home_ne
        | ahead forward rules =>
            exact ahead_first rules (lap_forward forward) rules.starts (Int.le_refl _) one rfl range
        | passes back beyond => exact absurd ⟨lap_back back, beyond⟩ past
        | behind back rules =>
            exact behind_second rules (lap_back back) rules.starts (Int.le_refl _) one rfl range
        | single again =>
            cases fuel with
            | zero => exact onceRound_of_nodup one
            | succ fuel =>
                have same : next (step next ⟨0, start⟩).place = next start := again
                refine visits_succ fuel one ?_ ?_
                · intro _
                  rw [same]
                  rfl
                · intro ongoing
                  exact absurd same (not_ended ongoing).1
      exact whole

end Walk

end Connectivity.Ring
