import Connectivity.Boots.PacketList
import Connectivity.Transition.Run

set_option autoImplicit false

/- What the circular list keeps to over any row of calls. -/
namespace Connectivity.Boots

open Linked Transition

variable {heap : Heap Item} {list start tail node turns count : Nat} {item last : Item}
  {front cells : List (Nat × Item)}

/-- The first of two nodes does not name itself. -/
theorem chain_goes {address : Nat} {finish : Nat}
    (chain : Chain heap start (front ++ [(tail, last)]) finish)
    (apart : address ∉ addresses (front ++ [(tail, last)])) : start ≠ address := by
  intro same
  have first := chain_first chain
  rw [same] at first
  exact apart (List.mem_of_mem_head? first)

/-- The walk to the last node of a ring. -/
theorem tailFrom_chain (chain : Chain heap start (front ++ [(tail, last)]) list)
    (apart : list ∉ addresses (front ++ [(tail, last)])) (enough : front.length < turns) :
    tailFrom heap list turns start = some tail := by
  induction front generalizing start turns with
  | nil =>
      obtain ⟨same, there⟩ := chain_last.mp chain
      cases same
      cases turns with
      | zero => omega
      | succ turns => simp only [tailFrom, there, Option.bind_some, ne_eq, not_true_eq_false, if_false]
  | cons first front ih =>
      obtain ⟨same, next, there, later⟩ := chain
      have behind : list ∉ addresses (front ++ [(tail, last)]) := fun is =>
        apart (List.mem_cons_of_mem _ is)
      cases turns with
      | zero => omega
      | succ turns =>
          rw [List.length_cons] at enough
          simp only [tailFrom, same, there, Option.bind_some, if_pos (chain_goes later behind)]
          exact ih later behind (by omega)

/-- The walk that counts the nodes. -/
theorem amountFrom_chain (chain : Chain heap start (front ++ [(tail, last)]) list)
    (apart : list ∉ (addresses (front ++ [(tail, last)])).tail) (enough : front.length < turns) :
    amountFrom heap list turns count start = some (count + front.length) := by
  induction front generalizing start turns count with
  | nil =>
      obtain ⟨same, there⟩ := chain_last.mp chain
      cases same
      cases turns with
      | zero => omega
      | succ turns =>
          simp only [amountFrom, there, Option.bind_some, ne_eq, not_true_eq_false, if_false]
          rfl
  | cons first front ih =>
      obtain ⟨same, next, there, later⟩ := chain
      have behind : list ∉ addresses (front ++ [(tail, last)]) := apart
      cases turns with
      | zero => omega
      | succ turns =>
          rw [List.length_cons] at enough ⊢
          simp only [amountFrom, same, there, Option.bind_some, if_pos (chain_goes later behind)]
          rw [ih later (fun is => behind (List.mem_of_mem_tail is)) (by omega)]
          congr 1
          omega

/-- A single node is freed. -/
theorem destroyLoop_one (ring : Ring heap (some list) [(list, item)]) :
    destroyLoop heap list (turns + 1) list = some (Function.update heap list none, [list]) := by
  obtain ⟨_, next, there, same⟩ := ring.chain list rfl
  cases same
  simp only [destroyLoop, there, Option.bind_some, ne_eq, not_true_eq_false, if_false]

/-- Of more than one, the second is freed by what the first one held. -/
theorem destroyLoop_more (ring : Ring heap (some list) ((list, item) :: (front ++ [(tail, last)]))) :
    destroyLoop heap list turns list = none := by
  obtain ⟨_, next, there, chain⟩ := ring.chain list rfl
  have goes := chain_goes chain (List.nodup_cons.mp ring.nodup).1
  have second : destroyLoop (Function.update heap list none) list (turns - 1) next = none := by
    cases turns - 1 with
    | zero => rfl
    | succ more =>
        simp only [destroyLoop, Function.update_self, Option.bind_none, Option.bind_fun_none]
  cases turns with
  | zero => rfl
  | succ turns =>
      simp only [destroyLoop, there, Option.bind_some, if_pos goes]
      exact Option.map_eq_none_iff.mpr second

namespace PacketList

/-- The nodes of a list, in their order. -/
structure Holds (s : PacketList) (cells : List (Nat × Item)) : Prop where
  unharmed : s.misused = false
  ring : Ring s.heap s.list cells
  last : s.front = (addresses cells).getLast?
  fifo : s.popped ++ cells.map Prod.snd = s.pushed
  allocated : s.allocated = cells.length

/-- No memory has been misused; the nodes are a ring from the first to the last one, nothing else
is allocated, and what has been popped followed by what they hold is what has been pushed; their
number is that of the pushes less that of the pops. -/
structure Sound (s : PacketList) : Prop where
  holds : ∃ cells, s.Holds cells
  amount : s.amount = some (s.pushed.length - s.popped.length)

/-- A list that is destroyed has at most one node. -/
def Meets (s : PacketList) (call : Call) : Prop :=
  call = .destroy → s.amount = some 0 ∨ s.amount = some 1

variable {s t : PacketList}

theorem Holds.list_nil (holds : s.Holds []) : s.list = none := holds.ring.first

/-- The first and the last node of a list that is not empty. -/
theorem Holds.ends (holds : s.Holds (front ++ [(tail, last)])) :
    ∃ list, s.list = some list ∧ Ring s.heap (some list) (front ++ [(tail, last)]) ∧
      s.front = some tail ∧ s.heap tail = some ⟨last, list⟩ := by
  have ring := holds.ring
  have ends : s.front = some tail := by
    rw [holds.last, addresses_append]
    exact List.getLast?_concat
  cases is : s.list with
  | none =>
      have first := ring.first
      rw [is, addresses_append] at first
      exact absurd (List.head?_eq_none_iff.mp first.symm)
        (List.append_ne_nil_of_right_ne_nil _ (List.cons_ne_nil _ _))
  | some list =>
      rw [is] at ring
      exact ⟨list, rfl, ring, ends, (chain_last.mp (ring.chain list rfl)).2⟩

theorem Holds.amount (holds : s.Holds cells) : s.amount = some cells.length := by
  rw [PacketList.amount, holds.allocated]
  rcases List.eq_nil_or_concat' cells with rfl | ⟨front, ⟨tail, last⟩, rfl⟩
  · rw [holds.list_nil]
    rfl
  · obtain ⟨list, is, ring, _, _⟩ := holds.ends
    have chain := ring.chain list rfl
    have apart : list ∉ (addresses (front ++ [(tail, last)])).tail := by
      have nodup := ring.nodup
      rw [← List.cons_head?_tail (chain_first chain)] at nodup
      exact (List.nodup_cons.mp nodup).1
    rw [is, listAmount, amountFrom_chain chain apart (by simp), List.length_append,
      List.length_singleton, Nat.add_comm]

theorem Holds.sound (holds : s.Holds cells) : s.Sound := by
  refine ⟨⟨cells, holds⟩, ?_⟩
  have count := congrArg List.length holds.fifo
  rw [List.length_append, List.length_map] at count
  rw [holds.amount]
  congr 1
  omega

theorem holds_start : PacketList.start.Holds [] :=
  ⟨rfl, ring_nil.mpr rfl, rfl, rfl, rfl⟩

theorem Holds.push {malloc : Option Nat} (holds : s.Holds cells)
    (fresh : ∀ node ∈ malloc, s.heap node = none) (item : Item) :
    ∃ cells, (s.push malloc item).Holds cells := by
  cases malloc with
  | none => exact ⟨cells, holds⟩
  | some node =>
      have blank := fresh node rfl
      rcases List.eq_nil_or_concat' cells with rfl | ⟨front, ⟨tail, last⟩, rfl⟩
      · have ring := holds.ring
        rw [holds.list_nil] at ring
        have pushed : s.push (some node) item =
            { s with
              heap := Function.update s.heap node (some ⟨item, node⟩)
              allocated := s.allocated + 1
              list := some node
              front := some node
              pushed := s.pushed ++ [item] } := by
          simp only [PacketList.push, nodePush, holds.last, holds.list_nil]
          rfl
        rw [pushed]
        refine ⟨[(node, item)], holds.unharmed, ring_first (ring_nil.mp ring), rfl, ?_, ?_⟩
        · show s.popped ++ [item] = s.pushed ++ [item]
          rw [← holds.fifo, List.map_nil, List.append_nil]
        · show s.allocated + 1 = 1
          rw [holds.allocated]
          rfl
      · obtain ⟨list, is, ring, ends, there⟩ := holds.ends
        have pushed : s.push (some node) item =
            { s with
              heap := Function.update (Function.update s.heap tail (some ⟨last, node⟩)) node
                (some ⟨item, list⟩)
              allocated := s.allocated + 1
              list := some list
              front := some node
              pushed := s.pushed ++ [item] } := by
          simp only [PacketList.push, nodePush, ends, is, there, Option.map_some, Option.getD_some]
        rw [pushed]
        refine ⟨front ++ [(tail, last)] ++ [(node, item)], holds.unharmed, ring_push ring blank,
          ?_, ?_, ?_⟩
        · rw [addresses_append]
          exact List.getLast?_concat.symm
        · show s.popped ++ List.map Prod.snd _ = s.pushed ++ [item]
          rw [List.map_append, ← List.append_assoc, holds.fifo]
          rfl
        · show s.allocated + 1 = _
          rw [holds.allocated]
          simp only [List.length_append, List.length_singleton]

theorem Holds.list_cons {first : Nat × Item} (holds : s.Holds (first :: cells)) :
    s.list = some first.1 := holds.ring.first

theorem Holds.fifo_cons {first : Nat × Item} (holds : s.Holds (first :: cells)) :
    s.popped ++ [first.2] ++ cells.map Prod.snd = s.pushed := by
  rw [List.append_assoc]
  exact holds.fifo

theorem Holds.pop (holds : s.Holds cells) : ∃ cells, s.pop.Holds cells := by
  rcases cells with _ | ⟨⟨list, item⟩, rest⟩
  · have same : s.pop = s := by
      simp only [PacketList.pop, nodePop, holds.list_nil]
    exact ⟨[], same.symm ▸ holds⟩
  · have ring := holds.ring
    have is := holds.list_cons
    rw [is] at ring
    obtain ⟨_, next, there, chain⟩ := ring.chain list rfl
    rcases List.eq_nil_or_concat' rest with rfl | ⟨front, ⟨tail, last⟩, rfl⟩
    · cases chain
      have popped : s.pop =
          { s with
            heap := Function.update s.heap list none
            allocated := s.allocated - 1
            list := none
            front := none
            popped := s.popped ++ [item] } := by
        simp only [PacketList.pop, nodePop, is, there, Option.bind_some, if_true]
      rw [popped]
      refine ⟨[], holds.unharmed, ring_release ring, rfl, holds.fifo_cons, ?_⟩
      show s.allocated - 1 = 0
      rw [holds.allocated]
      rfl
    · have apart := (List.nodup_cons.mp ring.nodup).1
      have goes := chain_goes chain apart
      have walk : tailFrom s.heap list s.allocated next = some tail := by
        refine tailFrom_chain chain apart ?_
        rw [holds.allocated]
        simp only [List.length_cons, List.length_append]
        omega
      have ends := (chain_last.mp chain).2
      have popped : s.pop =
          { s with
            heap := Function.update (Function.update s.heap tail (some ⟨last, next⟩)) list none
            allocated := s.allocated - 1
            list := some next
            front := s.front
            popped := s.popped ++ [item] } := by
        simp only [PacketList.pop, nodePop, is, there, Option.bind_some, if_neg goes, walk, ends,
          Option.map_some]
        rfl
      rw [popped]
      refine ⟨front ++ [(tail, last)], holds.unharmed, ring_pop ring there, ?_, holds.fifo_cons, ?_⟩
      · show s.front = _
        have rest : addresses (front ++ [(tail, last)]) = addresses front ++ [tail] :=
          addresses_append
        have whole : addresses ((list, item) :: (front ++ [(tail, last)])) =
            list :: addresses front ++ [tail] := congrArg (list :: ·) rest
        rw [holds.last, whole, rest, List.getLast?_concat, List.getLast?_concat]
      · show s.allocated - 1 = _
        rw [holds.allocated]
        rfl

theorem Holds.destroy (holds : s.Holds cells) (few : cells.length ≤ 1) : s.destroy.Holds [] := by
  rcases cells with _ | ⟨⟨list, item⟩, _ | ⟨second, rest⟩⟩
  · have ring := holds.ring
    rw [holds.list_nil] at ring
    simp only [PacketList.destroy, holds.list_nil, listDestroy]
    refine ⟨rfl, ring, rfl, rfl, ?_⟩
    show s.allocated - 0 = 0
    rw [holds.allocated]
    rfl
  · have ring := holds.ring
    rw [holds.list_cons] at ring
    have freed : destroyLoop s.heap list s.allocated list =
        some (Function.update s.heap list none, [list]) := by
      rw [holds.allocated]
      exact destroyLoop_one ring
    simp only [PacketList.destroy, holds.list_cons, listDestroy, freed]
    refine ⟨rfl, ring_release ring, rfl, rfl, ?_⟩
    show s.allocated - 1 = 0
    rw [holds.allocated]
    rfl
  · simp only [List.length_cons] at few
    omega

theorem Holds.destroy_more (holds : s.Holds cells) (more : 1 < cells.length) :
    s.destroy.misused = true := by
  rcases cells with _ | ⟨⟨list, item⟩, rest⟩
  · cases more
  · have ring := holds.ring
    rw [holds.list_cons] at ring
    rcases List.eq_nil_or_concat' rest with rfl | ⟨front, ⟨tail, last⟩, rfl⟩
    · exact absurd more (Nat.lt_irrefl 1)
    · simp only [PacketList.destroy, holds.list_cons, listDestroy, destroyLoop_more ring]
      rfl

theorem step_push {malloc : Option Nat} {sType pType : UInt8} {content : Option (List UInt8)}
    {len : Nat} (taken : step s (.push malloc sType pType content len) = some t) :
    (∀ node ∈ malloc, s.heap node = none) ∧ t = s.push malloc (newItem sType pType content len) := by
  unfold step at taken
  split_ifs at taken with misused
  simp only [Option.ite_none_left_eq_some] at taken
  refine ⟨fun node given => ?_, (Option.some.inj taken.2).symm⟩
  by_contra there
  refine taken.1 ?_
  rw [Option.mem_def.mp given, Option.any_some]
  exact Option.isSome_iff_ne_none.mpr there

theorem step_pop (taken : step s .pop = some t) : t = s.pop := by
  unfold step at taken
  split_ifs at taken with misused
  exact (Option.some.inj taken).symm

theorem step_destroy (taken : step s .destroy = some t) : t = s.destroy := by
  unfold step at taken
  split_ifs at taken with misused
  exact (Option.some.inj taken).symm

/-- At most one node is left for a call that meets the condition. -/
theorem Holds.meets_iff (holds : s.Holds cells) :
    Meets s .destroy ↔ cells.length ≤ 1 := by
  rw [Meets, forall_prop_of_true rfl, holds.amount, Option.some.injEq, Option.some.injEq]
  omega

/-- In every run of calls the list is sound all along just when it is never destroyed with more
than one node. -/
theorem calls_sound_iff (calls : List Call) :
    AllStates step Sound PacketList.start calls ↔ StepsMeet step Meets PacketList.start calls := by
  refine @allStates_iff_stepsMeet _ _ _ (fun s => ∃ cells, s.Holds cells) _ _ ?kept ?enough ?broken
    _ _ ⟨[], holds_start⟩
  case enough =>
    rintro s ⟨cells, holds⟩
    exact holds.sound
  case kept =>
    rintro s call t ⟨cells, holds⟩ meets taken
    cases call with
    | push malloc sType pType content len =>
        obtain ⟨fresh, same⟩ := step_push taken
        exact same ▸ holds.push fresh _
    | pop => exact step_pop taken ▸ holds.pop
    | destroy => exact step_destroy taken ▸ ⟨[], holds.destroy (holds.meets_iff.mp meets)⟩
  case broken =>
    rintro s call t ⟨cells, holds⟩ missed taken sound
    cases call with
    | push malloc sType pType content len => exact missed fun is => by cases is
    | pop => exact missed fun is => by cases is
    | destroy =>
        rw [holds.meets_iff, Nat.not_le] at missed
        obtain ⟨cells, after⟩ := sound.holds
        have misused := holds.destroy_more missed
        rw [← step_destroy taken, after.unharmed] at misused
        cases misused

/-- Two nodes, and the list is destroyed. -/
theorem not_calls_sound : ¬ ∀ calls : List Call,
    AllStates step Sound PacketList.start calls := by
  intro sound
  have all := sound [.push (some 1) scriptTx hciCmdPkt (some [1, 3, 12, 0]) 4,
    .push (some 2) scriptTx hciCmdPkt (some [1, 3, 12, 0]) 4, .destroy]
  have last := all.last rfl
  obtain ⟨cells, holds⟩ := last.holds
  have misused := holds.unharmed
  revert misused
  decide

end PacketList

end Connectivity.Boots
