import Connectivity.Boots.Handler
import Connectivity.Bytes.LittleEndian
import Connectivity.Table.Linked

set_option autoImplicit false

/- The circular list of packets and script entries, of which each node names the next one. -/
namespace Connectivity.Boots

open Linked (Heap Cell)

def scriptTitle : UInt8 := 0x01

def scriptProc : UInt8 := 0x02

def scriptTx : UInt8 := 0x03

def scriptRx : UInt8 := 0x04

def scriptLoop : UInt8 := 0x06

def scriptTimeout : UInt8 := 0x08

def scriptWait : UInt8 := 0x09

def scriptUsbalt : UInt8 := 0x0A

def scriptCmd : UInt8 := 0x0B

/-- `u_cnt`, with the bytes that `data` or `msg` points to. -/
inductive Content
  | unset | bytes (data : List UInt8) | number (value : Int)
deriving DecidableEq, Repr

/-- What a node holds besides `next`; `none` is a field that has not been written. -/
structure Item where
  sType : UInt8
  pType : Option UInt8
  cnt : Content
  len : Option Nat
deriving DecidableEq, Repr

/-- The types of script whose entries have `data`. -/
def dataTypes : List UInt8 := [scriptNone, scriptTx, scriptRx, scriptWaitrx, scriptCmd]

def textTypes : List UInt8 := [scriptTitle, scriptProc]

def numberTypes : List UInt8 := [scriptLoop, scriptTimeout, scriptWait, scriptUsbalt]

/-- The node that `boots_pkt_node_push` makes, before it is linked. -/
def newItem (sType pType : UInt8) (content : Option (List UInt8)) (len : Nat) : Item :=
  let copied := match content with
    | some content => Content.bytes (content.take len)
    | none => .unset
  if sType ∈ dataTypes then ⟨sType, some pType, copied, content.map fun _ => len⟩
  else if sType ∈ textTypes then ⟨sType, none, copied, content.map fun _ => len⟩
  else if sType ∈ numberTypes then
    let value := match content with
      | some content => Content.number (Bytes.int32LE content)
      | none => .unset
    ⟨sType, none, value, none⟩
  else ⟨sType, none, .unset, none⟩

/-- `boots_pkt_node_push` with the node that `malloc` gives, `none` when it uses memory that is not
allocated. -/
def nodePush (heap : Heap Item) (malloc : Option Nat) (item : Item) (front head : Option Nat) :
    Option (Heap Item × Option Nat) :=
  match malloc with
  | none => some (heap, none)
  | some node =>
      let linked : Option (Heap Item) := match front with
        | none => some heap
        | some front => (heap front).map fun cell =>
            Function.update heap front (some ⟨cell.item, node⟩)
      linked.map fun heap =>
        (Function.update heap node (some ⟨item, head.getD node⟩), some node)

/-- `while (tail->next != list)`, with so many turns left. -/
def tailFrom (heap : Heap Item) (list : Nat) : Nat → Nat → Option Nat
  | 0, _ => none
  | turns + 1, tail =>
      (heap tail).bind fun cell =>
        if cell.next ≠ list then tailFrom heap list turns cell.next else some tail

/-- `boots_pkt_node_pop`: what is left, the list it returns and the item that was in the node. -/
def nodePop (heap : Heap Item) (turns : Nat) (list : Option Nat) :
    Option (Heap Item × Option Nat × Option Item) :=
  match list with
  | none => some (heap, none, none)
  | some list =>
      (heap list).bind fun cell =>
        if cell.next = list then some (Function.update heap list none, none, some cell.item)
        else
          (tailFrom heap list turns cell.next).bind fun tail =>
            (heap tail).map fun last =>
              let linked : Heap Item := Function.update heap tail (some ⟨last.item, cell.next⟩)
              (Function.update linked list none, some cell.next, some cell.item)

/-- The loop of `boots_pkt_list_destroy`: what is left and the nodes that have been freed. -/
def destroyLoop (heap : Heap Item) (list : Nat) : Nat → Nat → Option (Heap Item × List Nat)
  | 0, _ => none
  | turns + 1, cur =>
      (heap cur).bind fun cell =>
        -- `switch (list->s_type)` asks the first node about the content of each.
        (heap list).bind fun _ =>
          let left : Heap Item := Function.update heap cur none
          if cell.next ≠ list then
            (destroyLoop left list turns cell.next).map fun (left, freed) => (left, cur :: freed)
          else some (left, [cur])

/-- `boots_pkt_list_destroy`. -/
def listDestroy (heap : Heap Item) (turns : Nat) (list : Option Nat) :
    Option (Heap Item × List Nat) :=
  match list with
  | none => some (heap, [])
  | some list => destroyLoop heap list turns list

/-- `while (tmp->next != list)` with the `amount` so far. -/
def amountFrom (heap : Heap Item) (list : Nat) : Nat → Nat → Nat → Option Nat
  | 0, _, _ => none
  | turns + 1, amount, tmp =>
      (heap tmp).bind fun cell =>
        if cell.next ≠ list then amountFrom heap list turns (amount + 1) cell.next
        else some amount

/-- `boots_pkt_list_amount`. -/
def listAmount (heap : Heap Item) (turns : Nat) (list : Option Nat) : Option Nat :=
  match list with
  | none => some 0
  | some list => amountFrom heap list turns 1 list

/-- A list as its users have it: the first node, and the last one to be pushed; with the number of
nodes that are allocated, what has been pushed and popped since the list was last destroyed, and
whether memory has been used that is not allocated. -/
structure PacketList where
  heap : Heap Item
  allocated : Nat
  list : Option Nat
  front : Option Nat
  pushed : List Item
  popped : List Item
  misused : Bool

namespace PacketList

/-- The calls of the users; for a push, what `malloc` gives. -/
inductive Call
  | push (malloc : Option Nat) (sType pType : UInt8) (content : Option (List UInt8)) (len : Nat)
  | pop
  | destroy

def start : PacketList := ⟨fun _ => none, 0, none, none, [], [], false⟩

/-- Nothing is known of what follows the use of memory that is not allocated. -/
def misuse (s : PacketList) : PacketList := { s with misused := true }

def push (s : PacketList) (malloc : Option Nat) (item : Item) : PacketList :=
  match nodePush s.heap malloc item s.front s.list with
  | none => s.misuse
  | some (_, none) => s
  | some (heap, some node) =>
      { s with
        heap := heap
        allocated := s.allocated + 1
        list := some (s.list.getD node)
        front := some node
        pushed := s.pushed ++ [item] }

def pop (s : PacketList) : PacketList :=
  match nodePop s.heap s.allocated s.list with
  | none => s.misuse
  | some (_, _, none) => s
  | some (heap, list, some item) =>
      { s with
        heap := heap
        allocated := s.allocated - 1
        list := list
        front := if list = none then none else s.front
        popped := s.popped ++ [item] }

def destroy (s : PacketList) : PacketList :=
  match listDestroy s.heap s.allocated s.list with
  | none => s.misuse
  | some (heap, freed) =>
      { heap := heap
        allocated := s.allocated - freed.length
        list := none
        front := none
        pushed := []
        popped := []
        misused := false }

/-- A step; `malloc` gives nothing that is allocated. -/
def step (s : PacketList) (call : Call) : Option PacketList :=
  if s.misused then none
  else match call with
    | .push malloc sType pType content len =>
        if malloc.any fun node => (s.heap node).isSome then none
        else some (s.push malloc (newItem sType pType content len))
    | .pop => some s.pop
    | .destroy => some s.destroy

/-- `boots_pkt_list_amount`; a walk of more turns than nodes does not end. -/
def amount (s : PacketList) : Option Nat := listAmount s.heap s.allocated s.list

end PacketList

end Connectivity.Boots
