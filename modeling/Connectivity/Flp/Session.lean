import Mathlib.Data.List.FinRange

set_option autoImplicit false

/- The batching session that the HAL keeps with the daemon: the options of each batch, the
fused options, and the commands. -/
namespace Connectivity.Flp

def flpOptionMax : Nat := 10

/-- Larger than the periods that are fused; `update_options` starts from it. -/
def periodMax : Int := 1000000000000

/-- `FlpBatchOptions`; the power is carried as the image of a double. -/
structure FlpBatchOptions where
  maxPowerAllocationMW : BitVec 64
  sourcesToUse : BitVec 32
  flags : Nat
  periodNs : Int
deriving DecidableEq

/-- All bytes zero. -/
def FlpBatchOptions.zero : FlpBatchOptions := ⟨0, 0, 0, 0⟩

/-- A message that starts, ends or changes the session. -/
inductive Command where
  | start (options : FlpBatchOptions)
  | stop
  | setOption (options : FlpBatchOptions)
deriving DecidableEq

def Command.options : Command → Option FlpBatchOptions
  | .start options => some options
  | .stop => none
  | .setOption options => some options

/-- The variables of the interface. A write beside `gFlpOptions` is noted. -/
structure Hal where
  flpThreadExist : Bool
  gFlpOptions : Fin flpOptionMax → FlpBatchOptions
  gFusedOptions : FlpBatchOptions
  gFlpFirstBatch : Bool
  outside : Bool

/-- Behind a first `mtk_flp_init`. -/
def Hal.init : Hal where
  flpThreadExist := true
  gFlpOptions := fun _ => .zero
  gFusedOptions := .zero
  gFlpFirstBatch := true
  outside := false

/-- The place of a batch in the table. -/
def batchIndex (id : Int) : Option (Fin flpOptionMax) :=
  if inside : 0 ≤ id ∧ id < flpOptionMax then some ⟨id.toNat, by omega⟩ else none

def mtkFlpSetOptions (s : Hal) (id : Int) (options : FlpBatchOptions) : Hal :=
  match batchIndex id with
  | none => { s with outside := true }
  | some i => { s with gFlpOptions := Function.update s.gFlpOptions i options }

/-- One turn of the loop of `mtk_flp_update_options`. -/
def fuse (fused options : FlpBatchOptions) : FlpBatchOptions :=
  if options.sourcesToUse = 0 then fused
  else
    { maxPowerAllocationMW := options.maxPowerAllocationMW
      sourcesToUse := fused.sourcesToUse ||| options.sourcesToUse
      flags := if fused.flags < options.flags then options.flags else fused.flags
      periodNs := if fused.periodNs > options.periodNs then options.periodNs else fused.periodNs }

def fusedOptions (table : Fin flpOptionMax → FlpBatchOptions) : FlpBatchOptions :=
  let fused := (List.finRange flpOptionMax).foldl (fun fused i => fuse fused (table i))
    { FlpBatchOptions.zero with periodNs := periodMax }
  if fused.periodNs = periodMax then { fused with periodNs := 0 } else fused

def mtkFlpUpdateOptions (s : Hal) : Hal :=
  { s with gFusedOptions := fusedOptions s.gFlpOptions }

/-- The state behind a start, and what has been sent. -/
def flphal2mnlFlpStart (s : Hal) (id : Int) (options : Option FlpBatchOptions) :
    Hal × List Command :=
  match options with
  | none => (s, [])
  | some options =>
      if s.flpThreadExist = false then (s, [])
      else
        let s := mtkFlpUpdateOptions (mtkFlpSetOptions s id options)
        if options.sourcesToUse = 0 then (s, [])
        else if s.gFlpFirstBatch then
          ({ s with gFlpFirstBatch := false }, [.start s.gFusedOptions])
        else (s, [.setOption s.gFusedOptions])

def flphal2mnlFlpRebootDoneNtf (s : Hal) : Hal × List Command :=
  if s.gFlpFirstBatch then (s, []) else (s, [.start s.gFusedOptions])

def flphal2mnlUpdateBatchingOptions (s : Hal) (id : Int) (options : Option FlpBatchOptions) :
    Hal × List Command :=
  match options with
  | none => (s, [])
  | some options =>
      if s.flpThreadExist = false then (s, [])
      else
        let s := mtkFlpUpdateOptions (mtkFlpSetOptions s id options)
        (s, [.setOption s.gFusedOptions])

def flphal2mnlStopBatching (s : Hal) (id : Int) : Hal × List Command :=
  match batchIndex id with
  | none => (s, [])
  | some i =>
      if s.flpThreadExist = false then (s, [])
      else
        let s := mtkFlpUpdateOptions
          { s with gFlpOptions := Function.update s.gFlpOptions i .zero }
        if s.gFusedOptions.sourcesToUse = 0 then ({ s with gFlpFirstBatch := true }, [.stop])
        else (s, [.setOption s.gFusedOptions])

/-- The branch `RESET_FLP_DATA` of `flphal2mnl_diag_inject_data`. -/
def resetFlpData (s : Hal) : Hal × List Command :=
  if s.gFlpFirstBatch then (s, [])
  else
    ({ s with
        gFlpOptions := fun _ => .zero
        gFusedOptions := .zero
        gFlpFirstBatch := true }, [.stop])

/-- A call of the framework, or the daemon's notice that it has been restarted. -/
inductive Request where
  | start (id : Int) (options : Option FlpBatchOptions)
  | update (id : Int) (options : Option FlpBatchOptions)
  | stop (id : Int)
  | reset
  | reboot

def Hal.handle (s : Hal) : Request → Hal × List Command
  | .start id options => flphal2mnlFlpStart s id options
  | .update id options => flphal2mnlUpdateBatchingOptions s id options
  | .stop id => flphal2mnlStopBatching s id
  | .reset => resetFlpData s
  | .reboot => flphal2mnlFlpRebootDoneNtf s

end Connectivity.Flp
