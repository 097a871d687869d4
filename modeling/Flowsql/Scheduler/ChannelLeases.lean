import Flowsql.Library.AssociationList
import Flowsql.Library.ReferenceCounts
import Mathlib

/-!
# Leases of stream channels

The scheduler's tables of stream channels: how many tasks use each, who owns it as a
source, which ones are being changed, and what each task has leased.
-/

namespace Flowsql.Scheduler

open Flowsql.Library

/-- What one runtime task has leased. -/
structure StreamTaskLeaseInfo where
  allKeys : List String
  sourceKeys : List String
  leaseOwnerId : String
  /-- The keys come out of a set. -/
  distinct : allKeys.Nodup
  leased : ∀ key ∈ sourceKeys, key ∈ allKeys
  owned : leaseOwnerId ≠ ""

structure StreamSourceLeaseState where
  ownerId : String
  refCount : UInt32
  deriving DecidableEq

/-- The tables under `stream_channel_refs_mu_`. -/
structure ChannelLeases where
  streamChannelRefCounts : String → Option UInt32
  streamChannelVersions : String → Option UInt64
  streamSourceLeases : String → Option StreamSourceLeaseState
  streamChannelMutating : Finset String
  streamTaskLeases : AList fun _ : String => StreamTaskLeaseInfo

/-- Why a call was refused, with the key that it names. -/
inductive LeaseRefusal where
  /-- `EINVAL` -/
  | invalid
  /-- `EAGAIN` -/
  | version (key : String)
  /-- `EBUSY`, blocked by a mutation -/
  | mutating (key : String)
  /-- `EBUSY` -/
  | owned (key : String)
  deriving DecidableEq

/-- Why a mutation was refused. -/
inductive MutationRefusal where
  | invalid
  | inUse
  | sourceInUse
  | mutating
  deriving DecidableEq

namespace ChannelLeases

def initial : ChannelLeases := ⟨fun _ => none, fun _ => none, fun _ => none, ∅, ∅⟩

/-! ## Source leases -/

/-- `state.owner_id` is set once, `state.ref_count` counts every occurrence of the key. -/
def retainSource (owner : String) (leases : String → Option StreamSourceLeaseState)
    (key : String) : String → Option StreamSourceLeaseState :=
  let state := (leases key).getD ⟨"", 0⟩
  Function.update leases key
    (some ⟨if state.ownerId = "" then owner else state.ownerId, state.refCount + 1⟩)

def releaseSource (owner : String) (leases : String → Option StreamSourceLeaseState)
    (key : String) : String → Option StreamSourceLeaseState :=
  match leases key with
  | none => leases
  | some state =>
      if state.ownerId = owner then
        if state.refCount ≤ 1 then Function.update leases key none
        else Function.update leases key (some { state with refCount := state.refCount - 1 })
      else leases

/-! ## The calls -/

/-- The keys of a request, each once. -/
def uniqueKeys (sourceKeys sinkKeys : List String) : List String :=
  (sourceKeys ++ sinkKeys).dedup

def leaseOwner (runtimeTaskId leaseOwnerId : String) : String :=
  if leaseOwnerId = "" then runtimeTaskId else leaseOwnerId

/-- What is recorded for the task. -/
def leaseInfo {runtimeTaskId : String} (named : runtimeTaskId ≠ "")
    (sourceKeys sinkKeys : List String) (leaseOwnerId : String) : StreamTaskLeaseInfo where
  allKeys := uniqueKeys sourceKeys sinkKeys
  sourceKeys := sourceKeys
  leaseOwnerId := leaseOwner runtimeTaskId leaseOwnerId
  distinct := List.nodup_dedup _
  leased := fun _ member => List.mem_dedup.mpr (List.mem_append_left _ member)
  owned := by
    unfold leaseOwner
    split
    · exact named
    · assumption

/-- A key without an entry has version 0. -/
def version (state : ChannelLeases) (key : String) : UInt64 :=
  (state.streamChannelVersions key).getD 0

/-- The key has changed since the snapshot. -/
def Outdated (state : ChannelLeases) (expected : String → Option UInt64) (key : String) : Prop :=
  state.version key ≠ (expected key).getD 0

instance (state : ChannelLeases) (expected : String → Option UInt64) :
    DecidablePred (state.Outdated expected) :=
  fun _ => inferInstanceAs (Decidable (_ ≠ _))

/-- Another owner has the source. -/
def OwnedByOther (state : ChannelLeases) (owner key : String) : Prop :=
  ∃ lease ∈ state.streamSourceLeases key, lease.ownerId ≠ owner

instance (state : ChannelLeases) (owner : String) : DecidablePred (state.OwnedByOther owner) :=
  fun key => inferInstanceAs (Decidable (∃ lease ∈ state.streamSourceLeases key,
    lease.ownerId ≠ owner))

/-- The first check that fails, in the order of the source. Which of several keys is named
depends there on the order of an unordered set. -/
def acquireRefusal (state : ChannelLeases) (owner : String) (sourceKeys sinkKeys : List String)
    (expectedVersions : Option (String → Option UInt64)) : Option LeaseRefusal :=
  let unique := uniqueKeys sourceKeys sinkKeys
  match expectedVersions.bind fun expected => unique.find? (state.Outdated expected ·) with
  | some key => some (.version key)
  | none =>
      match unique.find? (· ∈ state.streamChannelMutating) with
      | some key => some (.mutating key)
      | none => (sourceKeys.find? (state.OwnedByOther owner ·)).map .owned

/-- The state after a lease was recorded. -/
def withLease (state : ChannelLeases) (runtimeTaskId : String) (info : StreamTaskLeaseInfo) :
    ChannelLeases :=
  { state with
    streamChannelRefCounts := info.allKeys.foldl ReferenceCounts.retain state.streamChannelRefCounts
    streamSourceLeases :=
      info.sourceKeys.foldl (retainSource info.leaseOwnerId) state.streamSourceLeases
    streamTaskLeases := state.streamTaskLeases.insert runtimeTaskId info }

/-- `TryAcquireStreamTaskLeases` -/
def tryAcquireStreamTaskLeases (state : ChannelLeases) (runtimeTaskId : String)
    (sourceKeys sinkKeys : List String) (leaseOwnerId : String)
    (expectedVersions : Option (String → Option UInt64)) : Option LeaseRefusal × ChannelLeases :=
  if named : runtimeTaskId = "" then (some .invalid, state)
  else
    match state.acquireRefusal (leaseOwner runtimeTaskId leaseOwnerId) sourceKeys sinkKeys
        expectedVersions with
    | some refusal => (some refusal, state)
    | none =>
        (none, state.withLease runtimeTaskId (leaseInfo named sourceKeys sinkKeys leaseOwnerId))

/-- The state after the lease of a task was given back. -/
def withoutLease (state : ChannelLeases) (runtimeTaskId : String) (info : StreamTaskLeaseInfo) :
    ChannelLeases :=
  { state with
    streamChannelRefCounts :=
      info.allKeys.foldl ReferenceCounts.release state.streamChannelRefCounts
    streamSourceLeases :=
      info.sourceKeys.foldl (releaseSource info.leaseOwnerId) state.streamSourceLeases
    streamTaskLeases := state.streamTaskLeases.erase runtimeTaskId }

/-- `ReleaseStreamTaskLeases` -/
def releaseStreamTaskLeases (state : ChannelLeases) (runtimeTaskId : String) : ChannelLeases :=
  if runtimeTaskId = "" then state
  else
    match state.streamTaskLeases.lookup runtimeTaskId with
    | none => state
    | some info => state.withoutLease runtimeTaskId info

/-- `CaptureStreamChannelVersionSnapshot` -/
def captureStreamChannelVersionSnapshot (state : ChannelLeases) (keys : List String) :
    String → Option UInt64 :=
  fun key => if key ∈ keys ∧ key ≠ "" then some (state.version key) else none

/-- The state in which a channel is being changed. -/
def withMutation (state : ChannelLeases) (key : String) : ChannelLeases :=
  { state with
    streamChannelVersions :=
      Function.update state.streamChannelVersions key (some (state.version key + 1))
    streamChannelMutating := insert key state.streamChannelMutating }

/-- `TryBeginStreamChannelMutation` -/
def tryBeginStreamChannelMutation (state : ChannelLeases) (key : String) :
    Option MutationRefusal × ChannelLeases :=
  if key = "" then (some .invalid, state)
  else if 0 < (state.streamChannelRefCounts key).getD 0 then (some .inUse, state)
  else if (state.streamSourceLeases key).isSome then (some .sourceInUse, state)
  else if key ∈ state.streamChannelMutating then (some .mutating, state)
  else (none, state.withMutation key)

/-- `EndStreamChannelMutation` -/
def endStreamChannelMutation (state : ChannelLeases) (key : String) : ChannelLeases :=
  if key = "" then state
  else { state with streamChannelMutating := state.streamChannelMutating.erase key }

/-! ## Runs -/

/-- One call of the scheduler. -/
inductive Call where
  | acquire (runtimeTaskId : String) (sourceKeys sinkKeys : List String) (leaseOwnerId : String)
      (expectedVersions : Option (String → Option UInt64))
  | release (runtimeTaskId : String)
  | beginMutation (key : String)
  | endMutation (key : String)

def call (state : ChannelLeases) : Call → ChannelLeases
  | .acquire runtimeTaskId sourceKeys sinkKeys leaseOwnerId expectedVersions =>
      (state.tryAcquireStreamTaskLeases runtimeTaskId sourceKeys sinkKeys leaseOwnerId
        expectedVersions).2
  | .release runtimeTaskId => state.releaseStreamTaskLeases runtimeTaskId
  | .beginMutation key => (state.tryBeginStreamChannelMutation key).2
  | .endMutation key => state.endStreamChannelMutation key

/-- The state after a list of calls. -/
def run (state : ChannelLeases) (calls : List Call) : ChannelLeases :=
  calls.foldl call state

/-- The call begins a mutation of the key. -/
def Begins (state : ChannelLeases) (key : String) : Call → Prop
  | .beginMutation other => other = key ∧ (state.tryBeginStreamChannelMutation other).1 = none
  | _ => False

instance (state : ChannelLeases) (key : String) : DecidablePred (state.Begins key)
  | .acquire .. => inferInstanceAs (Decidable False)
  | .release _ => inferInstanceAs (Decidable False)
  | .beginMutation other => inferInstanceAs (Decidable (other = key ∧ _))
  | .endMutation _ => inferInstanceAs (Decidable False)

/-- How often the calls begin a mutation of the key. -/
def mutations (state : ChannelLeases) (key : String) : List Call → Nat
  | [] => 0
  | first :: rest =>
      (if state.Begins key first then 1 else 0) + mutations (state.call first) key rest

end ChannelLeases

end Flowsql.Scheduler
