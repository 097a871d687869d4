import Mathlib

/-!
# Retention of finished runtimes

Finished stream tasks stay in the task table until they are old, or too many of them are kept. Two sweeps
work on three maps: one marks the finished tasks, the other one removes them.
-/

namespace Flowsql.Scheduler.Retention

/-- A map of the scheduler. Runtime ids are never empty. -/
abbrev Table (Id Value : Type) :=
  AList fun _ : Id => Value

structure Group (Id : Type) where
  terminal : Bool
  /-- The runtime ids of its nodes. -/
  nodes : List Id

structure Runtimes (Id : Type) where
  retentionS : Int
  maxCount : Nat
  /-- Whether a task is terminal, or a null pointer. -/
  streamTasks : Table Id (Option Bool) := ∅
  streamTaskGroups : Table Id (Group Id) := ∅
  terminalMs : Table Id Int := ∅
  lastAccessMs : Table Id Int := ∅
  kind : Table Id String := ∅

structure RuntimeEntry (Id : Type) where
  runtimeTaskId : Id
  runtimeKind : String
  terminalMs : Int
  lastAccessMs : Int
  deriving DecidableEq

variable {Id : Type} [LinearOrder Id]

namespace Runtimes

def markRuntimeTerminal (id : Id) (kind : String) (now : Int) (runtimes : Runtimes Id) : Runtimes Id :=
  { runtimes with
    terminalMs := runtimes.terminalMs.insert id now
    lastAccessMs := runtimes.lastAccessMs.insert id now
    kind := runtimes.kind.insert id (if kind = "" then "single" else kind) }

def touchRuntimeAccess (id : Id) (now : Int) (runtimes : Runtimes Id) : Runtimes Id :=
  { runtimes with lastAccessMs := runtimes.lastAccessMs.insert id now }

/-- A task is running: not terminal, and not a null pointer. -/
def isRunning (runtimes : Runtimes Id) (id : Id) : Bool :=
  runtimes.streamTasks.lookup id = some (some false)

/-- The tasks whose leases are released. -/
def finishedIds (runtimes : Runtimes Id) : List Id :=
  runtimes.streamTasks.keys.filter fun id => !runtimes.isRunning id

def sweepFinishedTaskLeases (now : Int) (runtimes : Runtimes Id) : Runtimes Id :=
  runtimes.finishedIds.foldl (fun runtimes id => runtimes.markRuntimeTerminal id "single" now) runtimes

def entries (runtimes : Runtimes Id) : List (RuntimeEntry Id) :=
  runtimes.terminalMs.entries.map fun entry =>
    { runtimeTaskId := entry.1
      runtimeKind := (runtimes.kind.lookup entry.1).getD "single"
      terminalMs := entry.2
      lastAccessMs := (runtimes.lastAccessMs.lookup entry.1).getD entry.2 }

/-- The entry is kept longer than the retention. -/
def aged (runtimes : Runtimes Id) (now : Int) (entry : RuntimeEntry Id) : Bool :=
  runtimes.retentionS = 0 ∨ now - entry.terminalMs ≥ runtimes.retentionS * 1000

def keepCandidates (runtimes : Runtimes Id) (now : Int) : List (RuntimeEntry Id) :=
  runtimes.entries.filter fun entry => !runtimes.aged now entry

end Runtimes

/-- The order of eviction: least recent access, then first end, then id. -/
def RuntimeEntry.Before (left right : RuntimeEntry Id) : Prop :=
  toLex (left.lastAccessMs, toLex (left.terminalMs, left.runtimeTaskId)) ≤
    toLex (right.lastAccessMs, toLex (right.terminalMs, right.runtimeTaskId))

instance : DecidableRel (@RuntimeEntry.Before Id _) := fun left right =>
  inferInstanceAs (Decidable (toLex (left.lastAccessMs, toLex (left.terminalMs, left.runtimeTaskId)) ≤
    toLex (right.lastAccessMs, toLex (right.terminalMs, right.runtimeTaskId))))

instance : Std.Total (@RuntimeEntry.Before Id _) :=
  ⟨fun _ _ => le_total _ _⟩

instance : IsTrans (RuntimeEntry Id) RuntimeEntry.Before :=
  ⟨fun _ _ _ => le_trans⟩

namespace Runtimes

def evicted (runtimes : Runtimes Id) (now : Int) : List (RuntimeEntry Id) :=
  let candidates := runtimes.keepCandidates now
  if runtimes.maxCount < candidates.length then
    (candidates.insertionSort RuntimeEntry.Before).take (candidates.length - runtimes.maxCount)
  else []

def removeIds (runtimes : Runtimes Id) (now : Int) : List Id :=
  ((runtimes.entries.filter fun entry => runtimes.aged now entry) ++ runtimes.evicted now).map
    (·.runtimeTaskId)

/-- One entry is removed from the tables, and from the maps later, unless it is still running. -/
def removeEntry (state : Runtimes Id × List Id) (entry : RuntimeEntry Id) : Runtimes Id × List Id :=
  let (runtimes, removed) := state
  let id := entry.runtimeTaskId
  if entry.runtimeKind = "group" then
    match runtimes.streamTaskGroups.lookup id with
    | some group =>
        if group.terminal then
          ({ runtimes with
            streamTaskGroups := runtimes.streamTaskGroups.erase id
            streamTasks := group.nodes.foldl (fun tasks node => tasks.erase node) runtimes.streamTasks },
            removed ++ [id])
        else (runtimes, removed)
    | none => (runtimes, removed ++ [id])
  else if runtimes.isRunning id then (runtimes, removed)
  else ({ runtimes with streamTasks := runtimes.streamTasks.erase id }, removed ++ [id])

/-- The retention maps without these ids. -/
def forget (runtimes : Runtimes Id) (removed : List Id) : Runtimes Id :=
  { runtimes with
    terminalMs := removed.foldl (fun table id => table.erase id) runtimes.terminalMs
    lastAccessMs := removed.foldl (fun table id => table.erase id) runtimes.lastAccessMs
    kind := removed.foldl (fun table id => table.erase id) runtimes.kind }

def sweepRuntimeRetainedObjects (now : Int) (runtimes : Runtimes Id) : Runtimes Id :=
  let chosen := runtimes.entries.filter fun entry => entry.runtimeTaskId ∈ runtimes.removeIds now
  let (swept, removed) := chosen.foldl removeEntry (runtimes, [])
  swept.forget removed

end Runtimes

/-! ## Runs -/

/-- The calls, and what else happens to tasks. -/
inductive Call (Id : Type) where
  | sweepFinished
  | touch (id : Id)
  | sweepRetained
  /-- A task with a new id. -/
  | start (id : Id)
  | finish (id : Id)

/-- The scheduler, and when each task in its table was first found terminal by a sweep. -/
structure Observed (Id : Type) where
  runtimes : Runtimes Id
  seen : Id → Option Int := fun _ => none

namespace Observed

def perform (observed : Observed Id) : Int × Call Id → Observed Id
  | (now, .sweepFinished) =>
      { runtimes := observed.runtimes.sweepFinishedTaskLeases now
        seen := fun id => if id ∈ observed.runtimes.finishedIds then (observed.seen id).or (some now)
          else observed.seen id }
  | (now, .touch id) => { observed with runtimes := observed.runtimes.touchRuntimeAccess id now }
  | (now, .sweepRetained) =>
      let swept := observed.runtimes.sweepRuntimeRetainedObjects now
      { runtimes := swept
        seen := fun id => if (swept.streamTasks.lookup id).isNone then none else observed.seen id }
  | (_, .start id) =>
      if id ∈ observed.runtimes.streamTasks then observed
      else { observed with runtimes := { observed.runtimes with
        streamTasks := observed.runtimes.streamTasks.insert id (some false) } }
  | (_, .finish id) =>
      if observed.runtimes.isRunning id then { observed with runtimes := { observed.runtimes with
        streamTasks := observed.runtimes.streamTasks.insert id (some true) } }
      else observed

def run (observed : Observed Id) (calls : List (Int × Call Id)) : Observed Id :=
  calls.foldl perform observed

/-- A sweep for finished tasks meets none whose marks it would change. -/
def MarksOnce (observed : Observed Id) : Int × Call Id → Prop
  | (now, .sweepFinished) => ∀ id ∈ observed.runtimes.finishedIds,
      observed.runtimes.terminalMs.lookup id = none ∨
        observed.runtimes.terminalMs.lookup id = some now ∧
          observed.runtimes.lastAccessMs.lookup id = some now
  | _ => True

end Observed

/-- A sweep at this time removes the ids of this list: all that are old, and the least recently accessed of
the others if they are too many. -/
structure Swept (before after : Runtimes Id) (now : Int) (removed : List Id) : Prop where
  finished : ∀ id ∈ removed, before.isRunning id = false
  gone : ∀ id ∈ removed, after.streamTasks.lookup id = none ∧ after.terminalMs.lookup id = none ∧
    after.lastAccessMs.lookup id = none ∧ after.kind.lookup id = none
  kept : ∀ id, id ∉ removed → after.streamTasks.lookup id = before.streamTasks.lookup id ∧
    after.terminalMs.lookup id = before.terminalMs.lookup id ∧
    after.lastAccessMs.lookup id = before.lastAccessMs.lookup id ∧
    after.kind.lookup id = before.kind.lookup id
  old : ∀ entry ∈ before.entries, before.aged now entry = true → entry.runtimeTaskId ∈ removed
  early : ((before.keepCandidates now).filter fun entry => entry.runtimeTaskId ∈ removed).length =
    (before.keepCandidates now).length - before.maxCount
  leastRecent : ∀ first ∈ before.keepCandidates now, ∀ second ∈ before.keepCandidates now,
    first.runtimeTaskId ∈ removed → second.runtimeTaskId ∉ removed → first.Before second

/-! ## Tables -/

variable {runtimes : Runtimes Id} {now : Int} {ids : List Id} {id : Id}

theorem lookup_eraseAll {Value : Type} (table : Table Id Value) (ids : List Id) (id : Id) :
    (ids.foldl (fun table id => table.erase id) table).lookup id =
      if id ∈ ids then none else table.lookup id := by
  induction ids generalizing table with
  | nil => rfl
  | cons first ids ih =>
      rw [List.foldl_cons, ih]
      by_cases same : id = first
      · subst same
        simp
      · simp [same]

theorem lookup_insert_cons {Value : Type} (table : Table Id Value) (first : Id) (ids : List Id)
    (value : Value) (id : Id) :
    (if id ∈ ids then some value else (table.insert first value).lookup id) =
      if id ∈ first :: ids then some value else table.lookup id := by
  by_cases same : id = first
  · subst same
    rw [AList.lookup_insert]
    simp
  · rw [AList.lookup_insert_ne same]
    simp [same]

namespace Runtimes

/-- What the marking of some tasks leaves in the tables. -/
structure Marked (before after : Runtimes Id) (now : Int) (ids : List Id) : Prop where
  retention : after.retentionS = before.retentionS
  count : after.maxCount = before.maxCount
  tasks : after.streamTasks = before.streamTasks
  terminal : ∀ id, after.terminalMs.lookup id = if id ∈ ids then some now else before.terminalMs.lookup id
  access : ∀ id, after.lastAccessMs.lookup id =
    if id ∈ ids then some now else before.lastAccessMs.lookup id
  kind : ∀ id, after.kind.lookup id = if id ∈ ids then some "single" else before.kind.lookup id

theorem foldl_mark (runtimes : Runtimes Id) (now : Int) (ids : List Id) :
    Marked runtimes (ids.foldl (fun runtimes id => runtimes.markRuntimeTerminal id "single" now) runtimes)
      now ids := by
  induction ids generalizing runtimes with
  | nil => exact ⟨rfl, rfl, rfl, fun _ => rfl, fun _ => rfl, fun _ => rfl⟩
  | cons first ids ih =>
      obtain ⟨retention, count, tasks, terminal, access, kind⟩ :=
        ih (runtimes.markRuntimeTerminal first "single" now)
      refine ⟨retention, count, tasks, fun id => ?_, fun id => ?_, fun id => ?_⟩
      · rw [List.foldl_cons, terminal, ← lookup_insert_cons]
        rfl
      · rw [List.foldl_cons, access, ← lookup_insert_cons]
        rfl
      · rw [List.foldl_cons, kind, ← lookup_insert_cons]
        rfl

/-- Marked tasks are single tasks in the table that no longer run. -/
def Known (runtimes : Runtimes Id) : Prop :=
  ∀ id time, runtimes.terminalMs.lookup id = some time →
    runtimes.kind.lookup id = some "single" ∧ runtimes.isRunning id = false ∧
      id ∈ runtimes.streamTasks

/-! ## Entries -/

theorem mem_entries {entry : RuntimeEntry Id} (member : entry ∈ runtimes.entries) :
    runtimes.terminalMs.lookup entry.runtimeTaskId = some entry.terminalMs ∧
      entry.runtimeKind = (runtimes.kind.lookup entry.runtimeTaskId).getD "single" := by
  obtain ⟨pair, there, rfl⟩ := List.mem_map.mp member
  exact ⟨AList.mem_lookup_iff.mpr there, rfl⟩

theorem nodup_entries (runtimes : Runtimes Id) :
    (runtimes.entries.map (·.runtimeTaskId)).Nodup := by
  rw [entries, List.map_map]
  exact runtimes.terminalMs.keys_nodup

theorem entry_ext {first second : RuntimeEntry Id} (member : first ∈ runtimes.entries)
    (other : second ∈ runtimes.entries) (same : first.runtimeTaskId = second.runtimeTaskId) :
    first = second :=
  List.inj_on_of_nodup_map runtimes.nodup_entries member other same

/-! ## The removal -/

theorem foldl_removeEntry {chosen : List (RuntimeEntry Id)} {removed : List Id}
    (single : ∀ entry ∈ chosen, entry.runtimeKind ≠ "group")
    (finished : ∀ entry ∈ chosen, runtimes.isRunning entry.runtimeTaskId = false) :
    chosen.foldl removeEntry (runtimes, removed) =
      ({ runtimes with
        streamTasks := (chosen.map (·.runtimeTaskId)).foldl (fun tasks id => tasks.erase id)
          runtimes.streamTasks },
        removed ++ chosen.map (·.runtimeTaskId)) := by
  induction chosen generalizing runtimes removed with
  | nil => simp
  | cons entry chosen ih =>
      have here : removeEntry (runtimes, removed) entry =
          ({ runtimes with streamTasks := runtimes.streamTasks.erase entry.runtimeTaskId },
            removed ++ [entry.runtimeTaskId]) := by
        unfold removeEntry
        dsimp only
        rw [if_neg (single entry (.head _)), finished entry (.head _)]
        rfl
      rw [List.foldl_cons, here, ih (fun other member => single other (.tail _ member)) ?_]
      · simp
      · intro other member
        have before := finished other (.tail _ member)
        unfold isRunning at before ⊢
        dsimp only
        by_cases same : other.runtimeTaskId = entry.runtimeTaskId
        · rw [same, AList.lookup_erase]
          rfl
        · rwa [AList.lookup_erase_ne same]

theorem evicted_sublist (runtimes : Runtimes Id) (now : Int) :
    ∃ rest, (runtimes.evicted now ++ rest).Perm (runtimes.keepCandidates now) ∧
      (runtimes.evicted now).length = (runtimes.keepCandidates now).length - runtimes.maxCount ∧
      ∀ first ∈ runtimes.evicted now, ∀ second ∈ rest, first.Before second := by
  have permuted := List.perm_insertionSort RuntimeEntry.Before (runtimes.keepCandidates now)
  unfold evicted
  dsimp only
  split
  · rename_i many
    rw [← List.take_append_drop ((runtimes.keepCandidates now).length - runtimes.maxCount)
      ((runtimes.keepCandidates now).insertionSort RuntimeEntry.Before)] at permuted
    refine ⟨_, permuted, ?_, ?_⟩
    · rw [List.length_take, List.length_insertionSort]
      omega
    · have sorted := List.pairwise_insertionSort RuntimeEntry.Before (runtimes.keepCandidates now)
      rw [← List.take_append_drop ((runtimes.keepCandidates now).length - runtimes.maxCount)
        ((runtimes.keepCandidates now).insertionSort RuntimeEntry.Before), List.pairwise_append] at sorted
      exact sorted.2.2
  · rename_i few
    refine ⟨_, List.Perm.refl _, ?_, fun _ wrong => nomatch wrong⟩
    rw [List.length_nil]
    omega

/-- The ids that a sweep removes when no marked task runs. -/
def removedIds (runtimes : Runtimes Id) (now : Int) : List Id :=
  (runtimes.entries.filter fun entry => entry.runtimeTaskId ∈ runtimes.removeIds now).map (·.runtimeTaskId)

theorem sweep_eq (known : runtimes.Known) (now : Int) :
    runtimes.sweepRuntimeRetainedObjects now =
      ({ runtimes with
        streamTasks := (runtimes.removedIds now).foldl (fun tasks id => tasks.erase id)
          runtimes.streamTasks } : Runtimes Id).forget (runtimes.removedIds now) := by
  unfold sweepRuntimeRetainedObjects
  dsimp only
  rw [foldl_removeEntry]
  · rfl
  · intro entry member
    obtain ⟨marked, kind⟩ := mem_entries (List.mem_of_mem_filter member)
    rw [kind, (known _ _ marked).1]
    decide
  · intro entry member
    exact (known _ _ (mem_entries (List.mem_of_mem_filter member)).1).2.1

/-- Entries that are not old are removed exactly if they are evicted. -/
theorem mem_removedIds {entry : RuntimeEntry Id} (member : entry ∈ runtimes.keepCandidates now) :
    entry.runtimeTaskId ∈ runtimes.removedIds now ↔ entry ∈ runtimes.evicted now := by
  obtain ⟨held, young⟩ := List.mem_filter.mp member
  obtain ⟨rest, permuted, -⟩ := runtimes.evicted_sublist now
  constructor
  · intro removed
    obtain ⟨other, chosen, same⟩ := List.mem_map.mp removed
    have ids : entry.runtimeTaskId ∈ runtimes.removeIds now := by
      rw [← same]
      simpa using (List.mem_filter.mp chosen).2
    obtain ⟨source, there, same⟩ := List.mem_map.mp ids
    rcases List.mem_append.mp there with old | evicted
    · obtain ⟨inside, aged⟩ := List.mem_filter.mp old
      obtain rfl := entry_ext inside held same
      rw [aged] at young
      cases young
    · have inside := permuted.subset (List.mem_append_left rest evicted)
      obtain rfl := entry_ext (List.mem_of_mem_filter inside) held same
      exact evicted
  · intro evicted
    refine List.mem_map.mpr ⟨entry, List.mem_filter.mpr ⟨held, ?_⟩, rfl⟩
    rw [decide_eq_true_eq]
    exact List.mem_map.mpr ⟨entry, List.mem_append_right _ evicted, rfl⟩

theorem swept (known : runtimes.Known) (now : Int) :
    Swept runtimes (runtimes.sweepRuntimeRetainedObjects now) now (runtimes.removedIds now) := by
  obtain ⟨rest, permuted, count, ordered⟩ := runtimes.evicted_sublist now
  have whole : ((runtimes.evicted now ++ rest).map (·.runtimeTaskId)).Nodup :=
    (permuted.map _).nodup_iff.mpr ((List.filter_sublist.map _).nodup runtimes.nodup_entries)
  rw [sweep_eq known]
  refine ⟨?_, fun id removed => ?_, fun id kept => ?_, ?_, ?_, ?_⟩
  · intro id removed
    obtain ⟨entry, chosen, rfl⟩ := List.mem_map.mp removed
    exact (known _ _ (mem_entries (List.mem_of_mem_filter chosen)).1).2.1
  · unfold forget
    refine ⟨?_, ?_, ?_, ?_⟩ <;> exact (lookup_eraseAll _ _ _).trans (if_pos removed)
  · unfold forget
    refine ⟨?_, ?_, ?_, ?_⟩ <;> exact (lookup_eraseAll _ _ _).trans (if_neg kept)
  · intro entry member old
    refine List.mem_map.mpr ⟨entry, List.mem_filter.mpr ⟨member, ?_⟩, rfl⟩
    rw [decide_eq_true_eq]
    exact List.mem_map.mpr
      ⟨entry, List.mem_append_left _ (List.mem_filter.mpr ⟨member, old⟩), rfl⟩
  · rw [← count]
    have same : (runtimes.keepCandidates now).filter
        (fun entry => entry.runtimeTaskId ∈ runtimes.removedIds now) =
        (runtimes.keepCandidates now).filter fun entry => entry ∈ runtimes.evicted now :=
      List.filter_congr fun entry member => by rw [decide_eq_decide, mem_removedIds member]
    have outside : rest.filter (fun entry => entry ∈ runtimes.evicted now) = [] := by
      refine List.filter_eq_nil_iff.mpr fun entry member => ?_
      rw [decide_eq_true_eq]
      exact fun evicted => List.disjoint_of_nodup_append (List.Nodup.of_map _ whole) evicted member
    rw [same, ← (permuted.filter _).length_eq, List.filter_append, outside, List.append_nil,
      List.filter_eq_self.mpr fun entry member => decide_eq_true member]
  · intro first held second other removed stays
    rw [mem_removedIds held] at removed
    rw [mem_removedIds other] at stays
    have late : second ∈ rest :=
      (List.mem_append.mp (permuted.symm.subset other)).resolve_left stays
    exact ordered first removed second late

end Runtimes

/-! ## Runs -/

namespace Observed

/-- The marks are the times of the first observations. -/
structure Faithful (observed : Observed Id) : Prop where
  known : observed.runtimes.Known
  marks : ∀ id, observed.runtimes.terminalMs.lookup id = observed.seen id

theorem perform_faithful {observed : Observed Id} (faithful : observed.Faithful)
    (call : Int × Call Id) (once : observed.MarksOnce call) : (observed.perform call).Faithful := by
  obtain ⟨now, call⟩ := call
  cases call with
  | sweepFinished =>
      have marked := observed.runtimes.foldl_mark now observed.runtimes.finishedIds
      refine ⟨fun id time held => ?_, fun id => ?_⟩
      · have running (id : Id) :
            (observed.perform (now, .sweepFinished)).runtimes.isRunning id = observed.runtimes.isRunning id :=
          congrArg (fun tasks : Table Id (Option Bool) => decide (tasks.lookup id = some (some false)))
            marked.tasks
        have held := (marked.terminal id).symm.trans held
        have inTable : id ∈ observed.runtimes.streamTasks →
            id ∈ (observed.perform (now, .sweepFinished)).runtimes.streamTasks :=
          fun there => (marked.tasks ▸ there :)
        rw [running]
        by_cases finished : id ∈ observed.runtimes.finishedIds
        · obtain ⟨there, ended⟩ := List.mem_filter.mp finished
          exact ⟨(marked.kind id).trans (if_pos finished), by simpa using ended, inTable there⟩
        · rw [if_neg finished] at held
          obtain ⟨kind, ended, there⟩ := faithful.known id time held
          exact ⟨((marked.kind id).trans (if_neg finished)).trans kind, ended, inTable there⟩
      · refine (marked.terminal id).trans ?_
        show _ = if id ∈ observed.runtimes.finishedIds then (observed.seen id).or (some now)
          else observed.seen id
        rw [← faithful.marks id]
        by_cases finished : id ∈ observed.runtimes.finishedIds
        · rw [if_pos finished, if_pos finished]
          rcases once id finished with fresh | ⟨same, -⟩
          · rw [fresh]
            rfl
          · rw [same]
            rfl
        · rw [if_neg finished, if_neg finished]
  | touch id => exact ⟨faithful.known, faithful.marks⟩
  | sweepRetained =>
      have swept := Runtimes.swept faithful.known now
      refine ⟨fun id time held => ?_, fun id => ?_⟩
      · by_cases removed : id ∈ observed.runtimes.removedIds now
        · have gone := (swept.gone id removed).2.1
          exact absurd (held.symm.trans gone) (Option.some_ne_none time)
        · obtain ⟨tasks, terminal, -, kind⟩ := swept.kept id removed
          obtain ⟨single, ended, there⟩ := faithful.known id time (terminal.symm.trans held)
          refine ⟨kind.trans single, ?_, ?_⟩
          · exact (congrArg (fun found => decide (found = some (some false))) tasks).trans ended
          · rw [← AList.lookup_isSome] at there ⊢
            exact (congrArg Option.isSome tasks).trans there
      · show (observed.runtimes.sweepRuntimeRetainedObjects now).terminalMs.lookup id =
          if ((observed.runtimes.sweepRuntimeRetainedObjects now).streamTasks.lookup id).isNone then none
          else observed.seen id
        by_cases removed : id ∈ observed.runtimes.removedIds now
        · obtain ⟨tasks, terminal, -⟩ := swept.gone id removed
          rw [tasks, terminal]
          rfl
        · obtain ⟨tasks, terminal, -⟩ := swept.kept id removed
          rw [tasks, terminal, faithful.marks id]
          cases seen : observed.seen id with
          | none => simp
          | some time =>
              have there := (faithful.known id time ((faithful.marks id).trans seen)).2.2
              rw [← AList.lookup_isSome, ← Option.not_isNone, Bool.not_eq_true'] at there
              rw [there]
              rfl
  | start id =>
      unfold perform
      dsimp only
      split
      · exact faithful
      · rename_i fresh
        refine ⟨fun other time held => ?_, faithful.marks⟩
        obtain ⟨single, ended, there⟩ := faithful.known other time held
        have different : other ≠ id := fun same => fresh (same ▸ there)
        refine ⟨single, ?_, AList.mem_insert _ |>.mpr (.inr there)⟩
        unfold Runtimes.isRunning at ended ⊢
        rwa [AList.lookup_insert_ne different]
  | finish id =>
      unfold perform
      dsimp only
      split
      · rename_i running
        refine ⟨fun other time held => ?_, faithful.marks⟩
        obtain ⟨single, ended, there⟩ := faithful.known other time held
        have different : other ≠ id := by
          rintro rfl
          rw [running] at ended
          cases ended
        refine ⟨single, ?_, AList.mem_insert _ |>.mpr (.inr there)⟩
        unfold Runtimes.isRunning at ended ⊢
        rwa [AList.lookup_insert_ne different]
      · exact faithful

/-- A condition on the state before each call. -/
def EachCall (condition : Observed Id → Int × Call Id → Prop) :
    Observed Id → List (Int × Call Id) → Prop
  | _, [] => True
  | observed, call :: calls => condition observed call ∧ EachCall condition (observed.perform call) calls

theorem run_faithful {observed : Observed Id} (faithful : observed.Faithful)
    {calls : List (Int × Call Id)} (once : EachCall MarksOnce observed calls) :
    (observed.run calls).Faithful := by
  induction calls generalizing observed with
  | nil => exact faithful
  | cons call calls ih => exact ih (perform_faithful faithful call once.1) once.2

/-- What the next sweep for retained objects does: every runtime that was first seen long enough ago goes. -/
def SweepsWell (observed : Observed Id) : Prop :=
  ∀ now, ∃ removed,
    Swept observed.runtimes (observed.perform (now, .sweepRetained)).runtimes now removed ∧
      ∀ id time, observed.seen id = some time →
        observed.runtimes.retentionS * 1000 ≤ now - time → id ∈ removed

end Observed

end Flowsql.Scheduler.Retention
