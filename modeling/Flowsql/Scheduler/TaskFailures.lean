import Flowsql.Scheduler.StreamTask
import Mathlib

/-!
# Failures of a stream task

A task is failed as soon as one of its shards reports a failure, although that shard and
others are still active. Without failures its status is terminal only after the last shard.
-/

namespace Flowsql.Scheduler

open Flowsql.Library

namespace ShardPoint

/-- The shard has reported a failure that it has still to store in the status. -/
def StoresFailure : ShardPoint → Prop
  | .failStore _ => True
  | _ => False

/-- The last shard ends the task. -/
def Ends : ShardPoint → Prop
  | .statusLoad => True
  | .statusLoadAgain => True
  | .statusStore => True
  | .notifying => True
  | _ => False

/-- The last shard has seen that the task has not failed. -/
def EndsStopped : ShardPoint → Prop
  | .statusLoadAgain => True
  | .statusStore => True
  | _ => False

/-- The shard would find that no shard is active. -/
def CountsNone : ShardPoint → Prop
  | .doneCas prev => prev = 0
  | _ => False

end ShardPoint

namespace TaskState

variable {shardCount : UInt32} {state : TaskState shardCount} {shard : Fin shardCount.toNat}

/-! ## Active shards -/

/-- The shards that have not been counted off. -/
def active (state : TaskState shardCount) : Finset (Fin shardCount.toNat) :=
  Finset.univ.filter fun shard => (state.shards shard).point.Active

theorem mem_active : shard ∈ state.active ↔ (state.shards shard).point.Active := by
  simp [active]

theorem active_same {next : ShardState}
    (same : next.point.Active ↔ (state.shards shard).point.Active) :
    (state.withShard shard next).active = state.active := by
  ext other
  rw [mem_active, mem_active]
  by_cases here : other = shard
  · subst here
    simp only [withShard, Function.update_self]
    exact same
  · simp only [withShard, Function.update_of_ne here]

theorem active_less {next : ShardState} (gone : ¬ next.point.Active) :
    (state.withShard shard next).active = state.active.erase shard := by
  ext other
  rw [mem_active, Finset.mem_erase, mem_active]
  by_cases here : other = shard
  · subst here
    simp only [withShard, Function.update_self]
    exact ⟨fun active => absurd active gone, fun both => absurd rfl both.1⟩
  · simp only [withShard, Function.update_of_ne here]
    exact ⟨fun active => ⟨here, active⟩, fun both => both.2⟩

/-! ## The invariant -/

structure Sound (state : TaskState shardCount) : Prop where
  counted : state.activeShards.toNat = state.active.card
  first : state.error = state.reports.head?
  known : state.status = .failed → state.reports ≠ []
  stored : state.reports ≠ [] → state.status = .failed ∨
    ∃ shard, (state.shards shard).point.StoresFailure
  storing : ∀ shard, (state.shards shard).point.StoresFailure → state.reports ≠ []
  ended : ∀ shard, (state.shards shard).point.Ends → state.activeShards = 0
  unfailed : ∀ shard, (state.shards shard).point.EndsStopped → state.status ≠ .failed
  counting : ∀ shard, ¬ (state.shards shard).point.CountsNone
  stopped : state.status = .stopped → state.activeShards = 0
  uncancelled : state.status ≠ .cancelled
  callers : ∀ loaded ∈ state.stopCallers, ¬ loaded.IsTerminal
  swept : state.leasesToRelease ∨ state.leasesReleased ∨ state.erased → state.status.IsTerminal

theorem prepared_sound (schemaReady : Fin shardCount.toNat → Bool) :
    (prepared shardCount schemaReady).Sound where
  counted := by
    have all : (prepared shardCount schemaReady).active = Finset.univ := by
      ext shard
      rw [mem_active]
      exact ⟨fun _ => Finset.mem_univ _, fun _ => trivial⟩
    rw [all, Finset.card_univ, Fintype.card_fin]
    rfl
  first := rfl
  known := nofun
  stored := fun some => absurd rfl some
  storing := nofun
  ended := nofun
  unfailed := nofun
  counting := fun _ => id
  stopped := nofun
  uncancelled := nofun
  callers := nofun
  swept := nofun

/-- A shard that is not counted off keeps the count above zero. -/
theorem Sound.activeShards_ne_zero (holds : state.Sound)
    (active : (state.shards shard).point.Active) : state.activeShards ≠ 0 := by
  intro zero
  have none : state.active.card = 0 := by
    rw [← holds.counted, zero]
    rfl
  exact (Finset.card_ne_zero_of_mem (mem_active.mpr active)) none

theorem Sound.activeShards_eq_zero_iff (holds : state.Sound) :
    state.activeShards = 0 ↔ ∀ shard, ¬ (state.shards shard).point.Active := by
  constructor
  · intro zero shard active
    exact holds.activeShards_ne_zero active zero
  · intro inactive
    have none : state.active = ∅ :=
      Finset.eq_empty_of_forall_notMem fun shard member => inactive shard (mem_active.mp member)
    apply UInt32.toNat_inj.mp
    rw [holds.counted, none]
    rfl

theorem forall_shards (property : ShardState → Prop) {next : ShardState}
    (others : ∀ other, other ≠ shard → property (state.shards other)) (here : property next)
    (other : Fin shardCount.toNat) : property ((state.withShard shard next).shards other) := by
  by_cases same : other = shard
  · subst same
    simp only [withShard, Function.update_self]
    exact here
  · simp only [withShard, Function.update_of_ne same]
    exact others other same

namespace Sound

/-- A shard goes on and nothing else changes. -/
theorem moved (holds : state.Sound) {next : ShardState}
    (left : ¬ (state.shards shard).point.StoresFailure)
    (active : next.point.Active ↔ (state.shards shard).point.Active)
    (stores : ¬ next.point.StoresFailure) (counts : ¬ next.point.CountsNone)
    (ends : next.point.Ends → state.activeShards = 0)
    (endsStopped : next.point.EndsStopped → state.status ≠ .failed) :
    (state.withShard shard next).Sound where
  counted := by
    rw [active_same active]
    exact holds.counted
  first := holds.first
  known := holds.known
  stored := by
    intro some
    rcases holds.stored some with failed | ⟨other, storing⟩
    · exact Or.inl failed
    · have different : other ≠ shard := fun same => left (same ▸ storing)
      refine Or.inr ⟨other, ?_⟩
      simp only [withShard, Function.update_of_ne different]
      exact storing
  storing := forall_shards (fun shard => shard.point.StoresFailure → state.reports ≠ [])
    (fun other _ => holds.storing other) fun again => absurd again stores
  ended := forall_shards (fun shard => shard.point.Ends → state.activeShards = 0)
    (fun other _ => holds.ended other) ends
  unfailed := forall_shards (fun shard => shard.point.EndsStopped → state.status ≠ .failed)
    (fun other _ => holds.unfailed other) endsStopped
  counting := forall_shards (fun shard => ¬ shard.point.CountsNone)
    (fun other _ => holds.counting other) counts
  stopped := holds.stopped
  uncancelled := holds.uncancelled
  callers := holds.callers
  swept := holds.swept

/-- A step to a point at which the shard is active and stores nothing. -/
theorem goes {point : ShardPoint} (holds : state.Sound)
    (left : ¬ (state.shards shard).point.StoresFailure)
    (before : (state.shards shard).point.Active) (after : point.Active)
    (stores : ¬ point.StoresFailure) (counts : ¬ point.CountsNone) (ends : ¬ point.Ends)
    (endsStopped : ¬ point.EndsStopped) : (state.goes shard point).Sound :=
  holds.moved left ⟨fun _ => before, fun _ => after⟩ stores counts (fun again => absurd again ends)
    fun again => absurd again endsStopped

/-- A failure reaches `error_`. -/
theorem reports {failure : ErrorInfo} {site : FailureSite} {error : Option ErrorInfo}
    (holds : state.Sound) (before : (state.shards shard).point.Active)
    (first : error = state.error.or (some failure)) :
    ({ state.goes shard (.failStore site) with
        error := error, reports := state.reports ++ [failure] } : TaskState shardCount).Sound where
  counted := by
    have same : (state.goes shard (.failStore site)).active = state.active :=
      active_same ⟨fun _ => before, fun _ => trivial⟩
    exact holds.counted.trans (congrArg Finset.card same.symm)
  first := by
    rw [first, holds.first]
    cases state.reports <;> rfl
  known := fun _ => List.append_ne_nil_of_right_ne_nil _ (List.cons_ne_nil _ _)
  stored := by
    intro _
    refine Or.inr ⟨shard, ?_⟩
    simp only [TaskState.goes, withShard, Function.update_self]
    trivial
  storing := fun _ _ => List.append_ne_nil_of_right_ne_nil _ (List.cons_ne_nil _ _)
  ended := forall_shards (fun shard => shard.point.Ends → state.activeShards = 0)
    (fun other _ => holds.ended other) nofun
  unfailed := forall_shards (fun shard => shard.point.EndsStopped → state.status ≠ .failed)
    (fun other _ => holds.unfailed other) nofun
  counting := forall_shards (fun shard => ¬ shard.point.CountsNone)
    (fun other _ => holds.counting other) id
  stopped := holds.stopped
  uncancelled := holds.uncancelled
  callers := holds.callers
  swept := holds.swept

/-- The failure is stored in the status. -/
theorem failStore {site : FailureSite} (holds : state.Sound)
    (point : (state.shards shard).point = .failStore site) :
    ({ state.goes shard site.next with status := .failed } : TaskState shardCount).Sound := by
  have before : (state.shards shard).point.Active := by rw [point]; trivial
  have reported : state.reports ≠ [] := holds.storing shard (by rw [point]; trivial)
  have after : site.next.Active ∧ ¬ site.next.CountsNone ∧ ¬ site.next.Ends := by
    cases site <;> exact ⟨trivial, id, id⟩
  have running := holds.activeShards_ne_zero before
  have noneEnds : ∀ other, ((state.goes shard site.next).shards other).point.Ends → False :=
    forall_shards (fun shard => shard.point.Ends → False)
      (fun other _ ends => running (holds.ended other ends)) after.2.2
  constructor
  case counted =>
    have same : (state.goes shard site.next).active = state.active :=
      active_same ⟨fun _ => before, fun _ => after.1⟩
    exact holds.counted.trans (congrArg Finset.card same.symm)
  case first => exact holds.first
  case known => exact fun _ => reported
  case stored => exact fun _ => Or.inl rfl
  case storing => exact fun _ _ => reported
  case ended => exact fun other ends => (noneEnds other ends).elim
  case unfailed =>
    intro other stops
    refine (noneEnds other ?_).elim
    generalize ((state.goes shard site.next).shards other).point = place at stops
    cases place <;> first | exact stops | trivial
  case counting =>
    exact forall_shards (fun shard => ¬ shard.point.CountsNone)
      (fun other _ => holds.counting other) after.2.1
  case stopped => exact nofun
  case uncancelled => exact nofun
  case callers => exact holds.callers
  case swept => exact fun _ => Or.inr (Or.inr rfl)

/-- A shard is counted off. -/
theorem countedOff {prev : UInt32} (holds : state.Sound)
    (point : (state.shards shard).point = .doneCas prev) (some : prev ≠ 0)
    (current : state.activeShards = prev) :
    ({ state.goes shard (if prev - 1 ≠ 0 then .finished else .statusLoad) with
        activeShards := prev - 1 } : TaskState shardCount).Sound := by
  have before : (state.shards shard).point.Active := by rw [point]; trivial
  have running : state.activeShards ≠ 0 := holds.activeShards_ne_zero before
  have gone : ¬ (if prev - 1 ≠ 0 then ShardPoint.finished else .statusLoad).Active := by
    split <;> exact id
  have stores : ¬ (if prev - 1 ≠ 0 then ShardPoint.finished else .statusLoad).StoresFailure := by
    split <;> exact id
  constructor
  case counted =>
    have less := @active_less _ state shard
      { state.shards shard with point := if prev - 1 ≠ 0 then .finished else .statusLoad } gone
    have one : (prev - 1).toNat = prev.toNat - 1 := by
      apply UInt32.toNat_sub_of_le
      rw [UInt32.le_iff_toNat_le]
      exact Nat.one_le_iff_ne_zero.mpr fun zero => some (UInt32.toNat_inj.mp zero)
    have card := Finset.card_erase_of_mem (mem_active.mpr before)
    rw [← holds.counted, current, ← one] at card
    exact card.symm.trans (congrArg Finset.card less.symm)
  case first => exact holds.first
  case known => exact holds.known
  case stored =>
    intro reported
    rcases holds.stored reported with failed | ⟨other, storing⟩
    · exact Or.inl failed
    · have different : other ≠ shard := by
        intro same
        rw [same, point] at storing
        exact storing
      refine Or.inr ⟨other, ?_⟩
      simp only [TaskState.goes, withShard, Function.update_of_ne different]
      exact storing
  case storing =>
    exact forall_shards (fun shard => shard.point.StoresFailure → state.reports ≠ [])
      (fun other _ => holds.storing other) fun again => absurd again stores
  case ended =>
    refine forall_shards (fun shard => shard.point.Ends → prev - 1 = 0)
      (fun other _ ends => absurd (holds.ended other ends) running) ?_
    simp only
    split
    · exact nofun
    · next last => exact fun _ => not_not.mp last
  case unfailed =>
    refine forall_shards (fun shard => shard.point.EndsStopped → state.status ≠ .failed)
      (fun other _ => holds.unfailed other) ?_
    simp only
    split <;> exact nofun
  case counting =>
    refine forall_shards (fun shard => ¬ shard.point.CountsNone)
      (fun other _ => holds.counting other) ?_
    simp only
    split <;> exact id
  case stopped => exact fun stopped => absurd (holds.stopped stopped) running
  case uncancelled => exact holds.uncancelled
  case callers => exact holds.callers
  case swept => exact holds.swept

/-- The last shard stores that the task has stopped. -/
theorem statusStore (holds : state.Sound) (point : (state.shards shard).point = .statusStore) :
    ({ state.goes shard .notifying with status := .stopped } : TaskState shardCount).Sound := by
  have left : ¬ (state.shards shard).point.StoresFailure := by rw [point]; exact id
  have ended : state.activeShards = 0 := holds.ended shard (by rw [point]; trivial)
  have unfailed : state.status ≠ .failed := holds.unfailed shard (by rw [point]; trivial)
  have moves : (state.goes shard .notifying).Sound :=
    holds.moved left (by rw [point]; exact Iff.rfl) id id (fun _ => ended) nofun
  have unreported : state.reports = [] := by
    by_contra reported
    rcases holds.stored reported with failed | ⟨other, storing⟩
    · exact unfailed failed
    · refine @activeShards_ne_zero _ state other holds ?_ ended
      generalize (state.shards other).point = place at storing
      cases place <;> first | exact storing.elim | trivial
  refine ⟨moves.counted, moves.first, nofun, fun reported => absurd unreported reported,
    moves.storing, moves.ended, fun _ _ => nofun, moves.counting, fun _ => ended, nofun, holds.callers,
    fun _ => Or.inl rfl⟩

/-- What a poll leads to. -/
theorem polled {handled : Nat} (holds : state.Sound)
    (point : (state.shards shard).point = .polling handled) (event : PollEvent) :
    (state.polled shard handled event).Sound := by
  have left : ¬ (state.shards shard).point.StoresFailure := by rw [point]; exact id
  have before : (state.shards shard).point.Active := by rw [point]; trivial
  cases event with
  | timeout | error err errMsg | drainedAfterCancel | eof =>
      exact holds.goes left before trivial id id id id
  | data hasBatch =>
      simp only [TaskState.polled]
      split
      · exact holds.goes left before trivial id id id id
      · split <;> exact holds.goes left before trivial id id id id

/-- Every step of a shard. -/
theorem shardStep (holds : state.Sound) (answer : ShardAnswer) :
    (state.shardStep shard answer).Sound := by
  cases point : (state.shards shard).point with
  | resting | flushing | closing | marking | ticking | processing handled =>
      have left : ¬ (state.shards shard).point.StoresFailure := by rw [point]; exact id
      have before : (state.shards shard).point.Active := by rw [point]; trivial
      simp only [TaskState.shardStep, point]
      repeat' split
      all_goals exact holds.goes left before trivial id id id id
  | polling handled =>
      simp only [TaskState.shardStep, point]
      split
      · exact holds.polled point answer.event
      · exact holds.goes (by rw [point]; exact id) (by rw [point]; trivial) trivial id id id id
  | preparing handled | finalizing =>
      have left : ¬ (state.shards shard).point.StoresFailure := by rw [point]; exact id
      have before : (state.shards shard).point.Active := by rw [point]; trivial
      simp only [TaskState.shardStep, point]
      split
      · exact holds.goes left before trivial id id id id
      · exact holds.moved left ⟨fun _ => before, fun _ => trivial⟩ id id nofun nofun
  | failLoad failure site =>
      have before : (state.shards shard).point.Active := by rw [point]; trivial
      simp only [TaskState.shardStep, point]
      split
      · exact holds.goes (by rw [point]; exact id) before trivial id id id id
      · next error found =>
          have kept : state.error = state.error.or (some failure) := by
            rw [found]
            rfl
          exact @reports _ state shard failure site state.error holds before kept
  | failCas failure site =>
      have before : (state.shards shard).point.Active := by rw [point]; trivial
      simp only [TaskState.shardStep, point]
      exact holds.reports before rfl
  | failStore site =>
      simp only [TaskState.shardStep, point]
      exact holds.failStore point
  | doneLoad =>
      have before : (state.shards shard).point.Active := by rw [point]; trivial
      simp only [TaskState.shardStep, point]
      exact holds.goes (by rw [point]; exact id) before trivial id
        (holds.activeShards_ne_zero before) id id
  | doneCas prev =>
      have before : (state.shards shard).point.Active := by rw [point]; trivial
      have some : prev ≠ 0 := by
        have counts := holds.counting shard
        rwa [point] at counts
      simp only [TaskState.shardStep, point]
      split
      · next zero => exact absurd zero some
      · split
        · next current => exact holds.countedOff point some current.1
        · exact holds.goes (by rw [point]; exact id) before trivial id
            (holds.activeShards_ne_zero before) id id
  | statusLoad =>
      have ended : state.activeShards = 0 := holds.ended shard (by rw [point]; trivial)
      simp only [TaskState.shardStep, point]
      split
      · next unfailed =>
          exact holds.moved (by rw [point]; exact id) (by rw [point]; exact Iff.rfl) id id
            (fun _ => ended) fun _ => unfailed
      · exact holds.moved (by rw [point]; exact id) (by rw [point]; exact Iff.rfl) id id
          (fun _ => ended) nofun
  | statusLoadAgain =>
      have ended : state.activeShards = 0 := holds.ended shard (by rw [point]; trivial)
      have unfailed : state.status ≠ .failed := holds.unfailed shard (by rw [point]; trivial)
      simp only [TaskState.shardStep, point]
      split
      · exact holds.moved (by rw [point]; exact id) (by rw [point]; exact Iff.rfl) id id
          (fun _ => ended) fun _ => unfailed
      · exact holds.moved (by rw [point]; exact id) (by rw [point]; exact Iff.rfl) id id
          (fun _ => ended) nofun
  | notifying =>
      simp only [TaskState.shardStep, point]
      exact holds.moved (by rw [point]; exact id) (by rw [point]; exact Iff.rfl) id id nofun nofun
  | statusStore =>
      simp only [TaskState.shardStep, point]
      exact holds.statusStore point
  | finished =>
      simp only [TaskState.shardStep, point]
      exact holds

/-! ## Other threads -/

/-- Nothing but the callers of `RequestStop` changes. -/
theorem withCallers {stopCallers : List StreamTaskStatus} (holds : state.Sound)
    (callers : ∀ loaded ∈ stopCallers, ¬ loaded.IsTerminal) :
    ({ state with stopCallers := stopCallers } : TaskState shardCount).Sound :=
  ⟨holds.counted, holds.first, holds.known, holds.stored, holds.storing, holds.ended,
    holds.unfailed, holds.counting, holds.stopped, holds.uncancelled, callers, holds.swept⟩

theorem stopLoad (holds : state.Sound) : state.stopLoad.Sound := by
  unfold TaskState.stopLoad
  split
  · exact holds
  · next going =>
      refine holds.withCallers fun loaded member => ?_
      rcases List.mem_cons.mp member with same | before
      · rw [same]
        exact fun ended => going (Or.inl ended)
      · exact holds.callers loaded before

theorem stopCas (holds : state.Sound) (loaded : StreamTaskStatus) (spurious : Bool) :
    (state.stopCas loaded spurious).Sound := by
  simp only [TaskState.stopCas]
  split
  · next member =>
      have fewer := @withCallers _ state (state.stopCallers.erase loaded) holds
        fun other left => holds.callers other (List.mem_of_mem_erase left)
      split
      · next current =>
          have going : ¬ state.status.IsTerminal := current.1 ▸ holds.callers loaded member
          refine ⟨fewer.counted, fewer.first, nofun, fun reported => ?_, fewer.storing,
            fewer.ended, fun _ _ => nofun, fewer.counting, nofun, nofun, fewer.callers,
            fun swept => absurd (fewer.swept swept) going⟩
          refine Or.inr ((fewer.stored reported).resolve_left fun failed => going ?_)
          exact Or.inr (Or.inr failed)
      · exact fewer.stopLoad
  · exact holds

theorem withSweep {leasesToRelease leasesReleased erased : Bool} (holds : state.Sound)
    (terminal : state.status.IsTerminal) :
    ({ state with
        leasesToRelease := leasesToRelease
        leasesReleased := leasesReleased
        erased := erased } : TaskState shardCount).Sound :=
  ⟨holds.counted, holds.first, holds.known, holds.stored, holds.storing, holds.ended,
    holds.unfailed, holds.counting, holds.stopped, holds.uncancelled, holds.callers,
    fun _ => terminal⟩

/-- Every step of a shard or of another thread. -/
theorem step (holds : state.Sound) (event : TaskEvent shardCount) : (state.step event).Sound := by
  cases event with
  | shard shard answer => exact holds.shardStep answer
  | stopLoad => exact holds.stopLoad
  | stopCas loaded spurious => exact holds.stopCas loaded spurious
  | sweepLoad =>
      simp only [TaskState.step]
      split
      · next terminal => exact holds.withSweep terminal
      · exact holds
  | sweepRelease =>
      simp only [TaskState.step]
      split
      · next found => exact holds.withSweep (holds.swept (Or.inl found))
      · exact holds
  | sweepErase =>
      simp only [TaskState.step]
      split
      · next terminal => exact holds.withSweep terminal
      · exact holds

end Sound

theorem run_sound (schemaReady : Fin shardCount.toNat → Bool)
    (events : List (TaskEvent shardCount)) : (run schemaReady events).Sound :=
  events.foldlRecOn step (prepared_sound schemaReady) fun _ holds event _ => holds.step event

/-! ## Failures -/

/-- No shard stores a failure in the status. -/
def NoFailure (state : TaskState shardCount) : TaskEvent shardCount → Prop
  | .shard shard _ => ¬ (state.shards shard).point.StoresFailure
  | _ => True

/-- A terminal status, and whatever a sweeper did because of it, means that no shard is
active. -/
def TerminalSafe (state : TaskState shardCount) : Prop :=
  (state.status.IsTerminal → ∀ shard, ¬ (state.shards shard).point.Active) ∧
  (state.leasesReleased ∨ state.erased → ∀ shard, ¬ (state.shards shard).point.Active)

theorem Sound.terminalSafe (holds : state.Sound) (unfailed : state.status ≠ .failed) :
    state.TerminalSafe := by
  have terminal : state.status.IsTerminal → ∀ shard, ¬ (state.shards shard).point.Active := by
    rintro (stopped | cancelled | failed)
    · exact holds.activeShards_eq_zero_iff.mp (holds.stopped stopped)
    · exact absurd cancelled holds.uncancelled
    · exact absurd failed unfailed
  exact ⟨terminal, fun swept => terminal (holds.swept (Or.inr swept))⟩

theorem polled_status (handled : Nat) (event : PollEvent) :
    (state.polled shard handled event).status = state.status := by
  cases event with
  | data hasBatch =>
      simp only [polled]
      repeat' split
      all_goals rfl
  | _ => rfl

/-- Only a report of a shard makes the task failed. -/
theorem shardStep_unfailed (unfailed : state.status ≠ .failed)
    (sound : ¬ (state.shards shard).point.StoresFailure) (answer : ShardAnswer) :
    (state.shardStep shard answer).status ≠ .failed := by
  cases point : (state.shards shard).point with
  | failStore site => exact absurd (by rw [point]; trivial) sound
  | statusStore =>
      simp only [shardStep, point]
      nofun
  | polling handled =>
      simp only [shardStep, point]
      split
      · rw [polled_status]
        exact unfailed
      · exact unfailed
  | _ =>
      simp only [shardStep, point]
      repeat' split
      all_goals exact unfailed

theorem step_unfailed (unfailed : state.status ≠ .failed) {event : TaskEvent shardCount}
    (sound : state.NoFailure event) : (state.step event).status ≠ .failed := by
  cases event with
  | shard shard answer => exact shardStep_unfailed unfailed sound answer
  | stopLoad =>
      simp only [step, stopLoad]
      split <;> exact unfailed
  | stopCas loaded spurious =>
      simp only [step, stopCas]
      split
      · split
        · nofun
        · simp only [stopLoad]
          split <;> exact unfailed
      · exact unfailed
  | sweepLoad | sweepRelease | sweepErase =>
      simp only [step]
      split <;> exact unfailed

/-- A shard that has stored its failure is still active. -/
theorem not_terminalSafe (storing : (state.shards shard).point.StoresFailure)
    (answer : ShardAnswer) : ¬ (state.shardStep shard answer).TerminalSafe := by
  cases point : (state.shards shard).point with
  | failStore site =>
      intro safe
      have here : ((state.shardStep shard answer).shards shard).point = site.next := by
        simp only [shardStep, point, goes, withShard, Function.update_self]
      refine safe.1 ?_ shard ?_
      · simp only [shardStep, point]
        exact Or.inr (Or.inr rfl)
      · rw [here]
        cases site <;> trivial
  | _ =>
      rw [point] at storing
      exact storing.elim

theorem guarded_of_terminalSafe {events : List (TaskEvent shardCount)}
    (safe : ∀ before later, events = before ++ later → (before.foldl step state).TerminalSafe) :
    Guarded step NoFailure state events := by
  induction events generalizing state with
  | nil => trivial
  | cons event rest ih =>
      constructor
      · cases event with
        | shard shard answer =>
            intro storing
            exact not_terminalSafe storing answer (safe [.shard shard answer] rest rfl)
        | stopLoad | stopCas loaded spurious | sweepLoad | sweepRelease | sweepErase => trivial
      · refine ih fun before later same => ?_
        exact safe (event :: before) later (congrArg (event :: ·) same)

/-- A terminal status means that no shard is active in every state of a run if and only if no
shard stores a failure in it; and in every run, once no shard is active, the task is failed
exactly when a failure was reported, with the first one's error. -/
theorem terminal_safe_iff (schemaReady : Fin shardCount.toNat → Bool)
    (events : List (TaskEvent shardCount)) :
    ((∀ before later, events = before ++ later → (run schemaReady before).TerminalSafe) ↔
      Guarded step NoFailure (prepared shardCount schemaReady) events) ∧
    ((∀ shard, ¬ ((run schemaReady events).shards shard).point.Active) →
      ((run schemaReady events).status = .failed ↔ (run schemaReady events).reports ≠ []) ∧
      (run schemaReady events).error = (run schemaReady events).reports.head?) := by
  refine ⟨⟨guarded_of_terminalSafe, fun guarded before later same => ?_⟩, fun inactive => ?_⟩
  · subst same
    have first : (prepared shardCount schemaReady).status ≠ .failed := nofun
    have unfailed : (run schemaReady before).status ≠ .failed :=
      @Guarded.invariant _ _ step NoFailure _ (fun state => state.status ≠ .failed) before
        (fun _ _ sane sound => step_unfailed sane sound) first (guarded_append.mp guarded).1
    exact (run_sound schemaReady before).terminalSafe unfailed
  · have holds := run_sound schemaReady events
    refine ⟨⟨holds.known, fun reported => ?_⟩, holds.first⟩
    rcases holds.stored reported with failed | ⟨shard, storing⟩
    · exact failed
    · refine absurd ?_ (inactive shard)
      generalize ((run schemaReady events).shards shard).point = place at storing
      cases place <;> first | exact storing.elim | trivial

/-- The first of two shards cannot poll its input, and a sweeper comes by. -/
def failedPoll : List (TaskEvent 2) :=
  .replicate 5 (.shard ⟨0, by decide⟩ ⟨.error 5 "", 0, "", false⟩) ++ [.sweepLoad, .sweepRelease]

/-- The task is failed and its leases are released while both shards go on. -/
theorem terminal_safe_fails :
    (run (fun _ => false) failedPoll).status = .failed ∧
    (run (fun _ => false) failedPoll).leasesReleased ∧
    ((run (fun _ => false) failedPoll).shards ⟨0, by decide⟩).point = .finalizing ∧
    ((run (fun _ => false) failedPoll).shards ⟨1, by decide⟩).point = .resting ∧
    ¬ (run (fun _ => false) failedPoll).TerminalSafe := by
  have failed : (run (fun _ => false) failedPoll).status = .failed := by decide
  have resting : ((run (fun _ => false) failedPoll).shards ⟨1, by decide⟩).point = .resting := by
    decide
  refine ⟨failed, by decide, by decide, resting, fun safe => ?_⟩
  refine safe.1 (Or.inr (Or.inr failed)) ⟨1, by decide⟩ ?_
  rw [resting]
  trivial

end TaskState

end Flowsql.Scheduler
