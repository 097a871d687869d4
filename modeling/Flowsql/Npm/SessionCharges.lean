import Flowsql.Npm.SessionCalls
import Flowsql.Npm.SnapshotLeases

/-!
# What a packet is charged for

`Observe` charges a snapshot batch for what the batch takes, whether it accepts the
packet or not. A packet that it rejects leaves no charge in a batch that was empty.
-/

namespace Flowsql.Npm

namespace TableState

/-- The input batches are charged for what the batch of the call has taken or given back. -/
abbrev Settles (sizes : TableSizes) (before after : TableState) : Prop :=
  SnapshotBatch.Settles sizes.snapshots before.ended before.budget after.ended after.budget

variable {sizes : TableSizes} {allocations : ObserveAllocations} {key : SessionKey}
  {binding : PacketBinding} {meta_ : PacketMeta} {label : UInt32}
  {before state after : TableState} {old session : SessionState} {endedBegin : Nat}
  {existing : Option SessionState} {reserved : Option Nat} {done : Bool}
  {result : Except TableError ObserveResult}

/-- The batch of a state is charged. -/
structure Charged (sizes : TableSizes) (state : TableState) : Prop where
  leased : state.ended.Leased sizes.snapshots
  covered : state.ended.leaseBytes ≤ state.budget.used .inputBatch

theorem Settles.charged (settles : before.Settles sizes after) (charged : before.Charged sizes) :
    after.Charged sizes :=
  ⟨settles.leased, settles.covered charged.covered⟩

/-- The batch is the same, and so is its charge. -/
theorem settles_of_same (charged : before.Charged sizes) (ended : after.ended = before.ended)
    (used : after.budget.used .inputBatch = before.budget.used .inputBatch) :
    before.Settles sizes after :=
  ⟨ended ▸ charged.leased, by rw [used, ended]⟩

theorem stageSnapshot_settles {append : AppendAllocations} {reason : SessionEndReason}
    {observedAtNs : Int} (charged : state.Charged sizes)
    (staged : state.stageSnapshot sizes append key session reason observedAtNs = (done, after)) :
    state.Settles sizes after := by
  unfold stageSnapshot at staged
  split at staged
  · next ended budget prepared =>
      have prepares := (SnapshotBatch.prepare_settles charged.leased charged.covered prepared).1
      unfold appendSnapshot at staged
      generalize outcome : ended.append _ _ _ _ _ _ _ = result at staged
      obtain ⟨ok, appended, more⟩ := result
      cases staged
      exact prepares.trans
        (SnapshotBatch.append_settles prepares.leased (prepares.covered charged.covered) outcome)
  · next ended budget prepared =>
      cases staged
      exact (SnapshotBatch.prepare_settles charged.leased charged.covered prepared).1

theorem releaseSession_same (bytes : Nat) (state : TableState) :
    (state.releaseSession bytes).ended = state.ended ∧
      (state.releaseSession bytes).budget.used .inputBatch = state.budget.used .inputBatch := by
  unfold releaseSession
  split
  · exact ⟨rfl, rfl⟩
  · have changes := @TaskBudget.onlyChanges_release state.budget .sessionState bytes
    split
    · next budget released =>
        rw [released] at changes
        exact ⟨rfl, changes.used_ne (by decide)⟩
    · next error budget _ refused =>
        rw [refused] at changes
        exact ⟨rfl, changes.used_ne (by decide)⟩

theorem reserveSession_same {bytes : Nat} (outcome : state.reserveSession bytes = (done, after)) :
    after.ended = state.ended ∧
      after.budget.used .inputBatch = state.budget.used .inputBatch := by
  cases done with
  | true =>
      rw [reserveSession_ok outcome]
      exact ⟨rfl, TaskBudget.used_withUsed_ne (by decide)⟩
  | false =>
      rw [reserveSession_refused outcome]
      exact ⟨rfl, rfl⟩

theorem truncate_settles (charged : state.Charged sizes) (rows : Nat) :
    state.Settles sizes (state.truncate rows) ∧ (rows = 0 → (state.truncate rows).ended = {}) := by
  unfold truncate
  generalize outcome : state.ended.truncate rows state.budget = truncated
  obtain ⟨ended, budget⟩ := truncated
  refine ⟨SnapshotBatch.truncate_settles charged.leased charged.covered outcome, fun none_ => ?_⟩
  subst none_
  exact (congrArg Prod.fst outcome).symm

theorem abandon_settles (charged : state.Charged sizes)
    (abandoned : state.abandon reserved endedBegin = (result, after)) :
    state.Settles sizes after ∧ (endedBegin = 0 → after.ended = {}) := by
  cases reserved with
  | none =>
      cases abandoned
      exact truncate_settles charged endedBegin
  | some charge =>
      obtain ⟨ended, used⟩ := releaseSession_same charge state
      have releases := settles_of_same charged ended used
      obtain ⟨truncates, empty⟩ := truncate_settles (releases.charged charged) endedBegin
      cases abandoned
      exact ⟨releases.trans truncates, empty⟩

/-- What a call does to the batch: it settles, and an error leaves nothing in a batch that
had no rows. -/
structure Outcome (sizes : TableSizes) (before : TableState)
    (result : Except TableError ObserveResult) (endedBegin : Nat) (after : TableState) : Prop where
  settles : before.Settles sizes after
  rejected : ∀ error, result = .error error → endedBegin = 0 → after.ended = {}

theorem outcome_abandon (settles : before.Settles sizes state) (charged : before.Charged sizes)
    (abandoned : state.abandon reserved endedBegin = (result, after)) :
    before.Outcome sizes result endedBegin after := by
  obtain ⟨abandons, empty⟩ := abandon_settles (settles.charged charged) abandoned
  exact ⟨settles.trans abandons, fun _ _ none_ => empty none_⟩

theorem commitStart_outcome (charged : state.Charged sizes)
    (outcome : state.commitStart sizes allocations key binding meta_ existing session endedBegin =
      (result, after)) : state.Outcome sizes result endedBegin after := by
  unfold commitStart at outcome
  simp only at outcome
  split at outcome
  · split at outcome
    · next staged ok =>
        have stages := stageSnapshot_settles charged ok
        refine ⟨?_, fun error failed => ?_⟩
        · cases existing with
          | none | some =>
              cases outcome
              exact stages.trans (settles_of_same (stages.charged charged)
                (releaseSession_same _ _).1 (releaseSession_same _ _).2)
        · exact nomatch (congrArg Prod.fst outcome).trans failed
    · next staged failed =>
        exact outcome_abandon (stageSnapshot_settles charged failed) charged outcome
  · split at outcome
    · next table ok =>
        cases outcome
        exact ⟨settles_of_same charged rfl rfl, nofun⟩
    · next table failed =>
        exact outcome_abandon
          (@settles_of_same sizes state { state with table := table } charged rfl rfl) charged outcome

/-- `Observe` settles, and an error leaves an empty batch as it was or without storage. -/
theorem observe_outcome (charged : before.Charged sizes)
    (outcome : before.observe sizes allocations binding meta_ label = (result, after)) :
    before.Settles sizes after ∧ ∀ error, result = .error error →
      before.ended.rows.length = 0 → after.ended = before.ended ∨ after.ended = {} := by
  have same : before.Settles sizes before ∧ ∀ error, result = .error error →
      before.ended.rows.length = 0 → before.ended = before.ended ∨ before.ended = {} :=
    ⟨.refl charged.leased, fun _ _ _ => .inl rfl⟩
  have done : before.Outcome sizes result before.ended.rows.length after →
      before.Settles sizes after ∧ ∀ error, result = .error error →
        before.ended.rows.length = 0 → after.ended = before.ended ∨ after.ended = {} :=
    fun outcome => ⟨outcome.settles, fun error failed none_ =>
      .inr (outcome.rejected error failed none_)⟩
  unfold observe at outcome
  split at outcome
  · cases outcome
    exact same
  split at outcome
  · cases outcome
    exact same
  split at outcome
  · unfold observeNew at outcome
    split at outcome
    · cases outcome
      exact same
    split at outcome
    · cases outcome
      exact same
    simp only at outcome
    split at outcome
    · next reserved ok =>
        obtain ⟨ended, used⟩ := reserveSession_same ok
        have reserves := settles_of_same charged ended used
        have commits := commitStart_outcome (reserves.charged charged) outcome
        exact done ⟨reserves.trans commits.settles, commits.rejected⟩
    · next refused failed =>
        rw [reserveSession_refused failed] at outcome
        cases outcome
        exact same
  split at outcome
  · unfold observeReused at outcome
    split at outcome
    · cases outcome
      exact same
    split at outcome
    · next staged ok =>
        have stages := stageSnapshot_settles charged ok
        have commits := commitStart_outcome (stages.charged charged) outcome
        exact done ⟨stages.trans commits.settles, commits.rejected⟩
    · next staged failed =>
        exact done (outcome_abandon (stageSnapshot_settles charged failed) charged outcome)
  · unfold observeExisting at outcome
    simp only at outcome
    split at outcome
    · split at outcome
      · next staged ok =>
          have stages := stageSnapshot_settles charged ok
          cases outcome
          exact done ⟨stages.trans (settles_of_same (stages.charged charged)
            (releaseSession_same _ _).1 (releaseSession_same _ _).2), nofun⟩
      · next staged failed =>
          exact done (outcome_abandon (stageSnapshot_settles charged failed) charged outcome)
    · cases outcome
      exact done ⟨settles_of_same charged rfl rfl, nofun⟩

end TableState

end Flowsql.Npm
