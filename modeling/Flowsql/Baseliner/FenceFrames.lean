import Flowsql.Baseliner.FenceRuns

/-!
# What the writer fence keeps

A step of one writer leaves the other writers, the publications and the configuration of the row as
they are. A writer that has not failed has done what its call says.
-/

namespace Flowsql.Baseliner

namespace FenceSystem

open WriterFence

variable {system after : FenceSystem} {writer : Nat}

/-- A step of a writer between publications. -/
structure Keeps (writer : Nat) (before after : FenceSystem) : Prop where
  others : ∀ other, other ≠ writer → after.writers other = before.writers other
  publications : after.publications = before.publications
  idle : before.transaction = none → after.transaction = none
  configHash : ∀ row, before.row = some row → ∃ later, after.row = some later ∧
    later.configHash = row.configHash

theorem Keeps.refl (writer : Nat) (system : FenceSystem) : Keeps writer system system :=
  ⟨fun _ _ => rfl, rfl, id, fun row is => ⟨row, is, rfl⟩⟩

theorem Keeps.trans {first second third : FenceSystem} (before : Keeps writer first second)
    (after : Keeps writer second third) : Keeps writer first third where
  others := fun other apart => (after.others other apart).trans (before.others other apart)
  publications := after.publications.trans before.publications
  idle := fun idle => after.idle (before.idle idle)
  configHash := by
    intro row is
    obtain ⟨middle, isMiddle, same⟩ := before.configHash row is
    obtain ⟨later, isLater, same_⟩ := after.configHash middle isMiddle
    exact ⟨later, isLater, same_.trans same⟩

theorem setWriter_keeps (fence : WriterFence) :
    Keeps writer system (system.setWriter writer fence) where
  others := fun _ apart => Function.update_of_ne apart _ _
  publications := rfl
  idle := id
  configHash := fun row is => ⟨row, is, rfl⟩

theorem failWriter_keeps (error : String) : Keeps writer system (system.failWriter writer error) :=
  setWriter_keeps _

/-- The row is written for the same configuration. -/
theorem rewrite_keeps {row : FenceRow} (acquisitions : List (Nat × Int))
    (same : ∀ found, system.row = some found → row.configHash = found.configHash) :
    Keeps writer system { system with row := some row, acquisitions := acquisitions } where
  others := fun _ _ => rfl
  publications := rfl
  idle := id
  configHash := fun found is => ⟨row, rfl, same found is⟩

theorem acquireRow_configHash {owner fingerprint : String} {leaseMs now : Int}
    {found : Option FenceRow} {row : FenceRow}
    (taken : acquireRow owner fingerprint leaseMs now found = some row) :
    row.configHash = fingerprint ∧
      ∀ held, found = some held → row.configHash = held.configHash := by
  cases found with
  | none =>
      cases taken
      exact ⟨rfl, nofun⟩
  | some held =>
      simp only [acquireRow] at taken
      split at taken
      next same =>
        cases taken
        refine ⟨same.1, ?_⟩
        rintro _ ⟨⟩
        rfl
      next => cases taken

theorem takeRow_keeps (fingerprint : String) (fate : TransactionFate) :
    Keeps writer system (system.takeRow writer fingerprint fate) := by
  unfold takeRow
  simp only
  cases fate with
  | failed message => exact failWriter_keeps message
  | finished outcome message =>
      simp only
      split
      · exact failWriter_keeps _
      split
      · exact failWriter_keeps _
      split
      · exact failWriter_keeps _
      next row taken =>
        have taken_ : Keeps writer system (if outcome.applies = true then
            { system with
              row := some row
              acquisitions := system.acquisitions ++ [(writer, row.writerEpoch)] }
            else system) := by
          split
          · exact rewrite_keeps _ (acquireRow_configHash taken).2
          · exact .refl writer system
        exact taken_.trans (setWriter_keeps _)

theorem acquire_keeps (owner fingerprint : String) (leaseMs : Int) (table fate : TransactionFate) :
    Keeps writer system (system.acquire writer owner fingerprint leaseMs table fate) := by
  unfold acquire
  simp only
  split
  · exact failWriter_keeps _
  cases table with
  | failed message => exact (setWriter_keeps _).trans (failWriter_keeps message)
  | finished outcome message =>
      simp only
      split
      · exact (setWriter_keeps _).trans (takeRow_keeps fingerprint fate)
      · exact (setWriter_keeps _).trans (failWriter_keeps message)

theorem changeRow_configHash {fence : WriterFence} {publish : Bool} {now : Int} {row : FenceRow}
    {found : Option FenceRow} (changed : fence.changeRow publish now found = some row) :
    ∀ held, found = some held → row.configHash = held.configHash := by
  cases found with
  | none => cases changed
  | some held =>
      simp only [changeRow] at changed
      split at changed
      next =>
        cases changed
        rintro _ ⟨⟩
        rfl
      next => cases changed

theorem renew_keeps (fate : TransactionFate) : Keeps writer system (system.renew writer fate) := by
  unfold renew
  split
  · exact failWriter_keeps _
  · exact failWriter_keeps _
  next outcome message _ =>
    split
    · exact failWriter_keeps _
    next row changed =>
      have renewed : Keeps writer system
          (if outcome.applies = true then { system with row := some row } else system) := by
        split
        · exact rewrite_keeps _ (changeRow_configHash changed)
        · exact .refl writer system
      simp only
      split
      · exact renewed
      · exact renewed.trans (failWriter_keeps message)

theorem rollback_keeps : Keeps writer system (system.rollback writer) := by
  unfold rollback
  split
  · split
    · exact ⟨fun _ _ => rfl, rfl, fun _ => rfl, fun row is => ⟨row, is, rfl⟩⟩
    · exact .refl writer system
  · exact .refl writer system

theorem releaseRow_configHash (fence : WriterFence) {found : Option FenceRow} {held : FenceRow}
    (is : found = some held) :
    ∃ row, fence.releaseRow found = some row ∧ row.configHash = held.configHash := by
  cases is
  simp only [releaseRow]
  split
  · exact ⟨_, rfl, rfl⟩
  · exact ⟨held, rfl, rfl⟩

theorem release_keeps (fate : TransactionFate) :
    Keeps writer system (system.release writer fate) := by
  unfold release
  simp only
  split
  · exact .refl writer system
  have rolled : Keeps writer system (system.rollback writer) := rollback_keeps
  have others : ∀ other, other ≠ writer → Function.update (system.rollback writer).writers writer
      { system.writers writer with bound := false } other = system.writers other :=
    fun other apart => (Function.update_of_ne apart _ _).trans (rolled.others other apart)
  cases fate with
  | failed message =>
      exact ⟨others, rolled.publications, rolled.idle, rolled.configHash⟩
  | finished outcome message =>
      simp only
      split
      · refine ⟨others, rolled.publications, rolled.idle, fun row is => ?_⟩
        obtain ⟨later, isLater, same⟩ := rolled.configHash row is
        obtain ⟨released, isReleased, same_⟩ :=
          releaseRow_configHash (system.writers writer) isLater
        exact ⟨released, isReleased, same_.trans same⟩
      · exact ⟨others, rolled.publications, rolled.idle, rolled.configHash⟩

/-- A writer that has acquired the row holds the newest epoch. -/
theorem takeRow_live {fingerprint : String} {fate : TransactionFate}
    (live : ((system.takeRow writer fingerprint fate).writers writer).isFailed = false) :
    ∃ row, (system.takeRow writer fingerprint fate).row = some row ∧ row.configHash = fingerprint ∧
      ((system.takeRow writer fingerprint fate).writers writer) =
        { system.writers writer with
          epoch := row.writerEpoch, generation := row.currentGeneration } := by
  have failed : ∀ error, ((system.failWriter writer error).writers writer).isFailed = true := by
    intro error
    simp [failWriter, FenceSystem.setWriter, fail]
  unfold takeRow at live ⊢
  simp only at live ⊢
  cases fate with
  | failed message => exact absurd (live.symm.trans (failed message)) Bool.false_ne_true
  | finished outcome message =>
      simp only at live ⊢
      split at live
      · exact absurd (live.symm.trans (failed _)) Bool.false_ne_true
      next unlocked =>
        rw [if_neg unlocked]
        split at live
        · exact absurd (live.symm.trans (failed _)) Bool.false_ne_true
        next clock =>
          rw [if_neg clock]
          split at live
          · exact absurd (live.symm.trans (failed _)) Bool.false_ne_true
          next row taken =>
            have ok : outcome.ok = true := by
              by_contra refused
              simp [refused, FenceSystem.setWriter, fail] at live
            have applies : outcome.applies = true := by
              cases outcome <;> first | rfl | cases ok
            refine ⟨row, ?_, (acquireRow_configHash taken).1, ?_⟩
            · simp [applies, FenceSystem.setWriter]
            · simp [ok, FenceSystem.setWriter]

theorem acquire_live {owner fingerprint : String} {leaseMs : Int} {table fate : TransactionFate}
    (live : ((system.acquire writer owner fingerprint leaseMs table fate).writers writer).isFailed =
      false) :
    ∃ row, (system.acquire writer owner fingerprint leaseMs table fate).row = some row ∧
      row.configHash = fingerprint ∧
      (system.acquire writer owner fingerprint leaseMs table fate).writers writer =
        { system.writers writer with
          bound := true, owner := owner, leaseMs := leaseMs
          epoch := row.writerEpoch, generation := row.currentGeneration } := by
  have failed : ∀ (before : FenceSystem) (error : String),
      ((before.failWriter writer error).writers writer).isFailed = true := by
    intro before error
    simp [failWriter, FenceSystem.setWriter, fail]
  unfold acquire at live ⊢
  simp only at live ⊢
  split at live
  · exact absurd (live.symm.trans (failed _ _)) Bool.false_ne_true
  next free =>
    rw [if_neg free]
    cases table with
    | failed message => exact absurd (live.symm.trans (failed _ _)) Bool.false_ne_true
    | finished outcome message =>
        simp only at live ⊢
        split at live
        next ok =>
          rw [if_pos ok]
          obtain ⟨row, is, same, now⟩ := takeRow_live live
          refine ⟨row, is, same, now.trans ?_⟩
          simp [FenceSystem.setWriter]
        next => exact absurd (live.symm.trans (failed _ _)) Bool.false_ne_true

/-- A writer that has staged holds the open transaction. -/
theorem stage_live {failure : Option String}
    (live : ((system.stage writer failure).writers writer).isFailed = false) :
    ∃ found staged, system.row = some found ∧ staged.row.configHash = found.configHash ∧
      staged.publication.writer = writer ∧ (system.writers writer).bound = true ∧
      system.stage writer failure =
        { system.setWriter writer { system.writers writer with staged := true } with
          transaction := some staged } := by
  have failed : ∀ error, ((system.failWriter writer error).writers writer).isFailed = true := by
    intro error
    simp [failWriter, FenceSystem.setWriter, fail]
  unfold stage at live ⊢
  split at live
  · exact absurd (live.symm.trans (failed _)) Bool.false_ne_true
  · exact absurd (live.symm.trans (failed _)) Bool.false_ne_true
  next accepted =>
    split at live
    next found row is changed =>
      simp only [is]
      exact ⟨found, _, rfl, changeRow_configHash changed found is, rfl,
        (refusal_none accepted).1, rfl⟩
    next => exact absurd (live.symm.trans (failed _)) Bool.false_ne_true

theorem stage_failed {failure : Option String}
    (failed : ((system.stage writer failure).writers writer).isFailed = true) :
    Keeps writer system (system.stage writer failure) := by
  unfold stage at failed ⊢
  split at failed
  · exact failWriter_keeps _
  · exact failWriter_keeps _
  next accepted =>
    split at failed
    next =>
      have live := (refusal_none accepted).2.1
      simp [FenceSystem.setWriter, live] at failed
    next => exact failWriter_keeps _

theorem renew_live {fate : TransactionFate}
    (live : ((system.renew writer fate).writers writer).isFailed = false) :
    (system.renew writer fate).writers writer = system.writers writer := by
  have failed : ∀ (before : FenceSystem) (error : String),
      ((before.failWriter writer error).writers writer).isFailed = true := by
    intro before error
    simp [failWriter, FenceSystem.setWriter, fail]
  unfold renew at live ⊢
  split at live
  · exact absurd (live.symm.trans (failed _ _)) Bool.false_ne_true
  · exact absurd (live.symm.trans (failed _ _)) Bool.false_ne_true
  next outcome message _ =>
    split at live
    · exact absurd (live.symm.trans (failed _ _)) Bool.false_ne_true
    next row changed =>
      simp only at live ⊢
      split at live
      next ok =>
        rw [if_pos ok]
        split <;> rfl
      next => exact absurd (live.symm.trans (failed _ _)) Bool.false_ne_true

theorem release_writer (fate : TransactionFate) :
    (system.release writer fate).writers writer =
      { system.writers writer with bound := false } := by
  unfold release
  simp only
  split
  next unbound =>
    have unbound_ : (system.writers writer).bound = false := Bool.not_eq_true _ ▸ unbound
    rw [← unbound_]
  next => cases fate <;> simp [FenceSystem.setWriter]

/-- The transaction of a writer is committed, and the writer confirms it. -/
theorem commit_confirm {staged : StagedRow} (opened : system.transaction = some staged)
    (own : staged.publication.writer = writer) (outcome : CommitOutcome) (message : String) :
    (system.commit writer outcome message).confirm writer =
      { system with
        row := if outcome.applies then some staged.row else system.row
        publications :=
          if outcome.applies then system.publications ++ [staged.publication]
          else system.publications
        transaction := none
        writers := Function.update system.writers writer
          ((system.writers writer).confirm outcome message).2
        commitResults := Function.update system.commitResults writer none } := by
  cases applies : outcome.applies <;>
    simp [commit, opened, own, applies, confirm, FenceSystem.setWriter]

end FenceSystem

end Flowsql.Baseliner
