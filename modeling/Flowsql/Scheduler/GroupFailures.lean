import Flowsql.Scheduler.StreamTaskGroup

/-!
# Failures that other threads report to a group

The run loop loads the status of the group and later stores one that depends on it. A
failure that is reported in between is overwritten, one that is reported at any other time
before the end decides how the group ends.
-/

namespace Flowsql.Scheduler

open Flowsql.Library

variable {count : Nat}

/-- The loop has loaded a status that is not failed and will store another one. -/
def LoopPoint.StoresNext : LoopPoint count → Prop
  | .timeoutStoreStatus .. => True
  | .stoppingStore _ => True
  | .runningStore _ => True
  | .finalizeCancelLoad => True
  | .finalizeStore _ => True
  | _ => False

instance : DecidablePred (@LoopPoint.StoresNext count) := fun point => by
  cases point <;> first | exact .isTrue trivial | exact .isFalse id

/-- The loop has stored the status of a timeout and will store its error. -/
def LoopPoint.StoresError : LoopPoint count → Prop
  | .timeoutStoreError .. => True
  | _ => False

namespace GroupState

/-- A failure that is reported now would be overwritten, or would overwrite the end. -/
def Deciding (state : GroupState count) : Prop :=
  state.point.StoresNext ∨ state.point = .finished ∧ state.status ≠ .failed

/-- Failures are reported only when the loop is not deciding. -/
def Undisturbed (state : GroupState count) : GroupEvent → Prop
  | .externalFailure .. => ¬ state.Deciding
  | _ => True

instance (state : GroupState count) : Decidable state.Deciding :=
  inferInstanceAs (Decidable (_ ∨ _))

instance (state : GroupState count) : DecidablePred state.Undisturbed
  | .loop _ => .isTrue trivial
  | .requestStop _ => .isTrue trivial
  | .requestCancel => .isTrue trivial
  | .externalFailure .. => inferInstanceAs (Decidable ¬ state.Deciding)

/-- The first failure is the one that the group shows. -/
structure FailureKept (state : GroupState count) : Prop where
  recorded : ∀ failure, state.history.firstFailure = some failure →
    state.status = .failed ∧ (state.errorMeta = some failure ∨ state.point.StoresError)
  known : state.status = .failed → state.history.firstFailure ≠ none
  storing : ∀ nowMs failure, state.point = .timeoutStoreError nowMs failure →
    state.history.firstFailure = some failure
  undecided : state.point.StoresNext → state.status ≠ .failed
  ending : ∀ status, state.point = .finalizeStore status → status ≠ .failed

variable {plan : GroupPlan count} {state next : GroupState count}

theorem started_failureKept : (started count).FailureKept where
  recorded := nofun
  known := nofun
  storing := nofun
  undecided := nofun
  ending := nofun

namespace FailureKept

/-- Nothing was reported while the status is not failed. -/
theorem unreported (holds : state.FailureKept) (sound : state.status ≠ .failed) :
    state.history.firstFailure = none := by
  cases first : state.history.firstFailure with
  | none => rfl
  | some failure => exact absurd (holds.recorded failure first).1 sound

/-- A step that leaves the status and the error alone. -/
theorem moved (holds : state.FailureKept) (status : next.status = state.status)
    (errorMeta : next.errorMeta = state.errorMeta)
    (first : next.history.firstFailure = state.history.firstFailure)
    (stored : ¬ state.point.StoresError) (settled : ¬ next.point.StoresNext)
    (settledError : ¬ next.point.StoresError) : next.FailureKept where
  recorded := by
    intro failure reported
    rw [first] at reported
    obtain ⟨failed, shown⟩ := holds.recorded failure reported
    exact ⟨status.trans failed, Or.inl (errorMeta.trans (shown.resolve_right stored))⟩
  known := by
    intro failed
    rw [first]
    exact holds.known (status.symm.trans failed)
  storing := fun _ _ same => absurd (by rw [same]; trivial) settledError
  undecided := fun storesNext => absurd storesNext settled
  ending := fun _ same => absurd (by rw [same]; trivial) settled

/-- The loop has seen that the status is not failed. -/
theorem decided (holds : state.FailureKept) (sound : state.status ≠ .failed)
    (status : next.status = state.status)
    (first : next.history.firstFailure = state.history.firstFailure)
    (settledError : ¬ next.point.StoresError)
    (ending : ∀ status, next.point = .finalizeStore status → status ≠ .failed) :
    next.FailureKept where
  recorded := by
    intro failure reported
    rw [first, holds.unreported sound] at reported
    cases reported
  known := fun failed => absurd (status.symm.trans failed) sound
  storing := fun _ _ same => absurd (by rw [same]; trivial) settledError
  undecided := fun _ => status ▸ sound
  ending := ending

/-- A status other than failed is stored. -/
theorem stored (holds : state.FailureKept) (storesNext : state.point.StoresNext)
    (sound : next.status ≠ .failed)
    (first : next.history.firstFailure = state.history.firstFailure)
    (settled : ¬ next.point.StoresNext) (settledError : ¬ next.point.StoresError) :
    next.FailureKept where
  recorded := by
    intro failure reported
    rw [first, holds.unreported (holds.undecided storesNext)] at reported
    cases reported
  known := fun failed => absurd failed sound
  storing := fun _ _ same => absurd (by rw [same]; trivial) settledError
  undecided := fun _ => sound
  ending := fun _ same => absurd (by rw [same]; trivial) settled

/-- A later report changes nothing. -/
theorem reported_eq (holds : state.FailureKept) (failed : state.status = .failed)
    (failure : GroupErrorMeta) : state.reported failure = state := by
  obtain ⟨first, found⟩ := Option.ne_none_iff_exists'.mp (holds.known failed)
  have same : state.history.firstFailure.or (some failure) = state.history.firstFailure := by
    rw [found]
    rfl
  unfold reported
  rw [same]

theorem markGroupFailed (holds : state.FailureKept) (settled : ¬ state.point.StoresNext)
    (failure : GroupErrorMeta) : (state.markGroupFailed failure).FailureKept := by
  unfold GroupState.markGroupFailed
  split
  · next failed =>
      rw [holds.reported_eq failed]
      exact holds
  · next sound =>
      have first := holds.unreported sound
      constructor
      case recorded =>
        intro other told
        refine ⟨rfl, Or.inl ?_⟩
        simp only [reported, first] at told
        exact told
      case known =>
        intro _
        simp only [reported, first]
        nofun
      case storing =>
        intro nowMs other same
        have before := holds.storing nowMs other same
        rw [first] at before
        cases before
      case undecided => exact fun storesNext => absurd storesNext settled
      case ending => exact holds.ending

end FailureKept

@[simp] theorem point_markGroupFailed (state : GroupState count) (failure : GroupErrorMeta) :
    (state.markGroupFailed failure).point = state.point := by
  unfold markGroupFailed
  split <;> rfl

@[simp] theorem point_applySubmit (state : GroupState count) (result : SubmitResult count) :
    (applySubmit plan state result).point = state.point := by
  simp only [applySubmit]
  split
  · split
    · split
      · exact point_markGroupFailed _ _
      · rfl
    · rfl
  · rfl

theorem FailureKept.applySubmit (holds : state.FailureKept) (settled : ¬ state.point.StoresNext)
    (settledError : ¬ state.point.StoresError) (result : SubmitResult count) :
    (applySubmit plan state result).FailureKept := by
  have moved : ∀ nodes, (state.withNodes nodes).FailureKept := fun nodes =>
    holds.moved rfl rfl rfl settledError settled settledError
  have marked : ∀ nodes,
      ((state.withNodes nodes).markGroupFailed (submitFailure plan result)).FailureKept :=
    fun nodes => (moved nodes).markGroupFailed settled _
  simp only [GroupState.applySubmit]
  split
  · split
    · split
      · exact marked _
      · exact moved _
    · exact moved _
  · exact holds

theorem FailureKept.applySubmits (holds : state.FailureKept)
    (settled : ¬ state.point.StoresNext) (settledError : ¬ state.point.StoresError)
    (results : List (SubmitResult count)) :
    (results.foldl (GroupState.applySubmit plan) state).FailureKept ∧
      (results.foldl (GroupState.applySubmit plan) state).point = state.point := by
  induction results generalizing state with
  | nil => exact ⟨holds, rfl⟩
  | cons first rest ih =>
      have same := @point_applySubmit _ plan state first
      obtain ⟨kept, point⟩ := ih (holds.applySubmit settled settledError first) (same ▸ settled)
        (same ▸ settledError)
      exact ⟨kept, point.trans same⟩

/-- The failure of the first failed node is reported under the lock. -/
theorem FailureKept.failureScan {nowMs : Int} (holds : state.FailureKept)
    (point : state.point = .failureScan nowMs) (answer : LoopAnswer) :
    (loopStep plan state answer).FailureKept := by
  have settled : ¬ state.point.StoresNext := by rw [point]; exact id
  have settledError : ¬ state.point.StoresError := by rw [point]; exact id
  simp only [loopStep, point]
  split
  · refine (holds.markGroupFailed settled _).moved rfl rfl rfl ?_ id id
    rw [point_markGroupFailed]
    exact settledError
  · split
    · exact holds.moved rfl rfl rfl settledError id id
    · exact holds.moved rfl rfl rfl settledError id id

/-- A timeout is stored in three steps, the first of which nobody came before. -/
theorem FailureKept.timeoutStoreStatus {nowMs : Int} {failure : GroupErrorMeta}
    (holds : state.FailureKept) (point : state.point = .timeoutStoreStatus nowMs failure)
    (answer : LoopAnswer) : (loopStep plan state answer).FailureKept := by
  have storesNext : state.point.StoresNext := by rw [point]; trivial
  have first := holds.unreported (holds.undecided storesNext)
  simp only [loopStep, point]
  constructor
  case recorded => exact fun _ _ => ⟨rfl, Or.inr trivial⟩
  case known =>
    intro _
    simp only [withPoint, reported, first]
    nofun
  case storing =>
    intro other told same
    cases same
    simp only [withPoint, reported, first]
    rfl
  case undecided => exact fun storesAgain => absurd storesAgain id
  case ending => exact nofun

theorem FailureKept.timeoutStoreError {nowMs : Int} {failure : GroupErrorMeta}
    (holds : state.FailureKept) (point : state.point = .timeoutStoreError nowMs failure)
    (answer : LoopAnswer) : (loopStep plan state answer).FailureKept := by
  have first := holds.storing nowMs failure point
  simp only [loopStep, point]
  constructor
  case recorded =>
    intro other told
    refine ⟨(holds.recorded other told).1, Or.inl ?_⟩
    exact first.symm.trans told
  case known => exact holds.known
  case storing => exact nofun
  case undecided => exact fun storesNext => absurd storesNext id
  case ending => exact nofun

/-- Every step of the loop keeps the first failure. -/
theorem FailureKept.loopStep (holds : state.FailureKept) (answer : LoopAnswer) :
    (loopStep plan state answer).FailureKept := by
  cases point : state.point with
  | failureScan nowMs => exact holds.failureScan point answer
  | timeoutStoreStatus nowMs failure => exact holds.timeoutStoreStatus point answer
  | timeoutStoreError nowMs failure => exact holds.timeoutStoreError point answer
  | timeoutLoad nowMs failure =>
      simp only [GroupState.loopStep, point]
      split
      · next failed =>
          rw [holds.reported_eq failed]
          exact holds.moved rfl rfl rfl (by rw [point]; exact id) id id
      · next sound => exact holds.decided sound rfl rfl id nofun
  | refreshQuery nowMs actions results =>
      cases actions <;> simp only [GroupState.loopStep, point] <;>
        exact holds.moved rfl rfl rfl (by rw [point]; exact id) id id
  | stopCall nowMs actions called =>
      cases actions <;> simp only [GroupState.loopStep, point] <;>
        exact holds.moved rfl rfl rfl (by rw [point]; exact id) id id
  | stopSelect nowMs =>
      simp only [GroupState.loopStep, point, stopSection]
      refine holds.moved rfl rfl rfl (by rw [point]; exact id) ?_ ?_ <;>
        simp only <;> split <;> exact id
  | stoppingLoad nowMs =>
      simp only [GroupState.loopStep, point]
      split
      · exact holds.moved rfl rfl rfl (by rw [point]; exact id) id id
      · next sound => exact holds.decided sound rfl rfl id nofun
  | stoppingStore nowMs =>
      simp only [GroupState.loopStep, point]
      exact holds.stored (by rw [point]; trivial) nofun rfl id id
  | preparingLoad nowMs =>
      simp only [GroupState.loopStep, point]
      split
      · next preparing =>
          exact holds.decided (by rw [preparing]; nofun) rfl rfl id nofun
      · exact holds.moved rfl rfl rfl (by rw [point]; exact id) id id
  | runningStore nowMs =>
      simp only [GroupState.loopStep, point]
      exact holds.stored (by rw [point]; trivial) nofun rfl id id
  | submitCall nowMs actions results =>
      have settled : ¬ state.point.StoresNext := by rw [point]; exact id
      have settledError : ¬ state.point.StoresError := by rw [point]; exact id
      cases actions with
      | nil =>
          simp only [GroupState.loopStep, point]
          obtain ⟨kept, same⟩ := @FailureKept.applySubmits _ plan _ holds settled settledError results
          exact kept.moved rfl rfl rfl (by rw [same]; exact settledError) id id
      | cons action rest =>
          simp only [GroupState.loopStep, point]
          exact holds.moved rfl rfl rfl settledError id id
  | finalizeLoad =>
      simp only [GroupState.loopStep, point]
      split
      · next failed => exact holds.moved failed.symm rfl rfl (by rw [point]; exact id) id id
      · next sound => exact holds.decided sound rfl rfl id nofun
  | finalizeCancelLoad =>
      simp only [GroupState.loopStep, point]
      refine holds.decided (holds.undecided (by rw [point]; trivial)) rfl rfl id ?_
      intro status same
      cases same
      split <;> nofun
  | finalizeStore status =>
      simp only [GroupState.loopStep, point]
      exact holds.stored (by rw [point]; trivial) (holds.ending status point) rfl id id
  | finished =>
      simp only [GroupState.loopStep, point]
      exact holds
  | top | timeoutScan nowMs | timeoutStoreStop nowMs | preStopCall nowMs actions =>
      simp only [GroupState.loopStep, point]
      exact holds.moved rfl rfl rfl (by rw [point]; exact id) id id
  | refreshSelect nowMs | failureLoad nowMs | stopLoad nowMs | submitLoad nowMs
  | submitLoadAgain nowMs | submitSelect nowMs | terminalCheck =>
      -- a choice between two points at which nothing is stored
      simp only [GroupState.loopStep, point]
      refine holds.moved rfl rfl rfl (by rw [point]; exact id) ?_ ?_ <;>
        simp only [withPoint] <;> split <;> exact id

/-! ## Other threads -/

theorem FailureKept.markExternalFailed (holds : state.FailureKept) (undecided : ¬ state.Deciding)
    (failure : GroupErrorMeta) : (state.markExternalFailed failure).FailureKept := by
  have settled : ¬ state.point.StoresNext := fun storesNext => undecided (Or.inl storesNext)
  unfold GroupState.markExternalFailed
  split
  · next finished =>
      have failed : state.status = .failed := by
        by_contra sound
        exact undecided (Or.inr ⟨finished, sound⟩)
      have same : state.markGroupFailed failure = state := by
        rw [GroupState.markGroupFailed, if_pos failed, holds.reported_eq failed]
      rw [same]
      exact holds
  · exact holds.markGroupFailed settled failure

theorem FailureKept.step (holds : state.FailureKept) {event : GroupEvent}
    (undisturbed : state.Undisturbed event) : (state.step plan event).FailureKept := by
  cases event with
  | loop answer => exact holds.loopStep answer
  | requestStop cancelled =>
      exact ⟨holds.recorded, holds.known, holds.storing, holds.undecided, holds.ending⟩
  | requestCancel =>
      simp only [GroupState.step]
      split
      · exact holds
      · exact ⟨holds.recorded, holds.known, holds.storing, holds.undecided, holds.ending⟩
  | externalFailure code message errorCode =>
      exact holds.markExternalFailed undisturbed _

/-- Nothing but a failure from outside changes the status of a finished group. -/
theorem step_finished (finished : state.point = .finished) {event : GroupEvent}
    (undisturbed : state.Undisturbed event) (ended : state.status ≠ .failed) :
    (state.step plan event).point = .finished ∧
      (state.step plan event).status = state.status := by
  cases event with
  | loop answer =>
      have same : state.step plan (.loop answer) = state := by
        simp only [GroupState.step, GroupState.loopStep, finished]
      rw [same]
      exact ⟨finished, rfl⟩
  | requestStop cancelled => exact ⟨finished, rfl⟩
  | requestCancel =>
      simp only [GroupState.step]
      split <;> exact ⟨finished, rfl⟩
  | externalFailure code message errorCode =>
      exact absurd (Or.inr ⟨finished, ended⟩) undisturbed

theorem run_finished {later : List GroupEvent} (finished : state.point = .finished)
    (ended : state.status ≠ .failed)
    (undisturbed : Guarded (GroupState.step plan) Undisturbed state later) :
    (later.foldl (GroupState.step plan) state).status = state.status := by
  induction later generalizing state with
  | nil => rfl
  | cons event rest ih =>
      obtain ⟨stays, same⟩ := @step_finished _ plan state finished event undisturbed.1 ended
      exact (ih stays (same ▸ ended) undisturbed.2).trans same

/-- In every run whose failures from outside all come while the loop is not deciding, a group
with a failure ends failed with the first one's error, and a group that was finalised as
stopped or cancelled stays so. -/
theorem external_failures_kept (plan : GroupPlan count) (events later : List GroupEvent)
    (undisturbed : Guarded (GroupState.step plan) Undisturbed (started count) (events ++ later))
    (finished : (run plan events).point = .finished) :
    (∀ failure, (run plan events).history.firstFailure = some failure →
      (run plan events).status = .failed ∧ (run plan events).errorMeta = some failure) ∧
    ((run plan events).status = .stopped ∨ (run plan events).status = .cancelled →
      (run plan (events ++ later)).status = (run plan events).status) := by
  obtain ⟨before, after⟩ := guarded_append.mp undisturbed
  have holds : (run plan events).FailureKept :=
    before.invariant (fun _ _ kept => kept.step) started_failureKept
  constructor
  · intro failure first
    obtain ⟨failed, shown⟩ := holds.recorded failure first
    refine ⟨failed, shown.resolve_right ?_⟩
    rw [finished]
    exact id
  · intro ended
    have sound : (run plan events).status ≠ .failed := by
      rcases ended with stopped | cancelled
      · rw [stopped]
        nofun
      · rw [cancelled]
        nofun
    rw [run, List.foldl_append]
    exact run_finished finished sound after

/-- One node, which the answers submit and then find stopped. -/
def oneNodePlan : GroupPlan 1 := ⟨fun _ => ⟨"node", "select", [], .onRunning⟩, 0, 1, false⟩

def stoppedAnswer : LoopAnswer := ⟨1, 0, ⟨.stopped, 0, "", ""⟩, "task", ""⟩

/-- A failure that is reported while the loop finalises the group, and one that is reported
after it. -/
theorem external_failures_kept_fails :
    ((run oneNodePlan (.replicate 26 (.loop stoppedAnswer) ++
        .externalFailure 110 "timeout" "" :: .replicate 2 (.loop stoppedAnswer))).point = .finished ∧
      (run oneNodePlan (.replicate 26 (.loop stoppedAnswer) ++
        .externalFailure 110 "timeout" "" :: .replicate 2 (.loop stoppedAnswer))).history.firstFailure =
          some ⟨110, "STREAM_GROUP_EXTERNAL_FAILED", "timeout"⟩ ∧
      (run oneNodePlan (.replicate 26 (.loop stoppedAnswer) ++
        .externalFailure 110 "timeout" "" :: .replicate 2 (.loop stoppedAnswer))).status = .stopped) ∧
    ((run oneNodePlan (.replicate 28 (.loop stoppedAnswer))).point = .finished ∧
      (run oneNodePlan (.replicate 28 (.loop stoppedAnswer))).status = .stopped ∧
      (run oneNodePlan (.replicate 28 (.loop stoppedAnswer) ++
        [.externalFailure 110 "timeout" ""])).status = .failed) := by
  decide

/-- The same failure while the node runs ends the group. -/
theorem external_failures_kept_running :
    (run oneNodePlan (.replicate 13 (.loop stoppedAnswer) ++
        .externalFailure 110 "timeout" "" :: .replicate 20 (.loop stoppedAnswer))).status = .failed ∧
      (run oneNodePlan (.replicate 13 (.loop stoppedAnswer) ++
        .externalFailure 110 "timeout" "" :: .replicate 20 (.loop stoppedAnswer))).errorMeta =
          some ⟨110, "STREAM_GROUP_EXTERNAL_FAILED", "timeout"⟩ :=
  (external_failures_kept oneNodePlan _ [] (by decide) (by decide)).1 _ (by decide)

end GroupState

end Flowsql.Scheduler
