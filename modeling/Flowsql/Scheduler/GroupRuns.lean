import Flowsql.Scheduler.GroupFailures
import Flowsql.Scheduler.GroupNodes

/-!
# Runs of a group

What a group did when its run loop ends: which nodes it submitted and stopped, and how the
group ends.
-/

namespace Flowsql.Scheduler

open Flowsql.Library

variable {count : Nat} {plan : GroupPlan count}

namespace LoopPoint

/-- Submissions that are chosen and not made. -/
def submits : LoopPoint count → List (SubmitAction count)
  | .submitCall _ actions _ => actions
  | _ => []

def submitResults : LoopPoint count → List (SubmitResult count)
  | .submitCall _ _ results => results
  | _ => []

/-- Stop calls that are chosen and not made. -/
def stops : LoopPoint count → List (StopAction count)
  | .preStopCall _ actions => actions
  | .stopCall _ actions _ => actions
  | _ => []

/-- A node may have failed that the loop has not looked at. -/
def Scans : LoopPoint count → Prop
  | .refreshQuery .. => True
  | .failureLoad _ => True
  | .failureScan _ => True
  | _ => False

/-- A timeout was seen that is not stored. -/
def TimesOut : LoopPoint count → Prop
  | .timeoutScan _ => True
  | .timeoutLoad .. => True
  | .timeoutStoreStatus .. => True
  | _ => False

/-- A stop is being handled, or the loop has ended. -/
def Stops : LoopPoint count → Prop
  | .preStopCall .. => True
  | .stopCall .. => True
  | .stoppingLoad _ => True
  | .stoppingStore _ => True
  | .finished => True
  | _ => False

end LoopPoint

namespace GroupState

/-- No failure comes from outside, and the loop does not read the cancel flag between the two
stores of a `RequestStop(true)`. -/
def Orderly (state : GroupState count) : GroupEvent → Prop
  | .externalFailure .. => False
  | .loop _ => state.point = .finalizeCancelLoad → state.cancelsUnderway = 0
  | _ => True

instance (state : GroupState count) : DecidablePred state.Orderly
  | .loop _ => inferInstanceAs (Decidable (_ → _))
  | .requestStop _ => .isTrue trivial
  | .requestCancel => .isTrue trivial
  | .externalFailure .. => .isFalse id

/-! ## The nodes -/

structure NodesTracked (plan : GroupPlan count) (state : GroupState count) : Prop where
  valid : ∀ index, NodeValid (state.nodes index)
  submits : SubmitsTracked plan state.nodes state.history.submitted state.point.submits
    state.point.submitResults
  stops : StopsTracked state.nodes state.history.stopped state.history.toStop state.point.stops

variable {state next : GroupState count}

theorem started_nodesTracked : NodesTracked plan (started count) where
  valid := fun _ => fresh_valid
  submits := ⟨List.nodup_nil, nofun, nofun, List.nodup_nil, nofun, nofun⟩
  stops := ⟨List.nodup_nil, fun _ => ⟨nofun, nofun⟩, List.nodup_nil, nofun, nofun⟩

namespace NodesTracked

/-- A step that neither submits nor stops. -/
theorem moved (holds : NodesTracked plan state)
    (nodes : next.nodes = state.nodes)
    (submitted : next.history.submitted = state.history.submitted)
    (stopped : next.history.stopped = state.history.stopped)
    (toStop : next.history.toStop = state.history.toStop)
    (submits : next.point.submits = state.point.submits)
    (results : next.point.submitResults = state.point.submitResults)
    (stops : next.point.stops = state.point.stops) : NodesTracked plan next where
  valid := nodes ▸ holds.valid
  submits := by
    rw [nodes, submitted, submits, results]
    exact holds.submits
  stops := by
    rw [nodes, stopped, toStop, stops]
    exact holds.stops

/-- The nodes change but for what was submitted and stopped. -/
theorem keeps (holds : NodesTracked plan state)
    (valid : ∀ index, NodeValid (next.nodes index))
    (kept : ∀ index, Keeps (state.nodes index) (next.nodes index))
    (history : next.history = state.history)
    (submits : state.point.submits = [] ∧ state.point.submitResults = [] ∧ state.point.stops = [])
    (nextSubmits : next.point.submits = [] ∧ next.point.submitResults = [] ∧ next.point.stops = []) :
    NodesTracked plan next where
  valid := valid
  submits := by
    have before := holds.submits
    rw [submits.1, submits.2.1] at before
    rw [history, nextSubmits.1, nextSubmits.2.1]
    exact before.keeps kept
  stops := by
    have before := holds.stops
    rw [submits.2.2] at before
    rw [history, nextSubmits.2.2]
    exact before.same_sent fun index => (kept index).stopSent

theorem stopSection {nowMs : Int} (holds : NodesTracked plan state)
    (point : state.point = .stopSelect nowMs) :
    NodesTracked plan (GroupState.stopSection plan state nowMs) := by
  have submits := holds.submits
  have stops := holds.stops
  rw [point] at submits stops
  obtain ⟨valid, tracked, changed, sent⟩ :=
    @selectStops count state.nodes state.history.stopped state.history.toStop [] state
      (List.finRange count) holds.valid stops
  have pointStops : (GroupState.stopSection plan state nowMs).point.stops =
      (forNodes state.selectStop (state.nodes, [])).2 := by
    simp only [GroupState.stopSection]
    split <;> rfl
  have pointSubmits : (GroupState.stopSection plan state nowMs).point.submits = [] ∧
      (GroupState.stopSection plan state nowMs).point.submitResults = [] := by
    simp only [GroupState.stopSection]
    constructor <;> split <;> rfl
  constructor
  case valid => exact valid
  case submits =>
    rw [pointSubmits.1, pointSubmits.2]
    refine ⟨submits.once, fun index member => ?_, fun index asked => ?_, List.nodup_nil, ?_, ?_⟩
    · rcases submits.called index member with before | ended | asked
      · exact Or.inl ((changed index).submitted.trans before)
      · exact Or.inr (Or.inl (((changed index).terminal ended).symm ▸ ended))
      · exact absurd asked (submits.idle index)
    · exact absurd ((changed index).submitInflight.symm.trans asked) (submits.idle index)
    · exact fun _ member => absurd member List.not_mem_nil
    · exact fun _ member => absurd member List.not_mem_nil
  case stops =>
    rw [pointStops]
    refine ⟨tracked.once, tracked.sent, tracked.distinct, tracked.uncalled, fun index member => ?_⟩
    rcases List.mem_append.mp member with before | new
    · exact tracked.due index before
    · obtain ⟨submitted, unfinished⟩ := by simpa using List.mem_filter.mp new
      exact sent index (List.mem_finRange index) submitted unfinished

theorem stopSent_applySubmit (state : GroupState count) (result : SubmitResult count)
    (index : Fin count) :
    ((applySubmit plan state result).nodes index).stopSent = (state.nodes index).stopSent := by
  have update : ∀ node : NodeState, node.stopSent = (state.nodes result.index).stopSent →
      (Function.update state.nodes result.index node index).stopSent =
        (state.nodes index).stopSent := by
    intro node same
    by_cases here : index = result.index
    · subst here
      rw [Function.update_self]
      exact same
    · rw [Function.update_of_ne here]
  simp only [applySubmit]
  split
  · split
    · split
      · rw [nodes_markGroupFailed]
        exact update _ rfl
      · exact update _ rfl
    · exact update _ rfl
  · rfl

theorem stopSent_applySubmits (results : List (SubmitResult count)) (state : GroupState count)
    (index : Fin count) :
    ((results.foldl (applySubmit plan) state).nodes index).stopSent =
      (state.nodes index).stopSent := by
  induction results generalizing state with
  | nil => rfl
  | cons result rest ih => exact (ih _).trans (stopSent_applySubmit state result index)

@[simp] theorem history_markGroupFailed (state : GroupState count) (failure : GroupErrorMeta) :
    (state.markGroupFailed failure).history = (state.reported failure).history := by
  unfold markGroupFailed
  split <;> rfl

/-- The histories agree but for the failures. -/
theorem history_applySubmit (state : GroupState count) (result : SubmitResult count) :
    (applySubmit plan state result).history.submitted = state.history.submitted ∧
    (applySubmit plan state result).history.stopped = state.history.stopped ∧
    (applySubmit plan state result).history.toStop = state.history.toStop ∧
    (applySubmit plan state result).history.stopHandled = state.history.stopHandled ∧
    (applySubmit plan state result).history.timedOut = state.history.timedOut ∧
    (applySubmit plan state result).history.cancelAsked = state.history.cancelAsked := by
  simp only [applySubmit]
  split
  · split
    · split
      · rw [history_markGroupFailed]
        exact ⟨rfl, rfl, rfl, rfl, rfl, rfl⟩
      · exact ⟨rfl, rfl, rfl, rfl, rfl, rfl⟩
    · exact ⟨rfl, rfl, rfl, rfl, rfl, rfl⟩
  · exact ⟨rfl, rfl, rfl, rfl, rfl, rfl⟩

theorem history_applySubmits (results : List (SubmitResult count)) (state : GroupState count) :
    (results.foldl (applySubmit plan) state).history.submitted = state.history.submitted ∧
    (results.foldl (applySubmit plan) state).history.stopped = state.history.stopped ∧
    (results.foldl (applySubmit plan) state).history.toStop = state.history.toStop := by
  induction results generalizing state with
  | nil => exact ⟨rfl, rfl, rfl⟩
  | cons result rest ih =>
      obtain ⟨submitted, stopped, toStop⟩ := ih (applySubmit plan state result)
      obtain ⟨submittedFirst, stoppedFirst, toStopFirst, -⟩ := @history_applySubmit _ plan state result
      exact ⟨submitted.trans submittedFirst, stopped.trans stoppedFirst, toStop.trans toStopFirst⟩

/-- Every step of the loop keeps what is known of the nodes. -/
theorem loopStep (holds : NodesTracked plan state) (answer : LoopAnswer) :
    NodesTracked plan (loopStep plan state answer) := by
  have submits := holds.submits
  have stops := holds.stops
  cases point : state.point with
  | refreshSelect nowMs =>
      obtain ⟨valid, kept⟩ := selectQueries holds.valid [] (List.finRange count)
      simp only [GroupState.loopStep, point]
      refine holds.keeps valid kept rfl ?_ ?_
      · rw [point]
        exact ⟨rfl, rfl, rfl⟩
      · simp only [withPoint]
        split <;> exact ⟨rfl, rfl, rfl⟩
  | refreshQuery nowMs actions results =>
      cases actions with
      | nil =>
          obtain ⟨valid, kept⟩ := applyQueries holds.valid results
          simp only [GroupState.loopStep, point]
          refine holds.keeps valid kept rfl ?_ ⟨rfl, rfl, rfl⟩
          rw [point]
          exact ⟨rfl, rfl, rfl⟩
      | cons action rest =>
          simp only [GroupState.loopStep, point]
          apply holds.moved <;> first | rfl | (rw [point]; rfl)
  | stopSelect nowMs =>
      simp only [GroupState.loopStep, point]
      exact holds.stopSection point
  | stopCall nowMs actions called =>
      rw [point] at submits stops
      cases actions with
      | nil =>
          obtain ⟨valid, kept, -⟩ := applyStops holds.valid called
          simp only [GroupState.loopStep, point]
          refine holds.keeps valid kept rfl ?_ ⟨rfl, rfl, rfl⟩
          rw [point]
          exact ⟨rfl, rfl, rfl⟩
      | cons action rest =>
          simp only [GroupState.loopStep, point]
          exact ⟨holds.valid, submits, stops.call⟩
  | submitSelect nowMs =>
      rw [point] at submits stops
      obtain ⟨valid, chosen, changed⟩ :=
        @selectSubmits _ plan state.nodes state.history.submitted (List.finRange count) [] holds.valid
          submits
      have stillStops := stops.same_sent fun index => (changed index).sent
      simp only [GroupState.loopStep, point]
      constructor
      case valid => exact valid
      case submits =>
        simp only [withPoint, withNodes]
        split
        · next none =>
            have empty : (List.foldl (selectSubmit plan) (state.nodes, [])
                (List.finRange count)).2 = [] := none
            rw [empty] at chosen
            exact chosen
        · exact chosen
      case stops =>
        simp only [withPoint, withNodes]
        split <;> exact stillStops
  | submitCall nowMs actions results =>
      rw [point] at submits stops
      cases actions with
      | nil =>
          obtain ⟨valid, answered⟩ := applySubmits holds.valid submits
          obtain ⟨submitted, stopped, toStop⟩ := @history_applySubmits _ plan results state
          simp only [GroupState.loopStep, point]
          constructor
          case valid => exact valid
          case submits =>
            simp only [withPoint]
            rw [submitted]
            exact answered
          case stops =>
            simp only [withPoint]
            rw [stopped, toStop]
            exact stops.same_sent fun index => stopSent_applySubmits results state index
      | cons action rest =>
          simp only [GroupState.loopStep, point]
          exact ⟨holds.valid, submits.call rfl rfl, stops⟩
  | failureScan nowMs =>
      simp only [GroupState.loopStep, point]
      split
      · apply holds.moved
        case nodes => exact nodes_markGroupFailed _ _
        all_goals simp only [withPoint, history_markGroupFailed, reported, point] <;> rfl
      · split <;> apply holds.moved <;> first | rfl | (rw [point]; rfl)
  | timeoutLoad nowMs failure =>
      simp only [GroupState.loopStep, point]
      split <;> apply holds.moved <;> first | rfl | (rw [point]; rfl)
  | finalizeLoad =>
      simp only [GroupState.loopStep, point]
      split <;> apply holds.moved <;> first | rfl | (rw [point]; rfl)
  | finished =>
      simp only [GroupState.loopStep, point]
      exact holds
  | top | timeoutScan nowMs | timeoutStoreStatus nowMs failure | timeoutStoreError nowMs failure
  | timeoutStoreStop nowMs | preStopCall nowMs actions | stoppingStore nowMs | runningStore nowMs
  | finalizeCancelLoad | finalizeStore status =>
      simp only [GroupState.loopStep, point]
      apply holds.moved <;> first | rfl | (rw [point]; rfl)
  | failureLoad nowMs | stopLoad nowMs | stoppingLoad nowMs | preparingLoad nowMs
  | submitLoad nowMs | submitLoadAgain nowMs | terminalCheck =>
      simp only [GroupState.loopStep, point]
      split <;> apply holds.moved <;> first | rfl | (rw [point]; rfl)

end NodesTracked

/-! ## The status -/

/-- How the status of the group follows its nodes, its timeout and its stop, but for what the
loop has still to store. -/
structure Tracked (scans timesOut stops : Prop) (state : GroupState count) : Prop where
  failedNode : (∃ index, (state.nodes index).status = .failed) → state.status = .failed ∨ scans
  timedOut : state.history.timedOut → state.status = .failed ∨ timesOut
  failed : state.status = .failed →
    (∃ index, (state.nodes index).status = .failed) ∨ state.history.timedOut
  handled : state.history.stopHandled → state.status = .stopping ∨ state.status = .failed ∨ stops

namespace Tracked

variable {scans timesOut stops scans' timesOut' stops' : Prop}

theorem imp (holds : Tracked scans timesOut stops state) (scan : scans → scans')
    (timeout : timesOut → timesOut') (stop : stops → stops') :
    Tracked scans' timesOut' stops' state where
  failedNode := fun failed => (holds.failedNode failed).imp id scan
  timedOut := fun timed => (holds.timedOut timed).imp id timeout
  failed := holds.failed
  handled := fun handled => (holds.handled handled).imp id (Or.imp id stop)

/-- A failed status settles everything. -/
theorem of_failed (holds : Tracked scans timesOut stops state) (failed : state.status = .failed) :
    Tracked False False False state where
  failedNode := fun _ => Or.inl failed
  timedOut := fun _ => Or.inl failed
  failed := holds.failed
  handled := fun _ => Or.inr (Or.inl failed)

theorem same (holds : Tracked scans timesOut stops state) (status : next.status = state.status)
    (nodes : ∀ index, (next.nodes index).status = .failed ↔ (state.nodes index).status = .failed)
    (timedOut : next.history.timedOut = state.history.timedOut)
    (handled : next.history.stopHandled = state.history.stopHandled) :
    Tracked scans timesOut stops next where
  failedNode := fun ⟨index, failed⟩ => status ▸ holds.failedNode ⟨index, (nodes index).mp failed⟩
  timedOut := fun timed => status ▸ holds.timedOut (timedOut ▸ timed)
  failed := by
    intro failed
    rcases holds.failed (status ▸ failed) with ⟨index, node⟩ | timed
    · exact Or.inl ⟨index, (nodes index).mpr node⟩
    · exact Or.inr (timedOut.trans timed)
  handled := fun stopHandled => status ▸ holds.handled (handled ▸ stopHandled)

/-- The failure of a node or of the timeout is stored. -/
theorem markGroupFailed (holds : Tracked scans timesOut stops state) (failure : GroupErrorMeta)
    (cause : (∃ index, (state.nodes index).status = .failed) ∨ state.history.timedOut) :
    Tracked False False False (state.markGroupFailed failure) := by
  unfold GroupState.markGroupFailed
  split
  · next failed => exact (holds.of_failed failed).same rfl (fun _ => Iff.rfl) rfl rfl
  · exact ⟨fun _ => Or.inl rfl, fun _ => Or.inl rfl, fun _ => cause, fun _ => Or.inr (Or.inl rfl)⟩

/-- Nodes may fail while they are queried. -/
theorem queried {nodes : Nodes count} (holds : Tracked scans timesOut stops state)
    (kept : ∀ index, Keeps (state.nodes index) (nodes index)) :
    Tracked True timesOut stops (state.withNodes nodes) where
  failedNode := fun _ => Or.inr trivial
  timedOut := holds.timedOut
  failed := by
    intro failed
    refine (holds.failed failed).imp ?_ id
    rintro ⟨index, node⟩
    exact ⟨index, ((kept index).terminal (Or.inr (Or.inr (Or.inl node)))).trans node⟩
  handled := holds.handled

end Tracked

/-- What the loop knows where it stands. -/
def PointSound (state : GroupState count) : LoopPoint count → Prop
  | .timeoutScan _ => state.history.timedOut
  | .timeoutLoad .. => state.history.timedOut
  | .timeoutStoreStatus .. => state.history.timedOut
  | .runningStore _ => state.status = .preparing
  | .submitLoadAgain _ => state.status ≠ .stopping
  | .submitSelect _ => state.status ≠ .stopping ∧ state.status ≠ .failed
  | .submitCall .. => state.status ≠ .stopping ∧ state.status ≠ .failed
  | .finalizeLoad => state.AllNodesTerminal
  | .finalizeCancelLoad => state.AllNodesTerminal
  | .finalizeStore status => state.AllNodesTerminal ∧
      status = if state.history.cancelledAtEnd then .cancelled else .stopped
  | .finished => state.AllNodesTerminal ∧ (state.status ≠ .failed →
      state.status = if state.history.cancelledAtEnd then .cancelled else .stopped)
  | _ => True

structure StatusTracked (state : GroupState count) : Prop where
  tracked : Tracked state.point.Scans state.point.TimesOut state.point.Stops state
  sound : state.PointSound state.point
  cancels : state.history.cancelAsked ↔ state.cancelRequested ∨ 0 < state.cancelsUnderway

theorem started_statusTracked : (started count).StatusTracked where
  tracked := ⟨fun ⟨_, failed⟩ => (nomatch failed), nofun, nofun, nofun⟩
  sound := trivial
  cancels := by simp [started]

theorem applySubmit_tracked {result : SubmitResult count}
    (unfinished : (state.nodes result.index).submitInflight →
      ¬ (state.nodes result.index).status.IsTerminal)
    (holds : Tracked False False False state) :
    Tracked False False False (applySubmit plan state result) := by
  have update : ∀ node : NodeState, (state.nodes result.index).submitInflight →
      node.status ≠ .failed → ∀ index,
        (Function.update state.nodes result.index node index).status = .failed ↔
          (state.nodes index).status = .failed := by
    intro node asked sound index
    by_cases here : index = result.index
    · subst here
      rw [Function.update_self]
      exact ⟨fun failed => absurd failed sound, fun failed =>
        absurd (Or.inr (Or.inr (Or.inl failed))) (unfinished asked)⟩
    · rw [Function.update_of_ne here]
  by_cases asked : (state.nodes result.index).submitInflight
  · by_cases current : (state.nodes result.index).generation = result.generation
    · by_cases refused : result.rc ≠ 0 ∨ result.runtimeTaskId = ""
      · have failed : ((state.withNodes (Function.update state.nodes result.index
            (submitFailed plan (state.nodes result.index) result))).nodes result.index).status =
            .failed := by
          simp only [withNodes, Function.update_self]
          rfl
        simp only [applySubmit, if_pos asked, if_pos current, if_pos refused]
        refine @Tracked.markGroupFailed _ _ True True True ?_ _ (Or.inl ⟨_, failed⟩)
        exact ⟨fun _ => Or.inr trivial, fun _ => Or.inr trivial, fun _ => Or.inl ⟨_, failed⟩,
          fun _ => Or.inr (Or.inr trivial)⟩
      · simp only [applySubmit, if_pos asked, if_pos current, if_neg refused]
        refine holds.same rfl (update _ asked ?_) rfl rfl
        rintro ⟨⟩
    · simp only [applySubmit, if_pos asked, if_neg current]
      refine holds.same rfl (update _ asked fun failed => ?_) rfl rfl
      exact unfinished asked (Or.inr (Or.inr (Or.inl failed)))
  · simp only [applySubmit, if_neg asked]
    exact holds

theorem applySubmits_tracked {submitted : List (Fin count)} {results : List (SubmitResult count)}
    (valid : ∀ index, NodeValid (state.nodes index))
    (submits : SubmitsTracked plan state.nodes submitted [] results)
    (holds : Tracked False False False state) :
    Tracked False False False (results.foldl (applySubmit plan) state) := by
  induction results generalizing state with
  | nil => exact holds
  | cons result rest ih =>
      obtain ⟨nextValid, nextSubmits⟩ := applySubmit_sound valid submits
      exact ih nextValid nextSubmits
        (applySubmit_tracked (fun asked => (submits.inflight _ asked).1.2) holds)

theorem cancels_applySubmit (result : SubmitResult count) :
    (applySubmit plan state result).cancelRequested = state.cancelRequested ∧
      (applySubmit plan state result).cancelsUnderway = state.cancelsUnderway ∧
      (applySubmit plan state result).history.cancelAsked = state.history.cancelAsked := by
  refine ⟨?_, ?_, (NodesTracked.history_applySubmit state result).2.2.2.2.2⟩
  all_goals
    simp only [applySubmit]
    split
    · split
      · split
        · unfold markGroupFailed
          split <;> rfl
        · rfl
      · rfl
    · rfl

theorem cancels_applySubmits (results : List (SubmitResult count)) :
    (results.foldl (applySubmit plan) state).cancelRequested = state.cancelRequested ∧
      (results.foldl (applySubmit plan) state).cancelsUnderway = state.cancelsUnderway ∧
      (results.foldl (applySubmit plan) state).history.cancelAsked =
        state.history.cancelAsked := by
  induction results generalizing state with
  | nil => exact ⟨rfl, rfl, rfl⟩
  | cons result rest ih =>
      obtain ⟨requested, underway, asked⟩ := @cancels_applySubmit _ plan state result
      obtain ⟨restRequested, restUnderway, restAsked⟩ := @ih (applySubmit plan state result)
      exact ⟨restRequested.trans requested, restUnderway.trans underway, restAsked.trans asked⟩

namespace StatusTracked

/-- The loop arrives at a point with nothing left to store. -/
theorem arrives {point : LoopPoint count} (plain : Tracked False False False state)
    (cancels : state.history.cancelAsked ↔ state.cancelRequested ∨ 0 < state.cancelsUnderway)
    (sound : state.PointSound point) : (state.withPoint point).StatusTracked where
  tracked := (plain.imp False.elim False.elim False.elim).same rfl (fun _ => Iff.rfl) rfl rfl
  sound := sound
  cancels := cancels

/-- The loop goes to another point and changes nothing else. -/
theorem goes {point : LoopPoint count} (holds : state.StatusTracked)
    (scans : state.point.Scans → point.Scans) (timesOut : state.point.TimesOut → point.TimesOut)
    (stops : state.point.Stops → point.Stops) (sound : state.PointSound point) :
    (state.withPoint point).StatusTracked where
  tracked := (holds.tracked.imp scans timesOut stops).same rfl (fun _ => Iff.rfl) rfl rfl
  sound := sound
  cancels := holds.cancels

/-- The loop goes on after a failure. -/
theorem goes_failed {point : LoopPoint count} (holds : state.StatusTracked)
    (failed : state.status = .failed) (sound : state.PointSound point) :
    (state.withPoint point).StatusTracked :=
  arrives (holds.tracked.of_failed failed) holds.cancels sound

theorem failureScan {nowMs : Int} (holds : state.StatusTracked)
    (point : state.point = .failureScan nowMs) (answer : LoopAnswer) :
    (loopStep plan state answer).StatusTracked := by
  have tracked := holds.tracked
  rw [point] at tracked
  simp only [loopStep, point]
  split
  · next index found =>
      have failed : (state.nodes index).status = .failed := by
        simpa using List.find?_some found
      have marked := tracked.markGroupFailed (nodeFailure plan state index) (Or.inl ⟨index, failed⟩)
      refine ⟨(marked.imp False.elim False.elim False.elim).same rfl (fun _ => Iff.rfl) rfl rfl,
        trivial, ?_⟩
      have cancels := holds.cancels
      simp only [withPoint, markGroupFailed]
      split <;> exact cancels
  · next none =>
      have noneFailed : ¬ ∃ index, (state.nodes index).status = .failed := by
        rintro ⟨index, failed⟩
        have absent := List.find?_eq_none.mp none index (List.mem_finRange index)
        exact absent (decide_eq_true failed)
      split
      · exact ⟨⟨fun failed => absurd failed noneFailed, fun _ => Or.inr trivial,
          fun _ => Or.inr rfl, tracked.handled⟩, rfl, holds.cancels⟩
      · exact ⟨⟨fun failed => absurd failed noneFailed, tracked.timedOut, tracked.failed,
          tracked.handled⟩, trivial, holds.cancels⟩

theorem stopSection {nowMs : Int} (holds : state.StatusTracked)
    (nodes : NodesTracked plan state) (point : state.point = .stopSelect nowMs) :
    (GroupState.stopSection plan state nowMs).StatusTracked := by
  have tracked : Tracked False False False state := by
    have here := holds.tracked
    rwa [point] at here
  have stops := nodes.stops
  rw [point] at stops
  obtain ⟨-, -, changed, -⟩ :=
    @selectStops count state.nodes state.history.stopped state.history.toStop [] state
      (List.finRange count) nodes.valid stops
  have failed : ∀ index, (((GroupState.stopSection plan state nowMs).nodes index).status = .failed ↔
      (state.nodes index).status = .failed) := fun index =>
    ⟨(changed index).failed, fun before =>
      ((changed index).terminal (Or.inr (Or.inr (Or.inl before)))).trans before⟩
  constructor
  case tracked =>
    refine ⟨fun ⟨index, node⟩ => ?_, fun timed => ?_, fun group => ?_, fun _ => ?_⟩
    · exact (tracked.failedNode ⟨index, (failed index).mp node⟩).imp id False.elim
    · exact (tracked.timedOut timed).imp id False.elim
    · refine (tracked.failed group).imp ?_ id
      rintro ⟨index, node⟩
      exact ⟨index, (failed index).mpr node⟩
    · refine Or.inr (Or.inr ?_)
      simp only [GroupState.stopSection]
      split <;> trivial
  case sound =>
    simp only [GroupState.stopSection]
    split <;> trivial
  case cancels => exact holds.cancels

/-- A status other than failed is stored when no node has failed. -/
theorem stored {point : LoopPoint count} {status : StreamGroupStatus}
    {stops : Prop} (holds : state.StatusTracked) (tracked : Tracked False False stops state) (unfailed : state.status ≠ .failed)
    (sound : status ≠ .failed)
    (handled : state.history.stopHandled → status = .stopping ∨ point.Stops)
    (pointSound : { state with status := status, point := point }.PointSound point) :
    ({ state with status := status, point := point } : GroupState count).StatusTracked where
  tracked := by
    refine ⟨fun failed => ?_, fun timed => ?_, fun failed => absurd failed sound, fun stop => ?_⟩
    · exact absurd ((tracked.failedNode failed).resolve_right id) unfailed
    · exact absurd ((tracked.timedOut timed).resolve_right id) unfailed
    · exact (handled stop).imp id Or.inr
  sound := pointSound
  cancels := holds.cancels

/-- Every step of the loop keeps the status in step. -/
theorem loopStep (holds : state.StatusTracked) (nodes : NodesTracked plan state)
    (kept : state.FailureKept) (answer : LoopAnswer) (orderly : state.Orderly (.loop answer)) :
    (loopStep plan state answer).StatusTracked := by
  have tracked := holds.tracked
  have sound := holds.sound
  have cancels := holds.cancels
  have undecided := kept.undecided
  cases point : state.point with
  | refreshSelect nowMs =>
      rw [point] at tracked
      obtain ⟨-, changed⟩ := selectQueries nodes.valid [] (List.finRange count)
      have queried := tracked.queried changed
      simp only [GroupState.loopStep, point]
      split <;> exact ⟨(queried.imp id False.elim False.elim).same rfl (fun _ => Iff.rfl) rfl rfl,
        trivial, cancels⟩
  | refreshQuery nowMs actions results =>
      cases actions with
      | nil =>
          rw [point] at tracked
          obtain ⟨-, changed⟩ := applyQueries nodes.valid results
          have queried := tracked.queried changed
          simp only [GroupState.loopStep, point]
          exact ⟨queried.same rfl (fun _ => Iff.rfl) rfl rfl, trivial, cancels⟩
      | cons action rest =>
          simp only [GroupState.loopStep, point]
          exact holds.goes (fun _ => trivial) (by rw [point]; exact id) (by rw [point]; exact id)
            trivial
  | failureLoad nowMs =>
      simp only [GroupState.loopStep, point]
      split
      · next failed => exact holds.goes_failed failed trivial
      · exact holds.goes (fun _ => trivial) (by rw [point]; exact id) (by rw [point]; exact id)
          trivial
  | failureScan nowMs => exact holds.failureScan point answer
  | timeoutScan nowMs =>
      rw [point] at sound
      simp only [GroupState.loopStep, point]
      exact holds.goes (by rw [point]; exact id) (fun _ => trivial) (by rw [point]; exact id) sound
  | timeoutLoad nowMs failure =>
      rw [point] at sound
      simp only [GroupState.loopStep, point]
      split
      · next failed =>
          rw [kept.reported_eq failed]
          exact holds.goes_failed failed trivial
      · exact holds.goes (by rw [point]; exact id) (fun _ => trivial) (by rw [point]; exact id)
          sound
  | timeoutStoreStatus nowMs failure =>
      rw [point] at sound
      simp only [GroupState.loopStep, point]
      exact ⟨⟨fun _ => Or.inl rfl, fun _ => Or.inl rfl, fun _ => Or.inr sound,
        fun _ => Or.inr (Or.inl rfl)⟩, trivial, cancels⟩
  | top =>
      rw [point] at tracked
      simp only [GroupState.loopStep, point]
      exact arrives tracked cancels trivial
  | timeoutStoreError nowMs failure | timeoutStoreStop nowMs =>
      rw [point] at tracked
      simp only [GroupState.loopStep, point]
      exact ⟨tracked.same rfl (fun _ => Iff.rfl) rfl rfl, trivial, cancels⟩
  | stopLoad nowMs =>
      rw [point] at tracked
      simp only [GroupState.loopStep, point]
      split <;> exact arrives tracked cancels trivial
  | preparingLoad nowMs =>
      rw [point] at tracked
      simp only [GroupState.loopStep, point]
      split
      · next preparing => exact arrives tracked cancels preparing
      · exact arrives tracked cancels trivial
  | submitLoad nowMs =>
      rw [point] at tracked
      simp only [GroupState.loopStep, point]
      split
      · exact arrives tracked cancels trivial
      · next going => exact arrives tracked cancels going
  | submitLoadAgain nowMs =>
      rw [point] at tracked sound
      simp only [GroupState.loopStep, point]
      split
      · exact arrives tracked cancels trivial
      · next sane => exact arrives tracked cancels ⟨sound, sane⟩
  | terminalCheck =>
      rw [point] at tracked
      simp only [GroupState.loopStep, point]
      split
      · next ended => exact arrives tracked cancels ended
      · exact arrives tracked cancels trivial
  | stopSelect nowMs =>
      simp only [GroupState.loopStep, point]
      exact holds.stopSection nodes point
  | preStopCall nowMs actions =>
      simp only [GroupState.loopStep, point]
      exact holds.goes (by rw [point]; exact id) (by rw [point]; exact id) (fun _ => trivial) trivial
  | stopCall nowMs actions called =>
      cases actions with
      | nil =>
          obtain ⟨-, -, status⟩ := applyStops nodes.valid called
          rw [point] at tracked
          simp only [GroupState.loopStep, point]
          refine ⟨tracked.same rfl (fun index => ?_) rfl rfl, trivial, cancels⟩
          exact Eq.congr_left (status index)
      | cons action rest =>
          rw [point] at tracked
          simp only [GroupState.loopStep, point]
          exact ⟨tracked.same rfl (fun _ => Iff.rfl) rfl rfl, trivial, cancels⟩
  | stoppingLoad nowMs =>
      simp only [GroupState.loopStep, point]
      split
      · next failed => exact holds.goes_failed failed trivial
      · exact holds.goes (by rw [point]; exact id) (by rw [point]; exact id) (fun _ => trivial)
          trivial
  | stoppingStore nowMs =>
      rw [point] at tracked undecided
      simp only [GroupState.loopStep, point]
      exact holds.stored tracked (undecided trivial) (by rintro ⟨⟩) (fun _ => Or.inl rfl) trivial
  | runningStore nowMs =>
      rw [point] at tracked undecided sound
      simp only [GroupState.loopStep, point]
      refine holds.stored tracked (undecided trivial) (by rintro ⟨⟩) (fun stop => ?_) trivial
      have preparing : state.status = .preparing := sound
      rcases tracked.handled stop with stopping | failed | none
      · rw [preparing] at stopping
        cases stopping
      · rw [preparing] at failed
        cases failed
      · exact none.elim
  | submitSelect nowMs =>
      rw [point] at tracked sound
      have submits := nodes.submits
      rw [point] at submits
      obtain ⟨-, -, changed⟩ :=
        @selectSubmits _ plan state.nodes state.history.submitted (List.finRange count) []
          nodes.valid submits
      have chosen : Tracked False False False
          (state.withNodes (forNodes (selectSubmit plan) (state.nodes, [])).1) :=
        tracked.same rfl (fun index => (changed index).failed) rfl rfl
      simp only [GroupState.loopStep, point]
      split
      · exact arrives chosen cancels trivial
      · exact arrives chosen cancels sound
  | submitCall nowMs actions results =>
      have submits := nodes.submits
      rw [point] at tracked sound submits
      cases actions with
      | nil =>
          obtain ⟨requested, underway, asked⟩ := @cancels_applySubmits _ plan state results
          simp only [GroupState.loopStep, point]
          refine arrives (applySubmits_tracked nodes.valid submits tracked) ?_ trivial
          rw [requested, underway, asked]
          exact cancels
      | cons action rest =>
          simp only [GroupState.loopStep, point]
          exact ⟨tracked.same rfl (fun _ => Iff.rfl) rfl rfl, sound, cancels⟩
  | finalizeLoad =>
      rw [point] at tracked sound
      simp only [GroupState.loopStep, point]
      split
      · next failed =>
          exact ⟨((tracked.of_failed failed).imp False.elim False.elim False.elim).same
            failed.symm (fun _ => Iff.rfl) rfl rfl, ⟨sound, fun sane => absurd rfl sane⟩, cancels⟩
      · exact arrives tracked cancels sound
  | finalizeCancelLoad =>
      rw [point] at tracked sound
      have settled := orderly point
      have same : state.history.cancelAsked = state.cancelRequested := by
        rw [settled] at cancels
        rw [Bool.eq_iff_iff, cancels]
        simp
      simp only [GroupState.loopStep, point]
      refine ⟨tracked.same rfl (fun _ => Iff.rfl) rfl rfl, ⟨sound, ?_⟩, cancels⟩
      rw [← same]
  | finalizeStore status =>
      rw [point] at tracked sound undecided
      have value := sound.2
      simp only [GroupState.loopStep, point]
      exact holds.stored tracked (undecided trivial) (kept.ending status point)
        (fun _ => Or.inr trivial) ⟨sound.1, fun _ => value⟩
  | finished =>
      simp only [GroupState.loopStep, point]
      exact holds

end StatusTracked

/-! ## Runs -/

/-- What holds after every orderly run. -/
structure RunSound (plan : GroupPlan count) (state : GroupState count) : Prop where
  nodes : NodesTracked plan state
  status : state.StatusTracked
  failures : state.FailureKept

theorem undisturbed_of_orderly {event : GroupEvent} (orderly : state.Orderly event) :
    state.Undisturbed event := by
  cases event with
  | externalFailure code message errorCode => exact orderly.elim
  | loop answer => trivial
  | requestStop cancelled => trivial
  | requestCancel => trivial

theorem RunSound.step {event : GroupEvent} (holds : RunSound plan state)
    (orderly : state.Orderly event) : RunSound plan (state.step plan event) := by
  refine ⟨?_, ?_, holds.failures.step (undisturbed_of_orderly orderly)⟩
  · cases event with
    | loop answer => exact holds.nodes.loopStep answer
    | requestStop cancelled => exact ⟨holds.nodes.valid, holds.nodes.submits, holds.nodes.stops⟩
    | requestCancel =>
        simp only [GroupState.step]
        split
        · exact holds.nodes
        · exact ⟨holds.nodes.valid, holds.nodes.submits, holds.nodes.stops⟩
    | externalFailure code message errorCode => exact orderly.elim
  · have status := holds.status
    cases event with
    | loop answer => exact status.loopStep holds.nodes holds.failures answer orderly
    | requestStop cancelled =>
        refine ⟨status.tracked.same rfl (fun _ => Iff.rfl) rfl rfl, status.sound, ?_⟩
        simp only [GroupState.step]
        have cancels := status.cancels
        cases cancelled with
        | false => simpa using cancels
        | true => simp
    | requestCancel =>
        simp only [GroupState.step]
        split
        · exact status
        · next underway =>
            refine ⟨status.tracked.same rfl (fun _ => Iff.rfl) rfl rfl, status.sound, ?_⟩
            have asked := status.cancels.mpr (Or.inr (Nat.pos_of_ne_zero underway))
            simpa using asked
    | externalFailure code message errorCode => exact orderly.elim

/-- In every run without failures from outside in which the loop does not read the cancel flag
within a `RequestStop(true)`: a node is submitted once at most, when its dependencies allow it
and before any failure or stop; stops are called once at most and for every node that was
running when a stop was handled; and at the end all nodes have ended and the group is failed
because of a node or the timeout, or else cancelled or stopped as it was asked. -/
theorem group_run_sound (plan : GroupPlan count) (events : List GroupEvent)
    (orderly : Guarded (step plan) Orderly (started count) events) :
    (run plan events).history.submitted.Nodup ∧
    (∀ nowMs action rest results,
      (run plan events).point = .submitCall nowMs (action :: rest) results →
        action.index ∉ (run plan events).history.submitted ∧
        DependenciesSatisfied plan (run plan events).nodes action.index ∧
        (run plan events).status ≠ .failed ∧ ¬ (run plan events).history.stopHandled) ∧
    (run plan events).history.stopped.Nodup ∧
    ((run plan events).point.stops = [] →
      ∀ index ∈ (run plan events).history.toStop, index ∈ (run plan events).history.stopped) ∧
    ((run plan events).point = .finished →
      (run plan events).AllNodesTerminal ∧
      ((run plan events).status = .failed ↔
        (∃ index, ((run plan events).nodes index).status = .failed) ∨
          (run plan events).history.timedOut) ∧
      ((run plan events).status ≠ .failed → (run plan events).status =
        if (run plan events).history.cancelledAtEnd then .cancelled else .stopped)) := by
  obtain ⟨nodes, status, -⟩ : RunSound plan (run plan events) :=
    orderly.invariant (fun _ _ holds => holds.step)
      ⟨started_nodesTracked, started_statusTracked, started_failureKept⟩
  generalize run plan events = state at *
  obtain ⟨tracked, sound, -⟩ := status
  refine ⟨nodes.submits.once, ?_, nodes.stops.once, ?_, ?_⟩
  · intro nowMs action rest results point
    have submits := nodes.submits
    rw [point] at submits tracked sound
    obtain ⟨-, -, uncalled, satisfied⟩ := submits.chosen action List.mem_cons_self
    refine ⟨uncalled, satisfied, sound.2, fun handled => ?_⟩
    rcases tracked.handled handled with stopping | failed | none
    · exact sound.1 stopping
    · exact sound.2 failed
    · exact none
  · intro none index member
    have sent := (nodes.stops.sent index).mp (nodes.stops.due index member)
    rw [none] at sent
    exact sent.resolve_right List.not_mem_nil
  · intro point
    rw [point] at tracked sound
    refine ⟨sound.1, ⟨tracked.failed, ?_⟩, sound.2⟩
    rintro (failed | timed)
    · exact (tracked.failedNode failed).resolve_right id
    · exact (tracked.timedOut timed).resolve_right id

/-- The loop ends between the two stores of a `RequestStop(true)`. -/
theorem group_run_sound_fails :
    (run oneNodePlan (.requestStop true :: .replicate 14 (.loop stoppedAnswer))).point = .finished ∧
    ¬ (∃ index, ((run oneNodePlan
      (.requestStop true :: .replicate 14 (.loop stoppedAnswer))).nodes index).status = .failed) ∧
    ¬ (run oneNodePlan
      (.requestStop true :: .replicate 14 (.loop stoppedAnswer))).history.timedOut ∧
    (run oneNodePlan
      (.requestStop true :: .replicate 14 (.loop stoppedAnswer))).history.cancelledAtEnd ∧
    (run oneNodePlan (.requestStop true :: .replicate 14 (.loop stoppedAnswer))).status =
      .stopped := by
  decide

/-- The same request with both stores in time. -/
theorem group_run_sound_cancelled :
    (run oneNodePlan
      (.requestStop true :: .requestCancel :: .replicate 14 (.loop stoppedAnswer))).status =
      .cancelled :=
  ((group_run_sound oneNodePlan
    (.requestStop true :: .requestCancel :: .replicate 14 (.loop stoppedAnswer))
    (by decide)).2.2.2.2 (by decide)).2.2 (by decide)

end GroupState

end Flowsql.Scheduler
