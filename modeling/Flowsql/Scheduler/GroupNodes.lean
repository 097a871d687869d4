import Flowsql.Scheduler.StreamTaskGroup

/-!
# The nodes of a group

What each section of the run loop does to the nodes, and what it keeps of the submissions
and stop calls that were made.
-/

namespace Flowsql.Scheduler

variable {count : Nat} {plan : GroupPlan count}

namespace GroupState

/-! ## One node -/

/-- What holds of every node at all times. -/
structure NodeValid (node : NodeState) : Prop where
  named : node.submitted → node.runtimeTaskId ≠ ""
  unstarted : ¬ node.submitted → node.status ≠ .running ∧ node.status ≠ .stopping
  queried : node.queryInflight → node.submitted ∧ ¬ node.status.IsTerminal
  stopping : node.stopInflight → node.stopSent
  sent : node.stopSent → node.submitted

theorem fresh_valid : NodeValid .fresh := by
  constructor <;> simp [NodeState.fresh]

/-- A node that was not submitted and has not ended lets nothing start. -/
theorem NodeValid.not_allows {node : NodeState} (valid : NodeValid node)
    (unsubmitted : ¬ node.submitted) (unfinished : ¬ node.status.IsTerminal)
    (condition : GroupStartCondition) : ¬ condition.Allows node.status := by
  obtain ⟨notRunning, notStopping⟩ := valid.unstarted unsubmitted
  cases condition with
  | onFinished => exact unfinished
  | onRunning =>
      rintro (running | stopping | stopped | cancelled | failed)
      · exact notRunning running
      · exact notStopping stopping
      · exact unfinished (Or.inl stopped)
      · exact unfinished (Or.inr (Or.inl cancelled))
      · exact unfinished (Or.inr (Or.inr (Or.inl failed)))

/-- The node keeps its submission, its stop call and the state it ended in. -/
structure Keeps (old new : NodeState) : Prop where
  submitted : new.submitted = old.submitted
  submitInflight : new.submitInflight = old.submitInflight
  stopSent : new.stopSent = old.stopSent
  terminal : old.status.IsTerminal → new.status = old.status

theorem Keeps.refl (node : NodeState) : Keeps node node := ⟨rfl, rfl, rfl, fun _ => rfl⟩

theorem Keeps.trans {first second third : NodeState} (left : Keeps first second)
    (right : Keeps second third) : Keeps first third where
  submitted := right.submitted.trans left.submitted
  submitInflight := right.submitInflight.trans left.submitInflight
  stopSent := right.stopSent.trans left.stopSent
  terminal := by
    intro ended
    have same := left.terminal ended
    exact (right.terminal (same ▸ ended)).trans same

variable {nodes : Nodes count} {index : Fin count}

theorem forall_update {property : NodeState → Prop} (holds : ∀ other, property (nodes other))
    {node : NodeState} (changed : property node) (other : Fin count) :
    property (Function.update nodes index node other) := by
  by_cases same : other = index
  · subst same
    rwa [Function.update_self]
  · rw [Function.update_of_ne same]
    exact holds other

theorem keeps_update {node : NodeState} (kept : Keeps (nodes index) node) (other : Fin count) :
    Keeps (nodes other) (Function.update nodes index node other) := by
  by_cases same : other = index
  · subst same
    rwa [Function.update_self]
  · rw [Function.update_of_ne same]
    exact .refl _

/-! ## Queries -/

theorem selectQuery_valid (valid : ∀ other, NodeValid (nodes other))
    (actions : List (QueryAction count)) (other : Fin count) :
    NodeValid ((selectQuery (nodes, actions) index).1 other) := by
  simp only [selectQuery]
  split
  · next due =>
      refine forall_update valid ?_ other
      exact ⟨(valid index).named, (valid index).unstarted, fun _ => ⟨due.1, due.2.2.1⟩,
        (valid index).stopping, (valid index).sent⟩
  · exact valid other

theorem selectQuery_keeps (actions : List (QueryAction count)) (other : Fin count) :
    Keeps (nodes other) ((selectQuery (nodes, actions) index).1 other) := by
  simp only [selectQuery]
  split
  · refine keeps_update ?_ other
    exact ⟨rfl, rfl, rfl, fun _ => rfl⟩
  · exact .refl _

theorem selectQueries (valid : ∀ other, NodeValid (nodes other))
    (actions : List (QueryAction count)) (indices : List (Fin count)) :
    (∀ other, NodeValid ((indices.foldl selectQuery (nodes, actions)).1 other)) ∧
    ∀ other, Keeps (nodes other) ((indices.foldl selectQuery (nodes, actions)).1 other) := by
  induction indices generalizing nodes actions with
  | nil => exact ⟨valid, fun other => .refl _⟩
  | cons first rest ih =>
      obtain ⟨restValid, restKeeps⟩ := ih (selectQuery_valid valid actions)
        (selectQuery (nodes, actions) first).2
      exact ⟨restValid, fun other => (selectQuery_keeps actions other).trans (restKeeps other)⟩

/-- An answer is written only into a node that has not ended. -/
theorem applyQuery_valid (valid : ∀ other, NodeValid (nodes other)) (result : QueryResult count)
    (other : Fin count) : NodeValid (applyQuery nodes result other) := by
  simp only [applyQuery]
  split
  · next asked =>
      have node := valid result.index
      have submitted := (node.queried asked).1
      refine forall_update valid ?_ other
      split
      · exact ⟨node.named, fun unsubmitted => absurd submitted unsubmitted, nofun, node.stopping,
          node.sent⟩
      · exact ⟨node.named, node.unstarted, nofun, node.stopping, node.sent⟩
  · exact valid other

theorem applyQuery_keeps (valid : ∀ other, NodeValid (nodes other)) (result : QueryResult count)
    (other : Fin count) : Keeps (nodes other) (applyQuery nodes result other) := by
  simp only [applyQuery]
  split
  · next asked =>
      have unfinished := ((valid result.index).queried asked).2
      refine keeps_update ?_ other
      split
      · exact ⟨rfl, rfl, rfl, fun ended => absurd ended unfinished⟩
      · exact ⟨rfl, rfl, rfl, fun _ => rfl⟩
  · exact .refl _

theorem applyQueries (valid : ∀ other, NodeValid (nodes other))
    (results : List (QueryResult count)) :
    (∀ other, NodeValid (results.foldl applyQuery nodes other)) ∧
    ∀ other, Keeps (nodes other) (results.foldl applyQuery nodes other) := by
  induction results generalizing nodes with
  | nil => exact ⟨valid, fun other => .refl _⟩
  | cons first rest ih =>
      obtain ⟨restValid, restKeeps⟩ := ih (applyQuery_valid valid first)
      exact ⟨restValid, fun other => (applyQuery_keeps valid first other).trans (restKeeps other)⟩

/-! ## Submissions -/

/-- The submissions that were made, those that are chosen, and those that were answered. -/
structure SubmitsTracked (plan : GroupPlan count) (nodes : Nodes count)
    (submitted : List (Fin count)) (actions : List (SubmitAction count))
    (results : List (SubmitResult count)) : Prop where
  once : submitted.Nodup
  called : ∀ index ∈ submitted, (nodes index).submitted ∨ (nodes index).status.IsTerminal ∨
    (nodes index).submitInflight
  inflight : ∀ index, (nodes index).submitInflight →
    (¬ (nodes index).submitted ∧ ¬ (nodes index).status.IsTerminal) ∧
    (index ∈ actions.map SubmitAction.index ∨ index ∈ results.map SubmitResult.index)
  distinct : (actions.map SubmitAction.index).Nodup
  chosen : ∀ action ∈ actions, (nodes action.index).submitInflight ∧
    (nodes action.index).generation = action.generation ∧ action.index ∉ submitted ∧
    DependenciesSatisfied plan nodes action.index
  current : ∀ result ∈ results, (nodes result.index).generation = result.generation

namespace SubmitsTracked

variable {submitted : List (Fin count)} {actions : List (SubmitAction count)}
  {results : List (SubmitResult count)}

/-- Between submissions the nodes may change otherwise. -/
theorem keeps {next : Nodes count} (holds : SubmitsTracked plan nodes submitted [] [])
    (kept : ∀ index, Keeps (nodes index) (next index)) :
    SubmitsTracked plan next submitted [] [] where
  once := holds.once
  called := by
    intro index member
    rcases holds.called index member with before | ended | asked
    · exact Or.inl ((kept index).submitted ▸ before)
    · exact Or.inr (Or.inl ((kept index).terminal ended ▸ ended))
    · exact Or.inr (Or.inr ((kept index).submitInflight ▸ asked))
  inflight := by
    intro index asked
    rw [(kept index).submitInflight] at asked
    simpa using (holds.inflight index asked).2
  distinct := List.nodup_nil
  chosen := nofun
  current := nofun

/-- No node is being submitted. -/
theorem idle (holds : SubmitsTracked plan nodes submitted [] []) (index : Fin count) :
    ¬ (nodes index).submitInflight := fun asked => by
  simpa using (holds.inflight index asked).2

/-- The next chosen node is submitted. -/
theorem call {action : SubmitAction count} {result : SubmitResult count}
    (holds : SubmitsTracked plan nodes submitted (action :: actions) results)
    (index : result.index = action.index) (generation : result.generation = action.generation) :
    SubmitsTracked plan nodes (action.index :: submitted) actions (results ++ [result]) where
  once := List.nodup_cons.mpr ⟨(holds.chosen action List.mem_cons_self).2.2.1, holds.once⟩
  called := by
    intro other member
    rcases List.mem_cons.mp member with same | member
    · rw [same]
      exact Or.inr (Or.inr (holds.chosen action List.mem_cons_self).1)
    · exact holds.called other member
  inflight := by
    intro other asked
    obtain ⟨unfinished, place⟩ := holds.inflight other asked
    refine ⟨unfinished, ?_⟩
    rw [List.map_append, List.mem_append]
    rcases place with ahead | behind
    · rcases List.mem_cons.mp ahead with same | ahead
      · exact Or.inr (Or.inr (by simp [same, index]))
      · exact Or.inl ahead
    · exact Or.inr (Or.inl behind)
  distinct := (List.nodup_cons.mp holds.distinct).2
  chosen := by
    intro other member
    obtain ⟨asked, same, uncalled, satisfied⟩ :=
      holds.chosen other (List.mem_cons_of_mem _ member)
    refine ⟨asked, same, ?_, satisfied⟩
    intro called
    rcases List.mem_cons.mp called with again | before
    · refine (List.nodup_cons.mp holds.distinct).1 ?_
      rw [← again]
      exact List.mem_map_of_mem member
    · exact uncalled before
  current := by
    intro other member
    rcases List.mem_append.mp member with before | new
    · exact holds.current other before
    · rw [List.mem_singleton.mp new, index, generation]
      exact (holds.chosen action List.mem_cons_self).2.1

theorem not_terminal_ready : ¬ GroupNodeStatus.ready.IsTerminal := by decide

/-- A node that starts nothing may become ready. -/
theorem dependencies_submitting {other : Fin count} (valid : ∀ other, NodeValid (nodes other))
    (unsubmitted : ¬ (nodes index).submitted) (unfinished : ¬ (nodes index).status.IsTerminal)
    (satisfied : DependenciesSatisfied plan nodes other) :
    DependenciesSatisfied plan (Function.update nodes index (submitting (nodes index))) other := by
  intro id member
  obtain ⟨dependency, found, allows⟩ := satisfied id member
  refine ⟨dependency, found, ?_⟩
  have different : dependency ≠ index := by
    intro same
    rw [same] at allows
    exact (valid index).not_allows unsubmitted unfinished _ allows
  rw [Function.update_of_ne different]
  exact allows

/-- A node is chosen. -/
theorem choose (holds : SubmitsTracked plan nodes submitted actions [])
    (valid : ∀ other, NodeValid (nodes other)) (unsubmitted : ¬ (nodes index).submitted)
    (unfinished : ¬ (nodes index).status.IsTerminal)
    (unasked : ¬ (nodes index).submitInflight)
    (satisfied : DependenciesSatisfied plan nodes index) :
    SubmitsTracked plan (Function.update nodes index (submitting (nodes index))) submitted
      (actions ++ [⟨index, (submitting (nodes index)).generation⟩]) [] := by
  have uncalled : index ∉ submitted := by
    intro member
    rcases holds.called index member with before | ended | asked
    · exact unsubmitted before
    · exact unfinished ended
    · exact unasked asked
  have unchosen : index ∉ actions.map SubmitAction.index := by
    intro member
    obtain ⟨action, before, same⟩ := List.mem_map.mp member
    exact unasked (same ▸ (holds.chosen action before).1)
  constructor
  case once => exact holds.once
  case called =>
    intro other member
    have different : other ≠ index := fun same => uncalled (same ▸ member)
    rw [Function.update_of_ne different]
    exact holds.called other member
  case inflight =>
    intro other asked
    rw [List.map_append, List.mem_append]
    by_cases same : other = index
    · subst same
      rw [Function.update_self]
      exact ⟨⟨unsubmitted, not_terminal_ready⟩, Or.inl (Or.inr (by simp))⟩
    · rw [Function.update_of_ne same] at asked ⊢
      obtain ⟨unended, place⟩ := holds.inflight other asked
      exact ⟨unended, place.imp Or.inl id⟩
  case distinct =>
    rw [List.map_append, List.map_singleton]
    refine List.nodup_append.mpr ⟨holds.distinct, by simp, ?_⟩
    intro one member two single same
    rw [List.mem_singleton.mp single] at same
    have found : one = index := same
    exact unchosen (found ▸ member)
  case chosen =>
    intro action member
    rcases List.mem_append.mp member with before | new
    · obtain ⟨asked, generation, uncalledBefore, satisfiedBefore⟩ := holds.chosen action before
      have different : action.index ≠ index := by
        intro same
        exact unchosen (same ▸ List.mem_map_of_mem before)
      rw [Function.update_of_ne different]
      exact ⟨asked, generation, uncalledBefore,
        dependencies_submitting valid unsubmitted unfinished satisfiedBefore⟩
    · rw [List.mem_singleton.mp new]
      simp only [Function.update_self]
      exact ⟨rfl, trivial, uncalled,
        dependencies_submitting valid unsubmitted unfinished satisfied⟩
  case current => exact nofun

/-- Nothing of an answered node is asked any more. -/
theorem answered {result : SubmitResult count} {node : NodeState}
    (holds : SubmitsTracked plan nodes submitted [] (result :: results))
    (idle : node.submitInflight = false)
    (finished : node.submitted ∨ node.status.IsTerminal)
    (generation : node.generation = (nodes result.index).generation) :
    SubmitsTracked plan (Function.update nodes result.index node) submitted [] results where
  once := holds.once
  called := by
    intro other member
    by_cases same : other = result.index
    · subst same
      rw [Function.update_self]
      exact finished.imp id Or.inl
    · rw [Function.update_of_ne same]
      exact holds.called other member
  inflight := by
    intro other asked
    by_cases same : other = result.index
    · subst same
      rw [Function.update_self, idle] at asked
      cases asked
    · rw [Function.update_of_ne same] at asked ⊢
      obtain ⟨unended, place⟩ := holds.inflight other asked
      refine ⟨unended, Or.inr ?_⟩
      rcases place with ahead | behind
      · cases ahead
      · exact (List.mem_cons.mp behind).resolve_left same
  distinct := List.nodup_nil
  chosen := nofun
  current := by
    intro other member
    have before := holds.current other (List.mem_cons_of_mem _ member)
    by_cases same : other.index = result.index
    · rw [same, Function.update_self, generation, ← same]
      exact before
    · rw [Function.update_of_ne same]
      exact before

end SubmitsTracked

theorem nodes_markGroupFailed (state : GroupState count) (failure : GroupErrorMeta) :
    (state.markGroupFailed failure).nodes = state.nodes := by
  unfold markGroupFailed
  split <;> rfl

/-- What a section of the loop does to one node that is being submitted. -/
theorem submitFailed_valid {node : NodeState} (valid : NodeValid node)
    (unsubmitted : ¬ node.submitted) (result : SubmitResult count) :
    NodeValid (submitFailed plan node result) where
  named := valid.named
  unstarted := fun _ => ⟨nofun, nofun⟩
  queried := fun asked => absurd (valid.queried asked).1 unsubmitted
  stopping := valid.stopping
  sent := valid.sent

theorem submitDone_valid {node : NodeState} (valid : NodeValid node)
    {result : SubmitResult count} (named : result.runtimeTaskId ≠ "") :
    NodeValid (submitDone node result) where
  named := fun _ => named
  unstarted := fun unsubmitted => absurd rfl unsubmitted
  queried := fun _ => ⟨rfl, show ¬ GroupNodeStatus.running.IsTerminal by decide⟩
  stopping := valid.stopping
  sent := fun _ => rfl

theorem submitting_valid {node : NodeState} (valid : NodeValid node)
    (unsubmitted : ¬ node.submitted) : NodeValid (submitting node) where
  named := valid.named
  unstarted := fun _ => ⟨nofun, nofun⟩
  queried := fun asked => absurd (valid.queried asked).1 unsubmitted
  stopping := valid.stopping
  sent := valid.sent

/-- What the choice of nodes to submit leaves of a node. -/
structure Chosen (old new : NodeState) : Prop where
  failed : new.status = .failed ↔ old.status = .failed
  sent : new.stopSent = old.stopSent

/-- The sections that submit keep what is known of the nodes. -/
theorem selectSubmits {submitted : List (Fin count)} (indices : List (Fin count))
    {actions : List (SubmitAction count)} (valid : ∀ other, NodeValid (nodes other))
    (holds : SubmitsTracked plan nodes submitted actions []) :
    (∀ other, NodeValid ((indices.foldl (selectSubmit plan) (nodes, actions)).1 other)) ∧
    SubmitsTracked plan (indices.foldl (selectSubmit plan) (nodes, actions)).1 submitted
      (indices.foldl (selectSubmit plan) (nodes, actions)).2 [] ∧
    ∀ other, Chosen (nodes other) ((indices.foldl (selectSubmit plan) (nodes, actions)).1 other) := by
  induction indices generalizing nodes actions with
  | nil => exact ⟨valid, holds, fun _ => ⟨Iff.rfl, rfl⟩⟩
  | cons first rest ih =>
      rw [List.foldl_cons]
      by_cases candidate : (nodes first).submitted ∨ (nodes first).status.IsTerminal ∨
          (nodes first).submitInflight
      · have same : selectSubmit plan (nodes, actions) first = (nodes, actions) := by
          simp only [selectSubmit, if_pos candidate]
        rw [same]
        exact ih valid holds
      · by_cases satisfied : DependenciesSatisfied plan nodes first
        · have chosen : selectSubmit plan (nodes, actions) first =
              (Function.update nodes first (submitting (nodes first)),
                actions ++ [⟨first, (submitting (nodes first)).generation⟩]) := by
            simp only [selectSubmit, if_neg candidate, if_pos satisfied]
          rw [not_or, not_or] at candidate
          obtain ⟨unsubmitted, unfinished, unasked⟩ := candidate
          have change : ∀ other, Chosen (nodes other)
              (Function.update nodes first (submitting (nodes first)) other) := by
            intro other
            by_cases same : other = first
            · subst same
              rw [Function.update_self]
              refine ⟨⟨nofun, fun failed => absurd ?_ unfinished⟩, rfl⟩
              exact Or.inr (Or.inr (Or.inl failed))
            · rw [Function.update_of_ne same]
              exact ⟨Iff.rfl, rfl⟩
          rw [chosen]
          obtain ⟨restValid, restHolds, restChosen⟩ := ih
            (forall_update valid (submitting_valid (valid first) unsubmitted))
            (holds.choose valid unsubmitted unfinished unasked satisfied)
          refine ⟨restValid, restHolds, fun other => ?_⟩
          exact ⟨(restChosen other).failed.trans (change other).failed,
            (restChosen other).sent.trans (change other).sent⟩
        · have same : selectSubmit plan (nodes, actions) first = (nodes, actions) := by
            simp only [selectSubmit, if_neg candidate, if_neg satisfied]
          rw [same]
          exact ih valid holds

theorem applySubmit_sound {submitted : List (Fin count)} {result : SubmitResult count}
    {results : List (SubmitResult count)} {state : GroupState count}
    (valid : ∀ other, NodeValid (state.nodes other))
    (holds : SubmitsTracked plan state.nodes submitted [] (result :: results)) :
    (∀ other, NodeValid ((applySubmit plan state result).nodes other)) ∧
    SubmitsTracked plan (applySubmit plan state result).nodes submitted [] results := by
  have current := holds.current result List.mem_cons_self
  by_cases asked : (state.nodes result.index).submitInflight
  · have unsubmitted := (holds.inflight _ asked).1.1
    by_cases refused : result.rc ≠ 0 ∨ result.runtimeTaskId = ""
    · have written : (applySubmit plan state result).nodes =
            Function.update state.nodes result.index
              (submitFailed plan (state.nodes result.index) result) := by
        simp only [applySubmit, if_pos asked, if_pos current, if_pos refused,
          nodes_markGroupFailed]
        rfl
      rw [written]
      constructor
      · exact forall_update valid (submitFailed_valid (valid _) unsubmitted result)
      · exact holds.answered rfl (Or.inr (Or.inr (Or.inr (Or.inl rfl)))) rfl
    · have written : (applySubmit plan state result).nodes =
            Function.update state.nodes result.index
              (submitDone (state.nodes result.index) result) := by
        simp only [applySubmit, if_pos asked, if_pos current, if_neg refused]
        rfl
      have named : result.runtimeTaskId ≠ "" := fun empty => refused (Or.inr empty)
      rw [written]
      constructor
      · exact forall_update valid (submitDone_valid (valid _) named)
      · exact holds.answered rfl (Or.inl rfl) rfl
  · have same : applySubmit plan state result = state := by
      simp only [applySubmit, if_neg asked]
    rw [same]
    refine ⟨valid, holds.once, holds.called, fun other othersAsked => ?_, holds.distinct,
      holds.chosen, fun other member => holds.current other (List.mem_cons_of_mem _ member)⟩
    obtain ⟨unended, place⟩ := holds.inflight other othersAsked
    refine ⟨unended, place.imp id fun behind => ?_⟩
    refine (List.mem_cons.mp behind).resolve_left fun here => asked ?_
    rw [← here]
    exact othersAsked

theorem applySubmits {submitted : List (Fin count)} {results : List (SubmitResult count)}
    {state : GroupState count} (valid : ∀ other, NodeValid (state.nodes other))
    (holds : SubmitsTracked plan state.nodes submitted [] results) :
    (∀ other, NodeValid ((results.foldl (applySubmit plan) state).nodes other)) ∧
    SubmitsTracked plan (results.foldl (applySubmit plan) state).nodes submitted [] [] := by
  induction results generalizing state with
  | nil => exact ⟨valid, holds⟩
  | cons result rest ih =>
      obtain ⟨nextValid, nextHolds⟩ := applySubmit_sound valid holds
      exact ih nextValid nextHolds

/-! ## Stops -/

/-- The stop calls that were made and those that are due. -/
structure StopsTracked (nodes : Nodes count) (stopped toStop : List (Fin count))
    (actions : List (StopAction count)) : Prop where
  once : stopped.Nodup
  sent : ∀ index, (nodes index).stopSent ↔
    index ∈ stopped ∨ index ∈ actions.map StopAction.index
  distinct : (actions.map StopAction.index).Nodup
  uncalled : ∀ action ∈ actions, action.index ∉ stopped
  due : ∀ index ∈ toStop, (nodes index).stopSent

namespace StopsTracked

variable {stopped toStop : List (Fin count)} {actions : List (StopAction count)}

theorem same_sent {next : Nodes count} (holds : StopsTracked nodes stopped toStop actions)
    (same : ∀ index, (next index).stopSent = (nodes index).stopSent) :
    StopsTracked next stopped toStop actions where
  once := holds.once
  sent := fun index => same index ▸ holds.sent index
  distinct := holds.distinct
  uncalled := holds.uncalled
  due := fun index member => same index ▸ holds.due index member

theorem call {action : StopAction count}
    (holds : StopsTracked nodes stopped toStop (action :: actions)) :
    StopsTracked nodes (action.index :: stopped) toStop actions where
  once := List.nodup_cons.mpr ⟨holds.uncalled action List.mem_cons_self, holds.once⟩
  sent := by
    intro index
    rw [holds.sent index, List.map_cons, List.mem_cons, List.mem_cons]
    tauto
  distinct := (List.nodup_cons.mp holds.distinct).2
  uncalled := by
    intro other member called
    rcases List.mem_cons.mp called with again | before
    · refine (List.nodup_cons.mp holds.distinct).1 ?_
      rw [← again]
      exact List.mem_map_of_mem member
    · exact holds.uncalled other (List.mem_cons_of_mem _ member) before
  due := holds.due

/-- A node is chosen. -/
theorem choose {runtimeTaskId : String} (holds : StopsTracked nodes stopped toStop actions)
    (unsent : ¬ (nodes index).stopSent) :
    StopsTracked (Function.update nodes index (stopping (nodes index))) stopped toStop
      (actions ++ [⟨index, (stopping (nodes index)).generation, runtimeTaskId⟩]) := by
  have neither := mt (holds.sent index).mpr unsent
  rw [not_or] at neither
  constructor
  case once => exact holds.once
  case sent =>
    intro other
    rw [List.map_append, List.mem_append]
    by_cases same : other = index
    · subst same
      rw [Function.update_self]
      simp [stopping]
    · rw [Function.update_of_ne same, holds.sent other]
      simp [same]
  case distinct =>
    rw [List.map_append, List.map_singleton]
    refine List.nodup_append.mpr ⟨holds.distinct, by simp, ?_⟩
    intro one member two single same
    rw [List.mem_singleton.mp single] at same
    have found : one = index := same
    exact neither.2 (found ▸ member)
  case uncalled =>
    intro action member
    rcases List.mem_append.mp member with before | new
    · exact holds.uncalled action before
    · rw [List.mem_singleton.mp new]
      exact neither.1
  case due =>
    intro other member
    by_cases same : other = index
    · subst same
      rw [Function.update_self]
      rfl
    · rw [Function.update_of_ne same]
      exact holds.due other member

end StopsTracked

/-- What the stop section does to one node. -/
structure Stops (old new : NodeState) : Prop where
  submitted : new.submitted = old.submitted
  submitInflight : new.submitInflight = old.submitInflight
  terminal : old.status.IsTerminal → new.status = old.status
  failed : new.status = .failed → old.status = .failed
  sent : old.stopSent → new.stopSent

theorem Stops.refl (node : NodeState) : Stops node node := ⟨rfl, rfl, fun _ => rfl, id, id⟩

theorem Stops.trans {first second third : NodeState} (left : Stops first second)
    (right : Stops second third) : Stops first third where
  submitted := right.submitted.trans left.submitted
  submitInflight := right.submitInflight.trans left.submitInflight
  terminal := by
    intro ended
    have same := left.terminal ended
    exact (right.terminal (same ▸ ended)).trans same
  failed := left.failed ∘ right.failed
  sent := right.sent ∘ left.sent

theorem stops_update {node : NodeState} (stops : Stops (nodes index) node) (other : Fin count) :
    Stops (nodes other) (Function.update nodes index node other) := by
  by_cases same : other = index
  · subst same
    rwa [Function.update_self]
  · rw [Function.update_of_ne same]
    exact .refl _

variable {state : GroupState count} {stopped toStop : List (Fin count)}
  {actions : List (StopAction count)}

/-- What one visit of the stop section finds and does. -/
theorem selectStop_cases (state : GroupState count) (valid : NodeValid (nodes index))
    (actions : List (StopAction count)) :
    (state.selectStop (nodes, actions) index = (nodes, actions) ∧
      ((nodes index).submitted → (nodes index).status.IsTerminal ∨ (nodes index).stopSent)) ∨
    (state.selectStop (nodes, actions) index =
        (Function.update nodes index (state.dropped (nodes index)), actions) ∧
      ¬ (nodes index).submitted ∧ ¬ (nodes index).status.IsTerminal) ∨
    (state.selectStop (nodes, actions) index =
        (Function.update nodes index (stopping (nodes index)),
          actions ++ [⟨index, (stopping (nodes index)).generation, (nodes index).runtimeTaskId⟩]) ∧
      (nodes index).submitted ∧ ¬ (nodes index).status.IsTerminal ∧ ¬ (nodes index).stopSent) := by
  by_cases unsubmitted : ¬ (nodes index).submitted ∨ (nodes index).runtimeTaskId = ""
  · have never : ¬ (nodes index).submitted := by
      rcases unsubmitted with never | unnamed
      · exact never
      · exact fun submitted => valid.named submitted unnamed
    by_cases ended : (nodes index).status.IsTerminal
    · left
      refine ⟨?_, fun submitted => absurd submitted never⟩
      simp only [selectStop, if_pos unsubmitted, if_pos ended]
    · right
      left
      refine ⟨?_, never, ended⟩
      simp only [selectStop, if_pos unsubmitted, if_neg ended]
  · by_cases ended : (nodes index).status.IsTerminal
    · left
      refine ⟨?_, fun _ => Or.inl ended⟩
      simp only [selectStop, if_neg unsubmitted, if_pos ended]
    · by_cases sent : (nodes index).stopSent ∨ (nodes index).stopInflight
      · left
        refine ⟨?_, fun _ => Or.inr (sent.elim id valid.stopping)⟩
        simp only [selectStop, if_neg unsubmitted, if_neg ended, if_pos sent]
      · right
        right
        refine ⟨?_, ?_, ended, fun before => sent (Or.inl before)⟩
        · simp only [selectStop, if_neg unsubmitted, if_neg ended, if_neg sent]
        · by_contra never
          exact unsubmitted (Or.inl never)

theorem dropped_valid {node : NodeState} (valid : NodeValid node) (never : ¬ node.submitted)
    (state : GroupState count) : NodeValid (state.dropped node) where
  named := valid.named
  unstarted := fun _ => by
    simp only [dropped]
    split <;> exact ⟨nofun, nofun⟩
  queried := fun asked => absurd (valid.queried asked).1 never
  stopping := valid.stopping
  sent := valid.sent

theorem stopping_valid {node : NodeState} (valid : NodeValid node) (submitted : node.submitted) :
    NodeValid (stopping node) where
  named := valid.named
  unstarted := fun never => absurd submitted never
  queried := fun _ => ⟨submitted, show ¬ GroupNodeStatus.stopping.IsTerminal by decide⟩
  stopping := fun _ => rfl
  sent := fun _ => submitted

/-- The stop section: every submitted node that has not ended gets its stop call. -/
theorem selectStops (state : GroupState count) (indices : List (Fin count))
    (valid : ∀ other, NodeValid (nodes other))
    (holds : StopsTracked nodes stopped toStop actions) :
    (∀ other, NodeValid ((indices.foldl state.selectStop (nodes, actions)).1 other)) ∧
    StopsTracked (indices.foldl state.selectStop (nodes, actions)).1 stopped toStop
      (indices.foldl state.selectStop (nodes, actions)).2 ∧
    (∀ other, Stops (nodes other) ((indices.foldl state.selectStop (nodes, actions)).1 other)) ∧
    ∀ other ∈ indices, (nodes other).submitted → ¬ (nodes other).status.IsTerminal →
      ((indices.foldl state.selectStop (nodes, actions)).1 other).stopSent := by
  induction indices generalizing nodes actions with
  | nil => exact ⟨valid, holds, fun other => .refl _, nofun⟩
  | cons first rest ih =>
      rw [List.foldl_cons]
      rcases selectStop_cases state (valid first) actions with
        ⟨step, settled⟩ | ⟨step, never, unfinished⟩ | ⟨step, submitted, unfinished, unsent⟩
      · rw [step]
        obtain ⟨restValid, restHolds, restStops, restSent⟩ := ih valid holds
        refine ⟨restValid, restHolds, restStops, fun other member submitted unfinished => ?_⟩
        rcases List.mem_cons.mp member with here | later
        · subst here
          exact (restStops other).sent ((settled submitted).resolve_left unfinished)
        · exact restSent other later submitted unfinished
      · have change : ∀ other, Stops (nodes other)
            (Function.update nodes first (state.dropped (nodes first)) other) := by
          refine stops_update ⟨rfl, rfl, fun ended => absurd ended unfinished, ?_, id⟩
          simp only [dropped]
          split <;> nofun
        rw [step]
        obtain ⟨restValid, restHolds, restStops, restSent⟩ :=
          @ih (Function.update nodes first (state.dropped (nodes first))) actions
            (forall_update valid (dropped_valid (valid first) never state))
            (holds.same_sent fun other => by
              by_cases same : other = first
              · subst same
                rw [Function.update_self]
                rfl
              · rw [Function.update_of_ne same])
        refine ⟨restValid, restHolds, fun other => (change other).trans (restStops other), ?_⟩
        intro other member submitted unended
        rcases List.mem_cons.mp member with here | later
        · exact absurd (here ▸ submitted) never
        · by_cases same : other = first
          · exact absurd (same ▸ submitted) never
          · have unchanged : Function.update nodes first (state.dropped (nodes first)) other =
                nodes other := Function.update_of_ne same _ _
            exact restSent other later (unchanged ▸ submitted) (unchanged ▸ unended)
      · have change : ∀ other, Stops (nodes other)
            (Function.update nodes first (stopping (nodes first)) other) :=
          stops_update ⟨rfl, rfl, fun ended => absurd ended unfinished, nofun, fun _ => rfl⟩
        rw [step]
        obtain ⟨restValid, restHolds, restStops, restSent⟩ :=
          ih (forall_update valid (stopping_valid (valid first) submitted))
            (holds.choose unsent)
        refine ⟨restValid, restHolds, fun other => (change other).trans (restStops other), ?_⟩
        intro other member otherSubmitted unended
        by_cases same : other = first
        · refine (restStops other).sent ?_
          rw [same, Function.update_self]
          rfl
        · have unchanged : Function.update nodes first (stopping (nodes first)) other =
              nodes other := Function.update_of_ne same _ _
          exact restSent other ((List.mem_cons.mp member).resolve_left same)
            (unchanged ▸ otherSubmitted) (unchanged ▸ unended)

theorem applyStop_keeps (action : StopAction count) (other : Fin count) :
    Keeps (nodes other) (applyStop nodes action other) := by
  simp only [applyStop]
  split
  · refine keeps_update ?_ other
    exact ⟨rfl, rfl, rfl, fun _ => rfl⟩
  · exact .refl _

theorem applyStop_valid (valid : ∀ other, NodeValid (nodes other)) (action : StopAction count)
    (other : Fin count) : NodeValid (applyStop nodes action other) := by
  simp only [applyStop]
  split
  · refine forall_update valid ?_ other
    exact ⟨(valid _).named, (valid _).unstarted, (valid _).queried, nofun, (valid _).sent⟩
  · exact valid other

theorem applyStops (valid : ∀ other, NodeValid (nodes other)) (actions : List (StopAction count)) :
    (∀ other, NodeValid (actions.foldl applyStop nodes other)) ∧
    (∀ other, Keeps (nodes other) (actions.foldl applyStop nodes other)) ∧
    ∀ other, (actions.foldl applyStop nodes other).status = (nodes other).status := by
  induction actions generalizing nodes with
  | nil => exact ⟨valid, fun other => .refl _, fun _ => rfl⟩
  | cons first rest ih =>
      obtain ⟨restValid, restKeeps, restStatus⟩ := ih (applyStop_valid valid first)
      refine ⟨restValid, fun other => (applyStop_keeps first other).trans (restKeeps other),
        fun other => (restStatus other).trans ?_⟩
      simp only [applyStop]
      split
      · by_cases same : other = first.index
        · rw [same, Function.update_self]
        · rw [Function.update_of_ne same]
      · rfl

end GroupState

end Flowsql.Scheduler
