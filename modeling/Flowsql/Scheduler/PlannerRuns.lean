import Flowsql.Scheduler.StreamGroupPlanner

/-!
# The nodes of a plan

The state of the planner after so many statements, in terms of the statements alone: which of them write
a sink, and which a node depends on. Dependencies lead backwards, so the plan has no cycle.
-/

namespace Flowsql.Scheduler

open Flowsql.Library

/-! ## Answers -/

section

variable {α β : Type}

theorem bind_eq_ok {answer : Except PlanFailure α} {next : α → Except PlanFailure β} {result : β} :
    (answer >>= next) = .ok result ↔ ∃ value, answer = .ok value ∧ next value = .ok result := by
  cases answer with
  | error failure => exact ⟨nofun, fun ⟨_, wrong, _⟩ => nomatch wrong⟩
  | ok value =>
      refine ⟨fun ended => ⟨value, rfl, ended⟩, ?_⟩
      rintro ⟨_, ⟨⟩, ended⟩
      exact ended

theorem check_eq_ok {wrong : Prop} [Decidable wrong] {failure : PlanFailure} {result : Unit} :
    check wrong failure = .ok result ↔ ¬ wrong := by
  unfold check
  split
  · exact ⟨nofun, fun right => absurd ‹wrong› right⟩
  · exact ⟨fun _ => ‹¬ wrong›, fun _ => rfl⟩

theorem need_eq_ok {answer : Option α} {failure : PlanFailure} {value : α} :
    need answer failure = .ok value ↔ answer = some value := by
  cases answer with
  | none => exact ⟨nofun, nofun⟩
  | some other => exact ⟨fun same => by cases same; rfl, fun same => by cases same; rfl⟩

end

theorem nodeId_injective : Function.Injective nodeId := by
  intro left right same
  unfold nodeId at same
  have digits := congrArg String.toList same
  rw [String.toList_append, String.toList_append, List.append_cancel_left_eq] at digits
  have number := congrArg (fun digits => Nat.ofDigitChars 10 digits 0) digits
  simp only [Nat.toString_eq_repr, Nat.toList_repr, Nat.ofDigitChars_ten_toDigits] at number
  omega

/-! ## What the statements say -/

section

variable (env : PlannerEnv)

/-- The sources of a statement, without selectors and case. -/
def sourceBasesOf (sql : String) : List String :=
  (parseStatement env sql).sources.map fun source => ((parseChannelBase source).getD "").toLower

def sinkOf (sql : String) : String :=
  (parseChannelBase (parseStatement env sql).dest).getD ""

/-- The sink of a statement, without selector and case. -/
def sinkBaseOf (sql : String) : String :=
  (sinkOf env sql).toLower

def writesStream (sql : String) : Bool :=
  startsWithIgnoreCase (sinkOf env sql) "stream."

/-- The stream channel that a statement writes. -/
def streamSinkOf (sql : String) : Option StreamSinkChannel :=
  if writesStream env sql then env.findStreamChannel (sinkOf env sql) else none

def streamKeyOf (sql : String) : Option String :=
  (streamSinkOf env sql).map fun channel => makeStreamChannelKey channel.category channel.name

variable (sqls : List String)

/-- The statements before one that write one of its sources. -/
def dependenciesOf (index : Nat) : List Nat :=
  (List.range index).filter fun earlier =>
    sinkBaseOf env (sqls.getD earlier "") ∈ sourceBasesOf env (sqls.getD index "")

/-- The statements that write a sink, among the first ones. -/
def producersOf (count : Nat) (base : String) : List Nat :=
  (List.range count).filter fun index => sinkBaseOf env (sqls.getD index "") = base

/-- The statements that write a stream channel, among the first ones. -/
def streamWritersOf (count : Nat) (key : String) : List Nat :=
  (List.range count).filter fun index => streamKeyOf env (sqls.getD index "") = some key

/-- The statements that write another sink, among the first ones. -/
def otherWritersOf (count : Nat) (base : String) : List Nat :=
  (List.range count).filter fun index =>
    writesStream env (sqls.getD index "") = false ∧ sinkBaseOf env (sqls.getD index "") = base

/-- What the sources of a statement resolve to. -/
def resolvedOf (index : Nat) : SourceResolveResult :=
  (env.resolveSourceBindings (sqls.getD index "")
    (parseStatement env (sqls.getD index ""))).resolved

/-- The state after the first statements. -/
structure Planned (count : Nat) (state : PlannerState) : Prop where
  length : state.plans.length = count
  node : ∀ index < count, ∃ plan, state.plans[index]? = some plan ∧ plan.id = nodeId index ∧
    plan.sql = sqls.getD index "" ∧ plan.sqlIndex = index ∧
    plan.dependsOn = (dependenciesOf env sqls index).map nodeId
  index : ∀ index < count, state.nodeIndex.lookup (nodeId index) = some index
  resolved : ∀ index < count,
    state.nodeResolved.lookup (nodeId index) = some (resolvedOf env sqls index)
  producers : ∀ base, (state.sinkProducers.lookup base).getD [] = producersOf env sqls count base
  streamCounts : ∀ key, (state.streamSinkWriterCounts.lookup key).getD 0 =
    (streamWritersOf env sqls count key).length
  caps : ∀ key, state.streamSinkCaps.lookup key = ((streamWritersOf env sqls count key).getLast?.bind
    fun index => streamSinkOf env (sqls.getD index "")).map (·.capabilities)
  otherCounts : ∀ base, (state.nonStreamSinkWriterCounts.lookup base).getD 0 =
    (otherWritersOf env sqls count base).length

theorem planned_initially : Planned env sqls 0 {} := by
  refine ⟨rfl, ?_, ?_, ?_, ?_, ?_, ?_, ?_⟩
  · intro index below
    omega
  · intro index below
    omega
  · intro index below
    omega
  · exact fun base => by simp [producersOf]
  · exact fun key => by simp [streamWritersOf]
  · exact fun key => by simp [streamWritersOf]
  · exact fun base => by simp [otherWritersOf]

end

namespace Planned

variable {env : PlannerEnv} {sqls : List String} {count : Nat} {state : PlannerState}

theorem node_id (planned : Planned env sqls count state) {index : Nat} (below : index < count) :
    ∃ plan, state.plans[index]? = some plan ∧ plan.id = nodeId index := by
  obtain ⟨plan, found, id, -⟩ := planned.node index below
  exact ⟨plan, found, id⟩

/-! ## Dependencies -/

/-- The producers of a source are added to the nodes that are found. -/
theorem insertProducers_ok (planned : Planned env sqls count state) {index : Nat}
    {producers : List Nat} (known : ∀ producer ∈ producers, producer < count) {ids found : List String}
    (distinct : ids.Nodup) (ran : insertProducers state index producers ids = .ok found) :
    found.Nodup ∧ ∀ id, id ∈ found ↔ id ∈ ids ∨ ∃ producer ∈ producers, id = nodeId producer := by
  induction producers generalizing ids with
  | nil =>
      cases ran
      exact ⟨distinct, by simp⟩
  | cons producer rest ih =>
      rw [insertProducers, bind_eq_ok] at ran
      obtain ⟨plan, present, ran⟩ := ran
      obtain ⟨plan', present', same⟩ := planned.node_id (known producer List.mem_cons_self)
      rw [need_eq_ok, present'] at present
      cases present
      obtain ⟨nodup, members⟩ := ih (fun other member => known other (List.mem_cons_of_mem _ member))
        (distinct.insert) ran
      refine ⟨nodup, fun id => ?_⟩
      rw [members, List.mem_insert_iff, same, List.exists_mem_cons_iff, or_assoc, or_left_comm]

/-- The sources are parsed, and the nodes before that write them are found. -/
theorem collectSources_ok (planned : Planned env sqls count state) {index : Nat}
    {sources bases ids foundBases foundIds : List String} (distinct : ids.Nodup)
    (ran : collectSources state index sources bases ids = .ok (foundBases, foundIds)) :
    foundIds.Nodup ∧
    foundBases = bases ++ sources.map (fun source => ((parseChannelBase source).getD "").toLower) ∧
    ∀ id, id ∈ foundIds ↔ id ∈ ids ∨ ∃ earlier < count, id = nodeId earlier ∧
      sinkBaseOf env (sqls.getD earlier "") ∈
        sources.map fun source => ((parseChannelBase source).getD "").toLower := by
  induction sources generalizing bases ids with
  | nil =>
      cases ran
      exact ⟨distinct, by simp, by simp⟩
  | cons source rest ih =>
      rw [collectSources, bind_eq_ok] at ran
      obtain ⟨base, parsed, ran⟩ := ran
      simp only [bind_eq_ok] at ran
      obtain ⟨next, inserted, ran⟩ := ran
      rw [need_eq_ok] at parsed
      rw [planned.producers] at inserted
      have known : ∀ producer ∈ producersOf env sqls count base.toLower, producer < count :=
        fun producer member => List.mem_range.mp (List.mem_filter.mp member).1
      obtain ⟨next_distinct, members⟩ := planned.insertProducers_ok known distinct inserted
      obtain ⟨nodup, bases_eq, found⟩ := ih next_distinct ran
      refine ⟨nodup, ?_, fun id => ?_⟩
      · rw [bases_eq, List.map_cons, parsed, List.append_assoc]
        rfl
      · rw [found, members, List.map_cons, parsed, or_assoc]
        refine or_congr_right ⟨?_, ?_⟩
        · rintro (⟨producer, member, same⟩ | ⟨earlier, below, same, among⟩)
          · obtain ⟨below, writes⟩ := List.mem_filter.mp member
            refine ⟨producer, List.mem_range.mp below, same, ?_⟩
            rw [of_decide_eq_true writes]
            exact List.mem_cons_self
          · exact ⟨earlier, below, same, List.mem_cons_of_mem _ among⟩
        · rintro ⟨earlier, below, same, among⟩
          rcases List.mem_cons.mp among with writes | among
          · refine .inl ⟨earlier, List.mem_filter.mpr ⟨List.mem_range.mpr below, ?_⟩, same⟩
            exact decide_eq_true writes
          · exact .inr ⟨earlier, below, same, among⟩

/-- The nodes that are found, in their order. -/
theorem dependencyOrder_eq {nodeIndex : AList fun _ : String => Nat}
    (index : ∀ earlier < count, nodeIndex.lookup (nodeId earlier) = some earlier)
    {ids : List String} (distinct : ids.Nodup) {goes : Nat → Prop} [DecidablePred goes]
    (members : ∀ id, id ∈ ids ↔ ∃ earlier < count, id = nodeId earlier ∧ goes earlier) :
    dependencyOrder nodeIndex ids = (List.range count).filter goes := by
  have same : ids.Perm (((List.range count).filter goes).map nodeId) := by
    refine (List.perm_ext_iff_of_nodup distinct ?_).mpr fun id => ?_
    · exact (List.nodup_range.filter _).map nodeId_injective
    · rw [members, List.mem_map]
      constructor
      · rintro ⟨earlier, below, rfl, chosen⟩
        exact ⟨earlier, List.mem_filter.mpr ⟨List.mem_range.mpr below, decide_eq_true chosen⟩, rfl⟩
      · rintro ⟨earlier, member, rfl⟩
        obtain ⟨below, chosen⟩ := List.mem_filter.mp member
        exact ⟨earlier, List.mem_range.mp below, rfl, of_decide_eq_true chosen⟩
  have looked : (((List.range count).filter goes).map nodeId).filterMap nodeIndex.lookup =
      (List.range count).filter goes := by
    rw [List.filterMap_map]
    refine (List.filterMap_congr fun earlier member => ?_).trans (List.filterMap_some ..)
    exact index earlier (List.mem_range.mp (List.mem_filter.mp member).1)
  have increasing : ((List.range count).filter goes).Pairwise (· < ·) :=
    List.pairwise_lt_range.filter _
  have sorted : (ids.filterMap nodeIndex.lookup).insertionSort (· ≤ ·) =
      (List.range count).filter goes := by
    refine List.Perm.eq_of_pairwise' (List.pairwise_insertionSort _ _) (increasing.imp Nat.le_of_lt)
      ((List.perm_insertionSort _ _).trans ?_)
    exact (same.filterMap _).trans (.of_eq looked)
  rw [dependencyOrder, sorted]
  exact List.destutter_of_isChain _ _ (increasing.imp Nat.ne_of_lt).isChain

end Planned

/-! ## Writers -/

section

variable {env : PlannerEnv} {state : PlannerState}

/-- A stream sink or another one has one more writer. -/
theorem countWriter_ok {index : Nat} {sink : String} {after : PlannerState}
    (ran : countWriter env state index sink = .ok after) :
    (∃ channel, startsWithIgnoreCase sink "stream." = true ∧
      env.findStreamChannel sink = some channel ∧
      after.streamSinkWriterCounts = countUp (makeStreamChannelKey channel.category channel.name)
        state.streamSinkWriterCounts ∧
      after.streamSinkCaps = state.streamSinkCaps.insert
        (makeStreamChannelKey channel.category channel.name) channel.capabilities ∧
      after.nonStreamSinkWriterCounts = state.nonStreamSinkWriterCounts) ∨
    (startsWithIgnoreCase sink "stream." = false ∧
      after.streamSinkWriterCounts = state.streamSinkWriterCounts ∧
      after.streamSinkCaps = state.streamSinkCaps ∧
      after.nonStreamSinkWriterCounts = countUp sink.toLower state.nonStreamSinkWriterCounts) := by
  unfold countWriter at ran
  simp only [bind_eq_ok] at ran
  obtain ⟨-, -, ran⟩ := ran
  split at ran
  · rename_i stream
    rw [bind_eq_ok] at ran
    obtain ⟨channel, found, ran⟩ := ran
    rw [need_eq_ok] at found
    cases ran
    exact .inl ⟨channel, stream, found, rfl, rfl, rfl⟩
  · rename_i other
    cases ran
    exact .inr ⟨Bool.eq_false_iff.mpr other, rfl, rfl, rfl⟩

theorem lookup_countUp (key other : String) (counts : AList fun _ : String => Nat) :
    ((countUp key counts).lookup other).getD 0 =
      (counts.lookup other).getD 0 + if other = key then 1 else 0 := by
  unfold countUp
  by_cases same : other = key
  · subst same
    rw [AList.lookup_insert, if_pos rfl]
    rfl
  · rw [AList.lookup_insert_ne same, if_neg same]
    rfl

end

section

variable (env : PlannerEnv) (sqls : List String) (count : Nat)

theorem filter_range_succ (goes : Nat → Prop) [DecidablePred goes] :
    (List.range (count + 1)).filter goes =
      (List.range count).filter goes ++ if goes count then [count] else [] := by
  rw [List.range_succ, List.filter_append]
  by_cases holds : goes count <;> simp [holds]

theorem producersOf_succ (base : String) : producersOf env sqls (count + 1) base =
    producersOf env sqls count base ++
      if sinkBaseOf env (sqls.getD count "") = base then [count] else [] :=
  filter_range_succ count _

theorem streamWritersOf_succ (key : String) : streamWritersOf env sqls (count + 1) key =
    streamWritersOf env sqls count key ++
      if streamKeyOf env (sqls.getD count "") = some key then [count] else [] :=
  filter_range_succ count _

theorem otherWritersOf_succ (base : String) : otherWritersOf env sqls (count + 1) base =
    otherWritersOf env sqls count base ++
      if writesStream env (sqls.getD count "") = false ∧ sinkBaseOf env (sqls.getD count "") = base
      then [count] else [] :=
  filter_range_succ count _

end

namespace Planned

variable {env : PlannerEnv} {sqls : List String} {count : Nat} {state after : PlannerState}

/-- What the body of the loop leaves in the state. -/
theorem planNode_ok {index : Nat} {sql : String} (ran : planNode env state index sql = .ok after) :
    ∃ bases ids kind counted, collectSources state index (parseStatement env sql).sources [] [] =
        .ok (bases, ids) ∧
      countWriter env state index (sinkOf env sql) = .ok counted ∧
      nodeKind env state index sql bases = .ok kind ∧
      resolveSources env state index sql (parseStatement env sql) kind bases =
        .ok (env.resolveSourceBindings sql (parseStatement env sql)).resolved ∧
      after = { counted with
        plans := state.plans ++
          [{ id := nodeId index, sql := sql
             dependsOn := (dependencyOrder
               (state.nodeIndex.insert (nodeId index) state.plans.length) ids).filterMap
                 fun dependency => state.plans[dependency]?.map (·.id)
             startCondition := .onRunning, sqlIndex := index, kind := kind }]
        nodeIndex := state.nodeIndex.insert (nodeId index) state.plans.length
        nodeResolved := state.nodeResolved.insert (nodeId index)
          (env.resolveSourceBindings sql (parseStatement env sql)).resolved
        sinkProducers := state.sinkProducers.insert (sinkBaseOf env sql)
          ((state.sinkProducers.lookup (sinkBaseOf env sql)).getD [] ++ [index])
        edges := after.edges
        sqlBytes := after.sqlBytes } := by
  unfold planNode at ran
  simp only [bind_eq_ok] at ran
  obtain ⟨-, -, -, -, -, -, ⟨bases, ids⟩, collected, -, -, kind, kinded, resolved, resolving, sink,
    named, counted, counting, ran⟩ := ran
  have answer : resolved = (env.resolveSourceBindings sql (parseStatement env sql)).resolved := by
    unfold resolveSources at resolving
    simp only at resolving
    split at resolving
    · cases resolving
      rfl
    · split at resolving
      · cases resolving
      · cases resolving
        rfl
  rw [need_eq_ok] at named
  have same : sinkOf env sql = sink := by
    rw [sinkOf, named]
    rfl
  subst same
  subst answer
  cases ran
  exact ⟨bases, ids, kind, counted, collected, counting, kinded, resolving, rfl⟩

theorem streamKeyOf_stream {sql : String} {channel : StreamSinkChannel}
    (stream : startsWithIgnoreCase (sinkOf env sql) "stream." = true)
    (found : env.findStreamChannel (sinkOf env sql) = some channel) :
    streamKeyOf env sql = some (makeStreamChannelKey channel.category channel.name) := by
  have writes : writesStream env sql = true := stream
  rw [streamKeyOf, streamSinkOf, if_pos writes, found]
  rfl

theorem streamKeyOf_other {sql : String}
    (other : startsWithIgnoreCase (sinkOf env sql) "stream." = false) :
    streamKeyOf env sql = none := by
  rw [streamKeyOf, streamSinkOf, if_neg (by simp [writesStream, other])]
  rfl

/-- One more statement. -/
theorem step (planned : Planned env sqls count state)
    (ran : planNode env state count (sqls.getD count "") = .ok after) :
    Planned env sqls (count + 1) after := by
  obtain ⟨bases, ids, kind, counted, collected, counting, -, -, made⟩ := planNode_ok ran
  have fresh : ∀ {index}, index < count → nodeId index ≠ nodeId count := fun below same =>
    Nat.ne_of_lt below (nodeId_injective same)
  have index : ∀ earlier < count, (state.nodeIndex.insert (nodeId count) state.plans.length).lookup
      (nodeId earlier) = some earlier := by
    intro earlier below
    rw [AList.lookup_insert_ne (fresh below)]
    exact planned.index earlier below
  obtain ⟨distinct, -, members⟩ := planned.collectSources_ok List.nodup_nil collected
  have order : dependencyOrder (state.nodeIndex.insert (nodeId count) state.plans.length) ids =
      dependenciesOf env sqls count :=
    dependencyOrder_eq index distinct fun id => by
      rw [members]
      simp only [List.not_mem_nil, false_or]
      rfl
  have dependsOn : ((dependencyOrder (state.nodeIndex.insert (nodeId count) state.plans.length)
      ids).filterMap fun dependency => state.plans[dependency]?.map (·.id)) =
        (dependenciesOf env sqls count).map nodeId := by
    rw [order]
    refine (List.filterMap_congr fun earlier member => ?_).trans (congrFun List.filterMap_eq_map' _)
    obtain ⟨plan, found, id⟩ := planned.node_id (List.mem_range.mp (List.mem_filter.mp member).1)
    rw [found, Option.map_some, id]
  rw [dependsOn] at made
  refine ⟨?_, ?_, ?_, ?_, ?_, ?_, ?_, ?_⟩
  · rw [made, List.length_append, planned.length]
    rfl
  · intro earlier below
    rw [made]
    by_cases last : earlier = count
    · subst last
      have last (plan : PlannedNode) : (state.plans ++ [plan])[earlier]? = some plan := by
        rw [← planned.length]
        exact List.getElem?_concat_length
      exact ⟨_, last _, rfl, rfl, rfl, rfl⟩
    · rw [List.getElem?_append_left (by rw [planned.length]; omega)]
      exact planned.node earlier (by omega)
  · intro earlier below
    rw [made]
    by_cases last : earlier = count
    · subst last
      rw [AList.lookup_insert, planned.length]
    · exact index earlier (by omega)
  · intro earlier below
    rw [made]
    by_cases last : earlier = count
    · subst last
      exact AList.lookup_insert _
    · rw [AList.lookup_insert_ne (fresh (by omega))]
      exact planned.resolved earlier (by omega)
  · intro base
    rw [made, producersOf_succ]
    by_cases same : base = sinkBaseOf env (sqls.getD count "")
    · subst same
      rw [AList.lookup_insert, if_pos rfl, Option.getD_some, planned.producers]
    · rw [AList.lookup_insert_ne same, if_neg (Ne.symm same), List.append_nil, planned.producers]
  · intro key
    rw [made, streamWritersOf_succ, List.length_append, ← planned.streamCounts]
    rcases countWriter_ok counting with ⟨channel, stream, found, counts, -, -⟩ | ⟨other, counts, -, -⟩
    · have named := streamKeyOf_stream stream found
      rw [counts, lookup_countUp]
      by_cases same : key = makeStreamChannelKey channel.category channel.name
      · rw [if_pos same, if_pos (same ▸ named)]
        rfl
      · rw [if_neg same, if_neg fun writes => same (Option.some.inj (writes.symm.trans named))]
        rfl
    · rw [counts, if_neg (by rw [streamKeyOf_other other]; nofun)]
      rfl
  · intro key
    rw [made, streamWritersOf_succ]
    rcases countWriter_ok counting with ⟨channel, stream, found, -, caps, -⟩ | ⟨other, -, caps, -⟩
    · have named := streamKeyOf_stream stream found
      have writes : writesStream env (sqls.getD count "") = true := stream
      rw [caps]
      by_cases same : key = makeStreamChannelKey channel.category channel.name
      · rw [if_pos (same ▸ named), same, AList.lookup_insert, List.getLast?_concat, Option.bind_some,
          streamSinkOf, if_pos writes, found]
        rfl
      · rw [if_neg fun writes => same (Option.some.inj (writes.symm.trans named)), List.append_nil,
          AList.lookup_insert_ne same, planned.caps]
    · rw [caps, if_neg (by rw [streamKeyOf_other other]; nofun), List.append_nil, planned.caps]
  · intro base
    rw [made, otherWritersOf_succ, List.length_append, ← planned.otherCounts]
    rcases countWriter_ok counting with ⟨channel, stream, found, -, -, counts⟩ | ⟨other, -, -, counts⟩
    · have writes : writesStream env (sqls.getD count "") = true := stream
      rw [counts, if_neg (fun other => by rw [writes] at other; cases other.1)]
      rfl
    · rw [counts, lookup_countUp]
      congr 1
      by_cases same : base = sinkBaseOf env (sqls.getD count "")
      · rw [if_pos (by exact same), if_pos ⟨other, same.symm⟩]
        rfl
      · rw [if_neg (by exact same), if_neg (fun both => same both.2.symm)]
        rfl

/-- All statements. -/
theorem planNodes_ok {rest : List String} (planned : Planned env sqls count state)
    (left : sqls.drop count = rest) (within : count ≤ sqls.length)
    (ran : planNodes env rest count state = .ok after) :
    Planned env sqls sqls.length after := by
  induction rest generalizing count state with
  | nil =>
      cases ran
      rwa [Nat.le_antisymm within (List.drop_eq_nil_iff.mp left)] at planned
  | cons sql rest ih =>
      rw [planNodes, bind_eq_ok] at ran
      obtain ⟨next, stepped, ran⟩ := ran
      have here : sqls[count]? = some sql := by
        rw [← List.head?_drop, left]
        rfl
      have same : sqls.getD count "" = sql := by
        rw [List.getD_eq_getElem?_getD, here]
        rfl
      rw [← same] at stepped
      refine ih (planned.step stepped) ?_ (List.getElem?_eq_some_iff.mp here).1 ran
      rw [← List.tail_drop, left]
      rfl

/-! ## Edges -/

/-- The dependencies of a node are found, and none is the node. -/
theorem nodeEdges_ok (planned : Planned env sqls count state) {plan : PlannedNode} {index : Nat}
    (id : plan.id = nodeId index) {dependencies : List Nat} (before : ∀ earlier ∈ dependencies,
      earlier < index) (below : index < count) (seen : List String) :
    ∃ edges, nodeEdges state plan index (dependencies.map nodeId) seen = .ok edges ∧
      ∀ edge ∈ edges, edge.1 < index ∧ edge.2 = index := by
  induction dependencies generalizing seen with
  | nil => exact ⟨[], rfl, nofun⟩
  | cons earlier rest ih =>
      have smaller := before earlier List.mem_cons_self
      have others := ih fun other member => before other (List.mem_cons_of_mem _ member)
      rw [List.map_cons, nodeEdges]
      have different : ¬ nodeId earlier = plan.id := by
        rw [id]
        exact fun same => Nat.ne_of_lt smaller (nodeId_injective same)
      rw [check, if_neg different]
      change ∃ edges, (if nodeId earlier ∈ seen then _ else _) = Except.ok edges ∧ _
      split
      · exact others seen
      · obtain ⟨edges, ran, upward⟩ := others (nodeId earlier :: seen)
        rw [planned.index earlier (Nat.lt_trans smaller below), ran]
        exact ⟨(earlier, index) :: edges, rfl, List.forall_mem_cons.mpr ⟨⟨smaller, rfl⟩, upward⟩⟩

/-- Every edge leads from a node to a later one. -/
theorem dagEdges_ok (planned : Planned env sqls count state) {plans : List PlannedNode} {index : Nat}
    (left : state.plans.drop index = plans) : ∃ edges, dagEdges state plans index = .ok edges ∧
      ∀ edge ∈ edges, edge.1 < edge.2 ∧ edge.2 < count := by
  induction plans generalizing index with
  | nil => exact ⟨[], rfl, nofun⟩
  | cons plan rest ih =>
      have here : state.plans[index]? = some plan := by
        rw [← List.head?_drop, left]
        rfl
      have below : index < count := planned.length ▸ (List.getElem?_eq_some_iff.mp here).1
      obtain ⟨plan', present, id, -, -, dependsOn⟩ := planned.node index below
      rw [here] at present
      cases present
      obtain ⟨edges, ran, upward⟩ := planned.nodeEdges_ok id
        (fun earlier member => List.mem_range.mp (List.mem_filter.mp member).1) below []
      obtain ⟨others, went, beyond⟩ := @ih (index + 1) (by rw [← List.tail_drop, left]; rfl)
      rw [dagEdges, dependsOn]
      refine ⟨edges ++ others, ?_, ?_⟩
      · rw [bind_eq_ok]
        refine ⟨edges, ran, ?_⟩
        rw [bind_eq_ok]
        exact ⟨others, went, rfl⟩
      · intro edge member
        rcases List.mem_append.mp member with member | member
        · obtain ⟨smaller, same⟩ := upward edge member
          exact ⟨same ▸ smaller, same ▸ below⟩
        · exact beyond edge member

/-- The cycle check never fires. -/
theorem checkCycle_ok (planned : Planned env sqls count state) : checkCycle state = .ok () := by
  obtain ⟨edges, ran, upward⟩ := planned.dagEdges_ok List.drop_zero
  unfold checkCycle
  rw [bind_eq_ok]
  refine ⟨edges, ran, check_eq_ok.mpr ?_⟩
  rw [planned.length, Kahn.visit_upward (fun edge member => (upward edge member).1)
    fun edge member => (upward edge member).2]
  exact not_not.mpr rfl

end Planned

end Flowsql.Scheduler
