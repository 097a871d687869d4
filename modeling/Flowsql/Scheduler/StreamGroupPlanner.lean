import Flowsql.Library.TopologicalVisit
import Flowsql.Scheduler.StreamTaskGroup
import Mathlib

/-!
# Planning a stream task group

The statements of a group become its nodes in one pass: what a node depends on, what kind of task it is,
where it writes. The whole plan is then checked, and stream nodes with the same sources are put together.
-/

namespace Flowsql.Scheduler

inductive GroupNodeKind where
  | stream
  | batch
  deriving DecidableEq

structure PlannedNode extends GroupNodePlan where
  sqlIndex : Nat
  kind : GroupNodeKind

/-- Channels are known by handles. -/
structure SourceResolveResult where
  sourceKeys : List String := []
  resolvedSources : List String := []
  sourceExpandRule : String := "explicit"
  streamChannels : List Nat := []
  hasStreamSource : Bool := false
  hasNonStreamSource : Bool := false

structure StreamGroupShareSetPlan where
  id : String
  sourceRef : String
  members : List String
  canonicalSourceKeys : List String
  sourceChannels : List Nat

structure SqlStatement where
  error : String := ""
  source : String := ""
  sources : List String := []
  dest : String := ""

inductive ProducerMode where
  | single
  | multi
  deriving DecidableEq

structure ConcurrencyCapabilities where
  putMode : ProducerMode := .single
  /-- 0 means unbounded. -/
  maxProducers : Nat := 1

structure StreamSinkChannel where
  category : String
  name : String
  capabilities : ConcurrencyCapabilities

structure KindAnswer where
  rc : Int
  taskKind : String
  message : String

structure SourceAnswer where
  rc : Int
  resolved : SourceResolveResult
  message : String

/-- What the planner asks the rest of the scheduler: the parser, the classification of a statement, its
sources, and the stream channel of a name. -/
structure PlannerEnv where
  parse : String → SqlStatement
  classifySqlTaskKind : String → KindAnswer
  resolveSourceBindings : String → SqlStatement → SourceAnswer
  findStreamChannel : String → Option StreamSinkChannel

inductive GroupErrorCode where
  | dagTooLarge
  | dagInvalid
  | nodeKindInvalid
  | nodeNotFound
  | dagCycleDetected
  | nonStreamSinkMultiWriter
  deriving DecidableEq

inductive GroupStage where
  | dagValidate
  | capabilityCheck
  deriving DecidableEq

def BAD_REQUEST : Int := -1

inductive PlanFailure where
  | execution (rc : Int) (message : String) (code : GroupErrorCode) (stage : GroupStage)
      (sqlIndex : Option Nat)
  | sinkCapability (message sinkKey : String) (writers : Nat) (capabilities : ConcurrencyCapabilities)
  | sourceMismatch (message shareSet node : String) (expected actual : List String)

/-- A request is refused where the DAG is not valid. -/
def dagInvalid (message : String) (sqlIndex : Option Nat) : PlanFailure :=
  .execution BAD_REQUEST message .dagInvalid .dagValidate sqlIndex

def check (wrong : Prop) [Decidable wrong] (failure : PlanFailure) : Except PlanFailure Unit :=
  if wrong then .error failure else .ok ()

/-- The answer, or a failure. -/
def need {α : Type} (answer : Option α) (failure : PlanFailure) : Except PlanFailure α :=
  match answer with
  | some value => .ok value
  | none => .error failure

def maxGroupEdges : Nat := 256

def maxGroupShareSets : Nat := 16

def maxGroupSqlBytes : Nat := 256 * 1024

/-! ## Names -/

/-- `ParseChannelBaseLocal`: the channel without its selector. -/
def parseChannelBase (raw : String) : Option String :=
  let base := raw.toList.takeWhile (· ≠ '[')
  match raw.toList.dropWhile (· ≠ '[') with
  | [] => if raw = "" then none else some raw
  | _ :: rest =>
      let selector := rest.takeWhile (· ≠ ']')
      if rest.dropWhile (· ≠ ']') ≠ [']'] ∨ base = [] then none
      else if selector = ['*'] then some (String.ofList base)
      else if selector = [] ∨ !selector.all Char.isDigit then none
      else some (String.ofList base)

def makeStreamChannelKey (type name : String) : String :=
  type.toLower ++ "." ++ name

def startsWithIgnoreCase (name beginning : String) : Bool :=
  beginning.toLower.toList.isPrefixOf name.toLower.toList

def nodeId (index : Nat) : String :=
  "n" ++ toString (index + 1)

/-- A `std::set` of the keys that are not empty. -/
def canonicalSourceKeySet (keys : List String) : List String :=
  (keys.filter (· ≠ "")).dedup.insertionSort (· ≤ ·)

def joinStrings (values : List String) (separator : String) : String :=
  separator.intercalate values

def canonicalKeysHash (keys : List String) : String :=
  joinStrings keys "\x1f"

/-! ## One node -/

structure PlannerState where
  plans : List PlannedNode := []
  nodeIndex : AList fun _ : String => Nat := ∅
  nodeResolved : AList fun _ : String => SourceResolveResult := ∅
  streamSinkWriterCounts : AList fun _ : String => Nat := ∅
  streamSinkCaps : AList fun _ : String => ConcurrencyCapabilities := ∅
  nonStreamSinkWriterCounts : AList fun _ : String => Nat := ∅
  sinkProducers : AList fun _ : String => List Nat := ∅
  sinkBaseStreamFlags : AList fun _ : String => Bool := ∅
  nodeStreamSinkKeys : List String := []
  edges : Nat := 0
  sqlBytes : Nat := 0

/-- A count that starts at 0. -/
def countUp (key : String) (counts : AList fun _ : String => Nat) : AList fun _ : String => Nat :=
  counts.insert key ((counts.lookup key).getD 0 + 1)

section

variable (env : PlannerEnv) (state : PlannerState) (index : Nat) (sql : String)

/-- The loop over the producers of a source. -/
def insertProducers : List Nat → List String → Except PlanFailure (List String)
  | [], ids => .ok ids
  | producer :: rest, ids => do
      let plan ← need state.plans[producer]?
        (dagInvalid ("dependency index out of range: node=" ++ nodeId index) none)
      insertProducers rest (ids.insert plan.id)

/-- The loop over the sources: their bases, and the nodes that write them. -/
def collectSources : List String → List String → List String →
    Except PlanFailure (List String × List String)
  | [], bases, ids => .ok (bases, ids)
  | source :: rest, bases, ids => do
      let base ← need (parseChannelBase source)
        (dagInvalid ("group node source selector invalid: node=" ++ nodeId index ++ ", source=" ++
          source) none)
      let base := base.toLower
      let ids ← insertProducers state index ((state.sinkProducers.lookup base).getD []) ids
      collectSources rest (bases ++ [base]) ids

/-- The nodes in the order of the statements, each once. -/
def dependencyOrder (nodeIndex : AList fun _ : String => Nat) (ids : List String) : List Nat :=
  ((ids.filterMap nodeIndex.lookup).insertionSort (· ≤ ·)).destutter (· ≠ ·)

/-- The kind of the node: that of its statement, or that of the sinks that it reads. -/
def nodeKind (bases : List String) : Except PlanFailure GroupNodeKind :=
  let answer := env.classifySqlTaskKind sql
  if answer.rc = 0 then .ok (if answer.taskKind = "batch" then .batch else .stream)
  else
    let flags := bases.map state.sinkBaseStreamFlags.lookup
    let inferred := bases.all fun base =>
      (state.sinkProducers.lookup base).isSome && (state.sinkBaseStreamFlags.lookup base).isSome
    if !inferred then
      .error (.execution answer.rc ("group node task kind classify failed: node=" ++ nodeId index ++
        if answer.message = "" then "" else ", " ++ answer.message) .nodeKindInvalid .dagValidate
        (some index))
    else if flags.contains (some true) && flags.contains (some false) then
      .error (.execution BAD_REQUEST ("group node has mixed source kinds: node=" ++ nodeId index)
        .nodeKindInvalid .dagValidate (some index))
    else .ok (if flags.contains (some true) then .stream else .batch)

/-- A batch node may read channels that only nodes before it create. -/
def resolveSources (parsed : SqlStatement) (kind : GroupNodeKind) (bases : List String) :
    Except PlanFailure SourceResolveResult :=
  let answer := env.resolveSourceBindings sql parsed
  if answer.rc = 0 then .ok answer.resolved
  else if !(bases.all fun base => (state.sinkProducers.lookup base).isSome) || kind = .stream then
    .error (.execution answer.rc ("group node source resolve failed: node=" ++ nodeId index ++
      if answer.message = "" then "" else ", " ++ answer.message) .dagInvalid .dagValidate
      (some index))
  else .ok answer.resolved

/-- The sink of the node is of one kind, and has one more writer. -/
def countWriter (sink : String) : Except PlanFailure PlannerState := do
  let isStream := startsWithIgnoreCase sink "stream."
  let base := sink.toLower
  check ((state.sinkBaseStreamFlags.lookup base).getD isStream ≠ isStream)
    (dagInvalid ("sink type conflict on same sink key: " ++ sink) (some index))
  let flags := state.sinkBaseStreamFlags.insert base isStream
  if isStream then
    let channel ← need (env.findStreamChannel sink)
      (dagInvalid ("group node stream sink not found: node=" ++ nodeId index ++ ", sink=" ++ sink)
        none)
    let key := makeStreamChannelKey channel.category channel.name
    return { state with
      sinkBaseStreamFlags := flags
      streamSinkWriterCounts := countUp key state.streamSinkWriterCounts
      streamSinkCaps := state.streamSinkCaps.insert key channel.capabilities
      nodeStreamSinkKeys := state.nodeStreamSinkKeys ++ [key] }
  else
    return { state with
      sinkBaseStreamFlags := flags
      nonStreamSinkWriterCounts := countUp base state.nonStreamSinkWriterCounts
      nodeStreamSinkKeys := state.nodeStreamSinkKeys ++ [""] }

/-- A statement with one source lists it. -/
def parseStatement : SqlStatement :=
  let parsed := env.parse sql
  if parsed.sources = [] ∧ parsed.source ≠ "" then { parsed with sources := [parsed.source] }
  else parsed

/-- The body of the loop over the statements. -/
def planNode : Except PlanFailure PlannerState := do
  let id := nodeId index
  let nodeIndex := state.nodeIndex.insert id state.plans.length
  let sqlBytes := state.sqlBytes + sql.utf8ByteSize
  check (maxGroupSqlBytes < sqlBytes)
    (.execution BAD_REQUEST "group sql bytes exceed max_group_sql_bytes" .dagTooLarge .dagValidate none)
  let parsed := parseStatement env sql
  check (parsed.error ≠ "")
    (dagInvalid ("group node SQL parse failed: node=" ++ id ++ ", " ++ parsed.error) (some index))
  check (parsed.sources = [])
    (dagInvalid ("group node source channel not found: node=" ++ id) (some index))
  let (bases, ids) ← collectSources state index parsed.sources [] []
  let order := dependencyOrder nodeIndex ids
  let dependsOn := order.filterMap fun dependency => state.plans[dependency]?.map (·.id)
  check (maxGroupEdges < state.edges + dependsOn.length)
    (.execution BAD_REQUEST "group edges exceed max_group_edges" .dagTooLarge .dagValidate none)
  let kind ← nodeKind env state index sql bases
  let resolved ← resolveSources env state index sql parsed kind bases
  let sink ← need (parseChannelBase parsed.dest)
    (dagInvalid ("group node sink selector invalid: node=" ++ id ++ ", sink=" ++ parsed.dest) none)
  let counted ← countWriter env state index sink
  let producers := (state.sinkProducers.lookup sink.toLower).getD []
  return { counted with
    plans := state.plans ++
      [{ id := id, sql := sql, dependsOn := dependsOn, startCondition := .onRunning
         sqlIndex := index, kind := kind }]
    nodeIndex := nodeIndex
    nodeResolved := state.nodeResolved.insert id resolved
    sinkProducers := state.sinkProducers.insert sink.toLower (producers ++ [index])
    edges := state.edges + dependsOn.length
    sqlBytes := sqlBytes }

end

/-- The loop over the statements. -/
def planNodes (env : PlannerEnv) : List String → Nat → PlannerState → Except PlanFailure PlannerState
  | [], _, state => .ok state
  | sql :: rest, index, state => do
      let state ← planNode env state index sql
      planNodes env rest (index + 1) state

/-! ## The whole plan -/

section

variable (state : PlannerState)

/-- What a dependency makes of the start condition. -/
def startsFinished (plan : PlannedNode) (dependency : String) : Bool :=
  match state.nodeIndex.lookup dependency with
  | none => false
  | some index =>
      match state.plans[index]? with
      | none => false
      | some other => other.kind = .batch || plan.kind = .batch

def withStartCondition (plan : PlannedNode) : PlannedNode :=
  { plan with
    startCondition := if plan.dependsOn.any (startsFinished state plan) then .onFinished
      else .onRunning }

/-- Shared stream sinks must allow their writers. -/
def checkStreamSinks : List ((_ : String) × Nat) → Except PlanFailure Unit
  | [] => .ok ()
  | ⟨key, writers⟩ :: rest => do
      match state.streamSinkCaps.lookup key with
      | none => checkStreamSinks rest
      | some caps =>
          check (1 < writers ∧ (caps.putMode ≠ .multi ∨
              ¬ (caps.maxProducers = 0 ∨ writers ≤ caps.maxProducers)))
            (.sinkCapability ("shared stream sink capability mismatch: sink=" ++ key ++ ", writers=" ++
              toString writers ++ ", required.put_mode=MULTI, actual.put_mode=" ++
              (if caps.putMode = .multi then "MULTI" else "SINGLE") ++ ", actual.max_producers=" ++
              toString caps.maxProducers) key writers caps)
          checkStreamSinks rest

/-- Other sinks have one writer. -/
def checkNonStreamSinks : List ((_ : String) × Nat) → Except PlanFailure Unit
  | [] => .ok ()
  | ⟨base, writers⟩ :: rest => do
      check (1 < writers)
        (.execution BAD_REQUEST ("shared non-stream sink only supports single writer in current sprint: sink="
          ++ base ++ ", writers=" ++ toString writers) .nonStreamSinkMultiWriter .capabilityCheck none)
      checkNonStreamSinks rest

/-- The edges to a node from what it depends on. -/
def nodeEdges (plan : PlannedNode) (index : Nat) : List String → List String →
    Except PlanFailure Library.Kahn.Edges
  | [], _ => .ok []
  | dependency :: rest, seen => do
      check (dependency = plan.id)
        (dagInvalid ("self dependency is not allowed: node=" ++ plan.id) none)
      if dependency ∈ seen then nodeEdges plan index rest seen
      else
        let source ← need (state.nodeIndex.lookup dependency)
          (.execution BAD_REQUEST ("dependency node not found: " ++ dependency ++ ", node=" ++ plan.id)
            .nodeNotFound .dagValidate none)
        let edges ← nodeEdges plan index rest (dependency :: seen)
        return (source, index) :: edges

def dagEdges : List PlannedNode → Nat → Except PlanFailure Library.Kahn.Edges
  | [], _ => .ok []
  | plan :: rest, index => do
      let edges ← nodeEdges state plan index plan.dependsOn []
      let others ← dagEdges rest (index + 1)
      return edges ++ others

def checkCycle : Except PlanFailure Unit := do
  let edges ← dagEdges state state.plans 0
  check ((Library.Kahn.visit edges state.plans.length).1 ≠ state.plans.length)
    (.execution BAD_REQUEST "dag has cycle dependency" .dagCycleDetected .dagValidate none)

/-! ## Shared sources -/

/-- A `std::map` of lists, in the order of its keys. -/
def pushGroup (key : String) (index : Nat) : List (String × List Nat) → List (String × List Nat)
  | [] => [(key, [index])]
  | (other, members) :: rest =>
      if key = other then (other, members ++ [index]) :: rest
      else if key < other then (key, [index]) :: (other, members) :: rest
      else (other, members) :: pushGroup key index rest

/-- The stream nodes by their source keys. -/
def groupStreams : List PlannedNode → Nat → List (String × List Nat) →
    Except PlanFailure (List (String × List Nat))
  | [], _, groups => .ok groups
  | plan :: rest, index, groups =>
      if plan.kind ≠ .stream then groupStreams rest (index + 1) groups
      else
        match state.nodeResolved.lookup plan.id with
        | none => groupStreams rest (index + 1) groups
        | some resolved => do
            let canonical := canonicalSourceKeySet resolved.sourceKeys
            check (canonical = [])
              (.sourceMismatch ("stream node has empty canonical source keys: node=" ++ plan.id) ""
                plan.id [] [])
            groupStreams rest (index + 1) (pushGroup (canonicalKeysHash canonical) index groups)

/-- The members of a share set. -/
def shareMembers (id : String) (canonical : List String) : List String → Except PlanFailure (List String)
  | [] => .ok []
  | node :: rest =>
      match state.nodeResolved.lookup node with
      | none => shareMembers id canonical rest
      | some resolved => do
          let keys := canonicalSourceKeySet resolved.sourceKeys
          check (keys ≠ canonical)
            (.sourceMismatch ("source_share_set canonical source mismatch: set=" ++ id ++ ", node=" ++
              node) id node canonical keys)
          let members ← shareMembers id canonical rest
          return node :: members

/-- The loop over the groups. -/
def shareSets : List (String × List Nat) → Nat → Except PlanFailure (List StreamGroupShareSetPlan)
  | [], _ => .ok []
  | (_, []) :: rest, sequence => shareSets rest sequence
  | (_, [_]) :: rest, sequence => shareSets rest sequence
  | (_, first :: second :: others) :: rest, sequence =>
      let id := "s" ++ toString (sequence + 1)
      let nodes := (first :: second :: others).filterMap fun member =>
        state.plans[member]?.map (·.id)
      match nodes.head?.bind state.nodeResolved.lookup with
      | none => shareSets rest (sequence + 1)
      | some resolved => do
          let canonical := canonicalSourceKeySet resolved.sourceKeys
          check (resolved.streamChannels = [])
            (.sourceMismatch ("auto source_share_set has empty source channels: set=" ++ id) id
              (nodes.headD "") canonical [])
          let members ← shareMembers state id canonical nodes
          let sets ← shareSets rest (sequence + 1)
          return { id := id, sourceRef := joinStrings resolved.resolvedSources ",", members := members
                   canonicalSourceKeys := canonical
                   sourceChannels := resolved.streamChannels } :: sets

end

structure StreamGroupBuildArtifacts where
  plans : List PlannedNode
  nodeIndex : AList fun _ : String => Nat
  nodeResolved : AList fun _ : String => SourceResolveResult
  groupSourceKeys : List String
  groupSinkKeys : List String
  shareSetPlans : List StreamGroupShareSetPlan

/-- `BuildStreamGroupPlan`. -/
def buildStreamGroupPlan (env : PlannerEnv) (sqls : List String) :
    Except PlanFailure StreamGroupBuildArtifacts := do
  let state ← planNodes env sqls 0 {}
  let plans := state.plans.map (withStartCondition state)
  checkStreamSinks state state.streamSinkWriterCounts.entries
  checkNonStreamSinks state.nonStreamSinkWriterCounts.entries
  checkCycle state
  let groups ← groupStreams state state.plans 0 []
  let sets ← shareSets state groups 0
  check (maxGroupShareSets < sets.length)
    (.execution BAD_REQUEST "auto source_share_sets exceed max_group_share_sets" .dagTooLarge
      .dagValidate none)
  return {
    plans := plans
    nodeIndex := state.nodeIndex
    nodeResolved := state.nodeResolved
    groupSourceKeys := plans.flatMap fun plan =>
      ((state.nodeResolved.lookup plan.id).map (·.sourceKeys)).getD []
    groupSinkKeys := state.nodeStreamSinkKeys.filter (· ≠ "")
    shareSetPlans := sets }

end Flowsql.Scheduler
