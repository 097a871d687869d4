import Flowsql.Scheduler.PlannerRuns
import Mathlib

/-!
# What an accepted plan promises

The start conditions, the writers of every sink and the share sets of a plan that is accepted, in terms
of its statements.
-/

namespace Flowsql.Scheduler

open Flowsql.Library

/-! ## Share sets -/

section

variable {count : Nat}

/-- The groups hold the indices by their keys, in the order of the keys. -/
structure Grouped (keyOf : Nat → Option String) (count : Nat) (groups : List (String × List Nat)) :
    Prop where
  sorted : (groups.map Prod.fst).Pairwise (· < ·)
  members : ∀ group ∈ groups, group.2 = (List.range count).filter (keyOf · = some group.1)
  every : ∀ index < count, ∀ key, keyOf index = some key → key ∈ groups.map Prod.fst

/-- The keys after one more index. -/
theorem mem_keys_pushGroup (key other : String) (index : Nat) (groups : List (String × List Nat)) :
    other ∈ (pushGroup key index groups).map Prod.fst ↔ other = key ∨ other ∈ groups.map Prod.fst := by
  induction groups with
  | nil => simp [pushGroup]
  | cons group rest ih =>
      obtain ⟨first, members⟩ := group
      unfold pushGroup
      split
      · rename_i same
        subst same
        simp
      · split
        · simp
        · rw [List.map_cons, List.mem_cons, ih, List.map_cons, List.mem_cons]
          tauto

theorem sorted_pushGroup (key : String) (index : Nat) {groups : List (String × List Nat)}
    (sorted : (groups.map Prod.fst).Pairwise (· < ·)) :
    ((pushGroup key index groups).map Prod.fst).Pairwise (· < ·) := by
  induction groups with
  | nil => simp [pushGroup]
  | cons group rest ih =>
      obtain ⟨first, members⟩ := group
      rw [List.map_cons, List.pairwise_cons] at sorted
      unfold pushGroup
      split
      · exact List.pairwise_cons.mpr sorted
      · rename_i different
        split
        · rename_i before
          refine List.pairwise_cons.mpr ⟨?_, List.pairwise_cons.mpr sorted⟩
          intro other member
          rcases List.mem_cons.mp member with rfl | member
          · exact before
          · exact lt_trans before (sorted.1 other member)
        · rename_i behind
          refine List.pairwise_cons.mpr ⟨?_, ih sorted.2⟩
          intro other member
          rcases (mem_keys_pushGroup key other index rest).mp member with rfl | member
          · exact lt_of_le_of_ne (not_lt.mp behind) (Ne.symm different)
          · exact sorted.1 other member

/-- One more index goes into the group of its key. -/
theorem members_pushGroup {key : String} {index : Nat} {groups : List (String × List Nat)}
    (sorted : (groups.map Prod.fst).Pairwise (· < ·)) {group : String × List Nat}
    (member : group ∈ pushGroup key index groups) :
    (group.1 ≠ key ∧ group ∈ groups) ∨
    (group.1 = key ∧ ∃ before, group.2 = before ++ [index] ∧
      ((key, before) ∈ groups ∨ (before = [] ∧ key ∉ groups.map Prod.fst))) := by
  induction groups with
  | nil =>
      obtain rfl := List.mem_singleton.mp member
      exact .inr ⟨rfl, [], rfl, .inr ⟨rfl, nofun⟩⟩
  | cons first rest ih =>
      obtain ⟨other, members⟩ := first
      rw [List.map_cons, List.pairwise_cons] at sorted
      unfold pushGroup at member
      split at member
      · rename_i same
        subst same
        rcases List.mem_cons.mp member with rfl | member
        · exact .inr ⟨rfl, members, rfl, .inl List.mem_cons_self⟩
        · refine .inl ⟨?_, List.mem_cons_of_mem _ member⟩
          exact (sorted.1 _ (List.mem_map_of_mem member)).ne'
      · rename_i different
        split at member
        · rename_i before
          have absent : key ∉ ((other, members) :: rest).map Prod.fst := by
            rw [List.map_cons, List.mem_cons]
            rintro (same | among)
            · exact different same
            · exact lt_asymm before (sorted.1 _ among)
          rcases List.mem_cons.mp member with rfl | member
          · exact .inr ⟨rfl, [], rfl, .inr ⟨rfl, absent⟩⟩
          · refine .inl ⟨fun same => absent ?_, member⟩
            exact same ▸ List.mem_map_of_mem member
        · rcases List.mem_cons.mp member with rfl | member
          · exact .inl ⟨Ne.symm different, List.mem_cons_self⟩
          · rcases ih sorted.2 member with ⟨apart, among⟩ | ⟨same, before, split, found⟩
            · exact .inl ⟨apart, List.mem_cons_of_mem _ among⟩
            · refine .inr ⟨same, before, split, ?_⟩
              rcases found with found | ⟨none, absent⟩
              · exact .inl (List.mem_cons_of_mem _ found)
              · refine .inr ⟨none, ?_⟩
                rw [List.map_cons, List.mem_cons]
                rintro (again | among)
                · exact different again
                · exact absent among

namespace Grouped

variable {keyOf : Nat → Option String} {groups : List (String × List Nat)}

theorem initially (keyOf : Nat → Option String) : Grouped keyOf 0 [] where
  sorted := List.Pairwise.nil
  members := nofun
  every index below := by omega

/-- An index without a key changes nothing. -/
theorem skip (grouped : Grouped keyOf count groups) (none : keyOf count = none) :
    Grouped keyOf (count + 1) groups where
  sorted := grouped.sorted
  members group member := by
    rw [filter_range_succ, if_neg (by rw [none]; nofun), List.append_nil]
    exact grouped.members group member
  every index below key named := by
    by_cases last : index = count
    · subst last
      cases none.symm.trans named
    · exact grouped.every index (by omega) key named

theorem push (grouped : Grouped keyOf count groups) {key : String} (named : keyOf count = some key) :
    Grouped keyOf (count + 1) (pushGroup key count groups) where
  sorted := sorted_pushGroup key count grouped.sorted
  members group member := by
    rw [filter_range_succ]
    rcases members_pushGroup grouped.sorted member with ⟨apart, among⟩ | ⟨same, before, split, found⟩
    · rw [if_neg fun also => apart (Option.some.inj (also.symm.trans named)), List.append_nil]
      exact grouped.members group among
    · rw [same, if_pos named, split]
      congr 1
      rcases found with found | ⟨rfl, absent⟩
      · exact grouped.members _ found
      · symm
        refine List.filter_eq_nil_iff.mpr fun index inside also => absent ?_
        exact grouped.every index (List.mem_range.mp inside) key (of_decide_eq_true also)
  every index below other also := by
    rw [mem_keys_pushGroup]
    by_cases last : index = count
    · subst last
      exact .inl (Option.some.inj (also.symm.trans named))
    · exact .inr (grouped.every index (by omega) other also)

end Grouped

end

section

variable (env : PlannerEnv) (sqls : List String) (plans : List PlannedNode)

/-- The keys of a stream node's sources. -/
def canonicalOf (index : Nat) : Option (List String) :=
  if plans[index]?.map (·.kind) = some .stream then
    some (canonicalSourceKeySet (resolvedOf env sqls index).sourceKeys)
  else none

/-- The stream nodes that have these source keys. -/
def sharingNodes (canonical : List String) : List Nat :=
  (List.range plans.length).filter (canonicalOf env sqls plans · = some canonical)

/-- A share set made of a group. -/
structure SharedBy (set : StreamGroupShareSetPlan) (group : String × List Nat) : Prop where
  members : set.members = group.2.map nodeId
  canonical : ∀ member ∈ group.2,
    canonicalSourceKeySet (resolvedOf env sqls member).sourceKeys = set.canonicalSourceKeys

end

namespace Planned

variable {env : PlannerEnv} {sqls : List String} {count : Nat} {state : PlannerState}

/-- Every stream node goes into the group of its keys. -/
theorem groupStreams_ok (planned : Planned env sqls count state) {plans : List PlannedNode}
    {index : Nat} (left : state.plans.drop index = plans) (within : index ≤ count)
    {groups found : List (String × List Nat)}
    (grouped : Grouped (fun index => (canonicalOf env sqls state.plans index).map canonicalKeysHash)
      index groups)
    (ran : groupStreams state plans index groups = .ok found) :
    Grouped (fun index => (canonicalOf env sqls state.plans index).map canonicalKeysHash)
      count found := by
  induction plans generalizing index groups with
  | nil =>
      cases ran
      rwa [Nat.le_antisymm within (planned.length ▸ List.drop_eq_nil_iff.mp left)] at grouped
  | cons plan rest ih =>
      have here : state.plans[index]? = some plan := by
        rw [← List.head?_drop, left]
        rfl
      have below : index < count := planned.length ▸ (List.getElem?_eq_some_iff.mp here).1
      have next : state.plans.drop (index + 1) = rest := by
        rw [← List.tail_drop, left]
        rfl
      obtain ⟨plan', present, id, -⟩ := planned.node index below
      rw [here] at present
      cases present
      rw [groupStreams] at ran
      split at ran
      · rename_i other
        refine ih next below (grouped.skip ?_) ran
        rw [canonicalOf, if_neg (by rw [here]; exact fun same => other (Option.some.inj same))]
        rfl
      · rename_i stream
        rw [id, planned.resolved index below, bind_eq_ok] at ran
        obtain ⟨-, -, ran⟩ := ran
        refine ih next below (grouped.push ?_) ran
        rw [canonicalOf, if_pos (by rw [here]; exact congrArg some (not_not.mp stream))]
        rfl

/-- The members of a share set are the nodes of its group. -/
theorem shareMembers_ok (planned : Planned env sqls count state) {id : String}
    {canonical found : List String} {members : List Nat} (below : ∀ member ∈ members, member < count)
    (ran : shareMembers state id canonical (members.map nodeId) = .ok found) :
    found = members.map nodeId ∧ ∀ member ∈ members,
      canonicalSourceKeySet (resolvedOf env sqls member).sourceKeys = canonical := by
  induction members generalizing found with
  | nil =>
      cases ran
      exact ⟨rfl, nofun⟩
  | cons member rest ih =>
      rw [List.map_cons, shareMembers, planned.resolved member (below member List.mem_cons_self),
        bind_eq_ok] at ran
      obtain ⟨_, checked, ran⟩ := ran
      rw [bind_eq_ok] at ran
      obtain ⟨others, went, ran⟩ := ran
      cases ran
      obtain ⟨same, keys⟩ := ih (fun other inside => below other (List.mem_cons_of_mem _ inside)) went
      refine ⟨congrArg (nodeId member :: ·) same, List.forall_mem_cons.mpr ⟨?_, keys⟩⟩
      exact not_not.mp (check_eq_ok.mp checked)

/-- A share set for every group with two members. -/
theorem shareSets_ok (planned : Planned env sqls count state) {groups : List (String × List Nat)}
    (below : ∀ group ∈ groups, ∀ member ∈ group.2, member < count) {sequence : Nat}
    {sets : List StreamGroupShareSetPlan} (ran : shareSets state groups sequence = .ok sets) :
    List.Forall₂ (SharedBy env sqls) sets (groups.filter (2 ≤ ·.2.length)) := by
  induction groups generalizing sequence sets with
  | nil =>
      cases ran
      exact .nil
  | cons group rest ih =>
      have others := @ih fun other inside => below other (List.mem_cons_of_mem _ inside)
      obtain ⟨key, members⟩ := group
      match members with
      | [] => exact others ran
      | [_] => exact others ran
      | first :: second :: more =>
          have mine := below _ List.mem_cons_self
          rw [List.filter_cons_of_pos (by simp)]
          have nodes : ((first :: second :: more).filterMap fun member =>
              state.plans[member]?.map (·.id)) = (first :: second :: more).map nodeId := by
            refine (List.filterMap_congr fun member inside => ?_).trans
              (congrFun List.filterMap_eq_map' _)
            obtain ⟨plan, found, id⟩ := planned.node_id (mine member inside)
            rw [found, Option.map_some, id]
          rw [shareSets, nodes] at ran
          simp only [List.map_cons, List.head?_cons, Option.bind_some,
            planned.resolved first (mine first List.mem_cons_self), bind_eq_ok] at ran
          obtain ⟨-, -, found, shared, tail, went, ran⟩ := ran
          cases ran
          obtain ⟨same, keys⟩ := planned.shareMembers_ok mine shared
          exact .cons ⟨same, keys⟩ (others went)

end Planned

/-! ## Writers of one sink -/

section

variable {state : PlannerState}

theorem checkStreamSinks_ok {entries : List ((_ : String) × Nat)}
    (ran : checkStreamSinks state entries = .ok ()) {entry : (_ : String) × Nat}
    (member : entry ∈ entries) {caps : ConcurrencyCapabilities}
    (found : state.streamSinkCaps.lookup entry.1 = some caps) (several : 1 < entry.2) :
    caps.putMode = .multi ∧ (caps.maxProducers = 0 ∨ entry.2 ≤ caps.maxProducers) := by
  induction entries with
  | nil => cases member
  | cons first rest ih =>
      rw [checkStreamSinks] at ran
      rcases List.mem_cons.mp member with rfl | member
      · rw [found] at ran
        obtain ⟨_, checked, -⟩ := bind_eq_ok.mp ran
        have allowed := fun wrong => check_eq_ok.mp checked ⟨several, wrong⟩
        exact ⟨not_not.mp fun wrong => allowed (.inl wrong), not_not.mp fun wrong => allowed (.inr wrong)⟩
      · split at ran
        · exact ih ran member
        · obtain ⟨_, -, ran⟩ := bind_eq_ok.mp ran
          exact ih ran member

theorem checkNonStreamSinks_ok {entries : List ((_ : String) × Nat)}
    (ran : checkNonStreamSinks entries = .ok ()) {entry : (_ : String) × Nat}
    (member : entry ∈ entries) : entry.2 ≤ 1 := by
  induction entries with
  | nil => cases member
  | cons first rest ih =>
      rw [checkNonStreamSinks, bind_eq_ok] at ran
      obtain ⟨_, checked, ran⟩ := ran
      rcases List.mem_cons.mp member with rfl | member
      · exact Nat.not_lt.mp (check_eq_ok.mp checked)
      · exact ih ran member

end

theorem entry_of_count {counts : AList fun _ : String => Nat} {key : String} {count : Nat}
    (counted : (counts.lookup key).getD 0 = count) (positive : 0 < count) :
    (⟨key, count⟩ : (_ : String) × Nat) ∈ counts.entries := by
  cases found : counts.lookup key with
  | none =>
      rw [found] at counted
      exact absurd counted (Nat.ne_of_lt positive)
  | some value =>
      rw [found] at counted
      exact counted ▸ AList.mem_lookup_iff.mp found

/-! ## The plan -/

section

variable (env : PlannerEnv) (sqls : List String)

def isBatch (plans : List PlannedNode) (index : Nat) : Prop :=
  plans[index]?.map (·.kind) = some .batch

/-- A node of the plan. -/
structure NodeWell (plans : List PlannedNode) (index : Nat) (plan : PlannedNode) : Prop where
  id : plan.id = nodeId index
  sql : plan.sql = sqls.getD index ""
  sqlIndex : plan.sqlIndex = index
  dependsOn : plan.dependsOn = (dependenciesOf env sqls index).map nodeId
  startCondition : plan.startCondition = .onFinished ↔ dependenciesOf env sqls index ≠ [] ∧
    (isBatch plans index ∨ ∃ earlier ∈ dependenciesOf env sqls index, isBatch plans earlier)

/-- The channel of a stream sink allows its writers. -/
def AllowsWriters (key : String) : Prop :=
  ∃ last channel, (streamWritersOf env sqls sqls.length key).getLast? = some last ∧
    streamSinkOf env (sqls.getD last "") = some channel ∧ channel.capabilities.putMode = .multi ∧
    (channel.capabilities.maxProducers = 0 ∨
      (streamWritersOf env sqls sqls.length key).length ≤ channel.capabilities.maxProducers)

/-- What an accepted plan promises. -/
structure PlanWell (artifacts : StreamGroupBuildArtifacts) : Prop where
  length : artifacts.plans.length = sqls.length
  node : ∀ index < sqls.length, ∃ plan, artifacts.plans[index]? = some plan ∧
    NodeWell env sqls artifacts.plans index plan
  /-- Dependencies are earlier nodes, each once and in order. -/
  upward : ∀ index < sqls.length, (dependenciesOf env sqls index ++ [index]).Pairwise (· < ·)
  streamSinks : ∀ key, 1 < (streamWritersOf env sqls sqls.length key).length →
    AllowsWriters env sqls key
  otherSinks : ∀ base, (otherWritersOf env sqls sqls.length base).length ≤ 1
  shared : ∀ set ∈ artifacts.shareSetPlans,
    set.members = (sharingNodes env sqls artifacts.plans set.canonicalSourceKeys).map nodeId ∧
    2 ≤ set.members.length
  sharing : ∀ canonical, 2 ≤ (sharingNodes env sqls artifacts.plans canonical).length →
    ∃ set ∈ artifacts.shareSetPlans, set.canonicalSourceKeys = canonical
  apart : artifacts.shareSetPlans.Pairwise fun left right => left.members.Disjoint right.members

end

section

variable {α β : Type} {related : α → β → Prop} {lefts : List α} {rights : List β}

theorem forall₂_exists_right (pairs : List.Forall₂ related lefts rights) {left : α}
    (member : left ∈ lefts) : ∃ right ∈ rights, related left right := by
  induction pairs with
  | nil => cases member
  | cons first _ ih =>
      rcases List.mem_cons.mp member with rfl | member
      · exact ⟨_, List.mem_cons_self, first⟩
      · obtain ⟨right, inside, holds⟩ := ih member
        exact ⟨right, List.mem_cons_of_mem _ inside, holds⟩

/-- What holds between the right sides in their order holds between the left sides. -/
theorem forall₂_pairwise {before : α → α → Prop} {after : β → β → Prop}
    (pairs : List.Forall₂ related lefts rights) (ordered : rights.Pairwise after)
    (back : ∀ {left right left' right'}, right ∈ rights → right' ∈ rights → related left right →
      related left' right' → after right right' → before left left') : lefts.Pairwise before := by
  induction pairs with
  | nil => exact .nil
  | cons first rest ih =>
      rw [List.pairwise_cons] at ordered ⊢
      refine ⟨fun left inside => ?_, ih ordered.2 fun inside inside' => ?_⟩
      · obtain ⟨right, among, holds⟩ := forall₂_exists_right rest inside
        exact back List.mem_cons_self (List.mem_cons_of_mem _ among) first holds (ordered.1 right among)
      · exact back (List.mem_cons_of_mem _ inside) (List.mem_cons_of_mem _ inside')

end

section

variable {env : PlannerEnv} {sqls : List String} {plans : List PlannedNode}

theorem mem_sharingNodes {canonical : List String} {index : Nat} :
    index ∈ sharingNodes env sqls plans canonical ↔
      index < plans.length ∧ canonicalOf env sqls plans index = some canonical := by
  rw [sharingNodes, List.mem_filter, List.mem_range, decide_eq_true_iff]

variable {groups : List (String × List Nat)} (grouped : Grouped (fun index =>
  (canonicalOf env sqls plans index).map canonicalKeysHash) plans.length groups)

include grouped

/-- The members of a group are the stream nodes with the keys of its share set. -/
theorem SharedBy.sharingNodes_eq {set : StreamGroupShareSetPlan} {group : String × List Nat}
    (shared : SharedBy env sqls set group) (among : group ∈ groups) (filled : group.2 ≠ []) :
    group.2 = sharingNodes env sqls plans set.canonicalSourceKeys ∧
      canonicalKeysHash set.canonicalSourceKeys = group.1 := by
  have keys : ∀ member ∈ group.2,
      canonicalOf env sqls plans member = some set.canonicalSourceKeys ∧
      canonicalKeysHash set.canonicalSourceKeys = group.1 := by
    intro member inside
    have same := shared.canonical member inside
    rw [grouped.members group among] at inside
    have keyed := of_decide_eq_true (List.mem_filter.mp inside).2
    obtain ⟨canonical, stream, hashed⟩ := Option.map_eq_some_iff.mp keyed
    have own : canonical = set.canonicalSourceKeys := by
      rw [← same]
      unfold canonicalOf at stream
      split at stream
      · exact (Option.some.inj stream).symm
      · cases stream
    exact ⟨own ▸ stream, own ▸ hashed⟩
  obtain ⟨first, inside⟩ := List.exists_mem_of_ne_nil _ filled
  have hashed := (keys first inside).2
  refine ⟨?_, hashed⟩
  have members := grouped.members group among
  rw [members, sharingNodes]
  refine List.filter_congr fun index below => decide_eq_decide.mpr ⟨fun keyed => ?_, fun canonical => ?_⟩
  · refine (keys index ?_).1
    rw [members]
    exact List.mem_filter.mpr ⟨below, decide_eq_true keyed⟩
  · rw [canonical, ← hashed]
    rfl

/-- Nodes with equal keys are in one group. -/
theorem Grouped.group_of {canonical : List String}
    (several : 2 ≤ (sharingNodes env sqls plans canonical).length) :
    ∃ group ∈ groups, 2 ≤ group.2.length ∧
      ∀ index ∈ sharingNodes env sqls plans canonical, index ∈ group.2 := by
  obtain ⟨first, inside⟩ := List.exists_mem_of_length_pos (Nat.lt_of_lt_of_le Nat.two_pos several)
  obtain ⟨below, keys⟩ := mem_sharingNodes.mp inside
  have keyed : (canonicalOf env sqls plans first).map canonicalKeysHash =
      some (canonicalKeysHash canonical) := by
    rw [keys]
    rfl
  obtain ⟨group, among, named⟩ := List.mem_map.mp (grouped.every first below _ keyed)
  have members := grouped.members group among
  have inside : ∀ index ∈ sharingNodes env sqls plans canonical, index ∈ group.2 := by
    intro index shares
    obtain ⟨below, keys⟩ := mem_sharingNodes.mp shares
    rw [members, List.mem_filter, List.mem_range, decide_eq_true_iff, keys, named]
    exact ⟨below, rfl⟩
  refine ⟨group, among, le_trans several ?_, inside⟩
  exact ((List.nodup_range.filter _).subperm inside).length_le

end

namespace Planned

variable {env : PlannerEnv} {sqls : List String} {count : Nat} {state : PlannerState}

theorem kind_withStartCondition (state : PlannerState) (plans : List PlannedNode) (index : Nat) :
    (plans.map (withStartCondition state))[index]?.map (·.kind) = plans[index]?.map (·.kind) := by
  rw [List.getElem?_map, Option.map_map]
  rfl

theorem sharingNodes_withStartCondition (state : PlannerState) (plans : List PlannedNode)
    (canonical : List String) :
    sharingNodes env sqls (plans.map (withStartCondition state)) canonical =
      sharingNodes env sqls plans canonical := by
  unfold sharingNodes canonicalOf
  simp only [kind_withStartCondition, List.length_map]

/-- A node that depends on others starts after them where one side is a batch. -/
theorem startsFinished_iff (planned : Planned env sqls count state) {plan : PlannedNode}
    {earlier : Nat} (below : earlier < count) :
    startsFinished state plan (nodeId earlier) = true ↔
      isBatch state.plans earlier ∨ plan.kind = .batch := by
  obtain ⟨other, found, -⟩ := planned.node earlier below
  have starts : startsFinished state plan (nodeId earlier) =
      (decide (other.kind = .batch) || decide (plan.kind = .batch)) := by
    simp only [startsFinished, planned.index earlier below, found]
  rw [starts, isBatch, found]
  simp

/-- The start condition of a node. -/
theorem node_well (planned : Planned env sqls count state) {index : Nat} (below : index < count) :
    ∃ plan, (state.plans.map (withStartCondition state))[index]? = some plan ∧
      NodeWell env sqls (state.plans.map (withStartCondition state)) index plan := by
  obtain ⟨plan, found, id, sql, sqlIndex, dependsOn⟩ := planned.node index below
  have own : isBatch state.plans index ↔ plan.kind = .batch := by
    rw [isBatch, found]
    exact ⟨Option.some.inj, congrArg some⟩
  have kept : ∀ other, isBatch (state.plans.map (withStartCondition state)) other ↔
      isBatch state.plans other := fun other => by rw [isBatch, kind_withStartCondition, isBatch]
  refine ⟨withStartCondition state plan, by rw [List.getElem?_map, found]; rfl, id, sql, sqlIndex,
    dependsOn, ?_⟩
  have starts : (withStartCondition state plan).startCondition = .onFinished ↔
      plan.dependsOn.any (startsFinished state plan) = true := by
    unfold withStartCondition
    split
    · exact ⟨fun _ => ‹_›, fun _ => rfl⟩
    · exact ⟨nofun, fun any => absurd any ‹_›⟩
  rw [starts, dependsOn, List.any_map, List.any_eq_true]
  simp only [kept, own]
  have each : ∀ earlier ∈ dependenciesOf env sqls index,
      ((startsFinished state plan ∘ nodeId) earlier = true ↔
        isBatch state.plans earlier ∨ plan.kind = .batch) := fun earlier member =>
    planned.startsFinished_iff
      (Nat.lt_trans (List.mem_range.mp (List.mem_filter.mp member).1) below)
  constructor
  · rintro ⟨earlier, member, finished⟩
    refine ⟨List.ne_nil_of_mem member, ?_⟩
    rcases (each earlier member).mp finished with batch | batch
    · exact .inr ⟨earlier, member, batch⟩
    · exact .inl batch
  · rintro ⟨some, batch | ⟨earlier, member, batch⟩⟩
    · obtain ⟨earlier, member⟩ := List.exists_mem_of_ne_nil _ some
      exact ⟨earlier, member, (each earlier member).mpr (.inr batch)⟩
    · exact ⟨earlier, member, (each earlier member).mpr (.inl batch)⟩

end Planned

/-- A plan that is accepted is well made. -/
theorem planWell_of_ok {env : PlannerEnv} {sqls : List String} {artifacts : StreamGroupBuildArtifacts}
    (built : buildStreamGroupPlan env sqls = .ok artifacts) : PlanWell env sqls artifacts := by
  unfold buildStreamGroupPlan at built
  simp only [bind_eq_ok] at built
  obtain ⟨state, ran, _, streams, _, others, -, -, groups, grouping, sets, sharing, -, -, built⟩ := built
  cases built
  have planned := (planned_initially env sqls).planNodes_ok rfl (Nat.zero_le _) ran
  have grouped := planned.groupStreams_ok rfl (Nat.zero_le _) (Grouped.initially _) grouping
  have members : ∀ group ∈ groups, ∀ member ∈ group.2, member < sqls.length := by
    intro group among member inside
    rw [grouped.members group among] at inside
    exact List.mem_range.mp (List.mem_filter.mp inside).1
  have pairs := planned.shareSets_ok members sharing
  rw [← planned.length] at grouped
  have classes : ∀ {set group}, group ∈ groups.filter (2 ≤ ·.2.length) → SharedBy env sqls set group →
      group ∈ groups ∧ 2 ≤ group.2.length ∧
      group.2 = sharingNodes env sqls state.plans set.canonicalSourceKeys ∧
      canonicalKeysHash set.canonicalSourceKeys = group.1 := by
    intro set group chosen shared
    obtain ⟨among, several⟩ := List.mem_filter.mp chosen
    have several := of_decide_eq_true several
    refine ⟨among, several, shared.sharingNodes_eq grouped among ?_⟩
    exact List.ne_nil_of_length_pos (Nat.lt_of_lt_of_le Nat.two_pos several)
  refine ⟨by rw [List.length_map, planned.length], fun index below => planned.node_well below, ?_, ?_,
    ?_, ?_, ?_, ?_⟩
  · intro index below
    refine List.pairwise_append.mpr ⟨List.pairwise_lt_range.filter _, List.pairwise_singleton _ _, ?_⟩
    intro earlier member last same
    rw [List.mem_singleton.mp same]
    exact List.mem_range.mp (List.mem_filter.mp member).1
  · intro key several
    have entry := entry_of_count (planned.streamCounts key) (Nat.lt_trans Nat.zero_lt_one several)
    have written : streamWritersOf env sqls sqls.length key ≠ [] :=
      List.ne_nil_of_length_pos (Nat.lt_trans Nat.zero_lt_one several)
    have caps := planned.caps key
    rw [List.getLast?_eq_some_getLast written, Option.bind_some] at caps
    have last := List.getLast_mem written
    have keyed := of_decide_eq_true (List.mem_filter.mp last).2
    obtain ⟨channel, found, -⟩ := Option.map_eq_some_iff.mp keyed
    rw [found] at caps
    exact ⟨_, channel, List.getLast?_eq_some_getLast written, found,
      checkStreamSinks_ok streams entry caps several⟩
  · intro base
    by_cases none : (otherWritersOf env sqls sqls.length base).length = 0
    · omega
    · exact checkNonStreamSinks_ok others
        (entry_of_count (planned.otherCounts base) (Nat.pos_of_ne_zero none))
  · intro set among
    obtain ⟨group, chosen, shared⟩ := forall₂_exists_right pairs among
    obtain ⟨-, several, same, -⟩ := classes chosen shared
    rw [Planned.sharingNodes_withStartCondition, ← same, shared.members, List.length_map]
    exact ⟨rfl, several⟩
  · intro canonical several
    rw [Planned.sharingNodes_withStartCondition] at several
    obtain ⟨group, among, enough, inside⟩ := grouped.group_of several
    obtain ⟨set, made, shared⟩ := forall₂_exists_right pairs.flip
      (List.mem_filter.mpr ⟨among, decide_eq_true enough⟩)
    refine ⟨set, made, ?_⟩
    obtain ⟨first, member⟩ := List.exists_mem_of_length_pos (Nat.lt_of_lt_of_le Nat.two_pos several)
    obtain ⟨-, -, same, -⟩ := classes (List.mem_filter.mpr ⟨among, decide_eq_true enough⟩) shared
    have both := inside first member
    rw [same, mem_sharingNodes] at both
    exact Option.some.inj (both.2.symm.trans (mem_sharingNodes.mp member).2)
  · refine forall₂_pairwise pairs
      ((List.pairwise_map.mp grouped.sorted).filter _) fun chosen chosen' shared shared' before => ?_
    obtain ⟨-, -, same, hashed⟩ := classes chosen shared
    obtain ⟨-, -, same', hashed'⟩ := classes chosen' shared'
    rw [shared.members, shared'.members, same, same']
    intro node left right
    obtain ⟨index, inside, rfl⟩ := List.mem_map.mp left
    obtain ⟨other, inside', equal⟩ := List.mem_map.mp right
    rw [nodeId_injective equal, mem_sharingNodes] at inside'
    have keys := Option.some.inj ((mem_sharingNodes.mp inside).2.symm.trans inside'.2)
    rw [← hashed, ← hashed', keys] at before
    exact lt_irrefl _ before

theorem buildStreamGroupPlan_well (env : PlannerEnv) (sqls : List String) :
    (∀ artifacts, buildStreamGroupPlan env sqls = .ok artifacts → PlanWell env sqls artifacts) ∧
      ∀ state, planNodes env sqls 0 {} = .ok state → checkCycle state = .ok () :=
  ⟨fun _ built => planWell_of_ok built, fun _ ran =>
    ((planned_initially env sqls).planNodes_ok rfl (Nat.zero_le _) ran).checkCycle_ok⟩

/-- Statements are their kind, their source and their sink. Every stream channel takes many writers. -/
def sampleEnv : PlannerEnv where
  parse sql :=
    match (sql.toList.splitOn ' ').map String.ofList with
    | [_, source, sink] => { source := source, dest := sink }
    | _ => { error := "three words expected" }
  classifySqlTaskKind sql := ⟨0, if sql.toList.head? = some 'b' then "batch" else "stream", ""⟩
  resolveSourceBindings _ parsed := ⟨0, { sourceKeys := parsed.sources, streamChannels := [1] }, ""⟩
  findStreamChannel name := some ⟨"stream", String.ofList (name.toList.drop 7), .multi, 0⟩

theorem exists_of_isOk {α : Type} {answer : Except PlanFailure α} (accepted : answer.isOk = true) :
    ∃ value, answer = .ok value := by
  cases answer with
  | error failure => cases accepted
  | ok value => exact ⟨value, rfl⟩

/-- Two stream nodes with one source and one sink, which a batch reads. -/
theorem shared_sink_planned : ∃ artifacts,
    buildStreamGroupPlan sampleEnv ["stream stream.in stream.out", "stream stream.in stream.out",
      "batch stream.out file.x"] = .ok artifacts ∧
    PlanWell sampleEnv ["stream stream.in stream.out", "stream stream.in stream.out",
      "batch stream.out file.x"] artifacts := by
  have accepted : (buildStreamGroupPlan sampleEnv ["stream stream.in stream.out",
      "stream stream.in stream.out", "batch stream.out file.x"]).isOk = true := by decide +kernel
  obtain ⟨artifacts, built⟩ := exists_of_isOk accepted
  exact ⟨artifacts, built, (buildStreamGroupPlan_well _ _).1 artifacts built⟩

/-- A batch node without dependencies starts while others run. -/
theorem batch_starts_running : ¬ ∀ env sqls artifacts, buildStreamGroupPlan env sqls = .ok artifacts →
    ∀ index plan, artifacts.plans[index]? = some plan →
      (plan.startCondition = .onFinished ↔ plan.kind = .batch ∨
        ∃ earlier ∈ dependenciesOf env sqls index, isBatch artifacts.plans earlier) := by
  intro claimed
  have accepted : (buildStreamGroupPlan sampleEnv ["batch file.a file.b"]).isOk = true := by
    decide +kernel
  have seen : ((buildStreamGroupPlan sampleEnv ["batch file.a file.b"]).toOption.map
      fun artifacts => artifacts.plans.map fun plan => (plan.startCondition, plan.kind)) =
        some [(.onRunning, .batch)] := by decide +kernel
  obtain ⟨artifacts, built⟩ := exists_of_isOk accepted
  rw [built] at seen
  obtain ⟨plan, plans, seen⟩ := List.map_eq_singleton_iff.mp (Option.some.inj seen)
  obtain ⟨condition, kind⟩ := Prod.mk.inj seen
  have finished := (claimed _ _ _ built 0 plan (by rw [plans]; rfl)).mpr (.inl kind)
  rw [condition] at finished
  cases finished

end Flowsql.Scheduler
