import Mathlib

/-!
# Visits in topological order

Kahn's algorithm over numbered vertices: a vertex is visited when every edge to it comes from a vertex
that was visited before. It visits every vertex when the edges lead to larger numbers.
-/

namespace Flowsql.Library.Kahn

/-- The edges, as pairs of a vertex and its successor. -/
abbrev Edges := List (Nat × Nat)

def successors (edges : Edges) (vertex : Nat) : List Nat :=
  (edges.filter (·.1 = vertex)).map Prod.snd

def indegree (edges : Edges) (vertex : Nat) : Nat :=
  edges.countP (·.2 = vertex)

/-- One edge less for each successor; those without edges go into the queue. -/
def relax : List Nat → (Nat → Nat) → List Nat → (Nat → Nat) × List Nat
  | [], degrees, queue => (degrees, queue)
  | vertex :: rest, degrees, queue =>
      let degrees := Function.update degrees vertex (degrees vertex - 1)
      relax rest degrees (if degrees vertex = 0 then queue ++ [vertex] else queue)

/-- The loop over the queue, for at most so many visits, with what is left in the queue. -/
def visitFrom (edges : Edges) : Nat → List Nat → (Nat → Nat) → Nat → Nat × List Nat
  | 0, queue, _, visited => (visited, queue)
  | _ + 1, [], _, visited => (visited, [])
  | fuel + 1, vertex :: queue, degrees, visited =>
      let (degrees, queue) := relax (successors edges vertex) degrees queue
      visitFrom edges fuel queue degrees (visited + 1)

/-- The number of vertices that are visited, and the queue that is left. -/
def visit (edges : Edges) (vertices : Nat) : Nat × List Nat :=
  visitFrom edges vertices ((List.range vertices).filter (indegree edges · = 0)) (indegree edges) 0

/-! ## One vertex -/

/-- What the successors of a vertex lose, and which of them go into the queue. -/
theorem relax_spec {vertices : List Nat} {degrees : Nat → Nat} {queue : List Nat}
    (enough : ∀ vertex, vertices.count vertex ≤ degrees vertex) :
    (∀ vertex, (relax vertices degrees queue).1 vertex = degrees vertex - vertices.count vertex) ∧
    ∃ more, (relax vertices degrees queue).2 = queue ++ more ∧ more.Nodup ∧
      ∀ vertex, vertex ∈ more ↔ vertex ∈ vertices ∧ degrees vertex = vertices.count vertex := by
  induction vertices generalizing degrees queue with
  | nil => exact ⟨fun _ => rfl, [], by simp [relax], List.nodup_nil, by simp⟩
  | cons first rest ih =>
      have some_first : 0 < degrees first := by
        have := enough first
        rw [List.count_cons_self] at this
        omega
      have less : ∀ vertex, rest.count vertex ≤
          Function.update degrees first (degrees first - 1) vertex := by
        intro vertex
        have := enough vertex
        by_cases same : vertex = first
        · subst same
          rw [List.count_cons_self] at this
          rw [Function.update_self]
          omega
        · rw [List.count_cons_of_ne (Ne.symm same)] at this
          rwa [Function.update_of_ne same]
      obtain ⟨left, more, queued, distinct, members⟩ :=
        @ih (Function.update degrees first (degrees first - 1))
          (if Function.update degrees first (degrees first - 1) first = 0
            then queue ++ [first] else queue) less
      refine ⟨fun vertex => ?_, ?_⟩
      · refine (left vertex).trans ?_
        by_cases same : vertex = first
        · subst same
          rw [Function.update_self, List.count_cons_self]
          omega
        · rw [Function.update_of_ne same, List.count_cons_of_ne (Ne.symm same)]
      · have others : ∀ vertex, vertex ≠ first → (vertex ∈ more ↔
            vertex ∈ first :: rest ∧ degrees vertex = (first :: rest).count vertex) := by
          intro vertex different
          rw [members, Function.update_of_ne different, List.mem_cons,
            List.count_cons_of_ne (Ne.symm different)]
          simp [different]
        have first_one := members first
        rw [Function.update_self] at first_one
        by_cases last : degrees first - 1 = 0
        · have absent : first ∉ rest := by
            have := less first
            rw [Function.update_self, last] at this
            exact List.count_eq_zero.mp (Nat.le_zero.mp this)
          refine ⟨first :: more, ?_, ?_, fun vertex => ?_⟩
          · refine queued.trans ?_
            rw [Function.update_self, if_pos last, List.append_assoc]
            rfl
          · exact List.nodup_cons.mpr ⟨fun member => absent (first_one.mp member).1, distinct⟩
          · by_cases same : vertex = first
            · subst same
              rw [List.count_cons_self, List.count_eq_zero.mpr absent]
              simp
              omega
            · rw [List.mem_cons, or_iff_right same, others vertex same]
        · refine ⟨more, ?_, distinct, fun vertex => ?_⟩
          · refine queued.trans ?_
            rw [Function.update_self, if_neg last]
          · by_cases same : vertex = first
            · subst same
              rw [first_one, List.count_cons_self]
              have present : degrees vertex - 1 = rest.count vertex → vertex ∈ rest := by
                intro equal
                exact List.count_pos_iff.mp (by omega)
              constructor
              · exact fun ⟨_, equal⟩ => ⟨List.mem_cons_self, by omega⟩
              · exact fun ⟨_, equal⟩ => ⟨present (by omega), by omega⟩
            · exact others vertex same

/-! ## The loop -/

/-- The vertices that were visited, and those in the queue. -/
structure Visiting (edges : Edges) (vertices : Nat) (visited queue : List Nat)
    (degrees : Nat → Nat) : Prop where
  distinct : (visited ++ queue).Nodup
  within : ∀ vertex ∈ visited ++ queue, vertex < vertices
  left : ∀ vertex, degrees vertex =
    edges.countP fun edge => edge.2 = vertex ∧ edge.1 ∉ visited
  ready : ∀ vertex < vertices, degrees vertex = 0 ↔ vertex ∈ visited ++ queue

namespace Visiting

variable {edges : Edges} {vertices : Nat} {visited queue : List Nat} {degrees : Nat → Nat}

theorem initially (edges : Edges) (vertices : Nat) : Visiting edges vertices []
    ((List.range vertices).filter (indegree edges · = 0)) (indegree edges) where
  distinct := List.nodup_range.filter _
  within vertex member := List.mem_range.mp (List.mem_filter.mp member).1
  left vertex := by simp [indegree]
  ready vertex inside := by simp [inside]

theorem count_successors (edges : Edges) (vertex other : Nat) :
    (successors edges vertex).count other = edges.countP fun edge => edge.2 = other ∧ edge.1 = vertex := by
  rw [successors, List.count_eq_countP, List.countP_map, List.countP_filter]
  refine List.countP_congr fun edge _ => ?_
  simp [and_comm]

/-- The first vertex of the queue is visited. -/
theorem relax {vertex : Nat} (visiting : Visiting edges vertices visited (vertex :: queue) degrees)
    (inside : ∀ edge ∈ edges, edge.2 < vertices) :
    Visiting edges vertices (visited ++ [vertex])
      (Kahn.relax (successors edges vertex) degrees queue).2
      (Kahn.relax (successors edges vertex) degrees queue).1 := by
  have apart := List.nodup_append.mp visiting.distinct
  have fresh : vertex ∉ visited := fun member =>
    apart.2.2 vertex member vertex List.mem_cons_self rfl
  have split : ∀ other, degrees other = (successors edges vertex).count other +
      edges.countP fun edge => edge.2 = other ∧ edge.1 ∉ visited ++ [vertex] := by
    intro other
    rw [visiting.left, count_successors]
    clear visiting inside apart
    induction edges with
    | nil => rfl
    | cons edge edges ih =>
        rw [List.countP_cons, List.countP_cons, List.countP_cons, ih]
        by_cases target : edge.2 = other
        · by_cases source : edge.1 = vertex
          · simp [target, source, fresh]
            omega
          · by_cases before : edge.1 ∈ visited <;> simp [target, source, before]
            omega
        · simp [target]
  have enough : ∀ other, (successors edges vertex).count other ≤ degrees other := by
    intro other
    rw [split]
    exact Nat.le_add_right _ _
  obtain ⟨left, more, queued, distinct, members⟩ := @relax_spec _ degrees queue enough
  have new : ∀ other ∈ more, other ∉ visited ++ vertex :: queue := by
    intro other member present
    obtain ⟨successor, count⟩ := (members other).mp member
    have zero := (visiting.ready other (visiting.within other present)).mpr present
    rw [zero] at count
    exact List.count_eq_zero.mp count.symm successor
  have joined : visited ++ [vertex] ++ (queue ++ more) = (visited ++ vertex :: queue) ++ more := by
    simp
  rw [queued]
  refine ⟨?_, ?_, ?_, ?_⟩
  · rw [joined]
    refine List.nodup_append.mpr ⟨visiting.distinct, distinct, ?_⟩
    rintro other present _ member rfl
    exact new other member present
  · intro other member
    rw [joined] at member
    rcases List.mem_append.mp member with member | member
    · exact visiting.within other member
    · obtain ⟨edge, among, rfl⟩ := List.mem_map.mp ((members other).mp member).1
      exact inside edge (List.mem_filter.mp among).1
  · intro other
    rw [left, split, Nat.add_sub_cancel_left]
  · intro other below
    rw [left, joined, List.mem_append, ← visiting.ready other below, members]
    have := enough other
    constructor
    · intro zero
      by_cases none : degrees other = 0
      · exact .inl none
      · have count : degrees other = (successors edges vertex).count other := by omega
        exact .inr ⟨List.count_pos_iff.mp (by omega), count⟩
    · rintro (none | ⟨-, count⟩) <;> omega

/-- When the edges lead to larger numbers, an empty queue leaves no vertex. -/
theorem all_visited (visiting : Visiting edges vertices visited [] degrees)
    (upward : ∀ edge ∈ edges, edge.1 < edge.2) : visited.length = vertices := by
  have every : ∀ vertex < vertices, vertex ∈ visited := by
    intro vertex
    induction vertex using Nat.strong_induction_on with
    | _ vertex ih =>
        intro below
        have zero : degrees vertex = 0 := by
          rw [visiting.left, List.countP_eq_zero]
          intro edge member
          simp only [decide_eq_true_eq, not_and, not_not]
          rintro rfl
          exact ih edge.1 (upward edge member) (Nat.lt_trans (upward edge member) below)
        simpa using (visiting.ready vertex below).mp zero
  have distinct : visited.Nodup := by simpa using visiting.distinct
  have same : visited.toFinset = Finset.range vertices := by
    ext vertex
    rw [List.mem_toFinset, Finset.mem_range]
    exact ⟨fun member => visiting.within vertex (by simpa using member), every vertex⟩
  rw [← List.toFinset_card_of_nodup distinct, same, Finset.card_range]

/-- No more than all vertices are visited or waiting. -/
theorem length_le (visiting : Visiting edges vertices visited queue degrees) :
    (visited ++ queue).length ≤ vertices := by
  rw [← List.toFinset_card_of_nodup visiting.distinct, ← Finset.card_range vertices]
  refine Finset.card_le_card fun vertex member => ?_
  exact Finset.mem_range.mpr (visiting.within vertex (List.mem_toFinset.mp member))

end Visiting

/-- The loop ends with an empty queue when it may visit as many as there are. -/
theorem visitFrom_spec {edges : Edges} {vertices fuel : Nat} {visited queue : List Nat}
    {degrees : Nat → Nat} (visiting : Visiting edges vertices visited queue degrees)
    (inside : ∀ edge ∈ edges, edge.2 < vertices) (enough : vertices ≤ visited.length + fuel) :
    ∃ visited' degrees', visitFrom edges fuel queue degrees visited.length = (visited'.length, []) ∧
      Visiting edges vertices visited' [] degrees' := by
  induction fuel generalizing visited queue degrees with
  | zero =>
      have bound := visiting.length_le
      rw [List.length_append] at bound
      obtain rfl : queue = [] := List.length_eq_zero_iff.mp (by omega)
      exact ⟨visited, degrees, rfl, visiting⟩
  | succ fuel ih =>
      cases queue with
      | nil => exact ⟨visited, degrees, rfl, visiting⟩
      | cons vertex queue =>
          have next := visiting.relax inside
          obtain ⟨visited', degrees', ran, ended⟩ := ih next
            (by rw [List.length_append, List.length_singleton]; omega)
          rw [List.length_append, List.length_singleton] at ran
          exact ⟨visited', degrees', ran, ended⟩

/-- The loop ends, and has visited every vertex, when the edges lead to larger numbers. -/
theorem visit_upward {edges : Edges} {vertices : Nat} (upward : ∀ edge ∈ edges, edge.1 < edge.2)
    (inside : ∀ edge ∈ edges, edge.2 < vertices) : visit edges vertices = (vertices, []) := by
  obtain ⟨visited, degrees, ran, visiting⟩ :=
    visitFrom_spec (.initially edges vertices) inside (Nat.le_add_left _ _)
  exact ran.trans (by rw [visiting.all_visited upward])

end Flowsql.Library.Kahn
