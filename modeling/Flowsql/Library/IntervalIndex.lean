import Mathlib

/-!
# An index of intervals

Half-open intervals with a label. A list that is sorted by the starts is a balanced search tree, whose
root is in the middle; every node also carries the greatest end of its subtree. Looking up a point
visits the labels of the intervals that cover it. Intervals of one label that meet are merged first.
-/

namespace Flowsql.Library.IntervalIndex

/-- An interval from `start` up to `stop`. -/
structure Span (Point Label : Type*) where
  start : Point
  stop : Point
  subtreeStop : Point
  label : Label
  deriving DecidableEq

variable {Point Label : Type*} [LinearOrder Point]

def Span.Covers (span : Span Point Label) (point : Point) : Prop :=
  span.start ≤ point ∧ point < span.stop

/-- Some interval of `label` covers the point. -/
def Covered (spans : List (Span Point Label)) (label : Label) (point : Point) : Prop :=
  ∃ span ∈ spans, span.label = label ∧ span.Covers point

@[simp]
theorem covered_nil (label : Label) (point : Point) :
    ¬ Covered ([] : List (Span Point Label)) label point := by
  simp [Covered]

@[simp]
theorem covered_cons {span : Span Point Label} {spans : List (Span Point Label)} {label : Label}
    {point : Point} :
    Covered (span :: spans) label point ↔
      (span.label = label ∧ span.Covers point) ∨ Covered spans label point := by
  simp [Covered]

theorem covered_append {left right : List (Span Point Label)} {label : Label} {point : Point} :
    Covered (left ++ right) label point ↔
      Covered left label point ∨ Covered right label point := by
  simp [Covered, or_and_right, exists_or]

theorem covered_perm {left right : List (Span Point Label)} (perm : left.Perm right)
    {label : Label} {point : Point} : Covered left label point ↔ Covered right label point := by
  simp [Covered, perm.mem_iff]

/-! ## Merging -/

section Merging

variable [DecidableEq Label]

/-- Merges into `last` what of its label starts before its end. -/
def mergeFrom (last : Span Point Label) : List (Span Point Label) → List (Span Point Label)
  | [] => [last]
  | span :: spans =>
      if last.label = span.label ∧ span.start ≤ last.stop then
        mergeFrom { last with stop := max last.stop span.stop } spans
      else
        last :: mergeFrom span spans

def merge : List (Span Point Label) → List (Span Point Label)
  | [] => []
  | span :: spans => mergeFrom span spans

/-- Intervals of one label stand in the order of their starts. -/
def StartOrdered (spans : List (Span Point Label)) : Prop :=
  spans.Pairwise fun left right => left.label = right.label → left.start ≤ right.start

theorem covered_mergeFrom {last : Span Point Label} {spans : List (Span Point Label)}
    (ordered : StartOrdered (last :: spans)) {label : Label} {point : Point} :
    Covered (mergeFrom last spans) label point ↔ Covered (last :: spans) label point := by
  induction spans generalizing last with
  | nil => rfl
  | cons span spans ih =>
      obtain ⟨first, rest⟩ := List.pairwise_cons.1 ordered
      obtain ⟨second, others⟩ := List.pairwise_cons.1 rest
      unfold mergeFrom
      split
      · rename_i meets
        have below : last.start ≤ span.start := first span (.head _) meets.1
        have merged : StartOrdered ({ last with stop := max last.stop span.stop } :: spans) :=
          List.pairwise_cons.2 ⟨fun other held => first other (.tail _ held), others⟩
        rw [ih merged]
        simp only [covered_cons, ← or_assoc]
        refine or_congr_left ⟨?_, ?_⟩
        · rintro ⟨labelled, from_, upTo⟩
          rcases lt_or_ge point last.stop with inside | outside
          · exact .inl ⟨labelled, from_, inside⟩
          · refine .inr ⟨meets.1 ▸ labelled, meets.2.trans outside, ?_⟩
            exact (lt_max_iff.1 upTo).resolve_left (not_lt.2 outside)
        · rintro (⟨labelled, from_, upTo⟩ | ⟨labelled, from_, upTo⟩)
          · exact ⟨labelled, from_, lt_max_of_lt_left upTo⟩
          · exact ⟨meets.1.trans labelled, below.trans from_, lt_max_of_lt_right upTo⟩
      · rw [covered_cons, ih rest, covered_cons, covered_cons, covered_cons]

theorem covered_merge {spans : List (Span Point Label)} (ordered : StartOrdered spans)
    {label : Label} {point : Point} :
    Covered (merge spans) label point ↔ Covered spans label point := by
  cases spans with
  | nil => rfl
  | cons span spans => exact covered_mergeFrom ordered

end Merging

/-! ## The index -/

/-- The greatest end of a node and of the subtrees that it has. -/
def subtreeStop (stop : Point) (left right : Option Point) : Point :=
  let stop := left.elim stop (max stop)
  right.elim stop (max stop)

/-- Sets the greatest end in every node, and returns that of the root. -/
def index (spans : List (Span Point Label)) : List (Span Point Label) × Option Point :=
  match _taken : spans.drop (spans.length / 2) with
  | [] => ([], none)
  | node :: right =>
      let left := index (spans.take (spans.length / 2))
      let right := index right
      let reach := subtreeStop node.stop left.2 right.2
      (left.1 ++ { node with subtreeStop := reach } :: right.1, some reach)
  termination_by spans.length
  decreasing_by
    all_goals
      have := congrArg List.length _taken
      simp only [List.length_drop, List.length_cons, List.length_take] at *
      omega

/-- The labels of the intervals that cover the point. -/
def visit (point : Point) (spans : List (Span Point Label)) : List Label :=
  match _taken : spans.drop (spans.length / 2) with
  | [] => []
  | node :: right =>
      if node.subtreeStop ≤ point then []
      else
        visit point (spans.take (spans.length / 2)) ++
          if point < node.start then []
          else (if point < node.stop then [node.label] else []) ++ visit point right
  termination_by spans.length
  decreasing_by
    all_goals
      have := congrArg List.length _taken
      simp only [List.length_drop, List.length_cons, List.length_take] at *
      omega

/-- A balanced tree all of whose nodes know the greatest end below them. -/
inductive Indexed : List (Span Point Label) → Prop
  | nil : Indexed []
  | node {left right : List (Span Point Label)} {node : Span Point Label}
      (balanced : left.length = (left.length + (right.length + 1)) / 2)
      (leftIndexed : Indexed left) (rightIndexed : Indexed right)
      (reach : ∀ span ∈ left ++ node :: right, span.stop ≤ node.subtreeStop) :
      Indexed (left ++ node :: right)

theorem visit_nil (point : Point) : visit point ([] : List (Span Point Label)) = [] := by
  rw [visit]
  split
  · rfl
  · rename_i taken
    simp at taken

theorem visit_node {left right : List (Span Point Label)} {node : Span Point Label}
    (balanced : left.length = (left.length + (right.length + 1)) / 2) (point : Point) :
    visit point (left ++ node :: right) =
      if node.subtreeStop ≤ point then []
      else
        visit point left ++
          if point < node.start then []
          else (if point < node.stop then [node.label] else []) ++ visit point right := by
  have middle : (left ++ node :: right).length / 2 = left.length := by simp [← balanced]
  rw [visit]
  split
  · rename_i empty
    rw [middle, List.drop_left] at empty
    simp at empty
  · rename_i first rest taken
    rw [middle, List.drop_left] at taken
    obtain ⟨rfl, rfl⟩ := List.cons.inj taken
    rw [middle, List.take_left]

/-- What an interval says without the index. -/
def Span.core (span : Span Point Label) : Point × Point × Label :=
  (span.start, span.stop, span.label)

theorem covered_congr {left right : List (Span Point Label)}
    (same : left.map Span.core = right.map Span.core) {label : Label} {point : Point} :
    Covered left label point ↔ Covered right label point := by
  have byCore (spans : List (Span Point Label)) :
      Covered spans label point ↔
        ∃ core ∈ spans.map Span.core, core.2.2 = label ∧ core.1 ≤ point ∧ point < core.2.1 := by
    simp [Covered, Span.Covers, Span.core]
  rw [byCore, byCore, same]

/-- What is known about the greatest end of a subtree. -/
def Bounds (spans : List (Span Point Label)) (reach : Option Point) : Prop :=
  ∀ span ∈ spans, ∃ bound, reach = some bound ∧ span.stop ≤ bound

theorem stop_le_subtreeStop (stop : Point) (left right : Option Point) :
    stop ≤ subtreeStop stop left right := by
  cases left <;> cases right <;> simp [subtreeStop]

theorem bounds_le_subtreeStop {stop bound : Point} {left right : Option Point}
    (known : left = some bound ∨ right = some bound) : bound ≤ subtreeStop stop left right := by
  rcases known with rfl | rfl
  · cases right <;> simp [subtreeStop]
  · cases left <;> simp [subtreeStop]

/-- What indexing makes of a list. -/
structure Built (spans : List (Span Point Label)) (built : List (Span Point Label) × Option Point) :
    Prop where
  core : built.1.map Span.core = spans.map Span.core
  indexed : Indexed built.1
  bounds : Bounds built.1 built.2

theorem Built.length {spans : List (Span Point Label)}
    {built : List (Span Point Label) × Option Point} (result : Built spans built) :
    built.1.length = spans.length := by
  simpa using congrArg List.length result.core

theorem index_built (spans : List (Span Point Label)) : Built spans (index spans) := by
  induction size : spans.length using Nat.strong_induction_on generalizing spans with
  | _ size_ ih =>
      rw [index]
      split
      · rename_i empty
        have none : spans = [] := by
          have := congrArg List.length empty
          simp only [List.length_drop, List.length_nil] at this
          exact List.length_eq_zero_iff.1 (by omega)
        subst none
        exact ⟨rfl, .nil, by simp [Bounds]⟩
      · rename_i node right taken
        have lengths := congrArg List.length taken
        simp only [List.length_drop, List.length_cons] at lengths
        have halves : spans = spans.take (spans.length / 2) ++ node :: right := by
          rw [← taken, List.take_append_drop]
        have leftBuilt := ih _ (by rw [List.length_take]; omega)
          (spans.take (spans.length / 2)) rfl
        have rightBuilt := ih _ (by omega) right rfl
        have leftLength := leftBuilt.length
        have rightLength := rightBuilt.length
        rw [List.length_take] at leftLength
        generalize index (spans.take (spans.length / 2)) = left at *
        generalize index right = rest at *
        have reach : ∀ span ∈ left.1 ++
            { node with subtreeStop := subtreeStop node.stop left.2 rest.2 } :: rest.1,
            span.stop ≤ subtreeStop node.stop left.2 rest.2 := by
          intro span held
          simp only [List.mem_append, List.mem_cons] at held
          rcases held with held | rfl | held
          · obtain ⟨bound, known, below⟩ := leftBuilt.bounds span held
            exact below.trans (bounds_le_subtreeStop (.inl known))
          · exact stop_le_subtreeStop _ _ _
          · obtain ⟨bound, known, below⟩ := rightBuilt.bounds span held
            exact below.trans (bounds_le_subtreeStop (.inr known))
        constructor
        · conv_rhs => rw [halves]
          simp [leftBuilt.core, rightBuilt.core, Span.core]
        · exact .node (by omega) leftBuilt.indexed rightBuilt.indexed reach
        · exact fun span held => ⟨_, rfl, reach span held⟩

/-- Indexing keeps the order. -/
theorem index_sorted {spans : List (Span Point Label)}
    (sorted : spans.Pairwise (·.start ≤ ·.start)) :
    (index spans).1.Pairwise (·.start ≤ ·.start) := by
  have starts (list : List (Span Point Label)) :
      list.Pairwise (·.start ≤ ·.start) ↔ (list.map Span.core).Pairwise (·.1 ≤ ·.1) := by
    simp [List.pairwise_map, Span.core]
  rw [starts] at sorted ⊢
  rwa [(index_built spans).core]

/-- The lookup finds the labels of the intervals that cover the point, and no others. -/
theorem mem_visit {spans : List (Span Point Label)} (indexed : Indexed spans)
    (sorted : spans.Pairwise (·.start ≤ ·.start)) {point : Point} {label : Label} :
    label ∈ visit point spans ↔ Covered spans label point := by
  induction indexed with
  | nil => simp [visit_nil]
  | @node left right node balanced _ _ reach leftIh rightIh =>
      obtain ⟨leftSorted, rest, across⟩ := List.pairwise_append.1 sorted
      obtain ⟨after, rightSorted⟩ := List.pairwise_cons.1 rest
      rw [visit_node balanced, covered_append, covered_cons]
      split
      · rename_i over_
        have uncovered : ∀ span ∈ left ++ node :: right, ¬ span.Covers point :=
          fun span held covers => (((reach span held).trans over_).trans_lt covers.2).false
        simp only [List.not_mem_nil, false_iff]
        rintro (⟨span, held, -, covers⟩ | ⟨-, covers⟩ | ⟨span, held, -, covers⟩)
        · exact uncovered span (by simp [held]) covers
        · exact uncovered node (by simp) covers
        · exact uncovered span (by simp [held]) covers
      · rw [List.mem_append, leftIh leftSorted]
        refine or_congr_right ?_
        split
        · rename_i before
          simp only [List.not_mem_nil, false_iff]
          rintro (⟨-, covers⟩ | ⟨span, held, -, covers⟩)
          · exact (before.trans_le covers.1).false
          · exact ((before.trans_le (after span held)).trans_le covers.1).false
        · rename_i started
          rw [List.mem_append, rightIh rightSorted]
          refine or_congr_left ?_
          split
          · rename_i inside
            simp [Span.Covers, inside, not_lt.1 started, eq_comm]
          · rename_i outside
            simp [Span.Covers, outside]

/-- A list that was sorted by starts and then indexed answers every lookup. -/
theorem mem_visit_index {spans : List (Span Point Label)}
    (sorted : spans.Pairwise (·.start ≤ ·.start)) {point : Point} {label : Label} :
    label ∈ visit point (index spans).1 ↔ Covered spans label point :=
  (mem_visit (index_built spans).indexed (index_sorted sorted)).trans
    (covered_congr (index_built spans).core)

end Flowsql.Library.IntervalIndex
