import Mathlib

/-!
# Separated spans

Half-open spans of integers, listed in increasing order with a gap between any two of
them. A set of integers has at most one such list, and its size is the sum of their
lengths. Adding a span replaces the spans that it overlaps or touches by their common
hull.
-/

namespace Flowsql.Library

/-- A half-open span of integers. -/
abbrev Span := ℤ × ℤ

namespace Span

/-- The integers in one of the spans. -/
noncomputable def covered (spans : List Span) : Finset ℤ :=
  spans.toFinset.biUnion fun span => Finset.Ico span.1 span.2

@[simp] theorem mem_covered {spans : List Span} {position : ℤ} :
    position ∈ covered spans ↔ ∃ span ∈ spans, span.1 ≤ position ∧ position < span.2 := by
  simp [covered]

@[simp] theorem covered_nil : covered [] = ∅ := rfl

theorem covered_cons (span : Span) (spans : List Span) :
    covered (span :: spans) = Finset.Ico span.1 span.2 ∪ covered spans := by
  ext position
  simp

theorem covered_append (spans others : List Span) :
    covered (spans ++ others) = covered spans ∪ covered others := by
  ext position
  simp only [mem_covered, Finset.mem_union, List.mem_append, or_and_right, exists_or]

/-- The spans are not empty, and each ends before the next one begins. -/
def Separated (spans : List Span) : Prop :=
  (∀ span ∈ spans, span.1 < span.2) ∧ spans.Pairwise fun left right => left.2 < right.1

theorem separated_nil : Separated [] := ⟨by simp, List.Pairwise.nil⟩

theorem separated_cons {span : Span} {spans : List Span} :
    Separated (span :: spans) ↔
      span.1 < span.2 ∧ (∀ other ∈ spans, span.2 < other.1) ∧ Separated spans := by
  simp only [Separated, List.forall_mem_cons, List.pairwise_cons]
  tauto

theorem separated_append {spans others : List Span} :
    Separated (spans ++ others) ↔
      Separated spans ∧ Separated others ∧ ∀ left ∈ spans, ∀ right ∈ others, left.2 < right.1 := by
  simp only [Separated, List.forall_mem_append, List.pairwise_append]
  tauto

/-! ## The overlap with one span -/

/-- The number of positions that two spans share. -/
def overlap (span other : Span) : ℕ := (min span.2 other.2 - max span.1 other.1).toNat

theorem card_inter_Ico (span other : Span) :
    (Finset.Ico span.1 span.2 ∩ Finset.Ico other.1 other.2).card = overlap span other := by
  rw [Finset.Ico_inter_Ico, Int.card_Ico]
  rfl

/-- The positions of a span that separated spans cover, counted span by span. -/
theorem card_inter_covered (span : Span) {spans : List Span} (separated : Separated spans) :
    (Finset.Ico span.1 span.2 ∩ covered spans).card = (spans.map (overlap span)).sum := by
  induction spans with
  | nil => simp
  | cons head rest ih =>
      obtain ⟨nonempty, before, restSeparated⟩ := separated_cons.mp separated
      have disjoint : Disjoint (Finset.Ico span.1 span.2 ∩ Finset.Ico head.1 head.2)
          (Finset.Ico span.1 span.2 ∩ covered rest) := by
        rw [Finset.disjoint_left]
        intro position inside later
        obtain ⟨other, member, after, _⟩ := mem_covered.mp (Finset.mem_inter.mp later).2
        have bounds := Finset.mem_Ico.mp (Finset.mem_inter.mp inside).2
        have gap := before other member
        omega
      rw [covered_cons, Finset.inter_union_distrib_left, Finset.card_union_of_disjoint disjoint,
        card_inter_Ico, ih restSeparated, List.map_cons, List.sum_cons]

/-! ## Adding a span -/

/-- The least span that contains the span and all the others. -/
def hull (span : Span) (others : List Span) : Span :=
  others.foldl (fun sum other => (min sum.1 other.1, max sum.2 other.2)) span

@[simp] theorem hull_nil (span : Span) : hull span [] = span := rfl

@[simp] theorem hull_cons (span other : Span) (others : List Span) :
    hull span (other :: others) = hull (min span.1 other.1, max span.2 other.2) others := rfl

theorem hull_first_le (span : Span) (others : List Span) : (hull span others).1 ≤ span.1 := by
  induction others generalizing span with
  | nil => exact le_refl _
  | cons other rest ih => exact (ih _).trans (min_le_left _ _)

theorem le_hull_second (span : Span) (others : List Span) : span.2 ≤ (hull span others).2 := by
  induction others generalizing span with
  | nil => exact le_refl _
  | cons other rest ih => exact (le_max_left _ _).trans (ih _)

/-- A bound below the span and below the others is a bound below their hull. -/
theorem lt_hull_first {bound : ℤ} {span : Span} {others : List Span} (first : bound < span.1)
    (below : ∀ other ∈ others, bound < other.1) : bound < (hull span others).1 := by
  induction others generalizing span with
  | nil => exact first
  | cons other rest ih =>
      obtain ⟨head, tail⟩ := List.forall_mem_cons.mp below
      exact ih (lt_min first head) tail

theorem hull_second_lt {bound : ℤ} {span : Span} {others : List Span} (last : span.2 < bound)
    (above : ∀ other ∈ others, other.2 < bound) : (hull span others).2 < bound := by
  induction others generalizing span with
  | nil => exact last
  | cons other rest ih =>
      obtain ⟨head, tail⟩ := List.forall_mem_cons.mp above
      exact ih (max_lt last head) tail

/-- Two spans overlap or touch. -/
def Touches (span other : Span) : Prop := span.1 ≤ other.2 ∧ other.1 ≤ span.2

/-- The hull of a span and of spans that touch it has no other positions. -/
theorem Ico_hull {span : Span} {others : List Span} (nonempty : span.1 < span.2)
    (ordered : ∀ other ∈ others, other.1 < other.2) (touch : ∀ other ∈ others, Touches span other) :
    Finset.Ico (hull span others).1 (hull span others).2 =
      Finset.Ico span.1 span.2 ∪ covered others := by
  induction others generalizing span with
  | nil => simp
  | cons other rest ih =>
      obtain ⟨otherNonempty, restNonempty⟩ := List.forall_mem_cons.mp ordered
      obtain ⟨otherTouches, restTouches⟩ := List.forall_mem_cons.mp touch
      have joined : Finset.Ico (min span.1 other.1) (max span.2 other.2) =
          Finset.Ico span.1 span.2 ∪ Finset.Ico other.1 other.2 := by
        ext position
        unfold Touches at otherTouches
        simp only [Finset.mem_Ico, Finset.mem_union]
        omega
      have wider : ∀ last ∈ rest,
          Touches (min span.1 other.1, max span.2 other.2) last := by
        intro last member
        obtain ⟨left, right⟩ := restTouches last member
        exact ⟨(min_le_left _ _).trans left, right.trans (le_max_left _ _)⟩
      rw [hull_cons, ih (by simp only; omega) restNonempty wider, joined, covered_cons,
        Finset.union_assoc]

/-- Replacing the spans that touch the new one by the hull keeps the list separated. -/
theorem Separated.replace {before touching after : List Span} {span : Span}
    (separated : Separated (before ++ touching ++ after)) (nonempty : span.1 < span.2)
    (left : ∀ other ∈ before, other.2 < span.1) (right : ∀ other ∈ after, span.2 < other.1) :
    Separated (before ++ hull span touching :: after) := by
  obtain ⟨outer, afterSeparated, afterBehind⟩ := separated_append.mp separated
  obtain ⟨beforeSeparated, _, touchingBehind⟩ := separated_append.mp outer
  have ordered : (hull span touching).1 < (hull span touching).2 :=
    (hull_first_le span touching).trans_lt (nonempty.trans_le (le_hull_second span touching))
  rw [separated_append, separated_cons]
  refine ⟨beforeSeparated, ⟨ordered, ?_, afterSeparated⟩, ?_⟩
  · intro other member
    exact hull_second_lt (right other member) fun inner innerMember =>
      afterBehind inner (List.mem_append_right _ innerMember) other member
  · intro other member
    simp only [List.forall_mem_cons]
    constructor
    · exact lt_hull_first (left other member) fun inner innerMember =>
        touchingBehind other member inner innerMember
    · intro last lastMember
      exact afterBehind other (List.mem_append_left _ member) last lastMember

theorem covered_replace {before touching after : List Span} {span : Span}
    (separated : Separated (before ++ touching ++ after)) (nonempty : span.1 < span.2)
    (touch : ∀ other ∈ touching, Touches span other) :
    covered (before ++ hull span touching :: after) =
      Finset.Ico span.1 span.2 ∪ covered (before ++ touching ++ after) := by
  have ordered : ∀ other ∈ touching, other.1 < other.2 := fun other member =>
    separated.1 other (List.mem_append_left _ (List.mem_append_right _ member))
  rw [covered_append, covered_append, covered_append, covered_cons, Ico_hull nonempty ordered touch]
  ext position
  simp only [Finset.mem_union]
  tauto

end Span

end Flowsql.Library
