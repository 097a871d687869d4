import Mathlib

/-!
# Ordered sets

A set as a strictly increasing list, as an ordered tree holds it. Insertion and removal
keep the order, so a lower part of the set is a prefix of the list.
-/

namespace Flowsql.Library

variable {α : Type} [LinearOrder α]

structure OrderedSet (α : Type) [LinearOrder α] where
  elements : List α
  sorted : elements.Pairwise (· < ·)

namespace OrderedSet

@[ext] theorem ext {left right : OrderedSet α} (same : left.elements = right.elements) :
    left = right := by
  cases left
  cases right
  congr

instance : Membership α (OrderedSet α) := ⟨fun set element => element ∈ set.elements⟩

theorem mem_def {set : OrderedSet α} {element : α} : element ∈ set ↔ element ∈ set.elements :=
  Iff.rfl

def empty : OrderedSet α := ⟨[], .nil⟩

theorem nodup (set : OrderedSet α) : set.elements.Nodup := set.sorted.imp fun less => less.ne

def insertSorted (element : α) : List α → List α
  | [] => [element]
  | first :: rest =>
      if element < first then element :: first :: rest
      else if element = first then first :: rest
      else first :: insertSorted element rest

theorem mem_insertSorted {element other : α} {elements : List α} :
    other ∈ insertSorted element elements ↔ other = element ∨ other ∈ elements := by
  induction elements with
  | nil => simp [insertSorted]
  | cons first rest ih =>
      unfold insertSorted
      split
      · simp
      · split
        · next same => simp [same]
        · simp only [List.mem_cons, ih]
          tauto

theorem sorted_insertSorted {element : α} {elements : List α}
    (sorted : elements.Pairwise (· < ·)) : (insertSorted element elements).Pairwise (· < ·) := by
  induction elements with
  | nil => simp [insertSorted]
  | cons first rest ih =>
      have ⟨below, restSorted⟩ := List.pairwise_cons.mp sorted
      unfold insertSorted
      split
      · next less =>
          refine List.pairwise_cons.mpr ⟨fun other member => ?_, sorted⟩
          rcases List.mem_cons.mp member with same | later
          · exact same ▸ less
          · exact less.trans (below other later)
      · next notLess =>
          split
          · exact sorted
          · next different =>
              refine List.pairwise_cons.mpr ⟨fun other member => ?_, ih restSorted⟩
              rcases mem_insertSorted.mp member with same | later
              · exact same ▸ lt_of_le_of_ne (not_lt.mp notLess) (Ne.symm different)
              · exact below other later

theorem insertSorted_perm {element : α} {elements : List α} (absent : element ∉ elements) :
    (insertSorted element elements).Perm (element :: elements) := by
  induction elements with
  | nil => exact .refl _
  | cons first rest ih =>
      unfold insertSorted
      split
      · exact .refl _
      · rw [if_neg fun same : element = first => absent (same ▸ List.mem_cons_self)]
        exact ((ih fun member => absent (List.mem_cons_of_mem _ member)).cons first).trans
          (.swap element first rest)

/-- An element that is already there stays. -/
def insert (element : α) (set : OrderedSet α) : OrderedSet α :=
  ⟨insertSorted element set.elements, sorted_insertSorted set.sorted⟩

def erase (element : α) (set : OrderedSet α) : OrderedSet α :=
  ⟨set.elements.erase element, set.sorted.sublist List.erase_sublist⟩

variable {set : OrderedSet α} {element other : α}

@[simp] theorem mem_insert : other ∈ set.insert element ↔ other = element ∨ other ∈ set :=
  mem_insertSorted

@[simp] theorem mem_erase : other ∈ set.erase element ↔ other ≠ element ∧ other ∈ set :=
  set.nodup.mem_erase_iff

theorem insert_perm (absent : element ∉ set) :
    (set.insert element).elements.Perm (element :: set.elements) :=
  insertSorted_perm absent

theorem erase_perm (present : element ∈ set) :
    set.elements.Perm (element :: (set.erase element).elements) :=
  List.perm_cons_erase present

theorem erase_of_not_mem (absent : element ∉ set) : set.erase element = set :=
  ext (List.erase_of_not_mem absent)

/-- Two sets with the same elements are the same list. -/
theorem eq_of_perm {left right : OrderedSet α} (same : left.elements.Perm right.elements) :
    left = right :=
  ext (same.eq_of_pairwise (fun _ _ _ _ less greater => absurd greater less.asymm)
    left.sorted right.sorted)

theorem erase_insert (absent : element ∉ set) : (set.insert element).erase element = set :=
  eq_of_perm ((erase_perm (mem_insert.mpr (.inl rfl))).symm.trans (insert_perm absent)).cons_inv

/-- One element takes the place of another. -/
theorem insert_erase_perm (absent : element ∉ set) (present : other ∈ set) :
    ((set.insert element).erase other).elements.Perm (element :: (set.erase other).elements) := by
  have split := (erase_perm (mem_insert.mpr (.inr present))).symm.trans
    ((insert_perm absent).trans ((erase_perm present).cons element))
  exact (split.trans (.swap _ _ _)).cons_inv

/-- The elements before the first one that is not within the bound. -/
def upTo (within : α → Bool) (set : OrderedSet α) : List α := set.elements.takeWhile within

theorem upTo_sublist (within : α → Bool) : (set.upTo within).Sublist set.elements :=
  List.takeWhile_sublist _

/-- For a bound that is closed downwards these are all elements within it. -/
theorem mem_upTo {within : α → Bool}
    (closed : ∀ low high, low ≤ high → within high → within low) :
    element ∈ set.upTo within ↔ element ∈ set ∧ within element := by
  obtain ⟨elements, sorted⟩ := set
  unfold upTo
  rw [mem_def]
  simp only
  induction elements with
  | nil => simp
  | cons first rest ih =>
      have ⟨below, restSorted⟩ := List.pairwise_cons.mp sorted
      rw [List.takeWhile_cons]
      split
      · next inside =>
          rw [List.mem_cons, List.mem_cons, ih restSorted]
          constructor
          · rintro (rfl | ⟨member, within_⟩)
            · exact ⟨.inl rfl, inside⟩
            · exact ⟨.inr member, within_⟩
          · rintro ⟨rfl | member, within_⟩
            · exact .inl rfl
            · exact .inr ⟨member, within_⟩
      · next outside =>
          constructor
          · exact fun member => absurd member (List.not_mem_nil)
          · rintro ⟨member, within_⟩
            rcases List.mem_cons.mp member with rfl | later
            · exact absurd within_ outside
            · exact absurd (closed first element (below element later).le within_) outside

end OrderedSet

end Flowsql.Library
