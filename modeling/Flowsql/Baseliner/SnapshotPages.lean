import Flowsql.Baseliner.SnapshotReader
import Mathlib

/-!
# What the pages of a snapshot contain

What is still to come is known from the plan: the rest of the rows with the keys of the cursor, and the rows
that compare greater. A round of the loop takes its page from the front of it. Rows get lost where they lie
behind the cursor and do not compare greater.
-/

namespace Flowsql.Baseliner.Snapshot

open Library.Rows

namespace Database

variable {Value : Type} [LinearOrder Value] {dataset : Dataset} (database : Database Value dataset)

/-- Where the keys of a row stand in the order of the plan. -/
def place (row : Row Value) : List (WithBot (WithTop Value)) :=
  database.nulls.places (dataset.key row)

def cursorPlace (plan : Plan Value) : List (WithBot (WithTop Value)) :=
  database.nulls.places (plan.cursor.map some)

/-- Every row that the database orders behind the cursor also compares greater than it. -/
def Comparable (plan : Plan Value) : Prop :=
  plan.cursor ≠ [] → ∀ row ∈ database.rows, database.cursorPlace plan < database.place row →
    greater (dataset.key row) plan.cursor = some true

/-- The rows with the keys of the cursor, in the order of all columns. -/
def group (plan : Plan Value) : List (Row Value) :=
  database.answer { plan with readingTies := true, tieOffset := 0 }

/-- The rows that are selected when no rows with equal keys are read. -/
def behind (plan : Plan Value) : List (Row Value) :=
  database.rows.filter (dataset.selects { plan with readingTies := false })

/-- What is still to come. -/
def rest (plan : Plan Value) : List (Row Value) :=
  (if plan.readingTies then (database.group plan).drop plan.tieOffset else []) ++ database.behind plan

/-- Rows with equal keys are read for a cursor, and a cursor has a value for each key. -/
structure Sound (dataset : Dataset) (plan : Plan Value) : Prop where
  ties : plan.readingTies = true → plan.cursor ≠ []
  cursor : plan.cursor = [] ∨ plan.cursor.length = dataset.keys.length

variable {database} {plan next last : Plan Value} {batch : List (Row Value)} {row other : Row Value}

omit [LinearOrder Value] in
theorem plan_start (dataset : Dataset) : Sound dataset ({} : Plan Value) :=
  ⟨by rintro ⟨⟩, .inl rfl⟩

theorem place_eq_iff {cursor : List Value} :
    database.place row = database.nulls.places (cursor.map some) ↔ dataset.key row = cursor.map some :=
  database.nulls.places_injective.eq_iff

theorem cursorPlace_le_of_start (unbounded : plan.cursor = []) {place : List (WithBot (WithTop Value))} :
    database.cursorPlace plan ≤ place := by
  have first : database.cursorPlace plan = [] := by simp [cursorPlace, unbounded, Nulls.places]
  rw [first]
  exact not_lt.mp (List.not_lt_nil _)

theorem comparable_congr (same : next.cursor = plan.cursor) :
    database.Comparable next ↔ database.Comparable plan := by
  unfold Comparable cursorPlace
  rw [same]

/-! ## The order of all columns -/

/-- Rows that are equal in all columns of the order are equal. -/
theorem row_ext (mem : row ∈ database.rows) (otherMem : other ∈ database.rows)
    (same : dataset.tieOrder.map (dataset.cell row) = dataset.tieOrder.map (dataset.cell other)) :
    row = other := by
  have width := database.width row mem
  have otherWidth := database.width other otherMem
  refine List.ext_getElem (width.trans otherWidth.symm) fun index small otherSmall => ?_
  have bound : index < dataset.fields.length := width ▸ small
  have named : dataset.fields[index] ∈ dataset.tieOrder := by
    by_cases key : dataset.fields[index] ∈ dataset.keys
    · exact List.mem_append_left _ key
    · exact List.mem_append_right _ (List.mem_filter.mpr ⟨List.getElem_mem bound, decide_eq_true key⟩)
  have cells := List.map_inj_left.mp same _ named
  unfold Dataset.cell at cells
  rw [dataset.fields_nodup.idxOf_getElem index bound] at cells
  simpa [small, otherSmall] using cells

theorem mem_of_answer (mem : row ∈ database.answer plan) :
    row ∈ database.rows ∧ dataset.selects plan row = true :=
  List.mem_filter.mp ((database.answer_perm plan).mem_iff.mp mem)

/-- Every query for the rows of a cursor has them in one order. -/
theorem answer_eq_group (ties : plan.readingTies = true) : database.answer plan = database.group plan := by
  have selections : dataset.selects plan =
      dataset.selects { plan with readingTies := true, tieOffset := 0 } := by
    funext row
    simp [Dataset.selects, ties]
  have perm : (database.answer plan).Perm (database.group plan) := by
    refine (database.answer_perm plan).trans ?_
    rw [selections]
    exact (database.answer_perm _).symm
  have sorted := database.answer_sorted plan
  unfold Dataset.order at sorted
  rw [if_pos ties] at sorted
  refine List.Perm.eq_of_pairwise ?_ sorted
    (database.answer_sorted { plan with readingTies := true, tieOffset := 0 }) perm
  intro left right leftMem rightMem less more
  exact row_ext (mem_of_answer leftMem).1 (mem_of_answer rightMem).1
    (database.nulls.places_injective (le_antisymm less more))

theorem group_perm (bounded : plan.cursor ≠ []) :
    (database.group plan).Perm (database.rows.filter fun row => dataset.key row = plan.cursor.map some) := by
  refine (database.answer_perm _).trans (List.Perm.of_eq (congrArg₂ List.filter ?_ rfl))
  funext row
  simp [Dataset.selects, bounded]

theorem place_of_group (bounded : plan.cursor ≠ []) (mem : row ∈ database.group plan) :
    database.place row = database.cursorPlace plan := by
  have found := List.mem_filter.mp ((group_perm bounded).mem_iff.mp mem)
  exact place_eq_iff.mpr (of_decide_eq_true found.2)

/-! ## What is behind a cursor -/

theorem greater_of_behind (bounded : plan.cursor ≠ []) (mem : row ∈ database.behind plan) :
    greater (dataset.key row) plan.cursor = some true := by
  have found := (List.mem_filter.mp mem).2
  simpa [Dataset.selects, bounded] using found

theorem le_place_of_rest (mem : row ∈ database.rest plan) :
    database.cursorPlace plan ≤ database.place row := by
  by_cases bounded : plan.cursor = []
  · exact cursorPlace_le_of_start bounded
  · unfold rest at mem
    rcases List.mem_append.mp mem with tie | later
    · split at tie
      · exact (place_of_group bounded (List.mem_of_mem_drop tie)).ge
      · cases tie
    · exact (places_lt_of_greater (greater_of_behind bounded later)).le

/-! ## Rounds -/

/-- A batch is taken from what is to come, from the front of it. -/
structure Step (database : Database Value dataset) (plan : Plan Value) (batch : List (Row Value))
    (next : Plan Value) : Prop where
  sound : Sound dataset next
  taken : (batch ++ database.rest next).Subperm (database.rest plan)
  kept : next.cursor = plan.cursor ∨ database.Comparable next →
    (database.rest plan).length ≤ (batch ++ database.rest next).length
  sorted : batch.Pairwise fun left right => database.place left ≤ database.place right
  seen : ∀ row ∈ batch, database.place row ≤ database.cursorPlace next
  grows : database.cursorPlace plan ≤ database.cursorPlace next

/-- Rounds without a page before the page of another round. -/
theorem Step.trans {middle : Plan Value} (first : Step database plan [] middle)
    (second : Step database middle batch next)
    (cursor : middle.cursor = plan.cursor ∨ next.cursor = middle.cursor) :
    Step database plan batch next where
  sound := second.sound
  taken := second.taken.trans first.taken
  kept := by
    intro fits
    have firstFits : middle.cursor = plan.cursor ∨ database.Comparable middle := by
      rcases cursor with same | same
      · exact .inl same
      · rcases fits with all | comparable
        · exact .inl (same.symm.trans all)
        · exact .inr ((comparable_congr same).mp comparable)
    have secondFits : next.cursor = middle.cursor ∨ database.Comparable next := by
      rcases cursor with same | same
      · rcases fits with all | comparable
        · exact .inl (all.trans same.symm)
        · exact .inr comparable
      · exact .inl same
    exact (first.kept firstFits).trans (second.kept secondFits)
  sorted := second.sorted
  seen := second.seen
  grows := first.grows.trans second.grows

/-- What the end of a round or of `ReadNext` promises. -/
def Takes (database : Database Value dataset) (plan : Plan Value) : Round Value → Prop
  | .again next => Step database plan [] next
  | .page batch next => Step database plan batch next ∧
      (batch = [] → database.rest next = [] ∧ next.cursor = plan.cursor)
  | .failed => True

/-- A page of the rows with the keys of the cursor. -/
theorem step_ties (ties : plan.readingTies = true) (sound : Sound dataset plan)
    (page : batch = ((database.group plan).drop plan.tieOffset).take dataset.pageRows) :
    Step database plan batch { plan with
      tieOffset := plan.tieOffset + batch.length
      readingTies := decide (¬batch.length < dataset.pageRows) } := by
  set next : Plan Value := { plan with
      tieOffset := plan.tieOffset + batch.length
      readingTies := decide (¬batch.length < dataset.pageRows) } with nextIs
  have bounded := sound.ties ties
  have all : ∀ row ∈ batch, database.place row = database.cursorPlace plan := by
    intro row mem
    rw [page] at mem
    exact place_of_group bounded (List.mem_of_mem_drop (List.mem_of_mem_take mem))
  have same : batch ++ database.rest next = database.rest plan := by
    unfold rest
    rw [if_pos ties, ← List.append_assoc]
    refine congrArg₂ (· ++ ·) ?_ rfl
    by_cases short : batch.length < dataset.pageRows
    · have ended : next.readingTies = false := by simp [nextIs, short]
      rw [ended, if_neg Bool.false_ne_true, List.append_nil, page]
      refine List.take_of_length_le ?_
      rw [page, List.length_take] at short
      omega
    · have going : next.readingTies = true := by simpa [nextIs] using short
      have full : batch.length = dataset.pageRows := by
        rw [page, List.length_take] at short ⊢
        omega
      have groups : database.group next = database.group plan := rfl
      have offset : next.tieOffset = plan.tieOffset + dataset.pageRows := by rw [nextIs, full]
      rw [going, if_pos rfl, groups, offset, ← List.drop_drop, page, List.take_append_drop]
  refine ⟨⟨fun _ => bounded, sound.cursor⟩, same ▸ List.Subperm.refl _, fun _ => (congrArg List.length same).ge, ?_, ?_, le_refl _⟩
  · exact List.Pairwise.imp_of_mem (fun leftMem rightMem _ => ((all _ leftMem).trans (all _ rightMem).symm).le)
      (List.pairwise_of_forall fun _ _ => trivial)
  · exact fun row mem => (all row mem).le

/-! ## Pages behind a cursor -/

theorem key_of_keyValues {values : List Value} (known : database.keyValues row = some values) :
    dataset.key row = values.map some := by
  unfold keyValues at known
  generalize dataset.key row = cells at known
  induction cells generalizing values with
  | nil =>
      obtain rfl : values = [] := by simpa using known.symm
      rfl
  | cons cell cells ih =>
      rw [List.mapM_cons] at known
      obtain ⟨value, here, known⟩ := Option.bind_eq_some_iff.mp known
      obtain ⟨others, there, same⟩ := Option.bind_eq_some_iff.mp known
      obtain rfl : value :: others = values := Option.some.inj same
      rw [List.map_cons, ih there, (Option.filter_eq_some_iff.mp here).1]

/-- The rows from the end that have the keys of the last one. -/
theorem tail_spec {values : List Value} {count tail : Nat} (known : database.tail batch values count = some tail) :
    tail ≤ count ∧ (∀ index, tail ≤ index → index < count →
      dataset.key (batch.getD index []) = values.map some) ∧
      (0 < tail → dataset.key (batch.getD (tail - 1) []) ≠ values.map some) := by
  induction count with
  | zero =>
      obtain rfl := Option.some.inj known
      exact ⟨le_refl _, fun index _ small => absurd small (Nat.not_lt_zero _), fun wrong => absurd wrong (lt_irrefl _)⟩
  | succ count ih =>
      unfold Database.tail at known
      split at known
      · cases known
      · rename_i key found
        have keys := key_of_keyValues found
        split at known
        · rename_i same
          obtain ⟨bound, equal, before⟩ := ih known
          refine ⟨Nat.le_succ_of_le bound, fun index from_ small => ?_, before⟩
          rcases Nat.lt_succ_iff_lt_or_eq.mp small with less | rfl
          · exact equal index from_ less
          · rw [keys, same]
        · rename_i differs
          obtain rfl := Option.some.inj known
          refine ⟨le_refl _, fun index from_ small => absurd small (not_lt.mpr from_), fun _ => ?_⟩
          rw [Nat.add_sub_cancel, keys]
          exact fun same => differs (List.map_injective_iff.mpr (Option.some_injective _) same)

/-- Three kinds of elements that exclude each other. -/
theorem filter_kinds {α : Type} {first second third : α → Bool} (values : List α)
    (firstSecond : ∀ value, second value = true → first value = false)
    (firstThird : ∀ value, third value = true → first value = false)
    (secondThird : ∀ value, third value = true → second value = false) :
    (values.filter first ++ (values.filter second ++ values.filter third)).Subperm values := by
  have others : (values.filter second ++ values.filter third).Subperm (values.filter fun value => !first value) := by
    have seconds : values.filter second = (values.filter fun value => !first value).filter second := by
      rw [List.filter_filter]
      refine List.filter_congr fun value _ => ?_
      cases found : second value <;> simp [firstSecond value, found]
    have thirds : values.filter third =
        ((values.filter fun value => !first value).filter fun value => !second value).filter third := by
      rw [List.filter_filter, List.filter_filter]
      refine List.filter_congr fun value _ => ?_
      cases found : third value <;> simp [firstThird value, secondThird value, found]
    rw [seconds, thirds]
    refine List.Subperm.trans ?_ (List.filter_append_perm second _).subperm
    exact (List.subperm_append_left _).mpr List.filter_sublist.subperm
  exact ((List.subperm_append_left _).mpr others).trans (List.filter_append_perm first values).subperm

/-- When the kinds are all kinds, no element is left. -/
theorem length_le_filter_kinds {α : Type} {first second third : α → Bool} {values : List α}
    (all : ∀ value ∈ values, first value = true ∨ second value = true ∨ third value = true) :
    values.length ≤ (values.filter first ++ (values.filter second ++ values.filter third)).length := by
  induction values with
  | nil => exact Nat.zero_le _
  | cons value values ih =>
      have kept := ih fun value mem => all value (.tail _ mem)
      simp only [List.length_append, ← List.countP_eq_length_filter, List.countP_cons, List.length_cons]
        at kept ⊢
      rcases all value (.head _) with kind | kind | kind <;> rw [kind, if_pos rfl] <;> omega

section Fresh

variable {values : List Value}

/-- The facts about a page that is read behind the cursor, up to its last row. -/
structure Fresh (database : Database Value dataset) (plan : Plan Value) (batch : List (Row Value))
    (values : List Value) : Prop where
  ties : plan.readingTies = false
  page : batch = (database.answer plan).take dataset.pageRows
  some_ : batch ≠ []
  last : dataset.key (batch.getD (batch.length - 1) []) = values.map some

theorem sorted_of_fresh (ties : plan.readingTies = false) :
    (database.answer plan).Pairwise fun left right => database.place left ≤ database.place right := by
  have sorted := database.answer_sorted plan
  unfold Dataset.order at sorted
  rwa [ties, if_neg Bool.false_ne_true] at sorted

theorem answer_perm_behind (ties : plan.readingTies = false) :
    (database.answer plan).Perm (database.behind plan) := by
  have perm := database.answer_perm plan
  have same : { plan with readingTies := false } = plan := by rw [← ties]
  unfold behind
  rwa [same]

namespace Fresh

theorem values_ne (fresh : Fresh database plan batch values) : values ≠ [] := by
  rintro rfl
  have keys := fresh.last
  exact dataset.keys_ne_nil (List.map_eq_nil_iff.mp keys)

theorem sound (fresh : Fresh database plan batch values) (next : Plan Value) (cursor : next.cursor = values) :
    Sound dataset next := by
  refine ⟨fun _ => cursor ▸ fresh.values_ne, .inr ?_⟩
  have keys := congrArg List.length fresh.last
  rw [List.length_map] at keys
  rw [cursor, ← keys]
  exact List.length_map _

theorem sorted (fresh : Fresh database plan batch values) :
    batch.Pairwise fun left right => database.place left ≤ database.place right := by
  rw [fresh.page]
  exact (sorted_of_fresh fresh.ties).sublist (List.take_sublist _ _)

theorem last_mem (fresh : Fresh database plan batch values) : batch.getD (batch.length - 1) [] ∈ batch := by
  have small : batch.length - 1 < batch.length := Nat.sub_lt (List.length_pos_of_ne_nil fresh.some_) one_pos
  have here : batch.getD (batch.length - 1) [] = batch[batch.length - 1] := by simp [small]
  rw [here]
  exact List.getElem_mem small

theorem place_last (fresh : Fresh database plan batch values) :
    database.place (batch.getD (batch.length - 1) []) = database.nulls.places (values.map some) :=
  place_eq_iff.mpr fresh.last

theorem place_le (fresh : Fresh database plan batch values) (mem : row ∈ batch) :
    database.place row ≤ database.nulls.places (values.map some) := by
  obtain ⟨index, small, rfl⟩ := List.getElem_of_mem mem
  rw [← fresh.place_last]
  have here : batch.getD (batch.length - 1) [] = batch[batch.length - 1] := by
    simp [Nat.sub_lt (List.length_pos_of_ne_nil fresh.some_) one_pos]
  rw [here]
  rcases Nat.lt_or_ge index (batch.length - 1) with less | most
  · exact List.pairwise_iff_getElem.mp fresh.sorted _ _ _ _ less
  · have same : index = batch.length - 1 := by omega
    simp only [same]
    exact le_refl _

theorem greater_cursor (fresh : Fresh database plan batch values) :
    plan.cursor = [] ∨ greater (values.map some) plan.cursor = some true := by
  by_cases bounded : plan.cursor = []
  · exact .inl bounded
  · have mem := fresh.last_mem
    rw [fresh.page] at mem
    have inside := (answer_perm_behind fresh.ties).mem_iff.mp (List.mem_of_mem_take mem)
    have compares := greater_of_behind bounded inside
    rw [← fresh.page, fresh.last] at compares
    exact .inr compares

/-- What compares greater than the last row was selected before it. -/
theorem selects_of_greater (fresh : Fresh database plan batch values)
    (compares : dataset.key row = values.map some ∨ greater (dataset.key row) values = some true) :
    dataset.selects { plan with readingTies := false } row = true := by
  rcases fresh.greater_cursor with unbounded | grows
  · simp [Dataset.selects, unbounded]
  · by_cases unbounded : plan.cursor = []
    · simp [Dataset.selects, unbounded]
    · rcases compares with same | greater_
      · simp [Dataset.selects, unbounded, same, grows]
      · simp [Dataset.selects, unbounded, greater_trans greater_ grows]

theorem behind_next (fresh : Fresh database plan batch values) (cursor : next.cursor = values) :
    database.behind next =
      (database.behind plan).filter fun row => greater (dataset.key row) values = some true := by
  unfold behind
  rw [List.filter_filter]
  refine List.filter_congr fun row _ => ?_
  by_cases compares : greater (dataset.key row) values = some true
  · rw [fresh.selects_of_greater (.inr compares)]
    simp [Dataset.selects, cursor, fresh.values_ne]
  · simp [Dataset.selects, cursor, fresh.values_ne, compares]

theorem group_next (fresh : Fresh database plan batch values) (cursor : next.cursor = values) :
    (database.group next).Perm
      ((database.behind plan).filter fun row => dataset.key row = values.map some) := by
  refine (group_perm (cursor ▸ fresh.values_ne)).trans (List.Perm.of_eq ?_)
  unfold behind
  rw [List.filter_filter]
  refine List.filter_congr fun row _ => ?_
  by_cases same : dataset.key row = values.map some
  · rw [fresh.selects_of_greater (.inl same), cursor]
    simp
  · simp [cursor, same]

theorem grows (fresh : Fresh database plan batch values) :
    database.cursorPlace plan ≤ database.nulls.places (values.map some) := by
  rcases fresh.greater_cursor with unbounded | compares
  · exact cursorPlace_le_of_start unbounded
  · exact (places_lt_of_greater compares).le

/-- A page that is not full is the last one. -/
theorem step_short (fresh : Fresh database plan batch values) (short : batch.length ≠ dataset.pageRows) :
    Step database plan batch { plan with cursor := values } := by
  have whole : batch = database.answer plan := by
    rw [fresh.page]
    refine List.take_of_length_le ?_
    by_contra longer
    refine short ?_
    rw [fresh.page, List.length_take]
    omega
  have nothing : database.behind { plan with cursor := values } = [] := by
    rw [fresh.behind_next rfl, List.filter_eq_nil_iff]
    intro row mem compares
    have inside := (answer_perm_behind fresh.ties).mem_iff.mpr mem
    rw [← whole] at inside
    exact absurd (places_lt_of_greater (of_decide_eq_true compares)) (not_lt.mpr (fresh.place_le inside))
  have perm : (batch ++ database.rest { plan with cursor := values }).Perm (database.rest plan) := by
    have last : database.rest { plan with cursor := values } = [] := by
      unfold rest
      rw [nothing, if_neg (by simp [fresh.ties])]
      rfl
    rw [last, List.append_nil, whole]
    unfold rest
    rw [if_neg (by simp [fresh.ties]), List.nil_append]
    exact answer_perm_behind fresh.ties
  exact ⟨fresh.sound _ rfl, perm.subperm, fun _ => perm.length_eq.ge, fresh.sorted, fun row => fresh.place_le,
    fresh.grows⟩

/-- The rows before the ones with the keys of the last row. -/
theorem take_tail (fresh : Fresh database plan batch values) (full : batch.length = dataset.pageRows)
    {tail : Nat} (cut : database.tail batch values (batch.length - 1) = some tail) :
    batch.take tail = (database.answer plan).filter fun row =>
      database.place row < database.nulls.places (values.map some) := by
  obtain ⟨bound, equal, before⟩ := tail_spec cut
  have positive := List.length_pos_of_ne_nil fresh.some_
  have sorted := List.pairwise_iff_getElem.mp (@sorted_of_fresh _ _ _ database _ fresh.ties)
  have long : batch.length ≤ (database.answer plan).length := by
    rw [fresh.page, List.length_take]
    exact Nat.min_le_right _ _
  have same (index : Nat) (small : index < batch.length) :
      batch.getD index [] = (database.answer plan)[index] := by
    have here : batch.getD index [] = batch[index] := by simp [small]
    rw [here]
    simp only [fresh.page, List.getElem_take]
  have front : batch.take tail = (database.answer plan).take tail := by
    rw [fresh.page, List.take_take, Nat.min_eq_left (by omega)]
  have less : ∀ row ∈ (database.answer plan).take tail,
      database.place row < database.nulls.places (values.map some) := by
    intro row mem
    obtain ⟨index, small, rfl⟩ := List.getElem_of_mem mem
    rw [List.getElem_take]
    rw [List.length_take] at small
    have inside : batch.getD (tail - 1) [] ∈ batch := by
      have here : batch.getD (tail - 1) [] = batch[tail - 1] := by
        simp [show tail - 1 < batch.length by omega]
      rw [here]
      exact List.getElem_mem _
    have border : database.place (batch.getD (tail - 1) []) < database.nulls.places (values.map some) :=
      lt_of_le_of_ne (fresh.place_le inside) fun wrong => before (by omega) (place_eq_iff.mp wrong)
    rw [same _ (by omega)] at border
    rcases Nat.lt_or_ge index (tail - 1) with earlier | here
    · exact (sorted _ _ _ _ earlier).trans_lt border
    · have same : index = tail - 1 := by omega
      simpa only [same] using border
  have more : ∀ row ∈ (database.answer plan).drop tail,
      ¬database.place row < database.nulls.places (values.map some) := by
    intro row mem
    obtain ⟨index, small, rfl⟩ := List.getElem_of_mem mem
    rw [List.getElem_drop, not_lt]
    rw [List.length_drop] at small
    rcases Nat.lt_or_ge (tail + index) (batch.length - 1) with earlier | later
    · refine (place_eq_iff.mpr ?_).ge
      rw [← same _ (by omega)]
      exact equal _ (Nat.le_add_right _ _) earlier
    · rw [← fresh.place_last, same _ (by omega)]
      rcases Nat.lt_or_eq_of_le later with earlier | here
      · exact sorted _ _ _ _ earlier
      · simp only [← here]
        exact le_refl _
  rw [front, ← List.take_append_drop tail (database.answer plan), List.filter_append,
    List.filter_eq_self.mpr fun row mem => decide_eq_true (less row mem),
    List.filter_eq_nil_iff.mpr fun row mem wrong => more row mem (of_decide_eq_true wrong),
    List.append_nil, List.take_append_drop]

/-- A full page without the rows with the keys of its last one. -/
theorem step_full (fresh : Fresh database plan batch values) (full : batch.length = dataset.pageRows)
    {tail : Nat} (cut : database.tail batch values (batch.length - 1) = some tail) :
    Step database plan (batch.take tail) { cursor := values, readingTies := true, tieOffset := 0 } := by
  set next : Plan Value := { cursor := values, readingTies := true, tieOffset := 0 } with nextIs
  have whole : database.rest plan = database.behind plan := by
    unfold rest
    rw [if_neg (by simp [fresh.ties])]
    rfl
  have parts : (batch.take tail ++ database.rest next).Perm
      ((database.behind plan).filter
          (fun row => database.place row < database.nulls.places (values.map some)) ++
        ((database.behind plan).filter (fun row => dataset.key row = values.map some) ++
          (database.behind plan).filter fun row => greater (dataset.key row) values = some true)) := by
    rw [fresh.take_tail full cut]
    refine ((answer_perm_behind fresh.ties).filter _).append ?_
    have later : database.rest next = database.group next ++ database.behind next := rfl
    rw [later, fresh.behind_next rfl]
    exact (fresh.group_next rfl).append_right _
  refine ⟨fresh.sound _ rfl, ?_, ?_, fresh.sorted.sublist (List.take_sublist _ _),
    fun row mem => fresh.place_le (List.mem_of_mem_take mem), fresh.grows⟩
  · rw [whole]
    refine parts.subperm.trans (filter_kinds _ ?_ ?_ ?_)
    · intro row same
      exact decide_eq_false (place_eq_iff.mpr (of_decide_eq_true same)).not_lt
    · intro row compares
      exact decide_eq_false (places_lt_of_greater (of_decide_eq_true compares)).not_gt
    · intro row compares
      have moved := @places_lt_of_greater _ _ database.nulls _ _ (of_decide_eq_true compares)
      exact decide_eq_false fun same => moved.ne' (congrArg database.nulls.places same)
  · rintro (cursor | comparable)
    · rcases fresh.greater_cursor with unbounded | compares
      · exact absurd (cursor.trans unbounded) fresh.values_ne
      · have moved := @places_lt_of_greater _ _ database.nulls _ _ compares
        rw [← cursor] at moved
        exact absurd moved (lt_irrefl _)
    · rw [whole, parts.length_eq]
      refine length_le_filter_kinds fun row mem => ?_
      rcases lt_trichotomy (database.place row) (database.nulls.places (values.map some)) with less | same | more
      · exact .inl (decide_eq_true less)
      · exact .inr (.inl (decide_eq_true (place_eq_iff.mp same)))
      · have compares := comparable fresh.values_ne row (List.mem_of_mem_filter mem) more
        exact .inr (.inr (decide_eq_true compares))

end Fresh

end Fresh

end Database

end Flowsql.Baseliner.Snapshot
