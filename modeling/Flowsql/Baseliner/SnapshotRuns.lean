import Flowsql.Baseliner.SnapshotPages

/-!
# Reading a snapshot to its end

The calls of `ReadNext` end after a few rounds, and the pages after a few calls. Every row of the selection is
read exactly as long as the rows behind each cursor compare greater.
-/

namespace Flowsql.Baseliner.Snapshot

open Library.Rows

namespace Database

variable {Value : Type} [LinearOrder Value] {dataset : Dataset} {database : Database Value dataset}
variable {plan next : Plan Value} {batch : List (Row Value)} {row : Row Value}

/-- How many more rounds can go without a page. -/
def delay (database : Database Value dataset) (plan : Plan Value) : Nat :=
  if plan.readingTies then if plan.tieOffset < (database.group plan).length then 0 else 2 else 1

/-- What a round promises: a page, or a plan that is closer to one. -/
structure Ends (database : Database Value dataset) (plan : Plan Value) (ended : Round Value) : Prop where
  takes : Takes database plan ended
  closer : ∀ next, ended = .again next → database.delay next < database.delay plan ∧
    (next.cursor = plan.cursor ∨ database.delay next = 0)
  ties : database.delay plan = 0 → ∀ batch next, ended = .page batch next →
    batch ≠ [] ∧ next.cursor = plan.cursor

/-- The last row of a full page is among the rows with its keys. -/
theorem Fresh.delay_group {values : List Value} (fresh : Fresh database plan batch values) :
    database.delay ⟨values, true, 0⟩ = 0 := by
  have inside : batch.getD (batch.length - 1) [] ∈ database.group ⟨values, true, 0⟩ := by
    have mem : batch.getD (batch.length - 1) [] ∈ (database.answer plan).take dataset.pageRows := by
      rw [← fresh.page]
      exact fresh.last_mem
    have selected := (answer_perm_behind fresh.ties).mem_iff.mp (List.mem_of_mem_take mem)
    exact (fresh.group_next rfl).mem_iff.mpr (List.mem_filter.mpr ⟨selected, decide_eq_true fresh.last⟩)
  unfold delay
  rw [if_pos rfl, if_pos (List.length_pos_of_mem inside)]

namespace Ends

theorem failed : Ends database plan .failed :=
  ⟨trivial, by rintro _ ⟨⟩, by rintro - _ _ ⟨⟩⟩

theorem page (takes : Takes database plan (.page batch next))
    (ties : database.delay plan = 0 → batch ≠ [] ∧ next.cursor = plan.cursor) :
    Ends database plan (.page batch next) := by
  refine ⟨takes, by rintro _ ⟨⟩, ?_⟩
  rintro now batch next ⟨⟩
  exact ties now

theorem again (step : Step database plan [] next) (closer : database.delay next < database.delay plan)
    (cursor : next.cursor = plan.cursor ∨ database.delay next = 0) : Ends database plan (.again next) := by
  refine ⟨step, ?_, by rintro - _ _ ⟨⟩⟩
  rintro next ⟨⟩
  exact ⟨closer, cursor⟩

end Ends

theorem round_ties (ties : plan.readingTies = true) (sound : Sound dataset plan) :
    Ends database plan (database.round plan) := by
  unfold round readPage
  by_cases fails : database.fails plan = true
  · rw [if_pos fails]
    exact Ends.failed
  · rw [if_neg fails]
    dsimp only
    rw [if_pos ties, if_pos ties, answer_eq_group ties]
    generalize page : ((database.group plan).drop plan.tieOffset).take dataset.pageRows = batch
    have step := step_ties ties sound page.symm
    by_cases empty : batch = []
    · rw [if_neg (not_not.mpr empty)]
      have past : ¬plan.tieOffset < (database.group plan).length := by
        have none_ := congrArg List.length (page.trans empty)
        rw [List.length_take, List.length_drop, List.length_nil] at none_
        have := dataset.pageRows_pos
        omega
      refine Ends.again (empty ▸ step) ?_ (.inl rfl)
      unfold delay
      simp [ties, past, empty, dataset.pageRows_pos]
    · rw [if_pos empty]
      exact Ends.page ⟨step, fun wrong => absurd wrong empty⟩ fun _ => ⟨empty, rfl⟩

theorem round_behind (ties : ¬plan.readingTies = true) (sound : Sound dataset plan) :
    Ends database plan (database.round plan) := by
  have off := Bool.not_eq_true _ ▸ ties
  have slow : database.delay plan = 1 := by
    unfold delay
    rw [if_neg ties]
  have now : ¬database.delay plan = 0 := by omega
  unfold round readPage
  by_cases fails : database.fails plan = true
  · rw [if_pos fails]
    exact Ends.failed
  · rw [if_neg fails]
    dsimp only
    rw [if_neg ties, if_neg ties, List.drop_zero]
    generalize page : (database.answer plan).take dataset.pageRows = batch
    by_cases empty : batch = []
    · rw [if_pos empty]
      refine Ends.page ⟨⟨sound, List.Subperm.refl _, fun _ => le_refl _,
        List.Pairwise.nil, (fun _ wrong => nomatch wrong), le_refl _⟩, fun _ => ⟨?_, rfl⟩⟩ fun fast => absurd fast now
      have nothing : database.answer plan = [] := by
        rcases List.take_eq_nil_iff.mp (page.trans empty) with wrong | none_
        · exact absurd wrong dataset.pageRows_pos.ne'
        · exact none_
      have perm := @answer_perm_behind _ _ _ database _ off
      rw [nothing] at perm
      unfold rest
      rw [if_neg ties, perm.nil_eq.symm]
      rfl
    · rw [if_neg empty]
      split
      · exact Ends.failed
      · rename_i values known
        have fresh : Fresh database plan batch values := ⟨off, page.symm, empty, key_of_keyValues known⟩
        split
        · exact Ends.failed
        · rename_i tail cut
          split
          · rename_i full
            have step := fresh.step_full full cut
            split
            · rename_i none_
              rw [none_, List.take_zero] at step
              have fast : database.delay ⟨values, true, 0⟩ = 0 := fresh.delay_group
              exact Ends.again step (by omega) (.inr fast)
            · rename_i some_
              refine Ends.page ⟨step, fun wrong => ?_⟩ fun fast => absurd fast now
              rcases List.take_eq_nil_iff.mp wrong with zero | none_
              · exact absurd zero some_
              · exact absurd none_ empty
          · rename_i short
            exact Ends.page ⟨fresh.step_short short, fun wrong => absurd wrong empty⟩ fun fast => absurd fast now

theorem round_ends (sound : Sound dataset plan) : Ends database plan (database.round plan) := by
  by_cases ties : plan.readingTies = true
  · exact round_ties ties sound
  · exact round_behind ties sound

theorem readNext_takes (rounds : Nat) (sound : Sound dataset plan) (soon : database.delay plan < rounds) :
    Takes database plan (database.readNext rounds plan) ∧
      ∀ next, database.readNext rounds plan ≠ .again next := by
  induction rounds generalizing plan with
  | zero => exact absurd soon (Nat.not_lt_zero _)
  | succ rounds ih =>
      have ends := @round_ends _ _ _ database _ sound
      unfold readNext
      rcases ended : database.round plan with middle | ⟨batch, next⟩ | _
      case again =>
        obtain ⟨closer, moved⟩ := ends.closer middle ended
        have first : Step database plan [] middle := by
          have takes := ends.takes
          rw [ended] at takes
          exact takes
        obtain ⟨takes, stops⟩ := ih first.sound (by omega)
        refine ⟨?_, stops⟩
        dsimp only
        rcases outcome : database.readNext rounds middle with next | ⟨batch, next⟩ | _
        · exact absurd outcome (stops next)
        · rw [outcome] at takes
          obtain ⟨second, last⟩ := takes
          rcases moved with same | now
          · exact ⟨first.trans second (.inl same), fun none_ => ⟨(last none_).1, (last none_).2.trans same⟩⟩
          · -- The next round has the page, so it is the last one.
            have here : database.round middle = .page batch next := by
              cases rounds with
              | zero => cases outcome
              | succ rounds =>
                  unfold readNext at outcome
                  split at outcome
                  · rename_i wrong
                    have := ((round_ends first.sound).closer _ wrong).1
                    omega
                  · exact outcome
            obtain ⟨some_, same⟩ := (round_ends first.sound).ties now batch next here
            exact ⟨first.trans second (.inr same), fun none_ => absurd none_ some_⟩
        · trivial
      case page =>
        have takes := ends.takes
        rw [ended] at takes
        exact ⟨takes, fun _ wrong => nomatch wrong⟩
      case failed => exact ⟨trivial, fun _ wrong => nomatch wrong⟩

theorem delay_lt (database : Database Value dataset) (plan : Plan Value) : database.delay plan < 3 := by
  unfold delay
  split
  · split <;> decide
  · decide

/-! ## Runs -/

/-- Calls that return their pages until the empty one. -/
inductive Run (database : Database Value dataset) : Plan Value → List (List (Row Value)) → List (Plan Value) → Prop
  | ended {plan next : Plan Value} : Step database plan [] next → database.rest next = [] →
      next.cursor = plan.cursor → Run database plan [] [plan]
  | page {plan next : Plan Value} {batch : List (Row Value)} {pages : List (List (Row Value))}
      {plans : List (Plan Value)} : Step database plan batch next → Run database next pages plans →
      Run database plan (batch :: pages) (plan :: plans)

theorem readAll_run (calls : Nat) (sound : Sound dataset plan) (enough : (database.rest plan).length < calls) :
    database.readAll calls plan = .failed ∨
      ∃ pages plans, database.readAll calls plan = .finished pages plans ∧ Run database plan pages plans := by
  induction calls generalizing plan with
  | zero => exact absurd enough (Nat.not_lt_zero _)
  | succ calls ih =>
      obtain ⟨takes, stops⟩ := readNext_takes 3 sound (database.delay_lt plan)
      unfold readAll
      rcases outcome : database.readNext 3 plan with next | ⟨batch, next⟩ | _
      · exact absurd outcome (stops next)
      · rw [outcome] at takes
        obtain ⟨step, last⟩ := takes
        cases batch with
        | nil => exact .inr ⟨[], [plan], rfl, .ended step (last rfl).1 (last rfl).2⟩
        | cons row batch =>
            have shorter := step.taken.length_le
            rw [List.length_append, List.length_cons] at shorter
            rcases ih step.sound (by omega) with failed | ⟨pages, plans, finished, run⟩
            · refine .inl ?_
              dsimp only
              rw [failed]
              rfl
            · refine .inr ⟨(row :: batch) :: pages, plan :: plans, ?_, .page step run⟩
              dsimp only
              rw [finished]
              rfl
      · exact .inl rfl

namespace Run

variable {pages : List (List (Row Value))} {plans : List (Plan Value)}

theorem taken (run : Run database plan pages plans) : pages.flatten.Subperm (database.rest plan) := by
  induction run with
  | ended => exact List.nil_subperm
  | page step _ ih =>
      rw [List.flatten_cons]
      exact ((List.subperm_append_left _).mpr ih).trans step.taken

theorem sorted (run : Run database plan pages plans) :
    pages.flatten.Pairwise fun left right => database.place left ≤ database.place right := by
  induction run with
  | ended => exact List.Pairwise.nil
  | page step run ih =>
      rw [List.flatten_cons]
      refine List.pairwise_append.mpr ⟨step.sorted, ih, fun left leftMem right rightMem => ?_⟩
      exact (step.seen left leftMem).trans (le_place_of_rest (run.taken.subset rightMem))

theorem plan_mem (run : Run database plan pages plans) : plan ∈ plans := by
  cases run <;> exact .head _

theorem kept (run : Run database plan pages plans) (comparable : ∀ plan ∈ plans, database.Comparable plan) :
    (database.rest plan).length ≤ pages.flatten.length := by
  induction run with
  | ended step nothing same =>
      have kept := step.kept (.inl same)
      rwa [nothing, List.append_nil] at kept
  | page step run ih =>
      have later := ih fun plan mem => comparable plan (.tail _ mem)
      have kept := step.kept (.inr (comparable _ (.tail _ run.plan_mem)))
      rw [List.flatten_cons, List.length_append]
      rw [List.length_append] at kept
      omega

/-- When every row is read, no row behind a cursor was left out. -/
theorem comparable (run : Run database plan pages plans) (read : List (Row Value))
    (seen : ∀ row ∈ read, database.place row ≤ database.cursorPlace plan)
    (all : ∀ row ∈ database.rows, row ∈ read ++ pages.flatten) : ∀ plan ∈ plans, database.Comparable plan := by
  have here : ∀ {plan : Plan Value} {pages : List (List (Row Value))} {plans : List (Plan Value)}
      {read : List (Row Value)}, Run database plan pages plans →
      (∀ row ∈ read, database.place row ≤ database.cursorPlace plan) →
      (∀ row ∈ database.rows, row ∈ read ++ pages.flatten) → database.Comparable plan := by
    intro plan pages plans read run seen all bounded row mem later
    rcases List.mem_append.mp (all row mem) with before | after
    · exact absurd later (not_lt.mpr (seen row before))
    · rcases List.mem_append.mp (run.taken.subset after) with tie | behind
      · split at tie
        · exact absurd later (place_of_group bounded (List.mem_of_mem_drop tie)).not_gt
        · cases tie
      · exact greater_of_behind bounded behind
  induction run generalizing read with
  | ended step nothing same =>
      intro plan mem
      obtain rfl := List.mem_singleton.mp mem
      exact here (.ended step nothing same) seen all
  | @page plan next batch pages plans step run ih =>
      intro other mem
      rcases List.mem_cons.mp mem with rfl | mem
      · exact here (.page step run) seen all
      · refine ih (read ++ batch) ?_ ?_ other mem
        · intro row found
          rcases List.mem_append.mp found with before | now
          · exact (seen row before).trans step.grows
          · exact step.seen row now
        · intro row found
          have inside := all row found
          rwa [List.flatten_cons, ← List.append_assoc] at inside

end Run

/-- The order of the cells in some columns. -/
def InOrder (dataset : Dataset) (nulls : Nulls) (columns : List String) (left right : Row Value) : Prop :=
  nulls.places (columns.map (dataset.cell left)) ≤ nulls.places (columns.map (dataset.cell right))

instance (nulls : Nulls) (columns : List String) :
    DecidableRel (@InOrder Value _ dataset nulls columns) :=
  fun left _ => inferInstanceAs (Decidable (nulls.places (columns.map (dataset.cell left)) ≤ _))

/-- A database that answers rows that are equal in the columns of its order as they come. -/
def ofRows (dataset : Dataset) (rows : List (Row Value))
    (width : ∀ row ∈ rows, row.length = dataset.fields.length) (nulls : Nulls) : Database Value dataset where
  rows := rows
  width := width
  nulls := nulls
  finite _ := true
  fails _ := false
  answer plan := (rows.filter (dataset.selects plan)).insertionSort (InOrder dataset nulls (dataset.order plan))
  answer_perm _ := List.perm_insertionSort _ _
  answer_sorted _ := List.pairwise_insertionSort _ _

theorem rest_start (database : Database Value dataset) : database.rest {} = database.rows := by
  have all : database.behind {} = database.rows := by
    refine List.filter_eq_self.mpr fun row _ => ?_
    simp [Dataset.selects]
  unfold rest
  rw [all]
  rfl

/-- Every row of the selection is returned once and in the order of the keys, exactly when the rows behind
each cursor also compare greater than it; or an error is reported. -/
theorem pages_complete (database : Database Value dataset) :
    database.readAll (database.rows.length + 1) {} = .failed ∨
      ∃ pages plans, database.readAll (database.rows.length + 1) {} = .finished pages plans ∧
        pages.flatten.Pairwise (fun left right => database.place left ≤ database.place right) ∧
        (pages.flatten.Perm database.rows ↔ ∀ plan ∈ plans, database.Comparable plan) := by
  have enough : (database.rest {}).length < database.rows.length + 1 := by
    rw [rest_start]
    exact Nat.lt_succ_self _
  rcases readAll_run (database.rows.length + 1) (plan_start dataset) enough with
    failed | ⟨pages, plans, finished, run⟩
  · exact .inl failed
  · refine .inr ⟨pages, plans, finished, run.sorted, ?_, ?_⟩
    · intro perm
      exact run.comparable [] (fun _ wrong => nomatch wrong) fun row mem => perm.mem_iff.mpr mem
    · intro comparable
      have taken := run.taken
      have kept := run.kept comparable
      rw [rest_start] at taken kept
      exact taken.perm_of_length_le kept

/-! ## A lost row -/

/-- One column that is the key, and pages of one row. -/
def lostDataset : Dataset where
  fields := ["bucket"]
  fields_nodup := List.nodup_singleton _
  bucketColumn := "bucket"
  deduplicateKeys := []
  revisionColumn := ""
  pageRows := 1
  pageRows_pos := one_pos

/-- The missing value comes last. -/
def lostDatabase : Database Nat lostDataset :=
  ofRows lostDataset [[some 1], [none]] (by simp [lostDataset]) .last

/-- A row without its key is never returned, and no error is reported. -/
theorem null_row_lost : ∃ pages plans,
    lostDatabase.readAll (lostDatabase.rows.length + 1) {} = .finished pages plans ∧
      [none] ∈ lostDatabase.rows ∧ [none] ∉ pages.flatten :=
  ⟨[[[some 1]]], [{}, ⟨[1], true, 1⟩], by decide +kernel, by decide +kernel, by decide +kernel⟩

end Database

end Flowsql.Baseliner.Snapshot
