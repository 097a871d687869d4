import Flowsql.Library.RowComparison

/-!
# The snapshot reader

A finite database source is read page by page. A page begins behind the keys of the last row that was read.
The rows with equal keys at the end of a full page are not published with it: they are read by themselves,
in the order of all columns and by offset.
-/

namespace Flowsql.Baseliner.Snapshot

open Library.Rows

/-- What a plan takes from the configuration of its dataset and of the reader. -/
structure Dataset where
  /-- The names in the order of the map. -/
  fields : List String
  fields_nodup : fields.Nodup
  bucketColumn : String
  deduplicateKeys : List String
  revisionColumn : String
  pageRows : Nat
  pageRows_pos : 0 < pageRows

namespace Dataset

/-- The keys of the plan that `Open` makes. -/
def keys (dataset : Dataset) : List String :=
  let keys := dataset.deduplicateKeys.foldl (fun keys name => if name ∈ keys then keys else keys ++ [name])
    [dataset.bucketColumn]
  if dataset.revisionColumn ≠ "" ∧ dataset.revisionColumn ∉ keys then keys ++ [dataset.revisionColumn]
  else keys

theorem keys_ne_nil (dataset : Dataset) : dataset.keys ≠ [] := by
  have grown (names keys : List String) (some_ : keys ≠ []) :
      names.foldl (fun keys name => if name ∈ keys then keys else keys ++ [name]) keys ≠ [] := by
    induction names generalizing keys with
    | nil => exact some_
    | cons name names ih =>
        refine ih _ ?_
        dsimp only
        split
        · exact some_
        · exact List.concat_ne_nil name keys
  unfold keys
  dsimp only
  split
  · exact List.concat_ne_nil _ _
  · exact grown _ _ (List.cons_ne_nil _ _)

/-- `tie_order`. -/
def tieOrder (dataset : Dataset) : List String :=
  dataset.keys ++ dataset.fields.filter (· ∉ dataset.keys)

end Dataset

/-- The cells of a row in the order of the fields. -/
abbrev Row (Value : Type) := List (Option Value)

/-- What changes in a plan. -/
structure Plan (Value : Type) where
  cursor : List Value := []
  readingTies : Bool := false
  tieOffset : Nat := 0
  deriving DecidableEq

section Columns

variable {Value : Type}

def Dataset.cell (dataset : Dataset) (row : Row Value) (name : String) : Option Value :=
  row.getD (dataset.fields.idxOf name) none

def Dataset.key (dataset : Dataset) (row : Row Value) : List (Option Value) :=
  dataset.keys.map (dataset.cell row)

end Columns

variable {Value : Type} [LinearOrder Value]

/-- The condition that is added to the selection of the plan. A `NULL` equals nothing. -/
def Dataset.selects (dataset : Dataset) (plan : Plan Value) (row : Row Value) : Bool :=
  if plan.cursor = [] then true
  else if plan.readingTies then dataset.key row = plan.cursor.map some
  else greater (dataset.key row) plan.cursor = some true

/-- The columns of `ORDER BY`. -/
def Dataset.order (dataset : Dataset) (plan : Plan Value) : List String :=
  if plan.readingTies then dataset.tieOrder else dataset.keys

/-- A database whose content does not change: the rows that the plan selects, and how each query orders its
rows before `LIMIT` and `OFFSET`. The order of rows that are equal in all columns of it is left open. -/
structure Database (Value : Type) [LinearOrder Value] (dataset : Dataset) where
  rows : List (Row Value)
  width : ∀ row ∈ rows, row.length = dataset.fields.length
  nulls : Nulls
  /-- Infinite numbers and `NaN` are refused as keys. -/
  finite : Value → Bool
  fails : Plan Value → Bool
  answer : Plan Value → List (Row Value)
  answer_perm : ∀ plan, (answer plan).Perm (rows.filter (dataset.selects plan))
  answer_sorted : ∀ plan, (answer plan).Pairwise fun left right =>
    nulls.places ((dataset.order plan).map (dataset.cell left)) ≤
      nulls.places ((dataset.order plan).map (dataset.cell right))

namespace Database

variable {dataset : Dataset} (database : Database Value dataset)

/-- `ReadPage` with the query of the plan. -/
def readPage (plan : Plan Value) : Option (List (Row Value)) :=
  if database.fails plan then none
  else some (((database.answer plan).drop (if plan.readingTies then plan.tieOffset else 0)).take
    dataset.pageRows)

/-- The key values of a row, without an answer where `Cell` throws. -/
def keyValues (row : Row Value) : Option (List Value) :=
  (dataset.key row).mapM fun cell => cell.filter database.finite

/-- The loop that looks for the end of the rows with equal keys. -/
def tail (batch : List (Row Value)) (last : List Value) : Nat → Option Nat
  | 0 => some 0
  | count + 1 =>
      match database.keyValues (batch.getD count []) with
      | none => none
      | some key => if key = last then tail batch last count else some (count + 1)

/-- How a round of the loop in `ReadNext` ends. -/
inductive Round (Value : Type) where
  | again (plan : Plan Value)
  | page (batch : List (Row Value)) (plan : Plan Value)
  | failed
  deriving DecidableEq

def round (plan : Plan Value) : Round Value :=
  match database.readPage plan with
  | none => .failed
  | some batch =>
      if plan.readingTies then
        let next := { plan with
          tieOffset := plan.tieOffset + batch.length
          readingTies := decide (¬batch.length < dataset.pageRows) }
        if batch ≠ [] then .page batch next else .again next
      else if batch = [] then .page [] plan
      else
        match database.keyValues (batch.getD (batch.length - 1) []) with
        | none => .failed
        | some last =>
            match database.tail batch last (batch.length - 1) with
            | none => .failed
            | some tail =>
                if batch.length = dataset.pageRows then
                  let next := { cursor := last, readingTies := true, tieOffset := 0 }
                  if tail = 0 then .again next else .page (batch.take tail) next
                else .page batch { plan with cursor := last }

/-- `ReadNext`, which still loops when it ends with `again`. -/
def readNext : Nat → Plan Value → Round Value
  | 0, plan => .again plan
  | rounds + 1, plan =>
      match database.round plan with
      | .again next => readNext rounds next
      | ended => ended

/-- The pages until the empty one, and the plan before each of the calls. -/
inductive Reading (Value : Type) where
  | finished (pages : List (List (Row Value))) (plans : List (Plan Value))
  | failed
  | unfinished
  deriving DecidableEq

def Reading.cons (batch : List (Row Value)) (plan : Plan Value) : Reading Value → Reading Value
  | .finished pages plans => .finished (batch :: pages) (plan :: plans)
  | reading => reading

def readAll : Nat → Plan Value → Reading Value
  | 0, _ => .unfinished
  | calls + 1, plan =>
      match database.readNext 3 plan with
      | .again _ => .unfinished
      | .failed => .failed
      | .page [] _ => .finished [] [plan]
      | .page batch next => (readAll calls next).cons batch plan

end Database

end Flowsql.Baseliner.Snapshot
