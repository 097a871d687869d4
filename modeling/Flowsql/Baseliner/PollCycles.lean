import Flowsql.Baseliner.PollInput
import Mathlib

/-!
# Cycles of the poll input

What an input hands out is a sequence of cycles, one for each publication that it confirms. The
windows of a dataset cover the buckets from where it started up to the confirmed one.
-/

namespace Flowsql.Baseliner

/-! ## Windows -/

/-- The buckets from the first one up to the last one, which is left out. -/
def buckets (first last : Int) : List Int :=
  (List.range (last - first).toNat).map fun offset : Nat => first + offset

theorem buckets_nil {first last : Int} (none_ : last ≤ first) : buckets first last = [] := by
  have zero : (last - first).toNat = 0 := by omega
  rw [buckets, zero]
  rfl

theorem buckets_append {first middle last : Int} (before : first ≤ middle) (after : middle ≤ last) :
    buckets first middle ++ buckets middle last = buckets first last := by
  have length : (last - first).toNat = (middle - first).toNat + (last - middle).toNat := by omega
  unfold buckets
  rw [length, List.range_add, List.map_append, List.map_map]
  congr 1
  apply List.map_congr_left
  intro offset _
  simp only [Function.comp_apply, Int.natCast_add]
  omega

/-- A bound that need not be there. -/
def capped (endBucket : Option Int) (bucket : Int) : Int :=
  match endBucket with
  | none => bucket
  | some last => min bucket last

def Window.buckets (window : Window) : List Int := Baseliner.buckets window.first window.last

/-- A cycle of the input: the window of a publication with its blocks, if there is a window, and the
boundary. -/
structure Cycle where
  dataset : Nat
  publication : DatasetProgress
  window : Option Window
  blocks : List Nat
  boundary : Nat

/-- What the input does for the window of a cycle. -/
def opening (dataset : Nat) (window : Window) (blocks : List Nat) : List PollRecord :=
  .window dataset window :: blocks.flatMap fun block => [.handed block, .released block]

/-- The window of a cycle, read to its end. -/
def wholeWindow (dataset : Nat) (blocks : List Nat) : Option Window → List PollRecord
  | none => []
  | some window => opening dataset window blocks ++ [.exhausted]

def Cycle.records (cycle : Cycle) : List PollRecord :=
  wholeWindow cycle.dataset cycle.blocks cycle.window ++
    [.boundary cycle.dataset cycle.publication cycle.boundary, .released cycle.boundary]

/-- The next bucket after the cycles of a dataset. -/
def nextAfter (start : Int) (cycles : List Cycle) : Int :=
  cycles.foldl (fun next cycle => max next cycle.publication.closedBeforeBucket) start

/-- Every cycle reads from where the one before has ended. -/
def Contiguous (endBucket : Option Int) : Int → List Cycle → Prop
  | _, [] => True
  | next, cycle :: later =>
      cycle.window = PollInput.windowOf endBucket next cycle.publication.closedBeforeBucket ∧
        Contiguous endBucket (max next cycle.publication.closedBeforeBucket) later

theorem contiguous_concat {endBucket : Option Int} {start : Int} {cycles : List Cycle}
    {cycle : Cycle} (before : Contiguous endBucket start cycles)
    (last : cycle.window = PollInput.windowOf endBucket (nextAfter start cycles)
      cycle.publication.closedBeforeBucket) : Contiguous endBucket start (cycles ++ [cycle]) := by
  induction cycles generalizing start with
  | nil => exact ⟨last, trivial⟩
  | cons first later ih => exact ⟨before.1, ih before.2 last⟩

theorem nextAfter_concat (start : Int) (cycles : List Cycle) (cycle : Cycle) :
    nextAfter start (cycles ++ [cycle]) =
      max (nextAfter start cycles) cycle.publication.closedBeforeBucket := by
  simp [nextAfter]

theorem start_le_nextAfter (start : Int) (cycles : List Cycle) :
    start ≤ nextAfter start cycles := by
  induction cycles generalizing start with
  | nil => exact Int.le_refl start
  | cons first later ih => exact Int.le_trans (Int.le_max_left _ _) (ih _)

/-- A window reads what is new of a publication. -/
theorem windowOf_buckets (endBucket : Option Int) {next closed final : Int}
    (reaches : max next closed ≤ final) :
    (PollInput.windowOf endBucket next closed).toList.flatMap Window.buckets ++
      buckets (max next closed) (capped endBucket final) =
        buckets next (capped endBucket final) := by
  have last : min closed (endBucket.getD closed) = capped endBucket closed := by
    cases endBucket <;> simp [capped]
  unfold PollInput.windowOf
  simp only [last]
  split
  next opens =>
    simp only [Option.toList_some, List.flatMap_cons, List.flatMap_nil, List.append_nil,
      Window.buckets]
    cases endBucket with
    | none =>
        simp only [capped] at opens ⊢
        rw [Int.max_eq_right (Int.le_of_lt opens)]
        exact buckets_append (Int.le_of_lt opens) (by omega)
    | some bound =>
        simp only [capped] at opens ⊢
        by_cases inside : closed ≤ bound
        · rw [Int.min_eq_left inside, Int.max_eq_right (by omega)]
          exact buckets_append (by omega) (by omega)
        · have early : bound ≤ closed := by omega
          have late : bound ≤ final := by omega
          have past : bound ≤ max next closed := by omega
          rw [Int.min_eq_right early, Int.min_eq_right late, buckets_nil past, List.append_nil]
  next shut =>
    simp only [Option.toList_none, List.flatMap_nil, List.nil_append]
    cases endBucket with
    | none =>
        simp only [capped] at shut ⊢
        rw [Int.max_eq_left (by omega)]
    | some bound =>
        simp only [capped] at shut ⊢
        by_cases later : closed ≤ next
        · rw [Int.max_eq_left later]
        · rw [buckets_nil (by omega), buckets_nil (by omega)]

/-- The windows of a dataset cover each bucket once, from the start up to the last one closed. -/
theorem Contiguous.covers {endBucket : Option Int} {start : Int} {cycles : List Cycle}
    (contiguous : Contiguous endBucket start cycles) :
    cycles.flatMap (fun cycle => cycle.window.toList.flatMap Window.buckets) =
      buckets start (capped endBucket (nextAfter start cycles)) := by
  induction cycles generalizing start with
  | nil =>
      have below : capped endBucket start ≤ start := by
        cases endBucket <;> simp only [capped] <;> omega
      exact (buckets_nil below).symm
  | cons first later ih =>
      rw [List.flatMap_cons, contiguous.1, ih contiguous.2]
      exact windowOf_buckets endBucket (start_le_nextAfter _ later)

/-! ## Invariants -/

/-- The bucket that a dataset is read from cannot lie after what is closed, unless it is given. -/
def raised (beginBucket : Option Int) (bucket : Int) : Int :=
  match beginBucket with
  | none => bucket
  | some first => max first bucket

theorem raised_mono (beginBucket : Option Int) {first second : Int} (le : first ≤ second) :
    raised beginBucket first ≤ raised beginBucket second := by
  cases beginBucket <;> simp only [raised] <;> omega

/-- What the publications of a source and the state of its dataset have in common. -/
structure Resumable (beginBucket : Option Int) (id : String) (source : PublishedSource)
    (state : DatasetState) : Prop where
  datasetId : state.datasetId = id
  begins : ∀ first, beginBucket = some first → first ≤ state.nextBucket
  confirmedId : state.confirmed.committedPosition ≠ "" → state.confirmed.datasetId = id
  confirmed : state.confirmed.committedPosition ≠ "" →
    state.nextBucket = raised beginBucket state.confirmed.closedBeforeBucket
  pending : state.confirmed.committedPosition = "" → ∃ latest,
    source.published.getLast? = some latest ∧
      state.nextBucket ≤ raised beginBucket latest.1.closedBeforeBucket

/-- A publication that may be confirmed. -/
structure Fresh (beginBucket : Option Int) (state : DatasetState) (publication : DatasetProgress) :
    Prop where
  datasetId : publication.datasetId = state.datasetId
  position : publication.committedPosition ≠ ""
  grows : state.confirmed.committedPosition ≠ "" →
    state.confirmed.closedBeforeBucket ≤ publication.closedBeforeBucket
  reaches : state.confirmed.committedPosition = "" →
    state.nextBucket ≤ raised beginBucket publication.closedBeforeBucket

/-- The cycle that has begun, with what it has done. -/
inductive Phase (config : PollConfig) (input : PollInput) : List PollRecord → Prop
  | resting (cycle : input.cycle = none) (outstanding : input.outstanding = none)
      (boundary : input.outstandingBoundary = false) : Phase config input []
  | reading (window : Window) (blocks : List Nat) (cycle : input.cycle = some window)
      (outstanding : input.outstanding = none) (boundary : input.outstandingBoundary = false)
      (opened : PollInput.windowOf (config.endOf input.dataset)
        (input.states input.dataset).nextBucket input.frozen.progress.closedBeforeBucket =
          some window)
      (fresh : Fresh (config.beginOf input.dataset) (input.states input.dataset)
        input.frozen.progress) : Phase config input (opening input.dataset window blocks)
  | lent (window : Window) (blocks : List Nat) (block : Nat) (cycle : input.cycle = some window)
      (outstanding : input.outstanding = some block)
      (boundary : input.outstandingBoundary = false)
      (opened : PollInput.windowOf (config.endOf input.dataset)
        (input.states input.dataset).nextBucket input.frozen.progress.closedBeforeBucket =
          some window)
      (fresh : Fresh (config.beginOf input.dataset) (input.states input.dataset)
        input.frozen.progress) :
      Phase config input (opening input.dataset window blocks ++ [.handed block])
  /-- The window has been read, but its publication has been found to be wrong. -/
  | broken (window : Window) (blocks : List Nat) (cycle : input.cycle = none)
      (outstanding : input.outstanding = none) (boundary : input.outstandingBoundary = false)
      (error : input.error ≠ "") :
      Phase config input (opening input.dataset window blocks ++ [.exhausted])
  | ending (window : Option Window) (blocks : List Nat) (block : Nat) (cycle : input.cycle = none)
      (outstanding : input.outstanding = some block) (boundary : input.outstandingBoundary = true)
      (opened : PollInput.windowOf (config.endOf input.dataset)
        (input.states input.dataset).nextBucket input.frozen.progress.closedBeforeBucket = window)
      (fresh : Fresh (config.beginOf input.dataset) (input.states input.dataset)
        input.frozen.progress) :
      Phase config input (wholeWindow input.dataset blocks window ++
        [.boundary input.dataset input.frozen.progress block])

/-- The cycles of a dataset. -/
def cyclesOf (dataset : Nat) (cycles : List Cycle) : List Cycle :=
  cycles.filter fun cycle => cycle.dataset = dataset

/-- A dataset reads on from the end of its cycles, and the last one is confirmed. -/
structure Tracks (endBucket : Option Int) (start : DatasetState) (state : DatasetState)
    (cycles : List Cycle) : Prop where
  contiguous : Contiguous endBucket start.nextBucket cycles
  next : state.nextBucket = nextAfter start.nextBucket cycles
  confirmed : state.confirmed = ((cycles.getLast?).map Cycle.publication).getD start.confirmed

/-- The cycles of an input since it has started. -/
structure Logged (config : PollConfig) (starts : Nat → DatasetState) (input : PollInput)
    (cycles : List Cycle) (tail : List PollRecord) : Prop where
  records : input.records = cycles.flatMap Cycle.records ++ tail
  inside : input.dataset < config.datasets.length
  tracks : ∀ dataset, Tracks (config.endOf dataset) (starts dataset) (input.states dataset)
    (cyclesOf dataset cycles)

/-- The input steps inside its cycle. -/
theorem Logged.more {config : PollConfig} {starts : Nat → DatasetState} {input after : PollInput}
    {cycles : List Cycle} {tail added : List PollRecord}
    (logged : Logged config starts input cycles tail) (states : after.states = input.states)
    (records : after.records = input.records ++ added)
    (inside : after.dataset < config.datasets.length) :
    Logged config starts after cycles (tail ++ added) where
  records := by rw [records, logged.records, List.append_assoc]
  inside := inside
  tracks := states ▸ logged.tracks

structure Polled (config : PollConfig) (starts : Nat → DatasetState) (input : PollInput)
    (cycles : List Cycle) (tail : List PollRecord) : Prop
    extends Logged config starts input cycles tail where
  phase : Phase config input tail

def AllResumable (config : PollConfig) (sources : Nat → PublishedSource) (input : PollInput) :
    Prop :=
  ∀ (dataset : Nat) (found : PollDataset), config.datasets[dataset]? = some found →
    Resumable (config.beginOf dataset) found.id (sources dataset) (input.states dataset)

/-! ## Steps of the input -/

namespace PollInput

variable {config : PollConfig} {sources : Nat → PublishedSource} {starts : Nat → DatasetState}
  {input : PollInput} {cycles : List Cycle} {tail : List PollRecord}

/-- The answers of `Validate` that matter. -/
theorem validate_ok {dataset : Nat} {position : String} {fault : Option String}
    {output : PublishedProgress}
    (valid : input.validate sources dataset position fault = .ok output) :
    (sources dataset).readProgress position fault = .ok output ∧
      output.progress.datasetId = (input.states dataset).datasetId ∧
      output.progress.committedPosition ≠ "" ∧
      ((input.states dataset).confirmed.committedPosition ≠ "" →
        (input.states dataset).confirmed.closedBeforeBucket ≤
          output.progress.closedBeforeBucket) := by
  unfold validate at valid
  simp only at valid
  split at valid
  · cases valid
  next found isFound =>
    split at valid
    · cases valid
    next right =>
      cases valid
      simp only [not_or, not_and, Int.not_lt, ne_eq, Decidable.not_not] at right
      exact ⟨isFound, right.1, right.2.2.1, right.2.2.2.2.2⟩

theorem readProgress_latest {source : PublishedSource} {fault : Option String}
    {output : PublishedProgress} (read : source.readProgress "" fault = .ok output) :
    ∃ latest, source.published.getLast? = some latest ∧ output.progress = latest.1 := by
  unfold PublishedSource.readProgress at read
  simp only [if_true] at read
  split at read
  · cases read
  · cases read
  next publication found =>
    cases read
    exact ⟨publication, found, rfl⟩

/-- What the loop over the datasets keeps. -/
structure Scanned (config : PollConfig) (before after : PollInput) : Prop where
  states : after.states = before.states
  cycle : after.cycle = before.cycle
  outstanding : after.outstanding = before.outstanding
  boundary : after.outstandingBoundary = before.outstandingBoundary
  records : after.records = before.records
  inside : before.dataset < config.datasets.length → after.dataset < config.datasets.length

theorem scan_scanned (faults : Nat → Option String) (count : Nat) (input : PollInput) :
    Scanned config input (input.scan config sources faults count).2 ∧
      ((input.scan config sources faults count).1 = .changed →
        ∃ fault, (input.scan config sources faults count).2.validate sources
          (input.scan config sources faults count).2.dataset "" fault =
            .ok (input.scan config sources faults count).2.frozen) := by
  induction count generalizing input with
  | zero => exact ⟨⟨rfl, rfl, rfl, rfl, rfl, id⟩, nofun⟩
  | succ count ih =>
      unfold scan
      split
      · exact ⟨⟨rfl, rfl, rfl, rfl, rfl, id⟩, nofun⟩
      next frozen valid =>
        simp only
        split
        · exact ⟨⟨rfl, rfl, rfl, rfl, rfl, id⟩, fun _ => ⟨_, valid⟩⟩
        · obtain ⟨scanned, changed⟩ := ih { input with
            frozen := frozen, dataset := (input.dataset + 1) % config.datasets.length }
          exact ⟨⟨scanned.states, scanned.cycle, scanned.outstanding, scanned.boundary,
            scanned.records, fun inside => scanned.inside (Nat.mod_lt _ (by omega))⟩, changed⟩

/-- A publication that has just been read may be confirmed. -/
theorem validate_fresh {fault : Option String} {frozen : PublishedProgress}
    (resumable : AllResumable config sources input)
    (inside : input.dataset < config.datasets.length)
    (valid : input.validate sources input.dataset "" fault = .ok frozen) :
    Fresh (config.beginOf input.dataset) (input.states input.dataset) frozen.progress := by
  obtain ⟨read, datasetId, position, grows⟩ := validate_ok valid
  obtain ⟨latest, isLatest, is⟩ := readProgress_latest read
  refine ⟨datasetId, position, grows, fun unconfirmed => ?_⟩
  have found : config.datasets[input.dataset]? = some config.datasets[input.dataset] :=
    List.getElem?_eq_getElem inside
  obtain ⟨last, isLast, reaches⟩ := (resumable _ _ found).pending unconfirmed
  cases isLatest.symm.trans isLast
  exact is ▸ reaches

theorem handBoundary_polled {window : Option Window} {blocks : List Nat} (answers : PollAnswers)
    (logged : Logged config starts input cycles (wholeWindow input.dataset blocks window))
    (cycle : input.cycle = none) (outstanding : input.outstanding = none)
    (boundary : input.outstandingBoundary = false)
    (opened : windowOf (config.endOf input.dataset) (input.states input.dataset).nextBucket
      input.frozen.progress.closedBeforeBucket = window)
    (fresh : Fresh (config.beginOf input.dataset) (input.states input.dataset)
      input.frozen.progress) :
    (∃ tail, Polled config starts (input.handBoundary sources answers).2 cycles tail) ∧
      (input.handBoundary sources answers).2.states = input.states := by
  have fails : ∀ error, error ≠ "" →
      (∃ tail, Polled config starts (input.fail error).2 cycles tail) ∧
        (input.fail error).2.states = input.states := by
    intro error some_
    refine ⟨⟨_, ⟨{ logged with }, ?_⟩⟩, rfl⟩
    cases window with
    | none => exact .resting cycle outstanding boundary
    | some window => exact .broken window blocks cycle outstanding boundary some_
  unfold handBoundary
  split
  next message _ =>
    apply fails
    split
    · exact nofun
    next some_ => exact some_
  next frozen _ =>
    split
    · exact fails _ nofun
    · exact ⟨⟨_, logged.more rfl rfl logged.inside,
        .ending window blocks answers.boundaryBlock cycle rfl rfl opened fresh⟩, rfl⟩

theorem readWindow_polled {window : Window} {blocks : List Nat} (answers : PollAnswers)
    (logged : Logged config starts input cycles (opening input.dataset window blocks))
    (cycle : input.cycle = some window) (outstanding : input.outstanding = none)
    (boundary : input.outstandingBoundary = false)
    (opened : windowOf (config.endOf input.dataset) (input.states input.dataset).nextBucket
      input.frozen.progress.closedBeforeBucket = some window)
    (fresh : Fresh (config.beginOf input.dataset) (input.states input.dataset)
      input.frozen.progress) :
    (∃ tail, Polled config starts (input.readWindow sources answers).2 cycles tail) ∧
      (input.readWindow sources answers).2.states = input.states := by
  unfold readWindow
  cases answers.answer with
  | block block =>
      exact ⟨⟨_, logged.more rfl rfl logged.inside,
        .lent window blocks block cycle rfl boundary opened fresh⟩, rfl⟩
  | failed message =>
      exact ⟨⟨_, { logged with },
        .reading window blocks cycle outstanding boundary opened fresh⟩, rfl⟩
  | cancelled =>
      exact ⟨⟨_, logged, .reading window blocks cycle outstanding boundary opened fresh⟩, rfl⟩
  | atEnd =>
      have ended : Logged config starts
          { input with cycle := none, records := input.records ++ [PollRecord.exhausted] } cycles
          (wholeWindow input.dataset blocks (some window)) := logged.more rfl rfl logged.inside
      exact handBoundary_polled answers ended rfl outstanding boundary opened fresh

theorem openWindow_polled (answers : PollAnswers) (logged : Logged config starts input cycles [])
    (cycle : input.cycle = none) (outstanding : input.outstanding = none)
    (boundary : input.outstandingBoundary = false)
    (fresh : Fresh (config.beginOf input.dataset) (input.states input.dataset)
      input.frozen.progress) :
    (∃ tail, Polled config starts (input.openWindow config sources answers).2 cycles tail) ∧
      (input.openWindow config sources answers).2.states = input.states := by
  unfold openWindow
  split
  next opened =>
    have whole : Logged config starts input cycles (wholeWindow input.dataset [] none) := logged
    exact handBoundary_polled answers whole cycle outstanding boundary opened fresh
  next window opened =>
    have begun : Logged config starts
        { input with
          cycle := some window
          records := input.records ++ [PollRecord.window input.dataset window] } cycles
        (opening input.dataset window []) := logged.more rfl rfl logged.inside
    simp only
    split
    · exact ⟨⟨_, { begun with }, .reading window [] rfl outstanding boundary opened fresh⟩, rfl⟩
    · exact readWindow_polled answers begun rfl outstanding boundary opened fresh

/-- An input that waits for no block polls. -/
theorem poll_polled (answers : PollAnswers) (resumable : AllResumable config sources input)
    (polled : Polled config starts input cycles tail) (outstanding : input.outstanding = none)
    (error : input.error = "") :
    (∃ tail, Polled config starts (input.pollBlock config sources answers).2 cycles tail) ∧
      (input.pollBlock config sources answers).2.states = input.states := by
  obtain ⟨logged, phase⟩ := polled
  unfold pollBlock
  split
  · exact ⟨⟨_, logged, phase⟩, rfl⟩
  have waits : ¬ input.outstanding.isSome = true := by simp [outstanding]
  rw [if_neg (not_not_intro error), if_neg waits]
  simp only
  cases phase with
  | lent window blocks block cycle lent boundary opened fresh => cases outstanding.symm.trans lent
  | ending window blocks block cycle lent boundary opened fresh =>
      cases outstanding.symm.trans lent
  | broken window blocks cycle free boundary broken => exact absurd error broken
  | reading window blocks cycle free boundary opened fresh =>
      have begun : Logged config starts { input with progressReadable := false } cycles
          (opening input.dataset window blocks) := { logged with }
      split
      · exact readWindow_polled answers begun cycle free boundary opened fresh
      next none_ => cases cycle.symm.trans none_
  | resting cycle free boundary =>
      split
      next window some_ => cases cycle.symm.trans some_
      split
      · exact ⟨⟨_, { logged with }, .resting cycle free boundary⟩, rfl⟩
      generalize isScanned : scan config sources answers.latestFaults config.datasets.length
        { input with progressReadable := false } = scanned
      obtain ⟨kept, changed⟩ := @scan_scanned config sources answers.latestFaults
        config.datasets.length { input with progressReadable := false }
      rw [isScanned] at kept changed
      obtain ⟨result, after⟩ := scanned
      have rests : Logged config starts after cycles [] :=
        { records := kept.records.trans logged.records
          inside := kept.inside logged.inside
          tracks := kept.states ▸ logged.tracks }
      have free_ : after.outstanding = none := kept.outstanding.trans free
      have cycle_ : after.cycle = none := kept.cycle.trans cycle
      have boundary_ : after.outstandingBoundary = false := kept.boundary.trans boundary
      cases result with
      | failed message =>
          exact ⟨⟨_, { rests with }, .resting cycle_ free_ boundary_⟩, kept.states⟩
      | unchanged => exact ⟨⟨_, rests, .resting cycle_ free_ boundary_⟩, kept.states⟩
      | changed =>
          obtain ⟨fault, valid⟩ := changed rfl
          have resumable_ : AllResumable config sources after := by
            intro dataset found is
            rw [kept.states]
            exact resumable dataset found is
          have fresh := validate_fresh resumable_ rests.inside valid
          obtain ⟨opened, states⟩ :=
            @openWindow_polled config sources starts after cycles answers rests cycle_ free_
              boundary_ fresh
          exact ⟨opened, states.trans kept.states⟩

theorem phase_flags (phase : Phase config input tail) (cancelled finished : Bool) :
    Phase config { input with cancelled := cancelled, finished := finished } tail := by
  cases phase with
  | resting cycle free boundary => exact .resting cycle free boundary
  | reading window blocks cycle free boundary opened fresh =>
      exact .reading window blocks cycle free boundary opened fresh
  | lent window blocks block cycle lent boundary opened fresh =>
      exact .lent window blocks block cycle lent boundary opened fresh
  | broken window blocks cycle free boundary broken =>
      exact .broken window blocks cycle free boundary broken
  | ending window blocks block cycle lent boundary opened fresh =>
      exact .ending window blocks block cycle lent boundary opened fresh

theorem pollBlock_polled (answers : PollAnswers) (resumable : AllResumable config sources input)
    (polled : Polled config starts input cycles tail) :
    (∃ tail, Polled config starts (input.pollBlock config sources answers).2 cycles tail) ∧
      (input.pollBlock config sources answers).2.states = input.states := by
  by_cases error : input.error = ""
  · cases outstanding : input.outstanding with
    | none => exact poll_polled answers resumable polled outstanding error
    | some block =>
        have same : (input.pollBlock config sources answers).2 = input := by
          unfold pollBlock
          split
          · rfl
          · simp [error, outstanding]
        rw [same]
        exact ⟨⟨tail, polled⟩, rfl⟩
  · have same : (input.pollBlock config sources answers).2 = input ∨
        (input.pollBlock config sources answers).2 = { input with finished := true } := by
      unfold pollBlock
      split
      · exact .inl rfl
      · exact .inr rfl
    rcases same with same | same
    · rw [same]
      exact ⟨⟨tail, polled⟩, rfl⟩
    · rw [same]
      exact ⟨⟨tail, { polled.toLogged with }, phase_flags polled.phase input.cancelled true⟩, rfl⟩

/-- The publication of a dataset is confirmed. -/
theorem Tracks.confirm {endBucket : Option Int} {start state : DatasetState} {earlier : List Cycle}
    (tracks : Tracks endBucket start state earlier) (cycle : Cycle)
    (opened : windowOf endBucket state.nextBucket cycle.publication.closedBeforeBucket =
      cycle.window) :
    Tracks endBucket start
      { state with
        confirmed := cycle.publication
        nextBucket := max state.nextBucket cycle.publication.closedBeforeBucket }
      (earlier ++ [cycle]) where
  contiguous := contiguous_concat tracks.contiguous (tracks.next ▸ opened.symm)
  next := by rw [nextAfter_concat, ← tracks.next]
  confirmed := by simp

theorem cyclesOf_concat (dataset : Nat) (cycles : List Cycle) (cycle : Cycle) :
    cyclesOf dataset (cycles ++ [cycle]) =
      if cycle.dataset = dataset then cyclesOf dataset cycles ++ [cycle]
      else cyclesOf dataset cycles := by
  unfold cyclesOf
  rw [List.filter_append, List.filter_singleton]
  split <;> simp_all

/-- The state of a dataset whose publication is confirmed. -/
theorem Resumable.confirm {beginBucket : Option Int} {id : String} {source : PublishedSource}
    {state : DatasetState} {publication : DatasetProgress}
    (resumable : Resumable beginBucket id source state)
    (fresh : Fresh beginBucket state publication) :
    Resumable beginBucket id source
      { state with
        confirmed := publication
        nextBucket := max state.nextBucket publication.closedBeforeBucket } where
  datasetId := resumable.datasetId
  begins := fun first is => Int.le_trans (resumable.begins first is) (Int.le_max_left _ _)
  confirmedId := fun _ => fresh.datasetId.trans resumable.datasetId
  confirmed := by
    intro _
    change max state.nextBucket publication.closedBeforeBucket =
      raised beginBucket publication.closedBeforeBucket
    by_cases unconfirmed : state.confirmed.committedPosition = ""
    · have reaches := fresh.reaches unconfirmed
      have begins := resumable.begins
      cases beginBucket with
      | none =>
          simp only [raised] at reaches ⊢
          omega
      | some first =>
          have begun := begins first rfl
          simp only [raised] at reaches ⊢
          omega
    · have grows := fresh.grows unconfirmed
      have next := resumable.confirmed unconfirmed
      cases beginBucket <;> simp only [raised] at next ⊢ <;> omega
  pending := fun empty => absurd empty fresh.position

theorem releaseBlock_polled (block : Nat) (resumable : AllResumable config sources input)
    (polled : Polled config starts input cycles tail) :
    (∃ cycles tail, Polled config starts (input.releaseBlock config block).2 cycles tail) ∧
      AllResumable config sources (input.releaseBlock config block).2 := by
  obtain ⟨logged, phase⟩ := polled
  unfold releaseBlock
  split
  · exact ⟨⟨cycles, tail, logged, phase⟩, resumable⟩
  next is =>
    have is_ : input.outstanding = some block := Decidable.not_not.mp is
    cases phase with
    | resting cycle free boundary => cases free.symm.trans is_
    | reading window blocks cycle free boundary opened fresh => cases free.symm.trans is_
    | broken window blocks cycle free boundary broken => cases free.symm.trans is_
    | lent window blocks lentBlock cycle lent boundary opened fresh =>
        cases lent.symm.trans is_
        simp only [boundary, Bool.false_eq_true, if_false]
        split
        next none_ => cases cycle.symm.trans none_
        refine ⟨⟨cycles, opening input.dataset window (blocks ++ [block]), ⟨?_, logged.inside,
          logged.tracks⟩, .reading window _ cycle rfl rfl opened fresh⟩, resumable⟩
        simp [logged.records, opening]
    | ending window blocks lentBlock cycle lent boundary opened fresh =>
        cases lent.symm.trans is_
        simp only [boundary, if_true]
        let closed : Cycle := ⟨input.dataset, input.frozen.progress, window, blocks, block⟩
        constructor
        · refine ⟨cycles ++ [closed], [], ⟨?_, Nat.mod_lt _ (by have := logged.inside; omega), ?_⟩,
            .resting cycle rfl rfl⟩
          · simp [logged.records, Cycle.records, closed]
          · intro dataset
            rw [cyclesOf_concat]
            by_cases same : input.dataset = dataset
            · subst same
              simp only [closed, if_true, Function.update_self]
              exact Tracks.confirm (logged.tracks input.dataset)
                ⟨input.dataset, input.frozen.progress, window, blocks, block⟩ opened
            · simp only [closed, if_neg same, Function.update_of_ne (Ne.symm same)]
              exact logged.tracks dataset
        · intro dataset found isFound
          by_cases same : dataset = input.dataset
          · subst same
            simp only [Function.update_self]
            exact Resumable.confirm (resumable _ found isFound) fresh
          · simp only [Function.update_of_ne same]
            exact resumable dataset found isFound

end PollInput

end Flowsql.Baseliner
