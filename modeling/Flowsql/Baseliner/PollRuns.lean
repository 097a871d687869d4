import Flowsql.Baseliner.PollCycles

/-!
# Runs of the poll input

A new input goes on where the windows that an earlier one has reported end.
-/

namespace Flowsql.Baseliner

namespace PollInput

variable {config : PollConfig} {sources : Nat → PublishedSource} {starts : Nat → DatasetState}
  {input : PollInput} {cycles : List Cycle} {tail : List PollRecord}

/-! ## Initialization -/

/-- The state that `Initialize` makes of a dataset can be resumed. -/
theorem initialState_resumable {bucketNs : Int} {dataset : PollDataset} {restore : InputProgress}
    {pendingStarts : List (String × Int)} {sourceEpochs : List (String × String)}
    {source : PublishedSource} {faults : InitializeFaults} {state : DatasetState}
    (started : initialState bucketNs dataset restore pendingStarts sourceEpochs source faults =
      .ok state)
    (pending : ∀ start, pendingStarts.lookup dataset.id = some start →
      restore.datasets.find? (fun progress => decide (progress.datasetId = dataset.id)) = none →
      (∀ first, dataset.beginBucket = some first → first ≤ start) ∧
      ∃ latest, source.published.getLast? = some latest ∧
        start ≤ raised dataset.beginBucket latest.1.closedBeforeBucket) :
    Resumable dataset.beginBucket dataset.id source state ∧
      (∀ old, restore.datasets.find? (fun progress => decide (progress.datasetId = dataset.id)) =
        some old → state.confirmed = old ∧
          state.nextBucket = raised dataset.beginBucket old.closedBeforeBucket) ∧
      (restore.datasets.find? (fun progress => decide (progress.datasetId = dataset.id)) = none →
        state.confirmed.committedPosition = "" ∧
        ∀ start, pendingStarts.lookup dataset.id = some start → state.nextBucket = start) := by
  unfold initialState at started
  simp only at started
  split at started
  · cases started
  split at started
  · cases started
  next latest read =>
    split at started
    · cases started
    next contract =>
      simp only [not_or, Int.not_lt] at contract
      split at started
      · cases started
      split at started
      · cases started
      obtain ⟨published, isLatest, is⟩ := readProgress_latest read
      cases found : restore.datasets.find? fun progress =>
          decide (progress.datasetId = dataset.id) with
      | none =>
          rw [found] at started
          simp only at started
          split at started
          · cases started
          · cases started
          next made isMade _ =>
            cases started
            cases isMade
            cases waits : pendingStarts.lookup dataset.id with
            | none =>
                simp only [Option.getD_none]
                refine ⟨⟨rfl, ?_, absurd rfl, absurd rfl, fun _ => ⟨published, isLatest, ?_⟩⟩,
                  by rintro _ ⟨⟩, fun _ => ⟨trivial, by rintro _ ⟨⟩⟩⟩
                · intro first isFirst
                  rw [isFirst]
                  exact Int.le_max_right _ _
                · have bounded := contract.2.1
                  rw [is] at bounded
                  cases dataset.beginBucket <;>
                    simp only [raised, Option.getD_none, Option.getD_some] <;> omega
            | some start =>
                simp only [Option.getD_some]
                obtain ⟨begins, reaches⟩ := pending start waits found
                refine ⟨⟨rfl, begins, absurd rfl, absurd rfl, fun _ => reaches⟩, by rintro _ ⟨⟩,
                  fun _ => ⟨trivial, ?_⟩⟩
                rintro _ ⟨⟩
                rfl
      | some old =>
          rw [found] at started
          simp only at started
          split at started
          · cases started
          · cases started
          next made isMade _ =>
            cases started
            split at isMade
            · cases isMade
            next saved _ =>
              split at isMade
              · cases isMade
              next same =>
                cases isMade
                simp only [not_or, Int.not_lt] at same
                obtain ⟨_, _, _, _, retained, grown⟩ := same
                have isOld : old.datasetId = dataset.id := by
                  have holds := List.find?_some found
                  simpa using holds
                have next : max (max latest.firstBucket
                    (dataset.beginBucket.getD latest.firstBucket)) old.closedBeforeBucket =
                      raised dataset.beginBucket old.closedBeforeBucket := by
                  cases dataset.beginBucket <;>
                    simp only [raised, Option.getD_none, Option.getD_some] <;> omega
                refine ⟨⟨rfl, ?_, fun _ => isOld, fun _ => next,
                  fun _ => ⟨published, isLatest, ?_⟩⟩, ?_, by rintro ⟨⟩⟩
                · intro first isFirst
                  rw [next, isFirst]
                  exact Int.le_max_left _ _
                · rw [next]
                  exact raised_mono _ (is ▸ grown)
                · rintro _ ⟨⟩
                  exact ⟨rfl, next⟩

theorem initialStates_get {bucketNs : Int} {restore : InputProgress}
    {pendingStarts : List (String × Int)} {sourceEpochs : List (String × String)}
    {faults : Nat → InitializeFaults} {number : Nat} {datasets : List PollDataset}
    {states : List DatasetState}
    (started : initialStates bucketNs restore pendingStarts sourceEpochs sources faults number
      datasets = .ok states) {index : Nat} {found : PollDataset}
    (isFound : datasets[index]? = some found) :
    initialState bucketNs found restore pendingStarts sourceEpochs (sources (number + index))
      (faults (number + index)) = .ok (states.getD index {}) := by
  induction datasets generalizing number states index with
  | nil => cases isFound
  | cons first later ih =>
      unfold initialStates at started
      split at started
      · cases started
      next state isState =>
        cases rest : initialStates bucketNs restore pendingStarts sourceEpochs sources faults
            (number + 1) later with
        | error message =>
            rw [rest] at started
            cases started
        | ok others =>
            rw [rest] at started
            cases started
            cases index with
            | zero =>
                cases isFound
                exact isState
            | succ index =>
                have same : number + (index + 1) = number + 1 + index := by omega
                rw [same, List.getD_cons_succ]
                exact ih rest isFound

/-- Datasets are told apart by their names. -/
theorem dataset_unique {first second : Nat} {found other : PollDataset}
    (isFound : config.datasets[first]? = some found)
    (isOther : config.datasets[second]? = some other) (same : other.id = found.id) :
    second = first := by
  obtain ⟨inSecond, _⟩ := List.getElem?_eq_some_iff.mp isOther
  have bounded : second < (config.datasets.map PollDataset.id).length := by simpa using inSecond
  apply (List.getElem?_inj bounded config.distinct).mp
  rw [List.getElem?_map, List.getElem?_map, isFound, isOther]
  exact congrArg some same

/-- The progress that an input reports of a dataset is what it has confirmed. -/
theorem readInputProgress_find {progress : InputProgress}
    (resumable : AllResumable config sources input)
    (read : input.readInputProgress config = some progress) {dataset : Nat} {found : PollDataset}
    (isFound : config.datasets[dataset]? = some found) :
    progress.datasets.find? (fun progress => decide (progress.datasetId = found.id)) =
      if (input.states dataset).confirmed.committedPosition = "" then none
      else some (input.states dataset).confirmed := by
  obtain ⟨inside, _⟩ := List.getElem?_eq_some_iff.mp isFound
  unfold readInputProgress at read
  split at read
  · cases read
  cases read
  have only : ∀ confirmed ∈ ((List.range config.datasets.length).map fun dataset =>
      (input.states dataset).confirmed).filter fun progress =>
        decide (progress.committedPosition ≠ ""),
      confirmed.datasetId = found.id → confirmed = (input.states dataset).confirmed ∧
        confirmed.committedPosition ≠ "" := by
    intro confirmed member same
    obtain ⟨mapped, some_⟩ := List.mem_filter.mp member
    obtain ⟨other, inRange, rfl⟩ := List.mem_map.mp mapped
    have inOther : other < config.datasets.length := List.mem_range.mp inRange
    have isOther : config.datasets[other]? = some config.datasets[other] :=
      List.getElem?_eq_getElem inOther
    have position : (input.states other).confirmed.committedPosition ≠ "" := of_decide_eq_true some_
    have named := (resumable other _ isOther).confirmedId position
    cases dataset_unique isFound isOther (named.symm.trans same)
    exact ⟨rfl, position⟩
  split
  next empty =>
    apply List.find?_eq_none.mpr
    intro confirmed member same
    obtain ⟨is, position⟩ := only confirmed member (of_decide_eq_true same)
    exact position (is ▸ empty)
  next position =>
    have member : (input.states dataset).confirmed ∈ ((List.range config.datasets.length).map
        fun dataset => (input.states dataset).confirmed).filter fun progress =>
          decide (progress.committedPosition ≠ "") :=
      List.mem_filter.mpr ⟨List.mem_map.mpr ⟨dataset, List.mem_range.mpr inside, rfl⟩,
        decide_eq_true position⟩
    have named := (resumable dataset found isFound).confirmedId position
    cases first : List.find? (fun progress => decide (progress.datasetId = found.id))
        (((List.range config.datasets.length).map fun dataset =>
          (input.states dataset).confirmed).filter fun progress =>
            decide (progress.committedPosition ≠ "")) with
    | none => exact absurd (decide_eq_true named) (List.find?_eq_none.mp first _ member)
    | some confirmed =>
        have holds := List.find?_some first
        have is := only confirmed (List.mem_of_find?_eq_some first) (by simpa using holds)
        exact congrArg some is.1

/-- The pending start of a dataset is its next bucket. -/
theorem pendingStarts_lookup (resumable : AllResumable config sources input) {dataset : Nat}
    {found : PollDataset} (isFound : config.datasets[dataset]? = some found) :
    (input.pendingStarts config).lookup found.id = some (input.states dataset).nextBucket := by
  obtain ⟨inside, _⟩ := List.getElem?_eq_some_iff.mp isFound
  have only : ∀ start, (found.id, start) ∈ input.pendingStarts config →
      start = (input.states dataset).nextBucket := by
    intro start member
    obtain ⟨other, inRange, same⟩ := List.mem_map.mp member
    have inOther : other < config.datasets.length := List.mem_range.mp inRange
    have isOther : config.datasets[other]? = some config.datasets[other] :=
      List.getElem?_eq_getElem inOther
    have named := (resumable other _ isOther).datasetId
    cases dataset_unique isFound isOther (named.symm.trans (congrArg Prod.fst same))
    exact (congrArg Prod.snd same).symm
  have member : (found.id, (input.states dataset).nextBucket) ∈ input.pendingStarts config := by
    refine List.mem_map.mpr ⟨dataset, List.mem_range.mpr inside, ?_⟩
    rw [(resumable dataset found isFound).datasetId]
  cases is : (input.pendingStarts config).lookup found.id with
  | none =>
      have apart := List.lookup_eq_none_iff.mp is _ member
      simp at apart
  | some start =>
      obtain ⟨before, after, split_, _⟩ := List.lookup_eq_some_iff.mp is
      have inside_ : (found.id, start) ∈ input.pendingStarts config := by
        rw [split_]
        exact List.mem_append_right _ List.mem_cons_self
      exact congrArg some (only start inside_)

/-- The starts that an input has recorded, or none. -/
def keptStarts (config : PollConfig) (pending : Bool) (input : PollInput) : List (String × Int) :=
  if pending then input.pendingStarts config else []

/-- A new input goes on from the progress of an earlier one. -/
theorem start_resumes {progress : InputProgress} {pending : Bool}
    {sourceEpochs : List (String × String)} {faults : Nat → InitializeFaults} {next : PollInput}
    (resumable : AllResumable config sources input)
    (read : input.readInputProgress config = some progress)
    (started : PollInput.start config progress (keptStarts config pending input) sourceEpochs
      sources faults = .ok next) :
    AllResumable config sources next ∧
      ∀ dataset < config.datasets.length,
        ((input.states dataset).confirmed.committedPosition ≠ "" ∨ pending = true →
          (next.states dataset).nextBucket = (input.states dataset).nextBucket) ∧
        ((input.states dataset).confirmed.committedPosition ≠ "" →
          (next.states dataset).confirmed = (input.states dataset).confirmed) := by
  unfold PollInput.start at started
  split at started
  · cases started
  cases made : initialStates config.bucketNs progress (keptStarts config pending input)
      sourceEpochs sources faults 0 config.datasets with
  | error message =>
      rw [made] at started
      cases started
  | ok states =>
      rw [made] at started
      cases started
      have each : ∀ (dataset : Nat) (found : PollDataset),
          config.datasets[dataset]? = some found →
          Resumable (config.beginOf dataset) found.id (sources dataset) (states.getD dataset {}) ∧
          ((input.states dataset).confirmed.committedPosition ≠ "" ∨ pending = true →
            (states.getD dataset {}).nextBucket = (input.states dataset).nextBucket) ∧
          ((input.states dataset).confirmed.committedPosition ≠ "" →
            (states.getD dataset {}).confirmed = (input.states dataset).confirmed) := by
        intro dataset found isFound
        have old := resumable dataset found isFound
        have begins : config.beginOf dataset = found.beginBucket := by
          simp [PollConfig.beginOf, isFound]
        have one := initialStates_get made isFound
        rw [Nat.zero_add] at one
        have reported := readInputProgress_find resumable read isFound
        have kept : ∀ start, (keptStarts config pending input).lookup found.id = some start →
            pending = true ∧ start = (input.states dataset).nextBucket := by
          intro start is
          cases pending with
          | false => cases is
          | true =>
              exact ⟨rfl, (Option.some.inj ((pendingStarts_lookup resumable isFound).symm.trans
                is)).symm⟩
        obtain ⟨new_, restored, unrestored⟩ := initialState_resumable one (by
          intro start is none_
          obtain ⟨_, rfl⟩ := kept start is
          rw [reported] at none_
          split at none_
          next empty =>
            rw [← begins]
            exact ⟨old.begins, old.pending empty⟩
          next => cases none_)
        rw [← begins] at new_ restored
        refine ⟨new_, ?_, ?_⟩
        · intro resumes
          by_cases empty : (input.states dataset).confirmed.committedPosition = ""
          · rw [if_pos empty] at reported
            have isPending : pending = true := resumes.resolve_left (not_not_intro empty)
            apply (unrestored reported).2
            rw [keptStarts, if_pos isPending]
            exact pendingStarts_lookup resumable isFound
          · rw [if_neg empty] at reported
            exact (restored _ reported).2.trans (old.confirmed empty).symm
        · intro position
          rw [if_neg position] at reported
          exact (restored _ reported).1
      refine ⟨fun dataset found isFound => (each dataset found isFound).1, ?_⟩
      intro dataset inside
      exact (each dataset _ (List.getElem?_eq_getElem inside)).2

/-- An input that has just started. -/
theorem start_polled {progress : InputProgress} {pendingStarts : List (String × Int)}
    {sourceEpochs : List (String × String)} {faults : Nat → InitializeFaults} {next : PollInput}
    (started : PollInput.start config progress pendingStarts sourceEpochs sources faults =
      .ok next) : Polled config next.states next [] [] := by
  unfold PollInput.start at started
  split at started
  · cases started
  next valid =>
    cases made : initialStates config.bucketNs progress pendingStarts sourceEpochs sources faults 0
        config.datasets with
    | error message =>
        rw [made] at started
        cases started
    | ok states =>
        rw [made] at started
        cases started
        have some_ : config.datasets ≠ [] := fun none_ => valid (.inl none_)
        exact ⟨⟨rfl, List.length_pos_iff.mpr some_, fun _ => ⟨trivial, rfl, rfl⟩⟩,
          .resting rfl rfl rfl⟩

/-- The first input of a task resumes nothing. -/
theorem start_fresh {sourceEpochs : List (String × String)} {faults : Nat → InitializeFaults}
    {next : PollInput}
    (started : PollInput.start config {} [] sourceEpochs sources faults = .ok next) :
    AllResumable config sources next := by
  unfold PollInput.start at started
  split at started
  · cases started
  cases made : initialStates config.bucketNs {} [] sourceEpochs sources faults 0
      config.datasets with
  | error message =>
      rw [made] at started
      cases started
  | ok states =>
      rw [made] at started
      cases started
      intro dataset found isFound
      have begins : config.beginOf dataset = found.beginBucket := by
        simp [PollConfig.beginOf, isFound]
      have one := initialStates_get made isFound
      rw [Nat.zero_add] at one
      rw [begins]
      exact (initialState_resumable one nofun).1

end PollInput

/-! ## Runs -/

theorem publish_resumable {beginBucket : Option Int} {id : String} {source : PublishedSource}
    {state : DatasetState} (resumable : Resumable beginBucket id source state)
    (publication : DatasetProgress) (periodNs : Int) :
    Resumable beginBucket id (source.publish publication periodNs) state where
  datasetId := resumable.datasetId
  begins := resumable.begins
  confirmedId := resumable.confirmedId
  confirmed := resumable.confirmed
  pending := by
    intro unconfirmed
    obtain ⟨latest, isLatest, reaches⟩ := resumable.pending unconfirmed
    unfold PublishedSource.publish
    rw [isLatest]
    simp only
    split
    next grows =>
      refine ⟨(publication, periodNs), List.getLast?_concat, ?_⟩
      exact Int.le_trans reaches (raised_mono beginBucket grows)
    next => exact ⟨latest, isLatest, reaches⟩

namespace PollSystem

open PollInput

variable {config : PollConfig} {system : PollSystem}

structure Sound (config : PollConfig) (system : PollSystem) : Prop where
  polled : ∃ starts cycles tail, Polled config starts system.input cycles tail
  resumable : AllResumable config system.sources system.input
  reported : ∀ input, system.reported = some input → AllResumable config system.sources input ∧
    (∃ starts cycles tail, Polled config starts input cycles tail) ∧
    ∃ progress, input.readInputProgress config = some progress

theorem restart_sound (sound : system.Sound config) (pending : Bool)
    (sourceEpochs : List (String × String)) (faults : Nat → InitializeFaults) :
    (system.restart config pending sourceEpochs faults).Sound config := by
  unfold restart
  simp only
  split
  · exact sound
  next next_ started =>
    refine ⟨⟨next_.states, [], [], start_polled started⟩, ?_, sound.reported⟩
    cases isReported : system.reported with
    | none =>
        rw [PollSystem.progress, isReported] at started
        cases pending <;> exact start_fresh started
    | some input =>
        obtain ⟨resumable, _, progress, read⟩ := sound.reported input isReported
        rw [PollSystem.progress, isReported] at started
        simp only [Option.bind_some, read, Option.getD_some] at started
        have resumed : PollInput.start config progress (keptStarts config pending input)
            sourceEpochs system.sources faults = .ok next_ := by
          cases pending <;> exact started
        exact (start_resumes resumable read resumed).1

theorem update_source {sources : Nat → PublishedSource} {dataset : Nat} {after : PublishedSource}
    {input : PollInput} (resumable : AllResumable config sources input)
    (keeps : ∀ (beginBucket : Option Int) (id : String) (state : DatasetState),
      Resumable beginBucket id (sources dataset) state → Resumable beginBucket id after state) :
    AllResumable config (Function.update sources dataset after) input := by
  intro other found isFound
  by_cases same : other = dataset
  · subst same
    rw [Function.update_self]
    exact keeps _ _ _ (resumable other found isFound)
  · rw [Function.update_of_ne same]
    exact resumable other found isFound

theorem step_sound (sound : system.Sound config) (event : PollEvent) :
    (system.step config event).Sound config := by
  cases event with
  | publish dataset publication periodNs =>
      have keeps : ∀ (beginBucket : Option Int) (id : String) (state : DatasetState),
          Resumable beginBucket id (system.sources dataset) state →
          Resumable beginBucket id ((system.sources dataset).publish publication periodNs) state :=
        fun _ _ _ resumable => publish_resumable resumable publication periodNs
      refine ⟨sound.polled, update_source sound.resumable keeps, fun input is => ?_⟩
      obtain ⟨resumable, rest⟩ := sound.reported input is
      exact ⟨update_source resumable keeps, rest⟩
  | retain dataset firstBucket =>
      have keeps : ∀ (beginBucket : Option Int) (id : String) (state : DatasetState),
          Resumable beginBucket id (system.sources dataset) state →
          Resumable beginBucket id { system.sources dataset with firstBucket := firstBucket }
            state :=
        fun _ _ _ resumable => { resumable with }
      refine ⟨sound.polled, update_source sound.resumable keeps, fun input is => ?_⟩
      obtain ⟨resumable, rest⟩ := sound.reported input is
      exact ⟨update_source resumable keeps, rest⟩
  | pollBlock answers =>
      obtain ⟨starts, cycles, tail, polled⟩ := sound.polled
      obtain ⟨⟨later, after⟩, states⟩ := pollBlock_polled answers sound.resumable polled
      refine ⟨⟨starts, cycles, later, after⟩, fun dataset found isFound => ?_, sound.reported⟩
      have same : (system.step config (.pollBlock answers)).input.states dataset =
          system.input.states dataset := congrFun states dataset
      rw [same]
      exact sound.resumable dataset found isFound
  | releaseBlock block =>
      obtain ⟨starts, cycles, tail, polled⟩ := sound.polled
      obtain ⟨⟨others, later, after⟩, resumable⟩ :=
        releaseBlock_polled block sound.resumable polled
      exact ⟨⟨starts, others, later, after⟩, resumable, sound.reported⟩
  | cancel =>
      obtain ⟨starts, cycles, tail, logged, phase⟩ := sound.polled
      exact ⟨⟨starts, cycles, tail, { logged with }, phase_flags phase true _⟩, sound.resumable,
        sound.reported⟩
  | report =>
      unfold step report
      simp only
      split
      next readable =>
        refine ⟨sound.polled, sound.resumable, ?_⟩
        rintro _ ⟨⟩
        exact ⟨sound.resumable, sound.polled, Option.isSome_iff_exists.mp readable⟩
      next => exact sound
  | restart pending sourceEpochs faults => exact restart_sound sound pending sourceEpochs faults

theorem run_sound (sound : system.Sound config) (events : List PollEvent) :
    (system.run config events).Sound config := by
  induction events generalizing system with
  | nil => exact sound
  | cons event later ih => exact ih (step_sound sound event)

/-- The windows of the cycles of a dataset, with the window that is read. -/
structure Covers (config : PollConfig) (starts : Nat → DatasetState) (input : PollInput)
    (cycles : List Cycle) (dataset : Nat) : Prop where
  confirmed : (cyclesOf dataset cycles).flatMap
      (fun cycle => cycle.window.toList.flatMap Window.buckets) =
    buckets (starts dataset).nextBucket
      (capped (config.endOf dataset) (input.states dataset).nextBucket)
  last : (input.states dataset).confirmed =
    (((cyclesOf dataset cycles).getLast?).map Cycle.publication).getD (starts dataset).confirmed
  reaches : (input.states dataset).confirmed.committedPosition ≠ "" →
    (input.states dataset).nextBucket =
      raised (config.beginOf dataset) (input.states dataset).confirmed.closedBeforeBucket
  reading : ∀ window, input.cycle = some window → input.dataset = dataset →
    window.first = (input.states dataset).nextBucket

/-- What an input hands out. Everything it has done are the whole cycles and the one it is in. -/
structure HandsOut (config : PollConfig) (input : PollInput) (starts : Nat → DatasetState)
    (cycles : List Cycle) : Prop where
  records : ∃ tail, input.records = cycles.flatMap Cycle.records ++ tail ∧ Phase config input tail
  covers : ∀ dataset < config.datasets.length, Covers config starts input cycles dataset
  /-- An outstanding block is alone. -/
  alone : ∀ sources answers block, input.outstanding = some block →
    ∀ other, (input.pollBlock config sources answers).1 ≠ .data other

theorem windowOf_first {endBucket : Option Int} {next closed : Int} {window : Window}
    (opened : windowOf endBucket next closed = some window) : window.first = next := by
  unfold windowOf at opened
  simp only at opened
  split at opened
  · cases opened
    rfl
  · cases opened

theorem Polled.handsOut {sources : Nat → PublishedSource} {input : PollInput}
    {starts : Nat → DatasetState} {cycles : List Cycle} {tail : List PollRecord}
    (polled : Polled config starts input cycles tail)
    (resumable : AllResumable config sources input) : HandsOut config input starts cycles where
  records := ⟨tail, polled.records, polled.phase⟩
  covers := by
    intro dataset inside
    have tracks := polled.tracks dataset
    refine ⟨?_, tracks.confirmed, ?_, ?_⟩
    · rw [tracks.contiguous.covers, tracks.next]
    · exact (resumable dataset _ (List.getElem?_eq_getElem inside)).confirmed
    · rintro window isWindow rfl
      cases polled.phase with
      | resting cycle free boundary => cases cycle.symm.trans isWindow
      | reading other blocks cycle free boundary opened fresh =>
          cases cycle.symm.trans isWindow
          exact windowOf_first opened
      | lent other blocks block cycle lent boundary opened fresh =>
          cases cycle.symm.trans isWindow
          exact windowOf_first opened
      | broken other blocks cycle free boundary broken => cases cycle.symm.trans isWindow
      | ending other blocks block cycle lent boundary opened fresh =>
          cases cycle.symm.trans isWindow
  alone := by
    intro sources answers block isBlock other
    unfold pollBlock
    split
    · exact nofun
    split
    · unfold PollInput.fail
      split <;> exact nofun
    · rw [isBlock]
      exact nofun

/-- What holds of every run: of the input, and of the one that reported last. A new input that
starts from the report goes on where the windows that it confirms end. -/
structure PollsOnce (config : PollConfig) (system : PollSystem) : Prop where
  handsOut : ∃ starts cycles, HandsOut config system.input starts cycles
  reported : ∀ input, system.reported = some input →
    (∃ starts cycles, HandsOut config input starts cycles) ∧
    ∃ progress, input.readInputProgress config = some progress ∧
      ∀ (pending : Bool) (sourceEpochs : List (String × String))
        (faults : Nat → InitializeFaults) (next : PollInput),
        PollInput.start config progress (keptStarts config pending input) sourceEpochs
          system.sources faults = .ok next →
        ∀ dataset < config.datasets.length,
          (input.states dataset).confirmed.committedPosition ≠ "" ∨ pending = true →
          (next.states dataset).nextBucket = (input.states dataset).nextBucket

/-- One dataset that is read from bucket two to bucket nine. -/
def oneDataset : PollConfig where
  datasets := [{ id := "d", beginBucket := some 2, endBucket := some 9 }]
  bucketNs := 60
  distinct := by decide

def oneSource : PublishedSource where
  published := [(⟨"d", "epoch", "1", 5⟩, 60)]

def oneInput : PollInput where
  states := fun dataset =>
    [{ datasetId := "d", epoch := "epoch", nextBucket := 2, sourcePeriodNs := 60 }].getD dataset {}

/-- The window of a publication is read in one block, while the source publishes again. -/
def oneWindow : List PollEvent :=
  [.pollBlock { answer := .block 7 }, .publish 0 ⟨"d", "epoch", "2", 12⟩ 60, .releaseBlock 7,
    .pollBlock { answer := .atEnd, boundaryBlock := 8 }, .releaseBlock 8, .report]

end PollSystem

end Flowsql.Baseliner
