import Mathlib

/-!
# Transfers from a block stream into a DataFrame

`ExecuteTransfer` without an operator: blocks are polled, filtered, stored, acknowledged and released. A sink
that cannot append is only written with the first block.
-/

namespace Flowsql.Scheduler.Transfer

def EINVAL : Int := 22
def EFAULT : Int := 14
def ECANCELED : Int := 125

variable {Row : Type}

/-- A call of another component returns or throws. -/
inductive Answer (α : Type) where
  | returned (value : α)
  | threw
  deriving DecidableEq

inductive BlockPollEvent (Row : Type) where
  | data (batch : Option (List Row))
  | timeout
  | eof
  | cancelled
  | failed
  deriving DecidableEq

/-- What the loop meets in one round. -/
structure Round (Row : Type) where
  cancelRequested : Bool := false
  stopRequested : Bool := false
  poll : Answer (BlockPollEvent Row)
  /-- The residual filter succeeds. -/
  filtered : Answer Bool := .returned true
  /-- `Append` or `Write`. -/
  sink : Answer Int := .returned 0
  acknowledge : Answer Int := .returned 0
  release : Answer Int := .returned 0
  deriving DecidableEq

structure Channels (Row : Type) where
  /-- The sink is an `IAppendableDataFrameChannel`. -/
  appendable : Bool
  /-- The source is an `IBlockStreamAcknowledgementV1`. -/
  acknowledges : Bool
  residual : Option (Row → Bool)

/-- The rows of a block that pass the residual filter. -/
def Channels.output (channels : Channels Row) (batch : List Row) : List Row :=
  match channels.residual with
  | none => batch
  | some passes => batch.filter passes

inductive Action (Row : Type) where
  | polled (batch : List Row)
  | stored (rows : List Row)
  | acknowledged (batch : List Row)
  | released (batch : List Row)
  deriving DecidableEq

structure Ledger (Row : Type) where
  rows : Nat := 0
  wrote : Bool := false
  /-- What the sink holds. -/
  contents : List Row
  actions : List (Action Row) := []
  deriving DecidableEq

def Ledger.log (ledger : Ledger Row) (action : Action Row) : Ledger Row :=
  { ledger with actions := ledger.actions ++ [action] }

inductive Progress (Row : Type) where
  | running (ledger : Ledger Row)
  /-- The code of the transfer, or an exception that leaves it. -/
  | ended (code : Option Int) (ledger : Ledger Row)
  deriving DecidableEq

def Answer.code : Answer Int → Int
  | .returned code => code
  | .threw => EFAULT

/-- The sink takes the rows: appended, written by the first block only. -/
def storeRows (channels : Channels Row) (round : Round Row) (rows : List Row) (ledger : Ledger Row) :
    Int × Ledger Row :=
  if channels.appendable then
    if round.sink.code = 0 then
      (0, { ledger.log (.stored rows) with contents := ledger.contents ++ rows })
    else (round.sink.code, ledger)
  else if !ledger.wrote then
    if round.sink.code = 0 then (0, { ledger.log (.stored rows) with contents := rows })
    else (round.sink.code, ledger)
  else (0, ledger)

/-- The `try` block. -/
def filterAndStore (channels : Channels Row) (round : Round Row) (batch : List Row)
    (ledger : Ledger Row) : Int × Ledger Row :=
  match channels.residual, round.filtered with
  | none, _ | some _, .returned true => storeRows channels round (channels.output batch) ledger
  | some _, .returned false => (EINVAL, ledger)
  | some _, .threw => (EFAULT, ledger)

def acknowledgeProcessedBlock (channels : Channels Row) (round : Round Row) (batch : List Row)
    (ledger : Ledger Row) : Int × Ledger Row :=
  if channels.acknowledges then (round.acknowledge.code, ledger.log (.acknowledged batch))
  else (0, ledger)

/-- A block is stored, and acknowledged when that succeeded. -/
def settleBatch (channels : Channels Row) (round : Round Row) (batch : List Row) (ledger : Ledger Row) :
    Int × Ledger Row :=
  let (rc, stored) := filterAndStore channels round batch ledger
  if rc = 0 then acknowledgeProcessedBlock channels round batch stored else (rc, stored)

def processBatch (channels : Channels Row) (round : Round Row) (batch : List Row) (ledger : Ledger Row) :
    Progress Row :=
  let (rc, settled) := settleBatch channels round batch (ledger.log (.polled batch))
  let released := settled.log (.released batch)
  if round.release.code ≠ 0 then .ended (some (-1)) released
  else if rc ≠ 0 then .ended (some rc) released
  else .running
    { released with wrote := true, rows := released.rows + (channels.output batch).length }

def step (channels : Channels Row) (ledger : Ledger Row) (round : Round Row) : Progress Row :=
  if round.cancelRequested then .ended (some ECANCELED) ledger
  else if round.stopRequested then .ended (some 0) ledger
  else match round.poll with
    | .returned (.data (some batch)) => processBatch channels round batch ledger
    | .returned .timeout => .running ledger
    | .returned .eof => .ended (some 0) ledger
    | .returned (.data none) | .returned .cancelled | .returned .failed => .ended (some (-1)) ledger
    | .threw => .ended none ledger

/-- The loop over the rounds it meets. -/
def executeTransfer (channels : Channels Row) : Ledger Row → List (Round Row) → Progress Row
  | ledger, [] => .running ledger
  | ledger, round :: rounds =>
      match step channels ledger round with
      | .running next => executeTransfer channels next rounds
      | .ended code last => .ended code last

/-! ## What a transfer promises -/

def Action.polledBatch? : Action Row → Option (List Row)
  | .polled batch => some batch
  | _ => none

def Ledger.polled (ledger : Ledger Row) : List (List Row) :=
  ledger.actions.filterMap Action.polledBatch?

/-- The rows of all polled blocks that pass the filter. -/
def Ledger.passed (channels : Channels Row) (ledger : Ledger Row) : List Row :=
  ledger.polled.flatMap channels.output

/-- Blocks are handled one after the other: each is released once, and acknowledged at most once, behind the
storing of its rows if it has any. -/
inductive Handled (channels : Channels Row) : List (Action Row) → Prop where
  | nothing : Handled channels []
  | block {actions stored acknowledged : List (Action Row)} (batch : List Row) :
      Handled channels actions →
      (stored = [] ∨ stored = [.stored (channels.output batch)]) →
      (acknowledged = [] ∨ acknowledged = [.acknowledged batch] ∧
        (stored = [.stored (channels.output batch)] ∨ channels.output batch = [])) →
      Handled channels (actions ++ .polled batch :: (stored ++ (acknowledged ++ [.released batch])))

/-- The sink holds the rows of all blocks, behind what an appending sink held before, and they are counted. -/
structure Holds (channels : Channels Row) (initial : List Row) (ledger : Ledger Row) : Prop where
  contents : ledger.contents =
    (if channels.appendable = true ∨ ledger.polled = [] then initial else []) ++ ledger.passed channels
  rows : ledger.rows = (ledger.passed channels).length

/-- The sink takes the rows of the block that a round polls. -/
def Covered (channels : Channels Row) (ledger : Ledger Row) (round : Round Row) : Prop :=
  channels.appendable = true ∨ ledger.wrote = false ∨
    ∀ batch, round.poll = .returned (.data (some batch)) → channels.output batch = []

/-- A condition on the state before each round of a transfer. -/
def EachRound (channels : Channels Row) (condition : Ledger Row → Round Row → Prop) :
    Ledger Row → List (Round Row) → Prop
  | _, [] => True
  | ledger, round :: rounds => condition ledger round ∧
      ∀ next, step channels ledger round = .running next → EachRound channels condition next rounds

/-! ## One block -/

variable {channels : Channels Row} {round : Round Row} {batch : List Row} {ledger settled : Ledger Row}
  {rc : Int}

/-- What is done with a block before its release. -/
structure Settled (channels : Channels Row) (batch : List Row) (ledger : Ledger Row) (rc : Int)
    (settled : Ledger Row) : Prop where
  rows : settled.rows = ledger.rows
  wrote : settled.wrote = ledger.wrote
  actions : ∃ stored acknowledged, settled.actions = ledger.actions ++ (stored ++ acknowledged) ∧
    (stored = [] ∨ stored = [.stored (channels.output batch)]) ∧
    (acknowledged = [] ∨ acknowledged = [.acknowledged batch] ∧
      (stored = [.stored (channels.output batch)] ∨ channels.output batch = []))
  contents : rc = 0 → settled.contents =
    (if channels.appendable = true ∨ ledger.wrote = true then ledger.contents else []) ++
      channels.output batch

/-- Nothing was acknowledged yet, and rows that count as stored are. -/
structure Stored (channels : Channels Row) (batch : List Row) (ledger : Ledger Row) (rc : Int)
    (stored : Ledger Row) : Prop where
  settled : Settled channels batch ledger rc stored
  actions : rc = 0 → stored.actions = ledger.actions ++ [.stored (channels.output batch)] ∨
    stored.actions = ledger.actions ∧ channels.output batch = []

theorem stored_failed (failed : rc ≠ 0) : Stored channels batch ledger rc ledger where
  settled := ⟨rfl, rfl, ⟨[], [], by simp, .inl rfl, .inl rfl⟩, fun success => absurd success failed⟩
  actions := fun success => absurd success failed

theorem storeRows_stored (covered : channels.appendable = true ∨ ledger.wrote = false ∨
      channels.output batch = [])
    (outcome : storeRows channels round (channels.output batch) ledger = (rc, settled)) :
    Stored channels batch ledger rc settled := by
  unfold storeRows at outcome
  split at outcome
  · rename_i appends
    split at outcome <;> cases outcome
    · refine ⟨⟨rfl, rfl, ⟨[.stored (channels.output batch)], [], rfl, .inr rfl, .inl rfl⟩, fun _ => ?_⟩,
        fun _ => .inl rfl⟩
      rw [if_pos (.inl appends)]
    · rename_i failed
      exact stored_failed failed
  · rename_i replaces
    split at outcome
    · rename_i first
      have unwritten : ledger.wrote = false := by simpa using first
      split at outcome <;> cases outcome
      · refine ⟨⟨rfl, rfl, ⟨[.stored (channels.output batch)], [], rfl, .inr rfl, .inl rfl⟩, fun _ => ?_⟩,
          fun _ => .inl rfl⟩
        rw [if_neg (by rw [unwritten]; rintro (appends | ⟨⟨⟩⟩); exact replaces appends)]
        rfl
      · rename_i failed
        exact stored_failed failed
    · rename_i again
      cases outcome
      have wrote : ledger.wrote = true := by simpa using again
      have nothing : channels.output batch = [] := by
        rcases covered with appends | unwritten | nothing
        · exact absurd appends replaces
        · rw [wrote] at unwritten
          cases unwritten
        · exact nothing
      refine ⟨⟨rfl, rfl, ⟨[], [], by simp, .inl rfl, .inl rfl⟩, fun _ => ?_⟩,
        fun _ => .inr ⟨rfl, nothing⟩⟩
      rw [if_pos (.inr wrote), nothing, List.append_nil]

theorem filterAndStore_stored (covered : channels.appendable = true ∨ ledger.wrote = false ∨
      channels.output batch = [])
    (outcome : filterAndStore channels round batch ledger = (rc, settled)) :
    Stored channels batch ledger rc settled := by
  unfold filterAndStore at outcome
  split at outcome
  · exact storeRows_stored covered outcome
  · exact storeRows_stored covered outcome
  · cases outcome
    exact stored_failed (by decide)
  · cases outcome
    exact stored_failed (by decide)

theorem settleBatch_settled (covered : channels.appendable = true ∨ ledger.wrote = false ∨
      channels.output batch = [])
    (outcome : settleBatch channels round batch ledger = (rc, settled)) :
    Settled channels batch ledger rc settled := by
  unfold settleBatch at outcome
  rcases kept : filterAndStore channels round batch ledger with ⟨code, after⟩
  have stored := filterAndStore_stored covered kept
  rw [kept] at outcome
  dsimp only at outcome
  split at outcome
  · rename_i success
    unfold acknowledgeProcessedBlock at outcome
    split at outcome <;> cases outcome
    · refine ⟨stored.settled.rows, stored.settled.wrote, ?_, fun _ => stored.settled.contents success⟩
      rcases stored.actions success with known | ⟨known, nothing⟩
      · exact ⟨[.stored (channels.output batch)], [.acknowledged batch], by simp [Ledger.log, known],
          .inr rfl, .inr ⟨rfl, .inl rfl⟩⟩
      · exact ⟨[], [.acknowledged batch], by simp [Ledger.log, known], .inl rfl,
          .inr ⟨rfl, .inr nothing⟩⟩
    · exact ⟨stored.settled.rows, stored.settled.wrote, stored.settled.actions,
        fun _ => stored.settled.contents success⟩
  · cases outcome
    exact stored.settled

/-! ## Runs -/

/-- What holds between two rounds. -/
structure Accounts (channels : Channels Row) (initial : List Row) (ledger : Ledger Row) : Prop where
  handled : Handled channels ledger.actions
  holds : Holds channels initial ledger
  wrote : ledger.wrote = true ↔ ledger.polled ≠ []

/-- A transfer that ended: what it promises of every end, and of success. -/
def Progress.Promises (channels : Channels Row) (initial : List Row) : Progress Row → Prop
  | .running ledger => Accounts channels initial ledger
  | .ended code ledger =>
      Handled channels ledger.actions ∧ (code = some 0 → Holds channels initial ledger)

theorem processBatch_promises {initial : List Row} (accounts : Accounts channels initial ledger)
    (covered : channels.appendable = true ∨ ledger.wrote = false ∨ channels.output batch = []) :
    (processBatch channels round batch ledger).Promises channels initial := by
  unfold processBatch
  rcases outcome : settleBatch channels round batch (ledger.log (.polled batch)) with ⟨rc, settled⟩
  have settles : Settled channels batch (ledger.log (.polled batch)) rc settled :=
    settleBatch_settled covered outcome
  obtain ⟨stored, acknowledged, actions, storedIs, acknowledgedIs⟩ := settles.actions
  have known : (settled.log (.released batch)).actions =
      ledger.actions ++ .polled batch :: (stored ++ (acknowledged ++ [.released batch])) := by
    simp [Ledger.log, actions]
  have handled : Handled channels (settled.log (.released batch)).actions := by
    rw [known]
    exact accounts.handled.block batch storedIs acknowledgedIs
  have polled : (settled.log (.released batch)).polled = ledger.polled ++ [batch] := by
    unfold Ledger.polled
    rw [known]
    rcases storedIs with rfl | rfl <;> rcases acknowledgedIs with rfl | ⟨rfl, -⟩ <;>
      simp [Action.polledBatch?]
  dsimp only
  split
  · exact ⟨handled, fun wrong => nomatch wrong⟩
  · split
    · rename_i failed
      exact ⟨handled, fun wrong => absurd (Option.some.inj wrong) failed⟩
    · rename_i success
      have passed : (settled.log (.released batch)).passed channels =
          ledger.passed channels ++ channels.output batch := by
        unfold Ledger.passed
        rw [polled, List.flatMap_append, List.flatMap_singleton]
      have contents := settles.contents (not_not.mp success)
      refine ⟨handled, ⟨?_, ?_⟩, ?_⟩
      · have contents : settled.contents =
          (if channels.appendable = true ∨ ledger.wrote = true then ledger.contents else []) ++
            channels.output batch := contents
        show settled.contents = (if channels.appendable = true ∨
          (settled.log (.released batch)).polled = [] then initial else []) ++
            (settled.log (.released batch)).passed channels
        rw [contents, passed, polled, accounts.holds.contents, ← List.append_assoc]
        by_cases appends : channels.appendable = true
        · simp [appends]
        · by_cases first : ledger.polled = [] <;> simp [appends, first, accounts.wrote, Ledger.passed]
      · show settled.rows + (channels.output batch).length =
          ((settled.log (.released batch)).passed channels).length
        rw [passed, List.length_append, ← accounts.holds.rows, settles.rows]
        rfl
      · refine ⟨fun _ => ?_, fun _ => rfl⟩
        show (settled.log (.released batch)).polled ≠ []
        rw [polled]
        simp

theorem step_promises {initial : List Row} (accounts : Accounts channels initial ledger)
    (covered : Covered channels ledger round) :
    (step channels ledger round).Promises channels initial := by
  unfold step
  split
  · exact ⟨accounts.handled, fun wrong => nomatch wrong⟩
  · split
    · exact ⟨accounts.handled, fun _ => accounts.holds⟩
    · split
      next batch polled =>
        exact processBatch_promises accounts
          (covered.imp_right fun rest => rest.imp_right fun nothing => nothing batch polled)
      · exact accounts
      · exact ⟨accounts.handled, fun _ => accounts.holds⟩
      all_goals exact ⟨accounts.handled, fun wrong => nomatch wrong⟩

theorem executeTransfer_promises {initial : List Row} (accounts : Accounts channels initial ledger)
    {rounds : List (Round Row)} (covered : EachRound channels (Covered channels) ledger rounds) :
    (executeTransfer channels ledger rounds).Promises channels initial := by
  induction rounds generalizing ledger with
  | nil => exact accounts
  | cons round rounds ih =>
      have kept := step_promises accounts covered.1
      unfold executeTransfer
      split
      next next moved =>
        rw [moved] at kept
        exact ih kept (covered.2 next moved)
      next code last stopped =>
        rw [stopped] at kept
        exact kept

/-- A transfer loses nothing when the sink takes the rows of every block. -/
theorem transfer_complete (channels : Channels Row) (initial : List Row) (rounds : List (Round Row))
    (covered : EachRound channels (Covered channels) { contents := initial } rounds) :
    (executeTransfer channels { contents := initial } rounds).Promises channels initial := by
  refine executeTransfer_promises ⟨.nothing, ⟨?_, rfl⟩, ?_⟩ covered
  · simp [Ledger.polled, Ledger.passed]
  · simp [Ledger.polled]

/-- Two blocks and the end of the source. -/
def twoBlocks (first second : List Nat) : List (Round Nat) :=
  [{ poll := .returned (.data (some first)) }, { poll := .returned (.data (some second)) },
    { poll := .returned .eof }]

theorem two_blocks_appended :
    (executeTransfer ⟨true, true, some (1 < ·)⟩ { contents := [] } (twoBlocks [1, 2] [3])).Promises
        ⟨true, true, some (1 < ·)⟩ [] ∧
      ∃ last, executeTransfer ⟨true, true, some (1 < ·)⟩ { contents := [] } (twoBlocks [1, 2] [3]) =
        .ended (some 0) last ∧ last.contents = [2, 3] :=
  ⟨transfer_complete ⟨true, true, some (1 < ·)⟩ [] (twoBlocks [1, 2] [3])
    ⟨.inl rfl, fun _ _ => ⟨.inl rfl, fun _ _ => ⟨.inl rfl, fun _ _ => trivial⟩⟩⟩, _, rfl, rfl⟩

/-- A sink that cannot append keeps the first block alone, although the second one is counted, acknowledged
and released. -/
theorem second_block_lost :
    ∃ last, executeTransfer ⟨false, true, none⟩ { contents := [] } (twoBlocks [1] [2]) =
        .ended (some 0) last ∧
      last.contents = [1] ∧ last.rows = 2 ∧
      last.actions = [.polled [1], .stored [1], .acknowledged [1], .released [1],
        .polled [2], .acknowledged [2], .released [2]] ∧
      ¬(executeTransfer ⟨false, true, none⟩ { contents := [] } (twoBlocks [1] [2])).Promises
        ⟨false, true, none⟩ [] := by
  refine ⟨_, rfl, rfl, rfl, rfl, ?_⟩
  rintro ⟨-, holds⟩
  have wrong := (holds rfl).contents
  exact absurd wrong (by decide)

end Flowsql.Scheduler.Transfer
