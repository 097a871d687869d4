import Flowsql.Kafka.BlockReaders

/-!
# Offsets are committed after their messages

What has passed at the interfaces of a reader, and the rules for it: one block at a time, commits only
for messages that have been processed, and nothing after a block that was released without being
acknowledged.
-/

namespace Flowsql.Kafka

open Flowsql.Library Flowsql.Library.Contract

/-! ## The rules -/

structure ReadLedger where
  polled : List KafkaMessageV1 := []
  /-- The session has been cancelled. -/
  gone : Bool := false
  outstanding : Option Block := none
  /-- The last block that was processed with success, and the messages of all of them. -/
  handled : Option Nat := none
  processed : List KafkaMessageV1 := []
  /-- The blocks for which an acknowledgement was asked, and whether the last one has succeeded. -/
  acknowledged : List Nat := []
  succeeded : Bool := false
  committed : List KafkaOffsetV1 := []
  /-- A block was released without an acknowledgement, or a commit has failed. -/
  halted : Bool := false

namespace ReadLedger

variable (ledger : ReadLedger)

def handle (block : Block) : ReadLedger :=
  { ledger with
    handled := some block.id
    processed := ledger.processed ++ block.messages }

/-- All messages of the partition that have been polled are processed, the offset is the one after
the last message of the block, none before it is greater, and with every message in the log that is
left behind the operator is done. -/
structure Justified (log : Int → Int → Prop) (block : Block) (offset : KafkaOffsetV1) : Prop where
  processed : ∀ message ∈ ledger.polled, message.partition = offset.partition →
    message ∈ ledger.processed
  last : ∃ message ∈ block.messages, message.partition = offset.partition ∧
    offset.nextOffset = message.offset + 1 ∧
    ∀ other ∈ block.messages, other.partition = offset.partition → other.offset ≤ message.offset
  forward : ∀ before ∈ ledger.committed, before.partition = offset.partition →
    before.nextOffset ≤ offset.nextOffset
  reread : ∀ place, log offset.partition place → place < offset.nextOffset →
    ∃ message ∈ ledger.processed, message.partition = offset.partition ∧ message.offset = place

/-- The message is not behind a committed offset, no message in the log is skipped, and none comes
after the session was cancelled. -/
structure InTurn (log : Int → Int → Prop) (message : KafkaMessageV1) : Prop where
  above : ∀ before ∈ ledger.committed, before.partition = message.partition →
    before.nextOffset ≤ message.offset
  reached : ∀ place, log message.partition place → place < message.offset →
    ∃ earlier ∈ ledger.polled, earlier.partition = message.partition ∧ earlier.offset = place
  going : ledger.gone = false

end ReadLedger

/-- The filter has left no row. -/
def leavesNothing : Except Unit (Option Nat) → Bool
  | .ok (some rows) => rows = 0
  | _ => false

/-- The operator goes on, or stops. -/
def succeeds : Except Unit Int → Bool
  | .ok rc => rc = 0 || rc = 1
  | .error () => false

/-- The rules over a log of messages. `lenient` counts a block of which the filter leaves nothing as
processed. -/
def rules (lenient : Bool) (log : Int → Int → Prop) :
    Contract ReaderQuery ReaderAnswer ReadLedger where
  allowed ledger query := match query with
    | .delivered _ => ledger.halted = false ∧ ledger.outstanding = none
    | .acknowledged block _ => ledger.outstanding = some block ∧ ledger.handled = some block.id ∧
        block.id ∉ ledger.acknowledged
    | .commitOffsets offsets => ledger.halted = false ∧ ∃ block, ledger.outstanding = some block ∧
        ledger.handled = some block.id ∧ block.id ∉ ledger.acknowledged ∧
        ∀ offset ∈ offsets, ledger.Justified log block offset
    | .released block _ => ledger.outstanding = some block
    | _ => True
  honest ledger query := match query with
    | .pollMessage _ => fun answer => ∀ message, answer = .ok message → ledger.InTurn log message
    | _ => fun _ => True
  record ledger query := match query with
    | .pollMessage _ => fun answer => match answer with
        | .ok message => { ledger with polled := ledger.polled ++ [message] }
        | .error rc => { ledger with gone := ledger.gone || decide (rc = ECANCELED) }
    | .commitOffsets offsets => fun rc => { ledger with
        committed := ledger.committed ++ offsets
        halted := ledger.halted || decide (rc ≠ 0) }
    | .filter block => fun answer =>
        if lenient && leavesNothing answer then ledger.handle block else ledger
    | .processBlock block => fun answer =>
        if succeeds answer then ledger.handle block else ledger
    | .delivered block => fun _ => { ledger with outstanding := some block, succeeded := false }
    | .acknowledged block rc => fun _ => { ledger with
        acknowledged := block.id :: ledger.acknowledged
        succeeded := rc = 0 }
    | .released _ _ => fun _ => { ledger with
        outstanding := none
        halted := ledger.halted || !ledger.succeeded }
    | _ => fun _ => ledger

/-! ## What a reader holds -/

/-- The parts of a reader that decide what it does next. -/
structure ReaderView where
  terminal : Option Int
  outstanding : Option Nat
  acknowledged : Bool
  blocks : Nat
  offsets : List KafkaOffsetV1

def StructuredReader.view (reader : StructuredReader) : ReaderView where
  terminal := reader.terminal
  outstanding := reader.outstanding
  acknowledged := reader.acknowledged
  blocks := reader.blocks
  offsets := reader.offsets

def PacketReader.view (reader : PacketReader) : ReaderView where
  terminal := reader.terminal
  outstanding := reader.outstanding
  acknowledged := reader.acknowledged
  blocks := reader.blocks
  offsets := [⟨0, reader.currentOffset + 1⟩]

/-- The offset after the last one of the messages of a partition. -/
def After (messages : List KafkaMessageV1) (offset : KafkaOffsetV1) : Prop :=
  ∃ message ∈ messages, message.partition = offset.partition ∧
    offset.nextOffset = message.offset + 1 ∧
    ∀ other ∈ messages, other.partition = offset.partition → other.offset ≤ message.offset

/-- These messages have been polled that are not processed, and no others, unless the session is
cancelled. -/
structure Gathered (log : Int → Int → Prop) (messages : List KafkaMessageV1)
    (ledger : ReadLedger) : Prop where
  going : ledger.halted = false
  rest : ledger.gone = true ∧ messages = [] ∨
    ∀ message ∈ ledger.polled, message ∈ ledger.processed ∨ message ∈ messages
  polled : ∀ message ∈ messages, message ∈ ledger.polled
  above : ∀ message ∈ messages, ∀ before ∈ ledger.committed,
    before.partition = message.partition → before.nextOffset ≤ message.offset
  reached : ∀ message ∈ messages, ∀ place, log message.partition place →
    place < message.offset →
    ∃ earlier ∈ ledger.polled, earlier.partition = message.partition ∧ earlier.offset = place

/-- No block is out. A reader that may go on has lost no message. -/
structure Idle (view : ReaderView) (ledger : ReadLedger) : Prop where
  free : view.outstanding = none
  quiet : ledger.outstanding = none
  known : ∀ id ∈ ledger.acknowledged, id < view.blocks
  alive : view.terminal = none → ledger.halted = false ∧
    (ledger.gone = true ∨ ∀ message ∈ ledger.polled, message ∈ ledger.processed)

/-- A block is out. -/
structure Holding (log : Int → Int → Prop) (view : ReaderView) (block : Block)
    (ledger : ReadLedger) : Prop where
  gathered : Gathered log block.messages ledger
  rest : ∀ message ∈ ledger.polled, message ∈ ledger.processed ∨ message ∈ block.messages
  held : view.outstanding = some block.id
  unsettled : view.acknowledged = false
  running : view.terminal = none
  mine : block.id < view.blocks
  known : ∀ id ∈ ledger.acknowledged, id < block.id
  offsets : ∀ offset ∈ view.offsets, After block.messages offset

variable {log : Int → Int → Prop} {ledger : ReadLedger} {view : ReaderView} {block : Block}
  {messages : List KafkaMessageV1}

/-- One more message in its turn. -/
theorem Gathered.push (gathered : Gathered log messages ledger) {message : KafkaMessageV1}
    (turn : ledger.InTurn log message) :
    Gathered log (messages ++ [message]) { ledger with polled := ledger.polled ++ [message] } where
  going := gathered.going
  rest := by
    refine .inr fun other member => ?_
    rcases gathered.rest with ⟨gone, _⟩ | rest
    · rw [turn.going] at gone
      cases gone
    · rcases List.mem_append.mp member with older | new
      · exact (rest other older).imp_right (List.mem_append_left _)
      · exact .inr (List.mem_append_right _ new)
  polled := by
    intro other member
    rcases List.mem_append.mp member with older | new
    · exact List.mem_append_left _ (gathered.polled other older)
    · exact List.mem_append_right _ new
  above := by
    intro other member
    rcases List.mem_append.mp member with older | new
    · exact gathered.above other older
    · rw [List.mem_singleton.mp new]
      exact turn.above
  reached := by
    intro other member place there less
    rcases List.mem_append.mp member with older | new
    · obtain ⟨earlier, polled, same⟩ := gathered.reached other older place there less
      exact ⟨earlier, List.mem_append_left _ polled, same⟩
    · rw [List.mem_singleton.mp new] at there less ⊢
      obtain ⟨earlier, polled, same⟩ := turn.reached place there less
      exact ⟨earlier, List.mem_append_left _ polled, same⟩

/-! ## The offsets of a block -/

/-- The entries of `next`: sorted by partition, one for each partition of the messages. -/
structure Next (messages : List KafkaMessageV1) (next : List KafkaOffsetV1) : Prop where
  sorted : next.Pairwise fun first second => first.partition < second.partition
  last : ∀ offset ∈ next, After messages offset
  complete : ∀ message ∈ messages, ∃ offset ∈ next, offset.partition = message.partition

theorem Next.empty : Next [] [] where
  sorted := .nil
  last := fun _ wrong => nomatch wrong
  complete := fun _ wrong => nomatch wrong

variable {next : List KafkaOffsetV1} {partition value : Int}

/-- What an entry is after a raise: one of another partition, or the one that is raised. -/
theorem mem_raiseNext
    (sorted : next.Pairwise fun first second => first.partition < second.partition)
    {offset : KafkaOffsetV1} (member : offset ∈ raiseNext next partition value) :
    (offset ∈ next ∧ offset.partition ≠ partition) ∨ offset.partition = partition ∧
      ((∃ before ∈ next, before.partition = partition ∧
          offset.nextOffset = max before.nextOffset value) ∨
        (∀ before ∈ next, before.partition ≠ partition) ∧ offset.nextOffset = max 0 value) := by
  induction next with
  | nil =>
      rw [List.mem_singleton.mp member]
      exact .inr ⟨rfl, .inr ⟨fun _ wrong => (List.not_mem_nil wrong).elim, rfl⟩⟩
  | cons first rest ih =>
      obtain ⟨below, sorted⟩ := List.pairwise_cons.mp sorted
      unfold raiseNext at member
      split at member
      next here =>
        rcases List.mem_cons.mp member with rfl | later
        · exact .inr ⟨rfl, .inl ⟨first, List.mem_cons_self, here, rfl⟩⟩
        · have apart := below offset later
          exact .inl ⟨List.mem_cons_of_mem _ later, by omega⟩
      next other =>
      split at member
      next before =>
        have larger : ∀ entry ∈ first :: rest, partition < entry.partition := by
          intro entry inside
          rcases List.mem_cons.mp inside with rfl | later
          · exact before
          · exact Int.lt_trans before (below entry later)
        rcases List.mem_cons.mp member with rfl | inside
        · exact .inr ⟨rfl, .inr ⟨fun entry inside => Int.ne_of_gt (larger entry inside), rfl⟩⟩
        · exact .inl ⟨inside, Int.ne_of_gt (larger offset inside)⟩
      next =>
        rcases List.mem_cons.mp member with rfl | later
        · exact .inl ⟨List.mem_cons_self, other⟩
        rcases ih sorted later with ⟨inside, apart⟩ | ⟨same, ⟨entry, inside, raised⟩ | ⟨none_, new⟩⟩
        · exact .inl ⟨List.mem_cons_of_mem _ inside, apart⟩
        · exact .inr ⟨same, .inl ⟨entry, List.mem_cons_of_mem _ inside, raised⟩⟩
        · refine .inr ⟨same, .inr ⟨fun entry inside => ?_, new⟩⟩
          rcases List.mem_cons.mp inside with rfl | later
          · exact other
          · exact none_ entry later

theorem raiseNext_sorted
    (sorted : next.Pairwise fun first second => first.partition < second.partition) :
    (raiseNext next partition value).Pairwise fun first second =>
      first.partition < second.partition := by
  induction next with
  | nil => exact List.pairwise_singleton _ _
  | cons first rest ih =>
      obtain ⟨below, sorted'⟩ := List.pairwise_cons.mp sorted
      unfold raiseNext
      split
      next here =>
        refine List.pairwise_cons.mpr ⟨fun entry inside => ?_, sorted'⟩
        exact here ▸ below entry inside
      split
      next before =>
        refine List.pairwise_cons.mpr ⟨fun entry inside => ?_, sorted⟩
        rcases List.mem_cons.mp inside with rfl | later
        · exact before
        · exact Int.lt_trans before (below entry later)
      next other before =>
        refine List.pairwise_cons.mpr ⟨fun entry inside => ?_, ih sorted'⟩
        rcases mem_raiseNext sorted' inside with ⟨there, _⟩ | ⟨same, _⟩
        · exact below entry there
        · omega

/-- No partition is lost by a raise. -/
theorem raiseNext_complete (next : List KafkaOffsetV1) (partition value : Int) :
    (∃ offset ∈ raiseNext next partition value, offset.partition = partition) ∧
      ∀ before ∈ next, ∃ offset ∈ raiseNext next partition value,
        offset.partition = before.partition := by
  induction next with
  | nil => exact ⟨⟨_, List.mem_singleton.mpr rfl, rfl⟩, fun _ wrong => nomatch wrong⟩
  | cons first rest ih =>
      obtain ⟨⟨raised, there, own⟩, others⟩ := ih
      unfold raiseNext
      split
      next here =>
        refine ⟨⟨_, List.mem_cons_self, rfl⟩, fun before inside => ?_⟩
        rcases List.mem_cons.mp inside with rfl | later
        · exact ⟨_, List.mem_cons_self, here.symm⟩
        · exact ⟨before, List.mem_cons_of_mem _ later, rfl⟩
      split
      · exact ⟨⟨_, List.mem_cons_self, rfl⟩, fun before inside =>
          ⟨before, List.mem_cons_of_mem _ inside, rfl⟩⟩
      · refine ⟨⟨raised, List.mem_cons_of_mem _ there, own⟩, fun before inside => ?_⟩
        rcases List.mem_cons.mp inside with rfl | later
        · exact ⟨before, List.mem_cons_self, rfl⟩
        · obtain ⟨offset, there, same⟩ := others before later
          exact ⟨offset, List.mem_cons_of_mem _ there, same⟩

/-- One more message raises the entry of its partition. -/
theorem Next.push (entries : Next messages next) (message : KafkaMessageV1)
    (nonneg : 0 ≤ message.offset) :
    Next (messages ++ [message]) (raiseNext next message.partition (message.offset + 1)) where
  sorted := raiseNext_sorted entries.sorted
  last := by
    intro offset member
    have all : ∀ {bound : Int}, (∀ other ∈ messages, other.partition = offset.partition →
        other.offset ≤ bound) → (message.partition = offset.partition → message.offset ≤ bound) →
        ∀ other ∈ messages ++ [message], other.partition = offset.partition →
          other.offset ≤ bound := by
      intro bound older new other inside
      rcases List.mem_append.mp inside with there | here
      · exact older other there
      · rw [List.mem_singleton.mp here]
        exact new
    have self : message ∈ messages ++ [message] :=
      List.mem_append_right _ (List.mem_singleton.mpr rfl)
    rcases mem_raiseNext entries.sorted member with
      ⟨there, apart⟩ | ⟨same, ⟨before, there, own, raised⟩ | ⟨none_, new⟩⟩
    · obtain ⟨latest, inside, partition, is, greatest⟩ := entries.last offset there
      exact ⟨latest, List.mem_append_left _ inside, partition, is,
        all greatest fun wrong => absurd wrong.symm apart⟩
    · obtain ⟨latest, inside, partition, is, greatest⟩ := entries.last before there
      rw [own, ← same] at partition greatest
      by_cases later : latest.offset ≤ message.offset
      · refine ⟨message, self, same.symm, by omega, all (fun other there same => ?_) fun _ =>
          Int.le_refl _⟩
        exact Int.le_trans (greatest other there same) later
      · exact ⟨latest, List.mem_append_left _ inside, partition, by omega,
          all greatest fun _ => by omega⟩
    · refine ⟨message, self, same.symm, by omega, all (fun other there wrong => ?_) fun _ =>
        Int.le_refl _⟩
      obtain ⟨before, listed, own⟩ := entries.complete other there
      exact absurd (own.trans (wrong.trans same)) (none_ before listed)
  complete := by
    obtain ⟨own, others⟩ := raiseNext_complete next message.partition (message.offset + 1)
    intro other member
    rcases List.mem_append.mp member with older | new
    · obtain ⟨before, listed, same⟩ := entries.complete other older
      obtain ⟨offset, there, kept⟩ := others before listed
      exact ⟨offset, there, kept.trans same⟩
    · rw [List.mem_singleton.mp new]
      exact own

end Flowsql.Kafka
