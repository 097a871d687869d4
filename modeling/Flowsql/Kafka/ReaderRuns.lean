import Flowsql.Kafka.CommitOrder

/-!
# Runs of the readers keep the rules

Polls, acknowledgements and releases of either reader, the execution of an operator over what they
have in common, and all executions over one reader.
-/

namespace Flowsql.Kafka

open Flowsql.Library Flowsql.Library.Contract

variable {log : Int → Int → Prop} {lenient : Bool} {ledger : ReadLedger} {view : ReaderView}
  {block : Block} {messages : List KafkaMessageV1} {next : List KafkaOffsetV1}

/-! ## Polls -/

/-- After a poll: a block is out, or none. -/
def Polled {σ : Type} (log : Int → Int → Prop) (view : σ → ReaderView) :
    PollEvent × σ → ReadLedger → Prop
  | (.data block, reader), last => Holding log (view reader) block last ∧ last.outstanding = none
  | (_, reader), last => Idle (view reader) last

/-- What the ledger keeps while messages are collected. -/
structure Same (before after : ReadLedger) : Prop where
  acknowledged : after.acknowledged = before.acknowledged
  outstanding : after.outstanding = before.outstanding
  halted : after.halted = before.halted

/-- What has been collected, up to now or at the end. -/
def Collects (log : Int → Int → Prop) (result : Collected) (last : ReadLedger) : Prop :=
  match result with
  | .done messages next => Gathered log messages last ∧ Next messages next
  | .cancelled => last.gone = true
  | .failed _ => True

variable {taken : Gathering}

theorem takeMessage_meets (timeoutMs : Int) (gathered : Gathered log taken.messages ledger)
    (entries : Next taken.messages taken.next) :
    (rules lenient log).Meets (fun result last => Same ledger last ∧ match result with
      | .inl after => Gathered log after.messages last ∧ Next after.messages after.next
      | .inr ended => Collects log ended last) ledger (takeMessage timeoutMs taken) := by
  refine meets_call trivial fun answer honest => ?_
  cases answer with
  | error rc =>
      refine ⟨⟨rfl, rfl, rfl⟩, ?_⟩
      by_cases again : rc = EAGAIN
      · rw [if_pos again]
        refine ⟨⟨gathered.going, gathered.rest.imp_left fun empty => ⟨?_, empty.2⟩,
          gathered.polled, gathered.above, gathered.reached⟩, entries⟩
        change (ledger.gone || decide (rc = ECANCELED)) = true
        rw [empty.1, Bool.true_or]
      · rw [if_neg again]
        by_cases cancelled : rc = ECANCELED
        · rw [if_pos cancelled]
          change (ledger.gone || decide (rc = ECANCELED)) = true
          rw [decide_eq_true cancelled, Bool.or_true]
        · rw [if_neg cancelled]
          trivial
  | ok message =>
      dsimp only
      by_cases invalid : message.offset < 0 ∨ message.offset = INT64_MAX ∨ message.partition < 0
      · rw [if_pos invalid]
        exact ⟨⟨rfl, rfl, rfl⟩, trivial⟩
      · rw [if_neg invalid]
        exact ⟨⟨rfl, rfl, rfl⟩, gathered.push (honest message rfl),
          entries.push message (by omega)⟩

theorem Same.trans {first middle last : ReadLedger} (one : Same first middle)
    (two : Same middle last) : Same first last :=
  ⟨two.acknowledged.trans one.acknowledged, two.outstanding.trans one.outstanding,
    two.halted.trans one.halted⟩

theorem collect_meets (timeoutMs : Int) (room : Nat)
    (gathered : Gathered log taken.messages ledger) (entries : Next taken.messages taken.next) :
    (rules lenient log).Meets (fun result last => Same ledger last ∧ Collects log result last)
      ledger (collect timeoutMs room taken) := by
  induction room generalizing taken ledger with
  | zero =>
      refine (takeMessage_meets timeoutMs gathered entries).bind fun result last after => ?_
      cases result with
      | inl taken => exact after
      | inr ended => exact after
  | succ room ih =>
      refine (takeMessage_meets timeoutMs gathered entries).bind fun result last after => ?_
      obtain ⟨same, after⟩ := after
      cases result with
      | inl taken =>
          dsimp only
          split
          · exact (ih after.1 after.2).mono fun result last ends => ⟨same.trans ends.1, ends.2⟩
          · exact ⟨same, after⟩
      | inr ended => exact ⟨same, after⟩

/-- A poll that gives no block, and leaves the reader as it is or ends it. -/
theorem Idle.still (idle : Idle view ledger) {last : ReadLedger} (same : Same ledger last)
    {terminal : Option Int} (alive : terminal = none → last.halted = false ∧
      (last.gone = true ∨ ∀ message ∈ last.polled, message ∈ last.processed)) :
    Idle { view with terminal := terminal } last where
  free := idle.free
  quiet := same.outstanding.trans idle.quiet
  known := by
    rw [same.acknowledged]
    exact idle.known
  alive := alive

theorem Idle.older (idle : Idle view ledger) {last : ReadLedger} (same : Same ledger last) :
    ∀ id ∈ last.acknowledged, id < view.blocks := by
  rw [same.acknowledged]
  exact idle.known

/-- Nothing has been gathered. -/
theorem Idle.gathered (idle : Idle view ledger) (running : view.terminal = none) :
    Gathered log [] ledger := by
  obtain ⟨halted, alive⟩ := idle.alive running
  refine ⟨halted, ?_, (fun _ wrong => nomatch wrong), (fun _ wrong => nomatch wrong),
    (fun _ wrong => nomatch wrong)⟩
  exact alive.imp (⟨·, rfl⟩) fun all message member => .inl (all message member)

/-- A block of the messages that have been gathered. -/
theorem Gathered.holding (gathered : Gathered log block.messages ledger)
    (some_ : block.messages ≠ []) (held : view.outstanding = some block.id)
    (unsettled : view.acknowledged = false) (running : view.terminal = none)
    (mine : block.id < view.blocks) (known : ∀ id ∈ ledger.acknowledged, id < block.id)
    (offsets : ∀ offset ∈ view.offsets, After block.messages offset) :
    Holding log view block ledger := by
  refine ⟨gathered, ?_, held, unsettled, running, mine, known, offsets⟩
  exact gathered.rest.resolve_left fun empty => some_ empty.2

/-- Nothing is left over when no message was taken. -/
theorem Gathered.alive (gathered : Gathered log [] ledger) : ledger.halted = false ∧
    (ledger.gone = true ∨ ∀ message ∈ ledger.polled, message ∈ ledger.processed) := by
  refine ⟨gathered.going, gathered.rest.imp And.left fun rest message member => ?_⟩
  exact (rest message member).resolve_right List.not_mem_nil

/-- A poll of the structured reader. -/
theorem StructuredReader.pollBlock_meets {reader : StructuredReader}
    (idle : Idle reader.view ledger) (timeoutMs : Int) :
    (rules lenient log).Meets (Polled log StructuredReader.view) ledger
      (reader.pollBlock timeoutMs) := by
  have ended : ∀ rc last, Same ledger last →
      Polled log StructuredReader.view (reader.error rc) last := fun rc last same =>
    idle.still same fun wrong => nomatch wrong
  refine meets_call trivial fun cancelled _ => ?_
  cases cancelled with
  | true => exact idle
  | false =>
      cases terminal : reader.terminal with
      | some rc => exact idle
      | none =>
          rw [if_neg Bool.false_ne_true]
          dsimp only
          split
          · exact ended EINVAL ledger ⟨rfl, rfl, rfl⟩
          split
          · exact idle
          refine (collect_meets timeoutMs _ (idle.gathered terminal) .empty).bind
            fun result last after => ?_
          obtain ⟨same, collects⟩ := after
          cases result with
          | cancelled =>
              have going := (idle.alive terminal).1
              exact idle.still same fun _ => ⟨same.halted.trans going, .inl collects⟩
          | failed rc => exact ended rc last same
          | done messages next =>
              obtain ⟨gathered, entries⟩ := collects
              dsimp only
              split
              next empty =>
                rw [empty] at gathered
                exact idle.still same fun _ => gathered.alive
              next some_ =>
                refine meets_call trivial fun decoded _ => ?_
                cases decoded with
                | false => exact ended EILSEQ last same
                | true =>
                    exact ⟨gathered.holding some_ rfl rfl rfl (Nat.lt_succ_self _) (idle.older same)
                      entries.last, same.outstanding.trans idle.quiet⟩

/-- The envelope of a message that is in its place. -/
theorem PacketReader.decode_meets {reader : PacketReader} (idle : Idle reader.view ledger)
    (terminal : reader.terminal = none) {message : KafkaMessageV1} {later : ReadLedger}
    (gathered : Gathered log [message] later) (expected : reader.misplaced message = false)
    (same : Same ledger later) :
    (rules lenient log).Meets (Polled log PacketReader.view) later (reader.decode message) := by
  have ended : ∀ rc, Polled log PacketReader.view (reader.error rc) later := fun rc =>
    idle.still same fun wrong => nomatch wrong
  refine meets_call trivial fun envelope _ => ?_
  cases envelope with
  | none => exact ended EILSEQ
  | some envelope =>
      dsimp only
      split
      · exact ended ESTALE
      split
      · exact ended EPROTO
      next sequence _ =>
        split
        · exact ended EPROTO
        refine meets_call trivial fun encoded _ => ?_
        cases encoded with
        | false => exact ended EILSEQ
        | true =>
            have partition : message.partition = 0 := by
              simp only [misplaced, Bool.or_eq_false_iff, decide_eq_false_iff_not,
                not_not] at expected
              exact expected.1.1.1.2
            refine ⟨gathered.holding (List.cons_ne_nil _ _) rfl rfl terminal
              (Nat.lt_succ_self _) (idle.older same) ?_, same.outstanding.trans idle.quiet⟩
            intro offset member
            rw [List.mem_singleton.mp member]
            refine ⟨message, List.mem_singleton.mpr rfl, partition, rfl, fun other there _ => ?_⟩
            exact Int.le_of_eq (congrArg _ (List.mem_singleton.mp there))

/-- A poll of the packet reader. -/
theorem PacketReader.pollCapture_meets {reader : PacketReader}
    (idle : Idle reader.view ledger) (timeoutMs : Int) :
    (rules lenient log).Meets (Polled log PacketReader.view) ledger
      (reader.pollCapture timeoutMs) := by
  have ended : ∀ rc last, Same ledger last →
      Polled log PacketReader.view (reader.error rc) last := fun rc last same =>
    idle.still same fun wrong => nomatch wrong
  refine meets_call trivial fun cancelled _ => ?_
  cases cancelled with
  | true => exact idle
  | false =>
      cases terminal : reader.terminal with
      | some rc => exact idle
      | none =>
          rw [if_neg Bool.false_ne_true]
          dsimp only
          split
          · exact ended EINVAL ledger ⟨rfl, rfl, rfl⟩
          split
          · exact idle
          refine meets_call trivial fun answer honest => ?_
          cases answer with
          | error rc =>
              have same : Same ledger { ledger with
                  gone := ledger.gone || decide (rc = ECANCELED) } := ⟨rfl, rfl, rfl⟩
              have still : Polled log PacketReader.view (.timeout, reader) { ledger with
                  gone := ledger.gone || decide (rc = ECANCELED) } := by
                refine idle.still same fun _ => ?_
                obtain ⟨halted, alive⟩ := idle.alive terminal
                refine ⟨halted, alive.imp_left fun gone => ?_⟩
                rw [gone, Bool.true_or]
              dsimp only
              split
              · exact still
              split
              · exact still
              · exact ended rc _ same
          | ok message =>
              have gathered := (idle.gathered terminal).push (honest message rfl)
              have same : Same ledger { ledger with polled := ledger.polled ++ [message] } :=
                ⟨rfl, rfl, rfl⟩
              dsimp only
              split
              · exact ended EPROTO _ same
              next expected =>
                refine PacketReader.decode_meets idle terminal gathered ?_ same
                exact Bool.not_eq_true _ ▸ expected

/-! ## Acknowledgements and releases -/

/-- The operator is done with the block that is out. -/
structure Handled (log : Int → Int → Prop) (view : ReaderView) (block : Block)
    (ledger : ReadLedger) : Prop where
  holding : Holding log view block ledger
  out : ledger.outstanding = some block
  handled : ledger.handled = some block.id
  all : ∀ message ∈ ledger.polled, message ∈ ledger.processed

/-- After an acknowledgement, successful or not. -/
structure Answered (block : Block) (rc : Int) (view : ReaderView) (ledger : ReadLedger) :
    Prop where
  out : ledger.outstanding = some block
  handled : ledger.handled = some block.id
  all : ∀ message ∈ ledger.polled, message ∈ ledger.processed
  held : view.outstanding = some block.id
  mine : block.id < view.blocks
  known : ∀ id ∈ ledger.acknowledged, id < block.id
  good : rc = 0 → view.acknowledged = true ∧ view.terminal = none ∧ ledger.halted = false
  bad : rc ≠ 0 → view.acknowledged = false

theorem Holding.unacknowledged (holding : Holding log view block ledger) :
    block.id ∉ ledger.acknowledged := fun inside =>
  Nat.lt_irrefl _ (holding.known _ inside)

/-- Nothing was asked of the session. -/
theorem Handled.answered (handled : Handled log view block ledger) {rc : Int} {acknowledged : Bool}
    {terminal : Option Int} (good : rc = 0 → acknowledged = true ∧ terminal = none)
    (bad : rc ≠ 0 → acknowledged = false) :
    Answered block rc { view with acknowledged := acknowledged, terminal := terminal } ledger where
  out := handled.out
  handled := handled.handled
  all := handled.all
  held := handled.holding.held
  mine := handled.holding.mine
  known := handled.holding.known
  good := fun fine => ⟨(good fine).1, (good fine).2, handled.holding.gathered.going⟩
  bad := bad

/-- The commit of a block that has been processed is justified. -/
theorem Handled.justified (handled : Handled log view block ledger) {offset : KafkaOffsetV1}
    (member : offset ∈ view.offsets) : ledger.Justified log block offset := by
  obtain ⟨latest, inside, partition, next, greatest⟩ := handled.holding.offsets offset member
  have gathered := handled.holding.gathered
  have polled := gathered.polled latest inside
  refine ⟨fun message polled _ => handled.all message polled,
    ⟨latest, inside, partition, next, greatest⟩, fun before there same => ?_,
    fun place there less => ?_⟩
  · have above := gathered.above latest inside before there (same.trans partition.symm)
    omega
  · rcases Int.lt_or_eq_of_le (Int.le_of_lt_add_one (next ▸ less)) with earlier | here
    · rw [← partition] at there
      obtain ⟨message, was, same, at_⟩ := gathered.reached latest inside place there earlier
      exact ⟨message, handled.all message was, same.trans partition, at_⟩
    · exact ⟨latest, handled.all latest polled, partition, here.symm⟩

/-- A commit of these offsets, with its answer. -/
theorem Handled.commit (handled : Handled log view block ledger) (rc : Int)
    {acknowledged : Bool} {terminal : Option Int}
    (good : rc = 0 → acknowledged = true ∧ terminal = none) (bad : rc ≠ 0 → acknowledged = false) :
    Answered block rc { view with acknowledged := acknowledged, terminal := terminal } { ledger with
      committed := ledger.committed ++ view.offsets
      halted := ledger.halted || decide (rc ≠ 0) } where
  out := handled.out
  handled := handled.handled
  all := handled.all
  held := handled.holding.held
  mine := handled.holding.mine
  known := handled.holding.known
  good := by
    intro fine
    refine ⟨(good fine).1, (good fine).2, ?_⟩
    dsimp only
    rw [handled.holding.gathered.going, fine]
    rfl
  bad := bad

theorem Handled.allowed (handled : Handled log view block ledger) :
    (rules lenient log).allowed ledger (.commitOffsets view.offsets) :=
  ⟨handled.holding.gathered.going, block, handled.out, handled.handled,
    handled.holding.unacknowledged, fun _ member => handled.justified member⟩

theorem StructuredReader.acknowledgeBlock_meets {reader : StructuredReader}
    (handled : Handled log reader.view block ledger) :
    (rules lenient log).Meets (fun result last => Answered block result.1 result.2.view last)
      ledger (reader.acknowledgeBlock block) := by
  have terminal : reader.terminal = none := handled.holding.running
  have held : reader.outstanding = some block.id := handled.holding.held
  have unsettled : reader.acknowledged = false := handled.holding.unsettled
  refine meets_call trivial fun cancelled _ => ?_
  cases cancelled with
  | true => exact handled.answered (fun wrong => nomatch wrong) fun _ => unsettled
  | false =>
      rw [if_neg Bool.false_ne_true, if_neg (by rw [held, unsettled]; simp)]
      cases commits : reader.commits with
      | false =>
          exact handled.answered (fun _ => ⟨rfl, terminal⟩) fun wrong => absurd rfl wrong
      | true =>
          refine ⟨handled.allowed, fun rc _ => ?_⟩
          change (rules lenient log).Meets _ _ (if rc ≠ 0 then _ else _)
          rcases eq_or_ne rc 0 with rfl | fails
          · exact handled.commit 0 (fun _ => ⟨rfl, terminal⟩) fun wrong => absurd rfl wrong
          · rw [if_pos fails]
            exact handled.commit rc (fun wrong => absurd wrong fails) fun _ => unsettled

theorem PacketReader.acknowledgeBlock_meets {reader : PacketReader}
    (handled : Handled log reader.view block ledger) :
    (rules lenient log).Meets (fun result last => Answered block result.1 result.2.view last)
      ledger (reader.acknowledgeBlock block) := by
  have terminal : reader.terminal = none := handled.holding.running
  have held : reader.outstanding = some block.id := handled.holding.held
  have unsettled : reader.acknowledged = false := handled.holding.unsettled
  refine meets_call trivial fun cancelled _ => ?_
  cases cancelled with
  | true => exact handled.answered (fun wrong => nomatch wrong) fun _ => unsettled
  | false =>
      rw [if_neg Bool.false_ne_true, terminal]
      dsimp only
      rw [if_neg (by rw [held, unsettled]; simp)]
      cases commits : reader.commits with
      | false =>
          exact handled.answered (fun _ => ⟨rfl, rfl⟩) fun wrong => absurd rfl wrong
      | true =>
          refine ⟨handled.allowed, fun rc _ => ?_⟩
          change (rules lenient log).Meets _ _ (if rc ≠ 0 then _ else _)
          rcases eq_or_ne rc 0 with rfl | fails
          · exact handled.commit 0 (fun _ => ⟨rfl, rfl⟩) fun wrong => absurd rfl wrong
          · rw [if_pos fails]
            exact handled.commit rc (fun wrong => absurd wrong fails) fun _ => unsettled

/-- The reader lets go of the block that is out, and ends unless it was acknowledged. -/
structure Releases (block : Block) (before : ReaderView) (rc : Int) (after : ReaderView) :
    Prop where
  rc_eq : rc = 0
  free : after.outstanding = none
  blocks : after.blocks = before.blocks
  unacknowledged : before.acknowledged = false → after.terminal ≠ none
  acknowledged : before.acknowledged = true → after.terminal = before.terminal

theorem StructuredReader.releaseBlock_releases {reader : StructuredReader}
    (held : reader.outstanding = some block.id) :
    Releases block reader.view (reader.releaseBlock block).1 (reader.releaseBlock block).2.view := by
  unfold releaseBlock
  rw [if_neg (not_not.mpr held)]
  refine ⟨rfl, rfl, rfl, fun not_ => ?_, fun acknowledged => ?_⟩
  · change (if reader.acknowledged then reader.terminal else some ECANCELED) ≠ none
    rw [show reader.acknowledged = false from not_]
    exact Option.some_ne_none _
  · change (if reader.acknowledged then reader.terminal else some ECANCELED) = reader.terminal
    rw [show reader.acknowledged = true from acknowledged]
    rfl

theorem PacketReader.releaseBlock_releases {reader : PacketReader}
    (held : reader.outstanding = some block.id) :
    Releases block reader.view (reader.releaseBlock block).1 (reader.releaseBlock block).2.view := by
  unfold releaseBlock
  rw [if_neg (not_not.mpr held)]
  refine ⟨rfl, rfl, rfl, fun not_ => ?_, fun acknowledged => ?_⟩
  · change (if !reader.acknowledged && reader.terminal.isNone then some ECANCELED
      else reader.terminal) ≠ none
    rw [show reader.acknowledged = false from not_]
    cases reader.terminal <;> exact Option.some_ne_none _
  · change (if !reader.acknowledged && reader.terminal.isNone then some ECANCELED
      else reader.terminal) = reader.terminal
    rw [show reader.acknowledged = true from acknowledged]
    rfl

/-! ## The execution -/

/-- A reader whose operations keep the rules. -/
structure Orderly (log : Int → Int → Prop) (lenient : Bool) {σ : Type} (ops : BlockReader σ)
    (view : σ → ReaderView) : Prop where
  poll : ∀ {reader ledger}, Idle (view reader) ledger → ∀ timeoutMs,
    (rules lenient log).Meets (Polled log view) ledger (ops.pollBlock reader timeoutMs)
  acknowledge : ∀ {reader block ledger}, Handled log (view reader) block ledger →
    (rules lenient log).Meets (fun result last => Answered block result.1 (view result.2) last)
      ledger (ops.acknowledgeBlock reader block)
  release : ∀ {reader} {block : Block}, (view reader).outstanding = some block.id →
    Releases block (view reader) (ops.releaseBlock reader block).1
      (view (ops.releaseBlock reader block).2)

theorem structuredReader_orderly :
    Orderly log lenient structuredReader StructuredReader.view where
  poll := fun idle => StructuredReader.pollBlock_meets idle
  acknowledge := fun handled => StructuredReader.acknowledgeBlock_meets handled
  release := fun held => StructuredReader.releaseBlock_releases held

theorem packetReader_orderly : Orderly log lenient packetReader PacketReader.view where
  poll := fun idle => PacketReader.pollCapture_meets idle
  acknowledge := fun handled => PacketReader.acknowledgeBlock_meets handled
  release := fun held => PacketReader.releaseBlock_releases held

variable {σ : Type} {ops : BlockReader σ} {look : σ → ReaderView} {reader : σ}

/-- The block that is out is processed, or nothing has changed. -/
theorem readySchema_meets (schemaReady : Bool) (rows : Nat) :
    (rules lenient log).Meets (fun ready last => last = ledger ∧
      (ready.schemaFailed = false → ready.rc = 0)) ledger (readySchema schemaReady rows) := by
  unfold readySchema
  split
  · exact ⟨rfl, fun _ => rfl⟩
  refine meets_call trivial fun matching _ => ?_
  cases matching with
  | false => exact ⟨rfl, fun wrong => nomatch wrong⟩
  | true =>
      refine meets_call trivial fun answer _ => ?_
      cases answer with
      | error _ => exact ⟨rfl, fun wrong => nomatch wrong⟩
      | ok rc => exact ⟨rfl, fun fine => not_not.mp (of_decide_eq_false fine)⟩

/-- The outcome of an attempt at the block that is out. -/
def Attempts (block : Block) (ledger : ReadLedger) (attempted : Attempted) (last : ReadLedger) :
    Prop :=
  last = ledger.handle block ∨
    last = ledger ∧ (attempted.schemaFailed = true ∨ attempted.rc ≠ 0 ∧ attempted.rc ≠ 1)

theorem attemptBlock_meets (config : ExecutorConfig) (schemaReady : Bool) :
    (rules true log).Meets (Attempts block ledger) ledger
      (attemptBlock config schemaReady block) := by
  have failed : ∀ ready : Attempted, ∀ rc : Int, rc ≠ 0 ∧ rc ≠ 1 →
      Attempts block ledger { ready with rc := rc } ledger := fun ready rc fails =>
    .inr ⟨rfl, .inr fails⟩
  have processed : ∀ (ready : Attempted) (next : Except Unit Int → Reading Attempted),
      next (.error ()) = pure { ready with rc := EFAULT } →
      (∀ rc, next (.ok rc) = pure { ready with rc := rc }) →
      (rules true log).Meets (Attempts block ledger) ledger
        (inquire (.processBlock block) >>= next) := by
    intro ready next onError onOk
    refine meets_call trivial fun answer _ => ?_
    cases answer with
    | error _ =>
        rw [onError]
        exact failed ready EFAULT (by decide)
    | ok rc =>
        rw [onOk]
        change Attempts block ledger { ready with rc := rc }
          (if (rc = 0 || rc = 1 : Bool) = true then ledger.handle block else ledger)
        split
        · exact .inl rfl
        next fails =>
          rw [Bool.or_eq_true, decide_eq_true_eq, decide_eq_true_eq, not_or] at fails
          exact failed ready rc fails
  refine (readySchema_meets schemaReady block.rows).bind fun ready last after => ?_
  obtain ⟨rfl, fine⟩ := after
  split
  next fails =>
    refine .inr ⟨rfl, ?_⟩
    cases schema : ready.schemaFailed with
    | true => exact .inl rfl
    | false => exact absurd (fine schema) fails
  next good =>
    split
    · refine meets_call trivial fun answer _ => ?_
      cases answer with
      | error _ => exact failed ready EFAULT (by decide)
      | ok left =>
          cases left with
          | none => exact failed ready EINVAL (by decide)
          | some rows =>
              have kept : 0 < rows → (rules true log).record last (.filter block)
                  (.ok (some rows)) = last := by
                intro some_
                change (if (true && decide (rows = 0)) = true then _ else _) = _
                rw [decide_eq_false (Nat.ne_of_gt some_)]
                rfl
              dsimp only
              split
              next some_ =>
                rw [kept some_]
                exact processed { ready with rows := rows } _ rfl fun _ => rfl
              next nothing =>
                have zero : rows = 0 := by omega
                subst zero
                exact .inl rfl
    · exact processed ready _ rfl fun _ => rfl

/-- After a round no block is out, whatever it leads to. -/
def Rounds {σ : Type} (look : σ → ReaderView) :
    Executing σ ⊕ RoundEnd σ → ReadLedger → Prop
  | .inl executing, last => Idle (look executing.reader) last
  | .inr (.return_ executed), last => Idle (look executed.reader) last
  | .inr (.leave executing), last => Idle (look executing.reader) last

theorem finishBlock_meets (orderly : Orderly log lenient ops look) (executing : Executing σ)
    (attempted : Attempted) (rc : Int) (failed : Bool) (out : ledger.outstanding = some block)
    (held : (look reader).outstanding = some block.id) (mine : block.id < (look reader).blocks)
    (known : ∀ id ∈ ledger.acknowledged, id ≤ block.id)
    (settled : (look reader).acknowledged = true → (look reader).terminal = none →
      ledger.halted = false ∧ ledger.succeeded = true ∧
        ∀ message ∈ ledger.polled, message ∈ ledger.processed) :
    (rules lenient log).Meets (Rounds look) ledger
      (finishBlock ops executing block attempted rc failed reader) := by
  have releases := orderly.release held
  unfold finishBlock
  generalize ops.releaseBlock reader block = released at releases ⊢
  obtain ⟨releaseRc, after⟩ := released
  have idle : Idle (look after) { ledger with
      outstanding := none, halted := ledger.halted || !ledger.succeeded } := by
    refine ⟨releases.free, rfl, fun id member => ?_, fun running => ?_⟩
    · rw [releases.blocks]
      exact Nat.lt_of_le_of_lt (known id member) mine
    · cases acknowledged : (look reader).acknowledged with
      | false => exact absurd running (releases.unacknowledged acknowledged)
      | true =>
          have same := releases.acknowledged acknowledged
          obtain ⟨halted, succeeded, all⟩ := settled acknowledged (same ▸ running)
          refine ⟨?_, .inr all⟩
          dsimp only
          rw [halted, succeeded]
          rfl
  refine ⟨out, fun _ _ => ?_⟩
  dsimp only
  split
  · exact idle
  split
  · exact idle
  split
  · exact idle
  split
  · exact idle
  · exact idle

theorem settleBlock_meets (orderly : Orderly log lenient ops look) (executing : Executing σ)
    {attempted : Attempted} {before : ReadLedger} (holding : Holding log (look reader) block before)
    (out : before.outstanding = some block) (attempts : Attempts block before attempted ledger) :
    (rules lenient log).Meets (Rounds look) ledger
      (settleBlock ops executing block attempted reader) := by
  unfold settleBlock
  split
  next fine =>
    have handle : ledger = before.handle block := by
      refine attempts.resolve_right fun wrong => ?_
      rcases wrong.2 with schema | rc
      · rw [schema] at fine
        exact absurd fine.1 Bool.false_ne_true
      · exact fine.2.elim rc.1 rc.2
    subst handle
    have handled : Handled log (look reader) block (before.handle block) := by
      have gathered := holding.gathered
      refine ⟨⟨⟨gathered.going, gathered.rest.imp_right fun rest message member => ?_,
        gathered.polled, gathered.above, gathered.reached⟩, fun message member => ?_,
        holding.held, holding.unsettled, holding.running, holding.mine, holding.known,
        holding.offsets⟩, out, rfl, fun message member => ?_⟩
      · exact (rest message member).imp_left (List.mem_append_left _)
      · exact (holding.rest message member).imp_left (List.mem_append_left _)
      · exact List.mem_append.mpr (holding.rest message member)
    refine (orderly.acknowledge handled).bind fun result last answered => ?_
    obtain ⟨ackRc, after⟩ := result
    have unknown : block.id ∉ last.acknowledged := fun inside =>
      Nat.lt_irrefl _ (answered.known _ inside)
    refine ⟨⟨answered.out, answered.handled, unknown⟩, fun _ _ => ?_⟩
    have known : ∀ id ∈ block.id :: last.acknowledged, id ≤ block.id := by
      intro id member
      rcases List.mem_cons.mp member with rfl | older
      · exact Nat.le_refl _
      · exact Nat.le_of_lt (answered.known id older)
    have settled : (look after).acknowledged = true → (look after).terminal = none →
        last.halted = false ∧ decide (ackRc = 0) = true ∧
          ∀ message ∈ last.polled, message ∈ last.processed := by
      intro acknowledged _
      by_cases zero : ackRc = 0
      · exact ⟨(answered.good zero).2.2, decide_eq_true zero, answered.all⟩
      · have wrong := answered.bad zero
        rw [acknowledged] at wrong
        cases wrong
    dsimp only
    split
    · exact finishBlock_meets orderly executing attempted ackRc true answered.out answered.held
        answered.mine known settled
    · exact finishBlock_meets orderly executing attempted attempted.rc false answered.out
        answered.held answered.mine known settled
  next fails =>
    have same : ledger.outstanding = before.outstanding ∧
        ledger.acknowledged = before.acknowledged := by
      rcases attempts with rfl | ⟨rfl, _⟩
      · exact ⟨rfl, rfl⟩
      · exact ⟨rfl, rfl⟩
    refine finishBlock_meets orderly executing attempted attempted.rc false (same.1.trans out)
      holding.held holding.mine (fun id member => ?_) fun wrong => ?_
    · rw [same.2] at member
      exact Nat.le_of_lt (holding.known id member)
    · rw [holding.unsettled] at wrong
      cases wrong

theorem servePoll_meets (orderly : Orderly log true ops look) (config : ExecutorConfig)
    {executing : Executing σ} (idle : Idle (look executing.reader) ledger) :
    (rules true log).Meets (Rounds look) ledger (servePoll ops config executing) := by
  refine (orderly.poll idle 100).bind fun result last polled => ?_
  obtain ⟨event, reader⟩ := result
  cases event with
  | data block =>
      obtain ⟨holding, free⟩ := polled
      refine ⟨⟨holding.gathered.going, free⟩, fun _ _ => ?_⟩
      have holding : Holding log (look reader) block
          { last with outstanding := some block, succeeded := false } :=
        ⟨⟨holding.gathered.going, holding.gathered.rest, holding.gathered.polled,
          holding.gathered.above, holding.gathered.reached⟩, holding.rest, holding.held,
          holding.unsettled, holding.running, holding.mine, holding.known, holding.offsets⟩
      exact (attemptBlock_meets config executing.schemaReady).bind fun attempted last attempts =>
        settleBlock_meets orderly executing holding rfl attempts
  | timeout => exact polled
  | cancelled => exact polled
  | error rc => exact polled

/-- The flags change nothing. -/
theorem ExecutorConfig.cancelRequested_meets (config : ExecutorConfig) :
    (rules lenient log).Meets (fun _ last => last = ledger) ledger config.cancelRequested := by
  unfold cancelRequested
  split
  · exact ⟨trivial, fun _ _ => rfl⟩
  · rfl

theorem ExecutorConfig.stopRequested_meets (config : ExecutorConfig) :
    (rules lenient log).Meets (fun _ last => last = ledger) ledger config.stopRequested := by
  unfold stopRequested
  split
  · exact ⟨trivial, fun _ _ => rfl⟩
  · rfl

theorem ExecutorConfig.openFilter_meets (config : ExecutorConfig) :
    (rules lenient log).Meets (fun _ last => last = ledger) ledger config.openFilter := by
  unfold openFilter
  split
  · exact ⟨trivial, fun _ _ => rfl⟩
  · rfl

theorem executeRound_meets (orderly : Orderly log true ops look) (config : ExecutorConfig)
    {executing : Executing σ} (idle : Idle (look executing.reader) ledger) :
    (rules true log).Meets (Rounds look) ledger (executeRound ops config executing) := by
  refine config.cancelRequested_meets.bind fun cancel last same => ?_
  subst same
  split
  · exact idle
  refine config.stopRequested_meets.bind fun stop last same => ?_
  subst same
  split
  · exact idle
  · exact servePoll_meets orderly config idle

theorem executeBlockOperator_meets (orderly : Orderly log true ops look) (config : ExecutorConfig)
    (fuel : Nat) (idle : Idle (look reader) ledger) :
    (rules true log).Meets (fun result last => ∀ executed, result = some executed →
      Idle (look executed.reader) last) ledger
      (executeBlockOperator ops config reader fuel) := by
  refine config.openFilter_meets.bind fun opened last same => ?_
  subst same
  split
  · rintro executed ⟨⟩
    exact idle
  have looped : (rules true log).Meets (fun result last => ∀ ended, result = some ended →
      Rounds look (.inr ended) last) last
      (Program.loop (executeRound ops config) fuel { reader := reader }) := by
    refine meets_loop (fun executing last => Idle (look executing.reader) last)
      (fun executing last idle => ?_) fuel idle
    refine (executeRound_meets orderly config idle).mono fun next last ends => ?_
    cases next with
    | inl executing => exact ends
    | inr ended => exact ends
  refine looped.bind fun result last ends => ?_
  cases result with
  | none => exact fun executed wrong => nomatch wrong
  | some ended =>
      have idle := ends ended rfl
      cases ended with
      | return_ executed =>
          rintro executed ⟨⟩
          exact idle
      | leave executing =>
          refine meets_call trivial fun answer _ => ?_
          cases answer with
          | error _ =>
              rintro executed ⟨⟩
              exact idle
          | ok rc =>
              dsimp only
              split
              · rintro executed ⟨⟩
                exact idle
              · rintro executed ⟨⟩
                exact idle

theorem executeAll_meets (orderly : Orderly log true ops look) (fuel : Nat)
    (configs : List ExecutorConfig) (idle : Idle (look reader) ledger) :
    (rules true log).Meets (fun _ _ => True) ledger (executeAll ops fuel configs reader) := by
  induction configs generalizing reader ledger with
  | nil => exact trivial
  | cons config rest ih =>
      refine (executeBlockOperator_meets orderly config fuel idle).bind fun result last after => ?_
      cases result with
      | none => exact trivial
      | some executed => exact ih (after executed rfl)

/-- Up to any moment of any executions over one reader, the rules are kept. -/
theorem commits_after_processing (log : Int → Int → Prop) (fuel : Nat)
    (configs : List ExecutorConfig) (commits : Bool)
    {trace : List (Exchange ReaderQuery ReaderAnswer)}
    (honest : (rules true log).Honest {} trace) :
    (∀ (maxBatchRows : Nat) result, (executeAll structuredReader fuel configs
        { maxBatchRows := maxBatchRows, commits := commits }).Runs trace result →
      (rules true log).Lawful {} trace) ∧
    ∀ (topic : String) (maxWaitMs : Int) result, (executeAll packetReader fuel configs
        { topic := topic, maxWaitMs := maxWaitMs, commits := commits }).Runs trace result →
      (rules true log).Lawful {} trace := by
  have start : ∀ view : ReaderView, view.outstanding = none → Idle view {} := fun view free =>
    ⟨free, rfl, (fun _ wrong => nomatch wrong), fun _ => ⟨rfl, .inr fun _ wrong => nomatch wrong⟩⟩
  constructor
  · intro maxBatchRows result runs
    exact ((executeAll_meets structuredReader_orderly fuel configs (start _ rfl)).lawful runs
      honest).1
  · intro topic maxWaitMs result runs
    exact ((executeAll_meets packetReader_orderly fuel configs (start _ rfl)).lawful runs
      honest).1

def message5 : KafkaMessageV1 where
  topic := "events"
  partition := 0
  offset := 5

def block5 : Block where
  id := 0
  messages := [message5]
  rows := 1

theorem message5_inTurn (ledger : ReadLedger) (first : ledger.committed = [])
    (going : ledger.gone = false) : ledger.InTurn (fun _ place => place = 5) message5 where
  above := by
    rw [first]
    exact fun _ wrong => nomatch wrong
  reached := by
    rintro place rfl less
    exact absurd less (Int.lt_irrefl _)
  going := going

/-- The only message is processed, its offset is committed, and the reader is cancelled. -/
theorem commits_after_processing_once : ∃ trace,
    ((rules true fun _ place => place = 5).after {} trace).committed = [⟨0, 6⟩] ∧
      (rules true fun _ place => place = 5).Lawful {} trace := by
  refine ⟨_, ?_, (@commits_after_processing (fun _ place => place = 5) 2
    [{ hasControl := false }] true [⟨.cancelled, false⟩, ⟨.pollMessage 100, .ok message5⟩,
      ⟨.decodeStructured [message5], true⟩, ⟨.delivered block5, ()⟩, ⟨.schemaMatches, true⟩,
      ⟨.onSchemaReady, .ok 0⟩, ⟨.processBlock block5, .ok 0⟩, ⟨.cancelled, false⟩,
      ⟨.commitOffsets [⟨0, 6⟩], 0⟩, ⟨.acknowledged block5 0, ()⟩, ⟨.released block5 0, ()⟩,
      ⟨.cancelled, true⟩] ?_).1 1 _ (.ask (.ask (.ask (.ask (.ask (.ask (.ask (.ask (.ask (.ask
      (.ask (.ask (.done _)))))))))))))⟩
  · rfl
  · refine ⟨trivial, ?_, trivial, trivial, trivial, trivial, trivial, trivial, trivial, trivial,
      trivial, trivial, trivial⟩
    rintro message ⟨⟩
    exact message5_inTurn _ rfl rfl

/-- The filter leaves nothing of a block, and its offset is committed without the operator. -/
theorem filtered_block_is_committed : ∃ trace,
    (executeAll structuredReader 1 [{ hasControl := false, hasResidual := true }]
      { maxBatchRows := 1, commits := true }).Runs trace none ∧
    (rules false fun _ place => place = 5).Honest {} trace ∧
    ¬(rules false fun _ place => place = 5).Lawful {} trace := by
  refine ⟨[⟨.openFilter, true⟩, ⟨.cancelled, false⟩, ⟨.pollMessage 100, .ok message5⟩,
      ⟨.decodeStructured [message5], true⟩, ⟨.delivered block5, ()⟩, ⟨.schemaMatches, true⟩,
      ⟨.onSchemaReady, .ok 0⟩, ⟨.filter block5, .ok (some 0)⟩, ⟨.cancelled, false⟩,
      ⟨.commitOffsets [⟨0, 6⟩], 0⟩], ?_, ?_, ?_⟩
  · exact .ask (.ask (.ask (.ask (.ask (.ask (.ask (.ask (.ask (.ask (.pending _))))))))))
  · refine ⟨trivial, trivial, ?_, trivial, trivial, trivial, trivial, trivial, trivial, trivial,
      trivial⟩
    rintro message ⟨⟩
    exact message5_inTurn _ rfl rfl
  · rintro ⟨_, _, _, _, _, _, _, _, _, commit, _⟩
    obtain ⟨_, block, _, handled, _⟩ := commit
    cases handled

end Flowsql.Kafka
