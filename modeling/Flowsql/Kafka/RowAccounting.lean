import Flowsql.Kafka.DeliveryAccounting

/-!
# The rows of the result writer

Windows take the rows of a batch in order, with one message carried over to the next window. Each way
out of `Write` accounts for the rest of the batch.
-/

namespace Flowsql.Kafka

open Flowsql.Library Flowsql.Library.Contract

/-! ## Windows -/

/-- What the codec makes of the first rows of a batch. -/
def encoded (batch : Batch) (ordinal count : Nat) : List (Except String KafkaProduceMessageV1) :=
  (List.range count).map fun row => batch.row row (ordinal + row)

theorem encoded_succ (batch : Batch) (ordinal count : Nat) :
    encoded batch ordinal (count + 1) =
      encoded batch ordinal count ++ [batch.row count (ordinal + count)] := by
  unfold encoded
  rw [List.range_succ, List.map_append, List.map_singleton]

theorem encoded_length (batch : Batch) (ordinal count : Nat) :
    (encoded batch ordinal count).length = count := by
  unfold encoded
  rw [List.length_map, List.length_range]

variable {config : SinkConfig} {batch : Batch} {ordinal limit : Nat} {ledger : Ledger}
  {accounted : Nat} {window : Window}

/-- The window holds the rows after those that are accounted for, and the pending message the last
one that was taken. -/
structure Filled (batch : Batch) (ordinal accounted : Nat) (window : Window) : Prop where
  taken : encoded batch ordinal window.row = encoded batch ordinal accounted ++
    (window.messages ++ window.pending.toList).map .ok
  within : window.row ≤ batch.numRows

/-- The next message: the pending one, or that of the next row. -/
theorem Filled.next (filled : Filled batch ordinal accounted window)
    (more : window.row < batch.numRows ∨ window.pending.isSome = true)
    {message : KafkaProduceMessageV1}
    (found : window.pending.elim (batch.row window.row (ordinal + window.row)) .ok =
      .ok message) :
    encoded batch ordinal (if window.pending.isSome then window.row else window.row + 1) =
        encoded batch ordinal accounted ++ (window.messages ++ [message]).map .ok ∧
      (if window.pending.isSome then window.row else window.row + 1) ≤ batch.numRows := by
  have taken := filled.taken
  have within := filled.within
  cases pending : window.pending with
  | some held =>
      rw [pending] at found taken
      cases found
      exact ⟨taken, within⟩
  | none =>
      rw [pending] at found taken more
      rw [Option.elim_none] at found
      rw [Option.toList_none, List.append_nil] at taken
      constructor
      · change encoded batch ordinal (window.row + 1) = _
        rw [encoded_succ, found, taken, List.map_append, List.append_assoc]
        rfl
      · exact more.resolve_right (fun wrong => nomatch wrong)

/-- A window that has been filled further, with room for so many messages. -/
structure Further (batch : Batch) (ordinal accounted room : Nat) (window after : Window) :
    Prop where
  filled : Filled batch ordinal accounted after
  grown : window.messages <+: after.messages
  some_ : 0 < room → window.row < batch.numRows ∨ window.pending.isSome = true →
    after.messages ≠ []

/-- After one more message. -/
theorem Further.of_push {message : KafkaProduceMessageV1} {after : Window} (room : Nat)
    (filled : Filled batch ordinal accounted after)
    (inside : window.messages ++ [message] <+: after.messages) :
    Further batch ordinal accounted room window after where
  filled := filled
  grown := (List.prefix_append _ _).trans inside
  some_ := by
    intro _ _ empty
    rw [empty] at inside
    exact absurd (List.prefix_nil.mp inside) (List.append_ne_nil_of_right_ne_nil _
      (List.cons_ne_nil _ _))

theorem fillWindow_meets (room : Nat) (filled : Filled batch ordinal accounted window) :
    (library limit).Meets (fun result last => last = ledger ∧ ∀ after, result = .ok after →
      Further batch ordinal accounted room window after) ledger
      (fillWindow config batch ordinal room window) := by
  induction room generalizing window with
  | zero =>
      refine ⟨rfl, fun after same => ?_⟩
      cases same
      exact ⟨filled, List.prefix_refl _, fun wrong => absurd wrong (Nat.lt_irrefl 0)⟩
  | succ room ih =>
      unfold fillWindow
      split
      next more =>
        split
        next text failed => exact ⟨rfl, fun after wrong => nomatch wrong⟩
        next message found =>
          obtain ⟨taken, within⟩ := filled.next more found
          dsimp only
          split
          next full =>
            refine ⟨rfl, fun after same => ?_⟩
            cases same
            exact ⟨⟨by rw [taken]; rfl, within⟩, List.prefix_refl _, fun _ _ => full.1⟩
          · have pushed : Filled batch ordinal accounted {
                messages := window.messages ++ [message]
                bytes := window.bytes + message.size
                row := if window.pending.isSome then window.row else window.row + 1
                pending := none } := by
              refine ⟨?_, within⟩
              rw [Option.toList_none, List.append_nil]
              exact taken
            have stop := Further.of_push (room + 1) pushed (List.prefix_refl _)
            refine meets_call trivial fun cancelled _ => ?_
            cases cancelled with
            | true =>
                refine ⟨rfl, fun after same => ?_⟩
                cases same
                exact stop
            | false =>
                refine ⟨trivial, fun late _ => ?_⟩
                cases late with
                | true =>
                    refine ⟨rfl, fun after same => ?_⟩
                    cases same
                    exact stop
                | false =>
                    refine (ih pushed).mono fun result last after => ⟨after.1, fun next same => ?_⟩
                    have further := after.2 next same
                    exact .of_push (room + 1) further.filled further.grown
      next done =>
        refine ⟨rfl, fun after same => ?_⟩
        cases same
        exact ⟨filled, List.prefix_refl _, fun _ more => absurd more done⟩

/-! ## Writes -/

/-- The messages that were accepted, in order. -/
def Ledger.messages (ledger : Ledger) : List (Except String KafkaProduceMessageV1) :=
  ledger.handed.map fun entry => .ok entry.2

theorem Ledger.Handed.messages {last : Ledger} {number : Nat} {sent : List KafkaProduceMessageV1}
    (handed : ledger.Handed last number sent) :
    last.messages = ledger.messages ++ sent.map .ok := by
  unfold Ledger.messages
  rw [handed, List.map_append, List.map_map]
  rfl

/-- All rows of a report have been accounted for, but `left`. -/
def ResultSinkReportV1.Balanced (report : ResultSinkReportV1) (left : Nat) : Prop :=
  report.inputRows = report.confirmedRows + report.notSentRows + report.unknownRows + left

/-- Between two windows of a batch. -/
structure Midway (batch : Batch) (ordinal : Nat) (before : Ledger) (writing : Writing)
    (last : Ledger) : Prop where
  filled : Filled batch ordinal writing.accounted { row := writing.row, pending := writing.pending }
  handed : last.messages = before.messages ++ encoded batch ordinal writing.accounted
  fresh : Fresh writing.client last
  input : writing.report.inputRows = ordinal + batch.numRows
  balanced : writing.report.Balanced (batch.numRows - writing.accounted)
  confirmed : writing.report.confirmedRows ≤ last.confirmations

/-- After a batch. -/
structure Written (batch : Batch) (ordinal : Nat) (before : Ledger) (writer : ResultWriter)
    (last : Ledger) : Prop where
  fresh : Fresh writer.client last
  balanced : writer.report.Balanced 0
  confirmed : writer.report.confirmedRows ≤ last.confirmations
  input : writer.report.inputRows = ordinal + batch.numRows
  handed : ∃ count, count ≤ batch.numRows ∧
    last.messages = before.messages ++ encoded batch ordinal count

variable {writer : ResultWriter} {before : Ledger} {writing : Writing} {fuel : Nat}

theorem Midway.accounted_le (midway : Midway batch ordinal before writing ledger) :
    writing.accounted ≤ batch.numRows := by
  have lengths := congrArg List.length midway.filled.taken
  rw [List.length_append, encoded_length, encoded_length] at lengths
  have within := midway.filled.within
  dsimp only at lengths within
  omega

/-- A failure changes neither the counts nor what has been handed over. -/
theorem fail_meets {report : ResultSinkReportV1} {client : Client} {rc : Errno}
    {code stage : String} (written : ∀ state code stage, Written batch ordinal before
      { writer with
        report := { report with state := state, code := code, stage := stage }
        client := client } ledger) :
    (library limit).Meets (fun result last => ∃ rc writer, result = some (rc, writer) ∧
      Written batch ordinal before writer last) ledger
      (writer.fail report client rc code stage) :=
  ⟨trivial, fun _ _ => ⟨trivial, fun _ _ => ⟨trivial, fun _ _ => ⟨_, _, rfl, written _ _ _⟩⟩⟩⟩

/-- What is left of the batch has not been sent. -/
theorem Midway.rest (midway : Midway batch ordinal before writing ledger)
    (state : SinkState) (code stage : String) :
    Written batch ordinal before { writer with
      report := { ResultWriter.remainder writing.report (batch.numRows - writing.accounted) with
        state := state, code := code, stage := stage }
      client := writing.client } ledger where
  fresh := midway.fresh
  balanced := by
    have balanced := midway.balanced
    unfold ResultSinkReportV1.Balanced ResultWriter.remainder at *
    dsimp only
    omega
  confirmed := midway.confirmed
  input := midway.input
  handed := ⟨writing.accounted, midway.accounted_le, midway.handed⟩

theorem encoded_take {count all : Nat} (le : count ≤ all) :
    (encoded batch ordinal all).take count = encoded batch ordinal count := by
  unfold encoded
  rw [← List.map_take, List.take_range, Nat.min_eq_left le]

/-- Some messages of a window are those of the next rows. -/
theorem Filled.sent (filled : Filled batch ordinal accounted window)
    {sent : List KafkaProduceMessageV1} (inside : sent <+: window.messages) :
    encoded batch ordinal (accounted + sent.length) =
        encoded batch ordinal accounted ++ sent.map .ok ∧
      accounted + sent.length ≤ batch.numRows := by
  obtain ⟨rest, whole⟩ := inside
  have taken := filled.taken
  rw [← whole, List.append_assoc, List.map_append, ← List.append_assoc] at taken
  have lengths := congrArg List.length taken
  rw [List.length_append, List.length_append, encoded_length, encoded_length,
    List.length_map] at lengths
  have within := filled.within
  refine ⟨?_, by omega⟩
  rw [← @encoded_take batch ordinal _ window.row (by omega), taken, List.take_left']
  rw [List.length_append, encoded_length, List.length_map]

/-- The counts after a delivery. -/
theorem Balanced.count {report : ResultSinkReportV1} {left length : Nat}
    (balanced : report.Balanced left) {delivery : KafkaDeliveryV1}
    (total : delivery.confirmed + delivery.notSent + delivery.unknown = length)
    (le : length ≤ left) : (ResultWriter.count report delivery).Balanced (left - length) := by
  unfold ResultSinkReportV1.Balanced ResultWriter.count at *
  dsimp only
  omega

theorem sendWindow_meets (enough : limit < fuel)
    (midway : Midway batch ordinal before writing ledger)
    (filled : Filled batch ordinal writing.accounted window) (some_ : window.messages ≠ [])
    (remaining : Int) :
    (library limit).Meets (fun next last => match next with
      | .inl next => Midway batch ordinal before next last ∧
          batch.numRows - next.accounted < batch.numRows - writing.accounted
      | .inr result => ∃ rc writer, result = some (rc, writer) ∧
          Written batch ordinal before writer last)
      ledger (writer.sendWindow batch writing window remaining fuel) := by
  refine (produce_meets enough midway.fresh window.messages remaining).bind
    fun result last after => ?_
  obtain ⟨⟨rc, delivery, client⟩, rfl, accounts⟩ := after
  obtain ⟨number, sent, handed, inside, all⟩ := accounts.handed
  have messages := handed.messages
  rw [midway.handed, List.append_assoc, ← (filled.sent inside).1] at messages
  obtain ⟨_, whole⟩ := filled.sent (List.prefix_refl window.messages)
  have longer : 0 < window.messages.length := List.length_pos_iff.mpr some_
  have left : batch.numRows - (writing.accounted + window.messages.length) =
      batch.numRows - writing.accounted - window.messages.length := Nat.sub_add_eq _ _ _
  have balanced := @Balanced.count { writing.report with stage := "sink_deliver" } _ _
    midway.balanced _ accounts.total (by omega)
  rw [← left] at balanced
  have confirmed := Nat.le_trans (Nat.add_le_add_right midway.confirmed delivery.confirmed)
    (Nat.le_trans (Nat.le_of_eq (Nat.add_comm _ _)) accounts.confirmed)
  cases rc with
  | some rc =>
      refine (@fail_meets batch ordinal limit last writer before _ _ _ _ _ fun _ _ _ => ?_).bind
        fun result last after => after
      refine ⟨accounts.fresh, ?_, confirmed, midway.input, _, (filled.sent inside).2, messages⟩
      unfold ResultSinkReportV1.Balanced ResultWriter.remainder ResultWriter.count at *
      dsimp only at balanced ⊢
      omega
  | none =>
      rw [all rfl] at messages
      refine ⟨⟨⟨?_, filled.within⟩, messages, accounts.fresh, midway.input, balanced, confirmed⟩,
        ?_⟩
      · dsimp only
        rw [filled.taken, List.map_append, ← List.append_assoc,
          ← (filled.sent (List.prefix_refl _)).1]
        rfl
      · dsimp only
        omega

theorem finishWrite_meets {report : ResultSinkReportV1} {client : Client}
    (written : ∀ state, Written batch ordinal before
      { writer with report := { report with state := state }, client := client } ledger) :
    (library limit).Meets (fun result last => ∃ rc writer, result = some (rc, writer) ∧
      Written batch ordinal before writer last) ledger (writer.finishWrite report client) :=
  ⟨trivial, fun _ _ => ⟨trivial, fun _ _ => ⟨_, _, rfl, written _⟩⟩⟩

/-- A round accounts for some rows, or is the last one. -/
theorem round_meets (enough : limit < fuel)
    (midway : Midway batch ordinal before writing ledger) :
    (library limit).Meets (fun next last => match next with
      | .inl next => Midway batch ordinal before next last ∧
          batch.numRows - next.accounted < batch.numRows - writing.accounted
      | .inr result => ∃ rc writer, result = some (rc, writer) ∧
          Written batch ordinal before writer last) ledger
      (writer.round batch ordinal fuel writing) := by
  have failing : ∀ rc code stage, (library limit).Meets (fun result last => ∃ rc writer,
      result = some (rc, writer) ∧ Written batch ordinal before writer last) ledger
      (writer.fail (ResultWriter.remainder writing.report (batch.numRows - writing.accounted))
        writing.client rc code stage) := fun rc code stage => fail_meets midway.rest
  unfold ResultWriter.round
  dsimp only
  split
  next more =>
    refine interrupted_meets.bind fun rc last after => ?_
    obtain ⟨rfl, _⟩ := after
    cases rc with
    | some rc => exact (failing rc _ _).bind fun result last after => after
    | none =>
        refine (fillWindow_meets _ midway.filled).bind fun result last after => ?_
        obtain ⟨rfl, further⟩ := after
        cases result with
        | error text => exact (failing _ _ _).bind fun result last after => after
        | ok window =>
            have further := further window rfl
            have some_ := further.some_ writer.config.queueMaxMessages_pos more
            refine meets_call trivial fun remaining _ => meets_call trivial fun cancelled _ => ?_
            split
            · refine meets_call trivial fun cancelled _ => ?_
              exact (failing _ _ _).bind fun result last after => after
            · exact sendWindow_meets enough midway further.filled some_ remaining
  next done =>
    rw [not_or] at done
    have pending := Option.not_isSome_iff_eq_none.mp done.2
    have taken := midway.filled.taken
    rw [pending] at taken
    have lengths := congrArg List.length taken
    rw [List.length_append, encoded_length, encoded_length] at lengths
    have all : batch.numRows - writing.accounted = 0 := by
      have row := done.1
      simp only [List.nil_append, Option.toList_none, List.map_nil, List.length_nil] at lengths
      omega
    have balanced := midway.balanced
    rw [all] at balanced
    refine (@finishWrite_meets batch ordinal limit _ writer before _ _ fun state => ?_).bind
      fun result last after => after
    exact ⟨midway.fresh, balanced, midway.confirmed, midway.input, _, midway.accounted_le,
      midway.handed⟩

/-! ## All calls of a writer -/

/-- What the books say of a writer. -/
structure Sound (writer : ResultWriter) (ledger : Ledger) : Prop where
  fresh : Fresh writer.client ledger
  balanced : writer.report.Balanced 0
  confirmed : writer.report.confirmedRows ≤ ledger.confirmations

/-- The outcomes of `Write`: only an open writer takes a batch. -/
inductive Writes (writer : ResultWriter) (ledger : Ledger) :
    Option Batch → ResultWriter → Ledger → Prop where
  | refuses {batch : Option Batch} (why : writer.report.state = .open → batch = none) :
      Writes writer ledger batch writer ledger
  | takes {batch : Batch} {after : ResultWriter} {last : Ledger}
      (open_ : writer.report.state = .open)
      (written : Written batch writer.report.inputRows ledger after last) :
      Writes writer ledger (some batch) after last

theorem write_meets (enough : limit < fuel) (sound : Sound writer ledger)
    (batch : Option Batch) :
    (library limit).Meets (fun result last => ∃ rc after, result = some (rc, after) ∧
      Writes writer ledger batch after last) ledger (writer.write batch fuel) := by
  unfold ResultWriter.write
  split
  next closed =>
    refine meets_call trivial fun cancelled _ => ?_
    exact ⟨_, _, rfl, .refuses fun wrong => absurd wrong closed⟩
  next open_ =>
    rw [not_not] at open_
    cases batch with
    | none => exact ⟨_, _, rfl, .refuses fun _ => rfl⟩
    | some batch =>
        have started : Midway batch writer.report.inputRows ledger {
            report := { writer.report with
              inputRows := writer.report.inputRows + batch.numRows
              state := .writing
              stage := "sink_encode" }
            client := writer.client } ledger := by
          refine ⟨⟨?_, Nat.zero_le _⟩, ?_, sound.fresh, rfl, ?_, sound.confirmed⟩
          · rfl
          · exact (List.append_nil _).symm
          · have balanced := sound.balanced
            unfold ResultSinkReportV1.Balanced at *
            dsimp only
            omega
        dsimp only
        split
        · refine (fail_meets started.rest).mono fun result last after => ?_
          obtain ⟨rc, after, rfl, written⟩ := after
          exact ⟨rc, after, rfl, .takes open_ written⟩
        · have looped : (library limit).Meets (fun result last => ∃ outcome,
              result = some outcome ∧ ∃ rc after, outcome = some (rc, after) ∧
                Written batch writer.report.inputRows ledger after last) ledger
              (Program.loop (writer.round batch writer.report.inputRows fuel) (batch.numRows + 1) {
                report := { writer.report with
                  inputRows := writer.report.inputRows + batch.numRows
                  state := .writing
                  stage := "sink_encode" }
                client := writer.client }) := by
            refine meets_loop_within
              (fun writing last => Midway batch writer.report.inputRows ledger writing last)
              (fun writing _ => batch.numRows - writing.accounted)
              (fun writing last midway => ?_) started (Nat.lt_succ_of_le (Nat.sub_le _ _))
            refine (round_meets enough midway).mono fun next last ends => ?_
            cases next <;> exact ends
          refine looped.bind fun result last after => ?_
          obtain ⟨outcome, rfl, rc, after, rfl, written⟩ := after
          exact ⟨rc, after, rfl, .takes open_ written⟩

/-- What the codec makes of all rows that are to be written, in order. -/
def rowsOf : List WriterCall → Nat → List (Except String KafkaProduceMessageV1)
  | [], _ => []
  | .cancel :: rest, ordinal => rowsOf rest ordinal
  | .write none :: rest, ordinal => rowsOf rest ordinal
  | .write (some batch) :: rest, ordinal =>
      encoded batch ordinal batch.numRows ++ rowsOf rest (ordinal + batch.numRows)

/-- The rows of an open writer are handed over in order and at most once, those of any other not at
all. -/
theorem callAll_meets (enough : limit < fuel) (calls : List WriterCall)
    (sound : Sound writer ledger) :
    (library limit).Meets (fun result last => ∃ after, result = some after ∧ Sound after last ∧
      ∃ more, last.messages = ledger.messages ++ more ∧
        more.Sublist (rowsOf calls writer.report.inputRows) ∧
        (writer.report.state ≠ .open → more = [])) ledger
      (ResultWriter.callAll fuel calls writer) := by
  induction calls generalizing writer ledger with
  | nil => exact ⟨writer, rfl, sound, [], (List.append_nil _).symm, .slnil, fun _ => rfl⟩
  | cons call rest ih =>
      cases call with
      | cancel =>
          have counts : writer.cancel.report.inputRows = writer.report.inputRows ∧
              Sound writer.cancel ledger ∧ writer.cancel.report.state ≠ .open := by
            unfold ResultWriter.cancel
            split
            · exact ⟨rfl, ⟨sound.fresh, sound.balanced, sound.confirmed⟩,
                (fun wrong => nomatch wrong)⟩
            next ended =>
              refine ⟨rfl, sound, fun wrong => ended ?_⟩
              rw [wrong]
              exact ⟨(fun wrong => nomatch wrong), (fun wrong => nomatch wrong)⟩
          obtain ⟨same, sound, closed⟩ := counts
          refine (ih sound).mono fun result last after => ?_
          obtain ⟨after, rfl, sound, more, messages, inside, nothing⟩ := after
          rw [same] at inside
          exact ⟨after, rfl, sound, more, messages, inside, fun _ => nothing closed⟩
      | write batch =>
          refine (write_meets enough sound batch).bind fun result last after => ?_
          obtain ⟨rc, next, rfl, writes⟩ := after
          cases writes with
          | refuses why =>
            refine (ih sound).mono fun result last after => ?_
            obtain ⟨after, rfl, sound, more, messages, inside, nothing⟩ := after
            refine ⟨after, rfl, sound, more, messages, ?_, nothing⟩
            by_cases open_ : writer.report.state = .open
            · rw [why open_]
              exact inside
            · rw [nothing open_]
              exact List.nil_sublist _
          | takes open_ written =>
            refine (ih ⟨written.fresh, written.balanced, written.confirmed⟩).mono
              fun result last after => ?_
            obtain ⟨after, rfl, sound, more, messages, inside, _⟩ := after
            obtain ⟨count, le, handed⟩ := written.handed
            rw [handed, List.append_assoc] at messages
            refine ⟨after, rfl, sound, _, messages, ?_, fun closed => absurd open_ closed⟩
            rw [written.input] at inside
            refine List.Sublist.append ?_ inside
            rw [← encoded_take le]
            exact List.take_sublist _ _

theorem produceAll_meets {client : Client} (enough : limit < fuel)
    (calls : List (List KafkaProduceMessageV1 × Int)) (fresh : Fresh client ledger) :
    (library limit).Meets (fun result _ => ∃ deliveries, result = some deliveries ∧
      deliveries.map (·.1) = calls.map (·.1) ∧
      ∀ delivered ∈ deliveries, delivered.2.confirmed + delivered.2.notSent +
        delivered.2.unknown = delivered.1.length) ledger (Client.produceAll fuel calls client) := by
  induction calls generalizing client ledger with
  | nil => exact ⟨[], rfl, rfl, fun _ wrong => nomatch wrong⟩
  | cons call rest ih =>
      obtain ⟨messages, timeoutMs⟩ := call
      refine (produce_meets enough fresh messages timeoutMs).bind fun result last after => ?_
      obtain ⟨⟨rc, delivery, client⟩, rfl, accounts⟩ := after
      refine (ih accounts.fresh).bind fun result last after => ?_
      obtain ⟨deliveries, rfl, same, totals⟩ := after
      refine ⟨_, rfl, congrArg (messages :: ·) same, fun delivered member => ?_⟩
      rcases List.mem_cons.mp member with rfl | later
      · exact accounts.total
      · exact totals delivered later

def ResultWriter.opened (config : SinkConfig) (client : Client) : ResultWriter where
  config := config
  report := { state := .open }
  client := client

/-- What is counted of the calls of a writer. -/
structure Accounted (calls : List WriterCall) (writer : ResultWriter) (ledger : Ledger) : Prop where
  total : writer.report.inputRows =
    writer.report.confirmedRows + writer.report.notSentRows + writer.report.unknownRows
  confirmed : writer.report.confirmedRows ≤ ledger.confirmed.length
  ordered : ledger.messages.Sublist (rowsOf calls 0)

/-- Whatever the environment answers, the calls of the producer session return, and each accounts
for its messages; the calls of a writer return, and each accounts for its rows. -/
theorem delivery_accounts {limit fuel : Nat} (enough : limit < fuel) :
    (∀ (client : Client) (calls : List (List KafkaProduceMessageV1 × Int)) trace result,
      (Client.produceAll fuel calls client).Runs trace (some result) →
      (library limit).Honest {} trace → ∃ deliveries, result = some deliveries ∧
        deliveries.map (·.1) = calls.map (·.1) ∧
        ∀ delivered ∈ deliveries, delivered.2.confirmed + delivered.2.notSent +
          delivered.2.unknown = delivered.1.length) ∧
    ∀ (config : SinkConfig) (client : Client) (calls : List WriterCall) trace result,
      (ResultWriter.callAll fuel calls (.opened config client)).Runs trace (some result) →
      (library limit).Honest {} trace → ∃ writer, result = some writer ∧
        Accounted calls writer ((library limit).after {} trace) := by
  have nothing : ∀ client, Fresh client {} := fun client =>
    ⟨⟨List.nodup_nil, fun _ wrong => nomatch wrong⟩, fun _ wrong => nomatch wrong⟩
  constructor
  · intro client calls trace result runs honest
    exact ((produceAll_meets enough calls (nothing client)).lawful runs honest).2 result rfl
  · intro config client calls trace result runs honest
    have sound : Sound (.opened config client) {} := ⟨nothing client, rfl, Nat.le_refl _⟩
    obtain ⟨writer, rfl, sound, more, messages, inside, _⟩ :=
      ((callAll_meets enough calls sound).lawful runs honest).2 result rfl
    refine ⟨writer, rfl, sound.balanced, ?_, ?_⟩
    · exact Nat.le_trans sound.confirmed sound.fresh.genuine.confirmations_le
    · rw [messages]
      exact inside

def rowMessage (row : Nat) : KafkaProduceMessageV1 where
  key := [UInt8.ofNat row]
  value := []

/-- Of two rows the first is confirmed, and the deadline comes before the report of the second. -/
theorem delivery_accounts_timeout : ∃ writer ledger,
    (writer.report.confirmedRows, writer.report.unknownRows) = (1, 1) ∧
      ledger.messages = [.ok (rowMessage 0), .ok (rowMessage 1)] ∧
      Accounted [.write (some { numRows := 2, row := fun row _ => .ok (rowMessage row) })] writer
        ledger := by
  obtain ⟨writer, same, accounted⟩ := (@delivery_accounts 2 3 (by decide)).2 {} {}
    [.write (some { numRows := 2, row := fun row _ => .ok (rowMessage row) })]
    [⟨.cancelled, false⟩, ⟨.expired, false⟩, ⟨.cancelled, false⟩, ⟨.expired, false⟩,
      ⟨.cancelled, false⟩, ⟨.expired, false⟩, ⟨.remaining, 100⟩, ⟨.cancelled, false⟩,
      ⟨.cancelled, false⟩, ⟨.cancelled, false⟩, ⟨.expired, false⟩, ⟨.denied, false⟩,
      ⟨.producev 0 (rowMessage 0), .accepted⟩, ⟨.cancelled, false⟩, ⟨.expired, false⟩,
      ⟨.denied, false⟩, ⟨.producev 0 (rowMessage 1), .accepted⟩, ⟨.cancelled, false⟩,
      ⟨.expired, false⟩, ⟨.poll, [{ message := 0, receipt := 0 }]⟩, ⟨.cancelled, false⟩,
      ⟨.expired, true⟩, ⟨.cancelled, false⟩, ⟨.purge, []⟩, ⟨.cancelled, false⟩,
      ⟨.cancelled, false⟩, ⟨.cancelled, false⟩] _
    (.ask (.ask (.ask (.ask (.ask (.ask (.ask (.ask (.ask (.ask (.ask (.ask (.ask (.ask (.ask
      (.ask (.ask (.ask (.ask (.ask (.ask (.ask (.ask (.ask (.ask (.ask (.ask
      (.done _)))))))))))))))))))))))))))) (by decide)
  cases same
  exact ⟨_, _, rfl, rfl, accounted⟩

end Flowsql.Kafka
