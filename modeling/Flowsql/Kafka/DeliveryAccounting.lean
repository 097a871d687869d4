import Flowsql.Kafka.ResultWriter
import Mathlib

/-!
# Every row is accounted for

What the client library has been given and what it has reported, against the counts of the producer
session and of the result writer.
-/

namespace Flowsql.Kafka

open Flowsql.Library Flowsql.Library.Contract

/-! ## The client library -/

/-- The messages that were accepted with the numbers of their receipts, oldest first, and the
delivery reports. -/
structure Ledger where
  handed : List (Nat × KafkaProduceMessageV1) := []
  reports : List DeliveryReport := []
  polls : Nat := 0

namespace Ledger

variable (ledger : Ledger)

/-- There is one report for a message at most, and it is tagged with the receipt of the message. -/
def Genuine (reports : List DeliveryReport) : Prop :=
  (reports.map (·.message)).Nodup ∧
    ∀ report ∈ reports, ledger.handed[report.message]?.map (·.1) = some report.receipt

instance (reports : List DeliveryReport) : Decidable (ledger.Genuine reports) :=
  inferInstanceAs (Decidable (_ ∧ _))

def completed (number : Nat) : Nat := ledger.reports.countP (·.receipt = number)

def accepted (number : Nat) : Nat := ledger.handed.countP (·.1 = number)

/-- The places of the messages whose delivery was confirmed. -/
def confirmed : List Nat :=
  (List.range ledger.handed.length).filter fun place =>
    ledger.reports.any fun report => report.message = place && !report.failed

def confirmations : Nat := ledger.reports.countP (!·.failed)

end Ledger

/-- The client library makes genuine reports, and every deadline is over after `limit` polls. -/
def library (limit : Nat) : Contract Request Answer Ledger where
  allowed _ _ := True
  honest ledger request := match request with
    | .expired => fun answer => limit ≤ ledger.polls → answer = true
    | .poll | .purge => fun reports => ledger.Genuine (ledger.reports ++ reports)
    | _ => fun _ => True
  record ledger request := match request with
    | .producev receipt message => fun answer =>
        if answer = .accepted then { ledger with handed := ledger.handed ++ [(receipt, message)] }
        else ledger
    | .poll => fun reports => { ledger with
        reports := ledger.reports ++ reports, polls := ledger.polls + 1 }
    | .purge => fun reports => { ledger with reports := ledger.reports ++ reports }
    | _ => fun _ => ledger

instance (limit : Nat) : ∀ ledger request answer,
    Decidable ((library limit).honest ledger request answer)
  | ledger, .expired, answer => inferInstanceAs (Decidable (limit ≤ ledger.polls → answer = true))
  | ledger, .poll, reports => inferInstanceAs (Decidable (ledger.Genuine (ledger.reports ++ reports)))
  | ledger, .purge, reports =>
      inferInstanceAs (Decidable (ledger.Genuine (ledger.reports ++ reports)))
  | _, .cancelled, _ | _, .remaining, _ | _, .denied, _ | _, .checkPacketTopology _, _
  | _, .producev _ _, _ => inferInstanceAs (Decidable True)

/-! ## Counting by place -/

/-- Different places of a list at which something holds are not more than all such places. -/
theorem length_le_countP {α : Type} {p : α → Bool} {list : List α} {places : List Nat}
    (distinct : places.Nodup) (there : ∀ place ∈ places, ∃ a, list[place]? = some a ∧ p a = true) :
    places.length ≤ list.countP p := by
  induction list using List.reverseRecOn generalizing places with
  | nil =>
      cases places with
      | nil => exact Nat.le_refl _
      | cons place rest =>
          obtain ⟨a, wrong, _⟩ := there place List.mem_cons_self
          cases wrong
  | append_singleton list last ih =>
      have others : (places.erase list.length).length ≤ list.countP p := by
        refine ih (distinct.erase _) fun place member => ?_
        obtain ⟨different, inside⟩ := distinct.mem_erase_iff.mp member
        obtain ⟨a, found, holds⟩ := there place inside
        obtain ⟨small, _⟩ := List.getElem?_eq_some_iff.mp found
        rw [List.length_append, List.length_singleton] at small
        rw [List.getElem?_append_left (by omega)] at found
        exact ⟨a, found, holds⟩
      rw [List.countP_append, List.countP_singleton]
      by_cases here : list.length ∈ places
      · obtain ⟨a, found, holds⟩ := there _ here
        rw [List.getElem?_concat_length] at found
        cases found
        rw [if_pos holds, ← List.length_erase_add_one here]
        exact Nat.succ_le_succ others
      · rw [List.erase_of_not_mem here] at others
        exact Nat.le_trans others (Nat.le_add_right _ _)

namespace Ledger

variable {ledger : Ledger}

theorem Genuine.distinct {reports : List DeliveryReport} (genuine : ledger.Genuine reports)
    (choose : DeliveryReport → Bool) : ((reports.filter choose).map (·.message)).Nodup :=
  genuine.1.sublist (List.filter_sublist.map _)

theorem Genuine.completed_le (genuine : ledger.Genuine ledger.reports) (number : Nat) :
    ledger.completed number ≤ ledger.accepted number := by
  unfold completed accepted
  rw [List.countP_eq_length_filter, ← List.length_map (·.message)]
  refine length_le_countP (genuine.distinct _) fun place member => ?_
  obtain ⟨report, inside, rfl⟩ := List.mem_map.mp member
  obtain ⟨there, same⟩ := List.mem_filter.mp inside
  obtain ⟨entry, found, receipt⟩ := Option.map_eq_some_iff.mp (genuine.2 report there)
  exact ⟨entry, found, decide_eq_true (receipt.trans (of_decide_eq_true same))⟩

theorem Genuine.confirmations_le (genuine : ledger.Genuine ledger.reports) :
    ledger.confirmations ≤ ledger.confirmed.length := by
  unfold confirmations confirmed
  rw [List.countP_eq_length_filter, ← List.length_map (·.message)]
  refine (List.subperm_of_subset (genuine.distinct _) fun place member => ?_).length_le
  obtain ⟨report, inside, rfl⟩ := List.mem_map.mp member
  obtain ⟨there, confirms⟩ := List.mem_filter.mp inside
  obtain ⟨entry, found, _⟩ := Option.map_eq_some_iff.mp (genuine.2 report there)
  obtain ⟨small, _⟩ := List.getElem?_eq_some_iff.mp found
  refine List.mem_filter.mpr ⟨List.mem_range.mpr small, List.any_eq_true.mpr ⟨report, there, ?_⟩⟩
  rw [Bool.and_eq_true]
  exact ⟨decide_eq_true rfl, confirms⟩

end Ledger

/-! ## One message -/

/-- The counts of a receipt, against what the client library knows; `before` is how many
confirmations there were when the receipt was made. -/
structure Counts (before : Nat) (receipt : Receipt) (accepted : Nat) (ledger : Ledger) :
    Prop where
  genuine : ledger.Genuine ledger.reports
  last : ∀ entry ∈ ledger.handed, entry.1 ≤ receipt.number
  completed : receipt.completed = ledger.completed receipt.number
  confirmed : receipt.confirmed + before ≤ ledger.confirmations
  within : receipt.confirmed ≤ receipt.completed
  accepted_eq : accepted = ledger.accepted receipt.number

variable {limit before accepted : Nat} {receipt : Receipt} {ledger : Ledger}
  {client : Client} {message : KafkaProduceMessageV1} {messages : List KafkaProduceMessageV1}

theorem Counts.confirmed_le (counts : Counts before receipt accepted ledger) :
    receipt.confirmed ≤ accepted := by
  have completed := counts.genuine.completed_le receipt.number
  rw [← counts.completed, ← counts.accepted_eq] at completed
  exact Nat.le_trans counts.within completed

theorem interrupted_meets : (library limit).Meets (fun rc last =>
    last = ledger ∧ (rc = none → ledger.polls < limit)) ledger interrupted := by
  refine meets_call trivial fun cancelled _ => ?_
  cases cancelled with
  | true => exact ⟨trivial, fun _ _ => ⟨rfl, fun wrong => nomatch wrong⟩⟩
  | false =>
      refine ⟨trivial, fun ended honest => ?_⟩
      cases ended with
      | true => exact ⟨trivial, fun _ _ => ⟨rfl, fun wrong => nomatch wrong⟩⟩
      | false => exact ⟨rfl, fun _ => Nat.lt_of_not_le fun late => nomatch honest late⟩

theorem delivered_number (reports : List DeliveryReport) (receipt : Receipt) :
    (reports.foldl Receipt.delivered receipt).number = receipt.number := by
  induction reports generalizing receipt with
  | nil => rfl
  | cons report rest ih =>
      rw [List.foldl_cons, ih]
      unfold Receipt.delivered
      split
      · rfl
      split <;> rfl

/-- What the reports of one poll add to the counts of a receipt. -/
theorem delivered_counts (reports : List DeliveryReport) (receipt : Receipt) :
    (reports.foldl Receipt.delivered receipt).completed =
        receipt.completed + reports.countP (·.receipt = receipt.number) ∧
      (reports.foldl Receipt.delivered receipt).confirmed ≤
        receipt.confirmed + reports.countP (!·.failed) ∧
      (receipt.confirmed ≤ receipt.completed →
        (reports.foldl Receipt.delivered receipt).confirmed ≤
          (reports.foldl Receipt.delivered receipt).completed) := by
  induction reports generalizing receipt with
  | nil => exact ⟨rfl, Nat.le_refl _, id⟩
  | cons report rest ih =>
      rw [List.foldl_cons]
      have number := delivered_number [report] receipt
      obtain ⟨completed, confirmed, within⟩ := ih (receipt.delivered report)
      change (receipt.delivered report).number = receipt.number at number
      rw [number] at completed
      rw [List.countP_cons, List.countP_cons]
      unfold Receipt.delivered at completed confirmed within ⊢
      by_cases own : report.receipt = receipt.number
      · rw [if_neg (not_not.mpr own)] at completed confirmed within ⊢
        rw [if_pos (decide_eq_true own)]
        by_cases good : (!report.failed && !report.late) = true
        · rw [if_pos good] at completed confirmed within ⊢
          rw [Bool.and_eq_true] at good
          rw [if_pos good.1]
          dsimp only at completed confirmed within ⊢
          refine ⟨by omega, by omega, fun before => within (by omega)⟩
        · rw [if_neg good] at completed confirmed within ⊢
          dsimp only at completed confirmed within ⊢
          refine ⟨by omega, by omega, fun before => within (by omega)⟩
      · rw [if_pos own] at completed confirmed within ⊢
        rw [if_neg (fun wrong => own (of_decide_eq_true wrong))]
        exact ⟨completed, by omega, within⟩

/-- A poll keeps the counts. -/
theorem Counts.poll (counts : Counts before receipt accepted ledger)
    {reports : List DeliveryReport} (genuine : ledger.Genuine (ledger.reports ++ reports))
    (polls : Nat) :
    Counts before (reports.foldl Receipt.delivered receipt) accepted
      { ledger with reports := ledger.reports ++ reports, polls := polls } := by
  obtain ⟨completed, confirmed, within⟩ := delivered_counts reports receipt
  have number := delivered_number reports receipt
  refine ⟨genuine, ?_, ?_, ?_, within counts.within, ?_⟩
  · rw [number]
    exact counts.last
  · rw [number, completed, counts.completed]
    exact List.countP_append.symm
  · have confirmations := counts.confirmed
    unfold Ledger.confirmations at confirmations ⊢
    dsimp only
    rw [List.countP_append]
    omega
  · rw [number]
    exact counts.accepted_eq

/-- A message that is accepted is counted. -/
theorem Counts.accept (counts : Counts before receipt accepted ledger)
    (message : KafkaProduceMessageV1) :
    Counts before receipt (accepted + 1)
      { ledger with handed := ledger.handed ++ [(receipt.number, message)] } where
  genuine := by
    refine ⟨counts.genuine.1, fun report member => ?_⟩
    have found := counts.genuine.2 report member
    obtain ⟨entry, there, _⟩ := Option.map_eq_some_iff.mp found
    obtain ⟨small, _⟩ := List.getElem?_eq_some_iff.mp there
    rw [List.getElem?_append_left small]
    exact found
  last := by
    intro entry member
    rcases List.mem_append.mp member with older | new
    · exact counts.last entry older
    · obtain rfl := List.mem_singleton.mp new
      exact Nat.le_refl _
  completed := counts.completed
  confirmed := counts.confirmed
  within := counts.within
  accepted_eq := by
    unfold Ledger.accepted
    rw [List.countP_append, List.countP_singleton, if_pos (decide_eq_true rfl)]
    exact congrArg (· + 1) counts.accepted_eq

/-- The outcome of an attempt: once more after a poll, an error, or a message that was accepted. -/
theorem attempt_meets (counts : Counts before receipt accepted ledger) :
    (library limit).Meets (fun next last => match next with
      | .inl next => (Counts before next accepted last ∧ next.number = receipt.number ∧
          last.handed = ledger.handed) ∧ limit - last.polls < limit - ledger.polls
      | .inr (next, some _) => Counts before next accepted last ∧ next.number = receipt.number ∧
          last.handed = ledger.handed
      | .inr (next, none) => Counts before next (accepted + 1) last ∧
          next.number = receipt.number ∧
          last.handed = ledger.handed ++ [(receipt.number, message)]) ledger
      (attempt message receipt) := by
  refine interrupted_meets.bind fun rc last after => ?_
  obtain ⟨rfl, early⟩ := after
  cases rc with
  | some rc => exact ⟨counts, rfl, rfl⟩
  | none =>
      have early := early rfl
      refine meets_call trivial fun denied _ => ?_
      cases denied with
      | true => exact ⟨counts, rfl, rfl⟩
      | false =>
          refine meets_call trivial fun answer _ => ?_
          cases answer with
          | accepted => exact ⟨counts.accept message, rfl, rfl⟩
          | failed => exact ⟨counts, rfl, rfl⟩
          | queueFull =>
              refine meets_call trivial fun reports honest => ?_
              refine ⟨⟨counts.poll honest _, delivered_number reports receipt, rfl⟩, ?_⟩
              change limit - (last.polls + 1) < limit - last.polls
              omega

/-! ## All messages of a call -/

/-- The messages have been handed over under this number, in this order. -/
def Ledger.Handed (before after : Ledger) (number : Nat) (sent : List KafkaProduceMessageV1) :
    Prop :=
  after.handed = before.handed ++ sent.map (number, ·)

variable {fuel : Nat}

/-- With more fuel than polls until the deadline, the messages are handed over up to an error. -/
theorem sendAll_meets (enough : limit < fuel) (counts : Counts before receipt accepted ledger) :
    (library limit).Meets (fun result last => ∃ next sent rc,
      result = some (next, accepted + sent.length, rc) ∧
      Counts before next (accepted + sent.length) last ∧ next.number = receipt.number ∧
      ledger.Handed last receipt.number sent ∧ sent <+: messages ∧ (rc = none → sent = messages))
      ledger (sendAll fuel messages accepted receipt) := by
  induction messages generalizing accepted receipt ledger with
  | nil =>
      exact ⟨receipt, [], none, rfl, counts, rfl, (List.append_nil _).symm, List.prefix_refl _,
        fun _ => rfl⟩
  | cons message rest ih =>
      have looped : (library limit).Meets (fun result last => ∃ outcome, result = some outcome ∧
          (match outcome with
          | (next, some _) => Counts before next accepted last ∧ next.number = receipt.number ∧
              last.handed = ledger.handed
          | (next, none) => Counts before next (accepted + 1) last ∧
              next.number = receipt.number ∧
              last.handed = ledger.handed ++ [(receipt.number, message)])) ledger
          (Program.loop (attempt message) fuel receipt) := by
        refine meets_loop_within (fun next last => Counts before next accepted last ∧
            next.number = receipt.number ∧ last.handed = ledger.handed)
          (fun _ last => limit - last.polls) (fun next last holds => ?_) ⟨counts, rfl, rfl⟩
          (Nat.lt_of_le_of_lt (Nat.sub_le _ _) enough)
        obtain ⟨counts, number, handed⟩ := holds
        rw [← number, ← handed]
        refine (attempt_meets counts).mono fun outcome after ends => ?_
        obtain next | ⟨next, rc | _⟩ := outcome <;> exact ends
      refine looped.bind fun result last after => ?_
      obtain ⟨⟨next, rc⟩, rfl, ends⟩ := after
      cases rc with
      | some rc =>
          obtain ⟨counts, number, handed⟩ := ends
          refine ⟨next, [], some rc, rfl, counts, number, ?_, List.nil_prefix,
            fun wrong => nomatch wrong⟩
          exact handed.trans (List.append_nil _).symm
      | none =>
          obtain ⟨counts, number, handed⟩ := ends
          refine (ih counts).mono fun result final after => ?_
          obtain ⟨receipt, sent, rc, rfl, counts, number', handed', inside, all⟩ := after
          have length : accepted + 1 + sent.length = accepted + (message :: sent).length := by
            rw [List.length_cons]
            omega
          rw [length] at counts ⊢
          refine ⟨receipt, message :: sent, rc, rfl, counts, number'.trans number, ?_,
            List.prefix_cons_inj _ |>.mpr inside, fun fine => by rw [all fine]⟩
          unfold Ledger.Handed at handed' ⊢
          rw [handed', handed, number, List.append_assoc]
          rfl

/-- The wait for the delivery reports ends, and hands nothing over. -/
theorem await_meets (enough : limit < fuel) (counts : Counts before receipt accepted ledger) :
    (library limit).Meets (fun result last => ∃ outcome, result = some outcome ∧
      Counts before outcome.1 accepted last ∧ outcome.1.number = receipt.number ∧
      last.handed = ledger.handed) ledger (Program.loop (await accepted) fuel receipt) := by
  refine meets_loop_within (fun next last => Counts before next accepted last ∧
      next.number = receipt.number ∧ last.handed = ledger.handed)
    (fun _ last => limit - last.polls) (fun next last holds => ?_) ⟨counts, rfl, rfl⟩
    (Nat.lt_of_le_of_lt (Nat.sub_le _ _) enough)
  unfold await
  split
  · exact holds
  split
  · exact holds
  refine interrupted_meets.bind fun rc last after => ?_
  obtain ⟨rfl, early⟩ := after
  cases rc with
  | some rc => exact holds
  | none =>
      have early := early rfl
      refine meets_call trivial fun reports honest => ?_
      obtain ⟨counts, number, handed⟩ := holds
      refine ⟨⟨counts.poll honest _, (delivered_number reports next).trans number, handed⟩, ?_⟩
      change limit - (last.polls + 1) < limit - last.polls
      omega

/-! ## One call of `Produce` -/

/-- The next receipt of the client is a new one. -/
structure Fresh (client : Client) (ledger : Ledger) : Prop where
  genuine : ledger.Genuine ledger.reports
  newer : ∀ entry ∈ ledger.handed, entry.1 < client.receipts

theorem Fresh.counts (fresh : Fresh client ledger) :
    Counts ledger.confirmations { number := client.receipts } 0 ledger := by
  have none_ : ledger.accepted client.receipts = 0 := by
    refine List.countP_eq_zero.mpr fun entry member same => ?_
    exact absurd (of_decide_eq_true same) (Nat.ne_of_lt (fresh.newer entry member))
  have completed := fresh.genuine.completed_le client.receipts
  rw [none_] at completed
  exact ⟨fresh.genuine, fun entry member => Nat.le_of_lt (fresh.newer entry member),
    (Nat.le_zero.mp completed).symm, Nat.le_of_eq (Nat.zero_add _), Nat.le_refl _, none_.symm⟩

/-- What a call of `Produce` does to the books. -/
structure Accounts (ledger last : Ledger) (messages : List KafkaProduceMessageV1)
    (produced : Produced) : Prop where
  total : produced.2.1.confirmed + produced.2.1.notSent + produced.2.1.unknown = messages.length
  confirmed : produced.2.1.confirmed + ledger.confirmations ≤ last.confirmations
  fresh : Fresh produced.2.2 last
  handed : ∃ number sent, ledger.Handed last number sent ∧ sent <+: messages ∧
    (produced.1 = none → sent = messages)

/-- Nothing is sent. -/
theorem Fresh.unsent (fresh : Fresh client ledger) (rc : Errno) (failed : Bool)
    (messages : List KafkaProduceMessageV1) :
    Accounts ledger ledger messages (some rc, { notSent := messages.length },
      { client with producerFailed := failed }) where
  total := Nat.zero_add _
  confirmed := Nat.le_of_eq (Nat.zero_add _)
  fresh := ⟨fresh.genuine, fresh.newer⟩
  handed := ⟨0, [], (List.append_nil _).symm, List.nil_prefix, (fun wrong => nomatch wrong)⟩

theorem settle_meets {sent : List KafkaProduceMessageV1} {last : Ledger} {rc : Option Errno}
    (counts : Counts ledger.confirmations receipt sent.length last)
    (number : receipt.number = client.receipts)
    (handed : ledger.Handed last client.receipts sent) (inside : sent <+: messages)
    (all : rc = none → sent = messages) :
    (library limit).Meets (fun produced final => Accounts ledger final messages produced) last
      (client.settle messages.length receipt sent.length rc) := by
  have confirmed := counts.confirmed_le
  have shorter := inside.length_le
  have newer : ∀ entry ∈ last.handed, entry.1 < client.receipts + 1 := fun entry member =>
    Nat.lt_succ_of_le (number ▸ counts.last entry member)
  have complete : (if receipt.error = true ∧ rc = none then some .eio else rc) = none →
      sent = messages := by
    intro fine
    split at fine
    · cases fine
    · exact all fine
  unfold Client.settle
  dsimp only
  generalize (if receipt.error = true ∧ rc = none then some .eio else rc) = code at complete ⊢
  split
  · refine ⟨trivial, fun reports genuine => ?_⟩
    refine ⟨?_, ?_, ⟨genuine, newer⟩, client.receipts, sent, handed, inside, complete⟩
    · dsimp only
      omega
    · refine Nat.le_trans counts.confirmed ?_
      change _ ≤ List.countP _ (last.reports ++ reports)
      rw [List.countP_append]
      exact Nat.le_add_right _ _
  · refine ⟨?_, counts.confirmed, ⟨counts.genuine, newer⟩, client.receipts, sent, handed, inside,
      complete⟩
    dsimp only
    omega

theorem deliver_meets (enough : limit < fuel) (fresh : Fresh client ledger) :
    (library limit).Meets (fun result last => ∃ produced, result = some produced ∧
      Accounts ledger last messages produced) ledger (client.deliver messages fuel) := by
  refine (sendAll_meets enough fresh.counts).bind fun result last after => ?_
  obtain ⟨receipt, sent, rc, rfl, counts, number, handed, inside, all⟩ := after
  rw [Nat.zero_add] at counts ⊢
  cases rc with
  | some rc =>
      exact (settle_meets counts number handed inside
        (fun wrong => absurd wrong (Option.some_ne_none rc))).bind
          fun produced final after => ⟨produced, rfl, after⟩
  | none =>
      refine (await_meets enough counts).bind fun result final after => ?_
      obtain ⟨⟨next, rc⟩, rfl, counts, number', same⟩ := after
      have handed' : ledger.Handed final client.receipts sent := same.trans handed
      exact (settle_meets counts (number'.trans number) handed' inside fun _ => all rfl).bind
        fun produced final after => ⟨produced, rfl, after⟩

theorem produce_meets (enough : limit < fuel) (fresh : Fresh client ledger)
    (messages : List KafkaProduceMessageV1) (timeoutMs : Int) :
    (library limit).Meets (fun result last => ∃ produced, result = some produced ∧
      Accounts ledger last messages produced) ledger (client.produce messages timeoutMs fuel) := by
  refine meets_call trivial fun cancelled _ => ?_
  have unsent : ∀ rc, ∃ produced : Produced,
      some ((some rc, { notSent := messages.length }, client) : Produced) = some produced ∧
        Accounts ledger ledger messages produced := fun rc =>
    ⟨_, rfl, fresh.unsent rc client.producerFailed messages⟩
  split
  · exact unsent .ecanceled
  split
  · exact unsent .einval
  split
  · exact unsent .einval
  split
  · exact unsent .emsgsize
  have checked : (library limit).Meets (fun _ last => last = ledger) ledger client.topology := by
    unfold Client.topology
    split
    · refine meets_call trivial fun remaining _ => ?_
      split
      · exact ⟨trivial, fun _ _ => rfl⟩
      · rfl
    · rfl
  refine checked.bind fun rc last same => ?_
  subst same
  cases rc with
  | some rc => exact ⟨_, rfl, fresh.unsent rc true messages⟩
  | none => exact deliver_meets enough fresh

end Flowsql.Kafka
