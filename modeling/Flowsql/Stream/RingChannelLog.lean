import Flowsql.Stream.RingChannel

/-!
# The log of a ring stream channel

What the ring holds, what was accepted and what was delivered, as the log tells it. In a legal log
every entry comes at a moment at which it may; in such a log nothing is lost, and nothing is
delivered after an end.
-/

namespace Flowsql.Stream

variable {Batch Producer Consumer : Type*}

namespace LogEntry

def isOpened : LogEntry Batch Producer Consumer → Bool
  | .opened => true
  | _ => false

def isEnding : LogEntry Batch Producer Consumer → Bool
  | .ending => true
  | _ => false

def isClosed : LogEntry Batch Producer Consumer → Bool
  | .closed => true
  | _ => false

def isEnded : LogEntry Batch Producer Consumer → Bool
  | .ended _ _ => true
  | _ => false

end LogEntry

/-- The latest entry first. -/
abbrev ChannelLog (Batch Producer Consumer : Type*) := List (LogEntry Batch Producer Consumer)

namespace ChannelLog

/-- What the ring holds, the oldest first. -/
def stored : ChannelLog Batch Producer Consumer → List (StreamBatch Batch)
  | [] => []
  | .accepted _ payload :: log => stored log ++ [payload]
  | .marker :: log => stored log ++ [{ isEof := true }]
  | .delivered _ _ :: log => (stored log).tail
  | .ended _ .marker :: log => (stored log).tail
  | _ :: log => stored log

/-- The batches that a `Put` has put into the ring, in order. -/
def accepted : ChannelLog Batch Producer Consumer → List (StreamBatch Batch)
  | [] => []
  | .accepted _ payload :: log => accepted log ++ [payload]
  | _ :: log => accepted log

/-- The batches that consumers have taken out of it, in order. -/
def delivered : ChannelLog Batch Producer Consumer → List (StreamBatch Batch)
  | [] => []
  | .delivered _ payload :: log => delivered log ++ [payload]
  | _ :: log => delivered log

/-- Such an entry is in the log, since the last `Open`. -/
def since (kind : LogEntry Batch Producer Consumer → Bool) :
    ChannelLog Batch Producer Consumer → Bool
  | [] => false
  | entry :: log => kind entry || (!entry.isOpened && since kind log)

/-- The batches among what the ring holds. -/
def data (payloads : List (StreamBatch Batch)) : List (StreamBatch Batch) :=
  payloads.filter (!·.isEof)

def noMarker (payloads : List (StreamBatch Batch)) : Bool := payloads.all (!·.isEof)

/-- The entry may come after this log. -/
def Lawful (log : ChannelLog Batch Producer Consumer) : LogEntry Batch Producer Consumer → Prop
  | .accepted _ payload =>
      payload.isEof = false ∧ noMarker (stored log) = true ∧ since (·.isEnded) log = false
  | .marker => since (·.isEnding) log = true
  | .delivered _ payload => payload.isEof = false ∧ (stored log).head? = some payload
  | .ended _ .marker => ∃ payload, payload.isEof = true ∧ (stored log).head? = some payload
  | .ended _ _ => stored log = [] ∧ since (·.isEnding) log = true
  | .opened => noMarker (stored log) = true
  | .refused _ _ | .ending | .closed | .timedOut _ | .error _ => True

def Legal : ChannelLog Batch Producer Consumer → Prop
  | [] => True
  | entry :: log => Lawful log entry ∧ Legal log

variable {log : ChannelLog Batch Producer Consumer}

theorem Legal.of_append {later earlier : ChannelLog Batch Producer Consumer}
    (legal : Legal (later ++ earlier)) : Legal earlier := by
  induction later with
  | nil => exact legal
  | cons entry later ih => exact ih legal.2

/-! ## Batches and markers -/

/-- All batches in front, all markers behind them. -/
def Tidy (payloads : List (StreamBatch Batch)) : Prop :=
  ∃ batches markers, payloads = batches ++ markers ∧ noMarker batches = true ∧
    ∀ marker ∈ markers, marker.isEof = true

theorem Tidy.tail {payloads : List (StreamBatch Batch)} (tidy : Tidy payloads) :
    Tidy payloads.tail := by
  obtain ⟨batches, markers, rfl, clean, ends⟩ := tidy
  cases batches with
  | nil => exact ⟨[], markers.tail, rfl, rfl, fun marker member =>
      ends marker (List.mem_of_mem_tail member)⟩
  | cons batch batches =>
      refine ⟨batches, markers, rfl, ?_, ends⟩
      rw [noMarker, List.all_cons, Bool.and_eq_true] at clean
      exact clean.2

theorem Tidy.push_data {payloads : List (StreamBatch Batch)} (clean : noMarker payloads = true)
    {payload : StreamBatch Batch} (isData : payload.isEof = false) :
    Tidy (payloads ++ [payload]) := by
  refine ⟨payloads ++ [payload], [], (List.append_nil _).symm, ?_, fun _ member => nomatch member⟩
  rw [noMarker, List.all_append, Bool.and_eq_true]
  exact ⟨clean, by simp [isData]⟩

theorem Tidy.push_marker {payloads : List (StreamBatch Batch)} (tidy : Tidy payloads)
    {payload : StreamBatch Batch} (isEof : payload.isEof = true) :
    Tidy (payloads ++ [payload]) := by
  obtain ⟨batches, markers, rfl, clean, ends⟩ := tidy
  refine ⟨batches, markers ++ [payload], List.append_assoc _ _ _, clean, fun marker member => ?_⟩
  rcases List.mem_append.mp member with old | new
  · exact ends marker old
  · rw [List.mem_singleton.mp new]
    exact isEof

/-- Once a marker is in front, no batch is left. -/
theorem Tidy.data_nil {payloads : List (StreamBatch Batch)} (tidy : Tidy payloads)
    {payload : StreamBatch Batch} (head : payloads.head? = some payload)
    (isEof : payload.isEof = true) : data payloads = [] := by
  obtain ⟨batches, markers, rfl, clean, ends⟩ := tidy
  cases batches with
  | nil =>
      refine List.filter_eq_nil_iff.mpr fun marker member => ?_
      simp [ends marker member]
  | cons batch batches =>
      cases head
      rw [noMarker, List.all_cons, Bool.and_eq_true, isEof] at clean
      exact nomatch clean.1

theorem Legal.tidy (legal : Legal log) : Tidy (stored log) := by
  induction log with
  | nil => exact ⟨[], [], rfl, rfl, fun _ member => nomatch member⟩
  | cons entry log ih =>
      have tidy := ih legal.2
      cases entry with
      | accepted producer payload => exact .push_data legal.1.2.1 legal.1.1
      | marker => exact tidy.push_marker rfl
      | delivered consumer payload => exact tidy.tail
      | ended consumer kind =>
          cases kind with
          | marker => exact tidy.tail
          | finished => exact tidy
          | drainedAfterCancel => exact tidy
      | opened => exact tidy
      | refused producer code => exact tidy
      | ending => exact tidy
      | closed => exact tidy
      | timedOut consumer => exact tidy
      | error consumer => exact tidy

/-! ## What a legal log says -/

theorem data_append (left right : List (StreamBatch Batch)) :
    data (left ++ right) = data left ++ data right :=
  List.filter_append left right

theorem eq_cons_of_head? {payloads : List (StreamBatch Batch)} {payload : StreamBatch Batch}
    (head : payloads.head? = some payload) : payloads = payload :: payloads.tail := by
  cases payloads with
  | nil => cases head
  | cons first rest =>
      cases head
      rfl

/-- Every accepted batch was delivered, in order, or is still in the ring. -/
theorem Legal.fifo (legal : Legal log) : accepted log = delivered log ++ data (stored log) := by
  induction log with
  | nil => rfl
  | cons entry log ih =>
      have before := ih legal.2
      cases entry with
      | accepted producer payload =>
          have isData : data [payload] = [payload] := by simp [data, legal.1.1]
          change accepted log ++ [payload] = delivered log ++ data (stored log ++ [payload])
          rw [before, data_append, isData, List.append_assoc]
      | marker =>
          change accepted log = delivered log ++ data (stored log ++ [{ isEof := true }])
          rw [before, data_append]
          exact congrArg _ (List.append_nil _).symm
      | delivered consumer payload =>
          change accepted log = (delivered log ++ [payload]) ++ data (stored log).tail
          have isData : data (payload :: (stored log).tail) =
              payload :: data (stored log).tail := by simp [data, legal.1.1]
          rw [before, eq_cons_of_head? legal.1.2, isData, List.append_assoc]
          rfl
      | ended consumer kind =>
          cases kind with
          | marker =>
              obtain ⟨payload, isEof, head⟩ := legal.1
              change accepted log = delivered log ++ data (stored log).tail
              have skipped : data (payload :: (stored log).tail) = data (stored log).tail := by
                simp [data, isEof]
              rw [before, ← skipped, ← eq_cons_of_head? head]
          | finished => exact before
          | drainedAfterCancel => exact before
      | opened => exact before
      | refused producer code => exact before
      | ending => exact before
      | closed => exact before
      | timedOut consumer => exact before
      | error consumer => exact before

theorem since_cons_of_not_opened {kind : LogEntry Batch Producer Consumer → Bool}
    {entry : LogEntry Batch Producer Consumer} (same : entry.isOpened = false) :
    since kind (entry :: log) = (kind entry || since kind log) := by
  rw [since, same, Bool.not_false, Bool.true_and]

theorem noMarker_of_tail {payloads : List (StreamBatch Batch)}
    (marked : noMarker payloads.tail = false) : noMarker payloads = false := by
  cases payloads with
  | nil => exact marked
  | cons first rest =>
      rw [noMarker, List.all_cons]
      exact (congrArg _ marked).trans (Bool.and_false _)

/-- A marker is only there once the end has begun. -/
theorem Legal.ending_of_marker (legal : Legal log) (marked : noMarker (stored log) = false) :
    since (·.isEnding) log = true := by
  induction log with
  | nil => cases marked
  | cons entry log ih =>
      have before := ih legal.2
      cases entry with
      | accepted producer payload =>
          change noMarker (stored log ++ [payload]) = false at marked
          have clean : noMarker (stored log ++ [payload]) = true := by
            rw [noMarker, List.all_append, Bool.and_eq_true]
            exact ⟨legal.1.2.1, by simp [legal.1.1]⟩
          rw [clean] at marked
          cases marked
      | marker => exact legal.1
      | delivered consumer payload => exact before (noMarker_of_tail marked)
      | ended consumer kind =>
          cases kind with
          | marker => exact before (noMarker_of_tail marked)
          | finished => exact before marked
          | drainedAfterCancel => exact before marked
      | opened =>
          have clean : noMarker (stored log) = true := legal.1
          change noMarker (stored log) = false at marked
          rw [clean] at marked
          cases marked
      | refused producer code => exact before marked
      | ending => rfl
      | closed => exact before marked
      | timedOut consumer => exact before marked
      | error consumer => exact before marked

/-- After an end the ring holds no batch until the next `Open`. -/
theorem Legal.data_of_ended (legal : Legal log) (ended : since (·.isEnded) log = true) :
    data (stored log) = [] := by
  induction log with
  | nil => cases ended
  | cons entry log ih =>
      have before := ih legal.2
      cases entry with
      | accepted producer payload =>
          change since (·.isEnded) log = true at ended
          rw [legal.1.2.2] at ended
          cases ended
      | marker =>
          change data (stored log ++ [{ isEof := true }]) = []
          rw [data_append, before ended]
          rfl
      | delivered consumer payload =>
          have none_ := before ended
          rw [eq_cons_of_head? legal.1.2, data, List.filter_cons_of_pos (by simp [legal.1.1])]
            at none_
          cases none_
      | ended consumer kind =>
          cases kind with
          | marker =>
              obtain ⟨payload, isEof, head⟩ := legal.1
              have none_ := legal.2.tidy.data_nil head isEof
              rw [eq_cons_of_head? head, data, List.filter_cons_of_neg (by simp [isEof])] at none_
              exact none_
          | finished =>
              change data (stored log) = []
              rw [legal.1.1]
              rfl
          | drainedAfterCancel =>
              change data (stored log) = []
              rw [legal.1.1]
              rfl
      | opened => cases ended
      | refused producer code => exact before ended
      | ending => exact before ended
      | closed => exact before ended
      | timedOut consumer => exact before ended
      | error consumer => exact before ended

/-- At an end everything accepted was delivered, and the end had begun. -/
theorem Legal.complete {later earlier : ChannelLog Batch Producer Consumer} {consumer : Consumer}
    {kind : EndKind} (legal : Legal (later ++ .ended consumer kind :: earlier)) :
    accepted earlier = delivered earlier ∧ since (·.isEnding) earlier = true := by
  have from_ := legal.of_append
  have fifo := from_.2.fifo
  cases kind with
  | marker =>
      obtain ⟨payload, isEof, head⟩ := from_.1
      rw [from_.2.tidy.data_nil head isEof, List.append_nil] at fifo
      refine ⟨fifo, from_.2.ending_of_marker ?_⟩
      rw [eq_cons_of_head? head, noMarker, List.all_cons, isEof]
      rfl
  | finished =>
      rw [from_.1.1] at fifo
      exact ⟨fifo.trans (List.append_nil _), from_.1.2⟩
  | drainedAfterCancel =>
      rw [from_.1.1] at fifo
      exact ⟨fifo.trans (List.append_nil _), from_.1.2⟩

theorem since_append {kind : LogEntry Batch Producer Consumer → Bool}
    {later earlier : ChannelLog Batch Producer Consumer}
    (open_ : ∀ entry ∈ later, entry.isOpened = false) (happened : since kind earlier = true) :
    since kind (later ++ earlier) = true := by
  induction later with
  | nil => exact happened
  | cons entry later ih =>
      have rest := ih fun other member => open_ other (List.mem_cons_of_mem _ member)
      rw [List.cons_append, since_cons_of_not_opened (open_ entry List.mem_cons_self), rest,
        Bool.or_true]

/-- After an end nothing is delivered until the next `Open`. -/
theorem Legal.silent {later earlier : ChannelLog Batch Producer Consumer} {consumer : Consumer}
    {kind : EndKind} (legal : Legal (later ++ .ended consumer kind :: earlier))
    (open_ : ∀ entry ∈ later, entry.isOpened = false) (other : Consumer)
    (payload : StreamBatch Batch) : .delivered other payload ∉ later := by
  intro member
  obtain ⟨before, after, rfl⟩ := List.append_of_mem member
  have split_ : (before ++ .delivered other payload :: after) ++ .ended consumer kind :: earlier =
      before ++ .delivered other payload :: (after ++ .ended consumer kind :: earlier) := by
    simp
  rw [split_] at legal
  have from_ := legal.of_append
  have ended : since (·.isEnded) (after ++ .ended consumer kind :: earlier) = true := by
    refine since_append (fun entry inside => open_ entry ?_) rfl
    exact List.mem_append_right _ (List.mem_cons_of_mem _ inside)
  have none_ := from_.2.data_of_ended ended
  rw [eq_cons_of_head? from_.1.2, data, List.filter_cons_of_pos (by simp [from_.1.1])] at none_
  cases none_

end ChannelLog

end Flowsql.Stream
