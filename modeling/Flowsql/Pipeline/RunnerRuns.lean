import Flowsql.Pipeline.RunnerContract

/-!
# Runs of the pipeline keep the contract

One lemma for each part of a run, from where it starts to how it ends, and from these the run as a
whole.
-/

namespace Flowsql.Pipeline.Runner

open Flowsql.Library Flowsql.Library.Contract

/-! ## Where a run is -/

/-- What the ledger says of a run. -/
structure Spot where
  held : Option Held := none
  due : List Output := []
  stopped : Bool := false
  requests : Requests := {}
  failed : Bool := false
  flushed : Bool := false

/-- The ledger agrees with this, and with what the run remembers. -/
structure At (progress : Progress) (spot : Spot) (ledger : Ledger) : Prop where
  counts : ledger.counts = progress.counts
  held : ledger.held = spot.held
  due : ledger.due = spot.due
  stopped : ledger.stopped = spot.stopped
  requests : ledger.requests = spot.requests
  failed : ledger.failed = spot.failed
  flushed : ledger.flushed = spot.flushed
  ordered : ledger.ordered = true
  reading : ledger.reading =
    if progress.lastMonotonicNowNs < 0 then none else some progress.lastMonotonicNowNs

/-- Something has gone wrong, or the run is about to end. -/
structure Broken (progress : Progress) (held : Option Held) (ledger : Ledger) : Prop where
  counts : ledger.counts = progress.counts
  held : ledger.held.map Held.batch = held.map Held.batch

/-- How a part of the run ends: as it should, or with a failure that is no cancellation. -/
def Yields {α : Type} (held : Option Held) (good : α → Progress → Ledger → Prop) :
    Progress × Except Failure α → Ledger → Prop
  | (progress, .ok value), last => good value progress last
  | (progress, .error failure), last => Broken progress held last ∧ failure.code ≠ .cancelled

/-- The same for a part that remembers nothing. -/
def Ends {α : Type} (progress : Progress) (held : Option Held) (good : α → Ledger → Prop) :
    Except Failure α → Ledger → Prop
  | .ok value, last => good value last
  | .error failure, last => Broken progress held last ∧ failure.code ≠ .cancelled

attribute [local simp] laws record note goesWrong

variable {config : Config} {ledger : Ledger} {progress : Progress} {spot : Spot}
  {outputs : List Output}

theorem At.broken (here : At progress spot ledger) : Broken progress spot.held ledger :=
  ⟨here.counts, by rw [here.held]⟩

theorem At.facts (here : At progress spot ledger) : ledger.counts = progress.counts ∧
    ledger.held = spot.held ∧ ledger.due = spot.due ∧ ledger.stopped = spot.stopped ∧
    ledger.requests = spot.requests ∧ ledger.failed = spot.failed ∧ ledger.flushed = spot.flushed ∧
    ledger.ordered = true ∧ ledger.reading =
      if progress.lastMonotonicNowNs < 0 then none else some progress.lastMonotonicNowNs :=
  ⟨here.1, here.2, here.3, here.4, here.5, here.6, here.7, here.8, here.9⟩

/-- A call that the ledger need not remember. -/
theorem At.record_plain (here : At progress spot ledger) (query : Query) (answer : Answer query)
    (plain : note ledger query answer = ledger)
    (right : goesWrong config ledger query answer = false) :
    At progress spot (record config ledger query answer) := by
  unfold record
  rw [plain, right, Bool.or_false]
  exact { here with }

/-! ## Outputs -/

theorem deliverEach_meets (here : At progress { spot with due := outputs } ledger) :
    (laws config forgiving).Meets (Yields spot.held fun () progress last =>
      At progress { spot with due := [] } last) ledger (deliverEach outputs progress) := by
  induction outputs generalizing progress ledger with
  | nil => exact here
  | cons output rest ih =>
      refine meets_call (by simp [allowed, here.due]) fun answer _ => ?_
      cases answer with
      | error text => exact ⟨⟨here.counts, here.broken.held⟩, by simp⟩
      | ok batch =>
          refine meets_call (by simp [allowed]) fun answer _ => ?_
          cases answer with
          | error thrown => exact ⟨⟨here.counts, here.broken.held⟩, by simp⟩
          | ok code =>
              by_cases fails : code ≠ 0
              · simp only [if_pos fails]
                refine ⟨⟨?_, ?_⟩, by simp⟩
                · simp [codeFails, fails, here.counts]
                · simp [codeFails, fails, here.held]
              · simp only [if_neg fails]
                refine ih ?_
                constructor <;> simp [codeFails, isError, fails, here.facts]

/-- A missing batch counts as an error from the moment it is returned. -/
theorem deliverOutputs_meets (spot : Spot) (here : At progress
      { spot with due := outputs, failed := outputs.any (·.batch.isNone) } ledger) :
    (laws config forgiving).Meets (Yields spot.held fun () progress last =>
      At progress { spot with due := [], failed := false } last) ledger
        (deliverOutputs outputs progress) := by
  unfold deliverOutputs
  split
  next missing => exact ⟨⟨here.counts, here.broken.held⟩, by simp⟩
  next present =>
    rw [Bool.eq_false_iff.mpr present] at here
    exact @deliverEach_meets config ledger progress { spot with failed := false } outputs here

/-! ## The status of a call -/

theorem transformError_meets : (laws config forgiving).Meets (fun _ last =>
    last.counts = ledger.counts ∧ last.held = ledger.held) ledger transformError := by
  refine meets_call rfl fun detail _ => ?_
  cases detail with
  | error _ => exact ⟨rfl, rfl⟩
  | ok text => exact ⟨rfl, rfl⟩

theorem checkStatus_meets (what : String) (valid : Int → Bool)
    (answer : Except Thrown Int × List Output) :
    (laws config forgiving).Meets (fun result last => match result with
      | .ok status => last = ledger ∧ answer.1 = .ok status ∧ valid status = true
      | .error failure =>
          last.counts = ledger.counts ∧ last.held = ledger.held ∧ failure.code ≠ .cancelled)
      ledger (checkStatus what valid answer) := by
  obtain ⟨result, returned⟩ := answer
  unfold checkStatus
  cases result with
  | error thrown =>
      refine ⟨rfl, rfl, ?_⟩
      dsimp only
      split <;> simp
  | ok status =>
      dsimp only
      split
      next fine => exact ⟨rfl, rfl, fine⟩
      split
      · exact ⟨rfl, rfl, by simp⟩
      · refine transformError_meets.bind fun detail last after => ?_
        exact ⟨after.1, after.2, by simp⟩

/-! ## Time -/

theorem readMonotonicNow_meets (here : At progress spot ledger) :
    (laws config forgiving).Meets (fun (result : Progress × Except String Int) last =>
      match result with
      | (progress, .ok now) =>
          At progress spot last ∧ last.reading = some now ∧ last.fired = none
      | (progress, .error _) => Broken progress spot.held last) ledger
        (readMonotonicNow progress) := by
  refine meets_call rfl fun answer _ => ?_
  cases answer with
  | error thrown => exact ⟨here.counts, here.broken.held⟩
  | ok value =>
      dsimp only
      split
      next => exact ⟨here.counts, here.broken.held⟩
      next positive =>
      split
      next => exact ⟨here.counts, here.broken.held⟩
      next forward =>
      have later : ledger.reading.any (value < ·) = false := by
        rw [here.reading]
        split
        · rfl
        next ready =>
          have notBefore : ¬value < progress.lastMonotonicNowNs := fun before =>
            forward ⟨Int.not_lt.mp ready, before⟩
          simp [notBefore]
      refine ⟨⟨here.counts, here.held, here.due, here.stopped, here.requests, ?_, here.flushed,
        ?_, ?_⟩, rfl, rfl⟩
      · simp [later, positive, here.failed]
      · simp [later, here.ordered]
      · simp [positive]

theorem getTimeState_meets (here : At progress spot ledger) :
    (laws config forgiving).Meets (fun result last => match result with
      | .ok deadline =>
          last.armed = deadline ∧ last.reading = ledger.reading ∧
            At progress { spot with
              failed := spot.failed || ledger.fired.any fun now => deadline.any (· ≤ now) } last ∧
            (spot.stopped = true →
              (deadline.any fun deadline => ledger.reading.any (deadline ≤ ·)) = false)
      | .error _ => Broken progress spot.held last) ledger getTimeState := by
  refine meets_call rfl fun answer honest => ?_
  have mild := honest.2
  cases wrong : timeStateError answer with
  | some message => exact ⟨here.counts, here.broken.held⟩
  | none =>
      cases answer with
      | error thrown => cases wrong
      | ok answered =>
          obtain ⟨code, state⟩ := answered
          have armed : armedBy (.ok (code, state)) = state.deadline? := by
            unfold armedBy
            rw [wrong]
          refine ⟨armed, rfl, ⟨here.counts, here.held, here.due, here.stopped, here.requests, ?_,
            here.flushed, here.ordered, here.reading⟩, fun stopped => ?_⟩
          · simp [wrong, armed, here.failed]
          · simpa [forgiving, here.stopped, stopped, armed] using mild

/-- What the ledger says of a call of the transform. -/
theorem statusFails_of_ok {status : Int} {valid : Int → Bool} (fine : valid status = true) :
    statusFails valid (.ok status, outputs) = outputs.any (·.batch.isNone) := by
  simp [statusFails, fine]

theorem deliverTime_meets (spot : Spot) {status : Int}
    (here : At progress { spot with
      due := outputs, failed := outputs.any (·.batch.isNone) } ledger) :
    (laws config forgiving).Meets (Yields spot.held fun service progress last =>
      service.timeStopped = decide (status = kStop) ∧
        At progress { spot with due := [], failed := false } last) ledger
          (deliverTime config status outputs progress) := by
  refine (deliverOutputs_meets spot here).bind fun result last after => ?_
  obtain ⟨progress, failure | ⟨⟩⟩ := result
  · exact after
  · exact ⟨rfl, after⟩

theorem finishTime_meets (spot : Spot) {status now : Int}
    (here : At progress { spot with
      due := outputs, failed := outputs.any (·.batch.isNone) } ledger)
    (fired : ledger.fired = if status = kStop then none else some now) :
    (laws config forgiving).Meets (Yields spot.held fun service progress last =>
      service.timeStopped = decide (status = kStop) ∧
        At progress { spot with due := [], failed := false } last)
          ledger (finishTime config status now outputs progress) := by
  unfold finishTime
  split
  next goesOn =>
    refine (getTimeState_meets here).bind fun result last after => ?_
    cases result with
    | error message => exact ⟨after, by simp⟩
    | ok deadline =>
        dsimp only
        split
        next => exact ⟨after.2.2.1.broken, by simp⟩
        next ahead =>
          refine deliverTime_meets spot ?_
          have there := after.2.2.1
          rw [fired, if_neg (by rw [goesOn]; decide), Option.any_some,
            Bool.eq_false_iff.mpr ahead, Bool.or_false] at there
          exact there
  next => exact deliverTime_meets spot here

theorem fireTime_meets {now deadline : Int}
    (here : At progress { spot with due := [], failed := false } ledger)
    (running : spot.stopped = false) (reading : ledger.reading = some now)
    (armed : ledger.armed = some deadline) (due : deadline ≤ now) :
    (laws config forgiving).Meets (Yields spot.held fun service progress last =>
      At progress { spot with due := [], failed := false, stopped := service.timeStopped } last)
        ledger (fireTime config now progress) := by
  refine meets_call rfl fun answer _ => ?_
  cases answer with
  | error thrown => exact ⟨⟨here.counts, here.broken.held⟩, by simp⟩
  | ok wallNow =>
      refine meets_call ?_ fun answer _ => ?_
      · simp [allowed, here.stopped, running, here.ordered, reading, armed, due]
      · refine (checkStatus_meets "OnTime" validStatus answer).bind fun result last after => ?_
        cases result with
        | error failure =>
            exact ⟨⟨after.1.trans here.counts, by rw [after.2.1]; exact here.broken.held⟩,
              after.2.2⟩
        | ok status =>
            obtain ⟨rfl, returned, fine⟩ := after
            obtain ⟨result, returnedOutputs⟩ := answer
            cases returned
            refine (finishTime_meets { spot with stopped := decide (status = kStop) }
              ?_ ?_).mono fun result last after => ?_
            · constructor <;> simp [isError, statusFails_of_ok fine, returnsStop, running, here.facts]
            · simp [returnsStop]
            · obtain ⟨progress, failure | service⟩ := result
              · exact after
              · change At _ { spot with
                  due := [], failed := false, stopped := service.timeStopped } _
                rw [after.1]
                exact after.2

theorem serviceTime_meets (spot : Spot)
    (here : At progress { spot with due := [], failed := false } ledger) :
    (laws config forgiving).Meets (Yields spot.held fun service progress last =>
      At progress { spot with
        due := [], failed := false, stopped := spot.stopped || service.timeStopped } last)
        ledger (serviceTime config progress) := by
  have same : ∀ {progress last}, At progress { spot with due := [], failed := false } last →
      At progress { spot with due := [], failed := false, stopped := spot.stopped || false }
        last := by
    intro progress last here
    rw [Bool.or_false]
    exact here
  unfold serviceTime
  split
  · exact same here
  refine (readMonotonicNow_meets here).bind fun result last after => ?_
  obtain ⟨progress, message | now⟩ := result
  · exact ⟨after, by simp⟩
  obtain ⟨here, reading, fired⟩ := after
  refine (getTimeState_meets here).bind fun result last after => ?_
  cases result with
  | error message => exact ⟨after, by simp⟩
  | ok armed =>
      obtain ⟨armedEq, readingEq, here, mild⟩ := after
      rw [fired, Option.any_none, Bool.or_false] at here
      cases armed with
      | none => exact same here
      | some deadline =>
          dsimp only
          split
          next => exact same here
          next due =>
          have running : spot.stopped = false := by
            refine Bool.eq_false_iff.mpr fun stopped => ?_
            have ahead := mild stopped
            simp [reading] at ahead
            omega
          refine (fireTime_meets here running (readingEq.trans reading) armedEq
            (by omega)).mono fun result last after => ?_
          obtain ⟨progress, failure | service⟩ := result
          · exact after
          · rw [running]
            exact after

/-! ## Requests -/

/-- After a read of the flags. -/
theorem At.requests_read (here : At progress spot ledger) (requests : Requests) :
    At progress { spot with requests := requests }
      { ledger with requests := requests, failed := ledger.failed || false } :=
  ⟨here.counts, here.held, here.due, here.stopped, rfl, by rw [Bool.or_false]; exact here.failed,
    here.flushed, here.ordered, here.reading⟩

/-- What `stopping() && !cancelled()` has seen. -/
theorem stopsOnly_meets (here : At progress spot ledger) :
    (laws config forgiving).Meets (fun stop last =>
      if stop then
        At progress { spot with requests.stopRequested := true } last
      else
        At progress spot last ∨ At progress
          { spot with requests.stopRequested := true, requests.cancelled := true } last)
      ledger (stopsOnly config) := by
  have requests := here.requests
  unfold stopsOnly stopping
  split
  next =>
    refine meets_call rfl fun stop _ => ?_
    cases stop with
    | false =>
        refine .inl ?_
        have read := here.requests_read ledger.requests
        rw [requests] at read
        simpa [requests] using read
    | true =>
        refine meets_call rfl fun cancelled _ => ?_
        have read := here.requests_read { spot.requests with
          stopRequested := true, cancelled := spot.requests.cancelled || cancelled }
        cases cancelled with
        | false =>
            change At progress { spot with requests.stopRequested := true } _
            simpa [requests] using read
        | true => exact .inr (by simpa [requests] using read)
  next => exact .inl here

/-- A read that finds no request to cancel. -/
theorem At.not_cancelled (here : At progress spot ledger)
    (honest : (laws config forgiving).honest ledger .cancelled false) :
    spot.requests.cancelled = false ∧
      At progress spot ((laws config forgiving).record ledger .cancelled false) := by
  have before : ledger.requests.cancelled = false := by
    simpa [steady] using honest.1
  refine ⟨here.requests ▸ before, ?_⟩
  have read := here.requests_read ledger.requests
  rw [here.requests] at read
  simpa [here.requests] using read

theorem returnCancelled_meets (broken : Broken progress none ledger) (message : String) :
    (laws config forgiving).Meets Closed ledger (returnCancelled progress.counts message) :=
  meets_call rfl fun _ _ => ⟨Option.map_eq_none_iff.mp broken.held, broken.counts.symm, by simp⟩

theorem fail_meets (broken : Broken progress none ledger) {failure : Failure}
    (code : failure.code ≠ .cancelled) :
    (laws config forgiving).Meets Closed ledger (fail progress.counts failure) := by
  refine meets_call rfl fun cancelled _ => meets_call rfl fun _ _ => ?_
  refine ⟨Option.map_eq_none_iff.mp broken.held, broken.counts.symm, ?_⟩
  cases wasCancelled : cancelled && decide (failure.code ≠ .transformContractViolation) with
  | true => simp
  | false => simp [code]

/-! ## One block -/

/-- The call of the transform. -/
theorem processBlock_meets {filtered : Batch}
    (here : At progress { spot with failed := false } ledger)
    (running : spot.stopped = false) :
    (laws config forgiving).Meets (fun result last => match result with
      | .ok (status, outputs) =>
          At progress { spot with
            held := spot.held.map fun held => { held with accepted := true }
            due := outputs, failed := outputs.any (·.batch.isNone)
            stopped := decide (status = kStop) } last
      | .error _ => Broken progress spot.held last) ledger (processBlock filtered) := by
  refine meets_call ?_ fun answer _ => ?_
  · simp [allowed, here.stopped, running]
  refine (checkStatus_meets "ProcessBlock" validStatus answer).bind fun result last after => ?_
  cases result with
  | error failure =>
      refine ⟨after.1.trans here.counts, ?_⟩
      rw [after.2.1]
      simp [Option.map_map, Function.comp_def, here.held]
  | ok status =>
      obtain ⟨rfl, returned, fine⟩ := after
      obtain ⟨result, returnedOutputs⟩ := answer
      cases returned
      constructor <;>
        simp [statusFails_of_ok fine, returnsStop, returnsStatus, fine, running, here.facts]

/-- The filter and the transform, for a block whose facts may be wrong. -/
theorem transformBlock_meets (spot : Spot) {batch : Batch} {facts : List CaptureProgress}
    (here : At progress
      { spot with failed := (captureContractError config batch facts).isSome } ledger)
    (running : spot.stopped = false) :
    (laws config forgiving).Meets (fun result last => match result with
      | .ok (status, outputs) =>
          At progress { spot with
            held := spot.held.map fun held => { held with accepted := true }
            due := outputs, failed := outputs.any (·.batch.isNone)
            stopped := decide (status = kStop) } last
      | .error _ => Broken progress spot.held last) ledger (transformBlock config batch facts) := by
  unfold transformBlock
  cases wrong : captureContractError config batch facts with
  | some message => exact here.broken
  | none =>
      rw [wrong, Option.isSome_none] at here
      refine meets_call rfl fun cancelled honest => ?_
      cases cancelled with
      | true => exact ⟨here.counts, here.broken.held⟩
      | false =>
          obtain ⟨-, here⟩ := here.not_cancelled honest
          refine meets_call rfl fun answer _ => ?_
          cases answer with
          | error text => exact ⟨here.counts, here.broken.held⟩
          | ok filtered => exact processBlock_meets (here.record_plain _ _ rfl rfl) running

theorem acceptFacts_meets {facts : List CaptureProgress} (here : At progress spot ledger) :
    (laws config forgiving).Meets (Ends progress spot.held fun () last =>
      At progress { spot with
          held := spot.held.map fun held => { held with factsAccepted := true } } last)
      ledger (acceptFacts facts) := by
  have broken : ∀ answer, Broken progress spot.held
      (record config ledger (.acceptCaptureFacts facts) answer) := by
    intro answer
    refine ⟨here.counts, ?_⟩
    rw [← here.held]
    simp [Option.map_map, Function.comp_def]
  refine meets_call rfl fun answer _ => ?_
  cases answer with
  | error thrown => exact ⟨broken _, by simp⟩
  | ok code =>
      dsimp only
      split
      next => exact ⟨broken _, by simp⟩
      next fine =>
        constructor <;> simp [codeFails, fine, here.facts]

theorem acknowledge_meets {held : Held} (here : At progress spot ledger)
    (holding : spot.held = some held) (delivered : spot.due = []) (accepted : held.accepted = true)
    (factsAccepted : held.factsAccepted = true) (first : held.acknowledged = false) :
    (laws config forgiving).Meets (Ends progress spot.held fun () last =>
      ∃ now : Held, now.batch = held.batch ∧
          At progress { spot with held := some now } last)
      ledger (acknowledge config held.batch) := by
  have broken : ∀ answer, Broken progress spot.held
      (record config ledger (.acknowledgeBlock held.batch) answer) := by
    intro answer
    refine ⟨here.counts, ?_⟩
    rw [← here.held]
    simp [Option.map_map, Function.comp_def]
  unfold acknowledge
  split
  · refine ⟨held, rfl, ?_⟩
    rw [← holding]
    exact here
  refine meets_call ?_ fun answer _ => ?_
  · simp [allowed, here.due, delivered, holdsBlock, here.held, holding, accepted, factsAccepted,
      first]
  cases answer with
  | error thrown => exact ⟨broken _, by simp⟩
  | ok code =>
      dsimp only
      split
      next => exact ⟨broken _, by simp⟩
      next fine =>
        refine ⟨{ held with acknowledged := true }, rfl, ?_⟩
        constructor <;> simp [codeFails, fine, holding, here.facts]

/-- The state between the delivery of the outputs of a block and its release. -/
theorem confirmBlock_meets {held : Held} {facts : List CaptureProgress} {status : Int}
    (here : At progress { held := some held, stopped := decide (status = kStop) } ledger)
    (accepted : held.accepted = true) (factsAccepted : held.factsAccepted = true)
    (first : held.acknowledged = false) :
    (laws config forgiving).Meets (Yields (some held) fun status progress last =>
      ∃ now : Held, now.batch = held.batch ∧
        At progress { held := some now, stopped := decide (status = kStop) } last) ledger
        (confirmBlock config held.batch facts status progress) := by
  unfold confirmBlock
  split
  · refine (acknowledge_meets here rfl rfl accepted factsAccepted first).bind
      fun result last after => ?_
    cases result with
    | error failure => exact after
    | ok done => exact after
  · refine (serviceTime_meets
      { held := some held, stopped := decide (status = kStop) } here).bind
      fun result last after => ?_
    obtain ⟨progress, failure | service⟩ := result
    · exact after
    have final : decide ((if service.timeStopped then kStop else status) = kStop) =
        (decide (status = kStop) || service.timeStopped) := by
      cases service.timeStopped <;> simp
    refine (acknowledge_meets after rfl rfl accepted factsAccepted first).bind
      fun result last after => ?_
    cases result with
    | error failure => exact after
    | ok done =>
        obtain ⟨now, same, there⟩ := after
        refine ⟨now, same, ?_⟩
        rw [final]
        exact there

theorem handleBlock_meets {batch : Batch} {facts : List CaptureProgress}
    (here : At progress
      { held := some { batch := batch, factsAccepted := facts.isEmpty }
        failed := (captureContractError config batch facts).isSome } ledger) :
    (laws config forgiving).Meets (fun (result : Progress × Except Failure Int) last =>
      match result with
      | (progress, .ok status) => ∃ now : Held, now.batch = batch ∧
          At progress { held := some now, stopped := decide (status = kStop) } last
      | (progress, .error _) => ∃ now : Held, now.batch = batch ∧
          Broken progress (some now) last) ledger (handleBlock config batch facts progress) := by
  refine (transformBlock_meets
    { held := some { batch := batch, factsAccepted := facts.isEmpty } } here rfl).bind
    fun result last after => ?_
  obtain failure | ⟨status, outputs⟩ := result
  · exact ⟨_, rfl, after⟩
  -- the facts are accepted, if there are any
  have facts_ : (laws config forgiving).Meets (fun result last => match result with
      | .ok () => At progress
          { held := some { batch := batch, accepted := true, factsAccepted := true }
            due := outputs, failed := outputs.any (·.batch.isNone)
            stopped := decide (status = kStop) } last
      | .error failure => Broken progress
          (some { batch := batch, accepted := true, factsAccepted := facts.isEmpty }) last)
      last (if facts.isEmpty then pure (.ok ()) else acceptFacts facts) := by
    split
    next none_ =>
      rw [none_] at after
      exact after
    next =>
      refine (acceptFacts_meets after).mono fun result last after => ?_
      cases result with
      | ok done => exact after
      | error failure => exact after.1
  refine facts_.bind fun result last after => ?_
  cases result with
  | error failure => exact ⟨_, rfl, after⟩
  | ok done =>
      refine (deliverOutputs_meets
        { held := some { batch := batch, accepted := true, factsAccepted := true }
          stopped := decide (status = kStop) } after).bind fun result last after => ?_
      obtain ⟨progress, failure | ⟨⟩⟩ := result
      · exact ⟨_, rfl, after.1⟩
      · refine (confirmBlock_meets after rfl rfl rfl).mono fun result last after => ?_
        obtain ⟨progress, failure | status⟩ := result
        · exact ⟨_, rfl, after.1⟩
        · exact after

/-- The release comes whatever has happened to the block. -/
theorem releaseBlock_meets {batch : Batch} (handled : Except Failure Int) {held : Held}
    (same : held.batch = batch)
    (here : match handled with
      | .ok status => At progress { held := some held, stopped := decide (status = kStop) } ledger
      | .error _ => Broken progress (some held) ledger) :
    (laws config forgiving).Meets (fun result last => match result with
      | .ok status => At progress { stopped := decide (status = kStop) } last
      | .error _ => Broken progress none last) ledger (releaseBlock batch handled) := by
  have broken : Broken progress (some held) ledger := by
    cases handled with
    | ok status => exact here.broken
    | error failure => exact here
  refine meets_call ?_ fun answer _ => ?_
  · obtain ⟨now, there, batchEq⟩ := Option.map_eq_some_iff.mp broken.held
    simp [allowed, holdsBlock, there, batchEq, same]
  cases answer with
  | error thrown => exact ⟨broken.counts, rfl⟩
  | ok code =>
      dsimp only
      split
      next => exact ⟨broken.counts, rfl⟩
      next fine =>
        cases handled with
        | error failure => exact ⟨broken.counts, rfl⟩
        | ok status =>
            constructor <;> simp [codeFails, fine, here.facts]

theorem passInputProgress_meets (here : At progress spot ledger) :
    (laws config forgiving).Meets (Ends progress spot.held fun () last => At progress spot last)
      ledger (passInputProgress config) := by
  unfold passInputProgress
  dsimp only
  split
  · exact here
  refine meets_call rfl fun answer _ => ?_
  cases answer with
  | error thrown => exact ⟨⟨here.counts, here.broken.held⟩, by simp⟩
  | ok answered =>
      obtain ⟨code, datasets⟩ := answered
      dsimp only
      split
      · exact ⟨⟨here.counts, here.broken.held⟩, by simp⟩
      next fine =>
      replace here := @At.record_plain config _ _ _ here .readInputProgress (.ok (code, datasets))
        rfl (by simpa using fine)
      split
      · exact here
      refine meets_call rfl fun answer _ => ?_
      cases answer with
      | error thrown => exact ⟨⟨here.counts, here.broken.held⟩, by simp⟩
      | ok code =>
          dsimp only
          split
          · exact ⟨⟨here.counts, here.broken.held⟩, by simp⟩
          next fine => exact here.record_plain _ _ rfl (by simpa [codeFails] using fine)

/-! ## The loop -/

/-- How the loop is left. -/
def Exits : Exit → Ledger → Prop
  | .leave _ progress, last => ∃ (stopped : Bool) (requests : Requests),
      (requests.sourceCancelled = true → requests.stopRequested = true) ∧
        At progress { stopped := stopped, requests := requests } last
  | .return_ outcome, last => Closed outcome last

/-- How a round ends: in front of the next one, or out of the loop. -/
def RoundEnds : Progress ⊕ Exit → Ledger → Prop
  | .inl progress, last => At progress {} last
  | .inr exit, last => Exits exit last

theorem failRound_meets (broken : Broken progress none ledger) {failure : Failure}
    (code : failure.code ≠ .cancelled) :
    (laws config forgiving).Meets RoundEnds ledger (failRound progress failure) :=
  (fail_meets broken code).bind fun _ _ closed => closed

theorem cancelRound_meets (broken : Broken progress none ledger) (message : String) :
    (laws config forgiving).Meets RoundEnds ledger (cancelRound progress message) :=
  (returnCancelled_meets broken message).bind fun _ _ closed => closed

/-- The progress after the count of a block. -/
def countInput (progress : Progress) (batch : Batch) : Progress :=
  { progress with
    counts := { progress.counts with
      inputBlocks := progress.counts.inputBlocks + 1
      inputRows := progress.counts.inputRows + batch.numRows } }

theorem dataRound_meets {batch : Batch} {facts : List CaptureProgress}
    (here : At (countInput progress batch)
      { held := some { batch := batch, factsAccepted := facts.isEmpty }
        failed := (captureContractError config batch facts).isSome } ledger) :
    (laws config forgiving).Meets RoundEnds ledger
      (dataRound config batch facts progress) := by
  refine (handleBlock_meets here).bind fun result last after => ?_
  obtain ⟨progress, handled⟩ := result
  have released : (laws config forgiving).Meets (fun result last => match result with
      | .ok status => At progress { stopped := decide (status = kStop) } last
      | .error _ => Broken progress none last) last (releaseBlock batch handled) := by
    cases handled with
    | ok status =>
        obtain ⟨now, same, there⟩ := after
        exact releaseBlock_meets (.ok status) same there
    | error failure =>
        obtain ⟨now, same, broken⟩ := after
        exact releaseBlock_meets (.error failure) same broken
  refine released.bind fun result last after => ?_
  cases result with
  | error failure =>
      dsimp only
      split
      · exact cancelRound_meets after failure.message
      next code => exact failRound_meets after code
  | ok status =>
      refine (passInputProgress_meets after).bind fun result last after => ?_
      cases result with
      | error failure => exact failRound_meets after.1 after.2
      | ok done =>
          dsimp only
          split
          · exact ⟨_, {}, (fun impossible => nomatch impossible), after⟩
          next goesOn =>
            rw [decide_eq_false goesOn] at after
            exact after

theorem timeoutRound_meets {facts : List CaptureProgress}
    (here : At progress { failed := facts.any (·.packetObserved) } ledger) :
    (laws config forgiving).Meets RoundEnds ledger (timeoutRound facts progress) := by
  unfold timeoutRound
  split
  next none_ =>
    rw [List.isEmpty_iff.mp none_] at here
    exact here
  split
  next => exact failRound_meets here.broken (by simp)
  next honest =>
  rw [Bool.eq_false_iff.mpr honest] at here
  refine (acceptFacts_meets here).bind fun result last after => ?_
  cases result with
  | error failure => exact failRound_meets after.1 after.2
  | ok done => exact after

/-- The ledger after a poll whose answer is this event. -/
def afterPoll (config : Config) (ledger : Ledger) (event : BlockPollEvent)
    (facts : List CaptureProgress) : Ledger :=
  { polled ledger event facts with
    failed := ledger.failed || eventFails config event facts }

/-- A poll that has brought no block. -/
theorem afterPoll_broken {event : BlockPollEvent} {facts : List CaptureProgress}
    (here : At progress {} ledger) (none_ : (polled {} event facts).held.isNone = true) :
    Broken progress none (afterPoll config ledger event facts) := by
  obtain ⟨kind, batch, err⟩ := event
  cases kind with
  | data =>
      cases batch with
      | none => exact ⟨here.counts, here.broken.held⟩
      | some batch => cases none_
  | timeout => exact ⟨here.counts, here.broken.held⟩
  | eof => exact ⟨here.counts, here.broken.held⟩
  | cancelled => exact ⟨here.counts, here.broken.held⟩
  | error => exact ⟨here.counts, here.broken.held⟩

theorem eventRound_meets {event : BlockPollEvent} {facts : List CaptureProgress}
    (here : At progress {} ledger) :
    (laws config forgiving).Meets RoundEnds (afterPoll config ledger event facts)
      (eventRound config event facts progress) := by
  have notFailed := here.failed
  have marked : ∀ {failed}, At progress { failed := failed }
      { ledger with failed := ledger.failed || failed } := fun {failed} =>
    ⟨here.counts, here.held, here.due, here.stopped, here.requests, by simp [notFailed],
      here.flushed, here.ordered, here.reading⟩
  obtain ⟨kind, batch, err⟩ := event
  unfold eventRound
  cases kind with
  | timeout => exact timeoutRound_meets marked
  | eof =>
      simp only [reduceCtorEq, if_false, ne_eq, not_false_eq_true, decide_true, Bool.and_true,
        if_true]
      split
      next => exact failRound_meets (afterPoll_broken here rfl) (by simp)
      next plain =>
        have there : At progress {} (afterPoll config ledger ⟨.eof, batch, err⟩ facts) := by
          have same := @marked (!facts.isEmpty)
          rw [Bool.eq_false_iff.mpr plain] at same
          simpa [afterPoll, polled, eventFails, Bool.eq_false_iff.mpr plain] using same
        exact ⟨_, {}, (fun impossible => nomatch impossible), there⟩
  | cancelled =>
      simp only [reduceCtorEq, if_false, ne_eq, not_false_eq_true, decide_true, Bool.and_true,
        if_true]
      split
      next => exact failRound_meets (afterPoll_broken here rfl) (by simp)
      next plain =>
        have there : At progress { requests := { sourceCancelled := true } }
            (afterPoll config ledger ⟨.cancelled, batch, err⟩ facts) := by
          constructor <;>
            simp [afterPoll, polled, eventFails, Bool.eq_false_iff.mpr plain, here.facts]
        refine (stopsOnly_meets there).bind fun stop last after => ?_
        cases stop with
        | true => exact ⟨_, _, fun _ => rfl, after⟩
        | false =>
            have broken : Broken progress none last := by
              rcases after with after | after
              · exact after.broken
              · exact after.broken
            exact cancelRound_meets broken _
  | error =>
      simp only [reduceCtorEq, if_false, ne_eq, not_false_eq_true, decide_true, Bool.and_true,
        if_true]
      split
      · exact failRound_meets (afterPoll_broken here rfl) (by simp)
      · exact failRound_meets (afterPoll_broken here rfl) (by simp)
  | data =>
      simp only [reduceCtorEq, if_false, ne_eq, not_true_eq_false, decide_false, Bool.and_false,
        Bool.false_eq_true]
      cases batch with
      | none => exact failRound_meets (afterPoll_broken here rfl) (by simp)
      | some batch =>
          refine dataRound_meets ⟨?_, rfl, here.due, here.stopped, here.requests, ?_,
            here.flushed, here.ordered, here.reading⟩
          · simp [afterPoll, polled, countInput, here.counts]
          · simp [afterPoll, eventFails, here.failed]

theorem pollRound_meets {timeoutMs : Int} (here : At progress {} ledger) :
    (laws config forgiving).Meets RoundEnds ledger (pollRound config timeoutMs progress) := by
  unfold pollRound
  split
  · refine meets_call (by simp [allowed, here.held]) fun answer honest => ?_
    cases answer with
    | error thrown =>
        refine failRound_meets ?_ ?_
        · exact ⟨here.counts, here.broken.held⟩
        · simp
    | ok event =>
        obtain ⟨valid, block, facts⟩ := event
        have mild := honest.2
        cases valid with
        | false =>
            have none_ : (polled {} block facts).held.isNone = true := by
              simp only [forgiving, Bool.false_or] at mild
              obtain ⟨kind, batch, err⟩ := block
              cases kind <;> cases batch <;> first | rfl | cases mild
            have broken := @afterPoll_broken config _ _ _ _ here none_
            refine failRound_meets ?_ ?_
            · exact ⟨broken.counts, broken.held⟩
            · simp
        | true => exact eventRound_meets here
  · refine meets_call (by simp [allowed, here.held]) fun answer _ => ?_
    cases answer with
    | error thrown =>
        refine failRound_meets ?_ ?_
        · exact ⟨here.counts, here.broken.held⟩
        · simp
    | ok event => exact eventRound_meets here

theorem round_meets (here : At progress {} ledger) :
    (laws config forgiving).Meets RoundEnds ledger (round config progress) := by
  refine (stopsOnly_meets here).bind fun stop last after => ?_
  cases stop with
  | true => exact ⟨_, _, fun impossible => rfl, after⟩
  | false =>
      refine meets_call rfl fun cancelled honest => ?_
      cases cancelled with
      | true =>
          have broken : Broken progress none last := by
            rcases after with after | after
            · exact after.broken
            · exact after.broken
          rw [if_pos rfl]
          refine cancelRound_meets ?_ _
          exact ⟨broken.counts, broken.held⟩
      | false =>
          have there : At progress {} ((laws config forgiving).record last .cancelled false) := by
            rcases after with after | after
            · exact (after.not_cancelled honest).2
            · exact nomatch (after.not_cancelled honest).1
          refine (serviceTime_meets {} there).bind fun result last after => ?_
          obtain ⟨progress, failure | service⟩ := result
          · exact failRound_meets after.1 after.2
          dsimp only
          split
          next => exact ⟨_, {}, (fun impossible => nomatch impossible), after⟩
          next goesOn =>
          have at_ : At progress { stopped := false || service.timeStopped } last := after
          rw [Bool.eq_false_iff.mpr goesOn, Bool.or_false] at at_
          split
          next => exact at_
          next => exact pollRound_meets at_

/-! ## The run -/

theorem flush_meets {stopped returned : Bool} {requests : Requests}
    (here : At progress { stopped := returned, requests := requests } ledger)
    (going : requests.cancelled = false)
    (awake : requests.sourceCancelled = true → requests.stopRequested = true) :
    (laws config forgiving).Meets Closed ledger (flush stopped progress) := by
  refine meets_call ?_ fun answer _ => ?_
  · have flags : requests.sourceCancelled = false ∨ requests.stopRequested = true := by
      cases source : requests.sourceCancelled with
      | false => exact .inl rfl
      | true => exact .inr (awake source)
    simpa [allowed, here.flushed, here.failed, here.requests, going, here.held] using flags
  refine (checkStatus_meets "Flush" (· = 0) answer).bind fun result last after => ?_
  cases result with
  | error failure =>
      refine fail_meets ?_ after.2.2
      exact ⟨after.1.trans here.counts, by rw [after.2.1]; exact here.broken.held⟩
  | ok status =>
      obtain ⟨rfl, returned_, fine⟩ := after
      obtain ⟨result, outputs⟩ := answer
      cases returned_
      have fails := @statusFails_of_ok outputs status (fun code => decide (code = 0)) fine
      refine (deliverOutputs_meets
        { stopped := returned, requests := requests, flushed := true } ?_).bind
        fun result last after => ?_
      · constructor <;> simp [fails, here.facts]
      · obtain ⟨progress, failure | ⟨⟩⟩ := result
        · exact fail_meets after.1 after.2
        · refine ⟨after.held, after.counts.symm, ?_⟩
          cases stopped <;> simp

theorem finish_meets {stopped : Bool} (exits : Exits (.leave stopped progress) ledger) :
    (laws config forgiving).Meets Closed ledger (finish stopped progress) := by
  obtain ⟨returned, requests, awake, here⟩ := exits
  refine meets_call rfl fun cancelled honest => ?_
  cases cancelled with
  | true =>
      rw [if_pos rfl]
      refine returnCancelled_meets ?_ _
      exact ⟨here.counts, here.broken.held⟩
  | false =>
      obtain ⟨going, here⟩ := here.not_cancelled honest
      exact flush_meets here going awake

theorem openTransform_meets (here : At progress spot ledger) :
    (laws config forgiving).Meets (Ends progress spot.held fun () last => At progress spot last)
      ledger openTransform := by
  refine meets_call rfl fun answer _ => ?_
  cases answer with
  | error thrown => exact ⟨⟨here.counts, here.broken.held⟩, by simp⟩
  | ok answered =>
      obtain ⟨code, schema⟩ := answered
      dsimp only
      split
      · refine transformError_meets.bind fun detail last after => ?_
        exact ⟨⟨after.1.trans here.counts, by rw [after.2]; exact here.broken.held⟩, by simp⟩
      next fine =>
      split
      · exact ⟨⟨here.counts, here.broken.held⟩, by simp⟩
      next present =>
        exact here.record_plain _ _ rfl (by simpa [fine] using present)

theorem openOutputs_meets (here : At progress spot ledger) :
    (laws config forgiving).Meets (Ends progress spot.held fun () last => At progress spot last)
      ledger (openOutputs config) := by
  refine meets_call rfl fun answer _ => ?_
  cases answer with
  | error text => exact ⟨⟨here.counts, here.broken.held⟩, by simp⟩
  | ok opened =>
      replace here := @At.record_plain config _ _ _ here .openOutputFilter (.ok opened) rfl rfl
      dsimp only
      split
      · exact here
      refine meets_call rfl fun code _ => ?_
      split
      · exact ⟨⟨here.counts, here.broken.held⟩, by simp⟩
      next fine => exact here.record_plain _ _ rfl (by simpa using fine)

theorem openStages_meets (here : At progress spot ledger) :
    (laws config forgiving).Meets (Ends progress spot.held fun () last => At progress spot last)
      ledger (openStages config) := by
  refine meets_call rfl fun answer _ => ?_
  cases answer with
  | error text => exact ⟨⟨here.counts, here.broken.held⟩, by simp⟩
  | ok opened =>
      refine (openTransform_meets (here.record_plain _ _ rfl rfl)).bind
        fun result last after => ?_
      cases result with
      | error failure => exact after
      | ok done => exact openOutputs_meets after

theorem run_meets (config : Config) (runStarted : Bool) (fuel : Nat) :
    (laws config forgiving).Meets
      (fun result last => ∀ outcome, result = some outcome → Closed outcome last) {}
      (run config runStarted fuel) := by
  have start : At {} {} {} := ⟨rfl, rfl, rfl, rfl, rfl, rfl, rfl, rfl, rfl⟩
  have given : ∀ {ledger outcome}, Closed outcome ledger →
      ∀ other, some outcome = some other → Closed other ledger := by
    intro ledger outcome closed other same
    cases same
    exact closed
  unfold run
  split
  · exact given ⟨rfl, rfl, by simp⟩
  split
  · exact given ⟨rfl, rfl, by simp⟩
  refine meets_call rfl fun cancelled honest => ?_
  cases cancelled with
  | true => exact given ⟨rfl, rfl, by simp⟩
  | false =>
      obtain ⟨-, start⟩ := start.not_cancelled honest
      refine (openStages_meets start).bind fun result last after => ?_
      cases result with
      | error failure =>
          exact (fail_meets after.1 after.2).bind fun outcome last closed => given closed
      | ok done =>
          have looped : (laws config forgiving).Meets (fun result last =>
              ∀ exit, result = some exit → Exits exit last) last
              (Program.loop (round config) fuel {}) := by
            refine meets_loop (fun progress last => At progress {} last) ?_ fuel after
            intro progress ledger here
            refine (round_meets here).mono fun next last ends => ?_
            cases next with
            | inl progress => exact ends
            | inr exit => exact ends
          refine looped.bind fun result last ends => ?_
          cases result with
          | none => exact fun outcome impossible => nomatch impossible
          | some exit =>
              have exits : Exits exit last := ends exit rfl
              cases exit with
              | return_ outcome => exact given exits
              | leave stopped progress =>
                  exact (finish_meets exits).bind fun outcome last closed => given closed

/-- Up to any moment of a run: each block that was polled is released once before the next poll,
acknowledged at most once and when all is done with it, and so on; and when the run returns, nothing
is held back and its result is true. -/
theorem run_lawful (config : Config) (runStarted : Bool) (fuel : Nat)
    {trace : List (Exchange Query Answer)} {result : Option (Option Outcome)}
    (runs : (run config runStarted fuel).Runs trace result)
    (honest : (laws config forgiving).Honest {} trace) :
    (laws config forgiving).Lawful {} trace ∧
      ∀ outcome, result = some (some outcome) →
        Closed outcome ((laws config forgiving).after {} trace) := by
  obtain ⟨lawful, ends⟩ := (run_meets config runStarted fuel).lawful runs honest
  exact ⟨lawful, fun outcome same => ends _ same outcome rfl⟩

/-- The exchanges before the first round. -/
def opened : List (Exchange Query Answer) :=
  [⟨.cancelled, false⟩, ⟨.openSourceFilter, .ok ()⟩, ⟨.openTransform, .ok (0, true)⟩,
    ⟨.openOutputFilter, .ok ()⟩]

/-- A block with one output, the end of the source, and a flush. -/
theorem run_lawful_completed : ∃ outcome : Outcome,
    outcome.counts = ⟨1, 2, 1, 1⟩ ∧ outcome.terminal = .completed ∧
      ∃ ledger, Closed outcome ledger := by
  refine ⟨_, ?_, ?_, _, (@run_lawful { acknowledges := true } false 2 (opened ++
    [⟨.cancelled, false⟩, ⟨.pollBlock 100, .ok { kind := .data, batch := some ⟨2, none⟩ }⟩,
      ⟨.cancelled, false⟩, ⟨.filterInput ⟨2, none⟩, .ok ⟨2, none⟩⟩,
      ⟨.processBlock ⟨2, none⟩, (.ok 0, [⟨some ⟨1, none⟩, 0⟩])⟩,
      ⟨.filterOutput ⟨some ⟨1, none⟩, 0⟩, .ok ⟨1, none⟩⟩,
      ⟨.consumeOutput ⟨some ⟨1, none⟩, 0⟩, .ok 0⟩, ⟨.acknowledgeBlock ⟨2, none⟩, .ok 0⟩,
      ⟨.releaseBlock ⟨2, none⟩, .ok 0⟩, ⟨.cancelled, false⟩,
      ⟨.pollBlock 100, .ok { kind := .eof }⟩, ⟨.cancelled, false⟩, ⟨.flush, (.ok 0, [])⟩])
    _ ?_ ?_).2 { code := .none, terminal := .completed, counts := ⟨1, 2, 1, 1⟩ } rfl⟩
  · rfl
  · rfl
  · exact .ask (.ask (.ask (.ask (.ask (.ask (.ask (.ask (.ask (.ask (.ask (.ask (.ask (.ask
      (.ask (.ask (.ask (.done _)))))))))))))))))
  · decide

/-- Anything that the environment may do. -/
def anything (_ : Ledger) (query : Query) (_ : Answer query) : Bool := true

/-- `ProcessBlock` returns stop for a block that comes with a fact, and the deadline that is due
calls `OnTime` all the same. A capture event of another version keeps its block. -/
theorem time_after_stop : (∃ config trace,
    (run config false 1).Runs trace none ∧ (laws config anything).Honest {} trace ∧
      ¬(laws config anything).Lawful {} trace) ∧
    ∃ config trace outcome, (run config false 1).Runs trace (some (some outcome)) ∧
      (laws config anything).Honest {} trace ∧
        ¬Closed outcome ((laws config anything).after {} trace) := by
  constructor
  · refine ⟨{ hasTimeTransform := true, hasCaptureFactTask := true, readsCapture := true },
      opened ++ [⟨.cancelled, false⟩, ⟨.monotonicClock, .ok 0⟩,
        ⟨.timeDriveState, .ok (0, ⟨24, 1, 0, [], 0⟩)⟩,
        ⟨.pollCapture 100, .ok
          { block := { kind := .data, batch := some ⟨0, some #v[]⟩ }
            progress := [⟨0, false, 0⟩] }⟩,
        ⟨.cancelled, false⟩, ⟨.filterInput ⟨0, some #v[]⟩, .ok ⟨0, some #v[]⟩⟩,
        ⟨.processBlock ⟨0, some #v[]⟩, (.ok kStop, [])⟩,
        ⟨.acceptCaptureFacts [⟨0, false, 0⟩], .ok 0⟩, ⟨.monotonicClock, .ok 0⟩,
        ⟨.timeDriveState, .ok (0, ⟨24, 1, 1, [], 0⟩)⟩, ⟨.wallClock, .ok 0⟩,
        ⟨.onTime 0 0, (.ok 0, [])⟩], ?_, by decide, by decide⟩
    exact .ask (.ask (.ask (.ask (.ask (.ask (.ask (.ask (.ask (.ask (.ask (.ask (.ask (.ask
      (.ask (.ask (.pending _))))))))))))))))
  · refine ⟨{ hasCaptureFactTask := true, readsCapture := true }, opened ++
      [⟨.cancelled, false⟩,
        ⟨.pollCapture 100, .ok
          { valid := false, block := { kind := .data, batch := some ⟨0, some #v[]⟩ } }⟩,
        ⟨.cancelled, false⟩, ⟨.cancel, ()⟩],
      { code := .sourcePollFailed, error := "capture poll contract version is invalid" }, ?_,
      by decide, fun closed => ?_⟩
    · exact .ask (.ask (.ask (.ask (.ask (.ask (.ask (.ask (.done _))))))))
    · exact absurd closed.released (by decide)

end Flowsql.Pipeline.Runner
