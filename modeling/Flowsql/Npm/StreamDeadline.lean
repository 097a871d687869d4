import Flowsql.Npm.StreamPublication

/-!
# The deadline of a direction

Between the operations the front range is a gap that has to wait. Its deadline tells when the watermark makes the
direction publish again.
-/

namespace Flowsql.Npm

open Flowsql.Library

variable {σ : Type} {environment : Environment σ} {agrees : List StreamEvent → Nat → σ → Prop}
  {core next : StreamDirection σ} {objectCharge : Nat}

/-! ## Nothing due is left -/

/-- Nothing is readable, and the FIN is not reached. -/
def Waiting (core : StreamDirection σ) : Prop :=
  DrainStops false core ∧ core.fin ≠ some core.published

/-- A direction that still runs waits. -/
def Waits (core : StreamDirection σ) : Prop :=
  stopped core = false → Waiting core

theorem Waits.of_stopped (stops : stopped core = true) : Waits core := fun runs =>
  absurd (runs.symm.trans stops) (by decide)

theorem Settled.waits (settled : Settled environment agrees objectCharge core next) : Waits next := by
  cases settled with
  | running _ _ stops unfinished => exact fun _ => ⟨stops, unfinished⟩
  | finished _ finished => exact .of_stopped (stopped_of_ended finished.ended)

theorem Broken.waits (keeps : environment.Keeps agrees) {view : Nat → Option (Option UInt8)} {error : StreamError}
    (broken : Broken agrees view error core) : Waits (fail environment error core) :=
  .of_stopped (stopped_of_failed (fail_failed keeps broken))

/-- One operation on a direction that runs. -/
theorem runCall_waits (keeps : environment.Keeps agrees) (live : Live environment agrees objectCharge core)
    (waiting : Waiting core) (call : StreamCall) : Waits (runCall environment core call) := by
  cases call with
  | push packet =>
      change Waits (push environment packet core)
      rcases push_cases keeps live packet with ingested | ⟨error, middle, broken, nextEq⟩
      · cases ingested with
        | noSequence _ nextEq =>
            rw [nextEq]
            exact fun _ => waiting
        | beforeOrigin _ _ nextEq =>
            rw [nextEq, anchored_frame]
            exact fun _ => waiting
        | stored _ _ _ _ _ _ _ settled => exact settled.waits
        | ambiguous _ finished => exact .of_stopped (stopped_of_ended finished.ended)
        | reset _ _ finished => exact .of_stopped (stopped_of_ended finished.ended)
      · obtain ⟨_, broken⟩ := broken.exists_view
        exact nextEq ▸ broken.waits keeps
  | advanceWatermark watermarkNs =>
      change Waits (advanceWatermark environment watermarkNs core)
      rcases advanceWatermark_cases keeps live watermarkNs with nextEq | settled | ⟨error, middle, broken, nextEq⟩
      · rw [nextEq]
        exact fun _ => waiting
      · exact settled.waits
      · exact nextEq ▸ broken.waits keeps
  | endStream reason sessionReason =>
      change Waits (endStream environment reason sessionReason core)
      rcases endStream_cases keeps live reason sessionReason with ⟨_, _, finished⟩ | ⟨error, middle, broken, nextEq⟩
      · exact .of_stopped (stopped_of_ended finished.ended)
      · exact nextEq ▸ broken.waits keeps
  | abort =>
      change Waits (abort environment core)
      have aborted := fail_failed keeps (live.broken (show StreamError.aborted ≠ .none by decide))
      rw [abort, if_pos live.running]
      exact .of_stopped (stopped_of_failed aborted)

theorem runStream_waits (keeps : environment.Keeps agrees) (between : Between environment agrees objectCharge core)
    (waits : Waits core) (calls : List StreamCall) : Waits (runStream environment core calls) := by
  induction calls generalizing core with
  | nil => exact waits
  | cons call rest ih =>
      refine ih (runCall_between keeps between call) ?_
      cases between with
      | live live => exact runCall_waits keeps live (waits (stopped_of_live live)) call
      | ended ended =>
          have stops := stopped_of_ended ended
          exact .of_stopped ((runCall_silent stops call).stopped_eq.trans stops)
      | failed failed =>
          have stops := stopped_of_failed failed
          exact .of_stopped ((runCall_silent stops call).stopped_eq.trans stops)

/-- A fresh direction has nothing to publish. -/
theorem initializeDirection_waits (keeps : environment.Keeps agrees) (config : StreamConfig)
    (hasBudget chargeObject : Bool) {env : σ} (agreement : agrees [] 0 env) :
    Waits (initializeDirection environment config hasBudget chargeObject env) := by
  have frame := (initializeDirection_spec keeps config hasBudget chargeObject agreement).2
  dsimp only at frame
  rw [frame]
  exact fun _ => ⟨trivial, fun reached => nomatch reached⟩

/-! ## Events are only added -/

theorem release_emitted (bytes : Nat) : (release environment bytes core).emitted = core.emitted := by
  unfold release
  split <;> rfl

theorem emit_grows (event : StreamEvent) :
    Ensures (emit environment event) core (fun _ next => core.emitted <+: next.emitted)
      (fun _ next => core.emitted <+: next.emitted) := by
  unfold emit
  apply ensures_bind
  apply ensures_ask
  apply ensures_bind
  rcases (environment.emit event core.env).1 with moved | _ | error
  · apply ensures_pure
    apply ensures_modify
    exact List.prefix_append _ _
  · exact ensures_throw (List.prefix_refl _)
  · exact ensures_throw (List.prefix_refl _)

theorem emitOwned_grows (event : StreamEvent) (allocated : Nat) :
    Ensures (emitOwned environment event allocated) core (fun _ next => core.emitted <+: next.emitted)
      (fun _ next => core.emitted <+: next.emitted) := by
  unfold emitOwned
  apply ensures_bind
  apply ensures_ask
  apply ensures_bind
  rcases (environment.emitOwned event allocated core.env).1 with moved | _ | error
  · apply ensures_pure
    apply ensures_bind
    apply ensures_modify
    apply ensures_pure
    cases moved
    · rw [if_neg (by decide)]
      exact List.prefix_append _ _
    · rw [if_pos rfl]
      exact List.prefix_append _ _
  · exact ensures_throw (List.prefix_refl _)
  · exact ensures_throw (List.prefix_refl _)

theorem drainFrom_grows (forced : Bool) (ranges : List Range) :
    Ensures (drainFrom environment forced ranges) core (fun _ next => core.emitted <+: next.emitted)
      (fun _ next => core.emitted <+: next.emitted) := by
  induction ranges generalizing core with
  | nil => exact ensures_pure (List.prefix_refl _)
  | cons at_ rest ih =>
      -- What follows the event of the front range.
      have later (middle : StreamDirection σ) (grows : core.emitted <+: middle.emitted) (allocated : Nat) :
          Ensures (eraseFront environment rest allocated >>= fun _ => drainFrom environment forced rest) middle
            (fun _ next => core.emitted <+: next.emitted) (fun _ next => core.emitted <+: next.emitted) := by
        apply ensures_bind
        apply ensures_modify
        refine ensures_mono ih (fun _ _ more => ?_) fun _ _ more => ?_ <;> rw [release_emitted] at more <;>
          exact grows.trans more
      rw [drainFrom]
      split
      · apply ensures_bind
        exact ensures_mono (emitOwned_grows _ _) (fun allocated middle grows => later middle grows allocated)
          fun _ _ grows => grows
      · apply ensures_bind
        apply ensures_get
        apply ensures_ite
        · intro _
          apply ensures_bind
          exact ensures_mono (emit_grows _) (fun _ middle grows => later middle grows _) fun _ _ grows => grows
        · exact fun _ => ensures_pure (List.prefix_refl _)

theorem finish_grows (reason : EndReason) (sessionReason : Option SessionEndReason) :
    Ensures (finish environment reason sessionReason) core (fun _ next => core.emitted <+: next.emitted)
      (fun _ next => core.emitted <+: next.emitted) := by
  unfold finish drain
  apply ensures_bind
  apply ensures_bind
  apply ensures_get
  refine ensures_mono (drainFrom_grows true core.ranges) (fun _ middle grows => ?_) fun _ _ grows => grows
  apply ensures_bind
  apply ensures_get
  apply ensures_bind
  refine ensures_mono (emit_grows _) (fun _ _ more => ?_) fun _ _ more => grows.trans more
  apply ensures_modify
  exact grows.trans more

/-! ## A later watermark -/

/-- The event that a gap is published with when its wait expires. -/
def expiredGap (at_ : Range) : StreamEvent :=
  .gap at_.begin at_.end_ .waitExpired at_.truncated

/-- A gap in front that is due is published, unless the sink does not take it. -/
theorem drainToFin_due {front : Range} {rest : List Range} (ranges : core.ranges = front :: rest)
    (gap : front.data = none) (due : gapExpired core.watermark front = true) :
    Ensures (drainToFin environment) core (fun _ next => core.emitted ++ [expiredGap front] <+: next.emitted)
      fun _ next => (∃ moved, (environment.emit (expiredGap front) core.env).1 = .accepted moved) →
        core.emitted ++ [expiredGap front] <+: next.emitted := by
  unfold drainToFin drain
  apply ensures_bind
  apply ensures_bind
  apply ensures_get
  rw [ranges, drainFrom, gap]
  dsimp only
  apply ensures_bind
  apply ensures_get
  rw [if_pos (.inr due)]
  apply ensures_bind
  unfold emit
  apply ensures_bind
  apply ensures_ask
  apply ensures_bind
  change Ensures (replyMoved (environment.emit (expiredGap front) core.env).1) _ _ _
  rcases (environment.emit (expiredGap front) core.env).1 with moved | _ | error
  · apply ensures_pure
    apply ensures_modify
    apply ensures_bind
    apply ensures_modify
    refine ensures_mono (drainFrom_grows false rest) (fun _ middle grows => ?_) fun _ _ grows _ => ?_ <;>
      rw [release_emitted] at grows
    · apply ensures_bind
      apply ensures_get
      apply ensures_ite
      · exact fun _ => ensures_mono (finish_grows .fin none) (fun _ _ more => grows.trans more)
          fun _ _ more _ => grows.trans more
      · exact fun _ => ensures_pure grows
    · exact grows
  · exact ensures_throw fun ⟨_, accepted⟩ => nomatch accepted
  · exact ensures_throw fun ⟨_, accepted⟩ => nomatch accepted

/-- A direction that still waits under the new watermark publishes nothing. -/
theorem drainToFin_waiting (waiting : Waiting core) : drainToFin environment core = .ok ⟨⟩ core := by
  obtain ⟨stops, unfinished⟩ := waiting
  have drained : drain environment false core = .ok ⟨⟩ core := by
    change drainFrom environment false core.ranges core = _
    unfold DrainStops at stops
    cases ranges : core.ranges with
    | nil => rfl
    | cons front rest =>
        rw [ranges] at stops
        rw [drainFrom, stops.2.1]
        change (if false = true ∨ gapExpired core.watermark front = true then _ else pure ⟨⟩ : StreamStep σ PUnit) core = _
        rw [if_neg (by rw [stops.2.2]; decide)]
        rfl
  change EStateM.bind (drain environment false) _ core = _
  unfold EStateM.bind
  rw [drained]
  change (if core.fin = some core.published then _ else pure ⟨⟩ : StreamStep σ PUnit) core = _
  rw [if_neg unfinished]
  rfl

theorem length_lt_of_prefix {early late : List StreamEvent} {event : StreamEvent}
    (grows : early ++ [event] <+: late) : early.length < late.length := by
  have more := grows.length_le
  rw [List.length_append, List.length_singleton] at more
  exact more

/-- The deadline that a watermark has reached. -/
def Due (core : StreamDirection σ) (watermarkNs : Int) : Prop :=
  ∃ deadline, nextEventDeadlineNs core = some deadline ∧ deadline ≤ watermarkNs

theorem advanceWatermark_due (keeps : environment.Keeps agrees) (live : Live environment agrees objectCharge core)
    (waiting : Waiting core) {watermarkNs : Int}
    (later : ∀ current, core.watermark = some current → current < watermarkNs) :
    (¬Due core watermarkNs → advanceWatermark environment watermarkNs core =
        { core with watermark := some watermarkNs }) ∧
      (Due core watermarkNs →
        ((advanceWatermark environment watermarkNs core).error = .none ∨ environment.Accepting →
          core.emitted.length < (advanceWatermark environment watermarkNs core).emitted.length)) := by
  have stops := stopped_of_live live
  have runs : advanceWatermark environment watermarkNs core =
      guarded environment (drainToFin environment) { core with watermark := some watermarkNs } := by
    rw [advanceWatermark, stops, if_neg (by decide), if_neg]
    cases current : core.watermark with
    | none => exact Bool.false_ne_true
    | some current_ => simpa using later current_ current
  have deadline : nextEventDeadlineNs core = core.ranges.head?.map Range.timestampNs := by
    rw [nextEventDeadlineNs, stops]
    rfl
  have gap := waiting.1
  unfold DrainStops at gap
  constructor
  · intro early
    have still : Waiting { core with watermark := some watermarkNs } := by
      refine ⟨?_, waiting.2⟩
      unfold DrainStops
      dsimp only
      cases ranges : core.ranges with
      | nil => trivial
      | cons front rest =>
          rw [ranges] at gap deadline
          refine ⟨rfl, gap.2.1, ?_⟩
          have before : watermarkNs < front.timestampNs := by
            by_contra reached
            exact early ⟨_, deadline, by omega⟩
          simp [gapExpired, before]
    rw [runs, guarded, drainToFin_waiting still]
  · rintro ⟨reached, found, due⟩ taken
    rw [deadline] at found
    cases ranges : core.ranges with
    | nil =>
        rw [ranges] at found
        cases found
    | cons front rest =>
        rw [ranges] at found gap
        cases found
        have spec := @drainToFin_due σ environment { core with watermark := some watermarkNs } front rest ranges
          gap.2.1 (by simpa [gapExpired] using due)
        have broken := drainToFin_spec keeps (live.reframe { core with watermark := some watermarkNs } rfl)
        rw [runs] at taken ⊢
        unfold guarded at taken ⊢
        cases outcome : drainToFin environment { core with watermark := some watermarkNs } with
        | ok value next => exact length_lt_of_prefix (spec.of_ok outcome)
        | error error next =>
            rw [outcome] at taken
            dsimp only at taken ⊢
            rcases taken with noError | accepting
            · exact absurd noError (fail_failed keeps (broken.of_error outcome)).is_error
            · unfold fail
              rw [clear_emitted]
              change core.emitted.length < next.emitted.length
              exact length_lt_of_prefix (spec.of_error outcome (accepting.emit _ _))

/-- For every direction between any operations that has no error and no end: there is a deadline exactly when
something is pending, and a later watermark makes the direction publish exactly when it reaches the deadline. A
sink that does not take the event makes the direction fail. -/
theorem deadline_decides (keeps : environment.Keeps fun _ _ _ => True) (config : StreamConfig)
    (hasBudget chargeObject : Bool) (env : σ) (calls : List StreamCall) :
    let core := runStream environment (initializeDirection environment config hasBudget chargeObject env) calls
    core.error = .none → core.ended = false →
      ((nextEventDeadlineNs core).isSome = true ↔ core.ranges ≠ []) ∧
      (nextEventDeadlineNs core = none → ∀ watermarkNs,
        (advanceWatermark environment watermarkNs core).emitted = core.emitted) ∧
      ∀ watermarkNs, (∀ current, core.watermark = some current → current < watermarkNs) →
        let next := advanceWatermark environment watermarkNs core
        (core.emitted.length < next.emitted.length ∨ next.error ≠ .none ↔ Due core watermarkNs) ∧
        (environment.Accepting → (core.emitted.length < next.emitted.length ↔ Due core watermarkNs)) := by
  intro core noError open_
  have between : Between environment _ _ core := runStream_between keeps
    (initializeDirection_between keeps config hasBudget chargeObject env trivial) calls
  have waits : Waits core := runStream_waits keeps
    (initializeDirection_between keeps config hasBudget chargeObject env trivial)
    (initializeDirection_waits keeps config hasBudget chargeObject trivial) calls
  have runs : stopped core = false := by simp [stopped, noError, open_]
  have waiting := waits runs
  have deadline : nextEventDeadlineNs core = core.ranges.head?.map Range.timestampNs := by
    rw [nextEventDeadlineNs, runs]
    rfl
  cases between with
  | ended ended => exact absurd (open_.symm.trans ended.ended.2) (by decide)
  | failed failed => exact absurd noError failed.is_error
  | live live =>
      refine ⟨?_, fun none_ watermarkNs => ?_, fun watermarkNs later => ?_⟩
      · rw [deadline]
        cases core.ranges <;> simp
      · by_cases later : ∀ current, core.watermark = some current → current < watermarkNs
        · rw [(advanceWatermark_due keeps live waiting later).1]
          rintro ⟨_, found, _⟩
          rw [none_] at found
          cases found
        · push Not at later
          obtain ⟨current, found, reached⟩ := later
          rw [advanceWatermark, runs, if_neg (by decide), if_pos (by simpa [found] using reached)]
      · obtain ⟨early, due⟩ := advanceWatermark_due keeps live waiting later
        have quiet (early_ : ¬Due core watermarkNs) :
            (advanceWatermark environment watermarkNs core).emitted = core.emitted ∧
              (advanceWatermark environment watermarkNs core).error = .none := by
          rw [early early_]
          exact ⟨rfl, noError⟩
        refine ⟨⟨fun grows => ?_, fun reached => ?_⟩, fun accepting => ⟨fun grows => ?_, fun reached =>
          due reached (.inr accepting)⟩⟩
        · by_contra early_
          obtain ⟨same, none_⟩ := quiet early_
          rcases grows with grows | failed
          · rw [same] at grows
            exact Nat.lt_irrefl _ grows
          · exact failed none_
        · by_cases none_ : (advanceWatermark environment watermarkNs core).error = .none
          · exact .inl (due reached (.inl none_))
          · exact .inr none_
        · by_contra early_
          rw [(quiet early_).1] at grows
          exact Nat.lt_irrefl _ grows

/-- A byte behind a missing one waits until ten nanoseconds after its capture. -/
theorem gap_waits :
    let core := runStream unlimitedEnvironment
      (initializeDirection unlimitedEnvironment ⟨65536, 10⟩ true true ())
      [.push (packetOf ⟨true, true, false, false, 99⟩ 0 0 [] 0),
        .push (packetOf ⟨true, false, false, false, 101⟩ 1 1 [8] 5)]
    nextEventDeadlineNs core = some 15 ∧
      ((nextEventDeadlineNs core).isSome = true ↔ core.ranges ≠ []) ∧
      (core.emitted.length < (advanceWatermark unlimitedEnvironment 15 core).emitted.length ↔ Due core 15) := by
  intro core
  obtain ⟨pending, -, later⟩ := deadline_decides unlimitedEnvironment_accepting.keeps ⟨65536, 10⟩ true true ()
    [.push (packetOf ⟨true, true, false, false, 99⟩ 0 0 [] 0),
      .push (packetOf ⟨true, false, false, false, 101⟩ 1 1 [8] 5)] (by decide +kernel) (by decide +kernel)
  have unset : core.watermark = none := by decide +kernel
  refine ⟨by decide +kernel, pending, (later 15 fun _ found => ?_).2 unlimitedEnvironment_accepting⟩
  cases unset.symm.trans found

end Flowsql.Npm
