import Flowsql.Npm.RangeList

/-!
# What every operation of a direction keeps

A direction that runs holds a partition of the offsets that it has not published,
and it has published the offsets before them in order. The ledger part of the
invariant is relative to a relation `agrees` between the accepted events, the
charge of the direction and the state of the environment, which every call to
the environment has to keep.
-/

namespace Flowsql.Npm

open Flowsql.Library

variable {σ : Type}

/-- Every call to the environment keeps the relation. A reservation adds to the
charge, a release and a moved payload take away from it, and an accepted event is
appended. No sink throws the code that stands for success. -/
structure Environment.Keeps (environment : Environment σ)
    (agrees : List StreamEvent → Nat → σ → Prop) : Prop where
  reserve : ∀ emitted tracked env bytes, agrees emitted tracked env →
    agrees emitted
      (if (environment.reserve bytes env).1 = true then tracked + bytes else tracked)
      (environment.reserve bytes env).2
  release : ∀ emitted tracked env bytes, bytes ≤ tracked → agrees emitted tracked env →
    agrees emitted (tracked - bytes) (environment.release bytes env)
  allocate : ∀ emitted tracked env, agrees emitted tracked env →
    agrees emitted tracked (environment.allocate env).2
  emit : ∀ emitted tracked env event, event.WellFormed → agrees emitted tracked env →
    match environment.emit event env with
    | (.accepted _, env') => agrees (emitted ++ [event]) tracked env'
    | (.refused, env') => agrees emitted tracked env'
    | (.threw error, env') => error ≠ .none ∧ agrees emitted tracked env'
  emitOwned : ∀ emitted tracked env event allocated, event.WellFormed → allocated ≤ tracked →
    agrees emitted tracked env →
    match environment.emitOwned event allocated env with
    | (.accepted moved, env') =>
        agrees (emitted ++ [event]) (if moved = true then tracked - allocated else tracked) env'
    | (.refused, env') => agrees emitted tracked env'
    | (.threw error, env') => error ≠ .none ∧ agrees emitted tracked env'

/-- The ledger of the direction agrees with the environment and keeps the limit. -/
structure Solvent (agrees : List StreamEvent → Nat → σ → Prop) (core : StreamDirection σ) :
    Prop where
  agreement : agrees core.emitted core.trackedBytes core.env
  within : core.trackedBytes ≤ core.config.maxBufferedBytesPerDirection
  limit_le : core.config.maxBufferedBytesPerDirection ≤ maxUInt64

/-- Events that were published so far: contiguous from offset zero, without an end. -/
structure History (emitted : List StreamEvent) (published : Nat) : Prop where
  contiguous : Contiguous 0 emitted published
  wellFormed : ∀ event ∈ emitted, event.WellFormed
  open_ : ∀ event ∈ emitted, event.isEnd = false

theorem History.concat {emitted : List StreamEvent} {event : StreamEvent}
    (history : History emitted event.begin) (wellFormed : event.WellFormed)
    (ordered : event.begin ≤ event.end_) (open_ : event.isEnd = false) :
    History (emitted ++ [event]) event.end_ where
  contiguous := @Contiguous.concat _ _ _ _ event history.contiguous ordered
  wellFormed := by
    intro other member
    rcases List.mem_append.mp member with old | new
    · exact history.wellFormed other old
    · exact List.mem_singleton.mp new ▸ wellFormed
  open_ := by
    intro other member
    rcases List.mem_append.mp member with old | new
    · exact history.open_ other old
    · exact List.mem_singleton.mp new ▸ open_

theorem History.nil : History [] 0 := ⟨rfl, by simp, by simp⟩

/-! ## The states between operations -/

/-- A direction that has neither failed nor ended. -/
structure Live (environment : Environment σ) (agrees : List StreamEvent → Nat → σ → Prop)
    (objectCharge : Nat) (core : StreamDirection σ) : Prop where
  running : core.error = .none ∧ core.ended = false
  solvent : Solvent agrees core
  pending : Pending core.published core.ranges core.extent
  charged : core.trackedBytes =
    objectCharge + rangesCharge environment.sizes.range core.ranges
  history : History core.emitted core.published
  progress : core.extent ≤ core.progress ∧ core.progress ≤ maxUInt64
  fin : ∀ position, core.fin = some position → core.extent ≤ position

/-- A direction in the middle of an operation that has just thrown. What it has
published is part of the given stream. -/
structure Broken (agrees : List StreamEvent → Nat → σ → Prop)
    (view : Nat → Option (Option UInt8)) (error : StreamError) (core : StreamDirection σ) :
    Prop where
  is_error : error ≠ .none
  open_ : core.ended = false
  solvent : Solvent agrees core
  history : History core.emitted core.published
  published_eq : ∀ offset, offset < core.published →
    lookup StreamEvent.byteAt core.emitted offset = view offset

/-- A direction that latched an error. -/
structure Failed (agrees : List StreamEvent → Nat → σ → Prop) (core : StreamDirection σ) :
    Prop where
  is_error : core.error ≠ .none
  empty : core.ranges = []
  released : core.trackedBytes = 0
  agreement : agrees core.emitted 0 core.env
  history : History core.emitted core.published

/-- A direction that has published its end event. -/
structure Ended (agrees : List StreamEvent → Nat → σ → Prop) (core : StreamDirection σ) :
    Prop where
  ended : core.error = .none ∧ core.ended = true
  empty : core.ranges = []
  complete : core.published = core.extent
  solvent : Solvent agrees core
  closed : ∃ events reason sessionReason, History events core.published ∧
    core.emitted = events ++ [.ended core.published reason sessionReason]

/-! ## The stream as a map from offsets to bytes -/

/-- The cell of an offset, published or pending. -/
def StreamDirection.view (core : StreamDirection σ) (offset : Nat) : Option (Option UInt8) :=
  if offset < core.published then lookup StreamEvent.byteAt core.emitted offset
  else cellAt core.ranges offset

theorem StreamDirection.view_of_published {core : StreamDirection σ} {offset : Nat}
    (published : offset < core.published) :
    lookup StreamEvent.byteAt core.emitted offset = core.view offset := by
  rw [StreamDirection.view, if_pos published]

/-- Publishing moves the border between the two parts of the view and nothing else. -/
structure Drained (core next : StreamDirection σ) : Prop where
  frame : next = { core with
    ranges := next.ranges, trackedBytes := next.trackedBytes, published := next.published,
    env := next.env, emitted := next.emitted }
  grows : core.published ≤ next.published
  emits : ∃ events, next.emitted = core.emitted ++ events
  view_eq : ∀ offset, next.view offset = core.view offset

theorem Drained.refl (core : StreamDirection σ) : Drained core core :=
  ⟨rfl, Nat.le_refl _, ⟨[], (List.append_nil _).symm⟩, fun _ => rfl⟩

theorem Drained.trans {core middle next : StreamDirection σ} (first : Drained core middle)
    (second : Drained middle next) : Drained core next where
  frame := by rw [second.frame, first.frame]
  grows := Nat.le_trans first.grows second.grows
  emits := by
    obtain ⟨early, earlyEq⟩ := first.emits
    obtain ⟨late, lateEq⟩ := second.emits
    exact ⟨early ++ late, by rw [lateEq, earlyEq, List.append_assoc]⟩
  view_eq := fun offset => (second.view_eq offset).trans (first.view_eq offset)

section Steps

variable {environment : Environment σ} {agrees : List StreamEvent → Nat → σ → Prop}
  {core : StreamDirection σ} {objectCharge : Nat}

/-! ## The ledger -/

/-- Only the ledger has changed, and it is in order. -/
structure Charged (agrees : List StreamEvent → Nat → σ → Prop) (core : StreamDirection σ)
    (tracked : Nat) (next : StreamDirection σ) : Prop where
  frame : next = { core with trackedBytes := tracked, env := next.env }
  solvent : Solvent agrees next

/-- What an interrupted reservation leaves. -/
def Interrupted (agrees : List StreamEvent → Nat → σ → Prop) (core : StreamDirection σ)
    (error : StreamError) (next : StreamDirection σ) : Prop :=
  error ≠ .none ∧ ∃ tracked, Charged agrees core tracked next

theorem reserve_spec (keeps : environment.Keeps agrees) (solvent : Solvent agrees core)
    (bytes : Nat) :
    Ensures (reserve environment bytes) core
      (fun _ next => Charged agrees core (core.trackedBytes + bytes) next)
      (fun error next => error ≠ .none ∧ Charged agrees core core.trackedBytes next) := by
  have room := subUInt64_eq solvent.within solvent.limit_le
  unfold reserve
  apply ensures_bind
  apply ensures_get
  apply ensures_bind
  apply ensures_throwIf
  · intro _
    exact ⟨by decide, rfl, solvent⟩
  · intro enough
    rw [room] at enough
    have kept := keeps.reserve _ _ _ bytes solvent.agreement
    apply ensures_bind
    apply ensures_ask
    apply ensures_bind
    apply ensures_throwIf
    · intro refused
      rw [refused] at kept
      exact ⟨by decide, rfl, kept, solvent.within, solvent.limit_le⟩
    · intro granted
      rw [Bool.not_eq_false] at granted
      rw [granted, if_pos rfl] at kept
      apply ensures_modify
      have within := solvent.within
      refine ⟨rfl, kept, ?_, solvent.limit_le⟩
      change core.trackedBytes + bytes ≤ core.config.maxBufferedBytesPerDirection
      omega

theorem reserveAndAllocate_spec (keeps : environment.Keeps agrees)
    (solvent : Solvent agrees core) (bytes : Nat) :
    Ensures (reserveAndAllocate environment bytes) core
      (fun _ next => Charged agrees core (core.trackedBytes + bytes) next)
      (Interrupted agrees core) := by
  unfold reserveAndAllocate
  apply ensures_bind
  apply ensures_mono (reserve_spec keeps solvent bytes)
  · rintro _ next ⟨frame, solvent⟩
    have kept := keeps.allocate _ _ _ solvent.agreement
    apply ensures_bind
    apply ensures_ask
    apply ensures_throwIf
    · intro _
      exact ⟨by decide, core.trackedBytes + bytes, by rw [frame], kept, solvent.within,
        solvent.limit_le⟩
    · intro _
      exact ⟨by rw [frame], kept, solvent.within, solvent.limit_le⟩
  · exact fun _ _ refused => ⟨refused.1, core.trackedBytes, refused.2⟩

theorem Charged.trans {middle next : StreamDirection σ} {early late : Nat}
    (first : Charged agrees core early middle) (second : Charged agrees middle late next) :
    Charged agrees core late next :=
  ⟨by rw [second.frame, first.frame], second.solvent⟩

theorem reserveAll_spec (keeps : environment.Keeps agrees) (solvent : Solvent agrees core)
    (charges : List Nat) :
    Ensures (charges.forM (reserveAndAllocate environment)) core
      (fun _ next => Charged agrees core (core.trackedBytes + charges.sum) next)
      (Interrupted agrees core) := by
  let invariant (rest : List Nat) (state : StreamDirection σ) : Prop :=
    ∃ done, done + rest.sum = charges.sum ∧ Charged agrees core (core.trackedBytes + done) state
  have start : invariant charges core := ⟨0, Nat.zero_add _, rfl, solvent⟩
  apply ensures_mono (@ensures_forM _ _ _ _ _ invariant _ ?_ _ start)
  · rintro _ next ⟨done, total, charged⟩
    rw [List.sum_nil, Nat.add_zero] at total
    exact total ▸ charged
  · exact fun _ _ interrupted => interrupted
  · rintro bytes rest state ⟨done, total, charged⟩
    have tracked : state.trackedBytes = core.trackedBytes + done := by rw [charged.frame]
    rw [List.sum_cons] at total
    apply ensures_mono (reserveAndAllocate_spec keeps charged.solvent bytes)
    · intro _ next paid
      rw [tracked, Nat.add_assoc] at paid
      exact ⟨done + bytes, by omega, charged.trans paid⟩
    · rintro error next ⟨isError, late, paid⟩
      exact ⟨isError, late, charged.trans paid⟩

theorem editRanges_spec (keeps : environment.Keeps agrees) (solvent : Solvent agrees core)
    (edit : List Range → List Range × List Nat) :
    Ensures (editRanges environment edit) core
      (fun _ next =>
        Charged agrees { core with ranges := (edit core.ranges).1 }
          (core.trackedBytes + (edit core.ranges).2.sum) next)
      (Interrupted agrees core) := by
  unfold editRanges
  apply ensures_bind
  apply ensures_get
  apply ensures_bind
  apply ensures_mono (reserveAll_spec keeps solvent _)
  · rintro _ next ⟨frame, solvent⟩
    apply ensures_modify
    exact ⟨by rw [frame], solvent.agreement, solvent.within, solvent.limit_le⟩
  · exact fun _ _ interrupted => interrupted

theorem release_spec (keeps : environment.Keeps agrees) (solvent : Solvent agrees core)
    {bytes : Nat} (owned : bytes ≤ core.trackedBytes) :
    Charged agrees core (core.trackedBytes - bytes) (release environment bytes core) := by
  have within := solvent.within
  have limit := solvent.limit_le
  unfold release
  split
  · next zero =>
      subst zero
      exact ⟨rfl, solvent⟩
  · have trackedEq := subUInt64_eq owned (Nat.le_trans within limit)
    rw [trackedEq]
    refine ⟨rfl, keeps.release _ _ _ _ owned solvent.agreement, ?_, limit⟩
    change core.trackedBytes - bytes ≤ core.config.maxBufferedBytesPerDirection
    omega

theorem clear_spec (keeps : environment.Keeps agrees) (solvent : Solvent agrees core) :
    Charged agrees { core with ranges := [] } 0 (clear environment core) := by
  have emptied : Solvent agrees { core with ranges := [] } :=
    ⟨solvent.agreement, solvent.within, solvent.limit_le⟩
  have cleared := release_spec keeps emptied (Nat.le_refl _)
  rwa [Nat.sub_self] at cleared

/-! ## Publishing -/

/-- The event that publishes a range. -/
structure Publishes (event : StreamEvent) (at_ : Range) : Prop where
  begin_eq : event.begin = at_.begin
  end_eq : event.end_ = at_.end_
  wellFormed : event.WellFormed
  open_ : event.isEnd = false
  byteAt_eq : ∀ offset, at_.begin ≤ offset → offset < at_.end_ →
    event.byteAt offset = at_.byteAt offset

theorem publishes_data {at_ : Range} {data : List UInt8} (valid : at_.Valid)
    (dataEq : at_.data = some data) :
    Publishes
      (.data at_.begin at_.end_ (data.take (at_.end_ - at_.begin)) at_.timestampNs) at_ where
  begin_eq := rfl
  end_eq := rfl
  wellFormed := by
    have enough := (valid.buffered data dataEq).2
    exact ⟨valid.nonempty, by rw [List.length_take]; omega⟩
  open_ := rfl
  byteAt_eq := by
    intro offset after before
    simp only [StreamEvent.byteAt, Range.byteAt, dataEq, Option.bind_some]
    rw [List.getElem?_take, if_pos (by omega)]

theorem publishes_gap {at_ : Range} (valid : at_.Valid) (gap : at_.data = none)
    (reason : GapReason) :
    Publishes (.gap at_.begin at_.end_ reason at_.truncated) at_ where
  begin_eq := rfl
  end_eq := rfl
  wellFormed := valid.nonempty
  open_ := rfl
  byteAt_eq := by
    intro offset _ _
    rw [Range.byteAt_of_gap gap]
    rfl

/-- The front range has been published and erased. -/
theorem Live.advance (live : Live environment agrees objectCharge core) {at_ : Range}
    {rest : List Range} (front : core.ranges = at_ :: rest) {event : StreamEvent}
    (publishes : Publishes event at_) (next : StreamDirection σ)
    (frame : next = { core with
      ranges := rest, trackedBytes := core.trackedBytes - at_.charge environment.sizes.range,
      published := at_.end_, env := next.env, emitted := core.emitted ++ [event] })
    (solvent : Solvent agrees next) :
    Live environment agrees objectCharge next ∧ Drained core next := by
  have pending := live.pending
  rw [front] at pending
  obtain ⟨start, valid, tail⟩ := Pending.cons_iff.mp pending
  have ordered := valid.nonempty
  have charged := live.charged
  rw [front, rangesCharge_cons] at charged
  have history : History (core.emitted ++ [event]) event.end_ :=
    History.concat (by rw [publishes.begin_eq, start]; exact live.history) publishes.wellFormed
      (by rw [publishes.begin_eq, publishes.end_eq]; omega) publishes.open_
  constructor
  · rw [frame] at solvent ⊢
    refine ⟨live.running, solvent, tail, ?_, publishes.end_eq ▸ history, live.progress, live.fin⟩
    change core.trackedBytes - _ = objectCharge + rangesCharge environment.sizes.range rest
    omega
  · refine ⟨by rw [frame], ?_, ⟨[event], by rw [frame]⟩, ?_⟩
    · rw [frame]
      change core.published ≤ at_.end_
      omega
    · intro offset
      rw [frame]
      unfold StreamDirection.view
      simp only [front]
      rw [lookup_append, cellAt_cons]
      rcases Nat.lt_or_ge offset core.published with published | unpublished
      · have found : (lookup StreamEvent.byteAt core.emitted offset).isSome = true :=
          lookup_isSome live.history.contiguous (Nat.zero_le offset) published
        rw [if_pos (by omega), if_pos published, Option.or_of_isSome found]
      · rw [lookup_eq_none live.history.contiguous (Or.inr unpublished), Option.none_or,
          if_neg (Nat.not_lt.mpr unpublished), lookup_cons, lookup_nil]
        change (if offset < at_.end_ then
          (if event.begin ≤ offset ∧ offset < event.end_ then _ else _) else _) = _
        rw [publishes.begin_eq, publishes.end_eq]
        by_cases inside : offset < at_.end_
        · rw [if_pos inside, if_pos (by omega), if_pos (by omega),
            publishes.byteAt_eq offset (by omega) inside]
        · rw [if_neg inside, if_neg (by omega)]

/-- A throw that came before anything was published. -/
structure Halted (agrees : List StreamEvent → Nat → σ → Prop) (core : StreamDirection σ)
    (error : StreamError) (next : StreamDirection σ) : Prop where
  is_error : error ≠ .none
  open_ : next.ended = false
  solvent : Solvent agrees next
  emitted_eq : next.emitted = core.emitted
  published_eq : next.published = core.published

theorem Interrupted.halted {error : StreamError} {next : StreamDirection σ}
    (interrupted : Interrupted agrees core error next) (open_ : core.ended = false) :
    Halted agrees core error next := by
  obtain ⟨isError, tracked, frame, solvent⟩ := interrupted
  exact ⟨isError, by rw [frame]; exact open_, solvent, by rw [frame], by rw [frame]⟩

theorem Halted.broken {error : StreamError} {next : StreamDirection σ}
    (halted : Halted agrees core error next) (history : History core.emitted core.published) :
    Broken agrees core.view error next where
  is_error := halted.is_error
  open_ := halted.open_
  solvent := halted.solvent
  history := by
    rw [halted.emitted_eq, halted.published_eq]
    exact history
  published_eq := by
    intro offset published
    rw [halted.published_eq] at published
    rw [halted.emitted_eq, StreamDirection.view_of_published published]

theorem Halted.of_frame {error : StreamError} {middle next : StreamDirection σ}
    (halted : Halted agrees middle error next) (emitted_eq : middle.emitted = core.emitted)
    (published_eq : middle.published = core.published) : Halted agrees core error next :=
  ⟨halted.is_error, halted.open_, halted.solvent, halted.emitted_eq.trans emitted_eq,
    halted.published_eq.trans published_eq⟩

/-- A direction that has not started to change. -/
theorem Live.broken (live : Live environment agrees objectCharge core) {error : StreamError}
    (isError : error ≠ .none) : Broken agrees core.view error core :=
  ⟨isError, live.running.2, live.solvent, live.history,
    fun _ => StreamDirection.view_of_published⟩

/-- Publishing before the throw does not change the stream. -/
theorem Drained.broken {error : StreamError} {middle next : StreamDirection σ}
    (drained : Drained core middle) (broken : Broken agrees middle.view error next) :
    Broken agrees core.view error next :=
  funext drained.view_eq ▸ broken

/-- The sink has accepted the event, and nothing else has changed. -/
structure Accepted (agrees : List StreamEvent → Nat → σ → Prop) (core : StreamDirection σ)
    (event : StreamEvent) (tracked : Nat) (next : StreamDirection σ) : Prop where
  frame : next = { core with
    trackedBytes := tracked, published := event.end_, env := next.env,
    emitted := core.emitted ++ [event] }
  solvent : Solvent agrees next

theorem emit_spec (keeps : environment.Keeps agrees) (solvent : Solvent agrees core)
    (open_ : core.ended = false) (history : History core.emitted core.published)
    (event : StreamEvent) (wellFormed : event.WellFormed) :
    Ensures (emit environment event) core
      (fun _ next => Accepted agrees core event core.trackedBytes next)
      (Broken agrees core.view) := by
  have kept := keeps.emit _ _ _ event wellFormed solvent.agreement
  unfold emit
  apply ensures_bind
  apply ensures_ask
  apply ensures_bind
  generalize environment.emit event core.env = outcome at kept ⊢
  obtain ⟨reply, env⟩ := outcome
  cases reply with
  | accepted moved =>
      apply ensures_pure
      apply ensures_modify
      exact ⟨rfl, kept, solvent.within, solvent.limit_le⟩
  | refused =>
      apply ensures_throw
      exact ⟨by decide, open_, ⟨kept, solvent.within, solvent.limit_le⟩, history,
        fun _ => StreamDirection.view_of_published⟩
  | threw error =>
      apply ensures_throw
      exact ⟨kept.1, open_, ⟨kept.2, solvent.within, solvent.limit_le⟩, history,
        fun _ => StreamDirection.view_of_published⟩

/-- The answer is the charge that the erased range still has for its payload. -/
theorem emitOwned_spec (keeps : environment.Keeps agrees) (solvent : Solvent agrees core)
    (open_ : core.ended = false) (history : History core.emitted core.published)
    {event : StreamEvent} (wellFormed : event.WellFormed) {allocated : Nat}
    (owned : allocated ≤ core.trackedBytes) :
    Ensures (emitOwned environment event allocated) core
      (fun remaining next => remaining ≤ allocated ∧
        Accepted agrees core event (core.trackedBytes - (allocated - remaining)) next)
      (Broken agrees core.view) := by
  have kept := keeps.emitOwned _ _ _ event allocated wellFormed owned solvent.agreement
  have within := solvent.within
  have limit := solvent.limit_le
  unfold emitOwned
  apply ensures_bind
  apply ensures_ask
  apply ensures_bind
  generalize environment.emitOwned event allocated core.env = outcome at kept ⊢
  obtain ⟨reply, env⟩ := outcome
  cases reply with
  | accepted moved =>
      apply ensures_pure
      apply ensures_bind
      apply ensures_modify
      apply ensures_pure
      cases moved with
      | true =>
          have trackedEq := subUInt64_eq owned (Nat.le_trans within limit)
          simp only [if_true, trackedEq, publish, Nat.sub_zero] at kept ⊢
          refine ⟨Nat.zero_le _, rfl, kept, ?_, limit⟩
          change core.trackedBytes - allocated ≤ core.config.maxBufferedBytesPerDirection
          omega
      | false =>
          simp only [Bool.false_eq_true, if_false, publish, Nat.sub_self, Nat.sub_zero] at kept ⊢
          exact ⟨Nat.le_refl _, rfl, kept, within, limit⟩
  | refused =>
      apply ensures_throw
      exact ⟨by decide, open_, ⟨kept, within, limit⟩, history,
        fun _ => StreamDirection.view_of_published⟩
  | threw error =>
      apply ensures_throw
      exact ⟨kept.1, open_, ⟨kept.2, within, limit⟩, history,
        fun _ => StreamDirection.view_of_published⟩

/-- What is left at the front when `Drain` stops. -/
def DrainStops (forced : Bool) (core : StreamDirection σ) : Prop :=
  match core.ranges with
  | [] => True
  | front :: _ =>
      forced = false ∧ front.data = none ∧ gapExpired core.watermark front = false

theorem drainFrom_spec (keeps : environment.Keeps agrees) (forced : Bool)
    (ranges : List Range) (live : Live environment agrees objectCharge core)
    (rangesEq : core.ranges = ranges) :
    Ensures (drainFrom environment forced ranges) core
      (fun _ next => Live environment agrees objectCharge next ∧ Drained core next ∧
        DrainStops forced next)
      (Broken agrees core.view) := by
  induction ranges generalizing core with
  | nil =>
      apply ensures_pure
      exact ⟨live, Drained.refl core, by rw [DrainStops, rangesEq]; trivial⟩
  | cons at_ rest ih =>
      have pending := live.pending
      rw [rangesEq] at pending
      obtain ⟨start, valid, tail⟩ := Pending.cons_iff.mp pending
      have charged := live.charged
      rw [rangesEq, rangesCharge_cons, Range.charge] at charged
      -- After the front range is gone, the rest of the loop starts from `next`.
      have continue_ : ∀ next, Live environment agrees objectCharge next →
          Drained core next → next.ranges = rest →
          Ensures (drainFrom environment forced rest) next
            (fun _ last => Live environment agrees objectCharge last ∧ Drained core last ∧
              DrainStops forced last) (Broken agrees core.view) := by
        intro next nextLive drained nextRanges
        apply ensures_mono (ih nextLive nextRanges)
        · rintro _ last ⟨lastLive, more, stops⟩
          exact ⟨lastLive, drained.trans more, stops⟩
        · exact fun _ _ broken => drained.broken broken
      unfold drainFrom
      cases dataEq : at_.data with
      | some data =>
          have publishes := publishes_data valid dataEq
          apply ensures_bind
          apply ensures_mono (emitOwned_spec keeps live.solvent live.running.2 live.history
            publishes.wellFormed (by omega))
          · rintro remaining next ⟨part, accepted⟩
            have nextTracked : next.trackedBytes =
                core.trackedBytes - (at_.allocatedBytes - remaining) := by rw [accepted.frame]
            have erased := @release_spec _ environment agrees { next with ranges := rest } keeps
              ⟨accepted.solvent.agreement, accepted.solvent.within, accepted.solvent.limit_le⟩
              (environment.sizes.range + remaining)
              (by change _ ≤ next.trackedBytes; omega)
            apply ensures_bind
            apply ensures_modify
            obtain ⟨nextLive, drained⟩ := live.advance rangesEq publishes
              (release environment (environment.sizes.range + remaining)
                { next with ranges := rest })
              (by
                rw [erased.frame, accepted.frame]
                simp only [Range.charge, StreamEvent.end_]
                congr 1
                omega)
              erased.solvent
            exact continue_ _ nextLive drained (by rw [erased.frame])
          · exact fun _ _ broken => broken
      | none =>
          apply ensures_bind
          apply ensures_get
          apply ensures_ite
          · intro _
            have publishes := publishes_gap valid dataEq
              (if forced = true then .termination else .waitExpired)
            apply ensures_bind
            apply ensures_mono (emit_spec keeps live.solvent live.running.2 live.history _
              publishes.wellFormed)
            · rintro _ next accepted
              have nextTracked : next.trackedBytes = core.trackedBytes := by
                rw [accepted.frame]
              have erased := @release_spec _ environment agrees { next with ranges := rest } keeps
                ⟨accepted.solvent.agreement, accepted.solvent.within, accepted.solvent.limit_le⟩
                (environment.sizes.range + at_.allocatedBytes)
                (by change _ ≤ next.trackedBytes; omega)
              apply ensures_bind
              apply ensures_modify
              obtain ⟨nextLive, drained⟩ := live.advance rangesEq publishes
                (release environment (environment.sizes.range + at_.allocatedBytes)
                  { next with ranges := rest })
                (by
                  rw [erased.frame, accepted.frame]
                  simp only [Range.charge, StreamEvent.end_])
                erased.solvent
              exact continue_ _ nextLive drained (by rw [erased.frame])
            · exact fun _ _ broken => broken
          · intro waits
            rw [not_or, Bool.not_eq_true, Bool.not_eq_true] at waits
            apply ensures_pure
            refine ⟨live, Drained.refl core, ?_⟩
            rw [DrainStops, rangesEq]
            exact ⟨waits.1, dataEq, waits.2⟩

theorem drain_spec (keeps : environment.Keeps agrees) (forced : Bool)
    (live : Live environment agrees objectCharge core) :
    Ensures (drain environment forced) core
      (fun _ next => Live environment agrees objectCharge next ∧ Drained core next ∧
        DrainStops forced next)
      (Broken agrees core.view) := by
  unfold drain
  apply ensures_bind
  apply ensures_get
  exact drainFrom_spec keeps forced core.ranges live rfl

theorem DrainStops.empty (stops : DrainStops true core) : core.ranges = [] := by
  unfold DrainStops at stops
  cases rangesEq : core.ranges with
  | nil => rfl
  | cons front rest =>
      rw [rangesEq] at stops
      exact absurd stops.1 (by decide)

/-- Everything was published, the end event last. -/
structure Finished (environment : Environment σ) (agrees : List StreamEvent → Nat → σ → Prop)
    (objectCharge : Nat) (core : StreamDirection σ) (reason : EndReason)
    (sessionReason : Option SessionEndReason) (next : StreamDirection σ) : Prop where
  solvent : Solvent agrees next
  through : ∃ middle, Live environment agrees objectCharge middle ∧ Drained core middle ∧
    middle.ranges = [] ∧
    next = { middle with
      env := next.env, ended := true,
      emitted := middle.emitted ++ [.ended middle.published reason sessionReason] }

theorem finish_spec (keeps : environment.Keeps agrees)
    (live : Live environment agrees objectCharge core) (reason : EndReason)
    (sessionReason : Option SessionEndReason) :
    Ensures (finish environment reason sessionReason) core
      (fun _ next => Finished environment agrees objectCharge core reason sessionReason next)
      (Broken agrees core.view) := by
  unfold finish
  apply ensures_bind
  apply ensures_mono (drain_spec keeps true live)
  · rintro _ middle ⟨middleLive, drained, stops⟩
    apply ensures_bind
    apply ensures_get
    apply ensures_bind
    apply ensures_mono (emit_spec keeps middleLive.solvent middleLive.running.2
      middleLive.history (.ended middle.published reason sessionReason) trivial)
    · rintro _ next ⟨frame, solvent⟩
      apply ensures_modify
      refine ⟨⟨solvent.agreement, solvent.within, solvent.limit_le⟩, middle, middleLive, drained,
        stops.empty, ?_⟩
      rw [frame]
      rfl
    · exact fun _ _ broken => drained.broken broken
  · exact fun _ _ broken => broken

theorem Finished.ended {reason : EndReason} {sessionReason : Option SessionEndReason}
    {next : StreamDirection σ}
    (finished : Finished environment agrees objectCharge core reason sessionReason next) :
    Ended agrees next := by
  obtain ⟨solvent, middle, live, drained, empty, frame⟩ := finished
  have contiguous := live.pending.contiguous
  rw [empty, Contiguous.nil_iff] at contiguous
  refine ⟨?_, ?_, ?_, solvent, middle.emitted, reason, sessionReason, ?_, ?_⟩ <;> rw [frame]
  · exact ⟨live.running.1, rfl⟩
  · exact empty
  · exact contiguous
  · exact live.history

/-- The end of an operation: still running with nothing readable left, or finished
at the FIN. -/
inductive Settled (environment : Environment σ) (agrees : List StreamEvent → Nat → σ → Prop)
    (objectCharge : Nat) (core next : StreamDirection σ) : Prop where
  | running (live : Live environment agrees objectCharge next) (drained : Drained core next)
      (stops : DrainStops false next) (unfinished : next.fin ≠ some next.published)
  | finished (atFin : next.fin = some next.published)
      (finished : Finished environment agrees objectCharge core .fin none next)

theorem Finished.of_drained {middle next : StreamDirection σ} {reason : EndReason}
    {sessionReason : Option SessionEndReason} (drained : Drained core middle)
    (finished : Finished environment agrees objectCharge middle reason sessionReason next) :
    Finished environment agrees objectCharge core reason sessionReason next := by
  obtain ⟨solvent, last, live, more, empty, frame⟩ := finished
  exact ⟨solvent, last, live, drained.trans more, empty, frame⟩

/-- What was published up to the FIN stays so. -/
theorem Finished.fin_eq {next : StreamDirection σ} {reason : EndReason}
    {sessionReason : Option SessionEndReason}
    (finished : Finished environment agrees objectCharge core reason sessionReason next)
    (atFin : core.fin = some core.published) : next.fin = some next.published := by
  obtain ⟨_, last, live, drained, _, frame⟩ := finished
  have finEq : last.fin = some core.published := by rw [drained.frame]; exact atFin
  have beforeFin := live.fin _ finEq
  have ordered := live.pending.le
  have grows := drained.grows
  rw [frame]
  change last.fin = some last.published
  rw [finEq, Option.some.injEq]
  omega

theorem drainToFin_spec (keeps : environment.Keeps agrees)
    (live : Live environment agrees objectCharge core) :
    Ensures (drainToFin environment) core
      (fun _ next => Settled environment agrees objectCharge core next)
      (Broken agrees core.view) := by
  unfold drainToFin
  apply ensures_bind
  apply ensures_mono (drain_spec keeps false live)
  · rintro _ middle ⟨middleLive, drained, stops⟩
    apply ensures_bind
    apply ensures_get
    apply ensures_ite
    · intro atFin
      apply ensures_mono (finish_spec keeps middleLive .fin none)
      · intro _ next finished
        exact .finished (finished.fin_eq atFin) (finished.of_drained drained)
      · exact fun _ _ broken => drained.broken broken
    · intro unfinished
      apply ensures_pure
      exact .running middleLive drained stops unfinished
  · exact fun _ _ broken => broken

/-! ## Storing a segment -/

/-- `fin_` after the FIN branch of `Ingest`. -/
def finAfter (core : StreamDirection σ) (packet : PacketView) (declaredEnd : Nat) : Option Nat :=
  if packet.transport.tcp.fin = true ∧ core.fin = none then some declaredEnd else core.fin

/-- The end of the segment, cut at a known FIN. -/
def endAfter (core : StreamDirection σ) (packet : PacketView) (declaredEnd : Nat) : Nat :=
  (finAfter core packet declaredEnd).elim declaredEnd (min declaredEnd)

theorem releaseAll_spec (keeps : environment.Keeps agrees) (charges : List Nat)
    (solvent : Solvent agrees core) (owned : charges.sum ≤ core.trackedBytes) :
    Charged agrees core (core.trackedBytes - charges.sum)
      (charges.foldl (fun core bytes => release environment bytes core) core) := by
  induction charges generalizing core with
  | nil => exact ⟨rfl, solvent⟩
  | cons bytes rest ih =>
      rw [List.sum_cons] at owned ⊢
      have released := release_spec keeps solvent (show bytes ≤ core.trackedBytes by omega)
      have tracked : (release environment bytes core).trackedBytes =
          core.trackedBytes - bytes := by rw [released.frame]
      have later := ih released.solvent (by omega)
      rw [tracked, Nat.sub_sub] at later
      exact released.trans later

theorem trimAtFin_spec (keeps : environment.Keeps agrees)
    (live : Live environment agrees objectCharge core) {position : Nat}
    (after : core.published ≤ position) :
    let next := trimAtFin environment position { core with fin := some position }
    Live environment agrees objectCharge next ∧
      next = { core with
        ranges := next.ranges, trackedBytes := next.trackedBytes, env := next.env,
        fin := some position, extent := min core.extent position } ∧
      ∀ offset, cellAt next.ranges offset =
        if offset < position then cellAt core.ranges offset else none := by
  intro next
  have trimmed := trimRanges_spec environment.sizes.range after live.pending
  have charged := live.charged
  have chargeEq := trimmed.charge_eq
  have marked : Solvent agrees { core with fin := some position } :=
    ⟨live.solvent.agreement, live.solvent.within, live.solvent.limit_le⟩
  have released := releaseAll_spec keeps
    (trimRanges environment.sizes.range position core.ranges).2 marked
    (by change _ ≤ core.trackedBytes; omega)
  let erased := (trimRanges environment.sizes.range position core.ranges).2.foldl
    (fun core bytes => release environment bytes core) { core with fin := some position }
  have nextEq : next = { erased with
      ranges := (trimRanges environment.sizes.range position core.ranges).1,
      extent := min erased.extent position } := rfl
  change Charged agrees _ _ erased at released
  generalize erased = erased at released nextEq
  obtain ⟨frame, solvent⟩ := released
  rw [frame] at nextEq solvent
  rw [nextEq]
  refine ⟨⟨live.running, ⟨solvent.agreement, solvent.within, solvent.limit_le⟩, trimmed.pending,
    ?_, live.history, ?_, ?_⟩, rfl, trimmed.cells⟩
  · change core.trackedBytes - _ = objectCharge +
      rangesCharge environment.sizes.range
        (trimRanges environment.sizes.range position core.ranges).1
    omega
  · exact ⟨Nat.le_trans (Nat.min_le_left _ _) live.progress.1, live.progress.2⟩
  · intro fin finEq
    cases finEq
    exact Nat.min_le_right _ _

/-- An edit that keeps the partition. -/
theorem edit_spec (keeps : environment.Keeps agrees)
    (live : Live environment agrees objectCharge core)
    {edit : List Range → List Range × List Nat}
    (pending : Pending core.published (edit core.ranges).1 core.extent)
    (charge_eq : rangesCharge environment.sizes.range (edit core.ranges).1 =
      rangesCharge environment.sizes.range core.ranges + (edit core.ranges).2.sum) :
    Ensures (editRanges environment edit) core
      (fun _ next => Live environment agrees objectCharge next ∧
        next = { core with
          ranges := (edit core.ranges).1, trackedBytes := next.trackedBytes, env := next.env })
      (Halted agrees core) := by
  have charged := live.charged
  apply ensures_mono (editRanges_spec keeps live.solvent edit)
  · rintro _ next ⟨frame, solvent⟩
    refine ⟨?_, by rw [frame]⟩
    rw [frame] at solvent ⊢
    refine ⟨live.running, solvent, pending, ?_, live.history, live.progress, live.fin⟩
    change core.trackedBytes + (edit core.ranges).2.sum =
      objectCharge + rangesCharge environment.sizes.range (edit core.ranges).1
    omega
  · exact fun _ _ interrupted => interrupted.halted live.running.2

/-- The list as it is once `progress` has followed it. -/
structure Extended (environment : Environment σ) (agrees : List StreamEvent → Nat → σ → Prop)
    (objectCharge : Nat) (core : StreamDirection σ) (end_ : Nat) (next : StreamDirection σ) :
    Prop where
  live : Live environment agrees objectCharge next
  frame : next = { core with
    ranges := next.ranges, trackedBytes := next.trackedBytes, env := next.env,
    extent := max core.extent end_, progress := max core.progress end_ }
  cells : ∀ offset, cellAt next.ranges offset =
    if core.extent ≤ offset ∧ offset < end_ then some none else cellAt core.ranges offset

theorem extendRanges_spec (keeps : environment.Keeps agrees)
    (live : Live environment agrees objectCharge core) (timestampNs : Int) {end_ : Nat}
    (beforeFin : ∀ position, core.fin = some position → end_ ≤ position)
    (bounded : end_ ≤ maxUInt64) :
    Ensures (extendRanges environment timestampNs end_) core
      (fun _ next => Extended environment agrees objectCharge core end_
        { next with progress := max next.progress end_ })
      (Halted agrees core) := by
  have charged := live.charged
  have progress := live.progress
  unfold extendRanges
  apply ensures_bind
  apply ensures_get
  apply ensures_ite
  · intro beyond
    let gap := newGap core.extent end_ (deadline timestampNs core.config.gapTimeoutNs) false
    have gapValid : gap.Valid := Range.valid_newGap beyond _ _
    have gapPending : Pending core.extent [gap] end_ :=
      Pending.cons_iff.mpr ⟨rfl, gapValid, Pending.nil end_⟩
    apply ensures_bind
    apply ensures_mono (editRanges_spec keeps live.solvent _)
    · rintro _ next ⟨frame, solvent⟩
      apply ensures_modify
      rw [frame] at solvent ⊢
      refine ⟨⟨live.running, ⟨solvent.agreement, solvent.within, solvent.limit_le⟩,
        live.pending.append gapPending, ?_, live.history, ?_, beforeFin⟩, ?_, fun offset => ?_⟩
      · change core.trackedBytes + [environment.sizes.range].sum =
          objectCharge + rangesCharge environment.sizes.range (core.ranges ++ [gap])
        rw [rangesCharge_append, rangesCharge_cons, rangesCharge_nil, Range.charge,
          gapValid.gap_unallocated rfl, List.sum_singleton]
        omega
      · change end_ ≤ max core.progress end_ ∧ max core.progress end_ ≤ maxUInt64
        omega
      · rw [Nat.max_eq_right (Nat.le_of_lt beyond)]
      · change cellAt (core.ranges ++ [gap]) offset = _
        rw [cellAt_append, cellAt_cons_newGap, cellAt_nil]
        split_ifs with inside
        · rw [live.pending.cellAt_eq_none (Or.inr inside.1), Option.none_or]
        · rw [Option.or_none]
    · exact fun _ _ interrupted => interrupted.halted live.running.2
  · intro covered
    apply ensures_pure
    refine ⟨⟨live.running, ⟨live.solvent.agreement, live.solvent.within, live.solvent.limit_le⟩,
      live.pending, charged, live.history, ?_, live.fin⟩, ?_, fun offset => ?_⟩
    · change core.extent ≤ max core.progress end_ ∧ max core.progress end_ ≤ maxUInt64
      omega
    · rw [Nat.max_eq_left (Nat.not_lt.mp covered)]
    · rw [if_neg (by omega)]

theorem editWhen_spec (keeps : environment.Keeps agrees)
    (live : Live environment agrees objectCharge core) {condition : Bool}
    {edit : List Range → List Range × List Nat}
    (pending : condition = true → Pending core.published (edit core.ranges).1 core.extent)
    (charge_eq : condition = true → rangesCharge environment.sizes.range (edit core.ranges).1 =
      rangesCharge environment.sizes.range core.ranges + (edit core.ranges).2.sum) :
    Ensures (editWhen condition environment edit) core
      (fun _ next => Live environment agrees objectCharge next ∧
        next = { core with
          ranges := if condition = true then (edit core.ranges).1 else core.ranges,
          trackedBytes := next.trackedBytes, env := next.env })
      (Halted agrees core) := by
  unfold editWhen
  apply ensures_ite
  · intro holds
    rw [if_pos holds]
    exact edit_spec keeps live (pending holds) (charge_eq holds)
  · intro fails
    rw [if_neg fails]
    exact ensures_pure ⟨live, rfl⟩

/-- What `place` has established about a segment it accepts. -/
structure PlacedAt (core : StreamDirection σ) (sequence : UInt32) (packet : PacketView)
    (begin prefix_ declaredEnd : Nat) : Prop where
  mapped : mapSequence core sequence = some (begin, prefix_)
  declaredEnd_eq : declaredEnd = begin + packet.transport.payloadWireBytes.toNat - prefix_
  prefix_le : prefix_ ≤ packet.transport.payloadWireBytes.toNat
  bounded : begin + packet.transport.payloadWireBytes.toNat ≤ maxUInt64
  fin : packet.transport.tcp.fin = true →
    core.published ≤ declaredEnd ∧ ∀ position, core.fin = some position → position = declaredEnd

theorem placedAt_of_place {sequence : UInt32} {packet : PacketView}
    {begin prefix_ declaredEnd : Nat}
    (placed : place core sequence packet = .placed begin prefix_ declaredEnd) :
    PlacedAt core sequence packet begin prefix_ declaredEnd := by
  unfold place at placed
  simp only at placed
  split at placed
  · cases placed
  · split at placed
    · cases placed
    · next begin' prefix' mapped =>
        split at placed
        · cases placed
        · next fits =>
            split at placed
            · cases placed
            · next reaches =>
                split at placed
                · cases placed
                · split at placed
                  · cases placed
                  · next noConflict =>
                      cases placed
                      have wireBound := packet.transport.payloadWireBytes.toNat_lt
                      refine ⟨mapped, rfl, Nat.not_lt.mp reaches, ?_, ?_⟩
                      · unfold maxUInt64 at fits ⊢
                        omega
                      · intro isFin
                        rw [not_and, not_or] at noConflict
                        obtain ⟨agrees, after⟩ := noConflict isFin
                        refine ⟨Nat.not_lt.mp after, fun position finEq => ?_⟩
                        rw [finEq, Option.any_some, decide_eq_true_eq, not_not] at agrees
                        exact agrees

/-- A segment that ends before the origin. -/
theorem beforeOrigin_of_place {sequence : UInt32} {packet : PacketView}
    (before : place core sequence packet = .beforeOrigin) :
    ∃ begin prefix_, mapSequence core sequence = some (begin, prefix_) ∧
      packet.transport.payloadWireBytes.toNat < prefix_ := by
  unfold place at before
  simp only at before
  split at before
  · cases before
  · split at before
    · cases before
    · next begin prefix_ mapped =>
        refine ⟨begin, prefix_, mapped, ?_⟩
        by_contra reaches
        rw [if_neg reaches] at before
        split at before
        · cases before
        · split at before
          · cases before
          · split at before <;> cases before

/-- The byte that a segment brings for an offset. -/
def payloadAt (packet : PacketView) (begin prefix_ offset : Nat) : Option UInt8 :=
  (packet.payload.data.getD [])[prefix_ + (offset - begin)]?

/-- What storing a segment does: the FIN cuts the list, the list reaches the end of
the segment, and the gaps that the captured bytes cover are filled. -/
structure Stored (environment : Environment σ) (agrees : List StreamEvent → Nat → σ → Prop)
    (objectCharge : Nat) (core : StreamDirection σ) (packet : PacketView)
    (begin prefix_ declaredEnd : Nat) (next : StreamDirection σ) : Prop where
  live : Live environment agrees objectCharge next
  frame : next = { core with
    ranges := next.ranges, trackedBytes := next.trackedBytes, env := next.env,
    extent := next.extent, fin := finAfter core packet declaredEnd,
    progress := max core.progress (endAfter core packet declaredEnd) }
  extent_eq : next.extent = max
    (if packet.transport.tcp.fin = true ∧ core.fin = none then min core.extent declaredEnd
      else core.extent)
    (endAfter core packet declaredEnd)
  cells : ∀ offset, core.published ≤ offset →
    let kept := if packet.transport.tcp.fin = true ∧ core.fin = none ∧ declaredEnd ≤ offset then
        none else cellAt core.ranges offset
    let extended :=
      if core.extent ≤ offset ∧ offset < endAfter core packet declaredEnd then some none else kept
    cellAt next.ranges offset =
      if begin ≤ offset ∧ offset < min (capturedEnd packet begin prefix_)
          (endAfter core packet declaredEnd) ∧ extended = some none then
        some (payloadAt packet begin prefix_ offset)
      else extended

/-- The facts that `Ingest` checks first. -/
structure WellFormedFacts (packet : PacketView) : Prop where
  valid : packet.transport.tcp.valid = true
  length_eq : (packet.payload.data.getD []).length = packet.transport.payloadCapturedBytes.toNat
  captured_le :
    packet.transport.payloadCapturedBytes.toNat ≤ packet.transport.payloadWireBytes.toNat
  complete_iff : packet.transport.payloadComplete = true ↔
    packet.transport.payloadCapturedBytes = packet.transport.payloadWireBytes

theorem wellFormedFacts {packet : PacketView} (accepted : ¬ packet.malformed = true) :
    WellFormedFacts packet := by
  simp only [PacketView.malformed, Bool.or_eq_true, not_or, Bool.not_eq_true, Bool.not_eq_false',
    decide_eq_true_eq, not_not, Bool.and_eq_true, not_and, bne_iff_ne, ne_eq] at accepted
  obtain ⟨⟨⟨⟨valid, size_eq⟩, captured_le⟩, complete⟩, pointer⟩ := accepted
  refine ⟨valid, ?_, UInt32.le_iff_toNat_le.mp (UInt32.not_lt.mp captured_le), ?_⟩
  · rw [← size_eq]
    cases dataEq : packet.payload.data with
    | some bytes => exact packet.payload.length_eq bytes dataEq
    | none =>
        by_contra nonempty
        have present := pointer fun empty => nonempty empty.symm
        rw [dataEq] at present
        exact absurd present (by decide)
  · rw [complete, decide_eq_true_eq]

/-- The list after the FIN branch of `Ingest`. -/
structure FinMarked (environment : Environment σ) (agrees : List StreamEvent → Nat → σ → Prop)
    (objectCharge : Nat) (core : StreamDirection σ) (packet : PacketView) (declaredEnd : Nat)
    (next : StreamDirection σ) : Prop where
  live : Live environment agrees objectCharge next
  frame : next = { core with
    ranges := next.ranges, trackedBytes := next.trackedBytes, env := next.env,
    fin := finAfter core packet declaredEnd,
    extent := if packet.transport.tcp.fin = true ∧ core.fin = none then
      min core.extent declaredEnd else core.extent }
  cells : ∀ offset, cellAt next.ranges offset =
    if packet.transport.tcp.fin = true ∧ core.fin = none ∧ declaredEnd ≤ offset then none
    else cellAt core.ranges offset

theorem finMarked (keeps : environment.Keeps agrees)
    (live : Live environment agrees objectCharge core) (packet : PacketView) {declaredEnd : Nat}
    (after : packet.transport.tcp.fin = true → core.published ≤ declaredEnd) :
    FinMarked environment agrees objectCharge core packet declaredEnd
      (if packet.transport.tcp.fin = true ∧ core.fin = none then
        trimAtFin environment declaredEnd { core with fin := some declaredEnd } else core) := by
  by_cases first : packet.transport.tcp.fin = true ∧ core.fin = none
  · rw [if_pos first]
    obtain ⟨nextLive, frame, cells⟩ := trimAtFin_spec keeps live (after first.1)
    refine ⟨nextLive, ?_, fun offset => ?_⟩
    · rw [finAfter, if_pos first, if_pos first]
      exact frame
    · rw [cells offset]
      simp only [first, true_and]
      split_ifs <;> first | rfl | omega
  · rw [if_neg first]
    refine ⟨live, ?_, fun offset => ?_⟩
    · rw [finAfter, if_neg first, if_neg first]
    · rw [if_neg fun all => first ⟨all.1, all.2.1⟩]

theorem endAfter_le (packet : PacketView) (declaredEnd : Nat) :
    endAfter core packet declaredEnd ≤ declaredEnd := by
  unfold endAfter
  cases finAfter core packet declaredEnd with
  | none => exact Nat.le_refl _
  | some position => exact Nat.min_le_left _ _

theorem endAfter_le_fin {packet : PacketView} {declaredEnd position : Nat}
    (finEq : finAfter core packet declaredEnd = some position) :
    endAfter core packet declaredEnd ≤ position := by
  rw [endAfter, finEq]
  exact Nat.min_le_right _ _

/-- A FIN that cuts the list leaves nothing to extend. -/
theorem FinMarked.extent_le_iff {packet : PacketView} {declaredEnd : Nat}
    {next : StreamDirection σ}
    (marked : FinMarked environment agrees objectCharge core packet declaredEnd next)
    (offset : Nat) :
    (next.extent ≤ offset ∧ offset < endAfter core packet declaredEnd) ↔
      (core.extent ≤ offset ∧ offset < endAfter core packet declaredEnd) := by
  have extentEq := congrArg StreamDirection.extent marked.frame
  change next.extent = ite _ _ _ at extentEq
  rw [extentEq]
  split
  · next first =>
      have endEq : endAfter core packet declaredEnd = declaredEnd := by
        rw [endAfter, finAfter, if_pos first]
        exact Nat.min_self _
      omega
  · rfl

/-- Marking never reaches beyond the segment, and where the stretch to mark is
reversed no pending range meets it. -/
theorem mark_harmless {packet : PacketView} {begin prefix_ declaredEnd extent : Nat}
    (facts : WellFormedFacts packet)
    (declaredEnd_eq : declaredEnd = begin + packet.transport.payloadWireBytes.toNat - prefix_)
    (prefix_le : prefix_ ≤ packet.transport.payloadWireBytes.toNat)
    (extent_le : ∀ position, finAfter core packet declaredEnd = some position →
      extent ≤ position) :
    max (capturedEnd packet begin prefix_) core.published ≤ endAfter core packet declaredEnd ∨
      extent ≤ max (capturedEnd packet begin prefix_) core.published ∨
      endAfter core packet declaredEnd ≤ core.published := by
  have captured_le := facts.captured_le
  have capturedBound : capturedEnd packet begin prefix_ ≤ declaredEnd := by
    unfold capturedEnd
    split <;> omega
  cases finEq : finAfter core packet declaredEnd with
  | none =>
      have endEq : endAfter core packet declaredEnd = declaredEnd := by rw [endAfter, finEq]; rfl
      omega
  | some position =>
      have endEq : endAfter core packet declaredEnd = min declaredEnd position := by
        rw [endAfter, finEq]
        rfl
      have bounded := extent_le position finEq
      omega

/-- Filling in the captured bytes, seen from the offsets of the stream. -/
theorem fillCaptured_spec {packet : PacketView} {lo hi : Nat} (begin prefix_ end_ rangeCharge : Nat)
    {ranges : List Range} (facts : WellFormedFacts packet) (pending : Pending lo ranges hi)
    (nonempty : max begin lo < min (capturedEnd packet begin prefix_) end_) :
    let result := fill rangeCharge (max begin lo) (min (capturedEnd packet begin prefix_) end_)
      ((packet.payload.data.getD []).drop (prefix_ + (max begin lo - begin)))
      packet.timestampNs ranges
    Pending lo result.1 hi ∧
      rangesCharge rangeCharge result.1 = rangesCharge rangeCharge ranges + result.2.sum ∧
      ∀ offset, lo ≤ offset → cellAt result.1 offset =
        if begin ≤ offset ∧ offset < min (capturedEnd packet begin prefix_) end_ ∧
            cellAt ranges offset = some none then
          some (payloadAt packet begin prefix_ offset)
        else cellAt ranges offset := by
  have captured : capturedEnd packet begin prefix_ =
      begin + (packet.transport.payloadCapturedBytes.toNat - prefix_) := by
    unfold capturedEnd
    split <;> omega
  have enough : min (capturedEnd packet begin prefix_) end_ - max begin lo ≤
      ((packet.payload.data.getD []).drop (prefix_ + (max begin lo - begin))).length := by
    rw [List.length_drop, facts.length_eq]
    omega
  have filled := fill_spec rangeCharge packet.timestampNs nonempty enough pending
  refine ⟨filled.pending, filled.charge_eq, fun offset after => ?_⟩
  rw [filled.cells]
  by_cases inside : begin ≤ offset
  · have index : prefix_ + (max begin lo - begin) + (offset - max begin lo) =
        prefix_ + (offset - begin) := by omega
    have reached : max begin lo ≤ offset := by omega
    simp only [reached, inside, true_and, List.getElem?_drop, index, payloadAt]
  · rw [if_neg (by omega), if_neg (by omega)]

theorem store_spec (keeps : environment.Keeps agrees)
    (live : Live environment agrees objectCharge core) {sequence : UInt32} {packet : PacketView}
    {begin prefix_ declaredEnd : Nat} (facts : WellFormedFacts packet)
    (placed : PlacedAt core sequence packet begin prefix_ declaredEnd) :
    Ensures (store environment packet begin prefix_ declaredEnd) core
      (fun _ next => Stored environment agrees objectCharge core packet begin prefix_
        declaredEnd next)
      (Halted agrees core) := by
  have finStep := finMarked keeps live packet fun isFin => (placed.fin isFin).1
  unfold store
  apply ensures_bind
  apply ensures_modify
  generalize (if packet.transport.tcp.fin = true ∧ core.fin = none then
    trimAtFin environment declaredEnd { core with fin := some declaredEnd } else core) = marked
    at finStep ⊢
  have markedFin : marked.fin = finAfter core packet declaredEnd := by rw [finStep.frame]
  have markedPublished : marked.published = core.published := by rw [finStep.frame]
  have endEq : marked.fin.elim declaredEnd (min declaredEnd) = endAfter core packet declaredEnd := by
    rw [markedFin]
    rfl
  have placedEnd := placed.declaredEnd_eq
  have placedBound := placed.bounded
  apply ensures_bind
  apply ensures_get
  simp only [endEq, markedPublished]
  apply ensures_bind
  apply ensures_mono (extendRanges_spec keeps finStep.live packet.timestampNs
    (fun position finEq => endAfter_le_fin (markedFin ▸ finEq))
    (Nat.le_trans (endAfter_le packet declaredEnd) (by omega)))
  · rintro _ grown extended
    apply ensures_bind
    apply ensures_modify
    generalize ({ grown with
      progress := max grown.progress (endAfter core packet declaredEnd) } :
        StreamDirection σ) = grown at extended ⊢
    have grownPublished : grown.published = core.published := by
      rw [extended.frame, finStep.frame]
    have fillSpec := fillCaptured_spec begin prefix_ (endAfter core packet declaredEnd)
      environment.sizes.range facts (grownPublished ▸ extended.live.pending)
    apply ensures_bind
    apply ensures_mono (editWhen_spec keeps extended.live
      (fun nonempty => grownPublished ▸ (fillSpec (of_decide_eq_true nonempty)).1)
      (fun nonempty => (fillSpec (of_decide_eq_true nonempty)).2.1))
    · rintro _ filled ⟨filledLive, filledFrame⟩
      have filledPublished : filled.published = core.published := by
        rw [filledFrame, grownPublished]
      have filledFin : filled.fin = finAfter core packet declaredEnd := by
        rw [filledFrame, extended.frame, markedFin]
      have harmless := @mark_harmless _ core _ _ _ _ filled.extent facts
        placed.declaredEnd_eq placed.prefix_le fun position finEq =>
          filledLive.fin position (filledFin.trans finEq)
      have markSpec := @markTruncated_spec environment.sizes.range _ _ _ _ _ harmless
        (filledPublished ▸ filledLive.pending)
      apply ensures_mono (editWhen_spec keeps filledLive
        (fun _ => filledPublished ▸ markSpec.pending) (fun _ => markSpec.charge_eq))
      · rintro _ last ⟨lastLive, lastFrame⟩
        refine ⟨lastLive, ?_, ?_, fun offset after => ?_⟩
        · rw [lastFrame, filledFrame, extended.frame, finStep.frame]
        · rw [lastFrame, filledFrame, extended.frame, finStep.frame]
        · intro kept extendedCell
          have grownCell : cellAt grown.ranges offset = extendedCell := by
            rw [extended.cells offset, finStep.cells offset]
            simp only [finStep.extent_le_iff offset]
            rfl
          have filledCell : cellAt filled.ranges offset =
              if begin ≤ offset ∧ offset < min (capturedEnd packet begin prefix_)
                  (endAfter core packet declaredEnd) ∧ extendedCell = some none then
                some (payloadAt packet begin prefix_ offset)
              else extendedCell := by
            rw [filledFrame, ← grownCell]
            split
            · next nonempty => exact (fillSpec (of_decide_eq_true nonempty)).2.2 offset after
            · next empty =>
                rw [decide_eq_true_eq] at empty
                rw [if_neg (by omega)]
          rw [lastFrame, ← filledCell]
          split
          · exact markSpec.cells offset
          · rfl
      · exact fun _ _ halted => halted.of_frame (by
          rw [filledFrame, extended.frame, finStep.frame]) filledPublished
    · exact fun _ _ halted => halted.of_frame (by
        rw [extended.frame, finStep.frame]) grownPublished
  · exact fun _ _ halted => halted.of_frame (by rw [finStep.frame]) markedPublished

/-! ## Ingesting a packet -/

/-- The direction once a packet with acceptable facts has been seen. -/
def noted (core : StreamDirection σ) (packet : PacketView) : StreamDirection σ :=
  { core with truncated := core.truncated || !packet.transport.payloadComplete }

/-- The sequence number of the first payload byte. -/
def payloadSequence (packet : PacketView) : UInt32 :=
  packet.transport.tcp.sequence + (if packet.transport.tcp.syn then 1 else 0)

/-- The direction once the origin is fixed. -/
def anchored (core : StreamDirection σ) (packet : PacketView) : StreamDirection σ :=
  fixOrigin (payloadSequence packet) packet.transport.tcp.syn (noted core packet)

/-- A packet without SYN, FIN and payload has no place in the stream. -/
def CarriesSequence (packet : PacketView) : Prop :=
  ¬ (packet.transport.tcp.syn = false ∧ packet.transport.tcp.fin = false ∧
    packet.transport.payloadWireBytes = 0)

/-- The parts of the state that the invariant does not read. -/
theorem Live.reframe (live : Live environment agrees objectCharge core)
    (next : StreamDirection σ)
    (frame : next = { core with
      truncated := next.truncated, baseSequence := next.baseSequence, origin := next.origin,
      watermark := next.watermark }) :
    Live environment agrees objectCharge next := by
  rw [frame]
  exact ⟨live.running, ⟨live.solvent.agreement, live.solvent.within, live.solvent.limit_le⟩,
    live.pending, live.charged, live.history, live.progress, live.fin⟩

theorem anchored_frame (core : StreamDirection σ) (packet : PacketView) :
    anchored core packet = { core with
      truncated := (anchored core packet).truncated,
      baseSequence := (anchored core packet).baseSequence,
      origin := (anchored core packet).origin } := by
  unfold anchored fixOrigin noted
  split <;> rfl

theorem Live.anchored (live : Live environment agrees objectCharge core) (packet : PacketView) :
    Live environment agrees objectCharge (anchored core packet) :=
  live.reframe _ (by rw [anchored_frame])

theorem Live.noted (live : Live environment agrees objectCharge core) (packet : PacketView) :
    Live environment agrees objectCharge (noted core packet) :=
  live.reframe _ rfl

/-- How `Ingest` returns. -/
inductive Ingested (environment : Environment σ) (agrees : List StreamEvent → Nat → σ → Prop)
    (objectCharge : Nat) (core : StreamDirection σ) (packet : PacketView)
    (next : StreamDirection σ) : Prop where
  | noSequence (empty : ¬ CarriesSequence packet) (next_eq : next = noted core packet)
  | beforeOrigin (carries : CarriesSequence packet)
      (before : place (Npm.anchored core packet) (payloadSequence packet) packet = .beforeOrigin)
      (next_eq : next = Npm.anchored core packet)
  | stored (carries : CarriesSequence packet) (begin prefix_ declaredEnd : Nat)
      (placed : PlacedAt (Npm.anchored core packet) (payloadSequence packet) packet begin prefix_
        declaredEnd)
      (middle : StreamDirection σ)
      (stored : Stored environment agrees objectCharge (Npm.anchored core packet) packet begin
        prefix_ declaredEnd middle)
      (settled : Settled environment agrees objectCharge middle next)
  | ambiguous (carries : CarriesSequence packet)
      (finished : Finished environment agrees objectCharge (Npm.anchored core packet)
        .sequenceAmbiguous none next)
  | reset (rst : packet.transport.tcp.rst = true) (middle : StreamDirection σ)
      (finished : Finished environment agrees objectCharge middle .reset none next)

theorem anchored_view (core : StreamDirection σ) (packet : PacketView) :
    (Npm.anchored core packet).view = core.view := by
  rw [anchored_frame]
  rfl

/-- How `Ingest` throws: before the segment is stored, or while it is published. -/
inductive IngestBroken (environment : Environment σ)
    (agrees : List StreamEvent → Nat → σ → Prop) (objectCharge : Nat)
    (core : StreamDirection σ) (packet : PacketView) (error : StreamError)
    (next : StreamDirection σ) : Prop where
  | before (broken : Broken agrees core.view error next)
  | after {begin prefix_ declaredEnd : Nat} (facts : WellFormedFacts packet)
      (carries : CarriesSequence packet)
      (placed : PlacedAt (Npm.anchored core packet) (payloadSequence packet) packet begin prefix_
        declaredEnd)
      (middle : StreamDirection σ)
      (stored : Stored environment agrees objectCharge (Npm.anchored core packet) packet begin
        prefix_ declaredEnd middle)
      (broken : Broken agrees middle.view error next)

theorem ingest_spec (keeps : environment.Keeps agrees)
    (live : Live environment agrees objectCharge core) (packet : PacketView) :
    Ensures (ingest environment packet) core
      (fun _ next => WellFormedFacts packet ∧
        Ingested environment agrees objectCharge core packet next)
      (IngestBroken environment agrees objectCharge core packet) := by
  unfold ingest
  apply ensures_bind
  apply ensures_throwIf
  · intro _
    exact .before (live.broken (by decide))
  · intro accepted
    have facts := wellFormedFacts accepted
    apply ensures_bind
    apply ensures_modify
    apply ensures_ite
    · intro empty
      apply ensures_ite
      · intro rst
        apply ensures_mono (finish_spec keeps (live.noted packet) .reset none)
        · exact fun _ next finished => ⟨facts, .reset rst _ finished⟩
        · exact fun _ _ broken => .before broken
      · intro _
        exact ensures_pure ⟨facts, .noSequence (fun carries => carries empty) rfl⟩
    · intro carries
      have anchoredLive := live.anchored packet
      apply ensures_bind
      apply ensures_modify
      change Ensures _ (Npm.anchored core packet) _ _
      apply ensures_bind
      apply ensures_get
      have sequence : payloadSequence packet =
        packet.transport.tcp.sequence + (if packet.transport.tcp.syn then 1 else 0) := rfl
      rw [← sequence]
      cases outcome : place (Npm.anchored core packet) (payloadSequence packet) packet with
      | ambiguous =>
          apply ensures_mono (finish_spec keeps anchoredLive .sequenceAmbiguous none)
          · exact fun _ next finished => ⟨facts, .ambiguous carries finished⟩
          · exact fun _ _ broken => .before (anchored_view core packet ▸ broken)
      | beforeOrigin =>
          apply ensures_ite
          · intro rst
            apply ensures_mono (finish_spec keeps anchoredLive .reset none)
            · exact fun _ next finished => ⟨facts, .reset rst _ finished⟩
            · exact fun _ _ broken => .before (anchored_view core packet ▸ broken)
          · intro _
            exact ensures_pure ⟨facts, .beforeOrigin carries outcome rfl⟩
      | placed begin prefix_ declaredEnd =>
          have placed := placedAt_of_place outcome
          apply ensures_bind
          apply ensures_mono (store_spec keeps anchoredLive facts placed)
          · intro _ middle stored
            apply ensures_ite
            · intro rst
              apply ensures_mono (finish_spec keeps stored.live .reset none)
              · exact fun _ next finished => ⟨facts, .reset rst _ finished⟩
              · exact fun _ _ broken => .after facts carries placed middle stored broken
            · intro _
              apply ensures_mono (drainToFin_spec keeps stored.live)
              · exact fun _ next settled =>
                  ⟨facts, .stored carries begin prefix_ declaredEnd placed middle stored settled⟩
              · exact fun _ _ broken => .after facts carries placed middle stored broken
          · exact fun _ _ halted =>
              .before (anchored_view core packet ▸ halted.broken anchoredLive.history)

theorem IngestBroken.exists_view {packet : PacketView} {error : StreamError}
    {next : StreamDirection σ}
    (broken : IngestBroken environment agrees objectCharge core packet error next) :
    ∃ view, Broken agrees view error next := by
  cases broken with
  | before broken => exact ⟨_, broken⟩
  | after _ _ _ _ _ broken => exact ⟨_, broken⟩

end Steps

/-! ## Operations and runs -/

section Runs

variable {environment : Environment σ} {agrees : List StreamEvent → Nat → σ → Prop}
  {core : StreamDirection σ} {objectCharge : Nat}

/-- The state of a direction between two operations. -/
inductive Between (environment : Environment σ) (agrees : List StreamEvent → Nat → σ → Prop)
    (objectCharge : Nat) (core : StreamDirection σ) : Prop where
  | live (live : Live environment agrees objectCharge core)
  | ended (ended : Ended agrees core)
  | failed (failed : Failed agrees core)

theorem Settled.between {next : StreamDirection σ}
    (settled : Settled environment agrees objectCharge core next) :
    Between environment agrees objectCharge next := by
  cases settled with
  | running live _ _ _ => exact .live live
  | finished _ finished => exact .ended finished.ended

theorem Ingested.between (live : Live environment agrees objectCharge core)
    {packet : PacketView} {next : StreamDirection σ}
    (ingested : Ingested environment agrees objectCharge core packet next) :
    Between environment agrees objectCharge next := by
  cases ingested with
  | noSequence _ next_eq => exact .live (next_eq ▸ live.noted packet)
  | beforeOrigin _ _ next_eq => exact .live (next_eq ▸ live.anchored packet)
  | stored _ _ _ _ _ _ _ settled => exact settled.between
  | ambiguous _ finished => exact .ended finished.ended
  | reset _ _ finished => exact .ended finished.ended

theorem fail_failed (keeps : environment.Keeps agrees) {error : StreamError}
    {view : Nat → Option (Option UInt8)} (broken : Broken agrees view error core) : Failed agrees (fail environment error core) := by
  have marked : Solvent agrees { core with error := error } :=
    ⟨broken.solvent.agreement, broken.solvent.within, broken.solvent.limit_le⟩
  obtain ⟨frame, solvent⟩ := clear_spec keeps marked
  unfold fail
  rw [frame] at solvent ⊢
  exact ⟨broken.is_error, rfl, rfl, solvent.agreement, broken.history⟩

theorem stopped_of_live (live : Live environment agrees objectCharge core) :
    stopped core = false := by
  simp [stopped, live.running.1, live.running.2]

theorem stopped_of_ended (ended : Ended agrees core) : stopped core = true := by
  simp [stopped, ended.ended.2]

theorem stopped_of_failed (failed : Failed agrees core) : stopped core = true := by
  simp [stopped, failed.is_error]

/-- A packet is ingested, or the direction fails. -/
theorem push_cases (keeps : environment.Keeps agrees)
    (live : Live environment agrees objectCharge core) (packet : PacketView) :
    Ingested environment agrees objectCharge core packet (push environment packet core) ∨
      ∃ error middle, IngestBroken environment agrees objectCharge core packet error middle ∧
        push environment packet core = fail environment error middle := by
  have spec := ingest_spec keeps live packet
  rw [push, stopped_of_live live, if_neg (by decide), guarded]
  cases outcome : ingest environment packet core with
  | ok value next => exact .inl (spec.of_ok outcome).2
  | error error next => exact .inr ⟨error, next, spec.of_error outcome, rfl⟩

theorem advanceWatermark_cases (keeps : environment.Keeps agrees)
    (live : Live environment agrees objectCharge core) (watermarkNs : Int) :
    let next := advanceWatermark environment watermarkNs core
    next = core ∨
      Settled environment agrees objectCharge { core with watermark := some watermarkNs } next ∨
      ∃ error middle, Broken agrees core.view error middle ∧
        next = fail environment error middle := by
  intro next
  have spec := drainToFin_spec keeps
    (live.reframe { core with watermark := some watermarkNs } rfl)
  have nextEq : next = advanceWatermark environment watermarkNs core := rfl
  rw [nextEq, advanceWatermark, stopped_of_live live, if_neg (by decide)]
  split
  · exact .inl rfl
  · rw [guarded]
    cases outcome : drainToFin environment { core with watermark := some watermarkNs } with
    | ok value next => exact .inr (.inl (spec.of_ok outcome))
    | error error next => exact .inr (.inr ⟨error, next, spec.of_error outcome, rfl⟩)

/-- A caller cannot give the FIN as the reason. -/
theorem endReasons?_ne_fin {reason : UInt8} {sessionReason : Option UInt8}
    {reasons : EndReason × Option SessionEndReason}
    (given : endReasons? reason sessionReason = some reasons) : reasons.1 ≠ .fin := by
  unfold endReasons? at given
  split at given
  · obtain ⟨code, _, found⟩ := Option.bind_eq_some_iff.mp given
    obtain ⟨session, _, rfl⟩ := Option.map_eq_some_iff.mp found
    intro isFin
    cases isFin
  · split at given <;> cases given
    decide
  · split at given <;> cases given
    decide
  · cases given

theorem endStream_cases (keeps : environment.Keeps agrees)
    (live : Live environment agrees objectCharge core) (reason : UInt8)
    (sessionReason : Option UInt8) :
    let next := endStream environment reason sessionReason core
    (∃ reasons : EndReason × Option SessionEndReason, reasons.1 ≠ .fin ∧
        Finished environment agrees objectCharge core reasons.1 reasons.2 next) ∨
      ∃ error middle, Broken agrees core.view error middle ∧
        next = fail environment error middle := by
  intro next
  have nextEq : next = endStream environment reason sessionReason core := rfl
  rw [nextEq, endStream, stopped_of_live live, if_neg (by decide)]
  cases given : endReasons? reason sessionReason with
  | none => exact .inr ⟨_, core, live.broken (by decide), rfl⟩
  | some reasons =>
      have spec := finish_spec keeps live reasons.1 reasons.2
      change _ ∨ ∃ error middle, _ ∧ guarded environment _ core = _
      change (∃ _, _ ∧ Finished environment agrees objectCharge core _ _
        (guarded environment (finish environment reasons.1 reasons.2) core)) ∨ _
      rw [guarded]
      cases outcome : finish environment reasons.1 reasons.2 core with
      | ok value next =>
          exact .inl ⟨reasons, endReasons?_ne_fin given, spec.of_ok outcome⟩
      | error error next => exact .inr ⟨error, next, spec.of_error outcome, rfl⟩

theorem push_between (keeps : environment.Keeps agrees)
    (live : Live environment agrees objectCharge core) (packet : PacketView) :
    Between environment agrees objectCharge (push environment packet core) := by
  rcases push_cases keeps live packet with ingested | ⟨error, middle, broken, nextEq⟩
  · exact ingested.between live
  · obtain ⟨_, broken⟩ := broken.exists_view
    exact nextEq ▸ .failed (fail_failed keeps broken)

theorem advanceWatermark_between (keeps : environment.Keeps agrees)
    (live : Live environment agrees objectCharge core) (watermarkNs : Int) :
    Between environment agrees objectCharge (advanceWatermark environment watermarkNs core) := by
  rcases advanceWatermark_cases keeps live watermarkNs with
    nextEq | settled | ⟨error, middle, broken, nextEq⟩
  · rw [nextEq]
    exact .live live
  · exact settled.between
  · exact nextEq ▸ .failed (fail_failed keeps broken)

theorem endStream_between (keeps : environment.Keeps agrees)
    (live : Live environment agrees objectCharge core) (reason : UInt8)
    (sessionReason : Option UInt8) :
    Between environment agrees objectCharge
      (endStream environment reason sessionReason core) := by
  rcases endStream_cases keeps live reason sessionReason with
    ⟨reasons, _, finished⟩ | ⟨error, middle, broken, nextEq⟩
  · exact .ended finished.ended
  · exact nextEq ▸ .failed (fail_failed keeps broken)

theorem abort_between (keeps : environment.Keeps agrees)
    (between : Between environment agrees objectCharge core) :
    Between environment agrees objectCharge (abort environment core) := by
  cases between with
  | live live =>
      have aborted := fail_failed keeps (live.broken (show StreamError.aborted ≠ .none by decide))
      rw [abort, if_pos live.running]
      exact .failed aborted
  | ended ended =>
      rw [abort, if_neg (by rw [ended.ended.2]; exact fun both => absurd both.2 (by decide))]
      obtain ⟨frame, solvent⟩ := clear_spec keeps ended.solvent
      rw [frame] at solvent ⊢
      exact .ended ⟨ended.ended, rfl, ended.complete, solvent, ended.closed⟩
  | failed failed =>
      rw [abort, if_neg fun both => failed.is_error both.1]
      refine .failed ?_
      rw [clear, release, if_pos failed.released]
      exact ⟨failed.is_error, rfl, failed.released, failed.agreement, failed.history⟩

theorem runCall_of_stopped {call : StreamCall} (stops : stopped core = true)
    (notAbort : call ≠ .abort) : runCall environment core call = core := by
  cases call with
  | push packet => rw [runCall, push, if_pos stops]
  | advanceWatermark watermarkNs => rw [runCall, advanceWatermark, if_pos stops]
  | endStream reason sessionReason => rw [runCall, endStream, if_pos stops]
  | abort => exact absurd rfl notAbort

/-- One operation. -/
theorem runCall_between (keeps : environment.Keeps agrees)
    (between : Between environment agrees objectCharge core) (call : StreamCall) :
    Between environment agrees objectCharge (runCall environment core call) := by
  by_cases isAbort : call = .abort
  · subst isAbort
    exact abort_between keeps between
  · cases between with
    | live live =>
        cases call with
        | push packet => exact push_between keeps live packet
        | advanceWatermark watermarkNs => exact advanceWatermark_between keeps live watermarkNs
        | endStream reason sessionReason => exact endStream_between keeps live reason sessionReason
        | abort => exact absurd rfl isAbort
    | ended ended =>
        rw [runCall_of_stopped (stopped_of_ended ended) isAbort]
        exact .ended ended
    | failed failed =>
        rw [runCall_of_stopped (stopped_of_failed failed) isAbort]
        exact .failed failed

/-- Any number of operations. -/
theorem runStream_between (keeps : environment.Keeps agrees)
    (between : Between environment agrees objectCharge core) (calls : List StreamCall) :
    Between environment agrees objectCharge (runStream environment core calls) := by
  induction calls generalizing core with
  | nil => exact between
  | cons call rest ih => exact ih (runCall_between keeps between call)

/-- The storage that a direction is charged for itself. -/
def objectChargeOf (environment : Environment σ) (chargeObject : Bool) : Nat :=
  if chargeObject = true then environment.sizes.direction else 0

theorem StreamConfig.limit_le {config : StreamConfig} (valid : config.valid = true) :
    config.maxBufferedBytesPerDirection ≤ maxUInt64 := by
  simp only [StreamConfig.valid, Bool.not_eq_true', Bool.or_eq_false_iff,
    decide_eq_false_iff_not, Nat.not_lt] at valid
  have bounded := valid.1.1.2
  unfold maxStreamBufferedBytesPerDirection at bounded
  unfold maxUInt64
  omega

theorem freshDirection_live {config : StreamConfig} (valid : config.valid = true) {env : σ}
    (agreement : agrees [] 0 env) : Live environment agrees 0 (freshDirection config env) where
  running := ⟨rfl, rfl⟩
  solvent := ⟨agreement, Nat.zero_le _, StreamConfig.limit_le valid⟩
  pending := Pending.nil 0
  charged := rfl
  history := History.nil
  progress := ⟨Nat.zero_le _, Nat.zero_le _⟩
  fin := fun position finEq => by cases finEq

/-- Initialization changes nothing but the ledger and the error. -/
theorem initializeDirection_spec (keeps : environment.Keeps agrees) (config : StreamConfig)
    (hasBudget chargeObject : Bool) {env : σ} (agreement : agrees [] 0 env) :
    let next := initializeDirection environment config hasBudget chargeObject env
    (Live environment agrees (objectChargeOf environment chargeObject) next ∨
      Failed agrees next) ∧
      next = { freshDirection config env with
        trackedBytes := next.trackedBytes, env := next.env, error := next.error } := by
  intro next
  have nextEq : next = initializeDirection environment config hasBudget chargeObject env := rfl
  unfold initializeDirection at nextEq
  split at nextEq
  · rw [nextEq]
    exact ⟨.inr ⟨by simp, rfl, rfl, agreement, History.nil⟩, rfl⟩
  · next usable =>
      simp only [Bool.or_eq_true, Bool.not_eq_true', not_or, Bool.not_eq_false] at usable
      have fresh : Live environment agrees 0 (freshDirection config env) :=
        freshDirection_live usable.2 agreement
      split at nextEq
      · next charges =>
          have reserved := reserve_spec keeps fresh.solvent environment.sizes.direction
          cases outcome : reserve environment environment.sizes.direction
              (freshDirection config env) with
          | ok value reached =>
              rw [outcome] at nextEq
              obtain ⟨frame, solvent⟩ := reserved.of_ok outcome
              rw [frame] at solvent nextEq
              rw [nextEq]
              refine ⟨.inl ⟨fresh.running, solvent, fresh.pending, ?_, fresh.history,
                fresh.progress, fresh.fin⟩, rfl⟩
              rw [objectChargeOf, if_pos charges]
              exact Nat.zero_add _
          | error error reached =>
              rw [outcome] at nextEq
              obtain ⟨isError, frame, solvent⟩ := reserved.of_error outcome
              rw [frame] at solvent nextEq
              rw [nextEq]
              exact ⟨.inr ⟨isError, rfl, rfl, solvent.agreement, fresh.history⟩, rfl⟩
      · next free =>
          rw [nextEq, objectChargeOf, if_neg free]
          exact ⟨.inl fresh, rfl⟩

theorem initializeDirection_between (keeps : environment.Keeps agrees) (config : StreamConfig)
    (hasBudget chargeObject : Bool) (env : σ) (agreement : agrees [] 0 env) :
    Between environment agrees (objectChargeOf environment chargeObject)
      (initializeDirection environment config hasBudget chargeObject env) := by
  rcases (initializeDirection_spec keeps config hasBudget chargeObject agreement).1 with
    live | failed
  · exact .live live
  · exact .failed failed

/-! ## After the end -/

theorem clear_emitted : (clear environment core).emitted = core.emitted := by
  unfold clear release
  split <;> rfl

theorem clear_stopped : stopped (clear environment core) = stopped core := by
  unfold clear release
  split <;> rfl

theorem clear_published : (clear environment core).published = core.published := by
  unfold clear release
  split <;> rfl

theorem clear_error : (clear environment core).error = core.error := by
  unfold clear release
  split <;> rfl

/-- A stopped direction stays as it is for an observer. -/
structure Silent (core next : StreamDirection σ) : Prop where
  emitted_eq : next.emitted = core.emitted
  published_eq : next.published = core.published
  error_eq : next.error = core.error
  stopped_eq : stopped next = stopped core

theorem runCall_silent (stops : stopped core = true) (call : StreamCall) :
    Silent core (runCall environment core call) := by
  by_cases isAbort : call = .abort
  · subst isAbort
    have running : ¬ (core.error = .none ∧ core.ended = false) := by
      rintro ⟨noError, notEnded⟩
      simp [stopped, noError, notEnded] at stops
    rw [runCall, abort, if_neg running]
    exact ⟨clear_emitted, clear_published, clear_error, clear_stopped⟩
  · rw [runCall_of_stopped stops isAbort]
    exact ⟨rfl, rfl, rfl, rfl⟩

theorem runStream_silent (stops : stopped core = true) (calls : List StreamCall) :
    (runStream environment core calls).emitted = core.emitted := by
  induction calls generalizing core with
  | nil => rfl
  | cons call rest ih =>
      have silent : Silent core (runCall environment core call) := runCall_silent stops call
      exact (ih (silent.stopped_eq.trans stops)).trans silent.emitted_eq

end Runs

end Flowsql.Npm
