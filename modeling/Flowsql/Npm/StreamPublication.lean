import Flowsql.Npm.StreamInvariant

/-!
# Order of publication

Whatever a direction is given, it publishes a contiguous stream that an end event
may close, and nothing after that. While it runs, the pending ranges partition
the offsets behind the published ones. A failure drops them without giving the
offsets back: `extent` stays where it was.
-/

namespace Flowsql.Npm

open Flowsql.Library

variable {σ : Type}

/-- A sink that takes every event. The budget and the allocator may still refuse. -/
structure Environment.Accepting (environment : Environment σ) : Prop where
  emit : ∀ event env, ∃ moved, (environment.emit event env).1 = .accepted moved
  emitOwned : ∀ event allocated env, ∃ moved,
    (environment.emitOwned event allocated env).1 = .accepted moved

/-- Without a statement about the environment, nothing is left to keep but the order
of events. -/
theorem Environment.Accepting.keeps {environment : Environment σ}
    (accepting : environment.Accepting) : environment.Keeps fun _ _ _ => True where
  reserve := fun _ _ _ _ _ => trivial
  release := fun _ _ _ _ _ _ => trivial
  allocate := fun _ _ _ _ => trivial
  emit := by
    intro _ _ env event _ _
    obtain ⟨moved, acceptedEq⟩ := accepting.emit event env
    generalize environment.emit event env = outcome at acceptedEq
    obtain ⟨reply, next⟩ := outcome
    change reply = _ at acceptedEq
    subst acceptedEq
    trivial
  emitOwned := by
    intro _ _ env event allocated _ _ _
    obtain ⟨moved, acceptedEq⟩ := accepting.emitOwned event allocated env
    generalize environment.emitOwned event allocated env = outcome at acceptedEq
    obtain ⟨reply, next⟩ := outcome
    change reply = _ at acceptedEq
    subst acceptedEq
    trivial

/-- The events follow each other from offset zero; an end event is the last one. -/
structure OrderedEvents (emitted : List StreamEvent) (published : Nat) : Prop where
  contiguous : Contiguous 0 emitted published
  end_last : ∀ front event rest, emitted = front ++ event :: rest → event.isEnd = true → rest = []

theorem History.ordered {emitted : List StreamEvent} {published : Nat}
    (history : History emitted published) : OrderedEvents emitted published where
  contiguous := history.contiguous
  end_last := by
    intro front event rest emittedEq isEnd
    have open_ := history.open_ event (by simp [emittedEq])
    rw [isEnd] at open_
    cases open_

theorem History.ordered_closed {emitted : List StreamEvent} {published : Nat}
    (history : History emitted published) (reason : EndReason)
    (sessionReason : Option SessionEndReason) :
    OrderedEvents (emitted ++ [.ended published reason sessionReason]) published where
  contiguous := history.contiguous.append ⟨rfl, Nat.le_refl _, rfl⟩
  end_last := by
    intro front event rest emittedEq isEnd
    rcases List.eq_nil_or_concat rest with rfl | ⟨init, last, rfl⟩
    · rfl
    · -- Then the end event in front of `last` is one of the earlier events.
      have regroup : emitted ++ [.ended published reason sessionReason] =
          (front ++ event :: init) ++ [last] := by rw [emittedEq]; simp
      have initEq := (List.append_inj' regroup rfl).1
      have open_ := history.open_ event (by rw [initEq]; simp)
      rw [isEnd] at open_
      cases open_

section Between

variable {environment : Environment σ} {agrees : List StreamEvent → Nat → σ → Prop}
  {core : StreamDirection σ} {objectCharge : Nat}

theorem Between.ordered (between : Between environment agrees objectCharge core) :
    OrderedEvents core.emitted core.published := by
  cases between with
  | live live => exact live.history.ordered
  | ended ended =>
      obtain ⟨events, reason, sessionReason, history, emittedEq⟩ := ended.closed
      rw [emittedEq]
      exact history.ordered_closed reason sessionReason
  | failed failed => exact failed.history.ordered

/-- Without an error the pending ranges partition the offsets that are left. -/
theorem Between.pending (between : Between environment agrees objectCharge core)
    (noError : core.error = .none) : Pending core.published core.ranges core.extent := by
  cases between with
  | live live => exact live.pending
  | ended ended =>
      rw [ended.empty, ← ended.complete]
      exact Pending.nil _
  | failed failed => exact absurd noError failed.is_error

theorem Between.empty_of_error (between : Between environment agrees objectCharge core)
    (isError : core.error ≠ .none) : core.ranges = [] := by
  cases between with
  | live live => exact absurd live.running.1 isError
  | ended ended => exact ended.empty
  | failed failed => exact failed.empty

end Between

/-- For every sequence of operations on a direction with an accepting sink: the
pending ranges are a partition as long as no error is latched and gone
afterwards, the events are contiguous with at most one end event, the last, and
after the end or an error nothing more is emitted. -/
theorem stream_published_in_order {environment : Environment σ}
    (accepting : environment.Accepting) (config : StreamConfig) (hasBudget chargeObject : Bool)
    (env : σ) (calls : List StreamCall) :
    let core := runStream environment
      (initializeDirection environment config hasBudget chargeObject env) calls
    (core.error = .none → Pending core.published core.ranges core.extent) ∧
      (core.error ≠ .none → core.ranges = []) ∧
      OrderedEvents core.emitted core.published ∧
      (core.error ≠ .none ∨ core.ended = true → ∀ later,
        (runStream environment core later).emitted = core.emitted) := by
  intro core
  have start := initializeDirection_between accepting.keeps config hasBudget chargeObject env
    trivial
  have between : Between environment _ _ core := runStream_between accepting.keeps start calls
  refine ⟨between.pending, between.empty_of_error, between.ordered, ?_⟩
  intro stops later
  apply runStream_silent
  simpa [stopped] using stops

/-- Grants every request, and accepts every event without moving its payload. -/
def unlimitedEnvironment : Environment Unit where
  sizes := ⟨320, 64, 480, 64, 128, by decide⟩
  reserve := fun _ env => (true, env)
  release := fun _ env => env
  allocate := fun env => (true, env)
  emit := fun _ env => (.accepted false, env)
  emitOwned := fun _ _ env => (.accepted false, env)

theorem unlimitedEnvironment_accepting : unlimitedEnvironment.Accepting :=
  ⟨fun _ _ => ⟨false, rfl⟩, fun _ _ _ => ⟨false, rfl⟩⟩

/-- A packet from its TCP facts and its payload. -/
def packetOf (tcp : TcpPacketFacts) (wire captured : UInt32) (payload : List UInt8)
    (timestampNs : Int) : PacketView where
  timestampNs := timestampNs
  payload := ⟨some payload, payload.length, fun bytes bytesEq => by cases bytesEq; rfl⟩
  direction := .aToB
  transport := ⟨wire, captured, captured == wire, tcp⟩

theorem stream_published_in_order_unlimited :
    let core := runStream unlimitedEnvironment
      (initializeDirection unlimitedEnvironment ⟨65536, 0⟩ true true ())
      [.push (packetOf ⟨true, false, false, false, 100⟩ 2 2 [7, 8] 0)]
    (core.error = .none → Pending core.published core.ranges core.extent) ∧
      (core.error ≠ .none → core.ranges = []) ∧
      OrderedEvents core.emitted core.published ∧
      (core.error ≠ .none ∨ core.ended = true → ∀ later,
        (runStream unlimitedEnvironment core later).emitted = core.emitted) :=
  stream_published_in_order unlimitedEnvironment_accepting ⟨65536, 0⟩ true true () _

/-- An aborted direction has dropped the gap in front of a buffered byte, but its
extent still counts both. -/
theorem aborted_ranges_not_partition :
    let core := runStream unlimitedEnvironment
      (initializeDirection unlimitedEnvironment ⟨65536, 0⟩ true true ())
      [.push (packetOf ⟨true, true, false, false, 99⟩ 0 0 [] 0),
        .push (packetOf ⟨true, false, false, false, 101⟩ 1 1 [8] 0), .abort]
    unlimitedEnvironment.Accepting ∧ core.published = 0 ∧ core.extent = 2 ∧ core.ranges = [] ∧
      ¬ Contiguous core.published core.ranges core.extent := by
  refine ⟨unlimitedEnvironment_accepting, rfl, rfl, rfl, ?_⟩
  intro contiguous
  exact absurd (show (0 : Nat) = 2 from contiguous) (by decide)

end Flowsql.Npm
