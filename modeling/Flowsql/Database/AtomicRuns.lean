import Flowsql.Database.AtomicSession
import Flowsql.Library.Records
import Mathlib

/-!
# Runs of the atomic sessions

What each report of a `Commit` may rely on, and after which reports a session is silent. Both
implementations keep to it as long as the database ends a transaction only as it is told to, and
`Commit` is not called again after it reported that the outcome is unknown. The session over a
server must also have no open readers when it commits.
-/

namespace Flowsql.Database

open Flowsql.Library

/-! ## What the log must say -/

/-- A `Commit` has reported that its outcome is unknown. -/
def reportedUnknown (log : List SessionEvent) : Bool :=
  log.any fun
    | .reported report => decide (report.outcome = .unknown)
    | _ => false

/-- The statement that was acknowledged last, if it was the last thing to happen. -/
def acknowledged : List SessionEvent → Option Statement
  | .sent statement true .done _ :: _ => some statement
  | _ => none

/-- The outcome of a `Commit` in both implementations: what the database has acknowledged, where
there is a transaction at all. -/
def outcomeOf (active : Bool) (acknowledged : Option Statement) : CommitOutcome :=
  if active then
    match acknowledged with
    | some .commit => .committed
    | some .rollback => .rolledBack
    | _ => .unknown
  else
    .rolledBack

/-- When an event is in order, after the events before it. A session sends nothing after an unknown
outcome and after it was closed, and executes statements in a transaction only. -/
def SessionEvent.Legal : SessionEvent → List SessionEvent → Prop
  | .sent statement usable _ fate, before =>
      reportedUnknown before = false ∧ .closed ∉ before ∧
        (statement = .execute → usable = true → fate = .pending)
  | .reported report, before =>
      report.outcome = outcomeOf report.active (acknowledged before) ∧
      (report.outcome = .committed → report.openReaders = 0) ∧
      (report.outcome = .rolledBack → report.active = false ∨ report.fate = .rolledBack) ∧
      (report.active = true → report.openReaders ≠ 0 → report.healthy = true →
        report.outcome = .rolledBack)
  | .closed, _ => True

namespace AtomicSystem

variable {system after : AtomicSystem} {statement : Statement} {answer : Answer}
  {code : AtomicCode}

/-- The log agrees with the flags of the session. -/
structure Recorded (system : AtomicSystem) : Prop where
  unknown : reportedUnknown system.log = true → system.session.poisoned = true
  closed : .closed ∈ system.log → system.session.closed = true
  inactive : system.session.closed = true → system.session.active = false
  lost : system.session.poisoned = true → reportedUnknown system.log = true ∨
    system.usable = false
  readers : system.session.openReaders < 2 ^ 32
  legal : Lawful SessionEvent.Legal system.log

/-- The last thing to happen was not the end of a transaction. -/
def Undecided (log : List SessionEvent) : Prop :=
  acknowledged log ≠ some .commit ∧ acknowledged log ≠ some .rollback

/-- While the session takes its transaction for active, it has not been ended, and it is pending
unless the connection is gone. -/
structure Sound (system : AtomicSystem) : Prop extends Recorded system where
  pending : system.session.active = true → system.session.poisoned = false →
    system.usable = true → system.fate = .pending
  undecided : system.session.active = true → Undecided system.log

/-! ## What running a statement can do -/

/-- A statement is not sent, as the session is cancelled or closed, or it is sent and answered. -/
inductive Ran (system : AtomicSystem) (statement : Statement) (answer : Answer) :
    AtomicCode → AtomicSystem → Prop where
  | refused (cancelled : Bool) : Ran system statement answer .cancelled (system.cancelIf cancelled)
  | sent (cancelled connected poisoned : Bool)
      (replied : answer.reply = .done ∨ answer.code ≠ .ok)
      (fate : system.usable = true → answer.fate ∈ Fate.next statement answer.reply system.fate)
      (dead : system.usable = false → answer.reply = .lost ∧ answer.fate = system.fate)
      (poisons : poisoned = true → system.session.poisoned = true ∨ answer.usable = false) :
      Ran system statement answer (codeOf answer)
        { session :=
            { system.session with
              cancelled := cancelled, connected := connected, poisoned := poisoned }
          usable := system.usable && answer.usable
          fate := answer.fate
          log := .sent statement system.usable answer.reply system.fate :: system.log }

theorem send_eq (sent : system.send statement answer = some after) :
    (answer.reply = .done ∨ answer.code ≠ .ok) ∧
      (system.usable = true → answer.fate ∈ Fate.next statement answer.reply system.fate) ∧
      (system.usable = false → answer.reply = .lost ∧ answer.fate = system.fate) ∧
      after =
        { system with
          usable := system.usable && answer.usable
          fate := answer.fate
          log := .sent statement system.usable answer.reply system.fate :: system.log } := by
  unfold send at sent
  obtain ⟨⟨replied, possible⟩, afterEq⟩ := Option.ite_none_right_eq_some.mp sent
  cases afterEq
  refine ⟨replied, fun usable => ?_, fun dead => ?_, rfl⟩
  · simpa only [if_pos usable] using possible
  · simpa only [dead, Bool.false_eq_true, if_false] using possible

theorem codeOf_eq_ok (replied : answer.reply = .done ∨ answer.code ≠ .ok) :
    codeOf answer = .ok ↔ answer.reply = .done := by
  unfold codeOf
  split
  next done => exact ⟨fun _ => done, fun _ => rfl⟩
  next other =>
    exact ⟨fun ok => absurd ok (replied.resolve_left other), fun done => absurd done other⟩

theorem ran_of_run (ran : ServerAtomic.run system statement answer = some (code, after)) :
    Ran system statement answer code after := by
  unfold ServerAtomic.run at ran
  dsimp only at ran
  split at ran
  · cases ran
    exact .refused _
  split at ran
  · cases ran
  next possible =>
    rw [not_or, not_and, not_and, not_not] at possible
    cases sent : (system.cancelIf answer.cancelBefore).send statement answer with
    | none =>
        rw [sent] at ran
        cases ran
    | some next =>
        rw [sent] at ran
        obtain ⟨replied, fate, dead, rfl⟩ := send_eq sent
        cases ran
        refine Ran.sent _ _ _ replied fate dead fun poisoned => ?_
        rw [Bool.or_eq_true] at poisoned
        refine poisoned.imp_right fun poisons => ?_
        exact Bool.not_eq_true _ ▸ possible.1 (possible.2 poisons)

/-- Over a connection to a server, a statement whose reply is lost is the last one. -/
theorem fate_of_run_lost (ran : ServerAtomic.run system statement answer = some (code, after))
    (lost : answer.reply = .lost) (usable : after.usable = true) : after.fate = system.fate := by
  unfold ServerAtomic.run at ran
  dsimp only at ran
  split at ran
  · cases ran
    rfl
  split at ran
  · cases ran
  next possible =>
    rw [not_or, not_and] at possible
    cases sent : (system.cancelIf answer.cancelBefore).send statement answer with
    | none =>
        rw [sent] at ran
        cases ran
    | some next =>
        rw [sent] at ran
        obtain ⟨-, -, -, rfl⟩ := send_eq sent
        cases ran
        rw [Bool.and_eq_true] at usable
        exact absurd usable.2 (possible.1 lost)

theorem ran_of_exec (ran : SqliteAtomic.exec system statement answer = some (code, after)) :
    Ran system statement answer code after ∧ (code = .ok ↔ answer.reply = .done) := by
  unfold SqliteAtomic.exec at ran
  split at ran
  next usable =>
    cases sent : system.send statement answer with
    | none =>
        rw [sent] at ran
        cases ran
    | some next =>
        rw [sent] at ran
        obtain ⟨replied, fate, dead, rfl⟩ := send_eq sent
        cases ran
        exact ⟨Ran.sent _ _ _ replied fate dead .inl, codeOf_eq_ok replied⟩
  next => cases ran

namespace Ran

theorem active (ran : Ran system statement answer code after) :
    after.session.active = system.session.active := by
  cases ran <;> rfl

theorem closed (ran : Ran system statement answer code after) :
    after.session.closed = system.session.closed := by
  cases ran <;> rfl

theorem readers (ran : Ran system statement answer code after) :
    after.session.openReaders = system.session.openReaders := by
  cases ran <;> rfl

theorem reportedUnknown_eq (ran : Ran system statement answer code after) :
    reportedUnknown after.log = reportedUnknown system.log := by
  cases ran <;> rfl

/-- Only a COMMIT or a ROLLBACK that is done ends a transaction. -/
theorem undecided (ran : Ran system statement answer code after)
    (other : code = .ok → statement ≠ .commit ∧ statement ≠ .rollback)
    (before : Undecided system.log) : Undecided after.log := by
  cases ran with
  | refused => exact before
  | sent cancelled connected poisoned replied fate dead poisons =>
      by_cases done : answer.reply = .done
      · obtain ⟨notCommit, notRollback⟩ := other ((codeOf_eq_ok replied).mpr done)
        cases usable : system.usable with
        | false => exact ⟨nofun, nofun⟩
        | true =>
            rw [done]
            exact ⟨fun same => notCommit (Option.some.inj same),
              fun same => notRollback (Option.some.inj same)⟩
      · cases usable : system.usable <;> cases reply : answer.reply <;>
          first
            | exact absurd reply done
            | exact ⟨nofun, nofun⟩

/-- A statement that was done was sent over a usable connection. -/
theorem of_ok (ran : Ran system statement answer code after) (ok : code = .ok) :
    system.usable = true ∧ answer.reply = .done ∧ after.fate = answer.fate ∧
      answer.fate ∈ Fate.next statement .done system.fate ∧
      after.log = .sent statement true .done system.fate :: system.log := by
  cases ran with
  | refused => cases ok
  | sent cancelled connected poisoned replied fate dead poisons =>
      have done := (codeOf_eq_ok replied).mp ok
      have usable : system.usable = true := by
        by_contra unusable
        rw [(dead (Bool.eq_false_iff.mpr unusable)).1] at done
        cases done
      have possible := fate usable
      rw [done] at possible
      exact ⟨usable, done, rfl, possible, by rw [usable, done]⟩

end Ran

theorem Recorded.ran (recorded : system.Recorded) (ran : Ran system statement answer code after)
    (unknown : reportedUnknown system.log = false) (opened : system.session.closed = false)
    (inside : statement = .execute → system.usable = true → system.fate = .pending) :
    after.Recorded := by
  cases ran with
  | refused => exact ⟨recorded.1, recorded.2, recorded.3, recorded.4, recorded.5, recorded.6⟩
  | sent cancelled connected poisoned replied fate dead poisons =>
      have notClosed : .closed ∉ system.log := by
        intro member
        have closed := recorded.closed member
        rw [opened] at closed
        cases closed
      constructor
      · intro reported
        have same : reportedUnknown system.log = true := reported
        rw [unknown] at same
        cases same
      · intro member
        rcases List.mem_cons.mp member with same | inLog
        · cases same
        · exact absurd inLog notClosed
      · exact recorded.inactive
      · intro isPoisoned
        rcases poisons isPoisoned with before | gone
        · rcases recorded.lost before with reported | dead
          · exact .inl reported
          · exact .inr (by simp [dead])
        · exact .inr (by simp [gone])
      · exact recorded.readers
      · exact recorded.legal.cons ⟨unknown, notClosed, inside⟩

/-! ## Changes that send nothing -/

namespace Recorded

theorem setActive (recorded : system.Recorded) {active : Bool}
    (opened : active = true → system.session.closed = false) :
    (system.setActive active).Recorded where
  unknown := recorded.unknown
  closed := recorded.closed
  inactive := by
    intro closed
    cases active with
    | false => rfl
    | true =>
        have same : system.session.closed = true := closed
        rw [opened rfl] at same
        cases same
  lost := recorded.lost
  readers := recorded.readers
  legal := recorded.legal

theorem cancelIf (recorded : system.Recorded) (cancelled : Bool) :
    (system.cancelIf cancelled).Recorded :=
  ⟨recorded.unknown, recorded.closed, recorded.inactive, recorded.lost, recorded.readers,
    recorded.legal⟩

theorem addReader (recorded : system.Recorded)
    (few : system.session.openReaders + 1 < 2 ^ 32) : system.addReader.Recorded where
  unknown := recorded.unknown
  closed := recorded.closed
  inactive := recorded.inactive
  lost := recorded.lost
  readers := by
    have counted : system.addReader.session.openReaders = system.session.openReaders + 1 := by
      simp [AtomicSystem.addReader, AtomicSession.openReaders]
    rw [counted]
    exact few
  legal := recorded.legal

theorem closeReader (recorded : system.Recorded) (index : Nat) :
    (system.closeReader index).Recorded where
  unknown := recorded.unknown
  closed := recorded.closed
  inactive := recorded.inactive
  lost := recorded.lost
  readers := by
    refine Nat.lt_of_le_of_lt ?_ recorded.readers
    simp only [AtomicSystem.closeReader, AtomicSession.openReaders]
    by_cases inside : index < system.session.readers.length
    · rw [List.count_set inside]
      simp
    · rw [List.set_eq_of_length_le (Nat.le_of_not_lt inside)]
  legal := recorded.legal

/-- A report of a known outcome. -/
theorem report (recorded : system.Recorded) {before : AtomicSystem} {first : Answer}
    {outcome : CommitOutcome} (known : outcome ≠ .unknown)
    (legal : ∀ event rest, (system.report before first outcome).log = event :: rest →
      SessionEvent.Legal event rest) : (system.report before first outcome).Recorded where
  unknown := by
    intro reported
    refine recorded.unknown ?_
    simpa [AtomicSystem.report, reportedUnknown, known] using reported
  closed := fun member => recorded.closed ((List.mem_cons.mp member).resolve_left nofun)
  inactive := recorded.inactive
  lost := by
    intro poisoned
    refine (recorded.lost poisoned).imp_left fun reported => ?_
    simpa [AtomicSystem.report, reportedUnknown, known] using reported
  readers := recorded.readers
  legal := recorded.legal.cons (legal _ _ rfl)

/-- A report that the outcome is unknown, which poisons the session. -/
theorem reportUnknown (recorded : system.Recorded) {before : AtomicSystem} {first : Answer}
    (outcome : outcomeOf before.session.active (acknowledged system.log) = .unknown)
    (unhealthy : before.session.active = true → before.session.openReaders ≠ 0 →
      (before.usable && before.session.connected && !before.session.cancelled &&
        !before.session.poisoned && !first.cancelBefore && decide (first.reply = .done)) = false) :
    (system.poison.report before first .unknown).Recorded where
  unknown := fun _ => rfl
  closed := fun member => recorded.closed ((List.mem_cons.mp member).resolve_left nofun)
  inactive := recorded.inactive
  lost := fun _ => .inl rfl
  readers := recorded.readers
  legal := by
    refine recorded.legal.cons ⟨outcome.symm, nofun, nofun, fun active opened healthy => ?_⟩
    rw [unhealthy active opened] at healthy
    cases healthy

theorem disconnect (recorded : system.Recorded) : system.disconnect.Recorded where
  unknown := recorded.unknown
  closed := fun _ => rfl
  inactive := fun _ => rfl
  lost := fun _ => .inr rfl
  readers := recorded.readers
  legal := recorded.legal.cons trivial

/-- Nothing has been reported unknown and the session is open, so statements may be sent. -/
theorem silent (recorded : system.Recorded) (fine : system.session.poisoned = false) :
    reportedUnknown system.log = false := by
  cases reported : reportedUnknown system.log with
  | false => rfl
  | true =>
      have poisoned := recorded.unknown reported
      rw [fine] at poisoned
      cases poisoned

theorem opened (recorded : system.Recorded) (active : system.session.active = true) :
    system.session.closed = false := by
  cases closed : system.session.closed with
  | false => rfl
  | true =>
      have inactive := recorded.inactive closed
      rw [active] at inactive
      cases inactive

end Recorded

theorem available_eq_ok : system.session.available = .ok ↔ system.session.closed = false ∧
    system.session.poisoned = false ∧ system.session.cancelled = false := by
  unfold AtomicSession.available
  cases system.session.closed <;> cases system.session.poisoned <;>
    cases system.session.cancelled <;> simp

/-! ## The calls that run one statement -/

section Runner

variable {runner : Runner}
  (spec : ∀ system statement answer code after,
    runner system statement answer = some (code, after) → Ran system statement answer code after)
include spec

/-- A statement that leaves the transaction as it is. -/
theorem Sound.run (sound : system.Sound) (statement : Statement)
    (fine : system.session.poisoned = false) (opened : system.session.closed = false)
    (active : statement = .execute → system.session.active = true)
    (keeps : answer.fate = system.fate ∨ answer.usable = false ∨ system.session.active = false)
    (other : code = .ok → statement ≠ .commit ∧ statement ≠ .rollback)
    (ran : runner system statement answer = some (code, after)) : after.Sound := by
  have ran := spec _ _ _ _ _ ran
  refine ⟨sound.toRecorded.ran ran (sound.silent fine) opened
    fun execute usable => sound.pending (active execute) fine usable, ?_, ?_⟩
  · intro isActive notPoisoned usable
    cases ran with
    | refused => exact sound.pending isActive notPoisoned usable
    | sent cancelled connected poisoned replied fate dead poisons =>
        rw [Bool.and_eq_true] at usable
        rcases keeps with same | gone | inactive
        · exact same.trans (sound.pending isActive fine usable.1)
        · rw [gone] at usable
          cases usable.2
        · have isActive' : system.session.active = true := isActive
          rw [inactive] at isActive'
          cases isActive'
  · intro isActive
    exact ran.undecided other (sound.undecided (ran.active ▸ isActive))

theorem Sound.begin (sound : system.Sound)
    (moved : runner.begin system answer = some (code, after)) : after.Sound := by
  unfold Runner.begin at moved
  split at moved
  · cases moved
    exact sound
  next allowed =>
  obtain ⟨opened, fine, -⟩ := available_eq_ok.mp (not_not.mp allowed)
  split at moved
  · cases moved
    exact sound
  next idle =>
  have inactive : system.session.active = false := Bool.eq_false_iff.mpr idle
  obtain ⟨⟨result, next⟩, ran, finished⟩ := Option.bind_eq_some_iff.mp moved
  have nextSound := sound.run spec .begin fine opened nofun (.inr (.inr inactive))
    (fun _ => ⟨nofun, nofun⟩) ran
  cases finished
  split
  next ok =>
    have ran := spec _ _ _ _ _ ran
    obtain ⟨-, -, fate, possible, log⟩ := ran.of_ok ok
    refine ⟨nextSound.toRecorded.setActive fun _ => by rw [ran.closed, opened], fun _ _ _ => ?_,
      fun _ => ?_⟩
    · exact fate.trans (List.mem_singleton.mp possible)
    · change Undecided next.log
      rw [log]
      exact ⟨nofun, nofun⟩
  next => exact nextSound

theorem Sound.executePrepared (sound : system.Sound) {valid : Bool}
    (keeps : answer.fate = system.fate)
    (moved : runner.executePrepared system valid answer = some (code, after)) : after.Sound := by
  unfold Runner.executePrepared at moved
  split at moved
  · cases moved
    exact sound
  next active =>
  split at moved
  · cases moved
    exact sound
  next allowed =>
  obtain ⟨opened, fine, -⟩ := available_eq_ok.mp (not_not.mp allowed)
  split at moved
  · cases moved
    exact sound
  · exact sound.run spec .execute fine opened (fun _ => by simpa using active) (.inl keeps)
      (fun _ => ⟨nofun, nofun⟩) moved

theorem Sound.createReader (sound : system.Sound) {valid reads : Bool}
    (keeps : answer.fate = system.fate) (few : system.session.openReaders + 1 < 2 ^ 32)
    (moved : runner.createReader system valid reads answer = some (code, after)) :
    after.Sound := by
  unfold Runner.createReader at moved
  split at moved
  · cases moved
    exact sound
  next allowed =>
  obtain ⟨opened, fine, -⟩ := available_eq_ok.mp (not_not.mp allowed)
  split at moved
  · cases moved
    exact sound
  split at moved
  · cases moved
    exact sound
  obtain ⟨⟨result, next⟩, ran, finished⟩ := Option.bind_eq_some_iff.mp moved
  have nextSound := sound.run spec .select fine opened nofun (.inl keeps)
    (fun _ => ⟨nofun, nofun⟩) ran
  cases finished
  split
  · refine ⟨nextSound.toRecorded.addReader ?_, nextSound.pending, nextSound.undecided⟩
    rw [(spec _ _ _ _ _ ran).readers]
    exact few
  · exact nextSound

theorem Sound.readDatabaseTime (sound : system.Sound) (keeps : answer.fate = system.fate)
    (moved : runner.readDatabaseTime system answer = some (code, after)) : after.Sound := by
  unfold Runner.readDatabaseTime at moved
  split at moved
  · cases moved
    exact sound
  next allowed =>
  obtain ⟨opened, fine, -⟩ := available_eq_ok.mp (not_not.mp allowed)
  exact sound.run spec .time fine opened nofun (.inl keeps) (fun _ => ⟨nofun, nofun⟩) moved

/-- A rollback that is done ends the transaction. -/
theorem Sound.rollback (sound : system.Sound) {refused : Bool}
    (guarded : refused = false → system.session.active = true ∧ system.session.poisoned = false)
    (keeps : answer.reply = .done ∨ answer.fate = system.fate ∨ answer.usable = false)
    (moved : runner.rollback system refused answer = some (code, after)) : after.Sound := by
  unfold Runner.rollback at moved
  split at moved
  · cases moved
    exact sound
  next allowed =>
  obtain ⟨active, fine⟩ := guarded (Bool.eq_false_iff.mpr allowed)
  have opened := sound.opened active
  obtain ⟨⟨result, next⟩, ran, finished⟩ := Option.bind_eq_some_iff.mp moved
  cases finished
  split
  next ok =>
    have recorded := sound.toRecorded.ran (spec _ _ _ _ _ ran) (sound.silent fine) opened nofun
    exact ⟨recorded.setActive nofun, nofun, nofun⟩
  next failed =>
    have ended := spec _ _ _ _ _ ran
    cases ended with
    | refused => exact ⟨sound.toRecorded.cancelIf _, sound.pending, sound.undecided⟩
    | sent cancelled connected poisoned replied fate dead poisons =>
        refine sound.run spec .rollback fine opened nofun ?_ (fun ok => absurd ok failed) ran
        rcases keeps with done | same | gone
        · exact absurd ((codeOf_eq_ok replied).mpr done) failed
        · exact .inl same
        · exact .inr (.inl gone)

/-- What a COMMIT leaves, if it was sent at all. -/
theorem Sound.tryCommit (sound : system.Sound) (active : system.session.active = true)
    (known : reportedUnknown system.log = false)
    (moved : runner.tryCommit system answer = some (code, after)) :
    after.Recorded ∧ reportedUnknown after.log = false ∧ after.session.closed = false ∧
      (code = .ok → acknowledged after.log = some .commit) ∧
      (code ≠ .ok → Undecided after.log) := by
  have opened := sound.opened active
  unfold Runner.tryCommit at moved
  split at moved
  · have ran := spec _ _ _ _ _ moved
    refine ⟨sound.toRecorded.ran ran known opened nofun, by rw [ran.reportedUnknown_eq, known],
      by rw [ran.closed, opened], fun ok => ?_, fun failed => ?_⟩
    · obtain ⟨-, -, -, -, log⟩ := ran.of_ok ok
      rw [log]
      rfl
    · exact ran.undecided (fun ok => absurd ok failed) (sound.undecided active)
  next unavailable =>
    cases moved
    exact ⟨sound.toRecorded, known, opened, fun ok => absurd ok unavailable,
      fun _ => sound.undecided active⟩

end Runner

/-! ## Closing -/

theorem Sound.disconnect (recorded : system.Recorded) : system.disconnect.Sound :=
  ⟨recorded.disconnect, nofun, nofun⟩

theorem Sound.closeServer (sound : system.Sound)
    (moved : ServerAtomic.close system answer = some after) : after.Sound := by
  unfold ServerAtomic.close at moved
  split at moved
  · cases moved
    exact sound
  split at moved
  next allowed =>
    simp only [Bool.and_eq_true, Bool.not_eq_true'] at allowed
    obtain ⟨⟨code, next⟩, ran, finished⟩ := Option.bind_eq_some_iff.mp moved
    cases finished
    exact .disconnect (sound.toRecorded.ran (ran_of_run ran) (sound.silent allowed.1.1.2)
      (sound.opened allowed.1.1.1) nofun)
  · cases moved
    exact .disconnect sound.toRecorded

theorem Sound.closeSqlite (sound : system.Sound)
    (moved : SqliteAtomic.close system answer = some after) : after.Sound := by
  unfold SqliteAtomic.close at moved
  split at moved
  · cases moved
    exact sound
  split at moved
  next allowed =>
    simp only [Bool.and_eq_true, Bool.not_eq_true'] at allowed
    obtain ⟨⟨code, next⟩, ran, finished⟩ := Option.bind_eq_some_iff.mp moved
    cases finished
    exact .disconnect (sound.toRecorded.ran (ran_of_exec ran).1 (sound.silent allowed.2)
      (sound.opened allowed.1) nofun)
  · cases moved
    exact .disconnect sound.toRecorded

/-! ## Commit -/

/-- How a `Commit` may end, from a state in which it may be called. -/
inductive Committed (system : AtomicSystem) (first : Answer) :
    CommitOutcome → AtomicSystem → Prop where
  | idle (inactive : system.session.active = false) : Committed system first .rolledBack system
  | done (after : AtomicSystem) (active : system.session.active = true)
      (closed : system.session.openReaders = 0) (recorded : after.Recorded)
      (committed : acknowledged after.log = some .commit) :
      Committed system first .committed (after.setActive false)
  | undone (after : AtomicSystem) (active : system.session.active = true)
      (recorded : after.Recorded) (rolledBack : acknowledged after.log = some .rollback)
      (fate : after.fate = .rolledBack) :
      Committed system first .rolledBack (after.setActive false)
  | unknown (after : AtomicSystem) (active : system.session.active = true)
      (recorded : after.Recorded) (undecided : Undecided after.log)
      (unhealthy : system.session.openReaders ≠ 0 → first.reply ≠ .done) :
      Committed system first .unknown after.poison

theorem outcomeOf_undecided {log : List SessionEvent} (undecided : Undecided log) :
    outcomeOf true (acknowledged log) = .unknown := by
  obtain ⟨notCommit, notRollback⟩ := undecided
  unfold outcomeOf
  cases last : acknowledged log with
  | none => rfl
  | some statement =>
      cases statement with
      | commit => exact absurd last notCommit
      | rollback => exact absurd last notRollback
      | _ => rfl

theorem Sound.reported (sound : system.Sound) {first : Answer} {outcome : CommitOutcome}
    (committed : system.Committed first outcome after) :
    (after.report system first outcome).Sound := by
  cases committed with
  | idle inactive =>
      have notActive : ¬system.session.active = true := by simp [inactive]
      refine ⟨sound.toRecorded.report nofun ?_, sound.pending,
        fun active => absurd active notActive⟩
      intro event rest equal
      cases equal
      refine ⟨?_, nofun, fun _ => .inl inactive, fun active => absurd active notActive⟩
      simp only [inactive, outcomeOf, Bool.false_eq_true, if_false]
  | done after active closed recorded committed =>
      have inactive : (after.setActive false).Recorded := recorded.setActive nofun
      refine ⟨inactive.report nofun ?_, nofun, nofun⟩
      intro event rest equal
      cases equal
      refine ⟨?_, fun _ => closed, nofun, fun _ opened => absurd closed opened⟩
      simp only [active, setActive, committed, outcomeOf, if_true]
  | undone after active recorded rolledBack fate =>
      have inactive : (after.setActive false).Recorded := recorded.setActive nofun
      refine ⟨inactive.report nofun ?_, nofun, nofun⟩
      intro event rest equal
      cases equal
      refine ⟨?_, nofun, fun _ => .inr fate, fun _ _ _ => rfl⟩
      simp only [active, setActive, rolledBack, outcomeOf, if_true]
  | unknown after active recorded undecided unhealthy =>
      refine ⟨recorded.reportUnknown ?_ fun _ opened => ?_,
        fun _ notPoisoned => (nomatch notPoisoned), fun _ => ⟨nofun, nofun⟩⟩
      · rw [active, outcomeOf_undecided undecided]
      · rw [decide_eq_false (unhealthy opened), Bool.and_false]

theorem openReaders_eq_zero (recorded : system.Recorded)
    (none_ : system.session.readerCount = 0) : system.session.openReaders = 0 := by
  unfold AtomicSession.readerCount at none_
  rwa [Nat.mod_eq_of_lt recorded.readers] at none_

/-- What a connection that still carries statements says about the transaction. -/
theorem Sound.pending_of_usable (sound : system.Sound) (active : system.session.active = true)
    (known : reportedUnknown system.log = false) (usable : system.usable = true) :
    system.fate = .pending := by
  refine sound.pending active ?_ usable
  cases poisoned : system.session.poisoned with
  | false => rfl
  | true =>
      rcases sound.lost poisoned with reported | gone
      · rw [known] at reported
        cases reported
      · rw [usable] at gone
        cases gone

/-- Over a connection to a server, a COMMIT that is not acknowledged has not applied the
transaction as long as the connection carries statements. -/
theorem Sound.unapplied (sound : system.Sound) (active : system.session.active = true)
    (known : reportedUnknown system.log = false) (failed : code ≠ .ok)
    (moved : Runner.tryCommit ServerAtomic.run system answer = some (code, after))
    (usable : after.usable = true) : after.fate = .pending ∨ after.fate = .rolledBack := by
  unfold Runner.tryCommit at moved
  split at moved
  · have before : system.usable = true := by
      have ran := ran_of_run moved
      cases ran with
      | refused => exact usable
      | sent => exact (Bool.and_eq_true _ _ ▸ usable).1
    have pending := sound.pending_of_usable active known before
    by_cases lost : answer.reply = .lost
    · exact .inl ((fate_of_run_lost moved lost usable).trans pending)
    · have ran := ran_of_run moved
      cases ran with
      | refused => exact .inl pending
      | sent cancelled connected poisoned replied fate dead poisons =>
          have possible := fate before
          have notDone : answer.reply ≠ .done :=
            fun done => failed ((codeOf_eq_ok replied).mpr done)
          rw [pending] at possible
          cases reply : answer.reply with
          | done => exact absurd reply notDone
          | lost => exact absurd reply lost
          | refused =>
              rw [reply] at possible
              simpa [Fate.next] using possible
  · cases moved
    exact .inl (sound.pending_of_usable active known usable)

theorem Ran.acknowledged_eq (ran : Ran system statement answer code after) (ok : code = .ok) :
    acknowledged after.log = some statement := by
  obtain ⟨-, -, -, -, log⟩ := ran.of_ok ok
  rw [log]
  rfl

theorem Ran.rolledBack (ran : Ran system .rollback answer code after) (ok : code = .ok)
    (undecided : system.fate = .pending ∨ system.fate = .rolledBack) :
    after.fate = .rolledBack := by
  obtain ⟨-, -, fateEq, possible, -⟩ := ran.of_ok ok
  rw [fateEq]
  rcases undecided with pending | rolledBack
  · rw [pending] at possible
    exact List.mem_singleton.mp possible
  · rw [rolledBack] at possible
    exact List.mem_singleton.mp possible

theorem Sound.commitServer (sound : system.Sound) {first second : Answer} {cancelled : Bool}
    {outcome : CommitOutcome} (known : reportedUnknown system.log = false)
    (readers : system.session.active = true → system.session.openReaders = 0)
    (moved : ServerAtomic.commit system first second cancelled = some (outcome, after)) :
    system.Committed first outcome after := by
  unfold ServerAtomic.commit at moved
  split at moved
  next inactive =>
    cases moved
    exact .idle (by simpa using inactive)
  next notInactive =>
  have active : system.session.active = true := by simpa using notInactive
  have closed := readers active
  have opened := sound.opened active
  split at moved
  next counted => exact absurd (by simp [AtomicSession.readerCount, closed]) counted
  obtain ⟨⟨code, next⟩, started, rest⟩ := Option.bind_eq_some_iff.mp moved
  obtain ⟨recorded, nextKnown, nextOpened, committed, undecided⟩ :=
    sound.tryCommit (fun _ _ _ _ _ => ran_of_run) active known started
  dsimp only at rest
  split at rest
  next ok =>
    cases rest
    exact .done next active closed recorded (committed ok)
  next failed =>
  split at rest
  · cases rest
    exact .unknown _ active (recorded.cancelIf cancelled) (undecided failed)
      fun some_ => absurd closed some_
  obtain ⟨⟨rolled, last⟩, rolling, ended⟩ := Option.bind_eq_some_iff.mp rest
  have ran := ran_of_run rolling
  have lastRecorded := (recorded.cancelIf cancelled).ran ran nextKnown nextOpened nofun
  dsimp only at ended
  split at ended
  next ok =>
    cases ended
    have unapplied : next.fate = .pending ∨ next.fate = .rolledBack :=
      sound.unapplied active known failed started (ran.of_ok ok).1
    exact .undone last active lastRecorded (ran.acknowledged_eq ok) (ran.rolledBack ok unapplied)
  next refused =>
    cases ended
    exact .unknown last active lastRecorded
      (ran.undecided (fun ok => absurd ok refused) (undecided failed))
      fun some_ => absurd closed some_

theorem Sound.commitSqlite (sound : system.Sound) {first second : Answer}
    {outcome : CommitOutcome} (known : reportedUnknown system.log = false)
    (moved : SqliteAtomic.commit system first second = some (outcome, after)) :
    system.Committed first outcome after := by
  unfold SqliteAtomic.commit at moved
  split at moved
  next inactive =>
    cases moved
    exact .idle (by simpa using inactive)
  next notInactive =>
  have active : system.session.active = true := by simpa using notInactive
  have opened := sound.opened active
  split at moved
  next counted =>
    obtain ⟨⟨code, next⟩, rolling, ended⟩ := Option.bind_eq_some_iff.mp moved
    obtain ⟨ran, ok_iff⟩ := ran_of_exec rolling
    have recorded := sound.toRecorded.ran ran known opened nofun
    dsimp only at ended
    split at ended
    next ok =>
      cases ended
      exact .undone next active recorded (ran.acknowledged_eq ok)
        (ran.rolledBack ok (.inl (sound.pending_of_usable active known (ran.of_ok ok).1)))
    next failed =>
      cases ended
      exact .unknown next active recorded
        (ran.undecided (fun ok => absurd ok failed) (sound.undecided active))
        fun _ done => failed (ok_iff.mpr done)
  next counted =>
  have closed := openReaders_eq_zero sound.toRecorded (not_not.mp counted)
  obtain ⟨⟨code, next⟩, started, rest⟩ := Option.bind_eq_some_iff.mp moved
  obtain ⟨recorded, nextKnown, nextOpened, committed, undecided⟩ :=
    sound.tryCommit (fun _ _ _ _ _ ran => (ran_of_exec ran).1) active known started
  dsimp only at rest
  split at rest
  next ok =>
    cases rest
    exact .done next active closed recorded (committed ok)
  next failed =>
  split at rest
  next autocommitOff =>
    have pending : next.fate = .pending := by
      simpa [SqliteAtomic.autocommit] using autocommitOff
    obtain ⟨⟨rolled, last⟩, rolling, ended⟩ := Option.bind_eq_some_iff.mp rest
    obtain ⟨ran, -⟩ := ran_of_exec rolling
    have lastRecorded := recorded.ran ran nextKnown nextOpened nofun
    dsimp only at ended
    split at ended
    next ok =>
      cases ended
      exact .undone last active lastRecorded (ran.acknowledged_eq ok)
        (ran.rolledBack ok (.inl pending))
    next refused =>
      cases ended
      exact .unknown last active lastRecorded
        (ran.undecided (fun ok => absurd ok refused) (undecided failed))
        fun some_ => absurd closed some_
  · cases rest
    exact .unknown next active recorded (undecided failed) fun some_ => absurd closed some_

/-! ## Runs -/

/-- The database ends a transaction only as it is told to, `Commit` is not called again after its
outcome was unknown, and the readers can be counted. -/
def Undisturbed (system : AtomicSystem) : SessionCall → Prop
  | .executePrepared _ answer | .readDatabaseTime answer => answer.fate = system.fate
  | .createReader _ _ answer =>
      answer.fate = system.fate ∧ system.session.openReaders + 1 < 2 ^ 32
  | .commit _ _ _ => reportedUnknown system.log = false
  | .rollback answer =>
      answer.reply = .done ∨ answer.fate = system.fate ∨ answer.usable = false
  | .begin _ | .closeReader _ | .cancel | .close _ => True

/-- No active transaction is committed while readers are open. -/
def ReadersClosed (system : AtomicSystem) : SessionCall → Prop
  | .commit _ _ _ => system.session.active = true → system.session.openReaders = 0
  | _ => True

theorem map_snd {Result : Type*} {moved : Option (Result × AtomicSystem)}
    (result : moved.map Prod.snd = some after) : ∃ code, moved = some (code, after) := by
  obtain ⟨⟨code, next⟩, equal, rfl⟩ := Option.map_eq_some_iff.mp result
  exact ⟨code, equal⟩

theorem Sound.server (sound : system.Sound) {call : SessionCall}
    (undisturbed : system.Undisturbed call) (closed : system.ReadersClosed call)
    (moved : ServerAtomic.step system call = some after) : after.Sound := by
  have spec := fun system statement answer code after =>
    @ran_of_run system after statement answer code
  cases call with
  | begin answer =>
      obtain ⟨code, moved⟩ := map_snd moved
      exact sound.begin spec moved
  | executePrepared valid answer =>
      obtain ⟨code, moved⟩ := map_snd moved
      exact sound.executePrepared spec undisturbed moved
  | createReader valid reads answer =>
      obtain ⟨code, moved⟩ := map_snd moved
      exact sound.createReader spec undisturbed.1 undisturbed.2 moved
  | readDatabaseTime answer =>
      obtain ⟨code, moved⟩ := map_snd moved
      exact sound.readDatabaseTime spec undisturbed moved
  | closeReader index =>
      cases moved
      exact ⟨sound.toRecorded.closeReader index, sound.pending, sound.undecided⟩
  | commit first second cancelled =>
      obtain ⟨⟨outcome, next⟩, committed, rfl⟩ := Option.map_eq_some_iff.mp moved
      exact sound.reported (sound.commitServer undisturbed closed committed)
  | rollback answer =>
      obtain ⟨code, moved⟩ := map_snd moved
      refine sound.rollback spec (fun allowed => ?_) undisturbed moved
      simp only [Bool.or_eq_false_iff, Bool.not_eq_false'] at allowed
      exact allowed.1
  | cancel =>
      cases moved
      exact ⟨sound.toRecorded.cancelIf true, sound.pending, sound.undecided⟩
  | close answer => exact sound.closeServer moved

theorem Sound.sqlite (sound : system.Sound) {call : SessionCall}
    (undisturbed : system.Undisturbed call)
    (moved : SqliteAtomic.step system call = some after) : after.Sound := by
  have spec := fun system statement answer code after ran =>
    (@ran_of_exec system after statement answer code ran).1
  cases call with
  | begin answer =>
      obtain ⟨code, moved⟩ := map_snd moved
      exact sound.begin spec moved
  | executePrepared valid answer =>
      obtain ⟨code, moved⟩ := map_snd moved
      exact sound.executePrepared spec undisturbed moved
  | createReader valid reads answer =>
      obtain ⟨code, moved⟩ := map_snd moved
      exact sound.createReader spec undisturbed.1 undisturbed.2 moved
  | readDatabaseTime answer =>
      obtain ⟨code, moved⟩ := map_snd moved
      exact sound.readDatabaseTime spec undisturbed moved
  | closeReader index =>
      cases moved
      exact ⟨sound.toRecorded.closeReader index, sound.pending, sound.undecided⟩
  | commit first second cancelled =>
      obtain ⟨⟨outcome, next⟩, committed, rfl⟩ := Option.map_eq_some_iff.mp moved
      exact sound.reported (sound.commitSqlite undisturbed committed)
  | rollback answer =>
      obtain ⟨code, moved⟩ := map_snd moved
      refine sound.rollback spec (fun allowed => ?_) undisturbed moved
      simp only [Bool.or_eq_false_iff, Bool.not_eq_false'] at allowed
      exact ⟨allowed.1.2, allowed.1.1.2⟩
  | cancel =>
      cases moved
      exact ⟨sound.toRecorded.cancelIf true, sound.pending, sound.undecided⟩
  | close answer => exact sound.closeSqlite moved

theorem fresh_sound : ({} : AtomicSystem).Sound :=
  ⟨⟨nofun, fun member => absurd member List.not_mem_nil, nofun, nofun, by decide, Lawful.nil⟩,
    nofun, nofun⟩

instance (system : AtomicSystem) (call : SessionCall) : Decidable (system.Undisturbed call) := by
  cases call <;> unfold Undisturbed <;> infer_instance

instance (system : AtomicSystem) (call : SessionCall) : Decidable (system.ReadersClosed call) := by
  cases call <;> unfold ReadersClosed <;> infer_instance

end AtomicSystem

end Flowsql.Database
