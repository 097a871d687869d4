import Flowsql.Baseliner.WriterFence
import Mathlib

/-!
# Runs of the writer fence

Every transaction on the row keeps it in step with the writers that have taken it and with the
publications that they have committed.
-/

namespace Flowsql.Baseliner

namespace FenceSystem

open WriterFence

variable {system after : FenceSystem} {writer : Nat} {fence : WriterFence}

/-- The numbers from one on. -/
def countedUp (count : Nat) : List Int :=
  (List.range count).map fun index : Nat => (index : Int) + 1

theorem countedUp_succ (count : Nat) :
    countedUp (count + 1) = countedUp count ++ [(count : Int) + 1] := by
  simp [countedUp, List.range_succ]

/-! ## Invariants -/

/-- A publication was staged under a lease that had not expired, by the writer that had taken the
row last. -/
structure Leased (publication : Publication) : Prop where
  inTime : publication.stagedAt < publication.deadline
  holder : publication.holder = some (publication.writer, publication.epoch)

/-- The row counts the writers that have taken it and the publications. -/
structure Counted (system : FenceSystem) (row : FenceRow) : Prop where
  epoch : row.writerEpoch = system.acquisitions.length
  generation : row.currentGeneration = system.publications.length

/-- An open transaction adds one publication of the writer that holds the row. -/
structure Staged (system : FenceSystem) (staged : StagedRow) : Prop where
  leased : Leased staged.publication
  last : staged.publication.holder = system.acquisitions.getLast?
  epoch : staged.publication.epoch = system.acquisitions.length
  generation : staged.publication.generation = system.publications.length + 1
  rowEpoch : staged.row.writerEpoch = system.acquisitions.length
  rowGeneration : staged.row.currentGeneration = system.publications.length + 1

/-- What a writer knows about the row. -/
structure Knows (system : FenceSystem) (writer : Nat) (fence : WriterFence) : Prop where
  unbound : fence.bound = false → system.commitResults writer = none
  bounded : fence.isFailed = false → fence.epoch ≤ system.acquisitions.length
  live : fence.bound = true → fence.isFailed = false → fence.staged = false →
    fence.epoch = system.acquisitions.length →
      fence.generation = system.publications.length ∧
        system.acquisitions.getLast? = some (writer, fence.epoch)
  staged : ∀ staged, system.transaction = some staged → staged.publication.writer = writer →
    fence.bound = true ∧ fence.staged = true ∧ fence.epoch = staged.publication.epoch ∧
      fence.generation + 1 = staged.publication.generation ∧ system.commitResults writer = none
  pending : ∀ outcome message, system.commitResults writer = some (outcome, message) →
    fence.staged = true ∧ (outcome.ok = true →
      fence.epoch ≤ system.acquisitions.length ∧
      (∃ publication ∈ system.publications, publication.writer = writer ∧
        publication.epoch = fence.epoch ∧ publication.generation = fence.generation + 1) ∧
      (fence.epoch = system.acquisitions.length →
        fence.generation + 1 = system.publications.length ∧
          system.acquisitions.getLast? = some (writer, fence.epoch)))

structure Sound (system : FenceSystem) : Prop where
  unopened : system.row = none → system.acquisitions = [] ∧ system.publications = []
  counted : ∀ row, system.row = some row → system.Counted row
  epochs : system.acquisitions.map Prod.snd = countedUp system.acquisitions.length
  generations : system.publications.map Publication.generation =
    countedUp system.publications.length
  leased : ∀ publication ∈ system.publications, Leased publication ∧
    (publication.writer, publication.epoch) ∈ system.acquisitions
  staged : ∀ staged, system.transaction = some staged → system.row.isSome = true ∧
    system.Staged staged
  knows : ∀ writer, system.Knows writer (system.writers writer)

theorem created_sound (clock : Int) : (created clock).Sound where
  unopened := fun _ => ⟨rfl, rfl⟩
  counted := fun _ none_ => by cases none_
  epochs := rfl
  generations := rfl
  leased := fun _ member => absurd member List.not_mem_nil
  staged := fun _ none_ => by cases none_
  knows := by
    intro writer
    exact ⟨fun _ => rfl, fun _ => Int.le_refl 0, fun unbound => (nomatch unbound),
      fun _ opened => (nomatch opened), fun _ _ waits => (nomatch waits)⟩

/-- What later states keep of the record: nothing is taken back, and later publications are those
of writers that have taken the row since. -/
structure Follows (before after : FenceSystem) : Prop where
  acquisitions : before.acquisitions <+: after.acquisitions
  publications : before.publications <+: after.publications
  newer : ∀ publication ∈ after.publications.drop before.publications.length,
    (before.acquisitions.length : Int) ≤ publication.epoch

theorem Follows.of_same (acquisitions : after.acquisitions = system.acquisitions)
    (publications : after.publications = system.publications) : system.Follows after where
  acquisitions := acquisitions ▸ List.prefix_rfl
  publications := publications ▸ List.prefix_rfl
  newer := by
    rw [publications, List.drop_length]
    exact fun _ member => absurd member List.not_mem_nil

theorem Follows.trans {first second third : FenceSystem} (before : first.Follows second)
    (after : second.Follows third) : first.Follows third where
  acquisitions := before.acquisitions.trans after.acquisitions
  publications := before.publications.trans after.publications
  newer := by
    intro publication member
    obtain ⟨added, secondEq⟩ := before.publications
    obtain ⟨later, thirdEq⟩ := after.publications
    have addedEq : second.publications.drop first.publications.length = added := by
      rw [← secondEq, List.drop_left]
    have laterEq : third.publications.drop second.publications.length = later := by
      rw [← thirdEq, List.drop_left]
    rw [← thirdEq, ← secondEq, List.append_assoc, List.drop_left] at member
    rcases List.mem_append.mp member with early | late
    · exact before.newer publication (addedEq ▸ early)
    · have longer := before.acquisitions.length_le
      have newer := after.newer publication (laterEq ▸ late)
      omega

/-! ## Steps of one writer -/

/-- Only what one writer knows is changed. -/
theorem Sound.setWriter (sound : system.Sound) (knows : system.Knows writer fence) :
    (system.setWriter writer fence).Sound := by
  refine ⟨sound.unopened, fun row is => { sound.counted row is with }, sound.epochs,
    sound.generations, sound.leased, fun staged open_ => ?_, fun other => ?_⟩
  · obtain ⟨some_, facts⟩ := sound.staged staged open_
    exact ⟨some_, { facts with }⟩
  · by_cases same : other = writer
    · subst same
      simpa [FenceSystem.setWriter] using { knows with }
    · have known := sound.knows other
      simpa [FenceSystem.setWriter, same] using { known with }

theorem Knows.fail (knows : system.Knows writer fence) (error : String) :
    system.Knows writer (fence.fail error) where
  unbound := knows.unbound
  bounded := fun live => by cases live
  live := fun _ live => by cases live
  staged := knows.staged
  pending := knows.pending

/-- The row is taken, for a new epoch. -/
theorem Sound.take {row : FenceRow} {fence : WriterFence} (sound : system.Sound)
    (unlocked : system.transaction = none)
    (epoch : row.writerEpoch = system.acquisitions.length + 1)
    (generation : row.currentGeneration = system.publications.length)
    (pending : system.commitResults writer = none) (reads : fence.isFailed = false →
      fence.epoch = row.writerEpoch ∧ fence.generation = row.currentGeneration) :
    (({ system with
        row := some row
        acquisitions := system.acquisitions ++ [(writer, row.writerEpoch)] }).setWriter writer
          fence).Sound := by
  have longer : (((system.acquisitions ++ [(writer, row.writerEpoch)]).length : Nat) : Int) =
      system.acquisitions.length + 1 := by
    simp
  refine ⟨nofun, ?_, ?_, sound.generations, ?_, ?_, ?_⟩
  · rintro _ ⟨⟩
    exact ⟨epoch.trans longer.symm, generation⟩
  · change List.map Prod.snd (system.acquisitions ++ [(writer, row.writerEpoch)]) =
      countedUp (system.acquisitions ++ [(writer, row.writerEpoch)]).length
    rw [List.map_append, sound.epochs, List.length_append, List.length_singleton, countedUp_succ,
      List.map_singleton, epoch]
  · intro publication member
    exact ⟨(sound.leased publication member).1,
      List.mem_append_left _ (sound.leased publication member).2⟩
  · intro staged open_
    cases unlocked.symm.trans open_
  · intro other
    by_cases same : other = writer
    · subst same
      simp only [FenceSystem.setWriter, Function.update_self]
      refine ⟨fun _ => pending, ?_, ?_, fun _ open_ => ?_, fun _ _ waits => ?_⟩
      · intro live
        exact Int.le_of_eq (by rw [(reads live).1, longer, epoch])
      · intro _ live _ _
        exact ⟨(reads live).2.trans generation, by simp [(reads live).1]⟩
      · cases unlocked.symm.trans open_
      · cases pending.symm.trans waits
    · have known := sound.knows other
      simp only [FenceSystem.setWriter, Function.update_of_ne same]
      refine ⟨known.unbound, ?_, ?_, fun _ open_ => ?_, ?_⟩
      · intro live
        have bounded := known.bounded live
        rw [longer]
        omega
      · intro _ live _ newest
        have bounded := known.bounded live
        have newest_ := Eq.trans newest longer
        omega
      · cases unlocked.symm.trans open_
      · intro outcome message waits
        obtain ⟨staged, rest⟩ := known.pending outcome message waits
        refine ⟨staged, fun ok => ?_⟩
        obtain ⟨bounded, published, _⟩ := rest ok
        refine ⟨by rw [longer]; omega, published, fun newest => ?_⟩
        have newest_ := Eq.trans newest longer
        omega

/-- A writer that has failed and that has nothing to confirm. -/
theorem Knows.of_settled (failed : fence.isFailed = true)
    (pending : system.commitResults writer = none) (unlocked : system.transaction = none) :
    system.Knows writer fence where
  unbound := fun _ => pending
  bounded := fun live => absurd (live.symm.trans failed) Bool.false_ne_true
  live := fun _ live => absurd (live.symm.trans failed) Bool.false_ne_true
  staged := fun _ open_ => by cases unlocked.symm.trans open_
  pending := fun _ _ waits => by cases pending.symm.trans waits

/-- A writer without a session has nothing to lose. -/
theorem Knows.of_failed {before : WriterFence} (knows : system.Knows writer before)
    (unbound : before.bound = false) (failed : fence.isFailed = true) :
    system.Knows writer fence where
  unbound := fun _ => knows.unbound unbound
  bounded := fun live => absurd (live.symm.trans failed) Bool.false_ne_true
  live := fun _ live => absurd (live.symm.trans failed) Bool.false_ne_true
  staged := by
    intro staged open_ is
    have bound := (knows.staged staged open_ is).1
    exact absurd (unbound.symm.trans bound) Bool.false_ne_true
  pending := fun _ _ waits => by cases (knows.unbound unbound).symm.trans waits

theorem setWriter_setWriter (first second : WriterFence) :
    (system.setWriter writer first).setWriter writer second = system.setWriter writer second := by
  simp [FenceSystem.setWriter]

theorem setWriter_failWriter (error : String) :
    (system.setWriter writer fence).failWriter writer error =
      system.setWriter writer (fence.fail error) := by
  simp [failWriter, FenceSystem.setWriter]

theorem setWriter_follows : system.Follows (system.setWriter writer fence) := .of_same rfl rfl

theorem acquireRow_counted {row : FenceRow} {owner fingerprint : String} {leaseMs : Int}
    (sound : system.Sound)
    (taken : acquireRow owner fingerprint leaseMs system.clock system.row = some row) :
    row.writerEpoch = system.acquisitions.length + 1 ∧
      row.currentGeneration = system.publications.length := by
  cases found : system.row with
  | none =>
      rw [found] at taken
      cases taken
      obtain ⟨acquisitions, publications⟩ := sound.unopened found
      simp [acquisitions, publications]
  | some held =>
      obtain ⟨epoch, generation⟩ := sound.counted held found
      simp only [acquireRow, found] at taken
      split at taken
      · cases taken
        exact ⟨congrArg (· + 1) epoch, generation⟩
      · cases taken

theorem takeRow_sound (sound : system.Sound) (fingerprint : String) (fate : TransactionFate)
    (unbound : (system.writers writer).bound = false) :
    ((system.setWriter writer fence).takeRow writer fingerprint fate).Sound ∧
      system.Follows ((system.setWriter writer fence).takeRow writer fingerprint fate) := by
  have knows := sound.knows writer
  have pending := knows.unbound unbound
  have fails : ∀ error, ((system.setWriter writer fence).failWriter writer error).Sound ∧
      system.Follows ((system.setWriter writer fence).failWriter writer error) := by
    intro error
    rw [setWriter_failWriter]
    exact ⟨sound.setWriter (knows.of_failed unbound rfl), setWriter_follows⟩
  have here : (system.setWriter writer fence).writers writer = fence := Function.update_self _ _ _
  unfold takeRow
  simp only [here]
  cases fate with
  | failed message => exact fails message
  | finished outcome message =>
      simp only
      split
      · exact fails _
      next unlocked =>
        have unlocked_ : system.transaction = none := Option.not_isSome_iff_eq_none.mp unlocked
        split
        · exact fails _
        split
        · exact fails _
        next row taken =>
          obtain ⟨rowEpoch, rowGeneration⟩ := acquireRow_counted sound taken
          cases applies : outcome.applies with
          | false =>
              have refused : outcome.ok = false := by
                cases outcome <;> first | rfl | cases applies
              simp only [refused, Bool.false_eq_true, if_false, setWriter_setWriter]
              exact ⟨sound.setWriter (.of_settled rfl pending unlocked_), setWriter_follows⟩
          | true =>
              have flat : ∀ final : WriterFence,
                  (({ system.setWriter writer fence with
                    row := some row
                    acquisitions := (system.setWriter writer fence).acquisitions ++
                      [(writer, row.writerEpoch)] } : FenceSystem).setWriter writer final) =
                  (({ system with
                    row := some row
                    acquisitions := system.acquisitions ++ [(writer, row.writerEpoch)] }
                      : FenceSystem).setWriter writer final) := by
                intro final
                simp [FenceSystem.setWriter]
              simp only [if_true, flat]
              refine ⟨sound.take unlocked_ rowEpoch rowGeneration pending ?_,
                ⟨List.prefix_append _ _, List.prefix_rfl, ?_⟩⟩
              · intro live
                split at live
                · next ok =>
                    rw [if_pos ok]
                    exact ⟨rfl, rfl⟩
                · cases live
              · intro publication member
                have none_ : system.publications.drop system.publications.length = [] :=
                  List.drop_length
                exact absurd (none_ ▸ member) List.not_mem_nil

theorem failWriter_sound (sound : system.Sound) (writer : Nat) (error : String) :
    (system.failWriter writer error).Sound ∧ system.Follows (system.failWriter writer error) :=
  ⟨sound.setWriter ((sound.knows writer).fail error), .of_same rfl rfl⟩

theorem acquire_sound (sound : system.Sound) (writer : Nat) (owner fingerprint : String)
    (leaseMs : Int) (table fate : TransactionFate) :
    (system.acquire writer owner fingerprint leaseMs table fate).Sound ∧
      system.Follows (system.acquire writer owner fingerprint leaseMs table fate) := by
  unfold acquire
  simp only
  split
  · exact failWriter_sound sound writer _
  next free =>
    rw [not_or] at free
    have unbound : (system.writers writer).bound = false := Bool.eq_false_iff.mpr free.1
    have fails : ∀ (fence : WriterFence) (error : String),
        ((system.setWriter writer fence).failWriter writer error).Sound ∧
          system.Follows ((system.setWriter writer fence).failWriter writer error) := by
      intro fence error
      rw [setWriter_failWriter]
      exact ⟨sound.setWriter ((sound.knows writer).of_failed unbound rfl), setWriter_follows⟩
    cases table with
    | failed message => exact fails _ message
    | finished outcome message =>
        simp only
        split
        · exact takeRow_sound sound fingerprint fate unbound
        · exact fails _ message

/-! ## Steps of the writer that holds the row -/

/-- A writer that may change the row has a session, has not failed and has not staged. -/
theorem refusal_none (accepted : system.refusal writer = none) :
    (system.writers writer).bound = true ∧ (system.writers writer).isFailed = false ∧
      (system.writers writer).staged = false ∧ system.transaction = none := by
  unfold refusal at accepted
  simp only at accepted
  split at accepted
  · cases accepted
  next available =>
    split at accepted
    · cases accepted
    next unlocked =>
      simp only [not_or, Bool.not_eq_true, Bool.not_eq_false] at available
      exact ⟨available.1, available.2.1, available.2.2, Option.not_isSome_iff_eq_none.mp unlocked⟩

theorem changeRow_some {publish : Bool} {now : Int} {row : FenceRow} {found : Option FenceRow}
    (changed : fence.changeRow publish now found = some row) : ∃ held, found = some held ∧
      held.writerEpoch = fence.epoch ∧ held.currentGeneration = fence.generation ∧
        now < held.leaseDeadline ∧ row.writerEpoch = held.writerEpoch ∧
          row.currentGeneration =
            if publish then held.currentGeneration + 1 else held.currentGeneration := by
  cases found with
  | none => cases changed
  | some held =>
      simp only [changeRow] at changed
      split at changed
      · next holds =>
          cases changed
          exact ⟨held, rfl, holds.2.1, holds.2.2.1, holds.2.2.2, rfl, rfl⟩
      · cases changed

/-- The row is written with the same epoch and generation. -/
theorem Sound.rewrite {row : FenceRow} (sound : system.Sound) (held : system.Counted row) :
    ({ system with row := some row } : FenceSystem).Sound := by
  refine ⟨nofun, ?_, sound.epochs, sound.generations, sound.leased, fun staged open_ => ?_,
    fun other => ?_⟩
  · rintro _ ⟨⟩
    exact ⟨held.epoch, held.generation⟩
  · exact ⟨rfl, { (sound.staged staged open_).2 with }⟩
  · exact { sound.knows other with }

theorem renew_sound (sound : system.Sound) (writer : Nat) (fate : TransactionFate) :
    (system.renew writer fate).Sound ∧ system.Follows (system.renew writer fate) := by
  unfold renew
  split
  · exact failWriter_sound sound writer _
  · exact failWriter_sound sound writer _
  next outcome message accepted =>
    split
    · exact failWriter_sound sound writer _
    next row changed =>
      obtain ⟨held, found, _, _, _, epoch, generation⟩ := changeRow_some changed
      have counted := sound.counted held found
      have rewritten := @Sound.rewrite _ row sound
        ⟨epoch.trans counted.epoch, generation.trans counted.generation⟩
      have renewed : (if outcome.applies = true then { system with row := some row }
          else system).Sound ∧ system.Follows
            (if outcome.applies = true then { system with row := some row } else system) := by
        split
        · exact ⟨rewritten, .of_same rfl rfl⟩
        · exact ⟨sound, .of_same rfl rfl⟩
      simp only
      split
      · exact renewed
      · obtain ⟨failed, follows⟩ := failWriter_sound renewed.1 writer message
        exact ⟨failed, renewed.2.trans follows⟩

theorem stage_sound (sound : system.Sound) (writer : Nat) (failure : Option String) :
    (system.stage writer failure).Sound ∧ system.Follows (system.stage writer failure) := by
  unfold stage
  split
  · exact failWriter_sound sound writer _
  · exact failWriter_sound sound writer _
  next accepted =>
    split
    · next found row is changed =>
        obtain ⟨held, held_, rowEpoch, rowGeneration, inTime, epoch, generation⟩ :=
          changeRow_some changed
        cases is.symm.trans held_
        have counted := sound.counted found is
        obtain ⟨bound, live, unstaged, unlocked⟩ := refusal_none accepted
        have knows := sound.knows writer
        obtain ⟨_, last⟩ := knows.live bound live unstaged (rowEpoch.symm.trans counted.epoch)
        have settled : system.commitResults writer = none := by
          cases waits : system.commitResults writer with
          | none => rfl
          | some result =>
              have staged := (knows.pending result.1 result.2 waits).1
              exact absurd (unstaged.symm.trans staged) Bool.false_ne_true
        refine ⟨⟨?_, ?_, sound.epochs, sound.generations, sound.leased, ?_, ?_⟩, .of_same rfl rfl⟩
        · intro none_
          cases is.symm.trans none_
        · intro other is_
          exact ⟨(sound.counted other is_).epoch, (sound.counted other is_).generation⟩
        · rintro _ ⟨⟩
          refine ⟨(congrArg Option.isSome is).trans rfl, ⟨inTime, ?_⟩, rfl,
            epoch.trans counted.epoch, ?_, epoch.trans counted.epoch, ?_⟩
          · exact last.trans (congrArg some (Prod.ext rfl (rowEpoch.symm.trans epoch.symm)))
          · exact generation.trans (congrArg (· + 1) counted.generation)
          · exact generation.trans (congrArg (· + 1) counted.generation)
        · intro other
          by_cases same : other = writer
          · subst same
            simp only [FenceSystem.setWriter, Function.update_self]
            refine ⟨fun _ => settled, knows.bounded, fun _ _ waits => (nomatch waits), ?_, fun _ _ waits => ?_⟩
            · rintro _ ⟨⟩ _
              refine ⟨bound, rfl, rowEpoch.symm.trans epoch.symm, ?_, settled⟩
              exact (congrArg (· + 1) rowGeneration.symm).trans generation.symm
            · cases settled.symm.trans waits
          · simp only [FenceSystem.setWriter, Function.update_of_ne same]
            have known := sound.knows other
            refine ⟨known.unbound, known.bounded, known.live, ?_, known.pending⟩
            rintro _ ⟨⟩ is_
            exact absurd is_.symm same
    · exact failWriter_sound sound writer _

theorem rollback_sound (sound : system.Sound) (writer : Nat) :
    (system.rollback writer).Sound ∧ system.Follows (system.rollback writer) := by
  unfold rollback
  split
  · split
    · refine ⟨⟨sound.unopened, fun row is => { sound.counted row is with }, sound.epochs,
        sound.generations, sound.leased, fun _ opened => (nomatch opened), fun other => ?_⟩, .of_same rfl rfl⟩
      have known := sound.knows other
      exact ⟨known.unbound, known.bounded, known.live, fun _ opened => (nomatch opened), known.pending⟩
    · exact ⟨sound, .of_same rfl rfl⟩
  · exact ⟨sound, .of_same rfl rfl⟩

/-- The transaction of the writer ends and its result waits to be confirmed. -/
theorem Sound.settle {staged : StagedRow} (sound : system.Sound)
    (opened : system.transaction = some staged) {outcome : CommitOutcome} (message : String)
    (refused : outcome.ok = false) :
    ({ system with
      transaction := none
      commitResults := Function.update system.commitResults staged.publication.writer
        (some (outcome, message)) } : FenceSystem).Sound := by
  refine ⟨sound.unopened, fun row is => { sound.counted row is with }, sound.epochs,
    sound.generations, sound.leased, fun _ opened => (nomatch opened), fun other => ?_⟩
  have known := sound.knows other
  by_cases same : other = staged.publication.writer
  · obtain ⟨bound, isStaged, _⟩ := known.staged staged opened same.symm
    refine ⟨?_, known.bounded, known.live, fun _ opened => (nomatch opened), ?_⟩
    · intro unbound
      exact absurd (unbound.symm.trans bound) Bool.false_ne_true
    · intro found text waits
      simp only [same, Function.update_self] at waits
      cases waits
      exact ⟨isStaged, fun ok => absurd (refused.symm.trans ok) Bool.false_ne_true⟩
  · have apart : Function.update system.commitResults staged.publication.writer
        (some (outcome, message)) other = system.commitResults other :=
      Function.update_of_ne same _ _
    exact ⟨fun unbound => apart.trans (known.unbound unbound), known.bounded, known.live, fun _ opened => (nomatch opened),
      fun found text waits => known.pending found text (apart.symm.trans waits)⟩

/-- The transaction of the writer is applied, and its result waits to be confirmed. -/
theorem Sound.publish {staged : StagedRow} (sound : system.Sound)
    (opened : system.transaction = some staged) (outcome : CommitOutcome) (message : String) :
    ({ system with
      row := some staged.row
      publications := system.publications ++ [staged.publication]
      transaction := none
      commitResults := Function.update system.commitResults staged.publication.writer
        (some (outcome, message)) } : FenceSystem).Sound := by
  obtain ⟨_, facts⟩ := sound.staged staged opened
  have longer : (((system.publications ++ [staged.publication]).length : Nat) : Int) =
      system.publications.length + 1 := by
    simp
  have last := facts.last.symm.trans facts.leased.holder
  refine ⟨nofun, ?_, sound.epochs, ?_, ?_, fun _ opened => (nomatch opened), fun other => ?_⟩
  · rintro _ ⟨⟩
    exact ⟨facts.rowEpoch, facts.rowGeneration.trans longer.symm⟩
  · change List.map Publication.generation (system.publications ++ [staged.publication]) =
      countedUp (system.publications ++ [staged.publication]).length
    rw [List.map_append, sound.generations, List.length_append, List.length_singleton,
      countedUp_succ, List.map_singleton, facts.generation]
  · intro publication member
    rcases List.mem_append.mp member with old | new_
    · exact sound.leased publication old
    · cases List.mem_singleton.mp new_
      exact ⟨facts.leased, List.mem_of_getLast? last⟩
  · have known := sound.knows other
    by_cases same : other = staged.publication.writer
    · obtain ⟨bound, isStaged, epoch, generation, _⟩ := known.staged staged opened same.symm
      refine ⟨?_, known.bounded, ?_, fun _ opened => (nomatch opened),
        fun _ _ _ => ⟨isStaged, fun _ => ⟨?_, ?_, fun _ => ?_⟩⟩⟩
      · intro unbound
        exact absurd (unbound.symm.trans bound) Bool.false_ne_true
      · intro _ _ unstaged
        exact absurd (unstaged.symm.trans isStaged) Bool.false_ne_true
      · exact Int.le_of_eq (epoch.trans facts.epoch)
      · exact ⟨staged.publication, List.mem_append_right _ (List.mem_singleton_self _), same.symm,
          epoch.symm, generation.symm⟩
      · refine ⟨generation.trans (facts.generation.trans longer.symm), last.trans ?_⟩
        exact congrArg some (Prod.ext same.symm epoch.symm)
    · have apart : Function.update system.commitResults staged.publication.writer
          (some (outcome, message)) other = system.commitResults other :=
        Function.update_of_ne same _ _
      -- The newest epoch is that of the writer that has staged.
      have stale : ∀ epoch, system.acquisitions.getLast? ≠ some (other, epoch) := by
        intro epoch is
        exact same (congrArg Prod.fst (Option.some.inj (is.symm.trans last)))
      refine ⟨fun unbound => apart.trans (known.unbound unbound), known.bounded, ?_, fun _ opened => (nomatch opened), ?_⟩
      · intro bound live unstaged newest
        exact absurd (known.live bound live unstaged newest).2 (stale _)
      · intro found text waits
        obtain ⟨isStaged, rest⟩ := known.pending found text (apart.symm.trans waits)
        refine ⟨isStaged, fun ok => ?_⟩
        obtain ⟨bounded, ⟨publication, member, facts⟩, newest⟩ := rest ok
        exact ⟨bounded, ⟨publication, List.mem_append_left _ member, facts⟩,
          fun is => absurd (newest is).2 (stale _)⟩

theorem commit_sound (sound : system.Sound) (writer : Nat) (outcome : CommitOutcome)
    (message : String) : (system.commit writer outcome message).Sound ∧
      system.Follows (system.commit writer outcome message) := by
  unfold commit
  split
  next staged opened =>
    split
    · next is =>
        subst is
        cases applies : outcome.applies with
        | true =>
            refine ⟨sound.publish opened outcome message, ⟨List.prefix_rfl,
              List.prefix_append _ _, ?_⟩⟩
            intro publication member
            change publication ∈ (system.publications ++ [staged.publication]).drop
              system.publications.length at member
            rw [List.drop_left] at member
            cases List.mem_singleton.mp member
            exact Int.le_of_eq (sound.staged staged opened).2.epoch.symm
        | false =>
            have refused : outcome.ok = false := by
              cases outcome <;> first | rfl | cases applies
            exact ⟨sound.settle opened message refused, .of_same rfl rfl⟩
    · exact ⟨sound, .of_same rfl rfl⟩
  · exact ⟨sound, .of_same rfl rfl⟩

/-- A writer that has confirmed knows the generation of its publication, and the one of the row
unless another has taken the row. -/
structure Confirmed (system : FenceSystem) (writer : Nat) (fence : WriterFence) : Prop where
  published : ∃ publication ∈ system.publications, publication.writer = writer ∧
    publication.epoch = fence.epoch ∧ publication.generation = fence.generation
  stored : ∀ row, system.row = some row → row.writerEpoch = fence.epoch →
    row.currentGeneration = fence.generation

/-- The result of the last commit is cleared. -/
theorem Sound.clear (sound : system.Sound)
    (knows : ({ system with
      commitResults := Function.update system.commitResults writer none }).Knows writer fence) :
    ({ system.setWriter writer fence with
      commitResults := Function.update system.commitResults writer none }).Sound := by
  refine ⟨sound.unopened, fun row is => { sound.counted row is with }, sound.epochs,
    sound.generations, sound.leased, fun staged open_ => ?_, fun other => ?_⟩
  · obtain ⟨some_, facts⟩ := sound.staged staged open_
    exact ⟨some_, { facts with }⟩
  · by_cases same : other = writer
    · subst same
      simpa [FenceSystem.setWriter] using { knows with }
    · have known := sound.knows other
      have apart : Function.update system.commitResults writer none other =
          system.commitResults other := Function.update_of_ne same _ _
      simp only [FenceSystem.setWriter, Function.update_of_ne same]
      exact ⟨fun unbound => apart.trans (known.unbound unbound), known.bounded, known.live,
        fun staged open_ is => by
          obtain ⟨bound, isStaged, epoch, generation, settled⟩ := known.staged staged open_ is
          exact ⟨bound, isStaged, epoch, generation, apart.trans settled⟩,
        fun found text waits => known.pending found text (apart.symm.trans waits)⟩

/-- A writer whose result waits has no open transaction. -/
theorem Knows.closed (knows : system.Knows writer fence) {result : CommitOutcome × String}
    (waits : system.commitResults writer = some result) {staged : StagedRow}
    (opened : system.transaction = some staged) : staged.publication.writer ≠ writer := by
  intro is
  obtain ⟨_, _, _, _, settled⟩ := knows.staged staged opened is
  cases settled.symm.trans waits

theorem confirm_sound (sound : system.Sound) (writer : Nat) :
    (system.confirm writer).Sound ∧ system.Follows (system.confirm writer) := by
  unfold confirm
  split
  · exact ⟨sound, .of_same rfl rfl⟩
  next outcome message waits =>
    refine ⟨sound.clear ?_, .of_same rfl rfl⟩
    have knows := sound.knows writer
    obtain ⟨isStaged, rest⟩ := knows.pending outcome message waits
    have cleared : Function.update system.commitResults writer none writer = none :=
      Function.update_self _ _ _
    have closed : ∀ staged, system.transaction = some staged →
        staged.publication.writer ≠ writer := fun staged opened => knows.closed waits opened
    cases ok : outcome.ok with
    | false =>
        simp only [WriterFence.confirm, isStaged, ok, not_true_eq_false, if_false,
          Bool.false_eq_true, not_false_eq_true, if_true]
        exact ⟨fun _ => cleared, nofun, nofun,
          fun staged opened is => absurd is (closed staged opened),
          fun _ _ waits_ => by cases cleared.symm.trans waits_⟩
    | true =>
        obtain ⟨bounded, _, newest⟩ := rest ok
        simp only [WriterFence.confirm, isStaged, ok, not_true_eq_false, if_false]
        exact ⟨fun _ => cleared, fun _ => bounded, fun _ _ _ is => newest is,
          fun staged opened is => absurd is (closed staged opened),
          fun _ _ waits_ => by cases cleared.symm.trans waits_⟩

/-- After a successful `Confirm`. -/
theorem confirm_confirmed (sound : system.Sound) {outcome : CommitOutcome} {message : String}
    (waits : system.commitResults writer = some (outcome, message))
    (succeeds : ((system.writers writer).confirm outcome message).1 = 0) :
    (system.confirm writer).Confirmed writer ((system.confirm writer).writers writer) := by
  obtain ⟨isStaged, rest⟩ := (sound.knows writer).pending outcome message waits
  have ok : outcome.ok = true := by
    by_contra refused
    simp [WriterFence.confirm, isStaged, refused] at succeeds
  obtain ⟨_, published, newest⟩ := rest ok
  have result : (system.confirm writer).writers writer =
      { system.writers writer with
        staged := false, generation := (system.writers writer).generation + 1 } := by
    simp [confirm, waits, WriterFence.confirm, isStaged, ok, FenceSystem.setWriter]
  have kept : (system.confirm writer).row = system.row ∧
      (system.confirm writer).publications = system.publications := by
    simp [confirm, waits, FenceSystem.setWriter]
  rw [result]
  refine ⟨kept.2 ▸ published, fun row is epoch => ?_⟩
  have counted := sound.counted row (kept.1 ▸ is)
  exact counted.generation.trans (newest (epoch.symm.trans counted.epoch)).1.symm

theorem releaseRow_counted {row : FenceRow} (sound : system.Sound)
    (released : fence.releaseRow system.row = some row) : system.Counted row := by
  cases found : system.row with
  | none =>
      rw [found] at released
      cases released
  | some held =>
      have counted := sound.counted held found
      simp only [releaseRow, found] at released
      split at released
      · cases released
        exact ⟨counted.epoch, counted.generation⟩
      · cases released
        exact counted

/-- The row is released, or it is left to its holder. -/
theorem Sound.releaseRow (sound : system.Sound) (fence : WriterFence) :
    ({ system with row := fence.releaseRow system.row }).Sound := by
  cases found : system.row with
  | none =>
      have same : ({ system with row := fence.releaseRow none } : FenceSystem) = system := by
        cases system
        cases found
        rfl
      exact same ▸ sound
  | some held =>
      cases released : fence.releaseRow (some held) with
      | none =>
          simp only [WriterFence.releaseRow] at released
          split at released <;> cases released
      | some row => exact sound.rewrite (releaseRow_counted sound (found ▸ released))

theorem rollback_transaction {staged : StagedRow}
    (opened : (system.rollback writer).transaction = some staged) :
    staged.publication.writer ≠ writer := by
  unfold rollback at opened
  split at opened
  next other open_ =>
    split at opened
    · cases opened
    next apart =>
      cases open_.symm.trans opened
      exact apart
  next none_ => cases none_.symm.trans opened

theorem rollback_writers : (system.rollback writer).writers = system.writers ∧
    (system.rollback writer).commitResults = system.commitResults := by
  unfold rollback
  split
  · split <;> exact ⟨rfl, rfl⟩
  · exact ⟨rfl, rfl⟩

/-- The session of the writer ends. -/
theorem Sound.unbind (sound : system.Sound) (closed : ∀ staged, system.transaction = some staged →
    staged.publication.writer ≠ writer) :
    ({ system.setWriter writer { system.writers writer with bound := false } with
      commitResults := Function.update system.commitResults writer none }).Sound := by
  have knows := sound.knows writer
  have cleared : Function.update system.commitResults writer none writer = none :=
    Function.update_self _ _ _
  apply sound.clear
  exact ⟨fun _ => cleared, knows.bounded, nofun,
    fun staged opened is => absurd is (closed staged opened),
    fun _ _ waits => by cases cleared.symm.trans waits⟩

theorem release_sound (sound : system.Sound) (writer : Nat) (fate : TransactionFate) :
    (system.release writer fate).Sound ∧ system.Follows (system.release writer fate) := by
  unfold release
  simp only
  split
  · exact ⟨sound, .of_same rfl rfl⟩
  obtain ⟨rolled, follows⟩ := rollback_sound sound writer
  obtain ⟨writers, results⟩ := @rollback_writers system writer
  rw [← writers, ← results]
  cases fate with
  | failed message =>
      exact ⟨rolled.unbind fun _ => rollback_transaction, follows.trans (.of_same rfl rfl)⟩
  | finished outcome message =>
      simp only
      split
      · exact ⟨(rolled.releaseRow _).unbind fun _ => rollback_transaction,
          follows.trans (.of_same rfl rfl)⟩
      · exact ⟨rolled.unbind fun _ => rollback_transaction, follows.trans (.of_same rfl rfl)⟩

/-! ## Runs -/

theorem step_sound (sound : system.Sound) (event : FenceEvent) :
    (system.step event).Sound ∧ system.Follows (system.step event) := by
  cases event with
  | acquire writer owner fingerprint leaseMs table fate =>
      exact acquire_sound sound writer owner fingerprint leaseMs table fate
  | renew writer fate => exact renew_sound sound writer fate
  | stage writer failure => exact stage_sound sound writer failure
  | rollback writer => exact rollback_sound sound writer
  | commit writer outcome message => exact commit_sound sound writer outcome message
  | confirm writer => exact confirm_sound sound writer
  | release writer fate => exact release_sound sound writer fate
  | pass milliseconds =>
      refine ⟨⟨sound.unopened, fun row is => { sound.counted row is with }, sound.epochs,
        sound.generations, sound.leased, fun staged opened => ?_, fun writer => ?_⟩,
        .of_same rfl rfl⟩
      · obtain ⟨some_, facts⟩ := sound.staged staged opened
        exact ⟨some_, { facts with }⟩
      · exact { sound.knows writer with }

theorem run_sound (sound : system.Sound) (events : List FenceEvent) :
    (system.run events).Sound ∧ system.Follows (system.run events) := by
  induction events generalizing system with
  | nil => exact ⟨sound, .of_same rfl rfl⟩
  | cons event later ih =>
      obtain ⟨stepped, follows⟩ := step_sound sound event
      obtain ⟨ran, after⟩ := ih stepped
      exact ⟨ran, follows.trans after⟩

/-- What holds of every run. A writer has lost the row once a later epoch is stored. -/
structure Fenced (system : FenceSystem) : Prop where
  unopened : system.row = none → system.publications = []
  stored : ∀ row, system.row = some row → row.currentGeneration = system.publications.length
  generations : system.publications.map Publication.generation =
    countedUp system.publications.length
  leased : ∀ publication ∈ system.publications, Leased publication ∧
    (publication.writer, publication.epoch) ∈ system.acquisitions
  epochs : system.acquisitions.map Prod.snd = countedUp system.acquisitions.length
  takenOver : ∀ (later : List FenceEvent) (row : FenceRow), system.row = some row →
    system.publications <+: (system.run later).publications ∧
    ∀ publication ∈ (system.run later).publications.drop system.publications.length,
      row.writerEpoch ≤ publication.epoch
  confirmed : ∀ (writer : Nat) (outcome : CommitOutcome) (message : String),
    system.commitResults writer = some (outcome, message) →
    ((system.writers writer).confirm outcome message).1 = 0 →
    (system.confirm writer).Confirmed writer ((system.confirm writer).writers writer)

theorem run_fenced (clock : Int) (events : List FenceEvent) :
    ((created clock).run events).Fenced := by
  obtain ⟨sound, _⟩ := run_sound (created_sound clock) events
  refine ⟨fun none_ => (sound.unopened none_).2, fun row is => (sound.counted row is).generation,
    sound.generations, sound.leased, sound.epochs, fun later row is => ?_,
    fun writer outcome message waits succeeds => confirm_confirmed sound waits succeeds⟩
  obtain ⟨_, follows⟩ := run_sound sound later
  refine ⟨follows.publications, fun publication member => ?_⟩
  rw [(sound.counted row is).epoch]
  exact follows.newer publication member

/-- The first writer commits and its lease expires before it confirms. The second one has taken
the row and has published in between. -/
def lateConfirm : List FenceEvent :=
  [.acquire 0 "first" "config" 10 (.finished .committed "") (.finished .committed ""),
    .stage 0 none, .commit 0 .committed "", .pass 20,
    .acquire 1 "second" "config" 10 (.finished .committed "") (.finished .committed ""),
    .stage 1 none, .commit 1 .committed "", .confirm 1]

theorem late_confirm_behind :
    let system := (created 0).run lateConfirm
    system.commitResults 0 = some (.committed, "") ∧
      ((system.writers 0).confirm .committed "").1 = 0 ∧
      ((system.confirm 0).writers 0).generation = 1 ∧
      (system.confirm 0).row.map FenceRow.currentGeneration = some 2 := by
  decide +kernel

end FenceSystem

end Flowsql.Baseliner
