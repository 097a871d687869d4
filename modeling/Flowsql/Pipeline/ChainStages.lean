import Mathlib
import Flowsql.Pipeline.TransformChain

/-!
# What the stages of a chain receive

Every stage receives, block by block, what the stage before it emitted. The parts of a call are
described by what they add to what goes into a chain of stages and to what comes out of it.
-/

namespace Flowsql.Pipeline

open Flowsql.Library

/-- The block that an event hands to a stage. -/
def StageEvent.block? : StageEvent → Option Output
  | .processBlock batch tsMs => some { batch := some batch, tsMs := tsMs }
  | .onTime _ | .flush => none

namespace Chain

/-- The outputs of a stage for the last of its events, after the filter. -/
def emits (stage : Stage) (log : List StageEvent) : List Output :=
  (filterStageOutputs stage (stage.respond log).2).toOption.getD []

/-- The stage answered the last of its events with stop. -/
def stops (stage : Stage) (log : List StageEvent) : Bool :=
  match (stage.respond log).1 with
  | .ok rc => decide (rc = kStop)
  | .error _ => false

def fed (link : Link) : Cascade.Fed StageEvent Output where
  emit := emits link.stage
  log := link.log

/-- The first stage received the blocks `inputs`, each of the others the filtered outputs of the one
before it, and those of the last are `outputs`. -/
def Staged (links : List Link) (inputs outputs : List Output) : Prop :=
  Cascade.Feeds StageEvent.block? (links.map fed) inputs outputs

/-- How often the stages returned stop. -/
def stopCount : List Link → Nat
  | [] => 0
  | link :: links =>
      (Cascade.answers (stops link.stage) link.log).count true + stopCount links

theorem staged_nil {inputs outputs : List Output} : Staged [] inputs outputs ↔ inputs = outputs :=
  Iff.rfl

theorem staged_cons {link : Link} {links : List Link} {inputs outputs : List Output} :
    Staged (link :: links) inputs outputs ↔
      link.log.filterMap StageEvent.block? = inputs ∧
        Staged links (Cascade.emitted (emits link.stage) link.log) outputs :=
  Iff.rfl

/-! ## One call of a stage -/

/-- A stage that was called with `event`. -/
def received (link : Link) (event : StageEvent) : Link := { link with log := link.log ++ [event] }

theorem checkAnswer_ok {valid : Int → Bool} {answer : StageAnswer} {rc : Int}
    {outputs : List Output} (checked : checkAnswer valid answer = .ok (rc, outputs)) :
    answer = (.ok rc, outputs) := by
  obtain ⟨result, given⟩ := answer
  cases result with
  | error thrown => simp [checkAnswer] at checked
  | ok code =>
      simp only [checkAnswer] at checked
      split at checked
      · simpa using checked
      · split at checked <;> simp at checked

/-- A call that succeeds hands on what the stage emits. -/
theorem exchange_ok {link : Link} {event : StageEvent} {valid : Int → Bool}
    {recheck : Link → Int → Except Int Unit} {rc : Int} {filtered : List Output}
    (succeeded : (exchange link event valid recheck).2 = .ok (rc, filtered)) :
    filtered = emits link.stage (link.log ++ [event]) ∧
      stops link.stage (link.log ++ [event]) = decide (rc = kStop) := by
  simp only [exchange, bind, Except.bind] at succeeded
  cases checked : checkAnswer valid (link.stage.respond (link.log ++ [event])) with
  | error code => simp [checked] at succeeded
  | ok answer =>
      obtain ⟨code, outputs⟩ := answer
      have answered := checkAnswer_ok checked
      simp only [checked] at succeeded
      split at succeeded
      · simp at succeeded
      · split at succeeded
        · simp at succeeded
        · rename_i kept passed
          simp only [pure, Except.pure, Except.ok.injEq, Prod.mk.injEq] at succeeded
          obtain ⟨rfl, rfl⟩ := succeeded
          simp [emits, stops, answered, passed, Except.toOption]

/-! ## What is added to the logs -/

/-- The link has received some more events, none of which is a flush. -/
def Grows (before after : Link) : Prop :=
  after.stage = before.stage ∧
    ∃ added, after.log = before.log ++ added ∧ .flush ∉ added

/-- The link has received some more events, the last of which is its only flush. -/
def Flushes (before after : Link) : Prop :=
  ∃ grown, Grows before grown ∧ after = received grown .flush

theorem Grows.refl (link : Link) : Grows link link :=
  ⟨rfl, [], by simp, by simp⟩

theorem Grows.trans {first second third : Link} (left : Grows first second)
    (right : Grows second third) : Grows first third := by
  obtain ⟨stage, added, log, unflushed⟩ := left
  obtain ⟨stage', added', log', unflushed'⟩ := right
  refine ⟨stage'.trans stage, added ++ added', by simp [log', log], ?_⟩
  simp [unflushed, unflushed']

theorem grows_received {event : StageEvent} (other : event ≠ .flush) (link : Link) :
    Grows link (received link event) :=
  ⟨rfl, [event], rfl, by simpa using other.symm⟩

theorem growsAll_refl (links : List Link) : List.Forall₂ Grows links links :=
  List.forall₂_same.2 fun link _ => Grows.refl link

theorem growsAll_trans {first second third : List Link} (left : List.Forall₂ Grows first second)
    (right : List.Forall₂ Grows second third) : List.Forall₂ Grows first third := by
  induction left generalizing third with
  | nil => exact right
  | cons grows _ ih =>
      cases right with
      | cons grows' rest => exact .cons (grows.trans grows') (ih rest)

theorem processInputs_grows (link : Link) (inputs : List Output) :
    Grows link (processInputs link inputs).1 := by
  induction inputs generalizing link with
  | nil => exact Grows.refl link
  | cons input inputs ih =>
      unfold processInputs
      split
      · exact Grows.refl link
      · rename_i batch present
        have first : Grows link (received link (.processBlock batch input.tsMs)) :=
          grows_received (by simp) link
        split
        · rename_i later rc failed
          obtain rfl : received link _ = later := congrArg Prod.fst failed
          exact first
        · rename_i later rc filtered succeeded
          obtain rfl : received link _ = later := congrArg Prod.fst succeeded
          have rest := first.trans (ih _)
          split <;> simp_all

theorem propagateFrom_grows (links : List Link) (inputs : List Output) :
    List.Forall₂ Grows links (propagateFrom links inputs).1 := by
  induction links generalizing inputs with
  | nil => exact .nil
  | cons link links ih =>
      have first := processInputs_grows link inputs
      unfold propagateFrom
      split
      · rename_i later rc failed
        rw [failed] at first
        exact .cons first (growsAll_refl links)
      · rename_i later stopped nextInputs succeeded
        rw [succeeded] at first
        have rest := ih nextInputs
        split
        all_goals
          rename_i ran
          rw [ran] at rest
          exact .cons first rest

theorem timeFrom_grows (event : TimeEvent) (left : Nat) (links : List Link) :
    List.Forall₂ Grows links (timeFrom event left links).1 := by
  induction left generalizing links with
  | zero => exact growsAll_refl links
  | succ left ih =>
      cases links with
      | nil => exact .nil
      | cons link links =>
          unfold timeFrom
          split
          · exact growsAll_refl _
          · split
            · have first : Grows link (received link (.onTime event)) :=
                grows_received (by simp) link
              split
              · rename_i later rc failed
                obtain rfl : received link _ = later := congrArg Prod.fst failed
                exact .cons first (growsAll_refl links)
              · rename_i later rc filtered succeeded
                obtain rfl : received link _ = later := congrArg Prod.fst succeeded
                have through := propagateFrom_grows links filtered
                split
                · rename_i ran
                  rw [ran] at through
                  exact .cons first through
                · rename_i downstream stopped propagated ran
                  rw [ran] at through
                  have rest := ih downstream
                  split
                  · exact .cons first through
                  · split
                    all_goals
                      rename_i wasRun
                      rw [wasRun] at rest
                      exact .cons first (growsAll_trans through rest)
            · have rest := ih links
              exact .cons (Grows.refl link) rest

theorem Flushes.after {first second third : Link} (grows : Grows first second)
    (flushes : Flushes second third) : Flushes first third :=
  let ⟨grown, grows', last⟩ := flushes
  ⟨grown, grows.trans grows', last⟩

/-- After a flush, whether it succeeds or not, no stage has received more than the one event. -/
def MayFlush (before after : Link) : Prop := Grows before after ∨ Flushes before after

theorem mayFlush_after {first second third : List Link} (left : List.Forall₂ Grows first second)
    (right : List.Forall₂ MayFlush second third) : List.Forall₂ MayFlush first third := by
  induction left generalizing third with
  | nil => exact right
  | cons grows _ ih =>
      cases right with
      | cons mayFlush rest =>
          exact .cons (mayFlush.imp grows.trans (Flushes.after grows)) (ih rest)

theorem flushes_after {first second third : List Link} (left : List.Forall₂ Grows first second)
    (right : List.Forall₂ Flushes second third) : List.Forall₂ Flushes first third := by
  induction left generalizing third with
  | nil => exact right
  | cons grows _ ih =>
      cases right with
      | cons flushes rest => exact .cons (flushes.after grows) (ih rest)

theorem mayFlush_of_grows {before after : List Link} (grows : List.Forall₂ Grows before after) :
    List.Forall₂ MayFlush before after :=
  grows.imp fun _ _ => .inl

theorem flushFrom_mayFlush (left : Nat) (links : List Link) :
    List.Forall₂ MayFlush links (flushFrom left links).1 := by
  induction left generalizing links with
  | zero => exact mayFlush_of_grows (growsAll_refl links)
  | succ left ih =>
      cases links with
      | nil => exact .nil
      | cons link links =>
          have first : MayFlush link (received link .flush) := .inr ⟨link, Grows.refl link, rfl⟩
          unfold flushFrom
          split
          · rename_i later rc failed
            obtain rfl : received link _ = later := congrArg Prod.fst failed
            exact .cons first (mayFlush_of_grows (growsAll_refl links))
          · rename_i later rc filtered succeeded
            obtain rfl : received link _ = later := congrArg Prod.fst succeeded
            have through := propagateFrom_grows links filtered
            split
            · rename_i ran
              rw [ran] at through
              exact .cons first (mayFlush_of_grows through)
            · rename_i downstream stopped propagated ran
              rw [ran] at through
              have rest := ih downstream
              split
              all_goals
                rename_i wasRun
                rw [wasRun] at rest
                exact .cons first (mayFlush_after through rest)

/-- A flush that succeeds reaches every stage. -/
theorem flushFrom_flushes {left : Nat} {links after : List Link} {outputs : List Output}
    (succeeded : flushFrom left links = (after, .ok outputs)) (all : links.length = left) :
    List.Forall₂ Flushes links after := by
  induction left generalizing links after outputs with
  | zero =>
      obtain rfl := List.length_eq_zero_iff.1 all
      simp only [flushFrom, Prod.mk.injEq] at succeeded
      exact succeeded.1 ▸ .nil
  | succ left ih =>
      cases links with
      | nil => simp at all
      | cons link links =>
          unfold flushFrom at succeeded
          split at succeeded
          · simp at succeeded
          · rename_i later rc filtered answered
            obtain rfl : received link _ = later := congrArg Prod.fst answered
            have through := propagateFrom_grows links filtered
            split at succeeded
            · simp at succeeded
            · rename_i downstream stopped propagated ran
              rw [ran] at through
              split at succeeded
              · simp at succeeded
              · rename_i last more wasRun
                have rest := ih wasRun (through.length_eq.symm.trans (by simpa using all))
                simp only [Prod.mk.injEq] at succeeded
                obtain ⟨rfl, -⟩ := succeeded
                exact .cons ⟨link, Grows.refl link, rfl⟩ (flushes_after through rest)

/-! ## What goes in and what comes out -/

/-- A part of a call in which no stage failed: the blocks `inputs` went in, `outputs` came out, and
`stopped` tells whether a stage returned stop. -/
structure Carries (before after : List Link) (inputs outputs : List Output) (stopped : Bool) :
    Prop where
  staged : ∀ sofar produced, Staged before sofar produced →
    Staged after (sofar ++ inputs) (produced ++ outputs)
  counted : stopCount before ≤ stopCount after
  stops : stopped = true ↔ stopCount before < stopCount after

theorem Carries.refl (links : List Link) : Carries links links [] [] false where
  staged sofar produced staged := by simpa using staged
  counted := Nat.le_refl _
  stops := by simp

/-- What one stage received and emitted, and whether it returned stop. -/
structure Turns (before after : Link) (inputs outputs : List Output) (stopped : Bool) : Prop where
  received : after.log.filterMap StageEvent.block? =
    before.log.filterMap StageEvent.block? ++ inputs
  emitted : Cascade.emitted (emits after.stage) after.log =
    Cascade.emitted (emits before.stage) before.log ++ outputs
  counted : stopCount [before] ≤ stopCount [after]
  stops : stopped = true ↔ stopCount [before] < stopCount [after]

theorem Turns.trans {first second third : Link} {inputs inputs' outputs outputs' : List Output}
    {stopped stopped' : Bool} (left : Turns first second inputs outputs stopped)
    (right : Turns second third inputs' outputs' stopped') :
    Turns first third (inputs ++ inputs') (outputs ++ outputs') (stopped || stopped') where
  received := by rw [right.received, left.received, List.append_assoc]
  emitted := by rw [right.emitted, left.emitted, List.append_assoc]
  counted := Nat.le_trans left.counted right.counted
  stops := by
    have := left.counted
    have := right.counted
    simp only [Bool.or_eq_true, left.stops, right.stops]
    omega

/-- What a stage emits goes into the stages after it. -/
theorem Turns.before {link link' : Link} {links links' : List Link}
    {inputs emitted outputs : List Output} {stopped stopped' : Bool}
    (turns : Turns link link' inputs emitted stopped)
    (carries : Carries links links' emitted outputs stopped') :
    Carries (link :: links) (link' :: links') inputs outputs (stopped || stopped') where
  staged sofar produced staged := by
    rw [staged_cons] at staged ⊢
    refine ⟨by rw [turns.received, staged.1], ?_⟩
    rw [turns.emitted]
    exact carries.staged _ _ staged.2
  counted := by
    have := turns.counted
    have := carries.counted
    simp only [stopCount] at *
    omega
  stops := by
    have := turns.counted
    have := carries.counted
    simp only [Bool.or_eq_true, turns.stops, carries.stops, stopCount] at *
    omega

theorem Carries.trans {first second third : List Link}
    {inputs inputs' outputs outputs' : List Output} {stopped stopped' : Bool}
    (left : Carries first second inputs outputs stopped)
    (right : Carries second third inputs' outputs' stopped') :
    Carries first third (inputs ++ inputs') (outputs ++ outputs') (stopped || stopped') where
  staged sofar produced staged := by
    rw [← List.append_assoc, ← List.append_assoc]
    exact right.staged _ _ (left.staged _ _ staged)
  counted := Nat.le_trans left.counted right.counted
  stops := by
    have := left.counted
    have := right.counted
    simp only [Bool.or_eq_true, left.stops, right.stops]
    omega

theorem exchange_turns {link later : Link} {event : StageEvent} {valid : Int → Bool}
    {recheck : Link → Int → Except Int Unit} {rc : Int} {filtered : List Output}
    (succeeded : exchange link event valid recheck = (later, .ok (rc, filtered))) :
    Turns link later event.block?.toList filtered (decide (rc = kStop)) := by
  obtain rfl : received link event = later := congrArg Prod.fst succeeded
  obtain ⟨emits, stops⟩ := exchange_ok (congrArg Prod.snd succeeded)
  constructor
  · cases event <;> simp [received, StageEvent.block?]
  · simp [received, emits]
  · simp [received, stopCount, stops]
  · by_cases stopped : rc = kStop <;> simp [received, stopCount, stops, stopped]

theorem processInputs_turns {link later : Link} {inputs outputs : List Output} {stopped : Bool}
    (succeeded : processInputs link inputs = (later, .ok (stopped, outputs))) :
    Turns link later inputs outputs stopped := by
  induction inputs generalizing link outputs stopped with
  | nil =>
      simp only [processInputs, Prod.mk.injEq, Except.ok.injEq] at succeeded
      obtain ⟨rfl, rfl, rfl⟩ := succeeded
      constructor <;> simp
  | cons input inputs ih =>
      unfold processInputs at succeeded
      split at succeeded
      · simp at succeeded
      · rename_i batch present
        split at succeeded
        · simp at succeeded
        · rename_i reached rc filtered answered
          have first := exchange_turns answered
          split at succeeded
          · simp at succeeded
          · rename_i last later rest ran
            simp only [Prod.mk.injEq, Except.ok.injEq] at succeeded
            obtain ⟨rfl, rfl, rfl⟩ := succeeded
            have handed : { batch := some batch, tsMs := input.tsMs : Output } = input := by
              rw [← present]
            simpa [StageEvent.block?, handed] using first.trans (ih ran)

theorem propagateFrom_carries {links later : List Link} {inputs outputs : List Output}
    {stopped : Bool} (succeeded : propagateFrom links inputs = (later, .ok (stopped, outputs))) :
    Carries links later inputs outputs stopped := by
  induction links generalizing later inputs outputs stopped with
  | nil =>
      simp only [propagateFrom, Prod.mk.injEq, Except.ok.injEq] at succeeded
      obtain ⟨rfl, rfl, rfl⟩ := succeeded
      constructor
      · intro sofar produced staged
        rw [staged_nil] at staged ⊢
        rw [staged]
      · exact Nat.le_refl _
      · simp
  | cons link links ih =>
      unfold propagateFrom at succeeded
      split at succeeded
      · simp at succeeded
      · rename_i processed stoppedHere nextInputs ran
        split at succeeded
        · simp at succeeded
        · rename_i downstream stoppedLater reached wasRun
          simp only [Prod.mk.injEq, Except.ok.injEq] at succeeded
          obtain ⟨rfl, rfl, rfl⟩ := succeeded
          exact (processInputs_turns ran).before (ih wasRun)

theorem flushFrom_carries {left : Nat} {links later : List Link} {outputs : List Output}
    (succeeded : flushFrom left links = (later, .ok outputs)) :
    ∃ stopped, Carries links later [] outputs stopped := by
  induction left generalizing links later outputs with
  | zero =>
      simp only [flushFrom, Prod.mk.injEq, Except.ok.injEq] at succeeded
      obtain ⟨rfl, rfl⟩ := succeeded
      exact ⟨false, Carries.refl links⟩
  | succ left ih =>
      cases links with
      | nil =>
          simp only [flushFrom, Prod.mk.injEq, Except.ok.injEq] at succeeded
          obtain ⟨rfl, rfl⟩ := succeeded
          exact ⟨false, Carries.refl []⟩
      | cons link links =>
          unfold flushFrom at succeeded
          split at succeeded
          · simp at succeeded
          · rename_i flushedLink rc filtered answered
            split at succeeded
            · simp at succeeded
            · rename_i downstream stopped propagated ran
              split at succeeded
              · simp at succeeded
              · rename_i last more wasRun
                simp only [Prod.mk.injEq, Except.ok.injEq] at succeeded
                obtain ⟨rfl, rfl⟩ := succeeded
                obtain ⟨stopped', rest⟩ := ih wasRun
                have through := (propagateFrom_carries ran).trans rest
                rw [List.append_nil] at through
                exact ⟨_, (exchange_turns answered).before through⟩

theorem timeFrom_carries {event : TimeEvent} {left : Nat} {links later : List Link}
    {outputs : List Output} {stopped : Bool}
    (succeeded : timeFrom event left links = (later, .ok (stopped, outputs))) :
    Carries links later [] outputs stopped := by
  induction left generalizing links later outputs stopped with
  | zero =>
      simp only [timeFrom, Prod.mk.injEq, Except.ok.injEq] at succeeded
      obtain ⟨rfl, rfl, rfl⟩ := succeeded
      exact Carries.refl links
  | succ left ih =>
      cases links with
      | nil =>
          simp only [timeFrom, Prod.mk.injEq, Except.ok.injEq] at succeeded
          obtain ⟨rfl, rfl, rfl⟩ := succeeded
          exact Carries.refl []
      | cons link links =>
          unfold timeFrom at succeeded
          split at succeeded
          · simp at succeeded
          · split at succeeded
            · split at succeeded
              · simp at succeeded
              · rename_i timedLink rc filtered answered
                have first := exchange_turns answered
                split at succeeded
                · simp at succeeded
                · rename_i downstream downstreamStopped propagated ran
                  have through := propagateFrom_carries ran
                  split at succeeded
                  · rename_i halts
                    simp only [Prod.mk.injEq, Except.ok.injEq] at succeeded
                    obtain ⟨rfl, rfl, rfl⟩ := succeeded
                    have halts : (decide (rc = kStop) || downstreamStopped) = true := by
                      simpa using halts
                    exact halts ▸ first.before through
                  · rename_i goesOn
                    simp only [not_or, Bool.not_eq_true] at goesOn
                    split at succeeded
                    · simp at succeeded
                    · rename_i last stoppedLater more wasRun
                      simp only [Prod.mk.injEq, Except.ok.injEq] at succeeded
                      obtain ⟨rfl, rfl, rfl⟩ := succeeded
                      have through := through.trans (ih wasRun)
                      rw [List.append_nil] at through
                      simpa [goesOn, StageEvent.block?] using first.before through
            · cases ran : timeFrom event left links with
              | mk rest result =>
                  simp only [ran, Prod.mk.injEq] at succeeded
                  obtain ⟨rfl, rfl⟩ := succeeded
                  have idle : Turns link link [] [] false := by constructor <;> simp
                  exact idle.before (ih ran)

end Chain

end Flowsql.Pipeline
