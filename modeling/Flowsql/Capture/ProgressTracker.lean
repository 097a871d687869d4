import Mathlib

/-!
# The progress of several capture inputs

A tracker follows the facts of one input. The tracker of all inputs takes the facts of a call together or not at
all, and offers a common progress while every input is safe.
-/

namespace Flowsql.Capture.Progress

inductive TrackerError where
  | none
  | invalidVersion
  | wrongQueue
  | invalidSequence
  | invalidTime
  | unprocessedPacket
  | invalidFact
  | invalidBacklog
  deriving DecidableEq

inductive Disposition where
  | advanced
  | unchanged
  | backlogUnknown
  | backlogged
  | idleUnconfirmed
  | timeRegressed
  deriving DecidableEq

inductive Backlog where
  | unknown
  | empty
  | present
  /-- Any other value of the enumeration's type. -/
  | invalid (code : UInt8)
  deriving DecidableEq

/-- `CaptureProgressV1`. -/
structure Fact where
  structSize : Nat
  contractVersion : Nat
  sourceId : Nat
  queueId : Nat
  generation : Nat
  factSequence : Nat
  captureTimeNs : Int
  packetObserved : Bool
  sourceIdleConfirmed : Bool
  backlog : Backlog

/-- What identifies an input in its description. -/
structure Identity where
  sourceId : Nat
  queueId : Nat
  generation : Nat

structure TrackerResult where
  error : TrackerError := .none
  disposition : Disposition := .unchanged
  captureProgressNs : Option Int
  deriving DecidableEq

/-- `CaptureProgressTrackerV1`. -/
structure InputTracker where
  identity : Identity
  lastSequence : Nat := 0
  lastSeenTimeNs : Option Int := none
  captureProgressNs : Option Int := none

def factSize : Nat := 48

def contractVersion : Nat := 1

namespace InputTracker

/-- The checks of `Observe`. -/
def verdict (tracker : InputTracker) (fact : Fact) (processedPacketMaxTimeNs : Option Int) : TrackerError :=
  if fact.structSize < factSize ∨ fact.contractVersion ≠ contractVersion then .invalidVersion
  else if fact.sourceId ≠ tracker.identity.sourceId ∨ fact.queueId ≠ tracker.identity.queueId ∨
      fact.generation ≠ tracker.identity.generation then .wrongQueue
  else if fact.factSequence = 0 ∨ fact.factSequence ≤ tracker.lastSequence then .invalidSequence
  else if fact.captureTimeNs < 0 then .invalidTime
  else if fact.backlog ≠ .unknown ∧ fact.backlog ≠ .empty ∧ fact.backlog ≠ .present then .invalidBacklog
  else if fact.packetObserved ≠ processedPacketMaxTimeNs.isSome ∨
      processedPacketMaxTimeNs.any (· < fact.captureTimeNs) then .unprocessedPacket
  else if fact.packetObserved ∧ fact.sourceIdleConfirmed then .invalidFact
  else .none

/-- `Observe` of a fact that passed the checks. -/
def accept (tracker : InputTracker) (fact : Fact) : TrackerResult × InputTracker :=
  let result : TrackerResult := { captureProgressNs := tracker.captureProgressNs }
  let tracker := { tracker with lastSequence := fact.factSequence }
  if tracker.lastSeenTimeNs.any (fact.captureTimeNs < ·) then ({ result with disposition := .timeRegressed }, tracker)
  else
    let tracker := { tracker with lastSeenTimeNs := some fact.captureTimeNs }
    if fact.backlog = .unknown then ({ result with disposition := .backlogUnknown }, tracker)
    else if fact.backlog = .present then ({ result with disposition := .backlogged }, tracker)
    else if !fact.packetObserved && !fact.sourceIdleConfirmed then
      ({ result with disposition := .idleUnconfirmed }, tracker)
    else if tracker.captureProgressNs.all (· < fact.captureTimeNs) then
      ({ disposition := .advanced, captureProgressNs := some fact.captureTimeNs },
        { tracker with captureProgressNs := some fact.captureTimeNs })
    else (result, tracker)

/-- `Observe`. -/
def observe (tracker : InputTracker) (fact : Fact) (processedPacketMaxTimeNs : Option Int) :
    TrackerResult × InputTracker :=
  match tracker.verdict fact processedPacketMaxTimeNs with
  | .none => tracker.accept fact
  | error => ({ error := error, captureProgressNs := tracker.captureProgressNs }, tracker)

end InputTracker

structure Input where
  tracker : InputTracker
  safe : Bool := false

/-- `CaptureProgressTrackerV2`: the inputs in the order of their sources. -/
abbrev Tracker := List (Nat × Input)

namespace Tracker

def emplace (identity : Identity) : Tracker → Tracker
  | [] => [(identity.sourceId, { tracker := { identity } })]
  | entry :: rest =>
      if identity.sourceId < entry.1 then (identity.sourceId, { tracker := { identity } }) :: entry :: rest
      else if identity.sourceId = entry.1 then entry :: rest
      else entry :: emplace identity rest

/-- The constructor. -/
def make (inputs : List Identity) : Tracker :=
  inputs.foldl (fun tracker identity => emplace identity tracker) []

def put (source : Nat) (input : Input) (tracker : Tracker) : Tracker :=
  tracker.map fun entry => if entry.1 = source then (source, input) else entry

/-- The loop of `Observe` on the staged copy. -/
def observeFrom (seen : List Nat) : List Fact → Tracker → TrackerError × Tracker
  | [], next => (.none, next)
  | fact :: facts, next =>
      match next.lookup fact.sourceId with
      | none => (.wrongQueue, next)
      | some input =>
          if fact.sourceId ∈ seen then (.wrongQueue, next)
          else
            let result := input.tracker.observe fact (if fact.packetObserved then some fact.captureTimeNs else none)
            if result.1.error ≠ .none then (result.1.error, next)
            else
              observeFrom (fact.sourceId :: seen) facts (put fact.sourceId
                { tracker := result.2
                  safe := decide (fact.backlog = .empty) && (fact.packetObserved || fact.sourceIdleConfirmed) &&
                    decide (result.1.disposition ≠ .timeRegressed) } next)

def observe (facts : List Fact) (tracker : Tracker) : TrackerError × Tracker :=
  let staged := observeFrom [] facts tracker
  if staged.1 = .none then staged else (staged.1, tracker)

def candidateFrom : Option Int → Tracker → Option Int
  | candidate, [] => candidate
  | candidate, entry :: rest =>
      match entry.2.tracker.captureProgressNs with
      | none => none
      | some progress =>
          if !entry.2.safe then none else candidateFrom (some (candidate.elim progress (min · progress))) rest

def commonCandidateNs (tracker : Tracker) : Option Int :=
  candidateFrom none tracker

def blockedInputs (tracker : Tracker) : List Nat :=
  (tracker.filter fun entry => !entry.2.safe || entry.2.tracker.captureProgressNs.isNone).map (·.1)

end Tracker

/-! ## Runs -/

/-- The tracker with the facts of the calls that returned no error, which the code does not keep. -/
abbrev History := Tracker × List Fact

def call (history : History) (facts : List Fact) : History :=
  if (history.1.observe facts).1 = .none then ((history.1.observe facts).2, history.2 ++ facts)
  else ((history.1.observe facts).2, history.2)

def run (sources : List Identity) (calls : List (List Fact)) : History :=
  calls.foldl call (Tracker.make sources, [])

/-- The capture times of the accepted facts of an input. -/
def timesOf (source : Nat) (accepted : List Fact) : List Int :=
  (accepted.filter fun fact => fact.sourceId = source).map Fact.captureTimeNs

/-! ## One input -/

/-- What the state of an input says of its accepted times. -/
structure Faithful (times : List Int) (input : Input) : Prop where
  unseen : input.tracker.lastSeenTimeNs = none → times = []
  seen : ∀ time, input.tracker.lastSeenTimeNs = some time → IsGreatest {time | time ∈ times} time
  reached : ∀ progress, input.tracker.captureProgressNs = some progress →
    ∃ time, input.tracker.lastSeenTimeNs = some time ∧ progress ≤ time
  safe : input.safe = true → ∃ progress, input.tracker.captureProgressNs = some progress ∧
    input.tracker.lastSeenTimeNs = some progress ∧ times.getLast? = some progress

theorem Faithful.fresh (identity : Identity) : Faithful [] { tracker := { identity } } where
  unseen _ := rfl
  seen _ wrong := nomatch wrong
  reached _ wrong := nomatch wrong
  safe wrong := nomatch wrong

theorem isGreatest_concat {times : List Int} {last : Int} (most : ∀ time ∈ times, time ≤ last) :
    IsGreatest {time | time ∈ times ++ [last]} last := by
  refine ⟨List.mem_append_right _ (List.mem_singleton_self _), fun time mem => ?_⟩
  rcases List.mem_append.mp mem with old | new
  · exact most time old
  · exact le_of_eq (List.mem_singleton.mp new)

/-- A fact that passed the checks. -/
theorem Faithful.accept {times : List Int} {input : Input} (faithful : Faithful times input) (fact : Fact) :
    Faithful (times ++ [fact.captureTimeNs])
      { tracker := (input.tracker.accept fact).2
        safe := decide (fact.backlog = .empty) && (fact.packetObserved || fact.sourceIdleConfirmed) &&
          decide ((input.tracker.accept fact).1.disposition ≠ .timeRegressed) } := by
  unfold InputTracker.accept
  dsimp only
  split
  · rename_i regressed
    obtain ⟨time, found, less⟩ := (Option.any_eq_true _ _).mp regressed
    have greatest := faithful.seen time found
    refine ⟨fun none_ => ?_, fun time_ same => ?_, faithful.reached, fun wrong => ?_⟩
    · exact absurd (none_.symm.trans found) (by simp)
    · cases found.symm.trans same
      refine ⟨List.mem_append_left _ greatest.1, fun other mem => ?_⟩
      rcases List.mem_append.mp mem with old | new
      · exact greatest.2 old
      · rw [List.mem_singleton.mp new]
        exact le_of_lt (of_decide_eq_true less)
    · simp at wrong
  rename_i current
  have least (time : Int) (found : input.tracker.lastSeenTimeNs = some time) : time ≤ fact.captureTimeNs := by
    simpa [found] using current
  have bounded (progress : Int) (found : input.tracker.captureProgressNs = some progress) :
      progress ≤ fact.captureTimeNs := by
    obtain ⟨time, seen, before⟩ := faithful.reached progress found
    exact le_trans before (least time seen)
  have most : ∀ time ∈ times, time ≤ fact.captureTimeNs := by
    intro time mem
    cases seen : input.tracker.lastSeenTimeNs with
    | none =>
        rw [faithful.unseen seen] at mem
        cases mem
    | some latest => exact le_trans ((faithful.seen latest seen).2 mem) (least latest seen)
  -- The fact is the latest and the greatest, so that the progress can only have reached it.
  have settled (next : Input) (seen : next.tracker.lastSeenTimeNs = some fact.captureTimeNs)
      (bounded : ∀ progress, next.tracker.captureProgressNs = some progress → progress ≤ fact.captureTimeNs)
      (safe : next.safe = true → next.tracker.captureProgressNs = some fact.captureTimeNs) :
      Faithful (times ++ [fact.captureTimeNs]) next := by
    refine ⟨fun none_ => ?_, fun time same => ?_, fun progress found => ⟨_, seen, bounded progress found⟩,
      fun holds => ⟨_, safe holds, seen, List.getLast?_concat⟩⟩
    · rw [seen] at none_
      cases none_
    · cases seen.symm.trans same
      exact isGreatest_concat most
  split
  · rename_i unknown
    exact settled _ rfl bounded fun wrong => by simp [unknown] at wrong
  split
  · rename_i present
    exact settled _ rfl bounded fun wrong => by simp [present] at wrong
  split
  · rename_i idle
    refine settled _ rfl bounded fun wrong => ?_
    simp only [Bool.and_eq_true, Bool.not_eq_true'] at idle
    simp [idle] at wrong
  split
  · exact settled _ rfl (fun _ same => le_of_eq (Option.some.inj same).symm) fun _ => rfl
  · rename_i reached
    refine settled _ rfl bounded fun _ => ?_
    dsimp only at reached ⊢
    cases found : input.tracker.captureProgressNs with
    | none => simp [found] at reached
    | some progress =>
        have before := bounded progress found
        rw [found, Option.all_some, decide_eq_true_eq, not_lt] at reached
        rw [le_antisymm before reached]

/-! ## All inputs -/

namespace Tracker

/-- The state of every input is faithful to the accepted facts. -/
def Sound (tracker : Tracker) (accepted : List Fact) : Prop :=
  ∀ entry ∈ tracker, Faithful (timesOf entry.1 accepted) entry.2

theorem mem_of_lookup {tracker : Tracker} {source : Nat} {input : Input} (found : tracker.lookup source = some input) :
    (source, input) ∈ tracker := by
  induction tracker with
  | nil => cases found
  | cons entry rest ih =>
      obtain ⟨key, value⟩ := entry
      rw [List.lookup_cons] at found
      split at found
      · rename_i same
        cases found
        rw [beq_iff_eq.mp same]
        exact List.mem_cons_self
      · exact List.mem_cons_of_mem _ (ih found)

theorem keys_put (source : Nat) (input : Input) (tracker : Tracker) :
    (put source input tracker).map (·.1) = tracker.map (·.1) := by
  rw [put, List.map_map]
  refine List.map_congr_left fun entry _ => ?_
  dsimp only [Function.comp]
  split
  · exact ‹entry.1 = source›.symm
  · rfl

theorem Sound.put {tracker : Tracker} {accepted : List Fact} (sound : Sound tracker accepted) {fact : Fact}
    {input : Input} (faithful : Faithful (timesOf fact.sourceId accepted ++ [fact.captureTimeNs]) input) :
    Sound (tracker.put fact.sourceId input) (accepted ++ [fact]) := by
  intro entry mem
  obtain ⟨before, present, rfl⟩ := List.mem_map.mp mem
  split
  · simpa [timesOf] using faithful
  · rename_i other
    have faithful_ := sound before present
    rwa [timesOf, List.filter_append, List.filter_cons_of_neg (by simpa using Ne.symm other), List.filter_nil,
      List.append_nil]

theorem observe_accepts {tracker : InputTracker} {fact : Fact} {processed : Option Int}
    (none_ : (tracker.observe fact processed).1.error = .none) : tracker.observe fact processed = tracker.accept fact := by
  unfold InputTracker.observe at none_ ⊢
  split
  · rfl
  · rename_i wrong
    split at none_
    · rename_i right
      exact absurd right wrong
    · exact absurd none_ wrong

theorem observeFrom_sound (facts : List Fact) {seen : List Nat} {next : Tracker} {accepted : List Fact}
    (sound : Sound next accepted) (none_ : (observeFrom seen facts next).1 = .none) :
    Sound (observeFrom seen facts next).2 (accepted ++ facts) ∧
      (observeFrom seen facts next).2.map (·.1) = next.map (·.1) := by
  induction facts generalizing seen next accepted with
  | nil => exact ⟨by rwa [List.append_nil], rfl⟩
  | cons fact facts ih =>
      unfold observeFrom at none_ ⊢
      split
      · rename_i absent
        rw [absent] at none_
        cases none_
      · rename_i input found
        rw [found] at none_
        dsimp only at none_ ⊢
        split
        · rename_i twice
          rw [if_pos twice] at none_
          cases none_
        · rename_i once
          rw [if_neg once] at none_
          generalize (if fact.packetObserved = true then some fact.captureTimeNs else none) = processed at none_ ⊢
          split
          · rename_i wrong
            rw [if_pos wrong] at none_
            exact absurd none_ wrong
          · rename_i right
            rw [if_neg right] at none_
            have accepts := observe_accepts (not_not.mp right)
            rw [accepts] at none_ ⊢
            have faithful := (sound _ (mem_of_lookup found)).accept fact
            obtain ⟨sound_, keys⟩ := ih (sound.put faithful) none_
            rw [List.append_assoc, List.singleton_append] at sound_
            exact ⟨sound_, keys.trans (keys_put _ _ _)⟩

theorem mem_emplace {identity : Identity} {tracker : Tracker} {entry : Nat × Input}
    (mem : entry ∈ emplace identity tracker) :
    entry = (identity.sourceId, { tracker := { identity } }) ∨ entry ∈ tracker := by
  induction tracker with
  | nil => exact .inl (List.mem_singleton.mp mem)
  | cons first rest ih =>
      unfold emplace at mem
      split at mem
      · exact List.mem_cons.mp mem
      split at mem
      · exact .inr mem
      · rcases List.mem_cons.mp mem with rfl | mem
        · exact .inr List.mem_cons_self
        · exact (ih mem).imp_right (List.mem_cons_of_mem _)

theorem key_emplace (identity : Identity) (tracker : Tracker) (source : Nat) :
    source ∈ (emplace identity tracker).map (·.1) ↔ source = identity.sourceId ∨ source ∈ tracker.map (·.1) := by
  induction tracker with
  | nil => simp [emplace]
  | cons first rest ih =>
      unfold emplace
      split
      · simp
      split
      · simp only [List.map_cons, List.mem_cons]
        grind
      · simp only [List.map_cons, List.mem_cons] at ih ⊢
        rw [ih]
        tauto

/-- A new tracker has the described inputs, none of which has seen anything. -/
theorem make_sound (inputs : List Identity) :
    Sound (make inputs) [] ∧
      ∀ source, source ∈ (make inputs).map (·.1) ↔ source ∈ inputs.map Identity.sourceId := by
  have general (inputs : List Identity) (tracker : Tracker) (sound : Sound tracker []) :
      Sound (inputs.foldl (fun tracker identity => emplace identity tracker) tracker) [] ∧
        ∀ source, source ∈ (inputs.foldl (fun tracker identity => emplace identity tracker) tracker).map (·.1) ↔
          source ∈ inputs.map Identity.sourceId ∨ source ∈ tracker.map (·.1) := by
    induction inputs generalizing tracker with
    | nil => exact ⟨sound, fun _ => by simp⟩
    | cons identity rest ih =>
        obtain ⟨later, keys⟩ := ih (emplace identity tracker) fun entry mem => by
          rcases mem_emplace mem with rfl | old
          · exact .fresh identity
          · exact sound entry old
        refine ⟨later, fun source => ?_⟩
        rw [List.foldl_cons, keys, key_emplace, List.map_cons, List.mem_cons]
        tauto
  obtain ⟨sound, keys⟩ := general inputs [] fun _ wrong => nomatch wrong
  exact ⟨sound, fun source => by rw [make, keys]; simp⟩

/-! ## The common candidate -/

theorem candidateFrom_eq_none {start : Option Int} {tracker : Tracker} :
    candidateFrom start tracker = none ↔ blockedInputs tracker ≠ [] ∨ (start = none ∧ tracker = []) := by
  induction tracker generalizing start with
  | nil => simp [candidateFrom, blockedInputs]
  | cons entry rest ih =>
      unfold candidateFrom
      unfold blockedInputs at ih ⊢
      cases progress : entry.2.tracker.captureProgressNs with
      | none => simp [progress]
      | some value =>
          cases safe : entry.2.safe with
          | false => simp [safe]
          | true => simp [safe, progress, ih]

theorem candidateFrom_eq_some {start : Option Int} {tracker : Tracker} {candidate : Int}
    (found : candidateFrom start tracker = some candidate) :
    (∀ entry ∈ tracker, entry.2.safe = true ∧
      ∃ progress, entry.2.tracker.captureProgressNs = some progress ∧ candidate ≤ progress) ∧
    (∀ first, start = some first → candidate ≤ first) ∧
    (start = some candidate ∨ ∃ entry ∈ tracker, entry.2.tracker.captureProgressNs = some candidate) := by
  induction tracker generalizing start with
  | nil =>
      rw [candidateFrom] at found
      exact ⟨(fun _ wrong => nomatch wrong), fun first same => le_of_eq (Option.some.inj (found.symm.trans same)),
        .inl found⟩
  | cons entry rest ih =>
      unfold candidateFrom at found
      split at found
      · cases found
      · rename_i progress reached
        split at found
        · cases found
        · rename_i safe
          obtain ⟨all, least, attained⟩ := ih found
          have below := least _ rfl
          refine ⟨fun other mem => ?_, fun first same => ?_, ?_⟩
          · rcases List.mem_cons.mp mem with rfl | mem
            · refine ⟨by simpa using safe, progress, reached, ?_⟩
              cases start with
              | none => exact below
              | some first => exact le_trans below (min_le_right _ _)
            · exact all other mem
          · subst same
            exact le_trans below (min_le_left _ _)
          · rcases attained with same | ⟨other, mem, same⟩
            · cases start with
              | none => exact .inr ⟨entry, List.mem_cons_self, reached.trans same⟩
              | some first =>
                  rcases min_choice first progress with left | right
                  · exact .inl (left ▸ same)
                  · exact .inr ⟨entry, List.mem_cons_self, reached.trans (right ▸ same)⟩
            · exact .inr ⟨other, List.mem_cons_of_mem _ mem, same⟩

theorem observe_unchanged {facts : List Fact} {tracker : Tracker} (wrong : (observe facts tracker).1 ≠ .none) :
    (observe facts tracker).2 = tracker := by
  unfold observe at wrong ⊢
  dsimp only at wrong ⊢
  split
  · rename_i right
    rw [if_pos right] at wrong
    exact absurd right wrong
  · rfl

end Tracker

/-- Any number of calls. -/
theorem run_sound (sources : List Identity) (calls : List (List Fact)) :
    (run sources calls).1.Sound (run sources calls).2 ∧
      ∀ source, source ∈ (run sources calls).1.map (·.1) ↔ source ∈ sources.map Identity.sourceId := by
  have general (history : History) (sound : history.1.Sound history.2) :
      (calls.foldl call history).1.Sound (calls.foldl call history).2 ∧
        (calls.foldl call history).1.map (·.1) = history.1.map (·.1) := by
    induction calls generalizing history with
    | nil => exact ⟨sound, rfl⟩
    | cons facts calls ih =>
        have step : (call history facts).1.Sound (call history facts).2 ∧
            (call history facts).1.map (·.1) = history.1.map (·.1) := by
          unfold call
          split
          · rename_i right
            unfold Tracker.observe at right ⊢
            dsimp only at right ⊢
            split at right
            · rename_i none_
              rw [if_pos none_]
              exact Tracker.observeFrom_sound facts sound none_
            · rename_i wrong
              exact absurd right wrong
          · rename_i wrong
            rw [Tracker.observe_unchanged wrong]
            exact ⟨sound, rfl⟩
        obtain ⟨later, keys⟩ := ih _ step.1
        exact ⟨later, keys.trans step.2⟩
  obtain ⟨sound, keys⟩ := general (Tracker.make sources, []) (Tracker.make_sound sources).1
  exact ⟨sound, fun source => by rw [run, keys]; exact (Tracker.make_sound sources).2 source⟩

/-- After any calls, on any sources: the common candidate is the least of the greatest accepted times of all
inputs, it is not behind the latest of any of them, and it is missing exactly when an input is blocked. A call
with an error changes nothing. -/
theorem candidate_of_run (sources : List Identity) (described : sources ≠ []) (calls : List (List Fact)) :
    let history := run sources calls
    (history.1.commonCandidateNs = none ↔ history.1.blockedInputs ≠ []) ∧
    (∀ candidate, history.1.commonCandidateNs = some candidate →
      (∀ source ∈ sources.map Identity.sourceId, ∃ greatest,
        IsGreatest {time | time ∈ timesOf source history.2} greatest ∧ candidate ≤ greatest ∧
          (timesOf source history.2).getLast? = some greatest) ∧
      ∃ source ∈ sources.map Identity.sourceId, IsGreatest {time | time ∈ timesOf source history.2} candidate) ∧
    ∀ facts, (history.1.observe facts).1 ≠ .none → (history.1.observe facts).2 = history.1 := by
  intro history
  obtain ⟨sound, keys⟩ := run_sound sources calls
  refine ⟨?_, fun candidate found => ?_, fun facts => Tracker.observe_unchanged⟩
  · have some_ : history.1 ≠ [] := by
      intro none_
      obtain ⟨identity, rest, rfl⟩ := List.exists_cons_of_ne_nil described
      have key := (keys identity.sourceId).mpr List.mem_cons_self
      rw [show (run (identity :: rest) calls).1 = [] from none_] at key
      cases key
    rw [Tracker.commonCandidateNs, Tracker.candidateFrom_eq_none]
    exact or_iff_left fun both => some_ both.2
  · obtain ⟨all, -, attained⟩ := Tracker.candidateFrom_eq_some found
    constructor
    · intro source mem
      obtain ⟨entry, present, rfl⟩ := List.mem_map.mp ((keys source).mpr mem)
      obtain ⟨safe, progress, reached, least⟩ := all entry present
      obtain ⟨time, same, seen, last⟩ := (sound entry present).safe safe
      cases reached.symm.trans same
      exact ⟨progress, (sound entry present).seen progress seen, least, last⟩
    · rcases attained with wrong | ⟨entry, present, reached⟩
      · cases wrong
      · obtain ⟨time, same, seen, -⟩ := (sound entry present).safe (all entry present).1
        cases reached.symm.trans same
        exact ⟨entry.1, (keys entry.1).mp (List.mem_map_of_mem present), (sound entry present).seen _ seen⟩

def packetFact (source time : Nat) : Fact where
  structSize := factSize
  contractVersion := contractVersion
  sourceId := source
  queueId := 0
  generation := 7
  factSequence := 1
  captureTimeNs := time
  packetObserved := true
  sourceIdleConfirmed := false
  backlog := .empty

/-- Two inputs have been seen at different times. -/
theorem candidate_of_two :
    let history := run [⟨1, 0, 7⟩, ⟨2, 0, 7⟩] [[packetFact 1 20, packetFact 2 10]]
    history.1.commonCandidateNs = some 10 ∧
      (history.1.commonCandidateNs = none ↔ history.1.blockedInputs ≠ []) :=
  ⟨by decide +kernel, (candidate_of_run [⟨1, 0, 7⟩, ⟨2, 0, 7⟩] (by simp) _).1⟩

/-! ## Later calls -/

theorem mem_timesOf_run (source : Nat) (calls : List (List Fact)) {history : History} {time : Int}
    (mem : time ∈ timesOf source history.2) : time ∈ timesOf source (calls.foldl call history).2 := by
  induction calls generalizing history with
  | nil => exact mem
  | cons facts calls ih =>
      refine ih ?_
      unfold call
      split
      · rw [timesOf, List.filter_append, List.map_append]
        exact List.mem_append_left _ mem
      · exact mem

/-- The common candidate never goes back, whatever blocks and unblocks the inputs between two of its values. -/
theorem candidate_monotone {sources : List Identity} {calls later : List (List Fact)} {before after : Int}
    (first : (run sources calls).1.commonCandidateNs = some before)
    (second : (run sources (calls ++ later)).1.commonCandidateNs = some after) : before ≤ after := by
  obtain ⟨sound, keys⟩ := run_sound sources calls
  obtain ⟨sound_, keys_⟩ := run_sound sources (calls ++ later)
  obtain ⟨all, -, -⟩ := Tracker.candidateFrom_eq_some first
  obtain ⟨all_, -, attained⟩ := Tracker.candidateFrom_eq_some second
  rcases attained with wrong | ⟨last, present_, reached_⟩
  · cases wrong
  -- The input that is last now had already been seen at or behind the earlier candidate.
  obtain ⟨entry, present, same⟩ := List.mem_map.mp ((keys _).mpr ((keys_ _).mp (List.mem_map_of_mem present_)))
  obtain ⟨safe, progress, reached, least⟩ := all entry present
  obtain ⟨_, found, -, latest⟩ := (sound entry present).safe safe
  cases reached.symm.trans found
  obtain ⟨_, found_, seen_, -⟩ := (sound_ last present_).safe (all_ last present_).1
  cases reached_.symm.trans found_
  refine least.trans (((sound_ last present_).seen _ seen_).2 ?_)
  rw [run, List.foldl_append, ← same]
  exact mem_timesOf_run _ later (List.mem_of_getLast? latest)

theorem candidate_monotone_of_two :
    (run [⟨1, 0, 7⟩, ⟨2, 0, 7⟩] [[packetFact 1 20, packetFact 2 10]]).1.commonCandidateNs = some 10 ∧ (10 : Int) ≤ 20 :=
  ⟨by decide +kernel, @candidate_monotone [⟨1, 0, 7⟩, ⟨2, 0, 7⟩] [[packetFact 1 20, packetFact 2 10]]
    [[{ packetFact 2 30 with factSequence := 2 }]] 10 20 (by decide +kernel) (by decide +kernel)⟩

end Flowsql.Capture.Progress
