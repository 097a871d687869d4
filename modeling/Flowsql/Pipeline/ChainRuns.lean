import Flowsql.Pipeline.ChainStages

/-!
# Runs of a chain

A sequence of calls of the chain, refused ones among them, against what its stages receive and what
it returns: as long as no call has failed, its outputs are those of the stages fed one after another.
-/

namespace Flowsql.Pipeline.Chain

open Flowsql.Library

/-! ## Codes of failed calls -/

/-- An error is negative. -/
def Negative {α : Type} (result : Except Int α) : Prop := ∀ rc, result = .error rc → rc < 0

@[simp]
theorem negative_ok {α : Type} (value : α) : Negative (.ok value : Except Int α) := by
  simp [Negative]

@[simp]
theorem negative_error {α : Type} (rc : Int) : Negative (.error rc : Except Int α) ↔ rc < 0 := by
  simp [Negative]

theorem Negative.bind {α β : Type} {first : Except Int α} {next : α → Except Int β}
    (negative : Negative first) (others : ∀ value, first = .ok value → Negative (next value)) :
    Negative (first >>= next) := by
  cases first with
  | error rc => exact (negative_error rc).2 ((negative_error rc).1 negative)
  | ok value => exact others value rfl

@[simp]
theorem stageError_neg (rc : Int) : stageError rc < 0 := by
  unfold stageError EIO
  split <;> try split
  all_goals omega

theorem filterStageOutputs_negative (stage : Stage) (inputs : List Output) :
    Negative (filterStageOutputs stage inputs) := by
  induction inputs with
  | nil => simp [filterStageOutputs]
  | cons input inputs ih =>
      unfold filterStageOutputs
      split
      · simp
      · split
        · simp
        · exact ih.bind fun _ _ => by simp [pure, Except.pure]

theorem checkAnswer_negative (valid : Int → Bool) (answer : StageAnswer) :
    Negative (checkAnswer valid answer) := by
  obtain ⟨result, outputs⟩ := answer
  cases result with
  | error thrown => simp [checkAnswer]
  | ok rc =>
      simp only [checkAnswer]
      split
      · simp
      · split <;> simp

theorem exchange_negative (link : Link) (event : StageEvent) (valid : Int → Bool)
    {recheck : Link → Int → Except Int Unit} (rechecks : ∀ link rc, Negative (recheck link rc)) :
    Negative (exchange link event valid recheck).2 :=
  (checkAnswer_negative valid _).bind fun _ _ =>
    (rechecks _ _).bind fun _ _ =>
      (filterStageOutputs_negative _ _).bind fun _ _ => by simp [pure, Except.pure]

theorem queryTimeState_negative (link : Link) : Negative (queryTimeState link) := by
  unfold queryTimeState
  split
  · simp
  · split
    · simp
    · split
      · simp
      · split <;> simp

theorem madeProgress_negative (event : TimeEvent) (link : Link) (rc : Int) :
    Negative (madeProgress event link rc) := by
  unfold madeProgress
  split
  · exact (queryTimeState_negative link).bind fun _ _ => by split <;> simp
  · simp

theorem noRecheck_negative (link : Link) (rc : Int) : Negative (noRecheck link rc) :=
  negative_ok ()

theorem processInputs_negative (link : Link) (inputs : List Output) :
    Negative (processInputs link inputs).2 := by
  induction inputs generalizing link with
  | nil => simp [processInputs]
  | cons input inputs ih =>
      unfold processInputs
      split
      · simp
      · rename_i batch present
        have first := exchange_negative link (.processBlock batch input.tsMs) validStatus
          noRecheck_negative
        split
        · rename_i failed
          simpa [failed] using first
        · rename_i later rc filtered succeeded
          have rest := ih later
          split
          · rename_i failed
            simpa [failed] using rest
          · simp

theorem propagateFrom_negative (links : List Link) (inputs : List Output) :
    Negative (propagateFrom links inputs).2 := by
  induction links generalizing inputs with
  | nil => simp [propagateFrom]
  | cons link links ih =>
      have first := processInputs_negative link inputs
      unfold propagateFrom
      split
      · rename_i failed
        simpa [failed] using first
      · rename_i later stopped nextInputs succeeded
        have rest := ih nextInputs
        split
        · rename_i failed
          simpa [failed] using rest
        · simp

theorem flushFrom_negative (left : Nat) (links : List Link) :
    Negative (flushFrom left links).2 := by
  induction left generalizing links with
  | zero => simp [flushFrom]
  | succ left ih =>
      cases links with
      | nil => simp [flushFrom]
      | cons link links =>
          have first := exchange_negative link .flush flushed noRecheck_negative
          unfold flushFrom
          split
          · rename_i failed
            simpa [failed] using first
          · rename_i later rc filtered succeeded
            have through := propagateFrom_negative links filtered
            split
            · rename_i failed
              simpa [failed] using through
            · rename_i downstream stopped propagated ran
              have rest := ih downstream
              split
              · rename_i failed
                simpa [failed] using rest
              · simp

theorem timeFrom_negative (event : TimeEvent) (left : Nat) (links : List Link) :
    Negative (timeFrom event left links).2 := by
  induction left generalizing links with
  | zero => simp [timeFrom]
  | succ left ih =>
      cases links with
      | nil => simp [timeFrom]
      | cons link links =>
          have asked := queryTimeState_negative link
          have first := exchange_negative link (.onTime event) validStatus
            (madeProgress_negative event)
          unfold timeFrom
          split
          · rename_i failed
            simpa [failed] using asked
          · split
            · split
              · rename_i failed
                simpa [failed] using first
              · rename_i later rc filtered succeeded
                have through := propagateFrom_negative links filtered
                split
                · rename_i failed
                  simpa [failed] using through
                · rename_i downstream stopped propagated ran
                  have rest := ih downstream
                  split
                  · simp
                  · split
                    · rename_i failed
                      simpa [failed] using rest
                    · simp
            · exact ih links

/-! ## One call -/

/-- The call reports a failure. -/
def failed (reply : ChainReply) : ChainCall → Bool
  | .processBlock _ _ _ | .onTime _ _ => !validStatus reply.rc
  | .flush _ => !flushed reply.rc

theorem Negative.map {α β : Type} {result : Except Int α} (negative : Negative result)
    (f : α → β) : Negative (result.map f) := by
  cases result with
  | error rc => simpa [Except.map] using negative
  | ok value => simp [Except.map]

theorem perform_negative (links : List Link) (request : ChainCall) :
    Negative (perform links request).2 := by
  cases request with
  | processBlock input tsMs outputs => exact (propagateFrom_negative links _).map _
  | onTime event outputs => exact (timeFrom_negative event links.length links).map _
  | flush outputs => exact (flushFrom_negative links.length links).map _

theorem map_ok {α β : Type} {result : Except Int α} {f : α → β} {value : β}
    (mapped : result.map f = .ok value) : ∃ source, result = .ok source ∧ f source = value := by
  cases result with
  | error rc => simp [Except.map] at mapped
  | ok source => exact ⟨source, rfl, by simpa [Except.map] using mapped⟩

/-- What a call that succeeds did. -/
inductive Performed (links : List Link) :
    ChainCall → List Link → Int → List Output → Prop
  | processBlock {input : Option Batch} {tsMs : Int} {given : List Output} {later : List Link}
      {stopped : Bool} {outputs : List Output}
      (ran : propagateFrom links [{ batch := input, tsMs := tsMs }] =
        (later, .ok (stopped, outputs))) :
      Performed links (.processBlock input tsMs given) later (status stopped) outputs
  | onTime {event : TimeEvent} {given : List Output} {later : List Link} {stopped : Bool}
      {outputs : List Output}
      (ran : timeFrom event links.length links = (later, .ok (stopped, outputs))) :
      Performed links (.onTime event given) later (status stopped) outputs
  | flush {given : List Output} {later : List Link} {outputs : List Output}
      (ran : flushFrom links.length links = (later, .ok outputs)) :
      Performed links (.flush given) later 0 outputs

theorem perform_ok {links later : List Link} {request : ChainCall} {rc : Int}
    {outputs : List Output} (ran : perform links request = (later, .ok (rc, outputs))) :
    Performed links request later rc outputs := by
  simp only [perform] at ran
  cases request with
  | processBlock input tsMs given =>
      obtain ⟨rfl, mapped⟩ := Prod.mk.inj ran
      obtain ⟨⟨stopped, reached⟩, wasRun, eq⟩ := map_ok mapped
      obtain ⟨rfl, rfl⟩ := Prod.mk.inj eq
      exact .processBlock (Prod.ext rfl wasRun)
  | onTime event given =>
      obtain ⟨rfl, mapped⟩ := Prod.mk.inj ran
      obtain ⟨⟨stopped, reached⟩, wasRun, eq⟩ := map_ok mapped
      obtain ⟨rfl, rfl⟩ := Prod.mk.inj eq
      exact .onTime (Prod.ext rfl wasRun)
  | flush given =>
      obtain ⟨rfl, mapped⟩ := Prod.mk.inj ran
      obtain ⟨reached, wasRun, eq⟩ := map_ok mapped
      obtain ⟨rfl, rfl⟩ := Prod.mk.inj eq
      exact .flush (Prod.ext rfl wasRun)

theorem status_valid (stopped : Bool) : validStatus (status stopped) = true := by
  cases stopped <;> rfl

theorem Performed.not_failed {links later : List Link} {request : ChainCall} {rc : Int}
    {outputs : List Output} (performed : Performed links request later rc outputs) :
    failed { rc := rc, outputs := outputs } request = false := by
  cases performed with
  | processBlock ran => simp [failed, status_valid]
  | onTime ran => simp [failed, status_valid]
  | flush ran => simp [failed, flushed]

theorem failed_of_neg {rc : Int} (negative : rc < 0) (outputs : List Output)
    (request : ChainCall) : failed { rc := rc, outputs := outputs } request = true := by
  have notContinue : rc ≠ 0 := Int.ne_of_lt negative
  have notStop : rc ≠ 1 := by omega
  cases request <;> simp [failed, validStatus, flushed, kContinue, kStop, notContinue, notStop]

theorem refusal_failed (request : ChainCall) (outputs : List Output) :
    failed { rc := refusal request, outputs := outputs } request = true := by
  cases request <;> rfl

/-- Every way a call can go. -/
inductive Called (chain : Chain) (request : ChainCall) : Chain → ChainReply → Prop
  | refused (invalid : chain.admits request = false) :
      Called chain request chain { rc := refusal request, outputs := given request }
  | failed (valid : chain.admits request = true) {links : List Link} {rc : Int}
      (ran : perform chain.links request = (links, .error rc)) (negative : rc < 0) :
      Called chain request
        { chain with links := links, flushStarted := chain.flushStarted || isFlush request }
        { rc := rc, outputs := given request }
  | succeeded (valid : chain.admits request = true) {links : List Link} {rc : Int}
      {outputs : List Output} (ran : Performed chain.links request links rc outputs) :
      Called chain request
        { chain with links := links, flushStarted := chain.flushStarted || isFlush request }
        { rc := rc, outputs := outputs }

theorem call_cases (chain : Chain) (request : ChainCall) :
    Called chain request (chain.call request).1 (chain.call request).2 := by
  unfold call
  split
  · rename_i valid
    split
    rename_i links result ran
    cases result with
    | error rc =>
        have negative := perform_negative chain.links request
        rw [ran] at negative
        exact .failed valid ran ((negative_error rc).1 negative)
    | ok result => exact .succeeded valid (perform_ok ran)
  · rename_i invalid
    exact .refused (by simpa using invalid)

/-- A call that fails leaves the list of the outputs as it is. -/
theorem call_failed {chain : Chain} {request : ChainCall}
    (fails : failed (chain.call request).2 request = true) :
    (chain.call request).2.outputs = given request := by
  have called := call_cases chain request
  generalize chain.call request = result at called fails
  obtain ⟨later, reply⟩ := result
  cases called with
  | refused invalid => rfl
  | failed valid ran negative => rfl
  | succeeded valid ran => simp [ran.not_failed] at fails

/-! ## Flushes -/

def Unflushed (link : Link) : Prop := .flush ∉ link.log

/-- The stage was flushed once, and has received nothing since. -/
def FlushedLast (link : Link) : Prop := ∃ log, link.log = log ++ [.flush] ∧ .flush ∉ log

theorem Grows.unflushed {before after : Link} (grows : Grows before after)
    (unflushed : Unflushed before) : Unflushed after := by
  obtain ⟨-, added, log, others⟩ := grows
  simp only [Unflushed] at unflushed ⊢
  simp [log, others, unflushed]

theorem Flushes.flushedLast {before after : Link} (flushes : Flushes before after)
    (unflushed : Unflushed before) : FlushedLast after := by
  obtain ⟨grown, grows, rfl⟩ := flushes
  exact ⟨grown.log, rfl, grows.unflushed unflushed⟩

theorem MayFlush.stage {before after : Link} (mayFlush : MayFlush before after) :
    after.stage = before.stage := by
  rcases mayFlush with grows | ⟨grown, grows, rfl⟩
  · exact grows.1
  · exact grows.1

theorem stages_eq {before after : List Link} (mayFlush : List.Forall₂ MayFlush before after) :
    after.map (·.stage) = before.map (·.stage) := by
  induction mayFlush with
  | nil => rfl
  | cons first _ ih => simp [first.stage, ih]

/-- What holds of every link before holds of it afterwards in another form. -/
theorem forall_after {R : Link → Link → Prop} {P Q : Link → Prop} {before after : List Link}
    (related : List.Forall₂ R before after) (step : ∀ old new, R old new → P old → Q new)
    (holds : ∀ link ∈ before, P link) : ∀ link ∈ after, Q link := by
  induction related with
  | nil => simp
  | cons first _ ih =>
      simp only [List.mem_cons, forall_eq_or_imp] at holds ⊢
      exact ⟨step _ _ first holds.1, ih holds.2⟩

theorem perform_mayFlush (links : List Link) (request : ChainCall) :
    List.Forall₂ MayFlush links (perform links request).1 := by
  cases request with
  | processBlock input tsMs given => exact mayFlush_of_grows (propagateFrom_grows links _)
  | onTime event given => exact mayFlush_of_grows (timeFrom_grows event links.length links)
  | flush given => exact flushFrom_mayFlush links.length links

theorem perform_grows (links : List Link) {request : ChainCall} (other : isFlush request = false) :
    List.Forall₂ Grows links (perform links request).1 := by
  cases request with
  | processBlock input tsMs given => exact propagateFrom_grows links _
  | onTime event given => exact timeFrom_grows event links.length links
  | flush given => simp [isFlush] at other

/-! ## Runs -/

/-- No stage was flushed before `Flush`, and none more than once. -/
structure Sound (chain : Chain) : Prop where
  unflushed : chain.flushStarted = false → ∀ link ∈ chain.links, Unflushed link
  settled : ∀ link ∈ chain.links, Unflushed link ∨ FlushedLast link

theorem start_sound (stages : List Stage) (opened : Bool) : Sound (start stages opened) := by
  have unflushed : ∀ link ∈ (start stages opened).links, Unflushed link := by
    simp [start, Unflushed]
  exact ⟨fun _ => unflushed, fun link held => .inl (unflushed link held)⟩

theorem call_links (chain : Chain) (request : ChainCall) :
    (chain.call request).1.links =
      if chain.admits request then (perform chain.links request).1 else chain.links := by
  unfold call
  split <;> rfl

theorem call_flushStarted (chain : Chain) (request : ChainCall) :
    (chain.call request).1.flushStarted =
      (chain.flushStarted || (chain.admits request && isFlush request)) := by
  unfold call
  split <;> simp_all

theorem not_admits_of_flushStarted {chain : Chain} (closed : chain.flushStarted = true)
    (request : ChainCall) : chain.admits request = false := by
  cases request <;> simp [admits, closed]

theorem call_sound {chain : Chain} (sound : Sound chain) (request : ChainCall) :
    Sound (chain.call request).1 := by
  cases admitted : chain.admits request with
  | false =>
      have same : (chain.call request).1 = chain := by simp [call, admitted]
      rwa [same]
  | true =>
      have started : chain.flushStarted = false := by
        by_contra closed
        simp [not_admits_of_flushStarted (by simpa using closed) request] at admitted
      have unflushed := sound.unflushed started
      constructor
      · intro open_
        rw [call_flushStarted, started, admitted] at open_
        rw [call_links, if_pos admitted]
        exact forall_after (perform_grows chain.links (by simpa using open_))
          (fun _ _ grows => grows.unflushed) unflushed
      · rw [call_links, if_pos admitted]
        refine forall_after (perform_mayFlush chain.links request) ?_ unflushed
        rintro old new (grows | flushes) holds
        · exact .inl (grows.unflushed holds)
        · exact .inr (flushes.flushedLast holds)

theorem call_stages (chain : Chain) (request : ChainCall) :
    (chain.call request).1.links.map (·.stage) = chain.links.map (·.stage) := by
  rw [call_links]
  split
  · exact stages_eq (perform_mayFlush chain.links request)
  · rfl

/-- The block that a call brings. -/
def enters : ChainCall → List Output
  | .processBlock input tsMs _ => input.toList.map fun batch => { batch := some batch, tsMs := tsMs }
  | .onTime _ _ | .flush _ => []

/-- The blocks of the calls that succeeded, and the outputs they returned. -/
def accepted (requests : List ChainCall) (replies : List ChainReply) : List Output :=
  (requests.zip replies).flatMap fun (request, reply) =>
    if failed reply request then [] else enters request

def delivered (requests : List ChainCall) (replies : List ChainReply) : List Output :=
  (requests.zip replies).flatMap fun (request, reply) =>
    if failed reply request then [] else reply.outputs

/-- No call fails but those that are refused. -/
def Untroubled : Chain → List ChainCall → Prop
  | _, [] => True
  | chain, request :: requests =>
      (chain.admits request = true → failed (chain.call request).2 request = false) ∧
        Untroubled (chain.call request).1 requests

theorem run_cons (chain : Chain) (request : ChainCall) (requests : List ChainCall) :
    run chain (request :: requests) =
      ((run (chain.call request).1 requests).1,
        (chain.call request).2 :: (run (chain.call request).1 requests).2) :=
  rfl

/-- What a call adds to what went in and what came out. -/
theorem call_staged {chain : Chain} {request : ChainCall} {sofar produced : List Output}
    (untroubled : chain.admits request = true → failed (chain.call request).2 request = false)
    (staged : Staged chain.links sofar produced) :
    Staged (chain.call request).1.links
      (sofar ++ accepted [request] [(chain.call request).2])
      (produced ++ delivered [request] [(chain.call request).2]) := by
  have called := call_cases chain request
  generalize chain.call request = result at called untroubled
  obtain ⟨later, reply⟩ := result
  cases called with
  | refused invalid => simpa [accepted, delivered, refusal_failed] using staged
  | failed valid ran negative =>
      have fails := failed_of_neg negative (given request) request
      simp [untroubled valid] at fails
  | succeeded valid ran =>
      simp only [accepted, delivered, List.zip_cons_cons, List.zip_nil_left,
        List.flatMap_cons, List.flatMap_nil, ran.not_failed, Bool.false_eq_true, if_false,
        List.append_nil]
      cases ran with
      | processBlock ran =>
          rename_i input tsMs given stopped
          have present : input.isSome = true := by
            simp only [admits, Bool.and_eq_true] at valid
            exact valid.1.1.2
          obtain ⟨batch, rfl⟩ := Option.isSome_iff_exists.1 present
          exact (propagateFrom_carries ran).staged _ _ staged
      | onTime ran => exact (timeFrom_carries ran).staged _ _ staged
      | flush ran =>
          obtain ⟨stopped, carries⟩ := flushFrom_carries ran
          exact carries.staged _ _ staged

theorem run_sound {chain : Chain} (sound : Sound chain) (requests : List ChainCall) :
    Sound (run chain requests).1 := by
  induction requests generalizing chain with
  | nil => exact sound
  | cons request requests ih => exact ih (call_sound sound request)

theorem run_stages (chain : Chain) (requests : List ChainCall) :
    (run chain requests).1.links.map (·.stage) = chain.links.map (·.stage) := by
  induction requests generalizing chain with
  | nil => rfl
  | cons request requests ih => exact (ih _).trans (call_stages chain request)

theorem accepted_cons (request : ChainCall) (requests : List ChainCall) (reply : ChainReply)
    (replies : List ChainReply) :
    accepted (request :: requests) (reply :: replies) =
      accepted [request] [reply] ++ accepted requests replies := by
  simp [accepted]

theorem delivered_cons (request : ChainCall) (requests : List ChainCall) (reply : ChainReply)
    (replies : List ChainReply) :
    delivered (request :: requests) (reply :: replies) =
      delivered [request] [reply] ++ delivered requests replies := by
  simp [delivered]

theorem run_staged {chain : Chain} {requests : List ChainCall} {sofar produced : List Output}
    (untroubled : Untroubled chain requests) (staged : Staged chain.links sofar produced) :
    Staged (run chain requests).1.links (sofar ++ accepted requests (run chain requests).2)
      (produced ++ delivered requests (run chain requests).2) := by
  induction requests generalizing chain sofar produced with
  | nil => simpa [run, accepted, delivered] using staged
  | cons request requests ih =>
      rw [run_cons, accepted_cons, delivered_cons, ← List.append_assoc, ← List.append_assoc]
      exact ih untroubled.2 (call_staged untroubled.1 staged)

theorem start_staged (stages : List Stage) (opened : Bool) :
    Staged (start stages opened).links [] [] := by
  simp only [start]
  induction stages with
  | nil => exact rfl
  | cons stage stages ih => exact ⟨rfl, ih⟩

theorem run_failed {chain : Chain} {requests : List ChainCall} {request : ChainCall}
    {reply : ChainReply} (replied : (request, reply) ∈ requests.zip (run chain requests).2)
    (fails : failed reply request = true) : reply.outputs = given request := by
  induction requests generalizing chain with
  | nil => simp at replied
  | cons first requests ih =>
      rw [run_cons, List.zip_cons_cons, List.mem_cons] at replied
      rcases replied with here | later
      · obtain ⟨rfl, rfl⟩ := Prod.mk.inj here
        exact call_failed fails
      · exact ih later

/-- A flush closes the chain. -/
theorem run_closed {chain : Chain} (closed : chain.flushStarted = true)
    (requests : List ChainCall) : (run chain requests).1 = chain := by
  induction requests with
  | nil => rfl
  | cons request requests ih =>
      have same : (chain.call request).1 = chain := by
        simp [call, not_admits_of_flushStarted closed request]
      rw [run_cons, same, ih]

theorem call_flushed {chain : Chain} (sound : Sound chain) {outputs : List Output}
    (succeeds : failed (chain.call (.flush outputs)).2 (.flush outputs) = false) :
    (chain.call (.flush outputs)).1.flushStarted = true ∧
      ∀ link ∈ (chain.call (.flush outputs)).1.links, FlushedLast link := by
  have called := call_cases chain (.flush outputs)
  generalize chain.call (.flush outputs) = result at called succeeds
  obtain ⟨later, reply⟩ := result
  cases called with
  | refused invalid => simp [refusal_failed] at succeeds
  | failed valid ran negative => simp [failed_of_neg negative] at succeeds
  | succeeded valid ran =>
      have started : chain.flushStarted = false := by simp_all [admits]
      cases ran with
      | flush ran =>
          refine ⟨by simp [isFlush], ?_⟩
          exact forall_after (flushFrom_flushes ran rfl) (fun _ _ flushes => flushes.flushedLast)
            (sound.unflushed started)

theorem run_flushed {chain : Chain} (sound : Sound chain) {requests : List ChainCall}
    {outputs : List Output} {reply : ChainReply}
    (replied : (.flush outputs, reply) ∈ requests.zip (run chain requests).2)
    (succeeds : failed reply (.flush outputs) = false) :
    ∀ link ∈ (run chain requests).1.links, FlushedLast link := by
  induction requests generalizing chain with
  | nil => simp at replied
  | cons first requests ih =>
      rw [run_cons, List.zip_cons_cons, List.mem_cons] at replied
      rcases replied with here | later
      · obtain ⟨rfl, rfl⟩ := Prod.mk.inj here
        obtain ⟨closed, flushed⟩ := call_flushed sound succeeds
        rw [run_cons, run_closed closed]
        exact flushed
      · exact ih (call_sound sound first) later

theorem status_eq_stop (stopped : Bool) : status stopped = kStop ↔ stopped = true := by
  cases stopped <;> decide

/-- A block or a time event is answered with stop if a stage answered it so. -/
theorem call_stops {chain : Chain} {request : ChainCall} (other : isFlush request = false)
    (succeeds : failed (chain.call request).2 request = false) :
    (chain.call request).2.rc = kStop ↔
      stopCount chain.links < stopCount (chain.call request).1.links := by
  have called := call_cases chain request
  generalize chain.call request = result at called succeeds
  obtain ⟨later, reply⟩ := result
  cases called with
  | refused invalid => simp [refusal_failed] at succeeds
  | failed valid ran negative => simp [failed_of_neg negative] at succeeds
  | succeeded valid ran =>
      cases ran with
      | processBlock ran => exact (status_eq_stop _).trans (propagateFrom_carries ran).stops
      | onTime ran => exact (status_eq_stop _).trans (timeFrom_carries ran).stops
      | flush ran => simp [isFlush] at other

/-- The chain hands every stage, in order and once, the blocks that the stage before it emitted, as
long as no call fails. It flushes every stage at most once, as the last of its events, and if `Flush`
succeeds exactly once. A call that fails returns no outputs, and one that succeeds returns stop if
and only if a stage did so during the call. -/
theorem chain_feeds_stages (stages : List Stage) (opened : Bool) (requests : List ChainCall) :
    let chain := (run (start stages opened) requests).1
    let replies := (run (start stages opened) requests).2
    chain.links.map (·.stage) = stages ∧
      (Untroubled (start stages opened) requests →
        Staged chain.links (accepted requests replies) (delivered requests replies)) ∧
      (∀ link ∈ chain.links, Unflushed link ∨ FlushedLast link) ∧
      (∀ outputs reply, (.flush outputs, reply) ∈ requests.zip replies →
        failed reply (.flush outputs) = false → ∀ link ∈ chain.links, FlushedLast link) ∧
      (∀ request reply, (request, reply) ∈ requests.zip replies →
        failed reply request = true → reply.outputs = given request) ∧
      ∀ request, isFlush request = false → failed (chain.call request).2 request = false →
        ((chain.call request).2.rc = kStop ↔
          stopCount chain.links < stopCount (chain.call request).1.links) := by
  intro chain replies
  have sound := start_sound stages opened
  refine ⟨?_, ?_, (run_sound sound requests).settled, ?_, ?_, ?_⟩
  · rw [run_stages]
    simp [start, Function.comp_def]
  · intro untroubled
    simpa using run_staged untroubled (start_staged stages opened)
  · intro outputs reply replied succeeds
    exact run_flushed sound replied succeeds
  · intro request reply replied fails
    exact run_failed replied fails
  · intro request other succeeds
    exact call_stops other succeeds

/-- A block of two rows, returned twice for every block, and a stage that stops at its first. -/
def twice : Stage where
  respond log :=
    if log.getLast? = some .flush then (.ok 0, [])
    else (.ok kContinue, [{ batch := some ⟨2, none⟩ }, { batch := some ⟨2, none⟩ }])

def stopsAtOnce : Stage where
  respond log := if log.getLast? = some .flush then (.ok 0, []) else (.ok kStop, [])

/-- The second of the two blocks reaches the stage that has returned stop. -/
theorem block_after_stop :
    ¬ ∀ (stages : List Stage) (requests : List ChainCall),
      Untroubled (start stages true) requests →
        ∀ link ∈ (run (start stages true) requests).1.links,
          ∀ log batch tsMs rest, link.log = log ++ .processBlock batch tsMs :: rest →
            true ∉ Cascade.answers (stops link.stage) log := by
  intro never
  have untroubled : Untroubled (start [twice, stopsAtOnce] true)
      [.processBlock (some ⟨2, none⟩) 0 [], .flush []] := by
    exact ⟨fun _ => by decide, fun _ => by decide, trivial⟩
  have received := never _ _ untroubled
    ⟨stopsAtOnce, [.processBlock ⟨2, none⟩ 0, .processBlock ⟨2, none⟩ 0, .flush]⟩
    (.tail _ (.head _)) [.processBlock ⟨2, none⟩ 0] ⟨2, none⟩ 0 [.flush] rfl
  exact received (by decide)

/-! ## The deadline of a chain -/

variable {event : TimeEvent}

/-- No deadline of the stages is over. -/
def Rests (event : TimeEvent) (links : List Link) : Prop :=
  ∃ deadline, aggregate links = .ok deadline ∧ deadline.any (· ≤ event.monotonicNowNs) = false

theorem rests_cons {link : Link} {links : List Link} : Rests event (link :: links) ↔
    (∃ state, queryTimeState link = .ok state ∧ due event state = false) ∧ Rests event links := by
  rw [Rests, Rests, aggregate]
  cases queryTimeState link with
  | error rc => simp [bind, Except.bind]
  | ok state =>
      cases aggregate links with
      | error rc => simp [bind, Except.bind]
      | ok later =>
          cases state <;> cases later <;>
            simp [bind, Except.bind, pure, Except.pure, due, TimeDriveState.deadline?] <;> grind

/-- A time event before the deadlines reaches no stage. -/
theorem timeFrom_rests {links : List Link} (rests : Rests event links) :
    timeFrom event links.length links = (links, .ok (false, [])) := by
  induction links with
  | nil => rfl
  | cons link links ih =>
      obtain ⟨⟨state, asked, fresh⟩, rest⟩ := rests_cons.1 rests
      simp [timeFrom, asked, fresh, ih rest]

/-- A stage that goes on has moved its deadline. -/
theorem moved_of_exchange {link called : Link} {rc : Int} {filtered : List Output}
    (answered : exchange link (.onTime event) validStatus (madeProgress event) =
      (called, .ok (rc, filtered))) (goesOn : rc ≠ kStop) :
    ∃ state, queryTimeState called = .ok state ∧ due event state = false := by
  simp only [exchange, checkAnswer, madeProgress, validStatus, bind, Except.bind, pure,
    Except.pure] at answered
  grind

/-- A time event after which the chain goes on has moved every deadline that was over: what comes
out of a stage reaches later ones only, whose turn comes afterwards. -/
theorem rests_timeFrom {left : Nat} {links later : List Link} {outputs : List Output}
    (all : links.length = left) (ran : timeFrom event left links = (later, .ok (false, outputs))) :
    Rests event later := by
  fun_induction timeFrom event left links generalizing later outputs with
  | case1 links =>
      obtain rfl := List.length_eq_zero_iff.1 all
      cases ran
      exact ⟨none, rfl, rfl⟩
  | case2 => cases all
  | case8 left link links state asked isDue called rc filtered answered downstream stopped propagated
      wasRun goesOn last halted more ranLater ih =>
      cases ran
      have through := (propagateFrom_grows links filtered).length_eq
      rw [wasRun] at through
      exact rests_cons.2 ⟨moved_of_exchange answered fun stop => goesOn (.inl stop),
        ih (through.symm.trans (Nat.succ.inj all)) ranLater⟩
  | case9 left link links state asked fresh last result ranLater ih =>
      cases ran
      exact rests_cons.2 ⟨⟨state, asked, eq_false_of_ne_true fresh⟩, ih (Nat.succ.inj all) ranLater⟩
  | _ => cases ran

/-- Before the deadline of a chain a time event does nothing, and one after which the chain goes on
leaves no deadline that is over. -/
theorem time_driven {chain : Chain} (admitted : chain.admits (.onTime event [])) :
    (∀ deadline, chain.getTimeDriveState = .ok deadline →
      deadline.any (· ≤ event.monotonicNowNs) = false →
      chain.call (.onTime event []) = (chain, { rc := kContinue, outputs := [] })) ∧
    ((chain.call (.onTime event [])).2.rc = kContinue →
      ∃ deadline, (chain.call (.onTime event [])).1.getTimeDriveState = .ok deadline ∧
        deadline.any (· ≤ event.monotonicNowNs) = false) := by
  have ready : (chain.opened && !chain.flushStarted) = true := by
    simp_all [admits]
  constructor
  · intro deadline known fresh
    rw [getTimeDriveState, if_pos ready] at known
    rw [call, if_pos admitted, perform, timeFrom_rests ⟨deadline, known, fresh⟩]
    simp [isFlush, status, Except.map]
  · intro goesOn
    have called := call_cases chain (.onTime event [])
    generalize chain.call (.onTime event []) = result at called goesOn
    obtain ⟨later, reply⟩ := result
    cases called with
    | refused invalid => simp [admitted] at invalid
    | failed valid ran negative => exact absurd goesOn (Int.ne_of_lt negative)
    | succeeded valid ran =>
        cases ran with
        | @onTime _ _ _ stopped _ ran =>
            cases stopped with
            | true => cases goesOn
            | false =>
                obtain ⟨deadline, known, fresh⟩ := rests_timeFrom rfl ran
                exact ⟨deadline, by simpa [getTimeDriveState, isFlush, ready] using known, fresh⟩

/-- A stage that moves its deadline on by five. -/
def steady : Stage where
  respond _ := (.ok kContinue, [])
  timeState := some fun log => .ok (0, ⟨24, kTimeDriveVersion, 1, [], 5 * log.length⟩)

theorem time_driven_steady :
    ∃ deadline, ((start [steady, steady] true).call (.onTime ⟨24, 1, 3, 0⟩ [])).1.getTimeDriveState =
      .ok deadline ∧ deadline.any (· ≤ 3) = false :=
  (@time_driven ⟨24, 1, 3, 0⟩ (start [steady, steady] true) rfl).2 rfl

end Flowsql.Pipeline.Chain
