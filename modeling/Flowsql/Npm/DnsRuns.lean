import Flowsql.Library.GuardedRuns
import Flowsql.Npm.DnsAccounting
import Mathlib

/-!
# Runs of the DNS tracker

The tracker among other components that share the budget, and a caller that keeps the results
until it releases them. In an orderly run every query is answered once.
-/

namespace Flowsql.Npm

open Flowsql.Library

inductive DnsEvent where
  | message (sessionId : Nat) (direction : PacketDirection) (body : List UInt8)
      (bodyComplete : Bool) (completeAtNs : Option Int) (observedAtNs : Int)
  | responsePathGap (sessionId : Nat) (responseDirection : PacketDirection) (observedAtNs : Int)
  | captureWatermark (watermarkNs : Int)
  | sessionEnd (sessionId : Nat) (observedAtNs : Int)
  | releaseResults
  /-- Another component reserves or releases a part of the budget. -/
  | othersReserve (category : BudgetCategory) (bytes : Nat)
  | othersRelease (category : BudgetCategory) (bytes : Nat)
  deriving DecidableEq

structure DnsRun where
  tracker : DnsTracker
  /-- The results that have not been released. -/
  results : List DnsResult := []
  /-- All results. -/
  history : List DnsResult := []
  /-- The queries that became pending. -/
  accepted : List DnsLabel := []
  /-- What others have reserved of the state of modules. -/
  others : Nat

namespace DnsRun

variable {state : DnsRun} {tracker : DnsTracker}

def started (config : DnsConfig) (budget : TaskBudget) : DnsRun :=
  { tracker := { config := config, budget := budget }, others := budget.used .moduleState }

/-- After a call of the tracker. -/
def called (state : DnsRun) (outcome : DnsOutcome) : DnsRun :=
  { tracker := outcome.state
    results := state.results ++ outcome.emitted
    history := state.history ++ outcome.emitted
    accepted := state.accepted ++
      (outcome.state.pending.map DnsPending.label).filter fun label =>
        label ∉ state.tracker.pending.map DnsPending.label
    others := state.others }

/-- The bytes in a category, if it is the one that the tracker reserves in. -/
def moduleBytes (category : BudgetCategory) (bytes : Nat) : Nat :=
  if category = .moduleState then bytes else 0

def step (state : DnsRun) : DnsEvent → DnsRun
  | .message sessionId direction body bodyComplete completeAtNs observedAtNs =>
      state.called
        (state.tracker.onMessage sessionId direction body bodyComplete completeAtNs observedAtNs)
  | .responsePathGap sessionId responseDirection observedAtNs =>
      state.called (state.tracker.onResponsePathGap sessionId responseDirection observedAtNs)
  | .captureWatermark watermarkNs => state.called (state.tracker.onCaptureWatermark watermarkNs)
  | .sessionEnd sessionId observedAtNs =>
      state.called (state.tracker.onSessionEnd sessionId observedAtNs)
  | .releaseResults => { state with tracker := state.tracker.releaseResults, results := [] }
  | .othersReserve category bytes =>
      match state.tracker.budget.reserve category bytes with
      | (.none, budget) =>
          { state with
            tracker := { state.tracker with budget := budget }
            others := state.others + moduleBytes category bytes }
      | _ => state
  | .othersRelease category bytes =>
      if moduleBytes category bytes ≤ state.others then
        { state with
          tracker :=
            { state.tracker with budget := (state.tracker.budget.release category bytes).2 }
          others := state.others - moduleBytes category bytes }
      else state

def run (state : DnsRun) (events : List DnsEvent) : DnsRun := events.foldl step state

/-- A session that ends has room for all its results or for none, and a result of its own is
only reported while there are identifiers. -/
def Orderly (state : DnsRun) : DnsEvent → Prop
  | .message sessionId direction body bodyComplete _ _ =>
      state.tracker.nextId = 0 →
        state.tracker.announces sessionId direction body bodyComplete = true →
        DnsTracker.admits 1 state.tracker.budget = false
  | .sessionEnd sessionId _ =>
      DnsTracker.admits 1 state.tracker.budget = true →
        DnsTracker.admits (state.tracker.pendingCount sessionId) state.tracker.budget = true
  | _ => True

instance : (state : DnsRun) → (event : DnsEvent) → Decidable (state.Orderly event)
  | _, .message .. => inferInstanceAs (Decidable (_ → _ → _))
  | _, .sessionEnd .. => inferInstanceAs (Decidable (_ → _))
  | _, .responsePathGap .. => .isTrue trivial
  | _, .captureWatermark .. => .isTrue trivial
  | _, .releaseResults => .isTrue trivial
  | _, .othersReserve .. => .isTrue trivial
  | _, .othersRelease .. => .isTrue trivial

/-- The identifiers that were given to queries and results. -/
def labels (state : DnsRun) : List DnsLabel :=
  state.tracker.pending.map DnsPending.label ++ state.history.map DnsResult.label

/-- What holds in every state of an orderly run. -/
structure Sound (state : DnsRun) : Prop where
  distinct : (state.tracker.pending.map DnsPending.key).Nodup
  limit : ∀ sessionId,
    state.tracker.pendingCount sessionId ≤ state.tracker.config.maxPendingPerSession
  identified : (state.labels.map Prod.fst).Nodup
  issued : ∀ label ∈ state.labels, label.1 ≠ 0 ∧
    (state.tracker.nextId = 0 ∨ label.1 < state.tracker.nextId)
  accepted : ∀ label ∈ state.accepted, label ∈ state.labels
  held : state.tracker.held =
    state.others + 4096 * (state.tracker.pending.length + state.results.length)
  charge : state.tracker.resultChargeBytes = 4096 * state.results.length

theorem started_sound (config : DnsConfig) (budget : TaskBudget) : (started config budget).Sound where
  distinct := List.nodup_nil
  limit := fun _ => Nat.zero_le _
  identified := List.nodup_nil
  issued := nofun
  accepted := nofun
  held := rfl
  charge := rfl

/-- The number of pending queries of a session, by their keys. -/
theorem pendingCount_eq (sessionId : Nat) : tracker.pendingCount sessionId =
    (tracker.pending.map DnsPending.key).countP fun key => key.sessionId = sessionId := by
  rw [List.countP_map, List.countP_eq_length_filter]
  rfl

/-- What is new among the pending queries has just been issued. -/
theorem accepted_called {outcome : DnsOutcome} {issued : List DnsLabel}
    {joined : List DnsQuestionKey} (holds : state.Sound)
    (settles : state.tracker.Settles outcome issued joined) :
    ∀ label ∈ (state.called outcome).accepted, label ∈ (state.called outcome).labels := by
  intro label member
  rcases List.mem_append.mp member with earlier | fresh
  · rcases List.mem_append.mp (holds.accepted label earlier) with pending | reported
    · have still := settles.labels.symm.subset (List.mem_append_right _ pending)
      simp only [labels, called, List.map_append, List.mem_append] at still ⊢
      tauto
    · simp only [labels, called, List.map_append, List.mem_append]
      exact Or.inr (Or.inl reported)
  · exact List.mem_append_left _ (List.mem_filter.mp fresh).1

/-- The labels after a call. -/
theorem labels_called {outcome : DnsOutcome} {issued : List DnsLabel}
    {joined : List DnsQuestionKey} (settles : state.tracker.Settles outcome issued joined) :
    (state.called outcome).labels.Perm (issued ++ state.labels) := by
  have moved := settles.labels.append_right (state.history.map DnsResult.label)
  unfold labels called
  simp only [List.map_append]
  refine .trans ?_ (moved.trans (.of_eq (List.append_assoc ..)))
  rw [List.append_assoc]
  exact List.perm_append_comm.append_left _

theorem sound_called {outcome : DnsOutcome} {issued : List DnsLabel} {joined : List DnsQuestionKey}
    (holds : state.Sound) (settles : state.tracker.Settles outcome issued joined)
    (distinct : (joined ++ state.tracker.pending.map DnsPending.key).Nodup)
    (limit : ∀ sessionId, (joined ++ state.tracker.pending.map DnsPending.key).countP
      (fun key => key.sessionId = sessionId) ≤ state.tracker.config.maxPendingPerSession)
    (identified : ((issued ++ state.labels).map Prod.fst).Nodup)
    (numbered : ∀ label ∈ issued ++ state.labels, label.1 ≠ 0 ∧
      (outcome.state.nextId = 0 ∨ label.1 < outcome.state.nextId)) :
    (state.called outcome).Sound where
  distinct := by
    obtain ⟨kept, perm, sublist⟩ := settles.keys
    exact perm.nodup_iff.mp (distinct.sublist sublist)
  limit := by
    intro sessionId
    obtain ⟨kept, perm, sublist⟩ := settles.keys
    rw [pendingCount_eq]
    refine Nat.le_trans (Nat.le_of_eq (perm.countP_eq _).symm) ?_
    exact Nat.le_trans (sublist.countP_le) (settles.config ▸ limit sessionId)
  identified := ((labels_called settles).map Prod.fst).nodup_iff.mpr identified
  issued := fun label member => numbered label ((labels_called settles).subset member)
  accepted := accepted_called holds settles
  held := by
    have books := settles.held
    have before := holds.held
    simp only [called, List.length_append]
    omega
  charge := by
    have books := settles.charge
    have before := holds.charge
    simp only [called, List.length_append]
    omega

theorem sound_kept {outcome : DnsOutcome} (holds : state.Sound) (kept : state.tracker.Kept outcome) :
    (state.called outcome).Sound := by
  refine sound_called holds kept.toSettles holds.distinct (fun sessionId => ?_) holds.identified
    fun label member => ?_
  · rw [List.nil_append, ← pendingCount_eq]
    exact holds.limit sessionId
  · rw [kept.nextId]
    exact holds.issued label member

/-- A new identifier differs from all others. -/
theorem sound_issued {outcome : DnsOutcome} {sessionId : Nat} {joined : List DnsQuestionKey}
    (holds : state.Sound) (issues : state.tracker.Issued outcome sessionId joined)
    (distinct : (joined ++ state.tracker.pending.map DnsPending.key).Nodup)
    (limit : ∀ sessionId, (joined ++ state.tracker.pending.map DnsPending.key).countP
      (fun key => key.sessionId = sessionId) ≤ state.tracker.config.maxPendingPerSession) :
    (state.called outcome).Sound := by
  have remaining := issues.remaining
  have earlier : ∀ label ∈ state.labels, label.1 < state.tracker.nextId := fun label member =>
    (holds.issued label member).2.resolve_left remaining
  have next : ∀ id : UInt64, id ≤ state.tracker.nextId →
      outcome.state.nextId = 0 ∨ id < outcome.state.nextId := by
    intro id atMost
    rw [issues.nextId]
    by_cases last : state.tracker.nextId + 1 = 0
    · exact Or.inl last
    · refine Or.inr ?_
      have bounded := UInt64.toNat_lt state.tracker.nextId
      have atMost := UInt64.le_iff_toNat_le.mp atMost
      have positive : (state.tracker.nextId + 1).toNat ≠ 0 := fun zero =>
        last (UInt64.toNat_inj.mp zero)
      rw [UInt64.toNat_add] at positive
      rw [UInt64.lt_iff_toNat_lt, UInt64.toNat_add]
      have one : (1 : UInt64).toNat = 1 := rfl
      rw [one] at positive ⊢
      omega
  refine sound_called holds issues.toSettles distinct limit ?_ ?_
  · rw [List.singleton_append, List.map_cons, List.nodup_cons]
    refine ⟨fun member => ?_, holds.identified⟩
    obtain ⟨label, labelled, same⟩ := List.mem_map.mp member
    have less := earlier label labelled
    rw [same] at less
    exact UInt64.lt_irrefl _ less
  · intro label member
    rcases List.mem_append.mp member with fresh | old
    · obtain rfl := List.mem_singleton.mp fresh
      exact ⟨remaining, next _ (UInt64.le_refl _)⟩
    · exact ⟨(holds.issued label old).1, next _ (UInt64.le_of_lt (earlier label old))⟩

theorem sound_accounted {outcome : DnsOutcome} (holds : state.Sound)
    (accounted : state.tracker.Accounted outcome) : (state.called outcome).Sound := by
  rcases accounted with kept | ⟨sessionId, issues⟩ | ⟨key, issues, unmatched, room⟩
  · exact sound_kept holds kept
  · refine sound_issued holds issues holds.distinct fun sessionId => ?_
    rw [List.nil_append, ← pendingCount_eq]
    exact holds.limit sessionId
  · refine sound_issued holds issues (List.nodup_cons.mpr ⟨unmatched, holds.distinct⟩)
      fun sessionId => ?_
    have allowed := state.tracker.config.pendingInRange.1
    have before := holds.limit sessionId
    rw [List.singleton_append, List.countP_cons, ← pendingCount_eq]
    by_cases same : key.sessionId = sessionId
    · rw [same] at room
      simp only [same, decide_true, if_true]
      omega
    · simp only [same, decide_false, Bool.false_eq_true, if_false]
      omega

/-! ## Releases, and the other components -/

theorem sound_releaseResults (holds : state.Sound) : (state.step .releaseResults).Sound := by
  have tracker : state.tracker.releaseResults =
      { state.tracker.withHeld (state.tracker.held - state.tracker.resultChargeBytes) with
        resultChargeBytes := 0 } := by
    have owned : state.tracker.resultChargeBytes ≤ state.tracker.held := by
      rw [holds.held, holds.charge]
      omega
    unfold DnsTracker.releaseResults
    split
    · next zero =>
        rw [zero, Nat.sub_zero, DnsTracker.withHeld_held]
        exact congrArg (fun charge => { state.tracker with resultChargeBytes := charge }) zero
    · rw [TaskBudget.release_eq owned]
      rfl
  have books := holds.held
  have charge := holds.charge
  simp only [step, tracker]
  refine ⟨holds.distinct, holds.limit, holds.identified, holds.issued, holds.accepted, ?_, rfl⟩
  simp only [DnsTracker.held, DnsTracker.withHeld, TaskBudget.used_withUsed, List.length_nil] at books ⊢
  omega

theorem sound_withBudget (holds : state.Sound) {budget : TaskBudget} {others : Nat}
    (books : budget.used .moduleState + state.others = state.tracker.held + others)  :
    ({ state with tracker := { state.tracker with budget := budget }, others := others } :
      DnsRun).Sound := by
  refine ⟨holds.distinct, holds.limit, holds.identified, holds.issued, holds.accepted, ?_,
    holds.charge⟩
  have before := holds.held
  simp only [DnsTracker.held] at books before ⊢
  omega

theorem sound_othersReserve (holds : state.Sound) (category : BudgetCategory) (bytes : Nat) :
    (state.step (.othersReserve category bytes)).Sound := by
  simp only [step]
  split
  · next budget outcome =>
      refine sound_withBudget holds ?_
      rw [TaskBudget.reserve_ok outcome]
      unfold moduleBytes
      split
      · next same =>
          rw [same, TaskBudget.used_withUsed, DnsTracker.held]
          omega
      · next different =>
          rw [TaskBudget.used_withUsed_ne (Ne.symm different), DnsTracker.held]
          omega
  · exact holds

theorem sound_othersRelease (holds : state.Sound) (category : BudgetCategory) (bytes : Nat) :
    (state.step (.othersRelease category bytes)).Sound := by
  simp only [step]
  split
  · next owned =>
      refine sound_withBudget holds ?_
      by_cases same : category = .moduleState
      · subst same
        have books := holds.held
        simp only [moduleBytes, if_true, DnsTracker.held] at owned books ⊢
        rw [TaskBudget.release_eq (by omega), TaskBudget.used_withUsed]
        omega
      · have kept := TaskBudget.OnlyChanges.used_ne
          (@TaskBudget.onlyChanges_release state.tracker.budget category bytes) (Ne.symm same)
        rw [kept, moduleBytes, if_neg same, DnsTracker.held]
        omega
  · exact holds

/-! ## Runs -/

theorem sound_step (holds : state.Sound) (event : DnsEvent) (orderly : state.Orderly event) :
    (state.step event).Sound := by
  cases event with
  | message sessionId direction body bodyComplete completeAtNs observedAtNs =>
      refine sound_accounted holds (DnsTracker.onMessage_accounted _ _ _ _ _ _
        fun announces none_ => DnsTracker.chargeResult_none ?_)
      simp [orderly none_ announces]
  | responsePathGap sessionId responseDirection observedAtNs =>
      refine sound_kept holds ?_
      unfold DnsTracker.onResponsePathGap
      split
      · exact .refl _
      · exact DnsTracker.finishWhere_kept (DnsPending.label_queryResult _ _) _ _
  | captureWatermark watermarkNs =>
      refine sound_kept holds ?_
      unfold DnsTracker.onCaptureWatermark
      split
      · exact .refl _
      · have kept := @DnsTracker.finishWhere_kept
          (fun entry => entry.transaction.deadlineNs.any (· ≤ watermarkNs)) _
          (DnsPending.label_queryResult watermarkNs "response_not_observed_by_deadline")
          state.tracker.pending { state.tracker with watermarkNs := some watermarkNs }
        exact ⟨⟨kept.config, kept.labels, kept.keys, kept.held, kept.charge⟩, kept.nextId⟩
  | sessionEnd sessionId observedAtNs =>
      exact sound_kept holds (DnsTracker.onSessionEnd_kept _ _ orderly)
  | releaseResults => exact sound_releaseResults holds
  | othersReserve category bytes => exact sound_othersReserve holds category bytes
  | othersRelease category bytes => exact sound_othersRelease holds category bytes

theorem history_step (event : DnsEvent) : state.history <+: (state.step event).history := by
  cases event with
  | releaseResults => exact List.prefix_rfl
  | othersReserve category bytes =>
      simp only [step]
      split <;> exact List.prefix_rfl
  | othersRelease category bytes =>
      simp only [step]
      split <;> exact List.prefix_rfl
  | message | responsePathGap | captureWatermark | sessionEnd => exact List.prefix_append ..

theorem history_run (state : DnsRun) (events : List DnsEvent) :
    state.history <+: (state.run events).history := by
  induction events generalizing state with
  | nil => exact List.prefix_rfl
  | cons event rest ih => exact (history_step event).trans (ih (state.step event))

/-- What holds of the tracker at every moment. -/
structure Answering (state : DnsRun) : Prop where
  /-- A query is pending or has one result. -/
  once : ∀ query ∈ state.accepted,
    (state.tracker.pending.map DnsPending.id).count query.1 +
      (state.history.map DnsResult.entityInstanceId).count query.1 = 1
  /-- A query that is seen again is counted, and nothing else changes. -/
  repeated : ∀ sessionId direction body bodyComplete completeAtNs observedAtNs key,
    sessionId ≠ 0 → (parseDnsMessage body bodyComplete).1 = .complete →
    (parseDnsMessage body bodyComplete).2.message.isResponse = false →
    (parseDnsMessage body bodyComplete).2.questionKey sessionId direction = some key →
    key ∈ state.tracker.pending.map DnsPending.key →
    let outcome :=
      state.tracker.onMessage sessionId direction body bodyComplete completeAtNs observedAtNs
    outcome.emitted = [] ∧ outcome.state =
      { state.tracker with
        pending := state.tracker.pending.map fun entry =>
          if entry.key = key ∧ entry.transaction.queryRetries ≠ UInt32.ofNat (2 ^ 32 - 1) then
            entry.retried
          else entry }
  limit : ∀ sessionId,
    state.tracker.pendingCount sessionId ≤ state.tracker.config.maxPendingPerSession
  distinct : (state.tracker.pending.map DnsPending.key).Nodup
  budget : state.tracker.budget.used .moduleState =
    state.others + 4096 * (state.tracker.pending.length + state.results.length)

theorem Sound.once (holds : state.Sound) {query : DnsLabel} (accepted : query ∈ state.accepted) :
    (state.tracker.pending.map DnsPending.id).count query.1 +
      (state.history.map DnsResult.entityInstanceId).count query.1 = 1 := by
  have ids : state.labels.map Prod.fst =
      state.tracker.pending.map DnsPending.id ++
        state.history.map DnsResult.entityInstanceId := by
    unfold labels
    rw [List.map_append, List.map_map, List.map_map]
    rfl
  rw [← List.count_append, ← ids]
  exact List.count_eq_one_of_mem holds.identified
    (List.mem_map_of_mem (holds.accepted query accepted))

theorem Sound.repeated (holds : state.Sound) {arrival : DnsArrival}
    (pending : arrival.key ∈ state.tracker.pending.map DnsPending.key) :
    (state.tracker.onQuery arrival).emitted = [] ∧ (state.tracker.onQuery arrival).state =
      { state.tracker with
        pending := state.tracker.pending.map fun entry =>
          if entry.key = arrival.key ∧
              entry.transaction.queryRetries ≠ UInt32.ofNat (2 ^ 32 - 1) then entry.retried
          else entry } := by
  unfold DnsTracker.onQuery
  cases matched : state.tracker.matching arrival.key with
  | none => exact absurd pending (DnsTracker.matching_none matched)
  | some found =>
      obtain ⟨same, member, -⟩ := DnsTracker.matching_some matched
      have only : ∀ entry ∈ state.tracker.pending, entry.key = arrival.key → entry = found :=
        fun entry also sameKey =>
          List.inj_on_of_nodup_map holds.distinct also member (sameKey.trans same.symm)
      by_cases full : found.transaction.queryRetries = UInt32.ofNat (2 ^ 32 - 1)
      · simp only [if_pos full]
        refine ⟨rfl, ?_⟩
        have unchanged : (state.tracker.pending.map fun entry =>
            if entry.key = arrival.key ∧
                entry.transaction.queryRetries ≠ UInt32.ofNat (2 ^ 32 - 1) then entry.retried
            else entry) = state.tracker.pending := by
          refine (List.map_congr_left fun entry also => ?_).trans (List.map_id _)
          rw [if_neg]
          · rfl
          · rintro ⟨sameKey, notFull⟩
            rw [only entry also sameKey] at notFull
            exact notFull full
        rw [unchanged]
        rfl
      · simp only [if_neg full]
        refine ⟨rfl, ?_⟩
        rw [retryDns_eq_map holds.distinct]
        have counted : (state.tracker.pending.map fun entry =>
            if entry.key = arrival.key then entry.retried else entry) =
            state.tracker.pending.map fun entry =>
              if entry.key = arrival.key ∧
                  entry.transaction.queryRetries ≠ UInt32.ofNat (2 ^ 32 - 1) then entry.retried
              else entry := by
          refine List.map_congr_left fun entry also => ?_
          by_cases sameKey : entry.key = arrival.key
          · rw [only entry also sameKey, if_pos same, if_pos ⟨same, full⟩]
          · rw [if_neg sameKey, if_neg fun both => sameKey both.1]
        rw [counted]
        rfl

theorem Sound.answering (holds : state.Sound) : state.Answering where
  once := fun _ => holds.once
  repeated := by
    intro sessionId direction body bodyComplete completeAtNs observedAtNs key nonzero complete query
      keyed pending
    unfold DnsTracker.onMessage
    rw [if_neg nonzero]
    generalize parseDnsMessage body bodyComplete = message at complete query keyed ⊢
    obtain ⟨status, parsed⟩ := message
    simp only at complete query keyed
    subst complete
    simp only [keyed, query]
    exact holds.repeated pending
  limit := holds.limit
  distinct := holds.distinct
  budget := holds.held

theorem Sound.run {events : List DnsEvent} (holds : state.Sound)
    (guarded : Guarded step Orderly state events) : (state.run events).Sound :=
  guarded.invariant (fun _ event sound orderly => sound_step sound event orderly) holds

/-- After the end of its session a query has been answered. -/
theorem Sound.answered {sessionId : Nat} {observedAtNs : Int} {rest : List DnsEvent}
    {query : DnsLabel} (holds : state.Sound) (accepted : query ∈ state.accepted)
    (session : query.2 = sessionId)
    (guarded : Guarded step Orderly state (.sessionEnd sessionId observedAtNs :: rest))
    (ended : (state.tracker.onSessionEnd sessionId observedAtNs).error = none) :
    ((state.run (.sessionEnd sessionId observedAtNs :: rest)).history.map
      DnsResult.entityInstanceId).count query.1 = 1 := by
  have next := sound_step holds (.sessionEnd sessionId observedAtNs) guarded.1
  have last := next.run guarded.2
  have labelled := next.accepted query (List.mem_append_left _ accepted)
  have reported : query ∈ (state.step (.sessionEnd sessionId observedAtNs)).history.map
      DnsResult.label := by
    refine (List.mem_append.mp labelled).resolve_left fun pending => ?_
    obtain ⟨entry, member, same⟩ := List.mem_map.mp pending
    have here : entry ∈ (state.tracker.onSessionEnd sessionId observedAtNs).state.pendingOf
        sessionId := by
      refine List.mem_filter.mpr ⟨member, ?_⟩
      rw [← session, ← same]
      exact decide_eq_true rfl
    rw [DnsTracker.pendingOf_of_ended ended] at here
    cases here
  have history := (history_run (state.step (.sessionEnd sessionId observedAtNs)) rest).subset
  obtain ⟨result, member, same⟩ := List.mem_map.mp reported
  have still : query.1 ∈ ((state.run (.sessionEnd sessionId observedAtNs :: rest)).history.map
      DnsResult.entityInstanceId) := by
    rw [← same]
    exact List.mem_map_of_mem (history member)
  refine List.count_eq_one_of_mem (List.Nodup.sublist ?_ last.identified) still
  rw [labels, List.map_append, List.map_map, List.map_map]
  exact List.sublist_append_right _ _

/-- In an orderly run queries are answered once, and the limits and the budget hold: no session
ends while there is room for some of its results but not for all, and no result of its own is
reported when there are no identifiers left. -/
theorem queries_answered_once (config : DnsConfig) (budget : TaskBudget)
    (events more : List DnsEvent)
    (guarded : Guarded step Orderly (started config budget) (events ++ more)) :
    ((started config budget).run (events ++ more)).Answering ∧
      ∀ sessionId observedAtNs rest, more = .sessionEnd sessionId observedAtNs :: rest →
        (((started config budget).run events).tracker.onSessionEnd sessionId observedAtNs).error =
          none →
        ∀ query ∈ ((started config budget).run events).accepted, query.2 = sessionId →
          (((started config budget).run (events ++ more)).history.map
            DnsResult.entityInstanceId).count query.1 = 1 := by
  refine ⟨((started_sound config budget).run guarded).answering, ?_⟩
  rintro sessionId observedAtNs rest rfl ended query accepted session
  have split := guarded_append.mp guarded
  have answered := ((started_sound config budget).run split.1).answered accepted session split.2
    ended
  rw [run, List.foldl_append]
  exact answered

/-- The question "A", under this identifier. -/
def question (dnsId : UInt8) : List UInt8 :=
  [0, dnsId, 1, 0, 0, 1, 0, 0, 0, 0, 0, 0, 1, 65, 0, 0, 1, 0, 1]

/-- Room for three charges. -/
def crowdedBudget : TaskBudget :=
  ⟨{ maxTrackedBytes := 1048576 }, { sessionStateBytes := 253 * 4096 }⟩

def twoQueries : List DnsEvent :=
  [.message 7 .aToB (question 1) true (some 5) 5, .message 7 .aToB (question 2) true (some 6) 6]

/-- The session ends after another component has made room. -/
theorem queries_answered_once_two :
    (((started {} crowdedBudget).run
      (twoQueries ++ [.othersRelease .sessionState 4096] ++ [.sessionEnd 7 9])).history.map
        DnsResult.entityInstanceId).count 1 = 1 := by
  have guarded : Guarded step Orderly (started {} crowdedBudget)
      (twoQueries ++ [.othersRelease .sessionState 4096] ++ [.sessionEnd 7 9]) := by
    decide +kernel
  have ended : (((started {} crowdedBudget).run
      (twoQueries ++ [.othersRelease .sessionState 4096])).tracker.onSessionEnd 7 9).error =
        none := by
    decide +kernel
  have accepted : ((1, 7) : DnsLabel) ∈ ((started {} crowdedBudget).run
      (twoQueries ++ [.othersRelease .sessionState 4096])).accepted := by
    decide +kernel
  exact (queries_answered_once {} crowdedBudget _ _ guarded).2 7 9 [] rfl ended (1, 7) accepted rfl

/-- A session that ends when there is room for the first result but not for the second
reports the first one again. -/
theorem first_query_answered_twice :
    let state := (started {} crowdedBudget).run (twoQueries ++ [.sessionEnd 7 9, .releaseResults,
      .othersRelease .sessionState 4096, .sessionEnd 7 9])
    (1, 7) ∈ state.accepted ∧ state.tracker.pending = [] ∧
      state.history.map DnsResult.entityInstanceId = [1, 1, 2] := by
  decide +kernel

end DnsRun

end Flowsql.Npm
