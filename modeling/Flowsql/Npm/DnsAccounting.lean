import Flowsql.Npm.DnsTransactions
import Mathlib

/-!
# What a call to the DNS tracker does

Every call moves pending queries to results. What is pending afterwards and what is reported
is what was pending before and at most one new query or result, and the budget follows.
-/

namespace Flowsql.Npm

open Flowsql.Library

/-- A query or a result, by its identifier and its session. -/
abbrev DnsLabel := UInt64 × Nat

def DnsPending.label (entry : DnsPending) : DnsLabel := (entry.id, entry.sessionId)

def DnsResult.label (result : DnsResult) : DnsLabel := (result.entityInstanceId, result.sessionId)

@[simp] theorem DnsPending.label_queryResult (observedAtNs : Int) (reason : String)
    (entry : DnsPending) : (entry.queryResult observedAtNs reason).label = entry.label := rfl

@[simp] theorem DnsPending.label_retried (entry : DnsPending) : entry.retried.label = entry.label :=
  rfl

@[simp] theorem DnsPending.key_retried (entry : DnsPending) : entry.retried.key = entry.key := rfl

/-! ## The lists of pending queries -/

theorem enqueueDns_perm (entry : DnsPending) (pending : List DnsPending) :
    (enqueueDns entry pending).Perm (entry :: pending) := by
  induction pending with
  | nil => exact .refl _
  | cons first rest ih =>
      unfold enqueueDns
      split
      · exact .refl _
      · exact (ih.cons first).trans (.swap ..)

theorem retryDns_map {α : Type} (read : DnsPending → α)
    (kept : ∀ entry : DnsPending, read entry.retried = read entry) (key : DnsQuestionKey)
    (pending : List DnsPending) : (retryDns key pending).map read = pending.map read := by
  induction pending with
  | nil => rfl
  | cons first rest ih =>
      unfold retryDns
      split
      · rw [List.map_cons, List.map_cons, kept]
      · rw [List.map_cons, List.map_cons, ih]

/-- A question that is pending once is counted once. -/
theorem retryDns_eq_map {key : DnsQuestionKey} {pending : List DnsPending}
    (distinct : (pending.map DnsPending.key).Nodup) :
    retryDns key pending =
      pending.map fun entry => if entry.key = key then entry.retried else entry := by
  induction pending with
  | nil => rfl
  | cons first rest ih =>
      rw [List.map_cons, List.nodup_cons] at distinct
      unfold retryDns
      rw [List.map_cons]
      split
      · next same =>
          congr 1
          refine (List.map_id rest).symm.trans (List.map_congr_left fun entry member => ?_)
          have different : entry.key ≠ key := by
            intro also
            exact distinct.1 (same.trans also.symm ▸ List.mem_map_of_mem member)
          rw [if_neg different]
          rfl
      · rw [ih distinct.2]

namespace DnsTracker

variable {tracker charged : DnsTracker}

theorem matching_some {key : DnsQuestionKey} {found : DnsPending}
    (matched : tracker.matching key = some found) :
    found.key = key ∧ found ∈ tracker.pending ∧
      tracker.pending.Perm (found :: (tracker.erase key).pending) := by
  have same : found.key = key := by simpa using List.find?_some matched
  refine ⟨same, List.mem_of_find?_eq_some matched, ?_⟩
  obtain ⟨holds, before, after, split, earlier⟩ := List.find?_eq_some_iff_append.mp matched
  have erased : (tracker.erase key).pending = before ++ after := by
    unfold erase
    simp only
    rw [split, List.eraseP_append_right, List.eraseP_cons, holds]
    · rfl
    · intro entry member
      simpa using earlier entry member
  rw [erased, split]
  exact List.perm_middle

theorem matching_none {key : DnsQuestionKey} (unmatched : tracker.matching key = none) :
    key ∉ tracker.pending.map DnsPending.key := by
  intro member
  obtain ⟨entry, pending, same⟩ := List.mem_map.mp member
  have different := List.find?_eq_none.mp unmatched entry pending
  simp [same] at different

/-! ## Charges -/

/-- What the tracker and others have reserved of the state of modules. -/
def held (tracker : DnsTracker) : Nat := tracker.budget.used .moduleState

/-- The budget with other reservations of the state of modules. -/
def withHeld (bytes : Nat) (tracker : DnsTracker) : DnsTracker :=
  { tracker with budget := tracker.budget.withUsed .moduleState bytes }

@[simp] theorem held_withHeld (bytes : Nat) : (tracker.withHeld bytes).held = bytes :=
  TaskBudget.used_withUsed

@[simp] theorem withHeld_held : tracker.withHeld tracker.held = tracker := by
  simp [withHeld, held]

@[simp] theorem pending_withHeld (bytes : Nat) :
    (tracker.withHeld bytes).pending = tracker.pending := rfl

@[simp] theorem resultChargeBytes_withHeld (bytes : Nat) :
    (tracker.withHeld bytes).resultChargeBytes = tracker.resultChargeBytes := rfl

theorem chargePending_some (granted : tracker.chargePending = some charged) :
    charged = tracker.withHeld (tracker.held + dnsPendingCharge) := by
  unfold chargePending at granted
  split at granted
  · next budget outcome =>
      cases granted
      rw [TaskBudget.reserve_ok outcome]
      rfl
  · cases granted

theorem chargeResult_some (granted : tracker.chargeResult = some charged) :
    charged =
      { tracker.withHeld (tracker.held + dnsResultCharge) with
        resultChargeBytes := tracker.resultChargeBytes + dnsResultCharge } := by
  unfold chargeResult at granted
  split at granted
  · next budget outcome =>
      cases granted
      rw [TaskBudget.reserve_ok outcome]
      rfl
  · cases granted

theorem releasePending_eq {count : Nat} (owned : count * dnsPendingCharge ≤ tracker.held) :
    tracker.releasePending count = tracker.withHeld (tracker.held - count * dnsPendingCharge) := by
  unfold releasePending
  split
  · next zero => simp [zero]
  · rw [TaskBudget.release_eq owned]
    rfl

/-! ## Calls -/

/-- What a call does: the queries that were pending, and what is new, are pending or
reported. -/
structure Settles (before : DnsTracker) (outcome : DnsOutcome) (issued : List DnsLabel)
    (joined : List DnsQuestionKey) : Prop where
  config : outcome.state.config = before.config
  labels : (outcome.state.pending.map DnsPending.label ++
    outcome.emitted.map DnsResult.label).Perm (issued ++ before.pending.map DnsPending.label)
  keys : (outcome.state.pending.map DnsPending.key).Subperm
    (joined ++ before.pending.map DnsPending.key)
  held : outcome.state.held + 4096 * before.pending.length =
    before.held + 4096 * (outcome.state.pending.length + outcome.emitted.length)
  charge : outcome.state.resultChargeBytes =
    before.resultChargeBytes + 4096 * outcome.emitted.length

/-- A call that takes no identifier. -/
structure Kept (before : DnsTracker) (outcome : DnsOutcome) : Prop extends
    Settles before outcome [] [] where
  nextId : outcome.state.nextId = before.nextId

/-- A call that takes the next identifier for a query or a result of a session. -/
structure Issued (before : DnsTracker) (outcome : DnsOutcome) (sessionId : Nat)
    (joined : List DnsQuestionKey) : Prop extends
    Settles before outcome [(before.nextId, sessionId)] joined where
  remaining : before.nextId ≠ 0
  nextId : outcome.state.nextId = before.nextId + 1

theorem Kept.same {outcome : DnsOutcome} (emitted : outcome.emitted = [])
    (pending : outcome.state.pending = tracker.pending) (config : outcome.state.config = tracker.config)
    (held : outcome.state.held = tracker.held)
    (charge : outcome.state.resultChargeBytes = tracker.resultChargeBytes)
    (nextId : outcome.state.nextId = tracker.nextId) : tracker.Kept outcome where
  config := config
  labels := by
    rw [emitted, pending]
    simp
  keys := by
    rw [pending]
    exact .refl _
  held := by
    rw [emitted, pending, held]
    simp
  charge := by
    rw [emitted, charge]
    simp
  nextId := nextId

theorem Kept.refl (error : Option DnsError) : tracker.Kept ⟨error, tracker, []⟩ :=
  .same rfl rfl rfl rfl rfl rfl

/-- A pending query makes room for its result. -/
theorem chargeResult_release (granted : tracker.chargeResult = some charged)
    (pending : List DnsPending) :
    ({ charged with pending := pending }.releasePending 1) =
      { tracker with
        pending := pending
        resultChargeBytes := tracker.resultChargeBytes + dnsResultCharge } := by
  rw [chargeResult_some granted, releasePending_eq]
  · simp [withHeld, held, dnsPendingCharge, dnsResultCharge]
  · simp [withHeld, held, dnsPendingCharge, dnsResultCharge]

/-- One pending query is answered. -/
theorem Kept.answer {key : DnsQuestionKey} {found : DnsPending} {result : DnsResult}
    (granted : tracker.chargeResult = some charged) (matched : tracker.matching key = some found)
    (label : result.label = found.label) :
    tracker.Kept ⟨none, (charged.erase key).releasePending 1, [result]⟩ := by
  obtain ⟨-, -, perm⟩ := matching_some matched
  have state : (charged.erase key).releasePending 1 =
      { tracker with
        pending := (tracker.erase key).pending
        resultChargeBytes := tracker.resultChargeBytes + dnsResultCharge } := by
    have samePending : charged.pending = tracker.pending := by
      rw [chargeResult_some granted]
      rfl
    rw [← chargeResult_release granted, erase, erase, samePending]
  have length := perm.length_eq
  rw [List.length_cons] at length
  rw [state]
  refine ⟨⟨rfl, ?_, ?_, ?_, rfl⟩, rfl⟩
  · have moved := List.perm_append_singleton found.label
      ((tracker.erase key).pending.map DnsPending.label)
    simp only [List.map_cons, List.map_nil, label]
    exact moved.trans (perm.map DnsPending.label).symm
  · exact (((List.sublist_cons_self _ _).map DnsPending.key).subperm).trans
      (perm.map DnsPending.key).symm.subperm
  · simp only [held, length, List.length_singleton]

/-- Every loop that reports and erases keeps the books. -/
theorem finishWhere_kept {finishes : DnsPending → Bool} {report : DnsPending → DnsResult}
    (labels : ∀ entry, (report entry).label = entry.label) (entries : List DnsPending)
    (tracker : DnsTracker) :
    ({ tracker with pending := entries } : DnsTracker).Kept
      (finishWhere finishes report entries tracker) := by
  induction entries generalizing tracker with
  | nil => exact .refl _
  | cons entry rest ih =>
      unfold finishWhere
      split
      · split
        · exact .refl _
        · next charged granted =>
            have state := chargeResult_release granted charged.pending
            have later := ih (charged.releasePending 1)
            rw [state] at later ⊢
            refine ⟨⟨later.config, ?_, ?_, ?_, ?_⟩, later.nextId⟩
            · have moved := later.labels
              simp only [Emission.after, List.map_cons, labels, List.singleton_append,
                List.nil_append] at moved ⊢
              exact List.perm_middle.trans (moved.cons _)
            · exact later.keys.trans ((List.sublist_cons_self _ _).map DnsPending.key).subperm
            · have books := later.held
              simp only [Emission.after, List.length_append, List.length_cons, List.length_nil,
                held] at books ⊢
              omega
            · have books := later.charge
              simp only [Emission.after, List.length_append, List.length_cons, List.length_nil,
                dnsResultCharge] at books ⊢
              omega
      · have later := ih tracker
        refine ⟨⟨later.config, ?_, ?_, ?_, later.charge⟩, later.nextId⟩
        · exact later.labels.cons entry.label
        · exact (List.subperm_cons entry.key).mpr later.keys
        · have books := later.held
          simp only [Emission.mapState, List.length_cons, held] at books ⊢
          omega

/-- A result of its own. -/
theorem Issued.announce {sessionId : Nat} {result : DnsResult}
    (granted : tracker.chargeResult = some charged) (remaining : charged.nextId ≠ 0)
    (label : result.label = (charged.nextId, sessionId)) :
    tracker.Issued ⟨none, charged.afterNextId, [result]⟩ sessionId [] := by
  have chargedEq := chargeResult_some granted
  have nextId : charged.nextId = tracker.nextId := by
    rw [chargedEq]
    rfl
  have state : charged.afterNextId = { charged with nextId := charged.nextId + 1 } := by
    rw [afterNextId, if_neg remaining]
  rw [state]
  rw [nextId] at label remaining ⊢
  refine ⟨⟨?_, ?_, ?_, ?_, ?_⟩, remaining, rfl⟩
  · rw [chargedEq]
    rfl
  · have pending : charged.pending = tracker.pending := by
      rw [chargedEq]
      rfl
    simp only [pending, List.map_cons, List.map_nil, label]
    exact List.perm_append_singleton _ _
  · rw [chargedEq]
    exact .refl _
  · have books : charged.held = tracker.held + dnsResultCharge := by
      rw [chargedEq]
      exact held_withHeld _
    have pending : charged.pending = tracker.pending := by
      rw [chargedEq]
      rfl
    simp only [held, pending, List.length_singleton, dnsResultCharge] at books ⊢
    omega
  · rw [chargedEq]
    rfl

/-- A query joins the pending ones. -/
theorem Issued.join {entry : DnsPending} (granted : tracker.chargePending = some charged)
    (remaining : charged.nextId ≠ 0) (id : entry.id = charged.nextId) :
    tracker.Issued
      (.done { charged.afterNextId with pending := enqueueDns entry tracker.pending })
      entry.sessionId [entry.key] := by
  have chargedEq := chargePending_some granted
  have nextId : charged.nextId = tracker.nextId := by
    rw [chargedEq]
    rfl
  have state : charged.afterNextId = { charged with nextId := charged.nextId + 1 } := by
    rw [afterNextId, if_neg remaining]
  have perm := enqueueDns_perm entry tracker.pending
  rw [state]
  rw [nextId] at id remaining ⊢
  refine ⟨⟨?_, ?_, ?_, ?_, ?_⟩, remaining, rfl⟩
  · rw [chargedEq]
    rfl
  · have label : entry.label = (tracker.nextId, entry.sessionId) := by rw [DnsPending.label, id]
    rw [← label]
    simpa using perm.map DnsPending.label
  · exact (perm.map DnsPending.key).subperm
  · have books : charged.held = tracker.held + dnsPendingCharge := by
      rw [chargedEq]
      exact held_withHeld _
    have length := perm.length_eq
    simp only [held, List.length_cons, Emission.done, List.length_nil, dnsPendingCharge] at books length ⊢
    omega
  · rw [chargedEq]
    rfl

/-! ## Messages -/

/-- There is room for one more query of this question. -/
def Welcomes (tracker : DnsTracker) (key : DnsQuestionKey) : Prop :=
  key ∉ tracker.pending.map DnsPending.key ∧
    (tracker.pendingCount key.sessionId = 0 ∨
      tracker.pendingCount key.sessionId < tracker.config.maxPendingPerSession)

/-- What a call may do. -/
def Accounted (before : DnsTracker) (outcome : DnsOutcome) : Prop :=
  before.Kept outcome ∨ (∃ sessionId, before.Issued outcome sessionId []) ∨
    ∃ key, before.Issued outcome key.sessionId [key] ∧ before.Welcomes key

theorem onIncomplete_accounted (reason : String) (arrival : DnsArrival) (tracker : DnsTracker) :
    tracker.Accounted (tracker.onIncomplete reason arrival) := by
  refine Or.inl ?_
  unfold onIncomplete
  split
  · next found _ matched =>
      split
      · exact .refl _
      · next charged granted => exact .answer granted matched rfl
  · exact .refl _

theorem onQuery_accounted (arrival : DnsArrival) (same : arrival.key.sessionId = arrival.sessionId)
    (tracker : DnsTracker) : tracker.Accounted (tracker.onQuery arrival) := by
  unfold onQuery
  split
  · next found matched =>
      split
      · exact Or.inl (.refl _)
      · refine Or.inl ⟨⟨rfl, ?_, ?_, ?_, rfl⟩, rfl⟩
        · have labels := retryDns_map DnsPending.label DnsPending.label_retried arrival.key
            tracker.pending
          simp [Emission.done, labels]
        · have keys := retryDns_map DnsPending.key DnsPending.key_retried arrival.key
            tracker.pending
          simp only [Emission.done, keys]
          exact .refl _
        · have lengths := congrArg List.length
            (retryDns_map DnsPending.key DnsPending.key_retried arrival.key tracker.pending)
          rw [List.length_map, List.length_map] at lengths
          simp only [held, Emission.done, lengths, List.length_nil]
          omega
  · next unmatched =>
      split
      · exact Or.inl (.refl _)
      · next room =>
          split
          · exact Or.inl (.refl _)
          · next charged granted =>
              split
              · refine Or.inl ?_
                have owned : 1 * dnsPendingCharge ≤ charged.held := by
                  rw [chargePending_some granted, held_withHeld]
                  omega
                have state : charged.releasePending 1 = tracker := by
                  rw [releasePending_eq owned, chargePending_some granted]
                  simp [withHeld, held]
                rw [state]
                exact .refl _
              · next remaining =>
                  refine Or.inr (Or.inr ⟨arrival.key, .join granted remaining rfl,
                    matching_none unmatched, ?_⟩)
                  rw [same]
                  omega

/-- The message leads to a result with an identifier of its own. -/
def announces (sessionId : Nat) (direction : PacketDirection) (body : List UInt8)
    (bodyComplete : Bool) (tracker : DnsTracker) : Bool :=
  let (status, parsed) := parseDnsMessage body bodyComplete
  match parsed.questionKey sessionId direction, status with
  | some _, .unsupported => true
  | some key, .complete => parsed.message.isResponse && (tracker.matching key).isNone
  | _, _ => false

/-- A result of its own is only reported while there are identifiers. -/
def Identified (tracker : DnsTracker) : Prop :=
  tracker.nextId = 0 → tracker.chargeResult = none

theorem onUnsupported_accounted (arrival : DnsArrival) {tracker : DnsTracker}
    (identified : tracker.Identified) : tracker.Accounted (tracker.onUnsupported arrival) := by
  unfold onUnsupported
  split
  · exact Or.inl (.refl _)
  · next charged granted =>
      have remaining : charged.nextId ≠ 0 := by
        intro none_
        rw [chargeResult_some granted] at none_
        rw [identified none_] at granted
        cases granted
      rw [if_neg remaining]
      exact Or.inr (Or.inl ⟨arrival.sessionId, .announce granted remaining rfl⟩)

theorem onResponse_accounted (arrival : DnsArrival) {tracker : DnsTracker}
    (same : arrival.key.sessionId = arrival.sessionId)
    (identified : tracker.matching arrival.key = none → tracker.Identified) :
    tracker.Accounted (tracker.onResponse arrival) := by
  unfold onResponse
  split
  · exact Or.inl (.refl _)
  · next charged granted =>
      cases matched : tracker.matching arrival.key with
      | some found =>
          refine Or.inl (.answer granted matched ?_)
          have session : found.sessionId = arrival.sessionId := by
            rw [DnsPending.sessionId, (matching_some matched).1, same]
          rw [DnsPending.label, session]
          rfl
      | none =>
          have remaining : charged.nextId ≠ 0 := by
            intro none_
            rw [chargeResult_some granted] at none_
            rw [identified matched none_] at granted
            cases granted
          simp only [if_neg remaining]
          exact Or.inr (Or.inl ⟨arrival.sessionId, .announce granted remaining rfl⟩)

theorem onMessage_accounted (sessionId : Nat) (direction : PacketDirection) (body : List UInt8)
    (bodyComplete : Bool) (completeAtNs : Option Int) (observedAtNs : Int) {tracker : DnsTracker}
    (identified : tracker.announces sessionId direction body bodyComplete = true →
      tracker.Identified) :
    tracker.Accounted
      (tracker.onMessage sessionId direction body bodyComplete completeAtNs observedAtNs) := by
  unfold onMessage
  unfold announces at identified
  split
  · exact Or.inl (.refl _)
  · generalize parseDnsMessage body bodyComplete = message at identified ⊢
    obtain ⟨status, parsed⟩ := message
    simp only at identified ⊢
    split
    · exact Or.inl (.refl _)
    · next key keyed =>
        rw [keyed] at identified
        have same := questionKey_sessionId keyed
        cases status with
        | malformed => exact onIncomplete_accounted ..
        | captureTruncated => exact onIncomplete_accounted ..
        | unsupported => exact onUnsupported_accounted _ (identified rfl)
        | complete =>
            simp only
            split
            · next response =>
                refine onResponse_accounted _ same fun unmatched => identified ?_
                simp [response, unmatched]
            · exact onQuery_accounted _ same _

/-! ## The end of a session -/

/-- The budget has room for this many results. -/
def admits : Nat → TaskBudget → Bool
  | 0, _ => true
  | count + 1, budget =>
      match budget.reserve .moduleState dnsResultCharge with
      | (.none, next) => admits count next
      | _ => false

theorem reportAll_admitted {report : DnsPending → DnsResult} {entries : List DnsPending}
    {tracker : DnsTracker} (admitted : admits entries.length tracker.budget = true) :
    reportAll report entries tracker =
      ⟨none,
        { tracker.withHeld (tracker.held + entries.length * dnsResultCharge) with
          resultChargeBytes := tracker.resultChargeBytes + entries.length * dnsResultCharge },
        entries.map report⟩ := by
  induction entries generalizing tracker with
  | nil => simp [reportAll, Emission.done, withHeld, held]
  | cons entry rest ih =>
      rw [List.length_cons, admits] at admitted
      unfold reportAll chargeResult
      split at admitted
      · next budget outcome =>
          have budgetEq := TaskBudget.reserve_ok outcome
          simp only [outcome]
          rw [ih admitted, budgetEq]
          simp only [Emission.after, withHeld, held, TaskBudget.used_withUsed,
            TaskBudget.withUsed_withUsed, List.length_cons, List.map_cons, List.singleton_append,
            Nat.succ_mul]
          congr 2
          · congr 1
            omega
          · omega
      · cases admitted

theorem reportAll_refused {report : DnsPending → DnsResult} {entry : DnsPending}
    {rest : List DnsPending} {tracker : DnsTracker} (refused : ¬ admits 1 tracker.budget = true) :
    reportAll report (entry :: rest) tracker = ⟨some .noSpace, tracker, []⟩ := by
  unfold reportAll chargeResult
  unfold admits at refused
  split
  · rfl
  · next charged granted =>
      split at granted
      · next budget outcome =>
          simp [outcome, admits] at refused
      · cases granted

theorem chargeResult_none (refused : ¬ admits 1 tracker.budget = true) :
    tracker.chargeResult = none := by
  unfold chargeResult
  unfold admits at refused
  split
  · next budget outcome => simp [outcome, admits] at refused
  · rfl

/-- A session ends as a whole or not at all, if there is room for all results or for none. -/
theorem onSessionEnd_kept (sessionId : Nat) (observedAtNs : Int) {tracker : DnsTracker}
    (room : admits 1 tracker.budget = true →
      admits (tracker.pendingCount sessionId) tracker.budget = true) :
    tracker.Kept (tracker.onSessionEnd sessionId observedAtNs) := by
  unfold onSessionEnd
  split
  · exact .refl _
  · by_cases admitted : admits (tracker.pendingCount sessionId) tracker.budget = true
    · rw [reportAll_admitted admitted, Emission.andThen_of_none rfl]
      have length : (tracker.pendingOf sessionId).length = tracker.pendingCount sessionId := rfl
      have split := List.filter_append_perm (fun entry : DnsPending => entry.sessionId = sessionId)
        tracker.pending
      have negated : (tracker.pending.filter fun entry => !decide (entry.sessionId = sessionId)) =
          tracker.pending.filter fun entry => entry.sessionId ≠ sessionId := by
        simp
      rw [negated] at split
      simp only [length]
      rw [releasePending_eq]
      · refine ⟨⟨rfl, ?_, ?_, ?_, ?_⟩, rfl⟩
        · have moved := (List.perm_append_comm.trans split).map DnsPending.label
          simp only [Emission.after, Emission.done, List.append_nil, List.map_map, pending_withHeld,
            List.nil_append]
          rw [List.map_append] at moved
          exact moved
        · exact (List.filter_sublist.map DnsPending.key).subperm
        · have total := split.length_eq
          rw [List.length_append] at total
          change tracker.pendingCount sessionId + _ = _ at total
          simp only [Emission.after, Emission.done, List.append_nil, List.length_map,
            pending_withHeld, held_withHeld, length]
          simp only [held, withHeld, TaskBudget.used_withUsed, dnsResultCharge, dnsPendingCharge]
          omega
        · simp only [Emission.after, Emission.done, List.append_nil, List.length_map,
            resultChargeBytes_withHeld, length, dnsResultCharge]
          omega
      · simp only [held, withHeld, TaskBudget.used_withUsed, dnsResultCharge, dnsPendingCharge]
        omega
    · have refused : ¬ admits 1 tracker.budget = true := fun some_ => admitted (room some_)
      cases entries : tracker.pendingOf sessionId with
      | nil =>
          have none_ : tracker.pendingCount sessionId = 0 := congrArg List.length entries
          exact absurd (by rw [none_]; rfl) admitted
      | cons entry rest =>
          rw [reportAll_refused refused]
          exact .refl _

/-- A session that has ended has no pending queries. -/
theorem pendingOf_of_ended {sessionId : Nat} {observedAtNs : Int}
    (ended : (tracker.onSessionEnd sessionId observedAtNs).error = none) :
    (tracker.onSessionEnd sessionId observedAtNs).state.pendingOf sessionId = [] := by
  unfold onSessionEnd at ended ⊢
  split
  · next zero => simp [zero] at ended
  · next nonzero =>
      rw [if_neg nonzero] at ended
      generalize reportAll (DnsPending.queryResult observedAtNs "session_end")
        (tracker.pendingOf sessionId) tracker = reported at ended ⊢
      obtain ⟨error, charged, emitted⟩ := reported
      cases error with
      | some error => cases ended
      | none =>
          have pending : ∀ (count : Nat) (tracker : DnsTracker),
              (tracker.releasePending count).pending = tracker.pending := by
            intro count tracker
            unfold releasePending
            split <;> rfl
          simp only [Emission.andThen, Emission.done, pendingOf, pending, List.filter_filter]
          simp

end DnsTracker

end Flowsql.Npm
