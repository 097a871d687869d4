import Flowsql.Baseliner.FilledBuckets

/-!
# Filling a whole dataset

Every row and every end of a bucket keeps what is known of the observations of an identity. When the dataset
ends, an identity has all buckets or none. A zero stands for rows that were seen where these were skipped.
-/

namespace Flowsql.Baseliner.Buckets

namespace Dataset

variable {Row σ Payload : Type} {dataset : Dataset Row σ Payload}
variable {index other : Nat} {metric : Metric Row σ Payload} {identity : String} {bucket : Int}
variable {output next : Output Row σ Payload} {observation : Observation Payload}

/-! ## The end of a bucket -/

theorem append_eq_some {observations : List (Observation Payload)}
    (appended : dataset.append observations output = some next) : next = (output.1, output.2 ++ observations) := by
  unfold append at appended
  split at appended
  · exact (Option.some.inj appended).symm
  · cases appended

theorem publish_eq_some (fill : dataset.fillMissingZero = true)
    (done : dataset.publish index metric observation output = some next) :
    next = ({ output.1 with
        emitted := Function.update output.1.emitted index
          ((output.1.emitted index).insert observation.identity observation.bucket) },
      output.2 ++ zeros index metric observation.identity
        (((output.1.emitted index).lookup observation.identity).elim dataset.scope.1 (· + 1)) observation.bucket ++
        [observation]) := by
  unfold publish at done
  rw [if_pos fill] at done
  obtain ⟨middle, zeroed, done⟩ := Option.bind_eq_some_iff.mp done
  obtain rfl := append_eq_some zeroed
  dsimp only at done
  split at done
  · cases done
  · exact append_eq_some done

theorem published_append (left right : List (Observation Payload)) :
    published index identity (left ++ right) = published index identity left ++ published index identity right :=
  List.filter_append ..

theorem published_own {observations : List (Observation Payload)}
    (own : ∀ observation ∈ observations, observation.metric = index ∧ observation.identity = identity) :
    published index identity observations = observations :=
  List.filter_eq_self.mpr fun observation mem => decide_eq_true (own observation mem)

theorem published_foreign {observations : List (Observation Payload)}
    (foreign : ∀ observation ∈ observations, ¬(observation.metric = index ∧ observation.identity = identity)) :
    published index identity observations = [] :=
  List.filter_eq_nil_iff.mpr fun observation mem wrong => foreign observation mem (of_decide_eq_true wrong)

theorem of_mem_zeros {low high : Int} (mem : observation ∈ zeros index metric identity low high) :
    observation.metric = index ∧ observation.identity = identity := by
  obtain ⟨bucket, -, rfl⟩ := List.mem_map.mp mem
  exact ⟨rfl, rfl⟩

/-- Publishing for one identity changes nothing of the others. -/
theorem publish_foreign (fill : dataset.fillMissingZero = true) {at_ : Nat} (own : observation.metric = at_)
    (foreign : ¬(at_ = index ∧ observation.identity = identity))
    (done : dataset.publish at_ metric observation output = some next) :
    view index identity next = view index identity output := by
  obtain rfl := publish_eq_some fill done
  have zero := @published_foreign _ index identity (zeros at_ metric observation.identity
    (((output.1.emitted at_).lookup observation.identity).elim dataset.scope.1 (· + 1)) observation.bucket)
    fun other mem wrong => foreign ⟨(of_mem_zeros mem).1.symm.trans wrong.1, (of_mem_zeros mem).2.symm.trans wrong.2⟩
  have alone : published index identity [observation] = [] := by
    refine published_foreign fun other mem wrong => ?_
    obtain rfl := List.mem_singleton.mp mem
    exact foreign ⟨own.symm.trans wrong.1, wrong.2⟩
  unfold view
  dsimp only
  rw [published_append, published_append, zero, alone, List.append_nil, List.append_nil]
  by_cases same : index = at_
  · obtain rfl := same
    have different : identity ≠ observation.identity := fun wrong => foreign ⟨rfl, wrong.symm⟩
    rw [Function.update_self, AList.lookup_insert_ne different]
  · rw [Function.update_of_ne same]

theorem closeIdentity_foreign (fill : dataset.fillMissingZero = true) {at_ : Nat} {entry : (_ : String) × σ}
    (foreign : ¬(at_ = index ∧ entry.1 = identity))
    (closed : dataset.closeIdentity at_ metric bucket output entry = some next) :
    view index identity next = view index identity output := by
  unfold closeIdentity at closed
  split at closed
  · exact publish_foreign fill rfl foreign closed
  · cases closed
    rfl
  · cases closed

/-- What is known before and behind the end of a bucket, with the observations of earlier calls. -/
def FilledView (dataset : Dataset Row σ Payload) (earlier : List (Observation Payload))
    (metric : Metric Row σ Payload × Nat) (seen : List Row) (identity : String) (bound : Int)
    (output : Output Row σ Payload) : Prop :=
  dataset.Filled metric.2 metric.1 seen identity bound ((output.1.emitted metric.2).lookup identity)
    (published metric.2 identity (earlier ++ output.2))

variable {earlier : List (Observation Payload)}

theorem FilledView.congr {metric : Metric Row σ Payload × Nat} {seen : List Row} {bound : Int}
    (filled : dataset.FilledView earlier metric seen identity bound output)
    (same : view metric.2 identity next = view metric.2 identity output) :
    dataset.FilledView earlier metric seen identity bound next := by
  have parts := Prod.mk.inj (Prod.mk.inj same).2
  unfold FilledView
  rw [published_append, parts.1, parts.2, ← published_append]
  exact filled

variable {seen : List Row} {entry : Metric Row σ Payload × Nat}

theorem closeIdentity_own (fill : dataset.fillMissingZero = true) {state : σ}
    (filled : dataset.FilledView earlier entry seen identity bucket output) (least : dataset.scope.1 ≤ bucket)
    (known : dataset.group entry.1 seen identity bucket = some state)
    (closed : dataset.closeIdentity entry.2 entry.1 bucket output ⟨identity, state⟩ = some next) :
    dataset.FilledView earlier entry seen identity (bucket + 1) next := by
  unfold closeIdentity at closed
  split at closed
  · rename_i payload finished
    obtain rfl := publish_eq_some fill closed
    have value : dataset.value entry.1 seen identity bucket = some payload := by
      unfold value
      rw [known, Option.bind_some]
      dsimp only at finished ⊢
      rw [finished]
    have after := filled.publish least value
    have zero := @published_own _ entry.2 identity (zeros entry.2 entry.1 identity
      (((output.1.emitted entry.2).lookup identity).elim dataset.scope.1 (· + 1)) bucket)
      fun other mem => of_mem_zeros mem
    have alone : published entry.2 identity [(⟨entry.2, identity, bucket, payload, false⟩ : Observation Payload)] =
        [⟨entry.2, identity, bucket, payload, false⟩] :=
      published_own fun other mem => by
        obtain rfl := List.mem_singleton.mp mem
        exact ⟨rfl, rfl⟩
    unfold FilledView
    dsimp only
    rw [← List.append_assoc, ← List.append_assoc, published_append, published_append, zero, alone,
      Function.update_self, AList.lookup_insert]
    exact after
  · rename_i skipped
    cases closed
    refine filled.later (by omega) fun other more less => ?_
    obtain rfl : other = bucket := by omega
    unfold value
    rw [known, Option.bind_some]
    dsimp only at skipped ⊢
    rw [skipped]
  · cases closed

theorem closeMetric_foreign (fill : dataset.fillMissingZero = true) (foreign : entry.2 ≠ index)
    (closed : dataset.closeMetric bucket output entry = some next) :
    view index identity next = view index identity output := by
  obtain ⟨folded, done, rfl⟩ := Option.map_eq_some_iff.mp closed
  have same := foldlM_keeps (view index identity)
    (fun _ _ _ => closeIdentity_foreign fill fun wrong => foreign wrong.1) done
  rw [← same]
  unfold view
  dsimp only
  rw [Function.update_of_ne foreign.symm]

theorem closeMetric_own (fill : dataset.fillMissingZero = true)
    (filled : dataset.FilledView earlier entry seen identity bucket output) (least : dataset.scope.1 ≤ bucket)
    (known : (output.1.states entry.2).lookup identity = dataset.group entry.1 seen identity bucket)
    (closed : dataset.closeMetric bucket output entry = some next) :
    dataset.FilledView earlier entry seen identity (bucket + 1) next ∧ (next.1.states entry.2).lookup identity = none := by
  obtain ⟨folded, done, rfl⟩ := Option.map_eq_some_iff.mp closed
  dsimp only
  refine ⟨?_, by rw [Function.update_self]; exact AList.lookup_empty _⟩
  obtain ⟨absent, present⟩ := foldlM_view (fun entry : (_ : String) × σ => entry.1) (view entry.2 identity) identity
    (fun _ _ _ away => closeIdentity_foreign fill fun wrong => away wrong.2)
    (nodup_inOrder (output.1.states entry.2)) done
  have after : dataset.FilledView earlier entry seen identity (bucket + 1) folded := by
    rcases found : (output.1.states entry.2).lookup identity with _ | state
    · have missing : identity ∉ (inOrder (output.1.states entry.2)).map (·.1) := by
        intro mem
        obtain ⟨⟨_, state⟩, inside, rfl⟩ := List.mem_map.mp mem
        rw [mem_inOrder.mp inside] at found
        cases found
      refine FilledView.congr (filled.later (by omega) fun other more less => ?_) (absent missing)
      obtain rfl : other = bucket := by omega
      unfold value
      rw [← known, found]
      rfl
    · obtain ⟨before, now, started, ran, ended⟩ := present ⟨identity, state⟩ (mem_inOrder.mpr found) rfl
      have value := closeIdentity_own fill (filled.congr started) least (known.symm.trans found) ran
      exact value.congr ended
  exact after

/-- What the end of a bucket leaves alone. -/
def seenAt (output : Output Row σ Payload) : List Row × Option Int :=
  (output.1.seen, output.1.bucket)

theorem publish_keeps {at_ : Nat} (done : dataset.publish at_ metric observation output = some next) :
    seenAt next = seenAt output := by
  unfold publish at done
  split at done
  · obtain ⟨middle, zeroed, done⟩ := Option.bind_eq_some_iff.mp done
    obtain rfl := append_eq_some zeroed
    dsimp only at done
    split at done
    · cases done
    · rw [append_eq_some done]
      rfl
  · rw [append_eq_some done]
    rfl

theorem closeMetric_keeps (closed : dataset.closeMetric bucket output entry = some next) :
    seenAt next = seenAt output := by
  obtain ⟨folded, ran, rfl⟩ := Option.map_eq_some_iff.mp closed
  refine Eq.trans ?_ (foldlM_keeps seenAt (fun before state after done => ?_) ran)
  · rfl
  · unfold closeIdentity at done
    split at done
    · exact publish_keeps done
    · cases done
      rfl
    · cases done

theorem close_keeps (closed : dataset.close output = some next) : seenAt next = seenAt output := by
  unfold close at closed
  split at closed
  · cases closed
    rfl
  · refine (foldlM_keeps seenAt (fun _ _ _ => closeMetric_keeps) closed).trans ?_
    unfold seenAt
    split <;> rfl

theorem close_filled (fill : dataset.fillMissingZero = true) (mem : entry ∈ dataset.metrics.zipIdx)
    (here : output.1.bucket = some bucket) (least : dataset.scope.1 ≤ bucket)
    (filled : dataset.FilledView earlier entry seen identity bucket output)
    (known : (output.1.states entry.2).lookup identity = dataset.group entry.1 seen identity bucket)
    (closed : dataset.close output = some next) :
    dataset.FilledView earlier entry seen identity (bucket + 1) next ∧ (next.1.states entry.2).lookup identity = none := by
  unfold close at closed
  rw [here] at closed
  dsimp only at closed
  have start : view entry.2 identity (if dataset.latestRevision then output.1 else { output.1 with dedup := ∅ },
      output.2) = view entry.2 identity output := by
    unfold view
    split <;> rfl
  obtain ⟨-, present⟩ := foldlM_view (fun entry : Metric Row σ Payload × Nat => entry.2)
    (view entry.2 identity) entry.2 (fun _ _ _ away => closeMetric_foreign fill away)
    (nodup_zipIdx dataset.metrics) closed
  obtain ⟨before, now, started, ran, ended⟩ := present entry mem rfl
  have same := started.trans start
  have states := congrArg Prod.fst same
  unfold view at states
  dsimp only at states
  obtain ⟨after, empty⟩ := closeMetric_own fill (filled.congr same) least (by rw [states]; exact known) ran
  have last := congrArg Prod.fst ended
  unfold view at last
  dsimp only at last
  exact ⟨after.congr ended, by rw [last]; exact empty⟩

/-! ## Rows -/

variable {row : Row}

/-- The bucket up to which everything is known. -/
def bound (dataset : Dataset Row σ Payload) (output : Output Row σ Payload) : Int :=
  output.1.bucket.getD dataset.scope.1

/-- What is known while the rows of a dataset arrive. -/
structure Known (dataset : Dataset Row σ Payload) (earlier : List (Observation Payload))
    (output : Output Row σ Payload) : Prop where
  rows : ∀ row ∈ output.1.seen, ∃ target ≤ dataset.bound output, dataset.target row = some target ∧
    dataset.scope.1 ≤ target ∧ target < dataset.scope.2
  idle : output.1.bucket = none → output.1.seen = []
  least : dataset.scope.1 ≤ dataset.bound output
  most : output.1.bucket ≠ none → dataset.bound output < dataset.scope.2
  states : ∀ entry ∈ dataset.metrics.zipIdx, ∀ identity, (output.1.states entry.2).lookup identity =
    dataset.group entry.1 output.1.seen identity (dataset.bound output)
  filled : ∀ entry ∈ dataset.metrics.zipIdx, ∀ identity,
    dataset.FilledView earlier entry output.1.seen identity (dataset.bound output) output

theorem group_none (foreign : ∀ row ∈ seen, dataset.target row ≠ some bucket) :
    dataset.group metric seen identity bucket = none := by
  unfold group
  rw [List.filter_eq_nil_iff.mpr fun row mem wrong => foreign row mem (of_decide_eq_true wrong).2]
  rfl

theorem value_none (foreign : ∀ row ∈ seen, dataset.target row ≠ some bucket) :
    dataset.value metric seen identity bucket = none := by
  unfold value
  rw [group_none foreign]
  rfl

theorem group_append (metric : Metric Row σ Payload) (seen : List Row) (identity : String) (bucket : Int) :
    dataset.group metric (seen ++ [row]) identity bucket =
      if metric.identity row = identity ∧ dataset.target row = some bucket then
        match metric.add (dataset.group metric seen identity bucket) row with
        | .value next => some next
        | _ => dataset.group metric seen identity bucket
      else dataset.group metric seen identity bucket := by
  unfold group
  rw [List.filter_append, List.foldl_append, List.filter_singleton]
  by_cases own : metric.identity row = identity ∧ dataset.target row = some bucket
  · rw [if_pos own, decide_eq_true own]
    rfl
  · rw [if_neg own, decide_eq_false own]
    rfl

theorem Known.start (dataset : Dataset Row σ Payload) : dataset.Known [] ({}, []) where
  rows := List.forall_mem_nil _
  idle := fun _ => rfl
  least := le_refl _
  most := fun wrong => absurd rfl wrong
  states := fun _ _ _ => (AList.lookup_empty _).trans (group_none (List.forall_mem_nil _)).symm
  filled := fun _ _ _ => ⟨rfl, fun _ _ => value_none (List.forall_mem_nil _)⟩

/-- The next bucket begins. -/
theorem Known.advance (fill : dataset.fillMissingZero = true) (known : dataset.Known earlier output) {target : Int}
    (inside : dataset.scope.1 ≤ target ∧ target < dataset.scope.2)
    (later : ∀ bucket, output.1.bucket = some bucket → bucket < target)
    (closed : dataset.close output = some next) :
    dataset.Known earlier ({ next.1 with bucket := some target }, next.2) := by
  have kept := Prod.mk.inj (close_keeps closed)
  have older : ∀ row ∈ output.1.seen, ∀ bucket, dataset.bound output < bucket → dataset.target row ≠ some bucket := by
    intro row mem bucket more wrong
    obtain ⟨_, least, same, -⟩ := known.rows row mem
    have := Option.some.inj (same.symm.trans wrong)
    omega
  have before : ∀ row ∈ output.1.seen, ∀ bucket, target ≤ bucket → dataset.target row ≠ some bucket := by
    intro row mem bucket more
    rcases here : output.1.bucket with _ | current
    · rw [known.idle here] at mem
      cases mem
    · refine older row mem bucket ?_
      have := later current here
      unfold bound
      rw [here, Option.getD_some]
      omega
  have views : ∀ entry ∈ dataset.metrics.zipIdx, ∀ identity,
      dataset.FilledView earlier entry output.1.seen identity target next ∧ (next.1.states entry.2).lookup identity = none := by
    intro entry mem identity
    have filled := known.filled entry mem identity
    have states := known.states entry mem identity
    rcases here : output.1.bucket with _ | current
    · have same : next = output := by
        unfold close at closed
        rw [here] at closed
        exact (Option.some.inj closed).symm
      rw [same]
      have none_ := known.idle here
      unfold bound at filled
      rw [here] at filled
      refine ⟨filled.later inside.1 fun bucket _ _ => value_none fun row wrong => ?_, ?_⟩
      · rw [none_] at wrong
        cases wrong
      · rw [states]
        refine group_none fun row wrong => ?_
        rw [none_] at wrong
        cases wrong
    · have at_ : dataset.bound output = current := by
        unfold bound
        rw [here]
        rfl
      rw [at_] at filled states older
      obtain ⟨after, empty⟩ := close_filled fill mem here (at_ ▸ known.least) filled states closed
      have less := later current here
      exact ⟨after.later (by omega) fun bucket more _ => value_none fun row mem => older row mem bucket (by omega),
        empty⟩
  refine ⟨?_, fun wrong => absurd wrong (Option.some_ne_none _), inside.1, fun _ => inside.2, ?_, ?_⟩
  · rw [kept.1]
    intro row mem
    obtain ⟨old, -, same, range⟩ := known.rows row mem
    refine ⟨old, ?_, same, range⟩
    by_contra more
    exact before row mem old (not_le.mp more).le same
  · intro entry mem identity
    dsimp only
    rw [kept.1]
    exact (views entry mem identity).2.trans (group_none fun row mem => before row mem target (le_refl _)).symm
  · intro entry mem identity
    dsimp only
    rw [kept.1]
    exact (views entry mem identity).1

/-- One metric of a row. -/
theorem addMetric_states {state after : Aggregate Row σ} (added : dataset.addMetric row state entry = some after) :
    (after.bucket, after.emitted, after.seen) = (state.bucket, state.emitted, state.seen) ∧
      (∀ index ≠ entry.2, after.states index = state.states index) ∧
      ∀ identity, (after.states entry.2).lookup identity =
        if entry.1.identity row = identity then
          match entry.1.add ((state.states entry.2).lookup identity) row with
          | .value next => some next
          | _ => (state.states entry.2).lookup identity
        else (state.states entry.2).lookup identity := by
  unfold addMetric at added
  dsimp only at added
  split at added
  · rename_i value known
    split at added
    · cases added
    · cases added
      refine ⟨rfl, fun index away => Function.update_of_ne away _ _, fun identity => ?_⟩
      dsimp only
      rw [Function.update_self]
      by_cases own : entry.1.identity row = identity
      · rw [← own, if_pos rfl, known, AList.lookup_insert]
      · rw [if_neg own, AList.lookup_insert_ne (Ne.symm own)]
  · rename_i known
    cases added
    refine ⟨rfl, fun _ _ => rfl, fun identity => ?_⟩
    by_cases own : entry.1.identity row = identity
    · rw [← own, if_pos rfl, known]
    · rw [if_neg own]
  · cases added

theorem Known.addFact {fact : String × String} (known : dataset.Known earlier output) {target : Int}
    (here : output.1.bucket = some target) (selected : dataset.target row = some target)
    (added : dataset.addFact row fact output = some next) : dataset.Known earlier next := by
  unfold Dataset.addFact at added
  split at added
  · obtain ⟨state, folded, rfl⟩ := Option.map_eq_some_iff.mp added
    have kept := foldlM_keeps (fun state : Aggregate Row σ => (state.bucket, state.emitted, state.seen))
      (fun _ _ _ done => (addMetric_states done).1) folded
    obtain ⟨bucket, emitted, seen⟩ := Prod.mk.inj kept |>.imp_right Prod.mk.inj
    have at_ : dataset.bound output = target := by
      unfold bound
      rw [here]
      rfl
    have now : dataset.bound (state, output.2) = target := by
      unfold bound
      dsimp only at bucket ⊢
      rw [bucket, here]
      rfl
    have inside : dataset.scope.1 ≤ target ∧ target < dataset.scope.2 :=
      ⟨at_ ▸ known.least, at_ ▸ known.most (by rw [here]; exact Option.some_ne_none _)⟩
    refine ⟨?_, fun wrong => ?_, now ▸ inside.1, fun _ => now ▸ inside.2, ?_, ?_⟩
    · rw [now]
      dsimp only
      rw [seen, List.forall_mem_append, List.forall_mem_singleton]
      exact ⟨at_ ▸ known.rows, target, le_refl _, selected, inside⟩
    · dsimp only at wrong bucket
      rw [wrong, here] at bucket
      cases bucket
    · intro entry mem identity
      obtain ⟨-, present⟩ := foldlM_view (fun entry : Metric Row σ Payload × Nat => entry.2)
        (fun state : Aggregate Row σ => state.states entry.2) entry.2
        (fun _ _ _ away done => (addMetric_states done).2.1 _ (Ne.symm away)) (nodup_zipIdx dataset.metrics) folded
      obtain ⟨before, after, started, ran, ended⟩ := present entry mem rfl
      dsimp only at started ended
      have states := (addMetric_states ran).2.2 identity
      have old := known.states entry mem identity
      rw [at_] at old
      dsimp only
      rw [ended, states, started, seen, now, group_append, old]
      by_cases own : entry.1.identity row = identity
      · rw [if_pos own, if_pos ⟨own, selected⟩]
      · rw [if_neg own, if_neg fun wrong => own wrong.1]
    · intro entry mem identity
      have old := known.filled entry mem identity
      rw [at_] at old
      unfold FilledView at old ⊢
      rw [now]
      dsimp only
      rw [emitted, seen]
      refine old.congr fun bucket less => ?_
      unfold value
      rw [group_append, if_neg]
      rintro ⟨-, wrong⟩
      have := Option.some.inj (selected.symm.trans wrong)
      omega
  · cases added

theorem Known.reach (fill : dataset.fillMissingZero = true) (known : dataset.Known earlier output) {target : Int}
    (inside : dataset.scope.1 ≤ target ∧ target < dataset.scope.2)
    (reached : dataset.reach target output = some next) :
    dataset.Known earlier ({ next.1 with bucket := some target }, next.2) := by
  unfold Dataset.reach at reached
  split at reached
  · rename_i none_
    cases reached
    refine known.advance fill inside (fun bucket wrong => ?_) ?_
    · rw [none_] at wrong
      cases wrong
    · unfold close
      rw [none_]
  · rename_i bucket here
    split at reached
    · cases reached
    · split at reached
      · rename_i more
        refine known.advance fill inside (fun other same => ?_) reached
        rw [here] at same
        exact Option.some.inj same ▸ more
      · cases reached
        obtain rfl : bucket = target := by omega
        have same : ({ output.1 with bucket := some bucket }, output.2) = output := by rw [← here]
        rwa [same]

theorem Known.add (fill : dataset.fillMissingZero = true) (known : dataset.Known earlier output)
    (added : dataset.add output row = some next) : dataset.Known earlier next := by
  unfold Dataset.add at added
  obtain ⟨selected, -, added⟩ := Option.bind_eq_some_iff.mp added
  split at added
  · cases added
    exact known
  · obtain ⟨target, targeted, added⟩ := Option.bind_eq_some_iff.mp added
    split at added
    · cases added
    · rename_i inside
      rw [not_or, not_lt, not_le] at inside
      obtain ⟨closed, closing, added⟩ := Option.bind_eq_some_iff.mp added
      obtain ⟨fact, -, added⟩ := Option.bind_eq_some_iff.mp added
      have moved := known.reach fill inside closing
      split at added
      · split at added
        · cases added
          exact moved
        · cases added
      · exact moved.addFact rfl targeted added

theorem Known.addAll (fill : dataset.fillMissingZero = true) {rows : List Row}
    (known : dataset.Known earlier output) (added : rows.foldlM dataset.add output = some next) :
    dataset.Known earlier next := by
  induction rows generalizing output with
  | nil =>
      cases added
      exact known
  | cons row rows ih =>
      rw [List.foldlM_cons] at added
      obtain ⟨middle, first, rest⟩ := Option.bind_eq_some_iff.mp added
      exact ih (known.add fill first) rest

/-- The observations of a call are earlier ones for the next call. -/
theorem Known.returned (known : dataset.Known earlier output) :
    dataset.Known (earlier ++ output.2) (output.1, []) where
  rows := known.rows
  idle := known.idle
  least := known.least
  most := known.most
  states := known.states
  filled := fun entry mem identity => by
    have filled := known.filled entry mem identity
    unfold FilledView at filled ⊢
    rwa [List.append_nil]

theorem Known.pushAll (fill : dataset.fillMissingZero = true) {batches : List (List Row)}
    (known : dataset.Known output.2 (output.1, [])) (pushed : batches.foldlM dataset.push output = some next) :
    dataset.Known next.2 (next.1, []) := by
  induction batches generalizing output with
  | nil =>
      cases pushed
      exact known
  | cons batch batches ih =>
      rw [List.foldlM_cons] at pushed
      obtain ⟨middle, first, rest⟩ := Option.bind_eq_some_iff.mp pushed
      obtain ⟨last, added, rfl⟩ := Option.map_eq_some_iff.mp first
      exact ih (known.addAll fill added).returned rest

/-! ## The end of a dataset -/

theorem fillIdentity_view (index : Nat) (identity : String) {at_ : Nat} {entry : (_ : String) × Int}
    (filled : dataset.fillIdentity at_ metric output entry = some next) :
    (next.1, published index identity next.2) = (output.1, published index identity output.2 ++
      if at_ = index ∧ entry.1 = identity then zeros at_ metric entry.1 (entry.2 + 1) dataset.scope.2 else []) := by
  obtain rfl := append_eq_some filled
  rw [published_append]
  refine congrArg (output.1, published index identity output.2 ++ ·) ?_
  split
  · rename_i own
    exact published_own fun other mem =>
      ⟨(of_mem_zeros mem).1.trans own.1, (of_mem_zeros mem).2.trans own.2⟩
  · rename_i foreign
    exact published_foreign fun other mem wrong =>
      foreign ⟨(of_mem_zeros mem).1.symm.trans wrong.1, (of_mem_zeros mem).2.symm.trans wrong.2⟩

theorem fillIdentity_foreign {at_ : Nat} {entry : (_ : String) × Int}
    (foreign : ¬(at_ = index ∧ entry.1 = identity))
    (filled : dataset.fillIdentity at_ metric output entry = some next) :
    (next.1, published index identity next.2) = (output.1, published index identity output.2) := by
  have view := fillIdentity_view index identity filled
  rwa [if_neg foreign, List.append_nil] at view

theorem fillAll_state (filled : dataset.metrics.zipIdx.foldlM dataset.fillMetric output = some next) :
    next.1 = output.1 := by
  refine foldlM_keeps Prod.fst (fun before other after done => ?_) filled
  refine foldlM_keeps Prod.fst (fun before last after done => ?_) done
  rw [append_eq_some done]

/-- What an identity gets behind its last observation. -/
theorem fillAll_published (mem : entry ∈ dataset.metrics.zipIdx)
    (filled : dataset.metrics.zipIdx.foldlM dataset.fillMetric output = some next) :
    published entry.2 identity next.2 = published entry.2 identity output.2 ++
      match (output.1.emitted entry.2).lookup identity with
      | none => []
      | some last => zeros entry.2 entry.1 identity (last + 1) dataset.scope.2 := by
  have others : ∀ (before : Output Row σ Payload) (other : Metric Row σ Payload × Nat)
      (after : Output Row σ Payload), other.2 ≠ entry.2 → dataset.fillMetric before other = some after →
      (after.1, published entry.2 identity after.2) = (before.1, published entry.2 identity before.2) := by
    intro before other after away done
    exact foldlM_keeps (fun output : Output Row σ Payload => (output.1, published entry.2 identity output.2))
      (fun _ _ _ => fillIdentity_foreign fun wrong => away wrong.1) done
  obtain ⟨-, present⟩ := foldlM_view (fun entry : Metric Row σ Payload × Nat => entry.2)
    (fun output : Output Row σ Payload => (output.1, published entry.2 identity output.2)) entry.2 others
    (nodup_zipIdx dataset.metrics) filled
  obtain ⟨before, now, started, ran, ended⟩ := present entry mem rfl
  obtain ⟨started, begun⟩ := Prod.mk.inj started
  rw [(Prod.mk.inj ended).2, ← begun, ← started]
  obtain ⟨absent, single⟩ := foldlM_view (fun entry : (_ : String) × Int => entry.1)
    (fun output : Output Row σ Payload => (output.1, published entry.2 identity output.2)) identity
    (fun _ _ _ away => fillIdentity_foreign fun wrong => away wrong.2) (nodup_inOrder (before.1.emitted entry.2)) ran
  rcases found : (before.1.emitted entry.2).lookup identity with _ | last
  · have missing : identity ∉ (inOrder (before.1.emitted entry.2)).map (·.1) := by
      intro wrong
      obtain ⟨⟨_, last⟩, inside, rfl⟩ := List.mem_map.mp wrong
      rw [mem_inOrder.mp inside] at found
      cases found
    rw [(Prod.mk.inj (absent missing)).2, List.append_nil]
  · obtain ⟨start, middle, same, done, rest⟩ := single ⟨identity, last⟩ (mem_inOrder.mpr found) rfl
    have view := fillIdentity_view entry.2 identity done
    rw [if_pos ⟨rfl, rfl⟩] at view
    rw [(Prod.mk.inj rest).2, (Prod.mk.inj view).2, (Prod.mk.inj same).2]

/-- What the observations of an identity are in the end: a value or a zero for each bucket, or nothing. -/
def Complete (dataset : Dataset Row σ Payload) (entry : Metric Row σ Payload × Nat) (identity : String)
    (seen : List Row) (out : List (Observation Payload)) : Prop :=
  out = [] ∧ (∀ bucket, dataset.value entry.1 seen identity bucket = none) ∨
    out = (Int.range dataset.scope.1 dataset.scope.2).map (dataset.cell entry.2 entry.1 seen identity) ∧
      ∃ bucket, dataset.value entry.1 seen identity bucket ≠ none

theorem finish_complete (fill : dataset.fillMissingZero = true) (known : dataset.Known output.2 (output.1, []))
    (finished : dataset.finish output = some next) (mem : entry ∈ dataset.metrics.zipIdx) :
    dataset.Complete entry identity output.1.seen (published entry.2 identity next.2) := by
  obtain ⟨filled, done, rfl⟩ := Option.map_eq_some_iff.mp finished
  obtain ⟨closed, closing, filling⟩ := Option.bind_eq_some_iff.mp done
  unfold fillAll at filling
  rw [if_pos fill] at filling
  have all := @fillAll_published _ _ _ _ identity _ _ _ mem filling
  rw [published_append, all, ← List.append_assoc, ← published_append]
  have nothing : ∀ bucket, dataset.bound (output.1, []) < bucket →
      dataset.value entry.1 output.1.seen identity bucket = none := by
    refine fun bucket more => value_none fun row inside wrong => ?_
    obtain ⟨_, least, target, -⟩ := known.rows row inside
    have := Option.some.inj (target.symm.trans wrong)
    omega
  rcases here : output.1.bucket with _ | current
  · have started : closed = (output.1, []) := by
      unfold close at closing
      rw [here] at closing
      exact (Option.some.inj closing).symm
    have idle := known.idle here
    have none_ (bucket : Int) : dataset.value entry.1 output.1.seen identity bucket = none := by
      refine value_none fun row inside => ?_
      rw [idle] at inside
      cases inside
    have filled := known.filled entry mem identity
    unfold FilledView at filled
    rw [started]
    dsimp only at filled ⊢
    rcases emitted : (output.1.emitted entry.2).lookup identity with _ | last
    · rw [emitted] at filled
      exact .inl ⟨by rw [filled.1]; rfl, none_⟩
    · rw [emitted] at filled
      exact absurd (none_ last) filled.2.2.2.1
  · have at_ : dataset.bound (output.1, []) = current := by
      unfold bound
      rw [here]
      rfl
    have filled := known.filled entry mem identity
    have states := known.states entry mem identity
    rw [at_] at filled states nothing
    have most := known.most (by rw [here]; exact Option.some_ne_none _)
    have there : ((output.1, []) : Output Row σ Payload).1.bucket = some current := here
    obtain ⟨after, -⟩ := close_filled fill mem there (at_ ▸ known.least) filled states closing
    have ended := Filled.complete after (by omega) fun bucket more => nothing bucket (by omega)
    rcases emitted : (closed.1.emitted entry.2).lookup identity with _ | last
    · obtain ⟨nowhere, none_⟩ := ended.1 emitted
      exact .inl ⟨by rw [nowhere]; rfl, none_⟩
    · obtain ⟨all, some_⟩ := ended.2 last emitted
      exact .inr ⟨all, last, some_⟩

theorem finish_seen (finished : dataset.finish output = some next) : next.1.seen = output.1.seen := by
  obtain ⟨filled, done, rfl⟩ := Option.map_eq_some_iff.mp finished
  obtain ⟨closed, closing, filling⟩ := Option.bind_eq_some_iff.mp done
  unfold fillAll at filling
  have seen := (Prod.mk.inj (close_keeps closing)).1
  split at filling
  · exact (congrArg Aggregate.seen (fillAll_state filling)).trans seen
  · cases filling
    exact seen

variable {batches : List (List Row)}

theorem run_known (fill : dataset.fillMissingZero = true) (ran : dataset.run batches = some output) :
    ∃ pushed, dataset.Known pushed.2 (pushed.1, []) ∧ dataset.finish pushed = some output ∧
      output.1.seen = pushed.1.seen := by
  obtain ⟨pushed, pushing, finished⟩ := Option.bind_eq_some_iff.mp ran
  exact ⟨pushed, Known.pushAll fill (Known.start dataset).returned pushing, finished, finish_seen finished⟩

theorem run_complete (fill : dataset.fillMissingZero = true) (ran : dataset.run batches = some output)
    (mem : entry ∈ dataset.metrics.zipIdx) (identity : String) :
    dataset.Complete entry identity output.1.seen (published entry.2 identity output.2) := by
  obtain ⟨pushed, known, finished, seen⟩ := run_known fill ran
  rw [seen]
  exact finish_complete fill known finished mem

/-- Every row that is seen lies in a bucket of the range. -/
theorem run_rows (fill : dataset.fillMissingZero = true) (ran : dataset.run batches = some output)
    (mem : row ∈ output.1.seen) :
    ∃ target, dataset.target row = some target ∧ dataset.scope.1 ≤ target ∧ target < dataset.scope.2 := by
  obtain ⟨pushed, known, -, seen⟩ := run_known fill ran
  obtain ⟨target, -, known⟩ := known.rows row (seen ▸ mem)
  exact ⟨target, known⟩

/-- No zero of an identity stands for a bucket in which its rows were seen. -/
def ZerosMissing (dataset : Dataset Row σ Payload) (output : Output Row σ Payload) : Prop :=
  ∀ entry ∈ dataset.metrics.zipIdx, ∀ identity, ∀ observation ∈ published entry.2 identity output.2,
    observation.synthetic = true → ∀ row ∈ output.1.seen, entry.1.identity row = identity →
      dataset.target row ≠ some observation.bucket

/-- An identity that has a value has one in every bucket in which its rows were seen. -/
def Valued (dataset : Dataset Row σ Payload) (seen : List Row) : Prop :=
  ∀ entry ∈ dataset.metrics.zipIdx, ∀ identity,
    (∃ bucket, dataset.value entry.1 seen identity bucket ≠ none) →
      ∀ row ∈ seen, entry.1.identity row = identity → ∀ bucket, dataset.target row = some bucket →
        dataset.value entry.1 seen identity bucket ≠ none

/-- An identity with observations has exactly one for each bucket of the range, in order. Its zeros are
confined to buckets without rows exactly when no bucket of it was skipped. -/
theorem buckets_filled (fill : dataset.fillMissingZero = true) (batches : List (List Row))
    (output : Output Row σ Payload) (ran : dataset.run batches = some output) :
    (∀ entry ∈ dataset.metrics.zipIdx, ∀ identity, published entry.2 identity output.2 ≠ [] →
      (published entry.2 identity output.2).map Observation.bucket =
        Int.range dataset.scope.1 dataset.scope.2) ∧
    (dataset.ZerosMissing output ↔ dataset.Valued output.1.seen) := by
  have bucketOf (entry : Metric Row σ Payload × Nat) (identity : String) (bucket : Int) :
      (dataset.cell entry.2 entry.1 output.1.seen identity bucket).bucket = bucket := by
    unfold cell
    split <;> rfl
  refine ⟨fun entry mem identity some_ => ?_, fun missing entry mem identity valued row seen own bucket target => ?_,
    fun valued entry mem identity observation published_ synthetic row seen own target => ?_⟩
  · rcases run_complete fill ran mem identity with ⟨none_, -⟩ | ⟨all, -⟩
    · exact absurd none_ some_
    · rw [all, List.map_map]
      exact List.map_id'' (bucketOf entry identity) _
  · intro skipped
    rcases run_complete fill ran mem identity with ⟨-, none_⟩ | ⟨all, -⟩
    · obtain ⟨bucket, some_⟩ := valued
      exact some_ (none_ bucket)
    · obtain ⟨here, same, least, most⟩ := run_rows fill ran seen
      obtain rfl := Option.some.inj (same.symm.trans target)
      refine missing entry mem identity (dataset.cell entry.2 entry.1 output.1.seen identity here) ?_ ?_ row seen own ?_
      · rw [all]
        exact List.mem_map_of_mem (Int.mem_range_iff.mpr ⟨least, most⟩)
      · unfold cell
        rw [skipped]
      · rw [bucketOf]
        exact target
  · rcases run_complete fill ran mem identity with ⟨none_, -⟩ | ⟨all, some_⟩
    · rw [none_] at published_
      cases published_
    · rw [all] at published_
      obtain ⟨bucket, -, rfl⟩ := List.mem_map.mp published_
      rw [bucketOf] at target
      have here := valued entry mem identity some_ row seen own bucket target
      unfold cell at synthetic
      split at synthetic
      · cases synthetic
      · rename_i none_
        exact here none_

/-- Sums the values of its rows, and skips the rows without one. -/
def sumOfValues : Metric (Int × Option Int) Int Int where
  identity := fun _ => "total"
  add := fun state row => match row.2 with
    | some value => .value (state.getD 0 + value)
    | none => .skipped
  finish := .value
  zero := 0

/-- Rows are pairs of their bucket and their value, over three buckets. -/
def sums : Dataset (Int × Option Int) Int Int where
  metrics := [sumOfValues]
  fillMissingZero := true
  scope := (0, 3)
  latestRevision := false
  selects := fun _ => some true
  target := fun row => some row.1
  fact := fun row => some (toString row.1, "")
  maxRuntimeIdentities := 8
  fits := fun _ _ => true

theorem sums_filled : ∃ output, sums.run [[(1, some 7)]] = some output ∧
    ((∀ entry ∈ sums.metrics.zipIdx, ∀ identity, published entry.2 identity output.2 ≠ [] →
      (published entry.2 identity output.2).map Observation.bucket =
        Int.range sums.scope.1 sums.scope.2) ∧
    (sums.ZerosMissing output ↔ sums.Valued output.1.seen)) := by
  obtain ⟨output, ran⟩ : ∃ output, sums.run [[(1, some 7)]] = some output :=
    Option.isSome_iff_exists.mp (by decide +kernel)
  exact ⟨output, ran, buckets_filled rfl _ output ran⟩

/-- The row without a value is seen in the second bucket, where the identity has a zero. -/
theorem skipped_row_filled : ∃ output, sums.run [[(0, some 7), (1, none)]] = some output ∧
    ¬sums.ZerosMissing output := by
  obtain ⟨output, ran⟩ : ∃ output, sums.run [[(0, some 7), (1, none)]] = some output :=
    Option.isSome_iff_exists.mp (by decide +kernel)
  have seen : (sums.run [[(0, some 7), (1, none)]]).map (fun output => output.1.seen) =
      some [(0, some 7), (1, none)] := by decide +kernel
  have zero : (sums.run [[(0, some 7), (1, none)]]).map (fun output =>
      (published 0 "total" output.2).any fun observation => observation.synthetic && observation.bucket == 1) =
      some true := by decide +kernel
  rw [ran, Option.map_some, Option.some_inj] at seen zero
  obtain ⟨observation, published_, synthetic⟩ := List.any_eq_true.mp zero
  rw [Bool.and_eq_true, beq_iff_eq] at synthetic
  refine ⟨output, ran, fun missing => missing (sumOfValues, 0) (List.mem_singleton_self _) "total" observation
    published_ synthetic.1 (1, none) ?_ rfl ?_⟩
  · rw [seen]
    exact List.mem_cons_of_mem _ (List.mem_singleton_self _)
  · rw [synthetic.2]
    rfl

end Dataset

end Flowsql.Baseliner.Buckets
