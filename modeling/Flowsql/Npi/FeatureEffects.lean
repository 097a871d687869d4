import Flowsql.Npi.Engine

/-!
# What features do to the tables

A feature that is converted with an empty builder registers for its own level and ports. An enumerate
recognizer that sits at one of them is updated instead, wherever else it is registered.
-/

namespace Flowsql.Npi

namespace Engine

variable (engine : Engine) (reco : Recognizer) (target other : Layer × UInt16)

/-- The pointer that a packet selects. -/
def entry (target : Layer × UInt16) : Option Recognizer :=
  engine.bitmaper target.1 target.2

/-- The pointer with the object of the pool behind it. -/
def behind (target : Layer × UInt16) : Option Recognizer × Option EnumerateRecognizer :=
  match engine.entry target with
  | some (.enumerate index) => (some (.enumerate index), engine.pool[index]?)
  | found => (found, none)

/-- All pointers to the pool are valid. -/
def Indexed : Prop :=
  ∀ target index, engine.entry target = some (.enumerate index) → index < engine.pool.length

theorem entry_setTable (layer : Layer) (table : UInt16 → Option Recognizer) :
    (engine.setTable layer table).entry other =
      if other.1 = layer then table other.2 else engine.entry other := by
  unfold entry bitmaper setTable
  by_cases same : other.1 = layer
  · rw [if_pos same, same]
    simp
  · rw [if_neg same]
    simp [same]

theorem entry_set :
    (engine.set reco target).entry other = if other = target then some reco else engine.entry other := by
  unfold set
  rw [entry_setTable]
  obtain ⟨layer, port⟩ := target
  obtain ⟨otherLayer, otherPort⟩ := other
  by_cases layers : otherLayer = layer
  · subst layers
    by_cases ports : otherPort = port
    · subst ports
      simp
    · simp [ports, entry]
  · simp [layers]

theorem entry_setEmpty (layer : Layer) :
    (engine.setEmpty reco layer).entry other =
      if other.1 = layer then some ((engine.entry other).getD reco) else engine.entry other := by
  unfold setEmpty
  rw [entry_setTable]
  split
  · rename_i same
    rw [← same]
    rfl
  · rfl

theorem entry_touch (layer : Layer) :
    (engine.setTable layer (engine.bitmaper layer)).entry other = engine.entry other := by
  rw [entry_setTable]
  split
  · rename_i same
    rw [← same]
    rfl
  · rfl

variable {engine reco target other}

theorem entry_foldl_set (targets : List (Layer × UInt16)) :
    (targets.foldl (Engine.set reco) engine).entry other =
      if other ∈ targets then some reco else engine.entry other := by
  induction targets generalizing engine with
  | nil => rfl
  | cons target targets ih =>
      rw [List.foldl_cons, ih, entry_set]
      by_cases same : other = target <;> simp [same]

/-- Steps that keep the pool and the regular expressions. -/
theorem foldl_keeps {α : Type} {step : Engine → α → Engine}
    (keeps : ∀ engine value, (step engine value).pool = engine.pool ∧
      (step engine value).regexes = engine.regexes) (values : List α) :
    (values.foldl step engine).pool = engine.pool ∧ (values.foldl step engine).regexes = engine.regexes := by
  induction values generalizing engine with
  | nil => exact ⟨rfl, rfl⟩
  | cons value values ih =>
      obtain ⟨pool, regexes⟩ := @ih (step engine value)
      exact ⟨pool.trans (keeps engine value).1, regexes.trans (keeps engine value).2⟩

theorem entry_foldl_setEmpty (layers : List Layer) :
    (layers.foldl (Engine.setEmpty reco) engine).entry other =
      if other.1 ∈ layers then some ((engine.entry other).getD reco) else engine.entry other := by
  induction layers generalizing engine with
  | nil => rfl
  | cons layer layers ih =>
      rw [List.foldl_cons, ih, entry_setEmpty]
      by_cases same : other.1 = layer <;> simp [same]

theorem behind_congr {after : Engine} (indexed : engine.Indexed)
    (entries : after.entry target = engine.entry target)
    (objects : ∀ index, engine.entry target = some (.enumerate index) → index < engine.pool.length →
      after.pool[index]? = engine.pool[index]?) : after.behind target = engine.behind target := by
  unfold behind
  rw [entries]
  split
  · rename_i index found
    rw [objects index found (indexed target index found)]
  · rfl

end Engine

namespace Builder

variable {builder : Builder} {number : Int} {engine : Engine} {rule : EnumerateRule}

/-- The entry belongs to the level and the ports of the feature; without ports, to its level. -/
def Owns (builder : Builder) (target : Layer × UInt16) : Prop :=
  target.1 ∈ tablesOf builder.level ∧ (target.2 ∈ builder.proports ∨ builder.proports = [])

theorem mem_targets {target : Layer × UInt16} :
    target ∈ builder.targets ↔ target.2 ∈ builder.proports ∧ target.1 ∈ tablesOf builder.level := by
  obtain ⟨layer, port⟩ := target
  simp [targets]

theorem owns_of_mem {target : Layer × UInt16} (member : target ∈ builder.targets) : builder.Owns target :=
  ⟨(mem_targets.mp member).2, .inl (mem_targets.mp member).1⟩

theorem build_keeps (reco : Option Recognizer) :
    (builder.build number reco engine).pool = engine.pool ∧
      (builder.build number reco engine).regexes = engine.regexes := by
  unfold build
  split
  · split <;> exact Engine.foldl_keeps (by intro _ _; exact ⟨rfl, rfl⟩) _
  · exact Engine.foldl_keeps (by intro _ _; exact ⟨rfl, rfl⟩) _

theorem build_elsewhere (reco : Option Recognizer) {target : Layer × UInt16} (foreign : ¬builder.Owns target) :
    (builder.build number reco engine).entry target = engine.entry target := by
  have outside : target ∉ builder.targets := fun member => foreign (owns_of_mem member)
  unfold build
  split
  · split
    · rename_i all
      rw [Engine.entry_foldl_setEmpty, if_neg fun member => foreign ⟨member, .inr all.2⟩]
    · rw [Engine.entry_foldl_set, if_neg outside]
  · rw [Engine.entry_foldl_set, if_neg outside]

/-- What an entry holds after a feature was built is old, or the recognizer of the feature. -/
theorem build_entry (reco : Option Recognizer) (target : Layer × UInt16) :
    (builder.build number reco engine).entry target = engine.entry target ∨
      (builder.build number reco engine).entry target = some (reco.getD (.recognized number)) := by
  unfold build
  split
  · split
    · rw [Engine.entry_foldl_setEmpty]
      split
      · cases engine.entry target with
        | none => exact .inr rfl
        | some found => exact .inl rfl
      · exact .inl rfl
    · rw [Engine.entry_foldl_set]
      split
      · exact .inr rfl
      · exact .inl rfl
  · rw [Engine.entry_foldl_set]
    split
    · exact .inr rfl
    · exact .inl rfl

theorem build_registers (reco : Option Recognizer) {target : Layer × UInt16}
    (member : target ∈ builder.targets) :
    (builder.build number reco engine).entry target = some (reco.getD (.recognized number)) := by
  unfold build
  split
  · rw [if_neg, Engine.entry_foldl_set, if_pos member]
    · rfl
    · rintro ⟨-, none_⟩
      have inside := (mem_targets.mp member).1
      rw [none_] at inside
      cases inside
  · rw [Engine.entry_foldl_set, if_pos member]
    rfl

/-! ## The traversal -/

/-- The traversal moves no pointer, and changes only objects that it meets. -/
structure Traversed (before : Engine) (targets : List (Layer × UInt16)) (after : Engine) (hits : Nat) :
    Prop where
  entries : ∀ target, after.entry target = before.entry target
  length : after.pool.length = before.pool.length
  objects : ∀ index, (∀ target ∈ targets, before.entry target ≠ some (.enumerate index)) →
    after.pool[index]? = before.pool[index]?
  missed : hits = 0 → ∀ target ∈ targets, ∀ index, before.entry target ≠ some (.enumerate index)
  met : hits ≠ 0 → ∃ target ∈ targets, ∃ index, before.entry target = some (.enumerate index)

theorem traversed (targets : List (Layer × UInt16)) (hits : Nat) :
    ∃ more, Traversed engine targets (targets.foldl (updateEntry rule number) (engine, hits)).1 more ∧
      (targets.foldl (updateEntry rule number) (engine, hits)).2 = hits + more := by
  induction targets generalizing engine hits with
  | nil => exact ⟨0, ⟨fun _ => rfl, rfl, fun _ _ => rfl, fun _ _ wrong => (nomatch wrong),
      fun wrong => absurd rfl wrong⟩, rfl⟩
  | cons first targets ih =>
      rw [List.foldl_cons]
      have touched (target : Layer × UInt16) := engine.entry_touch target first.1
      rcases found : engine.entry first with _ | (_ | _ | index)
      case some.enumerate =>
        have here : updateEntry rule number (engine, hits) first =
            ({ engine.setTable first.1 (engine.bitmaper first.1) with
              pool := engine.pool.modify index (update rule number) }, hits + 1) := by
          have same := (touched first).trans found
          unfold Engine.entry at same
          unfold updateEntry
          dsimp only
          rw [same]
          rfl
        rw [here]
        obtain ⟨more, rest, count⟩ := @ih { engine.setTable first.1 (engine.bitmaper first.1) with
          pool := engine.pool.modify index (update rule number) } (hits + 1)
        refine ⟨more + 1, ⟨fun target => (rest.entries target).trans (touched target), ?_, ?_,
          fun wrong => absurd wrong (Nat.succ_ne_zero more), fun _ => ⟨first, .head _, index, found⟩⟩,
          by rw [count]; omega⟩
        · rw [rest.length]
          exact List.length_modify _ _ _
        · intro other free
          rw [rest.objects other fun target member => ?_]
          · refine List.getElem?_modify_ne _ _ fun same => ?_
            exact free first (.head _) (same ▸ found)
          · exact fun same => free target (.tail _ member) ((touched target).symm.trans same)
      all_goals
        have here : updateEntry rule number (engine, hits) first =
            (engine.setTable first.1 (engine.bitmaper first.1), hits) := by
          have same := (touched first).trans found
          unfold Engine.entry at same
          unfold updateEntry
          dsimp only
          rw [same]
        rw [here]
        obtain ⟨more, rest, count⟩ := @ih (engine.setTable first.1 (engine.bitmaper first.1)) hits
        refine ⟨more, ⟨fun target => (rest.entries target).trans (touched target), rest.length, ?_, ?_, ?_⟩,
          count⟩
        · intro other free
          refine rest.objects other fun target member => ?_
          rw [touched]
          exact free target (.tail _ member)
        · intro none_
          rw [List.forall_mem_cons]
          refine ⟨fun index wrong => ?_, fun target member index => ?_⟩
          · rw [found] at wrong
            cases wrong
          · rw [← touched]
            exact rest.missed none_ target member index
        · intro some_
          obtain ⟨target, member, index, there⟩ := rest.met some_
          exact ⟨target, .tail _ member, index, (touched target).symm.trans there⟩

/-! ## Commits -/

/-- The recognizer of a feature. -/
inductive Registered (builder : Builder) (number : Int) (before after : Engine) : Recognizer → Prop where
  | ports : Registered builder number before after (.recognized number)
  | regex {text : String} : builder.pattern = .regex text →
      after.regexes = before.regexes ++ [⟨text, builder.proports, builder.level, number⟩] →
      Registered builder number before after .regex
  | enumerate {text : String} {rule : EnumerateRule} {recognizer : EnumerateRecognizer} {index : Nat} :
      builder.pattern = .enumerate text → split2enumerateparameter text = some rule →
      create rule number = some recognizer → after.pool[index]? = some recognizer →
      Registered builder number before after (.enumerate index)

/-- No object of the pool is registered both for the entries of the feature and elsewhere. -/
def Unshared (builder : Builder) (engine : Engine) : Prop :=
  ∀ target ∈ builder.targets, ∀ other, ¬builder.Owns other → ∀ index,
    engine.entry target = some (.enumerate index) → engine.entry other ≠ some (.enumerate index)

/-- A feature is registered at its own entries, or updates what sits there, and changes nothing elsewhere. -/
structure OwnEffect (builder : Builder) (number : Int) (before after : Engine) : Prop where
  indexed : after.Indexed
  elsewhere : ∀ target, ¬builder.Owns target → after.behind target = before.behind target
  registered : (∃ reco, builder.Registered number before after reco ∧
      ∀ target ∈ builder.targets, after.entry target = some reco) ∨
    ∃ target ∈ builder.targets, ∃ index, before.entry target = some (.enumerate index)

/-- Builds that leave the objects of the pool as they are. -/
theorem build_own {before after : Engine} {reco : Option Recognizer} (indexed : before.Indexed)
    (registered : builder.Registered number before after (reco.getD (.recognized number)))
    (entries : ∀ target, after.entry target = (builder.build number reco engine).entry target)
    (old : ∀ target, engine.entry target = before.entry target)
    (objects : ∀ index, index < before.pool.length → after.pool[index]? = before.pool[index]?)
    (grown : before.pool.length ≤ after.pool.length)
    (valid : ∀ index, reco = some (.enumerate index) → index < after.pool.length) :
    OwnEffect builder number before after where
  indexed := by
    intro target index found
    rw [entries] at found
    rcases builder.build_entry reco target with same | new
    · rw [same, old] at found
      exact Nat.lt_of_lt_of_le (indexed target index found) grown
    · rw [new] at found
      cases reco with
      | none => cases found
      | some reco => exact valid index found
  elsewhere := by
    intro target foreign
    refine Engine.behind_congr indexed ?_ fun index _ small => objects index small
    rw [entries, build_elsewhere reco foreign, old]
  registered := .inl ⟨_, registered, fun target member => by rw [entries, build_registers reco member]⟩

theorem commit_own {after : Engine} (indexed : engine.Indexed) (unshared : builder.Unshared engine)
    (committed : builder.commit number engine = some after) :
    OwnEffect builder number engine after := by
  unfold commit at committed
  split at committed
  next text pattern =>
    cases committed
    obtain ⟨pool, regexes⟩ := @build_keeps builder number engine (some .regex)
    exact build_own indexed (.regex pattern (congrArg (· ++ _) regexes)) (fun _ => rfl) (fun _ => rfl)
      (fun index _ => congrArg (·[index]?) pool) (Nat.le_of_eq (congrArg List.length pool.symm)) fun index wrong => by
        cases wrong
  next text pattern =>
    obtain ⟨rule, parsed, same⟩ := Option.map_eq_some_iff.mp committed
    clear committed
    obtain ⟨hits, walked, count⟩ := @traversed number engine rule builder.targets 0
    generalize builder.targets.foldl (updateEntry rule number) (engine, 0) = outcome at *
    obtain ⟨updated, total⟩ := outcome
    obtain rfl : total = hits := count.trans (Nat.zero_add hits)
    dsimp only at walked same
    split at same
    · rename_i none_
      have kept (index : Nat) : updated.pool[index]? = engine.pool[index]? := by
        by_cases met : ∃ target ∈ builder.targets, engine.entry target = some (.enumerate index)
        · obtain ⟨target, member, found⟩ := met
          exact absurd found (walked.missed none_ target member index)
        · exact walked.objects index fun target member found => met ⟨target, member, found⟩
      split at same
      next recognizer created =>
        cases same
        obtain ⟨pool, -⟩ := @build_keeps builder number
          { updated with pool := updated.pool ++ [recognizer] } (some (.enumerate updated.pool.length))
        refine build_own indexed (.enumerate pattern parsed created ?_) (fun _ => rfl) walked.entries
          (fun index small => ?_) ?_ ?_
        · rw [pool, List.getElem?_concat_length]
        · rw [pool, List.getElem?_append_left (by rw [walked.length]; exact small), kept]
        · rw [pool, List.length_append, walked.length]
          exact Nat.le_add_right _ _
        · rintro index ⟨⟩
          rw [pool, List.length_append]
          exact Nat.lt_succ_self _
      next missing =>
        cases same
        obtain ⟨pool, -⟩ := @build_keeps builder number updated none
        refine build_own indexed .ports (fun _ => rfl) walked.entries
          (fun index _ => by rw [pool, kept]) ?_ fun index wrong => by cases wrong
        exact Nat.le_of_eq (by rw [pool, walked.length])
    · rename_i met
      cases same
      refine ⟨fun target index found => ?_, fun target foreign => ?_, .inr (walked.met met)⟩
      · rw [walked.entries] at found
        rw [walked.length]
        exact indexed target index found
      · refine Engine.behind_congr indexed (walked.entries target) fun index found _ => ?_
        exact walked.objects index fun own member there => unshared own member target foreign index there found
  all_goals
    cases committed
    obtain ⟨pool, -⟩ := @build_keeps builder number engine none
    exact build_own indexed .ports (fun _ => rfl) (fun _ => rfl)
      (fun index _ => congrArg (·[index]?) pool) (Nat.le_of_eq (congrArg List.length pool.symm)) fun index wrong => by
        cases wrong

end Builder

/-! ## Features -/

variable {features : List Feature} {feature : Feature} {loader next last : Loader}

/-- The builder of a feature, and whether the feature is accepted, when it is converted on its own. -/
def Feature.alone (feature : Feature) : Bool × Builder :=
  Builder.takeItems feature.items {}

/-- The feature keeps to one level, and objects at its entries sit at no other entry. -/
def Separate (feature : Feature) (loader : Loader) : Prop :=
  feature.alone.1 = true ∧ feature.alone.2.Unshared loader.engine

/-- What the claims of a feature on its own are: the builder is empty again; a rejected feature registers
nothing, an accepted one registers for its own level and ports. -/
structure FeatureEffect (feature : Feature) (before : Loader) (accepted : Bool) (after : Loader) : Prop where
  empty : after.builder = {}
  rejected : accepted = false → after.engine = before.engine
  own : accepted = true → feature.alone.2.OwnEffect feature.number before.engine after.engine

/-- A condition on every feature and what it finds. -/
def EachFeature (condition : Feature → Loader → Prop) : List Feature → Loader → Prop
  | [], _ => True
  | feature :: features, loader => condition feature loader ∧
      ∀ accepted next, convert feature loader = some (accepted, next) →
        EachFeature condition features next

theorem convert_effect {accepted : Bool} (empty : loader.builder = {}) (indexed : loader.engine.Indexed)
    (separate : Separate feature loader) (converted : convert feature loader = some (accepted, next)) :
    FeatureEffect feature loader accepted next ∧ next.engine.Indexed := by
  unfold convert at converted
  rw [empty] at converted
  split at converted
  · rename_i builder alone
    have wrong := separate.1
    rw [Feature.alone, alone] at wrong
    cases wrong
  · rename_i builder alone
    obtain ⟨engine, committed, same⟩ := Option.map_eq_some_iff.mp converted
    cases same
    have unshared := separate.2
    have own := Builder.commit_own indexed unshared (by rw [Feature.alone, alone]; exact committed)
    exact ⟨⟨rfl, (fun wrong => nomatch wrong), fun _ => own⟩, own.indexed⟩

theorem features_effects (empty : loader.builder = {}) (indexed : loader.engine.Indexed)
    (separate : EachFeature Separate features loader) :
    EachFeature (fun feature before => ∀ accepted after, convert feature before = some (accepted, after) →
      FeatureEffect feature before accepted after) features loader := by
  induction features generalizing loader with
  | nil => trivial
  | cons feature features ih =>
      refine ⟨fun accepted next converted => (convert_effect empty indexed separate.1 converted).1, ?_⟩
      intro accepted next converted
      obtain ⟨effect, valid⟩ := convert_effect empty indexed separate.1 converted
      exact ih effect.empty valid (separate.2 accepted next converted)

def webFeature : Feature :=
  ⟨7, [⟨"tcp.port", .number 80⟩, ⟨"tcp.payload.enumerate", .enumerateString "71:0:1"⟩]⟩

/-- A feature of two levels, one for UDP and one for TCP. -/
def mixedFeatures : List Feature :=
  [⟨1, [⟨"tcp.port", .number 53⟩, ⟨"udp.port", .number 53⟩]⟩, ⟨2, [⟨"udp.port", .number 80⟩]⟩,
    ⟨3, [⟨"tcp.port", .number 443⟩]⟩]

end Flowsql.Npi
