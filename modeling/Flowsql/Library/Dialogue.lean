import Mathlib

/-!
# Programs that call on an environment

A program asks its environment, one query after the other, and goes on with the answers. A contract
says which queries are allowed after what has been asked and answered, and which answers are to be
relied on. A program that meets a contract asks only what is allowed, in every run with honest
answers.
-/

namespace Flowsql.Library

universe u

/-- A program over the queries of an environment. -/
inductive Program (Query : Type) (Answer : Query → Type) (α : Type u) where
  | done (value : α)
  | ask (query : Query) (next : Answer query → Program Query Answer α)

/-- A query with its answer. -/
structure Exchange (Query : Type) (Answer : Query → Type) where
  query : Query
  answer : Answer query

variable {Query : Type} {Answer : Query → Type} {α β σ : Type}

namespace Program

def bind (program : Program Query Answer α) (next : α → Program Query Answer β) :
    Program Query Answer β :=
  match program with
  | done value => next value
  | ask query continue_ => ask query fun answer => (continue_ answer).bind next

instance : Monad (Program Query Answer) where
  pure := done
  bind := bind

def call (query : Query) : Program Query Answer (Answer query) :=
  ask query done

/-- A loop whose body either goes on or ends it, for as many rounds as there is fuel. -/
def loop (body : σ → Program Query Answer (σ ⊕ α)) : Nat → σ → Program Query Answer (Option α)
  | 0, _ => done none
  | fuel + 1, state =>
      (body state).bind fun
        | .inl next => loop body fuel next
        | .inr value => done (some value)

/-- A run, up to some moment or to the end. -/
inductive Runs : Program Query Answer α → List (Exchange Query Answer) → Option α → Prop where
  | pending (program : Program Query Answer α) : Runs program [] none
  | done (value : α) : Runs (done value) [] (some value)
  | ask {query : Query} {next : Answer query → Program Query Answer α} {answer : Answer query}
      {trace : List (Exchange Query Answer)} {result : Option α}
      (rest : Runs (next answer) trace result) :
      Runs (ask query next) (⟨query, answer⟩ :: trace) result

end Program

/-- What may be asked, what may be relied on, and what is remembered of an exchange. -/
structure Contract (Query : Type) (Answer : Query → Type) (Ledger : Type) where
  allowed : Ledger → Query → Prop
  honest : Ledger → (query : Query) → Answer query → Prop
  record : Ledger → (query : Query) → Answer query → Ledger

namespace Contract

variable {Ledger : Type} (contract : Contract Query Answer Ledger)

/-- The ledger after an exchange of each kind, in order. -/
def after (ledger : Ledger) : List (Exchange Query Answer) → Ledger
  | [] => ledger
  | ⟨query, answer⟩ :: rest => after (contract.record ledger query answer) rest

/-- Every answer is one that may be relied on. -/
def Honest (ledger : Ledger) : List (Exchange Query Answer) → Prop
  | [] => True
  | ⟨query, answer⟩ :: rest =>
      contract.honest ledger query answer ∧
        Honest (contract.record ledger query answer) rest

/-- Every query is one that is allowed. -/
def Lawful (ledger : Ledger) : List (Exchange Query Answer) → Prop
  | [] => True
  | ⟨query, answer⟩ :: rest =>
      contract.allowed ledger query ∧ Lawful (contract.record ledger query answer) rest

instance decidableLawful [∀ ledger query, Decidable (contract.allowed ledger query)] :
    ∀ (ledger : Ledger) (trace : List (Exchange Query Answer)),
      Decidable (contract.Lawful ledger trace)
  | _, [] => inferInstanceAs (Decidable True)
  | ledger, ⟨query, answer⟩ :: rest =>
      have := decidableLawful (contract.record ledger query answer) rest
      inferInstanceAs (Decidable (_ ∧ _))

instance decidableHonest
    [∀ ledger query answer, Decidable (contract.honest ledger query answer)] :
    ∀ (ledger : Ledger) (trace : List (Exchange Query Answer)),
      Decidable (contract.Honest ledger trace)
  | _, [] => inferInstanceAs (Decidable True)
  | ledger, ⟨query, answer⟩ :: rest =>
      have := decidableHonest (contract.record ledger query answer) rest
      inferInstanceAs (Decidable (_ ∧ _))

/-- The weakest precondition: from this ledger the program asks only what is allowed, and ends as
`ends` says. -/
def Meets (ends : α → Ledger → Prop) (ledger : Ledger) : Program Query Answer α → Prop
  | .done value => ends value ledger
  | .ask query next =>
      contract.allowed ledger query ∧
        ∀ answer, contract.honest ledger query answer →
          Meets ends (contract.record ledger query answer) (next answer)

variable {contract} {ledger : Ledger} {ends ends' : α → Ledger → Prop}

theorem Meets.mono {program : Program Query Answer α} (meets : contract.Meets ends ledger program)
    (weaken : ∀ value last, ends value last → ends' value last) :
    contract.Meets ends' ledger program := by
  induction program generalizing ledger with
  | done value => exact weaken value ledger meets
  | ask query next ih =>
      exact ⟨meets.1, fun answer honest => ih answer (meets.2 answer honest)⟩

theorem meets_bind {program : Program Query Answer α} {next : α → Program Query Answer β}
    {finally_ : β → Ledger → Prop} :
    contract.Meets finally_ ledger (program.bind next) ↔
      contract.Meets (fun value last => contract.Meets finally_ last (next value)) ledger
        program := by
  induction program generalizing ledger with
  | done value => exact Iff.rfl
  | ask query continue_ ih =>
      exact and_congr_right fun _ => forall_congr' fun answer => imp_congr_right fun _ =>
        ih answer

/-- Sequencing. -/
theorem Meets.bind {program : Program Query Answer α} {next : α → Program Query Answer β}
    {finally_ : β → Ledger → Prop} (first : contract.Meets ends ledger program)
    (second : ∀ value last, ends value last → contract.Meets finally_ last (next value)) :
    contract.Meets finally_ ledger (program >>= next) :=
  meets_bind.mpr (first.mono second)

/-- A query and what follows it. -/
theorem meets_call {query : Query} {next : Answer query → Program Query Answer β}
    {finally_ : β → Ledger → Prop} (allowed : contract.allowed ledger query)
    (rest : ∀ answer, contract.honest ledger query answer →
      contract.Meets finally_ (contract.record ledger query answer) (next answer)) :
    contract.Meets finally_ ledger (Program.call query >>= next) :=
  ⟨allowed, rest⟩

/-- An invariant of the body holds as long as the loop goes on. -/
theorem meets_loop {body : σ → Program Query Answer (σ ⊕ α)} (holds : σ → Ledger → Prop)
    (kept : ∀ state ledger, holds state ledger →
      contract.Meets (fun next last => match next with
        | .inl state => holds state last
        | .inr value => ends value last) ledger (body state))
    (fuel : Nat) {state : σ} (initially : holds state ledger) :
    contract.Meets (fun result last => ∀ value, result = some value → ends value last) ledger
      (Program.loop body fuel state) := by
  induction fuel generalizing state ledger with
  | zero =>
      intro value impossible
      cases impossible
  | succ fuel ih =>
      refine meets_bind.mpr ((kept state ledger initially).mono fun next last after => ?_)
      cases next with
      | inl next => exact ih after
      | inr value =>
          intro other same
          cases same
          exact after

/-- A loop whose rounds lower a measure ends before its fuel is used up. -/
theorem meets_loop_within {body : σ → Program Query Answer (σ ⊕ α)} (holds : σ → Ledger → Prop)
    (measure : σ → Ledger → Nat)
    (kept : ∀ state ledger, holds state ledger →
      contract.Meets (fun next last => match next with
        | .inl next => holds next last ∧ measure next last < measure state ledger
        | .inr value => ends value last) ledger (body state))
    {fuel : Nat} {state : σ} (initially : holds state ledger)
    (enough : measure state ledger < fuel) :
    contract.Meets (fun result last => ∃ value, result = some value ∧ ends value last) ledger
      (Program.loop body fuel state) := by
  induction fuel generalizing state ledger with
  | zero => exact absurd enough (Nat.not_lt_zero _)
  | succ fuel ih =>
      refine meets_bind.mpr ((kept state ledger initially).mono fun next last after => ?_)
      cases next with
      | inl next => exact ih after.1 (Nat.lt_of_lt_of_le after.2 (Nat.le_of_lt_succ enough))
      | inr value => exact ⟨value, rfl, after⟩

/-- Runs with honest answers are lawful, and end as the program is to end. -/
theorem Meets.lawful {program : Program Query Answer α}
    (meets : contract.Meets ends ledger program) {trace : List (Exchange Query Answer)}
    {result : Option α} (runs : program.Runs trace result)
    (honest : contract.Honest ledger trace) :
    contract.Lawful ledger trace ∧
      ∀ value, result = some value → ends value (contract.after ledger trace) := by
  induction runs generalizing ledger with
  | pending program => exact ⟨trivial, fun value impossible => nomatch impossible⟩
  | done value =>
      refine ⟨trivial, fun other same => ?_⟩
      cases same
      exact meets
  | ask rest ih =>
      obtain ⟨lawful, last⟩ := ih (meets.2 _ honest.1) honest.2
      exact ⟨⟨meets.1, lawful⟩, last⟩

end Contract

end Flowsql.Library
