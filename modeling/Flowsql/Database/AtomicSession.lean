import Flowsql.Library.Transitions

/-!
# Atomic database sessions

Two implementations of a session with one transaction at a time: one over a connection to a
server, one over a SQLite database. The database is what answers the statements. An answer says
what the session sees of it, and what has become of the transaction.
-/

namespace Flowsql.Database

/-- `DatabaseAtomicCodeV1`, as far as a session reports it. -/
inductive AtomicCode where
  | ok
  | invalidArgument
  | cancelled
  | timeout
  | error
  | commitUnknown
  deriving DecidableEq

/-- `DatabaseCommitOutcomeV1`. -/
inductive CommitOutcome where
  | committed
  | rolledBack
  | unknown
  deriving DecidableEq

/-- The statements that a session sends. -/
inductive Statement where
  | begin
  | execute
  | select
  | time
  | commit
  | rollback
  deriving DecidableEq

/-- What has become of the transaction that was begun last. -/
inductive Fate where
  | none
  | pending
  | applied
  | rolledBack
  deriving DecidableEq

/-- How the database answers: the statement is done, it is refused, or nothing is known of its
effect. -/
inductive Reply where
  | done
  | refused
  | lost
  deriving DecidableEq

/-- An answer of the database, and whether the session is cancelled meanwhile. -/
structure Answer where
  reply : Reply
  fate : Fate
  /-- What the session reports when the statement is not done. -/
  code : AtomicCode := .error
  /-- The client library still takes the connection for connected. -/
  connected : Bool := true
  /-- The session gives the connection up. -/
  poisons : Bool := false
  /-- Later statements still reach the database. -/
  usable : Bool := true
  cancelBefore : Bool := false
  cancelDuring : Bool := false
  deriving DecidableEq

/-- An answer over a connection in order. -/
def Answer.plain (reply : Reply) (fate : Fate) : Answer :=
  { reply := reply, fate := fate }

/-- What may become of the transaction. Only a pending transaction changes, and a refused COMMIT
has not applied it. -/
def Fate.next : Statement → Reply → Fate → List Fate
  | .begin, .done, _ => [.pending]
  | .begin, .refused, fate => [fate]
  | .begin, .lost, fate => [fate, .pending]
  | .commit, .done, .pending => [.applied]
  | .commit, .refused, .pending => [.pending, .rolledBack]
  | .commit, .lost, .pending => [.pending, .rolledBack, .applied]
  | .rollback, .done, .pending => [.rolledBack]
  | .rollback, _, .pending => [.pending, .rolledBack]
  | _, _, .pending => [.pending, .rolledBack, .applied]
  | _, _, fate => [fate]

/-- What a `Commit` reported, and in which situation. -/
structure CommitReport where
  outcome : CommitOutcome
  /-- A transaction had been begun. -/
  active : Bool
  /-- How many readers were open. -/
  openReaders : Nat
  /-- The session was usable and the database would acknowledge a ROLLBACK. -/
  healthy : Bool
  /-- What has become of the transaction. -/
  fate : Fate
  deriving DecidableEq

inductive SessionEvent where
  /-- A statement, whether it could reach the database, the reply, and the transaction then. -/
  | sent (statement : Statement) (usable : Bool) (reply : Reply) (fate : Fate)
  | reported (report : CommitReport)
  | closed
  deriving DecidableEq

/-- The fields of a session. A SQLite session is closed when its `db_` is null. -/
structure AtomicSession where
  cancelled : Bool := false
  active : Bool := false
  closed : Bool := false
  poisoned : Bool := false
  connected : Bool := true
  /-- For each reader that was created, whether it has been closed. -/
  readers : List Bool := []
  deriving DecidableEq

namespace AtomicSession

def openReaders (self : AtomicSession) : Nat :=
  self.readers.count false

/-- `*readers_`, an unsigned number of 32 bits. -/
def readerCount (self : AtomicSession) : Nat :=
  self.openReaders % 2 ^ 32

/-- `Available`. -/
def available (self : AtomicSession) : AtomicCode :=
  if self.closed || self.poisoned then .error
  else if self.cancelled then .cancelled
  else .ok

end AtomicSession

/-- A session, its database and what happened so far, last event first. -/
structure AtomicSystem where
  session : AtomicSession := {}
  usable : Bool := true
  fate : Fate := .none
  log : List SessionEvent := []
  deriving DecidableEq

/-- The calls of a session, with the answers of the database to the statements that they send. -/
inductive SessionCall where
  | begin (answer : Answer)
  | executePrepared (valid : Bool) (answer : Answer)
  | createReader (valid reads : Bool) (answer : Answer)
  | readDatabaseTime (answer : Answer)
  | closeReader (index : Nat)
  | commit (first second : Answer) (cancelled : Bool)
  | rollback (answer : Answer)
  | cancel
  | close (answer : Answer)
  deriving DecidableEq

namespace AtomicSystem

/-- A statement goes to the database. There is no next system for an answer that the database
cannot give. -/
def send (self : AtomicSystem) (statement : Statement) (answer : Answer) : Option AtomicSystem :=
  if (answer.reply = .done ∨ answer.code ≠ .ok) ∧
      (if self.usable then answer.fate ∈ Fate.next statement answer.reply self.fate
      else answer.reply = .lost ∧ answer.fate = self.fate) then
    some
      { self with
        usable := self.usable && answer.usable
        fate := answer.fate
        log := .sent statement self.usable answer.reply self.fate :: self.log }
  else
    none

/-- What the session sees of an answer. -/
def codeOf (answer : Answer) : AtomicCode :=
  if answer.reply = .done then .ok else answer.code

def setActive (self : AtomicSystem) (active : Bool) : AtomicSystem :=
  { self with session := { self.session with active := active } }

def poison (self : AtomicSystem) : AtomicSystem :=
  { self with session := { self.session with poisoned := true } }

def cancelIf (self : AtomicSystem) (cancelled : Bool) : AtomicSystem :=
  { self with session := { self.session with cancelled := self.session.cancelled || cancelled } }

def addReader (self : AtomicSystem) : AtomicSystem :=
  { self with session := { self.session with readers := self.session.readers ++ [false] } }

/-- `MaterializedReader::Close`. A reader that has been closed stays closed. -/
def closeReader (self : AtomicSystem) (index : Nat) : AtomicSystem :=
  { self with session := { self.session with readers := self.session.readers.set index true } }

/-- The physical connection goes away; a transaction that is pending then is rolled back. -/
def disconnect (self : AtomicSystem) : AtomicSystem :=
  { self with
    session := { self.session with closed := true, active := false }
    usable := false
    fate := if self.fate = .pending then .rolledBack else self.fate
    log := .closed :: self.log }

/-- Note what a `Commit` reported. -/
def report (self : AtomicSystem) (before : AtomicSystem) (first : Answer)
    (outcome : CommitOutcome) : AtomicSystem :=
  { self with
    log := .reported
      { outcome := outcome
        active := before.session.active
        openReaders := before.session.openReaders
        healthy := before.usable && before.session.connected && !before.session.cancelled &&
          !before.session.poisoned && !first.cancelBefore && decide (first.reply = .done)
        fate := self.fate } :: self.log }

end AtomicSystem

/-! ## What both implementations do in the same way -/

/-- How an implementation runs a statement. -/
abbrev Runner := AtomicSystem → Statement → Answer → Option (AtomicCode × AtomicSystem)

namespace Runner

def begin (runner : Runner) (self : AtomicSystem) (answer : Answer) :
    Option (AtomicCode × AtomicSystem) :=
  if self.session.available ≠ .ok then
    some (self.session.available, self)
  else if self.session.active then
    some (.invalidArgument, self)
  else do
    let (code, after) ← runner self .begin answer
    some (code, if code = .ok then after.setActive true else after)

def executePrepared (runner : Runner) (self : AtomicSystem) (valid : Bool) (answer : Answer) :
    Option (AtomicCode × AtomicSystem) :=
  if !self.session.active then
    some (.invalidArgument, self)
  else if self.session.available ≠ .ok then
    some (self.session.available, self)
  else if !valid then
    some (.invalidArgument, self)
  else
    runner self .execute answer

def createReader (runner : Runner) (self : AtomicSystem) (valid reads : Bool) (answer : Answer) :
    Option (AtomicCode × AtomicSystem) :=
  if self.session.available ≠ .ok then
    some (self.session.available, self)
  else if !valid then
    some (.invalidArgument, self)
  else if !reads then
    some (.invalidArgument, self)
  else do
    let (code, after) ← runner self .select answer
    some (code, if code = .ok then after.addReader else after)

def readDatabaseTime (runner : Runner) (self : AtomicSystem) (answer : Answer) :
    Option (AtomicCode × AtomicSystem) :=
  if self.session.available ≠ .ok then
    some (self.session.available, self)
  else
    runner self .time answer

/-- A rollback of a session that allows it. -/
def rollback (runner : Runner) (self : AtomicSystem) (refused : Bool) (answer : Answer) :
    Option (AtomicCode × AtomicSystem) :=
  if refused then
    some (.error, self)
  else do
    let (code, after) ← runner self .rollback answer
    some (code, if code = .ok then after.setActive false else after)

/-- The COMMIT of a session that is available. -/
def tryCommit (runner : Runner) (self : AtomicSystem) (answer : Answer) :
    Option (AtomicCode × AtomicSystem) :=
  if self.session.available = .ok then
    runner self .commit answer
  else
    some (self.session.available, self)

end Runner

/-! ## The session over a connection to a server -/

namespace ServerAtomic

open AtomicSystem

/-- `Run` sends nothing on a closed or cancelled session. The connection carries no statement
after one whose reply was lost, and the session gives it up only then. -/
def run (self : AtomicSystem) (statement : Statement) (answer : Answer) :
    Option (AtomicCode × AtomicSystem) :=
  let self := self.cancelIf answer.cancelBefore
  if self.session.closed || self.session.cancelled then
    some (.cancelled, self)
  else if answer.reply = .lost ∧ answer.usable = true ∨
      answer.poisons = true ∧ answer.reply ≠ .lost then
    none
  else do
    let sent ← self.send statement answer
    some (codeOf answer,
      { sent with
        session :=
          { sent.session with
            cancelled := sent.session.cancelled || answer.cancelDuring
            connected := sent.session.connected && answer.connected
            poisoned := sent.session.poisoned || answer.poisons } })

def begin : AtomicSystem → Answer → Option (AtomicCode × AtomicSystem) :=
  Runner.begin run

def executePrepared : AtomicSystem → Bool → Answer → Option (AtomicCode × AtomicSystem) :=
  Runner.executePrepared run

/-- The text must be valid and start with `SELECT`. -/
def createReader : AtomicSystem → Bool → Bool → Answer → Option (AtomicCode × AtomicSystem) :=
  Runner.createReader run

def readDatabaseTime : AtomicSystem → Answer → Option (AtomicCode × AtomicSystem) :=
  Runner.readDatabaseTime run

def rollback (self : AtomicSystem) : Answer → Option (AtomicCode × AtomicSystem) :=
  Runner.rollback run self
    (!self.session.active || self.session.poisoned || self.session.readerCount != 0)

/-- `cancelled` says that the session is cancelled before the flag is read again. -/
def commit (self : AtomicSystem) (first second : Answer) (cancelled : Bool) :
    Option (CommitOutcome × AtomicSystem) :=
  if !self.session.active then
    some (.rolledBack, self)
  else if self.session.readerCount ≠ 0 then do
    let (code, after) ← rollback self first
    if code = .ok then
      some (.rolledBack, after)
    else
      some (.unknown, after.poison)
  else do
    let (code, after) ← Runner.tryCommit run self first
    if code = .ok then
      some (.committed, after.setActive false)
    else
      let after := after.cancelIf cancelled
      if !after.session.connected || after.session.cancelled || decide (code = .timeout) then
        some (.unknown, after.poison)
      else
        let (rolled, last) ← run after .rollback second
        if rolled = .ok then
          some (.rolledBack, last.setActive false)
        else
          some (.unknown, last.poison)

def close (self : AtomicSystem) (answer : Answer) : Option AtomicSystem :=
  if self.session.closed then
    some self
  else if self.session.active && !self.session.poisoned && !self.session.cancelled &&
      self.session.connected then do
    let (_, after) ← run self .rollback answer
    some after.disconnect
  else
    some self.disconnect

def step (self : AtomicSystem) : SessionCall → Option AtomicSystem
  | .begin answer => (begin self answer).map Prod.snd
  | .executePrepared valid answer => (executePrepared self valid answer).map Prod.snd
  | .createReader valid reads answer => (createReader self valid reads answer).map Prod.snd
  | .readDatabaseTime answer => (readDatabaseTime self answer).map Prod.snd
  | .closeReader index => some (self.closeReader index)
  | .commit first second cancelled =>
      (commit self first second cancelled).map fun result => result.2.report self first result.1
  | .rollback answer => (rollback self answer).map Prod.snd
  | .cancel => some (self.cancelIf true)
  | .close answer => close self answer

end ServerAtomic

/-! ## The session over a SQLite database -/

namespace SqliteAtomic

open AtomicSystem

/-- A statement on the open database, whose connection is never lost; `Cancel` interrupts it. -/
def exec (self : AtomicSystem) (statement : Statement) (answer : Answer) :
    Option (AtomicCode × AtomicSystem) :=
  if answer.usable = true then do
    let sent ← self.send statement answer
    some (codeOf answer, sent.cancelIf (answer.cancelBefore || answer.cancelDuring))
  else
    none

def begin : AtomicSystem → Answer → Option (AtomicCode × AtomicSystem) :=
  Runner.begin exec

/-- The statement is valid when `Prepare` succeeds. -/
def executePrepared : AtomicSystem → Bool → Answer → Option (AtomicCode × AtomicSystem) :=
  Runner.executePrepared exec

/-- `Prepare` must succeed, and SQLite must take the statement for read-only. -/
def createReader : AtomicSystem → Bool → Bool → Answer → Option (AtomicCode × AtomicSystem) :=
  Runner.createReader exec

def readDatabaseTime : AtomicSystem → Answer → Option (AtomicCode × AtomicSystem) :=
  Runner.readDatabaseTime exec

/-- `sqlite3_get_autocommit`: no transaction is pending. -/
def autocommit (self : AtomicSystem) : Bool :=
  decide (self.fate ≠ .pending)

def commit (self : AtomicSystem) (first second : Answer) :
    Option (CommitOutcome × AtomicSystem) :=
  if !self.session.active then
    some (.rolledBack, self)
  else if self.session.readerCount ≠ 0 then do
    let (code, after) ← exec self .rollback first
    if code = .ok then
      some (.rolledBack, after.setActive false)
    else
      some (.unknown, after.poison)
  else do
    let (code, after) ← Runner.tryCommit exec self first
    if code = .ok then
      some (.committed, after.setActive false)
    else if !autocommit after then
      let (rolled, last) ← exec after .rollback second
      if rolled = .ok then
        some (.rolledBack, last.setActive false)
      else
        some (.unknown, last.poison)
    else
      some (.unknown, after.poison)

def rollback (self : AtomicSystem) : Answer → Option (AtomicCode × AtomicSystem) :=
  Runner.rollback exec self
    (self.session.closed || self.session.poisoned || !self.session.active ||
      self.session.readerCount != 0)

def close (self : AtomicSystem) (answer : Answer) : Option AtomicSystem :=
  if self.session.closed then
    some self
  else if self.session.active && !self.session.poisoned then do
    let (_, after) ← exec self .rollback answer
    some after.disconnect
  else
    some self.disconnect

def step (self : AtomicSystem) : SessionCall → Option AtomicSystem
  | .begin answer => (begin self answer).map Prod.snd
  | .executePrepared valid answer => (executePrepared self valid answer).map Prod.snd
  | .createReader valid reads answer => (createReader self valid reads answer).map Prod.snd
  | .readDatabaseTime answer => (readDatabaseTime self answer).map Prod.snd
  | .closeReader index => some (self.closeReader index)
  | .commit first second _ =>
      (commit self first second).map fun result => result.2.report self first result.1
  | .rollback answer => (rollback self answer).map Prod.snd
  | .cancel => some (self.cancelIf true)
  | .close answer => close self answer

end SqliteAtomic

end Flowsql.Database
