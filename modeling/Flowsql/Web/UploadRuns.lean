import Flowsql.Web.CaptureUpload
import Flowsql.Library.Transitions

/-!
# What an upload leaves in its directory

The bytes that were accepted since the last begin, and the captures that were completed, are recorded
beside the upload. At any time a rollback leaves the files that were there at first and the completed
captures.
-/

namespace Flowsql.Web

open Flowsql.Library

/-! ## The file of an upload -/

/-- The names of an upload are not taken by the files that are to stay. -/
structure Named (base : String → Option (List UInt8)) (upload : ManagedCaptureUpload) : Prop where
  part : base upload.partPath = none
  final : base upload.finalPath = none
  named : upload.finalPath ≠ ""
  suffix : upload.partPath = upload.finalPath ++ ".part"
  plain : ¬".part".toList <:+ upload.finalPath.toList

/-- How far an upload has come, and what its directory holds beyond the files that are to stay. -/
inductive Stored (maxBytes : UInt64) (base : String → Option (List UInt8)) (bytes : List UInt8) :
    CaptureWork → Prop where
  | idle {work : CaptureWork} (inactive : work.upload.active = false)
      (closed : work.upload.outputOpen = false) (files : ∀ path, work.files.lookup path = base path) :
      Stored maxBytes base bytes work
  | writing {work : CaptureWork} (active : work.upload.active = true)
      (unfinished : work.upload.finalized = false) (opened : work.upload.outputOpen = true)
      (size : work.upload.sizeBytes.toNat = bytes.length)
      (limit : bytes.length ≤ maxBytes.toNat) (named : Named base work.upload)
      (files : ∀ path, work.files.lookup path =
        if path = work.upload.partPath then some bytes else base path) :
      Stored maxBytes base bytes work
  | finalized {work : CaptureWork} (active : work.upload.active = true)
      (finalized : work.upload.finalized = true) (closed : work.upload.outputOpen = false)
      (size : work.upload.sizeBytes.toNat = bytes.length) (limit : bytes.length ≤ maxBytes.toNat) (named : Named base work.upload)
      (files : ∀ path, work.files.lookup path =
        if path = work.upload.finalPath then some bytes else base path) :
      Stored maxBytes base bytes work

theorem lookup_removeNamed {path : String} (named : path ≠ "") (files : Directory)
    (other : String) : (removeNamed path files).lookup other =
      if other = path then none else files.lookup other := by
  unfold removeNamed
  rw [if_neg named]
  by_cases same : other = path
  · subst same
    rw [if_pos rfl, AList.lookup_erase]
  · rw [if_neg same, AList.lookup_erase_ne same]

namespace Named

variable {base : String → Option (List UInt8)} {upload : ManagedCaptureUpload}

theorem part_ne_empty (named : Named base upload) : upload.partPath ≠ "" := by
  intro empty
  have lengths := congrArg (List.length ∘ String.toList) empty
  rw [named.suffix] at lengths
  simp at lengths

end Named

namespace CaptureWork

variable {work : CaptureWork} {base : String → Option (List UInt8)}

theorem rollback_idle (inactive : work.upload.active = false) : work.rollback.files = work.files := by
  unfold rollback
  rw [inactive]
  rfl

/-- A rollback leaves the files that are to stay. -/
theorem lookup_rollback (active : work.upload.active = true) (named : Named base work.upload)
    (others : ∀ path, path ≠ work.upload.partPath → path ≠ work.upload.finalPath →
      work.files.lookup path = base path) (path : String) :
    work.rollback.files.lookup path = base path := by
  unfold rollback
  simp only [active, if_true, lookup_removeNamed named.named, lookup_removeNamed named.part_ne_empty]
  by_cases isFinal : path = work.upload.finalPath
  · rw [if_pos isFinal, isFinal, named.final]
  · rw [if_neg isFinal]
    by_cases isPart : path = work.upload.partPath
    · rw [if_pos isPart, isPart, named.part]
    · rw [if_neg isPart, others path isPart isFinal]

theorem rollback_stored {maxBytes : UInt64} {bytes : List UInt8}
    (files : ∀ path, work.rollback.files.lookup path = base path) :
    Stored maxBytes base bytes work.rollback :=
  .idle rfl rfl files

end CaptureWork

namespace Stored

variable {maxBytes : UInt64} {base : String → Option (List UInt8)} {bytes : List UInt8}
  {work : CaptureWork}

/-- Whatever has been done, a rollback leaves the files that are to stay. -/
theorem lookup_rollback (stored : Stored maxBytes base bytes work) (path : String) :
    work.rollback.files.lookup path = base path := by
  cases stored with
  | idle inactive _ files => rw [CaptureWork.rollback_idle inactive, files]
  | writing active _ _ _ _ named files =>
      refine CaptureWork.lookup_rollback active named (fun path isPart _ => ?_) path
      rw [files, if_neg isPart]
  | finalized active _ _ _ _ named files =>
      refine CaptureWork.lookup_rollback active named (fun path _ isFinal => ?_) path
      rw [files, if_neg isFinal]

theorem rollback (stored : Stored maxBytes base bytes work) (other : List UInt8) :
    Stored maxBytes base other work.rollback :=
  CaptureWork.rollback_stored stored.lookup_rollback

theorem writable (stored : Stored maxBytes base bytes work)
    (writable : ¬(!work.upload.active || work.upload.finalized || !work.upload.outputOpen) = true) :
    work.upload.active = true ∧ work.upload.finalized = false ∧ work.upload.outputOpen = true ∧
      work.upload.sizeBytes.toNat = bytes.length ∧ bytes.length ≤ maxBytes.toNat ∧
      Named base work.upload ∧ ∀ path, work.files.lookup path =
        if path = work.upload.partPath then some bytes else base path := by
  simp only [Bool.or_eq_true, Bool.not_eq_true', not_or, Bool.not_eq_false, Bool.not_eq_true]
    at writable
  obtain ⟨⟨active, unfinished⟩, opened⟩ := writable
  cases stored with
  | idle inactive => rw [inactive] at active; cases active
  | writing _ _ _ size limit named files =>
      exact ⟨active, unfinished, opened, size, limit, named, files⟩
  | finalized _ finalized => rw [finalized] at unfinished; cases unfinished

end Stored

/-- A size that passes the check does not wrap. -/
theorem checkPcapUploadSize_ok {current chunk maxBytes next : UInt64}
    (passed : checkPcapUploadSize current chunk maxBytes = .ok next) :
    next.toNat = current.toNat + chunk.toNat ∧ next ≤ maxBytes := by
  unfold checkPcapUploadSize at passed
  split at passed
  · cases passed
  · rename_i fits
    cases passed
    rw [not_or, UInt64.not_lt, UInt64.not_lt] at fits
    have room := fits.2
    rw [UInt64.le_iff_toNat_le, UInt64.toNat_sub_of_le _ _ fits.1] at room
    have small := UInt64.le_iff_toNat_le.mp fits.1
    have bound := maxBytes.toNat_lt
    have sum : (current + chunk).toNat = current.toNat + chunk.toNat := by
      rw [UInt64.toNat_add, Nat.mod_eq_of_lt (by omega)]
    exact ⟨sum, UInt64.le_iff_toNat_le.mpr (by omega)⟩

theorem checkPcapUploadSize_error {current chunk maxBytes : UInt64} {error : PcapUploadError}
    (failed : checkPcapUploadSize current chunk maxBytes = .error error) : error ≠ .ok := by
  unfold checkPcapUploadSize at failed
  split at failed
  · cases failed
    decide
  · cases failed

theorem Chunk.toNat_size (chunk : Chunk) : chunk.size.toNat = chunk.bytes.length := by
  unfold Chunk.size
  rw [UInt64.toNat_ofNat', Nat.mod_eq_of_lt chunk.fits]

theorem lookup_appendTo {path : String} {bytes content : List UInt8} {files : Directory}
    (found : files.lookup path = some content) (other : String) :
    (appendTo path bytes files).lookup other =
      if other = path then some (content ++ bytes) else files.lookup other := by
  unfold appendTo
  rw [found]
  by_cases same : other = path
  · subst same
    rw [if_pos rfl]
    exact AList.lookup_insert _
  · rw [if_neg same]
    exact AList.lookup_insert_ne same

theorem lookup_renamePart {work : CaptureWork} {base : String → Option (List UInt8)}
    {bytes : List UInt8} {renamed : Bool} {moved : Directory}
    (files : ∀ path, work.files.lookup path =
      if path = work.upload.partPath then some bytes else base path)
    (named : Named base work.upload) (ran : work.renamePart renamed = some moved) (path : String) :
    moved.lookup path = if path = work.upload.finalPath then some bytes else base path := by
  unfold CaptureWork.renamePart at ran
  split at ran
  · cases ran
  · rw [files, if_pos rfl, Option.map_some] at ran
    cases ran
    by_cases isFinal : path = work.upload.finalPath
    · subst isFinal
      rw [if_pos rfl]
      exact AList.lookup_insert _
    · rw [if_neg isFinal, AList.lookup_insert_ne isFinal]
      by_cases isPart : path = work.upload.partPath
      · rw [isPart, AList.lookup_erase, named.part]
      · rw [AList.lookup_erase_ne isPart, files, if_neg isPart]

namespace Stored

variable {maxBytes : UInt64} {base : String → Option (List UInt8)} {bytes : List UInt8}
  {work : CaptureWork}

/-- A write adds the chunk that it accepts. -/
theorem write (stored : Stored maxBytes base bytes work) {chunk : Option Chunk} {written : Bool}
    {reply : Reply} {after : CaptureWork} (ran : work.write chunk maxBytes written = (reply, after)) :
    (reply.1 ≠ .ok ∧ Stored maxBytes base bytes after) ∨
    (reply.1 = .ok ∧ ∃ taken, chunk = some taken ∧
      Stored maxBytes base (bytes ++ taken.bytes) after) := by
  unfold CaptureWork.write at ran
  split at ran
  · cases ran
    exact .inl ⟨by decide, stored⟩
  · rename_i writable
    obtain ⟨active, unfinished, opened, size, limit, named, files⟩ := stored.writable writable
    cases chunk with
    | none =>
        cases ran
        exact .inl ⟨by decide, stored.rollback _⟩
    | some chunk =>
        cases checked : checkPcapUploadSize work.upload.sizeBytes chunk.size maxBytes with
        | error error =>
            simp only [checked] at ran
            cases ran
            exact .inl ⟨checkPcapUploadSize_error checked, stored.rollback _⟩
        | ok next =>
            obtain ⟨sum, bound⟩ := checkPcapUploadSize_ok checked
            have length : next.toNat = (bytes ++ chunk.bytes).length := by
              rw [sum, size, chunk.toNat_size, List.length_append]
            have small := UInt64.le_iff_toNat_le.mp bound
            simp only [checked] at ran
            split at ran
            · cases ran
              exact .inl ⟨by decide, stored.rollback _⟩
            · cases ran
              have found : work.files.lookup work.upload.partPath = some bytes := by
                rw [files, if_pos rfl]
              refine .inr ⟨rfl, chunk, rfl, .writing active unfinished opened length (by omega)
                ⟨named.part, named.final, named.named, named.suffix, named.plain⟩ fun path => ?_⟩
              rw [lookup_appendTo found, files]
              by_cases isPart : path = work.upload.partPath
              · simp only [isPart, if_true]
              · simp only [isPart, if_false]

/-- The part file becomes the final one. -/
theorem finalize (stored : Stored maxBytes base bytes work) {outcome : FinalizeOutcome}
    {result : Except Reply ManagedCaptureRef} {after : CaptureWork}
    (ran : work.finalize outcome = (result, after)) :
    (∃ reply, result = .error reply ∧ reply.1 ≠ .ok ∧ Stored maxBytes base bytes after) ∨
    (∃ capture, result = .ok capture ∧ Stored maxBytes base bytes after ∧
      after.upload.finalPath = work.upload.finalPath ∧ after.upload.active = true ∧
      after.upload.finalized = true ∧ work.upload.active = true) := by
  unfold CaptureWork.finalize at ran
  split at ran
  · cases ran
    exact .inl ⟨_, rfl, by decide, stored⟩
  · rename_i writable
    obtain ⟨active, -, -, size, limit, named, files⟩ := stored.writable writable
    split at ran
    · cases ran
      exact .inl ⟨_, rfl, by decide, stored.rollback _⟩
    · split at ran
      · cases ran
        exact .inl ⟨_, rfl, by decide, stored.rollback _⟩
      · split at ran
        · cases ran
          exact .inl ⟨_, rfl, by decide, stored.rollback _⟩
        · rename_i moved renamed
          have finalized : Stored maxBytes base bytes
              { upload := { work.upload with outputOpen := false, finalized := true }
                files := moved } := by
            refine .finalized active rfl rfl size limit
              ⟨named.part, named.final, named.named, named.suffix, named.plain⟩ fun path => ?_
            exact lookup_renamePart files named renamed path
          split at ran
          · cases ran
            exact .inl ⟨_, rfl, by decide, finalized.rollback _⟩
          · cases ran
            exact .inr ⟨_, rfl, finalized, rfl, active, rfl, active⟩

end Stored

/-! ## Names -/

theorem createFile_some {root extension finalPath : String} {attempts : Nat → Attempt}
    {files : Directory} {left attempt : Nat}
    (created : createFile root extension attempts files left attempt = some finalPath) :
    (∃ token, finalPath = captureFile root token extension) ∧ files.lookup finalPath = none ∧
      files.lookup (finalPath ++ ".part") = none := by
  induction left generalizing attempt with
  | zero => cases created
  | succ left ih =>
      rw [createFile] at created
      split at created
      · exact ih created
      · rename_i usable
        cases created
        simp only [Bool.or_eq_true, not_or, Option.not_isSome_iff_eq_none] at usable
        exact ⟨⟨_, rfl⟩, usable.1.1.1.1, usable.1.1.2⟩

theorem captureExtension_supported {filename : String}
    (supported : isSupportedCaptureFilename filename = true) :
    captureExtension filename = some ".pcap" ∨ captureExtension filename = some ".pcapng" := by
  unfold isSupportedCaptureFilename at supported
  simp only [Bool.and_eq_true, Bool.or_eq_true, decide_eq_true_eq] at supported
  exact supported.2

/-- The name of a capture is no name of a part file. -/
theorem captureFile_plain (root token : String) {extension : String}
    (supported : extension = ".pcap" ∨ extension = ".pcapng") :
    ¬".part".toList <:+ (captureFile root token extension).toList := by
  intro part
  have own : extension.toList <:+ (captureFile root token extension).toList := by
    unfold captureFile
    rw [String.toList_append]
    exact List.suffix_append _ _
  rcases List.suffix_or_suffix_of_suffix part own with within | within <;>
    rcases supported with rfl | rfl <;> revert within <;> decide

theorem captureFile_ne_empty (root token extension : String) :
    captureFile root token extension ≠ "" := by
  intro empty
  have length := congrArg (List.length ∘ String.toList) empty
  unfold captureFile at length
  simp at length

/-! ## The calls of a transaction -/

namespace Stored

variable {transaction : PcapUploadTransaction} {base : String → Option (List UInt8)}
  {bytes : List UInt8} {work after : CaptureWork}

theorem began {attempts : Nat → Attempt} {reply : Reply}
    (stored : Stored transaction.maxBytes base bytes work)
    (ran : transaction.beginTransaction attempts work = (reply, after)) :
    (reply.1 ≠ .ok ∧ after = work) ∨
      (reply.1 = .ok ∧ Stored transaction.maxBytes base [] after) := by
  unfold PcapUploadTransaction.beginTransaction beginUpload at ran
  split at ran
  · cases ran
    exact .inl ⟨by decide, rfl⟩
  · split at ran
    · cases ran
      exact .inl ⟨by decide, rfl⟩
    · split at ran
      · cases ran
        exact .inl ⟨by decide, rfl⟩
      · split at ran
        · cases ran
          exact .inl ⟨by decide, rfl⟩
        · rename_i inactive
          split at ran
          · cases ran
            exact .inl ⟨by decide, rfl⟩
          · rename_i valid
            split at ran
            · cases ran
              exact .inl ⟨by decide, rfl⟩
            · rename_i finalPath created
              cases ran
              obtain ⟨⟨token, name⟩, final, part⟩ := createFile_some created
              simp only [Bool.or_eq_true, not_or, Bool.not_eq_true', Bool.not_eq_false] at valid
              have files : ∀ path, work.files.lookup path = base path := by
                cases stored with
                | idle _ _ files => exact files
                | writing active => exact absurd active inactive
                | finalized active => exact absurd active inactive
              rw [files] at final part
              have named : finalPath ≠ "" ∧ ¬".part".toList <:+ finalPath.toList := by
                rw [name]
                refine ⟨captureFile_ne_empty _ _ _, captureFile_plain _ _ ?_⟩
                rcases captureExtension_supported valid.2 with found | found <;> simp [found]
              refine .inr ⟨rfl, .writing rfl rfl rfl rfl (Nat.zero_le _)
                ⟨part, final, named.1, rfl, named.2⟩ fun path => ?_⟩
              by_cases isPart : path = finalPath ++ ".part"
              · rw [if_pos isPart, isPart]
                exact AList.lookup_insert _
              · rw [if_neg isPart, ← files]
                exact AList.lookup_insert_ne isPart

theorem named (stored : Stored transaction.maxBytes base bytes work)
    (active : work.upload.active = true) : Named base work.upload := by
  cases stored with
  | idle inactive => exact absurd (active.symm.trans inactive) (by decide)
  | writing _ _ _ _ _ named => exact named
  | finalized _ _ _ _ _ named => exact named

theorem complete {publicJson : Bool} {outcome : FinalizeOutcome}
    {scheduler : ManagedCaptureRef → Option Reply} {reply : Option Reply}
    {shown : Option ManagedCaptureRef} (stored : Stored transaction.maxBytes base bytes work)
    (ran : transaction.complete publicJson outcome scheduler work = (reply, shown, after)) :
    (reply.map (·.1) ≠ some .ok ∧ Stored transaction.maxBytes base bytes after) ∨
    (reply.map (·.1) = some .ok ∧ Named base work.upload ∧
      bytes.length ≤ transaction.maxBytes.toNat ∧
      Stored transaction.maxBytes
        (fun path => if path = work.upload.finalPath then some bytes else base path) bytes after) := by
  unfold PcapUploadTransaction.complete at ran
  split at ran
  · cases ran
    exact .inl ⟨by decide, stored.rollback _⟩
  · split at ran
    · cases ran
      exact .inl ⟨by decide, stored.rollback _⟩
    · cases finalized : work.finalize outcome with
      | mk result moved =>
          rcases stored.finalize finalized with
            ⟨error, rfl, wrong, kept⟩ | ⟨capture, rfl, kept, same, active, done, wasActive⟩
          · simp only [finalized] at ran
            cases ran
            refine .inl ⟨?_, kept⟩
            rwa [Option.map_some, ne_eq, Option.some_inj]
          · simp only [finalized] at ran
            split at ran
            · cases ran
              exact .inl ⟨nofun, kept⟩
            · cases kept with
              | idle inactive => exact absurd (active.symm.trans inactive) (by decide)
              | writing _ unfinished => exact absurd (done.symm.trans unfinished) (by decide)
              | finalized _ _ closed _ limit named files =>
                  have committed : moved.commit = (accepted,
                      { moved with upload := { moved.upload with active := false } }) := by
                    unfold CaptureWork.commit
                    simp [active, done, closed]
                  rw [committed] at ran
                  cases ran
                  refine .inr ⟨rfl, stored.named wasActive, limit, .idle rfl closed fun path => ?_⟩
                  rw [← same]
                  exact files path
            · rename_i answer failed _
              cases ran
              refine .inl ⟨fun ok => ?_, kept.rollback _⟩
              obtain ⟨error, message⟩ := answer
              cases Option.some.inj ok
              exact failed message rfl

end Stored

/-! ## Every run -/

inductive UploadEvent where
  | begin (attempts : Nat → Attempt)
  | write (chunk : Option Chunk) (written : Bool)
  | complete (publicJson : Bool) (outcome : FinalizeOutcome)
      (scheduler : ManagedCaptureRef → Option Reply)
  | rollback

/-- An upload, the bytes that were accepted since the last begin and the completed captures. -/
structure UploadWorld where
  work : CaptureWork
  accepted : List UInt8 := []
  committed : Directory := ∅

namespace UploadWorld

/-- The files that are to stay. -/
def base (initial : Directory) (world : UploadWorld) (path : String) : Option (List UInt8) :=
  (world.committed.lookup path).or (initial.lookup path)

def apply (transaction : PcapUploadTransaction) (world : UploadWorld) : UploadEvent → UploadWorld
  | .begin attempts =>
      let (reply, work) := transaction.beginTransaction attempts world.work
      { world with
        work := work
        accepted := if reply.1 = .ok then [] else world.accepted }
  | .write chunk written =>
      let (reply, work) := transaction.write chunk written world.work
      { world with
        work := work
        accepted := if reply.1 = .ok then world.accepted ++ (chunk.map (·.bytes)).getD []
          else world.accepted }
  | .complete publicJson outcome scheduler =>
      let (reply, _, work) := transaction.complete publicJson outcome scheduler world.work
      { world with
        work := work
        committed := if reply.map (·.1) = some .ok then
            world.committed.insert world.work.upload.finalPath world.accepted
          else world.committed }
  | .rollback => { world with work := world.work.rollback }

def step (transaction : PcapUploadTransaction) (world : UploadWorld) (event : UploadEvent) :
    Option UploadWorld :=
  some (apply transaction world event)

end UploadWorld

/-- The completed captures are new files, and not larger than the limit. -/
structure Committed (initial : Directory) (maxBytes : UInt64) (world : UploadWorld) : Prop where
  stored : Stored maxBytes (world.base initial) world.accepted world.work
  fresh : ∀ path bytes, world.committed.lookup path = some bytes → initial.lookup path = none
  limit : ∀ path bytes, world.committed.lookup path = some bytes → bytes.length ≤ maxBytes.toNat
  plain : ∀ path bytes, world.committed.lookup path = some bytes → ¬".part".toList <:+ path.toList

namespace Committed

variable {initial : Directory} {transaction : PcapUploadTransaction} {world after : UploadWorld}

theorem step (committed : Committed initial transaction.maxBytes world) {event : UploadEvent}
    (moved : UploadWorld.step transaction world event = some after) :
    Committed initial transaction.maxBytes after := by
  cases moved
  cases event with
  | begin attempts =>
      cases ran : transaction.beginTransaction attempts world.work with
      | mk reply work =>
          simp only [UploadWorld.apply, ran]
          refine ⟨?_, committed.fresh, committed.limit, committed.plain⟩
          rcases committed.stored.began ran with ⟨wrong, rfl⟩ | ⟨ok, stored⟩
          · rw [if_neg wrong]
            exact committed.stored
          · rw [if_pos ok]
            exact stored
  | write chunk written =>
      cases ran : transaction.write chunk written world.work with
      | mk reply work =>
          simp only [UploadWorld.apply, ran]
          refine ⟨?_, committed.fresh, committed.limit, committed.plain⟩
          rcases committed.stored.write ran with ⟨wrong, stored⟩ | ⟨ok, taken, rfl, stored⟩
          · rw [if_neg wrong]
            exact stored
          · rw [if_pos ok]
            exact stored
  | complete publicJson outcome scheduler =>
      cases ran : transaction.complete publicJson outcome scheduler world.work with
      | mk reply rest =>
          obtain ⟨shown, work⟩ := rest
          simp only [UploadWorld.apply, ran]
          rcases committed.stored.complete ran with ⟨wrong, stored⟩ | ⟨ok, named, limit, stored⟩
          · simp only [if_neg wrong]
            exact ⟨stored, committed.fresh, committed.limit, committed.plain⟩
          · simp only [if_pos ok]
            have entry (path : String) (bytes : List UInt8)
                (found : (world.committed.insert world.work.upload.finalPath world.accepted).lookup
                  path = some bytes) :
                (path = world.work.upload.finalPath ∧ bytes = world.accepted) ∨
                  world.committed.lookup path = some bytes := by
              by_cases same : path = world.work.upload.finalPath
              · subst same
                rw [AList.lookup_insert] at found
                exact .inl ⟨rfl, (Option.some.inj found).symm⟩
              · rw [AList.lookup_insert_ne same] at found
                exact .inr found
            have unused := Option.or_eq_none_iff.mp named.final
            refine ⟨?_, ?_, ?_, ?_⟩
            · convert stored using 2 with path
              change ((world.committed.insert _ _).lookup path).or _ = _
              by_cases same : path = world.work.upload.finalPath
              · subst same
                rw [AList.lookup_insert, if_pos rfl, Option.some_or]
              · rw [AList.lookup_insert_ne same, if_neg same]
                rfl
            · intro path bytes found
              rcases entry path bytes found with ⟨rfl, rfl⟩ | found
              · exact unused.2
              · exact committed.fresh path bytes found
            · intro path bytes found
              rcases entry path bytes found with ⟨rfl, rfl⟩ | found
              · exact limit
              · exact committed.limit path bytes found
            · intro path bytes found
              rcases entry path bytes found with ⟨rfl, rfl⟩ | found
              · exact named.plain
              · exact committed.plain path bytes found
  | rollback =>
      exact ⟨committed.stored.rollback _, committed.fresh, committed.limit, committed.plain⟩

end Committed

/-- What the destructor leaves, at any time. -/
structure UploadSettled (initial : Directory) (transaction : PcapUploadTransaction)
    (world : UploadWorld) : Prop where
  /-- The files that were there, and each capture that was completed. -/
  left : ∀ path, world.work.rollback.files.lookup path =
    (world.committed.lookup path).or (initial.lookup path)
  fresh : ∀ path bytes, world.committed.lookup path = some bytes → initial.lookup path = none
  limit : ∀ path bytes, world.committed.lookup path = some bytes →
    bytes.length ≤ transaction.maxBytes.toNat
  noPart : ∀ path, ".part".toList <:+ path.toList →
    world.work.rollback.files.lookup path = initial.lookup path
  /-- A completed capture stays whatever is called. -/
  stays : ∀ path bytes, world.committed.lookup path = some bytes →
    world.work.files.lookup path = some bytes
  /-- The name of the upload that goes on belongs to no completed capture. -/
  unused : world.work.upload.active = true →
    world.committed.lookup world.work.upload.finalPath = none
  size : world.work.upload.active = true →
    world.work.upload.sizeBytes.toNat = world.accepted.length ∧
      world.work.upload.sizeBytes ≤ transaction.maxBytes

/-- In every run of a transaction, whichever of its operations fail. -/
theorem upload_settled {initial : Directory} {transaction : PcapUploadTransaction}
    {world : UploadWorld} (reached : Reachable (UploadWorld.step transaction) (fun _ _ => True)
      { work := { files := initial } } world) : UploadSettled initial transaction world := by
  have committed : Committed initial transaction.maxBytes world := by
    refine reached.invariant (Committed initial transaction.maxBytes) ?_ ?_
    · exact ⟨.idle rfl rfl fun _ => rfl, nofun, nofun, nofun⟩
    · intro state event after holds _ moved
      exact holds.step moved
  have none_committed {path : String} (part : ".part".toList <:+ path.toList) :
      world.committed.lookup path = none := by
    cases found : world.committed.lookup path with
    | none => rfl
    | some bytes => exact absurd part (committed.plain path bytes found)
  refine ⟨committed.stored.lookup_rollback, committed.fresh, committed.limit, ?_, ?_, ?_, ?_⟩
  · intro path part
    rw [committed.stored.lookup_rollback, UploadWorld.base, none_committed part, Option.none_or]
  · intro path bytes found
    have kept : world.base initial path = some bytes := by
      rw [UploadWorld.base, found, Option.some_or]
    cases committed.stored with
    | idle _ _ files => rw [files, kept]
    | writing _ _ _ _ _ named files =>
        have other : path ≠ world.work.upload.partPath := by
          rintro rfl
          rw [named.part] at kept
          cases kept
        rw [files, if_neg other, kept]
    | finalized _ _ _ _ _ named files =>
        have other : path ≠ world.work.upload.finalPath := by
          rintro rfl
          rw [named.final] at kept
          cases kept
        rw [files, if_neg other, kept]
  · intro active
    exact (Option.or_eq_none_iff.mp (committed.stored.named active).final).1
  · intro active
    rw [UInt64.le_iff_toNat_le]
    cases committed.stored with
    | idle inactive => exact absurd (active.symm.trans inactive) (by decide)
    | writing _ _ _ size limit => exact ⟨size, size ▸ limit⟩
    | finalized _ _ _ size limit => exact ⟨size, size ▸ limit⟩

/-- One upload of two bytes that is completed. -/
theorem upload_settled_once :
    UploadSettled ∅ ⟨some "up", ⟨"lan", "lan.pcap"⟩, 8, true⟩
      ([.begin fun _ => ⟨"1-0", false, false, true⟩, .write (some ⟨[1, 2], by decide⟩) true,
        .complete true ⟨true, true, true, some "up/capture-1-0.pcap"⟩ fun _ => some accepted].foldl
        (UploadWorld.apply ⟨some "up", ⟨"lan", "lan.pcap"⟩, 8, true⟩) { work := {} }) :=
  upload_settled (Reachable.of_foldl _ (fun _ _ => trivial) _ .start)

end Flowsql.Web
