import Flowsql.Library.AssociationList

/-!
# Uploads of captures

An upload writes the chunks of a capture into a part file of the managed directory, renames the file
when the capture is complete and keeps it once the scheduler has taken the channel. Until then a
rollback removes both names.
-/

namespace Flowsql.Web

inductive PcapUploadError where
  | ok
  | invalidRequest
  | conflict
  | tooLarge
  | unavailable
  | storageFailure
  | internal
  deriving DecidableEq

/-- The error of a call, with its message. -/
abbrev Reply := PcapUploadError × String

def accepted : Reply := (.ok, "")

/-- The files of the managed directory, by their paths. -/
abbrev Directory := AList fun _ : String => List UInt8

/-- A chunk has a size that fits into `size_t`. -/
structure Chunk where
  bytes : List UInt8
  fits : bytes.length < 2 ^ 64

def Chunk.size (chunk : Chunk) : UInt64 :=
  .ofNat chunk.bytes.length

structure PcapUploadRequest where
  channelName : String
  originalFilename : String
  deriving DecidableEq

structure ManagedCaptureRef where
  channelName : String
  originalFilename : String
  canonicalPath : String
  sizeBytes : UInt64
  deriving DecidableEq

def isSafeLogicalName (value : String) : Bool :=
  value ≠ "" && value ≠ "." && value ≠ ".." &&
    value.toList.all fun ch => ch ≠ '/' && ch ≠ '\\' && 0x20 ≤ ch.toNat && ch.toNat ≠ 0x7f

/-- From the last dot on, if there is one after the first character, in lower case. -/
def captureExtension (filename : String) : Option String :=
  match filename.toList.reverse.span (· ≠ '.') with
  | (tail, '.' :: front) =>
      if front = [] ∨ tail = [] then none
      else some (String.ofList (('.' :: tail.reverse).map (·.toLower)))
  | _ => none

def isSupportedCaptureFilename (value : String) : Bool :=
  value ≠ "" && value ≠ "." && value ≠ ".." && value.toList.all (fun ch => ch ≠ '/' && ch ≠ '\\') &&
    (captureExtension value = some ".pcap" || captureExtension value = some ".pcapng")

def checkPcapUploadSize (currentSize chunk maxBytes : UInt64) : Except PcapUploadError UInt64 :=
  if maxBytes < currentSize ∨ maxBytes - currentSize < chunk then .error .tooLarge
  else .ok (currentSize + chunk)

structure ManagedCaptureUpload where
  channelName : String := ""
  originalFilename : String := ""
  partPath : String := ""
  finalPath : String := ""
  /-- `output_.is_open()` -/
  outputOpen : Bool := false
  sizeBytes : UInt64 := 0
  active : Bool := false
  finalized : Bool := false
  deriving DecidableEq

/-- An upload with the directory it works on. -/
structure CaptureWork where
  upload : ManagedCaptureUpload := {}
  files : Directory := ∅

/-- One name that `Begin` tries, with what the file system says about it. -/
structure Attempt where
  token : String
  finalError : Bool
  partError : Bool
  opened : Bool

/-- How the operations of `Finalize` end. -/
structure FinalizeOutcome where
  flushed : Bool
  closed : Bool
  renamed : Bool
  canonical : Option String

def removeNamed (path : String) (files : Directory) : Directory :=
  if path = "" then files else files.erase path

/-- A write at the end of an open file. -/
def appendTo (path : String) (bytes : List UInt8) (files : Directory) : Directory :=
  match files.lookup path with
  | none => files
  | some content => files.insert path (content ++ bytes)

namespace CaptureWork

variable (work : CaptureWork)

def rollback : CaptureWork where
  upload := { work.upload with outputOpen := false, active := false, finalized := false }
  files :=
    if work.upload.active then
      removeNamed work.upload.finalPath (removeNamed work.upload.partPath work.files)
    else work.files

/-- `Write`. No chunk is a null pointer with a size; `written` says whether the stream takes it. -/
def write (chunk : Option Chunk) (maxBytes : UInt64) (written : Bool) : Reply × CaptureWork :=
  if !work.upload.active || work.upload.finalized || !work.upload.outputOpen then
    ((.internal, "capture upload is not writable"), work)
  else
    match chunk with
    | none => ((.internal, "capture chunk is null"), work.rollback)
    | some chunk =>
        match checkPcapUploadSize work.upload.sizeBytes chunk.size maxBytes with
        | .error error => ((error, "capture exceeds size limit"), work.rollback)
        | .ok nextSize =>
            if chunk.bytes ≠ [] ∧ !written then
              ((.storageFailure, "failed to write capture chunk"), work.rollback)
            else
              (accepted,
                { upload := { work.upload with sizeBytes := nextSize }
                  files := appendTo work.upload.partPath chunk.bytes work.files })

/-- `std::filesystem::rename` of the part file. -/
def renamePart (renamed : Bool) : Option Directory :=
  if !renamed then none
  else (work.files.lookup work.upload.partPath).map fun content =>
    (work.files.erase work.upload.partPath).insert work.upload.finalPath content

/-- `Finalize`. -/
def finalize (outcome : FinalizeOutcome) : Except Reply ManagedCaptureRef × CaptureWork :=
  if !work.upload.active || work.upload.finalized || !work.upload.outputOpen then
    (.error (.internal, "capture upload cannot be finalized"), work)
  else if !outcome.flushed then
    (.error (.storageFailure, "failed to flush capture file"), work.rollback)
  else if !outcome.closed then
    (.error (.storageFailure, "failed to close capture file"), work.rollback)
  else
    match work.renamePart outcome.renamed with
    | none => (.error (.storageFailure, "failed to finalize capture file"), work.rollback)
    | some files =>
        let named : CaptureWork :=
          { upload := { work.upload with outputOpen := false, finalized := true }, files := files }
        match outcome.canonical with
        | none => (.error (.storageFailure, "failed to resolve finalized capture"), named.rollback)
        | some path =>
            (.ok ⟨work.upload.channelName, work.upload.originalFilename, path,
              work.upload.sizeBytes⟩, named)

def commit : Reply × CaptureWork :=
  if !work.upload.active || !work.upload.finalized || work.upload.outputOpen then
    ((.internal, "capture upload cannot be committed"), work)
  else
    (accepted, { work with upload := { work.upload with active := false } })

end CaptureWork

/-- The path of a file of the directory. -/
def captureFile (root token extension : String) : String :=
  root ++ "/" ++ "capture-" ++ token ++ extension

/-- The loop of `Begin` over the names that it tries. -/
def createFile (root extension : String) (attempts : Nat → Attempt) (files : Directory) :
    Nat → Nat → Option String
  | 0, _ => none
  | left + 1, attempt =>
      let tried := attempts attempt
      let finalPath := captureFile root tried.token extension
      if (files.lookup finalPath).isSome || tried.finalError ||
          (files.lookup (finalPath ++ ".part")).isSome || tried.partError || !tried.opened then
        createFile root extension attempts files left (attempt + 1)
      else
        some finalPath

/-- `ManagedCaptureStore::Begin`, with the root of the store. -/
def beginUpload (root : String) (request : PcapUploadRequest) (attempts : Nat → Attempt)
    (work : CaptureWork) : Reply × CaptureWork :=
  if root = "" then
    ((.internal, "managed capture store is not ready"), work)
  else if work.upload.active then
    ((.internal, "capture upload is already active"), work)
  else if !isSafeLogicalName request.channelName ||
      !isSupportedCaptureFilename request.originalFilename then
    ((.invalidRequest, "invalid managed capture identity"), work)
  else
    match createFile root ((captureExtension request.originalFilename).getD "") attempts
        work.files 32 0 with
    | none => ((.storageFailure, "failed to create managed capture file"), work)
    | some finalPath =>
        (accepted,
          { upload :=
              { channelName := request.channelName
                originalFilename := request.originalFilename
                partPath := finalPath ++ ".part"
                finalPath := finalPath
                outputOpen := true
                sizeBytes := 0
                active := true
                finalized := false }
            files := work.files.insert (finalPath ++ ".part") [] })

/-- What a transaction is made from. -/
structure PcapUploadTransaction where
  /-- The root of the store, if there is one; it is empty before the store is ready. -/
  store : Option String
  request : PcapUploadRequest
  maxBytes : UInt64
  /-- `scheduler_add_` holds a function. -/
  schedulerAdd : Bool

namespace PcapUploadTransaction

variable (transaction : PcapUploadTransaction)

def beginTransaction (attempts : Nat → Attempt) (work : CaptureWork) : Reply × CaptureWork :=
  match transaction.store with
  | none => ((.internal, "managed capture store is null"), work)
  | some root =>
      if !transaction.schedulerAdd then
        ((.internal, "scheduler add callback is empty"), work)
      else
        beginUpload root transaction.request attempts work

def write (chunk : Option Chunk) (written : Bool) (work : CaptureWork) : Reply × CaptureWork :=
  work.write chunk transaction.maxBytes written

/-- `Complete`, with the capture that the public answer shows. The answer of the scheduler is none
when it throws. -/
def complete (publicJson : Bool) (outcome : FinalizeOutcome)
    (scheduler : ManagedCaptureRef → Option Reply) (work : CaptureWork) :
    Option Reply × Option ManagedCaptureRef × CaptureWork :=
  if !publicJson then
    (some (.internal, "public upload response is null"), none, work.rollback)
  else if !transaction.schedulerAdd then
    (some (.internal, "scheduler add callback is empty"), none, work.rollback)
  else
    match work.finalize outcome with
    | (.error reply, work) => (some reply, none, work)
    | (.ok capture, work) =>
        match scheduler capture with
        | none => (none, none, work)
        | some (.ok, _) =>
            match work.commit with
            | ((.ok, message), work) => (some (.ok, message), some capture, work)
            | (reply, work) => (some reply, none, work.rollback)
        | some reply => (some reply, none, work.rollback)

end PcapUploadTransaction

end Flowsql.Web
