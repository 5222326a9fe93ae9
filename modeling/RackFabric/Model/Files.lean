import RackFabric.Library.Inodes
import RackFabric.Model.Persistence

/-! `write_file_atomic` and `read_file`, one call of the operating system at a time, with
any number of calls in flight in any number of processes. -/
namespace RackFabric
open Inodes

inductive FileStatus where
  | ok | notFound | accessDenied | ioError | tooLarge | interrupted
deriving DecidableEq

/-- The temporary file of a call, beside its destination. -/
def makeTempPath (destination : Str) (process : Nat) (counter : UInt64) : Str :=
  destination ++ str ".tmp-" ++ decimal process ++ str "-" ++ decimal counter.toNat

/-! Writing. -/

inductive WritePhase where
  | opening
  | writing (inode : Nat)
  | flushing (inode : Nat)
  | closing (inode : Nat)
  | replacing
  /-- The file is closed after a failure. -/
  | abandoning (inode : Nat) (detail : Str)
  | removing (detail : Str)
  | returned (status : FileStatus) (detail : Str)
  /-- An I/O error is returned, and the file of the call could not be removed. -/
  | unremoved (detail : Str)
  /-- The process stopped before the call returned. -/
  | stopped
deriving DecidableEq

/-- The open file of a call. -/
def WritePhase.handle : WritePhase → Option Nat
  | .writing inode | .flushing inode | .closing inode | .abandoning inode _ => some inode
  | _ => none

/-- The call has not returned, and its process goes on. -/
def WritePhase.live : WritePhase → Bool
  | .returned _ _ | .unremoved _ | .stopped => false
  | _ => true

structure WriteCall where
  process : Nat
  counter : UInt64
  path : Str
  data : Bytes
  atomicReplace : Bool
  phase : WritePhase := .opening

def WriteCall.target (call : WriteCall) : Str :=
  if call.atomicReplace then makeTempPath call.path call.process call.counter else call.path

/-- The disk, the counter `g_temp_counter` of each process, and the calls made so far. -/
structure FileSystem where
  disk : Disk Str Bytes := {contents := fun _ => []}
  counters : Nat → UInt64 := fun _ => 0
  calls : Nat → Option WriteCall := fun _ => none

inductive FileEvent where
  | start (call process : Nat) (path : Str) (data : Bytes) (atomicReplace : Bool)
  /-- What a call waits for from the operating system succeeds or fails. -/
  | proceed (call : Nat) (succeeds : Bool)
  /-- Bytes that a call has written arrive in its file. -/
  | arrive (call length : Nat)
  | stop (process : Nat)

namespace FileSystem

def withPhase (files : FileSystem) (id : Nat) (call : WriteCall) (phase : WritePhase) :
    FileSystem :=
  { files with calls := Function.update files.calls id (some { call with phase := phase }) }

def proceed (files : FileSystem) (id : Nat) (call : WriteCall) (succeeds : Bool) : FileSystem :=
  match call.phase with
  | .opening =>
      if succeeds then
        { files with disk := files.disk.create call.target [] }.withPhase id call
          (.writing (files.disk.handle call.target))
      else
        files.withPhase id call
          (.returned .accessDenied (str "cannot open destination for writing"))
  | .writing inode =>
      if succeeds ∨ call.data = [] then files.withPhase id call (.flushing inode)
      else files.withPhase id call (.abandoning inode (str "short write"))
  | .flushing inode =>
      if succeeds then
        { files with disk := files.disk.store inode call.data }.withPhase id call (.closing inode)
      else files.withPhase id call (.abandoning inode (str "cannot flush file to storage"))
  | .closing _ =>
      if !succeeds then files.withPhase id call (.removing (str "cannot close file"))
      else if call.atomicReplace then files.withPhase id call .replacing
      else files.withPhase id call (.returned .ok [])
  | .replacing =>
      if succeeds then
        { files with disk := files.disk.rename call.target call.path }.withPhase id call
          (.returned .ok [])
      else
        files.withPhase id call (.removing (str "cannot replace destination atomically"))
  | .abandoning _ detail => files.withPhase id call (.removing detail)
  | .removing detail =>
      if succeeds then
        { files with disk := files.disk.unlink call.target }.withPhase id call
          (.returned .ioError detail)
      else files.withPhase id call (.unremoved detail)
  | .returned _ _ => files
  | .unremoved _ => files
  | .stopped => files

/-- A longer part of the data is in the file. -/
def arrive (files : FileSystem) (call : WriteCall) (length : Nat) : FileSystem :=
  match call.phase with
  | .writing inode | .flushing inode | .abandoning inode _ =>
      { files with
        disk := files.disk.store inode
          (call.data.take (max (files.disk.contents inode).length length)) }
  | _ => files

def stopCall (process : Nat) (call : WriteCall) : WriteCall :=
  if call.phase.live ∧ call.process = process then { call with phase := .stopped } else call

def step (files : FileSystem) : FileEvent → FileSystem
  | .start id process path data atomicReplace =>
      match files.calls id with
      | some _ => files
      | none =>
          { files with
            counters :=
              if atomicReplace then
                Function.update files.counters process (files.counters process + 1)
              else files.counters
            calls := Function.update files.calls id
              (some ⟨process, files.counters process, path, data, atomicReplace, .opening⟩) }
  | .proceed id succeeds =>
      match files.calls id with
      | none => files
      | some call => files.proceed id call succeeds
  | .arrive id length =>
      match files.calls id with
      | none => files
      | some call => files.arrive call length
  | .stop process =>
      { files with
        counters := Function.update files.counters process 0
        calls := fun id => (files.calls id).map (stopCall process) }

end FileSystem

/-! Reading. -/

/-- What `read_file` returns, from what is at the path when it looks for the file, asks for
its size and opens it. -/
def readFileAt (present sized opened : Option Bytes) (opens : Bool) (maxBytes : UInt64) :
    Except (FileStatus × Str) Bytes :=
  match present, sized, opened with
  | none, _, _ => .error (.notFound, str "file does not exist")
  | some _, none, _ => .error (.ioError, str "cannot determine file size")
  | some _, some found, content =>
      if found.length > maxBytes.toNat then
        .error (.tooLarge, str "file exceeds the configured maximum size")
      else match opens, content with
        | true, some bytes =>
            if bytes.length < found.length then .error (.interrupted, str "short read")
            else .ok (bytes.take found.length)
        | _, _ => .error (.accessDenied, str "cannot open file for reading")

/-- The status that `parse_file` gives a failure to read. -/
def readStatus : FileStatus → PersistenceStatus
  | .notFound => .notFound
  | .tooLarge => .limitExceeded
  | _ => .ioError

/-- `parse_file`, where the file at the path may be replaced while it is read. -/
def parseFileAt (present sized opened : Option Bytes) (opens : Bool) (maxPersistedBytes : UInt64) :
    Except (PersistenceStatus × Str) Bytes :=
  match readFileAt present sized opened opens maxPersistedBytes with
  | .error (status, detail) => .error (readStatus status, detail)
  | .ok data => parseFile data maxPersistedBytes

end RackFabric
