import ModelSwitch.Program.Blobs.Metadata
import ModelSwitch.Program.Execution.Record

/-!
# The files of the blob store and its thread calls

A blob is received into `.staging/<blob_id>.part` and published by a rename to `<owner>/<blob_id>`.
A name leads to an inode, and a descriptor stands for the inode it was opened on: what is written
through it reaches that file, whatever has become of the name since. The directories themselves are
taken to be usable.

Blocking work runs in worker threads, one `Call` at a time: the metadata methods and the file
operations between two `await`s. `Call.run` says what such a call does and answers.
-/

namespace ModelSwitch.Blobs

open ModelSwitch.Execution (Body)

/-! ### Files -/

abbrev Ino := ℕ

inductive Node
  | regular (content : Body)
  | symlink
  /-- What opens without being a regular file: a FIFO, a device. -/
  | special
  deriving DecidableEq

structure Disk where
  nodes : Dict Ino Node := Dict.empty
  nextIno : Ino := 0
  staging : Dict BlobId Ino := Dict.empty
  published : Dict (Owner × BlobId) Ino := Dict.empty

namespace Disk

variable (d : Disk)

def nodeAt (owner : Owner) (id : BlobId) : Option Node :=
  (d.published.get? (owner, id)).bind d.nodes.get?

/-- `_open_staging`, with `O_EXCL`. -/
def openStaging (id : BlobId) : Disk × Except Exc Ino :=
  if d.staging.contains id then (d, .error .osError)
  else
    ({ d with nodes := d.nodes.set d.nextIno (.regular []), nextIno := d.nextIno + 1,
              staging := d.staging.set id d.nextIno }, .ok d.nextIno)

/-- `os.write`. -/
def write (fd : Ino) (chunk : Body) : Disk :=
  match d.nodes.get? fd with
  | some (.regular content) => { d with nodes := d.nodes.set fd (.regular (content ++ chunk)) }
  | _ => d

/-- `_publish_file`. -/
def publishFile (owner : Owner) (id : BlobId) : Disk × Except Exc Unit :=
  match d.staging.get? id with
  | none => (d, .error .osError)
  | some ino =>
    ({ d with staging := d.staging.erase id, published := d.published.set (owner, id) ino }, .ok ())

def removeStaging (id : BlobId) : Disk := { d with staging := d.staging.erase id }

def removePublished (owner : Owner) (id : BlobId) : Disk :=
  { d with published := d.published.erase (owner, id) }

end Disk

/-! ### The store -/

structure StoreConfig where
  chunkedReserveBytes : ℤ := 1024 ^ 3
  mediaTypes : List String := ["application/json", "image/png", "image/jpeg"]
  sha256 : Body → Digest

def maxBlobBytes : ℤ := 1024 ^ 3

structure Store where
  cfg : StoreConfig
  metadata : Metadata
  disk : Disk := {}
  /-- What `disk_free_bytes` answers, if it is given. -/
  diskFree : Option ℤ := none
  clock : Time := 0

namespace Store

variable (s : Store)

/-- The content has the size and the hash of the row. -/
def agrees (r : BlobRecord) (content : Body) : Bool :=
  (content.length : ℤ) = r.sizeBytes && some (s.cfg.sha256 content) = r.sha256

/-- The checks of `_open_verified` on the opened file. -/
def verify (r : BlobRecord) : Node → Except Exc Unit
  | .regular content =>
    if (content.length : ℤ) ≠ r.sizeBytes then
      .error (.blobStoreError "unreadable" "the blob file changed")
    else if some (s.cfg.sha256 content) ≠ r.sha256 then
      .error (.blobStoreError "unreadable" "the blob file does not match its published hash")
    else .ok ()
  | _ => .error (.blobStoreError "unreadable" "the blob file changed")

/-- What `os.open` with `O_NOFOLLOW` opens; the text of the `OSError` is not part of the message. -/
def openPublished (owner : Owner) (id : BlobId) (message : String) : Except Exc (Ino × Node) :=
  match s.disk.published.get? (owner, id) with
  | none => .error (.blobStoreError "unreadable" message)
  | some ino =>
    match s.disk.nodes.get? ino with
    | none | some .symlink => .error (.blobStoreError "unreadable" message)
    | some node => .ok (ino, node)

/-- `_open_verified`: a file that opens and is not the published one marks its row. -/
def openVerified (id : BlobId) (r : BlobRecord) : Store × Except Exc Ino :=
  match s.openPublished r.owner id "cannot open blob" with
  | .error e => (s, .error e)
  | .ok (ino, node) =>
    match s.verify r node with
    | .error e => ({ s with metadata := s.metadata.markCorrupt id }, .error e)
    | .ok () => (s, .ok ino)

/-- `_stat_published`: the descriptor, the size and the hash of what is published. -/
def statPublished (owner : Owner) (id : BlobId) : Except Exc (Ino × ℤ × Digest) :=
  match s.openPublished owner id "the published file is not readable" with
  | .error e => .error e
  | .ok (ino, .regular content) => .ok (ino, content.length, s.cfg.sha256 content)
  | .ok _ => .error (.blobStoreError "unreadable" "not a regular file")

end Store

/-! ### Thread calls -/

inductive Call
  | reserve (id : BlobId) (owner : Owner) (sizeBytes : ℤ) (mediaType : String)
  | beginStaging (id : BlobId)
  | publish (id : BlobId) (sha256 : Digest) (sizeBytes : ℤ) (now : Time)
  | abort (id : BlobId)
  | get (id : BlobId)
  | acquireLease (id : BlobId) (holder : Holder)
  | releaseLease (id : BlobId) (holder : Holder)
  | delete (id : BlobId) (owner : Owner) (now : Time)
  | expire (now : Time)
  | purgeTombstones (now : Time)
  | verifyAll
  | journal (id : BlobId) (owner : Owner) (step : JournalStep) (sha256 : Option Digest)
      (sizeBytes : ℤ)
  | journalEntry (id : BlobId)
  | clearJournal (id : BlobId)
  | unfinishedRows
  | releaseMissing (id : BlobId) (now : Time) (keepTombstone : Bool)
  | protectAllPublished (holder : Holder)
  | releaseProtection (holder : Holder)
  | openStaging (id : BlobId)
  | write (fd : Ino) (chunk : Body)
  | fsync (fd : Ino)
  | close (fd : Ino)
  | publishFile (owner : Owner) (id : BlobId)
  | removeStaging (id : BlobId)
  | removePublished (owner : Owner) (id : BlobId)
  | openVerified (id : BlobId) (record : BlobRecord)
  | statPublished (owner : Owner) (id : BlobId)
  | orphanStagingNames
  deriving DecidableEq

inductive Answer
  | unit
  | flag (b : Bool)
  | fd (fd : Ino)
  | record (r : BlobRecord)
  | row (r : Option BlobRecord)
  | rows (l : List (BlobId × BlobRecord))
  | ids (l : List BlobId)
  | entry (e : Option JournalEntry)
  | deletion (d : Metadata.Deletion)
  | stat (fd : Ino) (size : ℤ) (digest : Digest)
  /-- The next chunk of a stream. -/
  | chunk (b : Body)
  /-- The stream, or the block under a read lease, has ended. -/
  | ended

namespace Call

variable (s : Store)

def onMetadata (p : Metadata × Except Exc BlobRecord) : Store × Except Exc Answer :=
  ({ s with metadata := p.1 }, p.2.map .record)

def onDisk {α : Type} (answer : α → Answer) (p : Disk × Except Exc α) :
    Store × Except Exc Answer :=
  ({ s with disk := p.1 }, p.2.map answer)

def silent (m : Metadata) : Store × Except Exc Answer := ({ s with metadata := m }, .ok .unit)

def run : Call → Store × Except Exc Answer
  | .reserve id owner size media =>
    onMetadata s (s.metadata.reserve s.diskFree id owner size media)
  | .beginStaging id => onMetadata s (s.metadata.beginStaging id)
  | .publish id sha size now => onMetadata s (s.metadata.publish id sha size now)
  | .abort id => silent s (s.metadata.abort id)
  | .get id => (s, .ok (.row (s.metadata.get id)))
  | .acquireLease id holder =>
    ({ s with metadata := (s.metadata.acquireLease id holder).1 },
      .ok (.flag (s.metadata.acquireLease id holder).2))
  | .releaseLease id holder => silent s (s.metadata.releaseLease id holder)
  | .delete id owner now =>
    ({ s with metadata := (s.metadata.delete id owner now).1 },
      .ok (.deletion (s.metadata.delete id owner now).2))
  | .expire now =>
    ({ s with metadata := (s.metadata.expire now).1 }, .ok (.rows (s.metadata.expire now).2))
  | .purgeTombstones now =>
    ({ s with metadata := (s.metadata.purgeTombstones now).1 },
      .ok (.ids (s.metadata.purgeTombstones now).2))
  | .verifyAll => (s, .ok (.ids s.metadata.verifyAll))
  | .journal id owner step sha size => silent s (s.metadata.journal id owner step sha size)
  | .journalEntry id => (s, .ok (.entry (s.metadata.journalEntry id)))
  | .clearJournal id => silent s (s.metadata.clearJournal id)
  | .unfinishedRows => (s, .ok (.rows s.metadata.unfinishedRows))
  | .releaseMissing id now keep => silent s (s.metadata.releaseMissing id now keep)
  | .protectAllPublished holder =>
    ({ s with metadata := (s.metadata.protectAllPublished holder).1 },
      .ok (.ids (s.metadata.protectAllPublished holder).2))
  | .releaseProtection holder =>
    ({ s with metadata := (s.metadata.releaseProtection holder).1 },
      .ok (.ids (s.metadata.releaseProtection holder).2))
  | .openStaging id => onDisk s .fd (s.disk.openStaging id)
  | .write fd chunk => ({ s with disk := s.disk.write fd chunk }, .ok .unit)
  | .fsync _ | .close _ => (s, .ok .unit)
  | .publishFile owner id => onDisk s (fun _ => .unit) (s.disk.publishFile owner id)
  | .removeStaging id => ({ s with disk := s.disk.removeStaging id }, .ok .unit)
  | .removePublished owner id => ({ s with disk := s.disk.removePublished owner id }, .ok .unit)
  | .openVerified id r => ((s.openVerified id r).1, (s.openVerified id r).2.map .fd)
  | .statPublished owner id =>
    (s, (s.statPublished owner id).map fun p => .stat p.1 p.2.1 p.2.2)
  | .orphanStagingNames => (s, .ok (.ids s.disk.staging.keys))

end Call

end ModelSwitch.Blobs
