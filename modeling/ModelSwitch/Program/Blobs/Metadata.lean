import ModelSwitch.Program.Contracts

/-!
# Blob metadata

`BlobMetadata`: the rows of the blobs, the read leases and the recovery journal, with the quota
accounting. Every method is one transaction, so each is a function of the tables here. A row and a
journal entry are kept under their blob id; the time at which they were made and the path of a row
are read by nothing modelled and left out.
-/

namespace ModelSwitch.Blobs

abbrev BlobId := String
abbrev Owner := String
abbrev Holder := String
abbrev Digest := String

inductive BlobState
  | reserved
  | staging
  | published
  | deleted
  | corrupt
  deriving DecidableEq

/-- The bytes of the row count against the quotas. -/
def BlobState.counted : BlobState → Bool
  | .reserved | .staging | .published => true
  | .deleted | .corrupt => false

/-- The row never reached `published`. -/
def BlobState.unfinished : BlobState → Bool
  | .reserved | .staging => true
  | _ => false

structure BlobRecord where
  owner : Owner
  sha256 : Option Digest := none
  sizeBytes : ℤ
  mediaType : String
  state : BlobState
  expiresAt : Option Time := none
  deriving DecidableEq

inductive JournalStep
  | staging
  | publishPending
  | published
  deriving DecidableEq

structure JournalEntry where
  owner : Owner
  step : JournalStep
  sha256 : Option Digest
  sizeBytes : ℤ
  deriving DecidableEq

/-- The exceptions of the blob store and of the calls it makes; a failing file operation or
transaction is an `osError`. -/
inductive Exc
  | quotaExceeded (message : String)
  | blobStoreError (code message : String)
  | osError
  | streamError
  | cancelledError
  deriving DecidableEq

/-- The policy that `__init__` accepts. -/
structure Policy where
  ownerQuotaBytes : ℤ := 4 * 1024 ^ 3
  globalQuotaBytes : ℤ := 16 * 1024 ^ 3
  minFreeBytes : ℤ := 2 * 1024 ^ 3
  retentionSeconds : ℚ := 24 * 3600
  tombstoneSeconds : ℚ := 24 * 3600
  valid : 0 ≤ min ownerQuotaBytes (min globalQuotaBytes minFreeBytes) ∧
    0 < retentionSeconds ∧ 0 < tombstoneSeconds

structure Metadata where
  policy : Policy
  blobs : Dict BlobId BlobRecord := Dict.empty
  leases : List (BlobId × Holder) := []
  recovery : Dict BlobId JournalEntry := Dict.empty

structure OwnerUsage where
  publishedBytes : ℤ
  stagingBytes : ℤ
  reservedBytes : ℤ

def OwnerUsage.totalBytes (u : OwnerUsage) : ℤ :=
  u.publishedBytes + u.stagingBytes + u.reservedBytes

namespace Metadata

variable (m : Metadata)

/-! ### Accounting -/

def bytesIn (owner : Owner) (state : BlobState) : ℤ :=
  m.blobs.sum fun _ r => if r.owner = owner ∧ r.state = state then r.sizeBytes else 0

def usage (owner : Owner) : OwnerUsage where
  publishedBytes := m.bytesIn owner .published
  stagingBytes := m.bytesIn owner .staging
  reservedBytes := m.bytesIn owner .reserved

def globalBytes : ℤ := m.blobs.sum fun _ r => if r.state.counted then r.sizeBytes else 0

def get (id : BlobId) : Option BlobRecord := m.blobs.get? id

/-- `UPDATE blobs .. WHERE blob_id = id AND state IN ..`. -/
def update (id : BlobId) (states : BlobState → Bool) (f : BlobRecord → BlobRecord) : Metadata :=
  match m.blobs.get? id with
  | none => m
  | some r => if states r.state then { m with blobs := m.blobs.set id (f r) } else m

/-- `_require`. -/
def require (id : BlobId) : Except Exc BlobRecord :=
  match m.get id with
  | none => .error (.quotaExceeded ("unknown blob '" ++ id ++ "'"))
  | some r => .ok r

/-- Reserve the whole declared size before a byte is received. `diskFree` is what the callback for
the free space of the disk answers, if there is one. -/
def reserve (diskFree : Option ℤ) (id : BlobId) (owner : Owner) (sizeBytes : ℤ)
    (mediaType : String) : Metadata × Except Exc BlobRecord :=
  if sizeBytes ≤ 0 then (m, .error (.quotaExceeded "a blob must declare a positive size"))
  else if (m.get id).isSome then (m, .error (.quotaExceeded "duplicate blob id"))
  else if diskFree.any fun free => free < m.policy.minFreeBytes + sizeBytes then
    (m, .error (.quotaExceeded "disk free space is below the reserve"))
  else if m.policy.ownerQuotaBytes < (m.usage owner).totalBytes + sizeBytes then
    (m, .error (.quotaExceeded "owner quota exceeded"))
  else if m.policy.globalQuotaBytes < m.globalBytes + sizeBytes then
    (m, .error (.quotaExceeded "global quota exceeded"))
  else
    let r : BlobRecord :=
      { owner := owner, sizeBytes := sizeBytes, mediaType := mediaType, state := .reserved }
    ({ m with blobs := m.blobs.set id r }, .ok r)

def beginStaging (id : BlobId) : Metadata × Except Exc BlobRecord :=
  let m := m.update id (· = .reserved) fun r => { r with state := .staging }
  (m, m.require id)

/-- `now` is the instant from which the blob is retained. -/
def publish (id : BlobId) (sha256 : Digest) (sizeBytes : ℤ) (now : Time) :
    Metadata × Except Exc BlobRecord :=
  let m := m.update id (·.unfinished) fun r =>
    { r with state := .published, sha256 := some sha256, sizeBytes := sizeBytes,
             expiresAt := some (now + m.policy.retentionSeconds) }
  (m, match m.require id with
      | .error e => .error e
      | .ok r =>
        if r.state ≠ .published then .error (.quotaExceeded "the upload was not reserved")
        else .ok r)

/-- Release the reservation; the caller removes the file. -/
def abort (id : BlobId) : Metadata :=
  match m.blobs.get? id with
  | some r => if r.state.unfinished then { m with blobs := m.blobs.erase id } else m
  | none => m

/-! ### Leases, expiry and deletion -/

def leasesOf (id : BlobId) : List Holder := (m.leases.filter (·.1 = id)).map (·.2)

def acquireLease (id : BlobId) (holder : Holder) : Metadata × Bool :=
  match m.get id with
  | none => (m, false)
  | some r =>
    if r.state ≠ .published then (m, false)
    else ({ m with leases := m.leases.insert (id, holder) }, true)

def releaseLease (id : BlobId) (holder : Holder) : Metadata :=
  { m with leases := m.leases.filter (· ≠ (id, holder)) }

inductive Deletion
  | deleted
  | held
  | missing

/-- A held blob is never removed. -/
def delete (id : BlobId) (owner : Owner) (now : Time) : Metadata × Deletion :=
  match m.get id with
  | none => (m, .missing)
  | some r =>
    if r.owner ≠ owner then (m, .missing)
    else if r.state = .deleted then (m, .deleted)
    else if (m.leasesOf id) ≠ [] then (m, .held)
    else
      let r := { r with state := .deleted, expiresAt := some (now + m.policy.tombstoneSeconds) }
      ({ m with blobs := m.blobs.set id r }, .deleted)

/-- The retention of a published blob has passed and nobody reads it. -/
def expirable (now : Time) (id : BlobId) (r : BlobRecord) : Bool :=
  r.state = .published && r.expiresAt.any (· ≤ now) && (m.leasesOf id).isEmpty

/-- Expired blobs become tombstones; they are returned for unlinking. -/
def expire (now : Time) : Metadata × List (BlobId × BlobRecord) :=
  ({ m with blobs := m.blobs.mapVal fun id r =>
      if m.expirable now id r then
        { r with state := .deleted, expiresAt := some (now + m.policy.tombstoneSeconds) }
      else r },
    m.blobs.entries.filter fun p => m.expirable now p.1 p.2)

def markCorrupt (id : BlobId) : Metadata :=
  m.update id (· = .published) fun r => { r with state := .corrupt }

/-- The tombstone has lapsed. -/
def purgeable (now : Time) (r : BlobRecord) : Bool :=
  (r.state = .deleted || r.state = .corrupt) && r.expiresAt.any (· ≤ now)

def purgeTombstones (now : Time) : Metadata × List BlobId :=
  ({ m with blobs := m.blobs.filter fun p => !purgeable now p.2 },
    (m.blobs.entries.filter fun p => purgeable now p.2).map (·.1))

/-! ### The recovery journal -/

/-- The published rows, whose files are hashed again before reads are opened. -/
def verifyAll : List BlobId := (m.blobs.entries.filter fun p => p.2.state = .published).map (·.1)

/-- A second entry for a blob keeps the owner of the first. -/
def journal (id : BlobId) (owner : Owner) (step : JournalStep) (sha256 : Option Digest)
    (sizeBytes : ℤ) : Metadata :=
  let entry : JournalEntry :=
    { owner := ((m.recovery.get? id).map (·.owner)).getD owner, step := step, sha256 := sha256,
      sizeBytes := sizeBytes }
  { m with recovery := m.recovery.set id entry }

def journalEntry (id : BlobId) : Option JournalEntry := m.recovery.get? id

def clearJournal (id : BlobId) : Metadata := { m with recovery := m.recovery.erase id }

/-- The rows whose reservations are reclaimable. -/
def unfinishedRows : List (BlobId × BlobRecord) :=
  m.blobs.entries.filter fun p => p.2.state.unfinished

/-- A published row whose file is gone or wrong. -/
def releaseMissing (id : BlobId) (now : Time) (keepTombstone : Bool) : Metadata :=
  m.update id (fun _ => true) fun r =>
    { r with state := if keepTombstone then .deleted else .corrupt, sizeBytes := 0,
             expiresAt := some (now + m.policy.tombstoneSeconds) }

/-- Hold a restart lease on every published blob. -/
def protectAllPublished (holder : Holder) : Metadata × List BlobId :=
  ({ m with leases := m.verifyAll.foldl (fun ls id => ls.insert (id, holder)) m.leases },
    m.verifyAll)

def releaseProtection (holder : Holder) : Metadata × List BlobId :=
  ({ m with leases := m.leases.filter (·.2 ≠ holder) },
    (m.leases.filter (·.2 = holder)).map (·.1))

end Metadata

end ModelSwitch.Blobs
