import ModelSwitch.Program.Blobs.Store

/-!
# The coroutines of the blob store

Between two `await`s a method of `BlobStore` only computes. What it waits for is a thread call, the
next chunk of the stream it receives, or the block that runs under its read lease; `Co.await` says
which, and `Co.next` what it does with the answer. The cleanup of an `except` or a `finally` is a
row of calls, one after the other: an exception in it ends it and takes the place of the first.
-/

namespace ModelSwitch.Blobs

open ModelSwitch.Execution (Body)

/-- `OutputReservation`. -/
structure OutputReservation where
  blobId : BlobId
  owner : Owner
  mediaType : String
  limitBytes : ℤ
  fence : Fence
  cancelledFence : Option Fence := none

structure RecoveryReport where
  verified : List BlobId := []
  unreadable : List BlobId := []
  purged : List BlobId := []
  protected_ : List BlobId := []

inductive Result
  | unit
  | accepted (b : Bool)
  | record (r : BlobRecord)
  | reservation (r : OutputReservation)
  | deletion (d : Metadata.Deletion)
  | ids (l : List BlobId)
  | report (r : RecoveryReport)

abbrev Outcome := Except Exc Result

structure UploadArgs where
  blobId : BlobId
  owner : Owner
  mediaType : String
  expectedSha256 : Option Digest := none
  declaredSize : Option ℤ := none

/-- What `_receive_and_publish` is given. -/
structure Receipt where
  blobId : BlobId
  owner : Owner
  expectedSha256 : Option Digest
  limit : ℤ
  declaredSize : Option ℤ := none
  retentionNow : Option Time := none

/-- `_receive_and_publish`, by the `await` it stands at. `got` is what has been hashed so far. -/
inductive Receive
  | journal
  | openStaging
  | beginStaging (fd : Ino)
  | chunk (fd : Ino) (got : Body)
  | write (fd : Ino) (got chunk : Body)
  | fsync (fd : Ino) (got : Body)
  | close (fd : Ino) (got : Body)
  | pending (got : Body)
  | publishFile (got : Body)
  | publish (got : Body) (moment : Time)
  | published (got : Body) (record : BlobRecord)
  | clear (record : BlobRecord)

structure LeaseArgs where
  blobId : BlobId
  owner : Owner
  holder : Holder

inductive Lease
  | get
  | verify (record : BlobRecord)
  | acquire (fd : Ino)
  /-- The block under the lease runs. -/
  | hold (fd : Ino)

inductive Delete
  | delete (now : Time)
  | get

structure RecoverArgs where
  instancesRunning : Bool
  bootId : String := "boot"
  moment : Time

/-- `recover`, by the `await` it stands at; `rest` is what its loop has still to visit. -/
inductive Recover
  | verifyAll
  | get (id : BlobId) (rest : List BlobId)
  | openVerified (id : BlobId) (record : BlobRecord) (rest : List BlobId)
  | releaseMissing (id : BlobId) (rest : List BlobId)
  | clearUnreadable (id : BlobId) (rest : List BlobId)
  | close (fd : Ino) (id : BlobId) (rest : List BlobId)
  | clearVerified (id : BlobId) (rest : List BlobId)
  | unfinishedRows
  | journalEntry (id : BlobId) (owner : Owner) (rest : List (BlobId × BlobRecord))
  | stat (id : BlobId) (owner : Owner) (sha256 : Digest) (sizeBytes : ℤ)
      (rest : List (BlobId × BlobRecord))
  | publish (fd : Ino) (id : BlobId) (sha256 : Digest) (sizeBytes : ℤ)
      (rest : List (BlobId × BlobRecord))
  | closeMismatch (fd : Ino) (id : BlobId) (owner : Owner) (rest : List (BlobId × BlobRecord))
  | closePublished (fd : Ino) (id : BlobId) (rest : List (BlobId × BlobRecord))
  | removeCompleted (id : BlobId) (rest : List (BlobId × BlobRecord))
  | clearCompleted (id : BlobId) (rest : List (BlobId × BlobRecord))
  | removeStaging (id : BlobId) (owner : Owner) (rest : List (BlobId × BlobRecord))
  | removePublished (id : BlobId) (owner : Owner) (rest : List (BlobId × BlobRecord))
  | abort (id : BlobId) (rest : List (BlobId × BlobRecord))
  | clearPurged (id : BlobId) (rest : List (BlobId × BlobRecord))
  | orphans
  | sweep (id : BlobId) (rest : List BlobId)
  | protect

inductive Co
  /-- `upload`, which waits for `reserve` and goes on as `receive`. -/
  | upload (args : UploadArgs) (limit : ℤ)
  | reserveOutput (args : OutputReservation)
  | receive (job : Receipt) (pc : Receive)
  | lease (args : LeaseArgs) (pc : Lease)
  | delete (id : BlobId) (owner : Owner) (pc : Delete)
  | expire (moment : Time)
  | recover (args : RecoverArgs) (report : RecoveryReport) (pc : Recover)
  /-- The calls of a cleanup, one after the other, and what the coroutine ends with. -/
  | seq (call : Call) (rest : List Call) (out : Outcome)
  | done (out : Outcome)

inductive Await
  | call (c : Call)
  | stream
  | block

/-! ### What is awaited -/

def Receive.await (cfg : StoreConfig) (job : Receipt) : Receive → Await
  | .journal => .call (.journal job.blobId job.owner .staging job.expectedSha256 job.limit)
  | .openStaging => .call (.openStaging job.blobId)
  | .beginStaging _ => .call (.beginStaging job.blobId)
  | .chunk _ _ => .stream
  | .write fd _ b => .call (.write fd b)
  | .fsync fd _ => .call (.fsync fd)
  | .close fd _ => .call (.close fd)
  | .pending got =>
    .call (.journal job.blobId job.owner .publishPending (some (cfg.sha256 got)) got.length)
  | .publishFile _ => .call (.publishFile job.owner job.blobId)
  | .publish got moment => .call (.publish job.blobId (cfg.sha256 got) got.length moment)
  | .published got _ =>
    .call (.journal job.blobId job.owner .published (some (cfg.sha256 got)) got.length)
  | .clear _ => .call (.clearJournal job.blobId)

def Lease.await (args : LeaseArgs) : Lease → Await
  | .get => .call (.get args.blobId)
  | .verify record => .call (.openVerified args.blobId record)
  | .acquire _ => .call (.acquireLease args.blobId args.holder)
  | .hold _ => .block

def Delete.call (id : BlobId) (owner : Owner) : Delete → Call
  | .delete now => .delete id owner now
  | .get => .get id

/-- The holder of the restart leases of a boot. -/
def restartHolder (bootId : String) : Holder := "restart:" ++ bootId

def Recover.call (args : RecoverArgs) : Recover → Call
  | .verifyAll => .verifyAll
  | .get id _ => .get id
  | .openVerified id record _ => .openVerified id record
  | .releaseMissing id _ => .releaseMissing id args.moment true
  | .clearUnreadable id _ | .clearVerified id _ => .clearJournal id
  | .close fd _ _ | .closeMismatch fd _ _ _ | .closePublished fd _ _ => .close fd
  | .unfinishedRows => .unfinishedRows
  | .journalEntry id _ _ => .journalEntry id
  | .stat id owner _ _ _ => .statPublished owner id
  | .publish _ id sha256 sizeBytes _ => .publish id sha256 sizeBytes args.moment
  | .removeCompleted id _ | .removeStaging id _ _ => .removeStaging id
  | .removePublished id owner _ => .removePublished owner id
  | .abort id _ => .abort id
  | .clearCompleted id _ | .clearPurged id _ => .clearJournal id
  | .orphans => .orphanStagingNames
  | .sweep id _ => .removeStaging id
  | .protect => .protectAllPublished (restartHolder args.bootId)

def Co.await (cfg : StoreConfig) : Co → Option Await
  | .upload args limit => some (.call (.reserve args.blobId args.owner limit args.mediaType))
  | .reserveOutput args =>
    some (.call (.reserve args.blobId args.owner args.limitBytes args.mediaType))
  | .receive job pc => some (pc.await cfg job)
  | .lease args pc => some (pc.await args)
  | .delete id owner pc => some (.call (pc.call id owner))
  | .expire moment => some (.call (.expire moment))
  | .recover args _ pc => some (.call (pc.call args))
  | .seq call _ _ => some (.call call)
  | .done _ => none

/-! ### What follows -/

/-- Make the calls and end with `out`. -/
def Co.calls (out : Outcome) : List Call → Co
  | [] => .done out
  | call :: rest => .seq call rest out

/-- `QuotaExceeded` becomes the refusal of the store. -/
def Exc.refusal : Exc → Exc
  | .quotaExceeded message => .blobStoreError "quota_exceeded" message
  | e => e

namespace Receive

/-- The first `except` of `_receive_and_publish`. -/
def undoStaging (job : Receipt) (fd : Ino) (e : Exc) : Co :=
  Co.calls (.error e) [.close fd, .removeStaging job.blobId, .abort job.blobId]

def undoRename (job : Receipt) (e : Exc) : Co :=
  Co.calls (.error e) [.removeStaging job.blobId, .abort job.blobId, .clearJournal job.blobId]

def undoPublish (job : Receipt) (e : Exc) : Co :=
  Co.calls (.error e)
    [.removePublished job.owner job.blobId, .abort job.blobId, .clearJournal job.blobId]

/-- A chunk of the stream. -/
def received (job : Receipt) (fd : Ino) (got chunk : Body) : Co :=
  if chunk = [] then .receive job (.chunk fd got)
  else if job.limit < (got ++ chunk).length then
    undoStaging job fd (.blobStoreError "too_large" "the upload exceeded its reservation")
  else .receive job (.write fd got chunk)

/-- The checks after the last chunk. -/
def synced (cfg : StoreConfig) (job : Receipt) (fd : Ino) (got : Body) : Co :=
  if job.declaredSize.any (· ≠ (got.length : ℤ)) then
    undoStaging job fd (.blobStoreError "checksum_mismatch"
      "the received size does not match the declaration")
  else if job.expectedSha256.any (· ≠ cfg.sha256 got) then
    undoStaging job fd (.blobStoreError "checksum_mismatch"
      "the received hash does not match X-Content-SHA256")
  else .receive job (.close fd got)

def next (cfg : StoreConfig) (clock : Time) (job : Receipt) : Receive → Except Exc Answer → Co
  | .journal, .ok _ => .receive job .openStaging
  | .openStaging, .ok (.fd fd) => .receive job (.beginStaging fd)
  | .beginStaging fd, .ok _ => .receive job (.chunk fd [])
  | .beginStaging fd, .error e => undoStaging job fd e
  | .chunk fd got, .ok (.chunk b) => received job fd got b
  | .chunk fd got, .ok _ => .receive job (.fsync fd got)
  | .chunk fd _, .error e => undoStaging job fd e
  | .write fd got b, .ok _ => .receive job (.chunk fd (got ++ b))
  | .write fd _ _, .error e => undoStaging job fd e
  | .fsync fd got, .ok _ => synced cfg job fd got
  | .fsync fd _, .error e => undoStaging job fd e
  | .close _ got, .ok _ => .receive job (.pending got)
  | .pending got, .ok _ => .receive job (.publishFile got)
  | .publishFile got, .ok _ => .receive job (.publish got (job.retentionNow.getD clock))
  | .publishFile _, .error e => undoRename job e
  | .publish got _, .ok (.record r) => .receive job (.published got r)
  | .publish _ _, .error e => undoPublish job e
  | .published _ r, .ok _ => .receive job (.clear r)
  | .clear r, .ok _ => .done (.ok (.record r))
  | _, .error e => .done (.error e)
  -- no call answers otherwise
  | _, .ok _ => .done (.ok .unit)

end Receive

namespace Lease

/-- What the row of the blob allows. -/
def admission (clock : Time) (args : LeaseArgs) : Option BlobRecord → Co
  | none => .done (.error (.blobStoreError "not_found" ""))
  | some r =>
    if r.owner ≠ args.owner ∨ r.state ≠ .published then
      .done (.error (.blobStoreError "not_found" ""))
    else if r.expiresAt.any (· ≤ clock) then .done (.error (.blobStoreError "expired" ""))
    else .lease args (.verify r)

/-- The `finally` of `lease`. -/
def leave (args : LeaseArgs) (fd : Ino) (out : Outcome) : Co :=
  Co.calls out [.close fd, .releaseLease args.blobId args.holder]

def next (clock : Time) (args : LeaseArgs) : Lease → Except Exc Answer → Co
  | .get, .ok (.row r) => admission clock args r
  | .verify _, .ok (.fd fd) => .lease args (.acquire fd)
  | .acquire fd, .ok (.flag true) => .lease args (.hold fd)
  | .acquire fd, .ok _ => Co.calls (.error (.blobStoreError "not_found" "")) [.close fd]
  | .hold fd, .ok _ => leave args fd (.ok .unit)
  | .hold fd, .error e => leave args fd (.error e)
  | _, .error e => .done (.error e)
  | _, .ok _ => .done (.ok .unit)

end Lease

def Delete.next (id : BlobId) (owner : Owner) : Delete → Except Exc Answer → Co
  | .delete _, .ok (.deletion .deleted) => .delete id owner .get
  | .delete _, .ok (.deletion d) => .done (.ok (.deletion d))
  | .get, .ok (.row (some r)) => Co.calls (.ok (.deletion .deleted)) [.removePublished r.owner id]
  | .get, .ok _ => .done (.ok (.deletion .deleted))
  | _, .error e => .done (.error e)
  | _, .ok _ => .done (.ok .unit)

def expireNext : Except Exc Answer → Co
  | .ok (.rows l) =>
    Co.calls (.ok (.ids (l.map (·.1)))) (l.map fun p => .removePublished p.2.owner p.1)
  | .ok _ => .done (.ok .unit)
  | .error e => .done (.error e)

namespace Recover

/-- The first loop of `recover`. -/
def visit : List BlobId → Recover
  | [] => .unfinishedRows
  | id :: rest => .get id rest

/-- The second loop. -/
def resolve : List (BlobId × BlobRecord) → Recover
  | [] => .orphans
  | (id, r) :: rest => .journalEntry id r.owner rest

/-- The end of `_sweep_orphan_staging` and of `recover`. -/
def sweepOn (args : RecoverArgs) (report : RecoveryReport) : List BlobId → Co
  | [] =>
    if args.instancesRunning then .recover args report .protect else .done (.ok (.report report))
  | id :: rest => .recover args report (.sweep id rest)

/-- Only a journalled rename can be completed. -/
def judge (id : BlobId) (owner : Owner) (rest : List (BlobId × BlobRecord)) :
    Option JournalEntry → Recover
  | some entry =>
    match entry.step, entry.sha256 with
    | .publishPending, some sha =>
      if sha = "" then .removeStaging id owner rest else .stat id owner sha entry.sizeBytes rest
    | _, _ => .removeStaging id owner rest
  | none => .removeStaging id owner rest

def next (args : RecoverArgs) (report : RecoveryReport) : Recover → Except Exc Answer → Co
  | .verifyAll, .ok (.ids l) => .recover args report (visit l)
  | .get id rest, .ok (.row (some r)) => .recover args report (.openVerified id r rest)
  | .get _ rest, .ok _ => .recover args report (visit rest)
  | .openVerified id _ rest, .ok (.fd fd) => .recover args report (.close fd id rest)
  | .openVerified id _ rest, .error (.blobStoreError _ _) =>
    .recover args report (.releaseMissing id rest)
  | .releaseMissing id rest, .ok _ => .recover args report (.clearUnreadable id rest)
  | .clearUnreadable id rest, .ok _ =>
    .recover args { report with unreadable := report.unreadable ++ [id] } (visit rest)
  | .close _ id rest, .ok _ => .recover args report (.clearVerified id rest)
  | .clearVerified id rest, .ok _ =>
    .recover args { report with verified := report.verified ++ [id] } (visit rest)
  | .unfinishedRows, .ok (.rows l) => .recover args report (resolve l)
  | .journalEntry id owner rest, .ok (.entry entry) =>
    .recover args report (judge id owner rest entry)
  | .stat id owner sha size rest, .ok (.stat fd size' digest) =>
    if digest ≠ sha ∨ size' ≠ size then .recover args report (.closeMismatch fd id owner rest)
    else .recover args report (.publish fd id digest size' rest)
  | .stat id owner _ _ rest, .error .osError
  | .stat id owner _ _ rest, .error (.blobStoreError _ _) =>
    .recover args report (.removeStaging id owner rest)
  | .publish fd id _ _ rest, .ok _ => .recover args report (.closePublished fd id rest)
  -- the `finally` around `publish`
  | .publish fd _ _ _ _, .error e => Co.calls (.error e) [.close fd]
  | .closeMismatch _ id owner rest, .ok _ => .recover args report (.removeStaging id owner rest)
  | .closePublished _ id rest, .ok _ => .recover args report (.removeCompleted id rest)
  | .removeCompleted id rest, .ok _ => .recover args report (.clearCompleted id rest)
  | .clearCompleted id rest, .ok _ =>
    .recover args { report with verified := report.verified ++ [id] } (resolve rest)
  | .removeStaging id owner rest, .ok _ => .recover args report (.removePublished id owner rest)
  | .removePublished id _ rest, .ok _ => .recover args report (.abort id rest)
  | .abort id rest, .ok _ => .recover args report (.clearPurged id rest)
  | .clearPurged id rest, .ok _ =>
    .recover args { report with purged := report.purged ++ [id] } (resolve rest)
  | .orphans, .ok (.ids l) => sweepOn args { report with purged := report.purged ++ l } l
  | .sweep _ rest, .ok _ => sweepOn args report rest
  | .protect, .ok (.ids l) => .done (.ok (.report { report with protected_ := l }))
  | _, .error e => .done (.error e)
  | _, .ok _ => .done (.ok .unit)

end Recover

def Co.next (cfg : StoreConfig) (clock : Time) : Co → Except Exc Answer → Co
  | .upload args limit, .ok _ =>
    .receive { blobId := args.blobId, owner := args.owner, expectedSha256 := args.expectedSha256,
               limit := limit, declaredSize := args.declaredSize } .journal
  | .upload _ _, .error e => .done (.error e.refusal)
  | .reserveOutput args, .ok _ => .done (.ok (.reservation args))
  | .reserveOutput _, .error e => .done (.error e.refusal)
  | .receive job pc, a => pc.next cfg clock job a
  | .lease args pc, a => pc.next clock args a
  | .delete id owner pc, a => pc.next id owner a
  | .expire _, a => expireNext a
  | .recover args report pc, a => pc.next args report a
  | .seq _ rest out, .ok _ => Co.calls out rest
  | .seq _ _ _, .error e => .done (.error e)
  | .done out, _ => .done out

end ModelSwitch.Blobs
