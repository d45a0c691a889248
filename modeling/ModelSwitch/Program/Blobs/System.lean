import ModelSwitch.Program.Blobs.Tasks

/-!
# The blob store at work

Any number of coroutines of the store run at a time, each resumed when the thread call it waits for
has been made. A call of a cancelled coroutine is not called back: it may still run at any later
time, or never. A crash keeps what is in the database and on the disk.
-/

namespace ModelSwitch.Blobs

open ModelSwitch.Execution (Body)

structure System where
  store : Store
  /-- The reservations that `reserve_output` has returned, by the task that made them. -/
  reservations : Dict TaskId OutputReservation := Dict.empty
  tasks : Dict TaskId Co := Dict.empty
  nextTask : TaskId := 0
  /-- Thread calls whose coroutine was cancelled. -/
  strays : List Call := []

inductive Request
  | upload (args : UploadArgs)
  | reserveOutput (args : OutputReservation)
  | writeOutput (reservation : TaskId) (expectedSha256 : Option Digest) (now : Option Time)
  | cancelOutput (reservation : TaskId) (fence : Fence)
  | abandonOutput (reservation : TaskId)
  | lease (args : LeaseArgs)
  | delete (id : BlobId) (owner : Owner) (now : Option Time)
  | expire (now : Option Time)
  | purgeTombstones (now : Time)
  | recover (instancesRunning : Bool) (bootId : String) (now : Option Time)
  | releaseRestartProtection (bootId : String)

/-- How the thread call or the stream that a coroutine waits for turns out. -/
inductive Input
  | go
  /-- The call raises without effect. -/
  | fail
  /-- The rename is made and the `fsync` after it raises. -/
  | failLate
  /-- `os.write` takes only so many bytes. -/
  | short (n : ℕ)
  | chunk (b : Body)
  /-- The stream, or the block under a lease, ends. -/
  | eof
  | raise

inductive Act
  | tick (now : Time)
  | diskFree (bytes : Option ℤ)
  /-- A published name is given another file, or removed, from outside. -/
  | damage (owner : Owner) (id : BlobId) (node : Option Node)
  | call (request : Request)
  | resume (t : TaskId) (input : Input)
  | cancel (t : TaskId)
  /-- A stray call runs. -/
  | thread (i : ℕ)
  | crash

/-! ### Requests -/

def refuse (code message : String) : Co := .done (.error (.blobStoreError code message))

/-- `_checked_id` for the blob and then for the owner. -/
def checked (id : BlobId) (owner : Owner) (co : Co) : Co :=
  if !isId id then refuse "not_found" "invalid blob_id"
  else if !isId owner then refuse "forbidden" "invalid owner"
  else co

/-- The checks that an upload and an output reservation share. -/
def admitSize (cfg : StoreConfig) (mediaType : String) (limit : ℤ) (co : Co) : Co :=
  if mediaType ∉ cfg.mediaTypes then refuse "unsupported_media_type" ""
  else if limit ≤ 0 ∨ maxBlobBytes < limit then refuse "too_large" ""
  else co

def OutputReservation.abandon (r : OutputReservation) (out : Outcome) : Co :=
  Co.calls out [.removeStaging r.blobId, .removePublished r.owner r.blobId, .abort r.blobId,
    .clearJournal r.blobId]

/-- `write_output`. -/
def OutputReservation.write (clock : Time) (r : OutputReservation) (expected : Option Digest)
    (now : Option Time) : Co :=
  if r.cancelledFence.isSome then
    r.abandon (.error (.blobStoreError "cancelled"
      "the execution was cancelled: a late result is never published"))
  else
    .receive { blobId := r.blobId, owner := r.owner, expectedSha256 := expected,
               limit := r.limitBytes, retentionNow := some (now.getD clock) } .journal

/-- `recover` at its first `await`. -/
def Co.recovery (args : RecoverArgs) : Co := .recover args {} .verifyAll

/-- `release_restart_protection`; the blobs it answers with are left out. -/
def Co.releaseProtection (bootId : String) : Co :=
  Co.calls (.ok .unit) [.releaseProtection (restartHolder bootId)]

/-- `cancel_output`. -/
def OutputReservation.cancel (r : OutputReservation) (fence : Fence) : OutputReservation × Bool :=
  if (writebackDecision r.fence fence).isSome then (r, false)
  else ({ r with cancelledFence := some fence }, true)

namespace System

variable (w : System)

def spawn (co : Co) : System :=
  { w with tasks := w.tasks.set w.nextTask co, nextTask := w.nextTask + 1 }

def start : Request → Option System
  | .upload args =>
    let limit := args.declaredSize.getD w.store.cfg.chunkedReserveBytes
    some (w.spawn (checked args.blobId args.owner
      (admitSize w.store.cfg args.mediaType limit (.upload args limit))))
  | .reserveOutput args =>
    let args := { args with cancelledFence := none }
    some (w.spawn (checked args.blobId args.owner
      (admitSize w.store.cfg args.mediaType args.limitBytes (.reserveOutput args))))
  | .writeOutput key expected now =>
    (w.reservations.get? key).map fun r => w.spawn (r.write w.store.clock expected now)
  | .cancelOutput key fence =>
    (w.reservations.get? key).map fun r =>
      { w with reservations := w.reservations.set key (r.cancel fence).1 }.spawn
        (.done (.ok (.accepted (r.cancel fence).2)))
  | .abandonOutput key => (w.reservations.get? key).map fun r => w.spawn (r.abandon (.ok .unit))
  | .lease args => some (w.spawn (checked args.blobId args.owner (.lease args .get)))
  | .delete id owner now =>
    some (w.spawn (checked id owner (.delete id owner (.delete (now.getD w.store.clock)))))
  | .expire now => some (w.spawn (.expire (now.getD w.store.clock)))
  | .purgeTombstones now => some (w.spawn (Co.calls (.ok .unit) [.purgeTombstones now]))
  | .recover running boot now =>
    some (w.spawn (.recovery
      { instancesRunning := running, bootId := boot, moment := now.getD w.store.clock }))
  | .releaseRestartProtection boot =>
    some (w.spawn (.releaseProtection boot))

end System

/-! ### Steps -/

/-- What the awaited call does to the store, and what the coroutine is answered. -/
def Await.meet (s : Store) : Await → Input → Option (Store × Except Exc Answer)
  | .call c, .go => some (c.run s)
  | .call _, .fail => some (s, .error .osError)
  | .call (.publishFile owner id), .failLate =>
    some (((Call.publishFile owner id).run s).1, .error .osError)
  | .call (.write fd b), .short n => some ((Call.write fd (b.take n)).run s)
  | .stream, .chunk b => some (s, .ok (.chunk b))
  | .stream, .eof | .block, .eof => some (s, .ok .ended)
  | .stream, .raise | .block, .raise => some (s, .error .streamError)
  | _, _ => none

def Await.stray : Await → List Call
  | .call c => [c]
  | _ => []

namespace System

variable (w : System)

/-- The coroutine has come to `co`; `reserve_output` hands its reservation out. -/
def put (t : TaskId) (co : Co) : System :=
  { w with
    tasks := w.tasks.set t co
    reservations :=
      match co with
      | .done (.ok (.reservation r)) => w.reservations.set t r
      | _ => w.reservations }

def resume (t : TaskId) (input : Input) : Option System :=
  match w.tasks.get? t with
  | none => none
  | some co =>
    match co.await w.store.cfg with
    | none => none
    | some a =>
      (a.meet w.store input).map fun p =>
        { w with store := p.1 }.put t (co.next w.store.cfg w.store.clock p.2)

def cancel (t : TaskId) : Option System :=
  match w.tasks.get? t with
  | none => none
  | some co =>
    (co.await w.store.cfg).map fun a =>
      { w with strays := w.strays ++ a.stray }.put t
        (co.next w.store.cfg w.store.clock (.error .cancelledError))

def damage (owner : Owner) (id : BlobId) : Option Node → System
  | none => { w with store := { w.store with disk := w.store.disk.removePublished owner id } }
  | some node =>
    let d := w.store.disk
    let d := { d with nodes := d.nodes.set d.nextIno node, nextIno := d.nextIno + 1,
                      published := d.published.set (owner, id) d.nextIno }
    { w with store := { w.store with disk := d } }

def step : Act → Option System
  | .tick now => some { w with store := { w.store with clock := now } }
  | .diskFree bytes => some { w with store := { w.store with diskFree := bytes } }
  | .damage owner id node => some (w.damage owner id node)
  | .call request => w.start request
  | .resume t input => w.resume t input
  | .cancel t => w.cancel t
  | .thread i =>
    w.strays[i]?.map fun c =>
      { w with store := (c.run w.store).1, strays := w.strays.eraseIdx i }
  | .crash => some { store := w.store, nextTask := w.nextTask }

end System

/-! ### A coroutine alone -/

/-- The coroutine has the store to itself, and each call it waits for is made; at most `n` calls. -/
def Co.alone : ℕ → Store → Co → Store × Co
  | 0, s, co => (s, co)
  | n + 1, s, co =>
    match co.await s.cfg with
    | some (.call c) => alone n (c.run s).1 (co.next s.cfg s.clock (c.run s).2)
    | _ => (s, co)

end ModelSwitch.Blobs
