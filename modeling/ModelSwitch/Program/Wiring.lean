import ModelSwitch.Program.Blobs.System
import ModelSwitch.Program.Execution.Service

/-!
# The execution service and the blob store together

`_open_input_lease` names a blob and an owner to the blob store, enters the read lease it is given
and goes on with the path of the reader. The lease is entered in one piece here, while nobody else
uses the store; between two leases anything may happen to the store.
-/

namespace ModelSwitch

namespace Blobs

/-- `lease` up to its `yield`, with the store to itself: the path of the row, as `reserve` filed it,
or the exception. -/
def Store.enterLease (s : Store) (args : LeaseArgs) : Store × Except Exc String :=
  let p := Co.alone 3 s (checked args.blobId args.owner (.lease args .get))
  (p.1,
    match p.2 with
    | .lease _ (.hold _) => .ok (args.owner ++ "/" ++ args.blobId)
    | .done (.error e) => .error e
    | _ => .error .osError)

/-- An exception of the store as the service sees it. -/
def Exc.port : Exc → ModelSwitch.Exc
  | .blobStoreError code message => .blobStoreError code message
  | .cancelledError => .cancelledError
  | .quotaExceeded _ => .external "QuotaExceeded"
  | .osError => .external "OSError"
  | .streamError => .external "Exception"

end Blobs

structure Wired where
  exec : Execution.System
  blobs : Blobs.Store
  /-- The rows of the readers that were entered, with their executions. -/
  readers : List (ExecutionId × Blobs.BlobRecord) := []

namespace Wired

inductive Act
  | exec (a : Execution.Act)
  /-- Whatever happens to the store. -/
  | store (s : Blobs.Store)
  /-- Task `t` enters the read lease of its input. -/
  | openInput (t : TaskId)

variable (w : Wired)

/-- The arguments with which `_open_input_lease` calls `lease`. -/
def leaseArgs (id : ExecutionId) (ref : BlobRef) : Blobs.LeaseArgs where
  blobId := ref.blobId
  owner := Execution.blobOwnerFor (w.exec.svc.get id).owner
  holder := uuidHex id

/-- The execution whose input task `t` is about to open, with its reference. -/
def opening (t : TaskId) : Option (ExecutionId × BlobRef) :=
  match w.exec.tasks.get? t with
  | some (.running (.run id .openInput)) =>
    match (w.exec.svc.get id).input with
    | .inline _ => none
    | .blob ref => some (id, ref)
  | _ => none

/-- The reader of the row, if the lease was entered. -/
def reader (id : ExecutionId) (row : Option Blobs.BlobRecord) :
    Except Blobs.Exc String → List (ExecutionId × Blobs.BlobRecord)
  | .ok _ => (row.map fun row => (id, row)).toList
  | .error _ => []

def step : Act → Option Wired
  | .exec (.resume _ (.opened _)) => none
  | .exec a => (w.exec.step a).map fun exec => { w with exec := exec }
  | .store s => some { w with blobs := s }
  | .openInput t =>
    match w.opening t with
    | none => none
    | some (id, ref) =>
      let entered := w.blobs.enterLease (w.leaseArgs id ref)
      (w.exec.step (.resume t (.opened (entered.2.mapError Blobs.Exc.port)))).map fun exec =>
        { exec := exec, blobs := entered.1,
          readers := w.readers ++ reader id (w.blobs.metadata.get ref.blobId) entered.2 }

/-- A service that has just been built, with a store. -/
def Starts : Prop := w.exec.Starts ∧ w.readers = []

/-- The systems reached by steps that all meet `ok`. -/
def Reach (ok : Wired → Act → Prop) (w : Wired) : Prop :=
  ∃ w₀, Starts w₀ ∧ Run step ok w₀ w

end Wired

end ModelSwitch
