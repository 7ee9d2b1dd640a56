import PinkGlasses.Ingest

/-!
# PinkGlasses.Gateway

`internal/agentapi` and `internal/dispatch`: what a worker can ask of the control plane once it
is enrolled. A **results** request delivers a batch under a lease, a **heartbeat** keeps leases
alive, and each **dispatch tick** of an open control channel leases new tasks to the worker.

Requests arrive with their identifiers already parsed: `none` is a text `uuid.Parse` refuses.
-/

namespace PinkGlasses

open Lib Prog Ingest

/-- The gateway's settings, and the check of a credential against its stored hash. -/
structure GatewayConfig where
  /-- `cfg.LeaseTTL`, in seconds. -/
  leaseTTL : Int := 120
  bruteCap : Int := 1
  perCompany : Int := 0
  verifyCredential : String → String → Bool := fun raw stored => raw == stored

/-- `scanproto.Result`. -/
structure Result where
  taskID : Option UUID
  leaseToken : Option UUID
  seq : Int := 0
  final : Bool := false
  status : String := "ok"
  observations : List Observation := []
  errors : List String := []
  permanent : Bool := false
  /-- The gateway's clock as it takes the batch in; not part of the message. -/
  receivedAt : Time := 0
deriving Repr, DecidableEq

/-- A request to `/agent/v1/results`. -/
structure ResultsRequest where
  workerID : Option UUID
  credential : String
  /-- The decoded body, `none` if it is not one. -/
  body : Option Result
deriving Repr, DecidableEq

/-- `scanproto.HeldLease`. -/
structure HeldLease where
  taskID : Option UUID
  leaseToken : Option UUID
deriving Repr, DecidableEq

/-- `scanproto.Heartbeat`. -/
structure Heartbeat where
  runningTasks : List (Option UUID) := []
  leases : List HeldLease := []
  stopping : Bool := false
  maxConcurrency : Int := 0
deriving Repr, DecidableEq

namespace Gateway

/-! ### Confinement and summaries -/

/-- The observations `confineViolation` holds against a task's address. -/
def confined : ObsType → Bool
  | .service | .http | .tls | .tech | .screenshot | .path => true
  | .subdomain | .wildcard | .dnsRecord | .ip | .finding => false

/-- `confineViolation`: an observation outside the task's address. A target without an address
confines nothing. -/
def confineViolation (tgt : Target) (obs : List Observation) : Bool :=
  tgt.ip != "" && obs.any fun o => confined o.type && o.ip != "" && o.ip != tgt.ip

def mergeStrings (a b : List String) : List String := b.foldl addOnce a

/-- `cur.Sources[src] += n`. -/
def addCount (counts : List (String × Nat)) (c : String × Nat) : List (String × Nat) :=
  if counts.any (·.1 == c.1) then
    counts.map fun x => if x.1 == c.1 then (x.1, x.2 + c.2) else x
  else counts ++ [c]

/-- What `mergeTaskSummary` makes of a task's summary and a batch's. -/
def mergeSummary (cur add : StageSummary) : StageSummary where
  domains := mergeStrings cur.domains add.domains
  sources := add.sources.foldl addCount cur.sources
  ips := mergeStrings cur.ips add.ips
  webURLs := mergeStrings cur.webURLs add.webURLs
  services := add.services.foldl addService cur.services

/-- `mergeTaskSummary`: read, merge, write back, each its own statement. -/
def mergeTaskSummary (taskID : UUID) (add : StageSummary) : Prog Stmt StageSummary := do
  let raw ← issue (.task (.taskResult taskID))
  let merged := mergeSummary (decode (raw.getD none)) add
  let _ ← issue (.task (.setTaskResult taskID merged))
  pure merged

/-! ### Authentication -/

variable (cfg : GatewayConfig)

def authWorker (workerID : Option UUID) (credential : String) :
    Prog Stmt (Option (UUID × Worker)) :=
  match workerID with
  | none => pure none
  | some id => do
    let answer ← issue (.worker (.workerForAuth id))
    pure (match answer with
      | some (some w) => if cfg.verifyCredential credential w.credHash then some (id, w) else none
      | _ => none)

/-! ### Results -/

/-- The task a delivery is for, handed back to its worker first if the reaper had re-queued it. -/
def heldTask (taskID workerID tok : UUID) : Prog Stmt (Option TaskInfo) := do
  match ← issue (.task (.loadTask taskID workerID tok)) with
  | some t => pure (some t)
  | none =>
    match ← issue (.task (.readoptTask taskID workerID tok cfg.leaseTTL)) with
    | some true => issue (.task (.loadTask taskID workerID tok))
    | _ => pure none

/-- How a delivery ends: the task fails, is complete, or goes on. -/
def closeTask (taskID tok : UUID) (res : Result) (merged : StageSummary) : Prog Stmt Unit := do
  if res.final && res.status == "error" then
    let msg := String.intercalate "; " res.errors
    let msg := if msg = "" then "worker reported an error with no detail" else msg
    if res.permanent then
      let _ ← issue (.task (.failTaskPermanently taskID tok msg))
    else
      let _ ← issue (.task (.failTask taskID tok msg))
  else if res.final then
    let _ ← issue (.task (.setTaskResult taskID merged))
    let _ ← issue (.task (.completeTask taskID tok))
  else
    let _ ← issue (.task (.extendLease taskID tok cfg.leaseTTL))

/-- A delivery by an authenticated worker whose identifiers parse. -/
def deliver (workerID taskID tok : UUID) (res : Result) : Prog Stmt Nat := do
  match ← heldTask cfg taskID workerID tok with
  | none => pure 409
  | some task =>
    if confineViolation task.target res.observations then
      let _ ← issue (.worker (.setWorkerStatus workerID .quarantined))
      pure 403
    else
      match ← (process res.receivedAt task.runID res.observations).run with
      | .error _ => pure 500
      | .ok summary =>
        let merged ← mergeTaskSummary taskID summary
        closeTask cfg taskID tok res merged
        pure 200

/-- `results`, answering with its HTTP status. -/
def results (req : ResultsRequest) : Prog Stmt Nat := do
  match ← authWorker cfg req.workerID req.credential with
  | none => pure 401
  | some (workerID, _) =>
    match req.body with
    | none => pure 400
    | some res =>
      match res.taskID, res.leaseToken with
      | some taskID, some tok => deliver cfg workerID taskID tok res
      | _, _ => pure 400

/-! ### The control channel -/

def workerSlots (reported : Int) : Int :=
  if reported ≤ 0 then 8 else if 64 < reported then 64 else reported

/-- The leases a heartbeat reports: with tokens from a current worker, task ids only from an
older one. -/
def heldLeases (hb : Heartbeat) : List HeldLease :=
  if hb.leases.isEmpty then hb.runningTasks.map fun t => ⟨t, none⟩ else hb.leases

/-- One reported lease: extended on the worker's identity, or re-adopted on its token. -/
def keepLease (workerID : UUID) (l : HeldLease) : Prog Stmt Unit :=
  match l.taskID with
  | none => pure ()
  | some id => do
    match ← issue (.task (.extendLeaseForWorker id workerID cfg.leaseTTL)) with
    | some false =>
      match l.leaseToken with
      | none => pure ()
      | some tok =>
        let _ ← issue (.task (.readoptTask id workerID tok cfg.leaseTTL))
    | _ => pure ()

/-- The reported leases, one after the other. -/
def keepLeases (workerID : UUID) : List HeldLease → Prog Stmt Unit
  | [] => pure ()
  | l :: ls => do
    keepLease cfg workerID l
    keepLeases workerID ls

/-- One message of `readLoop`. -/
def heartbeat (workerID : UUID) (hb : Heartbeat) : Prog Stmt Unit := do
  if hb.stopping then
    let _ ← issue (.task (.releaseWorkerLeases workerID))
    let _ ← issue (.worker (.markWorkerDisconnected workerID))
  else
    let _ ← issue (.worker (.touchWorker workerID))
    if 0 < hb.maxConcurrency then
      let _ ← issue (.worker (.setWorkerConcurrency workerID (workerSlots hb.maxConcurrency)))
    keepLeases cfg workerID (heldLeases hb)

/-- The brute-force tasks of `Dispatcher.Lease`, never more than the cap. -/
def leaseBrute (workerID : UUID) (caps : List String) (poolID : Option UUID) (limit : Int) :
    Go (List Job) := do
  match ← Go.try (.task (.bruteRoom workerID cfg.bruteCap)) with
  | some room =>
    if 0 < room then
      Go.exec (.task (.leaseTasksWhere workerID caps poolID (min room limit) cfg.leaseTTL
        .onlyBrute cfg.perCompany))
    else pure []
  | none => pure []

/-- `Dispatcher.Lease`: brute-force tasks first, then the others for the slots that are left. -/
def lease (workerID : UUID) (caps : List String) (poolID : Option UUID) (limit : Int) :
    Go (List Job) := do
  let brute ← leaseBrute cfg workerID caps poolID limit
  let rest := limit - brute.length
  if 0 < rest then
    let more ← Go.exec (.task (.leaseTasksWhere workerID caps poolID rest cfg.leaseTTL .noBrute
      cfg.perCompany))
    pure (brute ++ more)
  else pure brute

/-- What a tick does for the worker row it read. -/
def dispatchTo (workerID : UUID) (w : Worker) : Prog Stmt Unit := do
  if w.status = .active ∧ 0 < w.maxConcurrency - w.runningTasks then
    match ← (lease cfg workerID w.capabilities w.poolID
        (w.maxConcurrency - w.runningTasks)).run with
    | .ok (_ :: _) =>
      let _ ← issue (.worker (.touchWorker workerID))
    | _ => pure ()

/-- One tick of the dispatch loop in `connect`. -/
def dispatchTick (workerID : UUID) : Prog Stmt Unit := do
  match ← issue (.worker (.workerForAuth workerID)) with
  | some (some w) => dispatchTo cfg workerID w
  | _ => pure ()

/-- `connect`, up to its loop: the channel of a worker that may have one is registered. -/
def connect (workerID : Option UUID) (credential : String) : Prog Stmt Nat := do
  match ← authWorker cfg workerID credential with
  | none => pure 401
  | some (id, w) =>
    if w.status = .revoked ∨ w.status = .quarantined then pure 403
    else
      let _ ← issue (.worker (.reviveWorker id))
      let _ ← issue (.worker (.touchWorker id))
      pure 101

def unregister (workerID : UUID) : Prog Stmt Unit := do
  let _ ← issue (.worker (.markWorkerDisconnected workerID))

end Gateway

end PinkGlasses
