import PinkGlasses.FleetManager
import PinkGlasses.GatewaySystem
import PinkGlasses.Launch

/-!
# PinkGlasses.Control

The control plane as one system: launches, the scheduler's passes, what a user does to a run, the
fleet manager giving a run up, the registry of workers, and everything that reaches the gateway.
Each request is a program of its own, and **all of them interleave statement by statement**.

The scheduler's tick calls `Advance` on each run it has listed; that is one request a run here,
which reads the run's row first.
-/

namespace PinkGlasses

open Lib Prog

/-- The settings of the control plane. -/
structure ControlConfig where
  launch : LaunchConfig := {}
  gateway : GatewayConfig := {}

/-- A decoded `scanproto.EnrollRequest`, with the hash of its token, the hash of the credential it
is given, and whether it came from a private address. -/
structure EnrollRequest where
  tokenHash : String
  name : String := "worker"
  capabilities : List String := []
  maxConcurrency : Int := 0
  credHash : String := ""
  fromPrivate : Bool := false
deriving Repr, DecidableEq

namespace Control

/-! ### Runs -/

/-- `Advance` on a run whose row is read first. -/
def advanceRun (cfg : LaunchConfig) (runID : UUID) : Prog Stmt Nat := do
  match ← issue (.run (.getRun runID)) with
  | none => pure 0
  | some run =>
    let _ ← (Planner.advance cfg.allowPrivate run).run
    pure 0

def cancelRun (runID : UUID) : Prog Stmt Nat := do
  match ← issue (.task (.cancelRunTasks runID)) with
  | none => pure 500
  | some _ =>
    let _ ← issue (.run (.setRunStatus runID .cancelled))
    pure 200

/-- The answer of `pauseRun` and `resumeRun`: whether the run was in the status it has to be in. -/
def switched : Option Bool → Nat
  | none => 500
  | some false => 409
  | some true => 200

def pauseRun (runID : UUID) : Prog Stmt Nat := do
  let r ← issue (.run (.pauseRun runID))
  pure (switched r)

def resumeRun (runID : UUID) : Prog Stmt Nat := do
  let r ← issue (.run (.resumeRun runID))
  pure (switched r)

/-! ### Workers -/

/-- `enroll`. The token decides the pool and the kind; a local token redeemed from a public address
makes a remote worker. -/
def enroll (req : EnrollRequest) : Prog Stmt Nat := do
  match ← issue (.worker (.redeemEnrollment req.tokenHash)) with
  | some (some tok) =>
    let trustedLocal := tok.kind == .local && req.fromPrivate
    let kind : WorkerKind := if trustedLocal then .local else .vps
    let status : WorkerStatus := if trustedLocal || tok.preapproved then .active else .pending
    let _ ← issue (.worker (.pruneReplacedWorker req.name kind))
    match ← issue (.worker (.createWorker tok.poolID req.name kind req.capabilities
        (Gateway.workerSlots req.maxConcurrency) req.credHash status)) with
    | some _ => pure 201
    | none => pure 500
  | _ => pure 401

/-- `deleteWorker`; `removed` is whether the provisioner removed a local worker's container. -/
def deleteWorker (workerID : UUID) (removed : Bool) : Prog Stmt Nat := do
  match ← issue (.worker (.workerForAuth workerID)) with
  | some (some w) =>
    if w.kind = .local ∧ removed = false then pure 202
    else
      match ← issue (.worker (.deleteWorker workerID)) with
      | some _ => pure 200
      | none => pure 500
  | _ => pure 404

end Control

/-- What the control plane is asked to do. -/
inductive ControlRequest
  | start (scopeID : UUID) (o : LaunchOptions)
  | advance (runID : UUID)
  | cancelRun (runID : UUID)
  | pauseRun (runID : UUID)
  | resumeRun (runID : UUID)
  | failZombieRuns (olderThan : Int)
  | failFleet (f : RunFleet) (reason : String) (evidence : Option (String × String))
      (removed : Bool)
  | enroll (req : EnrollRequest)
  /-- `workerAction`: approve, resume, drain, quarantine or revoke. -/
  | setWorkerStatus (workerID : UUID) (status : WorkerStatus)
  | deleteWorker (workerID : UUID) (removed : Bool)
  | markStaleWorkers
  | reapStaleLocalWorkers (cutoff : Int)
  | gateway (req : GatewayRequest)
deriving Repr, DecidableEq

namespace ControlRequest

/-- One statement as a request of its own. -/
def single {α : Type} (s : Stmt α) : Prog Stmt Nat := do
  let _ ← issue s
  pure 0

/-- The program that serves a request. -/
def prog (cfg : ControlConfig) : ControlRequest → Prog Stmt Nat
  | start scopeID o => do
    match ← Launch.start cfg.launch scopeID o with
    | .ok _ => pure 201
    | .error ref => pure ref.status
  | advance runID => Control.advanceRun cfg.launch runID
  | cancelRun runID => Control.cancelRun runID
  | pauseRun runID => Control.pauseRun runID
  | resumeRun runID => Control.resumeRun runID
  | failZombieRuns olderThan => single (.run (.failZombieRuns olderThan))
  | failFleet f reason evidence removed => do
    FleetManager.fail f reason evidence removed
    pure 0
  | enroll req => Control.enroll req
  | setWorkerStatus workerID status => single (.worker (.setWorkerStatus workerID status))
  | deleteWorker workerID removed => Control.deleteWorker workerID removed
  | markStaleWorkers => single (.worker (.markStaleWorkers workerStaleAfter))
  | reapStaleLocalWorkers cutoff => single (.worker (.reapStaleLocalWorkers cutoff))
  | gateway req => req.prog cfg.gateway

end ControlRequest

/-- The control plane as a system. Any request can arrive at any time. -/
def controlSystem (cfg : ControlConfig) (out : Outside) :
    System Stmt DB Env ControlRequest Nat :=
  storeSystem out (fun _ _ => true) (ControlRequest.prog cfg)

end PinkGlasses
