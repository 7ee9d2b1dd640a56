import PinkGlasses.Gateway
import PinkGlasses.Lib.Conc

/-!
# PinkGlasses.GatewaySystem

The programs of the control plane as one concurrent system on the database. Every request runs in
its own goroutine, so **two requests interleave statement by statement**; `storeSystem` is that
for any set of programs, and `gatewaySystem` for what enrolled workers can ask of the gateway
together with the scheduler's reaper and the cancellation of a run.
-/

namespace PinkGlasses

open Lib

/-- Programs interleaving on the database. -/
def storeSystem (out : Outside) {R ρ : Type} (accepts : DB → R → Bool) (prog : R → Prog Stmt ρ) :
    System Stmt DB Env R ρ where
  exec := fun s env db => s.exec out env db
  accepts := accepts
  prog := prog

/-- What can reach the lease machinery. -/
inductive GatewayRequest
  | results (req : ResultsRequest)
  | heartbeat (workerID : UUID) (hb : Heartbeat)
  | dispatchTick (workerID : UUID)
  | connect (workerID : Option UUID) (credential : String)
  | unregister (workerID : UUID)
  /-- The scheduler's reaper. -/
  | reapExpiredLeases
  /-- The tasks of a run are cancelled. -/
  | cancelRunTasks (runID : UUID)
deriving Repr, DecidableEq

namespace GatewayRequest

/-- The program that serves a request; HTTP handlers return their status. -/
def prog (cfg : GatewayConfig) : GatewayRequest → Prog Stmt Nat
  | results req => Gateway.results cfg req
  | heartbeat workerID hb => do
    Gateway.heartbeat cfg workerID hb
    pure 0
  | dispatchTick workerID => do
    Gateway.dispatchTick cfg workerID
    pure 0
  | connect workerID credential => Gateway.connect cfg workerID credential
  | unregister workerID => do
    Gateway.unregister workerID
    pure 0
  | reapExpiredLeases => do
    let _ ← Prog.issue (.task .reapExpiredLeases)
    pure 0
  | cancelRunTasks runID => do
    let _ ← Prog.issue (.task (.cancelRunTasks runID))
    pure 0

end GatewayRequest

/-- The gateway as a system. Any request can arrive at any time. -/
def gatewaySystem (cfg : GatewayConfig) (out : Outside) :
    System Stmt DB Env GatewayRequest Nat :=
  storeSystem out (fun _ _ => true) (GatewayRequest.prog cfg)

/-! ### A small installation

One pool, one worker in it, and a running run with one pending port scan: where the schedules
that are evaluated start. -/

/-- The worker of the small installation. -/
def oneWorker : Worker where
  id := 1
  poolID := some 1
  name := "worker"
  kind := .vps
  status := .active
  capabilities := [capRawSocket]
  credHash := "secret"

/-- Its run. -/
def oneRun : ScanRun where
  id := 1
  scopeID := 1
  profile := .standard
  status := .running
  poolID := some 1

/-- The run's task. -/
def oneTask : ScanTask where
  id := 1
  runID := 1
  stage := .portScan
  target := { ip := "192.0.2.1" }
  requires := [capRawSocket]
  priority := 100
  status := .pending
  poolID := some 1

/-- The database of the small installation. -/
def oneTaskDB : DB where
  pools := .ofRows [{ id := 1, name := "default", isDefault := true }] (by decide)
  workers := .ofRows [oneWorker] (by decide)
  runs := .ofRows [oneRun] (by decide)
  tasks := .ofRows [oneTask] (by decide)

/-- The worker's final delivery for the task, under the first lease token. -/
def finalDelivery (status : String) : GatewayRequest :=
  .results {
    workerID := some 1, credential := "secret"
    body := some { taskID := some 1, leaseToken := some 1, final := true, status := status } }

/-- The small installation with its task leased to its worker. -/
def leasedTaskDB : DB :=
  { oneTaskDB with
    tasks := .ofRows [{ oneTask with
      status := .running, workerID := some 1, leaseToken := some 1 }] (by decide) }

/-- Let thread `i` issue `n` statements. -/
def steps (i n : Nat) {R : Type} : List (Event R Env) := List.replicate n (.step i {})

end PinkGlasses
