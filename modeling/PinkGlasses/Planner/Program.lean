import PinkGlasses.Planner.Decide

/-!
# PinkGlasses.Planner.Program

`PlanInitial` and `Advance` statement by statement. `Advance` is one pass over a running run: scan
what discovery has found since, probe what the scans have found, plan the web stages, and finish the
run once nothing is outstanding. Every read is a statement of its own, so what a pass decides on can
change under it.
-/

namespace PinkGlasses

open Lib

namespace Planner

/-! ### What the passes share -/

/-- `PassivePool`: a pool that takes discovery, the pool named "local", or the default pool. -/
def passivePool : Go UUID := do
  match ← Go.try (.worker .discoveryPool) with
  | some id => pure id
  | none =>
    match ← Go.try (.worker (.poolByName "local")) with
    | some id => pure id
    | none => Go.exec (.worker .defaultPool)

def routingFor (run : ScanRun) : Go Routing := do
  let passive ← passivePool.mapError ("no pool for passive stages: " ++ ·)
  pure { passive := passive, active := run.poolID }

def listTargetsMerged (scopeID : UUID) : Go (List ScopeTarget) := do
  let rows ← Go.exec (.run (.listTargets scopeID ""))
  pure (mergeTargets rows)

/-- `OriginsForTask`, its error ignored. -/
def originsOf (taskID : UUID) : Go (List UUID) := do
  let r ← Go.try (.task (.originsForTask taskID))
  pure (r.getD [])

/-- Route the tasks and insert them, or do neither. -/
def insertRouted (runID : UUID) (rt : Routing) (specs : List TaskSpec) : Go Unit := do
  let routed ← Go.ofExcept (routeTasks specs rt)
  let _ ← Go.exec (.task (.insertTasks runID routed))
  pure ()

/-! ### The first tasks -/

/-- The loop of `PlanInitial` over the targets. -/
def planTargets (allowPrivate passive : Bool) (scopeTargets : List ScopeTarget) :
    List RunTarget → Go (List TaskSpec)
  | [] => pure []
  | t :: ts => do
    let (specs, status) := planTarget allowPrivate passive scopeTargets t
    match status with
    | some (st, reason) =>
      let _ ← Go.try (.run (.setRunTargetStatus t.id st reason))
    | none => pure ()
    let rest ← planTargets allowPrivate passive scopeTargets ts
    pure (specs ++ rest)

def dnsBruteSpecs (run : ScanRun) (targets : List RunTarget) : Go (List TaskSpec) := do
  if run.profile = .passive then pure []
  else
    let params ← Go.try (.run (.getRunParams run.id))
    if params.bind (param · "dns_bruteforce") = some "false" then pure []
    else
      match ← Go.try (.run (.runWordlists run.id)) with
      | some lists => pure (bruteSpecs targets (lists.filter (·.kind == "dns")))
      | none => pure []

def planInitial (allowPrivate : Bool) (run : ScanRun) (targets : List RunTarget)
    (scopeTargets : List ScopeTarget) : Go Unit := do
  Go.exec (.run (.setRunStatus run.id .running))
  let rt ← routingFor run
  let specs ← planTargets allowPrivate (run.profile == .passive) scopeTargets targets
  let brute ← dnsBruteSpecs run targets
  if (specs ++ brute).isEmpty then Go.exec (.run (.setRunStatus run.id .completed))
  else insertRouted run.id rt (specs ++ brute)

/-! ### Discovered addresses -/

/-- The addresses of one task, if it is done. -/
def addTaskAddresses (m : AddressMap) (t : TaskRow) : Go AddressMap := do
  if t.status ≠ .done ∨ (decode t.result).ips = [] then pure m
  else
    let origins ← originsOf t.id
    pure ((decode t.result).ips.foldl (addAddress origins) m)

/-- The addresses of a stage's tasks. -/
def addStageAddresses : AddressMap → List TaskRow → Go AddressMap
  | m, [] => pure m
  | m, t :: ts => do
    let m' ← addTaskAddresses m t
    addStageAddresses m' ts

/-- The stages whose summaries hold addresses. -/
def discoveryStages : List Stage := [.passiveEnum, .dnsBrute, .dnsResolve]

/-- The union of the addresses every finished discovery task has reported. -/
def discovered (runID : UUID) : AddressMap → List Stage → Go AddressMap
  | m, [] => pure m
  | m, stage :: stages => do
    let tasks ← Go.exec (.task (.tasksByStage runID stage))
    let m' ← addStageAddresses m tasks
    discovered runID m' stages

def authorizedRunTargets (run : ScanRun) : Go (List UUID) := do
  let scopeTargets ← listTargetsMerged run.scopeID
  let runTargets ← Go.exec (.run (.listRunTargets run.id))
  pure ((runTargets.filter fun t => authorized scopeTargets t.value).map (·.id))

/-- `scanNewAddresses` once there are addresses. -/
def scanAddresses (allowPrivate : Bool) (run : ScanRun) (m : AddressMap) : Go Unit := do
  let auth ← authorizedRunTargets run
  let rt ← routingFor run
  let already ← Go.exec (.task (.scannedAddresses run.id))
  let scopeTargets ← listTargetsMerged run.scopeID
  let shared ← Go.exec (.asset (.sharedAddresses run.scopeID))
  let params ← Go.try (.run (.getRunParams run.id))
  let specs := addressSpecs
    { allowPrivate := allowPrivate, already := already, authorized := auth
      guard := ScopeGuard.new scopeTargets, shared := shared, cdnPorts := cdnPortsFor params } m
  if specs.isEmpty then pure ()
  else insertRouted run.id rt specs

def scanNewAddresses (allowPrivate : Bool) (run : ScanRun) : Go Unit := do
  let m ← discovered run.id [] discoveryStages
  if m.isEmpty then pure ()
  else scanAddresses allowPrivate run m

/-! ### Open ports -/

/-- The probes of one port scan, if it is done or failed. -/
def addTaskProbes (acc : List String × List TaskSpec) (t : TaskRow) :
    Go (List String × List TaskSpec) := do
  if (t.status ≠ .done ∧ t.status ≠ .failed) ∨ (decode t.result).services = [] then pure acc
  else
    let origins ← originsOf t.id
    pure ((decode t.result).services.foldl (addProbe (origin0 origins)) acc)

/-- The probes of all port scans. -/
def addProbes : List String × List TaskSpec → List TaskRow → Go (List String × List TaskSpec)
  | acc, [] => pure acc
  | acc, t :: ts => do
    let acc' ← addTaskProbes acc t
    addProbes acc' ts

def probeNewServices (run : ScanRun) : Go Unit := do
  let tasks ← Go.exec (.task (.tasksByStage run.id .portScan))
  let already ← Go.exec (.task (.probedEndpoints run.id))
  let rt ← routingFor run
  let acc ← addProbes (already, []) tasks
  if acc.2.isEmpty then pure ()
  else insertRouted run.id rt acc.2

/-! ### The web stages -/

/-- The names looked up so far, by address. -/
abbrev NameCache := List (String × List String)

/-- The names on an address, looked up once a pass. -/
def namesFor (scopeID : UUID) (maxNames : Nat) (cache : NameCache) (ip : String) :
    Go (List String × NameCache) :=
  match cache.lookup ip with
  | some names => pure (names, cache)
  | none => do
    let r ← Go.try (.asset (.namesResolvingTo scopeID ip (maxNames + 1)))
    pure (r.getD [], (ip, r.getD []) :: cache)

/-- What the web stages are planned with. -/
structure WebPlan where
  scopeID : UUID
  stages : Bool × Bool
  maxNames : Nat

/-- The web stages of the live endpoints of one probe. -/
def urlSpecs (w : WebPlan) (origin : UUID) : NameCache → List String →
    Go (List TaskSpec × NameCache)
  | cache, [] => pure ([], cache)
  | cache, u :: us => do
    let (names, cache') ← namesFor w.scopeID w.maxNames cache (ipPortFromURL u).1
    let targets := webTargets u (ipPortFromURL u).1 (ipPortFromURL u).2 names w.maxNames
    let (rest, cache'') ← urlSpecs w origin cache' us
    pure (targets.flatMap (webSpecs w.stages origin) ++ rest, cache'')

/-- The web stages of all probes. -/
def probeSpecs (w : WebPlan) : NameCache → List TaskRow → Go (List TaskSpec)
  | _, [] => pure []
  | cache, t :: ts => do
    let origins ← originsOf t.id
    let (specs, cache') ← urlSpecs w (origin0 origins) cache (decode t.result).webURLs
    let rest ← probeSpecs w cache' ts
    pure (specs ++ rest)

/-- `maybePostProbe` once the probes are over. -/
def postProbe (run : ScanRun) : Go Unit := do
  let tasks ← Go.exec (.task (.tasksByStage run.id .serviceProbe))
  let params := (← Go.try (.run (.getRunParams run.id))).getD []
  let rt ← routingFor run
  let specs ← probeSpecs ⟨run.scopeID, postProbeStages params, maxVhosts params⟩ [] tasks
  if specs.isEmpty then pure ()
  else insertRouted run.id rt specs

/-- `maybePostProbe`: nothing once a `tech_detect` task exists or while a probe is outstanding. The
errors of both questions are ignored. -/
def maybePostProbe (run : ScanRun) : Go Unit := do
  let planned ← Go.try (.task (.stageExists run.id .techDetect))
  if planned.getD false then pure ()
  else
    let out ← Go.try (.task (.stageOutstanding run.id [.serviceProbe]))
    if 0 < out.getD 0 then pure ()
    else postProbe run

/-! ### The pass -/

/-- The loop of `finish` over the targets. -/
def finishTargets : List RunTarget → Go Unit
  | [] => pure ()
  | t :: ts => do
    if t.status = .skipped then pure ()
    else
      let _ ← Go.try (.run (.setRunTargetStatus t.id (finishedStatus t) none))
    finishTargets ts

def finish (run : ScanRun) : Go Unit := do
  let targets ← Go.exec (.run (.listRunTargets run.id))
  finishTargets targets
  Go.exec (.run (.setRunStatus run.id .completed))

/-- The planning part of `Advance`. -/
def planNext (allowPrivate : Bool) (run : ScanRun) : Go Unit := do
  scanNewAddresses allowPrivate run
  probeNewServices run
  maybePostProbe run

/-- The completion part of `Advance`. -/
def complete (run : ScanRun) : Go Bool := do
  let prog ← Go.exec (.task (.runProgress run.id))
  if 0 < prog.total ∧ prog.outstanding = 0 then
    finish run
    pure true
  else pure false

def advance (allowPrivate : Bool) (run : ScanRun) : Go Bool := do
  if run.status ≠ .running then pure false
  else
    if run.profile ≠ .passive then planNext allowPrivate run
    complete run

end Planner

end PinkGlasses
