import PinkGlasses.Control
import PinkGlasses.Lib.Seq
import PinkGlasses.Planner.Select

/-!
# PinkGlasses.Planner.Outcome

The planner with nothing else going on. A function of the planner that is served alone reads one
database, so **what it comes to is a function of that database** (`alone`), and this module says
which: the pool of the passive stages, the addresses discovery has reported with their origins, what
they are held against, and what inserting a batch of tasks leaves.
-/

namespace PinkGlasses

open Lib Prog System Store

namespace Planner

section Alone

variable {α β : Type} (cfg : ControlConfig) (out : Outside) (env : Env) (db : DB)

/-- What a function of the planner, served alone, leaves and returns. -/
def alone (x : Go α) : DB × Except String α := (controlSystem cfg out).outcome env db x.run

variable {cfg out env db}

theorem alone_bind (x : Go α) (f : α → Go β) :
    alone cfg out env db (x >>= f) = match alone cfg out env db x with
      | (db₁, .ok a) => alone cfg out env db₁ (f a)
      | (db₁, .error e) => (db₁, .error e) := by
  unfold alone
  rw [outcome_bind]
  rcases (controlSystem cfg out).outcome env db x.run with ⟨db₁, r⟩
  cases r <;> rfl

theorem alone_bind_ok {x : Go α} {f : α → Go β} {db₁ : DB} {a : α}
    (hx : alone cfg out env db x = (db₁, .ok a)) :
    alone cfg out env db (x >>= f) = alone cfg out env db₁ (f a) := by
  rw [alone_bind, hx]

theorem alone_exec {s : Stmt α} {b : α} {db₁ : DB} (hexec : s.exec out env db = some (b, db₁)) :
    alone cfg out env db (Go.exec s) = (db₁, .ok b) := by
  have hexec : (controlSystem cfg out).exec s env db = some (b, db₁) := hexec
  unfold alone Go.exec
  rw [outcome_query, hexec]

theorem alone_exec_none {s : Stmt α} (hexec : s.exec out env db = none) :
    alone cfg out env db (Go.exec s) = (db, .error dbError) := by
  have hexec : (controlSystem cfg out).exec s env db = none := hexec
  unfold alone Go.exec
  rw [outcome_query, hexec]

theorem alone_try {s : Stmt α} (r : Option α) (hexec : s.exec out env db = r.map (·, db)) :
    alone cfg out env db (Go.try s) = (db, .ok r) := by
  have hexec : (controlSystem cfg out).exec s env db = r.map (·, db) := hexec
  unfold alone Go.try
  rw [outcome_attempt, hexec]
  cases r <;> rfl

theorem alone_exec_bind {s : Stmt α} {f : α → Go β} {b : α} {db₁ : DB}
    (hexec : s.exec out env db = some (b, db₁)) :
    alone cfg out env db (Go.exec s >>= f) = alone cfg out env db₁ (f b) :=
  alone_bind_ok (alone_exec hexec)

theorem alone_try_bind {s : Stmt α} {f : Option α → Go β} {r : Option α}
    (hexec : s.exec out env db = r.map (·, db)) :
    alone cfg out env db (Go.try s >>= f) = alone cfg out env db (f r) :=
  alone_bind_ok (alone_try r hexec)

@[simp] theorem alone_ofExcept (r : Except String α) :
    alone cfg out env db (Go.ofExcept r) = (db, r) := rfl

theorem alone_mapError (f : String → String) (x : Go α) :
    alone cfg out env db (x.mapError f) =
      ((alone cfg out env db x).1, (alone cfg out env db x).2.mapError f) := by
  have hrun : (x.mapError f).run = (x.run >>= fun r => pure (r.mapError f)) := rfl
  unfold alone outcome
  rw [hrun, serve_bind]
  rfl

/-! ### Where the tasks go -/

/-- The pool `PassivePool` finds. -/
def passivePoolOf (db : DB) : Option UUID :=
  (discoveryPool db).or ((poolByName "local" db).or (defaultPool db))

theorem alone_passivePool : alone cfg out env db passivePool =
    (db, match passivePoolOf db with | some id => .ok id | none => .error dbError) := by
  unfold passivePool passivePoolOf
  rw [alone_try_bind (r := discoveryPool db) rfl]
  cases discoveryPool db with
  | some id => rfl
  | none =>
    dsimp only
    rw [alone_try_bind (r := poolByName "local" db) rfl]
    cases poolByName "local" db with
    | some id => rfl
    | none =>
      cases hdef : defaultPool db with
      | some id => exact alone_exec (by simp only [Stmt.exec, WorkerStmt.exec, hdef]; rfl)
      | none => exact alone_exec_none (by simp only [Stmt.exec, WorkerStmt.exec, hdef]; rfl)

theorem alone_routingFor (run : ScanRun) :
    alone cfg out env db (routingFor run) = (db, match passivePoolOf db with
      | some id => .ok ⟨id, run.poolID⟩
      | none => .error ("no pool for passive stages: " ++ dbError)) := by
  unfold routingFor
  rw [alone_bind, alone_mapError, alone_passivePool]
  cases passivePoolOf db <;> rfl

/-! ### What discovery has reported -/

/-- `addTaskAddresses`, with the origins the database has. -/
def taskAddresses (db : DB) (m : AddressMap) (t : TaskRow) : AddressMap :=
  if t.status ≠ .done ∨ (decode t.result).ips = [] then m
  else (decode t.result).ips.foldl (addAddress (originsForTask t.id db)) m

/-- The addresses the finished discovery tasks of the run have reported, with the run targets that
led to them. -/
def addressMap (db : DB) (runID : UUID) : AddressMap :=
  (discoveryStages.flatMap fun stage => tasksByStage runID stage db).foldl (taskAddresses db) []

theorem alone_originsOf (taskID : UUID) :
    alone cfg out env db (originsOf taskID) = (db, .ok (originsForTask taskID db)) := by
  unfold originsOf
  rw [alone_try_bind (r := some (originsForTask taskID db)) rfl]
  rfl

theorem alone_addStageAddresses (m : AddressMap) (rows : List TaskRow) :
    alone cfg out env db (addStageAddresses m rows) =
      (db, .ok (rows.foldl (taskAddresses db) m)) := by
  induction rows generalizing m with
  | nil => rfl
  | cons t rows ih =>
    have hone : alone cfg out env db (addTaskAddresses m t) = (db, .ok (taskAddresses db m t)) := by
      unfold addTaskAddresses taskAddresses
      split
      · rfl
      · rw [alone_bind_ok (alone_originsOf t.id)]
        rfl
    unfold addStageAddresses
    rw [alone_bind_ok hone, ih]
    rfl

theorem alone_discovered (runID : UUID) (m : AddressMap) (stages : List Stage) :
    alone cfg out env db (discovered runID m stages) =
      (db, .ok ((stages.flatMap fun stage => tasksByStage runID stage db).foldl
        (taskAddresses db) m)) := by
  induction stages generalizing m with
  | nil => rfl
  | cons stage stages ih =>
    unfold discovered
    rw [alone_exec_bind (s := .task (.tasksByStage runID stage)) rfl,
      alone_bind_ok (alone_addStageAddresses _ _), ih, List.flatMap_cons, List.foldl_append]

/-! ### What an address is held against -/

/-- `ListTargetsMerged`. -/
def mergedTargets (scopeID : UUID) (db : DB) : List ScopeTarget :=
  mergeTargets (listTargets scopeID "" db)

/-- `authorizedRunTargets`. -/
def authorizedIDs (run : ScanRun) (db : DB) : List UUID :=
  ((listRunTargets run.id db).filter fun t =>
    authorized (mergedTargets run.scopeID db) t.value).map (·.id)

/-- The parameters of the run, if there is a row. -/
def paramsOf (runID : UUID) (db : DB) : Option (List (String × String)) :=
  (db.runs.find? runID).map (·.params)

theorem exec_getRunParams (runID : UUID) :
    (Stmt.run (.getRunParams runID)).exec out env db = (paramsOf runID db).map (·, db) := by
  unfold paramsOf
  cases hrow : db.runs.find? runID <;> simp [Stmt.exec, RunStmt.exec, hrow]

/-- The checks `scanNewAddresses` makes. -/
def addressChecks (allowPrivate : Bool) (run : ScanRun) (db : DB) : AddressChecks where
  allowPrivate := allowPrivate
  already := scannedAddresses run.id db
  authorized := authorizedIDs run db
  guard := ScopeGuard.new (mergedTargets run.scopeID db)
  shared := sharedAddresses run.scopeID db
  cdnPorts := cdnPortsFor (paramsOf run.id db)

theorem alone_listTargetsMerged (scopeID : UUID) :
    alone cfg out env db (listTargetsMerged scopeID) = (db, .ok (mergedTargets scopeID db)) := by
  unfold listTargetsMerged
  rw [alone_exec_bind (s := .run (.listTargets scopeID "")) rfl]
  rfl

theorem alone_authorizedRunTargets (run : ScanRun) :
    alone cfg out env db (authorizedRunTargets run) = (db, .ok (authorizedIDs run db)) := by
  unfold authorizedRunTargets
  rw [alone_bind_ok (alone_listTargetsMerged _),
    alone_exec_bind (s := .run (.listRunTargets run.id)) rfl]
  rfl

/-! ### Inserting -/

/-- What `insertRouted` comes to: every task gets its pool and all are inserted, or none. -/
theorem alone_insertRouted (runID : UUID) (rt : Routing) (specs : List TaskSpec) :
    alone cfg out env db (insertRouted runID rt specs) =
      match routeTasks specs rt with
      | .error e => (db, .error e)
      | .ok routed => match insertTasks runID routed db with
        | some (_, db') => (db', .ok ())
        | none => (db, .error dbError) := by
  unfold insertRouted
  rw [alone_bind, alone_ofExcept]
  cases routeTasks specs rt with
  | error e => rfl
  | ok routed =>
    dsimp only
    cases hins : insertTasks runID routed db with
    | none =>
      have hexec : (Stmt.task (.insertTasks runID routed)).exec out env db = none := hins
      rw [alone_bind, alone_exec_none hexec]
    | some r =>
      have hexec : (Stmt.task (.insertTasks runID routed)).exec out env db = some (r.1, r.2) := hins
      rw [alone_exec_bind hexec]
      rfl

variable (cfg out env db) in
/-- What planning a batch comes to: it takes a pool for the passive stages, and of an empty batch
nothing is inserted. -/
def planned (run : ScanRun) (specs : List TaskSpec) : DB × Except String Unit :=
  match passivePoolOf db with
  | none => (db, .error ("no pool for passive stages: " ++ dbError))
  | some p => alone cfg out env db
      (if specs.isEmpty then pure () else insertRouted run.id ⟨p, run.poolID⟩ specs)

theorem alone_planned {run : ScanRun} {specs : List TaskSpec} {f : Routing → Go Unit}
    (hf : ∀ rt, alone cfg out env db (f rt) = alone cfg out env db
      (if specs.isEmpty then pure () else insertRouted run.id rt specs)) :
    alone cfg out env db (routingFor run >>= f) = planned cfg out env db run specs := by
  unfold planned
  rw [alone_bind, alone_routingFor]
  cases passivePoolOf db with
  | none => rfl
  | some p => exact hf _

end Alone

end Planner

end PinkGlasses
