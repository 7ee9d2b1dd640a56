import PinkGlasses.Lib.Prog
import PinkGlasses.Store.Asset
import PinkGlasses.Store.Fleet
import PinkGlasses.Store.Run
import PinkGlasses.Store.Worker

/-!
# PinkGlasses.Store.Stmt

All statements together, as the signature the program's functions are written over.
-/

namespace PinkGlasses

/-- The statements of `internal/store`. -/
inductive Stmt (β : Type) : Type
  | task (s : TaskStmt β)
  | worker (s : WorkerStmt β)
  | run (s : RunStmt β)
  | asset (s : AssetStmt β)
  | fleet (s : FleetStmt β)

/-- What a statement answers and does to the database; `none` when it is refused. -/
def Stmt.exec (out : Outside) {β : Type} (s : Stmt β) (env : Env) (db : DB) : Option (β × DB) :=
  match s with
  | .task s => s.exec env db
  | .worker s => s.exec env db
  | .run s => s.exec env db
  | .asset s => s.exec out db
  | .fleet s => s.exec out env db

/-- A function of the program that can fail with a message. -/
abbrev Go (α : Type) := ExceptT String (Lib.Prog Stmt) α

/-- The message of an error that came from the database. Its text is the driver's. -/
def dbError : String := "database error"

/-- Issue a statement; its error is the function's error. -/
def Go.exec {α : Type} (s : Stmt α) : Go α := Lib.Prog.query dbError s

/-- Issue a statement whose error is ignored. -/
def Go.try {α : Type} (s : Stmt α) : Go (Option α) := Lib.Prog.attempt s

/-- An error of the function with text around it. -/
def Go.mapError {α : Type} (f : String → String) (x : Go α) : Go α :=
  ExceptT.mk (do let r ← x.run; pure (r.mapError f))

/-- A result that needed no statement. -/
def Go.ofExcept {α : Type} (r : Except String α) : Go α := ExceptT.mk (pure r)

namespace Go

open Lib Prog

variable {α : Type} {pre : Hist Stmt → ∀ β : Type, Stmt β → Prop} {h : Hist Stmt}

theorem meetsOk_exec {s : Stmt α} (hs : pre h _ s) :
    MeetsOk pre h (Go.exec s) fun h' a => h'.Asked s (some a) :=
  meetsOk_query_asked hs

theorem meetsOk_try {s : Stmt α} (hs : pre h _ s) :
    MeetsOk pre h (Go.try s) fun h' r => h'.Asked s r :=
  meetsOk_attempt_asked hs

theorem meetsOk_ofExcept {r : Except String α} :
    MeetsOk pre h (Go.ofExcept r) fun h' a => h' = h ∧ r = .ok a := by
  cases r with
  | ok a => exact ⟨List.Subset.refl h, rfl, rfl⟩
  | error e => trivial

theorem meetsOk_mapError {f : String → String} {x : Go α} {P : Hist Stmt → α → Prop}
    (hx : MeetsOk pre h x P) : MeetsOk pre h (x.mapError f) P := by
  refine meets_bind.mpr (Meets.mono hx fun h' r hr => ?_)
  cases r with
  | ok a => exact hr
  | error e => trivial

end Go

/-! ### Quiet statements

Reads that need no reason, and the status of a run's target, which nothing is decided by. -/

section Quiet

variable {β : Type}

def TaskStmt.quiet : TaskStmt β → Bool
  | bruteRoom _ _ | runProgress _ | tasksByStage _ _ | stageOutstanding _ _ | stageExists _ _
  | scannedAddresses _ | probedEndpoints _ | taskResult _ | loadTask _ _ _ => true
  | _ => false

def WorkerStmt.quiet : WorkerStmt β → Bool
  | workerForAuth _ | discoveryPool | poolByName _ | defaultPool | getExitPool _ => true
  | _ => false

def RunStmt.quiet : RunStmt β → Bool
  | getRun _ | listRunTargets _ | setRunTargetStatus _ _ _ | runningRuns | getRunParams _
  | getScanProfileParams _ | groupValues _ _ | listTargets _ _ | getWordlist _ | defaultWordlists _
  | runWordlists _ => true
  | _ => false

def AssetStmt.quiet : AssetStmt β → Bool
  | namesResolvingTo _ _ _ | sharedAddresses _ => true
  | _ => false

def FleetStmt.quiet : FleetStmt β → Bool
  | fleetsToBuild | fleetsToTearDown | liveFleets | countLiveFleets | activeWorkersInPool _
  | listVPNConfigs _ | getVPNConfig _ | openVPNConfigBody _ => true
  | _ => false

def Stmt.quiet : Stmt β → Bool
  | task s => s.quiet
  | worker s => s.quiet
  | run s => s.quiet
  | asset s => s.quiet
  | fleet s => s.quiet

def Stmt.plans : Stmt β → Bool
  | task s => s.plans
  | _ => false

end Quiet

/-! ### What a statement does to a task -/

namespace Stmt

variable {β : Type}

/-- What becomes of one existing task when a statement is executed. -/
def TaskStep (env : Env) (db : DB) : Stmt β → ScanTask → ScanTask → Prop
  | task s, t, t' => t' = s.onTask env db t
  | worker _, t, t' => WorkerStmt.Cleared t t'
  | _, t, t' => t' = t

variable {env : Env} {db db' : DB} {t t' : ScanTask} {out : Outside}

/-- A statement on tasks moves a task; any other can only clear its references. -/
theorem TaskStep.moved {s : Stmt β} (h : TaskStep env db s t t') :
    (∃ s', s = task s' ∧ t' = s'.onTask env db t) ∨ WorkerStmt.Cleared t t' := by
  cases s with
  | task s => exact .inl ⟨s, rfl, h⟩
  | worker s => exact .inr h
  | _ => exact .inr ((show t' = t from h) ▸ .refl t)

/-- What a task is planned as stays: its run, its stage and its target. Its pool can only be
lost. -/
theorem TaskStep.fixed {s : Stmt β} (h : TaskStep env db s t t') :
    t'.id = t.id ∧ t'.runID = t.runID ∧ t'.stage = t.stage ∧ t'.target = t.target ∧
      (t'.poolID = t.poolID ∨ t'.poolID = none) := by
  rcases h.moved with ⟨s, rfl, rfl⟩ | ⟨_, _, rfl, -, hpool⟩
  · obtain ⟨hid, hrun, hstage, htarget, hpool, -⟩ := s.onTask_fixed env db t
    exact ⟨hid, hrun, hstage, htarget, .inl hpool⟩
  · exact ⟨rfl, rfl, rfl, rfl, hpool⟩

/-- The task whose summary a statement writes, and the summary. -/
def stored : Stmt β → Option (UUID × StageSummary)
  | task s => s.stored
  | _ => none

theorem TaskStep.result {s : Stmt β} (h : TaskStep env db s t t') : t'.result = t.result ∨
      ∃ summary, s.stored = some (t.id, summary) ∧ t'.result = some summary := by
  rcases h.moved with ⟨s, rfl, rfl⟩ | ⟨_, _, rfl, -⟩
  · exact s.onTask_result env db t
  · exact .inl rfl

/-- The tasks a statement inserts. -/
def inserted (db : DB) : Stmt β → List ScanTask
  | task s => s.inserted db
  | _ => []

theorem mem_inserted {s : Stmt β} (h : t ∈ s.inserted db) :
    ∃ runID sp id, db.tasks.next ≤ id ∧ t = Store.newTask runID sp id := by
  cases s with
  | task s =>
    cases s with
    | insertTasks runID specs =>
      have hnext := Store.le_of_mem_newTasks h
      obtain ⟨sp, -, id, rfl⟩ := Store.mem_newTasks h
      exact ⟨runID, sp, id, hnext, rfl⟩
    | _ => cases h
  | _ => cases h

/-- The rows after a statement are the old ones, each moved by its `TaskStep`, and the new ones. -/
theorem exec_tasks {s : Stmt β} {b : β} (h : s.exec out env db = some (b, db')) :
    ∃ g, db'.tasks.rows = db.tasks.rows.map g ++ s.inserted db ∧ ∀ t,
      TaskStep env db s t (g t) := by
  have hframe : db'.tasks = db.tasks → ∃ g : ScanTask → ScanTask,
      db'.tasks.rows = db.tasks.rows.map g ++ [] ∧ ∀ t, g t = t := fun htasks =>
    ⟨id, by rw [htasks, List.map_id, List.append_nil], fun _ => rfl⟩
  cases s with
  | task s => exact ⟨_, s.exec_tasks h, fun _ => rfl⟩
  | worker s =>
    obtain ⟨g, hrows, hg⟩ := s.exec_tasks h
    exact ⟨g, hrows.trans (List.append_nil _).symm, hg⟩
  | run s | asset s | fleet s => exact hframe (by rw [s.exec_frame h])

/-- No existing task is lost. -/
theorem task_after {s : Stmt β} {b : β} (h : s.exec out env db = some (b, db'))
    (ht : t ∈ db.tasks.rows) : ∃ t' ∈ db'.tasks.rows, TaskStep env db s t t' := by
  obtain ⟨g, hrows, hg⟩ := exec_tasks h
  refine ⟨g t, ?_, hg t⟩
  rw [hrows]
  exact List.mem_append_left _ (List.mem_map_of_mem ht)

/-- No task comes from nowhere. -/
theorem task_before {s : Stmt β} {b : β} (h : s.exec out env db = some (b, db'))
    (ht : t' ∈ db'.tasks.rows) :
    (∃ t ∈ db.tasks.rows, TaskStep env db s t t') ∨ t' ∈ s.inserted db := by
  obtain ⟨g, hrows, hg⟩ := exec_tasks h
  rw [hrows, List.mem_append, List.mem_map] at ht
  rcases ht with ⟨t, ht, rfl⟩ | ht
  · exact .inl ⟨t, ht, hg t⟩
  · exact .inr ht

/-! ### What a statement does to a run -/

/-- The status a statement leaves a run in. -/
def statusAfter (env : Env) (db : DB) : Stmt β → ScanRun → RunStatus
  | run s, r => s.statusAfter env db r
  | _, r => r.status

/-- The parameters a statement leaves a run with. -/
def paramsAfter : Stmt β → ScanRun → List (String × String)
  | run s, r => s.paramsAfter r
  | _, r => r.params

/-- The run and the pool a statement binds it to. -/
def binds : Stmt β → Option (UUID × UUID)
  | run s => s.binds
  | _ => none

/-- The run a statement creates. -/
def created (env : Env) (db : DB) : Stmt β → List ScanRun
  | run s => s.created env db
  | _ => []

theorem created_pool {s : Stmt β} {r : ScanRun} (hr : r ∈ s.created env db) :
    r.poolID = none ∧ r.status = .queued := by
  cases s with
  | run s =>
    cases s with
    | createRun =>
      cases List.mem_singleton.mp hr
      exact ⟨rfl, rfl⟩
    | _ => cases hr
  | _ => cases hr

theorem exec_getRun {id : UUID} {r : ScanRun}
    (h : (run (.getRun id)).exec out env db = some (r, db')) : r ∈ db.runs.rows ∧ r.id = id := by
  obtain ⟨_, hfind, heq⟩ := Option.map_eq_some_iff.mp h
  cases heq
  exact Lib.Table.find?_eq_some.mp hfind

/-- The pool a statement deletes. -/
def drops : Stmt β → Option UUID
  | worker s => s.drops
  | _ => none

/-- The pool a statement leaves a run with. -/
def poolAfter (db : DB) (s : Stmt β) (r : ScanRun) : Option UUID :=
  match s.binds, s.drops with
  | some (runID, poolID), _ => if r.id == runID then some poolID else r.poolID
  | none, some poolID =>
    if db.pools.refers (fun p => p.id == poolID && p.runScoped) r.poolID then none else r.poolID
  | none, none => r.poolID

/-- A run has the pool the statement binds it to, or the one it had, which is not deleted. -/
theorem poolAfter_eq_some {db : DB} {s : Stmt β} {r : ScanRun} {i : UUID}
    (h : s.poolAfter db r = some i) : s.binds = some (r.id, i) ∨ (r.poolID = some i ∧
      ∀ d, s.drops = some d → db.pools.refers (fun p => p.id == d && p.runScoped)
        (some i) = false) := by
  cases s with
  | run s =>
    cases s with
    | setRunPool runID poolID =>
      simp only [poolAfter, binds, RunStmt.binds] at h ⊢
      split at h
      · rename_i hid
        rw [beq_iff_eq.mp hid, Option.some.inj h]
        exact .inl rfl
      · exact .inr ⟨h, nofun⟩
    | _ => exact .inr ⟨h, nofun⟩
  | worker s =>
    cases s with
    | deleteRunPool poolID =>
      simp only [poolAfter, binds, drops, WorkerStmt.drops] at h
      split at h
      · cases h
      · rename_i hkeep
        rw [h] at hkeep
        refine .inr ⟨h, fun d hd => ?_⟩
        cases hd
        simpa using hkeep
    | _ => exact .inr ⟨h, nofun⟩
  | _ => exact .inr ⟨h, nofun⟩

/-- What becomes of one existing run. -/
structure RunStep (env : Env) (db : DB) (s : Stmt β) (r r' : ScanRun) : Prop where
  id : r'.id = r.id
  scopeID : r'.scopeID = r.scopeID
  profile : r'.profile = r.profile
  status : r'.status = s.statusAfter env db r
  params : r'.params = s.paramsAfter r
  poolID : r'.poolID = s.poolAfter db r

/-- The runs after a statement are the old ones, each moved by its `RunStep`, and the created
one. -/
theorem exec_runs {s : Stmt β} {b : β} (h : s.exec out env db = some (b, db')) :
    ∃ g, db'.runs.rows = db.runs.rows.map g ++ s.created env db ∧ ∀ r,
      RunStep env db s r (g r) := by
  have hframe : db'.runs = db.runs → ∃ g : ScanRun → ScanRun,
      db'.runs.rows = db.runs.rows.map g ++ [] ∧ ∀ r, g r = r := fun hruns =>
    ⟨id, by rw [hruns, List.map_id, List.append_nil], fun _ => rfl⟩
  cases s with
  | run s =>
    obtain ⟨g, hrows, hg⟩ := s.exec_runs h
    exact ⟨g, hrows, fun r => ⟨(hg r).id, (hg r).scopeID, (hg r).profile, (hg r).status,
      (hg r).params, (hg r).poolID.trans (by cases s <;> rfl)⟩⟩
  | task s | asset s =>
    obtain ⟨g, hrows, hg⟩ := hframe (by rw [s.exec_frame h])
    refine ⟨g, hrows, fun r => ?_⟩
    rw [hg r]
    exact ⟨rfl, rfl, rfl, rfl, rfl, rfl⟩
  | worker s =>
    obtain ⟨g, hrows, hg⟩ := s.exec_runs h
    refine ⟨g, hrows.trans (List.append_nil _).symm, fun r => ?_⟩
    rw [hg r]
    exact ⟨rfl, rfl, rfl, rfl, rfl, by cases s <;> rfl⟩
  | fleet s =>
    obtain ⟨g, hrows, hg⟩ := s.exec_runs h
    refine ⟨g, hrows.trans (List.append_nil _).symm, fun r => ?_⟩
    rcases hg r with hr | hr <;> rw [hr] <;> exact ⟨rfl, rfl, rfl, rfl, rfl, rfl⟩

theorem exec_runs_next {s : Stmt β} {b : β} (h : s.exec out env db = some (b, db')) :
    db'.runs.next = db.runs.next + (s.created env db).length := by
  cases s with
  | run s | worker s | fleet s => exact s.exec_runs_next h
  | task s | asset s => rw [s.exec_frame h]; rfl

theorem run_after {s : Stmt β} {b : β} (h : s.exec out env db = some (b, db')) {r : ScanRun}
    (hr : r ∈ db.runs.rows) : ∃ r' ∈ db'.runs.rows, RunStep env db s r r' := by
  obtain ⟨g, hrows, hg⟩ := exec_runs h
  refine ⟨g r, ?_, hg r⟩
  rw [hrows]
  exact List.mem_append_left _ (List.mem_map_of_mem hr)

theorem run_before {s : Stmt β} {b : β} (h : s.exec out env db = some (b, db')) {r' : ScanRun}
    (hr : r' ∈ db'.runs.rows) :
    (∃ r ∈ db.runs.rows, RunStep env db s r r') ∨ r' ∈ s.created env db := by
  obtain ⟨g, hrows, hg⟩ := exec_runs h
  rw [hrows, List.mem_append, List.mem_map] at hr
  rcases hr with ⟨r, hr, rfl⟩ | hr
  · exact .inl ⟨r, hr, hg r⟩
  · exact .inr hr

/-! ### What a statement does to pools and workers -/

/-- The pool and the kind of the worker a statement enrols. -/
def enrols : Stmt β → Option (Option UUID × WorkerKind)
  | worker s => s.enrols
  | _ => none

@[inherit_doc WorkerStmt.statusAfter]
def workerStatus (env : Env) : Stmt β → Option Worker → Option WorkerStatus
  | worker s, w => s.statusAfter env w
  | _, w => w.map (·.status)

theorem exec_registry {s : Stmt β} {b : β} (h : s.exec out env db = some (b, db')) :
    WorkerStmt.RegistryStep s.enrols s.drops (s.workerStatus env) db db' := by
  have hframe : db'.pools = db.pools → db'.workers = db.workers →
      WorkerStmt.RegistryStep s.enrols s.drops (·.map (·.status)) db db' := fun hpools hworkers =>
    .of_workers hpools (by rw [hworkers]) fun w hw => ⟨w, hworkers ▸ hw, .refl w, rfl⟩
  cases s with
  | worker s => exact s.exec_registry h
  | task s | run s | asset s | fleet s =>
    exact hframe (by rw [s.exec_frame h]) (by rw [s.exec_frame h])

end Stmt

end PinkGlasses
