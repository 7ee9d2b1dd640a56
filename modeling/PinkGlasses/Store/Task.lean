import Mathlib.Data.List.Sort
import PinkGlasses.Store.Schema

/-!
# PinkGlasses.Store.Task

The statements of `internal/store/task.go` on `scan_task`: planning inserts, the lease and its
life (extend, complete, fail, re-adopt, reap, release, cancel), and what the planner reads.

Each function is one transaction, so it is one atomic step on the database. A statement that
changes existing tasks does so row by row; **`TaskStmt.onTask` is that row map**, and
`TaskStmt.exec_tasks` says that the rows after a statement are the mapped rows followed by the
inserted ones. What follows about tasks is then read off the map, one case a statement.
-/

namespace PinkGlasses

/-- `store.TaskSpec`: a task to insert. -/
structure TaskSpec where
  stage : Stage
  target : Target
  requires : List String := []
  priority : Int
  /-- The run targets the task serves. -/
  origins : List UUID := []
  wordlist : String := ""
  poolID : Option UUID := none
deriving Repr, DecidableEq

/-- `store.StageFilter`. -/
inductive StageFilter
  | anyStage | onlyBrute | noBrute
deriving Repr, DecidableEq

/-- Whether a stage passes the filter. -/
def StageFilter.admits : StageFilter → Stage → Bool
  | anyStage, _ => true
  | onlyBrute, s => s == .dnsBrute
  | noBrute, s => s != .dnsBrute

/-- `store.RunProgress`. -/
structure RunProgress where
  total : Nat
  done : Nat
  failed : Nat
  outstanding : Nat
deriving Repr, DecidableEq

/-- `store.TaskRow`. -/
structure TaskRow where
  id : UUID
  stage : Stage
  status : TaskStatus
  result : Option StageSummary
deriving Repr, DecidableEq

/-- `agentapi.taskInfo`. -/
structure TaskInfo where
  runID : UUID
  stage : Stage
  target : Target
deriving Repr, DecidableEq

namespace Store

/-! ### Planning -/

/-- One `task_origin` edge of a new task and its run target's counter. -/
def insertOrigin (taskID ot : UUID) (db : DB) : Option DB :=
  if ot = uuidNil then some db
  else if (db.runTargets.find? ot).isNone then none
  else some { db with
    taskOrigins := if ⟨taskID, ot⟩ ∈ db.taskOrigins then db.taskOrigins
      else db.taskOrigins ++ [⟨taskID, ot⟩]
    runTargets := db.runTargets.update (·.id == ot)
      fun r => { r with tasksTotal := r.tasksTotal + 1 } }

/-- The row of a new task. -/
def newTask (runID : UUID) (sp : TaskSpec) (id : UUID) : ScanTask where
  id := id
  runID := runID
  stage := sp.stage
  target := if sp.wordlist = "" then sp.target else { sp.target with wordlistID := sp.wordlist }
  requires := sp.requires
  priority := sp.priority
  status := .pending
  poolID := sp.poolID

/-- Insert one task with its origins. The run and the pool must exist. -/
def insertTask (runID : UUID) (sp : TaskSpec) (db : DB) : Option DB :=
  if (db.runs.find? runID).isNone || sp.poolID.any (fun p => (db.pools.find? p).isNone) then none
  else sp.origins.foldlM (fun d ot => insertOrigin db.tasks.next ot d)
    { db with tasks := db.tasks.insert (newTask runID sp) }

/-- `InsertTasks`: all of the batch or none of it. -/
def insertTasks (runID : UUID) (specs : List TaskSpec) (db : DB) : Option (List UUID × DB) :=
  (specs.foldlM (fun d sp => insertTask runID sp d) db).map fun d =>
    ((List.range specs.length).map (db.tasks.next + ·), d)

/-- The rows of a batch, when the first of them gets the key `next`. -/
def newTasks (runID : UUID) : List TaskSpec → UUID → List ScanTask
  | [], _ => []
  | sp :: specs, next => newTask runID sp next :: newTasks runID specs (next + 1)

variable {runID taskID : UUID} {specs : List TaskSpec} {t : ScanTask} {sp : TaskSpec} {db db' : DB}
  {e : TaskOrigin}

theorem mem_newTasks {next : UUID} (h : t ∈ newTasks runID specs next) :
    ∃ sp ∈ specs, ∃ id, t = newTask runID sp id := by
  induction specs generalizing next with
  | nil => cases h
  | cons sp specs ih =>
    rcases List.mem_cons.mp h with rfl | h
    · exact ⟨sp, List.mem_cons_self, next, rfl⟩
    · obtain ⟨sp', hsp, rest⟩ := ih h
      exact ⟨sp', List.mem_cons_of_mem _ hsp, rest⟩

theorem le_of_mem_newTasks {next : UUID} (h : t ∈ newTasks runID specs next) : next ≤ t.id := by
  induction specs generalizing next with
  | nil => cases h
  | cons sp specs ih =>
    rcases List.mem_cons.mp h with rfl | h
    · exact Nat.le_refl _
    · exact Nat.le_of_succ_le (ih h)

theorem exists_mem_newTasks (runID next : UUID) (h : sp ∈ specs) :
    ∃ id, newTask runID sp id ∈ newTasks runID specs next := by
  induction specs generalizing next with
  | nil => cases h
  | cons sp' specs ih =>
    rcases List.mem_cons.mp h with rfl | h
    · exact ⟨next, List.mem_cons_self⟩
    · obtain ⟨id, hid⟩ := ih (next + 1) h
      exact ⟨id, List.mem_cons_of_mem _ hid⟩

theorem insertOrigin_frame {ot : UUID} (h : insertOrigin taskID ot db = some db') :
    db' = { db with taskOrigins := db'.taskOrigins, runTargets := db'.runTargets } := by
  simp only [insertOrigin] at h
  split at h
  · cases h; rfl
  · split at h
    · cases h
    · cases h; rfl

theorem insertOrigins_frame {ots : List UUID}
    (h : ots.foldlM (fun d ot => insertOrigin taskID ot d) db = some db') :
    db' = { db with taskOrigins := db'.taskOrigins, runTargets := db'.runTargets } := by
  refine Lib.foldlM_keeps (P := fun d => d =
    { db with taskOrigins := d.taskOrigins, runTargets := d.runTargets })
      (fun hd hframe => ?_) h rfl
  have hstep := insertOrigin_frame hd
  rw [hframe] at hstep
  exact hstep

theorem insertTask_frame (h : insertTask runID sp db = some db') :
    db' = { db with
      tasks := db.tasks.insert (newTask runID sp)
      taskOrigins := db'.taskOrigins
      runTargets := db'.runTargets } := by
  simp only [insertTask] at h
  split at h
  · cases h
  · exact insertOrigins_frame h

theorem insertBatch_frame (h : specs.foldlM (fun d sp => insertTask runID sp d) db = some db') :
    db' = { db with
      tasks := db'.tasks, taskOrigins := db'.taskOrigins, runTargets := db'.runTargets } ∧
    db'.tasks.rows = db.tasks.rows ++ newTasks runID specs db.tasks.next := by
  induction specs generalizing db with
  | nil => cases h; exact ⟨rfl, (List.append_nil _).symm⟩
  | cons sp specs ih =>
    obtain ⟨d, hd, hrest⟩ := Option.bind_eq_some_iff.mp (by simpa using h)
    have h₁ := insertTask_frame hd
    obtain ⟨h₂, hrows⟩ := ih hrest
    have htasks : d.tasks = db.tasks.insert (newTask runID sp) := congrArg DB.tasks h₁
    rw [h₁] at h₂
    refine ⟨h₂, ?_⟩
    rw [hrows, htasks]
    show (db.tasks.rows ++ [newTask runID sp db.tasks.next]) ++
      newTasks runID specs (db.tasks.next + 1) = _
    rw [List.append_assoc]
    rfl

/-! #### The edges of a new task -/

theorem mem_insertOrigin {ot : UUID} (h : insertOrigin taskID ot db = some db') :
    e ∈ db'.taskOrigins ↔ e ∈ db.taskOrigins ∨ (ot ≠ uuidNil ∧ e = ⟨taskID, ot⟩) := by
  simp only [insertOrigin] at h
  split at h
  · rename_i hnil
    cases h
    simp [hnil]
  · rename_i hnil
    split at h
    · cases h
    · cases h
      show e ∈ (if _ then _ else _) ↔ _
      split
      · rename_i hold
        constructor
        · exact .inl
        · rintro (he | ⟨-, rfl⟩)
          · exact he
          · exact hold
      · simp [hnil]

theorem mem_insertOrigins {ots : List UUID}
    (h : ots.foldlM (fun d ot => insertOrigin taskID ot d) db = some db') :
    e ∈ db'.taskOrigins ↔ e ∈ db.taskOrigins ∨
      (e.taskID = taskID ∧ e.runTargetID ∈ ots ∧ e.runTargetID ≠ uuidNil) := by
  induction ots generalizing db with
  | nil =>
    cases h
    simp
  | cons ot ots ih =>
    obtain ⟨d, hd, hrest⟩ := Option.bind_eq_some_iff.mp (by simpa using h)
    rw [ih hrest, mem_insertOrigin hd, or_assoc]
    refine or_congr_right ?_
    obtain ⟨t, o⟩ := e
    simp only [TaskOrigin.mk.injEq, List.mem_cons]
    constructor
    · rintro (⟨hnil, rfl, rfl⟩ | ⟨rfl, ho, hnil⟩)
      · exact ⟨rfl, .inl rfl, hnil⟩
      · exact ⟨rfl, .inr ho, hnil⟩
    · rintro ⟨rfl, rfl | ho, hnil⟩
      · exact .inl ⟨hnil, rfl, rfl⟩
      · exact .inr ⟨rfl, ho, hnil⟩

theorem mem_insertTask (h : insertTask runID sp db = some db') :
    e ∈ db'.taskOrigins ↔ e ∈ db.taskOrigins ∨
      (e.taskID = db.tasks.next ∧ e.runTargetID ∈ sp.origins ∧ e.runTargetID ≠ uuidNil) := by
  simp only [insertTask] at h
  split at h
  · cases h
  · have hmem := mem_insertOrigins h (e := e)
    exact hmem

theorem edges_insertTask (h : insertTask runID sp db = some db')
    (hold : ∀ e ∈ db.taskOrigins, e.taskID < db.tasks.next) :
    ∀ e ∈ db'.taskOrigins, e.taskID < db'.tasks.next := by
  intro e he
  have hnext : db'.tasks.next = db.tasks.next + 1 := by rw [insertTask_frame h]; rfl
  rw [hnext]
  rcases (mem_insertTask h).mp he with hmem | ⟨hid, -⟩
  · exact Nat.lt_succ_of_lt (hold e hmem)
  · exact hid ▸ Nat.lt_succ_self _

theorem edges_insertBatch (h : specs.foldlM (fun d sp => insertTask runID sp d) db = some db')
    (hold : ∀ e ∈ db.taskOrigins, e.taskID < db.tasks.next) :
    ∀ e ∈ db'.taskOrigins, e.taskID < db'.tasks.next :=
  Lib.foldlM_keeps (P := fun d => ∀ e ∈ d.taskOrigins,
    e.taskID < d.tasks.next) edges_insertTask h hold

theorem nonnil_insertBatch (h : specs.foldlM (fun d sp => insertTask runID sp d) db = some db')
    (hold : ∀ e ∈ db.taskOrigins, e.runTargetID ≠ uuidNil) :
    ∀ e ∈ db'.taskOrigins, e.runTargetID ≠ uuidNil := by
  refine Lib.foldlM_keeps (P := fun d => ∀ e ∈ d.taskOrigins, e.runTargetID ≠ uuidNil)
    (fun hd hold e he => ?_) h hold
  rcases (mem_insertTask hd).mp he with hmem | ⟨-, -, hnil⟩
  · exact hold e hmem
  · exact hnil

theorem origins_insertBatch_old (h : specs.foldlM (fun d sp => insertTask runID sp d) db = some db')
    (he : e.taskID < db.tasks.next) : e ∈ db'.taskOrigins ↔ e ∈ db.taskOrigins := by
  induction specs generalizing db with
  | nil =>
    cases h
    exact Iff.rfl
  | cons sp specs ih =>
    obtain ⟨d, hd, hrest⟩ := Option.bind_eq_some_iff.mp (by simpa using h)
    have hnext : d.tasks.next = db.tasks.next + 1 := by rw [insertTask_frame hd]; rfl
    rw [ih hrest (hnext ▸ Nat.lt_succ_of_lt he), mem_insertTask hd, or_iff_left]
    exact fun hsame => Nat.ne_of_lt he hsame.1

/-- **The edges of a new task are to the origins it was planned with.** -/
theorem origins_insertBatch_new (h : specs.foldlM (fun d sp => insertTask runID sp d) db = some db')
    (hold : ∀ e ∈ db.taskOrigins, e.taskID < db.tasks.next)
    (ht : t ∈ newTasks runID specs db.tasks.next) :
    ∃ sp ∈ specs, t = newTask runID sp t.id ∧
      ∀ o, ⟨t.id, o⟩ ∈ db'.taskOrigins ↔ o ∈ sp.origins ∧ o ≠ uuidNil := by
  induction specs generalizing db with
  | nil => cases ht
  | cons sp specs ih =>
    obtain ⟨d, hd, hrest⟩ := Option.bind_eq_some_iff.mp (by simpa using h)
    have hnext : d.tasks.next = db.tasks.next + 1 := by rw [insertTask_frame hd]; rfl
    rcases List.mem_cons.mp ht with rfl | ht
    · refine ⟨sp, List.mem_cons_self, rfl, fun o => ?_⟩
      have hlt : db.tasks.next < d.tasks.next := hnext ▸ Nat.lt_succ_self _
      show ⟨db.tasks.next, o⟩ ∈ db'.taskOrigins ↔ _
      rw [origins_insertBatch_old hrest (e := ⟨db.tasks.next, o⟩) hlt, mem_insertTask hd]
      refine ⟨fun h => ?_, fun h => .inr ⟨rfl, h⟩⟩
      rcases h with hmem | ⟨-, h⟩
      · exact absurd (hold _ hmem) (Nat.lt_irrefl _)
      · exact h
    · have hold' := edges_insertTask hd hold
      obtain ⟨sp', hsp', hrow, hedges⟩ := ih hrest hold' (hnext ▸ ht)
      exact ⟨sp', List.mem_cons_of_mem _ hsp', hrow, hedges⟩

theorem insertTasks_rows {ids : List UUID} (h : insertTasks runID specs db = some (ids, db')) :
    db'.tasks.rows = db.tasks.rows ++ newTasks runID specs db.tasks.next := by
  obtain ⟨d, hd, hids⟩ := Option.map_eq_some_iff.mp h
  cases hids
  exact (insertBatch_frame hd).2

theorem insertTasks_run {ids : List UUID} (h : insertTasks runID specs db = some (ids, db'))
    (hne : specs ≠ []) : ∃ r ∈ db.runs.rows, r.id = runID := by
  obtain ⟨d, hd, _⟩ := Option.map_eq_some_iff.mp h
  cases specs with
  | nil => exact absurd rfl hne
  | cons sp specs =>
    obtain ⟨d₁, hd₁, _⟩ := Option.bind_eq_some_iff.mp (by simpa using hd)
    simp only [insertTask] at hd₁
    split at hd₁
    · cases hd₁
    · rename_i hrun
      cases hfind : db.runs.find? runID with
      | none => simp [hfind] at hrun
      | some r =>
        obtain ⟨hmem, hid⟩ := Lib.Table.find?_eq_some.mp hfind
        exact ⟨r, hmem, hid⟩

/-! ### The lease -/

/-- `(SELECT id FROM worker_pool WHERE is_default LIMIT 1)`. -/
def defaultPool (db : DB) : Option UUID := (db.pools.rows.find? (·.isDefault)).map (·.id)

/-- `COALESCE($3, default pool)`: a worker with no pool counts as the default pool. -/
def effectivePool (db : DB) (poolID : Option UUID) : Option UUID := poolID.or (defaultPool db)

/-- The company a task's run belongs to. -/
def scopeOfTask (db : DB) (t : ScanTask) : Option UUID := (db.runs.find? t.runID).map (·.scopeID)

/-- How many tasks of a company are in flight. -/
def companyInFlight (db : DB) (scopeID : UUID) : Nat :=
  db.tasks.rows.countP fun t => t.status.inFlight && scopeOfTask db t == some scopeID

/-- How many tasks in flight share a run target with `t`. -/
def siblingsInFlight (db : DB) (t : ScanTask) : Nat :=
  db.tasks.rows.countP fun t₂ => t₂.status.inFlight &&
    db.taskOrigins.any fun a => db.taskOrigins.any fun b =>
      a.runTargetID == b.runTargetID && a.taskID == t.id && b.taskID == t₂.id

/-- The `WHERE` of the lease's inner query. -/
def leasable (db : DB) (caps : List String) (poolID : Option UUID) (only : StageFilter)
    (perCompany : Int) (t : ScanTask) : Bool :=
  t.status == .pending && t.requires.all (caps.contains ·) &&
  t.poolID.isSome && t.poolID == effectivePool db poolID &&
  only.admits t.stage &&
  match db.runs.find? t.runID with
  | none => false
  | some r => r.status == .running &&
    (decide (perCompany ≤ 0) || decide ((companyInFlight db r.scopeID : Int) < perCompany))

/-- The `ORDER BY` of the lease's inner query. -/
def leaseBefore (db : DB) (t t' : ScanTask) : Bool :=
  let company := fun t : ScanTask => ((scopeOfTask db t).map (companyInFlight db)).getD 0
  if company t ≠ company t' then decide (company t < company t')
  else if siblingsInFlight db t ≠ siblingsInFlight db t' then
    decide (siblingsInFlight db t < siblingsInFlight db t')
  else if t.priority ≠ t'.priority then decide (t.priority < t'.priority)
  else decide (t.id ≤ t'.id)

/-- The tasks a lease claims, in the order of the inner query. -/
def leaseChoice (db : DB) (env : Env) (caps : List String) (poolID : Option UUID) (limit : Int)
    (only : StageFilter) (perCompany : Int) : List UUID :=
  (((db.tasks.rows.filter fun t =>
      leasable db caps poolID only perCompany t && !env.locked.contains t.id).insertionSort
    fun t t' => leaseBefore db t t' = true).take limit.toNat).map (·.id)

theorem leaseChoice_eq_nil {env : Env} {caps : List String} {poolID : Option UUID} {limit : Int}
    {only : StageFilter} {perCompany : Int}
    (h : (limit ≤ 0 || (leaseChoice db env caps poolID limit only perCompany).isEmpty) = true) :
    leaseChoice db env caps poolID limit only perCompany = [] := by
  rcases Bool.or_eq_true_iff.mp h with hlim | hnil
  · have : limit.toNat = 0 := by simpa using hlim
    simp [leaseChoice, this]
  · exact List.isEmpty_iff.mp hnil

theorem leasable_of_mem_leaseChoice {env : Env} {caps : List String} {poolID : Option UUID}
    {limit : Int} {only : StageFilter} {perCompany : Int} (ht : t ∈ db.tasks.rows)
    (h : t.id ∈ leaseChoice db env caps poolID limit only perCompany) :
    leasable db caps poolID only perCompany t = true := by
  obtain ⟨t', ht', hid⟩ := List.mem_map.mp h
  have hmem := (List.mem_insertionSort _).mp (List.mem_of_mem_take ht')
  obtain ⟨hrow, hadm⟩ := List.mem_filter.mp hmem
  rw [Lib.Table.eq_of_key ht hrow hid.symm]
  exact (Bool.and_eq_true_iff.mp hadm).1

/-- The targets of the job a task becomes: a batch is one target an address. -/
def jobTargets (tgt : Target) : List Target :=
  if tgt.ips.isEmpty then [tgt] else tgt.ips.map fun ip => { ip := ip, ports := tgt.ports }

/-- The job of a leased row. -/
def jobOf (t : ScanTask) : Option Job := t.leaseToken.map fun tok =>
  { taskID := t.id, runID := t.runID, leaseToken := tok, stage := t.stage,
    targets := jobTargets t.target }

/-- The columns a lease sets. -/
def leaseRow (db : DB) (env : Env) (workerID : UUID) (secs : Int) (chosen : List UUID)
    (t : ScanTask) : ScanTask :=
  { t with
    status := .leased
    workerID := some workerID
    workerName := (db.workers.find? workerID).map (·.name)
    workerKind := (db.workers.find? workerID).map (·.kind)
    leaseToken := some (db.nextToken + chosen.idxOf t.id)
    leaseExpiresAt := some (env.now + secs)
    attempts := t.attempts + 1
    startedAt := some env.now }

/-- `FailTask` on a row: back to the queue while attempts remain. -/
def failRow (msg : String) (t : ScanTask) : ScanTask :=
  let last := decide (t.maxAttempts ≤ t.attempts)
  { t with
    status := if last then .failed else .pending
    error := some msg
    leaseToken := none, workerID := none, leaseExpiresAt := none
    workerName := if last then t.workerName else none
    workerKind := if last then t.workerKind else none }

/-- `ReapExpiredLeases` on a row. -/
def reapRow (t : ScanTask) : ScanTask :=
  let last := decide (t.maxAttempts ≤ t.attempts)
  { t with
    status := if last then .failed else .pending
    leaseToken := none, workerID := none, leaseExpiresAt := none
    workerName := if last then t.workerName else none
    workerKind := if last then t.workerKind else none
    error := some (t.error.getD "" ++ " [lease expired]") }

/-- The rows `ReadoptTask` may give back: re-queued by the reaper and not taken since. -/
def readoptable (taskID : UUID) (t : ScanTask) : Bool :=
  t.id == taskID && t.status == .pending && t.leaseToken.isNone &&
    t.error.any (likeInfix "[lease expired]")

/-- `CompleteTask` counts the task on the run targets it serves. -/
def bumpDone (db : DB) (taskID : UUID) : Lib.Table RunTarget RunTarget.id :=
  db.runTargets.update (fun r => db.taskOrigins.contains ⟨taskID, r.id⟩)
    fun r => { r with tasksDone := r.tasksDone + 1 }

/-- The `WHERE` of the statements that act under a lease: the token matches and the task is held. -/
def heldUnder (taskID tok : UUID) (t : ScanTask) : Bool :=
  t.id == taskID && t.leaseToken == some tok && t.status.inFlight

/-- Whether the reaper takes a row: held, past its expiry, and not locked by another. -/
def expired (env : Env) (t : ScanTask) : Bool :=
  t.status.inFlight && t.leaseExpiresAt.any (fun x => decide (x < env.now)) &&
    !env.locked.contains t.id

/-! ### What the planner reads -/

def runProgress (runID : UUID) (db : DB) : RunProgress :=
  let ts := db.tasks.rows.filter (·.runID == runID)
  { total := ts.length
    done := ts.countP (·.status == .done)
    failed := ts.countP (·.status == .failed)
    outstanding := ts.countP (·.status.outstanding) }

def tasksByStage (runID : UUID) (stage : Stage) (db : DB) : List TaskRow :=
  (db.tasks.rows.filter fun t => t.runID == runID && t.stage == stage).map fun t =>
    ⟨t.id, t.stage, t.status, t.result⟩

def stageOutstanding (runID : UUID) (stages : List Stage) (db : DB) : Nat :=
  db.tasks.rows.countP fun t => t.runID == runID && stages.contains t.stage && t.status.outstanding

def stageExists (runID : UUID) (stage : Stage) (db : DB) : Bool :=
  db.tasks.rows.any fun t => t.runID == runID && t.stage == stage

def originsForTask (taskID : UUID) (db : DB) : List UUID :=
  (db.taskOrigins.filter (·.taskID == taskID)).map (·.runTargetID)

/-- The addresses a task's target names, batched or single. -/
def targetAddresses (tgt : Target) : List String :=
  tgt.ips ++ if tgt.ip = "" then [] else [tgt.ip]

/-- `ScannedAddresses`: every address that has a port-scan task in the run. -/
def scannedAddresses (runID : UUID) (db : DB) : List String :=
  (db.tasks.rows.filter fun t => t.runID == runID && t.stage == .portScan).flatMap fun t =>
    targetAddresses t.target

/-- `ProbedEndpoints`. A probe without a port has no `port` key in its target, so the text of its
endpoint is NULL and reading it fails. -/
def probedEndpoints (runID : UUID) (db : DB) : Option (List String) :=
  let ts := db.tasks.rows.filter fun t =>
    t.runID == runID && t.stage == .serviceProbe && t.target.ip != ""
  if ts.any (·.target.port == 0) then none
  else some (ts.map fun t => endpointKey t.target.ip t.target.port)

/-- `loadTask` of the gateway: the task, if this worker holds it under this token. -/
def loadTask (taskID workerID tok : UUID) (db : DB) : Option TaskInfo :=
  (db.tasks.rows.find? fun t => heldUnder taskID tok t && t.workerID == some workerID).map fun t =>
    ⟨t.runID, t.stage, t.target⟩

end Store

/-! ### The statements -/

/-- The statements on `scan_task`. -/
inductive TaskStmt : Type → Type
  | insertTasks (runID : UUID) (specs : List TaskSpec) : TaskStmt (List UUID)
  | bruteRoom (workerID : UUID) (limit : Int) : TaskStmt Int
  | leaseTasksWhere (workerID : UUID) (caps : List String) (poolID : Option UUID)
      (limit secs : Int) (only : StageFilter) (perCompany : Int) : TaskStmt (List Job)
  | extendLeaseForWorker (taskID workerID : UUID) (secs : Int) : TaskStmt Bool
  | extendLease (taskID tok : UUID) (secs : Int) : TaskStmt Unit
  | completeTask (taskID tok : UUID) : TaskStmt Unit
  | failTask (taskID tok : UUID) (msg : String) : TaskStmt Unit
  | failTaskPermanently (taskID tok : UUID) (msg : String) : TaskStmt Unit
  | readoptTask (taskID workerID tok : UUID) (secs : Int) : TaskStmt Bool
  | reapExpiredLeases : TaskStmt (List UUID)
  | releaseWorkerLeases (workerID : UUID) : TaskStmt Nat
  | cancelRunTasks (runID : UUID) : TaskStmt Unit
  | runProgress (runID : UUID) : TaskStmt RunProgress
  | tasksByStage (runID : UUID) (stage : Stage) : TaskStmt (List TaskRow)
  | stageOutstanding (runID : UUID) (stages : List Stage) : TaskStmt Nat
  | stageExists (runID : UUID) (stage : Stage) : TaskStmt Bool
  | setTaskResult (taskID : UUID) (summary : StageSummary) : TaskStmt Unit
  | originsForTask (taskID : UUID) : TaskStmt (List UUID)
  | scannedAddresses (runID : UUID) : TaskStmt (List String)
  | probedEndpoints (runID : UUID) : TaskStmt (List String)
  | taskResult (taskID : UUID) : TaskStmt (Option StageSummary)
  | loadTask (taskID workerID tok : UUID) : TaskStmt TaskInfo

namespace TaskStmt

open Store

variable {β : Type}

/-- The rows a statement updates. -/
def selects (env : Env) (db : DB) : TaskStmt β → ScanTask → Bool
  | leaseTasksWhere _ caps poolID limit _ only perCompany, t =>
    (leaseChoice db env caps poolID limit only perCompany).contains t.id
  | extendLeaseForWorker taskID workerID _, t =>
    t.id == taskID && t.workerID == some workerID && t.status.inFlight
  | extendLease taskID tok _, t => heldUnder taskID tok t
  | completeTask taskID tok, t => heldUnder taskID tok t
  | failTask taskID tok _, t => t.id == taskID && t.leaseToken == some tok
  | failTaskPermanently taskID tok _, t => t.id == taskID && t.leaseToken == some tok
  | readoptTask taskID _ _ _, t => readoptable taskID t
  | reapExpiredLeases, t => expired env t
  | releaseWorkerLeases workerID, t => t.workerID == some workerID && t.status.inFlight
  | cancelRunTasks runID, t => t.runID == runID && t.status.outstanding
  | setTaskResult taskID _, t => t.id == taskID
  | _, _ => false

/-- What a statement sets on the rows it selects. -/
def sets (env : Env) (db : DB) : TaskStmt β → ScanTask → ScanTask
  | leaseTasksWhere workerID caps poolID limit secs only perCompany, t =>
    leaseRow db env workerID secs (leaseChoice db env caps poolID limit only perCompany) t
  | extendLeaseForWorker _ _ secs, t =>
    { t with leaseExpiresAt := some (env.now + secs), status := .running }
  | extendLease _ _ secs, t =>
    { t with leaseExpiresAt := some (env.now + secs), status := .running }
  | completeTask _ _, t => { t with status := .done, finishedAt := some env.now }
  | failTask _ _ msg, t => failRow msg t
  | failTaskPermanently _ _ msg, t =>
    { t with
      status := .failed, error := some msg, leaseToken := none, workerID := none
      leaseExpiresAt := none, finishedAt := some env.now }
  | readoptTask _ workerID tok secs, t =>
    { t with
      status := .running, workerID := some workerID, leaseToken := some tok
      leaseExpiresAt := some (env.now + secs)
      workerName := (db.workers.find? workerID).map (·.name)
      workerKind := (db.workers.find? workerID).map (·.kind) }
  | reapExpiredLeases, t => reapRow t
  | releaseWorkerLeases _, t =>
    { t with status := .pending, leaseToken := none, workerID := none, leaseExpiresAt := none }
  | cancelRunTasks _, t => { t with status := .cancelled }
  | setTaskResult _ summary, t => { t with result := some summary }
  | _, t => t

theorem sets_id (env : Env) (db : DB) (s : TaskStmt β) (t : ScanTask) :
    (s.sets env db t).id = t.id := by
  cases s <;> rfl

/-- `UPDATE scan_task SET … WHERE …`, as the statement's own selection and assignments. -/
def updated (env : Env) (db : DB) (s : TaskStmt β) : Lib.Table ScanTask ScanTask.id :=
  db.tasks.update (s.selects env db) (s.sets env db) (s.sets_id env db)

/-- How many rows a statement updates. -/
def affected (env : Env) (db : DB) (s : TaskStmt β) : Nat :=
  db.tasks.rows.countP (s.selects env db)

/-- What a statement answers and does. -/
def exec (env : Env) (db : DB) : TaskStmt β → Option (β × DB)
  | insertTasks runID specs => Store.insertTasks runID specs db
  | bruteRoom workerID limit => some (limit - (db.tasks.rows.countP fun t =>
      t.workerID == some workerID && t.stage == .dnsBrute && t.status.inFlight : Nat), db)
  | s@(leaseTasksWhere workerID caps poolID limit _ only perCompany) =>
    let chosen := leaseChoice db env caps poolID limit only perCompany
    if limit ≤ 0 || chosen.isEmpty then some ([], db)
    -- the row's `worker_id` would name no worker
    else if (db.workers.find? workerID).isNone then none
    else some (((s.updated env db).rows.filter fun t => chosen.contains t.id).filterMap jobOf,
      { db with tasks := s.updated env db, nextToken := db.nextToken + chosen.length })
  | s@(extendLeaseForWorker _ _ _) =>
    some (decide (0 < s.affected env db), { db with tasks := s.updated env db })
  | s@(extendLease _ _ _) => some ((), { db with tasks := s.updated env db })
  | s@(completeTask taskID _) =>
    if s.affected env db = 0 then some ((), db)
    else some ((), { db with tasks := s.updated env db, runTargets := bumpDone db taskID })
  | s@(failTask _ _ _) => some ((), { db with tasks := s.updated env db })
  | s@(failTaskPermanently _ _ _) => some ((), { db with tasks := s.updated env db })
  | s@(readoptTask _ workerID _ _) =>
    if s.affected env db = 0 then some (false, db)
    else if (db.workers.find? workerID).isNone then none
    else some (true, { db with tasks := s.updated env db })
  | s@reapExpiredLeases => some ((db.tasks.rows.filter (s.selects env db)).map (·.id),
      { db with tasks := s.updated env db })
  | s@(releaseWorkerLeases _) => some (s.affected env db, { db with tasks := s.updated env db })
  | s@(cancelRunTasks _) => some ((), { db with tasks := s.updated env db })
  | runProgress runID => some (Store.runProgress runID db, db)
  | tasksByStage runID stage => some (Store.tasksByStage runID stage db, db)
  | stageOutstanding runID stages => some (Store.stageOutstanding runID stages db, db)
  | stageExists runID stage => some (Store.stageExists runID stage db, db)
  | s@(setTaskResult _ _) => some ((), { db with tasks := s.updated env db })
  | originsForTask taskID => some (Store.originsForTask taskID db, db)
  | scannedAddresses runID => some (Store.scannedAddresses runID db, db)
  | probedEndpoints runID => (Store.probedEndpoints runID db).map (·, db)
  | taskResult taskID => (db.tasks.find? taskID).map fun t => (t.result, db)
  | loadTask taskID workerID tok => (Store.loadTask taskID workerID tok db).map (·, db)

/-! ### What a statement does to the task rows -/

/-- The row map of a statement. -/
def onTask (env : Env) (db : DB) (s : TaskStmt β) (t : ScanTask) : ScanTask :=
  if s.selects env db t then s.sets env db t else t

/-- The rows a statement inserts. -/
def inserted (db : DB) : TaskStmt β → List ScanTask
  | insertTasks runID specs => newTasks runID specs db.tasks.next
  | _ => []

variable {env : Env} {db db' : DB} {t : ScanTask}

theorem onTask_selected {s : TaskStmt β} (h : s.selects env db t = true) :
    s.onTask env db t = s.sets env db t := if_pos h

theorem onTask_unselected {s : TaskStmt β} (h : ¬ s.selects env db t = true) :
    s.onTask env db t = t := if_neg h

theorem rows_updated (env : Env) (db : DB) (s : TaskStmt β) :
    (s.updated env db).rows = db.tasks.rows.map (s.onTask env db) := rfl

theorem updated_eq_self {s : TaskStmt β} (h : s.affected env db = 0) :
    s.updated env db = db.tasks :=
  Lib.Table.update_eq_self fun t ht hsel => absurd hsel (List.countP_eq_zero.mp h t ht)

/-- The statement plans tasks. -/
def plans : TaskStmt β → Bool
  | insertTasks _ _ => true
  | _ => false

/-- The statement plans tasks or completes one. -/
def counts : TaskStmt β → Bool
  | insertTasks _ _ | completeTask _ _ => true
  | _ => false

theorem plans_of_counts {s : TaskStmt β} (h : s.counts = false) : s.plans = false := by
  cases s with
  | insertTasks => cases h
  | _ => rfl

/-- **What a statement that plans nothing does**: it updates the rows it selects, and the targets'
counters if it completes a task. -/
theorem exec_updated {s : TaskStmt β} {b : β} (hs : s.plans = false)
    (h : s.exec env db = some (b, db')) : ∃ rts tok,
      db' = { db with tasks := s.updated env db, runTargets := rts, nextToken := tok } ∧
        (s.counts = false → rts = db.runTargets) := by
  have hread : (∀ t, s.selects env db t = false) → s.updated env db = db.tasks := fun hsel =>
    updated_eq_self (List.countP_eq_zero.mpr fun t _ => by simp [hsel])
  -- a statement that selects nothing leaves the database as it is
  have hsame : s.updated env db = db.tasks → ∃ rts tok,
      db = { db with tasks := s.updated env db, runTargets := rts, nextToken := tok } ∧
        (s.counts = false → rts = db.runTargets) :=
    fun hnone => ⟨db.runTargets, db.nextToken, by rw [hnone], fun _ => rfl⟩
  cases s with
  | insertTasks => cases hs
  | leaseTasksWhere =>
    simp only [exec] at h
    split at h
    · rename_i hnone
      cases h
      have hchoice := leaseChoice_eq_nil hnone
      exact hsame (hread fun t => by simp [selects, hchoice])
    · split at h <;> cases h
      exact ⟨_, _, rfl, fun _ => rfl⟩
  | completeTask =>
    simp only [exec] at h
    split at h <;> cases h
    · rename_i hnone
      exact hsame (updated_eq_self hnone)
    · exact ⟨_, _, rfl, nofun⟩
  | readoptTask =>
    simp only [exec] at h
    split at h
    · rename_i hnone
      cases h
      exact hsame (updated_eq_self hnone)
    · split at h <;> cases h
      exact ⟨_, _, rfl, fun _ => rfl⟩
  | probedEndpoints | taskResult | loadTask =>
    obtain ⟨_, _, hdb⟩ := Option.map_eq_some_iff.mp h
    cases hdb
    exact hsame (hread fun _ => rfl)
  | bruteRoom | runProgress | tasksByStage | stageOutstanding | stageExists | originsForTask
  | scannedAddresses =>
    cases h
    exact hsame (hread fun _ => rfl)
  | _ =>
    cases h
    exact ⟨_, _, rfl, fun _ => rfl⟩

/-- **The rows after a statement**: the mapped rows, then the inserted ones. -/
theorem exec_tasks {s : TaskStmt β} {b : β} (h : s.exec env db = some (b, db')) :
    db'.tasks.rows = db.tasks.rows.map (s.onTask env db) ++ s.inserted db := by
  cases hs : s.plans with
  | true =>
    cases s with
    | insertTasks runID specs =>
      have hnone : (insertTasks runID specs).updated env db = db.tasks :=
        updated_eq_self (List.countP_eq_zero.mpr fun _ _ => Bool.false_ne_true)
      rw [← rows_updated, hnone]
      exact insertTasks_rows h
    | _ => cases hs
  | false =>
    obtain ⟨_, _, rfl, -⟩ := exec_updated hs h
    cases s with
    | insertTasks => cases hs
    | _ => exact (List.append_nil _).symm

/-- The tables a statement on tasks can change: tasks, their origins and the targets' counters. -/
theorem exec_frame {s : TaskStmt β} {b : β} (h : s.exec env db = some (b, db')) :
    db' = { db with
      tasks := db'.tasks, taskOrigins := db'.taskOrigins, runTargets := db'.runTargets
      nextToken := db'.nextToken } := by
  cases hs : s.plans with
  | true =>
    cases s with
    | insertTasks runID specs =>
      obtain ⟨d, hd, hids⟩ := Option.map_eq_some_iff.mp h
      cases hids
      have hframe := (insertBatch_frame hd).1
      have htok : db'.nextToken = db.nextToken := by rw [hframe]
      rw [htok]
      exact hframe
    | _ => cases hs
  | false =>
    obtain ⟨_, _, rfl, -⟩ := exec_updated hs h
    rfl

theorem mem_exec_tasks {s : TaskStmt β} {b : β} (h : s.exec env db = some (b, db'))
    (ht : t ∈ db'.tasks.rows) :
    (∃ t₀ ∈ db.tasks.rows, t = s.onTask env db t₀) ∨ t ∈ s.inserted db := by
  rw [exec_tasks h, List.mem_append, List.mem_map] at ht
  rcases ht with ⟨t₀, ht₀, rfl⟩ | ht
  · exact .inl ⟨t₀, ht₀, rfl⟩
  · exact .inr ht

/-- **No statement touches what a task is**: its run, its stage, its target, its pool and what it
requires stay as they were planned. -/
theorem onTask_fixed (env : Env) (db : DB) (s : TaskStmt β) (t : ScanTask) :
    (s.onTask env db t).id = t.id ∧ (s.onTask env db t).runID = t.runID ∧
    (s.onTask env db t).stage = t.stage ∧ (s.onTask env db t).target = t.target ∧
    (s.onTask env db t).poolID = t.poolID ∧ (s.onTask env db t).requires = t.requires := by
  rw [onTask]
  split
  · cases s <;> exact ⟨rfl, rfl, rfl, rfl, rfl, rfl⟩
  · exact ⟨rfl, rfl, rfl, rfl, rfl, rfl⟩

/-- The task whose summary a statement writes, and the summary. -/
def stored : TaskStmt β → Option (UUID × StageSummary)
  | setTaskResult taskID summary => some (taskID, summary)
  | _ => none

theorem onTask_result (env : Env) (db : DB) (s : TaskStmt β) (t : ScanTask) :
    (s.onTask env db t).result = t.result ∨
      ∃ summary, s.stored = some (t.id, summary) ∧ (s.onTask env db t).result = some summary := by
  rw [onTask]
  split
  · rename_i hsel
    cases s with
    | setTaskResult taskID summary =>
      have hid : t.id = taskID := beq_iff_eq.mp hsel
      exact .inr ⟨summary, by rw [hid]; rfl, rfl⟩
    | _ => exact .inl rfl
  · exact .inl rfl

/-- **The jobs of a lease are the claimed tasks**, as the lease leaves them. -/
theorem mem_lease_jobs {workerID : UUID} {caps : List String} {poolID : Option UUID}
    {limit secs : Int} {only : StageFilter} {perCompany : Int} {jobs : List Job} {j : Job}
    (h : (leaseTasksWhere workerID caps poolID limit secs only perCompany).exec env db =
      some (jobs, db')) :
    j ∈ jobs ↔ ∃ t ∈ db.tasks.rows,
      t.id ∈ leaseChoice db env caps poolID limit only perCompany ∧
      jobOf (leaseRow db env workerID secs
        (leaseChoice db env caps poolID limit only perCompany) t) = some j := by
  simp only [exec] at h
  split at h
  · rename_i hnone
    cases h
    simp [leaseChoice_eq_nil hnone]
  · split at h
    · cases h
    · cases h
      simp only [List.mem_filterMap, List.mem_filter, rows_updated, List.mem_map]
      have hon : ∀ t : ScanTask, t.id ∈ leaseChoice db env caps poolID limit only perCompany →
          (leaseTasksWhere workerID caps poolID limit secs only perCompany).onTask env db t =
            leaseRow db env workerID secs
              (leaseChoice db env caps poolID limit only perCompany) t :=
        fun t ht => onTask_selected (show selects env db _ t = true from
          List.contains_iff_mem.mpr ht)
      constructor
      -- the returned rows are those the update has selected
      · rintro ⟨_, ⟨⟨t, ht, rfl⟩, hsel⟩, hjob⟩
        have hmem : t.id ∈ leaseChoice db env caps poolID limit only perCompany := by
          rw [(onTask_fixed env db _ t).1] at hsel
          exact List.contains_iff_mem.mp hsel
        refine ⟨t, ht, hmem, ?_⟩
        rwa [hon t hmem] at hjob
      · rintro ⟨t, ht, hmem, hjob⟩
        refine ⟨_, ⟨⟨t, ht, rfl⟩, ?_⟩, ?_⟩
        · rw [(onTask_fixed env db _ t).1]
          exact List.contains_iff_mem.mpr hmem
        · rw [hon t hmem]
          exact hjob

theorem lease_worker {workerID : UUID} {caps : List String} {poolID : Option UUID}
    {limit secs : Int} {only : StageFilter} {perCompany : Int} {jobs : List Job}
    (h : (leaseTasksWhere workerID caps poolID limit secs only perCompany).exec env db =
      some (jobs, db')) (ht : t.id ∈ leaseChoice db env caps poolID limit only perCompany) :
    ∃ w, db.workers.find? workerID = some w := by
  simp only [exec] at h
  split at h
  · rename_i hnone
    rw [leaseChoice_eq_nil hnone] at ht
    cases ht
  · split at h
    · cases h
    · rename_i hw
      exact Option.ne_none_iff_exists'.mp (by simpa using hw)

/-! ### Who finishes a task -/

/-- The task a statement completes. -/
def finishes : TaskStmt β → Option UUID
  | completeTask taskID _ => some taskID
  | _ => none

theorem onTask_finishes {s : TaskStmt β} (h : (s.onTask env db t).status = .done) :
    t.status = .done ∨ s.finishes = some t.id := by
  rw [onTask] at h
  split at h
  · rename_i hsel
    cases s with
    | completeTask taskID tok =>
      have hid : t.id = taskID := by
        simp [selects, heldUnder] at hsel
        exact hsel.1.1
      exact .inr (by rw [hid]; rfl)
    | failTask taskID tok msg =>
      simp only [sets, failRow] at h
      split at h <;> cases h
    | reapExpiredLeases =>
      simp only [sets, reapRow] at h
      split at h <;> cases h
    | leaseTasksWhere | extendLeaseForWorker | extendLease | failTaskPermanently | readoptTask
    | releaseWorkerLeases | cancelRunTasks => cases h
    | _ => exact .inl h
  · exact .inl h

/-! ### Who holds a task -/

/-- The worker a statement gives a row to. -/
def gives (env : Env) (db : DB) (s : TaskStmt β) (t : ScanTask) : Option UUID :=
  match s with
  | leaseTasksWhere workerID _ _ _ _ _ _ => if s.selects env db t then some workerID else none
  | readoptTask _ workerID _ _ => if s.selects env db t then some workerID else none
  | _ => none

/-- A task in flight was held by the same worker before, or is given to it now. -/
theorem onTask_holder {s : TaskStmt β} {id : UUID}
    (hflight : (s.onTask env db t).status.inFlight = true)
    (hholder : (s.onTask env db t).workerID = some id) :
    (t.status.inFlight = true ∧ t.workerID = some id) ∨ s.gives env db t = some id := by
  by_cases hsel : s.selects env db t = true
  · rw [onTask_selected hsel] at hflight hholder
    cases s with
    | leaseTasksWhere | readoptTask =>
      refine .inr ?_
      simp only [gives, hsel, if_true]
      exact hholder
    | extendLeaseForWorker =>
      simp only [selects, Bool.and_eq_true] at hsel
      exact .inl ⟨hsel.2, hholder⟩
    | extendLease =>
      simp only [selects, Store.heldUnder, Bool.and_eq_true] at hsel
      exact .inl ⟨hsel.2, hholder⟩
    | failTask | reapExpiredLeases | failTaskPermanently | releaseWorkerLeases => cases hholder
    | completeTask | cancelRunTasks => cases hflight
    | _ => exact .inl ⟨hflight, hholder⟩
  · rw [onTask_unselected hsel] at hflight hholder
    exact .inl ⟨hflight, hholder⟩

theorem inserted_pending {s : TaskStmt β} (ht : t ∈ s.inserted db) : t.status.inFlight = false := by
  cases s with
  | insertTasks runID specs =>
    obtain ⟨spec, _, id, rfl⟩ := mem_newTasks ht
    rfl
  | _ => cases ht

end TaskStmt

end PinkGlasses
