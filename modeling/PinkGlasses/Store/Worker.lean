import Mathlib.Data.List.Find
import PinkGlasses.Store.Task

/-!
# PinkGlasses.Store.Worker

The statements of `internal/store/worker.go` and `internal/store/pool.go`: enrolment tokens,
the worker rows and their status, and the pools. A worker's pool, kind and capabilities are
written once, by `createWorker`; the statements on a worker's status and presence leave them as they
are (`WorkerStmt.exec_workers`), and a deleted pool clears them through its foreign key.
-/

namespace PinkGlasses

/-- `store.Enrollment`: what a redeemed token grants. -/
structure Enrollment where
  poolID : Option UUID
  kind : WorkerKind
  preapproved : Bool
deriving Repr, DecidableEq

/-- What `GetExitPool` reads of a pool. -/
structure ExitPool where
  id : UUID
  name : String
  /-- Its active workers that are not of kind `local`. -/
  activeWorkers : Nat
deriving Repr, DecidableEq

/-- `store.WorkerStaleAfter`, in seconds. -/
def workerStaleAfter : Int := 90

namespace Store

/-- The tokens a redemption takes a use of. -/
def redeemable (env : Env) (hash : String) (t : EnrollmentToken) : Bool :=
  t.tokenHash == hash && t.revokedAt.isNone && decide (env.now < t.expiresAt) &&
    decide (t.uses < t.maxUses)

/-- `last_seen_at < now() - cutoff`. -/
def unseenFor (env : Env) (cutoff : Int) (w : Worker) : Bool :=
  w.lastSeenAt.any fun x => decide (x < env.now - cutoff)

/-- The rows `PruneReplacedWorker` removes. -/
def replaced (env : Env) (name : String) (kind : WorkerKind) (w : Worker) : Bool :=
  w.name == name && w.kind == kind &&
    (w.status == .stale || w.status == .pending ||
      (w.status == .active && unseenFor env workerStaleAfter w))

/-- `DELETE FROM worker WHERE …`: the tasks of a deleted worker lose their `worker_id`. -/
def deleteWorkers (p : Worker → Bool) (db : DB) : DB :=
  { db with
    workers := db.workers.delete p
    tasks := db.tasks.update (fun t => db.workers.refers p t.workerID)
      fun t => { t with workerID := none } }

/-- `DELETE FROM worker_pool WHERE …`, with every reference to a deleted pool set to NULL. -/
def deletePools (p : WorkerPool → Bool) (db : DB) : DB :=
  let gone := db.pools.refers p
  { db with
    pools := db.pools.delete p
    workers := db.workers.update (fun w => gone w.poolID) fun w => { w with poolID := none }
    enrollmentTokens := db.enrollmentTokens.update (fun t => gone t.poolID)
      fun t => { t with poolID := none }
    runs := db.runs.update (fun r => gone r.poolID) fun r => { r with poolID := none }
    tasks := db.tasks.update (fun t => gone t.poolID) fun t => { t with poolID := none }
    fleets := db.fleets.map fun f => if gone f.poolID then { f with poolID := none } else f }

/-- The pool that takes discovery work, while it has an active worker. -/
def discoveryPool (db : DB) : Option UUID :=
  (((db.pools.rows.filter fun p => p.takesDiscovery && !p.runScoped &&
      db.workers.rows.any fun w => w.poolID == some p.id && w.status == .active).insertionSort
    fun p q => p.name ≤ q.name).head?).map (·.id)

def poolByName (name : String) (db : DB) : Option UUID :=
  (db.pools.rows.find? (·.name == name)).map (·.id)

def getExitPool (id : UUID) (db : DB) : Option ExitPool :=
  (db.pools.rows.find? fun p => p.id == id && !p.runScoped).map fun p =>
    { id := p.id, name := p.name
      activeWorkers := db.workers.rows.countP fun w =>
        w.poolID == some p.id && w.status == .active && w.kind != .local }

end Store

/-- The statements on workers, enrolment tokens and pools. -/
inductive WorkerStmt : Type → Type
  /-- The row, or `none` for a worker that does not exist. -/
  | workerForAuth (id : UUID) : WorkerStmt (Option Worker)
  | setWorkerStatus (id : UUID) (status : WorkerStatus) : WorkerStmt Unit
  | touchWorker (id : UUID) : WorkerStmt Unit
  | setWorkerConcurrency (id : UUID) (n : Int) : WorkerStmt Bool
  | markStaleWorkers (cutoff : Int) : WorkerStmt Nat
  | reapStaleLocalWorkers (cutoff : Int) : WorkerStmt Nat
  | deleteWorker (id : UUID) : WorkerStmt Unit
  | reviveWorker (id : UUID) : WorkerStmt Unit
  | markWorkerDisconnected (id : UUID) : WorkerStmt Unit
  | pruneReplacedWorker (name : String) (kind : WorkerKind) : WorkerStmt Nat
  | redeemEnrollment (hash : String) : WorkerStmt (Option Enrollment)
  | createWorker (poolID : Option UUID) (name : String) (kind : WorkerKind)
      (capabilities : List String) (maxConcurrency : Int) (credHash : String)
      (status : WorkerStatus) : WorkerStmt UUID
  | createEnrollmentToken (hash : String) (poolID : Option UUID) (ttl maxUses : Int)
      (kind : WorkerKind) : WorkerStmt UUID
  | extendEnrollmentWindow (hash : String) (ttl : Int) : WorkerStmt Unit
  | discoveryPool : WorkerStmt UUID
  | poolByName (name : String) : WorkerStmt UUID
  | defaultPool : WorkerStmt UUID
  | getExitPool (id : UUID) : WorkerStmt ExitPool
  | createRunPool (name : String) : WorkerStmt UUID
  | deletePoolWorkers (poolID : UUID) : WorkerStmt Nat
  | deleteRunPool (poolID : UUID) : WorkerStmt Unit

namespace WorkerStmt

open Store

variable {β : Type}

/-- What a statement answers and does. -/
def exec (env : Env) (db : DB) : WorkerStmt β → Option (β × DB)
  | workerForAuth id => some (db.workers.find? id, db)
  | setWorkerStatus id status => some ((), { db with
      workers := db.workers.update (·.id == id) fun w => { w with status := status } })
  | touchWorker id => some ((), { db with
      workers := db.workers.update (·.id == id) fun w => { w with lastSeenAt := some env.now } })
  | setWorkerConcurrency id n =>
    some (db.workers.rows.any fun w => w.id == id && w.maxConcurrency != n, { db with
      workers := db.workers.update (fun w => w.id == id && w.maxConcurrency != n)
        fun w => { w with maxConcurrency := n } })
  | markStaleWorkers cutoff =>
    some (db.workers.rows.countP fun w => w.status == .active && unseenFor env cutoff w, { db with
      workers := db.workers.update (fun w => w.status == .active && unseenFor env cutoff w)
        fun w => { w with status := .stale } })
  | reapStaleLocalWorkers cutoff =>
    let p := fun w : Worker =>
        w.kind == .local && w.status != .quarantined && unseenFor env cutoff w
    some (db.workers.rows.countP p, deleteWorkers p db)
  | deleteWorker id => some ((), deleteWorkers (·.id == id) db)
  | reviveWorker id => some ((), { db with
      workers := db.workers.update (fun w => w.id == id && w.status == .stale)
        fun w => { w with status := .active, lastSeenAt := some env.now } })
  | markWorkerDisconnected id => some ((), { db with
      workers := db.workers.update (fun w => w.id == id && w.status == .active)
        fun w => { w with status := .stale } })
  | pruneReplacedWorker name kind =>
    if name = "" then some (0, db)
    else some (db.workers.rows.countP (replaced env name kind),
      deleteWorkers (replaced env name kind) db)
  | redeemEnrollment hash =>
    some ((db.enrollmentTokens.rows.find? (redeemable env hash)).map fun t =>
        ⟨t.poolID, t.kind, t.preapproved⟩, { db with
      enrollmentTokens := db.enrollmentTokens.update (redeemable env hash)
        fun t => { t with uses := t.uses + 1 } })
  | createWorker poolID name kind capabilities maxConcurrency credHash status =>
    if poolID.any fun p => (db.pools.find? p).isNone then none
    else some (db.workers.next, { db with
      workers := db.workers.insert fun id =>
        { id, poolID, name, kind, status, capabilities, maxConcurrency, credHash
          lastSeenAt := some env.now } })
  | createEnrollmentToken hash poolID ttl maxUses kind =>
    if (poolID.any fun p => (db.pools.find? p).isNone) ||
        db.enrollmentTokens.rows.any (·.tokenHash == hash) then none
    else some (db.enrollmentTokens.next, { db with
      enrollmentTokens := db.enrollmentTokens.insert fun id =>
        { id, poolID, tokenHash := hash, expiresAt := env.now + ttl, maxUses, kind } })
  | extendEnrollmentWindow hash ttl => some ((), { db with
      enrollmentTokens := db.enrollmentTokens.update
        (fun t => t.tokenHash == hash && t.revokedAt.isNone)
        fun t => { t with expiresAt := env.now + ttl } })
  | discoveryPool => (Store.discoveryPool db).map (·, db)
  | poolByName name => (Store.poolByName name db).map (·, db)
  | defaultPool => (Store.defaultPool db).map (·, db)
  | getExitPool id => (Store.getExitPool id db).map (·, db)
  | createRunPool name =>
    if db.pools.rows.any (·.name == name) then none
    else some (db.pools.next, { db with
      pools := db.pools.insert fun id => { id, name, runScoped := true } })
  | deletePoolWorkers poolID =>
    some (db.workers.rows.countP (·.poolID == some poolID),
      deleteWorkers (·.poolID == some poolID) db)
  | deleteRunPool poolID => some ((), deletePools (fun p => p.id == poolID && p.runScoped) db)

/-! ### What a statement does to tasks and workers -/

/-- A task that lost a reference to a deleted row, or none. -/
def Cleared (t t' : ScanTask) : Prop :=
  ∃ worker pool, t' = { t with workerID := worker, poolID := pool } ∧
    (worker = t.workerID ∨ worker = none) ∧ (pool = t.poolID ∨ pool = none)

theorem Cleared.refl (t : ScanTask) : Cleared t t := ⟨t.workerID, t.poolID, rfl, .inl rfl, .inl rfl⟩

theorem deleteWorkers_tasks (p : Worker → Bool) (db : DB) :
    ∃ g, (deleteWorkers p db).tasks.rows = db.tasks.rows.map g ∧ ∀ t, Cleared t (g t) := by
  refine ⟨_, rfl, fun t => ?_⟩
  split
  · exact ⟨none, t.poolID, rfl, .inr rfl, .inl rfl⟩
  · exact Cleared.refl t

theorem deletePools_tasks (p : WorkerPool → Bool) (db : DB) :
    ∃ g, (deletePools p db).tasks.rows = db.tasks.rows.map g ∧ ∀ t, Cleared t (g t) := by
  refine ⟨_, rfl, fun t => ?_⟩
  split
  · exact ⟨t.workerID, none, rfl, .inl rfl, .inr rfl⟩
  · exact Cleared.refl t

variable {env : Env} {db db' : DB} {e : Option (Option UUID × WorkerKind)} {d : Option UUID}
  {st : Option Worker → Option WorkerStatus}

/-- The pool a statement deletes. -/
def drops : WorkerStmt β → Option UUID
  | deleteRunPool poolID => some poolID
  | _ => none

/-- The pool a statement leaves a run with. -/
def poolAfter (db : DB) (s : WorkerStmt β) (r : ScanRun) : Option UUID :=
  match s.drops with
  | some poolID =>
    if db.pools.refers (fun p => p.id == poolID && p.runScoped) r.poolID then none else r.poolID
  | none => r.poolID

section Exec

variable {s : WorkerStmt β} {b : β} (h : s.exec env db = some (b, db'))

include h

/-- **What a statement on workers can do** to other tables than its own: it deletes workers, or a
run's own pool, or nothing. -/
theorem exec_cases :
    (s.drops = none ∧ (db' = { db with
      pools := db'.pools, workers := db'.workers, enrollmentTokens := db'.enrollmentTokens } ∨
        ∃ p, db' = deleteWorkers p db)) ∨
    ∃ poolID, s.drops = some poolID ∧
      db' = deletePools (fun p => p.id == poolID && p.runScoped) db := by
  cases s with
  | reapStaleLocalWorkers | deleteWorker | deletePoolWorkers =>
    cases h
    exact .inl ⟨rfl, .inr ⟨_, rfl⟩⟩
  | deleteRunPool poolID =>
    cases h
    exact .inr ⟨poolID, rfl, rfl⟩
  | pruneReplacedWorker =>
    simp only [exec] at h
    split at h <;> cases h
    · exact .inl ⟨rfl, .inl rfl⟩
    · exact .inl ⟨rfl, .inr ⟨_, rfl⟩⟩
  | createWorker | createEnrollmentToken | createRunPool =>
    simp only [exec] at h
    split at h <;> cases h
    exact .inl ⟨rfl, .inl rfl⟩
  | discoveryPool | poolByName | defaultPool | getExitPool =>
    obtain ⟨_, _, hdb⟩ := Option.map_eq_some_iff.mp h
    cases hdb
    exact .inl ⟨rfl, .inl rfl⟩
  | _ =>
    cases h
    exact .inl ⟨rfl, .inl rfl⟩

/-- **A statement on workers leaves a task as it is**, up to cleared references. -/
theorem exec_tasks : ∃ g, db'.tasks.rows = db.tasks.rows.map g ∧ ∀ t, Cleared t (g t) := by
  obtain ⟨-, heq | ⟨p, rfl⟩⟩ | ⟨poolID, -, rfl⟩ := exec_cases h
  · rw [heq]
    exact ⟨id, (List.map_id _).symm, Cleared.refl⟩
  · exact deleteWorkers_tasks p db
  · exact deletePools_tasks _ db

/-- **A statement on workers leaves a run as it is**, up to a cleared pool. -/
theorem exec_runs : ∃ g, db'.runs.rows = db.runs.rows.map g ∧
      ∀ r, g r = { r with poolID := s.poolAfter db r } := by
  obtain ⟨hdrops, heq | ⟨p, rfl⟩⟩ | ⟨poolID, hdrops, rfl⟩ := exec_cases h
  · rw [heq]
    exact ⟨id, (List.map_id _).symm, fun r => by rw [poolAfter, hdrops]; rfl⟩
  · exact ⟨id, (List.map_id _).symm, fun r => by rw [poolAfter, hdrops]; rfl⟩
  · refine ⟨_, rfl, fun r => ?_⟩
    rw [poolAfter, hdrops]
    dsimp only
    split <;> rfl

theorem exec_runs_next : db'.runs.next = db.runs.next := by
  obtain ⟨-, heq | ⟨p, rfl⟩⟩ | ⟨poolID, -, rfl⟩ := exec_cases h
  · rw [heq]
  · rfl
  · rfl

theorem exec_frame :
    db' = { db with
      pools := db'.pools, workers := db'.workers, enrollmentTokens := db'.enrollmentTokens
      runs := db'.runs, tasks := db'.tasks, fleets := db'.fleets } ∧
    db'.tasks.next = db.tasks.next := by
  obtain ⟨-, heq | ⟨p, rfl⟩⟩ | ⟨poolID, -, rfl⟩ := exec_cases h
  · rw [heq]
    exact ⟨rfl, rfl⟩
  · exact ⟨rfl, rfl⟩
  · exact ⟨rfl, rfl⟩

end Exec

/-! ### The registry -/

/-- The statements on workers that need no administrator. -/
def presence : WorkerStmt β → Bool
  | workerForAuth _ | touchWorker _ | setWorkerConcurrency _ _ | markStaleWorkers _
  | reviveWorker _ | markWorkerDisconnected _ => true
  | setWorkerStatus _ status => status == .quarantined
  | _ => false

/-- What decides the work a worker is given is the same. -/
structure SameWorker (w w' : Worker) : Prop where
  id : w'.id = w.id
  poolID : w'.poolID = w.poolID
  kind : w'.kind = w.kind
  capabilities : w'.capabilities = w.capabilities

theorem SameWorker.refl (w : Worker) : SameWorker w w := ⟨rfl, rfl, rfl, rfl⟩

theorem exec_workers {s : WorkerStmt β} {b : β} (h : s.exec env db = some (b, db'))
    (hs : s.presence = true) :
    db' = { db with workers := db'.workers } ∧
    ∃ g, db'.workers.rows = db.workers.rows.map g ∧ ∀ w, SameWorker w (g w) := by
  cases s with
  | workerForAuth id =>
    cases h
    exact ⟨rfl, _, (List.map_id _).symm, SameWorker.refl⟩
  | setWorkerStatus | touchWorker | setWorkerConcurrency | markStaleWorkers | reviveWorker
  | markWorkerDisconnected =>
    cases h
    refine ⟨rfl, _, rfl, fun w => ?_⟩
    split
    · exact ⟨rfl, rfl, rfl, rfl⟩
    · exact SameWorker.refl w
  | _ => cases hs

/-- The pool and the kind of the worker a statement enrols. -/
def enrols : WorkerStmt β → Option (Option UUID × WorkerKind)
  | createWorker poolID _ kind _ _ _ _ => some (poolID, kind)
  | _ => none

/-- The status of a worker after a statement, by its row before; of a new one if there is none. -/
def statusAfter (env : Env) : WorkerStmt β → Option Worker → Option WorkerStatus
  | setWorkerStatus id status, some w => some (if w.id == id then status else w.status)
  | markStaleWorkers cutoff, some w =>
    some (if w.status == .active && unseenFor env cutoff w then .stale else w.status)
  | reviveWorker id, some w => some (if w.id == id && w.status == .stale then .active else w.status)
  | markWorkerDisconnected id, some w =>
    some (if w.id == id && w.status == .active then .stale else w.status)
  | createWorker _ _ _ _ _ _ status, none => some status
  | _, w => w.map (·.status)

/-- **What becomes of the pools and the workers.** An operator's pool stays; a new pool is a run's
own. A worker keeps its kind, and its pool unless that is deleted. -/
structure RegistryStep (enrols : Option (Option UUID × WorkerKind)) (drops : Option UUID)
    (status : Option Worker → Option WorkerStatus) (db db' : DB) : Prop where
  pool_after : ∀ p ∈ db.pools.rows, p.runScoped = false → p ∈ db'.pools.rows
  pool_before : ∀ p ∈ db'.pools.rows,
    p ∈ db.pools.rows ∨ (p.id = db.pools.next ∧ p.runScoped = true ∧ p.isDefault = false)
  worker_before : ∀ w' ∈ db'.workers.rows,
    (∃ w ∈ db.workers.rows, w'.id = w.id ∧ status (some w) = some w'.status ∧ w'.kind = w.kind ∧
      (w'.poolID = w.poolID ∨ w'.poolID = none ∧ ∃ p, drops = some p ∧ w.poolID = some p ∧
        p < db.pools.next ∧ ∀ q ∈ db'.pools.rows, q.id ≠ p)) ∨
    (w'.id = db.workers.next ∧ status none = some w'.status ∧ enrols = some (w'.poolID, w'.kind))
  pools_next : db.pools.next ≤ db'.pools.next
  workers_next : db.workers.next ≤ db'.workers.next
  defaultPool : (∀ p ∈ db.pools.rows, p.runScoped = true → p.isDefault = false) →
    Store.defaultPool db' = Store.defaultPool db

/-- A statement that leaves the pools alone and at most changes a worker's status, or drops rows. -/
theorem RegistryStep.of_workers (hpools : db'.pools = db.pools)
    (hnext : db'.workers.next = db.workers.next)
    (hworkers : ∀ w' ∈ db'.workers.rows, ∃ w ∈ db.workers.rows, SameWorker w w' ∧
      st (some w) = some w'.status) : RegistryStep e d st db db' where
  pool_after p hp _ := hpools ▸ hp
  pool_before p hp := .inl (hpools ▸ hp)
  worker_before w' hw' := by
    obtain ⟨w, hw, hsame, hstatus⟩ := hworkers w' hw'
    exact .inl ⟨w, hw, hsame.id, hstatus, hsame.kind, .inl hsame.poolID⟩
  pools_next := by rw [hpools]
  workers_next := by rw [hnext]
  defaultPool _ := by rw [Store.defaultPool, Store.defaultPool, hpools]

theorem RegistryStep.of_delete (p : Worker → Bool) (db : DB) :
    RegistryStep e d (·.map (·.status)) db (deleteWorkers p db) :=
  .of_workers rfl rfl fun w' hw' => ⟨w', (Lib.Table.mem_delete.mp hw').1, .refl w', rfl⟩

theorem RegistryStep.of_drop (poolID : UUID) (db : DB) :
    RegistryStep e (some poolID) (·.map (·.status)) db
      (deletePools (fun p => p.id == poolID && p.runScoped) db) where
  pool_after p hp hscope := Lib.Table.mem_delete.mpr ⟨hp, by simp [hscope]⟩
  pool_before p hp := .inl (Lib.Table.mem_delete.mp hp).1
  worker_before w' hw' := by
    obtain ⟨w, hw, rfl⟩ := List.mem_map.mp hw'
    refine .inl ⟨w, hw, ?_⟩
    dsimp only
    split
    -- the worker's pool is the one that goes: the column is set to null
    · rename_i hgone
      obtain ⟨i, hi, hany⟩ : ∃ i, w.poolID = some i ∧ db.pools.rows.any
          (fun x => x.id == i && (x.id == poolID && x.runScoped)) = true := by
        cases hpool : w.poolID with
        | none => rw [hpool] at hgone; cases hgone
        | some i => rw [hpool] at hgone; exact ⟨i, rfl, hgone⟩
      obtain ⟨x, hx, hsel⟩ := List.any_eq_true.mp hany
      simp only [Bool.and_eq_true, beq_iff_eq] at hsel
      refine ⟨rfl, rfl, rfl, .inr ⟨rfl, poolID, rfl, ?_, ?_, fun q hq hid => ?_⟩⟩
      · rw [hi, ← hsel.1, hsel.2.1]
      · rw [← hsel.2.1]
        exact db.pools.bound x hx
      · obtain ⟨hq, hkeep⟩ := Lib.Table.mem_delete.mp hq
        have heq : q = x := Lib.Table.eq_of_key hq hx (hid.trans hsel.2.1.symm)
        rw [heq] at hkeep
        simp [hsel.2.1, hsel.2.2] at hkeep
    · exact ⟨rfl, rfl, rfl, .inl rfl⟩
  pools_next := Nat.le_refl _
  workers_next := Nat.le_refl _
  defaultPool hdefault := by
    unfold Store.defaultPool
    congr 1
    show (db.pools.rows.filter _).find? _ = _
    rw [List.find?_filter]
    -- the default pool is of no run, so the search finds it as before
    refine List.find?_congr fun p hp => ?_
    by_cases hscope : p.runScoped = true
    · simp [hdefault p hp hscope]
    · simp [hscope]

theorem exec_registry {s : WorkerStmt β} {b : β} (h : s.exec env db = some (b, db')) :
    RegistryStep s.enrols s.drops (s.statusAfter env) db db' := by
  have hsame : ∀ e d, RegistryStep e d (·.map (·.status)) db db :=
    fun e d => .of_workers rfl rfl fun w hw => ⟨w, hw, .refl w, rfl⟩
  cases s with
  | workerForAuth | redeemEnrollment | extendEnrollmentWindow =>
    cases h
    exact .of_workers rfl rfl fun w hw => ⟨w, hw, .refl w, rfl⟩
  | setWorkerStatus | touchWorker | setWorkerConcurrency | markStaleWorkers | reviveWorker
  | markWorkerDisconnected =>
    cases h
    refine .of_workers rfl rfl fun w' hw' => ?_
    obtain ⟨w, hw, rfl⟩ := List.mem_map.mp hw'
    refine ⟨w, hw, ?_⟩
    dsimp only [statusAfter]
    split
    · exact ⟨⟨rfl, rfl, rfl, rfl⟩, rfl⟩
    · exact ⟨.refl w, rfl⟩
  | reapStaleLocalWorkers | deleteWorker | deletePoolWorkers =>
    cases h
    exact .of_delete _ db
  | pruneReplacedWorker =>
    simp only [exec] at h
    split at h <;> cases h
    · exact hsame _ _
    · exact .of_delete _ db
  | deleteRunPool poolID =>
    cases h
    exact .of_drop poolID db
  | createWorker poolID name kind capabilities maxConcurrency credHash status =>
    simp only [exec] at h
    split at h
    · cases h
    · cases h
      refine ⟨fun _ hp _ => hp, fun _ hp => .inl hp, fun w' hw' => ?_, Nat.le_refl _, Nat.le_succ _,
        fun _ => rfl⟩
      rcases Lib.Table.mem_insert.mp hw' with hold | rfl
      · exact .inl ⟨w', hold, rfl, rfl, rfl, .inl rfl⟩
      · exact .inr ⟨rfl, rfl, rfl⟩
  | createRunPool name =>
    simp only [exec] at h
    split at h
    · cases h
    · cases h
      refine ⟨fun p hp _ => List.mem_append_left _ hp, fun p hp => ?_,
        fun w hw => .inl ⟨w, hw, rfl, rfl, rfl, .inl rfl⟩, Nat.le_succ _,
        Nat.le_refl _, fun _ => ?_⟩
      · rcases Lib.Table.mem_insert.mp hp with hold | rfl
        · exact .inl hold
        · exact .inr ⟨rfl, rfl, rfl⟩
      · unfold Store.defaultPool
        rw [Lib.Table.rows_insert, List.find?_append]
        simp
  | createEnrollmentToken =>
    simp only [exec] at h
    split at h
    · cases h
    · cases h
      exact .of_workers rfl rfl fun w hw => ⟨w, hw, .refl w, rfl⟩
  | discoveryPool | poolByName | defaultPool | getExitPool =>
    obtain ⟨_, _, hdb⟩ := Option.map_eq_some_iff.mp h
    cases hdb
    exact hsame _ _

end WorkerStmt

end PinkGlasses
