import PinkGlasses.GatewayTrace

/-!
# PinkGlasses.Lease.Holder

Who holds a task, and under which token.

The database keeps a task's current holder but not the history of its leases, so the system here
is the gateway **with a log of every lease issued** (`System.logged`). A task in flight should be
held by a worker of its pool that has what it requires, under a token the log shows was issued to
that worker for that task (`Held`).

A lease makes this so, and every later statement keeps it, **except `ReadoptTask`**: once the
reaper has re-queued a task, the token it ran under is gone, and the statement writes the worker
and the token it is given without anything to compare them with. Where each re-adoption carries a
lease that was issued (`ReadoptsOwn`), every task in flight is held as it should be, in every state
of every run (`in_flight_held`).
-/

namespace PinkGlasses

open Lib Store

variable {β : Type}

/-- One lease: `LeaseTasksWhere` gave the task to the worker under the token. -/
structure Issue where
  taskID : UUID
  workerID : UUID
  token : UUID
deriving Repr, DecidableEq

/-- The leases a statement issues, read off its answer. -/
def TaskStmt.issues : {β : Type} → TaskStmt β → β → List Issue
  | _, leaseTasksWhere workerID _ _ _ _ _ _, jobs =>
    jobs.map fun j => ⟨j.taskID, workerID, j.leaseToken⟩
  | _, _, _ => []

def Stmt.issues : {β : Type} → Stmt β → β → List Issue
  | _, task s, b => s.issues b
  | _, _, _ => []

/-- The gateway with the log of the leases it issued. -/
def leaseLog (cfg : GatewayConfig) (out : Outside) :
    System Stmt (DB × List Issue) Env GatewayRequest Nat :=
  (gatewaySystem cfg out).logged Stmt.issues

/-- The worker may be given the task: it is in the task's pool, where a worker without a pool counts
as the default pool, and has every capability the task requires. -/
structure Serves (db : DB) (w : Worker) (t : ScanTask) : Prop where
  pool : t.poolID.isSome = true ∧ t.poolID = effectivePool db w.poolID
  requires : ∀ cap ∈ t.requires, cap ∈ w.capabilities

/-- **How a task in flight is held.** -/
def Held (db : DB) (log : List Issue) (t : ScanTask) : Prop :=
  ∃ w ∈ db.workers.rows, t.workerID = some w.id ∧ Serves db w t ∧
    ∃ tok ∈ t.leaseToken, ⟨t.id, w.id, tok⟩ ∈ log

instance (db : DB) (w : Worker) (t : ScanTask) : Decidable (Serves db w t) :=
  decidable_of_iff (_ ∧ _) ⟨fun h => ⟨h.1, h.2⟩, fun h => ⟨h.1, h.2⟩⟩

deriving instance Decidable for Held

/-- Every task in flight is held as it should be. -/
def AllHeld (st : DB × List Issue) : Prop :=
  ∀ t ∈ st.1.tasks.rows, t.status.inFlight = true → Held st.1 st.2 t
deriving Decidable

/-- The worker and token a statement re-adopts a task for. -/
def TaskStmt.readopts : TaskStmt β → Option Issue
  | readoptTask taskID workerID tok _ => some ⟨taskID, workerID, tok⟩
  | _ => none

def Stmt.readopts : Stmt β → Option Issue
  | task s => s.readopts
  | _ => none

/-- A re-adoption that finds its task names the worker and token of an issued lease. -/
def ReadoptsOwn (st : DB × List Issue) (s : Stmt β) : Prop :=
  ∀ i ∈ s.readopts, (∃ t ∈ st.1.tasks.rows, readoptable i.taskID t = true) → i ∈ st.2
deriving Decidable

/-! ### One statement -/

/-- The pools are the same and every worker is still there, with its pool and capabilities. -/
structure SameRegistry (db db' : DB) : Prop where
  pools : db'.pools = db.pools
  workers : ∀ w ∈ db.workers.rows, ∃ w' ∈ db'.workers.rows, WorkerStmt.SameWorker w w'

variable {db db' : DB} {out : Outside} {env : Env} {h : Hist Stmt} {t : ScanTask}
  {st : DB × List Issue}

theorem SameRegistry.of_eq (hpools : db'.pools = db.pools) (hworkers : db'.workers = db.workers) :
    SameRegistry db db' :=
  ⟨hpools, fun w hw => ⟨w, hworkers ▸ hw, .refl w⟩⟩

theorem Stmt.sameRegistry {s : Stmt β} {b : β} (hexec : s.exec out env db = some (b, db'))
    (hpre : s.gatewayPre h) : SameRegistry db db' := by
  cases s with
  | task s | run s | asset s | fleet s =>
    exact .of_eq (by rw [s.exec_frame hexec]) (by rw [s.exec_frame hexec])
  | worker s =>
    obtain ⟨hframe, g, hrows, hg⟩ := s.exec_workers hexec hpre
    refine ⟨by rw [hframe], fun w hw => ⟨g w, ?_, hg w⟩⟩
    rw [hrows]
    exact List.mem_map_of_mem hw

/-- Whether a worker may be given a task depends on nothing else of either row. -/
theorem Serves.congr {w w' : Worker} {t' : ScanTask} (hs : Serves db w t)
    (hpools : db'.pools = db.pools) (hw : WorkerStmt.SameWorker w w') (hpool : t'.poolID = t.poolID)
    (hreq : t'.requires = t.requires) : Serves db' w' t' := by
  refine ⟨?_, ?_⟩
  · rw [hpool, hw.poolID, effectivePool, defaultPool, hpools]
    exact hs.pool
  · rw [hreq, hw.capabilities]
    exact hs.requires

/-- What the run keeps of the state: tasks in flight are held as they should be, and a worker a
task was ever leased to may still be given it. -/
structure Custody (st : DB × List Issue) : Prop where
  held : AllHeld st
  serves : ∀ i ∈ st.2, ∀ t ∈ st.1.tasks.rows, t.id = i.taskID →
    ∃ w ∈ st.1.workers.rows, w.id = i.workerID ∧ Serves st.1 w t

/-- What it keeps of a thread: the rows of workers it has read are still true of their pool and
capabilities. -/
def ReadsTrue (st : DB × List Issue) (h : Hist Stmt) : Prop :=
  ∀ id w, Read h id w → ∃ w' ∈ st.1.workers.rows, w'.id = id ∧ w'.poolID = w.poolID ∧
    w'.capabilities = w.capabilities

/-- A task that a lease claims goes to a worker that serves it, and the lease is logged. -/
theorem held_of_lease {workerID : UUID} {caps : List String} {poolID : Option UUID}
    {limit secs : Int} {only : StageFilter} {perCompany : Int} {jobs : List Job}
    (hexec : (TaskStmt.leaseTasksWhere workerID caps poolID limit secs only perCompany).exec env
      st.1 = some (jobs, db')) (hpre : TaskStmt.gatewayPre h
      (.leaseTasksWhere workerID caps poolID limit secs only perCompany)) (hreads : ReadsTrue st h)
    (ht : t ∈ st.1.tasks.rows)
    (hsel : t.id ∈ leaseChoice st.1 env caps poolID limit only perCompany) :
    ∃ w ∈ st.1.workers.rows, w.id = workerID ∧ Serves st.1 w t ∧
      ⟨t.id, w.id, st.1.nextToken +
        (leaseChoice st.1 env caps poolID limit only perCompany).idxOf t.id⟩ ∈
      TaskStmt.issues (.leaseTasksWhere workerID caps poolID limit secs only perCompany) jobs := by
  obtain ⟨⟨w₀, hread, hcaps, hpool, -⟩, -⟩ := hpre
  obtain ⟨w, hw, hid, hwpool, hwcaps⟩ := hreads workerID w₀ hread
  have hadm := leasable_of_mem_leaseChoice ht hsel
  simp only [leasable, Bool.and_eq_true, beq_iff_eq, List.all_eq_true,
    List.contains_iff_mem] at hadm
  obtain ⟨⟨⟨⟨⟨-, hreq⟩, hsome⟩, heff⟩, -⟩, -⟩ := hadm
  refine ⟨w, hw, hid, ⟨⟨hsome, ?_⟩, ?_⟩, ?_⟩
  · rw [hwpool, hpool]
    exact heff
  · rw [hwcaps, hcaps]
    exact hreq
  · -- the job the worker is sent carries the row's new token
    rw [hid]
    exact List.mem_map.mpr ⟨_, (TaskStmt.mem_lease_jobs hexec).mpr ⟨t, ht, hsel, rfl⟩, rfl⟩

/-- A statement on tasks leaves every task in flight held as it should be. -/
theorem TaskStmt.held_after {s : TaskStmt β} {b : β} (hexec : s.exec env st.1 = some (b, db'))
    (hc : Custody st) (hreads : ReadsTrue st h) (hpre : s.gatewayPre h)
    (hown : ReadoptsOwn st (.task s)) (ht : t ∈ st.1.tasks.rows)
    (hfly : (s.onTask env st.1 t).status.inFlight = true) :
    Held db' (s.issues b ++ st.2) (s.onTask env st.1 t) := by
  have hpools : db'.pools = st.1.pools := by rw [s.exec_frame hexec]
  have hworkers : db'.workers = st.1.workers := by rw [s.exec_frame hexec]
  obtain ⟨hid, -, -, -, hpool, hreq⟩ := s.onTask_fixed env st.1 t
  have hserves : ∀ {w}, Serves st.1 w t → Serves db' w (s.onTask env st.1 t) :=
    fun hs => hs.congr hpools (.refl _) hpool hreq
  -- a task that was in flight and keeps its holder and token is held as before
  have hkept : t.status.inFlight = true → (s.onTask env st.1 t).workerID = t.workerID →
      (s.onTask env st.1 t).leaseToken = t.leaseToken →
      Held db' (s.issues b ++ st.2) (s.onTask env st.1 t) := by
    intro hf hw htok
    obtain ⟨w, hmem, hwid, hs, tok, htok', hlog⟩ := hc.held t ht hf
    refine ⟨w, hworkers ▸ hmem, hw.trans hwid, hserves hs, tok, htok.trans htok', ?_⟩
    rw [hid]
    exact List.mem_append_right _ hlog
  by_cases hsel : s.selects env st.1 t = true
  case neg =>
    have hsame := onTask_unselected hsel
    rw [hsame] at hfly
    exact hkept hfly (by rw [hsame]) (by rw [hsame])
  have hset := onTask_selected hsel
  cases s with
  | leaseTasksWhere workerID caps poolID limit secs only perCompany =>
    have hmem := List.contains_iff_mem.mp hsel
    obtain ⟨w, hw, hwid, hs, hlog⟩ := held_of_lease hexec hpre hreads ht hmem
    refine ⟨w, hworkers ▸ hw, ?_, hserves hs, st.1.nextToken +
      (leaseChoice st.1 env caps poolID limit only perCompany).idxOf t.id, ?_, ?_⟩
    · rw [hset, hwid]
      rfl
    · rw [hset]
      rfl
    · rw [hid]
      exact List.mem_append_left _ hlog
  | readoptTask taskID workerID tok secs =>
    have hissued := hown ⟨taskID, workerID, tok⟩ rfl ⟨t, ht, hsel⟩
    have htask : t.id = taskID := by
      have : readoptable taskID t = true := hsel
      simp only [readoptable, Bool.and_eq_true, beq_iff_eq] at this
      exact this.1.1.1
    obtain ⟨w, hw, hwid, hs⟩ := hc.serves _ hissued t ht htask
    refine ⟨w, hworkers ▸ hw, ?_, hserves hs, tok, ?_, ?_⟩
    · rw [hset, hwid]
      rfl
    · rw [hset]
      rfl
    · rw [hid, htask, hwid]
      exact List.mem_append_right _ hissued
  | extendLeaseForWorker | extendLease =>
    have hf : t.status.inFlight = true := (Bool.and_eq_true_iff.mp hsel).2
    exact hkept hf (by rw [hset]; rfl) (by rw [hset]; rfl)
  | setTaskResult =>
    rw [hset] at hfly
    exact hkept hfly (by rw [hset]; rfl) (by rw [hset]; rfl)
  | failTask | reapExpiredLeases =>
    -- what is failed or reaped is pending or failed
    rw [hset] at hfly
    simp only [sets, failRow, reapRow] at hfly
    split at hfly <;> cases hfly
  | completeTask | failTaskPermanently | releaseWorkerLeases | cancelRunTasks =>
    rw [hset] at hfly
    cases hfly
  | _ => cases hsel

theorem TaskStmt.custody_after {s : TaskStmt β} {b : β} (hexec : s.exec env st.1 = some (b, db'))
    (hc : Custody st) (hreads : ReadsTrue st h) (hpre : s.gatewayPre h)
    (hown : ReadoptsOwn st (.task s)) : Custody (db', s.issues b ++ st.2) := by
  have hpools : db'.pools = st.1.pools := by rw [s.exec_frame hexec]
  have hworkers : db'.workers = st.1.workers := by rw [s.exec_frame hexec]
  -- the gateway inserts no task
  have hold : ∀ t' ∈ db'.tasks.rows, ∃ t ∈ st.1.tasks.rows, t' = s.onTask env st.1 t := by
    intro t' ht'
    rcases mem_exec_tasks hexec ht' with hold | hnew
    · exact hold
    · cases s with
      | insertTasks => cases hpre
      | _ => cases hnew
  refine ⟨fun t' ht' hfly => ?_, fun i hi t' ht' hid => ?_⟩
  · obtain ⟨t, ht, rfl⟩ := hold t' ht'
    exact s.held_after hexec hc hreads hpre hown ht hfly
  · obtain ⟨t, ht, rfl⟩ := hold t' ht'
    obtain ⟨htid, -, -, -, hpool, hreq⟩ := s.onTask_fixed env st.1 t
    have hserves : (∃ w ∈ st.1.workers.rows, w.id = i.workerID ∧ Serves st.1 w t) →
        ∃ w ∈ db'.workers.rows, w.id = i.workerID ∧ Serves db' w (s.onTask env st.1 t) := by
      rintro ⟨w, hw, hwid, hs⟩
      exact ⟨w, hworkers ▸ hw, hwid, hs.congr hpools (.refl w) hpool hreq⟩
    rcases List.mem_append.mp hi with hnew | hlog
    · -- a lease just issued: its task is one the lease claimed
      cases s with
      | leaseTasksWhere workerID caps poolID limit secs only perCompany =>
        obtain ⟨j, hj, rfl⟩ := List.mem_map.mp hnew
        obtain ⟨t₀, ht₀, hsel, hjob⟩ := (mem_lease_jobs hexec).mp hj
        have hjid : j.taskID = t₀.id := by
          simp only [jobOf, leaseRow, Option.map_some, Option.some.injEq] at hjob
          rw [← hjob]
        have heq : t₀ = t := Table.eq_of_key ht₀ ht (hjid.symm.trans (hid.symm.trans htid))
        obtain ⟨w, hw, hwid, hs, -⟩ := held_of_lease hexec hpre hreads ht₀ hsel
        exact hserves ⟨w, hw, hwid, heq ▸ hs⟩
      | _ => cases hnew
    · exact hserves (hc.serves i hlog t ht (htid.symm.trans hid))

theorem Custody.frame (hc : Custody st) (htasks : db'.tasks = st.1.tasks)
    (hreg : SameRegistry st.1 db') : Custody (db', st.2) := by
  refine ⟨fun t ht hfly => ?_, fun i hi t ht hid => ?_⟩
  · obtain ⟨w, hw, hwid, hs, tok, htok, hlog⟩ := hc.held t (htasks ▸ ht) hfly
    obtain ⟨w', hw', hsame⟩ := hreg.workers w hw
    refine ⟨w', hw', ?_, hs.congr hreg.pools hsame rfl rfl, tok, htok, ?_⟩
    · rw [hsame.id]
      exact hwid
    · rw [hsame.id]
      exact hlog
  · obtain ⟨w, hw, hwid, hs⟩ := hc.serves i hi t (htasks ▸ ht) hid
    obtain ⟨w', hw', hsame⟩ := hreg.workers w hw
    exact ⟨w', hw', hsame.id.trans hwid, hs.congr hreg.pools hsame rfl rfl⟩

/-- **Every statement of the gateway keeps custody.** -/
theorem Stmt.custody_after {s : Stmt β} {b : β} (hexec : s.exec out env st.1 = some (b, db'))
    (hc : Custody st) (hreads : ReadsTrue st h) (hpre : s.gatewayPre h) (hown : ReadoptsOwn st s) :
    Custody (db', s.issues b ++ st.2) := by
  have hreg := s.sameRegistry hexec hpre
  cases s with
  | task s => exact s.custody_after hexec hc hreads hpre hown
  | worker s => exact hc.frame (by rw [(s.exec_workers hexec hpre).1]) hreg
  | run s | asset s | fleet s => exact hc.frame (by rw [s.exec_frame hexec]) hreg

theorem ReadsTrue.frame {log : List Issue} (hr : ReadsTrue st h) (hreg : SameRegistry st.1 db') :
    ReadsTrue (db', log) h := by
  intro id w hread
  obtain ⟨w₁, hw₁, hid, hpool, hcaps⟩ := hr id w hread
  obtain ⟨w₂, hw₂, hsame⟩ := hreg.workers w₁ hw₁
  exact ⟨w₂, hw₂, hsame.id.trans hid, hsame.poolID.trans hpool, hsame.capabilities.trans hcaps⟩

theorem ReadsTrue.cons {s : Stmt β} {b : β} (hexec : s.exec out env st.1 = some (b, db'))
    (hr : ReadsTrue st h) : ReadsTrue st (⟨s, some b⟩ :: h) := by
  intro id w hread
  rcases hread with _ | ⟨_, hold⟩
  · have hfind : st.1.workers.find? id = some w := by
      have := hexec
      simp only [Stmt.exec, WorkerStmt.exec, Option.some.injEq, Prod.mk.injEq] at this
      exact this.1
    obtain ⟨hmem, hid⟩ := Table.find?_eq_some.mp hfind
    exact ⟨w, hmem, hid, rfl, rfl⟩
  · exact hr id w hold

/-! ### Whole runs -/

/-- **Every task in flight is held by a worker of its pool with what it requires, under a token
issued to that worker for that task**, in every state of every run in which workers re-adopt only
leases they were issued. -/
theorem in_flight_held (cfg : GatewayConfig) (out : Outside) {db : DB}
    {es : List (Event GatewayRequest Env)}
    (hidle : ∀ t ∈ db.tasks.rows, t.status.inFlight = false)
    (hown : (leaseLog cfg out).Along (fun c _ _ s => ReadoptsOwn c.state s) ⟨(db, []), []⟩ es) :
    AllHeld ((leaseLog cfg out).run ⟨(db, []), []⟩ es).state := by
  have hI : System.Inductive (leaseLog cfg out) (fun c _ _ s => ReadoptsOwn c.state s)
      (fun h _ s => s.gatewayPre h) (fun _ _ => True) Custody fun st th =>
      ReadsTrue st th.hist := by
    refine ⟨fun _ r _ _ => ⟨nofun, gatewayRequest_meets cfg r⟩, ?_, ?_⟩
    · intro c i h β s k env b st' hc hth hpre hok hexec
      obtain ⟨hex, hlog⟩ := System.logged_exec _ hexec
      have hreads := hc.threads _ (List.mem_of_getElem? hth)
      have hreg := s.sameRegistry hex hpre
      have hst' : st' = (st'.1, s.issues b ++ c.state.2) := by rw [← hlog]
      rw [hst']
      exact ⟨s.custody_after hex hc.state hreads hpre hok,
        (hreads.cons hex).frame hreg, fun _ _ _ _ ht => ht.frame hreg⟩
    · intro st h β s k _ hreads _ id w hread
      rcases hread with _ | ⟨_, hold⟩
      exact hreads id w hold
  -- at the start nothing is in flight and nothing is logged
  have hstart : Custody (db, []) := by
    refine ⟨fun t ht hfly => ?_, nofun⟩
    rw [hidle t ht] at hfly
    cases hfly
  exact (hI.run (.start hstart) hown).state.held

/-! ### Re-adopting another's task -/

/-- The task is leased to its worker, whose lease runs out and is reaped. -/
def leasedThenReaped : List (Event GatewayRequest Env) :=
  [.spawn (.dispatchTick 1)] ++ steps 0 5 ++ [.spawn .reapExpiredLeases, .step 1 { now := 1000 }]

/-- Its worker comes back and reports the lease it had. -/
def ownReadopted : List (Event GatewayRequest Env) :=
  leasedThenReaped ++ [.spawn (.heartbeat 1 { leases := [⟨some 1, some 1⟩] })] ++ steps 2 3

/-- The worker is given its own lease back, and the task is held as it should be. -/
theorem in_flight_held_after_reap :
    ((leaseLog {} {}).run ⟨(oneTaskDB, []), []⟩ ownReadopted).state.1.tasks.rows.map (·.status) =
      [.running] ∧
    AllHeld ((leaseLog {} {}).run ⟨(oneTaskDB, []), []⟩ ownReadopted).state :=
  ⟨by decide +kernel, in_flight_held {} {} (by decide) (by decide +kernel)⟩

/-- A worker of another pool, without the capability the task requires. -/
def otherWorker : Worker where
  id := 2
  poolID := some 2
  name := "other"
  kind := .vps
  status := .active
  capabilities := []
  credHash := "other secret"

/-- The small installation with that worker. -/
def twoPoolDB : DB :=
  { oneTaskDB with
    pools := .ofRows [{ id := 1, name := "default", isDefault := true },
      { id := 2, name := "other" }]
      (by decide)
    workers := .ofRows [oneWorker, otherWorker] (by decide) }

/-- The other worker connects and reports the reaped task as its own, **under a token it made
up**. -/
def strangerReadopts : List (Event GatewayRequest Env) :=
  leasedThenReaped ++ [.spawn (.connect (some 2) "other secret")] ++ steps 2 3 ++
    [.spawn (.heartbeat 2 { leases := [⟨some 1, some 99⟩] })] ++ steps 3 3

/-- The task runs on, held by a worker that could never have been given it. -/
theorem readopted_by_stranger :
    ((leaseLog {} {}).run ⟨(twoPoolDB, []), []⟩ strangerReadopts).state.1.tasks.rows.map
      (fun t => (t.status, t.workerID, t.leaseToken)) = [(.running, some 2, some 99)] ∧
    ¬ AllHeld ((leaseLog {} {}).run ⟨(twoPoolDB, []), []⟩ strangerReadopts).state := by
  decide +kernel

end PinkGlasses
