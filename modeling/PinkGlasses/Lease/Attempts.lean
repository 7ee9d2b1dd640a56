import PinkGlasses.Lease.Holder
import PinkGlasses.Store.Grow

/-!
# PinkGlasses.Lease.Attempts

How often a task is leased.

`max_attempts` bounds the retries of a task: a lease counts an attempt, and a task that fails or
whose lease runs out goes back to the queue only while attempts remain. **A clean shutdown asks for
nothing of the kind**: `ReleaseWorkerLeases` puts every task of the worker back, also one on its
last attempt, and the lease does not compare the two columns either. Where no worker that shuts down
holds a task on its last attempt (`ReleasesRetryable`), a task is leased at most `max_attempts`
times, and none that has used them up is waiting (`leased_within_attempts`).
-/

namespace PinkGlasses

open Lib Store

variable {β : Type}

/-- How often the task was leased. -/
def leaseCount (log : List Issue) (taskID : UUID) : Nat := log.countP (·.taskID == taskID)

/-- **No task was leased more often than it may be, and none that has used its attempts up
waits.** -/
def WithinAttempts (st : DB × List Issue) : Prop :=
  ∀ t ∈ st.1.tasks.rows, leaseCount st.2 t.id ≤ t.maxAttempts ∧
    (t.maxAttempts ≤ t.attempts → t.status ≠ .pending)
deriving Decidable

/-- The worker whose tasks a statement puts back. -/
def TaskStmt.releases : TaskStmt β → Option UUID
  | releaseWorkerLeases workerID => some workerID
  | _ => none

def Stmt.releases : Stmt β → Option UUID
  | task s => s.releases
  | _ => none

/-- **The condition on a statement**: a worker that puts its tasks back holds none on its last
attempt. -/
def ReleasesRetryable (db : DB) (s : Stmt β) : Prop :=
  ∀ t ∈ db.tasks.rows, t.status.inFlight = true → t.maxAttempts ≤ t.attempts →
    ∀ w ∈ t.workerID, s.releases ≠ some w
deriving Decidable

/-! ### One statement -/

/-- The attempts of a task are within its bound, and one that waits has some left. -/
structure ScanTask.Retryable (t : ScanTask) : Prop where
  bounded : t.attempts ≤ t.maxAttempts
  waiting : t.status = .pending → t.attempts < t.maxAttempts

/-- A failed attempt goes back to the queue only while attempts remain. -/
theorem lt_of_requeued {attempts maxAttempts : Nat}
    (h : (if decide (maxAttempts ≤ attempts) then TaskStatus.failed else .pending) = .pending) :
    attempts < maxAttempts := by
  by_cases hlast : maxAttempts ≤ attempts
  · simp [hlast] at h
  · omega

variable {env : Env} {db db' : DB} {t : ScanTask}

/-- **A statement on tasks keeps the attempts of each within its bound.** -/
theorem TaskStmt.onTask_retryable {s : TaskStmt β} (ht : t ∈ db.tasks.rows)
    (hok : ReleasesRetryable db (.task s)) (hr : t.Retryable) : (s.onTask env db t).Retryable := by
  by_cases hsel : s.selects env db t = true
  · rw [onTask_selected hsel]
    cases s with
    | leaseTasksWhere workerID caps poolID limit secs only perCompany =>
      have hadm := leasable_of_mem_leaseChoice ht (List.contains_iff_mem.mp hsel)
      -- a leased task was pending, so it had an attempt left
      simp only [leasable, Bool.and_eq_true, beq_iff_eq] at hadm
      exact ⟨hr.waiting hadm.1.1.1.1.1, fun h => by cases h⟩
    | failTask | reapExpiredLeases => exact ⟨hr.bounded, lt_of_requeued⟩
    | releaseWorkerLeases workerID =>
      -- the one statement that puts a task back without looking at its attempts
      simp only [selects, Bool.and_eq_true, beq_iff_eq] at hsel
      refine ⟨hr.bounded, fun _ => Nat.lt_of_not_le fun hlast => ?_⟩
      exact hok t ht hsel.2 hlast workerID hsel.1 rfl
    | extendLeaseForWorker | extendLease | completeTask | failTaskPermanently | readoptTask
    | cancelRunTasks => exact ⟨hr.bounded, fun h => by cases h⟩
    | setTaskResult => exact ⟨hr.bounded, hr.waiting⟩
    | _ => exact hr
  · rw [onTask_unselected hsel]
    exact hr

theorem TaskStmt.lease_taskIDs {workerID : UUID} {caps : List String} {poolID : Option UUID}
    {limit secs : Int} {only : StageFilter} {perCompany : Int} {jobs : List Job}
    (h : (leaseTasksWhere workerID caps poolID limit secs only perCompany).exec env db =
      some (jobs, db')) :
    jobs.map (·.taskID) = (db.tasks.rows.filter fun t =>
      (leaseChoice db env caps poolID limit only perCompany).contains t.id).map (·.id) := by
  simp only [exec] at h
  split at h
  · rename_i hnone
    cases h
    simp [leaseChoice_eq_nil hnone]
  · split at h
    · cases h
    · cases h
      have hid : ∀ t, ((leaseTasksWhere workerID caps poolID limit secs only perCompany).onTask env
          db t).id = t.id := fun t => (onTask_fixed env db _ t).1
      rw [List.map_filterMap, rows_updated, List.filter_map, List.filterMap_map]
      simp only [Function.comp_def, hid]
      rw [← List.filterMap_eq_map]
      refine List.filterMap_congr fun t ht => ?_
      -- a claimed row has a token, so it is a job
      have hsel := (List.mem_filter.mp ht).2
      rw [onTask_selected (s := leaseTasksWhere workerID caps poolID limit secs only perCompany)
        hsel]
      rfl

theorem TaskStmt.leaseCount_lease {workerID : UUID} {caps : List String} {poolID : Option UUID}
    {limit secs : Int} {only : StageFilter} {perCompany : Int} {jobs : List Job}
    (ht : t ∈ db.tasks.rows)
    (h : (leaseTasksWhere workerID caps poolID limit secs only perCompany).exec env db =
      some (jobs, db')) :
    leaseCount
      ((leaseTasksWhere workerID caps poolID limit secs only perCompany).issues jobs) t.id =
      if t.id ∈ leaseChoice db env caps poolID limit only perCompany then 1 else 0 := by
  have hids : leaseCount ((leaseTasksWhere workerID caps poolID limit secs only perCompany).issues
      jobs) t.id = (jobs.map (·.taskID)).countP (· == t.id) := by
    simp only [leaseCount, issues, List.countP_map]
    rfl
  rw [hids, lease_taskIDs h, List.countP_map, List.countP_filter]
  split
  · rename_i hmem
    rw [← db.tasks.countP_key ht]
    refine List.countP_congr fun r _ => ?_
    simp only [Function.comp_apply, Bool.and_eq_true, beq_iff_eq, List.contains_iff_mem]
    exact ⟨fun hr => hr.1, fun hr => ⟨hr, hr ▸ hmem⟩⟩
  · rename_i hmem
    refine List.countP_eq_zero.mpr fun r _ hr => hmem ?_
    simp only [Function.comp_apply, Bool.and_eq_true, beq_iff_eq, List.contains_iff_mem] at hr
    exact hr.1 ▸ hr.2

/-- **Every lease of a task is an attempt, and nothing else is.** -/
theorem TaskStmt.onTask_attempts {s : TaskStmt β} {b : β} (ht : t ∈ db.tasks.rows)
    (h : s.exec env db = some (b, db')) :
    (s.onTask env db t).attempts = leaseCount (s.issues b) t.id + t.attempts := by
  by_cases hsel : s.selects env db t = true
  · rw [onTask_selected hsel]
    cases s with
    | leaseTasksWhere workerID caps poolID limit secs only perCompany =>
      rw [leaseCount_lease ht h, if_pos (List.contains_iff_mem.mp hsel)]
      exact Nat.add_comm _ _
    | _ => exact (Nat.zero_add _).symm
  · rw [onTask_unselected hsel]
    cases s with
    | leaseTasksWhere workerID caps poolID limit secs only perCompany =>
      rw [leaseCount_lease ht h, if_neg fun hmem => hsel (List.contains_iff_mem.mpr hmem)]
      exact (Nat.zero_add _).symm
    | _ => exact (Nat.zero_add _).symm

theorem Stmt.issues_known {out : Outside} {s : Stmt β} {b : β} {i : Issue}
    (hexec : s.exec out env db = some (b, db')) (hi : i ∈ s.issues b) :
    i.taskID < db.tasks.next := by
  cases s with
  | task s =>
    cases s with
    | leaseTasksWhere workerID caps poolID limit secs only perCompany =>
      obtain ⟨j, hj, rfl⟩ := List.mem_map.mp hi
      have hmem := List.mem_map_of_mem (f := Job.taskID) hj
      have hexec : (TaskStmt.leaseTasksWhere workerID caps poolID limit secs only perCompany).exec
          env db = some (b, db') := hexec
      rw [TaskStmt.lease_taskIDs hexec] at hmem
      obtain ⟨t, ht, hid⟩ := List.mem_map.mp hmem
      show j.taskID < _
      rw [← hid]
      exact db.tasks.bound t (List.mem_filter.mp ht).1
    | _ => cases hi
  | _ => cases hi

/-! ### Whole runs -/

/-- What the log and the tasks keep. -/
structure Budgeted (st : DB × List Issue) : Prop where
  /-- The attempts of a task are its leases. -/
  counted : ∀ t ∈ st.1.tasks.rows, t.attempts = leaseCount st.2 t.id
  /-- Only tasks that exist were leased. -/
  known : ∀ i ∈ st.2, i.taskID < st.1.tasks.next
  retryable : ∀ t ∈ st.1.tasks.rows, t.Retryable

theorem leaseCount_append (new log : List Issue) (taskID : UUID) :
    leaseCount (new ++ log) taskID = leaseCount new taskID + leaseCount log taskID :=
  List.countP_append

/-- **A statement keeps the attempts and the log together**, as long as no task on its last attempt
is put back. -/
theorem Budgeted.after {out : Outside} {st : DB × List Issue} {s : Stmt β} {b : β}
    (hst : Budgeted st) (hok : ReleasesRetryable st.1 s)
    (hexec : s.exec out env st.1 = some (b, db')) : Budgeted (db', s.issues b ++ st.2) := by
  have hknown : ∀ i ∈ s.issues b ++ st.2, i.taskID < st.1.tasks.next := by
    intro i hi
    rcases List.mem_append.mp hi with hnew | hold
    · exact Stmt.issues_known hexec hnew
    · exact hst.known i hold
  have hrow : ∀ t' ∈ db'.tasks.rows,
      t'.attempts = leaseCount (s.issues b ++ st.2) t'.id ∧ t'.Retryable := by
    intro t' ht'
    rcases Stmt.task_before hexec ht' with ⟨t, ht, hstep⟩ | hnew
    · have hcount := hst.counted t ht
      cases s with
      | task s =>
        rw [show t' = s.onTask env st.1 t from hstep]
        refine ⟨?_, s.onTask_retryable ht hok (hst.retryable t ht)⟩
        rw [s.onTask_attempts ht hexec, hcount, (s.onTask_fixed env st.1 t).1, leaseCount_append]
        rfl
      | worker s =>
        obtain ⟨worker, pool, rfl, -⟩ := hstep
        exact ⟨hcount, (hst.retryable t ht).bounded, (hst.retryable t ht).waiting⟩
      | _ =>
        rw [show t' = t from hstep]
        exact ⟨hcount, hst.retryable t ht⟩
    · -- a new task has a key above every key in the log
      obtain ⟨runID, sp, id, hle, rfl⟩ := Stmt.mem_inserted hnew
      have hzero : leaseCount (s.issues b ++ st.2) id = 0 := by
        refine List.countP_eq_zero.mpr fun i hi heq => ?_
        have hlt := hknown i hi
        rw [beq_iff_eq.mp heq] at hlt
        exact Nat.not_lt.mpr hle hlt
      refine ⟨hzero.symm, ?_, fun _ => ?_⟩
      all_goals simp [newTask]
  exact ⟨fun t ht => (hrow t ht).1, fun i hi => Nat.lt_of_lt_of_le (hknown i hi)
    (Stmt.exec_grows hexec).tasks_next, fun t ht => (hrow t ht).2⟩

theorem Budgeted.withinAttempts {st : DB × List Issue} (hst : Budgeted st) : WithinAttempts st := by
  intro t ht
  refine ⟨?_, fun hused hpend => ?_⟩
  · rw [← hst.counted t ht]
    exact (hst.retryable t ht).bounded
  · have := (hst.retryable t ht).waiting hpend
    omega

section Run

variable {R ρ : Type} {out : Outside} {accepts : DB → R → Bool} {prog : R → Prog Stmt ρ}

/-- **A task is leased at most `max_attempts` times, and none that has used them up waits**, in
every state of every run whose workers shut down without a task on its last attempt, from any
database whose tasks have not been leased and for any programs over the store's statements. -/
theorem leased_within_attempts {db : DB} {es : List (Event R Env)}
    (hdb : ∀ t ∈ db.tasks.rows, t.attempts = 0 ∧ 0 < t.maxAttempts)
    (hok : ((storeSystem out accepts prog).logged Stmt.issues).Along
      (fun c _ _ s => ReleasesRetryable c.state.1 s) ⟨(db, []), []⟩ es) :
    WithinAttempts (((storeSystem out accepts prog).logged Stmt.issues).run
      ⟨(db, []), []⟩ es).state := by
  have hstart : Budgeted (db, []) := by
    refine ⟨fun t ht => (hdb t ht).1, List.forall_mem_nil _, fun t ht => ?_⟩
    obtain ⟨hzero, hpos⟩ := hdb t ht
    rw [← hzero] at hpos
    exact ⟨Nat.le_of_lt hpos, fun _ => hpos⟩
  refine Budgeted.withinAttempts (System.run_keeps (A := Budgeted) ?_ hstart hok)
  intro c i β s env b st' hst hs hexec
  obtain ⟨hex, hlog⟩ := System.logged_exec _ hexec
  have hst' : st' = (st'.1, s.issues b ++ c.state.2) := by rw [← hlog]
  rw [hst']
  exact hst.after hs hex

end Run

/-! ### A clean shutdown on the last attempt -/

/-- The `k`-th time, from zero, that the worker leases the task, shuts down cleanly and comes
back. -/
def leasedAndReleased (k : Nat) : List (Event GatewayRequest Env) :=
  [.spawn (.dispatchTick 1)] ++ steps (3 * k) 6 ++
    [.spawn (.heartbeat 1 { stopping := true })] ++ steps (3 * k + 1) 2 ++
    [.spawn (.connect (some 1) "secret")] ++ steps (3 * k + 2) 3

/-- The worker does so `n` times and then leases the task once more. -/
def leasedAfter (n : Nat) : List (Event GatewayRequest Env) :=
  (List.range n).flatMap leasedAndReleased ++ [.spawn (.dispatchTick 1)] ++ steps (3 * n) 6

/-- **The task is leased a fourth time**: its third attempt ended with a clean shutdown. -/
theorem released_task_leased_again :
    leaseCount ((leaseLog {} {}).run ⟨(oneTaskDB, []), []⟩ (leasedAfter 3)).state.2 1 = 4 ∧
    ¬ WithinAttempts ((leaseLog {} {}).run ⟨(oneTaskDB, []), []⟩ (leasedAfter 3)).state := by
  decide +kernel

/-- After two clean shutdowns the task is leased for the third and last time. -/
theorem leased_within_attempts_third :
    leaseCount ((leaseLog {} {}).run ⟨(oneTaskDB, []), []⟩ (leasedAfter 2)).state.2 1 = 3 ∧
    WithinAttempts ((leaseLog {} {}).run ⟨(oneTaskDB, []), []⟩ (leasedAfter 2)).state :=
  ⟨by decide +kernel, leased_within_attempts (by decide) (by decide +kernel)⟩

end PinkGlasses
