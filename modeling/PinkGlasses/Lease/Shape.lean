import PinkGlasses.Control

/-!
# PinkGlasses.Lease.Shape

What the columns of a task say about its lease.

Ten statements of three components write a task's status, and the reaper finds a lost task by its
expiry alone. **A waiting task carries nothing of a lease, and a held one has a token and an
expiry** (`ScanTask.Shaped`): every statement keeps that, whichever program issues it, so a held
task whose expiry has passed is always one the reaper takes (`held_task_reaped`). The worker of a
held task is not part of it: its row can be deleted under the task.
-/

namespace PinkGlasses

open Lib Store

variable {β : Type}

/-- **The shape of a task's lease columns.** -/
structure ScanTask.Shaped (t : ScanTask) : Prop where
  /-- A waiting task belongs to nobody. -/
  pending : t.status = .pending →
    t.leaseToken = none ∧ t.workerID = none ∧ t.leaseExpiresAt = none
  /-- A held task can be told from another lease of it, and runs out. -/
  held : t.status.inFlight = true → t.leaseToken.isSome = true ∧ t.leaseExpiresAt.isSome = true

namespace ScanTask

variable {t : ScanTask}

theorem shaped_cleared (hflight : t.status.inFlight = false) (htok : t.leaseToken = none)
    (hworker : t.workerID = none) (hexp : t.leaseExpiresAt = none) : t.Shaped where
  pending _ := ⟨htok, hworker, hexp⟩
  held h := by rw [hflight] at h; cases h

theorem shaped_held (hflight : t.status.inFlight = true) (htok : t.leaseToken.isSome = true)
    (hexp : t.leaseExpiresAt.isSome = true) : t.Shaped where
  pending h := by rw [h] at hflight; cases hflight
  held _ := ⟨htok, hexp⟩

theorem shaped_terminal (h : t.status.terminal = true) : t.Shaped where
  pending hp := absurd hp (TaskStatus.ne_pending_of_terminal h)
  held hflight := by rw [TaskStatus.inFlight_of_terminal h] at hflight; cases hflight

end ScanTask

/-! ### One statement -/

theorem inFlight_requeued (last : Bool) :
    (if last then TaskStatus.failed else TaskStatus.pending).inFlight = false := by
  cases last <;> rfl

variable {env : Env} {db : DB} {t : ScanTask}

/-- **A statement on tasks keeps the shape of each.** -/
theorem TaskStmt.onTask_shaped (s : TaskStmt β) (ht : t.Shaped) : (s.onTask env db t).Shaped := by
  by_cases hsel : s.selects env db t = true
  · rw [onTask_selected hsel]
    cases s with
    -- a row comes into flight with a holder and an expiry
    | leaseTasksWhere | readoptTask => exact ScanTask.shaped_held rfl rfl rfl
    | extendLeaseForWorker taskID workerID secs =>
      simp only [selects, Bool.and_eq_true] at hsel
      exact ScanTask.shaped_held rfl (ht.held hsel.2).1 rfl
    | extendLease taskID tok secs =>
      simp only [selects, heldUnder, Bool.and_eq_true] at hsel
      exact ScanTask.shaped_held rfl (ht.held hsel.2).1 rfl
    | completeTask | cancelRunTasks => exact ScanTask.shaped_terminal rfl
    | failTask | reapExpiredLeases =>
      exact ScanTask.shaped_cleared (inFlight_requeued _) rfl rfl rfl
    | failTaskPermanently | releaseWorkerLeases => exact ScanTask.shaped_cleared rfl rfl rfl rfl
    | setTaskResult => exact ⟨ht.pending, ht.held⟩
    | _ => exact ht
  · rw [onTask_unselected hsel]
    exact ht

theorem Stmt.inserted_shaped {s : Stmt β} (ht : t ∈ s.inserted db) : t.Shaped := by
  obtain ⟨_, _, _, -, rfl⟩ := Stmt.mem_inserted ht
  exact ScanTask.shaped_cleared rfl rfl rfl rfl

/-- **A statement keeps the shape of every task.** A deleted worker only leaves its tasks. -/
theorem Stmt.exec_shaped {out : Outside} {db' : DB} {s : Stmt β} {b : β}
    (hdb : ∀ t ∈ db.tasks.rows, t.Shaped) (hexec : s.exec out env db = some (b, db')) :
    ∀ t ∈ db'.tasks.rows, t.Shaped := by
  intro t' ht'
  rcases task_before hexec ht' with ⟨t, ht, hstep⟩ | hnew
  · rcases hstep.moved with ⟨s, rfl, rfl⟩ | ⟨worker, pool, rfl, hworker, -⟩
    · exact s.onTask_shaped (hdb t ht)
    · refine ⟨fun hp => ?_, (hdb t ht).held⟩
      obtain ⟨htok, hnone, hexp⟩ := (hdb t ht).pending hp
      refine ⟨htok, ?_, hexp⟩
      show worker = none
      rcases hworker with hsame | hcleared
      · rw [hsame, hnone]
      · exact hcleared
  · exact inserted_shaped hnew

/-! ### The reaper -/

theorem exec_reapExpiredLeases (out : Outside) (env : Env) (db : DB) :
    (Stmt.task .reapExpiredLeases).exec out env db =
      some ((db.tasks.rows.filter (TaskStmt.reapExpiredLeases.selects env db)).map (·.id),
        { db with tasks := TaskStmt.reapExpiredLeases.updated env db }) := rfl

/-- What the reaper makes of a held task whose expiry has passed. -/
def Reaped (out : Outside) (env : Env) (db : DB) (taskID : UUID) : Prop :=
  ∃ ids db', (Stmt.task .reapExpiredLeases).exec out env db = some (ids, db') ∧ taskID ∈ ids ∧
    ∃ t ∈ db'.tasks.rows, t.id = taskID ∧ (t.status = .pending ∨ t.status = .failed)

theorem reaped_of_expired (out : Outside) {x : Time} (ht : t ∈ db.tasks.rows)
    (hflight : t.status.inFlight = true) (hexp : t.leaseExpiresAt = some x) (hlate : x < env.now)
    (hfree : t.id ∉ env.locked) : Reaped out env db t.id := by
  have hsel : TaskStmt.reapExpiredLeases.selects env db t = true := by
    simp [TaskStmt.selects, expired, hflight, hexp, hlate, hfree]
  refine ⟨_, _, exec_reapExpiredLeases out env db, ?_, ?_⟩
  · exact List.mem_map_of_mem (List.mem_filter.mpr ⟨ht, hsel⟩)
  · have hrow : reapRow t ∈ (TaskStmt.reapExpiredLeases.updated env db).rows := by
      rw [TaskStmt.rows_updated]
      refine List.mem_map.mpr ⟨t, ht, ?_⟩
      exact TaskStmt.onTask_selected hsel
    refine ⟨_, hrow, rfl, ?_⟩
    by_cases hlast : t.maxAttempts ≤ t.attempts
    · exact .inr (by simp [reapRow, hlast])
    · exact .inl (by simp [reapRow, hlast])

/-! ### Whole runs -/

section Run

variable {R ρ : Type} {out : Outside} {accepts : DB → R → Bool} {prog : R → Prog Stmt ρ}

/-- **In every state that is reached, every task has its shape, and a held one is the reaper's once
its expiry has passed**, from any configuration whose tasks have it and for any programs over the
store's statements. -/
theorem held_task_reaped {c : Conf Stmt DB ρ} {es : List (Event R Env)}
    (hdb : ∀ t ∈ c.state.tasks.rows, t.Shaped) :
    ∀ t ∈ ((storeSystem out accepts prog).run c es).state.tasks.rows, t.Shaped ∧
      (t.status.inFlight = true → ∃ x, t.leaseExpiresAt = some x ∧ ∀ env : Env,
        x < env.now → t.id ∉ env.locked →
          Reaped out env ((storeSystem out accepts prog).run c es).state t.id) := by
  have hshape : ∀ t ∈ ((storeSystem out accepts prog).run c es).state.tasks.rows, t.Shaped :=
    System.run_keeps (A := fun db : DB => ∀ t ∈ db.tasks.rows, t.Shaped)
      (fun hold _ hexec => Stmt.exec_shaped hold hexec) hdb (System.along_true _ c es)
  intro t ht
  refine ⟨hshape t ht, fun hflight => ?_⟩
  obtain ⟨x, hx⟩ := Option.isSome_iff_exists.mp ((hshape t ht).held hflight).2
  exact ⟨x, hx, fun env hlate hfree => reaped_of_expired out ht hflight hx hlate hfree⟩

end Run

/-- The small installation after its worker has leased the task and was then deleted. -/
def orphanedTask : Conf Stmt DB Nat :=
  (controlSystem {} {}).run ⟨oneTaskDB, []⟩
    ([.spawn (.gateway (.dispatchTick 1))] ++ steps 0 6 ++ [.spawn (.deleteWorker 1 true)] ++
      steps 1 2)

/-- The task is held by nobody that is left, and the reaper takes it when its lease has run out. -/
theorem held_task_reaped_orphan :
    ∃ t ∈ orphanedTask.state.tasks.rows, t.status.inFlight = true ∧ t.workerID = none ∧
      Reaped {} { now := 500 } orphanedTask.state t.id := by
  have hrow : ∃ t ∈ orphanedTask.state.tasks.rows, t.status.inFlight = true ∧ t.workerID = none ∧
      t.leaseExpiresAt = some 120 := by decide +kernel
  obtain ⟨t, ht, hflight, hworker, hexp⟩ := hrow
  have hstart : ∀ t ∈ oneTaskDB.tasks.rows, t.Shaped :=
    fun t ht => List.mem_singleton.mp ht ▸ ScanTask.shaped_cleared rfl rfl rfl rfl
  obtain ⟨-, hreap⟩ := held_task_reaped hstart t ht
  obtain ⟨x, hx, hall⟩ := hreap hflight
  have hlate : x < 500 := by
    rw [hexp] at hx
    cases hx
    decide
  exact ⟨t, ht, hflight, hworker, hall { now := 500 } hlate List.not_mem_nil⟩

end PinkGlasses
