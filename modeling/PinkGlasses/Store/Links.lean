import PinkGlasses.Store.Grow

/-!
# PinkGlasses.Store.Links

Two foreign keys the planner depends on: a run's exit, `scan_run.pool_id`, and the run target of a
`task_origin` edge. The first is `ON DELETE SET NULL`, so **a run can lose its exit but never keeps
one that is gone**: `Stmt.poolAfter` is the pool a statement leaves a run with, `DB.Linked` that no
reference dangles, and every statement keeps it.
-/

namespace PinkGlasses

open Lib Table

variable {β : Type}

namespace Store

variable {p : WorkerPool → Bool} {db : DB}

theorem isSome_find?_deletePools {i : UUID} (hi : (db.pools.find? i).isSome = true)
    (hkeep : db.pools.refers p (some i) = false) :
    ((deletePools p db).pools.find? i).isSome = true := by
  obtain ⟨x, hx, hid⟩ := isSome_find?.mp hi
  refine isSome_find?.mpr ⟨x, mem_delete.mpr ⟨hx, ?_⟩, hid⟩
  by_contra hp
  rw [refers_some.mpr ⟨x, hx, hid, by simpa using hp⟩] at hkeep
  cases hkeep

theorem deletePools_grows (p : WorkerPool → Bool) (db : DB) : Grows db (deletePools p db) where
  scopeTargets := rfl
  run r hr := by
    refine ⟨_, List.mem_map_of_mem hr, ?_⟩
    split <;> exact ⟨rfl, rfl, rfl⟩
  runs_next := Nat.le_refl _
  runTarget t ht := ⟨t, ht, .refl t⟩
  runTarget_new t ht := .inl ⟨t, ht, .refl t⟩
  task t ht := by
    refine ⟨_, List.mem_map_of_mem ht, ?_⟩
    split <;> exact ⟨rfl, rfl, rfl, rfl⟩
  tasks_next := Nat.le_refl _
  origins_new _ ho := .inl ho
  address a ha := ⟨a, ha, rfl, rfl, rfl, id⟩

theorem run_deletePools {r r' : ScanRun} (hr : r ∈ db.runs.rows)
    (hr' : r' ∈ (deletePools p db).runs.rows) (hid : r'.id = r.id) :
    r' = if db.pools.refers p r.poolID then { r with poolID := none } else r :=
  eq_of_mem_update (by exact fun _ => rfl) hr hr' hid

end Store

open Store

section Exec

variable {out : Outside} {env : Env} {db db' : DB} {b : β} {r r' : ScanRun}

theorem Stmt.pool_kept {s : Stmt β} (h : s.exec out env db = some (b, db')) {i : UUID}
    (hi : (db.pools.find? i).isSome = true)
    (hkeep : ∀ d, s.drops = some d →
      db.pools.refers (fun p => p.id == d && p.runScoped) (some i) = false) :
    (db'.pools.find? i).isSome = true := by
  cases s with
  | task s | run s | asset s | fleet s => rw [s.exec_frame h]; exact hi
  | worker s =>
    cases s with
    -- only this statement deletes a pool
    | deleteRunPool poolID =>
      cases h
      exact isSome_find?_deletePools hi (hkeep poolID rfl)
    | createRunPool =>
      simp only [Stmt.exec, WorkerStmt.exec] at h
      split at h
      · cases h
      · cases h
        exact isSome_find?_insert.mpr (.inl hi)
    | pruneReplacedWorker =>
      simp only [Stmt.exec, WorkerStmt.exec] at h
      split at h <;> cases h <;> exact hi
    | createWorker | createEnrollmentToken =>
      simp only [Stmt.exec, WorkerStmt.exec] at h
      split at h
      · cases h
      · cases h
        exact hi
    | discoveryPool | poolByName | defaultPool | getExitPool =>
      obtain ⟨_, _, hdb⟩ := Option.map_eq_some_iff.mp h
      cases hdb
      exact hi
    | _ =>
      cases h
      exact hi

end Exec

/-! ### No reference dangles -/

/-- The pools of runs and the run targets of tasks exist. -/
structure DB.Linked (db : DB) : Prop where
  pool : ∀ r ∈ db.runs.rows, ∀ p, r.poolID = some p → (db.pools.find? p).isSome = true
  origin : ∀ o ∈ db.taskOrigins, (db.runTargets.find? o.runTargetID).isSome = true

namespace Store

variable {db db' : DB}

/-- The run targets of tasks exist. -/
def OriginsThere (db : DB) : Prop :=
  ∀ o ∈ db.taskOrigins, (db.runTargets.find? o.runTargetID).isSome = true

theorem insertOrigin_origin {taskID ot : UUID} (h : insertOrigin taskID ot db = some db')
    (hl : OriginsThere db) : OriginsThere db' := by
  simp only [insertOrigin] at h
  split at h
  · cases h
    exact hl
  · split at h
    · cases h
    · rename_i hot
      cases h
      intro o ho
      refine isSome_find?_update (by exact fun _ => rfl) ?_
      dsimp only at ho
      split at ho
      · exact hl o ho
      · rcases List.mem_append.mp ho with hold | hnew
        · exact hl o hold
        · cases List.mem_singleton.mp hnew
          exact Option.isSome_iff_ne_none.mpr (by simpa using hot)

theorem insertBatch_origin {runID : UUID} {specs : List TaskSpec}
    (h : specs.foldlM (fun d sp => insertTask runID sp d) db = some db') (hl : OriginsThere db) :
    OriginsThere db' := by
  refine foldlM_keeps (fun hd hl => ?_) h hl
  simp only [insertTask] at hd
  split at hd
  · cases hd
  · exact foldlM_keeps insertOrigin_origin hd hl

end Store

section Linked

variable {out : Outside} {env : Env} {db db' : DB} {b : β} {s : Stmt β}

/-- Only planning adds edges, and it refuses one to a run target that does not exist. -/
theorem Stmt.exec_origin (h : s.exec out env db = some (b, db')) (hl : OriginsThere db) :
    OriginsThere db' := by
  cases hs : s.plans with
  | false =>
    intro o ho
    rw [(Stmt.exec_origins_kept hs h).2] at ho
    obtain ⟨t, ht, hid⟩ := isSome_find?.mp (hl o ho)
    obtain ⟨t', ht', hst⟩ := (Stmt.exec_grows h).runTarget t ht
    exact isSome_find?.mpr ⟨t', ht', hst.id.trans hid⟩
  | true =>
    obtain ⟨runID, specs, hd⟩ := Stmt.exec_plans hs h
    exact insertBatch_origin hd hl

theorem Stmt.bound_pool (h : s.exec out env db = some (b, db')) {runID poolID : UUID}
    (hs : s.binds = some (runID, poolID)) : (db'.pools.find? poolID).isSome = true := by
  cases s with
  | run s =>
    cases s with
    | setRunPool r p =>
      cases hs
      simp only [Stmt.exec, RunStmt.exec] at h
      split at h
      · cases h
      · rename_i hpool
        cases h
        exact Option.isSome_iff_ne_none.mpr (by simpa using hpool)
    | _ => cases hs
  | _ => cases hs

/-- **Every statement keeps the references.** -/
theorem Stmt.exec_linked (h : s.exec out env db = some (b, db')) (hl : db.Linked) : db'.Linked where
  pool r' hr' p hp := by
    rcases Stmt.run_before h hr' with ⟨r, hr, hstep⟩ | hnew
    · rw [hstep.poolID] at hp
      rcases Stmt.poolAfter_eq_some hp with hbinds | ⟨hpool, hkeep⟩
      · exact Stmt.bound_pool h hbinds
      · exact Stmt.pool_kept h (hl.pool r hr p hpool) hkeep
    · rw [(Stmt.created_pool hnew).1] at hp
      cases hp
  origin := Stmt.exec_origin h hl.origin

theorem Store.deletePools_linked (p : WorkerPool → Bool) (hl : db.Linked) :
    (deletePools p db).Linked where
  pool r' hr' i hi := by
    obtain ⟨r, hr, heq⟩ := List.mem_map.mp hr'
    rw [run_deletePools hr hr' (by rw [← heq]; dsimp only; split <;> rfl)] at hi
    split at hi
    · cases hi
    · rename_i hkeep
      refine isSome_find?_deletePools (hl.pool r hr i hi) ?_
      rw [← hi]
      simpa using hkeep
  origin := hl.origin

end Linked

end PinkGlasses
