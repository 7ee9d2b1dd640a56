import PinkGlasses.Run.Coverage
import PinkGlasses.Run.Exit
import PinkGlasses.Run.Served

/-!
# PinkGlasses.Run.Progress

A running run that has tasks and none outstanding is stuck unless `Advance` moves it. In every state
the control plane reaches, amid administrators who delete pools, **one call inserts a task or
completes the run**, as long as every statement is `Considerate` and every deletion spares the pools
in use. What can go wrong is `ProbedEndpoints`: a probe for a service that was reported without a
port makes it fail in every later pass, and nothing ever takes the probe away.
-/

namespace PinkGlasses

open Lib Prog Planner System Store

section Progress

variable {cfg : ControlConfig} {out : Outside} {env : Env} {db : DB}

/-- One call of `Advance` returns no error, and has inserted a task of the run or completed it. -/
def Progresses (cfg : ControlConfig) (out : Outside) (env : Env) (db : DB) (run : ScanRun) : Prop :=
  Goes cfg out env db (advance cfg.launch.allowPrivate run) fun _ db' =>
    (∃ t ∈ db'.tasks.rows, t.runID = run.id ∧ ∀ t₀ ∈ db.tasks.rows, t₀.id ≠ t.id) ∨
      Completed db' run.id

/-- The run has tasks, and none is pending, leased or running. -/
def Drained (db : DB) (run : ScanRun) : Prop :=
  (∃ t ∈ db.tasks.rows, t.runID = run.id) ∧
    ∀ t ∈ db.tasks.rows, t.runID = run.id → t.status.outstanding = false
deriving Decidable

/-- A drained run is one that `RunProgress` reports as done. -/
theorem drained_iff {run : ScanRun} : Drained db run ↔
    0 < (runProgress run.id db).total ∧ (runProgress run.id db).outstanding = 0 := by
  unfold Drained runProgress
  simp [List.length_pos_iff, List.countP_eq_zero, List.filter_eq_nil_iff]

/-- A pass over a drained run that adds nothing leaves it drained, so it is completed. -/
theorem advance_progresses (hp : db.Provided) {run : ScanRun} (hrun : run ∈ db.runs.rows)
    (hrunning : run.status = .running) (hdrained : Drained db run) :
    Progresses cfg out env db run := by
  unfold Progresses
  refine (advance_goes hp hrun hrunning cfg.launch.allowPrivate).imp
    fun done db' ⟨mid, hmid, htasks, hcompleted⟩ => ?_
  obtain ⟨new, hrows, hnew⟩ := hmid.tasks
  cases new with
  | nil =>
    refine .inr (hcompleted (drained_iff.mp ?_))
    rw [Drained, hrows, List.append_nil]
    exact hdrained
  | cons t new =>
    refine .inl ⟨t, ?_, hnew t List.mem_cons_self, fun t₀ ht₀ hid => ?_⟩
    · rw [htasks, hrows]
      simp
    · -- the rows of a table have different keys
      have hnodup := mid.tasks.nodup
      rw [hrows, List.map_append, List.nodup_append] at hnodup
      exact hnodup.2.2 _ (List.mem_map_of_mem ht₀) _ (List.mem_map_of_mem List.mem_cons_self) hid

/-- A fresh installation provides what a pass needs: there is a pool for the passive stages. -/
theorem provided_fresh (hruns : db.runs.rows = []) (htasks : db.tasks.rows = [])
    (horigins : db.taskOrigins = []) (hpool : ∃ p ∈ db.pools.rows, p.standing = true) :
    db.Provided where
  linked := by
    refine ⟨fun r hr => ?_, fun o ho => ?_⟩
    · rw [hruns] at hr
      cases hr
    · rw [horigins] at ho
      cases ho
  standing := hpool
  exits r hr := by
    rw [hruns] at hr
    cases hr
  results t ht := by
    rw [htasks] at ht
    cases ht
  probes t ht := by
    rw [htasks] at ht
    cases ht

end Progress

/-- The state an installation gets to, with the pools administrators have deleted. -/
def reached (cfg : ControlConfig) (out : Outside) (db : DB)
    (es : List (Event ControlRequest Env ⊕ UUID)) : DB :=
  ((controlSystem cfg out).runAmid deletePool ⟨db, []⟩ es).state

/-- **A pass moves every run that is stuck.** In every state an installation reaches whose
statements and deletions all meet their condition, one call of `Advance` on a running run with
tasks, none of them outstanding, inserts a task or completes the run. -/
theorem drained_run_progresses (cfg : ControlConfig) (out : Outside) {db : DB}
    (hruns : db.runs.rows = []) (htasks : db.tasks.rows = []) (horigins : db.taskOrigins = [])
    (hpool : ∃ p ∈ db.pools.rows, p.standing = true)
    {es : List (Event ControlRequest Env ⊕ UUID)}
    (hok : (controlSystem cfg out).AlongAmid deletePool (fun c _ _ s => Considerate c.state s)
      SparesPools ⟨db, []⟩ es)
    (env : Env) {run : ScanRun} (hrun : run ∈ (reached cfg out db es).runs.rows)
    (hrunning : run.status = .running) (hdrained : Drained (reached cfg out db es) run) :
    Progresses cfg out env (reached cfg out db es) run :=
  advance_progresses (provided_run cfg out (provided_fresh hruns htasks horigins hpool) hok) hrun
    hrunning hdrained

/-! ### A service without a port -/

/-- A run is launched, its port scan reports a service, and the probe a pass plans for it is
done. -/
def probedOnce (port : Int) : List (Event ControlRequest Env ⊕ UUID) :=
  (served 0 17 (.start 1 { profile := .standard, all := true, exit := .remote, poolID := .id 2 }) ++
    served 1 9 (.gateway (.dispatchTick 1)) ++
    served 2 20 (delivered 1 1 [{ type := .service, ip := "192.0.2.1", port := port }]) ++
    served 3 30 (.advance 1) ++ served 4 9 (.gateway (.dispatchTick 1)) ++
    served 5 20 (delivered 2 2 [])).map .inl

/-- The run of these events. -/
def launchedRun : ScanRun :=
  { oneRun with poolID := some 2, startedAt := some 0 }

/-- **A port 0 in a report strands the run**: it is running with nothing to do, and `Advance`
fails. -/
theorem portless_service_strands_run :
    launchedRun ∈ (reached {} {} (exitDB 1) (probedOnce 0)).runs.rows ∧
      launchedRun.status = .running ∧
        Drained (reached {} {} (exitDB 1) (probedOnce 0)) launchedRun ∧
      ¬ Progresses {} {} {} (reached {} {} (exitDB 1) (probedOnce 0)) launchedRun := by
  refine ⟨by decide +kernel, rfl, by decide +kernel, fun ⟨done, hok, _⟩ => ?_⟩
  have hfails : (((controlSystem {} {}).serve ({} : Env) []
      (reached {} {} (exitDB 1) (probedOnce 0))
      (advance ({} : ControlConfig).launch.allowPrivate launchedRun).run).2.2).isOk = false := by
    decide +kernel
  rw [hok] at hfails
  cases hfails

/-- An installation with one more pool, which nothing uses. -/
def spareDB : DB :=
  { exitDB 1 with
    pools := .ofRows [{ id := 1, name := "default", isDefault := true },
      { id := 2, name := "exit" }, { id := 3, name := "spare" }] (by decide) }

/-- The same with port 443, and an administrator who deletes the unused pool meanwhile. -/
theorem ported_service_progresses :
    Progresses {} {} {} (reached {} {} spareDB (probedOnce 443 ++ [.inr 3])) launchedRun :=
  drained_run_progresses {} {} rfl rfl rfl (by decide) (by decide +kernel) {}
    (by decide +kernel) rfl
    (by decide +kernel)

end PinkGlasses
