import PinkGlasses.Control.Past

/-!
# PinkGlasses.Run.Pass

The planner's passes among deliveries. Between two statements of an `Advance` a worker's results can
finish a task or add to its summary, so **what a pass has read of a stage can be out of date when it
decides**. `Undisturbed` is the condition that this does not happen, and `Fresh` what it buys: the
tasks of a stage that are over are among the rows the pass has read, as they are.
-/

namespace PinkGlasses

open Lib Prog Planner Store

variable {β : Type}

/-- The requests here: passes, and what reaches the gateway. -/
def ControlRequest.isPass : ControlRequest → Bool
  | advance _ | gateway _ => true
  | _ => false

/-- Passes and deliveries, interleaving statement by statement. -/
def passSystem (cfg : ControlConfig) (out : Outside) : System Stmt DB Env ControlRequest Nat :=
  storeSystem out (fun _ r => r.isPass) (ControlRequest.prog cfg)

/-! ### Why a statement is issued -/

def TaskStmt.passPre (allowPrivate : Bool) (h : Hist Stmt) : TaskStmt β → Prop
  | insertTasks runID out => ∃ run specs rt, run.id = runID ∧ specs ≠ [] ∧
      routeTasks specs rt = .ok out ∧ LaterTasks allowPrivate h run specs
  | originsForTask taskID => SeenTask h taskID
  | _ => True

def RunStmt.passPre (allowPrivate : Bool) (h : Hist Stmt) : RunStmt β → Prop
  | setRunStatus runID status =>
    status = .completed ∧ ∃ run, run.id = runID ∧ Finished allowPrivate h run
  | s => s.quiet = true

/-- Of the runs only the status is written, and that by a pass that has finished one. -/
def Stmt.passPre (allowPrivate : Bool) (h : Hist Stmt) : Stmt β → Prop
  | task s => s.passPre allowPrivate h
  | run s => s.passPre allowPrivate h
  | _ => True

section Contract

variable {allowPrivate : Bool} {h : Hist Stmt}

theorem Stmt.passPre_of_gateway {s : Stmt β} (hs : s.gatewayPre h) : s.passPre allowPrivate h := by
  cases s with
  | task s =>
    cases s with
    | insertTasks | originsForTask => cases hs
    | _ => trivial
  | run s =>
    cases s with
    | setRunStatus => cases hs
    | _ => exact hs
  | _ => trivial

theorem Stmt.passPre_of_quiet {s : Stmt β} (hs : s.quiet = true) : s.passPre allowPrivate h := by
  cases s with
  | task s =>
    cases s with
    | insertTasks | originsForTask => cases hs
    | _ => trivial
  | run s =>
    cases s with
    | setRunStatus => cases hs
    | _ => exact hs
  | _ => trivial

theorem passContract {run : ScanRun} {id : UUID} (hrunning : run.status = .running) :
    Contract allowPrivate run fun h β s =>
      h.Asked (.run (.getRun id)) (some run) → @Stmt.passPre β allowPrivate h s where
  quiet _ _ _ hs _ := Stmt.passPre_of_quiet hs
  origins _ _ hseen _ := hseen
  insert _ specs rt _ _ hne hplanned _ _ hout hread :=
    ⟨run, specs, rt, rfl, hne, hout, ⟨id, hread⟩, hrunning, hplanned⟩
  finish _ hdone hread := ⟨rfl, run, rfl, ⟨id, hread⟩, hdone⟩

/-- **Every request here keeps to it.** -/
theorem passRequest_meets (cfg : ControlConfig) {r : ControlRequest} (hr : r.isPass = true) :
    Meets (fun h _ s => s.passPre cfg.launch.allowPrivate h) [] (r.prog cfg) fun _ _ => True := by
  cases r with
  | advance runID => exact advanceRun_keeps cfg.launch rfl fun _ hrunning => passContract hrunning
  | gateway req =>
    exact (gatewayRequest_meets cfg.gateway req).weaken fun _ _ _ => Stmt.passPre_of_gateway
  | _ => cases hr

end Contract

/-- The run a statement sets to completed. -/
def RunStmt.completes : RunStmt β → Option UUID
  | setRunStatus runID .completed => some runID
  | _ => none

def Stmt.completes : Stmt β → Option UUID
  | run s => s.completes
  | _ => none

/-- The next statement of request `i` sets the run to completed. -/
def Completing (c : Conf Stmt DB Nat) (i : Nat) (runID : UUID) : Prop :=
  ∃ th ∈ c.threads[i]?, th.prog.Issues fun _ s => s.completes = some runID
deriving Decidable

theorem Completing.thread {c : Conf Stmt DB Nat} {i : Nat} {runID : UUID}
    (hc : Completing c i runID) :
    ∃ h k, c.threads[i]? = some ⟨h, .call (.run (.setRunStatus runID .completed)) k⟩ := by
  obtain ⟨⟨h, p⟩, hth, hissues⟩ := hc
  cases p with
  | ret a => exact absurd hissues id
  | call s k =>
    have hs : s.completes = some runID := hissues
    cases s with
    | run s =>
      cases s with
      | setRunStatus id status =>
        cases status with
        | completed =>
          cases hs
          exact ⟨h, k, hth⟩
        | _ => cases hs
      | _ => cases hs
    | _ => cases hs

/-! ### What a pass has read stays as it was read -/

/-- The statement finishes the task, or writes its summary. -/
def TaskStmt.settles : TaskStmt β → ScanTask → Bool
  | setTaskResult taskID _, t => t.id == taskID
  | completeTask taskID tok, t => heldUnder taskID tok t
  | failTask taskID tok _, t => t.id == taskID && t.leaseToken == some tok
  | failTaskPermanently taskID tok _, t => t.id == taskID && t.leaseToken == some tok
  | reapExpiredLeases, t => t.status.inFlight && decide (t.maxAttempts ≤ t.attempts)
  | _, _ => false

def Stmt.settles : Stmt β → ScanTask → Bool
  | task s, t => s.settles t
  | _, _ => false

/-- The run and the stage whose tasks a statement lists. -/
def Stmt.readsStage : Stmt β → Option (UUID × Stage)
  | task s => match s with
    | .tasksByStage runID stage => some (runID, stage)
    | _ => none
  | _ => none

set_option synthInstance.maxSize 512 in
/-- **The condition on a statement**: while a request that has listed the tasks of one of these
stages is not over, no task of the run and stage is finished or has its summary written. -/
def Undisturbed (stages : List Stage) (c : Conf Stmt DB Nat) (s : Stmt β) : Prop :=
  ∀ th ∈ c.threads, th.prog.finished = false → ∀ call ∈ th.hist, ∀ x ∈ call.stmt.readsStage,
    x.2 ∈ stages → ∀ t ∈ c.state.tasks.rows, t.runID = x.1 → t.stage = x.2 → s.settles t = false
deriving Decidable

/-- A task with a result to follow up. -/
def ScanTask.over (t : ScanTask) : Prop := t.status = .done ∨ t.status = .failed

/-- A statement that does not settle a task leaves it as it is, or not over. -/
theorem TaskStmt.onTask_unsettled {env : Env} {db : DB} {s : TaskStmt β} {t : ScanTask}
    (hs : s.settles t = false) (hover : (s.onTask env db t).over) :
    (s.onTask env db t).status = t.status ∧ (s.onTask env db t).result = t.result := by
  rw [onTask] at hover ⊢
  split
  · -- a selected row that is over afterwards was selected by a statement that settles it
    rename_i hsel
    rw [if_pos hsel] at hover
    cases s with
    | setTaskResult | completeTask | failTask | failTaskPermanently =>
      exact absurd (hsel.symm.trans hs) (by decide)
    | reapExpiredLeases =>
      simp only [selects, expired, Bool.and_eq_true] at hsel
      have hlast : ¬ t.maxAttempts ≤ t.attempts := by
        intro hle
        simp [settles, hsel.1.1, hle] at hs
      simp [ScanTask.over, sets, reapRow, hlast] at hover
    | leaseTasksWhere | extendLeaseForWorker | extendLease | readoptTask | releaseWorkerLeases
    | cancelRunTasks =>
      rcases hover with hdone | hfailed
      · cases hdone
      · cases hfailed
    | _ => exact ⟨rfl, rfl⟩
  · exact ⟨rfl, rfl⟩

/-- The tasks of the stages that are over are in the lists the request has read, as they are. -/
def Fresh (stages : List Stage) (db : DB) (h : Hist Stmt) : Prop :=
  ∀ runID stage rows, stage ∈ stages → h.Asked (.task (.tasksByStage runID stage)) (some rows) →
    ∀ t ∈ db.tasks.rows, t.runID = runID → t.stage = stage → t.over →
      ⟨t.id, t.stage, t.status, t.result⟩ ∈ rows

section Fresh

variable {stages : List Stage} {out : Outside} {env : Env} {db db' : DB}
  {h : Hist Stmt} {s : Stmt β}
  {b : β}

/-- A statement that settles none of these tasks keeps the lists fresh. -/
theorem Fresh.after (hf : Fresh stages db h) (hexec : s.exec out env db = some (b, db'))
    (hs : ∀ call ∈ h, ∀ x ∈ call.stmt.readsStage, x.2 ∈ stages → ∀ t ∈ db.tasks.rows,
      t.runID = x.1 → t.stage = x.2 → s.settles t = false) : Fresh stages db' h := by
  intro runID stage rows hstage hask t' ht' hrun hst hover
  rcases Stmt.task_before hexec ht' with ⟨t, ht, hstep⟩ | hnew
  · obtain ⟨hid, hrun', hst', -⟩ := hstep.fixed
    have hunsettled : s.settles t = false :=
      hs _ hask (runID, stage) rfl hstage t ht (hrun'.symm.trans hrun) (hst'.symm.trans hst)
    have hsame : t'.status = t.status ∧ t'.result = t.result := by
      rcases hstep.moved with ⟨s, rfl, rfl⟩ | ⟨_, _, rfl, -⟩
      · exact s.onTask_unsettled hunsettled hover
      · exact ⟨rfl, rfl⟩
    have hold : t.over := by
      rw [ScanTask.over, hsame.1] at hover
      exact hover
    have hrow := hf runID stage rows hstage hask t ht (hrun'.symm.trans hrun)
        (hst'.symm.trans hst) hold
    rw [hid, hst', hsame.1, hsame.2]
    exact hrow
  · -- a new task is pending
    obtain ⟨_, _, _, -, rfl⟩ := Stmt.mem_inserted hnew
    rcases hover with hdone | hfailed
    · cases hdone
    · cases hfailed

theorem Fresh.cons (hf : Fresh stages db h) (hexec : s.exec out env db = some (b, db')) :
    Fresh stages db (⟨s, some b⟩ :: h) := by
  intro runID stage rows hstage hask t ht hrun hst hover
  rcases hask with _ | ⟨_, hold⟩
  · cases hexec
    refine List.mem_map.mpr ⟨t, List.mem_filter.mpr ⟨ht, ?_⟩, rfl⟩
    simp [hrun, hst]
  · exact hf runID stage rows hstage hold t ht hrun hst hover

theorem Fresh.failed (hf : Fresh stages db h) : Fresh stages db (⟨s, none⟩ :: h) :=
  fun runID stage rows hstage hask => hf runID stage rows hstage hask.of_failed

end Fresh

/-! ### Schedules -/

/-- A request arrives as the `i`-th and issues `n` statements. -/
def served (i n : Nat) (r : ControlRequest) : List (Event ControlRequest Env) :=
  .spawn r :: steps i n

/-- The worker's final results for a task. -/
def delivered (taskID tok : UUID) (observations : List Observation) : ControlRequest :=
  .gateway (.results {
    workerID := some 1, credential := "secret"
    body := some { taskID := some taskID, leaseToken := some tok, final := true, observations } })

end PinkGlasses
