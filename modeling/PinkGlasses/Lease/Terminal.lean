import PinkGlasses.GatewaySystem

/-!
# PinkGlasses.Lease.Terminal

Whether a finished task stays finished.

Every statement that moves a task asks for the status it moves from, **except the two that fail a
task**: `FailTask` and `FailTaskPermanently` match the lease token alone, and a completed or
cancelled task keeps its token. So a delivery that was let in while its task was held, and whose
closing statement comes after the task was finished by another, takes the task back. Where no
failing statement meets a finished task under its own token (`NoLateFail`), a finished task keeps
its status along every run, whatever the programs are (`terminal_status_kept`).
-/

namespace PinkGlasses

open Lib Store

variable {β : Type}

/-- The task and the lease token a statement fails a task under. -/
def TaskStmt.fails : TaskStmt β → Option (UUID × UUID)
  | failTask taskID tok _ => some (taskID, tok)
  | failTaskPermanently taskID tok _ => some (taskID, tok)
  | _ => none

def Stmt.fails : Stmt β → Option (UUID × UUID)
  | task s => s.fails
  | _ => none

/-- The statement does not fail a finished task under the token that task still has. -/
def NoLateFail (db : DB) (s : Stmt β) : Prop :=
  ∀ t ∈ db.tasks.rows, t.status.terminal = true → ∀ tok ∈ t.leaseToken, s.fails ≠ some (t.id, tok)
deriving Decidable

/-! ### One statement -/

/-- A statement on tasks leaves a finished task its status, unless it fails it. -/
theorem TaskStmt.onTask_terminal {env : Env} {db : DB} {s : TaskStmt β} {t : ScanTask}
    (ht : t ∈ db.tasks.rows) (hterm : t.status.terminal = true)
    (hfail : ∀ tok ∈ t.leaseToken, s.fails ≠ some (t.id, tok)) :
    (s.onTask env db t).status = t.status := by
  have hfly := TaskStatus.inFlight_of_terminal hterm
  have hout := TaskStatus.outstanding_of_terminal hterm
  have hpend := TaskStatus.ne_pending_of_terminal hterm
  rw [onTask]
  split
  · -- the row is selected: only a statement that sets no status can have selected it
    rename_i hsel
    cases s with
    | leaseTasksWhere workerID caps poolID limit secs only perCompany =>
      have hlease := leasable_of_mem_leaseChoice ht (List.contains_iff_mem.mp hsel)
      simp [leasable, hpend] at hlease
    | extendLeaseForWorker | releaseWorkerLeases => simp [selects, hfly] at hsel
    | extendLease | completeTask => simp [selects, heldUnder, hfly] at hsel
    | failTask taskID tok msg | failTaskPermanently taskID tok msg =>
      obtain ⟨hid, htok⟩ : t.id = taskID ∧ t.leaseToken = some tok := by simpa [selects] using hsel
      exact absurd (by rw [hid]; rfl) (hfail tok htok)
    | readoptTask => simp [selects, readoptable, hpend] at hsel
    | reapExpiredLeases => simp [selects, expired, hfly] at hsel
    | cancelRunTasks => simp [selects, hout] at hsel
    | _ => rfl
  · rfl

/-- A statement that is not a late failure leaves a finished task its status. -/
theorem Stmt.TaskStep.terminal {env : Env} {db : DB} {s : Stmt β} {t t' : ScanTask}
    (hstep : TaskStep env db s t t') (ht : t ∈ db.tasks.rows) (hterm : t.status.terminal = true)
    (hlate : NoLateFail db s) : t'.id = t.id ∧ t'.status = t.status := by
  rcases hstep.moved with ⟨s, rfl, rfl⟩ | ⟨_, _, rfl, -⟩
  · exact ⟨(s.onTask_fixed env db t).1, s.onTask_terminal ht hterm (hlate t ht hterm)⟩
  · exact ⟨rfl, rfl⟩

/-! ### Whole runs -/

/-- The status a task has. -/
def statusOf (db : DB) (taskID : UUID) : Option TaskStatus :=
  (db.tasks.find? taskID).map (·.status)

section Run

variable {R ρ : Type} {out : Outside} {accepts : DB → R → Bool} {prog : R → Prog Stmt ρ}

/-- **A finished task stays as it is** along every run without a late failure, from any
configuration and for any programs over the store's statements. -/
theorem terminal_status_kept {c : Conf Stmt DB ρ} {es : List (Event R Env)} {taskID : UUID}
    {st : TaskStatus} (hst : statusOf c.state taskID = some st) (hterm : st.terminal = true)
    (hlate : (storeSystem out accepts prog).Along (fun c _ _ s => NoLateFail c.state s) c es) :
    statusOf ((storeSystem out accepts prog).run c es).state taskID = some st := by
  refine System.run_keeps (A := fun db => statusOf db taskID = some st) ?_ hst hlate
  intro c i β s env b db' hold hok hexec
  obtain ⟨t, hfind, hstat⟩ := Option.map_eq_some_iff.mp hold
  obtain ⟨ht, hid⟩ := Table.find?_eq_some.mp hfind
  obtain ⟨t', ht', hstep⟩ := Stmt.task_after hexec ht
  obtain ⟨hid', hstat'⟩ := hstep.terminal ht (hstat ▸ hterm) hok
  rw [statusOf, Table.find?_eq_some.mpr ⟨ht', hid'.trans hid⟩, Option.map_some, hstat', hstat]

end Run

/-! ### The late failure -/

/-- The task is leased, and **both deliveries are let in** before the first of them completes it:
thread 2 has loaded the task and has its closing statement still ahead. -/
def bothLetIn : Conf Stmt DB Nat :=
  (gatewaySystem {} {}).run ⟨oneTaskDB, []⟩
    ([.spawn (.dispatchTick 1)] ++ steps 0 6 ++
      [.spawn (finalDelivery "ok"), .spawn (finalDelivery "error")] ++ steps 2 2 ++ steps 1 7)

/-- The completed task goes back to the queue when the second delivery fails it. -/
theorem late_failure_reopens_task :
    statusOf bothLetIn.state 1 = some .done ∧
    statusOf ((gatewaySystem {} {}).run bothLetIn (steps 2 4)).state 1 = some .pending := by
  decide +kernel

/-- The completed task outlives a cancellation, the reaper, a heartbeat that still names it and a
second delivery that completes it again. -/
theorem terminal_status_kept_done :
    statusOf ((gatewaySystem {} {}).run bothLetIn
      ([.spawn (.cancelRunTasks 1), .spawn .reapExpiredLeases,
        .spawn (.heartbeat 1 { leases := [⟨some 1, some 1⟩] }), .spawn (finalDelivery "ok")] ++
        steps 3 1 ++ steps 4 1 ++ steps 5 4 ++ steps 6 8)).state 1 = some .done :=
  terminal_status_kept (by decide +kernel) rfl (by decide +kernel)

end PinkGlasses
