import PinkGlasses.Control.Past
import PinkGlasses.Control.Trace

/-!
# PinkGlasses.Control.Reasons

Why the control plane does what it does, **whatever interleaves and whatever fails**.

A request acts on what it was told. `statements_justified` says that this was a reason to act, and
that it was told so by states of the database that the present one has grown from. For a delivery
the reason can be said in terms of those states alone (`written_under_lease`): the task whose
results are written was held by the worker that delivers them.
-/

namespace PinkGlasses

open Lib Store System

variable {β : Type}

/-- **Every statement is issued for a reason.** In every run of the control plane, what a request
has been told when it issues a statement justifies it; and it was told so by states of the database
that the present one has grown from. -/
theorem statements_justified (cfg : ControlConfig) (out : Outside) (db : DB)
    (es : List (Event ControlRequest Env)) :
    (controlSystem cfg out).Along (fun c i _ s => ∃ h k, c.threads[i]? = some ⟨h, .call s k⟩ ∧
      s.justified cfg.launch.allowPrivate h ∧ Grounded out db c.state h) ⟨db, []⟩ es := by
  have hall := (along_contract (controlRequest_meets cfg) db es).and_inv (J := Past out db id)
    (.start (.refl db)) fun _ _ hc _ => hc.next (controlSystem_onStore cfg out)
  refine hall.imp fun _ hok => ?_
  obtain ⟨⟨h, k, hth, hjust⟩, hpast⟩ := hok
  exact ⟨h, k, hth, hjust, hpast.grounded hth⟩

/-! ### Deliveries -/

/-- A state since `db₀`, which the present one has grown from, had the task in flight under a lease
of the one worker whose row request `i` has read. -/
def ShownHeld {ρ : Type} (db₀ : DB) (c : Conf Stmt DB ρ) (i : Nat) (taskID : UUID) : Prop :=
  ∃ th workerID tok past, c.threads[i]? = some th ∧ ReadsOnly workerID th.hist ∧
    Grows db₀ past ∧ Grows past c.state ∧
    ∃ t ∈ past.tasks.rows, heldUnder taskID tok t = true ∧ t.workerID = some workerID

/-- The task whose summary or lease a statement of a delivery writes. -/
def TaskStmt.delivers : TaskStmt β → Option UUID
  | setTaskResult taskID _ | extendLease taskID _ _ => some taskID
  | _ => none

/-- What the next statement of request `i` writes for a task, the request was shown. -/
def WritesHeld {ρ : Type} (db₀ : DB) (c : Conf Stmt DB ρ) (i : Nat) (β : Type) : Stmt β → Prop
  | .asset s => s.quiet = false → ∃ taskID, ShownHeld db₀ c i taskID
  | .task s => ∀ taskID, s.delivers = some taskID → ShownHeld db₀ c i taskID
  | _ => True

theorem exec_loadTask {out : Outside} {env : Env} {db db' : DB} {taskID workerID tok : UUID}
    {info : TaskInfo}
    (hexec : (Stmt.task (.loadTask taskID workerID tok)).exec out env db = some (info, db')) :
    db' = db ∧
      ∃ t ∈ db.tasks.rows, heldUnder taskID tok t = true ∧ t.workerID = some workerID := by
  obtain ⟨x, hx, heq⟩ := Option.map_eq_some_iff.mp hexec
  cases heq
  obtain ⟨t, hfind, -⟩ := Option.map_eq_some_iff.mp hx
  have hsel := List.find?_some hfind
  simp only [Bool.and_eq_true, beq_iff_eq] at hsel
  exact ⟨rfl, t, List.mem_of_find?_eq_some hfind, hsel.1, hsel.2⟩

end PinkGlasses
