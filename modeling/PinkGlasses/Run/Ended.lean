import PinkGlasses.Control.Launches
import PinkGlasses.Lease.Terminal

/-!
# PinkGlasses.Run.Ended

Whether a run that is over stays over.

`SetRunStatus` writes whatever it is given, and the requests that end a run first look or act on its
tasks and write the status in a later statement. What comes in between is not noticed: `Advance`
completes a run that was cancelled meanwhile, a run that was cancelled while it was being planned
gets its tasks all the same, and a cancellation whose first statement failed goes on to the second.

Where these meetings do not happen (`OrderlyEnd`), **a run that is completed, failed or cancelled
stays so, and none of its tasks is pending, leased or running** (`ended_run_stays_ended`). The
invariant behind it is about the requests in progress: as long as a request that has counted or
cancelled the outstanding tasks of a run is not over, the run has none.
-/

namespace PinkGlasses

open Lib Store Table

variable {β : Type}

/-- The run is over. -/
def Ended (db : DB) (runID : UUID) : Prop :=
  ∃ r ∈ db.runs.rows, r.id = runID ∧ r.status.terminal = true
deriving Decidable

/-- No task of the run is pending, leased or running. -/
def NoOutstanding (db : DB) (runID : UUID) : Prop :=
  ∀ t ∈ db.tasks.rows, t.runID = runID → t.status.outstanding = false
deriving Decidable

/-! ### What a request in progress has done -/

/-- The run that a statement, with its answer, leaves without outstanding tasks: they were
cancelled, or counted and there were none. -/
def TaskStmt.clears : {β : Type} → TaskStmt β → Option β → Option UUID
  | _, cancelRunTasks runID, some _ => some runID
  | _, runProgress runID, some p => if p.outstanding = 0 then some runID else none
  | _, _, _ => none

/-- The run whose tasks a statement failed to cancel. -/
def TaskStmt.cancelFails : {β : Type} → TaskStmt β → Option β → Option UUID
  | _, cancelRunTasks runID, none => some runID
  | _, _, _ => none

def Stmt.clears : {β : Type} → Stmt β → Option β → Option UUID
  | _, task s, b => s.clears b
  | _, _, _ => none

def Stmt.cancelFails : {β : Type} → Stmt β → Option β → Option UUID
  | _, task s, b => s.cancelFails b
  | _, _, _ => none

/-- The status a statement writes to a run, whatever the run's is. -/
def RunStmt.writes : RunStmt β → Option (UUID × RunStatus)
  | setRunStatus runID status => some (runID, status)
  | _ => none

def Stmt.writes : Stmt β → Option (UUID × RunStatus)
  | run s => s.writes
  | _ => none

/-- The run a statement plans tasks for. -/
def TaskStmt.plansFor : TaskStmt β → Option UUID
  | insertTasks runID _ => some runID
  | _ => none

def Stmt.plansFor : Stmt β → Option UUID
  | task s => s.plansFor
  | _ => none

/-- **The condition on a statement of thread `i`.** A status is written only to a run that is not
over, and not by a request whose cancellation of the run's tasks failed. Tasks are planned only for
a run that is not over, while no request in progress has counted or cancelled the run's tasks. And
no finished task is failed late. -/
def OrderlyEnd {ρ : Type} (c : Conf Stmt DB ρ) (i : Nat) (β : Type) (s : Stmt β) : Prop :=
  NoLateFail c.state s ∧
  (∀ w ∈ s.writes, ¬ Ended c.state w.1 ∧
    ∀ th ∈ c.threads[i]?, ¬ Shows Stmt.cancelFails th.hist w.1) ∧
  ∀ runID ∈ s.plansFor, ¬ Ended c.state runID ∧
    ∀ th ∈ c.threads, th.prog.finished = false → ¬ Shows Stmt.clears th.hist runID
deriving Decidable

/-! ### One statement -/

/-- The run has no task at all. -/
def NoTasks (db : DB) (runID : UUID) : Prop := ∀ t ∈ db.tasks.rows, t.runID ≠ runID

variable {db : DB} {allowPrivate : Bool} {h : Hist Stmt} {runID : UUID}

theorem Stmt.runID_of_inserted {s : Stmt β} {t : ScanTask} (h : t ∈ s.inserted db) :
    s.plansFor = some t.runID := by
  cases s with
  | task s =>
    cases s with
    | insertTasks runID specs =>
      obtain ⟨sp, -, id, rfl⟩ := mem_newTasks h
      rfl
    | _ => cases h
  | _ => cases h

section Step

variable {out : Outside} {env : Env} {db db' : DB} {s : Stmt β} {b : β} {runID : UUID}

/-- Only planning makes a task of a run outstanding. -/
theorem NoOutstanding.after (hexec : s.exec out env db = some (b, db'))
    (hlate : NoLateFail db s) (hplan : s.plansFor ≠ some runID) (h : NoOutstanding db runID) :
    NoOutstanding db' runID := by
  intro t' ht' hrun
  rcases Stmt.task_before hexec ht' with ⟨t, ht, hstep⟩ | hnew
  · have hout := h t ht (hstep.fixed.2.1.symm.trans hrun)
    have hterm : t.status.terminal = true := by rw [TaskStatus.terminal, hout]; rfl
    rw [(hstep.terminal ht hterm hlate).2, hout]
  · exact absurd (hrun ▸ Stmt.runID_of_inserted hnew) hplan

/-- Only planning gives a run tasks. -/
theorem NoTasks.after (hexec : s.exec out env db = some (b, db')) (hplan : s.plansFor ≠ some runID)
    (h : NoTasks db runID) : NoTasks db' runID := by
  intro t' ht' hrun
  rcases Stmt.task_before hexec ht' with ⟨t, ht, hstep⟩ | hnew
  · exact h t ht (hstep.fixed.2.1.symm.trans hrun)
  · exact hplan (hrun ▸ Stmt.runID_of_inserted hnew)

theorem NoTasks.before (hexec : s.exec out env db = some (b, db')) (h : NoTasks db' runID) :
    NoTasks db runID := by
  intro t ht hrun
  obtain ⟨t', ht', hstep⟩ := Stmt.task_after hexec ht
  exact h t' ht' (hstep.fixed.2.1.trans hrun)

theorem NoTasks.noOutstanding (h : NoTasks db runID) : NoOutstanding db runID :=
  fun t ht hrun => absurd hrun (h t ht)

theorem noOutstanding_of_clears (hexec : s.exec out env db = some (b, db'))
    (h : s.clears (some b) = some runID) : NoOutstanding db' runID := by
  cases s with
  | task s =>
    cases s with
    | cancelRunTasks r =>
      obtain rfl : r = runID := Option.some.inj h
      intro t' ht' hrun
      rcases TaskStmt.mem_exec_tasks (s := .cancelRunTasks r) hexec ht' with ⟨t, ht, rfl⟩ | hnew
      · by_cases hsel : (TaskStmt.cancelRunTasks r).selects env db t = true
        · rw [TaskStmt.onTask_selected hsel]
          rfl
        · rw [TaskStmt.onTask_unselected hsel] at hrun ⊢
          simpa [TaskStmt.selects, hrun] using hsel
      · cases hnew
    -- a progress count without outstanding tasks, of a store it does not change
    | runProgress r =>
      have hans := Option.some.inj hexec
      obtain ⟨rfl, rfl⟩ := Prod.mk.inj hans
      simp only [Stmt.clears, TaskStmt.clears] at h
      split at h
      · rename_i hzero
        obtain rfl : r = runID := Option.some.inj h
        intro t ht hrun
        have hall := List.countP_eq_zero.mp hzero t (List.mem_filter.mpr ⟨ht, by simpa using hrun⟩)
        simpa using hall
      · cases h
    | _ => cases h
  | _ => cases h

/-- A statement that ends a run writes its status, or gives up a run without tasks. -/
theorem terminal_before {r : ScanRun} (h : (s.statusAfter env db r).terminal = true) :
    r.status.terminal = true ∨ (∃ st, s.writes = some (r.id, st) ∧ st.terminal = true) ∨
      NoTasks db r.id := by
  cases s with
  | run s =>
    cases s with
    | setRunStatus id st =>
      simp only [Stmt.statusAfter, RunStmt.statusAfter] at h
      split at h
      · rename_i hid
        exact .inr (.inl ⟨st, by rw [beq_iff_eq.mp hid]; rfl, h⟩)
      · exact .inl h
    | pauseRun | resumeRun =>
      simp only [Stmt.statusAfter, RunStmt.statusAfter] at h
      split at h
      · cases h
      · exact .inl h
    -- the sweep takes a run without tasks only
    | failZombieRuns olderThan =>
      simp only [Stmt.statusAfter, RunStmt.statusAfter] at h
      split at h
      · rename_i hz
        refine .inr (.inr fun t ht hrun => ?_)
        simp only [zombie, Bool.and_eq_true, Bool.not_eq_true', List.any_eq_false] at hz
        exact hz.2 t ht (by simpa using hrun)
      · exact .inl h
    | _ => exact .inl h
  | _ => exact .inl h

theorem statusAfter_of_terminal {r : ScanRun} (hterm : r.status.terminal = true)
    (hw : ∀ st, s.writes ≠ some (r.id, st)) : s.statusAfter env db r = r.status := by
  cases s with
  | run s =>
    cases s with
    | setRunStatus id st =>
      refine if_neg fun hid => hw st ?_
      rw [beq_iff_eq.mp hid]
      rfl
    | pauseRun | resumeRun | failZombieRuns =>
      refine if_neg fun hsel => ?_
      simp only [zombie, Bool.and_eq_true, beq_iff_eq] at hsel
      revert hterm
      simp [hsel, RunStatus.terminal]
    | _ => rfl
  | _ => rfl

end Step

/-! ### What holds along a run -/

/-- What the database keeps: a task belongs to a run, and a run that is over has no outstanding
task. -/
structure Orderly (db : DB) : Prop where
  refs : ∀ t ∈ db.tasks.rows, ∃ r ∈ db.runs.rows, r.id = t.runID
  ended : ∀ r ∈ db.runs.rows, r.status.terminal = true → NoOutstanding db r.id

/-- What a request in progress may rely on: a run it has seen tasks of has tasks, the runs it has
cleared have none outstanding, and a run it is launching and has not planned has none at all. -/
structure Aware (db : DB) (th : Thread Stmt Nat) : Prop where
  reads : ∀ id run, th.hist.Asked (.run (.getRun id)) (some run) → run.id = id
  seen : ∀ runID stage rows, th.hist.Asked (.task (.tasksByStage runID stage)) (some rows) →
    rows ≠ [] → ¬ NoTasks db runID
  cleared : th.prog.finished = false → ∀ runID, Shows Stmt.clears th.hist runID →
    NoOutstanding db runID
  launching : th.prog.finished = false → Unplanned th.hist → ∀ runID,
    Shows Stmt.launches th.hist runID → NoTasks db runID

theorem Aware.read_again {th : Thread Stmt Nat} (haware : Aware db th) {run run₀ : ScanRun}
    (hread : run = run₀ ∨ th.hist.Asked (.run (.getRun run₀.id)) (some run)) :
    run.id = run₀.id := by
  rcases hread with rfl | hread
  · rfl
  · exact haware.reads _ _ hread

theorem noOutstanding_of_justified {p : Prog Stmt Nat} {st : RunStatus}
    (hwhy : statusJustified allowPrivate h runID st) (hterm : st.terminal = true)
    (haware : Aware db ⟨h, p⟩) (hgoing : p.finished = false)
    (hcancel : ¬ Shows Stmt.cancelFails h runID) : NoOutstanding db runID := by
  have hfailed : (∃ r, h.Asked (.task (.cancelRunTasks runID)) r) → NoOutstanding db runID := by
    rintro ⟨r, hask⟩
    cases r with
    | none => exact absurd ⟨_, hask, rfl⟩ hcancel
    | some u => exact haware.cleared hgoing runID ⟨_, hask, rfl⟩
  cases st with
  | completed =>
    rcases hwhy with ⟨run, rfl, _, hdone⟩ | ⟨scopeID, run, saved, rfl, hl, hu⟩
    · obtain ⟨p, hp, hzero⟩ := hdone.asked
      exact haware.cleared hgoing run.id ⟨_, hp, if_pos hzero⟩
    · obtain ⟨run₀, ⟨profile, targets, hask⟩, hread⟩ := hl
      rw [haware.read_again hread]
      exact (haware.launching hgoing hu run₀.id ⟨_, hask, rfl⟩).noOutstanding
  | failed | cancelled => exact hfailed hwhy
  | _ => cases hterm

/-- **The database stays orderly.** -/
theorem Orderly.after {out : Outside} {env : Env} {c : Conf Stmt DB Nat} {i : Nat} {s : Stmt β}
    {k : Option β → Prog Stmt Nat} {b : β} {db' : DB} (hdb : Orderly c.state)
    (hth : c.threads[i]? = some ⟨h, .call s k⟩) (haware : Aware c.state ⟨h, .call s k⟩)
    (hwhy : s.justified allowPrivate h) (hok : OrderlyEnd c i β s)
    (hexec : s.exec out env c.state = some (b, db')) : Orderly db' := by
  obtain ⟨hlate, hwrites, hplans⟩ := hok
  refine ⟨fun t' ht' => ?_, fun r' hr' hterm => ?_⟩
  -- every task keeps its run, and a new one is inserted for a run that is there
  · have hrun : ∃ r ∈ c.state.runs.rows, r.id = t'.runID := by
      rcases Stmt.task_before hexec ht' with ⟨t, ht, hstep⟩ | hnew
      · rw [hstep.fixed.2.1]
        exact hdb.refs t ht
      · cases s with
        | task s =>
          cases s with
          | insertTasks runID specs =>
            have hid : t'.runID = runID := (Option.some.inj (Stmt.runID_of_inserted hnew)).symm
            rw [hid]
            refine insertTasks_run hexec ?_
            rintro rfl
            cases hnew
          | _ => cases hnew
        | _ => cases hnew
    obtain ⟨r, hr, hid⟩ := hrun
    obtain ⟨r', hr', hstep⟩ := Stmt.run_after hexec hr
    exact ⟨r', hr', hstep.id.trans hid⟩
  · rcases Stmt.run_before hexec hr' with ⟨r, hr, hstep⟩ | hnew
    · rw [hstep.id]
      rw [hstep.status] at hterm
      rcases terminal_before hterm with hold | ⟨st, hw, hst⟩ | hnone
      · refine (hdb.ended r hr hold).after hexec hlate fun hplan => ?_
        exact (hplans r.id hplan).1 ⟨r, hr, rfl, hold⟩
      · -- the status is being written: the request has seen to the tasks before
        have hrun : statusJustified allowPrivate h r.id st ∧ s.plansFor ≠ some r.id := by
          cases s with
          | run s =>
            cases s with
            | setRunStatus id st' =>
              obtain ⟨rfl, rfl⟩ := Prod.mk.inj (Option.some.inj hw)
              exact ⟨hwhy, nofun⟩
            | _ => cases hw
          | _ => cases hw
        have hno := noOutstanding_of_justified hrun.1 hst haware rfl ((hwrites _ hw).2 _ hth)
        exact hno.after hexec hlate hrun.2
      · by_cases hplan : s.plansFor = some r.id
        · -- a statement that plans tasks changes no status
          have hsame : s.statusAfter env c.state r = r.status := by
            cases s with
            | run s => cases hplan
            | _ => rfl
          rw [hsame] at hterm
          exact absurd ⟨r, hr, rfl, hterm⟩ (hplans r.id hplan).1
        · exact (hnone.after hexec hplan).noOutstanding
    · rw [(Stmt.created_pool hnew).2] at hterm
      cases hterm

/-- **A request plans tasks only for a run it launches or has seen tasks of.** -/
theorem Aware.plans {p : Prog Stmt Nat} {s : Stmt β} (haware : Aware db ⟨h, p⟩)
    (hwhy : s.justified allowPrivate h) (hplan : s.plansFor = some runID) :
    Shows Stmt.launches h runID ∨ ¬ NoTasks db runID := by
  cases s with
  | task s =>
    cases s with
    | insertTasks r specs =>
      obtain rfl : r = runID := Option.some.inj hplan
      obtain ⟨run, specs, rt, rfl, hne, -, -, hfirst | hlater⟩ := hwhy
      · obtain ⟨scopeID, tag, rows, saved, -, ⟨run₀, hl, hread⟩, -⟩ := hfirst
        rw [haware.read_again hread]
        exact .inl hl.shows
      · obtain ⟨stage, rows, hrows, hsome⟩ := hlater.2.2.seen hne
        exact .inr (haware.seen run.id stage rows hrows hsome)
    | _ => cases hplan
  | _ => cases hplan

section Threads

variable {allowPrivate : Bool} {out : Outside} {env : Env} {c : Conf Stmt DB Nat} {i : Nat}
  {h : Hist Stmt} {s : Stmt β} {k : Option β → Prog Stmt Nat} {b : β} {db' : DB}

theorem Aware.other {j : Nat} {th : Thread Stmt Nat} (hth : c.threads[j]? = some th) (hij : j ≠ i)
    (haware : Aware c.state th) (hacting : c.threads[i]? = some ⟨h, .call s k⟩)
    (hself : Aware c.state ⟨h, .call s k⟩) (hwhy : s.justified allowPrivate h)
    (hok : OrderlyEnd c i β s) (hapart : LaunchesApart id c)
    (hexec : s.exec out env c.state = some (b, db')) : Aware db' th := by
  obtain ⟨hlate, -, hplans⟩ := hok
  have hmem := List.mem_of_getElem? hth
  refine ⟨haware.reads, fun runID stage rows hask hne hno => ?_, fun hgoing runID hshow => ?_,
    fun hgoing hu runID hshow => ?_⟩
  · exact haware.seen runID stage rows hask hne (hno.before hexec)
  · refine (haware.cleared hgoing runID hshow).after hexec hlate fun hplan => ?_
    exact (hplans runID hplan).2 th hmem hgoing hshow
  · -- nobody else can plan a run that is being launched
    have hnone := haware.launching hgoing hu runID hshow
    refine hnone.after hexec fun hplan => ?_
    rcases hself.plans hwhy hplan with hlaunch | hsome
    · exact hapart.apart j i _ _ hij hth hacting runID hshow hlaunch
    · exact hsome hnone

theorem Aware.self (hdb : Orderly c.state) (hth : c.threads[i]? = some ⟨h, .call s k⟩)
    (haware : Aware c.state ⟨h, .call s k⟩) (hok : OrderlyEnd c i β s)
    (hexec : s.exec out env c.state = some (b, db')) :
    Aware db' ⟨⟨s, some b⟩ :: h, k (some b)⟩ := by
  obtain ⟨hlate, -, hplans⟩ := hok
  have hmem := List.mem_of_getElem? hth
  refine ⟨fun id run hask => ?_, fun runID stage rows hask hne hno => ?_, fun _ runID hshow => ?_,
    fun _ hu runID hshow => ?_⟩
  · rcases hask with _ | ⟨_, hold⟩
    · exact (Stmt.exec_getRun hexec).2
    · exact haware.reads id run hold
  · rcases hask with _ | ⟨_, hold⟩
    -- a listing that was not empty shows a task of the run
    · obtain ⟨rfl, rfl⟩ := Prod.mk.inj (Option.some.inj hexec)
      obtain ⟨row, hrow⟩ := List.exists_mem_of_ne_nil _ hne
      obtain ⟨t, ht, -⟩ := List.mem_map.mp hrow
      obtain ⟨ht, hrun⟩ := List.mem_filter.mp ht
      simp only [Bool.and_eq_true, beq_iff_eq] at hrun
      exact hno t ht hrun.1
    · exact haware.seen runID stage rows hold hne (hno.before hexec)
  · rcases shows_cons.mp hshow with hclears | hold
    · exact noOutstanding_of_clears hexec hclears
    · refine (haware.cleared rfl runID hold).after hexec hlate fun hplan => ?_
      exact (hplans runID hplan).2 _ hmem rfl hold
  -- as long as the request has planned nothing, its new run has no tasks
  · obtain ⟨hs, hu⟩ := List.forall_mem_cons.mp hu
    have hplan : ∀ runID, s.plansFor ≠ some runID := by
      intro runID hplan
      cases s with
      | task s =>
        cases s with
        | insertTasks => cases hs
        | _ => cases hplan
      | _ => cases hplan
    rcases shows_cons.mp hshow with hlaunch | hold
    · -- a new run's key is above every key a task refers to
      rw [launches_eq_next hexec hlaunch]
      refine NoTasks.after hexec (hplan _) fun t ht hrun => ?_
      obtain ⟨r, hr, hid⟩ := hdb.refs t ht
      have hlt := c.state.runs.bound r hr
      rw [hid, hrun] at hlt
      exact Nat.lt_irrefl _ hlt
    · exact (haware.launching rfl hu runID hold).after hexec (hplan runID)

theorem Aware.failed {db : DB} (haware : Aware db ⟨h, .call s k⟩) :
    Aware db ⟨⟨s, none⟩ :: h, k none⟩ := by
  have hclears : s.clears none = none := by
    cases s with
    | task s => cases s <;> rfl
    | _ => rfl
  refine ⟨fun id run hask => ?_, fun runID stage rows hask => ?_, fun _ runID hshow => ?_,
    fun _ hu runID hshow => ?_⟩
  · exact haware.reads id run hask.of_failed
  · exact haware.seen runID stage rows hask.of_failed
  · rcases shows_cons.mp hshow with hnew | hold
    · rw [hclears] at hnew
      cases hnew
    · exact haware.cleared rfl runID hold
  · rcases shows_cons.mp hshow with hnew | hold
    · rw [s.launches_none] at hnew
      cases hnew
    · exact haware.launching rfl (List.forall_mem_cons.mp hu).2 runID hold

end Threads

/-! ### Whole runs -/

/-- The status a run has. -/
def runStatusOf (db : DB) (runID : UUID) : Option RunStatus := (db.runs.find? runID).map (·.status)

theorem runStatusOf_after {out : Outside} {env : Env} {db' : DB} {s : Stmt β} {b : β}
    {st : RunStatus} (hexec : s.exec out env db = some (b, db'))
    (hst : runStatusOf db runID = some st) (hterm : st.terminal = true)
    (hw : ∀ w ∈ s.writes, ¬ Ended db w.1) : runStatusOf db' runID = some st := by
  obtain ⟨r, hfind, rfl⟩ := Option.map_eq_some_iff.mp hst
  obtain ⟨hr, rfl⟩ := find?_eq_some.mp hfind
  obtain ⟨r', hr', hstep⟩ := Stmt.run_after hexec hr
  have hsame : s.statusAfter env db r = r.status :=
    statusAfter_of_terminal hterm fun st hst => hw _ hst ⟨r, hr, rfl, hterm⟩
  rw [runStatusOf, find?_eq_some.mpr ⟨hr', hstep.id⟩, Option.map_some, hstep.status, hsame]

/-- The invariant, together with a status that is to be kept. -/
theorem orderly_inductive (cfg : ControlConfig) (out : Outside) (kept : Option (UUID × RunStatus))
    (hkept : ∀ x ∈ kept, x.2.terminal = true) :
    System.Inductive (controlSystem cfg out)
      (fun c i β s => OrderlyEnd c i β s ∧ LaunchesApart id c) (controlPre cfg.launch.allowPrivate)
      (fun _ _ => True) (fun db => Orderly db ∧ ∀ x ∈ kept,
        runStatusOf db x.1 = some x.2) Aware := by
  refine ⟨fun _ r _ _ => ⟨?_, controlRequest_meets cfg r⟩, ?_, fun _ haware _ => haware.failed⟩
  · exact ⟨fun _ _ hask => hask.of_nil, fun _ _ _ hask => hask.of_nil,
      fun _ _ hshow => absurd hshow not_shows_nil, fun _ _ _ hshow => absurd hshow not_shows_nil⟩
  · intro c i h β s k env b db' hc hth hpre ⟨hok, hapart⟩ hexec
    obtain ⟨hdb, hst⟩ := hc.state
    have haware := hc.threads _ (List.mem_of_getElem? hth)
    refine ⟨⟨hdb.after hth haware hpre hok hexec, fun x hx => ?_⟩,
      haware.self hdb hth hok hexec,
      fun j th hij hj ha => ha.other hj hij hth haware hpre hok hapart hexec⟩
    exact runStatusOf_after hexec (hst x hx) (hkept x hx) fun w hw => (hok.2.1 w hw).1

/-- **A run that is over stays as it is, and none of its tasks is pending, leased or running**, in
every state that a run of the control plane reaches after it, as long as the runs end in order. -/
theorem ended_run_stays_ended (cfg : ControlConfig) (out : Outside) {db : DB}
    {es es' : List (Event ControlRequest Env)} {runID : UUID} {st : RunStatus} (hdb : Orderly db)
    (hok : (controlSystem cfg out).Along OrderlyEnd ⟨db, []⟩ (es ++ es'))
    (hst : runStatusOf ((controlSystem cfg out).run ⟨db, []⟩ es).state runID = some st)
    (hterm : st.terminal = true) :
    runStatusOf ((controlSystem cfg out).run ⟨db, []⟩ (es ++ es')).state runID = some st ∧
      NoOutstanding ((controlSystem cfg out).run ⟨db, []⟩ (es ++ es')).state runID := by
  have hboth := System.Along.and_inv (LaunchesApart.start db)
    (fun c e hc _ => hc.next (controlSystem_onStore cfg out)) hok
  obtain ⟨hok₁, hok₂⟩ := System.Along.append.mp hboth
  rw [System.run_append]
  have hmid := (orderly_inductive cfg out none nofun).run (.start ⟨hdb, nofun⟩) hok₁
  have hkept : ∀ x ∈ some (runID, st), x.2.terminal = true := by
    rintro x hx
    rw [← Option.some.inj hx]
    exact hterm
  have hend := (orderly_inductive cfg out (some (runID, st)) hkept).run
    ⟨⟨hmid.state.1, fun x hx => by rw [← Option.some.inj hx]; exact hst⟩, hmid.threads,
      hmid.contract⟩ hok₂
  have hlast : runStatusOf _ runID = some st := hend.state.2 (runID, st) rfl
  obtain ⟨r, hfind, hrst⟩ := Option.map_eq_some_iff.mp hlast
  obtain ⟨hr, hid⟩ := find?_eq_some.mp hfind
  refine ⟨hlast, ?_⟩
  rw [← hid]
  exact hend.state.1.ended r hr (by rw [hrst]; exact hterm)

/-! ### Ends that meet -/

/-- The small installation with its task done. -/
def doneTaskDB : DB :=
  { oneTaskDB with tasks := .ofRows [{ oneTask with status := .done }] (by decide) }

/-- A company with one name and nothing scanned yet. -/
def launchDB : DB where
  pools := oneTaskDB.pools
  scopeTargets := .ofRows
    [{ id := 1, scopeID := 1, kind := .domain, value := "example.org", mode := .active }]
    (by decide)

/-- `Advance` has counted the tasks of the run, and a user cancels it. -/
def cancelledWhileFinishing : List (Event ControlRequest Env) :=
  [.spawn (.advance 1)] ++ steps 0 18 ++ [.spawn (.cancelRun 1)] ++ steps 1 2

/-- A launch is about to insert the first tasks of the run, and a user cancels it. -/
def cancelledWhilePlanned : List (Event ControlRequest Env) :=
  [.spawn (.start 1 { profile := .passive, all := true })] ++ steps 0 11 ++
    [.spawn (.cancelRun 1)] ++ steps 1 2

/-- **A cancelled run becomes a completed one**, and another keeps its tasks pending. -/
theorem cancelled_run_goes_on :
    (runStatusOf ((controlSystem {} {}).run ⟨doneTaskDB, []⟩ cancelledWhileFinishing).state 1 =
        some .cancelled ∧
      runStatusOf ((controlSystem {} {}).run ⟨doneTaskDB, []⟩
        (cancelledWhileFinishing ++ steps 0 1)).state 1 = some .completed) ∧
    runStatusOf ((controlSystem {} {}).run ⟨launchDB, []⟩
        (cancelledWhilePlanned ++ steps 0 1)).state 1 = some .cancelled ∧
      ¬ NoOutstanding ((controlSystem {} {}).run ⟨launchDB, []⟩
        (cancelledWhilePlanned ++ steps 0 1)).state 1 := by
  decide +kernel

/-- A run that `Advance` completes outlives an attempt to pause and to resume it, the sweep of runs
that were never planned, and a dispatch. -/
theorem completed_run_stays :
    runStatusOf ((controlSystem {} {}).run ⟨doneTaskDB, []⟩
      (([.spawn (.advance 1)] ++ steps 0 19) ++
      ([.spawn (.pauseRun 1), .spawn (.resumeRun 1), .spawn (.failZombieRuns 600),
        .spawn (.gateway (.dispatchTick 1))] ++ steps 1 1 ++ steps 2 1 ++ steps 3 1 ++
        steps 4 4))).state 1 = some .completed ∧
    NoOutstanding ((controlSystem {} {}).run ⟨doneTaskDB, []⟩
      (([.spawn (.advance 1)] ++ steps 0 19) ++
      ([.spawn (.pauseRun 1), .spawn (.resumeRun 1), .spawn (.failZombieRuns 600),
        .spawn (.gateway (.dispatchTick 1))] ++ steps 1 1 ++ steps 2 1 ++ steps 3 1 ++
        steps 4 4))).state 1 :=
  ended_run_stays_ended {} {} ⟨by decide, by decide⟩ (by decide +kernel) (by decide +kernel) rfl

end PinkGlasses
