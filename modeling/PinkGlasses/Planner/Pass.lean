import PinkGlasses.Planner.Scan

/-!
# PinkGlasses.Planner.Pass

`PlanInitial` and `Advance`, served alone. A pass is at most **three batches of tasks and a
finish**: port scans for the addresses that are due (`Planner.newScans`), probes for what the port
scans have found (`ProbeFrom`), the web stages of what the probes have found (`WebFrom`). Each is
inserted whole or not at all (`Inserts`), and what is inserted is planned from the database as it is
then.
-/

namespace PinkGlasses

open Lib Prog System Store

namespace Planner

/-- The batch was inserted, each task with its pool, or nothing was done. -/
inductive Inserts (runID : UUID) (specs : List TaskSpec) (db : DB) : DB → Prop
  | nothing : Inserts runID specs db db
  | batch {rt : Routing} {ids : List UUID} {db' : DB}
      (h : insertTasks runID (specs.map (routed rt)) db = some (ids, db')) :
      Inserts runID specs db db'

/-- What the schema says of `task_origin`: an edge is from a task, and to a run target. -/
structure EdgesKeyed (db : DB) : Prop where
  task : ∀ e ∈ db.taskOrigins, e.taskID < db.tasks.next
  target : ∀ e ∈ db.taskOrigins, e.runTargetID ≠ uuidNil

/-- The row is that of a planned task, new, and its edges in the database are to the task's
origins. -/
structure NewRow (runID : UUID) (sp : TaskSpec) (db' : DB) (t : ScanTask) : Prop where
  ofRun : t.runID = runID
  stage : t.stage = sp.stage
  ip : t.target.ip = sp.target.ip
  addresses : targetAddresses t.target = targetAddresses sp.target
  pending : t.status = .pending
  result : t.result = none
  origins : ∀ o, ⟨t.id, o⟩ ∈ db'.taskOrigins ↔ o ∈ sp.origins ∧ o ≠ uuidNil

/-- **What inserting does**: new rows after the old ones, whose edges stay as they were. -/
structure Adds (runID : UUID) (specs : List TaskSpec) (db db' : DB) (new : List ScanTask) :
    Prop where
  rows : db'.tasks.rows = db.tasks.rows ++ new
  keyed : EdgesKeyed db'
  old : ∀ t ∈ db.tasks.rows, ∀ o, ⟨t.id, o⟩ ∈ db'.taskOrigins ↔ ⟨t.id, o⟩ ∈ db.taskOrigins
  new : ∀ t ∈ new, ∃ sp ∈ specs, NewRow runID sp db' t

variable {runID : UUID} {db' db : DB} {specs : List TaskSpec}

theorem newRow_newTask {rt : Routing} {sp : TaskSpec} {t : ScanTask}
    (h : t = newTask runID (routed rt sp) t.id)
    (horigins : ∀ o, ⟨t.id, o⟩ ∈ db'.taskOrigins ↔ o ∈ sp.origins ∧ o ≠ uuidNil) :
    NewRow runID sp db' t where
  ofRun := by rw [h]; rfl
  stage := by rw [h]; rfl
  ip := by
    rw [h]
    show (if sp.wordlist = "" then sp.target
      else { sp.target with wordlistID := sp.wordlist }).ip = _
    split
    · rfl
    · rfl
  addresses := by rw [h, addresses_newTask]; rfl
  pending := by rw [h]; rfl
  result := by rw [h]; rfl
  origins := horigins

theorem Inserts.adds (h : Inserts runID specs db db') (hdb : EdgesKeyed db) :
    ∃ new, Adds runID specs db db' new := by
  cases h with
  | nothing =>
    exact ⟨[], (List.append_nil _).symm, hdb, fun _ _ _ => Iff.rfl, List.forall_mem_nil _⟩
  | batch h =>
    have hrows := insertTasks_rows h
    obtain ⟨d, hd, hids⟩ := Option.map_eq_some_iff.mp h
    cases hids
    refine ⟨_, hrows, ⟨edges_insertBatch hd hdb.task, nonnil_insertBatch hd hdb.target⟩,
      fun t ht o => ?_, fun t ht => ?_⟩
    · have hbound : t.id < db.tasks.next := db.tasks.bound t ht
      exact origins_insertBatch_old (e := ⟨t.id, o⟩) hd hbound
    · obtain ⟨sp', hsp', hrow, hedges⟩ := origins_insertBatch_new hd hdb.task ht
      obtain ⟨sp, hsp, rfl⟩ := List.mem_map.mp hsp'
      exact ⟨sp, hsp, newRow_newTask hrow hedges⟩

/-- Inserting moves only counters of the run targets, and nothing of the runs. -/
theorem Inserts.targets (h : Inserts runID specs db db') :
    Store.CountersMove db.runTargets.rows db'.runTargets.rows ∧ db'.runs = db.runs := by
  cases h with
  | nothing => exact ⟨.refl _, rfl⟩
  | batch h =>
    obtain ⟨d, hd, hids⟩ := Option.map_eq_some_iff.mp h
    cases hids
    exact ⟨(insertBatch_grows hd).1, by rw [(insertBatch_frame hd).1]⟩

theorem Inserts.edges (h : Inserts runID specs db db') :
    db.taskOrigins ⊆ db'.taskOrigins ∧ (db' = db ∨
      ∀ sp ∈ specs, ∀ o ∈ sp.origins, o ≠ uuidNil → ∃ e ∈ db'.taskOrigins, e.runTargetID = o) := by
  cases h with
  | nothing => exact ⟨List.Subset.refl _, .inl rfl⟩
  | batch h =>
    obtain ⟨d, hd, hids⟩ := Option.map_eq_some_iff.mp h
    cases hids
    refine ⟨(insertBatch_grows hd).2.2.1, .inr fun sp hsp o ho hnil => ?_⟩
    exact exists_edge_insertBatch hd (List.mem_map_of_mem hsp) ho hnil

/-- The task probes a service a port scan of the run has found. -/
def ProbeFrom (db : DB) (runID : UUID) (sp : TaskSpec) : Prop :=
  ∃ t ∈ db.tasks.rows, t.runID = runID ∧ t.stage = .portScan ∧
    ∃ sv ∈ (decode t.result).services, sp = spec .serviceProbe { ip := sv.ip, port := sv.port } 200
      (origin0 (originsForTask t.id db))

/-- The task is a web stage of a live endpoint a probe of the run has found. -/
def WebFrom (db : DB) (runID : UUID) (sp : TaskSpec) : Prop :=
  ∃ t ∈ db.tasks.rows, t.runID = runID ∧ t.stage = .serviceProbe ∧
    ∃ u ∈ (decode t.result).webURLs, webStage sp.stage = true ∧ sp.target.ip = (ipPortFromURL u).1 ∧
      sp.origins = [origin0 (originsForTask t.id db)]

section Alone

variable {α β : Type} {cfg : ControlConfig} {out : Outside} {env : Env} {db : DB}

/-- What holds after an error of the first part, and after the second part, holds after both. -/
theorem alone_bind_cases {x : Go α} {f : α → Go β} {Q : DB → Prop}
    (herr : ∀ db₁ e, alone cfg out env db x = (db₁, .error e) → Q db₁)
    (hok : ∀ db₁ a, alone cfg out env db x = (db₁, .ok a) → Q (alone cfg out env db₁ (f a)).1) :
    Q (alone cfg out env db (x >>= f)).1 := by
  rw [alone_bind]
  cases h : alone cfg out env db x with
  | mk db₁ r =>
    cases r with
    | error e => exact herr db₁ e h
    | ok a => exact hok db₁ a h

theorem alone_insertRouted_inserts (runID : UUID) (rt : Routing) (specs : List TaskSpec) :
    Inserts runID specs db (alone cfg out env db (insertRouted runID rt specs)).1 := by
  rw [alone_insertRouted]
  cases hroute : routeTasks specs rt with
  | error e => exact .nothing
  | ok routed =>
    obtain ⟨rfl, -⟩ := routeTasks_ok hroute
    dsimp only
    cases hins : insertTasks runID (specs.map (Planner.routed rt)) db with
    | none => exact .nothing
    | some r => exact .batch hins

theorem planned_inserts (run : ScanRun) (specs : List TaskSpec) :
    Inserts run.id specs db (planned cfg out env db run specs).1 := by
  unfold planned
  cases passivePoolOf db with
  | none => exact .nothing
  | some p =>
    dsimp only
    split
    · exact .nothing
    · exact alone_insertRouted_inserts _ _ _

/-! ### Probes -/

/-- `addTaskProbes`, with the origins the database has. -/
def taskProbes (db : DB) (acc : List String × List TaskSpec) (t : TaskRow) :
    List String × List TaskSpec :=
  if (t.status ≠ .done ∧ t.status ≠ .failed) ∨ (decode t.result).services = [] then acc
  else (decode t.result).services.foldl (addProbe (origin0 (originsForTask t.id db))) acc

theorem alone_addProbes (acc : List String × List TaskSpec) (rows : List TaskRow) :
    alone cfg out env db (addProbes acc rows) = (db, .ok (rows.foldl (taskProbes db) acc)) := by
  induction rows generalizing acc with
  | nil => rfl
  | cons t rows ih =>
    have hone : alone cfg out env db (addTaskProbes acc t) = (db, .ok (taskProbes db acc t)) := by
      unfold addTaskProbes taskProbes
      split
      · rfl
      · rw [alone_bind_ok (alone_originsOf t.id)]
        rfl
    unfold addProbes
    rw [alone_bind_ok hone, ih]
    rfl

theorem mem_foldl_taskProbes {acc : List String × List TaskSpec} {rows : List TaskRow}
    {sp : TaskSpec}
    (h : sp ∈ (rows.foldl (taskProbes db) acc).2) : sp ∈ acc.2 ∨
      ∃ t ∈ rows, ∃ sv ∈ (decode t.result).services,
        sp = spec .serviceProbe { ip := sv.ip, port := sv.port } 200
          (origin0 (originsForTask t.id db)) := by
  induction rows generalizing acc with
  | nil => exact .inl h
  | cons t rows ih =>
    rcases ih h with hacc | ⟨t', ht', hrest⟩
    · unfold taskProbes at hacc
      split at hacc
      · exact .inl hacc
      · rcases mem_foldl_addProbe hacc with hold | ⟨sv, hsv, heq⟩
        · exact .inl hold
        · exact .inr ⟨t, List.mem_cons_self, sv, hsv, heq⟩
    · exact .inr ⟨t', List.mem_cons_of_mem _ ht', hrest⟩

theorem mem_tasksByStage {runID : UUID} {stage : Stage} {row : TaskRow}
    (h : row ∈ tasksByStage runID stage db) : ∃ t ∈ db.tasks.rows, t.runID = runID ∧
      t.stage = stage ∧ row = ⟨t.id, t.stage, t.status, t.result⟩ := by
  simp only [tasksByStage, List.mem_map, List.mem_filter, Bool.and_eq_true, beq_iff_eq] at h
  obtain ⟨t, ⟨ht, hrun, hstage⟩, rfl⟩ := h
  exact ⟨t, ht, hrun, hstage, rfl⟩

/-- The probes one call plans, beside those of `already`. -/
def newProbes (already : List String) (runID : UUID) (db : DB) : List TaskSpec :=
  ((tasksByStage runID .portScan db).foldl (taskProbes db) (already, [])).2

theorem probeFrom_newProbes {already : List String} {runID : UUID} {sp : TaskSpec}
    (h : sp ∈ newProbes already runID db) : ProbeFrom db runID sp := by
  rcases mem_foldl_taskProbes h with hold | ⟨row, hrow, sv, hsv, heq⟩
  · cases hold
  · obtain ⟨t, ht, hrun, hstage, rfl⟩ := mem_tasksByStage hrow
    exact ⟨t, ht, hrun, hstage, sv, hsv, heq⟩

theorem alone_probeNewServices (run : ScanRun) :
    alone cfg out env db (probeNewServices run) = match probedEndpoints run.id db with
      | none => (db, .error dbError)
      | some already => planned cfg out env db run (newProbes already run.id db) := by
  unfold probeNewServices
  rw [alone_exec_bind (s := .task (.tasksByStage run.id .portScan)) rfl]
  cases hkeys : probedEndpoints run.id db with
  | none =>
    have hnone : (Stmt.task (.probedEndpoints run.id)).exec out env db = none := by
      simp only [Stmt.exec, TaskStmt.exec, hkeys]
      rfl
    rw [alone_bind, alone_exec_none hnone]
  | some already =>
    have hsome : (Stmt.task (.probedEndpoints run.id)).exec out env db = some (already, db) := by
      simp only [Stmt.exec, TaskStmt.exec, hkeys]
      rfl
    rw [alone_exec_bind hsome]
    refine alone_planned fun rt => ?_
    rw [alone_bind_ok (alone_addProbes _ _)]
    rfl

/-! ### The web stages -/

theorem alone_namesFor (scopeID : UUID) (maxNames : Nat) (cache : NameCache) (ip : String) :
    ∃ r, alone cfg out env db (namesFor scopeID maxNames cache ip) = (db, .ok r) := by
  unfold namesFor
  cases cache.lookup ip with
  | some names => exact ⟨_, rfl⟩
  | none =>
    have hread : (Stmt.asset (.namesResolvingTo scopeID ip (maxNames + 1))).exec out env db =
        ((out.inet ip).map fun a => namesResolvingTo scopeID a (maxNames + 1) db).map (·, db) := by
      rw [Option.map_map]
      rfl
    dsimp only
    rw [alone_try_bind hread]
    exact ⟨_, rfl⟩

theorem alone_urlSpecs (w : WebPlan) (origin : UUID) (cache : NameCache) (urls : List String) :
    ∃ r, alone cfg out env db (urlSpecs w origin cache urls) = (db, .ok r) ∧
      ∀ sp ∈ r.1, ∃ u ∈ urls, webStage sp.stage = true ∧ sp.target.ip = (ipPortFromURL u).1 ∧
        sp.origins = [origin] := by
  induction urls generalizing cache with
  | nil => exact ⟨_, rfl, List.forall_mem_nil _⟩
  | cons u urls ih =>
    obtain ⟨⟨names, cache'⟩, hnames⟩ :=
      @alone_namesFor cfg out env db w.scopeID w.maxNames cache (ipPortFromURL u).1
    obtain ⟨⟨rest, cache''⟩, hrest, hall⟩ := ih cache'
    refine ⟨((webTargets u (ipPortFromURL u).1 (ipPortFromURL u).2 names w.maxNames).flatMap
      (webSpecs w.stages origin) ++ rest, cache''), ?_, fun sp hsp => ?_⟩
    · unfold urlSpecs
      rw [alone_bind_ok hnames]
      dsimp only
      rw [alone_bind_ok hrest]
      rfl
    -- of this URL, or of a later one
    · rcases List.mem_append.mp hsp with hnew | hold
      · obtain ⟨tgt, htgt, hmem⟩ := List.mem_flatMap.mp hnew
        obtain ⟨rfl, hstage, horigin⟩ := mem_webSpecs hmem
        exact ⟨u, List.mem_cons_self, hstage, ip_of_mem_webTargets htgt, horigin⟩
      · obtain ⟨u', hu', hrest⟩ := hall sp hold
        exact ⟨u', List.mem_cons_of_mem _ hu', hrest⟩

theorem alone_probeSpecs (w : WebPlan) (cache : NameCache) (rows : List TaskRow) :
    ∃ specs, alone cfg out env db (probeSpecs w cache rows) = (db, .ok specs) ∧
      ∀ sp ∈ specs, ∃ t ∈ rows, ∃ u ∈ (decode t.result).webURLs, webStage sp.stage = true ∧
        sp.target.ip = (ipPortFromURL u).1 ∧ sp.origins = [origin0 (originsForTask t.id db)] := by
  induction rows generalizing cache with
  | nil => exact ⟨_, rfl, List.forall_mem_nil _⟩
  | cons t rows ih =>
    obtain ⟨⟨specs, cache'⟩, hspecs, hone⟩ := @alone_urlSpecs cfg out env db w
      (origin0 (originsForTask t.id db)) cache (decode t.result).webURLs
    obtain ⟨rest, hrest, hall⟩ := ih cache'
    refine ⟨specs ++ rest, ?_, fun sp hsp => ?_⟩
    · unfold probeSpecs
      rw [alone_bind_ok (alone_originsOf t.id), alone_bind_ok hspecs]
      dsimp only
      rw [alone_bind_ok hrest]
      rfl
    · rcases List.mem_append.mp hsp with hnew | hold
      · exact ⟨t, List.mem_cons_self, hone sp hnew⟩
      · obtain ⟨t', ht', hrest⟩ := hall sp hold
        exact ⟨t', List.mem_cons_of_mem _ ht', hrest⟩

theorem alone_maybePostProbe (run : ScanRun) :
    alone cfg out env db (maybePostProbe run) = (db, .ok ()) ∨
      ∃ specs, (∀ sp ∈ specs, WebFrom db run.id sp) ∧
        alone cfg out env db (maybePostProbe run) = planned cfg out env db run specs := by
  unfold maybePostProbe
  rw [alone_try_bind (r := some (stageExists run.id .techDetect db)) rfl]
  -- the stage was planned before, or its probes are still out
  split
  · exact .inl rfl
  · rw [alone_try_bind (r := some (stageOutstanding run.id [.serviceProbe] db)) rfl]
    split
    · exact .inl rfl
    · unfold postProbe
      rw [alone_exec_bind (s := .task (.tasksByStage run.id .serviceProbe)) rfl,
        alone_try_bind (exec_getRunParams run.id)]
      obtain ⟨specs, hspecs, hall⟩ := @alone_probeSpecs cfg out env db
        ⟨run.scopeID, postProbeStages ((paramsOf run.id db).getD []),
          maxVhosts ((paramsOf run.id db).getD [])⟩ [] (tasksByStage run.id .serviceProbe db)
      refine .inr ⟨specs, fun sp hsp => ?_, alone_planned fun rt => ?_⟩
      · obtain ⟨row, hrow, u, hu, hrest⟩ := hall sp hsp
        obtain ⟨t, ht, hrun, hstage, rfl⟩ := mem_tasksByStage hrow
        exact ⟨t, ht, hrun, hstage, u, hu, hrest⟩
      · rw [alone_bind_ok hspecs]

/-! ### The statuses of runs and targets -/

def RunStmt.labels : RunStmt β → Bool
  | .setRunStatus _ _ => true
  | s => s.quiet

/-- The statement reads, or writes the status of a run or a run target. -/
def Labels (β : Type) : Stmt β → Prop
  | .run s => RunStmt.labels s = true
  | s => s.quiet = true

variable (cfg out env) in
/-- Reads and writes of statuses lead from one database to the other. -/
abbrev Labeled (db db' : DB) : Prop := (controlSystem cfg out).Steps env Labels db db'

/-- What becomes of a target when the statuses found for those of a list are written, one after the
other. -/
def relabeled (label : RunTarget → Option (TargetStatus × Option String)) (ts : List RunTarget)
    (x : RunTarget) : RunTarget :=
  ts.foldl (fun x t => match label t with
    | some st => if x.id = t.id then runTargetStatusRow st.1 st.2 x else x
    | none => x) x

section Relabeled

variable {label : RunTarget → Option (TargetStatus × Option String)} {ts : List RunTarget}
  {t x : RunTarget}

theorem relabeled_cons_none (h : label t = none) :
    relabeled label (t :: ts) x = relabeled label ts x := by
  unfold relabeled
  rw [List.foldl_cons, h]

theorem relabeled_cons_some {st : TargetStatus × Option String} (h : label t = some st) :
    relabeled label (t :: ts) x =
      relabeled label ts (if x.id = t.id then runTargetStatusRow st.1 st.2 x else x) := by
  unfold relabeled
  rw [List.foldl_cons, h]

theorem relabeled_of_forall_ne (h : ∀ t ∈ ts, x.id ≠ t.id) : relabeled label ts x = x := by
  induction ts with
  | nil => rfl
  | cons t ts ih =>
    obtain ⟨hne, hrest⟩ := List.forall_mem_cons.mp h
    cases hlabel : label t with
    | none => rw [relabeled_cons_none hlabel, ih hrest]
    | some st => rw [relabeled_cons_some hlabel, if_neg hne, ih hrest]

theorem relabeled_of_mem (hnodup : (ts.map (·.id)).Nodup) (hx : x ∈ ts) :
    relabeled label ts x = match label x with
      | some st => runTargetStatusRow st.1 st.2 x
      | none => x := by
  induction ts with
  | nil => cases hx
  | cons t ts ih =>
    rw [List.map_cons, List.nodup_cons] at hnodup
    have hfresh : ∀ t' ∈ ts, t.id ≠ t'.id := fun t' ht' heq =>
      hnodup.1 (heq ▸ List.mem_map_of_mem ht')
    rcases List.mem_cons.mp hx with rfl | hmem
    · cases hlabel : label x with
      | none => rw [relabeled_cons_none hlabel, relabeled_of_forall_ne hfresh]
      | some st =>
        rw [relabeled_cons_some hlabel, if_pos rfl]
        exact relabeled_of_forall_ne hfresh
    · cases hlabel : label t with
      | none => rw [relabeled_cons_none hlabel, ih hnodup.2 hmem]
      | some st =>
        rw [relabeled_cons_some hlabel, if_neg fun heq => hfresh x hmem heq.symm, ih hnodup.2 hmem]

theorem sameTarget_relabeled (label : RunTarget → Option (TargetStatus × Option String))
    (ts : List RunTarget) (x : RunTarget) : SameTarget x (relabeled label ts x) := by
  induction ts generalizing x with
  | nil => exact .refl x
  | cons t ts ih =>
    cases hlabel : label t with
    | none =>
      rw [relabeled_cons_none hlabel]
      exact ih x
    | some st =>
      rw [relabeled_cons_some hlabel]
      refine SameTarget.trans ?_ (ih _)
      split
      · exact ⟨rfl, rfl, rfl, rfl⟩
      · exact .refl x

end Relabeled

/-- The status `finish` finds for a target. -/
def finishLabel (t : RunTarget) : Option (TargetStatus × Option String) :=
  if t.status = .skipped then none else some (finishedStatus t, none)

/-- The database with the status of a target written. -/
def labelTarget (id : UUID) (status : TargetStatus) (reason : Option String) (db : DB) : DB :=
  { db with
    runTargets := db.runTargets.update (·.id == id) (runTargetStatusRow status reason)
      fun t => (rfl : t.id = t.id) }

theorem labeled_labelTarget (id : UUID) (status : TargetStatus) (reason : Option String) :
    Labeled cfg out env db (labelTarget id status reason db) :=
  Steps.refl.tail (s := .run (.setRunTargetStatus id status reason)) rfl rfl

theorem alone_label {f : Option Unit → Go β} (id : UUID) (status : TargetStatus)
    (reason : Option String) :
    alone cfg out env db (Go.try (.run (.setRunTargetStatus id status reason)) >>= f) =
      alone cfg out env (labelTarget id status reason db) (f (some ())) := by
  refine alone_bind_ok ?_
  show (controlSystem cfg out).outcome env db (Prog.attempt _).run = _
  rw [outcome_attempt]
  rfl

theorem map_relabeled_labelTarget {label : RunTarget → Option (TargetStatus × Option String)}
    {t : RunTarget} {st : TargetStatus × Option String} (h : label t = some st)
    (ts : List RunTarget) :
    (labelTarget t.id st.1 st.2 db).runTargets.rows.map (relabeled label ts) =
      db.runTargets.rows.map (relabeled label (t :: ts)) := by
  show (db.runTargets.rows.map _).map _ = _
  rw [List.map_map]
  refine List.map_congr_left fun x _ => ?_
  rw [relabeled_cons_some h, Function.comp_apply]
  by_cases hid : x.id = t.id
  · rw [if_pos (beq_iff_eq.mpr hid), if_pos hid]
  · rw [if_neg (by simpa using hid), if_neg hid]

theorem alone_finishTargets (ts : List RunTarget) : ∃ db',
    alone cfg out env db (finishTargets ts) = (db', .ok ()) ∧ Labeled cfg out env db db' ∧
      db'.runTargets.rows = db.runTargets.rows.map (relabeled finishLabel ts) ∧
      db'.runs = db.runs ∧ db'.tasks = db.tasks ∧ db'.taskOrigins = db.taskOrigins := by
  induction ts generalizing db with
  | nil => exact ⟨db, rfl, .refl, (List.map_id _).symm, rfl, rfl, rfl⟩
  | cons t ts ih =>
    -- a skipped target keeps its status
    by_cases hskip : t.status = .skipped
    · obtain ⟨db', hrest, hlabel, hrows, hkept⟩ := @ih db
      refine ⟨db', ?_, hlabel, ?_, hkept⟩
      · unfold finishTargets
        rw [if_pos hskip]
        exact hrest
      · rw [hrows]
        exact List.map_congr_left fun x _ => (relabeled_cons_none (if_pos hskip)).symm
    · obtain ⟨db', hrest, hlabel, hrows, hkept⟩ := @ih (labelTarget t.id (finishedStatus t) none db)
      refine ⟨db', ?_, (labeled_labelTarget _ _ _).trans hlabel, ?_, hkept⟩
      · unfold finishTargets
        rw [if_neg hskip]
        exact (alone_label _ _ _).trans hrest
      · rw [hrows]
        have hst : finishLabel t = some (finishedStatus t, none) := if_neg hskip
        exact map_relabeled_labelTarget hst ts

theorem labeled_setRunStatus (id : UUID) (status : RunStatus) {db' : DB}
    (hexec : (Stmt.run (.setRunStatus id status)).exec out env db = some ((), db')) :
    Labeled cfg out env db db' :=
  Steps.refl.tail (s := .run (.setRunStatus id status)) rfl hexec

/-! ### The end of a pass -/

variable (cfg out env) in
/-- The pass finished the run: nothing was outstanding, and every target got its status. -/
structure Finishes (run : ScanRun) (db db' : DB) : Prop where
  started : 0 < (runProgress run.id db).total
  idle : (runProgress run.id db).outstanding = 0
  labeled : Labeled cfg out env db db'
  targets : db'.runTargets.rows =
    db.runTargets.rows.map (relabeled finishLabel (listRunTargets run.id db))
  tasks : db'.tasks = db.tasks
  origins : db'.taskOrigins = db.taskOrigins

/-- A run with tasks and none outstanding is finished, any other left as it is. -/
theorem alone_complete (run : ScanRun) :
    (¬(0 < (runProgress run.id db).total ∧ (runProgress run.id db).outstanding = 0) ∧
      alone cfg out env db (complete run) = (db, .ok false)) ∨
    ∃ db', alone cfg out env db (complete run) = (db', .ok true) ∧ Finishes cfg out env run db db' ∧
      db'.runs = db.runs.update (·.id == run.id) (runStatusRow env .completed) := by
  unfold complete
  rw [alone_exec_bind (s := .task (.runProgress run.id)) rfl]
  split
  · rename_i hover
    -- the targets get their verdicts, then the run its status
    obtain ⟨db₁, hts, hlabel, hrows, hruns, htasks, horigins⟩ :=
      @alone_finishTargets cfg out env db (listRunTargets run.id db)
    obtain ⟨db₂, hset, hsame⟩ : ∃ db₂,
      (Stmt.run (.setRunStatus run.id .completed)).exec out env db₁ =
        some ((), db₂) ∧ db₂ = { db₁ with
          runs := db₁.runs.update (·.id == run.id) (runStatusRow env .completed) } := ⟨_, rfl, rfl⟩
    have hfinish : alone cfg out env db (finish run) = (db₂, .ok ()) := by
      unfold finish
      rw [alone_exec_bind (s := .run (.listRunTargets run.id)) rfl, alone_bind_ok hts]
      exact alone_exec hset
    rw [alone_bind_ok hfinish]
    have hlabeled := hlabel.trans (labeled_setRunStatus _ _ hset)
    subst hsame
    exact .inr ⟨_, rfl, ⟨hover.1, hover.2, hlabeled, hrows, htasks, horigins⟩, by rw [← hruns]⟩
  · rename_i hover
    exact .inl ⟨hover, rfl⟩

/-- **What planning does**: the three batches, each planned where the one before left. -/
inductive Plans (allowPrivate : Bool) (run : ScanRun) (db : DB) : DB → Prop
  | intro {db₁ db₂ db₃ : DB} {probes web : List TaskSpec}
      (hscan : Inserts run.id (newScans allowPrivate run db) db db₁)
      (hprobes : ∀ sp ∈ probes, ProbeFrom db₁ run.id sp) (hprobe : Inserts run.id probes db₁ db₂)
      (hwebs : ∀ sp ∈ web, WebFrom db₂ run.id sp) (hweb : Inserts run.id web db₂ db₃) :
      Plans allowPrivate run db db₃

theorem alone_planNext (allowPrivate : Bool) (run : ScanRun) :
    Plans allowPrivate run db (alone cfg out env db (planNext allowPrivate run)).1 := by
  have hscan : Inserts run.id (newScans allowPrivate run db) db
      (alone cfg out env db (scanNewAddresses allowPrivate run)).1 := by
    rw [alone_scanNewAddresses]
    split
    · exact .nothing
    · exact planned_inserts _ _
  have hprobe : ∀ db, ∃ specs, (∀ sp ∈ specs, ProbeFrom db run.id sp) ∧
      Inserts run.id specs db (alone cfg out env db (probeNewServices run)).1 := by
    intro db
    rw [alone_probeNewServices]
    cases probedEndpoints run.id db with
    | none => exact ⟨[], List.forall_mem_nil _, .nothing⟩
    | some already => exact ⟨_, fun _ => probeFrom_newProbes, planned_inserts _ _⟩
  have hweb : ∀ db, ∃ specs, (∀ sp ∈ specs, WebFrom db run.id sp) ∧
      Inserts run.id specs db (alone cfg out env db (maybePostProbe run)).1 := by
    intro db
    rcases @alone_maybePostProbe cfg out env db run with h | ⟨specs, hspecs, h⟩ <;> rw [h]
    · exact ⟨[], List.forall_mem_nil _, .nothing⟩
    · exact ⟨specs, hspecs, planned_inserts _ _⟩
  unfold planNext
  -- a step that fails ends the pass; what was inserted before it stays
  refine alone_bind_cases (fun db₁ e herr => ?_) fun db₁ _ hok => ?_
  · rw [herr] at hscan
    exact .intro hscan (List.forall_mem_nil _) .nothing (List.forall_mem_nil _) .nothing
  · rw [hok] at hscan
    obtain ⟨probes, hprobes, hprobe⟩ := hprobe db₁
    refine alone_bind_cases (fun db₂ e herr => ?_) fun db₂ _ hok => ?_
    · rw [herr] at hprobe
      exact .intro hscan hprobes hprobe (List.forall_mem_nil _) .nothing
    · rw [hok] at hprobe
      obtain ⟨web, hwebs, hweb⟩ := hweb db₂
      exact .intro hscan hprobes hprobe hwebs hweb

variable (cfg out env) in
/-- **What a pass does**: it plans, from what it finds, and may finish the run. -/
inductive Passes (allowPrivate : Bool) (run : ScanRun) (db : DB) : DB → Prop
  | idle : Passes allowPrivate run db db
  | plans {db' : DB} (h : Plans allowPrivate run db db') : Passes allowPrivate run db db'
  | finishes {db₁ db' : DB} (h : Plans allowPrivate run db db₁)
      (hfin : Finishes cfg out env run db₁ db') : Passes allowPrivate run db db'

theorem alone_advance (allowPrivate : Bool) (run : ScanRun) :
    Passes cfg out env allowPrivate run db (alone cfg out env db (advance allowPrivate run)).1 := by
  -- the last step is the same whether or not anything was planned
  have hend : ∀ {d : DB}, Plans allowPrivate run db d →
      Passes cfg out env allowPrivate run db (alone cfg out env d (complete run)).1 := by
    intro d hplans
    rcases @alone_complete cfg out env d run with ⟨-, hsame⟩ | ⟨d', hdone, hfin, -⟩
    · rw [hsame]
      exact .plans hplans
    · rw [hdone]
      exact .finishes hplans hfin
  have hnone : Plans allowPrivate run db db :=
    .intro .nothing (List.forall_mem_nil _) .nothing (List.forall_mem_nil _) .nothing
  unfold advance
  split
  · exact .idle
  · split
    · have hplans := @alone_planNext cfg out env db allowPrivate run
      refine alone_bind_cases (fun d e herr => ?_) fun d _ hok => ?_
      · rw [herr] at hplans
        exact .plans hplans
      · rw [hok] at hplans
        exact hend hplans
    · exact hend hnone

/-! ### The first tasks -/

theorem alone_planTargets (allowPrivate passive : Bool) (scopeTargets : List ScopeTarget)
    (ts : List RunTarget) : ∃ db', Labeled cfg out env db db' ∧
      db'.runTargets.rows = db.runTargets.rows.map
        (relabeled (fun t => (planTarget allowPrivate passive scopeTargets t).2) ts) ∧
      alone cfg out env db (planTargets allowPrivate passive scopeTargets ts) =
        (db', .ok (ts.flatMap fun t => (planTarget allowPrivate passive scopeTargets t).1)) := by
  induction ts generalizing db with
  | nil => exact ⟨db, .refl, (List.map_id _).symm, rfl⟩
  | cons t ts ih =>
    unfold planTargets
    dsimp only
    cases hst : (planTarget allowPrivate passive scopeTargets t).2 with
    | none =>
      obtain ⟨db', hlabel, hrows, hrest⟩ := @ih db
      refine ⟨db', hlabel, ?_, ?_⟩
      · rw [hrows]
        exact List.map_congr_left fun x _ => (relabeled_cons_none hst).symm
      · dsimp only
        rw [alone_bind_ok hrest]
        rfl
    | some st =>
      obtain ⟨db', hlabel, hrows, hrest⟩ := @ih (labelTarget t.id st.1 st.2 db)
      refine ⟨db', (labeled_labelTarget _ _ _).trans hlabel, ?_, ?_⟩
      · rw [hrows]
        exact map_relabeled_labelTarget hst ts
      · dsimp only
        rw [alone_label, alone_bind_ok hrest]
        rfl

theorem alone_dnsBruteSpecs (run : ScanRun) (ts : List RunTarget) : ∃ brute,
    alone cfg out env db (dnsBruteSpecs run ts) = (db, .ok brute) ∧
      ∀ sp ∈ brute, sp.stage = .dnsBrute ∧ ∃ t ∈ ts, sp.origins = [t.id] := by
  unfold dnsBruteSpecs
  split
  · exact ⟨[], rfl, List.forall_mem_nil _⟩
  · rw [alone_try_bind (exec_getRunParams run.id)]
    split
    · exact ⟨[], rfl, List.forall_mem_nil _⟩
    · rw [alone_try_bind (r := some (runWordlists run.id db)) rfl]
      refine ⟨_, rfl, fun sp hsp => ?_⟩
      obtain ⟨t, ht, hsp⟩ := List.mem_flatMap.mp hsp
      obtain ⟨wl, -, rfl⟩ := List.mem_map.mp hsp
      exact ⟨rfl, t, (List.mem_filter.mp ht).1, rfl⟩

/-- The first tasks of a run: what its targets are given, and brute-force tasks. -/
structure FirstBatch (allowPrivate : Bool) (run : ScanRun) (targets : List RunTarget)
    (scopeTargets : List ScopeTarget) (specs : List TaskSpec) : Prop where
  split : ∃ brute, specs = (targets.flatMap fun t =>
      (planTarget allowPrivate (run.profile == .passive) scopeTargets t).1) ++ brute ∧
    ∀ sp ∈ brute, sp.stage = .dnsBrute ∧ ∃ t ∈ targets, sp.origins = [t.id]

variable (cfg out env) in
/-- **What `PlanInitial` does**: it labels the targets and inserts the batch, which may fail. -/
structure Starts (allowPrivate : Bool) (run : ScanRun) (targets : List RunTarget)
    (scopeTargets : List ScopeTarget) (db db₁ db' : DB) (specs : List TaskSpec) : Prop where
  labeled : Labeled cfg out env db db₁
  batch : FirstBatch allowPrivate run targets scopeTargets specs
  inserts : Inserts run.id specs db₁ db'
  targets : db' = db₁ ∨ db₁.runTargets.rows = db.runTargets.rows.map
    (relabeled (fun t => (planTarget allowPrivate (run.profile == .passive) scopeTargets t).2)
      targets)

theorem alone_planInitial (allowPrivate : Bool) (run : ScanRun) (targets : List RunTarget)
    (scopeTargets : List ScopeTarget) : ∃ db₁ specs,
      Starts cfg out env allowPrivate run targets scopeTargets db db₁
        (alone cfg out env db (planInitial allowPrivate run targets scopeTargets)).1 specs := by
  obtain ⟨db₁, hset, hsame⟩ : ∃ db₁, (Stmt.run (.setRunStatus run.id .running)).exec out env db =
    some ((), db₁) ∧ db₁.runTargets = db.runTargets := ⟨_, rfl, rfl⟩
  have hstart : Labeled cfg out env db db₁ := labeled_setRunStatus _ _ hset
  unfold planInitial
  rw [alone_exec_bind hset, alone_bind, alone_routingFor]
  -- without a pool for the passive stages nothing is planned
  cases passivePoolOf db₁ with
  | none => exact ⟨db₁, _, hstart, ⟨[], rfl, List.forall_mem_nil _⟩, .nothing, .inl rfl⟩
  | some p =>
    obtain ⟨db₂, hlabel, hrows, hspecs⟩ := @alone_planTargets cfg out env db₁ allowPrivate
      (run.profile == .passive) scopeTargets targets
    obtain ⟨brute, hbrute, hall⟩ := @alone_dnsBruteSpecs cfg out env db₂ run targets
    dsimp only
    rw [alone_bind_ok hspecs, alone_bind_ok hbrute]
    split
    -- no task came of the targets: the run is over at once
    · obtain ⟨db₃, hend⟩ : ∃ db₃, (Stmt.run (.setRunStatus run.id .completed)).exec out env db₂ =
        some ((), db₃) := ⟨_, rfl⟩
      refine ⟨db₃, _, hstart.trans (hlabel.trans (labeled_setRunStatus _ _ hend)),
        ⟨brute, rfl, hall⟩, ?_, .inl ?_⟩
      · rw [alone_exec hend]
        exact .nothing
      · rw [alone_exec hend]
    · exact ⟨db₂, _, hstart.trans hlabel, ⟨brute, rfl, hall⟩, alone_insertRouted_inserts _ _ _,
        .inr (by rw [hrows, hsame])⟩

end Alone

end Planner

end PinkGlasses
