import PinkGlasses.Planner.Pass
import PinkGlasses.Run.Provided

/-!
# PinkGlasses.Run.Served

`Advance` served alone, on a database that provides what a pass needs. Its three batches can all be
inserted (`Insertable`), so **planning returns** (`planned_ok`); it adds tasks of the run, and what
a pass needs stays (`Extends`). After it the run is completed if nothing is left to do
(`advance_goes`).
-/

namespace PinkGlasses

open Lib Prog Planner System Table

section Pass

variable {α : Type} {cfg : ControlConfig} {out : Outside} {env : Env} {db db' : DB} {run : ScanRun}

/-- The function, served alone, returns. -/
abbrev Goes (cfg : ControlConfig) (out : Outside) (env : Env) (db : DB) (x : Go α)
    (Q : α → DB → Prop) : Prop :=
  (controlSystem cfg out).Ensures db env x Q

/-! ### Planning a batch -/

theorem passivePoolOf_isSome (hst : ∃ p ∈ db.pools.rows, p.standing = true) :
    ∃ id, passivePoolOf db = some id := by
  unfold passivePoolOf
  cases Store.discoveryPool db with
  | some id => exact ⟨id, rfl⟩
  | none =>
    cases hname : Store.poolByName "local" db with
    | some id => exact ⟨id, rfl⟩
    | none =>
      -- no pool is named "local", so the standing one is the default
      obtain ⟨p, hp, hstanding⟩ := hst
      have hnot := List.find?_eq_none.mp (Option.map_eq_none_iff.mp hname) p hp
      have hdefault : p.isDefault = true := by
        simp only [WorkerPool.standing, Bool.and_eq_true, Bool.or_eq_true] at hstanding
        exact hstanding.2.resolve_right hnot
      obtain ⟨q, hq⟩ := Option.isSome_iff_exists.mp (List.find?_isSome.mpr ⟨p, hp, hdefault⟩)
      exact ⟨q.id, by simp [Store.defaultPool, hq]⟩

/-- **What planning does to the database**: it adds tasks of the run, and what a pass needs
stays. -/
structure Extends (runID : UUID) (db db' : DB) : Prop where
  provided : db'.Provided
  runs : db'.runs = db.runs
  tasks : ∃ new, db'.tasks.rows = db.tasks.rows ++ new ∧ ∀ t ∈ new, t.runID = runID

theorem Extends.refl {runID : UUID} (hp : db.Provided) : Extends runID db db :=
  ⟨hp, rfl, [], (List.append_nil _).symm, List.forall_mem_nil _⟩

theorem Extends.trans {runID : UUID} {db'' : DB} (h : Extends runID db db')
    (h' : Extends runID db' db'') : Extends runID db db'' := by
  obtain ⟨new, hrows, hnew⟩ := h.tasks
  obtain ⟨new', hrows', hnew'⟩ := h'.tasks
  refine ⟨h'.provided, h'.runs.trans h.runs, new ++ new', ?_,
    List.forall_mem_append.mpr ⟨hnew, hnew'⟩⟩
  rw [hrows', hrows, List.append_assoc]

/-- A task the planner can insert. -/
structure Insertable (db : DB) (sp : TaskSpec) : Prop where
  ported : sp.ported
  origins : OriginsExist db sp

/-- **A batch is inserted** when the run has its exit. -/
theorem planned_ok (hp : db.Provided) (hrun : run ∈ db.runs.rows) {pool : UUID}
    (hpool : run.poolID = some pool) {specs : List TaskSpec}
    (hspecs : ∀ sp ∈ specs, Insertable db sp) :
    ∃ db', planned cfg out env db run specs = (db', .ok ()) ∧ Extends run.id db db' := by
  obtain ⟨p, hpassive⟩ := passivePoolOf_isSome hp.standing
  unfold planned
  rw [hpassive]
  dsimp only
  split
  · exact ⟨db, rfl, .refl hp⟩
  -- the run, the pools and the targets exist, so the insert goes through
  · obtain ⟨⟨ids, d⟩, hins⟩ := insertTasks_isSome specs (isSome_find?.mpr ⟨run, hrun, rfl⟩)
      (hp.linked.pool run hrun) hpassive fun sp hsp => (hspecs sp hsp).origins
    have hexec : (Stmt.task (.insertTasks run.id (specs.map (routed ⟨p, run.poolID⟩)))).exec
        out env db = some (ids, d) := hins
    have hnew : ∀ t ∈ Store.newTasks run.id (specs.map (routed ⟨p, run.poolID⟩)) db.tasks.next,
        ∃ sp ∈ specs, ∃ id, t = Store.newTask run.id (routed ⟨p, run.poolID⟩ sp) id := by
      intro t ht
      obtain ⟨sp', hsp', id, rfl⟩ := Store.mem_newTasks ht
      obtain ⟨sp, hsp, rfl⟩ := List.mem_map.mp hsp'
      exact ⟨sp, hsp, id, rfl⟩
    rw [alone_insertRouted, routeTasks_eq_ok hpool]
    dsimp only
    rw [hins]
    refine ⟨d, rfl, ?_, ?_, _, Store.insertTasks_rows hins, fun t ht => ?_⟩
    -- inserting tasks leaves the runs as they are
    · refine hp.after hexec ⟨nofun, nofun, nofun⟩ (fun t ht => ?_) fun r hr hne hst => ?_
      · obtain ⟨sp, hsp, id, rfl⟩ := hnew t ht
        have hported : (routed ⟨p, run.poolID⟩ sp).ported := (hspecs sp hsp).ported
        exact ported_newTask hported
      · have hst : r.status = .running ∨ r.status = .paused := hst
        refine ⟨?_, hp.exits r hr hne hst⟩
        rcases hst with hst | hst <;> rw [hst] <;> rfl
    · obtain ⟨d', hd, hids⟩ := Option.map_eq_some_iff.mp hins
      cases hids
      rw [(Store.insertBatch_frame hd).1]
    · obtain ⟨sp, hsp, id, rfl⟩ := hnew t ht
      rfl

/-! ### The three batches -/

theorem insertable_newScan (hp : db.Provided) {allowPrivate : Bool} {sp : TaskSpec}
    (hsp : sp ∈ newScans allowPrivate run db) : Insertable db sp :=
  ⟨ported_of_stage (by rw [(mem_addressSpecs hsp).1]; decide),
    originsExist_newScans hp.linked.origin hsp⟩

theorem origin0_exists (hl : db.Linked) (taskID : UUID) :
    origin0 (Store.originsForTask taskID db) = uuidNil ∨
      (db.runTargets.find? (origin0 (Store.originsForTask taskID db))).isSome = true := by
  cases hos : Store.originsForTask taskID db with
  | nil => exact .inl rfl
  | cons o os =>
    have hedge := mem_originsForTask.mp (hos ▸ List.mem_cons_self)
    exact .inr (hl.origin _ hedge)

theorem insertable_probe (hp : db.Provided) {runID : UUID} {sp : TaskSpec}
    (hsp : ProbeFrom db runID sp) : Insertable db sp := by
  obtain ⟨t, ht, -, -, sv, hsv, rfl⟩ := hsp
  refine ⟨fun _ => hp.results t ht sv hsv, fun o ho => ?_⟩
  rw [List.mem_singleton.mp ho]
  exact origin0_exists hp.linked t.id

theorem insertable_web (hp : db.Provided) {runID : UUID} {sp : TaskSpec}
    (hsp : WebFrom db runID sp) : Insertable db sp := by
  obtain ⟨t, -, -, -, u, -, hweb, -, horigins⟩ := hsp
  refine ⟨ported_of_stage fun hstage => ?_, fun o ho => ?_⟩
  · rw [hstage] at hweb
    cases hweb
  · rw [horigins] at ho
    rw [List.mem_singleton.mp ho]
    exact origin0_exists hp.linked t.id

theorem probedEndpoints_isSome (hp : db.Provided) (runID : UUID) :
    ∃ keys, Store.probedEndpoints runID db = some keys := by
  unfold Store.probedEndpoints
  rw [if_neg]
  · exact ⟨_, rfl⟩
  · simp only [List.any_eq_true, not_exists, not_and, List.mem_filter, Bool.and_eq_true, beq_iff_eq,
      bne_iff_ne, and_imp]
    intro t ht _ hstage hip hport
    have hported := hp.probes t ht hstage
    simp [IPPort.ported, hip, hport] at hported

/-- **Planning returns.** -/
theorem planNext_ok (hp : db.Provided) (hrun : run ∈ db.runs.rows) {pool : UUID}
    (hpool : run.poolID = some pool) (allowPrivate : Bool) :
    ∃ db', alone cfg out env db (planNext allowPrivate run) = (db', .ok ()) ∧
      Extends run.id db db' := by
  obtain ⟨db₁, hscan, h₁⟩ : ∃ db₁, alone cfg out env db (scanNewAddresses allowPrivate run) =
      (db₁, .ok ()) ∧ Extends run.id db db₁ := by
    rw [alone_scanNewAddresses]
    split
    · exact ⟨db, rfl, .refl hp⟩
    · exact planned_ok hp hrun hpool fun sp hsp => insertable_newScan hp hsp
  -- each step meets a database that still provides for the run
  obtain ⟨db₂, hprobe, h₂⟩ : ∃ db₂, alone cfg out env db₁ (probeNewServices run) = (db₂, .ok ()) ∧
      Extends run.id db₁ db₂ := by
    obtain ⟨keys, hkeys⟩ := probedEndpoints_isSome h₁.provided run.id
    rw [alone_probeNewServices, hkeys]
    exact planned_ok h₁.provided (h₁.runs ▸ hrun) hpool fun sp hsp =>
      insertable_probe h₁.provided (probeFrom_newProbes hsp)
  have h₁₂ := h₁.trans h₂
  obtain ⟨db₃, hweb, h₃⟩ : ∃ db₃, alone cfg out env db₂ (maybePostProbe run) = (db₃, .ok ()) ∧
      Extends run.id db₂ db₃ := by
    rcases @alone_maybePostProbe cfg out env db₂ run with h | ⟨specs, hspecs, h⟩ <;> rw [h]
    · exact ⟨db₂, rfl, .refl h₂.provided⟩
    · exact planned_ok h₂.provided (h₁₂.runs ▸ hrun) hpool fun sp hsp =>
        insertable_web h₂.provided (hspecs sp hsp)
  refine ⟨db₃, ?_, h₁₂.trans h₃⟩
  unfold planNext
  rw [alone_bind_ok hscan, alone_bind_ok hprobe, hweb]

/-! ### The whole pass -/

/-- The run is over, and its row says so. -/
def Completed (db : DB) (runID : UUID) : Prop :=
  ∃ r ∈ db.runs.rows, r.id = runID ∧ r.status = .completed

/-- **A pass returns.** It adds tasks, and then completes the run if nothing is outstanding. -/
theorem advance_goes (hp : db.Provided) (hrun : run ∈ db.runs.rows)
    (hrunning : run.status = .running) (allowPrivate : Bool) :
    Goes cfg out env db (advance allowPrivate run) fun _ db' => ∃ mid, Extends run.id db mid ∧
      db'.tasks = mid.tasks ∧ (0 < (Store.runProgress run.id mid).total ∧
        (Store.runProgress run.id mid).outstanding = 0 → Completed db' run.id) := by
  have hcomplete : ∀ {mid : DB}, Extends run.id db mid → ∃ done db',
      alone cfg out env mid (complete run) = (db', .ok done) ∧ db'.tasks = mid.tasks ∧
        (0 < (Store.runProgress run.id mid).total ∧ (Store.runProgress run.id mid).outstanding = 0 →
          Completed db' run.id) := by
    intro mid hmid
    rcases @alone_complete cfg out env mid run with ⟨hnot, hout⟩ | ⟨db', hout, hfin, hruns⟩
    · exact ⟨_, _, hout, rfl, fun h => absurd h hnot⟩
    · refine ⟨_, _, hout, hfin.tasks,
        fun _ => ⟨Store.runStatusRow env .completed run, ?_, rfl, rfl⟩⟩
      have hrow : run ∈ mid.runs.rows := hmid.runs ▸ hrun
      rw [hruns]
      exact mem_update.mpr ⟨run, hrow, if_pos (beq_self_eq_true _)⟩
  unfold advance
  rw [if_neg (by simpa using hrunning)]
  -- a passive run plans nothing more
  by_cases hpassive : run.profile = .passive
  · rw [if_neg (by simpa using hpassive)]
    obtain ⟨done, db', hout, hrest⟩ := hcomplete (.refl hp)
    exact ensures_of_outcome hout ⟨db, .refl hp, hrest⟩
  · rw [if_pos hpassive]
    obtain ⟨pool, hpool⟩ := Option.isSome_iff_exists.mp (hp.exits run hrun hpassive (.inl hrunning))
    obtain ⟨mid, hplan, hmid⟩ := @planNext_ok cfg out env db run hp hrun pool hpool allowPrivate
    obtain ⟨done, db', hout, hrest⟩ := hcomplete hmid
    exact ensures_of_outcome ((alone_bind_ok hplan).trans hout) ⟨mid, hmid, hrest⟩

end Pass

end PinkGlasses
