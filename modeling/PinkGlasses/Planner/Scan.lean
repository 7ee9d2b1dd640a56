import PinkGlasses.Planner.Outcome
import PinkGlasses.Store.Grow

/-!
# PinkGlasses.Planner.Scan

`scanNewAddresses`, served alone. What it plans is described without its map, its sorting and its
batches: **an address is `Admitted`** if a finished discovery task of the run reported it for an
authorized run target, the scope guard allows it, `cdn_ports` does not leave it out and no port scan
of the run names it yet. `scans_exactly` says that one call plans exactly those, once each, in tasks
that respect the batch size, keep CDN addresses apart and serve the right targets, and that a second
call has nothing left to do.
-/

namespace PinkGlasses

open Lib Prog Store

namespace Planner

/-! ### The addresses to scan -/

/-- A finished discovery task of the run reported the address. -/
structure ReportedBy (db : DB) (runID : UUID) (ip : String) (t : ScanTask) : Prop where
  row : t ∈ db.tasks.rows
  ofRun : t.runID = runID
  stage : t.stage ∈ discoveryStages
  done : t.status = .done
  ip : ip ∈ (decode t.result).ips

/-- The addresses the finished discovery tasks of a run have reported. -/
def reportedAddresses (runID : UUID) (db : DB) : List String :=
  (db.tasks.rows.filter fun t =>
    t.runID == runID && discoveryStages.contains t.stage && t.status == .done).flatMap fun t =>
      (decode t.result).ips

theorem ReportedBy.mem {db : DB} {runID : UUID} {ip : String} {t : ScanTask}
    (h : ReportedBy db runID ip t) : ip ∈ reportedAddresses runID db := by
  obtain ⟨ht, hrun, hstage, hdone, hip⟩ := h
  simp only [reportedAddresses, List.mem_flatMap, List.mem_filter, Bool.and_eq_true, beq_iff_eq,
    List.contains_iff_mem]
  exact ⟨t, ⟨ht, ⟨hrun, hstage⟩, hdone⟩, hip⟩

/-- The run target led to the address: it is an origin of a task that reported it. -/
def LedTo (db : DB) (runID : UUID) (ip : String) (o : UUID) : Prop :=
  ∃ t, ReportedBy db runID ip t ∧ ⟨t.id, o⟩ ∈ db.taskOrigins

/-- The address belongs to a CDN. -/
def IsCDN (db : DB) (run : ScanRun) (ip : String) : Prop :=
  ip ∈ sharedAddresses run.scopeID db

/-- The run's `cdn_ports`. -/
def cdnPorts (db : DB) (run : ScanRun) : String := cdnPortsFor (paramsOf run.id db)

/-- **The address is to be scanned.** -/
structure Admitted (allowPrivate : Bool) (db : DB) (run : ScanRun) (ip : String) : Prop where
  authorized : ∃ t ∈ db.runTargets.rows, t.runID = run.id ∧
    authorized (mergedTargets run.scopeID db) t.value = true ∧ LedTo db run.id ip t.id
  allowed : ((ScopeGuard.new (mergedTargets run.scopeID db)).checkIP allowPrivate ip
    false).allowed = true
  cdn : ¬ (IsCDN db run ip ∧ cdnPorts db run = "none")
  new : ¬ InScan db run.id ip

/-! ### The address map -/

section Fold

variable {db : DB} {m : AddressMap} {rows : List TaskRow}

theorem mem_foldl_taskAddresses {e : String × List UUID} (h : e ∈ rows.foldl (taskAddresses db) m)
    {o : UUID} (ho : o ∈ e.2) :
    (∃ e₀ ∈ m, e₀.1 = e.1 ∧ o ∈ e₀.2) ∨ ∃ t ∈ rows, t.status = .done ∧
      e.1 ∈ (decode t.result).ips ∧ o ∈ originsForTask t.id db := by
  induction rows generalizing m with
  | nil => exact .inl ⟨e, h, rfl, ho⟩
  | cons t rows ih =>
    rcases ih h with ⟨e₁, he₁, hkey, ho₁⟩ | ⟨t', ht', hrest⟩
    · unfold taskAddresses at he₁
      split at he₁
      · exact .inl ⟨e₁, he₁, hkey, ho₁⟩
      · rename_i hdone
        simp only [not_or, not_not] at hdone
        rcases mem_foldl_addAddress he₁ ho₁ with ⟨e₀, he₀, hkey₀, ho₀⟩ | ⟨hip, hor⟩
        · exact .inl ⟨e₀, he₀, hkey₀.trans hkey, ho₀⟩
        · exact .inr ⟨t, List.mem_cons_self, hdone.1, hkey ▸ hip, hor⟩
    · exact .inr ⟨t', List.mem_cons_of_mem _ ht', hrest⟩

theorem AddressMap.Lists.tasks {a : String} {os : List UUID} (h : m.Lists a os) :
    AddressMap.Lists (rows.foldl (taskAddresses db) m) a os := by
  induction rows generalizing m with
  | nil => exact h
  | cons t rows ih =>
    refine ih ?_
    unfold taskAddresses
    split
    · exact h
    · exact h.foldl

theorem lists_foldl_taskAddresses {t : TaskRow} (ht : t ∈ rows) (hdone : t.status = .done)
    {ip : String} (hip : ip ∈ (decode t.result).ips) :
    AddressMap.Lists (rows.foldl (taskAddresses db) m) ip (originsForTask t.id db) := by
  induction rows generalizing m with
  | nil => cases ht
  | cons x rows ih =>
    rcases List.mem_cons.mp ht with rfl | hmem
    · have hstep : taskAddresses db m t =
          (decode t.result).ips.foldl (addAddress (originsForTask t.id db)) m :=
        if_neg (by simp [hdone, List.ne_nil_of_mem hip])
      rw [List.foldl_cons, hstep]
      exact AddressMap.Lists.tasks (lists_foldl_addAddress hip)
    · exact ih hmem

theorem AddressMap.Keyed.tasks (h : m.Keyed) :
    AddressMap.Keyed (rows.foldl (taskAddresses db) m) := by
  induction rows generalizing m with
  | nil => exact h
  | cons t rows ih =>
    refine ih ?_
    unfold taskAddresses
    split
    · exact h
    · exact h.foldl

end Fold

section Map

variable {db : DB} {runID : UUID}

theorem keyed_addressMap (db : DB) (runID : UUID) : (addressMap db runID).Keyed :=
  AddressMap.Keyed.tasks List.nodup_nil

theorem mem_discoveryRows {row : TaskRow} :
    row ∈ (discoveryStages.flatMap fun stage => tasksByStage runID stage db) ↔
      ∃ t ∈ db.tasks.rows, t.runID = runID ∧ t.stage ∈ discoveryStages ∧
        row = ⟨t.id, t.stage, t.status, t.result⟩ := by
  simp only [List.mem_flatMap, tasksByStage, List.mem_map, List.mem_filter, Bool.and_eq_true,
    beq_iff_eq]
  constructor
  · rintro ⟨stage, hstage, t, ⟨ht, hrun, rfl⟩, rfl⟩
    exact ⟨t, ht, hrun, hstage, rfl⟩
  · rintro ⟨t, ht, hrun, hstage, rfl⟩
    exact ⟨t.stage, hstage, t, ⟨ht, hrun, rfl⟩, rfl⟩

variable {o : UUID}

theorem mem_originsForTask {taskID : UUID} :
    o ∈ originsForTask taskID db ↔ ⟨taskID, o⟩ ∈ db.taskOrigins := by
  simp only [originsForTask, List.mem_map, List.mem_filter, beq_iff_eq]
  constructor
  · rintro ⟨e, ⟨he, rfl⟩, rfl⟩
    exact he
  · exact fun h => ⟨_, ⟨h, rfl⟩, rfl⟩

/-- **The origins of an entry are the run targets that led to its address.** -/
theorem mem_addressMap {e : String × List UUID} (he : e ∈ addressMap db runID) :
    o ∈ e.2 ↔ LedTo db runID e.1 o := by
  constructor
  · intro ho
    rcases mem_foldl_taskAddresses he ho with ⟨e₀, he₀, -⟩ | ⟨row, hrow, hdone, hip, hor⟩
    · cases he₀
    · obtain ⟨t, ht, hrun, hstage, rfl⟩ := mem_discoveryRows.mp hrow
      exact ⟨t, ⟨ht, hrun, hstage, hdone, hip⟩, mem_originsForTask.mp hor⟩
  · rintro ⟨t, ⟨ht, hrun, hstage, hdone, hip⟩, hedge⟩
    have hrow := mem_discoveryRows.mpr ⟨t, ht, hrun, hstage, rfl⟩
    obtain ⟨e', he', hkey, hsub⟩ := lists_foldl_taskAddresses (m := []) hrow hdone hip
    rw [← List.inj_on_of_nodup_map (keyed_addressMap db runID) he' he hkey]
    exact hsub (mem_originsForTask.mpr hedge)

theorem exists_mem_addressMap {ip : String} (h : LedTo db runID ip o) :
    ∃ e ∈ addressMap db runID, e.1 = ip := by
  obtain ⟨t, ⟨ht, hrun, hstage, hdone, hip⟩, -⟩ := h
  have hrow := mem_discoveryRows.mpr ⟨t, ht, hrun, hstage, rfl⟩
  obtain ⟨e, he, hkey, -⟩ := lists_foldl_taskAddresses (m := []) hrow hdone hip
  exact ⟨e, he, hkey⟩

end Map

/-! ### What is planned -/

section Plan

variable {allowPrivate : Bool} {db : DB} {run : ScanRun}

theorem mem_scannedAddresses {runID : UUID} {ip : String} :
    ip ∈ scannedAddresses runID db ↔ InScan db runID ip := by
  simp only [scannedAddresses, InScan, List.mem_flatMap, List.mem_filter, Bool.and_eq_true,
    beq_iff_eq, and_assoc]

theorem mem_authorizedIDs {o : UUID} :
    o ∈ authorizedIDs run db ↔ ∃ t ∈ db.runTargets.rows, t.runID = run.id ∧
      authorized (mergedTargets run.scopeID db) t.value = true ∧ t.id = o := by
  simp only [authorizedIDs, listRunTargets, List.mem_map, List.mem_filter,
    List.mem_insertionSort, beq_iff_eq, and_assoc]

theorem permits_iff {e : String × List UUID} (he : e ∈ addressMap db run.id) :
    (e.1 ∉ (addressChecks allowPrivate run db).already ∧
      (addressChecks allowPrivate run db).permits e.1 e.2 = true) ↔
      Admitted allowPrivate db run e.1 := by
  simp only [addressChecks, AddressChecks.permits, mem_scannedAddresses, Bool.and_eq_true,
    List.any_eq_true, List.contains_iff_mem, Bool.not_eq_true', mem_authorizedIDs]
  constructor
  · rintro ⟨hnew, ⟨⟨o, ho, t, ht, hrun, hauth, rfl⟩, hcdn⟩, hallowed⟩
    refine ⟨⟨t, ht, hrun, hauth, (mem_addressMap he).mp ho⟩, hallowed, fun hbad => ?_, hnew⟩
    have hyes : ((sharedAddresses run.scopeID db).contains e.1 &&
        cdnPortsFor (paramsOf run.id db) == "none") = true :=
      Bool.and_eq_true_iff.mpr ⟨List.contains_iff_mem.mpr hbad.1, beq_iff_eq.mpr hbad.2⟩
    rw [hyes] at hcdn
    cases hcdn
  · rintro ⟨⟨t, ht, hrun, hauth, hled⟩, hallowed, hcdn, hnew⟩
    refine ⟨hnew, ⟨⟨t.id, (mem_addressMap he).mpr hled, t, ht, hrun, hauth, rfl⟩, ?_⟩, hallowed⟩
    refine Bool.eq_false_iff.mpr fun hyes => hcdn ?_
    obtain ⟨hshared, hnone⟩ := Bool.and_eq_true_iff.mp hyes
    exact ⟨List.contains_iff_mem.mp hshared, beq_iff_eq.mp hnone⟩

/-- The port scans one call plans. -/
def newScans (allowPrivate : Bool) (run : ScanRun) (db : DB) : List TaskSpec :=
  addressSpecs (addressChecks allowPrivate run db) (addressMap db run.id)

/-- **They name each admitted address once and no other.** -/
theorem count_newScans (allowPrivate : Bool) (run : ScanRun) (db : DB) (ip : String) :
    (Admitted allowPrivate db run ip →
      ((newScans allowPrivate run db).flatMap (·.target.ips)).count ip = 1) ∧
    (ip ∈ (newScans allowPrivate run db).flatMap (·.target.ips) →
      Admitted allowPrivate db run ip) := by
  have hkeyed := keyed_addressMap db run.id
  constructor
  · intro hadm
    obtain ⟨t, -, -, -, hled⟩ := hadm.authorized
    obtain ⟨e, he, rfl⟩ := exists_mem_addressMap hled
    obtain ⟨hnew, hpass⟩ := (permits_iff he).mpr hadm
    have hmem := List.mem_flatMap.mpr (exists_addressSpec hkeyed he hnew hpass)
    unfold newScans
    rw [addresses_addressSpecs hkeyed] at hmem ⊢
    exact List.count_eq_one_of_mem (nodup_addresses hkeyed) hmem
  · intro hmem
    obtain ⟨sp, hsp, hip⟩ := List.mem_flatMap.mp hmem
    obtain ⟨-, -, -, hall⟩ := mem_addressSpecs hsp
    obtain ⟨e, he, rfl, hpass⟩ := hall ip hip
    exact (permits_iff he).mp hpass

theorem nodup_newScans (allowPrivate : Bool) (run : ScanRun) (db : DB) :
    ((newScans allowPrivate run db).flatMap (·.target.ips)).Nodup := by
  unfold newScans
  rw [addresses_addressSpecs (keyed_addressMap db run.id)]
  exact nodup_addresses (keyed_addressMap db run.id)

/-- Where the CDN has its own ports, its addresses have their own tasks. -/
theorem unmixed_newScans (hcdn : cdnPorts db run ≠ "all") {sp : TaskSpec}
    (hsp : sp ∈ newScans allowPrivate run db) :
    (∀ ip ∈ sp.target.ips, IsCDN db run ip) ∨ ∀ ip ∈ sp.target.ips, ¬ IsCDN db run ip := by
  obtain ⟨v, ports, batch, hv, hb, -, rfl⟩ := batch_of_mem_addressSpecs hsp
  -- the verdict of a batch says of each address whether it is shared
  have hver : ∀ ip ∈ batch, v = .edge ↔ IsCDN db run ip := by
    intro ip hip
    obtain ⟨e, he, rfl, hsome⟩ := mem_select.mp (mem_of_mem_batches hb hip)
    have hports : ((addressChecks allowPrivate run db).cdnPorts != "all") = true :=
      bne_iff_ne.mpr hcdn
    unfold AddressChecks.verdict at hsome
    rw [hports, Bool.and_true] at hsome
    split at hsome
    · exact absurd hsome.symm hv
    · split at hsome
      · rename_i hshared
        exact ⟨fun _ => List.contains_iff_mem.mp hshared, fun _ => hsome.symm⟩
      · rename_i hshared
        refine ⟨fun hedge => ?_, fun hin => absurd (List.contains_iff_mem.mpr hin) hshared⟩
        rw [hedge] at hsome
        cases hsome
  by_cases hedge : v = .edge
  · exact .inl fun ip hip => (hver ip hip).mp hedge
  · exact .inr fun ip hip hin => hedge ((hver ip hip).mpr hin)

/-- **A planned port scan serves the targets that led to its addresses.** -/
theorem mem_origins_newScans {sp : TaskSpec} (hsp : sp ∈ newScans allowPrivate run db) {o : UUID} :
    o ∈ sp.origins ↔ ∃ ip ∈ sp.target.ips, LedTo db run.id ip o := by
  obtain ⟨v, ports, batch, hv, hb, -, rfl⟩ := batch_of_mem_addressSpecs hsp
  show o ∈ batchOrigins (addressMap db run.id) batch ↔ ∃ ip ∈ batch, _
  rw [mem_batchOrigins]
  refine exists_congr fun ip => and_congr_right fun hip => ?_
  obtain ⟨e, he, rfl, -⟩ := mem_select.mp (mem_of_mem_batches hb hip)
  rw [(keyed_addressMap db run.id).lookup he]
  exact mem_addressMap he

end Plan

/-! ### One call -/

/-- What the schema says of the origins of tasks: `task_origin` references a task and a run
target. -/
structure EdgesSound (db : DB) : Prop where
  task : ∀ e ∈ db.taskOrigins, e.taskID < db.tasks.next
  target : ∀ e ∈ db.taskOrigins,
    e.runTargetID ≠ uuidNil ∧ (db.runTargets.find? e.runTargetID).isSome = true

/-- What a run needs for its tasks to be inserted: its row, an exit pool and a pool for the passive
stages. -/
structure Ready (db : DB) (run : ScanRun) : Prop where
  row : (db.runs.find? run.id).isSome = true
  exitPool : ∃ p, run.poolID = some p ∧ (db.pools.find? p).isSome = true
  passive : (passivePoolOf db).isSome = true

section Call

variable {cfg : ControlConfig} {out : Outside} {env : Env} {db : DB} {allowPrivate : Bool}
  {run : ScanRun}

theorem alone_scanNewAddresses :
    alone cfg out env db (scanNewAddresses allowPrivate run) =
      if (addressMap db run.id).isEmpty then (db, .ok ())
      else planned cfg out env db run (newScans allowPrivate run db) := by
  unfold scanNewAddresses
  rw [alone_bind_ok (alone_discovered _ _ _)]
  show alone cfg out env db (if (addressMap db run.id).isEmpty then pure ()
    else scanAddresses allowPrivate run (addressMap db run.id)) = _
  split
  · rfl
  · unfold scanAddresses
    rw [alone_bind_ok (alone_authorizedRunTargets run)]
    refine alone_planned fun rt => ?_
    rw [alone_exec_bind (s := .task (.scannedAddresses run.id)) rfl,
      alone_bind_ok (alone_listTargetsMerged _),
      alone_exec_bind (s := .asset (.sharedAddresses run.scopeID)) rfl,
      alone_try_bind (exec_getRunParams run.id)]
    rfl

/-- **What a call is for**: the new tasks of `db'` scan what was to be scanned in `db`. -/
structure ScansExactly (allowPrivate : Bool) (run : ScanRun) (db db' : DB) (new : List ScanTask) :
    Prop where
  rows : db'.tasks.rows = db.tasks.rows ++ new
  scan : ∀ t ∈ new, t.runID = run.id ∧ t.stage = .portScan
  once : ∀ ip, Admitted allowPrivate db run ip →
    (new.flatMap fun t => targetAddresses t.target).count ip = 1
  only : ∀ t ∈ new, ∀ ip ∈ targetAddresses t.target, Admitted allowPrivate db run ip
  size : ∀ t ∈ new, (targetAddresses t.target).length ≤ scanBatchSize
  unmixed : cdnPorts db run ≠ "all" → ∀ t ∈ new,
    (∀ ip ∈ targetAddresses t.target, IsCDN db run ip) ∨
      ∀ ip ∈ targetAddresses t.target, ¬ IsCDN db run ip
  origins : ∀ t ∈ new, ∀ o, ⟨t.id, o⟩ ∈ db'.taskOrigins ↔
    ∃ ip ∈ targetAddresses t.target, LedTo db run.id ip o

theorem addresses_newTask (runID : UUID) (sp : TaskSpec) (id : UUID) :
    targetAddresses (newTask runID sp id).target = targetAddresses sp.target := by
  unfold newTask
  dsimp only
  split
  · rfl
  · rfl

theorem addresses_newScan {sp : TaskSpec} (hsp : sp ∈ newScans allowPrivate run db) :
    targetAddresses sp.target = sp.target.ips := by
  obtain ⟨-, hip, -⟩ := mem_addressSpecs hsp
  unfold targetAddresses
  rw [if_pos hip, List.append_nil]

variable {specs : List TaskSpec} {db' : DB} {ids : List UUID}

theorem addresses_newTasks (runID : UUID) (rt : Routing)
    (h : ∀ sp ∈ specs, targetAddresses sp.target = sp.target.ips) (next : UUID) :
    ((newTasks runID (specs.map (routed rt)) next).flatMap fun t =>
      targetAddresses t.target) = specs.flatMap (·.target.ips) := by
  induction specs generalizing next with
  | nil => rfl
  | cons sp specs ih =>
    rw [List.map_cons, newTasks, List.flatMap_cons, List.flatMap_cons, addresses_newTask,
      ih fun sp hsp => h sp (List.mem_cons_of_mem _ hsp)]
    exact congrArg (· ++ _) (h sp List.mem_cons_self)

theorem scansExactly_nil (h : newScans allowPrivate run db = []) :
    ScansExactly allowPrivate run db db [] where
  rows := (List.append_nil _).symm
  scan _ ht := absurd ht List.not_mem_nil
  once ip hadm := by
    have hone := (count_newScans allowPrivate run db ip).1 hadm
    rw [h] at hone
    simp at hone
  only _ ht := absurd ht List.not_mem_nil
  size _ ht := absurd ht List.not_mem_nil
  unmixed _ _ ht := absurd ht List.not_mem_nil
  origins _ ht := absurd ht List.not_mem_nil

/-- **What the inserted tasks are.** -/
theorem scansExactly_of_insert (hdb : EdgesSound db) {rt : Routing}
    (h : insertTasks run.id ((newScans allowPrivate run db).map (routed rt)) db =
      some (ids, db')) :
    ScansExactly allowPrivate run db db'
      (newTasks run.id ((newScans allowPrivate run db).map (routed rt)) db.tasks.next) := by
  -- every new task is a planned port scan, with an edge to each of its origins
  have hnew : ∀ t ∈ newTasks run.id ((newScans allowPrivate run db).map (routed rt))
      db.tasks.next, ∃ sp ∈ newScans allowPrivate run db, t.runID = run.id ∧ t.stage = sp.stage ∧
        targetAddresses t.target = sp.target.ips ∧
        ∀ o, ⟨t.id, o⟩ ∈ db'.taskOrigins ↔ o ∈ sp.origins ∧ o ≠ uuidNil := by
    intro t ht
    obtain ⟨d, hd, hids⟩ := Option.map_eq_some_iff.mp h
    cases hids
    obtain ⟨sp', hsp', hrow, hedges⟩ := origins_insertBatch_new hd hdb.task ht
    obtain ⟨sp, hsp, rfl⟩ := List.mem_map.mp hsp'
    refine ⟨sp, hsp, by rw [hrow]; rfl, by rw [hrow]; rfl, ?_, hedges⟩
    rw [hrow, addresses_newTask]
    show targetAddresses sp.target = sp.target.ips
    exact addresses_newScan hsp
  refine ⟨insertTasks_rows h, fun t ht => ?_, fun ip hadm => ?_, fun t ht ip hip => ?_,
    fun t ht => ?_, fun hcdn t ht => ?_, fun t ht o => ?_⟩
  · obtain ⟨sp, hsp, hrun, hstage, -⟩ := hnew t ht
    exact ⟨hrun, hstage.trans (mem_addressSpecs hsp).1⟩
  · rw [addresses_newTasks run.id rt (fun sp hsp => addresses_newScan hsp)]
    exact (count_newScans allowPrivate run db ip).1 hadm
  · obtain ⟨sp, hsp, -, -, haddr, -⟩ := hnew t ht
    rw [haddr] at hip
    exact (count_newScans allowPrivate run db ip).2 (List.mem_flatMap.mpr ⟨sp, hsp, hip⟩)
  · obtain ⟨sp, hsp, -, -, haddr, -⟩ := hnew t ht
    obtain ⟨v, ports, batch, -, hb, -, rfl⟩ := batch_of_mem_addressSpecs hsp
    rw [haddr]
    exact length_le_of_mem_batches hb
  · obtain ⟨sp, hsp, -, -, haddr, -⟩ := hnew t ht
    rw [haddr]
    exact unmixed_newScans hcdn hsp
  · obtain ⟨sp, hsp, -, -, haddr, hedges⟩ := hnew t ht
    rw [haddr, hedges, mem_origins_newScans hsp, and_iff_left_iff_imp]
    -- an edge of the database is to a run target, so its origin is one
    rintro ⟨ip, -, t', -, hedge⟩
    exact (hdb.target _ hedge).1

/-! ### A second call -/

theorem ledTo_of_insert (hscan : ∀ sp ∈ specs, sp.stage = .portScan)
    (h : insertTasks run.id specs db = some (ids, db')) {ip : String} {o : UUID}
    (hled : LedTo db' run.id ip o) : LedTo db run.id ip o := by
  obtain ⟨t, ⟨ht, hrun, hstage, hdone, hip⟩, hedge⟩ := hled
  rw [insertTasks_rows h] at ht
  rcases List.mem_append.mp ht with hold | hnew
  · obtain ⟨d, hd, hids⟩ := Option.map_eq_some_iff.mp h
    cases hids
    have hbound : t.id < db.tasks.next := db.tasks.bound t hold
    exact ⟨t, ⟨hold, hrun, hstage, hdone, hip⟩,
      (origins_insertBatch_old (e := ⟨t.id, o⟩) hd hbound).mp hedge⟩
  · obtain ⟨sp, hsp, id, rfl⟩ := mem_newTasks hnew
    have hport : (newTask run.id sp id).stage = .portScan := hscan sp hsp
    rw [hport] at hstage
    exact absurd hstage (by decide)

/-- What is still to be scanned after the insertion was to be scanned before. -/
theorem admitted_of_insert (hscan : ∀ sp ∈ specs, sp.stage = .portScan)
    (h : insertTasks run.id specs db = some (ids, db')) {ip : String}
    (hadm : Admitted allowPrivate db' run ip) : Admitted allowPrivate db run ip := by
  obtain ⟨d, hd, hids⟩ := Option.map_eq_some_iff.mp h
  obtain ⟨-, rfl⟩ := Prod.mk.inj hids
  have hframe := (insertBatch_frame hd).1
  have htargets : mergedTargets run.scopeID d = mergedTargets run.scopeID db := by rw [hframe]; rfl
  have hcdn : IsCDN d run ip ↔ IsCDN db run ip := by rw [hframe]; exact Iff.rfl
  have hports : cdnPorts d run = cdnPorts db run := by rw [hframe]; rfl
  obtain ⟨⟨t', ht', hrun, hauth, hled⟩, hallowed, hshared, hnew⟩ := hadm
  obtain ⟨t, ht, hsame⟩ := (insertBatch_grows hd).1.same.before t' ht'
  refine ⟨⟨t, ht, ?_, ?_, ?_⟩, htargets ▸ hallowed, ?_, fun hin => hnew ?_⟩
  · exact hsame.runID.symm.trans hrun
  · rw [← htargets, ← hsame.value]
    exact hauth
  · rw [← hsame.id]
    exact ledTo_of_insert hscan h hled
  · rwa [hcdn, hports] at hshared
  · obtain ⟨x, hx, hrest⟩ := hin
    exact ⟨x, by rw [insertTasks_rows h]; exact List.mem_append_left _ hx, hrest⟩

/-- **Nothing is left to plan.** -/
theorem newScans_of_insert (hdb : EdgesSound db) {rt : Routing}
    (h : insertTasks run.id ((newScans allowPrivate run db).map (routed rt)) db =
      some (ids, db')) : newScans allowPrivate run db' = [] := by
  have hscans := scansExactly_of_insert hdb h
  have hstage : ∀ sp ∈ (newScans allowPrivate run db).map (routed rt), sp.stage = .portScan := by
    intro sp hsp
    obtain ⟨sp₀, hsp₀, rfl⟩ := List.mem_map.mp hsp
    exact (mem_addressSpecs hsp₀).1
  refine List.eq_nil_iff_forall_not_mem.mpr fun sp hsp => ?_
  obtain ⟨ip, hip⟩ := List.exists_mem_of_ne_nil _ (mem_addressSpecs hsp).2.2.1
  have hadm := (count_newScans allowPrivate run db' ip).2 (List.mem_flatMap.mpr ⟨sp, hsp, hip⟩)
  -- it was to be scanned before, so it is in one of the new tasks
  have hone := hscans.once ip (admitted_of_insert hstage h hadm)
  have hmem := List.count_pos_iff.mp (hone ▸ Nat.zero_lt_one)
  obtain ⟨t, ht, haddr⟩ := List.mem_flatMap.mp hmem
  refine hadm.new ⟨t, ?_, (hscans.scan t ht).1, (hscans.scan t ht).2, haddr⟩
  rw [hscans.rows]
  exact List.mem_append_right _ ht

theorem newScans_of_isEmpty (h : (addressMap db run.id).isEmpty = true) :
    newScans allowPrivate run db = [] := by
  refine List.eq_nil_iff_forall_not_mem.mpr fun sp hsp => ?_
  obtain ⟨-, -, hne, hall⟩ := mem_addressSpecs hsp
  obtain ⟨ip, hip⟩ := List.exists_mem_of_ne_nil _ hne
  obtain ⟨e, he, -⟩ := hall ip hip
  rw [List.isEmpty_iff.mp h] at he
  cases he

theorem alone_nothing (hnone : newScans allowPrivate run db = [])
    (hpool : (addressMap db run.id).isEmpty = true ∨ (passivePoolOf db).isSome = true) :
    alone cfg out env db (scanNewAddresses allowPrivate run) = (db, .ok ()) := by
  rw [alone_scanNewAddresses, hnone]
  split
  · rfl
  · rename_i hmap
    obtain ⟨p, hp⟩ := Option.isSome_iff_exists.mp (hpool.resolve_left hmap)
    rw [planned, hp]
    rfl

theorem originsExist_newScans
    (hdb : ∀ e ∈ db.taskOrigins, (db.runTargets.find? e.runTargetID).isSome = true) {sp : TaskSpec}
    (hsp : sp ∈ newScans allowPrivate run db) : OriginsExist db sp := by
  intro o ho
  obtain ⟨ip, -, t, -, hedge⟩ := (mem_origins_newScans hsp).mp ho
  exact .inr (hdb _ hedge)

theorem isSome_find?_of_passivePoolOf {p : UUID} (h : passivePoolOf db = some p) :
    (db.pools.find? p).isSome = true := by
  have hfound : ∀ {q : WorkerPool → Bool}, (db.pools.rows.find? q).map (·.id) = some p →
      (db.pools.find? p).isSome = true := by
    intro q hq
    obtain ⟨x, hx, rfl⟩ := Option.map_eq_some_iff.mp hq
    exact Table.isSome_find?.mpr ⟨x, List.mem_of_find?_eq_some hx, rfl⟩
  rcases Option.or_eq_some_iff.mp h with hdisc | ⟨-, h⟩
  · obtain ⟨x, hx, rfl⟩ := Option.map_eq_some_iff.mp hdisc
    have hmem := (List.mem_insertionSort _).mp (List.mem_of_head? hx)
    exact Table.isSome_find?.mpr ⟨x, (List.mem_filter.mp hmem).1, rfl⟩
  · rcases Option.or_eq_some_iff.mp h with hname | ⟨-, hdefault⟩
    · exact hfound hname
    · exact hfound hdefault

/-- A batch is accepted where the run, its pools and its run targets are there. -/
theorem insertTasks_isSome (specs : List TaskSpec) (hrow : (db.runs.find? run.id).isSome = true)
    (hexit : ∀ p, run.poolID = some p → (db.pools.find? p).isSome = true) {p : UUID}
    (hpassive : passivePoolOf db = some p) (horigins : ∀ sp ∈ specs, OriginsExist db sp) :
    ∃ r, insertTasks run.id (specs.map (routed ⟨p, run.poolID⟩)) db = some r := by
  have hall : ∀ sp ∈ specs.map (routed ⟨p, run.poolID⟩), OriginsExist db sp ∧
      ∀ q, sp.poolID = some q → (db.pools.find? q).isSome = true := by
    intro sp' hsp'
    obtain ⟨sp, hsp, rfl⟩ := List.mem_map.mp hsp'
    refine ⟨horigins sp hsp, fun q hq => ?_⟩
    simp only [routed] at hq
    split at hq
    · exact hexit q hq
    · cases hq
      exact isSome_find?_of_passivePoolOf hpassive
  obtain ⟨db', hdb'⟩ := insertBatch_isSome hrow (fun sp hsp => (hall sp hsp).2) fun sp hsp =>
    (hall sp hsp).1
  rw [insertTasks, hdb']
  exact ⟨_, rfl⟩

end Call

/-- **One call of `scanNewAddresses`, on any database and with nobody else writing.** It succeeds if
the run is ready, and a call that does not leaves the database as it was. If it succeeds, the tasks
it inserted scan exactly the admitted addresses, and a second call changes nothing. -/
theorem scans_exactly (cfg : ControlConfig) (out : Outside) (env : Env) (allowPrivate : Bool)
    (run : ScanRun) (db : DB) (hdb : EdgesSound db) :
    ∃ db' r, alone cfg out env db (scanNewAddresses allowPrivate run) = (db', r) ∧
      (Ready db run → r = .ok ()) ∧ (r ≠ .ok () → db' = db) ∧
      (r = .ok () → (∃ new, ScansExactly allowPrivate run db db' new) ∧
        ∀ env', alone cfg out env' db' (scanNewAddresses allowPrivate run) = (db', .ok ())) := by
  rw [alone_scanNewAddresses]
  split
  · -- no finished discovery task has reported an address
    rename_i hmap
    have hnone := @newScans_of_isEmpty db allowPrivate run hmap
    exact ⟨_, _, rfl, fun _ => rfl, fun _ => rfl, fun _ =>
      ⟨⟨[], scansExactly_nil hnone⟩, fun _ => alone_nothing hnone (.inl hmap)⟩⟩
  · rename_i hmap
    unfold planned
    cases hpassive : passivePoolOf db with
    | none =>
      refine ⟨_, _, rfl, fun hready => ?_, fun _ => rfl, nofun⟩
      have hsome := hready.passive
      rw [hpassive] at hsome
      cases hsome
    | some p =>
      dsimp only
      split
      -- everything seen has its scan
      · rename_i hempty
        have hnone := List.isEmpty_iff.mp hempty
        exact ⟨_, _, rfl, fun _ => rfl, fun _ => rfl,
          fun _ => ⟨⟨[], scansExactly_nil hnone⟩, fun _ =>
          alone_nothing hnone (.inr (by rw [hpassive]; rfl))⟩⟩
      · rw [alone_insertRouted]
        cases hroute : routeTasks (newScans allowPrivate run db) ⟨p, run.poolID⟩ with
        | error e =>
          refine ⟨_, _, rfl, fun hready => ?_, fun _ => rfl, nofun⟩
          obtain ⟨q, hq, -⟩ := hready.exitPool
          rw [@routeTasks_eq_ok ⟨p, run.poolID⟩ q hq] at hroute
          cases hroute
        | ok specs =>
          obtain ⟨rfl, -⟩ := routeTasks_ok hroute
          dsimp only
          cases hins : insertTasks run.id
              ((newScans allowPrivate run db).map (routed ⟨p, run.poolID⟩)) db with
          | none =>
            refine ⟨_, _, rfl, fun hready => ?_, fun _ => rfl, nofun⟩
            obtain ⟨q, hq, hexit⟩ := hready.exitPool
            obtain ⟨r, hr⟩ := insertTasks_isSome (newScans allowPrivate run db) hready.row
              (fun q' hq' => Option.some.inj (hq.symm.trans hq') ▸ hexit) hpassive
              fun sp hsp => originsExist_newScans (fun e he => (hdb.target e he).2) hsp
            rw [hins] at hr
            cases hr
          | some r =>
            -- inserted: the next pass finds the same addresses with their scans
            obtain ⟨ids, db'⟩ := r
            refine ⟨_, _, rfl, fun _ => rfl, fun h => absurd rfl h, fun _ =>
              ⟨⟨_, scansExactly_of_insert hdb hins⟩, fun _ =>
                alone_nothing (newScans_of_insert hdb hins) (.inr ?_)⟩⟩
            obtain ⟨d, hd, hids⟩ := Option.map_eq_some_iff.mp hins
            cases hids
            rw [(insertBatch_frame hd).1]
            show (passivePoolOf db).isSome = true
            rw [hpassive]
            rfl

/-- Two names of the run have been resolved, to three addresses between them. -/
def reportedDB : DB where
  pools := oneTaskDB.pools
  runs := oneTaskDB.runs
  scopeTargets := .ofRows
    [{ id := 1, scopeID := 1, kind := .domain, value := "example.org", mode := .active,
       authorizedBy := some "owner", authorizedAt := some 0 },
     { id := 2, scopeID := 1, kind := .domain, value := "www.example.org", mode := .active,
       authorizedBy := some "owner", authorizedAt := some 0 }] (by simp)
  runTargets := .ofRows
    [{ id := 1, runID := 1, kind := .domain, value := "example.org", tasksTotal := 1 },
     { id := 2, runID := 1, kind := .domain, value := "www.example.org", tasksTotal := 1 }]
       (by simp)
  tasks := .ofRows
    [{ oneTask with
       stage := .dnsResolve, status := .done
       result := some { ips := ["192.0.2.1", "192.0.2.2"] } },
     { oneTask with
       id := 2, stage := .dnsResolve, status := .done
       result := some { ips := ["192.0.2.2", "192.0.2.3"] } }] (by simp [oneTask])
  taskOrigins := [⟨1, 1⟩, ⟨2, 2⟩]

/-- They are scanned, and the address that both names have is scanned once. -/
theorem scans_exactly_reported : ∃ db' new,
    alone {} {} {} reportedDB (scanNewAddresses false oneRun) = (db', .ok ()) ∧
      ScansExactly false oneRun reportedDB db' new ∧ (new.map (·.target.ips)) =
        [["192.0.2.1", "192.0.2.2", "192.0.2.3"]] := by
  have hdb : EdgesSound reportedDB := ⟨by decide, by decide⟩
  have hready : Ready reportedDB oneRun := ⟨rfl, ⟨1, rfl, rfl⟩, rfl⟩
  obtain ⟨db', r, heq, hok, -, hall⟩ := scans_exactly {} {} {} false oneRun reportedDB hdb
  obtain ⟨⟨new, hnew⟩, -⟩ := hall (hok hready)
  refine ⟨db', new, hok hready ▸ heq, hnew, ?_⟩
  have hrows : (alone {} {} {} reportedDB (scanNewAddresses false oneRun)).1.tasks.rows.map
      (·.target.ips) = [[], [], ["192.0.2.1", "192.0.2.2", "192.0.2.3"]] := by decide +kernel
  rw [heq, hnew.rows, List.map_append] at hrows
  exact List.append_cancel_left hrows

end Planner

end PinkGlasses
