import PinkGlasses.Run.Pass

/-!
# PinkGlasses.Run.Coverage

What a completed run has covered: every address its discovery found, where the checks permit it, is
in a port scan, and every open port its scans found has a probe.

`Advance` lists the tasks of a stage, plans from the list, and only then counts what is outstanding.
A task that finishes **between its stage's list and the count** is in neither: its findings are not
planned, and the run is completed without them. Where that does not happen (`Undisturbed`), a run
that a pass completes is covered (`completed_run_covered`).
-/

namespace PinkGlasses

open Lib Prog Planner Store System Table

variable {β : Type}

/-- What `scanNewAddresses` holds an address against, as the database has it. -/
def checksOf (allowPrivate : Bool) (db : DB) (r : ScanRun) : AddressChecks where
  allowPrivate := allowPrivate
  already := scannedAddresses r.id db
  authorized := ((listRunTargets r.id db).filter fun t =>
    authorized (mergeTargets (listTargets r.scopeID "" db)) t.value).map (·.id)
  guard := ScopeGuard.new (mergeTargets (listTargets r.scopeID "" db))
  shared := sharedAddresses r.scopeID db
  cdnPorts := cdnPortsFor (some r.params)

/-- The run targets that led to an address: the origins of the done discovery tasks that report
it. -/
def addressOrigins (db : DB) (runID : UUID) (ip : String) : List UUID :=
  (db.tasks.rows.filter fun t => t.runID == runID && discoveryStages.contains t.stage &&
    t.status == .done && (decode t.result).ips.contains ip).flatMap fun t =>
      originsForTask t.id db

/-- The endpoint has a probe in the run. -/
def HasProbe (db : DB) (runID : UUID) (sv : IPPort) : Prop :=
  ∃ t ∈ db.tasks.rows, t.runID = runID ∧ t.stage = .serviceProbe ∧ t.target.ip = sv.ip ∧
    t.target.port = sv.port
deriving Decidable

/-- **What a run has covered.** -/
structure Covered (allowPrivate : Bool) (db : DB) (r : ScanRun) : Prop where
  addresses : ∀ t ∈ db.tasks.rows, t.runID = r.id → t.stage ∈ discoveryStages → t.status = .done →
    ∀ ip ∈ (decode t.result).ips,
      (checksOf allowPrivate db r).permits ip (addressOrigins db r.id ip) = true → InScan db r.id ip
  services : ∀ t ∈ db.tasks.rows, t.runID = r.id → t.stage = .portScan →
    (t.status = .done ∨ t.status = .failed) → ∀ sv ∈ (decode t.result).services,
      HasProbe db r.id sv

section Decidable

variable (allowPrivate : Bool) (db : DB) (r : ScanRun) (runID : UUID)

set_option synthInstance.maxSize 512 in
instance : Decidable (Covered allowPrivate db r) :=
  decidable_of_iff (_ ∧ _) ⟨fun h => ⟨h.1, h.2⟩, fun h => ⟨h.1, h.2⟩⟩

end Decidable

/-- The stages whose tasks a pass plans from before it counts. -/
def watched : List Stage := discoveryStages ++ [.portScan]

/-- The statement asks for a task's origins. -/
def Stmt.asksOrigins : Stmt β → Bool
  | task s => match s with
    | .originsForTask _ => true
    | _ => false
  | _ => false

/-- No request was refused a task's origins. The planner ignores that error and goes on as if the
task had none. -/
def OriginsAnswered (c : Conf Stmt DB Nat) : Prop :=
  ∀ th ∈ c.threads, ∀ call ∈ th.hist, call.stmt.asksOrigins = true → call.answer.isSome = true
deriving Decidable

/-! ### What a pass was told -/

/-- The answers that hold as long as no run is launched. -/
structure Told (db₀ db : DB) (h : Hist Stmt) : Prop where
  origins : ∀ taskID os, h.Asked (.task (.originsForTask taskID)) (some os) →
    taskID < db.tasks.next ∧ ∀ o ∈ db.taskOrigins, o.taskID = taskID → o.runTargetID ∈ os
  params : ∀ runID ps, h.Asked (.run (.getRunParams runID)) (some ps) →
    ∀ r ∈ db.runs.rows, r.id = runID → r.params = ps
  run : ∀ id run, h.Asked (.run (.getRun id)) (some run) → id < db₀.runs.next

section Told

variable {allowPrivate : Bool} {out : Outside} {env : Env} {db₀ db db' : DB} {h h' : Hist Stmt}
  {s : Stmt β} {b : β}

theorem Stmt.passPre_runs (hpre : s.passPre allowPrivate h) :
    s.created env db = [] ∧ ∀ r, s.paramsAfter r = r.params := by
  cases s with
  | run s =>
    cases s with
    | createRun | setRunParams => cases hpre
    | _ => exact ⟨rfl, fun _ => rfl⟩
  | _ => exact ⟨rfl, fun _ => rfl⟩

theorem Told.after (ht : Told db₀ db h) (hpre : s.passPre allowPrivate h')
    (hexec : s.exec out env db = some (b, db')) : Told db₀ db' h where
  origins taskID os hask := by
    obtain ⟨hlt, hos⟩ := ht.origins taskID os hask
    have hgrow := Stmt.exec_grows hexec
    refine ⟨Nat.lt_of_lt_of_le hlt hgrow.tasks_next, fun o ho hid => ?_⟩
    rcases hgrow.origins_new o ho with hold | hnew
    · exact hos o hold hid
    · rw [hid] at hnew
      exact absurd hlt (Nat.not_lt.mpr hnew)
  params runID ps hask r' hr' hid := by
    obtain ⟨hcreated, hparams⟩ : s.created env db = [] ∧ ∀ r, s.paramsAfter r = r.params :=
      Stmt.passPre_runs hpre
    rcases Stmt.run_before hexec hr' with ⟨r, hr, hstep⟩ | hnew
    · rw [hstep.params, hparams]
      exact ht.params runID ps hask r hr (hstep.id.symm.trans hid)
    · rw [hcreated] at hnew
      cases hnew
  run := ht.run

theorem Told.cons (ht : Told db₀ db h) (hg : Grounded out db₀ db h)
    (hnext : db.runs.next = db₀.runs.next) (hpre : s.passPre allowPrivate h)
    (hexec : s.exec out env db = some (b, db')) : Told db₀ db (⟨s, some b⟩ :: h) where
  origins taskID os hask := by
    rcases hask with _ | ⟨_, hold⟩
    -- what this statement has just been told, or what was told before
    · obtain ⟨runID, stage, rows, hrows, t, hrow, rfl⟩ := hpre
      cases hexec
      refine ⟨(hg.tasksByStage hrows t hrow).1, fun o ho hid => ?_⟩
      exact List.mem_map.mpr ⟨o, List.mem_filter.mpr ⟨ho, beq_iff_eq.mpr hid⟩, rfl⟩
    · exact ht.origins taskID os hold
  params runID ps hask r hr hid := by
    rcases hask with _ | ⟨_, hold⟩
    · obtain ⟨r₀, hfind, heq⟩ := Option.map_eq_some_iff.mp hexec
      cases heq
      obtain ⟨hmem, hid₀⟩ := find?_eq_some.mp hfind
      rw [eq_of_key hr hmem (hid.trans hid₀.symm)]
    · exact ht.params runID ps hold r hr hid
  run id run hask := by
    rcases hask with _ | ⟨_, hold⟩
    · obtain ⟨hmem, hid⟩ := Stmt.exec_getRun hexec
      rw [← hnext, ← hid]
      exact db.runs.bound _ hmem
    · exact ht.run id run hold

theorem Told.failed (ht : Told db₀ db h) : Told db₀ db (⟨s, none⟩ :: h) where
  origins taskID os hask := ht.origins taskID os hask.of_failed
  params runID ps hask := ht.params runID ps hask.of_failed
  run id run hask := ht.run id run hask.of_failed

end Told

/-! ### A pass that has finished -/

/-- An address that passes now has passed before: fewer addresses were shared, and the ports of
shared ones were no stricter. -/
theorem AddressChecks.permits_mono {c c' : AddressChecks} {ip : String} {os os' : List UUID}
    (hprivate : c.allowPrivate = c'.allowPrivate) (hguard : c.guard = c'.guard)
    (hauth : c'.authorized ⊆ c.authorized) (hshared : c.shared ⊆ c'.shared)
    (hports : c.cdnPorts = c'.cdnPorts ∨ c.cdnPorts ≠ "none")
    (horigins : ∀ o ∈ os', o ∈ c'.authorized → o ∈ os) (hpass : c'.permits ip os' = true) :
    c.permits ip os = true := by
  simp only [AddressChecks.permits, Bool.and_eq_true, List.any_eq_true,
    List.contains_iff_mem] at hpass ⊢
  obtain ⟨⟨⟨o, ho, hoauth⟩, hcdn⟩, hcheck⟩ := hpass
  refine ⟨⟨⟨o, horigins o ho hoauth, hauth hoauth⟩, ?_⟩, ?_⟩
  · simp only [Bool.not_eq_true', Bool.and_eq_false_iff, beq_eq_false_iff_ne] at hcdn ⊢
    rcases hcdn with hnot | hne
    · refine .inl ?_
      rw [← Bool.not_eq_true, List.contains_iff_mem] at hnot ⊢
      exact fun hmem => hnot (hshared hmem)
    · exact .inr (hports.elim (fun heq => heq ▸ hne) id)
  · rw [hprivate, hguard]
    exact hcheck

section Finished

variable {allowPrivate : Bool} {out : Outside} {db₀ db : DB} {h : Hist Stmt} {run r : ScanRun}
  (hg : Grounded out db₀ db h) (ht : Told db₀ db h) (hf : Fresh watched db h)
  (hall : ∀ taskID, ¬ h.Asked (.task (.originsForTask taskID)) none)

theorem Planner.Inserted.task (hg : Grounded out db₀ db h) {runID : UUID} {specs : List TaskSpec}
    (hi : Inserted h runID specs) {sp : TaskSpec} (hsp : sp ∈ specs) :
    ∃ t ∈ db.tasks.rows, t.runID = runID ∧ t.stage = sp.stage ∧
      ∃ id, t.target = (newTask runID sp id).target := by
  rcases hi with hnil | ⟨rt, out, ids, hroute, hask⟩
  · rw [hnil] at hsp
    cases hsp
  · rw [(routeTasks_ok hroute).1] at hask
    exact hg.insertTasks hask (routed rt sp) (List.mem_map_of_mem hsp)

include hg ht hf hall in
theorem Planner.Scanned.covers (hs : Scanned allowPrivate h run)
    (hread : ∃ id, h.Asked (.run (.getRun id)) (some run)) (hr : r ∈ db.runs.rows)
    (hid : r.id = run.id) (hscope : r.scopeID = run.scopeID) {t : ScanTask}
    (htask : t ∈ db.tasks.rows) (hrun : t.runID = r.id) (hstage : t.stage ∈ discoveryStages)
    (hdone : t.status = .done) {ip : String} (hip : ip ∈ (decode t.result).ips)
    (hpass : (checksOf allowPrivate db r).permits ip (addressOrigins db r.id ip) = true) :
    InScan db r.id ip := by
  obtain ⟨m, hu, hm⟩ := hs
  -- every done discovery task is listed in the map, with its origins of now
  have hlisted : ∀ t ∈ db.tasks.rows, t.runID = r.id → t.stage ∈ discoveryStages →
      t.status = .done →
      ip ∈ (decode t.result).ips → ∃ e ∈ m, e.1 = ip ∧ originsForTask t.id db ⊆ e.2 := by
    intro t htask hrun hstage hdone hip
    obtain ⟨rows, hrows, hl⟩ := hu.complete t.stage hstage
    have hrow := hf run.id t.stage rows (List.mem_append_left _ hstage) hrows t htask
      (hrun.trans hid) rfl (.inl hdone)
    obtain ⟨res, hres, e, he, heq, hsub⟩ := hl _ hrow hdone ip hip
    cases res with
    | none => exact absurd hres (hall t.id)
    | some os =>
      refine ⟨e, he, heq, fun o ho => hsub ?_⟩
      obtain ⟨x, hx, rfl⟩ := List.mem_map.mp ho
      obtain ⟨hmem, hxid⟩ := List.mem_filter.mp hx
      exact (ht.origins t.id os hres).2 x hmem (beq_iff_eq.mp hxid)
  obtain ⟨e, he, rfl, -⟩ := hlisted t htask hrun hstage hdone hip
  rcases hm with hnil | ⟨c, hc, hins⟩
  · rw [hnil] at he
    cases he
  · by_cases halready : e.1 ∈ c.already
    · rw [hid]
      exact hg.scannedAddresses hc.already e.1 halready
    · have horigins : addressOrigins db r.id e.1 ⊆ e.2 := by
        intro o ho
        obtain ⟨t₂, ht₂, ho⟩ := List.mem_flatMap.mp ho
        obtain ⟨hmem, hsel⟩ := List.mem_filter.mp ht₂
        simp only [Bool.and_eq_true, beq_iff_eq, List.contains_iff_mem] at hsel
        obtain ⟨⟨⟨hrun₂, hstage₂⟩, hdone₂⟩, hip₂⟩ := hsel
        obtain ⟨e₂, he₂, hkey, hsub⟩ := hlisted t₂ hmem hrun₂ hstage₂ hdone₂ hip₂
        rw [List.inj_on_of_nodup_map hu.keyed he he₂ hkey.symm]
        exact hsub ho
      have hpermits : c.permits e.1 e.2 = true := by
        obtain ⟨rows, targets, hrows, htargets, hauth⟩ := hc.authorized
        obtain ⟨rows', hrows', hguard⟩ := hc.guard
        obtain ⟨ps, hps, hports⟩ := hc.cdnPorts
        obtain ⟨id, hread⟩ := hread
        have hlt : run.id < db₀.runs.next := by
          rw [(hg.getRun hread).1]
          exact ht.run id run hread
        refine AddressChecks.permits_mono hc.allowPrivate ?_ ?_ ?_ ?_
          (fun o ho _ => horigins ho) hpass
        · rw [hguard, hg.listTargets hrows', ← hscope]
          rfl
        · intro o ho
          obtain ⟨tg, htg, rfl⟩ := List.mem_map.mp ho
          obtain ⟨hmem, hok⟩ := List.mem_filter.mp htg
          obtain ⟨hmem, htgrun⟩ := List.mem_filter.mp ((List.mem_insertionSort _).mp hmem)
          obtain ⟨tg₀, htg₀, hsame⟩ := (hg.listRunTargets htargets).2 hlt tg hmem
            ((beq_iff_eq.mp htgrun).trans hid)
          rw [hauth, hsame.id]
          refine List.mem_map.mpr ⟨tg₀, List.mem_filter.mpr ⟨htg₀, ?_⟩, rfl⟩
          rw [hg.listTargets hrows, ← hscope, ← hsame.value]
          exact hok
        · rw [show (checksOf allowPrivate db r).shared = sharedAddresses run.scopeID db by
            rw [← hscope]; rfl]
          exact hg.sharedAddresses hc.shared
        · rw [hports]
          cases ps with
          | none => exact .inr (by decide)
          | some ps =>
            refine .inl ?_
            rw [← ht.params run.id ps hps r hr hid]
            rfl
      obtain ⟨sp, hsp, hmem⟩ := exists_addressSpec hu.keyed he halready hpermits
      obtain ⟨t', ht', hrun', hstage', id', htarget'⟩ := hins.task hg hsp
      obtain ⟨hspstage, -, -, -⟩ := mem_addressSpecs hsp
      refine ⟨t', ht', hrun'.trans hid.symm, hstage'.trans hspstage, ?_⟩
      rw [htarget']
      refine List.mem_append_left _ ?_
      show e.1 ∈ (if sp.wordlist = "" then sp.target else _).ips
      split <;> exact hmem

include hg hf in
theorem Planner.Probed.covers (hp : Probed h run) (hid : r.id = run.id) {t : ScanTask}
    (htask : t ∈ db.tasks.rows) (hrun : t.runID = r.id) (hstage : t.stage = .portScan)
    (hover : t.status = .done ∨ t.status = .failed) {sv : IPPort}
    (hsv : sv ∈ (decode t.result).services) : HasProbe db r.id sv := by
  obtain ⟨rows, already, acc, hrows, halready, hmarked, hprobes, hmarks, hins⟩ := hp
  have hrow := hf run.id .portScan rows (List.mem_append_right _ List.mem_cons_self) hrows t htask
    (hrun.trans hid) hstage hover
  rcases hmarked _ (hmarks _ hrow hover sv hsv) with hold | ⟨sp, hsp, hkey⟩
  · obtain ⟨t', ht', hrun', hstage', hkey⟩ := hg.probedEndpoints halready _ hold
    obtain ⟨hip, hport⟩ := endpointKey_inj hkey
    exact ⟨t', ht', hrun'.trans hid.symm, hstage', hip, hport⟩
  · obtain ⟨hip, hport⟩ := endpointKey_inj hkey
    obtain ⟨-, -, -, sv', -, o, rfl⟩ := hprobes sp hsp
    obtain ⟨t', ht', hrun', hstage', id', htarget'⟩ := hins.task hg hsp
    refine ⟨t', ht', hrun'.trans hid.symm, hstage', ?_, ?_⟩
    · rw [htarget']
      exact hip
    · rw [htarget']
      exact hport

end Finished

/-! ### Whole runs -/

theorem Stmt.settles_of_readsStage {s : Stmt β} {x : UUID × Stage} (hs : s.readsStage = some x)
    (t : ScanTask) : s.settles t = false := by
  cases s with
  | task s =>
    cases s with
    | tasksByStage => rfl
    | _ => cases hs
  | _ => rfl

theorem pass_inductive (cfg : ControlConfig) (out : Outside) (db₀ : DB) :
    System.Inductive (passSystem cfg out)
      (fun c _ _ s => (Undisturbed watched c s ∧ OriginsAnswered c) ∧ Past out db₀ id c)
      (fun h _ s => s.passPre cfg.launch.allowPrivate h) (fun _ _ => True)
      (fun db => db.runs.next = db₀.runs.next) fun db th =>
        Told db₀ db th.hist ∧ (th.prog.finished = false → Fresh watched db th.hist) := by
  refine ⟨fun _ r _ hr => ⟨⟨?_, fun _ => ?_⟩, passRequest_meets cfg hr⟩, ?_, ?_⟩
  · exact ⟨fun _ _ hask => hask.of_nil, fun _ _ hask => hask.of_nil, fun _ _ hask => hask.of_nil⟩
  · exact fun _ _ _ _ hask => hask.of_nil
  · intro c i h β s k env b db' hc hth hpre ⟨⟨hok, _⟩, hpast⟩ hexec
    have hmem := List.mem_of_getElem? hth
    obtain ⟨htold, hfresh⟩ := hc.threads _ hmem
    have hnow := (htold.cons (hpast.grounded hth) hc.state hpre hexec).after hpre hexec
    refine ⟨?_, ⟨hnow, fun _ => ?_⟩,
      fun j th _ hj ⟨htold, hfresh⟩ => ⟨htold.after hpre hexec, fun hunfinished => ?_⟩⟩
    · rw [Stmt.exec_runs_next hexec, (Stmt.passPre_runs hpre).1]
      exact hc.state
    -- the thread's own reads: a listing settles no task, the earlier ones were fresh before
    · refine ((hfresh rfl).cons hexec).after hexec fun call hcall x hx => ?_
      rcases List.mem_cons.mp hcall with rfl | hold
      · exact fun _ t _ _ _ => Stmt.settles_of_readsStage hx t
      · exact hok _ hmem rfl call hold x hx
    · exact (hfresh hunfinished).after hexec (hok th (List.mem_of_getElem? hj) hunfinished)
  · intro db h β s k _ ⟨htold, hfresh⟩ _
    exact ⟨htold.failed, fun _ => (hfresh rfl).failed⟩

/-- **A run that a pass sets to completed is covered**, in every run of passes and deliveries in
which no task finishes under a pass that has already listed its stage. -/
theorem completed_run_covered (cfg : ControlConfig) (out : Outside) {db : DB}
    {es : List (Event ControlRequest Env)} {i : Nat} {env : Env} {r : ScanRun}
    (hok : (passSystem cfg out).Along (fun c _ _ s => Undisturbed watched c s ∧ OriginsAnswered c)
      ⟨db, []⟩ (es ++ [.step i env]))
    (hcompleting : Completing ((passSystem cfg out).run ⟨db, []⟩ es) i r.id)
    (hr : r ∈ ((passSystem cfg out).run ⟨db, []⟩ (es ++ [.step i env])).state.runs.rows)
    (hprofile : r.profile ≠ .passive) :
    Covered cfg.launch.allowPrivate
      ((passSystem cfg out).run ⟨db, []⟩ (es ++ [.step i env])).state r := by
  have hsys : OnStore out (passSystem cfg out) id := id
  have hstart : Past out db id (⟨db, []⟩ : Conf Stmt DB Nat) := System.Holds.start (.refl db)
  obtain ⟨hes, hlast⟩ := System.Along.append.mp hok
  have hpast := hstart.run hsys es
  have hmid := (pass_inductive cfg out db).run (.start rfl)
    (hes.and_inv hstart fun c e hc _ => hc.next hsys)
  rw [run_append, run_cons, run_nil] at hr ⊢
  generalize (passSystem cfg out).run ⟨db, []⟩ es = c at hcompleting hlast hpast hmid hr ⊢
  obtain ⟨h, k, hth⟩ := hcompleting.thread
  have hmem := List.mem_of_getElem? hth
  obtain ⟨htold, hfresh⟩ := hmid.threads _ hmem
  have hpre := (hmid.contract _ hmem).1
  -- the statement writes the run's status: what the pass was told holds after it too
  obtain ⟨db', hexec⟩ : ∃ db', (Stmt.run (.setRunStatus r.id .completed)).exec out env c.state =
      some ((), db') := ⟨_, rfl⟩
  rw [next_step (passSystem cfg out) hth hexec] at hr ⊢
  have hg : Grounded out db db' h := (hpast.grounded hth).grow (Stmt.exec_grows hexec)
  have htold' := htold.after hpre hexec
  have hfresh' := (hfresh rfl).after hexec fun _ _ _ _ _ _ _ _ _ => rfl
  obtain ⟨-, run, hrun, ⟨id, hread⟩, hdone⟩ := hpre
  obtain ⟨-, r', hr', hid', hscope', hprofile'⟩ := hg.getRun hread
  have heq : r' = r := eq_of_key hr' hr (hid'.trans hrun)
  rw [heq] at hid' hscope' hprofile'
  obtain ⟨hscanned, hprobed, -⟩ := hdone.ready (hprofile' ▸ hprofile)
  have hall : ∀ taskID, ¬ h.Asked (.task (.originsForTask taskID)) none := by
    intro taskID hask
    simp only [System.Along, System.Allowed, hth] at hlast
    exact Bool.false_ne_true (hlast.1.2 _ hmem _ hask rfl)
  exact ⟨fun t ht hrun hstage hdone ip hip hpass => hscanned.covers hg htold' hfresh' hall
      ⟨id, hread⟩ hr hid' hscope' ht hrun hstage hdone hip hpass,
    fun t ht hrun hstage hover sv hsv => hprobed.covers hg hfresh' hid' ht hrun hstage hover hsv⟩

/-! ### A task that finishes under a pass -/

/-- A name is being resolved, and nothing else is left of the run. -/
def resolvingDB : DB :=
  { oneTaskDB with
    scopeTargets := .ofRows
      [{ id := 1, scopeID := 1, kind := .domain, value := "example.org", mode := .active,
         authorizedBy := some "owner", authorizedAt := some 0 }] (by decide)
    runTargets := .ofRows
      [{ id := 1, runID := 1, kind := .domain, value := "example.org", tasksTotal := 1 }]
      (by decide)
    tasks := .ofRows
      [{ oneTask with
         stage := .dnsResolve, target := { domain := "example.org" }, requires := []
         status := .leased, workerID := some 1, leaseToken := some 1 }] (by decide)
    taskOrigins := [⟨1, 1⟩] }

/-- The worker's results: the name has an address. -/
def resolved : ControlRequest :=
  delivered 1 1
    [{ type := .dnsRecord, domain := "example.org", rtype := "A", value := "192.0.2.1" }]

/-- The pass has listed the discovery stages, and the results arrive. -/
def resolvedUnderPass : List (Event ControlRequest Env) :=
  served 0 4 (.advance 1) ++ served 1 20 resolved ++ steps 0 16

/-- **The run is completed without the address having been scanned.** -/
theorem completed_run_misses_address :
    ∃ r ∈ ((passSystem {} {}).run ⟨resolvingDB, []⟩ resolvedUnderPass).state.runs.rows,
      r.status = .completed ∧ r.profile ≠ .passive ∧
      ¬ Covered false ((passSystem {} {}).run ⟨resolvingDB, []⟩ resolvedUnderPass).state r := by
  decide +kernel

/-- The same results between two passes: the address is scanned, its open port probed, and the last
pass is about to complete the run. -/
def resolvedBetweenPasses : List (Event ControlRequest Env) :=
  served 0 20 resolved ++ served 1 30 (.advance 1) ++
    served 2 9 (.gateway (.dispatchTick 1)) ++
    served 3 20 (delivered 2 1 [{ type := .service, ip := "192.0.2.1", port := 443 }]) ++
    served 4 30 (.advance 1) ++ served 5 9 (.gateway (.dispatchTick 1)) ++
    served 6 20 (delivered 3 2 []) ++ served 7 31 (.advance 1)

/-- It is completed with everything covered. -/
theorem completed_run_scanned_address :
    Covered false ((passSystem {} {}).run ⟨resolvingDB, []⟩
      (resolvedBetweenPasses ++ [.step 7 {}])).state
      { oneRun with status := .completed, finishedAt := some 0 } :=
  completed_run_covered {} {} (by decide +kernel) (by decide +kernel)
    (by decide +kernel) (by decide)

end PinkGlasses
