import PinkGlasses.Planner.Program
import PinkGlasses.Planner.Select

/-!
# PinkGlasses.Planner.Trace

What the history of a planner pass shows, whatever the answers were.

The programs are taken apart **once**, here. A pass inserts tasks only when they are `Planned` from
answers in its history, and marks the run completed only when its history shows that everything it
read was dealt with (`Scanned`, `Probed`). `Contract` says what a contract has to allow for the
planner's programs to keep it; what the answers mean for the database is up to the users of this
module.
-/

namespace PinkGlasses

open Lib Prog Go

namespace Planner

/-! ### What the history shows -/

/-- The task is in a list that was read. -/
def SeenTask (h : Hist Stmt) (taskID : UUID) : Prop :=
  ∃ runID stage rows, h.Asked (.task (.tasksByStage runID stage)) (some rows) ∧
    ∃ t ∈ rows, t.id = taskID

/-- A finished discovery task of the run reported the address, and serves the run target. -/
def Reported (h : Hist Stmt) (runID : UUID) (ip : String) (o : UUID) : Prop :=
  ∃ stage ∈ discoveryStages, ∃ rows, h.Asked (.task (.tasksByStage runID stage)) (some rows) ∧
    ∃ t ∈ rows, t.status = .done ∧ ip ∈ (decode t.result).ips ∧
      ∃ os, h.Asked (.task (.originsForTask t.id)) (some os) ∧ o ∈ os

/-- The map lists every address the task reported, with the origins that were read for the task. -/
def Listed (h : Hist Stmt) (m : AddressMap) (t : TaskRow) : Prop :=
  t.status = .done → ∀ ip ∈ (decode t.result).ips,
    ∃ r, h.Asked (.task (.originsForTask t.id)) r ∧ m.Lists ip (r.getD [])

/-- The map is the union of what the tasks of the stages reported. -/
structure Union (h : Hist Stmt) (runID : UUID) (stages : List Stage) (m : AddressMap) : Prop where
  keyed : m.Keyed
  sound : ∀ e ∈ m, ∀ o ∈ e.2, Reported h runID e.1 o
  complete : ∀ stage ∈ stages, ∃ rows,
    h.Asked (.task (.tasksByStage runID stage)) (some rows) ∧ ∀ t ∈ rows, Listed h m t

/-- The checks are what the answers say. -/
structure ChecksFrom (allowPrivate : Bool) (h : Hist Stmt) (run : ScanRun) (c : AddressChecks) :
    Prop where
  allowPrivate : c.allowPrivate = allowPrivate
  already : h.Asked (.task (.scannedAddresses run.id)) (some c.already)
  authorized : ∃ rows targets, h.Asked (.run (.listTargets run.scopeID "")) (some rows) ∧
    h.Asked (.run (.listRunTargets run.id)) (some targets) ∧
    c.authorized =
      (targets.filter fun t => Planner.authorized (mergeTargets rows) t.value).map (·.id)
  guard : ∃ rows, h.Asked (.run (.listTargets run.scopeID "")) (some rows) ∧
    c.guard = ScopeGuard.new (mergeTargets rows)
  shared : h.Asked (.asset (.sharedAddresses run.scopeID)) (some c.shared)
  cdnPorts : ∃ r, h.Asked (.run (.getRunParams run.id)) r ∧ c.cdnPorts = cdnPortsFor r

/-- A task whose findings are followed up: done, or failed with something to show. -/
def TaskRow.over (t : TaskRow) : Prop := t.status = .done ∨ t.status = .failed

/-- The probe is for an endpoint that a port scan of the list reported. -/
def ProbeOf (tasks : List TaskRow) (sp : TaskSpec) : Prop :=
  ∃ t ∈ tasks, TaskRow.over t ∧ ∃ sv ∈ (decode t.result).services,
    ∃ o, sp = spec .serviceProbe { ip := sv.ip, port := sv.port } 200 o

/-- The task is a web stage of a live endpoint that a probe of the list reported. -/
def WebOf (h : Hist Stmt) (scopeID : UUID) (params : List (String × String))
    (tasks : List TaskRow) (sp : TaskSpec) : Prop :=
  ∃ t ∈ tasks, ∃ u ∈ (decode t.result).webURLs, ∃ r,
    h.Asked (.asset (.namesResolvingTo scopeID (ipPortFromURL u).1 (maxVhosts params + 1))) r ∧
    ∃ tgt ∈ webTargets u (ipPortFromURL u).1 (ipPortFromURL u).2 (r.getD []) (maxVhosts params),
      ∃ o, sp ∈ webSpecs (postProbeStages params) o tgt

/-- Every target of every live endpoint the probe reported is among the tasks. -/
def WebListed (h : Hist Stmt) (scopeID : UUID) (params : List (String × String))
    (specs : List TaskSpec) (t : TaskRow) : Prop :=
  ∀ u ∈ (decode t.result).webURLs, ∃ r,
    h.Asked (.asset (.namesResolvingTo scopeID (ipPortFromURL u).1 (maxVhosts params + 1))) r ∧
    ∀ tgt ∈ webTargets u (ipPortFromURL u).1 (ipPortFromURL u).2 (r.getD []) (maxVhosts params),
      ∃ o, webSpecs (postProbeStages params) o tgt ⊆ specs

/-- **Where a pass gets the tasks it inserts from.** -/
inductive Planned (allowPrivate : Bool) (h : Hist Stmt) (run : ScanRun) : List TaskSpec → Prop
  | addresses {m : AddressMap} {c : AddressChecks} (hm : Union h run.id discoveryStages m)
      (hc : ChecksFrom allowPrivate h run c) : Planned allowPrivate h run (addressSpecs c m)
  | probes {tasks : List TaskRow} {specs : List TaskSpec}
      (htasks : h.Asked (.task (.tasksByStage run.id .portScan)) (some tasks))
      (hspecs : ∀ sp ∈ specs, ProbeOf tasks sp) : Planned allowPrivate h run specs
  | web {tasks : List TaskRow} {params : Option (List (String × String))} {specs : List TaskSpec}
      (htasks : h.Asked (.task (.tasksByStage run.id .serviceProbe)) (some tasks))
      (hparams : h.Asked (.run (.getRunParams run.id)) params)
      (hspecs : ∀ sp ∈ specs, WebOf h run.scopeID (params.getD []) tasks sp) :
      Planned allowPrivate h run specs

/-- There was nothing to insert, or it was inserted. -/
def Inserted (h : Hist Stmt) (runID : UUID) (specs : List TaskSpec) : Prop :=
  specs = [] ∨ ∃ rt out ids, routeTasks specs rt = .ok out ∧
    h.Asked (.task (.insertTasks runID out)) (some ids)

/-- The discovered addresses were dealt with. -/
def Scanned (allowPrivate : Bool) (h : Hist Stmt) (run : ScanRun) : Prop :=
  ∃ m, Union h run.id discoveryStages m ∧
    (m = [] ∨ ∃ c, ChecksFrom allowPrivate h run c ∧ Inserted h run.id (addressSpecs c m))

/-- The open ports were dealt with. -/
def Probed (h : Hist Stmt) (run : ScanRun) : Prop :=
  ∃ tasks already acc, h.Asked (.task (.tasksByStage run.id .portScan)) (some tasks) ∧
    h.Asked (.task (.probedEndpoints run.id)) (some already) ∧ Marked already acc ∧
    (∀ sp ∈ acc.2, ProbeOf tasks sp) ∧
    (∀ t ∈ tasks, TaskRow.over t → ∀ sv ∈ (decode t.result).services,
      endpointKey sv.ip sv.port ∈ acc.1) ∧
    Inserted h run.id acc.2

/-- The web stages were dealt with: they were planned before, the probes are not over, or every
target of every live endpoint has its stages. -/
def WebPlanned (h : Hist Stmt) (run : ScanRun) : Prop :=
  h.Asked (.task (.stageExists run.id .techDetect)) (some true) ∨
  (∃ n, h.Asked (.task (.stageOutstanding run.id [.serviceProbe])) (some n) ∧ 0 < n) ∨
  ∃ tasks params specs, h.Asked (.task (.tasksByStage run.id .serviceProbe)) (some tasks) ∧
    h.Asked (.run (.getRunParams run.id)) params ∧
    (∀ t ∈ tasks, WebListed h run.scopeID (params.getD []) specs t) ∧ Inserted h run.id specs

/-- Nothing was outstanding when the progress of the run was read, **after** everything that was
listed had been dealt with: what stands behind the answer in the history is older. -/
def Concluded (allowPrivate : Bool) (h : Hist Stmt) (run : ScanRun) : Prop :=
  ∃ newer older p, h = newer ++ ⟨.task (.runProgress run.id), some p⟩ :: older ∧
    p.outstanding = 0 ∧ (run.profile ≠ .passive →
      Scanned allowPrivate older run ∧ Probed older run ∧ WebPlanned older run)

/-- `PassivePool` has returned the pool. -/
inductive PassiveAnswer (h : Hist Stmt) (id : UUID) : Prop
  | discovery (hid : h.Asked (.worker .discoveryPool) (some id))
  | byName (hnone : h.Asked (.worker .discoveryPool) none)
      (hid : h.Asked (.worker (.poolByName "local")) (some id))
  | fallback (hnone : h.Asked (.worker .discoveryPool) none)
      (hnone' : h.Asked (.worker (.poolByName "local")) none)
      (hid : h.Asked (.worker .defaultPool) (some id))

/-- **What a contract has to allow** for the planning part of `Advance` to keep it. -/
structure PlanContract (allowPrivate : Bool) (run : ScanRun)
    (pre : Hist Stmt → ∀ β : Type, Stmt β → Prop) : Prop where
  quiet : ∀ h β (s : Stmt β), s.quiet = true → pre h β s
  origins : ∀ h taskID, SeenTask h taskID → pre h _ (.task (.originsForTask taskID))
  insert : ∀ h specs rt out, run.profile ≠ .passive → specs ≠ [] →
    Planned allowPrivate h run specs → rt.active = run.poolID → PassiveAnswer h rt.passive →
    routeTasks specs rt = .ok out →
    pre h _ (.task (.insertTasks run.id out))

/-- The same for all of `Advance`. -/
structure Contract (allowPrivate : Bool) (run : ScanRun)
    (pre : Hist Stmt → ∀ β : Type, Stmt β → Prop) :
    Prop extends PlanContract allowPrivate run pre where
  finish : ∀ h, Concluded allowPrivate h run → pre h _ (.run (.setRunStatus run.id .completed))

theorem Planned.seen {allowPrivate : Bool} {h : Hist Stmt} {run : ScanRun} {specs : List TaskSpec}
    (hp : Planned allowPrivate h run specs) (hne : specs ≠ []) :
    ∃ stage rows, h.Asked (.task (.tasksByStage run.id stage)) (some rows) ∧ rows ≠ [] := by
  obtain ⟨sp, hsp⟩ := List.exists_mem_of_ne_nil specs hne
  cases hp with
  | @addresses m c hm _ =>
    obtain ⟨-, -, hips, hall⟩ := mem_addressSpecs hsp
    obtain ⟨ip, hip⟩ := List.exists_mem_of_ne_nil _ hips
    obtain ⟨e, he, -, -, hpass⟩ := hall ip hip
    simp only [AddressChecks.permits, Bool.and_eq_true, List.any_eq_true] at hpass
    obtain ⟨o, ho, -⟩ := hpass.1.1
    obtain ⟨stage, -, rows, hrows, t, ht, -⟩ := hm.sound e he o ho
    exact ⟨stage, rows, hrows, List.ne_nil_of_mem ht⟩
  | probes htasks hspecs =>
    obtain ⟨t, ht, -⟩ := hspecs sp hsp
    exact ⟨_, _, htasks, List.ne_nil_of_mem ht⟩
  | web htasks _ hspecs =>
    obtain ⟨t, ht, -⟩ := hspecs sp hsp
    exact ⟨_, _, htasks, List.ne_nil_of_mem ht⟩

/-! ### More history shows no less -/

section Mono

variable {h h' : Hist Stmt} (hsub : h ⊆ h')

include hsub

theorem PassiveAnswer.mono {id : UUID} (ha : PassiveAnswer h id) : PassiveAnswer h' id := by
  cases ha with
  | discovery hid => exact .discovery (hid.mono hsub)
  | byName hnone hid => exact .byName (hnone.mono hsub) (hid.mono hsub)
  | fallback hnone hnone' hid =>
    exact .fallback (hnone.mono hsub) (hnone'.mono hsub) (hid.mono hsub)

theorem SeenTask.mono {taskID : UUID} : SeenTask h taskID → SeenTask h' taskID := by
  unfold SeenTask
  gcongr

variable {runID : UUID} {run : ScanRun}

theorem Reported.mono {o : UUID} {ip : String} :
    Reported h runID ip o → Reported h' runID ip o := by
  unfold Reported
  gcongr

theorem Listed.mono {m m' : AddressMap} {t : TaskRow}
    (hm : ∀ ip os, m.Lists ip os → m'.Lists ip os) : Listed h m t → Listed h' m' t := by
  unfold Listed
  gcongr
  exact hm _ _

@[gcongr]
theorem Union.mono {stages : List Stage} {m : AddressMap} (hu : Union h runID stages m) :
    Union h' runID stages m where
  keyed := hu.keyed
  sound e he o ho := (hu.sound e he o ho).mono hsub
  complete stage hs := by
    obtain ⟨rows, hrows, hl⟩ := hu.complete stage hs
    exact ⟨rows, hrows.mono hsub, fun t ht => (hl t ht).mono hsub fun _ _ h => h⟩

@[gcongr]
theorem ChecksFrom.mono {allowPrivate : Bool} {c : AddressChecks}
    (hc : ChecksFrom allowPrivate h run c) : ChecksFrom allowPrivate h' run c where
  allowPrivate := hc.allowPrivate
  already := hc.already.mono hsub
  authorized := by
    obtain ⟨rows, targets, hr, ht, heq⟩ := hc.authorized
    exact ⟨rows, targets, hr.mono hsub, ht.mono hsub, heq⟩
  guard := by
    obtain ⟨rows, hr, heq⟩ := hc.guard
    exact ⟨rows, hr.mono hsub, heq⟩
  shared := hc.shared.mono hsub
  cdnPorts := by
    obtain ⟨r, hr, heq⟩ := hc.cdnPorts
    exact ⟨r, hr.mono hsub, heq⟩

theorem WebListed.mono {scopeID : UUID} {params : List (String × String)}
    {specs specs' : List TaskSpec} {t : TaskRow} (hspecs : specs ⊆ specs') :
    WebListed h scopeID params specs t → WebListed h' scopeID params specs' t := by
  unfold WebListed
  gcongr
  exact List.Subset.refl _

@[gcongr]
theorem Inserted.mono {specs : List TaskSpec} :
    Inserted h runID specs → Inserted h' runID specs := by
  unfold Inserted
  gcongr

theorem Scanned.mono {allowPrivate : Bool} :
    Scanned allowPrivate h run → Scanned allowPrivate h' run := by
  unfold Scanned
  gcongr

theorem Probed.mono : Probed h run → Probed h' run := by
  unfold Probed
  gcongr

theorem WebPlanned.mono : WebPlanned h run → WebPlanned h' run := by
  unfold WebPlanned
  gcongr
  exact WebListed.mono hsub (List.Subset.refl _)

end Mono

theorem Concluded.cons {allowPrivate : Bool} (hdone : Concluded allowPrivate h run)
    (c : Call Stmt) : Concluded allowPrivate (c :: h) run := by
  obtain ⟨newer, older, p, rfl, hp, hready⟩ := hdone
  exact ⟨c :: newer, older, p, rfl, hp, hready⟩

theorem Concluded.asked {allowPrivate : Bool} (hdone : Concluded allowPrivate h run) :
    ∃ p, h.Asked (.task (.runProgress run.id)) (some p) ∧ p.outstanding = 0 := by
  obtain ⟨newer, older, p, rfl, hp, -⟩ := hdone
  exact ⟨p, List.mem_append_right _ List.mem_cons_self, hp⟩

theorem Concluded.ready {allowPrivate : Bool} (hdone : Concluded allowPrivate h run)
    (hactive : run.profile ≠ .passive) :
    Scanned allowPrivate h run ∧ Probed h run ∧ WebPlanned h run := by
  obtain ⟨newer, older, p, rfl, -, hready⟩ := hdone
  obtain ⟨hscan, hprobe, hweb⟩ := hready hactive
  have hsub : older ⊆ newer ++ ⟨.task (.runProgress run.id), some p⟩ :: older :=
    fun _ hc => List.mem_append_right _ (List.mem_cons_of_mem _ hc)
  exact ⟨hscan.mono hsub, hprobe.mono hsub, hweb.mono hsub⟩

/-! ### The programs -/

section Programs

variable {allowPrivate : Bool} {run : ScanRun} {pre : Hist Stmt → ∀ β : Type, Stmt β → Prop}
  {h : Hist Stmt} (hc : ∀ h β (s : Stmt β), s.quiet = true → pre h β s)
  (ho : ∀ h taskID, SeenTask h taskID → pre h _ (.task (.originsForTask taskID)))

include ho in
theorem originsOf_meets {id : UUID} (hseen : SeenTask h id) :
    MeetsOk pre h (originsOf id) fun h' os =>
      ∃ r, h'.Asked (.task (.originsForTask id)) r ∧ os = r.getD [] := by
  refine (meetsOk_try (ho h id hseen)).bind fun h₁ r _ hr => ?_
  exact meetsOk_pure ⟨r, hr, rfl⟩

include hc

theorem listTargetsMerged_meets (scopeID : UUID) : MeetsOk pre h (listTargetsMerged scopeID)
    fun h' ts => ∃ rows, h'.Asked (.run (.listTargets scopeID "")) (some rows) ∧
      ts = mergeTargets rows := by
  refine (meetsOk_exec (hc h _ _ rfl)).bind fun h₁ rows _ hrows => ?_
  exact meetsOk_pure ⟨rows, hrows, rfl⟩

theorem passivePool_meets : MeetsOk pre h passivePool fun h' id => PassiveAnswer h' id := by
  refine (meetsOk_try (hc h _ _ rfl)).bind fun h₁ r _ hdisc => ?_
  cases r with
  | some id => exact meetsOk_pure (.discovery hdisc)
  | none =>
    refine (meetsOk_try (hc h₁ _ _ rfl)).bind fun h₂ r hs₂ hlocal => ?_
    cases r with
    | some id => exact meetsOk_pure (.byName (hdisc.mono hs₂) hlocal)
    | none =>
      refine (meetsOk_exec (hc h₂ _ _ rfl)).imp fun h₃ id hs₃ hid => ?_
      exact .fallback ((hdisc.mono hs₂).mono hs₃) (hlocal.mono hs₃) hid

theorem routingFor_meets (run : ScanRun) : MeetsOk pre h (routingFor run) fun h' rt =>
    rt.active = run.poolID ∧ PassiveAnswer h' rt.passive := by
  refine (meetsOk_mapError (passivePool_meets hc)).bind fun h₁ passive _ hpassive => ?_
  exact meetsOk_pure ⟨rfl, hpassive⟩

variable {runID scopeID : UUID} {m : AddressMap} {rows ts : List TaskRow} {cache : NameCache}

omit hc in
theorem insertRouted_meets {rt : Routing} {specs : List TaskSpec}
    (hins : ∀ out, routeTasks specs rt = .ok out → pre h _ (.task (.insertTasks runID out))) :
    MeetsOk pre h (insertRouted runID rt specs) fun h' _ => Inserted h' runID specs := by
  refine meetsOk_ofExcept.bind fun h₁ out _ ⟨heq, hout⟩ => ?_
  rw [heq]
  refine (meetsOk_exec (hins out hout)).bind fun h₂ ids _ hids => ?_
  exact meetsOk_pure (.inr ⟨rt, out, ids, hout, hids⟩)

omit hc in
theorem insertPlanned_meets {rt : Routing} {specs : List TaskSpec}
    (hcon : PlanContract allowPrivate run pre) (hactive : run.profile ≠ .passive)
    (hplanned : Planned allowPrivate h run specs) (hrt : rt.active = run.poolID)
    (hpassive : PassiveAnswer h rt.passive) :
    MeetsOk pre h (if specs.isEmpty then pure () else insertRouted run.id rt specs)
      fun h' _ => Inserted h' run.id specs := by
  split
  · rename_i hnil
    exact meetsOk_pure (.inl (List.isEmpty_iff.mp hnil))
  · rename_i hne
    exact insertRouted_meets fun out hout =>
      hcon.insert h specs rt out hactive (by simpa using hne) hplanned hrt hpassive hout

/-! #### Discovered addresses -/

/-- What the loops over the discovery tasks keep: `Union` without its last part, and what was listed
before stays listed. -/
structure Gathered (h : Hist Stmt) (runID : UUID) (m m' : AddressMap) : Prop where
  keyed : m'.Keyed
  sound : ∀ e ∈ m', ∀ o ∈ e.2, Reported h runID e.1 o
  kept : ∀ ip os, m.Lists ip os → m'.Lists ip os

omit hc in
theorem Gathered.trans {h h' : Hist Stmt} {m' m'' : AddressMap} (hg : Gathered h runID m m')
    (hg' : Gathered h' runID m' m'') : Gathered h' runID m m'' where
  keyed := hg'.keyed
  sound := hg'.sound
  kept ip os hl := hg'.kept ip os (hg.kept ip os hl)

omit hc in
include ho in
theorem addTaskAddresses_meets {stage : Stage} {t : TaskRow} (hm : Gathered h runID m m)
    (hstage : stage ∈ discoveryStages)
    (hrows : h.Asked (.task (.tasksByStage runID stage)) (some rows)) (ht : t ∈ rows) :
    MeetsOk pre h (addTaskAddresses m t) fun h' m' => Gathered h' runID m m' ∧ Listed h' m' t := by
  unfold addTaskAddresses
  by_cases hskip : t.status ≠ .done ∨ (decode t.result).ips = []
  · rw [if_pos hskip]
    refine meetsOk_pure ⟨hm, fun hdone ip hip => ?_⟩
    rcases hskip with hne | hnil
    · exact absurd hdone hne
    · rw [hnil] at hip
      cases hip
  · rw [if_neg hskip, not_or, not_not] at *
    have hseen : SeenTask h t.id := ⟨runID, stage, rows, hrows, t, ht, rfl⟩
    refine (originsOf_meets ho hseen).bind fun h₁ os hsub ⟨r, hr, hos⟩ => meetsOk_pure ⟨?_, ?_⟩
    · refine ⟨hm.keyed.foldl, fun e he o ho => ?_, fun ip os hl => hl.foldl⟩
      rcases mem_foldl_addAddress he ho with ⟨e₀, he₀, hkey, ho₀⟩ | ⟨hip, hor⟩
      · rw [← hkey]
        exact (hm.sound e₀ he₀ o ho₀).mono hsub
      · -- a new origin: the answer about the task was not an error
        cases r with
        | none => rw [hos] at hor; cases hor
        | some os' =>
          have hor' : o ∈ os' := by rw [hos] at hor; exact hor
          exact ⟨stage, hstage, rows, hrows.mono hsub, t, ht, hskip.1, hip, os', hr, hor'⟩
    · intro _ ip hip
      exact ⟨r, hr, hos ▸ lists_foldl_addAddress hip⟩

omit hc in
include ho in
theorem addStageAddresses_meets {stage : Stage} (hm : Gathered h runID m m)
    (hstage : stage ∈ discoveryStages)
    (hrows : h.Asked (.task (.tasksByStage runID stage)) (some rows)) (hts : ts ⊆ rows) :
    MeetsOk pre h (addStageAddresses m ts) fun h' m' =>
      Gathered h' runID m m' ∧ ∀ t ∈ ts, Listed h' m' t := by
  induction ts generalizing h m with
  | nil => exact meetsOk_pure ⟨hm, nofun⟩
  | cons t ts ih =>
    obtain ⟨ht, hts⟩ := List.cons_subset.mp hts
    refine (addTaskAddresses_meets ho hm hstage hrows ht).bind fun h₁ m₁ hsub ⟨hg, hl⟩ => ?_
    have hg₁ : Gathered h₁ runID m₁ m₁ := ⟨hg.keyed, hg.sound, fun _ _ hl => hl⟩
    refine (ih hg₁ (hrows.mono hsub) hts).imp fun h₂ m₂ hsub₂ ⟨hg₂, hl₂⟩ => ?_
    refine ⟨hg.trans hg₂, fun t' ht' => ?_⟩
    rcases List.mem_cons.mp ht' with rfl | hmem
    · exact hl.mono hsub₂ hg₂.kept
    · exact hl₂ t' hmem

include ho in
theorem discovered_meets {stages : List Stage} (hm : Gathered h runID m m)
    (hstages : stages ⊆ discoveryStages) :
    MeetsOk pre h (discovered runID m stages) fun h' m' =>
      Gathered h' runID m m' ∧ Union h' runID stages m' := by
  induction stages generalizing h m with
  | nil => exact meetsOk_pure ⟨hm, hm.keyed, hm.sound, nofun⟩
  | cons stage stages ih =>
    obtain ⟨hstage, hstages⟩ := List.cons_subset.mp hstages
    refine (meetsOk_exec (hc h _ _ rfl)).bind fun h₁ rows hsub₁ hrows => ?_
    have hg₁ : Gathered h₁ runID m m := ⟨hm.keyed, fun e he o ho => (hm.sound e he o ho).mono hsub₁,
      fun _ _ hl => hl⟩
    refine (addStageAddresses_meets ho hg₁ hstage hrows (List.Subset.refl _)).bind
      fun h₂ m₂ hsub₂ ⟨hg₂, hl₂⟩ => ?_
    have hg₂' : Gathered h₂ runID m₂ m₂ := ⟨hg₂.keyed, hg₂.sound, fun _ _ hl => hl⟩
    refine (ih hg₂' hstages).imp fun h₃ m₃ hsub₃ ⟨hg₃, hu₃⟩ => ?_
    refine ⟨hg₂.trans hg₃, hg₃.keyed, hg₃.sound, fun st hst => ?_⟩
    rcases List.mem_cons.mp hst with rfl | hmem
    · exact ⟨rows, (hrows.mono hsub₂).mono hsub₃, fun t ht => (hl₂ t ht).mono hsub₃ hg₃.kept⟩
    · exact hu₃.complete st hmem

theorem authorizedRunTargets_meets (run : ScanRun) : MeetsOk pre h (authorizedRunTargets run)
    fun h' auth => ∃ rows targets, h'.Asked (.run (.listTargets run.scopeID "")) (some rows) ∧
      h'.Asked (.run (.listRunTargets run.id)) (some targets) ∧
      auth = (targets.filter fun t =>
        Planner.authorized (mergeTargets rows) t.value).map (·.id) := by
  refine (listTargetsMerged_meets hc run.scopeID).bind fun h₁ ts _ ⟨rows, hrows, hts⟩ => ?_
  refine (meetsOk_exec (hc h₁ _ _ rfl)).bind fun h₂ targets hsub htargets => ?_
  exact meetsOk_pure ⟨rows, targets, hrows.mono hsub, htargets, by rw [hts]⟩

omit hc in
theorem scanAddresses_meets (hm : Union h run.id discoveryStages m)
    (hcon : PlanContract allowPrivate run pre) (hactive : run.profile ≠ .passive) :
    MeetsOk pre h (scanAddresses allowPrivate run m) fun h' _ =>
      ∃ c, ChecksFrom allowPrivate h' run c ∧ Inserted h' run.id (addressSpecs c m) := by
  refine (authorizedRunTargets_meets hcon.quiet run).bind fun h₁ auth hs₁
    ⟨rows, targets, hr, ht, ha⟩ => ?_
  refine (routingFor_meets hcon.quiet run).bind fun h₂ rt hs₂ ⟨hrt, hpassive⟩ => ?_
  refine (meetsOk_exec (hcon.quiet h₂ _ _ rfl)).bind fun h₃ already hs₃ halready => ?_
  refine (listTargetsMerged_meets hcon.quiet run.scopeID).bind fun h₄ ts hs₄ ⟨rows', hr', hts⟩ => ?_
  refine (meetsOk_exec (hcon.quiet h₄ _ _ rfl)).bind fun h₅ shared hs₅ hshared => ?_
  refine (meetsOk_try (hcon.quiet h₅ _ _ rfl)).bind fun h₆ params hs₆ hparams => ?_
  -- the history at the decision holds every answer it rests on
  have h₃₆ : h₃ ⊆ h₆ := List.Subset.trans hs₄ (List.Subset.trans hs₅ hs₆)
  have h₂₆ : h₂ ⊆ h₆ := List.Subset.trans hs₃ h₃₆
  have h₁₆ : h₁ ⊆ h₆ := List.Subset.trans hs₂ h₂₆
  have hchecks : ChecksFrom allowPrivate h₆ run
      { allowPrivate := allowPrivate, already := already, authorized := auth
        guard := ScopeGuard.new ts, shared := shared, cdnPorts := cdnPortsFor params } :=
    { allowPrivate := rfl
      already := halready.mono h₃₆
      authorized := ⟨rows, targets, hr.mono h₁₆, ht.mono h₁₆, ha⟩
      guard := ⟨rows', hr'.mono (List.Subset.trans hs₅ hs₆), by rw [hts]⟩
      shared := hshared.mono hs₆
      cdnPorts := ⟨params, hparams, rfl⟩ }
  have hm₆ := hm.mono (List.Subset.trans hs₁ h₁₆)
  exact (insertPlanned_meets hcon hactive (.addresses hm₆ hchecks) hrt (hpassive.mono h₂₆)).imp
    fun h₇ _ hs₇ hi => ⟨_, hchecks.mono hs₇, hi⟩

omit hc in
theorem scanNewAddresses_meets (hcon : PlanContract allowPrivate run pre)
    (hactive : run.profile ≠ .passive) :
    MeetsOk pre h (scanNewAddresses allowPrivate run) fun h' _ => Scanned allowPrivate h' run := by
  have hnil : Gathered h run.id [] [] := ⟨List.nodup_nil, nofun, fun _ _ hl => hl⟩
  refine (discovered_meets hcon.quiet hcon.origins hnil (List.Subset.refl _)).bind
    fun h₁ m hs₁ ⟨_, hu⟩ => ?_
  split
  · rename_i hm
    exact meetsOk_pure ⟨m, hu, .inl (List.isEmpty_iff.mp hm)⟩
  · refine (scanAddresses_meets hu hcon hactive).imp fun h₂ _ hs₂ hscan => ?_
    exact ⟨m, hu.mono hs₂, .inr hscan⟩

/-! #### Open ports -/

omit hc in
include ho in
theorem addTaskProbes_meets {already : List String} {acc : List String × List TaskSpec}
    {t : TaskRow} (hmarked : Marked already acc) (hprobes : ∀ sp ∈ acc.2, ProbeOf rows sp)
    (ht : t ∈ rows) (hseen : SeenTask h t.id) :
    MeetsOk pre h (addTaskProbes acc t) fun _ acc' => Marked already acc' ∧
      (∀ sp ∈ acc'.2, ProbeOf rows sp) ∧ acc.1 ⊆ acc'.1 ∧
      (TaskRow.over t → ∀ sv ∈ (decode t.result).services, endpointKey sv.ip sv.port ∈ acc'.1) := by
  unfold addTaskProbes
  by_cases hskip : (t.status ≠ .done ∧ t.status ≠ .failed) ∨ (decode t.result).services = []
  · rw [if_pos hskip]
    refine meetsOk_pure ⟨hmarked, hprobes, List.Subset.refl _, fun hover sv hsv => ?_⟩
    rcases hskip with ⟨hdone, hfailed⟩ | hnil
    · rcases hover with h | h
      · exact absurd h hdone
      · exact absurd h hfailed
    · rw [hnil] at hsv
      cases hsv
  · rw [if_neg hskip]
    refine (originsOf_meets ho hseen).bind fun h₁ os _ _ => meetsOk_pure ?_
    have hover : TaskRow.over t := by
      by_contra hno
      exact hskip (.inl (not_or.mp hno))
    have hmarks := marks_foldl_addProbe (origin0 os) acc (decode t.result).services
    refine ⟨hmarked.foldl, fun sp hsp => ?_, hmarks.1, fun _ => hmarks.2⟩
    rcases mem_foldl_addProbe hsp with hold | ⟨sv, hsv, rfl⟩
    · exact hprobes sp hold
    · exact ⟨t, ht, hover, sv, hsv, _, rfl⟩

omit hc in
include ho in
theorem addProbes_meets {already : List String} {acc : List String × List TaskSpec}
    (hmarked : Marked already acc) (hprobes : ∀ sp ∈ acc.2, ProbeOf rows sp) (hts : ts ⊆ rows)
    (hseen : ∀ t ∈ ts, SeenTask h t.id) :
    MeetsOk pre h (addProbes acc ts) fun _ acc' => Marked already acc' ∧
      (∀ sp ∈ acc'.2, ProbeOf rows sp) ∧ acc.1 ⊆ acc'.1 ∧
      ∀ t ∈ ts, TaskRow.over t → ∀ sv ∈ (decode t.result).services,
        endpointKey sv.ip sv.port ∈ acc'.1 := by
  induction ts generalizing h acc with
  | nil => exact meetsOk_pure ⟨hmarked, hprobes, List.Subset.refl _, nofun⟩
  | cons t ts ih =>
    obtain ⟨ht, hts⟩ := List.cons_subset.mp hts
    obtain ⟨hseen, hseens⟩ := List.forall_mem_cons.mp hseen
    refine (addTaskProbes_meets ho hmarked hprobes ht hseen).bind
      fun h₁ acc₁ hs₁ ⟨hm₁, hp₁, hsub₁, hall₁⟩ => ?_
    refine (ih hm₁ hp₁ hts fun t ht => (hseens t ht).mono hs₁).imp fun h₂ acc₂ _
      ⟨hm₂, hp₂, hsub₂, hall₂⟩ => ?_
    refine ⟨hm₂, hp₂, List.Subset.trans hsub₁ hsub₂, fun t' ht' hover sv hsv => ?_⟩
    rcases List.mem_cons.mp ht' with rfl | hmem
    · exact hsub₂ (hall₁ hover sv hsv)
    · exact hall₂ t' hmem hover sv hsv

omit hc in
theorem probeNewServices_meets (hcon : PlanContract allowPrivate run pre)
    (hactive : run.profile ≠ .passive) :
    MeetsOk pre h (probeNewServices run) fun h' _ => Probed h' run := by
  refine (meetsOk_exec (hcon.quiet h _ _ rfl)).bind fun h₁ tasks _ htasks => ?_
  refine (meetsOk_exec (hcon.quiet h₁ _ _ rfl)).bind fun h₂ already hs₂ halready => ?_
  refine (routingFor_meets hcon.quiet run).bind fun h₃ rt hs₃ ⟨hrt, hpassive⟩ => ?_
  have hstart : Marked already (already, []) := fun k hk => .inl hk
  have htasks₃ := (htasks.mono hs₂).mono hs₃
  refine (addProbes_meets hcon.origins hstart nofun (List.Subset.refl tasks)
    fun t ht => ⟨run.id, .portScan, tasks, htasks₃, t, ht, rfl⟩).bind
    fun h₄ acc hs₄ ⟨hmarked, hprobes, _, hall⟩ => ?_
  have htasks₄ := htasks₃.mono hs₄
  have halready₄ := (halready.mono hs₃).mono hs₄
  refine (insertPlanned_meets hcon hactive (.probes htasks₄ hprobes) hrt (hpassive.mono hs₄)).imp
    fun h₅ _ hs₅ hi => ?_
  exact ⟨tasks, already, acc, htasks₄.mono hs₅, halready₄.mono hs₅, hmarked, hprobes, hall, hi⟩

/-! #### The web stages -/

/-- Every list in the cache is an answer in the history. -/
def Cached (h : Hist Stmt) (scopeID : UUID) (maxNames : Nat) (cache : NameCache) : Prop :=
  ∀ e ∈ cache, ∃ r, h.Asked (.asset (.namesResolvingTo scopeID e.1 (maxNames + 1))) r ∧
    e.2 = r.getD []

omit hc in
theorem Cached.mono {h' : Hist Stmt} {maxNames : Nat} (hsub : h ⊆ h') :
    Cached h scopeID maxNames cache → Cached h' scopeID maxNames cache := by
  unfold Cached
  gcongr

theorem namesFor_meets {maxNames : Nat} (hcache : Cached h scopeID maxNames cache) (ip : String) :
    MeetsOk pre h (namesFor scopeID maxNames cache ip) fun h' x =>
      Cached h' scopeID maxNames x.2 ∧
      ∃ r, h'.Asked (.asset (.namesResolvingTo scopeID ip (maxNames + 1))) r ∧ x.1 = r.getD [] := by
  unfold namesFor
  cases hlookup : cache.lookup ip with
  | some names =>
    obtain ⟨pre₁, post₁, rfl, _⟩ := List.lookup_eq_some_iff.mp hlookup
    exact meetsOk_pure ⟨hcache, hcache (ip, names) (by simp)⟩
  | none =>
    refine (meetsOk_try (hc h _ _ rfl)).bind fun h₁ r hs hr => meetsOk_pure ⟨?_, r, hr, rfl⟩
    intro e he
    rcases List.mem_cons.mp he with rfl | hold
    · exact ⟨r, hr, rfl⟩
    · exact hcache.mono hs e hold

/-- What the tasks of one probe's live endpoints are. -/
structure UrlsPlanned (h : Hist Stmt) (w : WebPlan) (us : List String) (specs : List TaskSpec) :
    Prop where
  sound : ∀ sp ∈ specs, ∃ u ∈ us, ∃ r,
    h.Asked (.asset (.namesResolvingTo w.scopeID (ipPortFromURL u).1 (w.maxNames + 1))) r ∧
    ∃ tgt ∈ webTargets u (ipPortFromURL u).1 (ipPortFromURL u).2 (r.getD []) w.maxNames,
      ∃ o, sp ∈ webSpecs w.stages o tgt
  complete : ∀ u ∈ us, ∃ r,
    h.Asked (.asset (.namesResolvingTo w.scopeID (ipPortFromURL u).1 (w.maxNames + 1))) r ∧
    ∀ tgt ∈ webTargets u (ipPortFromURL u).1 (ipPortFromURL u).2 (r.getD []) w.maxNames,
      ∃ o, webSpecs w.stages o tgt ⊆ specs

theorem urlSpecs_meets {w : WebPlan} {origin : UUID} {us : List String}
    (hcache : Cached h w.scopeID w.maxNames cache) :
    MeetsOk pre h (urlSpecs w origin cache us) fun h' x =>
      Cached h' w.scopeID w.maxNames x.2 ∧ UrlsPlanned h' w us x.1 := by
  induction us generalizing h cache with
  | nil => exact meetsOk_pure ⟨hcache, nofun, nofun⟩
  | cons u us ih =>
    refine (namesFor_meets hc hcache _).bind fun h₁ x₁ hs₁ ⟨hcache₁, r, hr, hnames⟩ => ?_
    obtain ⟨names, cache₁⟩ := x₁
    refine (ih hcache₁).bind fun h₂ x₂ hs₂ ⟨hcache₂, hrest⟩ => ?_
    obtain ⟨rest, cache₂⟩ := x₂
    have hnames : names = r.getD [] := hnames
    refine meetsOk_pure ⟨hcache₂, fun sp hsp => ?_, fun u' hu' => ?_⟩
    · rcases List.mem_append.mp hsp with hnew | hold
      · obtain ⟨tgt, htgt, hsp⟩ := List.mem_flatMap.mp hnew
        exact ⟨u, List.mem_cons_self, r, hr.mono hs₂, tgt, hnames ▸ htgt, origin, hsp⟩
      · obtain ⟨u', hu', rest⟩ := hrest.sound sp hold
        exact ⟨u', List.mem_cons_of_mem _ hu', rest⟩
    · rcases List.mem_cons.mp hu' with rfl | hmem
      · refine ⟨r, hr.mono hs₂, fun tgt htgt => ⟨origin, fun sp hsp => List.mem_append_left _ ?_⟩⟩
        exact List.mem_flatMap.mpr ⟨tgt, hnames ▸ htgt, hsp⟩
      · obtain ⟨r', hr', hall⟩ := hrest.complete u' hmem
        refine ⟨r', hr', fun tgt htgt => ?_⟩
        obtain ⟨o, ho⟩ := hall tgt htgt
        exact ⟨o, List.Subset.trans ho (List.subset_append_right _ _)⟩

include ho in
theorem probeSpecs_meets {params : List (String × String)}
    (hcache : Cached h scopeID (maxVhosts params) cache) (hseen : ∀ t ∈ ts, SeenTask h t.id) :
    MeetsOk pre h (probeSpecs ⟨scopeID, postProbeStages params, maxVhosts params⟩ cache ts)
      fun h' specs => (∀ sp ∈ specs, WebOf h' scopeID params ts sp) ∧
        ∀ t ∈ ts, WebListed h' scopeID params specs t := by
  induction ts generalizing h cache with
  | nil => exact meetsOk_pure ⟨nofun, nofun⟩
  | cons t ts ih =>
    obtain ⟨hseen, hseens⟩ := List.forall_mem_cons.mp hseen
    refine (originsOf_meets ho hseen).bind fun h₁ os hs₁ _ => ?_
    refine (urlSpecs_meets hc (hcache.mono hs₁)).bind fun h₂ x hs₂ ⟨hcache₂, hurls⟩ => ?_
    obtain ⟨specs, cache₂⟩ := x
    refine (ih hcache₂ fun t ht => ((hseens t ht).mono hs₁).mono hs₂).bind fun h₃ rest hs₃
      ⟨hsound, hlisted⟩ => meetsOk_pure ⟨?_, ?_⟩
    · intro sp hsp
      rcases List.mem_append.mp hsp with hnew | hold
      · obtain ⟨u, hu, r, hr, hrest⟩ := hurls.sound sp hnew
        exact ⟨t, List.mem_cons_self, u, hu, r, hr.mono hs₃, hrest⟩
      · obtain ⟨t', ht', hrest⟩ := hsound sp hold
        exact ⟨t', List.mem_cons_of_mem _ ht', hrest⟩
    · intro t' ht'
      rcases List.mem_cons.mp ht' with rfl | hmem
      · exact WebListed.mono hs₃ (List.subset_append_left _ _) hurls.complete
      · exact (hlisted t' hmem).mono (List.Subset.refl _) (List.subset_append_right _ _)

end Programs

/-! ### The pass -/

section Pass

variable {allowPrivate : Bool} {run : ScanRun} {pre : Hist Stmt → ∀ β : Type, Stmt β → Prop}
  {h : Hist Stmt} (hcon : PlanContract allowPrivate run pre)

include hcon

theorem postProbe_meets (hactive : run.profile ≠ .passive) :
    MeetsOk pre h (postProbe run) fun h' _ => WebPlanned h' run := by
  refine (meetsOk_exec (hcon.quiet h _ _ rfl)).bind fun h₁ tasks _ htasks => ?_
  refine (meetsOk_try (hcon.quiet h₁ _ _ rfl)).bind fun h₂ params hs₂ hparams => ?_
  refine (routingFor_meets hcon.quiet run).bind fun h₃ rt hs₃ ⟨hrt, hpassive⟩ => ?_
  have hnone : Cached h₃ run.scopeID (maxVhosts (params.getD [])) [] :=
    List.forall_mem_nil _
  have htasks₃ := (htasks.mono hs₂).mono hs₃
  refine (probeSpecs_meets hcon.quiet hcon.origins hnone
    fun t ht => ⟨run.id, .serviceProbe, tasks, htasks₃, t, ht, rfl⟩).bind
    fun h₄ specs hs₄ ⟨hsound, hlisted⟩ => ?_
  have htasks₄ := htasks₃.mono hs₄
  have hparams₄ := (hparams.mono hs₃).mono hs₄
  refine (insertPlanned_meets hcon hactive (.web htasks₄ hparams₄ hsound) hrt
    (hpassive.mono hs₄)).imp fun h₅ _ hs₅ hi => ?_
  exact .inr (.inr ⟨tasks, params, specs, htasks₄.mono hs₅, hparams₄.mono hs₅,
    fun t ht => (hlisted t ht).mono hs₅ (List.Subset.refl _), hi⟩)

theorem maybePostProbe_meets (hactive : run.profile ≠ .passive) :
    MeetsOk pre h (maybePostProbe run) fun h' _ => WebPlanned h' run := by
  refine (meetsOk_try (hcon.quiet h _ _ rfl)).bind fun h₁ planned _ hplanned => ?_
  split
  · rename_i hyes
    cases planned with
    | none => cases hyes
    | some b => exact meetsOk_pure (.inl (by rw [← show b = true from hyes]; exact hplanned))
  · refine (meetsOk_try (hcon.quiet h₁ _ _ rfl)).bind fun h₂ out _ hout => ?_
    split
    · rename_i hpos
      cases out with
      | none => exact absurd hpos (Nat.lt_irrefl 0)
      | some n => exact meetsOk_pure (.inr (.inl ⟨n, hout, hpos⟩))
    · exact postProbe_meets hcon hactive

omit hcon in
theorem finishTargets_meets (hc : ∀ h β (s : Stmt β), s.quiet = true → pre h β s)
    (ts : List RunTarget) : MeetsOk pre h (finishTargets ts) fun _ _ => True := by
  induction ts generalizing h with
  | nil => exact meetsOk_pure trivial
  | cons t ts ih =>
    unfold finishTargets
    split
    · exact ih
    · exact (meetsOk_try (hc h _ _ rfl)).bind fun h₁ _ _ _ => ih

theorem planNext_meets (hactive : run.profile ≠ .passive) :
    MeetsOk pre h (planNext allowPrivate run) fun h' _ =>
      Scanned allowPrivate h' run ∧ Probed h' run ∧ WebPlanned h' run := by
  refine (scanNewAddresses_meets hcon hactive).bind fun h₁ _ _ hscan => ?_
  refine (probeNewServices_meets hcon hactive).bind fun h₂ _ hs₂ hprobe => ?_
  refine (maybePostProbe_meets hcon hactive).imp fun h₃ _ hs₃ hweb => ?_
  exact ⟨(hscan.mono hs₂).mono hs₃, hprobe.mono hs₃, hweb⟩

omit hcon in
theorem complete_meets (hcon : Contract allowPrivate run pre) (hready : run.profile ≠ .passive →
    Scanned allowPrivate h run ∧ Probed h run ∧ WebPlanned h run) :
    MeetsOk pre h (complete run) fun _ _ => True := by
  have hprogress : MeetsOk pre h (Go.exec (.task (.runProgress run.id))) fun h₁ p =>
      p.outstanding = 0 → Concluded allowPrivate h₁ run :=
    meetsOk_query (hcon.quiet h _ _ rfl) fun p hp => ⟨[], h, p, rfl, hp, hready⟩
  refine hprogress.bind fun h₁ prog _ hdone => ?_
  split
  · rename_i hover
    refine MeetsOk.bind (P := fun _ _ => True) ?_ fun h₂ _ _ _ => meetsOk_pure trivial
    -- the progress was read before, whatever is written on the targets since
    have hkept : ∀ {h₂ : Hist Stmt} {α : Type} {x : Go α}, Concluded allowPrivate h₂ run →
        MeetsOk pre h₂ x (fun _ _ => True) →
        MeetsOk pre h₂ x fun h' _ => Concluded allowPrivate h' run :=
      fun hdone hx => (hx.trade hdone fun _ _ _ hK hpre => ⟨hpre, fun _ => hK.cons _⟩).imp
        fun _ _ _ h => h.1
    refine (hkept (hdone hover.2) ((meetsOk_exec (hcon.quiet h₁ _ _ rfl)).imp
      fun _ _ _ _ => trivial)).bind fun h₂ targets _ hdone₂ => ?_
    refine (hkept hdone₂ (finishTargets_meets hcon.quiet targets)).bind fun h₃ _ _ hdone₃ => ?_
    exact (meetsOk_exec (hcon.finish h₃ hdone₃)).imp fun _ _ _ _ => trivial
  · exact meetsOk_pure trivial

omit hcon in
/-- **`Advance` keeps the contract.** -/
theorem advance_meets (hcon : Contract allowPrivate run pre) :
    MeetsOk pre h (advance allowPrivate run) fun _ _ => True := by
  unfold advance
  split
  · exact meetsOk_pure trivial
  · split
    · rename_i hactive
      refine (planNext_meets hcon.toPlanContract hactive).bind fun h₁ _ _ hready => ?_
      exact complete_meets hcon fun _ => hready
    · rename_i hpassive
      exact complete_meets hcon fun hne => absurd hne hpassive

end Pass

/-! ### The first tasks -/

/-- What `PlanInitial` inserts: what its targets are given, and brute-force tasks. -/
def FirstPlanned (allowPrivate : Bool) (run : ScanRun) (targets : List RunTarget)
    (scopeTargets : List ScopeTarget) (specs : List TaskSpec) : Prop :=
  ∀ sp ∈ specs,
    (∃ t ∈ targets, sp ∈ (planTarget allowPrivate (run.profile == .passive) scopeTargets t).1) ∨
    sp.stage = .dnsBrute

/-- **What a contract has to allow** for `PlanInitial` on a run to keep it; `K` is what is known of
the history. -/
structure FirstContract (allowPrivate : Bool) (run : ScanRun) (targets : List RunTarget)
    (scopeTargets : List ScopeTarget) (K : Hist Stmt → Prop)
    (pre : Hist Stmt → ∀ β : Type, Stmt β → Prop) : Prop where
  quiet : ∀ h β (s : Stmt β), K h → s.quiet = true → pre h β s ∧ ∀ r, K (⟨s, r⟩ :: h)
  start : ∀ h, K h → pre h _ (.run (.setRunStatus run.id .running)) ∧
    ∀ r, K (⟨.run (.setRunStatus run.id .running), r⟩ :: h)
  empty : ∀ h, K h → pre h _ (.run (.setRunStatus run.id .completed))
  insert : ∀ h specs rt out, K h → specs ≠ [] →
    FirstPlanned allowPrivate run targets scopeTargets specs →
    rt.active = run.poolID → PassiveAnswer h rt.passive → routeTasks specs rt = .ok out →
    pre h _ (.task (.insertTasks run.id out))

section First

variable {allowPrivate : Bool} {run : ScanRun} {h : Hist Stmt}

theorem planTargets_meets {passive : Bool} {scopeTargets : List ScopeTarget} {ts : List RunTarget} :
    MeetsOk (fun _ _ s => s.quiet = true) h (planTargets allowPrivate passive scopeTargets ts)
      fun _ specs => specs = ts.flatMap fun t =>
        (planTarget allowPrivate passive scopeTargets t).1 := by
  induction ts generalizing h with
  | nil => exact meetsOk_pure rfl
  | cons t ts ih =>
    have hrest : ∀ h', MeetsOk (fun _ _ s => s.quiet = true) h'
        (planTargets allowPrivate passive scopeTargets ts >>= fun rest =>
          pure ((planTarget allowPrivate passive scopeTargets t).1 ++ rest))
        fun _ specs => specs =
          (t :: ts).flatMap fun t => (planTarget allowPrivate passive scopeTargets t).1 := by
      intro h'
      refine ih.bind fun h₂ rest _ hspecs => meetsOk_pure ?_
      rw [hspecs, List.flatMap_cons]
    rw [planTargets]
    dsimp only
    cases (planTarget allowPrivate passive scopeTargets t).2 with
    | none => exact hrest h
    | some st => exact (meetsOk_try rfl).bind fun h₁ _ _ _ => hrest h₁

theorem dnsBruteSpecs_meets {ts : List RunTarget} :
    MeetsOk (fun _ _ s => s.quiet = true) h (dnsBruteSpecs run ts)
      fun _ specs => ∀ sp ∈ specs, sp.stage = .dnsBrute := by
  unfold dnsBruteSpecs
  split
  · exact meetsOk_pure nofun
  · refine (meetsOk_try rfl).bind fun h₁ params _ _ => ?_
    split
    · exact meetsOk_pure nofun
    · refine (meetsOk_try rfl).bind fun h₂ lists _ _ => ?_
      cases lists with
      | none => exact meetsOk_pure nofun
      | some lists =>
        refine meetsOk_pure fun sp hsp => ?_
        obtain ⟨t, _, hsp⟩ := List.mem_flatMap.mp hsp
        obtain ⟨wl, _, rfl⟩ := List.mem_map.mp hsp
        rfl

/-- **`PlanInitial` keeps the contract.** -/
theorem planInitial_meets {targets : List RunTarget} {scopeTargets : List ScopeTarget}
    {K : Hist Stmt → Prop} {pre : Hist Stmt → ∀ β : Type, Stmt β → Prop}
    (hcon : FirstContract allowPrivate run targets scopeTargets K pre) (hK : K h) :
    MeetsOk pre h (planInitial allowPrivate run targets scopeTargets) fun _ _ => True := by
  obtain ⟨hstart, hstarted⟩ := hcon.start h hK
  have hset : MeetsOk pre h (exec (.run (.setRunStatus run.id .running))) fun h' _ => K h' :=
    meetsOk_query hstart fun _ => hstarted _
  refine hset.bind fun h₁ _ _ hK₁ => ?_
  refine ((routingFor_meets (fun _ _ _ h => h) run).trade hK₁ hcon.quiet).bind
    fun h₂ rt _ ⟨hK₂, hrt, hpassive⟩ => ?_
  refine (planTargets_meets.trade hK₂ hcon.quiet).bind fun h₃ specs hs₃ ⟨hK₃, hspecs⟩ => ?_
  refine (dnsBruteSpecs_meets.trade hK₃ hcon.quiet).bind fun h₄ brute hs₄ ⟨hK₄, hbrute⟩ => ?_
  split
  -- nothing to do: the run is ended here
  · exact (meetsOk_exec (hcon.empty h₄ hK₄)).imp fun _ _ _ _ => trivial
  · rename_i hne
    have hplanned : FirstPlanned allowPrivate run targets scopeTargets (specs ++ brute) := by
      intro sp hsp
      rcases List.mem_append.mp hsp with hsp | hsp
      · rw [hspecs] at hsp
        exact .inl (List.mem_flatMap.mp hsp)
      · exact .inr (hbrute sp hsp)
    exact (insertRouted_meets fun out hout => hcon.insert h₄ _ rt out hK₄ (by simpa using hne)
      hplanned hrt ((hpassive.mono hs₃).mono hs₄) hout).imp fun _ _ _ _ => trivial

end First

end Planner

end PinkGlasses
