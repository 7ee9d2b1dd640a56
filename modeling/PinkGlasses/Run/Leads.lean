import Mathlib.Data.Fintype.Defs
import PinkGlasses.Run.Life

/-!
# PinkGlasses.Run.Leads

Whose an address is. A run target that led to an address should be an origin of everything the run
does with it: its port scan, the probes of its services, the web stages of what they find. The
planner carries origins forward once and through a needle's eye: a port scan gets those known when
it is planned, a probe and a web task only the first of them. So **every target keeps its
addresses** as long as a pass finds addresses of one target only and no address is reported for a
target after it was scanned for another; then `origins_carried` holds in every state of the run's
life.
-/

namespace PinkGlasses

open Lib Planner Store

variable {β : Type}

/-- The task is about the address: it scans it, or it probes it or works on a web server there. -/
def ScanTask.About (t : ScanTask) (a : String) : Prop :=
  t.stage = .portScan ∧ a ∈ targetAddresses t.target ∨
    (t.stage = .serviceProbe ∨ webStage t.stage = true) ∧ t.target.ip = a
deriving Decidable

/-- **Every authorized target of a completed run is an origin of what was done with the addresses it
led to.** -/
def OriginsCarried (runID : UUID) (db : DB) : Prop :=
  ∀ run ∈ db.runs.rows, run.id = runID → run.status = .completed →
    ∀ o ∈ authorizedIDs run db, ∀ a, LedTo db runID a o →
      ∀ t ∈ db.tasks.rows, t.runID = runID → t.About a → ⟨t.id, o⟩ ∈ db.taskOrigins

/-! ### The condition -/

/-- The task a statement completes. -/
def Stmt.finishes : Stmt β → Option UUID
  | task s => s.finishes
  | _ => none

/-- The addresses a statement reports for a task: it writes its summary, or completes it with the
summary it has. -/
def Stmt.reportsFor (s : Stmt β) (t : ScanTask) : List String :=
  match s.stored with
  | some (id, sum) => if id = t.id then sum.ips else []
  | none => if s.finishes = some t.id then (decode t.result).ips else []

/-- **A statement reports in time**: a discovery task no address that is being scanned for others
only, and a port scan or a probe what it found on its own addresses. -/
structure Timely (runID : UUID) (db : DB) (s : Stmt β) : Prop where
  addresses : ∀ t ∈ db.tasks.rows, t.runID = runID → t.stage ∈ discoveryStages →
    ∀ a ∈ s.reportsFor t, ∀ p ∈ db.tasks.rows, p.runID = runID → p.stage = .portScan →
      a ∈ targetAddresses p.target → ∀ e ∈ db.taskOrigins, e.taskID = t.id →
        ⟨p.id, e.runTargetID⟩ ∈ db.taskOrigins
  services : ∀ x ∈ s.stored, ∀ t ∈ db.tasks.rows, t.runID = runID → t.stage = .portScan →
    x.1 = t.id → ∀ sv ∈ x.2.services, sv.ip ∈ targetAddresses t.target
  urls : ∀ x ∈ s.stored, ∀ t ∈ db.tasks.rows, t.runID = runID → t.stage = .serviceProbe →
    x.1 = t.id → ∀ u ∈ x.2.webURLs, (ipPortFromURL u).1 = t.target.ip

/-- A finished discovery task has reported an address that is not scanned yet. -/
def Unscanned (runID : UUID) (db : DB) (t : ScanTask) : Prop :=
  t.runID = runID ∧ t.stage ∈ discoveryStages ∧ t.status = .done ∧
    ∃ a ∈ (decode t.result).ips, ¬ InScan db runID a
deriving Decidable

/-- The addresses a pass finds to scan are of one target. -/
def OneLead (runID : UUID) (db : DB) : Prop :=
  ∀ t ∈ db.tasks.rows, ∀ t' ∈ db.tasks.rows, Unscanned runID db t → Unscanned runID db t' →
    ∀ e ∈ db.taskOrigins, ∀ e' ∈ db.taskOrigins, e.taskID = t.id → e'.taskID = t'.id →
      e.runTargetID = e'.runTargetID
deriving Decidable

/-- **The move keeps every target its addresses.** -/
def Attributes (runID : UUID) (db : DB) : Move → Prop
  | .planInitial _ _ => ∀ t ∈ db.tasks.rows, t.runID ≠ runID
  | .advance => OneLead runID db
  | .other s _ => Timely runID db s

set_option synthInstance.maxSize 512 in
instance (runID : UUID) (db : DB) (s : Stmt β) : Decidable (Timely runID db s) :=
  decidable_of_iff (_ ∧ _ ∧ _) ⟨fun h => ⟨h.1, h.2.1, h.2.2⟩, fun h => ⟨h.1, h.2, h.3⟩⟩

instance (runID : UUID) (db : DB) (m : Move) : Decidable (Attributes runID db m) := by
  induction m using Move.casesOn <;> unfold Attributes <;> infer_instance

/-! ### The invariant -/

/-- One of the run's tasks of the stage, for a target of that kind, has no origins but these. -/
def Inherits (runID : UUID) (db : DB) (stage : Stage) (kind : Target → Prop) (has : UUID → Prop) :
    Prop :=
  ∃ p ∈ db.tasks.rows, p.runID = runID ∧ p.stage = stage ∧ kind p.target ∧
    ∀ o, ⟨p.id, o⟩ ∈ db.taskOrigins → has o

/-- What holds of a task of the run: a scan or a probe has one origin at most, a scan is for
everybody who led to one of its addresses, a probe has the origins of a scan and a web task those of
a probe. -/
structure ScanTask.Attributed (runID : UUID) (db : DB) (t : ScanTask) : Prop where
  one : t.stage = .portScan ∨ t.stage = .serviceProbe →
    ∀ o o', ⟨t.id, o⟩ ∈ db.taskOrigins → ⟨t.id, o'⟩ ∈ db.taskOrigins → o = o'
  scan : t.stage = .portScan → ∀ a ∈ targetAddresses t.target, ∀ o, LedTo db runID a o →
    ⟨t.id, o⟩ ∈ db.taskOrigins
  probe : t.stage = .serviceProbe →
    Inherits runID db .portScan (t.target.ip ∈ targetAddresses ·) (⟨t.id, ·⟩ ∈ db.taskOrigins)
  web : webStage t.stage = true →
    Inherits runID db .serviceProbe (t.target.ip = Target.ip ·) (⟨t.id, ·⟩ ∈ db.taskOrigins)
  services : t.stage = .portScan →
    ∀ sv ∈ (decode t.result).services, sv.ip ∈ targetAddresses t.target
  urls : t.stage = .serviceProbe → ∀ u ∈ (decode t.result).webURLs,
    (ipPortFromURL u).1 = t.target.ip

/-- It holds of all the run's tasks. -/
structure Attributed (runID : UUID) (db : DB) : Prop where
  keyed : EdgesKeyed db
  tasks : ∀ t ∈ db.tasks.rows, t.runID = runID → t.Attributed runID db

variable {runID : UUID} {db : DB} {t : ScanTask} {env : Env}

theorem Attributed.edge (hdb : Attributed runID db) {a : String} {o : UUID}
    (hled : LedTo db runID a o) (ht : t ∈ db.tasks.rows) (hrun : t.runID = runID)
    (habout : t.About a) : ⟨t.id, o⟩ ∈ db.taskOrigins := by
  have hprobe : ∀ q ∈ db.tasks.rows, q.runID = runID → q.stage = .serviceProbe → q.target.ip = a →
      ⟨q.id, o⟩ ∈ db.taskOrigins := by
    intro q hq hrun hstage hip
    obtain ⟨p, hp, hrun', hstage', hin, hedges⟩ := (hdb.tasks q hq hrun).probe hstage
    exact hedges o ((hdb.tasks p hp hrun').scan hstage' a (hip ▸ hin) o hled)
  rcases habout with ⟨hstage, hin⟩ | ⟨hstage | hstage, hip⟩
  · exact (hdb.tasks t ht hrun).scan hstage a hin o hled
  · exact hprobe t ht hrun hstage hip
  · obtain ⟨q, hq, hrun', hstage', hsame, hedges⟩ := (hdb.tasks t ht hrun).web hstage
    exact hedges o (hprobe q hq hrun' hstage' (hsame.symm.trans hip))

theorem Attributed.carried (hdb : Attributed runID db) : OriginsCarried runID db :=
  fun _ _ _ _ _ _ _ hled _ ht hrun habout => hdb.edge hled ht hrun habout

theorem attributed_new (hkeyed : EdgesKeyed db) (hnew : ∀ t ∈ db.tasks.rows, t.runID ≠ runID) :
    Attributed runID db :=
  ⟨hkeyed, fun t ht hrun => absurd hrun (hnew t ht)⟩

/-! ### Other statements -/

theorem Stmt.TaskStep.done {s : Stmt β} {t' : ScanTask} (hstep : TaskStep env db s t t')
    (h : t'.status = .done) : t.status = .done ∨ s.finishes = some t.id := by
  rcases hstep.moved with ⟨s, rfl, rfl⟩ | ⟨_, _, rfl, -⟩
  · exact TaskStmt.onTask_finishes h
  · exact .inl h

/-- An address a finished task names was reported before, or the statement reports it. -/
theorem Stmt.TaskStep.reports {s : Stmt β} {t' : ScanTask} (hstep : TaskStep env db s t t')
    (hdone : t'.status = .done) {a : String} (ha : a ∈ (decode t'.result).ips) :
    t.status = .done ∧ a ∈ (decode t.result).ips ∨ a ∈ s.reportsFor t := by
  rcases hstep.result with hsame | ⟨sum, hstored, hnew⟩
  · rw [hsame] at ha
    rcases hstep.done hdone with hold | hfin
    · exact .inl ⟨hold, ha⟩
    · have hnone : s.stored = none := by
        cases s with
        | task s =>
          cases s with
          | completeTask => rfl
          | _ => cases hfin
        | _ => cases hfin
      refine .inr ?_
      simp only [Stmt.reportsFor, hnone, hfin, if_true]
      exact ha
  -- the result is written now, so it is what the statement reports
  · rw [hnew] at ha
    refine .inr ?_
    simp only [Stmt.reportsFor, hstored, if_true]
    exact ha

theorem timely_of_labels {s : Stmt β} (hs : Labels β s) : Timely runID db s := by
  have hnone : s.stored = none ∧ s.finishes = none := by
    cases s with
    | task s =>
      cases s with
      | setTaskResult | completeTask => cases hs
      | _ => exact ⟨rfl, rfl⟩
    | _ => exact ⟨rfl, rfl⟩
  refine ⟨fun t _ _ _ a ha => ?_, fun x hx => ?_, fun x hx => ?_⟩
  · simp [Stmt.reportsFor, hnone] at ha
  · rw [hnone.1] at hx
    cases hx
  · rw [hnone.1] at hx
    cases hx

section Step

variable {out : Outside} {env : Env} {runID : UUID} {db db' : DB} {s : Stmt β} {b : β}

theorem exists_moved (hs : s.plans = false) (hexec : s.exec out env db = some (b, db')) :
    ∀ t' ∈ db'.tasks.rows, ∃ t ∈ db.tasks.rows, Stmt.TaskStep env db s t t' ∧
      t'.id = t.id ∧ t'.runID = t.runID ∧ t'.stage = t.stage ∧ t'.target = t.target := by
  obtain ⟨g, hrows, hg⟩ := exec_tasks_moved hs hexec
  intro t' ht'
  rw [hrows] at ht'
  obtain ⟨t, ht, rfl⟩ := List.mem_map.mp ht'
  obtain ⟨hid, hrun, hstage, htarget, -⟩ := (hg t).fixed
  exact ⟨t, ht, hg t, hid, hrun, hstage, htarget⟩

theorem Inherits.step {stage : Stage} {kind : Target → Prop} {has : UUID → Prop}
    (h : Inherits runID db stage kind has) (hs : s.plans = false)
    (hexec : s.exec out env db = some (b, db')) : Inherits runID db' stage kind has := by
  obtain ⟨p, hp, hrun, hstage, hkind, hhas⟩ := h
  obtain ⟨p', hp', hstep⟩ := Stmt.task_after hexec hp
  obtain ⟨hid, hrun', hstage', htarget, -⟩ := hstep.fixed
  refine ⟨p', hp', hrun'.trans hrun, hstage'.trans hstage, htarget ▸ hkind, fun o ho => hhas o ?_⟩
  rw [(Stmt.exec_origins_kept hs hexec).2, hid] at ho
  exact ho

/-- **A statement that reports in time keeps the run's tasks attributed.** -/
theorem Attributed.step (hdb : Attributed runID db) (hs : s.plans = false)
    (htime : Timely runID db s) (hexec : s.exec out env db = some (b, db')) :
    Attributed runID db' := by
  have hmoved := exists_moved hs hexec
  obtain ⟨hnext, hedges⟩ := Stmt.exec_origins_kept hs hexec
  refine ⟨⟨?_, ?_⟩, fun t' ht' hrun => ?_⟩
  · rw [hedges, hnext]
    exact hdb.keyed.task
  · rw [hedges]
    exact hdb.keyed.target
  obtain ⟨t, ht, hstep, hid, hrun', hstage, htarget⟩ := hmoved t' ht'
  have hrun : t.runID = runID := hrun'.symm.trans hrun
  have hrow := hdb.tasks t ht hrun
  constructor
  all_goals simp only [hedges, hid, hstage, htarget]
  case one => exact hrow.one
  case scan =>
    intro hscan a ha o ⟨u', ⟨hu', hurun, hustage, hdone, hrep⟩, hedge⟩
    obtain ⟨u, hu, hustep, huid, hurun', hustage', -⟩ := hmoved u' hu'
    rw [hedges, huid] at hedge
    -- the report is an old one, or the statement makes it now
    rcases hustep.reports hdone hrep with ⟨hold, hin⟩ | hnow
    · exact hrow.scan hscan a ha o
        ⟨u, ⟨hu, hurun'.symm.trans hurun, hustage' ▸ hustage, hold, hin⟩, hedge⟩
    · exact htime.addresses u hu (hurun'.symm.trans hurun) (hustage' ▸ hustage) a hnow t ht hrun
        hscan ha _ hedge rfl
  case probe => exact fun hprobe => (hrow.probe hprobe).step hs hexec
  case web => exact fun hweb => (hrow.web hweb).step hs hexec
  all_goals
    intro hof
    rcases hstep.result with hsame | ⟨sum, hstored, hnew⟩
  · rw [hsame]
    exact hrow.services hof
  · rw [hnew]
    exact htime.services _ hstored t ht hrun hof rfl
  · rw [hsame]
    exact hrow.urls hof
  · rw [hnew]
    exact htime.urls _ hstored t ht hrun hof rfl

end Step

/-! ### Inserting -/

section Insert

variable {runID : UUID} {db db' : DB} {specs : List TaskSpec} {new : List ScanTask}

theorem ledTo_of_adds (h : Adds runID specs db db' new) {a : String} {o : UUID}
    (hled : LedTo db' runID a o) : LedTo db runID a o := by
  obtain ⟨t, ⟨ht, hrun, hstage, hdone, ha⟩, hedge⟩ := hled
  rw [h.rows] at ht
  rcases List.mem_append.mp ht with hold | hnew
  · exact ⟨t, ⟨hold, hrun, hstage, hdone, ha⟩, (h.old t hold o).mp hedge⟩
  · obtain ⟨sp, -, hrow⟩ := h.new t hnew
    rw [hrow.pending] at hdone
    cases hdone

/-- What the tasks of a batch have to be for the run's tasks to stay attributed. -/
structure Attributable (runID : UUID) (db : DB) (sp : TaskSpec) : Prop where
  one : sp.stage = .portScan ∨ sp.stage = .serviceProbe →
    ∀ o ∈ sp.origins, ∀ o' ∈ sp.origins, o = o'
  scan : sp.stage = .portScan → ∀ a ∈ targetAddresses sp.target, ∀ o, LedTo db runID a o →
    o ∈ sp.origins
  probe : sp.stage = .serviceProbe →
    Inherits runID db .portScan (sp.target.ip ∈ targetAddresses ·) (· ∈ sp.origins)
  web : webStage sp.stage = true →
    Inherits runID db .serviceProbe (sp.target.ip = Target.ip ·) (· ∈ sp.origins)

theorem Inherits.adds (h : Adds runID specs db db' new) {stage : Stage} {kind : Target → Prop}
    {has has' : UUID → Prop} (hold : Inherits runID db stage kind has)
    (hhas : ∀ o, o ≠ uuidNil → has o → has' o) : Inherits runID db' stage kind has' := by
  obtain ⟨p, hp, hrun, hstage, hkind, hsub⟩ := hold
  refine ⟨p, ?_, hrun, hstage, hkind, fun o ho => ?_⟩
  · rw [h.rows]
    exact List.mem_append_left _ hp
  · exact hhas o (h.keyed.target _ ho) (hsub o ((h.old p hp o).mp ho))

/-- **A batch of such tasks keeps the run's tasks attributed.** -/
theorem Attributed.insert (hdb : Attributed runID db)
    (hspecs : ∀ sp ∈ specs, Attributable runID db sp)
    (hins : Inserts runID specs db db') : Attributed runID db' := by
  obtain ⟨new, h⟩ := hins.adds hdb.keyed
  refine ⟨h.keyed, fun t ht hrun => ?_⟩
  rw [h.rows] at ht
  rcases List.mem_append.mp ht with hold | hnew
  · have hrow := hdb.tasks t hold hrun
    have hedge : ∀ o, _ := h.old t hold
    exact {
      one := fun hstage o o' ho ho' => hrow.one hstage o o' ((hedge o).mp ho) ((hedge o').mp ho')
      scan := fun hstage a ha o hled =>
        (hedge o).mpr (hrow.scan hstage a ha o (ledTo_of_adds h hled))
      probe := fun hstage => (hrow.probe hstage).adds h fun o _ => (hedge o).mpr
      web := fun hstage => (hrow.web hstage).adds h fun o _ => (hedge o).mpr
      services := hrow.services
      urls := hrow.urls }
  · obtain ⟨sp, hsp, hrow⟩ := h.new t hnew
    have hattr := hspecs sp hsp
    have hedge : ∀ o, o ≠ uuidNil → o ∈ sp.origins → ⟨t.id, o⟩ ∈ db'.taskOrigins :=
      fun o hnil ho => (hrow.origins o).mpr ⟨ho, hnil⟩
    constructor
    all_goals simp only [hrow.stage, hrow.addresses, hrow.ip, hrow.result]
    case one =>
      exact fun hstage o o' ho ho' => hattr.one hstage o ((hrow.origins o).mp ho).1 o'
        ((hrow.origins o').mp ho').1
    case scan =>
      intro hstage a ha o hled
      refine hedge o ?_ (hattr.scan hstage a ha o (ledTo_of_adds h hled))
      obtain ⟨_, -, hled⟩ := hled
      exact h.keyed.target _ hled
    case probe => exact fun hstage => (hattr.probe hstage).adds h hedge
    case web => exact fun hstage => (hattr.web hstage).adds h hedge
    all_goals exact fun _ => List.forall_mem_nil _

end Insert

/-! ### The batches of the planner -/

section Batches

variable {allowPrivate : Bool} {runID : UUID} {db : DB} {run : ScanRun} {sp : TaskSpec}

/-- The first of the origins of a task with one origin at most is every origin it has. -/
theorem mem_origin0 {t : ScanTask} {o : UUID} (ho : ⟨t.id, o⟩ ∈ db.taskOrigins)
    (hone : ∀ o o', ⟨t.id, o⟩ ∈ db.taskOrigins → ⟨t.id, o'⟩ ∈ db.taskOrigins → o = o') :
    o ∈ [origin0 (originsForTask t.id db)] := by
  have hmem := mem_originsForTask.mpr ho
  cases hos : originsForTask t.id db with
  | nil =>
    rw [hos] at hmem
    cases hmem
  | cons x xs =>
    have hx : x ∈ originsForTask t.id db := hos ▸ List.mem_cons_self
    rw [hone o x ho (mem_originsForTask.mp hx)]
    exact List.mem_singleton.mpr rfl

theorem attributable_scan (hlead : OneLead run.id db) (hsp : sp ∈ newScans allowPrivate run db) :
    Attributable run.id db sp := by
  have hstage := (mem_addressSpecs hsp).1
  have hunscanned : ∀ o ∈ sp.origins, ∃ t ∈ db.tasks.rows, Unscanned run.id db t ∧
      ⟨t.id, o⟩ ∈ db.taskOrigins := by
    intro o ho
    obtain ⟨a, ha, t, hrep, hedge⟩ := (mem_origins_newScans hsp).mp ho
    have hadm := (count_newScans allowPrivate run db a).2 (List.mem_flatMap.mpr ⟨sp, hsp, ha⟩)
    exact ⟨t, hrep.row, ⟨hrep.ofRun, hrep.stage, hrep.done, a, hrep.ip, hadm.new⟩, hedge⟩
  refine ⟨fun _ o ho o' ho' => ?_, fun _ a ha o hled => ?_, fun h => ?_, fun h => ?_⟩
  · obtain ⟨t, ht, hun, hedge⟩ := hunscanned o ho
    obtain ⟨t', ht', hun', hedge'⟩ := hunscanned o' ho'
    exact hlead t ht t' ht' hun hun' _ hedge _ hedge' rfl rfl
  · rw [addresses_newScan hsp] at ha
    exact (mem_origins_newScans hsp).mpr ⟨a, ha, hled⟩
  · rw [hstage] at h
    cases h
  · rw [hstage] at h
    cases h

theorem attributable_probe (hdb : Attributed runID db) (hsp : ProbeFrom db runID sp) :
    Attributable runID db sp := by
  obtain ⟨t, ht, hrun, hstage, sv, hsv, rfl⟩ := hsp
  refine ⟨fun _ o ho o' ho' => ?_, fun h => (by cases h), fun _ => ?_, fun h => (by cases h)⟩
  · rw [List.mem_singleton.mp ho, List.mem_singleton.mp ho']
  · exact ⟨t, ht, hrun, hstage, (hdb.tasks t ht hrun).services hstage sv hsv,
      fun o ho => mem_origin0 ho ((hdb.tasks t ht hrun).one (.inl hstage))⟩

theorem attributable_web (hdb : Attributed runID db) (hsp : WebFrom db runID sp) :
    Attributable runID db sp := by
  obtain ⟨t, ht, hrun, hstage, u, hu, hweb, hip, horigins⟩ := hsp
  have hother : sp.stage ≠ .portScan ∧ sp.stage ≠ .serviceProbe := by
    constructor <;> intro h <;> rw [h] at hweb <;> cases hweb
  refine ⟨fun h => absurd h (not_or.mpr hother), fun h => absurd h hother.1,
    fun h => absurd h hother.2, fun _ => ?_⟩
  rw [horigins]
  exact ⟨t, ht, hrun, hstage, hip.trans ((hdb.tasks t ht hrun).urls hstage u hu),
    fun o ho => mem_origin0 ho ((hdb.tasks t ht hrun).one (.inr hstage))⟩

theorem attributable_first {targets : List RunTarget} {scopeTargets : List ScopeTarget}
    {specs : List TaskSpec} (hnew : ∀ t ∈ db.tasks.rows, t.runID ≠ runID)
    (hspecs : FirstBatch allowPrivate run targets scopeTargets specs) (hsp : sp ∈ specs) :
    Attributable runID db sp := by
  have hone : ∃ o, sp.origins = [o] ∧ sp.stage ≠ .serviceProbe ∧ webStage sp.stage = false := by
    obtain ⟨brute, rfl, hbrute⟩ := hspecs.split
    rcases List.mem_append.mp hsp with hmem | hmem
    · obtain ⟨t, -, hmem⟩ := List.mem_flatMap.mp hmem
      obtain ⟨horigins, hstage⟩ := mem_planTarget hmem
      refine ⟨t.id, horigins, ?_⟩
      revert hstage
      cases sp.stage <;> decide
    · obtain ⟨hstage, t, -, horigins⟩ := hbrute sp hmem
      exact ⟨t.id, horigins, by simp [hstage, webStage]⟩
  obtain ⟨o₀, horigins, hprobe, hweb⟩ := hone
  refine ⟨fun _ o ho o' ho' => ?_, fun _ a _ o hled => ?_, fun h => absurd h hprobe, fun h => ?_⟩
  · rw [horigins] at ho ho'
    rw [List.mem_singleton.mp ho, List.mem_singleton.mp ho']
  · obtain ⟨t, hrep, -⟩ := hled
    exact absurd hrep.ofRun (hnew t hrep.row)
  · rw [hweb] at h
    cases h

end Batches

/-! ### Whole lives -/

theorem noTasks_labeled {cfg : ControlConfig} {out : Outside} {db' : DB}
    (hnew : ∀ t ∈ db.tasks.rows, t.runID ≠ runID) (hl : Labeled cfg out env db db') :
    ∀ t ∈ db'.tasks.rows, t.runID ≠ runID := by
  refine hl.keeps (J := fun d => ∀ t ∈ d.tasks.rows, t.runID ≠ runID) hnew
    fun hold hs hexec t' ht' => ?_
  obtain ⟨t, ht, -, -, hrun, -⟩ := exists_moved (plans_of_labels hs) hexec t' ht'
  rw [hrun]
  exact hold t ht

theorem Attributed.labeled {cfg : ControlConfig} {out : Outside} {db' : DB}
    (hdb : Attributed runID db) (hl : Labeled cfg out env db db') : Attributed runID db' :=
  labeled_keeps (fun hold hs => hold.step (plans_of_labels hs) (timely_of_labels hs)) hdb hl

theorem attributed_keeps (cfg : ControlConfig) (out : Outside) (runID : UUID) :
    Keeps cfg out runID (Attributed runID) (Attributes runID) where
  first := by
    intro env db db₁ db' run targets scopeTargets specs hdb _ hid hok hstarts
    have hnew := noTasks_labeled hok hstarts.labeled
    exact (hdb.labeled hstarts.labeled).insert
      (fun _ hsp => attributable_first hnew hstarts.batch hsp) (hid ▸ hstarts.inserts)
  pass := by
    intro db db' run hdb _ hid hok hplans
    subst hid
    cases hplans with
    | intro hscan hprobes hprobe hwebs hweb =>
      have hdb₁ := hdb.insert (fun _ hsp => attributable_scan hok hsp) hscan
      have hdb₂ := hdb₁.insert (fun sp hsp => attributable_probe hdb₁ (hprobes sp hsp)) hprobe
      exact hdb₂.insert (fun sp hsp => attributable_web hdb₂ (hwebs sp hsp)) hweb
  finish hdb _ hfin := hdb.labeled hfin.labeled
  other {_ _ _ _ _ _ h} hdb hok hexec := hdb.step h hok hexec

/-- **Every target keeps the addresses it led to**, in every life of a run whose moves find
addresses of one target at a time and in which every report is in time. -/
theorem origins_carried (cfg : ControlConfig) (out : Outside) {runID : UUID} {db : DB}
    (hkeyed : EdgesKeyed db) (hnew : ∀ t ∈ db.tasks.rows, t.runID ≠ runID) {ms : List (Env × Move)}
    (hms : Through cfg out runID (Attributes runID) db ms) :
    OriginsCarried runID (live cfg out runID db ms) :=
  ((attributed_keeps cfg out runID).live (attributed_new hkeyed hnew) hms).carried

/-! ### A target that comes late -/

/-- Two names, both authorized. -/
def namesScope : List ScopeTarget :=
  [{ id := 1, scopeID := 1, kind := .domain, value := "example.org", mode := .active,
     authorizedBy := some "owner", authorizedAt := some 0 },
   { id := 2, scopeID := 1, kind := .domain, value := "www.example.org", mode := .active,
     authorizedBy := some "owner", authorizedAt := some 0 }]

/-- The run is for both. -/
def namesTargets : List RunTarget :=
  [{ id := 1, runID := 1, kind := .domain, value := "example.org" },
   { id := 2, runID := 1, kind := .domain, value := "www.example.org" }]

/-- The run is new, and a worker is there for it. -/
def namesDB : DB where
  pools := oneTaskDB.pools
  workers := oneTaskDB.workers
  runs := oneTaskDB.runs
  scopeTargets := .ofRows namesScope (by simp [namesScope])
  runTargets := .ofRows namesTargets (by simp [namesTargets])

def passOver : Env × Move := ({}, .advance)

/-- The worker leases whatever there is. -/
def leaseAll : Env × Move :=
  ({}, .other (.task (.leaseTasksWhere 1 [capRawSocket, capBrowser] (some 1) 10 600 .anyStage 0))
    rfl)

/-- It reports for a task, and completes it. -/
def reportOf (taskID tok : UUID) (summary : StageSummary) : List (Env × Move) :=
  [({}, .other (.task (.setTaskResult taskID summary)) rfl),
   ({}, .other (.task (.completeTask taskID tok)) rfl)]

/-- The first name has been resolved, and its address is being scanned as task 5. -/
def firstResolved : List (Env × Move) :=
  [({}, .planInitial namesTargets namesScope), leaseAll] ++
    reportOf 2 3 { ips := ["192.0.2.1"] } ++ [passOver, leaseAll]

/-- The second name is then resolved to the same address, and everything is completed. -/
def sameAddressLater : List (Env × Move) :=
  firstResolved ++ reportOf 4 4 { ips := ["192.0.2.1"] } ++
    reportOf 1 1 {} ++ reportOf 3 2 {} ++ reportOf 5 5 {} ++ [passOver]

/-- **The run is completed and the second name is no origin of its address's scan.** -/
theorem later_target_loses_address :
    ¬ OriginsCarried 1 (live {} {} 1 namesDB sameAddressLater) := by
  intro h
  obtain ⟨run, hrun, hid, hover, hauth⟩ : ∃ run ∈ (live {} {} 1 namesDB sameAddressLater).runs.rows,
      run.id = 1 ∧ run.status = .completed ∧
        2 ∈ authorizedIDs run (live {} {} 1 namesDB sameAddressLater) := by decide +kernel
  obtain ⟨t, ht, ⟨hof, hstage, hdone, ha⟩, hedge⟩ :
      ∃ t ∈ (live {} {} 1 namesDB sameAddressLater).tasks.rows,
        (t.runID = 1 ∧ t.stage ∈ discoveryStages ∧ t.status = .done ∧
          "192.0.2.1" ∈ (decode t.result).ips) ∧
        ⟨t.id, 2⟩ ∈ (live {} {} 1 namesDB sameAddressLater).taskOrigins := by decide +kernel
  obtain ⟨p, hp, hofp, habout, hnot⟩ : ∃ p ∈ (live {} {} 1 namesDB sameAddressLater).tasks.rows,
      p.runID = 1 ∧ p.About "192.0.2.1" ∧
        ⟨p.id, 2⟩ ∉ (live {} {} 1 namesDB sameAddressLater).taskOrigins := by decide +kernel
  exact hnot (h run hrun hid hover 2 hauth _
    ⟨t, ⟨ht, hof, hstage, hdone, ha⟩, hedge⟩ p hp hofp habout)

/-- The second name is resolved to an address of its own, which a pass of its own plans; a service
of the first is found, probed and looked at. -/
def otherAddressLater : List (Env × Move) :=
  firstResolved ++ reportOf 4 4 { ips := ["192.0.2.2"] } ++
    reportOf 1 1 {} ++ reportOf 3 2 {} ++ [passOver, leaseAll] ++
    reportOf 5 5 { services := [⟨"192.0.2.1", 80⟩] } ++ reportOf 6 6 {} ++ [passOver, leaseAll] ++
    reportOf 7 7 { webURLs := ["http://192.0.2.1:80"] } ++ [passOver, leaseAll] ++
    reportOf 8 8 {} ++ reportOf 9 9 {} ++ reportOf 10 10 {} ++ reportOf 11 11 {}

/-- With one more pass such a run is completed, with eleven tasks, and both names have kept
theirs. -/
theorem origins_carried_names :
    (live {} {} 1 namesDB (otherAddressLater ++ [passOver])).runs.rows.map (·.status) =
    [.completed] ∧
    (live {} {} 1 namesDB (otherAddressLater ++ [passOver])).tasks.rows.length = 11 ∧
    OriginsCarried 1 (live {} {} 1 namesDB (otherAddressLater ++ [passOver])) :=
  ⟨by decide +kernel, by decide +kernel,
    origins_carried {} {} ⟨by decide, by decide⟩ (by decide) (by decide +kernel)⟩

end PinkGlasses
