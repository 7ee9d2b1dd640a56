import PinkGlasses.Control.Past
import PinkGlasses.Lib.Interference
import PinkGlasses.Store.Links

/-!
# PinkGlasses.Run.Provided

What `Advance` takes for granted when it plans the next stage of a run: a pool for the passive
stages, the exit of the run, and that no probe it has planned before is one without a port.
`DB.Provided` says so of the database. **It holds in every state of the control plane, amid
administrators who delete pools**, as long as three things do not happen (`Considerate`,
`SparesPool`): a worker's report of a service without a port, the deletion of a pool that a run
still needs, and a launch that sets a run running which has ended meanwhile.
-/

namespace PinkGlasses

open Lib Prog Planner Store Table Launch

variable {β : Type}

/-! ### What a pass needs -/

/-- An address comes with a port. -/
def IPPort.ported (sv : IPPort) : Bool := sv.ip == "" || sv.port != 0

/-- A pool that `PassivePool` falls back to, and that no fleet manager deletes. -/
def WorkerPool.standing (p : WorkerPool) : Bool :=
  !p.runScoped && (p.isDefault || p.name == "local")

/-- **A pass finds what it needs.** -/
structure DB.Provided (db : DB) : Prop where
  linked : db.Linked
  standing : ∃ p ∈ db.pools.rows, p.standing = true
  /-- A run that sends traffic has its exit. -/
  exits : ∀ r ∈ db.runs.rows, r.profile ≠ .passive → r.status = .running ∨ r.status = .paused →
    r.poolID.isSome = true
  results : ∀ t ∈ db.tasks.rows, ∀ sv ∈ (decode t.result).services, sv.ported = true
  probes : ∀ t ∈ db.tasks.rows, t.stage = .serviceProbe →
    (⟨t.target.ip, t.target.port⟩ : IPPort).ported = true

/-- No run that is not over leaves from the pool. -/
def SparesPool (db : DB) (poolID : UUID) : Prop :=
  ∀ r ∈ db.runs.rows, r.poolID = some poolID → r.status.terminal = true
deriving Decidable

/-- An administrator deletes a pool that nothing needs, and not the last standing one. -/
def SparesPools (db : DB) (poolID : UUID) : Prop :=
  SparesPool db poolID ∧ ∃ p ∈ db.pools.rows, p.standing = true ∧ p.id ≠ poolID
deriving Decidable

/-- An administrator deletes a pool. -/
def deletePool (poolID : UUID) (db : DB) : DB := deletePools (·.id == poolID) db

/-- The run a statement sets running. -/
def RunStmt.starts : RunStmt β → Option UUID
  | setRunStatus id .running => some id
  | _ => none

def Stmt.starts : Stmt β → Option UUID
  | run s => s.starts
  | _ => none

/-- **The condition on a statement**: no summary is stored that lists a service without a port, no
run is set running that is over, and no pool is deleted that a run needs. -/
structure Considerate (db : DB) (s : Stmt β) : Prop where
  summary : ∀ x ∈ s.stored.toList, ∀ sv ∈ x.2.services, sv.ported = true
  start : ∀ runID ∈ s.starts.toList, ∀ r ∈ db.runs.rows, r.id = runID → r.status.terminal = false
  pool : ∀ poolID ∈ s.drops.toList, SparesPool db poolID

instance (db : DB) (s : Stmt β) : Decidable (Considerate db s) :=
  decidable_of_iff (_ ∧ _ ∧ _) ⟨fun h => ⟨h.1, h.2.1, h.2.2⟩, fun h => ⟨h.1, h.2, h.3⟩⟩

/-! ### What a statement does to it -/

/-- A probe that is planned has a port. -/
def TaskSpec.ported (sp : TaskSpec) : Prop :=
  sp.stage = .serviceProbe → (⟨sp.target.ip, sp.target.port⟩ : IPPort).ported = true

section Step

variable {out : Outside} {env : Env} {db db' : DB} {s : Stmt β} {b : β} {h : Hist Stmt}
  {allowPrivate : Bool}

variable (env db) in
/-- What can become of a run's status: a launch starts it, a user pauses or resumes it, or it
ends. -/
theorem status_after (hwhy : s.justified allowPrivate h) (r : ScanRun) :
    s.starts = some r.id ∨ s.statusAfter env db r = r.status ∨
      (r.status = .running ∧ s.statusAfter env db r = .paused) ∨
      (r.status = .paused ∧ s.statusAfter env db r = .running) ∨
      (s.statusAfter env db r).terminal = true := by
  cases s with
  | run s =>
    cases s with
    | setRunStatus id status =>
      simp only [Stmt.statusAfter, RunStmt.statusAfter]
      -- the planner and the operator write no status but these
      by_cases hid : r.id = id
      · rw [if_pos (beq_iff_eq.mpr hid), hid]
        cases status with
        | running => exact .inl rfl
        | completed | failed | cancelled => exact .inr (.inr (.inr (.inr rfl)))
        | queued | planning | paused => exact hwhy.elim
      · rw [if_neg (by simpa using hid)]
        exact .inr (.inl rfl)
    | pauseRun id =>
      simp only [Stmt.statusAfter, RunStmt.statusAfter]
      split
      · rename_i hsel
        simp only [Bool.and_eq_true, beq_iff_eq] at hsel
        exact .inr (.inr (.inl ⟨hsel.2, rfl⟩))
      · exact .inr (.inl rfl)
    | resumeRun id =>
      simp only [Stmt.statusAfter, RunStmt.statusAfter]
      split
      · rename_i hsel
        simp only [Bool.and_eq_true, beq_iff_eq] at hsel
        exact .inr (.inr (.inr (.inl ⟨hsel.2, rfl⟩)))
      · exact .inr (.inl rfl)
    | failZombieRuns olderThan =>
      simp only [Stmt.statusAfter, RunStmt.statusAfter]
      split
      · exact .inr (.inr (.inr (.inr rfl)))
      · exact .inr (.inl rfl)
    | _ => exact .inr (.inl rfl)
  | _ => exact .inr (.inl rfl)

theorem exit_kept (hok : Considerate db s) {r r' : ScanRun} (hr : r ∈ db.runs.rows)
    (hstep : Stmt.RunStep env db s r r') (hlive : r.status.terminal = false)
    (hexit : r.poolID.isSome = true) : r'.poolID.isSome = true := by
  rw [hstep.poolID]
  unfold Stmt.poolAfter
  split
  · split
    · rfl
    · exact hexit
  · rename_i d _ hdrops
    split
    -- the run's pool is being dropped, which is done only after the run
    · rename_i hgone
      obtain ⟨i, hi⟩ := Option.isSome_iff_exists.mp hexit
      rw [hi] at hgone
      obtain ⟨x, -, hx, hsel⟩ := Table.refers_some.mp hgone
      simp only [Bool.and_eq_true, beq_iff_eq] at hsel
      have hover := hok.pool d (by simp [hdrops]) r hr (by rw [hi, ← hx, hsel.1])
      rw [hlive] at hover
      cases hover
    · exact hexit
  · exact hexit

theorem exists_standing (hexec : s.exec out env db = some (b, db'))
    (hst : ∃ p ∈ db.pools.rows, p.standing = true) : ∃ p ∈ db'.pools.rows, p.standing = true := by
  obtain ⟨p, hp, hstanding⟩ := hst
  refine ⟨p, (Stmt.exec_registry hexec).pool_after p hp ?_, hstanding⟩
  simp only [WorkerPool.standing, Bool.and_eq_true, Bool.not_eq_true'] at hstanding
  exact hstanding.1

theorem ported_newTask {runID id : UUID} {sp : TaskSpec} (hsp : sp.ported) :
    (newTask runID sp id).stage = .serviceProbe →
      (⟨(newTask runID sp id).target.ip, (newTask runID sp id).target.port⟩ :
        IPPort).ported = true := by
  intro hstage
  simp only [newTask]
  split <;> exact hsp hstage

theorem inserted_result {t : ScanTask} (ht : t ∈ s.inserted db) : t.result = none := by
  obtain ⟨_, _, _, -, rfl⟩ := Stmt.mem_inserted ht
  rfl

/-- **A statement keeps what a pass needs**, if what it plans has ports, what it starts has its
exit, and it meets the condition. -/
theorem DB.Provided.after (hp : db.Provided) (hexec : s.exec out env db = some (b, db'))
    (hok : Considerate db s)
    (hplan : ∀ t ∈ s.inserted db, t.stage = .serviceProbe →
      (⟨t.target.ip, t.target.port⟩ : IPPort).ported = true)
    (hstatus : ∀ r ∈ db.runs.rows, r.profile ≠ .passive →
      s.statusAfter env db r = .running ∨ s.statusAfter env db r = .paused →
      r.status.terminal = false ∧ r.poolID.isSome = true) : db'.Provided where
  linked := Stmt.exec_linked hexec hp.linked
  standing := exists_standing hexec hp.standing
  exits r' hr' hne hactive := by
    rcases Stmt.run_before hexec hr' with ⟨r, hr, hstep⟩ | hnew
    · rw [hstep.status] at hactive
      obtain ⟨hlive, hexit⟩ := hstatus r hr (hstep.profile ▸ hne) hactive
      exact exit_kept hok hr hstep hlive hexit
    · rw [(Stmt.created_pool hnew).2] at hactive
      rcases hactive with hq | hq <;> cases hq
  results t' ht' sv hsv := by
    rcases Stmt.task_before hexec ht' with ⟨t, ht, hstep⟩ | hins
    -- a result is written by a report, whose services have ports
    · rcases hstep.result with hsame | ⟨summary, hstored, hres⟩
      · rw [hsame] at hsv
        exact hp.results t ht sv hsv
      · rw [hres] at hsv
        exact hok.summary (t.id, summary) (by simp [hstored]) sv hsv
    · rw [inserted_result hins] at hsv
      cases hsv
  probes t' ht' hstage := by
    rcases Stmt.task_before hexec ht' with ⟨t, ht, hstep⟩ | hins
    · obtain ⟨-, -, hst, htarget, -⟩ := hstep.fixed
      rw [htarget]
      exact hp.probes t ht (hst ▸ hstage)
    · exact hplan t' hins hstage

/-! ### What a request knows -/

/-- What the answers a request got still say. -/
structure Knows (db : DB) (h : Hist Stmt) : Prop where
  read : ∀ id run, h.Asked (.run (.getRun id)) (some run) → run.id = id
  created : ∀ scopeID profile targets run saved,
    h.Asked (.run (.createRun scopeID profile targets)) (some (run, saved)) →
    ∃ r ∈ db.runs.rows, r.id = run.id ∧ r.profile = profile
  /-- A run that was bound has its exit, unless it has ended. -/
  bound : ∀ runID poolID, h.Asked (.run (.setRunPool runID poolID)) (some ()) →
    ∃ r ∈ db.runs.rows, r.id = runID ∧ (r.status.terminal = true ∨ r.poolID.isSome = true)
  rows : ∀ runID stage rows, h.Asked (.task (.tasksByStage runID stage)) (some rows) →
    ∀ t ∈ rows, ∀ sv ∈ (decode t.result).services, sv.ported = true

theorem knows_nil : Knows db [] :=
  ⟨fun _ _ hask => hask.of_nil, fun _ _ _ _ _ hask => hask.of_nil, fun _ _ hask => hask.of_nil,
    fun _ _ _ hask => hask.of_nil⟩

theorem Knows.failed (hk : Knows db h) : Knows db (⟨s, none⟩ :: h) :=
  ⟨fun _ _ hask => hk.read _ _ hask.of_failed,
    fun _ _ _ _ _ hask => hk.created _ _ _ _ _ hask.of_failed,
    fun _ _ hask => hk.bound _ _ hask.of_failed, fun _ _ _ hask => hk.rows _ _ _ hask.of_failed⟩

/-- A run that has ended does not come back, and one that has its exit keeps it. -/
theorem ended_or_exit (hok : Considerate db s) (hwhy : s.justified allowPrivate h)
    {r r' : ScanRun} (hr : r ∈ db.runs.rows) (hstep : Stmt.RunStep env db s r r')
    (hkept : r.status.terminal = true ∨ r.poolID.isSome = true) :
    r'.status.terminal = true ∨ r'.poolID.isSome = true := by
  by_cases hlive : r.status.terminal = false
  · rw [hlive] at hkept
    exact .inr (exit_kept hok hr hstep hlive (hkept.resolve_left nofun))
  · have hterm : r.status.terminal = true := by simpa using hlive
    left
    rw [hstep.status]
    rcases status_after env db hwhy r with hstart | hsame | ⟨hrun, -⟩ | ⟨hpause, -⟩ | hover
    · exact absurd (hok.start r.id (by simp [hstart]) r hr rfl) hlive
    · rw [hsame]
      exact hterm
    · rw [hrun] at hterm
      cases hterm
    · rw [hpause] at hterm
      cases hterm
    · exact hover

theorem Knows.after (hk : Knows db h) {h' : Hist Stmt} (hexec : s.exec out env db = some (b, db'))
    (hok : Considerate db s) (hwhy : s.justified allowPrivate h') : Knows db' h where
  read := hk.read
  created scopeID profile targets run saved hask := by
    obtain ⟨r, hr, hid, hprofile⟩ := hk.created _ _ _ _ _ hask
    obtain ⟨r', hr', hid', -, hprofile'⟩ := (Stmt.exec_grows hexec).run r hr
    exact ⟨r', hr', hid'.trans hid, hprofile'.trans hprofile⟩
  bound runID poolID hask := by
    obtain ⟨r, hr, hid, hkept⟩ := hk.bound _ _ hask
    obtain ⟨r', hr', hstep⟩ := Stmt.run_after hexec hr
    exact ⟨r', hr', hstep.id.trans hid, ended_or_exit hok hwhy hr hstep hkept⟩
  rows := hk.rows

theorem Knows.cons (hk : Knows db' h) (hp : db.Provided) (hknew : Knows db h)
    (hexec : s.exec out env db = some (b, db')) (hwhy : s.justified allowPrivate h) :
    Knows db' (⟨s, some b⟩ :: h) where
  read id run hask := by
    rcases hask with _ | ⟨_, hold⟩
    · exact (Stmt.exec_getRun hexec).2
    · exact hk.read _ _ hold
  created scopeID profile targets run saved hask := by
    rcases hask with _ | ⟨_, hold⟩
    · simp only [Stmt.exec, RunStmt.exec] at hexec
      split at hexec
      · cases hexec
        exact ⟨_, mem_insert.mpr (.inr rfl), rfl, rfl⟩
      · cases hexec
    · exact hk.created _ _ _ _ _ hold
  bound runID poolID hask := by
    rcases hask with _ | ⟨_, hold⟩
    -- the request binds the run it has made, whose row is still there
    · obtain ⟨⟨scopeID, run, saved, rfl, profile, targets, hcreated⟩, -⟩ := hwhy
      obtain ⟨r, hr, hid, -⟩ := hknew.created _ _ _ _ _ hcreated
      obtain ⟨r', hr', hstep⟩ := Stmt.run_after hexec hr
      refine ⟨r', hr', hstep.id.trans hid, .inr ?_⟩
      rw [hstep.poolID]
      simp [Stmt.poolAfter, Stmt.binds, RunStmt.binds, hid]
    · exact hk.bound _ _ hold
  rows runID stage rows hask := by
    rcases hask with _ | ⟨_, hold⟩
    · cases hexec
      intro row hrow
      obtain ⟨t, ht, rfl⟩ := List.mem_map.mp hrow
      exact hp.results t (List.mem_filter.mp ht).1
    · exact hk.rows _ _ _ hold

theorem ported_of_probe {tasks : List TaskRow} {sp : TaskSpec}
    (htasks : ∀ t ∈ tasks, ∀ sv ∈ (decode t.result).services, sv.ported = true)
    (hsp : ProbeOf tasks sp) : sp.ported := by
  obtain ⟨t, ht, -, sv, hsv, o, rfl⟩ := hsp
  exact fun _ => htasks t ht sv hsv

theorem ported_of_stage {sp : TaskSpec} (hsp : sp.stage ≠ .serviceProbe) : sp.ported :=
  fun hstage => absurd hstage hsp

theorem Knows.ported (hk : Knows db h) (hwhy : s.justified allowPrivate h) {t : ScanTask}
    (ht : t ∈ s.inserted db) : t.stage = .serviceProbe →
      (⟨t.target.ip, t.target.port⟩ : IPPort).ported = true := by
  cases s with
  | task s =>
    cases s with
    | insertTasks r out =>
      obtain ⟨sp', hsp', id, rfl⟩ := mem_newTasks ht
      obtain ⟨run, specs, rt, rfl, -, -, hroute, hfrom⟩ := hwhy
      rw [(Planner.routeTasks_ok hroute).1] at hsp'
      obtain ⟨sp, hsp, rfl⟩ := List.mem_map.mp hsp'
      suffices hported : (routed rt sp).ported from ported_newTask hported
      show sp.ported
      -- only the tasks that follow a port scan are probes
      rcases hfrom with ⟨_, _, _, _, -, -, hfirst⟩ | ⟨-, -, hplanned⟩
      · rcases hfirst sp hsp with ⟨t, -, hmem⟩ | hbrute
        · refine ported_of_stage fun hstage => ?_
          have hfirst := (mem_planTarget hmem).2
          rw [hstage] at hfirst
          revert hfirst
          decide
        · exact ported_of_stage (by rw [hbrute]; decide)
      · cases hplanned with
        | addresses => exact ported_of_stage (by rw [(mem_addressSpecs hsp).1]; decide)
        | probes htasks hspecs => exact ported_of_probe (hk.rows _ _ _ htasks) (hspecs sp hsp)
        | web _ _ hspecs =>
          obtain ⟨-, -, -, -, -, -, tgt, -, o, hmem⟩ := hspecs sp hsp
          refine ported_of_stage fun hstage => ?_
          have hweb := (mem_webSpecs hmem).2.1
          rw [hstage] at hweb
          cases hweb
    | _ => cases ht
  | _ => cases ht

theorem exited_of_starts (hwhy : s.justified allowPrivate h) {runID : UUID}
    (hstart : s.starts = some runID) : Exited h runID := by
  cases s with
  | run s =>
    cases s with
    | setRunStatus id status =>
      cases status with
      | running => exact Option.some.inj hstart ▸ hwhy
      | _ => cases hstart
    | _ => cases hstart
  | _ => cases hstart

theorem Knows.exit (hk : Knows db h) (hok : Considerate db s) (hwhy : s.justified allowPrivate h)
    {r : ScanRun} (hr : r ∈ db.runs.rows) (hstart : s.starts = some r.id)
    (hne : r.profile ≠ .passive) :
    r.status.terminal = false ∧ r.poolID.isSome = true := by
  have hlive := hok.start r.id (by simp [hstart]) r hr rfl
  refine ⟨hlive, ?_⟩
  rcases exited_of_starts hwhy hstart with
    ⟨_, _, run, _, hcreated, hid⟩ | ⟨id, poolID, run, hset, hget, hid⟩
  · obtain ⟨r₀, hr₀, hid₀, hpassive⟩ := hk.created _ _ _ _ _ hcreated
    rw [eq_of_key hr₀ hr (hid₀.trans hid)] at hpassive
    exact absurd hpassive hne
  · obtain ⟨r₀, hr₀, hid₀, hkept⟩ := hk.bound _ _ hset
    have hsame : r₀.id = r.id := by rw [hid₀, ← hk.read _ _ hget, hid]
    rw [eq_of_key hr₀ hr hsame, hlive] at hkept
    exact hkept.resolve_left nofun

/-- **One statement of a request keeps what a pass needs.** -/
theorem DB.Provided.step (hp : db.Provided) (hk : Knows db h)
    (hexec : s.exec out env db = some (b, db')) (hok : Considerate db s)
    (hwhy : s.justified allowPrivate h) : db'.Provided := by
  refine hp.after hexec hok (fun t ht => hk.ported hwhy ht) fun r hr hne hactive => ?_
  have hlive : r.status = .running ∨ r.status = .paused →
      r.status.terminal = false ∧ r.poolID.isSome = true := by
    intro hst
    refine ⟨?_, hp.exits r hr hne hst⟩
    rcases hst with hst | hst <;> rw [hst] <;> rfl
  rcases status_after env db hwhy r with hstart | hsame | ⟨hrun, -⟩ | ⟨hpause, -⟩ | hover
  · exact hk.exit hok hwhy hr hstart hne
  · exact hlive (hsame ▸ hactive)
  · exact hlive (.inl hrun)
  · exact hlive (.inr hpause)
  · rcases hactive with hst | hst <;> rw [hst] at hover <;> cases hover

end Step

/-! ### Whole runs -/

section Delete

variable {db : DB} {poolID : UUID}

/-- Deleting a pool that is spared leaves every run its status, and its exit unless it is over. -/
theorem run_deletePool (hok : SparesPool db poolID) {r r' : ScanRun} (hr : r ∈ db.runs.rows)
    (hr' : r' ∈ (deletePool poolID db).runs.rows) (hid : r'.id = r.id) :
    r'.status = r.status ∧ r'.profile = r.profile ∧
      (r.status.terminal = false → r'.poolID = r.poolID) := by
  rw [run_deletePools hr hr' hid]
  split
  · rename_i hgone
    refine ⟨rfl, rfl, fun hlive => ?_⟩
    cases hpool : r.poolID with
    | none => rfl
    | some i =>
      rw [hpool] at hgone
      obtain ⟨x, -, hx, hsel⟩ := Table.refers_some.mp hgone
      have hover := hok r hr (by rw [hpool, ← hx, beq_iff_eq.mp hsel])
      rw [hlive] at hover
      cases hover
  · exact ⟨rfl, rfl, fun _ => rfl⟩

theorem exists_run_deletePool {r' : ScanRun} (hr' : r' ∈ (deletePool poolID db).runs.rows) :
    ∃ r ∈ db.runs.rows, r'.id = r.id := by
  obtain ⟨r, hr, rfl⟩ := List.mem_map.mp hr'
  refine ⟨r, hr, ?_⟩
  dsimp only
  split <;> rfl

/-- **An administrator who spares what runs need keeps what a pass needs.** -/
theorem DB.Provided.deletePool (hp : db.Provided) (hok : SparesPools db poolID) :
    (deletePool poolID db).Provided where
  linked := deletePools_linked _ hp.linked
  standing := by
    obtain ⟨p, hmem, hst, hne⟩ := hok.2
    exact ⟨p, mem_delete.mpr ⟨hmem, by simpa using hne⟩, hst⟩
  exits r' hr' hne hactive := by
    obtain ⟨r, hr, hid⟩ := exists_run_deletePool hr'
    obtain ⟨hstatus, hprofile, hpool⟩ := run_deletePool hok.1 hr hr' hid
    rw [hstatus] at hactive
    have hlive : r.status.terminal = false := by
      rcases hactive with hst | hst <;> rw [hst] <;> rfl
    rw [hpool hlive]
    exact hp.exits r hr (hprofile ▸ hne) hactive
  results t' ht' := by
    obtain ⟨t, ht, rfl⟩ := List.mem_map.mp ht'
    have hres := hp.results t ht
    dsimp only
    split <;> exact hres
  probes t' ht' := by
    obtain ⟨t, ht, rfl⟩ := List.mem_map.mp ht'
    have hport := hp.probes t ht
    dsimp only
    split <;> exact hport

theorem Knows.deletePool {h : Hist Stmt} (hk : Knows db h) (hok : SparesPools db poolID) :
    Knows (deletePool poolID db) h where
  read := hk.read
  created scopeID profile targets run saved hask := by
    obtain ⟨r, hr, hid, hprofile⟩ := hk.created _ _ _ _ _ hask
    obtain ⟨r', hr', hid', -, hprofile'⟩ := (deletePools_grows (·.id == poolID) db).run r hr
    exact ⟨r', hr', hid'.trans hid, hprofile'.trans hprofile⟩
  bound runID poolID' hask := by
    obtain ⟨r, hr, hid, hkept⟩ := hk.bound _ _ hask
    obtain ⟨r', hr', hid', -⟩ := (deletePools_grows (·.id == poolID) db).run r hr
    obtain ⟨hstatus, -, hpool⟩ := run_deletePool hok.1 hr hr' hid'
    refine ⟨r', hr', hid'.trans hid, ?_⟩
    rw [hstatus]
    by_cases hlive : r.status.terminal = false
    · rw [hpool hlive]
      exact hkept
    · exact .inl (by simpa using hlive)
  rows := hk.rows

end Delete

theorem provided_inductive (cfg : ControlConfig) (out : Outside) :
    System.Inductive (controlSystem cfg out) (fun c _ _ s => Considerate c.state s)
      (controlPre cfg.launch.allowPrivate) (fun _ _ => True) DB.Provided
      fun db th => Knows db th.hist := by
  refine ⟨fun _ r _ _ => ⟨knows_nil, controlRequest_meets cfg r⟩, ?_, fun _ hk _ => hk.failed⟩
  intro c i h β s k env b st' hc hth hwhy hok hexec
  have hk : Knows c.state h := hc.threads _ (List.mem_of_getElem? hth)
  exact ⟨hc.state.step hk hexec hok hwhy,
    (hk.after hexec hok hwhy).cons hc.state hk hexec hwhy,
    fun _ _ _ _ hk => hk.after hexec hok hwhy⟩

/-- **A pass finds what it needs in every state of the control plane**, amid administrators who
delete pools, as long as every statement and every deletion meets its condition. -/
theorem provided_run (cfg : ControlConfig) (out : Outside) {db : DB} (hstart : db.Provided)
    {es : List (Event ControlRequest Env ⊕ UUID)}
    (hok : (controlSystem cfg out).AlongAmid deletePool (fun c _ _ s => Considerate c.state s)
      SparesPools ⟨db, []⟩ es) :
    ((controlSystem cfg out).runAmid deletePool ⟨db, []⟩ es).state.Provided :=
  ((provided_inductive cfg out).runAmid
    (fun hp hok => ⟨hp.deletePool hok, fun _ hk => hk.deletePool hok⟩) (.start hstart) hok).state

end PinkGlasses
