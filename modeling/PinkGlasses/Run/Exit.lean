import PinkGlasses.Control.Launches

/-!
# PinkGlasses.Run.Exit

Where the traffic of a run leaves from.

A run launched with a remote exit is bound to an operator's pool, and its tasks that send traffic
are routed there and nowhere else. The launch has counted the pool's *remote* workers; a lease
compares **the pool and nothing else**, so a worker of kind `local` in the same pool is given these
tasks like any other. The launch comment says why it should not be: the packets would leave from the
host's own address.

The system here is the control plane with a log of what was bound and what was leased. Where no pool
that a remote run is bound to ever comes to hold a local worker (`KeepsLocalOut`), no task that
sends traffic is leased to one (`remote_run_never_local`).
-/

namespace PinkGlasses

open Lib Store Table

variable {β : Type}

/-- What the log keeps. -/
inductive ExitEvent
  /-- The run was bound to the pool. -/
  | bound (runID poolID : UUID)
  /-- The job was leased to the worker. -/
  | leased (job : Job) (workerID : UUID)
deriving Repr, DecidableEq

/-- What a statement adds to the log. -/
def TaskStmt.exitEvents : {β : Type} → TaskStmt β → β → List ExitEvent
  | _, leaseTasksWhere workerID _ _ _ _ _ _, jobs => jobs.map fun j => .leased j workerID
  | _, _, _ => []

def RunStmt.exitEvents : {β : Type} → RunStmt β → β → List ExitEvent
  | _, setRunPool runID poolID, _ => [.bound runID poolID]
  | _, _, _ => []

def Stmt.exitEvents : {β : Type} → Stmt β → β → List ExitEvent
  | _, task s, b => s.exitEvents b
  | _, run s, b => s.exitEvents b
  | _, _, _ => []

/-- The control plane with the log of exits and leases. -/
def exitLog (cfg : ControlConfig) (out : Outside) :
    System Stmt (DB × List ExitEvent) Env ControlRequest Nat :=
  (controlSystem cfg out).logged Stmt.exitEvents

/-- The pool is an operator's, not one a run made for itself. -/
def OperatorPool (db : DB) (poolID : UUID) : Prop :=
  ∃ p ∈ db.pools.rows, p.id = poolID ∧ p.runScoped = false
deriving Decidable

/-- The run was launched with a remote exit: it was bound to an operator's pool. -/
def RemoteExit (st : DB × List ExitEvent) (runID poolID : UUID) : Prop :=
  .bound runID poolID ∈ st.2 ∧ OperatorPool st.1 poolID

/-- **No task of a remote run that sends traffic was leased to a worker of kind `local`.** -/
def RemoteOnly (st : DB × List ExitEvent) : Prop :=
  ∀ j workerID, .leased j workerID ∈ st.2 → j.stage.sendsTrafficToTarget = true →
    ∀ poolID, RemoteExit st j.runID poolID →
      ∀ w ∈ st.1.workers.rows, w.id = workerID → w.kind ≠ .local

/-- The worker counts as one of the pool. -/
def InPool (db : DB) (w : Worker) (poolID : UUID) : Prop :=
  effectivePool db w.poolID = some poolID
deriving Decidable

/-- The pool an event binds a run to. -/
def ExitEvent.pool : ExitEvent → Option UUID
  | bound _ poolID => some poolID
  | leased _ _ => none

/-- The pool is the exit of a remote run. -/
def RemotePool (st : DB × List ExitEvent) (poolID : UUID) : Prop :=
  (∃ e ∈ st.2, e.pool = some poolID) ∧ OperatorPool st.1 poolID
deriving Decidable

/-- **The condition on a statement.** A pool that a remote run is bound to holds no local worker
when it is bound, none is enrolled into it later, and none comes to it, as the default pool, by
losing its own. -/
structure KeepsLocalOut (st : DB × List ExitEvent) (s : Stmt β) : Prop where
  bind : ∀ x ∈ s.binds, OperatorPool st.1 x.2 →
    ∀ w ∈ st.1.workers.rows, w.kind = .local → ¬ InPool st.1 w x.2
  enrol : ∀ e ∈ s.enrols, e.2 = .local → ∀ poolID ∈ effectivePool st.1 e.1,
    ¬ RemotePool st poolID
  drop : ∀ p ∈ s.drops, (∃ w ∈ st.1.workers.rows, w.kind = .local ∧ w.poolID = some p) →
    ∀ poolID ∈ defaultPool st.1, ¬ RemotePool st poolID

section Decidable

instance (st : DB × List ExitEvent) (s : Stmt β) : Decidable (KeepsLocalOut st s) :=
  decidable_of_iff (_ ∧ _ ∧ _) ⟨fun h => ⟨h.1, h.2.1, h.2.2⟩, fun h => ⟨h.1, h.2, h.3⟩⟩

end Decidable

theorem RemoteExit.pool {st : DB × List ExitEvent} {runID poolID : UUID}
    (h : RemoteExit st runID poolID) : RemotePool st poolID :=
  ⟨⟨_, h.1, rfl⟩, h.2⟩

/-! ### What holds along a run -/

/-- What the log and the database keep. -/
structure Separated (st : DB × List ExitEvent) : Prop where
  /-- A run's own pool is never the default one. -/
  default : ∀ p ∈ st.1.pools.rows, p.runScoped = true → p.isDefault = false
  /-- Only runs that exist were bound. -/
  known : ∀ runID poolID, .bound runID poolID ∈ st.2 → runID < st.1.runs.next
  /-- A run was bound once. -/
  once : ∀ runID p p', .bound runID p ∈ st.2 → .bound runID p' ∈ st.2 → p = p'
  runs : ∀ r ∈ st.1.runs.rows, ∀ p ∈ r.poolID, .bound r.id p ∈ st.2
  /-- A task that sends traffic is in the pool its run was bound to. -/
  tasks : ∀ t ∈ st.1.tasks.rows, t.stage.sendsTrafficToTarget = true →
    ∀ p ∈ t.poolID, .bound t.runID p ∈ st.2
  /-- The exit of a remote run holds no local worker. -/
  apart : ∀ runID poolID, RemoteExit st runID poolID →
    ∀ w ∈ st.1.workers.rows, w.kind = .local → ¬ InPool st.1 w poolID
  leases : ∀ j workerID, .leased j workerID ∈ st.2 → workerID < st.1.workers.next ∧
    (j.stage.sendsTrafficToTarget = true → ∃ p, .bound j.runID p ∈ st.2)
  remoteOnly : RemoteOnly st

/-- What a request has read stays true. -/
structure Informed (st : DB × List ExitEvent) (h : Hist Stmt) : Prop where
  runs : ∀ id run, h.Asked (.run (.getRun id)) (some run) →
    run.id = id ∧ ∀ p ∈ run.poolID, .bound run.id p ∈ st.2
  created : ∀ scopeID run saved, LaunchOf h scopeID run saved → run.poolID = none
  /-- A run that the request has created and not bound is not bound. -/
  unbound : ∀ runID, Shows Stmt.launches h runID → Unbound h → ∀ p, .bound runID p ∉ st.2
  /-- A worker keeps its kind, and its pool unless that is gone for good. -/
  workers : ∀ id w₀, Read h id w₀ → id < st.1.workers.next ∧
    ∀ w ∈ st.1.workers.rows, w.id = id → w.kind = w₀.kind ∧ (w.poolID = w₀.poolID ∨
      ∃ p, w₀.poolID = some p ∧ p < st.1.pools.next ∧ ∀ q ∈ st.1.pools.rows, q.id ≠ p)

/-! ### One statement -/

section Step

variable {allowPrivate : Bool} {out : Outside} {env : Env} {st : DB × List ExitEvent} {db' : DB}
  {h : Hist Stmt} {s : Stmt β} {b : β} {runID poolID : UUID}

theorem mem_exitEvents_bound :
    .bound runID poolID ∈ s.exitEvents b ↔ s.binds = some (runID, poolID) := by
  cases s with
  | task s => cases s <;> simp [Stmt.exitEvents, TaskStmt.exitEvents, Stmt.binds]
  | run s =>
    cases s <;> simp [Stmt.exitEvents, RunStmt.exitEvents, Stmt.binds, RunStmt.binds, eq_comm]
  | _ => simp [Stmt.exitEvents, Stmt.binds]

theorem operatorPool_of_step
    (hreg : WorkerStmt.RegistryStep s.enrols s.drops (s.workerStatus env) st.1 db')
    (hop : OperatorPool db' poolID) : OperatorPool st.1 poolID := by
  obtain ⟨p, hp, hid, hscope⟩ := hop
  rcases hreg.pool_before p hp with hold | ⟨-, hnew, -⟩
  · exact ⟨p, hold, hid, hscope⟩
  · rw [hscope] at hnew
    cases hnew

theorem shows_of_binds (hwhy : s.justified allowPrivate h)
    (hbinds : s.binds = some (runID, poolID)) :
    Shows Stmt.launches h runID ∧ Unbound h := by
  cases s with
  | run s =>
    cases s with
    | setRunPool r p =>
      cases hbinds
      obtain ⟨⟨scopeID, run, saved, rfl, hl⟩, -, hu⟩ := hwhy
      exact ⟨hl.shows, hu⟩
    | _ => cases hbinds
  | _ => cases hbinds

theorem Informed.binds (hinf : Informed st h) (hwhy : s.justified allowPrivate h)
    (hbinds : s.binds = some (runID, poolID)) (p : UUID) : .bound runID p ∉ st.2 :=
  have ⟨hshow, hu⟩ := shows_of_binds hwhy hbinds
  hinf.unbound runID hshow hu p

/-- A task that sends traffic is planned for the pool its run was bound to. -/
theorem Informed.inserted (hinf : Informed st h) (hwhy : s.justified allowPrivate h) {t : ScanTask}
    (ht : t ∈ s.inserted st.1) (hsends : t.stage.sendsTrafficToTarget = true) (p : UUID)
    (hp : t.poolID = some p) : .bound t.runID p ∈ st.2 := by
  cases s with
  | task s =>
    cases s with
    | insertTasks r out =>
      obtain ⟨sp', hsp', id, rfl⟩ := mem_newTasks ht
      obtain ⟨run, specs, rt, rfl, -, hrt, hroute, hfrom⟩ := hwhy
      rw [(Planner.routeTasks_ok hroute).1] at hsp'
      obtain ⟨sp, -, rfl⟩ := List.mem_map.mp hsp'
      -- the route of a task that sends traffic is the pool of the row the request has read
      have hpool : run.poolID = some p := by
        rw [← hrt]
        have hactive : (if sp.stage.sendsTrafficToTarget then rt.active else some rt.passive) =
            some p := hp
        have hsends : sp.stage.sendsTrafficToTarget = true := hsends
        rwa [if_pos hsends] at hactive
      rcases hfrom with ⟨scopeID, tag, rows, saved, -, ⟨run₀, hl, hread⟩, -⟩ | ⟨⟨id, hread⟩, -⟩
      · rcases hread with rfl | hread
        · rw [hinf.created _ _ _ hl] at hpool
          cases hpool
        · exact (hinf.runs _ _ hread).2 p hpool
      · exact (hinf.runs _ _ hread).2 p hpool
    | _ => cases ht
  | _ => cases ht

theorem mem_exitEvents_leased (hexec : s.exec out env st.1 = some (b, db')) {j : Job}
    {workerID : UUID} (hmem : .leased j workerID ∈ s.exitEvents b)
    (hwhy : s.justified allowPrivate h) :
    db'.workers = st.1.workers ∧ db'.pools = st.1.pools ∧ s.binds = none ∧
    ∃ t ∈ st.1.tasks.rows, t.runID = j.runID ∧ t.stage = j.stage ∧
      ∃ w₀, Read h workerID w₀ ∧ (∃ w, st.1.workers.find? workerID = some w) ∧
        ∃ p, t.poolID = some p ∧ effectivePool st.1 w₀.poolID = some p := by
  cases s with
  | task s =>
    cases s with
    | leaseTasksWhere w caps pool limit secs only perCompany =>
      -- a lease hands out rows of the pool the worker's row was read with
      obtain ⟨j', hj', heq⟩ := List.mem_map.mp hmem
      cases heq
      have hexec : (TaskStmt.leaseTasksWhere workerID caps pool limit secs only perCompany).exec env
        st.1 = some (b, db') := hexec
      obtain ⟨t, ht, hsel, hjob⟩ := (TaskStmt.mem_lease_jobs hexec).mp hj'
      obtain ⟨⟨w₀, hread, -, hpool, -⟩, -⟩ := hwhy
      have hadm := leasable_of_mem_leaseChoice ht hsel
      simp only [leasable, Bool.and_eq_true, beq_iff_eq] at hadm
      obtain ⟨⟨⟨⟨⟨-, -⟩, hsome⟩, heff⟩, -⟩, -⟩ := hadm
      obtain ⟨p, hp⟩ := Option.isSome_iff_exists.mp hsome
      simp only [jobOf, leaseRow, Option.map_some, Option.some.injEq] at hjob
      have hframe := TaskStmt.exec_frame hexec
      refine ⟨by rw [hframe], by rw [hframe], rfl, t, ht, by rw [← hjob], by rw [← hjob], w₀, hread,
        TaskStmt.lease_worker hexec hsel, p, hp, ?_⟩
      rw [hpool, ← heff, hp]
    | _ => cases hmem
  | run s =>
    cases s with
    | setRunPool r p => cases List.mem_singleton.mp hmem
    | _ => cases hmem
  | _ => cases hmem

/-- Who is in a pool does not depend on the statement, unless the worker or its pool is new. -/
theorem inPool_iff (hreg : WorkerStmt.RegistryStep s.enrols s.drops (s.workerStatus env) st.1 db')
    (hdefault : ∀ p ∈ st.1.pools.rows, p.runScoped = true → p.isDefault = false) {w w' : Worker}
    (hw : w'.poolID = w.poolID) : InPool db' w' poolID ↔ InPool st.1 w poolID := by
  rw [InPool, InPool, effectivePool, effectivePool, hw, hreg.defaultPool hdefault]

theorem Separated.apart_after (hst : Separated st) (hok : KeepsLocalOut st s)
    (hexec : s.exec out env st.1 = some (b, db'))
    (hremote : RemoteExit (db', s.exitEvents b ++ st.2) runID poolID) {w' : Worker}
    (hw' : w' ∈ db'.workers.rows) (hlocal : w'.kind = .local) : ¬ InPool db' w' poolID := by
  have hreg := Stmt.exec_registry hexec
  have hop : OperatorPool st.1 poolID := operatorPool_of_step hreg hremote.2
  rcases List.mem_append.mp hremote.1 with hnew | hold
  · -- the run is being bound: pools and workers are as before
    have hbinds := mem_exitEvents_bound.mp hnew
    cases s with
    | run s =>
      have hworkers : db'.workers = st.1.workers := by rw [s.exec_frame hexec]
      rw [inPool_iff hreg hst.default rfl]
      exact hok.bind _ hbinds hop w' (hworkers ▸ hw') hlocal
    | _ => cases hbinds
  -- bound before: the worker is in the pool it was in, has lost its pool, or is new
  · have hremote' : RemoteExit st runID poolID := ⟨hold, hop⟩
    rcases hreg.worker_before w' hw' with ⟨w, hw, -, -, hkind,
      hpool | ⟨hnone, p, hdrops, hwp, -, -⟩⟩ |
      ⟨-, -, henrols⟩
    · rw [inPool_iff hreg hst.default hpool]
      exact hst.apart _ _ hremote' w hw (hkind ▸ hlocal)
    · intro hin
      rw [InPool, hnone, effectivePool, Option.none_or, hreg.defaultPool hst.default] at hin
      exact hok.drop p hdrops ⟨w, hw, hkind ▸ hlocal, hwp⟩ poolID hin hremote'.pool
    · intro hin
      rw [InPool, effectivePool, hreg.defaultPool hst.default] at hin
      exact hok.enrol _ henrols hlocal poolID hin hremote'.pool

/-- No lease of the log comes to be one of a remote run's traffic to a local worker. -/
theorem Separated.remoteOnly_after (hst : Separated st) (hinf : Informed st h)
    (hwhy : s.justified allowPrivate h) (hexec : s.exec out env st.1 = some (b, db')) :
    RemoteOnly (db', s.exitEvents b ++ st.2) := by
  have hreg := Stmt.exec_registry hexec
  intro j workerID hlease hsends poolID ⟨hbound, hop⟩ w' hw' hid
  have hop : OperatorPool st.1 poolID := operatorPool_of_step hreg hop
  rcases List.mem_append.mp hlease with hnew | hold
  · -- a lease just made: the worker's row still has the pool and the kind that were read
    obtain ⟨hworkers, hpools, hbinds, t, ht, hrun, hstage, w₀, hread, -, p, hp, heff⟩ :=
      mem_exitEvents_leased hexec hnew hwhy
    have hold : .bound j.runID poolID ∈ st.2 := by
      rcases List.mem_append.mp hbound with hnew | hold
      · rw [mem_exitEvents_bound.mp hnew] at hbinds
        cases hbinds
      · exact hold
    have heq : p = poolID := by
      refine hst.once j.runID p poolID ?_ hold
      rw [← hrun]
      exact hst.tasks t ht (hstage ▸ hsends) p hp
    have hw : w' ∈ st.1.workers.rows := hworkers ▸ hw'
    obtain ⟨hkind, hpool | ⟨q, hq, -, hgone⟩⟩ := (hinf.workers workerID w₀ hread).2 w' hw hid
    · intro hlocal
      refine hst.apart j.runID poolID ⟨hold, hop⟩ w' hw hlocal ?_
      rw [InPool, hpool, heff, heq]
    · obtain ⟨x, hx, hxid, -⟩ := hop
      rw [hq, effectivePool, Option.some_or] at heff
      exact absurd (hxid.trans (heq.symm.trans (Option.some.inj heff).symm)) (hgone x hx)
  -- leased before: the run was bound by then, and a worker keeps its kind
  · obtain ⟨hlt, htraffic⟩ := hst.leases j workerID hold
    rcases hreg.worker_before w' hw' with ⟨w, hw, hwid, -, hkind, -⟩ | ⟨hnext, -⟩
    · rcases List.mem_append.mp hbound with hnew | hbound
      · obtain ⟨p, hp⟩ := htraffic hsends
        exact absurd hp (hinf.binds hwhy (mem_exitEvents_bound.mp hnew) p)
      · rw [hkind]
        exact hst.remoteOnly j workerID hold hsends poolID ⟨hbound, hop⟩ w hw (hwid.symm.trans hid)
    · rw [← hid, hnext] at hlt
      exact absurd hlt (Nat.lt_irrefl _)

/-- **Every statement keeps the exits apart.** -/
theorem Separated.after (hst : Separated st) (hinf : Informed st h)
    (hbelow : ∀ runID, Shows Stmt.launches h runID → runID < st.1.runs.next)
    (hwhy : s.justified allowPrivate h) (hok : KeepsLocalOut st s)
    (hexec : s.exec out env st.1 = some (b, db')) :
    Separated (db', s.exitEvents b ++ st.2) where
  default p hp hscope := by
    rcases (Stmt.exec_registry hexec).pool_before p hp with hold | ⟨-, -, hnew⟩
    · exact hst.default p hold hscope
    · exact hnew
  known r p hbound := by
    have hle := (runs_next_le hexec).1
    rcases List.mem_append.mp hbound with hnew | hold
    · have hshow := (shows_of_binds hwhy (mem_exitEvents_bound.mp hnew)).1
      exact Nat.lt_of_lt_of_le (hbelow r hshow) hle
    · exact Nat.lt_of_lt_of_le (hst.known r p hold) hle
  once r p p' hp hp' := by
    -- a run is bound by the request that made it or found it unbound, so never twice
    have hfresh : ∀ {q q'}, s.binds = some (r, q) → .bound r q' ∉ st.2 :=
      fun hq => hinf.binds hwhy hq _
    simp only [List.mem_append, mem_exitEvents_bound] at hp hp'
    rcases hp with hp | hp <;> rcases hp' with hp' | hp'
    · cases hp.symm.trans hp'
      rfl
    · exact absurd hp' (hfresh hp)
    · exact absurd hp (hfresh hp')
    · exact hst.once r p p' hp hp'
  runs r' hr' p hp := by
    rcases Stmt.run_before hexec hr' with ⟨r, hr, hstep⟩ | hnew
    · rw [hstep.id]
      rcases Stmt.poolAfter_eq_some (hstep.poolID.symm.trans hp) with hbinds | ⟨hold, -⟩
      · exact List.mem_append_left _ (mem_exitEvents_bound.mpr hbinds)
      · exact List.mem_append_right _ (hst.runs r hr p hold)
    · rw [(Stmt.created_pool hnew).1] at hp
      cases hp
  tasks t' ht' hsends p hp := by
    refine List.mem_append_right _ ?_
    rcases Stmt.task_before hexec ht' with ⟨t, ht, hstep⟩ | hnew
    · obtain ⟨-, hrun, hstage, -, hpool⟩ := hstep.fixed
      rw [hrun]
      rcases hpool with hsame | hnone
      · exact hst.tasks t ht (hstage ▸ hsends) p (hsame.symm.trans hp)
      · rw [hnone] at hp
        cases hp
    · exact hinf.inserted hwhy hnew hsends p hp
  apart _ _ hremote w' hw' hlocal := hst.apart_after hok hexec hremote hw' hlocal
  leases j workerID hlease := by
    rcases List.mem_append.mp hlease with hnew | hold
    · obtain ⟨hworkers, -, -, t, ht, hrun, hstage, w₀, -, ⟨w, hw⟩, p, hp, -⟩ :=
        mem_exitEvents_leased hexec hnew hwhy
      obtain ⟨hmem, hid⟩ := find?_eq_some.mp hw
      refine ⟨?_, fun hsends => ⟨p, List.mem_append_right _ ?_⟩⟩
      · rw [hworkers, ← hid]
        exact st.1.workers.bound w hmem
      · rw [← hrun]
        exact hst.tasks t ht (hstage ▸ hsends) p hp
    · obtain ⟨hlt, htraffic⟩ := hst.leases j workerID hold
      refine ⟨Nat.lt_of_lt_of_le hlt (Stmt.exec_registry hexec).workers_next, fun hsends => ?_⟩
      obtain ⟨p, hp⟩ := htraffic hsends
      exact ⟨p, List.mem_append_right _ hp⟩
  remoteOnly := hst.remoteOnly_after hinf hwhy hexec

theorem pool_gone (hreg : WorkerStmt.RegistryStep s.enrols s.drops (s.workerStatus env) st.1 db')
    {p : UUID}
    (hlt : p < st.1.pools.next) (hgone : ∀ q ∈ st.1.pools.rows, q.id ≠ p) :
    p < db'.pools.next ∧ ∀ q ∈ db'.pools.rows, q.id ≠ p := by
  refine ⟨Nat.lt_of_lt_of_le hlt hreg.pools_next, fun q hq => ?_⟩
  rcases hreg.pool_before q hq with hold | ⟨hnext, -⟩
  · exact hgone q hold
  · intro hid
    rw [← hid, hnext] at hlt
    exact Nat.lt_irrefl _ hlt

/-- What a request has read stays true, whoever issues the statement, unless that binds a run this
request has created and not bound. -/
theorem Informed.after (hinf : Informed st h) (hexec : s.exec out env st.1 = some (b, db'))
    (hown : ∀ runID poolID, s.binds = some (runID, poolID) → Shows Stmt.launches h runID →
      ¬ Unbound h) : Informed (db', s.exitEvents b ++ st.2) h where
  runs id run hask := by
    obtain ⟨hid, hbound⟩ := hinf.runs id run hask
    exact ⟨hid, fun p hp => List.mem_append_right _ (hbound p hp)⟩
  created := hinf.created
  unbound runID hshow hu p hp := by
    rcases List.mem_append.mp hp with hnew | hold
    · exact hown runID p (mem_exitEvents_bound.mp hnew) hshow hu
    · exact hinf.unbound runID hshow hu p hold
  workers id w₀ hread := by
    have hreg := Stmt.exec_registry hexec
    obtain ⟨hlt, hrow⟩ := hinf.workers id w₀ hread
    refine ⟨Nat.lt_of_lt_of_le hlt hreg.workers_next, fun w' hw' hid => ?_⟩
    -- a worker that was read keeps its kind; its pool may have been deleted
    rcases hreg.worker_before w' hw' with ⟨w, hw, hwid, -, hkind, hpool⟩ | ⟨hnext, -⟩
    · obtain ⟨hkind₀, hpool₀⟩ := hrow w hw (hwid.symm.trans hid)
      refine ⟨hkind.trans hkind₀, ?_⟩
      rcases hpool₀ with hsame | ⟨p, hp, hltp, hgone⟩
      · rcases hpool with hpool | ⟨-, p, -, hwp, hltp, hgone⟩
        · exact .inl (hpool.trans hsame)
        · exact .inr ⟨p, hsame.symm.trans hwp, Nat.lt_of_lt_of_le hltp hreg.pools_next, hgone⟩
      · exact .inr ⟨p, hp, pool_gone hreg hltp hgone⟩
    · rw [← hid, hnext] at hlt
      exact absurd hlt (Nat.lt_irrefl _)

theorem Informed.cons (hst : Separated st) (hinf : Informed st h)
    (hexec : s.exec out env st.1 = some (b, db')) : Informed st (⟨s, some b⟩ :: h) where
  runs id run hask := by
    rcases hask with _ | ⟨_, hold⟩
    · obtain ⟨hmem, hid⟩ := Stmt.exec_getRun hexec
      exact ⟨hid, fun p hp => hst.runs _ hmem p hp⟩
    · exact hinf.runs id run hold
  created scopeID run saved := by
    rintro ⟨profile, targets, hask⟩
    rcases hask with _ | ⟨_, hold⟩
    · simp only [Stmt.exec, RunStmt.exec] at hexec
      split at hexec <;> cases hexec
      rfl
    · exact hinf.created scopeID run saved ⟨profile, targets, hold⟩
  unbound runID hshow hu p hp := by
    rcases shows_cons.mp hshow with hlaunch | hold
    · -- the key of a new run is above every key in the log
      have hlt := hst.known runID p hp
      rw [launches_eq_next hexec hlaunch] at hlt
      exact Nat.lt_irrefl _ hlt
    · exact hinf.unbound runID hold (List.forall_mem_cons.mp hu).2 p hp
  workers id w₀ hread := by
    rcases hread with _ | ⟨_, hold⟩
    · obtain ⟨hfind, -⟩ := Prod.mk.inj (Option.some.inj hexec)
      obtain ⟨hmem, hid⟩ := find?_eq_some.mp hfind
      refine ⟨hid ▸ st.1.workers.bound w₀ hmem, fun w hw hwid => ?_⟩
      rw [eq_of_key hw hmem (hwid.trans hid.symm)]
      exact ⟨rfl, .inl rfl⟩
    · exact hinf.workers id w₀ hold

theorem Informed.failed (hinf : Informed st h) : Informed st (⟨s, none⟩ :: h) where
  runs id run hask := hinf.runs id run hask.of_failed
  created scopeID run saved := by
    rintro ⟨profile, targets, hask⟩
    exact hinf.created scopeID run saved ⟨profile, targets, hask.of_failed⟩
  unbound runID hshow hu := by
    rcases shows_cons.mp hshow with hnew | hold
    · rw [s.launches_none] at hnew
      cases hnew
    · exact hinf.unbound runID hold (List.forall_mem_cons.mp hu).2
  workers id w₀ hread := hinf.workers id w₀ (Hist.Asked.of_failed hread)

end Step

/-! ### Whole runs -/

theorem exit_inductive (cfg : ControlConfig) (out : Outside) :
    System.Inductive (exitLog cfg out)
      (fun c _ _ s => KeepsLocalOut c.state s ∧ LaunchesApart Prod.fst c)
      (controlPre cfg.launch.allowPrivate) (fun _ _ => True) Separated
      fun st th => Informed st th.hist := by
  refine ⟨fun _ r _ _ => ⟨?_, controlRequest_meets cfg r⟩, ?_, fun _ hinf _ => hinf.failed⟩
  · exact ⟨fun _ _ hask => hask.of_nil, fun _ _ _ ⟨_, _, hask⟩ => hask.of_nil,
      fun _ hshow => absurd hshow not_shows_nil, fun _ _ hread => Hist.Asked.of_nil hread⟩
  · intro c i h β s k env b st' hc hth hpre ⟨hok, hapart⟩ hexec
    obtain ⟨hex, hlog⟩ := System.logged_exec _ hexec
    have hmem := List.mem_of_getElem? hth
    have hinf : Informed c.state h := hc.threads _ hmem
    have hst' : st' = (st'.1, s.exitEvents b ++ c.state.2) := by rw [← hlog]
    rw [hst']
    refine ⟨hc.state.after hinf (hapart.below _ hmem) hpre hok hex,
      (hinf.cons hc.state hex).after hex fun runID poolID hbinds _ hu => ?_,
      fun j th hji hj ha => ha.after hex fun runID poolID hbinds hshow _ => ?_⟩
    · rw [(List.forall_mem_cons.mp hu).1] at hbinds
      cases hbinds
    · -- a run has one launch, and this thread's is another
      exact hapart.apart i j _ _ (Ne.symm hji) hth hj runID (shows_of_binds hpre hbinds).1 hshow

/-- **No task of a remote run that sends traffic is leased to a local worker**, in every state that
a run of the control plane reaches, as long as the pools of remote runs hold no local worker. -/
theorem remote_run_never_local (cfg : ControlConfig) (out : Outside) {db : DB}
    {es : List (Event ControlRequest Env)} (hruns : db.runs.rows = []) (htasks : db.tasks.rows = [])
    (hdefault : ∀ p ∈ db.pools.rows, p.runScoped = true → p.isDefault = false)
    (hok : (exitLog cfg out).Along (fun c _ _ s => KeepsLocalOut c.state s) ⟨(db, []), []⟩ es) :
    RemoteOnly ((exitLog cfg out).run ⟨(db, []), []⟩ es).state := by
  have hstart : Separated (db, []) := by
    refine ⟨hdefault, nofun, nofun, fun r hr => ?_, fun t ht => ?_, nofun, nofun, nofun⟩
    · rw [hruns] at hr
      cases hr
    · rw [htasks] at ht
      cases ht
  have hboth := System.Along.and_inv (LaunchesApart.start (db, []))
    (fun c e hc _ => hc.next (OnStore.logged (controlSystem_onStore cfg out))) hok
  exact ((exit_inductive cfg out).run (.start hstart) hboth).state.remoteOnly

/-! ### A pool of both kinds -/

/-- The worker on the host itself, in some pool. -/
def localWorker (poolID : UUID) : Worker :=
  { oneWorker with id := 2, name := "local", poolID := some poolID, kind := .local }

/-- An operator's pool with a remote worker, the local worker, and an authorized address to scan. -/
def exitDB (localPool : UUID) : DB where
  pools := .ofRows
    [{ id := 1, name := "default", isDefault := true }, { id := 2, name := "exit" }] (by decide)
  workers := .ofRows [{ oneWorker with poolID := some 2 }, localWorker localPool]
    (show [1, 2].Nodup by decide)
  scopeTargets := .ofRows
    [{ id := 1, scopeID := 1, kind := .ip, value := "192.0.2.1", mode := .active,
       authorizedBy := some "owner", authorizedAt := some 0 }] (by decide)

/-- A run is launched through the operator's pool, and the workers ask for tasks: the local one
first, then the remote one. -/
def launchedRemote : List (Event ControlRequest Env) :=
  [.spawn (.start 1 { profile := .standard, all := true, exit := .remote, poolID := .id 2 })] ++
    steps 0 17 ++ [.spawn (.gateway (.dispatchTick 2))] ++ steps 1 9 ++
    [.spawn (.gateway (.dispatchTick 1))] ++ steps 2 9

/-- **The port scan of a remote run leaves from the host**: the local worker of its pool leases
it. -/
theorem remote_run_scans_from_host :
    ¬ RemoteOnly ((exitLog {} {}).run ⟨(exitDB 2, []), []⟩ launchedRemote).state := by
  intro h
  have hlocal : ∃ w ∈ ((exitLog {} {}).run
      ⟨(exitDB 2, []), []⟩ launchedRemote).state.1.workers.rows,
      w.id = 2 ∧ w.kind = .local := by decide +kernel
  obtain ⟨w, hw, hid, hkind⟩ := hlocal
  refine h ⟨1, 1, 1, .portScan, "", [{ ip := "192.0.2.1" }]⟩ 2 ?_ rfl 2 ⟨?_, ?_⟩ w hw hid hkind
  all_goals decide +kernel

/-- With the local worker in another pool the task is the remote worker's. -/
theorem remote_run_scans_remotely :
    .leased ⟨1, 1, 1, .portScan, "", [{ ip := "192.0.2.1" }]⟩ 1 ∈
        ((exitLog {} {}).run ⟨(exitDB 1, []), []⟩ launchedRemote).state.2 ∧
      RemoteOnly ((exitLog {} {}).run ⟨(exitDB 1, []), []⟩ launchedRemote).state :=
  ⟨by decide +kernel, remote_run_never_local {} {} rfl rfl (by decide) (by decide +kernel)⟩

end PinkGlasses
