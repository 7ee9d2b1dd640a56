import PinkGlasses.GatewayTrace

/-!
# PinkGlasses.Lease.Slots

How many tasks a worker holds. A worker has `max_concurrency` slots, and should never hold more
tasks than it had slots when it was last leased one; the log kept beside the database here says how
many that was.

A tick leases as many tasks as the row it read has free slots: `max_concurrency - running_tasks`.
**Nothing ever writes `running_tasks`**, so every tick takes the worker for idle, and two ticks
lease twice the slots. The bound holds (`held_within_slots`) as far as the counter is right where it
is used: at each lease the row the tick read counts every task the worker holds by then, apart from
those of the tick itself.
-/

namespace PinkGlasses

open Lib Store

variable {β : Type}

/-! ### The tasks a worker holds -/

/-- The worker holds the task. -/
def heldBy (id : UUID) (t : ScanTask) : Bool := t.status.inFlight && t.workerID == some id

/-- How many tasks a worker holds. -/
def held (db : DB) (id : UUID) : Nat := db.tasks.rows.countP (heldBy id)

theorem countP_le_add {α : Type} {p q r : α → Bool} {xs : List α}
    (h : ∀ x ∈ xs, p x = true → q x = true ∨ r x = true) :
    xs.countP p ≤ xs.countP q + xs.countP r := by
  induction xs with
  | nil => simp
  | cons x xs ih =>
    have hrest := ih fun y hy => h y (List.mem_cons_of_mem _ hy)
    have hx := h x List.mem_cons_self
    simp only [List.countP_cons]
    by_cases hp : p x = true
    · rcases hx hp with hq | hr
      · simp only [hp, hq, if_true]
        omega
      · simp only [hp, hr, if_true]
        omega
    · rw [if_neg hp]
      omega

variable {env : Env} {db db' : DB}

/-- How many tasks of one sort a worker holds. -/
def heldOf (q : ScanTask → Bool) (db : DB) (id : UUID) : Nat :=
  db.tasks.rows.countP fun t => heldBy id t && q t

theorem heldOf_any (db : DB) (id : UUID) : heldOf (fun _ => true) db id = held db id := by
  simp only [heldOf, held, Bool.and_true]

/-- How many rows of one sort a statement gives a worker. -/
def TaskStmt.given (env : Env) (db : DB) (q : ScanTask → Bool) (id : UUID) (s : TaskStmt β) : Nat :=
  db.tasks.rows.countP fun t => s.gives env db t == some id && q t

section Given

variable {q : ScanTask → Bool} (hq : ∀ {t t' : ScanTask}, t.stage = t'.stage → q t = q t')
  {workerID : UUID} {caps : List String} {poolID : Option UUID}
  {limit secs : Int} {only : StageFilter} {perCompany : Int}

include hq in
/-- A statement on tasks adds at most the rows it gives the worker, where the sort of a task is that
of its stage. -/
theorem TaskStmt.heldOf_after {s : TaskStmt β} {b : β} (h : s.exec env db = some (b, db'))
    (id : UUID) : heldOf q db' id ≤ heldOf q db id + s.given env db q id := by
  have hnew : ((s.inserted db).countP fun t => heldBy id t && q t) = 0 := by
    rw [List.countP_eq_zero]
    intro t ht
    simp [heldBy, inserted_pending ht]
  rw [heldOf, exec_tasks h, List.countP_append, hnew, Nat.add_zero, List.countP_map]
  refine countP_le_add fun t _ hheld => ?_
  simp only [Function.comp_apply, hq (onTask_fixed env db s t).2.2.1, heldBy, Bool.and_eq_true,
    beq_iff_eq] at hheld ⊢
  obtain ⟨⟨hflight, hholder⟩, hsort⟩ := hheld
  rcases onTask_holder hflight hholder with hold | hgiven
  · exact .inl ⟨hold, hsort⟩
  · exact .inr ⟨hgiven, hsort⟩

theorem TaskStmt.given_eq_zero {s : TaskStmt β} {id : UUID}
    (h : ∀ t ∈ db.tasks.rows, q t = true → s.gives env db t ≠ some id) :
    s.given env db q id = 0 :=
  List.countP_eq_zero.mpr fun t ht hgives =>
    have ⟨hto, hsort⟩ := Bool.and_eq_true_iff.mp hgives
    h t ht hsort (beq_iff_eq.mp hto)

theorem TaskStmt.gives_lease {t : ScanTask} {id : UUID}
    (h : (leaseTasksWhere workerID caps poolID limit secs only perCompany).gives env db t =
      some id) :
    id = workerID ∧ t.id ∈ leaseChoice db env caps poolID limit only perCompany := by
  simp only [gives] at h
  split at h <;> cases h
  exact ⟨rfl, List.contains_iff_mem.mp ‹_›⟩

theorem TaskStmt.gives_readopt {t : ScanTask} {taskID tok id : UUID}
    (h : (readoptTask taskID workerID tok secs).gives env db t = some id) :
    id = workerID ∧ readoptable taskID t = true := by
  simp only [gives] at h
  split at h <;> cases h
  exact ⟨rfl, ‹_›⟩

theorem TaskStmt.given_lease_le (id : UUID) :
    (leaseTasksWhere workerID caps poolID limit secs only perCompany).given env db q id ≤
      limit.toNat := by
  let chosen := leaseChoice db env caps poolID limit only perCompany
  have hchosen : chosen.length ≤ limit.toNat := by
    simp only [chosen, leaseChoice, List.length_map, List.length_take]
    omega
  refine le_trans (List.countP_mono_left fun t _ ht => ?_)
    (le_trans (db.tasks.countP_contains_le chosen) hchosen)
  exact List.contains_iff_mem.mpr
    (gives_lease (beq_iff_eq.mp (Bool.and_eq_true_iff.mp ht).1)).2

include hq in
/-- A re-adoption gives one row, so a bound is kept where its worker is below it. -/
theorem TaskStmt.readopt_within {taskID tok : UUID} {b : Bool} {bound : UUID → Int}
    (h : (readoptTask taskID workerID tok secs).exec env db = some (b, db'))
    (hin : ∀ id, (heldOf q db id : Int) ≤ bound id)
    (hroom : (∃ t ∈ db.tasks.rows, readoptable taskID t = true ∧ q t = true) →
      (heldOf q db workerID : Int) < bound workerID) (id : UUID) :
    (heldOf q db' id : Int) ≤ bound id := by
  have hbound := hin id
  have hcount := heldOf_after hq h id
  by_cases hgiven : ∃ t ∈ db.tasks.rows, q t = true ∧
      (readoptTask taskID workerID tok secs).gives env db t = some id
  · obtain ⟨t, ht, hsort, hgives⟩ := hgiven
    obtain ⟨rfl, hsel⟩ := gives_readopt hgives
    have hone : (readoptTask taskID id tok secs).given env db q id ≤ 1 := by
      refine le_trans (List.countP_mono_left fun t _ ht => ?_)
        (db.tasks.countP_contains_le [taskID])
      have hsel := (gives_readopt (beq_iff_eq.mp (Bool.and_eq_true_iff.mp ht).1)).2
      simp only [readoptable, Bool.and_eq_true] at hsel
      simp only [List.contains_cons, List.contains_nil, Bool.or_false]
      exact hsel.1.1.1
    have hbelow := hroom ⟨t, ht, hsel, hsort⟩
    omega
  · rw [given_eq_zero fun t ht hsort hgives => hgiven ⟨t, ht, hsort, hgives⟩] at hcount
    omega

include hq in
/-- A statement that gives nobody a task adds nothing to what a worker holds. -/
theorem Stmt.heldOf_le {out : Outside} {s : Stmt β} {b : β} (h : s.exec out env db = some (b, db'))
    (hs : ∀ s', s = .task s' → ∀ t, s'.gives env db t = none) (id : UUID) :
    heldOf q db' id ≤ heldOf q db id := by
  cases s with
  | task s =>
    have hcount := TaskStmt.heldOf_after hq h id
    rwa [TaskStmt.given_eq_zero fun t _ _ => by simp [hs s rfl t]] at hcount
  | _ =>
    obtain ⟨g, hrows, hg⟩ := exec_tasks h
    rw [heldOf, hrows.trans (List.append_nil _), List.countP_map]
    refine List.countP_mono_left fun t _ hheld => ?_
    rcases (hg t).moved with ⟨_, habs, -⟩ | ⟨worker, pool, heq, hworker, -⟩
    · cases habs
    -- a row deleted under a task leaves it nobody's
    simp only [Function.comp_apply, heq, heldBy, Bool.and_eq_true, beq_iff_eq] at hheld ⊢
    rcases hworker with rfl | rfl
    · refine ⟨hheld.1, Eq.trans ?_ hheld.2⟩
      exact hq rfl
    · cases hheld.1.2

end Given

/-! ### The log of leases -/

/-- A worker was leased something while it had so many slots. -/
structure Leasing where
  workerID : UUID
  slots : Int
deriving Repr, DecidableEq

/-- What a statement adds to the log: a lease that gave something, with the slots the worker's row
has then. -/
def TaskStmt.leasing (db : DB) : {β : Type} → TaskStmt β → β → List Leasing
  | _, leaseTasksWhere workerID _ _ _ _ _ _, _ :: _ =>
    match db.workers.find? workerID with
    | some w => [⟨workerID, w.maxConcurrency⟩]
    | none => []
  | _, _, _ => []

def Stmt.leasing : {β : Type} → Stmt β → DB → β → List Leasing
  | _, task s, db, b => s.leasing db b
  | _, _, _, _ => []

/-- The gateway with the log of the slots leases were given for. -/
def slotLog (cfg : GatewayConfig) (out : Outside) :
    System Stmt (DB × List Leasing) Env GatewayRequest Nat :=
  (gatewaySystem cfg out).recorded Stmt.leasing

/-- The slots a worker had at its last lease; none before the first. -/
def slotsOf (log : List Leasing) (id : UUID) : Int :=
  match log.find? (·.workerID == id) with
  | some l => l.slots
  | none => 0

/-- **No worker holds more tasks than it had slots at its last lease.** -/
def WithinSlots (st : DB × List Leasing) : Prop := ∀ id, (held st.1 id : Int) ≤ slotsOf st.2 id

/-! ### The condition -/

/-- The row of the worker a statement was answered with. -/
def WorkerStmt.rowRead : {β : Type} → WorkerStmt β → β → Option (UUID × Worker)
  | _, workerForAuth id, some w => some (id, w)
  | _, _, _ => none

def Stmt.rowRead : {β : Type} → Stmt β → β → Option (UUID × Worker)
  | _, worker s, b => s.rowRead b
  | _, _, _ => none

/-- The rows of workers a request has read. -/
def rowsRead (h : Hist Stmt) : List (UUID × Worker) :=
  h.filterMap fun c => c.answer.bind c.stmt.rowRead

theorem mem_rowsRead {h : Hist Stmt} {id : UUID} {w : Worker} (hread : Read h id w) :
    (id, w) ∈ rowsRead h :=
  List.mem_filterMap.mpr ⟨_, hread, rfl⟩

/-- At a lease the row the tick read counts what the worker holds, apart from the tick's own leases,
and has no more slots than the row has now; a task is handed back only to a worker below its
bound. -/
def TaskStmt.counted (st : DB × List Leasing) (h : Hist Stmt) : TaskStmt β → Prop
  | leaseTasksWhere workerID _ _ _ _ _ _ => ∀ x ∈ rowsRead h, x.1 = workerID →
      (held st.1 workerID : Int) ≤ x.2.runningTasks + leasedBy h ∧
      ∀ w ∈ st.1.workers.find? workerID, x.2.maxConcurrency ≤ w.maxConcurrency
  | readoptTask taskID workerID _ _ => (∃ t ∈ st.1.tasks.rows, readoptable taskID t = true) →
      (held st.1 workerID : Int) < slotsOf st.2 workerID
  | _ => True

/-- The condition on a statement of request `i`. -/
def Counted (c : Conf Stmt (DB × List Leasing) Nat) (i : Nat) (β : Type) : Stmt β → Prop
  | .task s => ∀ th ∈ c.threads[i]?, s.counted c.state th.hist
  | _ => True

/-! ### The invariant -/

section Invariant

variable {env : Env} {st : DB × List Leasing} {db' : DB} {h : Hist Stmt}

/-- A lease: the slots in the log are the ones the limit was taken from. -/
theorem WithinSlots.after_lease {workerID : UUID} {caps : List String} {poolID : Option UUID}
    {limit secs : Int} {only : StageFilter} {perCompany : Int} {jobs : List Job}
    (hin : WithinSlots st)
    (hpre : (TaskStmt.leaseTasksWhere workerID caps poolID limit secs only perCompany).gatewayPre h)
    (hok : (TaskStmt.leaseTasksWhere workerID caps poolID limit secs only perCompany).counted st h)
    (hexec : (TaskStmt.leaseTasksWhere workerID caps poolID limit secs only perCompany).exec env
      st.1 = some (jobs, db')) :
    WithinSlots (db', TaskStmt.leasing st.1
      (.leaseTasksWhere workerID caps poolID limit secs only perCompany) jobs ++ st.2) := by
  intro id
  have hcount := TaskStmt.heldOf_after (q := fun _ => true) (fun _ => rfl) hexec id
  simp only [heldOf_any] at hcount
  have hbound := hin id
  by_cases hid : id = workerID
  · subst hid
    cases jobs with
    | nil =>
      -- no job, so no row was chosen
      rw [TaskStmt.given_eq_zero fun t ht _ hgives => List.not_mem_nil
        ((TaskStmt.mem_lease_jobs hexec).mpr
          ⟨t, ht, (TaskStmt.gives_lease hgives).2, rfl⟩)] at hcount
      simp only [TaskStmt.leasing, List.nil_append]
      omega
    | cons job jobs =>
      obtain ⟨t, ht, hsel, -⟩ := (TaskStmt.mem_lease_jobs hexec).mp (List.mem_cons_self (a := job))
      obtain ⟨w, hw⟩ := TaskStmt.lease_worker hexec hsel
      have hlimit : 0 < limit.toNat := by
        have hlen := List.length_pos_of_mem hsel
        simp only [leaseChoice, List.length_map, List.length_take] at hlen
        omega
      obtain ⟨⟨w₀, hread, -, -, -, hfree⟩, -⟩ := hpre
      obtain ⟨hcounted, hslots⟩ := hok _ (mem_rowsRead hread) rfl
      have hmax := hslots w hw
      have hgiven := le_trans hcount (Nat.add_le_add_left (TaskStmt.given_lease_le id) _)
      simp only [TaskStmt.leasing, hw, List.singleton_append, slotsOf, List.find?_cons,
        beq_self_eq_true]
      simp only at hcounted hmax
      omega
  · -- the lease is another worker's
    rw [TaskStmt.given_eq_zero fun t _ _ hgives => hid (TaskStmt.gives_lease hgives).1] at hcount
    have hsame : slotsOf (TaskStmt.leasing st.1
        (.leaseTasksWhere workerID caps poolID limit secs only perCompany) jobs ++ st.2) id =
        slotsOf st.2 id := by
      have hne : (workerID == id) = false := beq_eq_false_iff_ne.mpr (Ne.symm hid)
      cases jobs with
      | nil => rfl
      | cons job jobs =>
        cases hw : st.1.workers.find? workerID with
        | none => simp only [TaskStmt.leasing, hw, List.nil_append]
        | some w =>
          simp only [TaskStmt.leasing, hw, List.singleton_append, slotsOf, List.find?_cons, hne]
    rw [hsame]
    simp only
    omega

theorem WithinSlots.after {out : Outside} {s : Stmt β} {b : β} (hin : WithinSlots st)
    (hpre : s.gatewayPre h) (hok : ∀ s', s = .task s' → s'.counted st h)
    (hexec : s.exec out env st.1 = some (b, db')) :
    WithinSlots (db', s.leasing st.1 b ++ st.2) := by
  -- the other statements give nobody a task
  have hother : (∀ s', s = .task s' → ∀ t, s'.gives env st.1 t = none) →
      WithinSlots (db', st.2) := by
    intro hnone id
    have hle := Stmt.heldOf_le (q := fun _ => true) (fun _ => rfl) hexec hnone id
    simp only [heldOf_any] at hle
    exact le_trans (Int.ofNat_le.mpr hle) (hin id)
  cases s with
  | task s =>
    have hcounted := hok s rfl
    have hex : s.exec env st.1 = some (b, db') := hexec
    cases s with
    | leaseTasksWhere => exact hin.after_lease hpre hcounted hex
    | readoptTask =>
      simp only [WithinSlots, TaskStmt.counted, ← heldOf_any] at hin hcounted ⊢
      exact TaskStmt.readopt_within (fun _ => rfl) hex hin fun ⟨t, ht, hsel, _⟩ =>
        hcounted ⟨t, ht, hsel⟩
    | _ =>
      refine hother ?_
      rintro _ ⟨⟩ _
      rfl
  | _ => exact hother nofun

end Invariant

/-- The invariant of the gateway under the condition. -/
theorem slots_inductive (cfg : GatewayConfig) (out : Outside) :
    System.Inductive (slotLog cfg out) Counted gatewayContract (fun _ _ => True) WithinSlots
      fun _ _ => True := by
  refine ⟨fun _ r _ _ => ⟨trivial, gatewayRequest_meets cfg r⟩, ?_, fun _ _ _ => trivial⟩
  intro c i h β s k env b st' hc hth hpre hok hexec
  obtain ⟨hex, hlog⟩ := System.recorded_exec (gatewaySystem cfg out) hexec
  have hcounted : ∀ s', s = .task s' → s'.counted c.state h := by
    rintro s' rfl
    exact hok _ hth
  have hafter := hc.state.after hpre hcounted hex
  rw [← hlog] at hafter
  exact ⟨hafter, trivial, fun _ _ _ _ _ => trivial⟩

/-- **The slots of a worker bound what it holds**, in every state of every run of the gateway's
requests in which the rows that leases go by are counted right. -/
theorem held_within_slots (cfg : GatewayConfig) (out : Outside) (db : DB)
    (es : List (Event GatewayRequest Env))
    (hstart : ∀ t ∈ db.tasks.rows, t.status.inFlight = false)
    (hok : (slotLog cfg out).Along Counted ⟨(db, []), []⟩ es) :
    WithinSlots ((slotLog cfg out).run ⟨(db, []), []⟩ es).state := by
  have hnone : WithinSlots (db, []) := by
    intro id
    have hzero : held db id = 0 := List.countP_eq_zero.mpr fun t ht => by
      simp [heldBy, hstart t ht]
    rw [hzero]
    rfl
  exact ((slots_inductive cfg out).run (System.Holds.start hnone) hok).state

/-! ### Two ticks -/

instance (st : DB × List Leasing) (h : Hist Stmt) (s : TaskStmt β) :
    Decidable (s.counted st h) := by
  induction s using TaskStmt.casesOn <;> unfold TaskStmt.counted <;> infer_instance

instance (c : Conf Stmt (DB × List Leasing) Nat) (i : Nat) (s : Stmt β) :
    Decidable (Counted c i β s) := by
  induction s using Stmt.casesOn <;> unfold Counted <;> infer_instance

/-- The small installation with a worker of one slot and two tasks. -/
def twoTaskDB : DB :=
  { oneTaskDB with
    workers := .ofRows [{ oneWorker with maxConcurrency := 1 }] (by decide)
    tasks := .ofRows [oneTask, { oneTask with id := 2, target := { ip := "192.0.2.2" } }]
      (by decide) }

/-- One tick of the worker's channel, and another. -/
def twoTicks : List (Event GatewayRequest Env) :=
  .spawn (.dispatchTick 1) :: steps 0 5 ++ .spawn (.dispatchTick 1) :: steps 1 5

/-- The second tick leases another task to the worker, which has its one slot taken. -/
theorem two_ticks_overbook :
    held ((slotLog {} {}).run ⟨(twoTaskDB, []), []⟩ twoTicks).state.1 1 = 2 ∧
    slotsOf ((slotLog {} {}).run ⟨(twoTaskDB, []), []⟩ twoTicks).state.2 1 = 1 ∧
    ¬ WithinSlots ((slotLog {} {}).run ⟨(twoTaskDB, []), []⟩ twoTicks).state := by
  have hheld : held ((slotLog {} {}).run ⟨(twoTaskDB, []), []⟩ twoTicks).state.1 1 = 2 := by
    decide +kernel
  have hslots : slotsOf ((slotLog {} {}).run ⟨(twoTaskDB, []), []⟩ twoTicks).state.2 1 = 1 := by
    decide +kernel
  refine ⟨hheld, hslots, fun hin => ?_⟩
  have hbound := hin 1
  rw [hheld, hslots] at hbound
  exact absurd hbound (by decide)

/-- The first tick alone: the worker was idle when its row was read. -/
theorem one_tick_within :
    ((∀ t ∈ twoTaskDB.tasks.rows, t.status.inFlight = false) ∧
      (slotLog {} {}).Along Counted ⟨(twoTaskDB, []), []⟩
        (.spawn (.dispatchTick 1) :: steps 0 5)) ∧
    WithinSlots ((slotLog {} {}).run ⟨(twoTaskDB, []), []⟩
      (.spawn (.dispatchTick 1) :: steps 0 5)).state := by
  suffices h : _ ∧ _ from ⟨h, held_within_slots {} {} twoTaskDB _ h.1 h.2⟩
  exact ⟨by decide +kernel, by decide +kernel⟩

end PinkGlasses
