import PinkGlasses.Control.Trace

/-!
# PinkGlasses.Delivery.Barred

A worker that is quarantined or revoked is **barred**: while it is, nothing it posts should be
ingested, no task's summary should change on its word, and it should neither keep a lease nor get
one back.

The gateway looks at the status when a control channel opens and before it leases. A delivery and a
heartbeat are answered on the credential alone, so a worker that is barred while it holds a task
goes on delivering for it. What does hold (`barred_worker_silent`): **if a worker is only barred
while it has nothing in hand**, no lease is given to a barred worker, and none is handed back to
one, then a barred worker stays silent in every run of the control plane.
-/

namespace PinkGlasses

open Lib Store

variable {β : Type}

/-- The statuses of a worker that must not work. -/
def WorkerStatus.barred : WorkerStatus → Bool
  | .quarantined | .revoked => true
  | _ => false

/-- The worker is quarantined or revoked. -/
def Barred (db : DB) (id : UUID) : Prop :=
  ∃ w ∈ db.workers.rows, w.id = id ∧ w.status.barred = true
deriving Decidable

/-! ### What a request does for a worker -/

/-- The worker whose row a statement was answered with. -/
def WorkerStmt.known : {β : Type} → WorkerStmt β → β → Option UUID
  | _, workerForAuth id, some _ => some id
  | _, _, _ => none

def Stmt.known : {β : Type} → Stmt β → β → Option UUID
  | _, worker s, b => s.known b
  | _, _, _ => none

/-- The request has authenticated the worker. -/
def Authenticated (h : Hist Stmt) (id : UUID) : Prop :=
  ∃ c ∈ h, ∃ b ∈ c.answer, c.stmt.known b = some id
deriving Decidable

variable {h : Hist Stmt} {id : UUID} {env : Env} {db db' : DB} {allowPrivate : Bool}
  {c : Conf Stmt DB Nat} {i : Nat}

theorem Authenticated.read (ha : Authenticated h id) : ∃ w, Read h id w := by
  obtain ⟨⟨s, r⟩, hc, b, hb, hknown⟩ := ha
  cases s with
  | worker s =>
    cases s with
    | workerForAuth id' =>
      cases b with
      | none => cases hknown
      | some w =>
        cases hknown
        have hr : r = some (some w) := hb
        subst hr
        exact ⟨w, hc⟩
    | _ => cases hknown
  | _ => cases hknown

/-- A statement on tasks that the worker must not have carried out for it: a summary written or a
lease extended by its delivery, a lease it reports kept or handed back. -/
def TaskStmt.actsFor (db : DB) (h : Hist Stmt) (id : UUID) : TaskStmt β → Prop
  | setTaskResult _ _ => Authenticated h id
  | extendLease taskID tok _ =>
    Authenticated h id ∧ ∃ t ∈ db.tasks.rows, heldUnder taskID tok t = true
  | extendLeaseForWorker taskID workerID _ => workerID = id ∧
    ∃ t ∈ db.tasks.rows, t.id = taskID ∧ t.workerID = some workerID ∧ t.status.inFlight = true
  | readoptTask taskID workerID _ _ => workerID = id ∧
    ∃ t ∈ db.tasks.rows, readoptable taskID t = true
  | _ => False

/-- The same for a statement of any table: an observation is ingested by a write to the asset
graph. -/
def Stmt.actsFor (db : DB) (h : Hist Stmt) (id : UUID) : Stmt β → Prop
  | task s => s.actsFor db h id
  | asset s => s.quiet = false ∧ Authenticated h id
  | _ => False

/-- **A barred worker is silent** in the next statement of request `i`. -/
def Silent (c : Conf Stmt DB Nat) (i : Nat) (β : Type) (s : Stmt β) : Prop :=
  ∀ w ∈ c.state.workers.rows, w.status.barred = true →
    ∀ th ∈ c.threads[i]?, ¬ s.actsFor c.state th.hist w.id

/-! ### The condition -/

/-- The worker a statement looks a task up for. -/
def TaskStmt.loadsFor : TaskStmt β → Option UUID
  | loadTask _ workerID _ => some workerID
  | _ => none

def Stmt.loadsFor : Stmt β → Option UUID
  | task s => s.loadsFor
  | _ => none

/-- The request delivers for the worker: it was shown a task the worker holds. -/
def Delivering (h : Hist Stmt) (id : UUID) : Prop :=
  ∃ c ∈ h, c.stmt.loadsFor = some id ∧ c.answer.isSome = true
deriving Decidable

/-- The worker holds no task. -/
def Idle (db : DB) (id : UUID) : Prop :=
  ∀ t ∈ db.tasks.rows, t.status.inFlight = true → t.workerID ≠ some id
deriving Decidable

/-- No lease is given to a barred worker, and none is handed back to one. -/
def TaskStmt.sparesBarred (db : DB) : TaskStmt β → Prop
  | leaseTasksWhere workerID _ _ _ _ _ _ => ¬ Barred db workerID
  | readoptTask taskID workerID _ _ =>
    Barred db workerID → ∀ t ∈ db.tasks.rows, readoptable taskID t = false
  | _ => True

/-- A worker is barred only while it holds no task and none of its deliveries is under way. -/
def WorkerStmt.barsIdle (c : Conf Stmt DB Nat) : WorkerStmt β → Prop
  | setWorkerStatus id status => status.barred = true →
    Idle c.state id ∧ ∀ th ∈ c.threads, th.prog.finished = false → ¬ Delivering th.hist id
  | _ => True

/-- The condition on a statement. -/
def BarsIdle (c : Conf Stmt DB Nat) (_ : Nat) (β : Type) : Stmt β → Prop
  | .task s => s.sparesBarred c.state
  | .worker s => s.barsIdle c
  | _ => True

/-! ### Who is barred -/

/-- The worker a statement bars. -/
def WorkerStmt.bars : WorkerStmt β → Option UUID
  | setWorkerStatus id status => if status.barred then some id else none
  | _ => none

def Stmt.bars : Stmt β → Option UUID
  | worker s => s.bars
  | _ => none

/-- Only `SetWorkerStatus` bars a worker. -/
theorem Stmt.barred_status {s : Stmt β} {w : Worker} {status : WorkerStatus}
    (h : s.workerStatus env (some w) = some status) (hst : status.barred = true) :
    w.status.barred = true ∨ s.bars = some w.id := by
  cases s with
  | worker s =>
    cases s with
    | setWorkerStatus id' status' =>
      cases h
      split at hst
      · rename_i hsel
        rw [bars, WorkerStmt.bars, if_pos hst, beq_iff_eq.mp hsel]
        exact .inr rfl
      · exact .inl hst
    | markStaleWorkers | reviveWorker | markWorkerDisconnected =>
      -- these set a status that is not barred
      cases h
      split at hst
      · cases hst
      · exact .inl hst
    | _ => cases h; exact .inl hst
  | _ => cases h; exact .inl hst

theorem Stmt.barred_before {out : Outside} {s : Stmt β} {b : β}
    (hexec : s.exec out env db = some (b, db')) (hjust : s.justified allowPrivate h)
    (hbar : Barred db' id) : Barred db id ∨ s.bars = some id := by
  obtain ⟨w', hw', rfl, hst⟩ := hbar
  rcases (Stmt.exec_registry hexec).worker_before w' hw' with
    ⟨w, hw, hid, hstatus, -⟩ | ⟨-, hstatus, -⟩
  · rw [hid]
    exact (Stmt.barred_status hstatus hst).imp_left fun hold => ⟨w, hw, rfl, hold⟩
  · -- a worker is enrolled as active or pending
    cases s with
    | worker s =>
      cases s with
      | createWorker =>
        cases hstatus
        rcases hjust with heq | heq <;> rw [heq] at hst <;> cases hst
      | _ => cases hstatus
    | _ => cases hstatus

/-- A task that is given to a barred worker would be one the condition rules out. -/
theorem TaskStmt.gives_spared {s : TaskStmt β} {t : ScanTask} (hgives : s.gives env db t = some id)
    (ht : t ∈ db.tasks.rows) (hspare : s.sparesBarred db) : ¬ Barred db id := by
  intro hbar
  cases s with
  | leaseTasksWhere =>
    simp only [gives] at hgives
    split at hgives <;> cases hgives
    exact hspare hbar
  | readoptTask =>
    simp only [gives] at hgives
    split at hgives <;> cases hgives
    rename_i hsel
    exact absurd hsel (Bool.eq_false_iff.mp (hspare hbar t ht))
  | _ => cases hgives

/-- **Barred workers are idle**: no task in flight names one. -/
def BarredIdle (db : DB) : Prop := ∀ id, Barred db id → Idle db id

theorem BarredIdle.after {out : Outside} {s : Stmt β} {b : β} (hidle : BarredIdle c.state)
    (hjust : s.justified allowPrivate h) (hok : BarsIdle c i β s)
    (hexec : s.exec out env c.state = some (b, db')) : BarredIdle db' := by
  intro id hbar t' ht' hflight hholder
  have hbefore := Stmt.barred_before hexec hjust hbar
  rcases Stmt.task_before hexec ht' with ⟨t, ht, hstep⟩ | hins
  · cases s with
    | task s =>
      have heq : t' = s.onTask env c.state t := hstep
      subst heq
      have hbar₀ : Barred c.state id := hbefore.resolve_right nofun
      rcases TaskStmt.onTask_holder hflight hholder with ⟨hf, hw⟩ | hgives
      · exact hidle id hbar₀ t ht hf hw
      · exact TaskStmt.gives_spared hgives ht hok hbar₀
    | worker s =>
      obtain ⟨worker, pool, rfl, hworker, -⟩ := hstep
      have hw : t.workerID = some id := by
        rcases hworker with hw | hw
        · rw [← hw]
          exact hholder
        · rw [hw] at hholder
          cases hholder
      rcases hbefore with hbar₀ | hbars
      · exact hidle id hbar₀ t ht hflight hw
      · -- the worker is barred by this statement, and holds nothing
        cases s with
        | setWorkerStatus id' status =>
          simp only [Stmt.bars, WorkerStmt.bars] at hbars
          split at hbars <;> cases hbars
          rename_i hst
          exact (hok hst).1 t ht hflight hw
        | _ => cases hbars
    | run s | asset s | fleet s =>
      have heq : t' = t := hstep
      subst heq
      exact hidle id (hbefore.resolve_right nofun) t' ht hflight hholder
  · cases s with
    | task s =>
      rw [TaskStmt.inserted_pending hins] at hflight
      cases hflight
    | _ => cases hins

/-- A request still under way delivers for no barred worker. -/
def Unbarred (db : DB) (th : Thread Stmt Nat) : Prop :=
  th.prog.finished = false → ∀ id, Barred db id → ¬ Delivering th.hist id

theorem not_delivering_cons {s : Stmt β} {r : Option β} (hd : ¬ Delivering h id)
    (hs : s.loadsFor = some id → r = none) : ¬ Delivering (⟨s, r⟩ :: h) id := by
  rintro ⟨c, hc, hload, hsome⟩
  rcases List.mem_cons.mp hc with rfl | hc
  · rw [hs hload] at hsome
    cases hsome
  · exact hd ⟨c, hc, hload, hsome⟩

theorem TaskStmt.loadsFor_idle {s : TaskStmt β} {r : β × DB} (hexec : s.exec env db = some r)
    (hload : s.loadsFor = some id) : ¬ Idle db id := by
  intro hidle
  cases s with
  | loadTask taskID workerID tok =>
    cases hload
    obtain ⟨info, hinfo, -⟩ := Option.map_eq_some_iff.mp hexec
    obtain ⟨t, hfind, -⟩ := Option.map_eq_some_iff.mp hinfo
    have hsel := List.find?_some hfind
    simp only [heldUnder, Bool.and_eq_true, beq_iff_eq] at hsel
    exact hidle t (List.mem_of_find?_eq_some hfind) hsel.1.2 hsel.2
  | _ => cases hload

theorem Stmt.bars_idle {s : Stmt β} (hok : BarsIdle c i β s) (hbars : s.bars = some id) :
    ∀ th ∈ c.threads, th.prog.finished = false → ¬ Delivering th.hist id := by
  cases s with
  | worker s =>
    cases s with
    | setWorkerStatus id' status =>
      simp only [bars, WorkerStmt.bars] at hbars
      split at hbars <;> cases hbars
      rename_i hst
      exact (hok hst).2
    | _ => cases hbars
  | _ => cases hbars

/-- The invariant of the control plane under the condition. -/
theorem barred_inductive (cfg : ControlConfig) (out : Outside) :
    System.Inductive (controlSystem cfg out) BarsIdle (controlPre cfg.launch.allowPrivate)
      (fun _ _ => True) BarredIdle Unbarred := by
  refine ⟨fun _ r _ _ => ⟨?_, controlRequest_meets cfg r⟩, ?_, ?_⟩
  · rintro - id - ⟨c, hc, -⟩
    cases hc
  · intro c i h β s k env b db' hc hth hpre hok hexec
    have hidle : BarredIdle c.state := hc.state
    have hbefore : ∀ id, Barred db' id → Barred c.state id ∨ s.bars = some id :=
      fun _ => Stmt.barred_before hexec hpre
    -- a request that is under way delivers for nobody who is barred now
    have hunder : ∀ th ∈ c.threads, th.prog.finished = false → ∀ id, Barred db' id →
        ¬ Delivering th.hist id := by
      intro th hmem hunfinished id hbar
      rcases hbefore id hbar with hbar₀ | hbars
      · exact hc.threads th hmem hunfinished id hbar₀
      · exact Stmt.bars_idle hok hbars th hmem hunfinished
    have hmem : (⟨h, .call s k⟩ : Thread Stmt Nat) ∈ c.threads := List.mem_of_getElem? hth
    refine ⟨hidle.after hpre hok hexec, fun _ id hbar => ?_, fun j th _ hj _ hunfinished =>
      hunder th (List.mem_of_getElem? hj) hunfinished⟩
    refine not_delivering_cons (hunder _ hmem rfl id hbar) fun hload => ?_
    cases s with
    | task s =>
      have hbar₀ : Barred c.state id := (hbefore id hbar).resolve_right nofun
      exact absurd (hidle id hbar₀) (TaskStmt.loadsFor_idle hexec hload)
    | _ => cases hload
  · intro db h β s k _ hunder _ _ id hbar
    exact not_delivering_cons (hunder rfl id hbar) fun _ => rfl

theorem silent_of_holds {s : Stmt β} {k : Option β → Prog Stmt Nat}
    (hc : System.Holds (controlPre allowPrivate) (fun _ _ => True) BarredIdle Unbarred c)
    (hth : c.threads[i]? = some ⟨h, .call s k⟩) (hok : BarsIdle c i β s) : Silent c i β s := by
  intro w hw hst th hmem hacts
  rw [hth] at hmem
  cases hmem
  have hthread : (⟨h, .call s k⟩ : Thread Stmt Nat) ∈ c.threads := List.mem_of_getElem? hth
  have hbar : Barred c.state w.id := ⟨w, hw, rfl, hst⟩
  have hidle := hc.state w.id hbar
  -- a delivery writes for the worker it was shown a task of
  have hserving : ∀ {workerID taskID tok}, Serving h workerID taskID tok →
      ¬ Authenticated h w.id := by
    rintro workerID taskID tok ⟨hreads, info, hload⟩ hauth
    obtain ⟨row, hread⟩ := hauth.read
    have hid := hreads.2 w.id row hread
    exact hc.threads _ hthread rfl w.id hbar ⟨_, hload, congrArg some hid.symm, rfl⟩
  have hjust := (hc.contract _ hthread).1
  cases s with
  | asset s =>
    obtain ⟨hwrite, hauth⟩ := hacts
    rcases hjust with hquiet | ⟨workerID, taskID, tok, hserve⟩
    · rw [hwrite] at hquiet
      cases hquiet
    · exact hserving hserve hauth
  | task s =>
    cases s with
    | setTaskResult =>
      obtain ⟨workerID, tok, -, -, hserve, -⟩ := hjust
      exact hserving hserve hacts
    | extendLease =>
      obtain ⟨workerID, hserve⟩ := hjust
      exact hserving hserve hacts.1
    | extendLeaseForWorker =>
      obtain ⟨rfl, t, ht, -, hholder, hflight⟩ := hacts
      exact hidle t ht hflight hholder
    | readoptTask =>
      obtain ⟨rfl, t, ht, hre⟩ := hacts
      exact absurd hre (Bool.eq_false_iff.mp (hok hbar t ht))
    | _ => exact hacts
  | _ => exact hacts

/-- **A barred worker is silent**, in every run of the control plane in which workers are barred
with nothing in hand and get nothing afterwards. -/
theorem barred_worker_silent (cfg : ControlConfig) (out : Outside) (db : DB)
    (es : List (Event ControlRequest Env)) (hstart : BarredIdle db)
    (hok : (controlSystem cfg out).Along BarsIdle ⟨db, []⟩ es) :
    (controlSystem cfg out).Along Silent ⟨db, []⟩ es := by
  have hinv := barred_inductive cfg out
  have hall := System.Along.and_inv (J := System.Holds (controlPre cfg.launch.allowPrivate)
    (fun _ _ => True) BarredIdle Unbarred) (System.Holds.start hstart)
    (fun c e hc hallowed => hinv.next hc hallowed) hok
  exact hall.imp fun hth ⟨hok, hholds⟩ => silent_of_holds hholds hth hok

/-! ### Evaluated schedules -/

section Decidable

variable (db : DB) (h : Hist Stmt) (id : UUID)

instance (s : TaskStmt β) : Decidable (s.actsFor db h id) := by
  induction s using TaskStmt.casesOn <;> unfold TaskStmt.actsFor <;> infer_instance

instance (s : Stmt β) : Decidable (s.actsFor db h id) := by
  induction s using Stmt.casesOn <;> unfold Stmt.actsFor <;> infer_instance

instance (c : Conf Stmt DB Nat) (i : Nat) (s : Stmt β) : Decidable (Silent c i β s) := by
  unfold Silent
  infer_instance

instance (s : TaskStmt β) : Decidable (s.sparesBarred db) := by
  induction s using TaskStmt.casesOn <;> unfold TaskStmt.sparesBarred <;> infer_instance

instance (c : Conf Stmt DB Nat) (s : WorkerStmt β) : Decidable (s.barsIdle c) := by
  induction s using WorkerStmt.casesOn <;> unfold WorkerStmt.barsIdle <;> infer_instance

instance (c : Conf Stmt DB Nat) (i : Nat) (s : Stmt β) : Decidable (BarsIdle c i β s) := by
  induction s using Stmt.casesOn <;> unfold BarsIdle <;> infer_instance

end Decidable

/-- The worker reports an open port of an address. -/
def portReport (ip : String) : ControlRequest :=
  .gateway (.results {
    workerID := some 1, credential := "secret"
    body := some { taskID := some 1, leaseToken := some 1
                   observations := [{ type := .service, ip := ip, port := 22 }] } })

/-- The worker first reports a port of an address that is not its task's, and is **quarantined for
it**; then one that is. -/
def reportsAgain : List (Event ControlRequest Env) :=
  .spawn (portReport "203.0.113.9") :: steps 0 3 ++ .spawn (portReport "192.0.2.1") :: steps 1 9

/-- The quarantined worker's second report is accepted and ingested, the task's summary is written
and its lease extended. -/
theorem quarantined_worker_heard :
    ((controlSystem {} {}).run ⟨leasedTaskDB, []⟩ reportsAgain).state.workers.rows.map (·.status) =
      [.quarantined] ∧
    ((controlSystem {} {}).run ⟨leasedTaskDB, []⟩ reportsAgain).threads.map (·.prog.result) =
      [some 403, some 200] ∧
    ((controlSystem {} {}).run ⟨leasedTaskDB, []⟩ reportsAgain).state.ipAddresses.rows.map
      (·.addr) = ["192.0.2.1"] ∧
    ¬ (controlSystem {} {}).Along Silent ⟨leasedTaskDB, []⟩ reportsAgain := by
  decide +kernel

/-- A worker that holds nothing is quarantined, and then reports all the same. -/
def reportsQuarantined : List (Event ControlRequest Env) :=
  .spawn (.setWorkerStatus 1 .quarantined) :: steps 0 1 ++
    .spawn (portReport "192.0.2.1") :: steps 1 9

theorem quarantined_worker_unheard :
    (BarredIdle oneTaskDB ∧ (controlSystem {} {}).Along BarsIdle
      ⟨oneTaskDB, []⟩ reportsQuarantined) ∧
    (controlSystem {} {}).Along Silent ⟨oneTaskDB, []⟩ reportsQuarantined := by
  suffices h : _ ∧ _ from ⟨h, barred_worker_silent {} {} oneTaskDB reportsQuarantined h.1 h.2⟩
  refine ⟨?_, by decide +kernel⟩
  intro id _ t ht hflight
  rw [List.mem_singleton.mp ht] at hflight
  cases hflight

end PinkGlasses
