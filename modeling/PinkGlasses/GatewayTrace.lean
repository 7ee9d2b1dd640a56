import PinkGlasses.GatewaySystem

/-!
# PinkGlasses.GatewayTrace

What the gateway's programs may issue, whatever the answers. A lease is asked for with the pool and
the capabilities of a worker row **the same request has read**, for no more tasks than that row had
slots. A delivery writes only after its task was loaded **for the worker it authenticated**, and
the summary it writes is one it has read, with something merged into it; if it is answered 200, that
is the summary of its batch. Apart from tasks, a worker's status and the asset graph nothing is
written.
-/

namespace PinkGlasses

open Lib Gateway Ingest

variable {β : Type}

/-! ### Which statements a request issues

By kind of request, whatever the answers. A statement's class is a Boolean, so that what follows
from being in it is one case analysis. -/

/-- The statements that leave a worker's being there alone. -/
def WorkerStmt.minor : WorkerStmt β → Bool
  | workerForAuth _ | touchWorker _ | setWorkerConcurrency _ _ => true
  | setWorkerStatus _ status => status == .quarantined
  | _ => false

def Stmt.minor : Stmt β → Bool
  | worker s => s.minor
  | _ => true

/-- The statements of a worker's heartbeat. -/
def TaskStmt.beats (id : UUID) : TaskStmt β → Bool
  | releaseWorkerLeases w | extendLeaseForWorker _ w _ | readoptTask _ w _ _ => w == id
  | _ => false

def WorkerStmt.beats (id : UUID) : WorkerStmt β → Bool
  | touchWorker w | setWorkerConcurrency w _ | markWorkerDisconnected w => w == id
  | _ => false

def Stmt.beats (id : UUID) : Stmt β → Bool
  | task s => s.beats id
  | worker s => s.beats id
  | _ => false

section Issued

open Prog

variable (cfg : GatewayConfig)

theorem heartbeat_beats (workerID : UUID) (hb : Heartbeat) :
    Uses (fun _ s => s.beats workerID = true) (heartbeat cfg workerID hb) := by
  have hself : (workerID == workerID) = true := beq_self_eq_true _
  have hkeep : ∀ ls, Uses (fun _ s => s.beats workerID = true)
      (keepLeases cfg workerID ls) := by
    intro ls
    -- a lease is extended, and set running if it still holds
    induction ls with
    | nil => trivial
    | cons l ls ih =>
      refine Uses.bind ?_ fun _ => ih
      unfold keepLease
      split
      · trivial
      · refine Uses.bind (uses_issue hself) fun r => ?_
        split
        · split
          · trivial
          · exact Uses.bind (uses_issue hself) fun _ => trivial
        · trivial
  unfold heartbeat
  split
  · exact Uses.bind (uses_issue hself) fun _ => Uses.bind (uses_issue hself) fun _ => trivial
  · refine Uses.bind (uses_issue hself) fun _ => ?_
    split
    · exact Uses.bind (uses_issue hself) fun _ => hkeep _
    · exact hkeep _

end Issued

/-! ### What a request has done -/

/-- A worker row a program has read. -/
def Read (h : Hist Stmt) (id : UUID) (w : Worker) : Prop :=
  (⟨.worker (.workerForAuth id), some (some w)⟩ : Call Stmt) ∈ h

/-- The jobs a statement was answered with. -/
def TaskStmt.jobs : {β : Type} → TaskStmt β → β → List Job
  | _, leaseTasksWhere _ _ _ _ _ _ _, jobs => jobs
  | _, _, _ => []

def Stmt.jobs : {β : Type} → Stmt β → β → List Job
  | _, task s, b => s.jobs b
  | _, _, _ => []

/-- How many jobs the request has leased. -/
def leasedBy (h : Hist Stmt) : Nat :=
  (h.map fun c => match c.answer with | some b => (c.stmt.jobs b).length | none => 0).sum

/-- The request has read the worker's row, and no other worker's. -/
def ReadsOnly (workerID : UUID) (h : Hist Stmt) : Prop :=
  (∃ w, Read h workerID w) ∧ ∀ id w, Read h id w → id = workerID

/-- The request delivers for the one worker whose row it has read to authenticate it: the task was
loaded as held by that worker. -/
def Serving (h : Hist Stmt) (workerID taskID tok : UUID) : Prop :=
  ReadsOnly workerID h ∧ ∃ info, h.Asked (.task (.loadTask taskID workerID tok)) (some info)

/-- The request has written no summary. -/
def Unsaved (h : Hist Stmt) : Prop := ∀ c ∈ h, c.stmt.stored = none

/-- The request has read the task's summary, and asked for it with `add` merged in to be written. -/
def Merges (h : Hist Stmt) (taskID : UUID) (add : StageSummary) : Prop :=
  ∃ raw r, h.Asked (.task (.taskResult taskID)) raw ∧
    h.Asked (.task (.setTaskResult taskID (mergeSummary (decode (raw.getD none)) add))) r

/-- A request that was answered 200 has merged its batch. -/
def summaryPost (h : Hist Stmt) (x : GatewayRequest × Nat) : Prop :=
  ∀ req res, x = (.results req, 200) → req.body = some res →
    ∀ taskID, res.taskID = some taskID → Merges h taskID (summarize res.observations)

/-! ### The contract -/

/-- Why the gateway issues a statement on tasks. Nothing is planned, and no task's origins are
asked for. Brute-force tasks are leased by themselves, within a room the request has read; a summary
is read before one is written, and a request that writes one twice writes the same. -/
def TaskStmt.gatewayPre (h : Hist Stmt) : TaskStmt β → Prop
  | insertTasks _ _ | originsForTask _ => False
  | leaseTasksWhere workerID caps poolID limit _ only _ =>
    (∃ w, Read h workerID w ∧ w.capabilities = caps ∧ w.poolID = poolID ∧ w.status = .active ∧
      limit + leasedBy h ≤ w.maxConcurrency - w.runningTasks) ∧ only ≠ .anyStage ∧
    (only = .onlyBrute →
      ∃ cap room, h.Asked (.task (.bruteRoom workerID cap)) (some room) ∧ limit ≤ room)
  | taskResult _ => Unsaved h
  | extendLease taskID tok _ => ∃ workerID, Serving h workerID taskID tok
  | setTaskResult taskID sum => ∃ workerID tok raw add, Serving h workerID taskID tok ∧
      h.Asked (.task (.taskResult taskID)) raw ∧
      sum = mergeSummary (decode (raw.getD none)) add ∧
      ∀ c ∈ h, ∀ x ∈ c.stmt.stored, x = (taskID, sum)
  | _ => True

/-- The same for a statement of any table; the registry of workers is not edited, and of the other
tables only the asset graph is written. -/
def Stmt.gatewayPre (h : Hist Stmt) : Stmt β → Prop
  | task s => s.gatewayPre h
  | worker s => s.presence = true
  | run s => s.quiet = true
  | asset _ => ∃ workerID taskID tok, Serving h workerID taskID tok
  | fleet _ => False

/-- The contract of every request to the gateway. -/
abbrev gatewayContract (h : Hist Stmt) (β : Type) (s : Stmt β) : Prop := s.gatewayPre h

/-- That of a delivery and of a tick of the dispatch loop: no channel is opened or closed. -/
abbrev minorContract (h : Hist Stmt) (β : Type) (s : Stmt β) : Prop :=
  s.gatewayPre h ∧ s.minor = true

/-- The statement reads a worker's row. -/
def WorkerStmt.authenticates : WorkerStmt β → Bool
  | workerForAuth _ => true
  | _ => false

def Stmt.authenticates : Stmt β → Bool
  | worker s => s.authenticates
  | _ => false

theorem ReadsOnly.cons {workerID : UUID} {h : Hist Stmt} {s : Stmt β} (hr : ReadsOnly workerID h)
    (hs : s.authenticates = false) (r : Option β) : ReadsOnly workerID (⟨s, r⟩ :: h) := by
  obtain ⟨⟨row, hrow⟩, honly⟩ := hr
  refine ⟨⟨row, List.mem_cons_of_mem _ hrow⟩, fun id w hread => ?_⟩
  rcases hread with _ | ⟨_, hread⟩
  · cases hs
  · exact honly id w hread

theorem Serving.cons {workerID taskID tok : UUID} {h : Hist Stmt} {s : Stmt β}
    (hserve : Serving h workerID taskID tok) (hs : s.authenticates = false) (r : Option β) :
    Serving (⟨s, r⟩ :: h) workerID taskID tok := by
  obtain ⟨hreads, info, hload⟩ := hserve
  exact ⟨hreads.cons hs r, info, List.mem_cons_of_mem _ hload⟩

theorem Unsaved.cons {h : Hist Stmt} {s : Stmt β} (hu : Unsaved h) (hs : s.stored = none)
    (r : Option β) : Unsaved (⟨s, r⟩ :: h) :=
  List.forall_mem_cons.mpr ⟨hs, hu⟩

section Programs

open Prog

variable (cfg : GatewayConfig)

/-- What any program may issue. -/
def Free (β : Type) (s : Stmt β) : Prop := ∀ h, s.gatewayPre h

theorem meets_of_free {α : Type} {p : Prog Stmt α} (hp : Uses Free p) (h : Hist Stmt) :
    Meets gatewayContract h p fun _ _ => True :=
  hp.keeps fun h _ _ hf => hf h

/-! ### Deliveries -/

theorem authWorker_meets (workerID : Option UUID) (credential : String) :
    Meets minorContract [] (authWorker cfg workerID credential) fun h' auth =>
      ∀ id w, auth = some (id, w) → ReadsOnly id h' ∧ Unsaved h' := by
  have hnil : Unsaved [] := List.forall_mem_nil _
  cases workerID with
  | none => exact fun _ _ hauth => nomatch hauth
  | some id =>
    refine ⟨⟨rfl, rfl⟩, fun r id' w hauth => ⟨?_, hnil.cons rfl r⟩⟩
    match r with
    | some (some row) =>
      dsimp only at hauth
      split at hauth <;> cases hauth
      refine ⟨⟨w, List.mem_cons_self⟩, fun id w' hread => ?_⟩
      rcases hread with _ | ⟨_, hread⟩
      · rfl
      · exact absurd hread List.not_mem_nil
    | some none | none => cases hauth

variable {h : Hist Stmt} {workerID taskID tok : UUID}

theorem heldTask_meets (hreads : ReadsOnly workerID h) (hu : Unsaved h) :
    Meets minorContract h (heldTask cfg taskID workerID tok) fun h' task =>
      ∀ t, task = some t → Serving h' workerID taskID tok ∧ Unsaved h' := by
  refine ⟨⟨trivial, rfl⟩, fun r => ?_⟩
  have hreads₁ := hreads.cons (s := .task (.loadTask taskID workerID tok)) rfl r
  have hu₁ := hu.cons (s := .task (.loadTask taskID workerID tok)) rfl r
  cases r with
  | some t => exact fun _ _ => ⟨⟨hreads₁, t, Hist.asked_head ..⟩, hu₁⟩
  | none =>
    refine ⟨⟨trivial, rfl⟩, fun r => ?_⟩
    have hreads₂ := hreads₁.cons (s := .task (.readoptTask taskID workerID tok cfg.leaseTTL)) rfl r
    have hu₂ := hu₁.cons (s := .task (.readoptTask taskID workerID tok cfg.leaseTTL)) rfl r
    match r with
    | some true =>
      refine ⟨⟨trivial, rfl⟩, fun r t ht => ⟨⟨hreads₂.cons rfl r, t, ?_⟩, hu₂.cons rfl r⟩⟩
      rw [ht]
      exact Hist.asked_head ..
    | some false | none => exact fun _ ht => nomatch ht

/-- What ingest issues is on the asset graph, or reads the run, and it returns the batch's
summary. -/
theorem process_meets (now : Time) (runID : UUID) (obs : List Observation)
    (hserve : Serving h workerID taskID tok) (hu : Unsaved h) :
    Meets minorContract h (process now runID obs).run fun h' r =>
      (Serving h' workerID taskID tok ∧ Unsaved h') ∧ ∀ sum, r = .ok sum → sum = summarize obs := by
  have huses : Uses (fun _ s => (s.authenticates = false ∧ s.stored = none) ∧
      ∀ h, Serving h workerID taskID tok → s.gatewayPre h ∧ s.minor = true)
      (process now runID obs).run :=
    process_uses (fun _ s => ⟨⟨rfl, rfl⟩, fun _ hs => ⟨⟨workerID, taskID, tok, hs⟩, rfl⟩⟩)
      ⟨⟨rfl, rfl⟩, fun _ _ => ⟨rfl, rfl⟩⟩ now obs
  refine (((huses.keeps fun _ _ _ hs => hs).and (process_summary now runID obs)).trade
      (K := fun h => Serving h workerID taskID tok ∧ Unsaved h) ⟨hserve, hu⟩ ?_).mono ?_
  · rintro h β s ⟨hserve, hu⟩ ⟨⟨⟨hauth, hstored⟩, hpre⟩, -⟩
    exact ⟨hpre h hserve, fun r => ⟨hserve.cons hauth r, hu.cons hstored r⟩⟩
  · rintro h' r ⟨hkept, -, hsum⟩
    refine ⟨hkept, ?_⟩
    rintro sum rfl
    exact hsum.2

/-- What `mergeTaskSummary` returns is what it read, with the batch's summary merged in, and what
it wrote. -/
theorem mergeTaskSummary_meets (add : StageSummary) (hserve : Serving h workerID taskID tok)
    (hu : Unsaved h) :
    Meets minorContract h (mergeTaskSummary taskID add) fun h' merged =>
      Serving h' workerID taskID tok ∧ ∃ raw r, h'.Asked (.task (.taskResult taskID)) raw ∧
        merged = mergeSummary (decode (raw.getD none)) add ∧
        h'.Asked (.task (.setTaskResult taskID merged)) r ∧
        ∀ c ∈ h', ∀ x ∈ c.stmt.stored, x = (taskID, merged) := by
  refine ⟨⟨hu, rfl⟩, fun raw => ?_⟩
  have hserve₁ := hserve.cons (s := .task (.taskResult taskID)) rfl raw
  have hu₁ := hu.cons (s := .task (.taskResult taskID)) rfl raw
  have hnone : ∀ sum, ∀ c ∈ (⟨.task (.taskResult taskID), raw⟩ :: h : Hist Stmt),
      ∀ x ∈ c.stmt.stored, x = (taskID, sum) := by
    intro sum c hc x hx
    rw [hu₁ c hc] at hx
    cases hx
  refine ⟨⟨⟨workerID, tok, raw, add, hserve₁, Hist.asked_head .., rfl, hnone _⟩, rfl⟩, fun r => ?_⟩
  refine ⟨hserve₁.cons rfl r, raw, r, List.mem_cons_of_mem _ (Hist.asked_head ..), rfl,
    Hist.asked_head .., List.forall_mem_cons.mpr ⟨?_, hnone _⟩⟩
  intro x hx
  cases hx
  rfl

theorem closeTask_meets (res : Result) {merged add : StageSummary}
    {raw : Option (Option StageSummary)} (hserve : Serving h workerID taskID tok)
    (hread : h.Asked (.task (.taskResult taskID)) raw)
    (hmerged : merged = mergeSummary (decode (raw.getD none)) add)
    (hsaved : ∀ c ∈ h, ∀ x ∈ c.stmt.stored, x = (taskID, merged)) :
    Meets minorContract h (closeTask cfg taskID tok res merged) fun _ _ => True := by
  unfold closeTask
  split
  · simp only
    split <;> exact ⟨⟨trivial, rfl⟩, fun _ => trivial⟩
  · split
    · exact ⟨⟨⟨workerID, tok, raw, add, hserve, hread, hmerged, hsaved⟩, rfl⟩,
        fun _ => ⟨⟨trivial, rfl⟩, fun _ => trivial⟩⟩
    · exact ⟨⟨⟨workerID, hserve⟩, rfl⟩, fun _ => trivial⟩

theorem deliver_meets (res : Result) (hreads : ReadsOnly workerID h) (hu : Unsaved h) :
    Meets minorContract h (deliver cfg workerID taskID tok res) fun h' status =>
      status = 200 → Merges h' taskID (summarize res.observations) := by
  refine meets_bind.mpr ((heldTask_meets cfg hreads hu).mono fun h₁ task htask => ?_)
  cases task with
  | none => exact nofun
  | some task =>
    obtain ⟨hserve, hu₁⟩ := htask task rfl
    simp only
    split
    · exact ⟨⟨rfl, rfl⟩, fun _ => nofun⟩
    -- everything is taken in before the summary is merged, and that before the task is closed
    · refine meets_bind.mpr ((process_meets _ _ _ hserve hu₁).mono ?_)
      rintro h₂ r ⟨⟨hserve₂, hu₂⟩, hsum⟩
      cases r with
      | error e => exact nofun
      | ok summary =>
        rw [← hsum summary rfl]
        refine meets_bind.mpr ((mergeTaskSummary_meets summary hserve₂ hu₂).mono ?_)
        rintro h₃ merged ⟨hserve₃, raw, r, hread, rfl, hset, hsaved⟩
        have hclose := (closeTask_meets cfg res hserve₃ hread rfl hsaved).hist
          (K := fun h' => Merges h' taskID summary) ⟨raw, r, hread, hset⟩
          fun _ c ⟨raw, r, hread, hset⟩ =>
            ⟨raw, r, List.mem_cons_of_mem c hread, List.mem_cons_of_mem c hset⟩
        exact meets_bind.mpr (hclose.mono fun h' _ hmerges _ => hmerges.1)

theorem results_meets (req : ResultsRequest) :
    Meets minorContract [] (results cfg req) fun h' status =>
      summaryPost h' (.results req, status) := by
  have hrefused : ∀ {h : Hist Stmt} {n : Nat}, n ≠ 200 → summaryPost h (.results req, n) :=
    fun hn _ _ heq => absurd (Prod.mk.inj heq).2 hn
  refine meets_bind.mpr ((authWorker_meets cfg _ _).mono fun h₁ auth hauth => ?_)
  split
  · exact hrefused (by decide)
  · obtain ⟨hreads, hu⟩ := hauth _ _ rfl
    split
    · exact hrefused (by decide)
    · rename_i res hbody
      split
      · rename_i taskID tok htask htok
        refine (deliver_meets cfg res hreads hu).mono ?_
        -- the task that is delivered to is the one of the body
        intro h' status hsaved req' res' heq hbody' taskID' htask'
        cases heq
        rw [hbody] at hbody'
        cases hbody'
        rw [htask] at htask'
        cases htask'
        exact hsaved rfl
      · exact hrefused (by decide)

/-! ### The control channel -/

theorem Stmt.free_of_beats {s : Stmt β} (hs : s.beats workerID = true) : Free β s := by
  cases s with
  | task s =>
    cases s with
    | releaseWorkerLeases | extendLeaseForWorker | readoptTask => exact fun _ => trivial
    | _ => cases hs
  | worker s =>
    cases s with
    | touchWorker | setWorkerConcurrency | markWorkerDisconnected => exact fun _ => rfl
    | _ => cases hs
  | _ => cases hs

/-! ### The dispatch tick -/

section Dispatch

variable {w : Worker}

/-- The tick has read the row, and has leased `n` jobs. -/
def Ticking (workerID : UUID) (w : Worker) (n : Nat) (h : Hist Stmt) : Prop :=
  Read h workerID w ∧ leasedBy h = n

theorem leaseTasksWhere_meets {n : Nat} {limit : Int} (only : StageFilter)
    (htick : Ticking workerID w n h) (hactive : w.status = .active)
    (hlimit : limit + n ≤ w.maxConcurrency - w.runningTasks) (hstage : only ≠ .anyStage)
    (hroom : only = .onlyBrute →
      ∃ cap room, h.Asked (.task (.bruteRoom workerID cap)) (some room) ∧ limit ≤ room) :
    MeetsOk minorContract h (Go.exec (.task (.leaseTasksWhere workerID w.capabilities w.poolID
      limit cfg.leaseTTL only cfg.perCompany))) fun h' jobs =>
        Ticking workerID w (jobs.length + n) h' := by
  obtain ⟨hread, hleased⟩ := htick
  refine meetsOk_query ⟨⟨⟨w, hread, rfl, rfl, hactive, by rw [hleased]; exact hlimit⟩,
    hstage, hroom⟩, rfl⟩
    fun jobs => ?_
  refine ⟨List.mem_cons_of_mem _ hread, ?_⟩
  rw [← hleased]
  rfl

theorem leaseBrute_meets {limit : Int} (htick : Ticking workerID w 0 h)
    (hactive : w.status = .active) (hlimit : limit ≤ w.maxConcurrency - w.runningTasks) :
    MeetsOk minorContract h (leaseBrute cfg workerID w.capabilities w.poolID limit)
      fun h' jobs => Ticking workerID w jobs.length h' := by
  obtain ⟨hread, hleased⟩ := htick
  -- asking for room leases nothing
  have htick₁ : ∀ room, Ticking workerID w 0
      (⟨.task (.bruteRoom workerID cfg.bruteCap), room⟩ :: h) := fun room =>
    ⟨List.mem_cons_of_mem _ hread, by
      rw [← hleased]
      cases room <;> simp [leasedBy, Stmt.jobs, TaskStmt.jobs]⟩
  refine MeetsOk.bind (P := fun h' room => Ticking workerID w 0 h' ∧
      h'.Asked (.task (.bruteRoom workerID cfg.bruteCap)) room)
    (meetsOk_attempt ⟨trivial, rfl⟩ fun room => ⟨htick₁ room, Hist.asked_head ..⟩) ?_
  rintro h₁ room _ ⟨htick₁, hasked⟩
  split
  · split
    · exact leaseTasksWhere_meets cfg .onlyBrute htick₁ hactive (by omega) nofun
        fun _ => ⟨_, _, hasked, min_le_left _ _⟩
    · exact meetsOk_pure htick₁
  · exact meetsOk_pure htick₁

/-- After the worker's row was read, at most as many jobs are asked for as it has slots. -/
theorem dispatchTo_meets (htick : Ticking workerID w 0 h) :
    Meets minorContract h (dispatchTo cfg workerID w) fun _ _ => True := by
  unfold dispatchTo
  split
  · rename_i hready
    have hlease : MeetsOk minorContract h (lease cfg workerID w.capabilities w.poolID
        (w.maxConcurrency - w.runningTasks)) fun _ _ => True := by
      refine (leaseBrute_meets cfg htick hready.1 le_rfl).bind fun h₁ brute _ htick₁ => ?_
      simp only
      -- what the brute-force tasks leave of the slots goes to the others
      split
      · exact (leaseTasksWhere_meets cfg .noBrute htick₁ hready.1 (by omega) nofun nofun).bind
          fun _ _ _ _ => meetsOk_pure trivial
      · exact meetsOk_pure trivial
    refine meets_bind.mpr (Meets.mono hlease fun h₁ r _ => ?_)
    split
    · exact ⟨⟨rfl, rfl⟩, fun _ => trivial⟩
    · trivial
  · trivial

theorem dispatchTick_meets (workerID : UUID) :
    (dispatchTick cfg workerID).Meets minorContract [] fun _ _ => True := by
  refine ⟨⟨rfl, rfl⟩, fun r => ?_⟩
  match r with
  | some (some w) => exact dispatchTo_meets cfg ⟨List.mem_singleton.mpr rfl, rfl⟩
  | some none | none => trivial

end Dispatch

/-- **Every program of the gateway keeps its contract**, and a delivery what `summaryPost` says. -/
theorem answered_meets (r : GatewayRequest) :
    Meets gatewayContract [] (r.prog cfg) fun h' a => summaryPost h' (r, a) := by
  -- a request that is no delivery promises nothing about a batch
  have hother : (∀ req, r ≠ .results req) →
      Meets gatewayContract [] (r.prog cfg) (fun _ _ => True) →
      Meets gatewayContract [] (r.prog cfg) fun h' a => summaryPost h' (r, a) := by
    intro hr hmeets
    refine hmeets.mono fun h' a _ req _ heq => ?_
    exact absurd (Prod.mk.inj heq).1 (hr req)
  cases r with
  | results req => exact (results_meets cfg req).weaken fun _ _ _ hs => hs.1
  | heartbeat workerID hb =>
    refine hother nofun (meets_of_free ?_ [])
    refine Uses.bind ?_ fun _ => trivial
    exact (heartbeat_beats cfg workerID hb).mono fun _ _ => Stmt.free_of_beats
  | dispatchTick workerID =>
    refine hother nofun (meets_bind.mpr ?_)
    exact ((dispatchTick_meets cfg workerID).weaken fun _ _ _ hs => hs.1).mono fun _ _ _ => trivial
  | connect workerID credential =>
    refine hother nofun (meets_bind.mpr
      (((authWorker_meets cfg _ _).weaken fun _ _ _ hs => hs.1).mono fun h auth _ => ?_))
    split
    · trivial
    · split
      · trivial
      · exact ⟨rfl, fun _ => ⟨rfl, fun _ => trivial⟩⟩
  | unregister workerID =>
    refine hother nofun (meets_of_free ?_ [])
    exact Uses.bind (Uses.bind (uses_issue fun _ => rfl) fun _ => trivial) fun _ => trivial
  | reapExpiredLeases | cancelRunTasks =>
    refine hother nofun (meets_of_free ?_ [])
    exact Uses.bind (uses_issue fun _ => trivial) fun _ => trivial

theorem gatewayRequest_meets (r : GatewayRequest) :
    (r.prog cfg).Meets (fun h _ s => s.gatewayPre h) [] fun _ _ => True :=
  (answered_meets cfg r).mono fun _ _ _ => trivial

end Programs

end PinkGlasses
