import PinkGlasses.Control
import PinkGlasses.GatewayTrace
import PinkGlasses.Planner.Trace

/-!
# PinkGlasses.Control.Trace

Why each statement of the control plane is issued. `Stmt.justified` gives, for the statements that
plan tasks, lease them, or write a run's status or pool, what the history of the request shows at
that moment; `controlRequest_meets` says that **every request keeps to it**, whatever the answers.
-/

namespace PinkGlasses

open Lib Prog Planner Launch

variable {β : Type}

/-! ### What a launch has done -/

/-- The request created the run. -/
def LaunchOf (h : Hist Stmt) (scopeID : UUID) (run : ScanRun) (saved : List RunTarget) : Prop :=
  ∃ profile targets, h.Asked (.run (.createRun scopeID profile targets)) (some (run, saved))

/-- The run a launch plans: as it was created, or re-read once its exit was bound. -/
def Launched (h : Hist Stmt) (scopeID : UUID) (run : ScanRun) (saved : List RunTarget) : Prop :=
  ∃ run₀, LaunchOf h scopeID run₀ saved ∧
    (run = run₀ ∨ h.Asked (.run (.getRun run₀.id)) (some run))

/-- The launch knows the exit of the run: it needs none, or it was bound and read back. -/
def Exited (h : Hist Stmt) (runID : UUID) : Prop :=
  (∃ scopeID targets run saved,
    h.Asked (.run (.createRun scopeID .passive targets)) (some (run, saved)) ∧ run.id = runID) ∨
  ∃ id poolID run, h.Asked (.run (.setRunPool id poolID)) (some ()) ∧
    h.Asked (.run (.getRun id)) (some run) ∧ run.id = runID

/-- The request has planned nothing. -/
def Unplanned (h : Hist Stmt) : Prop := ∀ c ∈ h, c.stmt.plans = false

/-- The statement creates a run. -/
def RunStmt.creates : RunStmt β → Bool
  | createRun _ _ _ => true
  | _ => false

@[inherit_doc RunStmt.creates]
def Stmt.creates : Stmt β → Bool
  | run s => s.creates
  | _ => false

/-- The targets of the run a statement creates. -/
def RunStmt.makes : RunStmt β → List (TargetKind × String)
  | createRun _ _ targets => targets
  | _ => []

@[inherit_doc RunStmt.makes]
def Stmt.makes : Stmt β → List (TargetKind × String)
  | run s => s.makes
  | _ => []

/-- The request has created no run. -/
def Runless (h : Hist Stmt) : Prop := ∀ c ∈ h, c.stmt.creates = false

/-- The request has bound no run to a pool. -/
def Unbound (h : Hist Stmt) : Prop := ∀ c ∈ h, c.stmt.binds = none

/-- The pool is one that `GetExitPool` found with an active remote worker. -/
def ExitFound (h : Hist Stmt) (poolID : UUID) : Prop :=
  ∃ id pool, h.Asked (.worker (.getExitPool id)) (some pool) ∧ pool.id = poolID ∧
    pool.activeWorkers ≠ 0

/-- The tasks are a launch's first ones. -/
def FirstTasks (allowPrivate : Bool) (h : Hist Stmt) (run : ScanRun) (specs : List TaskSpec) :
    Prop :=
  ∃ scopeID tag rows saved, h.Asked (.run (.listTargets scopeID tag)) (some rows) ∧
    Launched h scopeID run saved ∧
    FirstPlanned allowPrivate run saved (mergeTargets rows) specs

/-- The tasks are what `Advance` planned for a running run. -/
def LaterTasks (allowPrivate : Bool) (h : Hist Stmt) (run : ScanRun) (specs : List TaskSpec) :
    Prop :=
  (∃ id, h.Asked (.run (.getRun id)) (some run)) ∧ run.status = .running ∧
    Planned allowPrivate h run specs

/-- `Advance` read the run, dealt with everything it listed, and then found nothing outstanding. -/
def Finished (allowPrivate : Bool) (h : Hist Stmt) (run : ScanRun) : Prop :=
  (∃ id, h.Asked (.run (.getRun id)) (some run)) ∧ Concluded allowPrivate h run

/-! ### Why a statement is issued -/

def TaskStmt.justified (allowPrivate : Bool) (h : Hist Stmt) : TaskStmt β → Prop
  | insertTasks runID out => ∃ run specs rt, run.id = runID ∧ specs ≠ [] ∧ rt.active = run.poolID ∧
      routeTasks specs rt = .ok out ∧
      (FirstTasks allowPrivate h run specs ∨ LaterTasks allowPrivate h run specs)
  | originsForTask taskID => SeenTask h taskID
  | taskResult _ => True
  | s => s.gatewayPre h

/-- Why a run is given a status. -/
def statusJustified (allowPrivate : Bool) (h : Hist Stmt) (runID : UUID) : RunStatus → Prop
  | .running => Exited h runID
  | .completed => (∃ run, run.id = runID ∧ Finished allowPrivate h run) ∨
      (∃ scopeID run saved, run.id = runID ∧ Launched h scopeID run saved ∧ Unplanned h)
  | .failed | .cancelled => ∃ r, h.Asked (.task (.cancelRunTasks runID)) r
  | _ => False

def RunStmt.justified (allowPrivate : Bool) (h : Hist Stmt) : RunStmt β → Prop
  | setRunStatus runID status => statusJustified allowPrivate h runID status
  | setRunPool runID poolID =>
    (∃ scopeID run saved, run.id = runID ∧ LaunchOf h scopeID run saved) ∧
      (ExitFound h poolID ∨ ∃ name, h.Asked (.worker (.createRunPool name)) (some poolID)) ∧
      Unbound h
  | setRunParams runID _ _ => ∃ scopeID run saved, run.id = runID ∧ Launched h scopeID run saved
  | _ => True

/-- A worker is enrolled as active, or to be approved. -/
def WorkerStmt.justified : WorkerStmt β → Prop
  | createWorker _ _ _ _ _ _ status => status = .active ∨ status = .pending
  | _ => True

/-- **Why a statement of the control plane is issued.** -/
def Stmt.justified (allowPrivate : Bool) (h : Hist Stmt) : Stmt β → Prop
  | task s => s.justified allowPrivate h
  | run s => s.justified allowPrivate h
  | worker s => s.justified
  | asset s => s.quiet = true ∨ ∃ workerID taskID tok, Serving h workerID taskID tok
  | fleet _ => True

/-- The contract of every request. -/
def controlPre (allowPrivate : Bool) (h : Hist Stmt) (β : Type) (s : Stmt β) : Prop :=
  s.justified allowPrivate h

variable {allowPrivate : Bool} {h : Hist Stmt}

theorem Stmt.justified_of_quiet {s : Stmt β} (hs : s.quiet = true) :
    s.justified allowPrivate h := by
  cases s with
  | task s =>
    cases s with
    | insertTasks | leaseTasksWhere | originsForTask | extendLease | setTaskResult => cases hs
    | _ => trivial
  | run s =>
    cases s with
    | setRunStatus | setRunPool | setRunParams => cases hs
    | _ => trivial
  | worker s =>
    cases s with
    | createWorker => cases hs
    | _ => trivial
  | asset s => exact .inl hs
  | fleet s => trivial

theorem Stmt.justified_of_gateway {s : Stmt β} (hs : s.gatewayPre h) :
    s.justified allowPrivate h := by
  cases s with
  | task s =>
    cases s with
    | insertTasks | originsForTask => cases hs
    | taskResult => trivial
    | _ => exact hs
  | run s => exact Stmt.justified_of_quiet (s := .run s) hs
  | worker s =>
    cases s with
    | createWorker => cases hs
    | _ => trivial
  | asset s => exact .inr hs
  | fleet s => trivial

/-! ### More history -/

variable {run : ScanRun}

section Mono

variable {h' : Hist Stmt} (hsub : h ⊆ h') {scopeID runID : UUID} {saved : List RunTarget}

include hsub

@[gcongr]
theorem LaunchOf.mono : LaunchOf h scopeID run saved → LaunchOf h' scopeID run saved := by
  unfold LaunchOf
  gcongr

theorem Launched.mono : Launched h scopeID run saved → Launched h' scopeID run saved := by
  unfold Launched
  gcongr

theorem Exited.mono : Exited h runID → Exited h' runID := by
  unfold Exited
  gcongr

theorem ExitFound.mono {poolID : UUID} : ExitFound h poolID → ExitFound h' poolID := by
  unfold ExitFound
  gcongr

end Mono

theorem Unplanned.cons (hu : Unplanned h) {s : Stmt β} (hs : s.plans = false) (r : Option β) :
    Unplanned (⟨s, r⟩ :: h) :=
  List.forall_mem_cons.mpr ⟨hs, hu⟩

theorem Unbound.cons (hu : Unbound h) {s : Stmt β} (hs : s.binds = none) (r : Option β) :
    Unbound (⟨s, r⟩ :: h) :=
  List.forall_mem_cons.mpr ⟨hs, hu⟩

theorem Stmt.binds_of_quiet {s : Stmt β} (hs : s.quiet = true) : s.binds = none := by
  cases s with
  | run s => cases s <;> first | rfl | cases hs
  | _ => rfl

theorem Stmt.plans_of_quiet {s : Stmt β} (hs : s.quiet = true) : s.plans = false := by
  cases s with
  | task s => cases s <;> first | rfl | cases hs
  | _ => rfl

theorem Stmt.creates_of_quiet {s : Stmt β} (hs : s.quiet = true) : s.creates = false := by
  cases s with
  | run s => cases s <;> first | rfl | cases hs
  | _ => rfl

/-! ### The launch -/

section Launch

/-- What the checks of `start` have read of the exit: only a passive run needs none. -/
def ExitChecked (h : Hist Stmt) (profile : RunProfile) : Option ExitPlan → Prop
  | some (.remote poolID) => ExitFound h poolID
  | some (.local _ _ _) => True
  | none => profile = .passive

theorem ExitChecked.mono {h' : Hist Stmt} {profile : RunProfile} {exit : Option ExitPlan}
    (hx : ExitChecked h profile exit) (hsub : h ⊆ h') : ExitChecked h' profile exit := by
  match exit with
  | some (.remote poolID) => exact ExitFound.mono hsub hx
  | some (.local _ _ _) => trivial
  | none => exact hx

/-- A request that has neither planned nor bound anything. -/
def Untouched (h : Hist Stmt) : Prop := Unplanned h ∧ Unbound h

theorem untouched_nil : Untouched [] :=
  ⟨List.forall_mem_nil _, List.forall_mem_nil _⟩

variable {α : Type}

theorem wantedTargets_meets (scopeID : UUID) (o : LaunchOptions) :
    MeetsOk (fun _ _ s => s.quiet = true) h (wantedTargets scopeID o) fun _ _ => True := by
  unfold wantedTargets
  split
  · exact meetsOk_pure trivial
  · refine MeetsOk.bind (meetsOk_query_asked rfl) fun h₁ vals _ _ => ?_
    split
    · exact meetsOk_throw
    · exact meetsOk_pure trivial

theorem refuseEmpty_meets (scopeID : UUID) (o : LaunchOptions) :
    MeetsOk (fun _ _ s => s.quiet = true) h (refuseEmpty scopeID o) fun _ _ => True := by
  refine MeetsOk.bind (meetsOk_attempt_asked rfl) fun h₁ all _ _ => ?_
  split
  · exact meetsOk_throw
  · split <;> exact meetsOk_throw

theorem profileParams_meets (o : LaunchOptions) :
    MeetsOk (fun _ _ s => s.quiet = true) h (profileParams o) fun _ _ => True := by
  unfold profileParams
  split
  · refine MeetsOk.bind (meetsOk_attempt_asked rfl) fun h₁ r _ _ => ?_
    cases r <;> exact meetsOk_pure trivial
  · exact meetsOk_pure trivial

theorem checkExit_meets (cfg : LaunchConfig) (o : LaunchOptions) :
    MeetsOk (fun _ _ s => s.quiet = true) h (checkExit cfg o)
      fun h' plan => ExitChecked h' o.profile (some plan) := by
  unfold checkExit
  split
  -- remote: the pool must be there and have an active worker
  · split
    · exact meetsOk_throw
    · exact meetsOk_throw
    · rename_i id _
      refine MeetsOk.bind (meetsOk_attempt_asked rfl) fun h₁ r _ hask => ?_
      cases r with
      | none => exact meetsOk_throw
      | some pool =>
        dsimp only
        split
        · exact meetsOk_throw
        · rename_i hactive
          exact meetsOk_pure ⟨id, pool, hask, rfl, hactive⟩
  -- local: the configuration must be there and the caller's own
  · split
    · exact meetsOk_throw
    · split
      · dsimp only
        split
        · refine MeetsOk.bind (meetsOk_attempt_asked rfl) fun h₁ configs _ _ => ?_
          split <;> exact meetsOk_throw
        · exact meetsOk_throw
      · exact meetsOk_throw
      · refine MeetsOk.bind (meetsOk_attempt_asked rfl) fun h₁ r _ _ => ?_
        cases r with
        | none => exact meetsOk_throw
        | some vc =>
          dsimp only
          split
          · exact meetsOk_throw
          · split
            · exact meetsOk_throw
            · exact meetsOk_pure trivial
  · exact meetsOk_throw
  · exact meetsOk_throw

theorem exitFor_meets (cfg : LaunchConfig) (o : LaunchOptions)
    (targets : List (TargetKind × String)) :
    MeetsOk (fun _ _ s => s.quiet = true) h (exitFor cfg o targets)
      fun h' exit => ExitChecked h' o.profile exit := by
  unfold exitFor
  split
  · rename_i hpassive
    exact meetsOk_pure hpassive
  · refine (checkExit_meets cfg o).bind fun h₁ plan _ hplan => ?_
    cases plan with
    | remote poolID => exact meetsOk_pure hplan
    | «local» vpnID workers auto => exact meetsOk_pure trivial

/-- What was prepared: the targets are those chosen from the merged rows, and the exit is
checked. -/
def PreparedFrom (scopeID : UUID) (o : LaunchOptions) (h : Hist Stmt) (p : Launch.Prepared) :
    Prop :=
  (∃ rows want, h.Asked (.run (.listTargets scopeID o.tag)) (some rows) ∧
    p.scopeTargets = mergeTargets rows ∧ p.targets = runTargetsFor o want (mergeTargets rows)) ∧
  ExitChecked h o.profile p.exit

theorem prepare_rest_meets (cfg : LaunchConfig) {scopeID : UUID} {o : LaunchOptions}
    {want : List String} {rows : List ScopeTarget}
    (hrows : h.Asked (.run (.listTargets scopeID o.tag)) (some rows)) :
    MeetsOk (fun _ _ s => s.quiet = true) h (do
      let (profileID, raw) ← profileParams o
      match cfg.validate (override raw o.params) with
      | .error e => refuse 400 ("invalid scan parameter: " ++ e)
      | .ok clean =>
        let exit ← exitFor cfg o (runTargetsFor o want (mergeTargets rows))
        pure { targets := runTargetsFor o want (mergeTargets rows)
               scopeTargets := mergeTargets rows, profileID
               params := cfg.withDefaults clean, exit : Launch.Prepared })
      (PreparedFrom scopeID o) := by
  refine (profileParams_meets o).bind fun h₁ x hs₁ _ => ?_
  obtain ⟨profileID, raw⟩ := x
  dsimp only
  split
  · exact meetsOk_throw
  · refine (exitFor_meets cfg o _).bind fun h₂ exit hs₂ hexit =>
      meetsOk_pure ⟨⟨rows, want, ?_, rfl, rfl⟩, hexit⟩
    exact (hrows.mono hs₁).mono hs₂

theorem prepare_meets (cfg : LaunchConfig) (scopeID : UUID) (o : LaunchOptions) :
    MeetsOk (fun _ _ s => s.quiet = true) h (prepare cfg scopeID o) (PreparedFrom scopeID o) := by
  refine (wantedTargets_meets scopeID o).bind fun h₁ want _ _ => ?_
  refine MeetsOk.bind (meetsOk_query_asked rfl) fun h₂ rows _ hrows => ?_
  dsimp only
  split
  · exact (refuseEmpty_meets scopeID o).bind fun h₃ _ hs₃ _ =>
      prepare_rest_meets cfg (hrows.mono hs₃)
  · exact prepare_rest_meets cfg hrows

/-- Justified, and creates no run. -/
def afterPre (allowPrivate : Bool) (h : Hist Stmt) (β : Type) (s : Stmt β) : Prop :=
  s.justified allowPrivate h ∧ s.creates = false

/-- Nor a plan. -/
def bindPre (allowPrivate : Bool) (h : Hist Stmt) (β : Type) (s : Stmt β) : Prop :=
  afterPre allowPrivate h β s ∧ s.plans = false

/-- Nor a binding. -/
def setupPre (allowPrivate : Bool) (h : Hist Stmt) (β : Type) (s : Stmt β) : Prop :=
  bindPre allowPrivate h β s ∧ s.binds = none

/-- **The contract of a launch**: justified, and its run is created once, from what was prepared. -/
def launchPre (allowPrivate : Bool) (scopeID : UUID) (o : LaunchOptions) (h : Hist Stmt) (β : Type)
    (s : Stmt β) : Prop :=
  s.justified allowPrivate h ∧ (s.creates = true → Runless h ∧
    ∃ rows want, h.Asked (.run (.listTargets scopeID o.tag)) (some rows) ∧
      s.makes = runTargetsFor o want (mergeTargets rows))

theorem setupPre_of_quiet {s : Stmt β} (hs : s.quiet = true) : setupPre allowPrivate h β s :=
  ⟨⟨⟨Stmt.justified_of_quiet hs, Stmt.creates_of_quiet hs⟩, Stmt.plans_of_quiet hs⟩,
    Stmt.binds_of_quiet hs⟩

section Wordlists

variable {P : ∀ β : Type, Stmt β → Prop}

theorem namedWordlists_uses (hP : ∀ u, P _ (.run (.getWordlist u))) (runID : UUID)
    (ids : List IDText) : Uses P (namedWordlists runID ids).run := by
  induction ids with
  | nil => trivial
  | cons id ids ih =>
    cases id with
    | id u =>
      refine Uses.bind_except (uses_attempt (hP u)) fun r => ?_
      cases r with
      | none => trivial
      | some wl =>
        dsimp only
        split
        · trivial
        · exact Uses.bind_except ih fun _ => trivial
    | absent | bad => exact ih

theorem defaultWordlists_uses (hP : ∀ kind, P _ (.run (.defaultWordlists kind)))
    (chosen kinds : List String) : Uses P (defaultWordlists chosen kinds).run := by
  induction kinds with
  | nil => trivial
  | cons kind kinds ih =>
    unfold defaultWordlists
    split
    · exact ih
    · exact Uses.bind_except (uses_attempt (hP kind)) fun _ => Uses.bind_except ih fun _ => trivial

theorem setRunWordlists_uses {runID : UUID} (hP : ∀ u, P _ (.run (.setRunWordlist runID u)))
    (ids : List UUID) : Uses P (setRunWordlists runID ids).run := by
  induction ids with
  | nil => trivial
  | cons id ids ih => exact Uses.bind_except (uses_query (hP id)) fun _ => ih

end Wordlists

variable {scopeID : UUID} {run : ScanRun} {saved : List RunTarget} {profile : RunProfile}

/-- The exit is bound to the created run, once, and only to a pool that was checked or made for
it. -/
theorem bindExit_meets {cfg : LaunchConfig} {token : String} {plan : ExitPlan}
    (hl : LaunchOf h scopeID run saved) (hexit : ExitChecked h profile (some plan))
    (hu : Unbound h) :
    MeetsOk (bindPre allowPrivate) h (bindExit cfg token run.id plan) fun h' _ =>
      ∃ poolID, h'.Asked (.run (.setRunPool run.id poolID)) (some ()) := by
  -- what only asks leaves the run unbound
  have hask : ∀ {γ : Type} {s : Stmt γ} {h : Hist Stmt}, s.justified allowPrivate h →
      s.creates = false → s.plans = false → s.binds = none → Unbound h →
      MeetsOk (bindPre allowPrivate) h (ask' run.id s) fun h' a =>
        h'.Asked s (some a) ∧ Unbound h' :=
    fun hs hcreates hplans hbinds hu => meetsOk_query ⟨⟨hs, hcreates⟩, hplans⟩ fun _ =>
      ⟨Hist.asked_head .., hu.cons hbinds _⟩
  cases plan with
  | remote poolID =>
    exact (meetsOk_query_asked ⟨⟨⟨⟨scopeID, run, saved, rfl, hl⟩, .inl hexit, hu⟩, rfl⟩, rfl⟩).imp
      fun _ _ _ hset => ⟨poolID, hset⟩
  | «local» vpnID workers auto =>
    -- a fleet is requested with a pool of its own, made first
    refine MeetsOk.bind (hask (by trivial) rfl rfl rfl hu) fun h₁ _ hs₁ ⟨_, hu₁⟩ => ?_
    unfold requestRunFleet
    dsimp only
    split
    · exact meetsOk_throw
    · refine MeetsOk.bind (hask (by trivial) rfl rfl rfl hu₁) fun h₂ poolID hs₂ ⟨hpool, hu₂⟩ => ?_
      have hl₂ := hl.mono (List.Subset.trans hs₁ hs₂)
      refine MeetsOk.bind (meetsOk_query_asked ⟨⟨⟨⟨scopeID, run, saved, rfl, hl₂⟩,
        .inr ⟨_, hpool⟩, hu₂⟩, rfl⟩, rfl⟩) fun h₃ _ _ hset => ?_
      refine MeetsOk.bind (meetsOk_query_asked ⟨⟨trivial, rfl⟩, rfl⟩) fun h₄ _ hs₄ _ => ?_
      exact (meetsOk_query_asked ⟨⟨trivial, rfl⟩, rfl⟩).imp fun _ _ hs₅ _ =>
        ⟨poolID, (hset.mono hs₄).mono hs₅⟩

theorem boundRun_meets {cfg : LaunchConfig} {token : String} {exit : Option ExitPlan}
    (hl : LaunchOf h scopeID run saved) (hexit : ExitChecked h profile exit) (hu : Unbound h)
    (hpassive : profile = .passive → Exited h run.id) :
    MeetsOk (bindPre allowPrivate) h (boundRun cfg token run exit) fun h' run' =>
      (run' = run ∨ h'.Asked (.run (.getRun run.id)) (some run')) ∧ Exited h' run'.id := by
  cases exit with
  | none => exact meetsOk_pure ⟨.inl rfl, hpassive hexit⟩
  | some plan =>
    refine (bindExit_meets hl hexit hu).bind fun h₁ _ _ ⟨poolID, hset⟩ => ?_
    exact (meetsOk_query_asked ⟨⟨trivial, rfl⟩, rfl⟩).imp fun h₂ run' hs₂ hget =>
      ⟨.inr hget, .inr ⟨run.id, poolID, run', hset.mono hs₂, hget, rfl⟩⟩

theorem meetsOk_planning {runID : UUID} {x : Go α} {P : Hist Stmt → α → Prop}
    {pre : Hist Stmt → ∀ β : Type, Stmt β → Prop} (hx : MeetsOk pre h x P) :
    MeetsOk pre h (planning runID x) P := by
  refine meets_bind.mpr (Meets.mono hx fun h' r hr => ?_)
  cases r with
  | ok a => exact hr
  | error e => trivial

/-- What `start` knows of the run it is about to plan. -/
structure Launching (h : Hist Stmt) (scopeID : UUID) (tag : String) (run : ScanRun)
    (saved : List RunTarget) (scopeTargets : List ScopeTarget) : Prop where
  launched : Launched h scopeID run saved
  exited : Exited h run.id
  targets : ∃ rows, h.Asked (.run (.listTargets scopeID tag)) (some rows) ∧
    scopeTargets = mergeTargets rows
  unplanned : Unplanned h

theorem Launching.cons {tag : String} {scopeTargets : List ScopeTarget}
    (hl : Launching h scopeID tag run saved scopeTargets) {s : Stmt β} (hs : s.plans = false)
    (r : Option β) : Launching (⟨s, r⟩ :: h) scopeID tag run saved scopeTargets where
  launched := hl.launched.mono (List.subset_cons_self _ _)
  exited := hl.exited.mono (List.subset_cons_self _ _)
  targets := by
    obtain ⟨rows, hrows, heq⟩ := hl.targets
    exact ⟨rows, hrows.mono (List.subset_cons_self _ _), heq⟩
  unplanned := hl.unplanned.cons hs r

/-- `PlanInitial` keeps the contract when a launch calls it. -/
theorem firstContract {tag : String} {scopeTargets : List ScopeTarget} :
    FirstContract allowPrivate run saved scopeTargets
      (fun h => Launching h scopeID tag run saved scopeTargets) (afterPre allowPrivate) where
  quiet h β s hK hs := ⟨⟨Stmt.justified_of_quiet hs, Stmt.creates_of_quiet hs⟩,
    hK.cons (Stmt.plans_of_quiet hs)⟩
  start h hK := ⟨⟨hK.exited, rfl⟩, hK.cons rfl⟩
  empty h hK := ⟨.inr ⟨scopeID, run, saved, rfl, hK.launched, hK.unplanned⟩, rfl⟩
  insert h specs rt out hK hne hplanned hrt _ hout := by
    obtain ⟨rows, hrows, rfl⟩ := hK.targets
    exact ⟨⟨run, specs, rt, rfl, hne, hrt, hout,
      .inl ⟨scopeID, tag, rows, saved, hrows, hK.launched, hplanned⟩⟩, rfl⟩

theorem afterCreate_meets (cfg : LaunchConfig) {o : LaunchOptions} {p : Launch.Prepared}
    (hl : LaunchOf h scopeID run saved)
    (htargets : ∃ rows, h.Asked (.run (.listTargets scopeID o.tag)) (some rows) ∧
      p.scopeTargets = mergeTargets rows) (hexit : ExitChecked h profile p.exit) (hu : Untouched h)
    (hpassive : profile = .passive → Exited h run.id) :
    MeetsOk (afterPre cfg.allowPrivate) h (afterCreate cfg o p run saved)
      fun _ _ => True := by
  -- until the plan, all that is needed of the history is what it already shows
  have hsetup : ∀ {γ : Type} {x : Launch.Bound γ} {P : Hist Stmt → γ → Prop} {h' : Hist Stmt},
      MeetsOk (setupPre cfg.allowPrivate) h' x P → Untouched h' →
      MeetsOk (afterPre cfg.allowPrivate) h' x fun h'' a => Untouched h'' ∧ P h'' a :=
    fun hx hu => hx.trade hu fun h β s hK hpre =>
      ⟨hpre.1.1, fun r => ⟨hK.1.cons hpre.1.2 r, hK.2.cons hpre.2 r⟩⟩
  have hbind : ∀ {γ : Type} {x : Launch.Bound γ} {P : Hist Stmt → γ → Prop} {h' : Hist Stmt},
      MeetsOk (bindPre cfg.allowPrivate) h' x P → Unplanned h' →
      MeetsOk (afterPre cfg.allowPrivate) h' x fun h'' a => Unplanned h'' ∧ P h'' a :=
    fun hx hu => hx.trade hu fun h β s hK hpre => ⟨hpre.1, hK.cons hpre.2⟩
  have huses : ∀ {γ : Type} {x : Launch.Bound γ} {h' : Hist Stmt},
      Uses (fun β s => ∀ h, setupPre cfg.allowPrivate h β s) x.run → Untouched h' →
      MeetsOk (afterPre cfg.allowPrivate) h' x fun h'' _ => Untouched h'' ∧ True :=
    fun hx => hsetup (meetsOk_of_uses hx fun h _ _ hs => hs h)
  refine (huses (namedWordlists_uses (fun _ _ => setupPre_of_quiet rfl) _ _) hu).bind
    fun h₁ named hs₁ ⟨hu₁, _⟩ => ?_
  refine (huses (defaultWordlists_uses (fun _ _ => setupPre_of_quiet rfl) _ _) hu₁).bind
    fun h₂ defs hs₂ ⟨hu₂, _⟩ => ?_
  refine (huses (setRunWordlists_uses (fun _ _ => ⟨⟨⟨trivial, rfl⟩, rfl⟩, rfl⟩) _) hu₂).bind
    fun h₃ _ hs₃ ⟨hu₃, _⟩ => ?_
  have hsub₃ : h ⊆ h₃ := List.Subset.trans hs₁ (List.Subset.trans hs₂ hs₃)
  refine (hbind (boundRun_meets (hl.mono hsub₃) (hexit.mono hsub₃) hu₃.2
    fun hp => (hpassive hp).mono hsub₃) hu₃.1).bind fun h₄ run' hs₄ ⟨hu₄, hrun, hexited⟩ => ?_
  have hlaunched : Launched h₄ scopeID run' saved :=
    ⟨run, hl.mono (List.Subset.trans hsub₃ hs₄), hrun⟩
  have hparams : bindPre cfg.allowPrivate h₄ _
      (.run (.setRunParams run'.id p.profileID p.params)) :=
    ⟨⟨⟨scopeID, run', saved, rfl, hlaunched⟩, rfl⟩, rfl⟩
  refine (hbind (meetsOk_query_asked hparams) hu₄).bind fun h₅ _ hs₅ ⟨hu₅, _⟩ => ?_
  obtain ⟨rows, hrows, heq⟩ := htargets
  have hsub₅ : h ⊆ h₅ := List.Subset.trans hsub₃ (List.Subset.trans hs₄ hs₅)
  have hlaunching : Launching h₅ scopeID o.tag run' saved p.scopeTargets :=
    ⟨hlaunched.mono hs₅, hexited.mono hs₅, ⟨rows, hrows.mono hsub₅, heq⟩, hu₅⟩
  refine (meetsOk_planning (planInitial_meets firstContract hlaunching)).bind fun _ _ _ _ => ?_
  exact meetsOk_pure trivial

theorem failed_meets (runID : UUID) :
    Meets (afterPre allowPrivate) h (failed runID) fun _ _ => True :=
  ⟨⟨trivial, rfl⟩, fun r => ⟨⟨⟨r, List.mem_cons_self⟩, rfl⟩, fun _ => trivial⟩⟩

theorem launchPre_of_after {o : LaunchOptions} {s : Stmt β} (hs : afterPre allowPrivate h β s) :
    launchPre allowPrivate scopeID o h β s :=
  ⟨hs.1, fun hc => absurd (hs.2 ▸ hc) Bool.false_ne_true⟩

theorem start_meets (cfg : LaunchConfig) (scopeID : UUID) (o : LaunchOptions) :
    Meets (launchPre cfg.allowPrivate scopeID o) [] (start cfg scopeID o) fun _ _ => True := by
  -- nothing was created or planned while the launch was checked
  have hprep := (prepare_meets (h := []) cfg scopeID o).trade
      (K := fun h => Untouched h ∧ Runless h)
    (Q := launchPre cfg.allowPrivate scopeID o) ⟨untouched_nil, List.forall_mem_nil _⟩
    fun h β s hK hs => ⟨launchPre_of_after ⟨Stmt.justified_of_quiet hs, Stmt.creates_of_quiet hs⟩,
      fun r => ⟨⟨hK.1.1.cons (Stmt.plans_of_quiet hs) r, hK.1.2.cons (Stmt.binds_of_quiet hs) r⟩,
        List.forall_mem_cons.mpr ⟨Stmt.creates_of_quiet hs, hK.2⟩⟩⟩
  refine meets_bind.mpr (Meets.mono hprep fun h₁ r hr => ?_)
  cases r with
  | error ref => trivial
  | ok p =>
    obtain ⟨_, ⟨hu, hnone⟩, ⟨rows, want, hrows, heq, hmakes⟩, hexit⟩ := hr
    refine ⟨⟨trivial, fun _ => ⟨hnone, rows, want, hrows, hmakes⟩⟩, fun r => ?_⟩
    match r with
    | none => trivial
    | some (run, saved) =>
      have hs := List.subset_cons_self (⟨.run (.createRun scopeID o.profile p.targets),
        some (run, saved)⟩ : Call Stmt) h₁
      have hl : LaunchOf _ scopeID run saved := ⟨o.profile, p.targets, Hist.asked_head h₁ _ _⟩
      have hafter := afterCreate_meets cfg hl ⟨rows, hrows.mono hs, heq⟩ (hexit.mono hs)
        ⟨hu.1.cons rfl _, hu.2.cons rfl _⟩ fun hp =>
          .inl ⟨scopeID, p.targets, run, saved, hp ▸ Hist.asked_head h₁ _ _, rfl⟩
      suffices hrest : Meets (afterPre cfg.allowPrivate) _ _ fun _ _ => True from
        hrest.weaken fun _ _ _ => launchPre_of_after
      show Meets _ _ ((afterCreate cfg o p run saved).run >>= _) _
      refine meets_bind.mpr (Meets.mono hafter fun h₂ r _ => ?_)
      -- a launch that fails once the run exists gives the run up
      cases r with
      | ok run => trivial
      | error e => exact meets_bind.mpr ((failed_meets e.1).mono fun _ _ _ => trivial)

end Launch

/-! ### The requests -/

/-- `Advance` keeps the contract on a run that was read running. -/
theorem laterContract {id : UUID} (hrunning : run.status = .running) :
    Contract allowPrivate run fun h β s =>
      h.Asked (.run (.getRun id)) (some run) → controlPre allowPrivate h β s where
  quiet _ _ _ hs _ := Stmt.justified_of_quiet hs
  origins _ _ hseen _ := hseen
  insert _ specs rt _ _ hne hplanned hrt _ hout hread :=
    ⟨run, specs, rt, rfl, hne, hrt, hout, .inr ⟨⟨id, hread⟩, hrunning, hplanned⟩⟩
  finish _ hdone hread := .inl ⟨run, rfl, ⟨id, hread⟩, hdone⟩

/-- A pass keeps every contract that allows it to read its run and then to go on. -/
theorem advanceRun_keeps {pre : Hist Stmt → ∀ β : Type, Stmt β → Prop} (cfg : LaunchConfig)
    {runID : UUID} (hget : pre [] _ (.run (.getRun runID)))
    (hcon : ∀ run, run.status = .running → Contract cfg.allowPrivate run fun h β s =>
      h.Asked (.run (.getRun runID)) (some run) → pre h β s) :
    Meets pre [] (Control.advanceRun cfg runID) fun _ _ => True := by
  refine ⟨hget, fun r => ?_⟩
  cases r with
  | none => trivial
  | some run =>
    have hread := Hist.asked_head ([] : Hist Stmt) (.run (.getRun runID)) (some run)
    show Meets _ _ ((Planner.advance cfg.allowPrivate run).run >>= _) _
    refine meets_bind.mpr ?_
    by_cases hrunning : run.status = .running
    · refine ((advance_meets (hcon run hrunning)).trade hread fun h β s hK hpre =>
        ⟨hpre hK, fun r => List.mem_cons_of_mem _ hK⟩).mono fun _ _ _ => trivial
    · unfold Planner.advance
      rw [if_pos hrunning]
      trivial

theorem advanceRun_meets (cfg : LaunchConfig) (runID : UUID) :
    Meets (controlPre cfg.allowPrivate) [] (Control.advanceRun cfg runID) fun _ _ => True :=
  advanceRun_keeps cfg trivial fun _ hrunning => laterContract hrunning

theorem failFleet_meets (f : RunFleet) (reason : String) (evidence : Option (String × String))
    (removed : Bool) :
    Meets (controlPre allowPrivate) [] (FleetManager.fail f reason evidence removed)
      fun _ _ => True := by
  have hremove : ∀ h, Meets (controlPre allowPrivate) h (FleetManager.removeRecord f)
      fun _ _ => True := by
    intro h
    unfold FleetManager.removeRecord
    cases f.poolID with
    | none => exact ⟨trivial, fun _ => trivial⟩
    | some poolID =>
      refine ⟨trivial, fun r => ?_⟩
      cases r with
      | none => exact ⟨trivial, fun _ => trivial⟩
      | some n => exact ⟨trivial, fun _ => ⟨trivial, fun _ => trivial⟩⟩
  -- the tasks are cancelled before the run is failed
  have hrecord : Meets (controlPre allowPrivate) [] (FleetManager.failRecord f reason evidence)
      fun _ _ => True := by
    unfold FleetManager.failRecord
    cases evidence with
    | none =>
      exact ⟨trivial, fun _ => ⟨trivial, fun r => ⟨⟨r, List.mem_cons_self⟩, fun _ => trivial⟩⟩⟩
    | some e =>
      exact ⟨trivial, fun _ => ⟨trivial, fun _ => ⟨trivial, fun r => ⟨⟨r, List.mem_cons_self⟩,
        fun _ => trivial⟩⟩⟩⟩
  refine meets_bind.mpr (hrecord.mono fun h _ _ => ?_)
  cases removed with
  | false => trivial
  | true => exact hremove h

theorem enroll_meets (req : EnrollRequest) :
    Meets (controlPre allowPrivate) [] (Control.enroll req) fun _ _ => True := by
  refine ⟨trivial, fun r => ?_⟩
  match r with
  | some (some tok) =>
    refine ⟨trivial, fun _ => ⟨?_, fun r => ?_⟩⟩
    · show (if _ then WorkerStatus.active else .pending) = _ ∨ _
      split
      · exact .inl rfl
      · exact .inr rfl
    · cases r <;> trivial
  | some none | none => trivial

theorem deleteWorker_meets (workerID : UUID) (removed : Bool) :
    Meets (controlPre allowPrivate) [] (Control.deleteWorker workerID removed) fun _ _ => True := by
  refine ⟨trivial, fun r => ?_⟩
  match r with
  | some (some w) =>
    show Meets _ _ (if w.kind = .local ∧ removed = false then _ else _) _
    split
    · trivial
    · refine ⟨trivial, fun r => ?_⟩
      cases r <;> trivial
  | some none | none => trivial

/-- **Every request of the control plane issues only justified statements.** -/
theorem controlRequest_meets (cfg : ControlConfig) (r : ControlRequest) :
    Meets (controlPre cfg.launch.allowPrivate) [] (r.prog cfg) fun _ _ => True := by
  cases r with
  | start scopeID o =>
    refine meets_bind.mpr (((start_meets cfg.launch scopeID o).weaken fun _ _ _ hs => hs.1).mono
      fun h r _ => ?_)
    cases r <;> trivial
  | advance runID => exact advanceRun_meets cfg.launch runID
  | cancelRun runID =>
    refine ⟨trivial, fun r => ?_⟩
    cases r with
    | none => trivial
    -- the run's row is written only after its tasks were
    | some u => exact ⟨⟨some u, List.mem_cons_self⟩, fun _ => trivial⟩
  | pauseRun | resumeRun | failZombieRuns | setWorkerStatus | markStaleWorkers
  | reapStaleLocalWorkers => exact ⟨trivial, fun _ => trivial⟩
  | failFleet f reason evidence removed =>
    exact meets_bind.mpr ((failFleet_meets f reason evidence removed).mono fun _ _ _ => trivial)
  | enroll req => exact enroll_meets req
  | deleteWorker workerID removed => exact deleteWorker_meets workerID removed
  | gateway req =>
    exact (gatewayRequest_meets cfg.gateway req).weaken fun _ _ _ => Stmt.justified_of_gateway

end PinkGlasses
