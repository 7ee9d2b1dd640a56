import PinkGlasses.Control.Trace
import PinkGlasses.Store.Links

/-!
# PinkGlasses.Planner.Routes

Which worker pool a planned task goes to. The planner is called for runs of the database, any number
of times and for any of them at once, while workers lease the tasks and report whatever they find:
**every task it inserts has a pool**, that of the run's exit if the stage sends traffic to the
target and the one `PassivePool` returned otherwise, and a passive run never has a task that sends
traffic.
-/

namespace PinkGlasses

open Lib Prog Planner

variable {β : Type}

/-! ### Calls of the planner -/

/-- What happens here: the two functions of the planner are called, and tasks are worked on. -/
inductive PlannerRequest
  | planInitial (run : ScanRun) (targets : List RunTarget) (scopeTargets : List ScopeTarget)
  | advance (run : ScanRun)
  | gateway (req : GatewayRequest)
deriving Repr, DecidableEq

/-- The run is one of the database, as far as where its tasks go. -/
def DB.hasRun (db : DB) (run : ScanRun) : Bool :=
  db.runs.rows.any fun r => r.id == run.id && r.profile == run.profile && r.poolID == run.poolID

namespace PlannerRequest

/-- The planner is called for a run of the database. -/
def known (db : DB) : PlannerRequest → Bool
  | planInitial run _ _ | advance run => db.hasRun run
  | gateway _ => true

/-- The program that serves a request. -/
def prog (cfg : ControlConfig) : PlannerRequest → Prog Stmt Nat
  | planInitial run targets scopeTargets => do
    let _ ← (Planner.planInitial cfg.launch.allowPrivate run targets scopeTargets).run
    pure 0
  | advance run => do
    let _ ← (Planner.advance cfg.launch.allowPrivate run).run
    pure 0
  | gateway req => req.prog cfg.gateway

end PlannerRequest

/-- Calls of the planner among deliveries, interleaving statement by statement. -/
def plannerSystem (cfg : ControlConfig) (out : Outside) : System Stmt DB Env PlannerRequest Nat :=
  storeSystem out PlannerRequest.known (PlannerRequest.prog cfg)

/-! ### The right pool -/

/-- **The task goes where it should**: there is a pool, and it is the exit of the run if the stage
sends traffic, which no stage of a passive run does. -/
structure RoutedTo (r : ScanRun) (passive : UUID) (sp : TaskSpec) : Prop where
  pool : sp.poolID = if sp.stage.sendsTrafficToTarget then r.poolID else some passive
  some : sp.poolID ≠ none
  quiet : r.profile = .passive → sp.stage.sendsTrafficToTarget = false

/-- A statement that inserts tasks gives each the right pool, for a run `runs` knows. -/
def TaskStmt.routed (runs : List ScanRun) (h : Hist Stmt) : TaskStmt β → Prop
  | insertTasks runID specs => ∃ r ∈ runs, r.id = runID ∧
      ∃ passive, PassiveAnswer h passive ∧ ∀ sp ∈ specs, RoutedTo r passive sp
  | _ => True

def Stmt.routed (runs : List ScanRun) (h : Hist Stmt) : Stmt β → Prop
  | task s => s.routed runs h
  | _ => True

/-- The statement request `i` is about to issue gives every task it inserts the right pool. -/
def RoutesRight (c : Conf Stmt DB Nat) (i : Nat) (β : Type) (s : Stmt β) : Prop :=
  ∃ th ∈ c.threads[i]?, s.routed c.state.runs.rows th.hist

/-! ### What a call issues -/

/-- The statement leaves which runs there are, and their exits. -/
structure Stmt.Steady (s : Stmt β) : Prop where
  binds : s.binds = none
  drops : s.drops = none
  created : ∀ env db, s.created env db = []

theorem Stmt.steady_of_quiet {s : Stmt β} (hs : s.quiet = true) : s.Steady := by
  cases s with
  | run s =>
    cases s with
    | createRun | setRunPool => cases hs
    | _ => exact ⟨rfl, rfl, fun _ _ => rfl⟩
  | worker s =>
    cases s with
    | deleteRunPool => cases hs
    | _ => exact ⟨rfl, rfl, fun _ _ => rfl⟩
  | _ => exact ⟨rfl, rfl, fun _ _ => rfl⟩

/-- Why a statement is issued, for the runs of a database. -/
def routePre (runs : List ScanRun) (h : Hist Stmt) (β : Type) (s : Stmt β) : Prop :=
  s.Steady ∧ s.routed runs h

section Contract

variable {allowPrivate : Bool} {db : DB} {run : ScanRun} {h : Hist Stmt}

theorem routePre_of_quiet {runs : List ScanRun} {s : Stmt β} (hs : s.quiet = true) :
    routePre runs h β s := by
  refine ⟨Stmt.steady_of_quiet hs, ?_⟩
  cases s with
  | task s =>
    cases s with
    | insertTasks => cases hs
    | _ => trivial
  | _ => trivial

theorem routePre_of_gateway {runs : List ScanRun} {s : Stmt β} (hs : s.gatewayPre h) :
    routePre runs h β s := by
  cases s with
  | task s =>
    refine ⟨⟨rfl, rfl, fun _ _ => rfl⟩, ?_⟩
    cases s with
    | insertTasks => cases hs
    | _ => trivial
  | run s => exact routePre_of_quiet hs
  | worker s =>
    cases s with
    | deleteRunPool => cases hs
    | _ => exact ⟨⟨rfl, rfl, fun _ _ => rfl⟩, trivial⟩
  | asset s => exact ⟨⟨rfl, rfl, fun _ _ => rfl⟩, trivial⟩
  | fleet s => cases hs

theorem DB.hasRun_iff : db.hasRun run = true ↔
    ∃ r ∈ db.runs.rows, r.id = run.id ∧ r.profile = run.profile ∧ r.poolID = run.poolID := by
  simp only [hasRun, List.any_eq_true, Bool.and_eq_true, beq_iff_eq, and_assoc]

/-- **What `routeTasks` makes of a batch.** -/
theorem routedTo_of_ok {specs out : List TaskSpec} {rt : Routing} {r : ScanRun}
    (hout : routeTasks specs rt = .ok out) (hrt : rt.active = r.poolID)
    (hquiet : r.profile = .passive → ∀ sp ∈ specs, sp.stage.sendsTrafficToTarget = false) :
    ∀ sp ∈ out, RoutedTo r rt.passive sp := by
  obtain ⟨rfl, hsome⟩ := routeTasks_ok hout
  intro sp' hsp'
  obtain ⟨sp, hsp, rfl⟩ := List.mem_map.mp hsp'
  refine ⟨by rw [← hrt]; rfl, ?_, fun hpassive => hquiet hpassive sp hsp⟩
  show (if sp.stage.sendsTrafficToTarget then rt.active else some rt.passive) ≠ none
  split
  · rename_i hsends
    exact Option.isSome_iff_ne_none.mp (hsome sp hsp hsends)
  · exact Option.some_ne_none _

/-- `Advance` gives its tasks the right pools. -/
theorem advance_routes (hrun : db.hasRun run = true) :
    Contract allowPrivate run (routePre db.runs.rows) where
  quiet _ _ _ hs := routePre_of_quiet hs
  origins _ _ _ := ⟨⟨rfl, rfl, fun _ _ => rfl⟩, trivial⟩
  insert h specs rt out hactive _ _ hrt hpassive hout := by
    obtain ⟨r, hr, hid, hprofile, hpool⟩ := DB.hasRun_iff.mp hrun
    refine ⟨⟨rfl, rfl, fun _ _ => rfl⟩, r, hr, hid, rt.passive, hpassive, ?_⟩
    exact routedTo_of_ok hout (hrt.trans hpool.symm)
      fun hpassive => absurd (hprofile.symm.trans hpassive) hactive
  finish _ _ := ⟨⟨rfl, rfl, fun _ _ => rfl⟩, trivial⟩

theorem sends_planTarget {scopeTargets : List ScopeTarget} {t : RunTarget} {sp : TaskSpec}
    (hsp : sp ∈ (planTarget allowPrivate true scopeTargets t).1) :
    sp.stage.sendsTrafficToTarget = false := by
  unfold planTarget at hsp
  cases hkind : t.kind with
  | domain =>
    rw [hkind] at hsp
    rcases List.mem_cons.mp hsp with rfl | hsp
    · rfl
    · rw [List.mem_singleton.mp hsp]
      rfl
  | ip | cidr | asn =>
    rw [hkind] at hsp
    cases hsp

/-- `PlanInitial` gives its tasks the right pools. -/
theorem planInitial_routes {targets : List RunTarget} {scopeTargets : List ScopeTarget}
    (hrun : db.hasRun run = true) :
    FirstContract allowPrivate run targets scopeTargets (fun _ => True)
      (routePre db.runs.rows) where
  quiet _ _ _ _ hs := ⟨routePre_of_quiet hs, fun _ => trivial⟩
  start _ _ := ⟨⟨⟨rfl, rfl, fun _ _ => rfl⟩, trivial⟩, fun _ => trivial⟩
  empty _ _ := ⟨⟨rfl, rfl, fun _ _ => rfl⟩, trivial⟩
  insert h specs rt out _ _ hplanned hrt hpassive hout := by
    obtain ⟨r, hr, hid, hprofile, hpool⟩ := DB.hasRun_iff.mp hrun
    refine ⟨⟨rfl, rfl, fun _ _ => rfl⟩, r, hr, hid, rt.passive, hpassive, ?_⟩
    refine routedTo_of_ok hout (hrt.trans hpool.symm) fun hquiet sp hsp => ?_
    have hflag : (run.profile == .passive) = true := by rw [← hprofile, hquiet]; rfl
    rcases hplanned sp hsp with ⟨t, -, hsp⟩ | hbrute
    · rw [hflag] at hsp
      exact sends_planTarget hsp
    · rw [hbrute]
      rfl

/-- **Every request keeps to it.** -/
theorem plannerRequest_meets (cfg : ControlConfig) {q : PlannerRequest} (hq : q.known db = true) :
    Meets (routePre db.runs.rows) [] (q.prog cfg) fun _ _ => True := by
  cases q with
  | planInitial run targets scopeTargets =>
    exact meets_bind.mpr ((planInitial_meets (planInitial_routes hq) trivial).mono
      fun _ _ _ => trivial)
  | advance run =>
    exact meets_bind.mpr ((advance_meets (advance_routes hq)).mono fun _ _ _ => trivial)
  | gateway req =>
    exact (gatewayRequest_meets cfg.gateway req).weaken fun _ _ _ => routePre_of_gateway

end Contract

/-! ### The runs and their tasks -/

/-- The run is the same, as far as where its tasks go. -/
structure SameExit (r r' : ScanRun) : Prop where
  id : r'.id = r.id
  profile : r'.profile = r.profile
  poolID : r'.poolID = r.poolID

/-- The runs are the same, each up to what does not decide where its tasks go. -/
structure SameExits (db db' : DB) : Prop where
  after : ∀ r ∈ db.runs.rows, ∃ r' ∈ db'.runs.rows, SameExit r r'
  before : ∀ r' ∈ db'.runs.rows, ∃ r ∈ db.runs.rows, SameExit r r'

/-- The run is passive and has no task that sends traffic. -/
def QuietRun (db : DB) (r : ScanRun) : Prop :=
  r.profile = .passive → ∀ t ∈ db.tasks.rows, t.runID = r.id → t.stage.sendsTrafficToTarget = false

section Step

variable {out : Outside} {env : Env} {db₀ db db' : DB} {h : Hist Stmt} {s : Stmt β} {b : β}

theorem sameExit_of_step (hs : s.Steady) {r r' : ScanRun} (hstep : Stmt.RunStep env db s r r') :
    SameExit r r' where
  id := hstep.id
  profile := hstep.profile
  poolID := by rw [hstep.poolID, Stmt.poolAfter, hs.binds, hs.drops]

theorem SameExits.step (hsame : SameExits db₀ db) (hs : s.Steady)
    (hexec : s.exec out env db = some (b, db')) : SameExits db₀ db' where
  after r₀ hr₀ := by
    obtain ⟨r, hr, hid, hprofile, hpool⟩ := hsame.after r₀ hr₀
    obtain ⟨r', hr', hstep⟩ := Stmt.run_after hexec hr
    obtain ⟨hid', hprofile', hpool'⟩ := sameExit_of_step hs hstep
    exact ⟨r', hr', hid'.trans hid, hprofile'.trans hprofile, hpool'.trans hpool⟩
  before r' hr' := by
    rcases Stmt.run_before hexec hr' with ⟨r, hr, hstep⟩ | hnew
    · obtain ⟨r₀, hr₀, hid, hprofile, hpool⟩ := hsame.before r hr
      obtain ⟨hid', hprofile', hpool'⟩ := sameExit_of_step hs hstep
      exact ⟨r₀, hr₀, hid'.trans hid, hprofile'.trans hprofile, hpool'.trans hpool⟩
    · rw [hs.created] at hnew
      cases hnew

/-- A statement that inserts only what is routed right leaves a passive run quiet. -/
theorem QuietRun.step {r : ScanRun} (hr : r ∈ db₀.runs.rows) (hq : QuietRun db r)
    (hpre : routePre db₀.runs.rows h β s) (hexec : s.exec out env db = some (b, db')) :
    QuietRun db' r := by
  intro hpassive t' ht' hrun
  rcases Stmt.task_before hexec ht' with ⟨t, ht, hstep⟩ | hnew
  · obtain ⟨-, hrun', hstage, -⟩ := hstep.fixed
    rw [hstage]
    exact hq hpassive t ht (hrun'.symm.trans hrun)
  · cases s with
    | task s =>
      cases s with
      | insertTasks runID specs =>
        obtain ⟨r', hr', hid, passive, -, hall⟩ := hpre.2
        obtain ⟨sp, hsp, id, rfl⟩ := Store.mem_newTasks hnew
        have heq : r' = r := Table.eq_of_key hr' hr (hid.trans hrun)
        exact (hall sp hsp).quiet (heq ▸ hpassive)
      | _ => cases hnew
    | _ => cases hnew

end Step

/-! ### The system -/

section System

variable {cfg : ControlConfig} {out : Outside} {db : DB}

/-- What holds in every state: the runs have the exits they had, and the passive ones among them
that were quiet still are. -/
def Routing.Inv (db st : DB) : Prop :=
  SameExits db st ∧ ∀ r ∈ db.runs.rows, QuietRun db r → QuietRun st r

theorem hasRun_of_sameExits {st : DB} (hsame : SameExits db st) {run : ScanRun}
    (h : st.hasRun run = true) : db.hasRun run = true := by
  obtain ⟨r', hr', hid', hprofile', hpool'⟩ := DB.hasRun_iff.mp h
  obtain ⟨r, hr, hid, hprofile, hpool⟩ := hsame.before r' hr'
  exact DB.hasRun_iff.mpr
    ⟨r, hr, hid.symm.trans hid', hprofile.symm.trans hprofile', hpool.symm.trans hpool'⟩

theorem planner_inductive : System.Inductive (plannerSystem cfg out) (fun _ _ _ _ => True)
    (routePre db.runs.rows) (fun _ _ => True) (Routing.Inv db) (fun _ _ => True) where
  spawn st q hA hq := by
    have hknown : q.known db = true := by
      cases q with
      | planInitial run | advance run => exact hasRun_of_sameExits hA.1 hq
      | gateway req => rfl
    exact ⟨trivial, plannerRequest_meets cfg hknown⟩
  step hc _ hpre _ hexec :=
    ⟨⟨hc.state.1.step hpre.1 hexec, fun r hr hq => (hc.state.2 r hr hq).step hr hpre hexec⟩,
      trivial, fun _ _ _ _ h => h⟩
  fail _ _ _ := trivial

/-- A statement that is routed right for the runs there were is so for the runs there are. -/
theorem routed_of_sameExits {st : DB} (hsame : SameExits db st) {h : Hist Stmt} {s : Stmt β}
    (hs : s.routed db.runs.rows h) : s.routed st.runs.rows h := by
  cases s with
  | task s =>
    cases s with
    | insertTasks runID specs =>
      obtain ⟨r, hr, hid, passive, hpassive, hall⟩ := hs
      obtain ⟨r', hr', hid', hprofile', hpool'⟩ := hsame.after r hr
      refine ⟨r', hr', hid'.trans hid, passive, hpassive, fun sp hsp => ?_⟩
      obtain ⟨hpool, hsome, hquiet⟩ := hall sp hsp
      exact ⟨hpool'.symm ▸ hpool, hsome, fun hp => hquiet (hprofile'.symm.trans hp)⟩
    | _ => trivial
  | _ => trivial

end System

/-- **Every task goes where it should.** Whatever calls of `PlanInitial` and `Advance` are made for
the runs of a database, and whatever the workers report: each statement that inserts tasks gives
each the right pool, and a passive run that had no task that sends traffic never gets one. -/
theorem planner_routes_right (cfg : ControlConfig) (out : Outside) (db : DB)
    (es : List (Event PlannerRequest Env)) :
    (plannerSystem cfg out).Along RoutesRight ⟨db, []⟩ es ∧
      ∀ r ∈ ((plannerSystem cfg out).run ⟨db, []⟩ es).state.runs.rows, QuietRun db r →
        QuietRun ((plannerSystem cfg out).run ⟨db, []⟩ es).state r := by
  have hstart : Routing.Inv db db :=
    ⟨⟨fun r hr => ⟨r, hr, rfl, rfl, rfl⟩, fun r hr => ⟨r, hr, rfl, rfl, rfl⟩⟩, fun _ _ hq => hq⟩
  have hall := (plannerSystem cfg out).along_true ⟨db, []⟩ es
  constructor
  · refine (hall.and_inv (System.Holds.start hstart)
      fun c e hc hok => planner_inductive.next hc hok).imp fun {c i h β s k} hth ⟨_, hc⟩ => ?_
    have hpre := (hc.contract _ (List.mem_of_getElem? hth)).1
    exact ⟨_, hth, routed_of_sameExits hc.state.1 hpre.2⟩
  · intro r' hr' hq
    have hfinal := (planner_inductive.run (System.Holds.start hstart) hall).state
    obtain ⟨r, hr, hid, hprofile, -⟩ := hfinal.1.before r' hr'
    have hq₀ : QuietRun db r :=
        fun hp t ht hrun => hq (hprofile.trans hp) t ht (hrun.trans hid.symm)
    intro hp t ht hrun
    exact hfinal.2 r hr hq₀ (hprofile.symm.trans hp) t ht (hrun.trans hid)

end PinkGlasses
