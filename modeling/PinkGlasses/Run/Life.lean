import PinkGlasses.Control.Trace
import PinkGlasses.Planner.Pass

/-!
# PinkGlasses.Run.Life

The life of a run, one move after the other: `PlanInitial` and `Advance` are called for it, and in
between **the rest of the program does whatever it likes with the database**, one statement at a
time, except insert tasks, which only the planner does. So workers report any summary at any time,
and other runs live their own lives.
-/

namespace PinkGlasses

open Lib Prog Planner

/-- What happens next. -/
inductive Move : Type 1
  | planInitial (targets : List RunTarget) (scopeTargets : List ScopeTarget)
  | advance
  /-- A statement of anything else. -/
  | other {β : Type} (s : Stmt β) (h : s.plans = false)

section Life

variable (cfg : ControlConfig) (out : Outside) (runID : UUID)

/-- The database after a move. The planner is called with the run as it is in the database. -/
def Move.after (env : Env) (db : DB) : Move → DB
  | planInitial targets scopeTargets => match db.runs.find? runID with
    | some run =>
      (alone cfg out env db
        (Planner.planInitial cfg.launch.allowPrivate run targets scopeTargets)).1
    | none => db
  | advance => match db.runs.find? runID with
    | some run => (alone cfg out env db (Planner.advance cfg.launch.allowPrivate run)).1
    | none => db
  | other s _ => match s.exec out env db with
    | some (_, db') => db'
    | none => db

/-- The database after some moves. -/
def live : DB → List (Env × Move) → DB
  | db, [] => db
  | db, (env, m) :: ms => live (m.after cfg out runID env db) ms

/-- Every move is made where `ok` allows it. -/
def Through (ok : DB → Move → Prop) : DB → List (Env × Move) → Prop
  | _, [] => True
  | db, (env, m) :: ms => ok db m ∧ Through ok (m.after cfg out runID env db) ms

instance decidableThrough (ok : DB → Move → Prop) [∀ db m, Decidable (ok db m)] :
    (db : DB) → (ms : List (Env × Move)) → Decidable (Through cfg out runID ok db ms)
  | _, [] => isTrue trivial
  | db, (env, m) :: ms =>
    have := decidableThrough ok (m.after cfg out runID env db) ms
    inferInstanceAs (Decidable
      (ok db m ∧ Through cfg out runID ok (m.after cfg out runID env db) ms))

variable {cfg out runID}

theorem live_append (db : DB) (ms ms' : List (Env × Move)) :
    live cfg out runID db (ms ++ ms') = live cfg out runID (live cfg out runID db ms) ms' := by
  induction ms generalizing db with
  | nil => rfl
  | cons m ms ih => exact ih _

variable {ok : DB → Move → Prop} {db : DB} {ms : List (Env × Move)} {J : DB → Prop}

theorem through_append {ms' : List (Env × Move)} (h : Through cfg out runID ok db (ms ++ ms')) :
    Through cfg out runID ok db ms ∧
      Through cfg out runID ok (live cfg out runID db ms) ms' := by
  induction ms generalizing db with
  | nil => exact ⟨trivial, h⟩
  | cons m ms ih => exact ⟨⟨h.1, (ih h.2).1⟩, (ih h.2).2⟩

/-- What every allowed move keeps, a life keeps. -/
theorem live_keeps (hmove : ∀ env db m, J db → ok db m → J (m.after cfg out runID env db))
    (hJ : J db) (hok : Through cfg out runID ok db ms) : J (live cfg out runID db ms) := by
  induction ms generalizing db with
  | nil => exact hJ
  | cons m ms ih => exact ih (hmove m.1 db m.2 hJ hok.1) hok.2

/-! ### The moves -/

/-- **What is kept by the calls of the planner, as they are, and by every other statement `ok`
allows is kept by every move.** -/
structure Keeps (cfg : ControlConfig) (out : Outside) (runID : UUID) (J : DB → Prop)
    (ok : DB → Move → Prop) : Prop where
  first : ∀ {env db db₁ db' run targets scopeTargets specs}, J db → run ∈ db.runs.rows →
    run.id = runID → ok db (.planInitial targets scopeTargets) →
    Starts cfg out env cfg.launch.allowPrivate run targets scopeTargets db db₁ db' specs → J db'
  pass : ∀ {db db' run}, J db → run ∈ db.runs.rows → run.id = runID → ok db .advance →
    Plans cfg.launch.allowPrivate run db db' → J db'
  finish : ∀ {env db db' run}, J db → run.id = runID → Finishes cfg out env run db db' → J db'
  other : ∀ {env db db' β} {s : Stmt β} {b h}, J db → ok db (.other s h) →
    s.exec out env db = some (b, db') → J db'

theorem labeled_keeps {env : Env} {db' : DB}
    (label : ∀ {db db' β} {s : Stmt β} {b}, J db → Labels β s →
      s.exec out env db = some (b, db') → J db')
    (hJ : J db) (h : Labeled cfg out env db db') : J db' :=
  h.keeps hJ fun hold hs hexec => label hold hs hexec

theorem Keeps.and {J' : DB → Prop} {ok' : DB → Move → Prop} (hk : Keeps cfg out runID J ok)
    (hk' : Keeps cfg out runID J' ok') :
    Keeps cfg out runID (fun db => J db ∧ J' db) fun db m => ok db m ∧ ok' db m where
  first hJ hmem hid hok h := ⟨hk.first hJ.1 hmem hid hok.1 h, hk'.first hJ.2 hmem hid hok.2 h⟩
  pass hJ hmem hid hok h := ⟨hk.pass hJ.1 hmem hid hok.1 h, hk'.pass hJ.2 hmem hid hok.2 h⟩
  finish hJ hid h := ⟨hk.finish hJ.1 hid h, hk'.finish hJ.2 hid h⟩
  other hJ hok h := ⟨hk.other hJ.1 hok.1 h, hk'.other hJ.2 hok.2 h⟩

theorem Keeps.move (hk : Keeps cfg out runID J ok) (env : Env) (db : DB) (m : Move) (hJ : J db)
    (hok : ok db m) : J (m.after cfg out runID env db) := by
  cases m with
  | planInitial targets scopeTargets =>
    unfold Move.after
    cases hrun : db.runs.find? runID with
    | none => exact hJ
    | some run =>
      obtain ⟨hmem, rfl⟩ := Table.find?_eq_some.mp hrun
      obtain ⟨db₁, specs, hstarts⟩ := @alone_planInitial cfg out env db
        cfg.launch.allowPrivate run targets scopeTargets
      exact hk.first hJ hmem rfl hok hstarts
  | advance =>
    unfold Move.after
    cases hrun : db.runs.find? runID with
    | none => exact hJ
    | some run =>
      obtain ⟨hmem, rfl⟩ := Table.find?_eq_some.mp hrun
      have hpass := @alone_advance cfg out env db cfg.launch.allowPrivate run
      show J (alone cfg out env db (Planner.advance cfg.launch.allowPrivate run)).1
      generalize (alone cfg out env db (Planner.advance cfg.launch.allowPrivate run)).1 = db'
        at hpass ⊢
      -- the planner finds nothing, plans, or plans and then ends the run
      cases hpass with
      | idle => exact hJ
      | plans hplans => exact hk.pass hJ hmem rfl hok hplans
      | finishes hplans hfin => exact hk.finish (hk.pass hJ hmem rfl hok hplans) rfl hfin
  | other s h =>
    show J (match s.exec out env db with | some (_, db') => db' | none => db)
    cases hexec : s.exec out env db with
    | none => exact hJ
    | some r => exact hk.other hJ hok hexec

theorem Keeps.live (hk : Keeps cfg out runID J ok) (hJ : J db)
    (hok : Through cfg out runID ok db ms) : J (live cfg out runID db ms) :=
  live_keeps hk.move hJ hok

end Life

/-! ### What a statement leaves of the tasks -/

section Tasks

variable {β : Type} {out : Outside} {env : Env} {db db' : DB} {s : Stmt β} {b : β}

theorem plans_of_labels (hs : Labels β s) : s.plans = false := by
  cases s with
  | run s | worker s | asset s | fleet s => rfl
  | task s => exact Stmt.plans_of_quiet hs

theorem inserted_of_not_plans (hs : s.plans = false) : s.inserted db = [] := by
  cases s with
  | task s =>
    cases s with
    | insertTasks => cases hs
    | _ => rfl
  | _ => rfl

theorem exec_tasks_moved (hs : s.plans = false) (hexec : s.exec out env db = some (b, db')) :
    ∃ g, db'.tasks.rows = db.tasks.rows.map g ∧ ∀ t, Stmt.TaskStep env db s t (g t) := by
  obtain ⟨g, hrows, hg⟩ := Stmt.exec_tasks hexec
  rw [inserted_of_not_plans hs, List.append_nil] at hrows
  exact ⟨g, hrows, hg⟩

theorem inScan_before {runID : UUID} {ip : String} (hs : s.plans = false)
    (hexec : s.exec out env db = some (b, db')) (h : InScan db' runID ip) : InScan db runID ip := by
  obtain ⟨t', ht', hrun, hstage, hip⟩ := h
  obtain ⟨g, hrows, hg⟩ := exec_tasks_moved hs hexec
  rw [hrows] at ht'
  obtain ⟨t, ht, rfl⟩ := List.mem_map.mp ht'
  obtain ⟨-, hrun', hstage', htarget, -⟩ := (hg t).fixed
  exact ⟨t, ht, hrun'.symm.trans hrun, hstage'.symm.trans hstage, htarget ▸ hip⟩

theorem inScan_labeled {cfg : ControlConfig} {runID : UUID} {ip : String}
    (hl : Labeled cfg out env db db') (h : InScan db' runID ip) : InScan db runID ip := by
  have hkeep : ∀ ip, InScan db' runID ip → InScan db runID ip :=
    hl.keeps (J := fun d => ∀ ip, InScan d runID ip → InScan db runID ip) (fun _ h => h)
      fun hold hs hexec ip hin => hold ip (inScan_before (plans_of_labels hs) hexec hin)
  exact hkeep ip h

end Tasks

end PinkGlasses
