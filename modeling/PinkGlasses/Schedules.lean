import PinkGlasses.Control.Launches
import PinkGlasses.Lib.Loop
import PinkGlasses.Lib.Serial

/-!
# PinkGlasses.Schedules

Scans that recur, and scans that are put off to a time. `Due` starts every schedule whose time has
come: it reads the due ones, and for each of them skips the slot if the company has a run going, or
starts a run and then writes on the schedule what became of it.

* Reading the schedules, starting the run and writing the outcome are **separate statements**, and
  the error of the last one is ignored.
* Three updates move `next_run_at`. A started run and a refusal move it one cadence from the planned
  time, but never into the past (`advanced`); a skipped slot is looked at again in five minutes.
* Every statement that answers whole schedules names the columns of `scheduleCols`, and the last of
  them is `COALESCE(created_by, '')`. The column is a **uuid**, so `''` is read as one, and the
  statement is refused before it touches a row (`scheduleCols_refused`).

The scheduler makes one pass after another (`agenda`). Besides the database and the schedules the
state has a journal of the runs that were created for which schedule, which no statement reads.
Since no pass gets past its first statement, a schedule that nobody edits **stays as it is**
(`passes_keep`): it is on the grid of its cadence, and at most one run is started on its behalf.
-/

namespace PinkGlasses

open Lib Prog

/-- A row of `scan_schedule`. -/
structure Schedule where
  id : UUID
  scopeID : UUID
  profile : RunProfile := .standard
  exit : Exit := .unset
  vpnConfigID : Option UUID := none
  poolID : Option UUID := none
  workerCount : Int := 0
  /-- The cadence; 0 is a one-off at `nextRunAt`. -/
  everyHours : Nat
  enabled : Bool := true
  nextRunAt : Time
  profileID : Option UUID := none
  params : List (String × String) := []
  wordlistIDs : List UUID := []
  targets : List String := []
  targetGroupIDs : List UUID := []
  lastRunID : Option UUID := none
  lastRunAt : Option Time := none
  lastError : Option String := none
  createdBy : Option UUID := none
deriving Repr, DecidableEq

namespace Schedule

/-- `make_interval(hours => every_hours)`. -/
def cadence (sc : Schedule) : Int := 3600 * sc.everyHours

/-- What `ScheduleStarted` and `ScheduleFailed` do to the time and to a one-off. -/
def advanced (now : Time) (sc : Schedule) : Schedule :=
  if sc.everyHours = 0 then { sc with enabled := false }
  else { sc with nextRunAt := max (sc.nextRunAt + sc.cadence) (now + 60) }

end Schedule

/-- The statements of `internal/store/schedule.go` that `Due` issues. -/
inductive ScheduleStmt : Type → Type
  | dueSchedules : ScheduleStmt (List Schedule)
  | scopeHasActiveRun (scopeID : UUID) : ScheduleStmt Bool
  | scheduleStarted (id runID : UUID) : ScheduleStmt Unit
  | scheduleFailed (id : UUID) (reason : String) : ScheduleStmt Unit
  | scheduleSkipped (id : UUID) : ScheduleStmt Unit

/-- The database with the schedules. -/
structure Agenda where
  db : DB
  schedules : Table Schedule Schedule.id

/-- The run is not over yet. -/
def RunStatus.going : RunStatus → Bool
  | .queued | .planning | .running | .paused => true
  | _ => false

/-- `UPDATE scan_schedule … WHERE id=$1`. -/
def Agenda.onSchedule (ag : Agenda) (id : UUID) (f : Schedule → Schedule)
    (hf : ∀ sc, (f sc).id = sc.id) : Agenda :=
  { ag with schedules := ag.schedules.update (·.id == id) f hf }

/-- What `ScheduleStarted` writes. -/
def Schedule.started (now : Time) (runID : UUID) (sc : Schedule) : Schedule :=
  { sc.advanced now with lastRunID := some runID, lastRunAt := some now, lastError := none }

/-- What `ScheduleFailed` writes. -/
def Schedule.failed (now : Time) (reason : String) (sc : Schedule) : Schedule :=
  { sc.advanced now with lastError := some reason }

/-- What `ScheduleSkipped` writes. -/
def Schedule.skipped (now : Time) (sc : Schedule) : Schedule :=
  { sc with nextRunAt := now + 300 }

theorem Schedule.advanced_id (now : Time) (sc : Schedule) : (sc.advanced now).id = sc.id := by
  unfold advanced
  split <;> rfl

/-! ### The columns -/

/-- The types of a column that a literal can stand beside. -/
inductive SqlType
  | text | uuid
deriving Repr, DecidableEq

/-- Whether a literal is a value of the type: a uuid is 32 digits, besides hyphens and braces. -/
def SqlType.reads : SqlType → String → Bool
  | .text, _ => true
  | .uuid, s => (s.toList.filter fun c => c != '-' && c != '{' && c != '}').length = 32

/-- The type of `scan_schedule.created_by`. -/
def createdByType : SqlType := .uuid

/-- Whether the database accepts a statement that names the columns. `COALESCE(created_by, '')` has
one type, the column's, and the literal is read as a value of it when the statement is parsed. -/
def scheduleCols : Bool := createdByType.reads ""

/-- A statement that answers the columns. -/
def answering {α : Type} (r : Option α) : Option α := if scheduleCols then r else none

/-- **No schedule can be read.** -/
@[simp] theorem scheduleCols_refused {α : Type} (r : Option α) : answering r = none := rfl

/-- What a statement answers and does; `none` when it is refused. -/
def ScheduleStmt.exec (env : Env) (ag : Agenda) : {β : Type} → ScheduleStmt β → Option (β × Agenda)
  | _, dueSchedules =>
    let due := ag.schedules.rows.filter fun sc => sc.enabled && sc.nextRunAt ≤ env.now
    answering (some (due.insertionSort fun sc sc' => sc.nextRunAt ≤ sc'.nextRunAt, ag))
  | _, scopeHasActiveRun scopeID => some (ag.db.runs.rows.any fun r =>
      r.scopeID == scopeID && r.status.going, ag)
  | _, scheduleStarted id runID =>
    -- `last_run_id` references `scan_run`
    if (ag.schedules.find? id).isSome && (ag.db.runs.find? runID).isNone then none
    else some ((), ag.onSchedule id (.started env.now runID) (Schedule.advanced_id env.now))
  | _, scheduleFailed id reason =>
    some ((), ag.onSchedule id (.failed env.now reason) (Schedule.advanced_id env.now))
  | _, scheduleSkipped id => some ((), ag.onSchedule id (.skipped env.now) fun _ => rfl)

/-- The statements of a pass: those on schedules, and those of a launch, each with the schedule the
launch is for. -/
inductive AgendaStmt (β : Type) : Type
  | schedule (s : ScheduleStmt β)
  | launch (forID : UUID) (s : Stmt β)

def AgendaStmt.exec (out : Outside) {β : Type} (s : AgendaStmt β) (env : Env) (ag : Agenda) :
    Option (β × Agenda) :=
  match s with
  | .schedule s => s.exec env ag
  | .launch _ s => (s.exec out env ag.db).map fun r => (r.1, { ag with db := r.2 })

namespace Schedules

/-- The options a schedule launches with; `token` is what a local exit draws. -/
def options (token : String) (sc : Schedule) : LaunchOptions where
  profile := sc.profile
  all := sc.targets.isEmpty && sc.targetGroupIDs.isEmpty
  targets := sc.targets
  exit := sc.exit
  workerCount := sc.workerCount
  params := sc.params
  targetGroupIDs := sc.targetGroupIDs.map .id
  profileID := sc.profileID.elim .absent .id
  wordlistIDs := sc.wordlistIDs.map .id
  vpnConfigID := sc.vpnConfigID.elim .absent .id
  poolID := sc.poolID.elim .absent .id
  token := token

/-- `Start` on behalf of a schedule. -/
def startFor (cfg : LaunchConfig) (token : String) (sc : Schedule) :
    Prog AgendaStmt (Except Refusal ScanRun) :=
  (Launch.start cfg sc.scopeID (options token sc)).embed fun _ s => .launch sc.id s

/-- What `Due` does for one schedule; `token` is drawn for each. -/
def dueOne (cfg : LaunchConfig) (token : UUID → String) (sc : Schedule) : Prog AgendaStmt Unit := do
  match ← issue (.schedule (.scopeHasActiveRun sc.scopeID)) with
  | none => pure ()
  | some true =>
    let _ ← issue (.schedule (.scheduleSkipped sc.id))
  | some false =>
    match ← startFor cfg (token sc.id) sc with
    | .error ref =>
      let _ ← issue (.schedule (.scheduleFailed sc.id ref.msg))
    | .ok run =>
      let _ ← issue (.schedule (.scheduleStarted sc.id run.id))

def due (cfg : LaunchConfig) (token : UUID → String) : Prog AgendaStmt Unit := do
  match ← issue (.schedule .dueSchedules) with
  | none => pure ()
  | some due => forEach (dueOne cfg token) due

/-! ### The scheduler -/

/-- A run that was created on behalf of a schedule. -/
structure Note where
  id : UUID
  runID : UUID
deriving Repr, DecidableEq

/-- What a statement adds to the journal. -/
def notes : {β : Type} → AgendaStmt β → β → List Note
  | _, .launch id (.run (.createRun _ _ _)), (run, _) => [⟨id, run.id⟩]
  | _, _, _ => []

/-- How many runs were created on behalf of the schedule. -/
def createdFor (id : UUID) (js : List Note) : Nat := js.countP (·.id == id)

/-- **The scheduler**: pass after pass of `Due`, each at the mercy of the database, while everybody
else does what they like to the database and to the schedules. -/
def agenda (cfg : LaunchConfig) (out : Outside) :
    Process AgendaStmt (Agenda × List Note) Env (UUID → String) Unit (Agenda → Agenda) where
  toSystem := System.logged
    { exec := fun s env ag => s.exec out env ag
      accepts := fun _ _ => true
      prog := due cfg } notes
  act := fun f st => (f st.1, st.2)

/-- Nobody edits the schedule. -/
def Unedited (id : UUID) (st : Agenda × List Note) (f : Agenda → Agenda) : Prop :=
  (f st.1).schedules.find? id = st.1.schedules.find? id
deriving Decidable

/-! ### A company with one schedule -/

/-- A daily passive scan planned for time 0. -/
def daily : Schedule :=
  { id := 1, scopeID := 1, profile := .passive, everyHours := 24, nextRunAt := 0 }

/-- A company with one domain and that scan. -/
def oneCompany : Agenda where
  db :=
    { pools := oneTaskDB.pools
      scopeTargets := .ofRows
        [{ id := 1, scopeID := 1, kind := .domain, value := "a.example", mode := .active }]
        (by decide) }
  schedules := .ofRows [daily] (List.nodup_singleton _)

/-- A pass that is given all the time it needs, at one moment. -/
def passAt (now : Time) : List (Process.Event (UUID → String) Env (Agenda → Agenda)) :=
  .start (fun _ => "") :: List.replicate 20 (.step { now })

/-- Every run is over. -/
def finishRuns (ag : Agenda) : Agenda :=
  { ag with db := { ag.db with
      runs := ag.db.runs.update (fun _ => true) fun r => { r with status := .completed } } }

/-! ### What passes do -/

section Passes

variable (cfg : LaunchConfig) (out : Outside)
  {es : List (Process.Event (UUID → String) Env (Agenda → Agenda))}

/-- A pass has not read the schedules yet, or is over. -/
def Waiting (p : Prog AgendaStmt Unit) : Prop := (∃ token, p = due cfg token) ∨ p = pure ()

variable {cfg}

/-- The statement of a pass that waits is the reading of the schedules, and without an answer the
pass is over. -/
theorem Waiting.call {β : Type} {s : AgendaStmt β} {k : Option β → Prog AgendaStmt Unit}
    (h : Waiting cfg (.call s k)) :
    (∀ out env ag, s.exec out env ag = none) ∧ Waiting cfg (k none) := by
  rcases h with ⟨token, heq⟩ | heq
  · cases heq
    exact ⟨fun _ _ _ => rfl, .inr rfl⟩
  · cases heq

variable (cfg)

/-- **What others leave is left**: an assertion that nobody else breaks holds after every sequence
of passes, crashes and failed statements. -/
theorem passes_keep {A : Agenda × List Note → Prop}
    {act : Agenda × List Note → (Agenda → Agenda) → Prop}
    (hact : ∀ {st f}, A st → act st f → A (f st.1, st.2)) {st : Agenda × List Note} (hA : A st)
    (hok : (agenda cfg out).Along { act } (Process.idle st) es) :
    A ((agenda cfg out).run (Process.idle st) es).state := by
  have hpass : Process.Throughout (agenda cfg out) { act } (fun _ _ _ => True) (fun _ _ => True) A
      fun _ t => Waiting cfg t.prog :=
    { start := fun {_ token} _ _ => ⟨.inl ⟨token, rfl⟩, Prog.meets_true _ _⟩
      fail := fun _ hwait _ => hwait.call.2
      act := fun hA hf => ⟨hact hA hf, fun _ hwait => hwait⟩
      step := fun _ hwait _ _ hexec =>
        -- the statement of a pass that waits has no effect
        nomatch (hwait.call.1 ..).symm.trans (System.logged_exec _ hexec).1 }
  exact hpass.run hA hok

/-- **A recurring schedule that nobody edits is at its planned time plus a whole number of
cadences**, after every sequence of passes, crashes and failed statements. -/
theorem planned_on_grid {ag : Agenda} {sc : Schedule} (hsc : sc ∈ ag.schedules.rows)
    (hok : (agenda cfg out).Along { act := Unedited sc.id } (Process.idle (ag, [])) es) :
    ∃ sc' ∈ ((agenda cfg out).run (Process.idle (ag, [])) es).state.1.schedules.rows,
      sc'.id = sc.id ∧ sc'.everyHours = sc.everyHours ∧
        ∃ k : Nat, sc'.nextRunAt = sc.nextRunAt + k * sc.cadence := by
  have hrow := passes_keep cfg out (A := fun st => st.1.schedules.find? sc.id = some sc)
    (fun hA hf => hf.trans hA) (Table.find?_eq_some.mpr ⟨hsc, rfl⟩) hok
  exact ⟨sc, (Table.find?_eq_some.mp hrow).1, rfl, rfl, 0, by simp⟩

/-- Two days of a daily scan, in which every other run ends. -/
theorem planned_on_grid_two_days :
    daily ∈ oneCompany.schedules.rows ∧
    (agenda {} {}).Along { act := Unedited 1 } (Process.idle (oneCompany, []))
      (passAt 0 ++ .act finishRuns :: passAt 86430) ∧
    ∃ sc ∈ ((agenda {} {}).run (Process.idle (oneCompany, []))
        (passAt 0 ++ .act finishRuns :: passAt 86430)).state.1.schedules.rows,
      sc.id = 1 ∧ sc.everyHours = 24 ∧ ∃ k : Nat, sc.nextRunAt = 0 + k * 86400 := by
  suffices h : _ ∧ _ from ⟨h.1, h.2, planned_on_grid {} {} h.1 h.2⟩
  decide +kernel

/-- **At most one run is started on behalf of a schedule**, whatever others do and wherever passes
crash or statements fail. -/
theorem one_off_starts_once (ag : Agenda) (id : UUID) :
    createdFor id ((agenda cfg out).run (Process.idle (ag, [])) es).state.2 ≤ 1 := by
  have hnone : ((agenda cfg out).run (Process.idle (ag, [])) es).state.2 = [] :=
    passes_keep cfg out (A := fun st => st.2 = []) (fun hA _ => hA) rfl
      ((agenda cfg out).along_default _ es)
  rw [hnone]
  exact Nat.zero_le 1

end Passes

end Schedules

end PinkGlasses
