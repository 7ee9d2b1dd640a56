import PinkGlasses.Lease.Terminal
import PinkGlasses.Store.Grow

/-!
# PinkGlasses.Run.Counters

The counters of a run target against what they count.

`tasks_total` and `tasks_done` are kept beside the rows they stand for: planning adds to the first,
`CompleteTask` to the second, and no statement ever takes from either. So they are right exactly as
long as an edge is counted once and **a task that is done stays done**. `FailTask` and
`FailTaskPermanently` match a lease token that a completed task keeps, and take it back without
uncounting it; and `InsertTasks` counts an origin that is listed twice twice, though the edge is
inserted once. Where neither happens (`CountsOnce`) the counters are what they say
(`counters_tallied`).
-/

namespace PinkGlasses

open Lib Store

variable {β : Type}

/-- The task is done. -/
def doneTask (db : DB) (taskID : UUID) : Bool :=
  db.tasks.rows.any fun t => t.id == taskID && t.status == .done

/-- How many edges a run target has. -/
def originCount (db : DB) (targetID : UUID) : Nat :=
  db.taskOrigins.countP (·.runTargetID == targetID)

/-- How many of them are of a task that is done. -/
def doneCount (db : DB) (targetID : UUID) : Nat :=
  db.taskOrigins.countP fun o => o.runTargetID == targetID && doneTask db o.taskID

/-- **The counters of every run target are right.** -/
def CountersRight (db : DB) : Prop :=
  ∀ r ∈ db.runTargets.rows, r.tasksTotal = originCount db r.id ∧ r.tasksDone = doneCount db r.id ∧
    r.tasksDone ≤ r.tasksTotal
deriving Decidable

/-- The tasks a statement inserts, as they are asked for. -/
def TaskStmt.specs : TaskStmt β → List TaskSpec
  | insertTasks _ specs => specs
  | _ => []

def Stmt.specs : Stmt β → List TaskSpec
  | task s => s.specs
  | _ => []

/-- The origins of a task, without the ones that are none, are listed once. -/
def TaskSpec.OriginsOnce (sp : TaskSpec) : Prop := (sp.origins.filter (· ≠ uuidNil)).Nodup
deriving Decidable

/-- **The condition on a statement**: no task that is done and serves a run target is failed under
the token it still has, and no origin of a new task is listed twice. -/
structure CountsOnce (db : DB) (s : Stmt β) : Prop where
  fail : ∀ t ∈ db.tasks.rows, t.status = .done → (∃ o ∈ db.taskOrigins, o.taskID = t.id) →
    ∀ tok ∈ t.leaseToken, s.fails ≠ some (t.id, tok)
  plan : ∀ sp ∈ s.specs, sp.OriginsOnce

instance (db : DB) (s : Stmt β) : Decidable (CountsOnce db s) :=
  decidable_of_iff (_ ∧ _) ⟨fun h => ⟨h.1, h.2⟩, fun h => ⟨h.1, h.2⟩⟩

/-- What the counters rest on: edges are unique, and both their ends were there when they were
inserted. -/
structure DB.Tallied (db : DB) : Prop where
  nodup : db.taskOrigins.Nodup
  task : ∀ o ∈ db.taskOrigins, o.taskID < db.tasks.next
  target : ∀ o ∈ db.taskOrigins, o.runTargetID < db.runTargets.next
  total : ∀ r ∈ db.runTargets.rows, r.tasksTotal = originCount db r.id
  done : ∀ r ∈ db.runTargets.rows, r.tasksDone = doneCount db r.id

theorem doneCount_le (db : DB) (targetID : UUID) :
    doneCount db targetID ≤ originCount db targetID :=
  List.countP_mono_left fun _ _ h => (Bool.and_eq_true_iff.mp h).1

variable {db db' : DB} {env : Env} {taskID tok : UUID}

theorem DB.Tallied.right (h : db.Tallied) : CountersRight db := by
  intro r hr
  refine ⟨h.total r hr, h.done r hr, ?_⟩
  rw [h.total r hr, h.done r hr]
  exact Int.ofNat_le.mpr (doneCount_le db r.id)

/-! ### Statements that count nothing -/

/-- A run target and what becomes of it when nothing is counted: it keeps its counters, or it is new
and has counted nothing. -/
def CountersKept (db db' : DB) : Prop :=
  ∀ r' ∈ db'.runTargets.rows,
    (∃ r ∈ db.runTargets.rows, r'.id = r.id ∧ r'.tasksTotal = r.tasksTotal ∧
      r'.tasksDone = r.tasksDone) ∨
    (db.runTargets.next ≤ r'.id ∧ r'.tasksTotal = 0 ∧ r'.tasksDone = 0)

theorem CountersKept.of_eq (h : db'.runTargets = db.runTargets) : CountersKept db db' :=
  fun r hr => .inl ⟨r, h ▸ hr, rfl, rfl, rfl⟩

/-- The counters stay right while they and the edges stay, and so does which tasks with an edge are
done. -/
theorem DB.Tallied.frame (h : db.Tallied) (hkept : CountersKept db db')
    (horigins : db'.taskOrigins = db.taskOrigins) (htasks : db.tasks.next ≤ db'.tasks.next)
    (htargets : db.runTargets.next ≤ db'.runTargets.next)
    (hdone : ∀ o ∈ db.taskOrigins, doneTask db' o.taskID = doneTask db o.taskID) : db'.Tallied := by
  have hcount : ∀ id, originCount db' id = originCount db id := fun id => by
    rw [originCount, originCount, horigins]
  have hdoneCount : ∀ id, doneCount db' id = doneCount db id := fun id => by
    rw [doneCount, doneCount, horigins]
    refine List.countP_congr fun o ho => ?_
    rw [hdone o ho]
  -- an edge is to a target that was there, so a new target has none
  have hnew : ∀ id, db.runTargets.next ≤ id → originCount db id = 0 := fun id hid => by
    refine List.countP_eq_zero.mpr fun o ho heq => ?_
    have hlt := h.target o ho
    rw [beq_iff_eq.mp heq] at hlt
    exact Nat.not_lt.mpr hid hlt
  refine ⟨horigins ▸ h.nodup, fun o ho => ?_, fun o ho => ?_, fun r' hr' => ?_, fun r' hr' => ?_⟩
  · exact Nat.lt_of_lt_of_le (h.task o (horigins ▸ ho)) htasks
  · exact Nat.lt_of_lt_of_le (h.target o (horigins ▸ ho)) htargets
  · rcases hkept r' hr' with ⟨r, hr, hid, htotal, -⟩ | ⟨hid, htotal, -⟩
    · rw [hcount, hid, htotal]
      exact h.total r hr
    · rw [hcount, htotal, hnew _ hid]
      rfl
  · rcases hkept r' hr' with ⟨r, hr, hid, -, hdone⟩ | ⟨hid, -, hdone⟩
    · rw [hdoneCount, hid, hdone]
      exact h.done r hr
    · have hle := doneCount_le db r'.id
      rw [hnew _ hid] at hle
      rw [hdoneCount, hdone, Nat.le_zero.mp hle]
      rfl

theorem RunStmt.exec_counters {s : RunStmt β} {b : β} (h : s.exec env db = some (b, db')) :
    CountersKept db db' ∧ db.runTargets.next ≤ db'.runTargets.next := by
  obtain ⟨hnext, g, new, hrows, hg, hnew⟩ := s.exec_targets h
  refine ⟨fun r' hr' => ?_, hnext⟩
  rw [hrows] at hr'
  rcases List.mem_append.mp hr' with hold | hmem
  · obtain ⟨r, hr, rfl⟩ := List.mem_map.mp hold
    exact .inl ⟨r, hr, (hg r).id, (hg r).tasksTotal, (hg r).tasksDone⟩
  · exact .inr (hnew r' hmem).2

/-! ### Statements on tasks -/

namespace TaskStmt

/-- A statement that does not complete tasks leaves none done that was not, and leaves done what it
does not fail. -/
theorem onTask_done {env : Env} {db : DB} {s : TaskStmt β} {t : ScanTask} (hs : s.counts = false)
    (ht : t ∈ db.tasks.rows)
    (hfail : t.status = .done → ∀ tok ∈ t.leaseToken, s.fails ≠ some (t.id, tok)) :
    (s.onTask env db t).status = .done ↔ t.status = .done := by
  constructor
  · intro h
    rcases onTask_finishes h with hold | hfin
    · exact hold
    · cases s with
      | completeTask => cases hs
      | _ => cases hfin
  · intro hdone
    rw [onTask_terminal ht (by rw [hdone]; rfl) (hfail hdone), hdone]

end TaskStmt

theorem doneTask_map {g : ScanTask → ScanTask} (hrows : db'.tasks.rows = db.tasks.rows.map g)
    (hg : ∀ t ∈ db.tasks.rows, (g t).id = t.id ∧
      (t.id = taskID → ((g t).status = .done ↔ t.status = .done))) :
    doneTask db' taskID = doneTask db taskID := by
  rw [doneTask, doneTask, hrows, List.any_map, Bool.eq_iff_iff, List.any_eq_true, List.any_eq_true]
  refine exists_congr fun t => and_congr_right fun ht => ?_
  obtain ⟨hid, hdone⟩ := hg t ht
  simp only [Function.comp_apply, Bool.and_eq_true, beq_iff_eq, hid]
  exact and_congr_right hdone

/-- A statement that neither plans nor completes keeps the counters right. -/
theorem DB.Tallied.uncounted {s : TaskStmt β} {b : β} (hdb : db.Tallied) (hs : s.counts = false)
    (hok : CountsOnce db (.task s)) (h : s.exec env db = some (b, db')) : db'.Tallied := by
  obtain ⟨_, tok, rfl, htargets⟩ := TaskStmt.exec_updated (TaskStmt.plans_of_counts hs) h
  obtain rfl := htargets hs
  refine hdb.frame (.of_eq rfl) rfl (Nat.le_refl _) (Nat.le_refl _) fun o ho =>
    doneTask_map (s.rows_updated env db) fun t ht => ?_
  refine ⟨(s.onTask_fixed env db t).1, fun hid => s.onTask_done hs ht fun hdone => ?_⟩
  exact hok.fail t ht hdone ⟨o, ho, hid.symm⟩

/-! #### Completing a task -/

theorem countP_or {α : Type} {p q : α → Bool} {xs : List α}
    (h : ∀ x ∈ xs, p x = true → q x = false) :
    xs.countP (fun x => p x || q x) = xs.countP p + xs.countP q := by
  induction xs with
  | nil => rfl
  | cons x xs ih =>
    have hrest := ih fun y hy => h y (List.mem_cons_of_mem _ hy)
    have hx := h x List.mem_cons_self
    simp only [List.countP_cons, hrest]
    cases hp : p x with
    | true => simp [hx hp]; omega
    | false => simp; omega

/-- The task that is completed was held, and is done afterwards; no other task comes to be. -/
theorem doneTask_completed (haff : (TaskStmt.completeTask taskID tok).affected env db ≠ 0)
    (hrows : db'.tasks = (TaskStmt.completeTask taskID tok).updated env db) :
    doneTask db taskID = false ∧ ∀ id, doneTask db' id = (doneTask db id || id == taskID) := by
  obtain ⟨t, ht, hheld⟩ := List.countP_pos_iff.mp (Nat.pos_of_ne_zero haff)
  simp only [TaskStmt.selects, heldUnder, Bool.and_eq_true, beq_iff_eq] at hheld
  obtain ⟨⟨hid, htok⟩, hflight⟩ := hheld
  have hnot : t.status ≠ .done := by
    intro heq
    rw [heq] at hflight
    cases hflight
  -- ids are unique, so the row of this task is the one that was completed
  have hrow : ∀ r ∈ db.tasks.rows, r.id = taskID → r = t := fun r hr hr' =>
    Table.eq_of_key hr ht (hr'.trans hid.symm)
  refine ⟨Bool.eq_false_iff.mpr fun hdone => ?_, fun id => ?_⟩
  · obtain ⟨r, hr, hr'⟩ := List.any_eq_true.mp hdone
    simp only [Bool.and_eq_true, beq_iff_eq] at hr'
    exact hnot (hrow r hr hr'.1 ▸ hr'.2)
  -- the completed task now counts; the status of every other is as it was
  · by_cases hsame : id = taskID
    · have hmem : (TaskStmt.completeTask taskID tok).onTask env db t ∈ db'.tasks.rows := by
        rw [hrows]
        exact List.mem_map_of_mem ht
      have hsel : (TaskStmt.completeTask taskID tok).selects env db t = true := by
        simp [TaskStmt.selects, heldUnder, hid, htok, hflight]
      rw [TaskStmt.onTask_selected hsel] at hmem
      have hdone : doneTask db' id = true := by
        refine List.any_eq_true.mpr ⟨_, hmem, ?_⟩
        simp [TaskStmt.sets, hid, hsame]
      rw [hdone, hsame, beq_self_eq_true, Bool.or_true]
    · have hkept : doneTask db' id = doneTask db id := by
        refine doneTask_map (g := (TaskStmt.completeTask taskID tok).onTask env db)
          (by rw [hrows]; rfl) fun r hr => ⟨(TaskStmt.onTask_fixed env db _ r).1, fun hrid => ?_⟩
        rw [TaskStmt.onTask_unselected]
        simp only [TaskStmt.selects, heldUnder, Bool.and_eq_true, beq_iff_eq]
        exact fun h => hsame (hrid.symm.trans h.1.1)
      simp [hkept, hsame]

/-- Among the edges of a target, the one of the completed task is the one more that is done. -/
theorem doneCount_completed (hdb : db.Tallied)
    (haff : (TaskStmt.completeTask taskID tok).affected env db ≠ 0)
    (htasks : db'.tasks = (TaskStmt.completeTask taskID tok).updated env db)
    (horigins : db'.taskOrigins = db.taskOrigins) (id : UUID) :
    doneCount db' id = doneCount db id + if ⟨taskID, id⟩ ∈ db.taskOrigins then 1 else 0 := by
  obtain ⟨hnot, hdone⟩ := doneTask_completed haff htasks
  have hsplit : ∀ o : TaskOrigin, (o.runTargetID == id && (doneTask db o.taskID ||
      o.taskID == taskID)) = ((o.runTargetID == id && doneTask db o.taskID) ||
        o == ⟨taskID, id⟩) := by
    intro o
    obtain ⟨x, y⟩ := o
    rw [Bool.eq_iff_iff]
    simp only [Bool.and_eq_true, Bool.or_eq_true, beq_iff_eq, TaskOrigin.mk.injEq]
    tauto
  rw [doneCount, horigins]
  simp only [hdone, hsplit]
  rw [countP_or, ← List.count, hdb.nodup.count]
  · rfl
  · intro o _ ho
    refine Bool.eq_false_iff.mpr fun heq => ?_
    rw [beq_iff_eq.mp heq, hnot, Bool.and_false] at ho
    cases ho

theorem DB.Tallied.completed {b : Unit} (hdb : db.Tallied)
    (h : (TaskStmt.completeTask taskID tok).exec env db = some (b, db')) : db'.Tallied := by
  simp only [TaskStmt.exec] at h
  split at h
  · cases h
    exact hdb
  · rename_i haff
    have heq := (Prod.mk.inj (Option.some.inj h)).2
    have htasks : db'.tasks = (TaskStmt.completeTask taskID tok).updated env db := by rw [← heq]
    have horigins : db'.taskOrigins = db.taskOrigins := by rw [← heq]
    have htargets : db'.runTargets = bumpDone db taskID := by rw [← heq]
    refine ⟨horigins ▸ hdb.nodup, fun o ho => ?_, fun o ho => ?_, fun r' hr' => ?_,
      fun r' hr' => ?_⟩
    · rw [htasks]
      exact hdb.task o (horigins ▸ ho)
    · rw [htargets]
      exact hdb.target o (horigins ▸ ho)
    · rw [htargets] at hr'
      obtain ⟨r, hr, rfl⟩ := List.mem_map.mp hr'
      rw [originCount, horigins]
      split <;> exact hdb.total r hr
    -- the counter goes up for the targets with an edge from the task, and so does the count
    · rw [htargets] at hr'
      obtain ⟨r, hr, rfl⟩ := List.mem_map.mp hr'
      have hold := hdb.done r hr
      rw [doneCount_completed hdb haff htasks horigins]
      by_cases hedge : ⟨taskID, r.id⟩ ∈ db.taskOrigins
      · simp [hedge, hold]
      · simp [hedge, hold]

/-! #### Planning -/

namespace Store

variable {db db' : DB} {taskID ot : UUID}

theorem insertOrigin_tallied (hdb : db.Tallied) (htask : taskID < db.tasks.next)
    (hnot : doneTask db taskID = false) (hnew : ot ≠ uuidNil → ⟨taskID, ot⟩ ∉ db.taskOrigins)
    (h : insertOrigin taskID ot db = some db') : db'.Tallied := by
  simp only [insertOrigin] at h
  split at h
  · cases h
    exact hdb
  · rename_i hnil
    split at h
    · cases h
    · rename_i htarget
      rw [if_neg (hnew hnil)] at h
      have heq := Option.some.inj h
      have horigins : db'.taskOrigins = db.taskOrigins ++ [⟨taskID, ot⟩] := by rw [← heq]
      have htasks : db'.tasks = db.tasks := by rw [← heq]
      have htargets : db'.runTargets = db.runTargets.update (·.id == ot)
          fun r => { r with tasksTotal := r.tasksTotal + 1 } := by rw [← heq]
      have hlt : ot < db.runTargets.next :=
        Table.lt_next_of_isSome (by simpa [Option.isSome_iff_ne_none] using htarget)
      -- one edge more, of a task that is not done: only the total grows
      have htotal : ∀ id, originCount db' id = originCount db id + if ot = id then 1 else 0 := by
        intro id
        simp [originCount, horigins, List.countP_append, List.countP_singleton]
      have hdone : ∀ id, doneCount db' id = doneCount db id := by
        intro id
        have hsame : ∀ x, doneTask db' x = doneTask db x := fun x => by
          rw [doneTask, doneTask, htasks]
        simp [doneCount, horigins, List.countP_append, hsame, hnot]
      refine ⟨?_, fun o ho => ?_, fun o ho => ?_, fun r' hr' => ?_, fun r' hr' => ?_⟩
      · rw [horigins]
        refine List.Nodup.append hdb.nodup (List.nodup_singleton _) ?_
        exact List.disjoint_singleton.mpr (hnew hnil)
      · rw [htasks]
        rcases List.mem_append.mp (horigins ▸ ho) with hold | hedge
        · exact hdb.task o hold
        · rw [List.mem_singleton.mp hedge]
          exact htask
      · rw [htargets]
        rcases List.mem_append.mp (horigins ▸ ho) with hold | hedge
        · exact hdb.target o hold
        · rw [List.mem_singleton.mp hedge]
          exact hlt
      · rw [htargets] at hr'
        obtain ⟨r, hr, rfl⟩ := List.mem_map.mp hr'
        have hold := hdb.total r hr
        rw [htotal]
        by_cases hsame : r.id = ot
        · simp [hsame, hold]
        · simp [hsame, Ne.symm hsame, hold]
      · rw [htargets] at hr'
        obtain ⟨r, hr, rfl⟩ := List.mem_map.mp hr'
        rw [hdone]
        split <;> exact hdb.done r hr

/-- The edges of a new task are counted once each, if none is listed twice. -/
theorem insertOrigins_tallied {ots : List UUID} (hdb : db.Tallied) (htask : taskID < db.tasks.next)
    (hnot : doneTask db taskID = false) (honce : (ots.filter (· ≠ uuidNil)).Nodup)
    (hnew : ∀ ot ∈ ots, ot ≠ uuidNil → ⟨taskID, ot⟩ ∉ db.taskOrigins)
    (h : ots.foldlM (fun d ot => insertOrigin taskID ot d) db = some db') : db'.Tallied := by
  induction ots generalizing db with
  | nil =>
    cases h
    exact hdb
  | cons ot ots ih =>
    obtain ⟨d, hd, hrest⟩ := Option.bind_eq_some_iff.mp (by simpa using h)
    obtain ⟨hfirst, hothers⟩ := List.forall_mem_cons.mp hnew
    have hframe := insertOrigin_frame hd
    have htasks : d.tasks = db.tasks := by rw [hframe]
    refine ih (insertOrigin_tallied hdb htask hnot hfirst hd) (htasks ▸ htask) ?_ ?_ ?_ hrest
    · rw [doneTask, htasks]
      exact hnot
    · exact (List.Sublist.filter _ (List.sublist_cons_self ot ots)).nodup honce
    · intro x hx hnil hmem
      rcases (mem_insertOrigin hd).mp hmem with hold | ⟨-, hsame⟩
      · exact hothers x hx hnil hold
      · -- the origin would be listed twice
        have hxot : x = ot := (TaskOrigin.mk.inj hsame).2
        rw [hxot] at hx hnil
        rw [List.filter_cons_of_pos (by simpa using hnil)] at honce
        exact (List.nodup_cons.mp honce).1 (List.mem_filter.mpr ⟨hx, by simpa using hnil⟩)

theorem insertTask_tallied {runID : UUID} {sp : TaskSpec} (hdb : db.Tallied) (hsp : sp.OriginsOnce)
    (h : insertTask runID sp db = some db') : db'.Tallied := by
  simp only [insertTask] at h
  split at h
  · cases h
  -- the new task has a fresh id: it has no edges yet and is not done
  · have hfresh : ∀ o ∈ db.taskOrigins, o.taskID ≠ db.tasks.next := fun o ho =>
      Nat.ne_of_lt (hdb.task o ho)
    have hdone : ∀ id, doneTask { db with tasks := db.tasks.insert (newTask runID sp) } id =
        doneTask db id := fun id => by
      show (db.tasks.rows ++ [newTask runID sp db.tasks.next]).any _ = _
      simp [doneTask, newTask]
    have hrow : ({ db with tasks := db.tasks.insert (newTask runID sp) } : DB).Tallied :=
      hdb.frame (.of_eq rfl) rfl (Nat.le_succ _) (Nat.le_refl _) fun o _ => hdone o.taskID
    refine insertOrigins_tallied hrow (Nat.lt_succ_self _) ?_ hsp ?_ h
    · rw [hdone, doneTask, List.any_eq_false]
      intro t ht
      have hlt := db.tasks.bound t ht
      simp [Nat.ne_of_lt hlt]
    · intro ot _ _ hmem
      exact hfresh _ hmem rfl

/-- A batch keeps the counters right, if each of its tasks lists its origins once. -/
theorem insertBatch_tallied {runID : UUID} {specs : List TaskSpec} (hdb : db.Tallied)
    (hspecs : ∀ sp ∈ specs, sp.OriginsOnce)
    (h : specs.foldlM (fun d sp => insertTask runID sp d) db = some db') : db'.Tallied := by
  induction specs generalizing db with
  | nil =>
    cases h
    exact hdb
  | cons sp specs ih =>
    obtain ⟨d, hd, hrest⟩ := Option.bind_eq_some_iff.mp (by simpa using h)
    obtain ⟨hfirst, hothers⟩ := List.forall_mem_cons.mp hspecs
    exact ih (insertTask_tallied hdb hfirst hd) hothers hrest

end Store

/-! ### Whole runs -/

/-- **A statement keeps the counters right**, as long as it counts once. -/
theorem DB.Tallied.after {out : Outside} {s : Stmt β} {b : β} (hdb : db.Tallied)
    (hok : CountsOnce db s) (hexec : s.exec out env db = some (b, db')) : db'.Tallied := by
  cases s with
  | task s =>
    have hexec : s.exec env db = some (b, db') := hexec
    cases hs : s.counts with
    | false => exact hdb.uncounted hs hok hexec
    | true =>
      cases s with
      | insertTasks runID specs =>
        obtain ⟨d, hd, hids⟩ := Option.map_eq_some_iff.mp hexec
        cases hids
        exact insertBatch_tallied hdb hok.plan hd
      | completeTask taskID tok => exact hdb.completed hexec
      | _ => cases hs
  -- the statements on runs, workers, assets and fleets touch neither edges nor counters
  | run s =>
    have hframe := s.exec_frame hexec
    have htasks : db'.tasks = db.tasks := by rw [hframe]
    have horigins : db'.taskOrigins = db.taskOrigins := by rw [hframe]
    obtain ⟨hkept, hnext⟩ := s.exec_counters hexec
    refine hdb.frame hkept horigins (Nat.le_of_eq (by rw [htasks])) hnext fun o _ => ?_
    rw [doneTask, doneTask, htasks]
  | worker s =>
    obtain ⟨g, hrows, hg⟩ := s.exec_tasks hexec
    obtain ⟨hframe, hnext⟩ := s.exec_frame hexec
    have htargets : db'.runTargets = db.runTargets := by rw [hframe]
    have horigins : db'.taskOrigins = db.taskOrigins := by rw [hframe]
    refine hdb.frame (.of_eq htargets) horigins (Nat.le_of_eq hnext.symm)
      (Nat.le_of_eq (by rw [htargets])) fun o _ => doneTask_map hrows fun t _ => ?_
    obtain ⟨worker, pool, heq, -⟩ := hg t
    rw [heq]
    exact ⟨rfl, fun _ => Iff.rfl⟩
  | asset s | fleet s =>
    have hframe := s.exec_frame hexec
    have htasks : db'.tasks = db.tasks := by rw [hframe]
    have horigins : db'.taskOrigins = db.taskOrigins := by rw [hframe]
    have htargets : db'.runTargets = db.runTargets := by rw [hframe]
    refine hdb.frame (.of_eq htargets) horigins (Nat.le_of_eq (by rw [htasks]))
      (Nat.le_of_eq (by rw [htargets])) fun o _ => ?_
    rw [doneTask, doneTask, htasks]

section Run

variable {R ρ : Type} {out : Outside} {accepts : DB → R → Bool} {prog : R → Prog Stmt ρ}

/-- **The counters of every run target are what they say**, in every state of every run whose
statements count once, from any configuration in which they are and for any programs over the
store's statements. -/
theorem counters_tallied {c : Conf Stmt DB ρ} {es : List (Event R Env)} (hdb : c.state.Tallied)
    (hok : (storeSystem out accepts prog).Along (fun c _ _ s => CountsOnce c.state s) c es) :
    CountersRight ((storeSystem out accepts prog).run c es).state :=
  (System.run_keeps (A := DB.Tallied) (fun hold hs hexec => hold.after hs hexec) hdb hok).right

end Run

/-! ### A completed task that is failed -/

/-- The small installation whose task serves a run target, which has counted it. -/
def targetDB : DB :=
  { oneTaskDB with
    runTargets := .ofRows
      [{ id := 1, runID := 1, kind := .ip, value := "192.0.2.1", tasksTotal := 1 }] (by decide)
    taskOrigins := [⟨1, 1⟩] }

theorem targetDB_tallied : targetDB.Tallied where
  nodup := by decide
  task := by decide
  target := by decide
  total := by decide
  done := by decide

/-- The task is leased, and two final deliveries under its lease are let in, the second with an
error. The first completes the task. -/
def deliveredTwice : List (Event GatewayRequest Env) :=
  [.spawn (.dispatchTick 1)] ++ steps 0 6 ++
    [.spawn (finalDelivery "ok"), .spawn (finalDelivery "error")] ++ steps 2 2 ++ steps 1 7

/-- **The task is counted as done, and waits**: the second delivery took it back. -/
theorem failed_task_counted_done :
    ¬ CountersRight ((gatewaySystem {} {}).run ⟨targetDB, []⟩
      (deliveredTwice ++ steps 2 4)).state := by
  decide +kernel

/-- As long as the second delivery is not closed, the target has one task and one that is done. -/
theorem counters_tallied_completed :
    (∃ r ∈ ((gatewaySystem {} {}).run ⟨targetDB, []⟩ deliveredTwice).state.runTargets.rows,
      r.tasksDone = 1 ∧ r.tasksTotal = 1) ∧
    CountersRight ((gatewaySystem {} {}).run ⟨targetDB, []⟩ deliveredTwice).state :=
  ⟨by decide +kernel, counters_tallied targetDB_tallied (by decide +kernel)⟩

end PinkGlasses
