import PinkGlasses.Store.Stmt

/-!
# PinkGlasses.Store.Grow

What **no statement takes back**. Runs, their targets, their tasks and the origins of these are
never deleted, a company's addresses neither, and what identifies a row stays as it was
inserted. `Grows` collects these facts; it is a preorder, and every statement is a step of it
(`Stmt.exec_grows`). What a request has read at some point is therefore, as far as it is about these
columns, still in the database later.
-/

namespace PinkGlasses

open Lib Store

variable {β : Type}

/-- A run target and what becomes of it: its status and its counters can change. -/
structure SameTarget (t t' : RunTarget) : Prop where
  id : t'.id = t.id
  runID : t'.runID = t.runID
  kind : t'.kind = t.kind
  value : t'.value = t.value

theorem SameTarget.refl (t : RunTarget) : SameTarget t t := ⟨rfl, rfl, rfl, rfl⟩

theorem SameTarget.trans {t t' t'' : RunTarget} (h : SameTarget t t') (h' : SameTarget t' t'') :
    SameTarget t t'' :=
  ⟨h'.id.trans h.id, h'.runID.trans h.runID, h'.kind.trans h.kind, h'.value.trans h.value⟩

/-- **The second database has grown from the first.** -/
structure Grows (db db' : DB) : Prop where
  scopeTargets : db'.scopeTargets = db.scopeTargets
  run : ∀ r ∈ db.runs.rows, ∃ r' ∈ db'.runs.rows,
    r'.id = r.id ∧ r'.scopeID = r.scopeID ∧ r'.profile = r.profile
  runs_next : db.runs.next ≤ db'.runs.next
  runTarget : ∀ t ∈ db.runTargets.rows, ∃ t' ∈ db'.runTargets.rows, SameTarget t t'
  /-- A run gets its targets when it is created. -/
  runTarget_new : ∀ t' ∈ db'.runTargets.rows,
    (∃ t ∈ db.runTargets.rows, SameTarget t t') ∨ db.runs.next ≤ t'.runID
  task : ∀ t ∈ db.tasks.rows, ∃ t' ∈ db'.tasks.rows,
    t'.id = t.id ∧ t'.runID = t.runID ∧ t'.stage = t.stage ∧ t'.target = t.target
  tasks_next : db.tasks.next ≤ db'.tasks.next
  /-- A task gets its origins when it is inserted. -/
  origins_new : ∀ o ∈ db'.taskOrigins, o ∈ db.taskOrigins ∨ db.tasks.next ≤ o.taskID
  /-- An address once shared stays so. -/
  address : ∀ a ∈ db.ipAddresses.rows, ∃ a' ∈ db'.ipAddresses.rows,
    a'.id = a.id ∧ a'.scopeID = a.scopeID ∧ a'.addr = a.addr ∧
      (a.isShared = true → a'.isShared = true)

/-- The address is in a port scan of the run. -/
def InScan (db : DB) (runID : UUID) (ip : String) : Prop :=
  ∃ t ∈ db.tasks.rows, t.runID = runID ∧ t.stage = .portScan ∧ ip ∈ targetAddresses t.target
deriving Decidable

namespace Grows

variable {db db' db'' : DB}

theorem refl (db : DB) : Grows db db where
  scopeTargets := rfl
  run r hr := ⟨r, hr, rfl, rfl, rfl⟩
  runs_next := Nat.le_refl _
  runTarget t ht := ⟨t, ht, .refl t⟩
  runTarget_new t ht := .inl ⟨t, ht, .refl t⟩
  task t ht := ⟨t, ht, rfl, rfl, rfl, rfl⟩
  tasks_next := Nat.le_refl _
  origins_new _ ho := .inl ho
  address a ha := ⟨a, ha, rfl, rfl, rfl, id⟩

theorem trans (h : Grows db db') (h' : Grows db' db'') : Grows db db'' where
  scopeTargets := h'.scopeTargets.trans h.scopeTargets
  run r hr := by
    obtain ⟨r', hr', hid, hscope, hprofile⟩ := h.run r hr
    obtain ⟨r'', hr'', hid', hscope', hprofile'⟩ := h'.run r' hr'
    exact ⟨r'', hr'', hid'.trans hid, hscope'.trans hscope, hprofile'.trans hprofile⟩
  runs_next := Nat.le_trans h.runs_next h'.runs_next
  runTarget t ht := by
    obtain ⟨t', ht', hsame⟩ := h.runTarget t ht
    obtain ⟨t'', ht'', hsame'⟩ := h'.runTarget t' ht'
    exact ⟨t'', ht'', hsame.trans hsame'⟩
  runTarget_new t'' ht'' := by
    rcases h'.runTarget_new t'' ht'' with ⟨t', ht', hsame'⟩ | hnew
    · rcases h.runTarget_new t' ht' with ⟨t, ht, hsame⟩ | hnew
      · exact .inl ⟨t, ht, hsame.trans hsame'⟩
      · exact .inr (hsame'.runID ▸ hnew)
    · exact .inr (Nat.le_trans h.runs_next hnew)
  task t ht := by
    obtain ⟨t', ht', hid, hrun, hstage, htarget⟩ := h.task t ht
    obtain ⟨t'', ht'', hid', hrun', hstage', htarget'⟩ := h'.task t' ht'
    exact ⟨t'', ht'', hid'.trans hid, hrun'.trans hrun, hstage'.trans hstage,
      htarget'.trans htarget⟩
  tasks_next := Nat.le_trans h.tasks_next h'.tasks_next
  origins_new o ho := by
    rcases h'.origins_new o ho with hold | hnew
    · exact h.origins_new o hold
    · exact .inr (Nat.le_trans h.tasks_next hnew)
  address a ha := by
    obtain ⟨a', ha', hid, hscope, haddr, hshared⟩ := h.address a ha
    obtain ⟨a'', ha'', hid', hscope', haddr', hshared'⟩ := h'.address a' ha'
    exact ⟨a'', ha'', hid'.trans hid, hscope'.trans hscope, haddr'.trans haddr,
      fun hs => hshared' (hshared hs)⟩

/-- What is scanned stays scanned. -/
theorem inScan (h : Grows db db') {runID : UUID} {ip : String} (hscan : InScan db runID ip) :
    InScan db' runID ip := by
  obtain ⟨t, ht, hrun, hstage, hip⟩ := hscan
  obtain ⟨t', ht', -, hrun', hstage', htarget'⟩ := h.task t ht
  exact ⟨t', ht', hrun'.trans hrun, hstage'.trans hstage, htarget' ▸ hip⟩

end Grows

/-! ### Statements on tasks -/

namespace Store

/-- The run targets are the same, up to what changes of one. -/
structure SameTargets (ts ts' : List RunTarget) : Prop where
  after : ∀ t ∈ ts, ∃ t' ∈ ts', SameTarget t t'
  before : ∀ t' ∈ ts', ∃ t ∈ ts, SameTarget t t'

theorem SameTargets.refl (ts : List RunTarget) : SameTargets ts ts :=
  ⟨fun t ht => ⟨t, ht, .refl t⟩, fun t ht => ⟨t, ht, .refl t⟩⟩

variable {ts ts' : List RunTarget} {db db' : DB}

theorem SameTargets.append (h : SameTargets ts ts') (new : List RunTarget) :
    SameTargets (ts ++ new) (ts' ++ new) where
  after t ht := by
    rcases List.mem_append.mp ht with hold | hnew
    · obtain ⟨t', ht', hsame⟩ := h.after t hold
      exact ⟨t', List.mem_append_left _ ht', hsame⟩
    · exact ⟨t, List.mem_append_right _ hnew, .refl t⟩
  before t' ht' := by
    rcases List.mem_append.mp ht' with hold | hnew
    · obtain ⟨t, ht, hsame⟩ := h.before t' hold
      exact ⟨t, List.mem_append_left _ ht, hsame⟩
    · exact ⟨t', List.mem_append_right _ hnew, .refl t'⟩

theorem SameTargets.no_new {P : RunTarget → Prop} (h : SameTargets ts ts') :
    ∃ new, SameTargets (ts ++ new) ts' ∧ ∀ t ∈ new, P t :=
  ⟨[], by rw [List.append_nil]; exact h, nofun⟩

/-- A row map that leaves what a target is keeps the run targets the same. -/
theorem SameTargets.map {g : RunTarget → RunTarget} (hg : ∀ t, SameTarget t (g t))
    (ts : List RunTarget) : SameTargets ts (ts.map g) where
  after t ht := ⟨g t, List.mem_map_of_mem ht, hg t⟩
  before t' ht' := by
    obtain ⟨t, ht, rfl⟩ := List.mem_map.mp ht'
    exact ⟨t, ht, hg t⟩

/-- A run target and what becomes of it when only its counters move. -/
structure Counted (t t' : RunTarget) : Prop extends SameTarget t t' where
  status : t'.status = t.status

theorem Counted.refl (t : RunTarget) : Counted t t := ⟨.refl t, rfl⟩

/-- The counters of the run targets move, and nothing else of them. -/
def CountersMove (ts ts' : List RunTarget) : Prop := ∃ g, ts' = ts.map g ∧ ∀ t, Counted t (g t)

theorem CountersMove.refl (ts : List RunTarget) : CountersMove ts ts :=
  ⟨id, (List.map_id _).symm, .refl⟩

theorem CountersMove.trans {ts'' : List RunTarget} (h : CountersMove ts ts')
    (h' : CountersMove ts' ts'') : CountersMove ts ts'' := by
  obtain ⟨g, rfl, hg⟩ := h
  obtain ⟨g', rfl, hg'⟩ := h'
  exact ⟨g' ∘ g, List.map_map, fun t =>
    ⟨(hg t).toSameTarget.trans (hg' (g t)).toSameTarget, (hg' (g t)).status.trans (hg t).status⟩⟩

theorem CountersMove.same (h : CountersMove ts ts') : SameTargets ts ts' := by
  obtain ⟨g, rfl, hg⟩ := h
  exact .map (fun t => (hg t).toSameTarget) ts

theorem insertOrigin_counts {taskID ot : UUID} (h : insertOrigin taskID ot db = some db') :
    CountersMove db.runTargets.rows db'.runTargets.rows := by
  simp only [insertOrigin] at h
  split at h
  · cases h
    exact .refl _
  · split at h
    · cases h
    · cases h
      refine ⟨_, rfl, fun t => ?_⟩
      dsimp only
      split <;> exact ⟨⟨rfl, rfl, rfl, rfl⟩, rfl⟩

theorem insertOrigins_counts {taskID : UUID} {ots : List UUID}
    (h : ots.foldlM (fun d ot => insertOrigin taskID ot d) db = some db') :
    CountersMove db.runTargets.rows db'.runTargets.rows := by
  refine foldlM_keeps (P := fun d => CountersMove db.runTargets.rows d.runTargets.rows)
    (fun hd hmove => ?_) h (.refl _)
  exact hmove.trans (insertOrigin_counts hd)

theorem insertBatch_grows {runID : UUID} {specs : List TaskSpec}
    (h : specs.foldlM (fun d sp => insertTask runID sp d) db = some db') :
    CountersMove db.runTargets.rows db'.runTargets.rows ∧ db.tasks.next ≤ db'.tasks.next ∧
      db.taskOrigins ⊆ db'.taskOrigins ∧
      ∀ o ∈ db'.taskOrigins, o ∈ db.taskOrigins ∨ db.tasks.next ≤ o.taskID := by
  induction specs generalizing db with
  | nil =>
    cases h
    exact ⟨.refl _, Nat.le_refl _, List.Subset.refl _, fun _ ho => .inl ho⟩
  | cons sp specs ih =>
    obtain ⟨d, hd, hrest⟩ := Option.bind_eq_some_iff.mp (by simpa using h)
    obtain ⟨hcount', hnext', hsub', hnew'⟩ := ih hrest
    have hdnext : db.tasks.next ≤ d.tasks.next := by
      rw [insertTask_frame hd]
      exact Nat.le_succ _
    have hcount : CountersMove db.runTargets.rows d.runTargets.rows := by
      simp only [insertTask] at hd
      split at hd
      · cases hd
      · have hins := insertOrigins_counts hd
        exact hins
    refine ⟨hcount.trans hcount', Nat.le_trans hdnext hnext',
      fun o ho => hsub' ((mem_insertTask hd).mpr (.inl ho)), fun o ho => ?_⟩
    rcases hnew' o ho with hold | hle
    · exact ((mem_insertTask hd).mp hold).imp_right fun h => Nat.le_of_eq h.1.symm
    · exact .inr (Nat.le_trans hdnext hle)

theorem exists_edge_insertBatch {runID : UUID} {specs : List TaskSpec}
    (h : specs.foldlM (fun d sp => insertTask runID sp d) db = some db') {sp : TaskSpec}
    (hsp : sp ∈ specs) {o : UUID} (ho : o ∈ sp.origins) (hnil : o ≠ uuidNil) :
    ∃ e ∈ db'.taskOrigins, e.runTargetID = o := by
  induction specs generalizing db with
  | nil => cases hsp
  | cons sp' specs ih =>
    obtain ⟨d, hd, hrest⟩ := Option.bind_eq_some_iff.mp (by simpa using h)
    rcases List.mem_cons.mp hsp with rfl | hsp
    · have hedge : ⟨db.tasks.next, o⟩ ∈ d.taskOrigins :=
        (mem_insertTask hd).mpr (.inr ⟨rfl, ho, hnil⟩)
      exact ⟨_, (insertBatch_grows hrest).2.2.1 hedge, rfl⟩
    · exact ih hrest hsp

end Store

/-! ### Batches that are accepted -/

section Accepted

variable {db : DB}

/-- The run targets a task names exist. -/
def OriginsExist (db : DB) (sp : TaskSpec) : Prop :=
  ∀ o ∈ sp.origins, o = uuidNil ∨ (db.runTargets.find? o).isSome = true

theorem insertOrigin_isSome {taskID ot : UUID}
    (h : ot = uuidNil ∨ (db.runTargets.find? ot).isSome = true) :
    ∃ db', insertOrigin taskID ot db = some db' ∧
      ∀ o, (db.runTargets.find? o).isSome = true → (db'.runTargets.find? o).isSome = true := by
  unfold insertOrigin
  by_cases hnil : ot = uuidNil
  · rw [if_pos hnil]
    exact ⟨db, rfl, fun _ ho => ho⟩
  · have hsome := h.resolve_left hnil
    rw [if_neg hnil, if_neg (by simp [Option.isSome_iff_ne_none.mp hsome])]
    exact ⟨_, rfl, fun _ ho => Table.isSome_find?_update (by exact fun _ => rfl) ho⟩

theorem insertOrigins_isSome {taskID : UUID} {ots : List UUID}
    (h : ∀ o ∈ ots, o = uuidNil ∨ (db.runTargets.find? o).isSome = true) :
    ∃ db', ots.foldlM (fun d ot => insertOrigin taskID ot d) db = some db' ∧
      ∀ o, (db.runTargets.find? o).isSome = true → (db'.runTargets.find? o).isSome = true := by
  induction ots generalizing db with
  | nil => exact ⟨db, rfl, fun _ ho => ho⟩
  | cons ot ots ih =>
    obtain ⟨d, hd, hkeep⟩ := @insertOrigin_isSome db taskID ot (h ot List.mem_cons_self)
    obtain ⟨db', hrest, hkeep'⟩ := @ih d fun o ho =>
      (h o (List.mem_cons_of_mem _ ho)).imp_right (hkeep o)
    refine ⟨db', ?_, fun o ho => hkeep' o (hkeep o ho)⟩
    rw [List.foldlM_cons, hd]
    exact hrest

theorem insertBatch_isSome {runID : UUID} {specs : List TaskSpec}
    (hrun : (db.runs.find? runID).isSome = true)
    (hpool : ∀ sp ∈ specs, ∀ p, sp.poolID = some p → (db.pools.find? p).isSome = true)
    (horigins : ∀ sp ∈ specs, OriginsExist db sp) :
    ∃ db', specs.foldlM (fun d sp => insertTask runID sp d) db = some db' := by
  induction specs generalizing db with
  | nil => exact ⟨db, rfl⟩
  | cons sp specs ih =>
    -- the checks pass for the first task, and it removes no run target
    have hone : ∃ d, insertTask runID sp db = some d ∧ ∀ o,
        (db.runTargets.find? o).isSome = true → (d.runTargets.find? o).isSome = true := by
      have hcheck : ((db.runs.find? runID).isNone ||
          sp.poolID.any fun p => (db.pools.find? p).isNone) = false := by
        have hpool := hpool sp List.mem_cons_self
        cases hp : sp.poolID with
        | none => simp [hrun]
        | some p => simp [hrun, hpool p hp]
      unfold insertTask
      rw [hcheck, if_neg Bool.false_ne_true]
      have horig : OriginsExist { db with tasks := db.tasks.insert (newTask runID sp) } sp :=
        horigins sp List.mem_cons_self
      exact insertOrigins_isSome horig
    obtain ⟨d, hd, hkeep⟩ := hone
    have hframe := insertTask_frame hd
    obtain ⟨db', hrest⟩ := @ih d (by rw [hframe]; exact hrun)
      (by rw [hframe]; exact fun sp hsp => hpool sp (List.mem_cons_of_mem _ hsp))
      fun sp hsp o ho => (horigins sp (List.mem_cons_of_mem _ hsp) o ho).imp_right (hkeep o)
    refine ⟨db', ?_⟩
    rw [List.foldlM_cons, hd]
    exact hrest

end Accepted

namespace TaskStmt

open Store

/-- A statement on tasks changes nothing of a run target but its counters. -/
theorem exec_targets {env : Env} {db db' : DB} {s : TaskStmt β} {b : β}
    (h : s.exec env db = some (b, db')) :
    CountersMove db.runTargets.rows db'.runTargets.rows := by
  cases s with
  | insertTasks runID specs =>
    obtain ⟨d, hd, hids⟩ := Option.map_eq_some_iff.mp h
    cases hids
    exact (insertBatch_grows hd).1
  | completeTask =>
    simp only [exec] at h
    split at h
    · cases h; exact .refl _
    · cases h
      refine ⟨_, rfl, fun t => ?_⟩
      dsimp only
      split <;> exact ⟨⟨rfl, rfl, rfl, rfl⟩, rfl⟩
  | _ =>
    obtain ⟨_, _, rfl, htargets⟩ := exec_updated rfl h
    exact htargets rfl ▸ .refl _

theorem exec_origins_kept {env : Env} {db db' : DB} {s : TaskStmt β} {b : β} (hs : s.plans = false)
    (h : s.exec env db = some (b, db')) :
    db'.tasks.next = db.tasks.next ∧ db'.taskOrigins = db.taskOrigins := by
  obtain ⟨_, _, rfl, -⟩ := exec_updated hs h
  exact ⟨rfl, rfl⟩

end TaskStmt

/-! ### Statements on runs -/

namespace Store

/-- The targets of a new run are appended, one for each entry that is asked for, and have counted
nothing. -/
theorem rows_insertRunTargets (runID : UUID) (targets : List (TargetKind × String))
    (ts : Table RunTarget RunTarget.id) :
    ∃ new, (insertRunTargets runID targets ts).rows = ts.rows ++ new ∧
      (new.map fun t => (t.kind, t.value)) = targets ∧
      (∀ t ∈ new, t.runID = runID ∧ ts.next ≤ t.id ∧ t.tasksTotal = 0 ∧ t.tasksDone = 0) ∧
      ts.next ≤ (insertRunTargets runID targets ts).next := by
  induction targets generalizing ts with
  | nil => exact ⟨[], (List.append_nil _).symm, rfl, nofun, Nat.le_refl _⟩
  | cons kv targets ih =>
    obtain ⟨new, hrows, hmap, hnew, hnext⟩ :=
      ih (ts.insert fun id => { id, runID, kind := kv.1, value := kv.2 })
    refine ⟨{ id := ts.next, runID, kind := kv.1, value := kv.2 } :: new, ?_, ?_, ?_, ?_⟩
    · rw [Table.rows_insert, List.append_assoc] at hrows
      exact hrows
    · rw [List.map_cons, hmap]
    · refine List.forall_mem_cons.mpr ⟨⟨rfl, Nat.le_refl _, rfl, rfl⟩, fun t ht => ?_⟩
      obtain ⟨hrun, hid, hcounters⟩ := hnew t ht
      exact ⟨hrun, Nat.le_of_succ_le hid, hcounters⟩
    · exact Nat.le_of_succ_le hnext

end Store

/-- The target whose status a statement writes, and the status. -/
def RunStmt.relabels : RunStmt β → Option (UUID × TargetStatus)
  | setRunTargetStatus id status _ => some (id, status)
  | _ => none

/-- What a statement on runs makes of a run target: its status is the one that is written. -/
structure RunStmt.OnTarget (s : RunStmt β) (t t' : RunTarget) : Prop extends SameTarget t t' where
  tasksTotal : t'.tasksTotal = t.tasksTotal
  tasksDone : t'.tasksDone = t.tasksDone
  status : t'.status = t.status ∨ s.relabels = some (t.id, t'.status)

variable {db db' : DB}

/-- **The run targets after a statement on runs**: the old ones, and those of the run it creates. -/
theorem RunStmt.exec_targets {env : Env} {s : RunStmt β} {b : β}
    (h : s.exec env db = some (b, db')) :
    db.runTargets.next ≤ db'.runTargets.next ∧ ∃ g new,
      db'.runTargets.rows = db.runTargets.rows.map g ++ new ∧ (∀ t, s.OnTarget t (g t)) ∧
      ∀ t ∈ new, (t.runID = db.runs.next ∧ s.created env db ≠ []) ∧
        db.runTargets.next ≤ t.id ∧ t.tasksTotal = 0 ∧ t.tasksDone = 0 := by
  have hrefl : ∀ t, s.OnTarget t t := fun t => ⟨.refl t, rfl, rfl, .inl rfl⟩
  have hsame : db'.runTargets = db.runTargets → db.runTargets.next ≤ db'.runTargets.next ∧ ∃ g new,
      db'.runTargets.rows = db.runTargets.rows.map g ++ new ∧ (∀ t, s.OnTarget t (g t)) ∧
      ∀ t ∈ new, (t.runID = db.runs.next ∧ s.created env db ≠ []) ∧
        db.runTargets.next ≤ t.id ∧ t.tasksTotal = 0 ∧ t.tasksDone = 0 := by
    intro heq
    rw [heq]
    exact ⟨Nat.le_refl _, id, [], by rw [List.map_id, List.append_nil], hrefl, nofun⟩
  cases s with
  | createRun scopeID profile targets =>
    simp only [exec] at h
    split at h
    · cases h
      obtain ⟨new, hrows, -, hnew, hnext⟩ :=
        rows_insertRunTargets db.runs.next targets db.runTargets
      refine ⟨hnext, id, new, by rw [List.map_id]; exact hrows, hrefl, fun t ht => ?_⟩
      exact ⟨⟨(hnew t ht).1, List.cons_ne_nil _ _⟩, (hnew t ht).2⟩
    · cases h
  | setRunTargetStatus id status skipReason =>
    cases h
    refine ⟨Nat.le_refl _, _, [], (List.append_nil _).symm, fun t => ?_, nofun⟩
    dsimp only
    split
    · rename_i hid
      refine ⟨⟨rfl, rfl, rfl, rfl⟩, rfl, rfl, .inr ?_⟩
      rw [beq_iff_eq.mp hid]
      rfl
    · exact hrefl t
  | setRunPool | setRunVPN | setRunParams | setRunWordlist =>
    simp only [exec] at h
    split at h <;> cases h
    exact hsame rfl
  | getRun | getRunParams | getScanProfileParams | getWordlist =>
    obtain ⟨_, _, hdb⟩ := Option.map_eq_some_iff.mp h
    cases hdb
    exact hsame rfl
  | _ =>
    cases h
    exact hsame rfl

/-! ### Every statement -/

namespace Stmt

variable {out : Outside} {env : Env} {db db' : DB} {s : Stmt β} {b : β}

/-- The run targets are the same, and new ones are of the run a statement creates. -/
theorem exec_targets (h : s.exec out env db = some (b, db')) :
    ∃ new, Store.SameTargets (db.runTargets.rows ++ new) db'.runTargets.rows ∧
      ∀ t ∈ new, t.runID = db.runs.next ∧ s.created env db ≠ [] := by
  cases s with
  | task s => exact (s.exec_targets h).same.no_new
  | run s =>
    obtain ⟨-, g, new, hrows, hg, hnew⟩ := s.exec_targets h
    rw [hrows]
    refine ⟨new, ?_, fun t ht => (hnew t ht).1⟩
    exact (Store.SameTargets.map (fun t => (hg t).toSameTarget) _).append new
  | worker s => rw [(s.exec_frame h).1]; exact (Store.SameTargets.refl _).no_new
  | asset s | fleet s => rw [s.exec_frame h]; exact (Store.SameTargets.refl _).no_new

theorem exec_origins_kept (hs : s.plans = false) (h : s.exec out env db = some (b, db')) :
    db'.tasks.next = db.tasks.next ∧ db'.taskOrigins = db.taskOrigins := by
  cases s with
  | task s => exact s.exec_origins_kept hs h
  | worker s => exact ⟨(s.exec_frame h).2, by rw [(s.exec_frame h).1]⟩
  | run s | asset s | fleet s => exact ⟨by rw [s.exec_frame h], by rw [s.exec_frame h]⟩

theorem exec_plans (hs : s.plans = true) (h : s.exec out env db = some (b, db')) :
    ∃ runID, ∃ specs : List TaskSpec,
      specs.foldlM (fun d sp => insertTask runID sp d) db = some db' := by
  cases s with
  | task s =>
    cases s with
    | insertTasks runID specs =>
      obtain ⟨d, hd, hids⟩ := Option.map_eq_some_iff.mp h
      cases hids
      exact ⟨runID, specs, hd⟩
    | _ => cases hs
  | _ => cases hs

/-- Only planning adds keys and origins of tasks. -/
theorem exec_origins (h : s.exec out env db = some (b, db')) :
    db.tasks.next ≤ db'.tasks.next ∧
      ∀ o ∈ db'.taskOrigins, o ∈ db.taskOrigins ∨ db.tasks.next ≤ o.taskID := by
  cases hs : s.plans with
  | false =>
    obtain ⟨hnext, horigins⟩ := exec_origins_kept hs h
    exact ⟨Nat.le_of_eq hnext.symm, fun o ho => .inl (horigins ▸ ho)⟩
  | true =>
    obtain ⟨runID, specs, hd⟩ := exec_plans hs h
    obtain ⟨-, hnext, -, hnew⟩ := insertBatch_grows hd
    exact ⟨hnext, hnew⟩

theorem exec_addresses (h : s.exec out env db = some (b, db')) {a : IPAddress}
    (ha : a ∈ db.ipAddresses.rows) : ∃ a' ∈ db'.ipAddresses.rows, a'.id = a.id ∧
      a'.scopeID = a.scopeID ∧ a'.addr = a.addr ∧ (a.isShared = true → a'.isShared = true) := by
  cases s with
  | asset s => exact (s.exec_assets h).shared a ha
  | task s | run s | fleet s => rw [s.exec_frame h]; exact ⟨a, ha, rfl, rfl, rfl, id⟩
  | worker s => rw [(s.exec_frame h).1]; exact ⟨a, ha, rfl, rfl, rfl, id⟩

theorem exec_scopeTargets (h : s.exec out env db = some (b, db')) :
    db'.scopeTargets = db.scopeTargets := by
  cases s with
  | task s | run s | asset s | fleet s => rw [s.exec_frame h]
  | worker s => rw [(s.exec_frame h).1]

/-- **Every statement is a step of growth.** -/
theorem exec_grows (h : s.exec out env db = some (b, db')) : Grows db db' where
  scopeTargets := exec_scopeTargets h
  run r hr := by
    obtain ⟨r', hr', hstep⟩ := run_after h hr
    exact ⟨r', hr', hstep.id, hstep.scopeID, hstep.profile⟩
  runs_next := by
    rw [exec_runs_next h]
    exact Nat.le_add_right _ _
  runTarget t ht := by
    obtain ⟨new, hsame, -⟩ := exec_targets h
    exact hsame.after t (List.mem_append_left _ ht)
  runTarget_new t' ht' := by
    obtain ⟨new, hsame, hnew⟩ := exec_targets h
    obtain ⟨t, ht, hst⟩ := hsame.before t' ht'
    rcases List.mem_append.mp ht with hold | ht
    · exact .inl ⟨t, hold, hst⟩
    · rw [hst.runID, (hnew t ht).1]
      exact .inr (Nat.le_refl _)
  task t ht := by
    obtain ⟨t', ht', hstep⟩ := task_after h ht
    obtain ⟨hid, hrun, hstage, htarget, -⟩ := hstep.fixed
    exact ⟨t', ht', hid, hrun, hstage, htarget⟩
  tasks_next := (exec_origins h).1
  origins_new := (exec_origins h).2
  address _ := exec_addresses h

end Stmt

end PinkGlasses
