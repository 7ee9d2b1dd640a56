import PinkGlasses.Run.Counters
import PinkGlasses.Run.Ended
import PinkGlasses.Run.Leads

/-!
# PinkGlasses.Run.Verdict

What the end of a run says of its targets. `finish` looks at two counters: a target is `incomplete`
when some of the tasks counted for it are not done, and `completed` otherwise, **also when there was
never a task for it**, as for an autonomous system. So the verdict is right where the counters are
(`DB.Tallied`), where a target is an origin of all that came of it (`Attributed`), and where
everything the run is for was given a task (`Tasked`).
-/

namespace PinkGlasses

open Lib Planner Store

variable {β : Type}

/-- What a completed target stands for: there was a task for it, and all that was done for it, down
to the probes and the web stages of the addresses it led to, is done. -/
structure TargetDone (runID : UUID) (db : DB) (r : RunTarget) : Prop where
  some : ∃ t ∈ db.tasks.rows, ⟨t.id, r.id⟩ ∈ db.taskOrigins
  all : ∀ t ∈ db.tasks.rows, ⟨t.id, r.id⟩ ∈ db.taskOrigins → t.status = .done
  leads : ∀ a, LedTo db runID a r.id → ∀ t ∈ db.tasks.rows, t.runID = runID →
    t.stage = .serviceProbe ∨ webStage t.stage = true → t.target.ip = a → t.status = .done

/-- **A target of the run is completed only if it is done.** -/
def VerdictsRight (runID : UUID) (db : DB) : Prop :=
  ∀ r ∈ db.runTargets.rows, r.runID = runID → r.status = .completed → TargetDone runID db r

/-! ### The condition -/

/-- The target whose status a statement writes, and the status. -/
def Stmt.relabels : Stmt β → Option (UUID × TargetStatus)
  | run s => s.relabels
  | _ => none

/-- The run is planned once and for all of its targets, and there is something to do about each:
none is an autonomous system, and no network is empty. -/
structure PlansAll (runID : UUID) (db : DB) (targets : List RunTarget) : Prop where
  fresh : ∀ t ∈ db.tasks.rows, t.runID ≠ runID
  all : targets.Perm (db.runTargets.rows.filter (·.runID == runID))
  keyed : ∀ t ∈ targets, t.id ≠ uuidNil
  kinds : ∀ t ∈ targets, t.kind ≠ .asn ∧
    (t.kind = .cidr → ScopeGuard.expandCIDRHosts t.value cidrHostCap ≠ [])

instance (runID : UUID) (db : DB) (targets : List RunTarget) :
    Decidable (PlansAll runID db targets) :=
  decidable_of_iff (_ ∧ _ ∧ _ ∧ _)
    ⟨fun h => ⟨h.1, h.2.1, h.2.2.1, h.2.2.2⟩, fun h => ⟨h.fresh, h.all, h.keyed, h.kinds⟩⟩

/-- **The move lets the verdict be right about the targets.** A target that was skipped stays so. -/
def Provides (runID : UUID) (db : DB) : Move → Prop
  | .planInitial targets _ => PlansAll runID db targets
  | .advance => True
  | .other s _ => ∀ x ∈ s.relabels, ∀ r ∈ db.runTargets.rows, r.runID = runID → x.1 = r.id →
      r.status = .skipped → x.2 = .skipped

/-- **The move counts once.** -/
def Counts (db : DB) : Move → Prop
  | .other s _ => CountsOnce db s
  | _ => True

instance (runID : UUID) (db : DB) (m : Move) : Decidable (Provides runID db m) := by
  induction m using Move.casesOn <;> unfold Provides <;> infer_instance

instance (db : DB) (m : Move) : Decidable (Counts db m) := by
  induction m using Move.casesOn <;> unfold Counts <;> infer_instance

/-! ### The counters -/

section Counters

variable {cfg : ControlConfig} {out : Outside} {env : Env} {runID : UUID} {db db' : DB}
  {specs : List TaskSpec}

theorem originsOnce_of_singleton {sp : TaskSpec} {o : UUID} (h : sp.origins = [o]) :
    sp.OriginsOnce := by
  unfold TaskSpec.OriginsOnce
  rw [h]
  exact (List.nodup_singleton o).filter _

theorem DB.Tallied.insert (hdb : db.Tallied) (hspecs : ∀ sp ∈ specs, sp.OriginsOnce)
    (hins : Inserts runID specs db db') : db'.Tallied := by
  cases hins with
  | nothing => exact hdb
  | batch h =>
    obtain ⟨d, hd, hids⟩ := Option.map_eq_some_iff.mp h
    cases hids
    refine insertBatch_tallied hdb (fun sp hsp => ?_) hd
    obtain ⟨sp', hsp', rfl⟩ := List.mem_map.mp hsp
    exact hspecs sp' hsp'

theorem DB.Tallied.labeled (hdb : db.Tallied) (hl : Labeled cfg out env db db') : db'.Tallied := by
  refine labeled_keeps (fun {_ _ _ s _} hold hs hexec =>
    hold.after ⟨fun t _ _ _ tok _ => ?_, ?_⟩ hexec)
    hdb hl
  · cases s with
    | task s =>
      cases s with
      | failTask | failTaskPermanently => cases hs
      | _ => nofun
    | _ => nofun
  · cases s with
    | task s =>
      cases s with
      | insertTasks => cases hs
      | _ => exact List.forall_mem_nil _
    | _ => exact List.forall_mem_nil _

theorem tallied_keeps (cfg : ControlConfig) (out : Outside) (runID : UUID) :
    Keeps cfg out runID DB.Tallied Counts where
  first := by
    intro env db db₁ db' run targets scopeTargets specs hdb _ _ _ hstarts
    refine (hdb.labeled hstarts.labeled).insert (fun sp hsp => ?_) hstarts.inserts
    -- every task of the first batch has one origin
    obtain ⟨brute, rfl, hbrute⟩ := hstarts.batch.split
    rcases List.mem_append.mp hsp with hmem | hmem
    · obtain ⟨t, -, hmem⟩ := List.mem_flatMap.mp hmem
      exact originsOnce_of_singleton (mem_planTarget hmem).1
    · obtain ⟨-, t, -, horigins⟩ := hbrute sp hmem
      exact originsOnce_of_singleton horigins
  pass := by
    intro db db' run hdb _ _ _ hplans
    cases hplans with
    | intro hscan hprobes hprobe hwebs hweb =>
      refine ((hdb.insert ?_ hscan).insert ?_ hprobe).insert ?_ hweb
      · intro sp hsp
        exact (nodup_origins_addressSpecs hsp).filter _
      · intro sp hsp
        obtain ⟨t, -, -, -, sv, -, rfl⟩ := hprobes sp hsp
        exact originsOnce_of_singleton rfl
      · intro sp hsp
        obtain ⟨t, -, -, -, u, -, -, -, horigins⟩ := hwebs sp hsp
        exact originsOnce_of_singleton horigins
  finish hdb _ hfin := hdb.labeled hfin.labeled
  other hdb hok hexec := hdb.after hok hexec

end Counters

/-! ### The targets -/

variable {env : Env} {db db' : DB}

/-- What a statement makes of the targets: each keeps its status unless the statement writes it, and
new ones are of a new run. -/
theorem Stmt.exec_statuses {out : Outside} {s : Stmt β} {b : β}
    (h : s.exec out env db = some (b, db')) : ∀ r' ∈ db'.runTargets.rows,
      (∃ r ∈ db.runTargets.rows, SameTarget r r' ∧
        (r'.status = r.status ∨ s.relabels = some (r.id, r'.status))) ∨
          db.runs.next ≤ r'.runID := by
  -- counters move, statuses stay
  have hmoved : Store.CountersMove db.runTargets.rows db'.runTargets.rows →
      ∀ r' ∈ db'.runTargets.rows,
      (∃ r ∈ db.runTargets.rows, SameTarget r r' ∧
        (r'.status = r.status ∨ s.relabels = some (r.id, r'.status))) ∨
          db.runs.next ≤ r'.runID := by
    rintro ⟨g, hrows, hg⟩ r' hr'
    rw [hrows] at hr'
    obtain ⟨r, hr, rfl⟩ := List.mem_map.mp hr'
    exact .inl ⟨r, hr, (hg r).toSameTarget, .inl (hg r).status⟩
  cases s with
  | task s => exact hmoved (s.exec_targets h)
  | run s =>
    obtain ⟨-, g, new, hrows, hg, hnew⟩ := s.exec_targets h
    intro r' hr'
    rw [hrows] at hr'
    rcases List.mem_append.mp hr' with hold | hmem
    · obtain ⟨r, hr, rfl⟩ := List.mem_map.mp hold
      exact .inl ⟨r, hr, (hg r).toSameTarget, (hg r).status⟩
    · exact .inr (Nat.le_of_eq (hnew r' hmem).1.1.symm)
  | worker s => exact hmoved (by rw [(s.exec_frame h).1]; exact .refl _)
  | asset s | fleet s => exact hmoved (by rw [s.exec_frame h]; exact .refl _)

/-- Once a run has tasks, each of its targets has been skipped or has one. -/
def Tasked (runID : UUID) (db : DB) : Prop :=
  (∃ t ∈ db.tasks.rows, t.runID = runID) → runID < db.runs.next ∧
    ∀ r ∈ db.runTargets.rows, r.runID = runID →
      r.status = .skipped ∨ ∃ e ∈ db.taskOrigins, e.runTargetID = r.id

theorem planTarget_covers {allowPrivate passive : Bool} {scopeTargets : List ScopeTarget}
    {t : RunTarget} (hasn : t.kind ≠ .asn)
    (hcidr : t.kind = .cidr → ScopeGuard.expandCIDRHosts t.value cidrHostCap ≠ []) :
    (∃ reason, (planTarget allowPrivate passive scopeTargets t).2 = some (.skipped, reason)) ∨
      (planTarget allowPrivate passive scopeTargets t).1 ≠ [] := by
  -- the three checks skip the target or let its tasks through
  have hchecked : ∀ {c₁ c₂ c₃ : Bool} {x y z : Option String} {specs : List TaskSpec}
      {w : Option (TargetStatus × Option String)}, specs ≠ [] →
      (∃ reason, (if c₁ then (([] : List TaskSpec), some (TargetStatus.skipped, x))
        else if !c₂ then ([], some (.skipped, y)) else if c₃ then ([], some (.skipped, z))
        else (specs, w)).2 = some (.skipped, reason)) ∨
      (if c₁ then (([] : List TaskSpec), some (TargetStatus.skipped, x))
        else if !c₂ then ([], some (.skipped, y)) else if c₃ then ([], some (.skipped, z))
        else (specs, w)).1 ≠ [] := by
    intro c₁ c₂ c₃ x y z specs w hne
    split_ifs
    · exact .inl ⟨x, rfl⟩
    · exact .inl ⟨y, rfl⟩
    · exact .inl ⟨z, rfl⟩
    · exact .inr hne
  unfold planTarget
  cases hkind : t.kind with
  | domain => exact .inr (List.cons_ne_nil _ _)
  | ip => exact hchecked (List.cons_ne_nil _ _)
  | cidr => exact hchecked fun h => hcidr hkind (List.map_eq_nil_iff.mp h)
  | asn => exact absurd hkind hasn

section Tasked

variable {cfg : ControlConfig} {out : Outside} {env : Env} {runID : UUID} {db db' : DB}

theorem Tasked.insert {specs : List TaskSpec} (hdb : Tasked runID db)
    (hfrom : ∀ sp ∈ specs, ∃ t ∈ db.tasks.rows, t.runID = runID)
    (hins : Inserts runID specs db db') : Tasked runID db' := by
  rintro ⟨t, ht, hrun⟩
  -- what is inserted comes from a task of the run, so there was one
  have hold : ∃ t ∈ db.tasks.rows, t.runID = runID := by
    cases hins with
    | nothing => exact ⟨t, ht, hrun⟩
    | batch h =>
      rw [insertTasks_rows h] at ht
      rcases List.mem_append.mp ht with hmem | hmem
      · exact ⟨t, hmem, hrun⟩
      · obtain ⟨sp', hsp', -⟩ := mem_newTasks hmem
        obtain ⟨sp, hsp, -⟩ := List.mem_map.mp hsp'
        exact hfrom sp hsp
  obtain ⟨⟨g, hrows, hg⟩, hruns⟩ := hins.targets
  obtain ⟨hlt, hcov⟩ := hdb hold
  refine ⟨hruns ▸ hlt, fun r' hr' hr'run => ?_⟩
  rw [hrows] at hr'
  obtain ⟨r, hr, rfl⟩ := List.mem_map.mp hr'
  rcases hcov r hr ((hg r).runID.symm.trans hr'run) with hskip | ⟨e, he, hid⟩
  · exact .inl ((hg r).status.trans hskip)
  · exact .inr ⟨e, hins.edges.1 he, hid.trans (hg r).id.symm⟩

variable {run : ScanRun}

theorem exists_task_of_newScan {allowPrivate : Bool} {sp : TaskSpec}
    (hsp : sp ∈ newScans allowPrivate run db) : ∃ t ∈ db.tasks.rows, t.runID = run.id := by
  obtain ⟨a, ha⟩ := List.exists_mem_of_ne_nil _ (mem_addressSpecs hsp).2.2.1
  have hadm := (count_newScans allowPrivate run db a).2 (List.mem_flatMap.mpr ⟨sp, hsp, ha⟩)
  obtain ⟨_, -, -, -, t, hrep, -⟩ := hadm.authorized
  exact ⟨t, hrep.row, hrep.ofRun⟩

/-- The tasks of a run that has none are planned for every target that is not skipped. -/
theorem tasked_first {targets : List RunTarget} {scopeTargets : List ScopeTarget} {db₁ : DB}
    {specs : List TaskSpec} (hmem : run ∈ db.runs.rows) (hall : PlansAll run.id db targets)
    (h : Starts cfg out env cfg.launch.allowPrivate run targets scopeTargets db db₁ db' specs) :
    Tasked run.id db' := by
  rintro ⟨t, ht, hrun⟩
  have hnew := noTasks_labeled hall.fresh h.labeled
  -- the run has a task now, so the batch went in and the targets were labelled
  have hchanged : db' ≠ db₁ := by
    rintro rfl
    exact hnew t ht hrun
  have hlt : run.id < db₁.runs.next := labeled_keeps (J := fun d => run.id < d.runs.next)
    (fun hold _ hexec => Nat.lt_of_lt_of_le hold (Stmt.exec_grows hexec).runs_next)
    (db.runs.bound run hmem) h.labeled
  obtain ⟨⟨g, hrows, hg⟩, hruns⟩ := h.inserts.targets
  have hedges := h.inserts.edges.2.resolve_left hchanged
  have hlabeled := h.targets.resolve_left hchanged
  refine ⟨hruns ▸ hlt, fun r' hr' hr'run => ?_⟩
  rw [hrows] at hr'
  obtain ⟨r₁, hr₁, rfl⟩ := List.mem_map.mp hr'
  rw [hlabeled] at hr₁
  obtain ⟨r, hr, heq⟩ := List.mem_map.mp hr₁
  have hsame : SameTarget r (g r₁) :=
    SameTarget.trans (heq ▸ sameTarget_relabeled _ targets r) (hg r₁).toSameTarget
  have hin : r ∈ targets := by
    refine hall.all.mem_iff.mpr (List.mem_filter.mpr ⟨hr, beq_iff_eq.mpr ?_⟩)
    exact hsame.runID.symm.trans hr'run
  have hnodup : (targets.map (·.id)).Nodup :=
    (hall.all.map _).nodup_iff.mpr
    (List.Nodup.sublist (List.filter_sublist.map _) db.runTargets.nodup)
  obtain ⟨hasn, hcidr⟩ := hall.kinds r hin
  -- a target is skipped, or a task of the batch is its own
  rcases planTarget_covers hasn hcidr with ⟨reason, hskip⟩ | hne
  · left
    rw [(hg r₁).status, ← heq, relabeled_of_mem hnodup hin, hskip]
    rfl
  · right
    obtain ⟨sp, hsp⟩ := List.exists_mem_of_ne_nil _ hne
    obtain ⟨brute, rfl, -⟩ := h.batch.split
    obtain ⟨e, he, hid⟩ := hedges sp
      (List.mem_append_left _ (List.mem_flatMap.mpr ⟨r, hin, hsp⟩)) r.id
      (by rw [(mem_planTarget hsp).1]; exact List.mem_singleton.mpr rfl) (hall.keyed r hin)
    exact ⟨e, he, hid.trans hsame.id.symm⟩

/-- What `finish` leaves of a target of the run. -/
theorem Planner.Finishes.target (hfin : Finishes cfg out env run db db') {r' : RunTarget}
    (hr' : r' ∈ db'.runTargets.rows) (hrun : r'.runID = run.id) :
    ∃ r ∈ db.runTargets.rows, r.runID = run.id ∧ r'.id = r.id ∧
      r'.status = if r.status = .skipped then .skipped else finishedStatus r := by
  rw [hfin.targets] at hr'
  obtain ⟨r, hr, rfl⟩ := List.mem_map.mp hr'
  have hsame := sameTarget_relabeled finishLabel (listRunTargets run.id db) r
  have hrun' := hsame.runID.symm.trans hrun
  have hperm : (listRunTargets run.id db).Perm (db.runTargets.rows.filter (·.runID == run.id)) :=
    List.perm_insertionSort _ _
  have hin : r ∈ listRunTargets run.id db :=
    hperm.mem_iff.mpr (List.mem_filter.mpr ⟨hr, beq_iff_eq.mpr hrun'⟩)
  have hnodup : ((listRunTargets run.id db).map (·.id)).Nodup :=
    (hperm.map _).nodup_iff.mpr (List.Nodup.sublist (List.filter_sublist.map _) db.runTargets.nodup)
  refine ⟨r, hr, hrun', hsame.id, ?_⟩
  rw [relabeled_of_mem hnodup hin, finishLabel]
  by_cases hskip : r.status = .skipped
  · rw [if_pos hskip, if_pos hskip]
    exact hskip
  · rw [if_neg hskip, if_neg hskip]
    rfl

theorem Tasked.other {s : Stmt β} {b : β} (hdb : Tasked runID db) (hs : s.plans = false)
    (hskip : ∀ x ∈ s.relabels, ∀ r ∈ db.runTargets.rows, r.runID = runID → x.1 = r.id →
      r.status = .skipped → x.2 = .skipped) (hexec : s.exec out env db = some (b, db')) :
    Tasked runID db' := by
  rintro ⟨t', ht', hrun'⟩
  obtain ⟨t, ht, -, -, hrun, -⟩ := exists_moved hs hexec t' ht'
  obtain ⟨hlt, hcov⟩ := hdb ⟨t, ht, hrun.symm.trans hrun'⟩
  refine ⟨Nat.lt_of_lt_of_le hlt (Stmt.exec_grows hexec).runs_next, fun r' hr' hr'run => ?_⟩
  rcases Stmt.exec_statuses hexec r' hr' with ⟨r, hr, hsame, hstatus⟩ | hnew
  · rcases hcov r hr (hsame.runID.symm.trans hr'run) with hold | ⟨e, he, hid⟩
    · refine .inl ?_
      rcases hstatus with hstatus | hwritten
      · exact hstatus.trans hold
      · exact hskip _ hwritten r hr (hsame.runID.symm.trans hr'run) rfl hold
    · refine .inr ⟨e, ?_, hid.trans hsame.id.symm⟩
      rw [(Stmt.exec_origins_kept hs hexec).2]
      exact he
  · rw [hr'run] at hnew
    exact absurd hlt (Nat.not_lt.mpr hnew)

theorem tasked_keeps (cfg : ControlConfig) (out : Outside) (runID : UUID) :
    Keeps cfg out runID (Tasked runID) (Provides runID) where
  first := by
    intro env db db₁ db' run targets scopeTargets specs _ hmem hid hok hstarts
    subst hid
    exact tasked_first hmem hok hstarts
  pass := by
    intro db db' run hdb _ hid _ hplans
    subst hid
    cases hplans with
    | intro hscan hprobes hprobe hwebs hweb =>
      have hscanned := hdb.insert (fun _ hsp => exists_task_of_newScan hsp) hscan
      refine (hscanned.insert ?_ hprobe).insert ?_ hweb
      · intro sp hsp
        obtain ⟨t, ht, hrun, -⟩ := hprobes sp hsp
        exact ⟨t, ht, hrun⟩
      · intro sp hsp
        obtain ⟨t, ht, hrun, -⟩ := hwebs sp hsp
        exact ⟨t, ht, hrun⟩
  finish := by
    intro env db db' run hdb hid hfin
    subst hid
    rintro ⟨t, ht, hrun⟩
    rw [hfin.tasks] at ht
    obtain ⟨hlt, hcov⟩ := hdb ⟨t, ht, hrun⟩
    refine ⟨?_, fun r' hr' hr'run => ?_⟩
    · exact labeled_keeps (J := fun d => run.id < d.runs.next)
        (fun hold _ hexec => Nat.lt_of_lt_of_le hold (Stmt.exec_grows hexec).runs_next)
        hlt hfin.labeled
    · obtain ⟨r, hr, hrrun, hid, hstatus⟩ := hfin.target hr' hr'run
      rcases hcov r hr hrrun with hskip | ⟨e, he, heq⟩
      · rw [if_pos hskip] at hstatus
        exact .inl hstatus
      · exact .inr ⟨e, hfin.origins ▸ he, heq.trans hid.symm⟩
  other {_ _ _ _ _ _ h} hdb hok hexec := hdb.other h hok hexec

end Tasked

/-! ### The verdict -/

theorem DB.Tallied.all_done (hdb : db.Tallied) {r : RunTarget} (hr : r ∈ db.runTargets.rows)
    (hle : ¬ r.tasksDone < r.tasksTotal) {e : TaskOrigin} (he : e ∈ db.taskOrigins)
    (hid : e.runTargetID = r.id) : doneTask db e.taskID = true := by
  rw [hdb.done r hr, hdb.total r hr] at hle
  have hcount : (db.taskOrigins.filter (·.runTargetID == r.id)).countP
      (fun o => doneTask db o.taskID) =
      (db.taskOrigins.filter (·.runTargetID == r.id)).length := by
    rw [List.countP_filter, ← List.countP_eq_length_filter]
    have hcomm : db.taskOrigins.countP (fun o => doneTask db o.taskID && o.runTargetID == r.id) =
        doneCount db r.id := by
      simp only [doneCount, Bool.and_comm]
    have hbound := doneCount_le db r.id
    show _ = originCount db r.id
    rw [hcomm]
    omega
  exact List.countP_eq_length.mp hcount e (List.mem_filter.mpr ⟨he, beq_iff_eq.mpr hid⟩)

/-- **`finish` judges rightly.** -/
theorem verdicts_of_finishes {cfg : ControlConfig} {out : Outside} {run : ScanRun}
    (hatt : Attributed run.id db) (htal : db.Tallied) (hcov : Tasked run.id db)
    (hfin : Finishes cfg out env run db db') : VerdictsRight run.id db' := by
  intro r' hr' hrun hcompleted
  obtain ⟨r, hr, hrrun, hid, hstatus⟩ := hfin.target hr' hrun
  rw [hcompleted] at hstatus
  -- the target was not skipped, and all its tasks were counted done
  have hskip : r.status ≠ .skipped := by
    intro hskip
    rw [if_pos hskip] at hstatus
    cases hstatus
  rw [if_neg hskip, finishedStatus] at hstatus
  have hle : ¬ (0 < r.tasksTotal ∧ r.tasksDone < r.tasksTotal) := by
    intro hlt
    rw [if_pos hlt] at hstatus
    cases hstatus
  obtain ⟨t, ht⟩ := List.exists_mem_of_length_pos hfin.started
  obtain ⟨htmem, htrun⟩ := List.mem_filter.mp ht
  obtain ⟨e, he, heid⟩ :=
    ((hcov ⟨t, htmem, beq_iff_eq.mp htrun⟩).2 r hr hrrun).resolve_left hskip
  have hpos : 0 < r.tasksTotal := by
    rw [htal.total r hr]
    exact Int.natCast_pos.mpr (List.countP_pos_iff.mpr ⟨e, he, beq_iff_eq.mpr heid⟩)
  have hdone : ∀ t ∈ db.tasks.rows, ⟨t.id, r.id⟩ ∈ db.taskOrigins → t.status = .done := by
    intro t ht hedge
    have hd := htal.all_done hr (fun hlt => hle ⟨hpos, hlt⟩) hedge rfl
    obtain ⟨t', ht', heq⟩ := List.any_eq_true.mp hd
    obtain ⟨hkey, hst⟩ := Bool.and_eq_true_iff.mp heq
    rw [← Table.eq_of_key ht' ht (beq_iff_eq.mp hkey)]
    exact beq_iff_eq.mp hst
  have hsome : ∃ t ∈ db.tasks.rows, ⟨t.id, r.id⟩ ∈ db.taskOrigins := by
    obtain ⟨t', ht', heq⟩ := List.any_eq_true.mp
      (htal.all_done hr (fun hlt => hle ⟨hpos, hlt⟩) he heid)
    obtain ⟨hkey, -⟩ := Bool.and_eq_true_iff.mp heq
    refine ⟨t', ht', ?_⟩
    rw [beq_iff_eq.mp hkey, ← heid]
    exact he
  have hatt' := hatt.labeled hfin.labeled
  rw [← hid, ← hfin.tasks, ← hfin.origins] at hdone hsome
  refine ⟨hsome, hdone, fun a hled t ht htrun hstage hip => ?_⟩
  exact hdone t ht (hatt'.edge hled ht htrun (.inr ⟨hstage, hip⟩))

/-! ### Whole lives -/

/-- **The move lets the verdict be right**: every target keeps its addresses, is counted once and is
given something to do. -/
def Judges (runID : UUID) (db : DB) (m : Move) : Prop :=
  (Attributes runID db m ∧ Counts db m) ∧ Provides runID db m
deriving Decidable

theorem Planner.Plans.runs {allowPrivate : Bool} {run : ScanRun}
    (h : Plans allowPrivate run db db') :
    db'.runs = db.runs := by
  cases h with
  | intro hscan _ hprobe _ hweb =>
    rw [hweb.targets.2, hprobe.targets.2, hscan.targets.2]

/-- **A target is completed only if it is done**, whenever an `Advance` has finished the run, in
every life whose moves let the verdict be right. -/
theorem completed_targets_done (cfg : ControlConfig) (out : Outside) {runID : UUID} {db : DB}
    (hdb : db.Tallied) (hnil : ∀ e ∈ db.taskOrigins, e.runTargetID ≠ uuidNil)
    (hnew : ∀ t ∈ db.tasks.rows, t.runID ≠ runID) {ms : List (Env × Move)} {env : Env}
    (hms : Through cfg out runID (Judges runID) db (ms ++ [(env, .advance)]))
    (hbefore : runStatusOf (live cfg out runID db ms) runID ≠ some .completed)
    (hafter : runStatusOf (live cfg out runID db (ms ++ [(env, .advance)])) runID =
      some .completed) :
    VerdictsRight runID (live cfg out runID db (ms ++ [(env, .advance)])) := by
  have hk := ((attributed_keeps cfg out runID).and (tallied_keeps cfg out runID)).and
    (tasked_keeps cfg out runID)
  obtain ⟨hlife, hok, -⟩ := through_append hms
  have hinv := hk.live ⟨⟨attributed_new ⟨hdb.task, hnil⟩ hnew, hdb⟩,
    fun ⟨t, ht, hrun⟩ => absurd hrun (hnew t ht)⟩ hlife
  rw [live_append] at hafter ⊢
  generalize live cfg out runID db ms = d at hbefore hafter hok hinv ⊢
  have hstep : live cfg out runID d [(env, .advance)] = Move.after cfg out runID env d .advance :=
      rfl
  rw [hstep, Move.after] at hafter ⊢
  cases hrun : d.runs.find? runID with
  | none =>
    rw [hrun] at hafter
    exact absurd hafter hbefore
  | some run =>
    rw [hrun] at hafter
    obtain ⟨hmem, rfl⟩ := Table.find?_eq_some.mp hrun
    have hpass := @alone_advance cfg out env d cfg.launch.allowPrivate run
    dsimp only at hafter ⊢
    generalize (alone cfg out env d (Planner.advance cfg.launch.allowPrivate run)).1 = d'
      at hpass hafter ⊢
    -- of what a pass can do, only finishing completes the run
    cases hpass with
    | idle => exact absurd hafter hbefore
    | plans hplans =>
      rw [runStatusOf, hplans.runs] at hafter
      exact absurd hafter hbefore
    | finishes hplans hfin =>
      obtain ⟨⟨hatt, htal⟩, hcov⟩ := hk.pass hinv hmem rfl hok hplans
      exact verdicts_of_finishes hatt htal hcov hfin

/-! ### A target nothing is planned for -/

/-- The run is for a name and an autonomous system. -/
def systemTargets : List RunTarget :=
  [{ id := 1, runID := 1, kind := .domain, value := "example.org" },
   { id := 2, runID := 1, kind := .asn, value := "AS64500" }]

/-- The run is new. -/
def systemDB : DB := { namesDB with runTargets := .ofRows systemTargets (by simp [systemTargets]) }

/-- It is planned, and both tasks of the name are done. -/
def systemLife : List (Env × Move) :=
  [({}, .planInitial systemTargets namesScope), leaseAll] ++ reportOf 1 1 {} ++ reportOf 2 2 {}

/-- **The pass that finishes the run completes the autonomous system**, for which nothing was
done. -/
theorem unplanned_target_completed :
    runStatusOf (live {} {} 1 systemDB systemLife) 1 = some .running ∧
    runStatusOf (live {} {} 1 systemDB (systemLife ++ [passOver])) 1 = some .completed ∧
    ¬ VerdictsRight 1 (live {} {} 1 systemDB (systemLife ++ [passOver])) := by
  refine ⟨by decide +kernel, by decide +kernel, fun h => ?_⟩
  obtain ⟨r, hr, hrun, hcompleted, hnone⟩ :
      ∃ r ∈ (live {} {} 1 systemDB (systemLife ++ [passOver])).runTargets.rows,
        r.runID = 1 ∧ r.status = .completed ∧
        ¬ ∃ t ∈ (live {} {} 1 systemDB (systemLife ++ [passOver])).tasks.rows,
          ⟨t.id, r.id⟩ ∈ (live {} {} 1 systemDB (systemLife ++ [passOver])).taskOrigins := by
    decide +kernel
  exact hnone (h r hr hrun hcompleted).some

/-- The two names of `otherAddressLater` are completed, and they are done. -/
theorem completed_targets_done_names :
    (live {} {} 1 namesDB (otherAddressLater ++ [passOver])).runTargets.rows.map (·.status) =
      [.completed, .completed] ∧
    VerdictsRight 1 (live {} {} 1 namesDB (otherAddressLater ++ [passOver])) :=
  ⟨by decide +kernel, completed_targets_done {} {}
    ⟨by decide, by decide, by decide, by decide, by decide⟩ (by decide) (by decide)
    (by decide +kernel) (by decide +kernel) (by decide +kernel)⟩

end PinkGlasses
