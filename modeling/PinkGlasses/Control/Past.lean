import PinkGlasses.Control.Launches
import PinkGlasses.Store.Grow

/-!
# PinkGlasses.Control.Past

What a request has been told. Every answer in its history was given by **some past state of the
database**, and the present one has grown from it (`Grounded`). So what an answer says about rows
that are never taken back still holds, whatever was executed in between; the lemmas here read that
off, one for each statement the planner decides by.
-/

namespace PinkGlasses

open Lib

variable {β : Type}

/-- Every answer in the history was given by a state that had grown from `db₀`, and that `db` has
grown from since. -/
def Grounded (out : Outside) (db₀ db : DB) (h : Hist Stmt) : Prop :=
  ∀ (β : Type) (s : Stmt β) (b : β), h.Asked s (some b) → ∃ env past after,
    s.exec out env past = some (b, after) ∧ Grows db₀ past ∧ Grows after db

section Grounded

variable {out : Outside} {env : Env} {db₀ db db' : DB} {h : Hist Stmt} {s : Stmt β} {b : β}

theorem grounded_nil : Grounded out db₀ db [] := fun _ _ _ hask => hask.of_nil

theorem Grounded.grow (hg : Grounded out db₀ db h) (hgrow : Grows db db') :
    Grounded out db₀ db' h := by
  intro β s b hask
  obtain ⟨env, past, after, hexec, hpast, hafter⟩ := hg β s b hask
  exact ⟨env, past, after, hexec, hpast, hafter.trans hgrow⟩

theorem Grounded.cons (hg : Grounded out db₀ db h) (hdb : Grows db₀ db)
    (hexec : s.exec out env db = some (b, db')) : Grounded out db₀ db' (⟨s, some b⟩ :: h) := by
  intro β s' b' hask
  rcases hask with _ | ⟨_, hold⟩
  · exact ⟨env, db, db', hexec, hdb, .refl db'⟩
  · exact hg.grow (Stmt.exec_grows hexec) β s' b' hold

theorem Grounded.failed (hg : Grounded out db₀ db h) : Grounded out db₀ db (⟨s, none⟩ :: h) :=
  fun β s' b' hask => hg β s' b' hask.of_failed

/-! #### What the answers still say -/

section Answers

variable (hg : Grounded out db₀ db h)

include hg

theorem Grounded.getRun {id : UUID} {run : ScanRun}
    (hask : h.Asked (.run (.getRun id)) (some run)) :
    run.id = id ∧ ∃ r ∈ db.runs.rows, r.id = run.id ∧ r.scopeID = run.scopeID ∧
      r.profile = run.profile := by
  obtain ⟨env, past, after, hexec, -, hafter⟩ := hg _ _ _ hask
  obtain ⟨r, hfind, hr⟩ := Option.map_eq_some_iff.mp hexec
  cases hr
  obtain ⟨hmem, hid⟩ := Table.find?_eq_some.mp hfind
  exact ⟨hid, hafter.run _ hmem⟩

theorem Grounded.listTargets {scopeID : UUID} {tag : String} {rows : List ScopeTarget}
    (hask : h.Asked (.run (.listTargets scopeID tag)) (some rows)) :
    rows = Store.listTargets scopeID tag db := by
  obtain ⟨env, past, after, hexec, -, hafter⟩ := hg _ _ _ hask
  cases hexec
  rw [Store.listTargets, Store.listTargets, hafter.scopeTargets]

variable {runID : UUID}

theorem Grounded.listRunTargets {ts : List RunTarget}
    (hask : h.Asked (.run (.listRunTargets runID)) (some ts)) :
    (∀ t ∈ ts, t.runID = runID ∧ ∃ t' ∈ db.runTargets.rows, SameTarget t t') ∧
    (runID < db₀.runs.next → ∀ t' ∈ db.runTargets.rows, t'.runID = runID →
      ∃ t ∈ ts, SameTarget t t') := by
  obtain ⟨env, past, after, hexec, hpast, hafter⟩ := hg _ _ _ hask
  cases hexec
  refine ⟨fun t ht => ?_, fun hlt t' ht' hrun => ?_⟩
  · obtain ⟨hmem, hrun⟩ := List.mem_filter.mp ((List.mem_insertionSort _).mp ht)
    exact ⟨beq_iff_eq.mp hrun, hafter.runTarget t hmem⟩
  · rcases hafter.runTarget_new t' ht' with ⟨t, ht, hsame⟩ | hnew
    · refine ⟨t, (List.mem_insertionSort _).mpr (List.mem_filter.mpr ⟨ht, ?_⟩), hsame⟩
      rw [← hsame.runID, hrun]
      exact beq_self_eq_true _
    · rw [hrun] at hnew
      exact absurd (Nat.lt_of_lt_of_le hlt hpast.runs_next) (Nat.not_lt.mpr hnew)

theorem Grounded.tasksByStage {stage : Stage} {rows : List TaskRow}
    (hask : h.Asked (.task (.tasksByStage runID stage)) (some rows)) :
    ∀ row ∈ rows, row.id < db.tasks.next ∧
      ∃ t ∈ db.tasks.rows, t.id = row.id ∧ t.runID = runID ∧ t.stage = stage := by
  obtain ⟨env, past, after, hexec, -, hafter⟩ := hg _ _ _ hask
  cases hexec
  intro row hrow
  obtain ⟨t, ht, rfl⟩ := List.mem_map.mp hrow
  obtain ⟨hmem, hsel⟩ := List.mem_filter.mp ht
  simp only [Bool.and_eq_true, beq_iff_eq] at hsel
  refine ⟨Nat.lt_of_lt_of_le (past.tasks.bound t hmem) hafter.tasks_next, ?_⟩
  obtain ⟨t', ht', hid, hrun, hstage, -⟩ := hafter.task t hmem
  exact ⟨t', ht', hid, hrun.trans hsel.1, hstage.trans hsel.2⟩

theorem Grounded.scannedAddresses {ips : List String}
    (hask : h.Asked (.task (.scannedAddresses runID)) (some ips)) :
    ∀ ip ∈ ips, InScan db runID ip := by
  obtain ⟨env, past, after, hexec, -, hafter⟩ := hg _ _ _ hask
  cases hexec
  intro ip hip
  obtain ⟨t, ht, hip⟩ := List.mem_flatMap.mp hip
  obtain ⟨hmem, hsel⟩ := List.mem_filter.mp ht
  simp only [Bool.and_eq_true, beq_iff_eq] at hsel
  exact hafter.inScan ⟨t, hmem, hsel.1, hsel.2, hip⟩

theorem Grounded.probedEndpoints {keys : List String}
    (hask : h.Asked (.task (.probedEndpoints runID)) (some keys)) :
    ∀ key ∈ keys, ∃ t ∈ db.tasks.rows, t.runID = runID ∧ t.stage = .serviceProbe ∧
      endpointKey t.target.ip t.target.port = key := by
  obtain ⟨env, past, after, hexec, -, hafter⟩ := hg _ _ _ hask
  obtain ⟨ks, hks, heq⟩ := Option.map_eq_some_iff.mp hexec
  cases heq
  simp only [Store.probedEndpoints] at hks
  split at hks <;> cases hks
  intro key hkey
  obtain ⟨t, ht, rfl⟩ := List.mem_map.mp hkey
  obtain ⟨hmem, hsel⟩ := List.mem_filter.mp ht
  simp only [Bool.and_eq_true, beq_iff_eq] at hsel
  obtain ⟨t', ht', -, hrun, hstage, htarget⟩ := hafter.task t hmem
  exact ⟨t', ht', hrun.trans hsel.1.1, hstage.trans hsel.1.2, by rw [htarget]⟩

theorem Grounded.insertTasks {specs : List TaskSpec} {ids : List UUID}
    (hask : h.Asked (.task (.insertTasks runID specs)) (some ids)) :
    ∀ sp ∈ specs, ∃ t ∈ db.tasks.rows, t.runID = runID ∧ t.stage = sp.stage ∧
      ∃ id, t.target = (Store.newTask runID sp id).target := by
  obtain ⟨env, past, after, hexec, -, hafter⟩ := hg _ _ _ hask
  have hrows := Store.insertTasks_rows hexec
  intro sp hsp
  obtain ⟨id, hid⟩ := Store.exists_mem_newTasks runID past.tasks.next hsp
  obtain ⟨t', ht', -, hrun, hstage, htarget⟩ := hafter.task _ (hrows ▸ List.mem_append_right _ hid)
  exact ⟨t', ht', hrun, hstage, id, htarget⟩

theorem Grounded.sharedAddresses {scopeID : UUID} {ips : List String}
    (hask : h.Asked (.asset (.sharedAddresses scopeID)) (some ips)) :
    ips ⊆ Store.sharedAddresses scopeID db := by
  obtain ⟨env, past, after, hexec, -, hafter⟩ := hg _ _ _ hask
  cases hexec
  intro ip hip
  obtain ⟨a, ha, rfl⟩ := List.mem_map.mp hip
  obtain ⟨hmem, hsel⟩ := List.mem_filter.mp ha
  simp only [Bool.and_eq_true, beq_iff_eq] at hsel
  obtain ⟨a', ha', -, hscope, haddr, hshared⟩ := hafter.address a hmem
  refine List.mem_map.mpr ⟨a', List.mem_filter.mpr ⟨ha', ?_⟩, haddr⟩
  simp [hscope, hsel.1, hshared hsel.2]

end Answers

end Grounded

/-! ### Every run -/

section Past

variable {σ R ρ : Type} {out : Outside} {sys : System Stmt σ Env R ρ} {db : σ → DB}

/-- What holds of every configuration: the database has grown from `db₀`, and what the requests have
been told is grounded. -/
def Past (out : Outside) (db₀ : DB) (db : σ → DB) : Conf Stmt σ ρ → Prop :=
  System.Holds (fun _ _ _ => True) (fun _ _ => True) (fun st => Grows db₀ (db st))
    fun st th => Grounded out db₀ (db st) th.hist

variable {db₀ : DB} {c : Conf Stmt σ ρ}

theorem Past.grounded (hc : Past out db₀ db c) {i : Nat} {th : Thread Stmt ρ}
    (hth : c.threads[i]? = some th) : Grounded out db₀ (db c.state) th.hist :=
  hc.threads th (List.mem_of_getElem? hth)

/-- **Every event keeps it.** -/
theorem Past.next (hsys : OnStore out sys db) {e : Event R Env} (hc : Past out db₀ db c) :
    Past out db₀ db (sys.next c e) := by
  have hI : System.Inductive sys (fun _ _ _ _ => True) (fun _ _ _ => True) (fun _ _ => True)
      (fun st => Grows db₀ (db st)) fun st th => Grounded out db₀ (db st) th.hist := by
    refine ⟨fun _ r _ _ => ⟨grounded_nil, Prog.meets_true _ _⟩, ?_, fun _ hg _ => hg.failed⟩
    intro c i h β s k env b st' hc hth _ _ hexec
    have hgrow := Stmt.exec_grows (hsys hexec)
    have hg : Grounded out db₀ (db c.state) h := hc.threads _ (List.mem_of_getElem? hth)
    exact ⟨hc.state.trans hgrow, hg.cons hc.state (hsys hexec),
      fun _ _ _ _ hg => hg.grow hgrow⟩
  refine hI.next hc ?_
  cases e with
  | step i o =>
    simp only [System.Allowed]
    split <;> trivial
  | _ => trivial

theorem Past.run (hsys : OnStore out sys db) (hc : Past out db₀ db c) (es : List (Event R Env)) :
    Past out db₀ db (sys.run c es) := by
  induction es generalizing c with
  | nil => exact hc
  | cons e es ih => exact ih (hc.next hsys)

end Past

end PinkGlasses
