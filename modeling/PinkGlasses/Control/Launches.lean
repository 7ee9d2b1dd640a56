import PinkGlasses.Control.Trace

/-!
# PinkGlasses.Control.Launches

A run has **one launch**: the key `CreateRun` hands out is new, so no two requests have created the
same run. It holds in every configuration of any system over the store's statements, with or without
a log beside the database.
-/

namespace PinkGlasses

open Lib Prog Planner Launch

variable {β : Type}

/-- The run a statement created. -/
def RunStmt.launches : {β : Type} → RunStmt β → Option β → Option UUID
  | _, createRun _ _ _, some (run, _) => some run.id
  | _, _, _ => none

def Stmt.launches : {β : Type} → Stmt β → Option β → Option UUID
  | _, run s, b => s.launches b
  | _, _, _ => none

/-- The history shows a call that `f` reads the run off. -/
def Shows (f : {β : Type} → Stmt β → Option β → Option UUID) (h : Hist Stmt) (runID : UUID) :
    Prop :=
  ∃ c ∈ h, f c.stmt c.answer = some runID
deriving Decidable

theorem shows_cons {f : {β : Type} → Stmt β → Option β → Option UUID} {h : Hist Stmt} {s : Stmt β}
    {r : Option β} {runID : UUID} :
    Shows f (⟨s, r⟩ :: h) runID ↔ f s r = some runID ∨ Shows f h runID := by
  unfold Shows
  rw [List.exists_mem_cons_iff]

theorem not_shows_nil {f : {β : Type} → Stmt β → Option β → Option UUID} {runID : UUID} :
    ¬ Shows f [] runID := by
  rintro ⟨c, hc, -⟩
  cases hc

theorem Stmt.launches_none (s : Stmt β) : s.launches none = none := by
  cases s with
  | run s => cases s <;> rfl
  | _ => rfl

theorem LaunchOf.shows {h : Hist Stmt} {scopeID : UUID} {run : ScanRun} {saved : List RunTarget}
    (hl : LaunchOf h scopeID run saved) : Shows Stmt.launches h run.id := by
  obtain ⟨profile, targets, hask⟩ := hl
  exact ⟨_, hask, rfl⟩

/-! ### Keys of runs -/

section Keys

variable {out : Outside} {env : Env} {db db' : DB} {s : Stmt β} {b : β}

theorem launches_eq_next {runID : UUID} (hexec : s.exec out env db = some (b, db'))
    (h : s.launches (some b) = some runID) : runID = db.runs.next := by
  cases s with
  | run s =>
    cases s with
    | createRun scopeID profile targets =>
      simp only [Stmt.exec, RunStmt.exec] at hexec
      split at hexec
      · cases hexec
        exact (Option.some.inj h).symm
      · cases hexec
    | _ => cases h
  | _ => cases h

theorem created_of_launches {runID : UUID} (h : s.launches (some b) = some runID) :
    s.created env db ≠ [] := by
  cases s with
  | run s =>
    cases s with
    | createRun => exact List.cons_ne_nil _ _
    | _ => cases h
  | _ => cases h

theorem runs_next_le (hexec : s.exec out env db = some (b, db')) :
    db.runs.next ≤ db'.runs.next ∧ ∀ runID, s.launches (some b) = some runID →
      runID < db'.runs.next := by
  rw [Stmt.exec_runs_next hexec]
  refine ⟨Nat.le_add_right _ _, fun runID h => ?_⟩
  rw [launches_eq_next hexec h]
  exact Nat.lt_add_of_pos_right (List.length_pos_iff.mpr (created_of_launches h))

end Keys

/-! ### One launch a run -/

section Apart

variable {σ R ρ : Type} {out : Outside} {sys : System Stmt σ Env R ρ} {db : σ → DB}

/-- The system's statements are those of the store, on the database in its state. -/
def OnStore (out : Outside) (sys : System Stmt σ Env R ρ) (db : σ → DB) : Prop :=
  ∀ {β : Type} {s : Stmt β} {env st b st'}, sys.exec s env st = some (b, st') →
    s.exec out env (db st) = some (b, db st')

theorem controlSystem_onStore (cfg : ControlConfig) (out : Outside) :
    OnStore out (controlSystem cfg out) id := id

theorem OnStore.logged {sys : System Stmt DB Env R ρ} {L : Type}
    {entry : {β : Type} → Stmt β → β → List L} (hsys : OnStore out sys id) :
    OnStore out (sys.logged entry) Prod.fst :=
  fun hexec => hsys (System.logged_exec _ hexec).1

/-- No two requests have created the same run. -/
structure LaunchesApart (db : σ → DB) (c : Conf Stmt σ ρ) : Prop where
  below : ∀ th ∈ c.threads, ∀ runID, Shows Stmt.launches th.hist runID →
    runID < (db c.state).runs.next
  apart : ∀ (i j : Nat) (t t' : Thread Stmt ρ), i ≠ j → c.threads[i]? = some t →
    c.threads[j]? = some t' → ∀ runID, Shows Stmt.launches t.hist runID →
      ¬ Shows Stmt.launches t'.hist runID

theorem LaunchesApart.start (st : σ) : LaunchesApart db (⟨st, []⟩ : Conf Stmt σ ρ) :=
  ⟨nofun, nofun⟩

/-- Replacing a thread keeps the launches apart if what it newly shows is new to all. -/
theorem LaunchesApart.set {c : Conf Stmt σ ρ} {st : σ} {i : Nat} {t t' : Thread Stmt ρ}
    (hc : LaunchesApart db c) (ht : c.threads[i]? = some t)
    (hnext : (db c.state).runs.next ≤ (db st).runs.next)
    (hnew : ∀ runID, Shows Stmt.launches t'.hist runID → Shows Stmt.launches t.hist runID ∨
      ((db c.state).runs.next ≤ runID ∧ runID < (db st).runs.next)) :
    LaunchesApart db ⟨st, c.threads.set i t'⟩ := by
  have hbelow : ∀ {j : Nat} {th}, c.threads[j]? = some th → ∀ runID,
      Shows Stmt.launches th.hist runID → runID < (db c.state).runs.next :=
    fun hj => hc.below _ (List.mem_of_getElem? hj)
  have hget : ∀ {j : Nat} {th}, (c.threads.set i t')[j]? = some th →
      (j = i ∧ th = t') ∨ (j ≠ i ∧ c.threads[j]? = some th) := by
    intro j th hj
    by_cases hij : j = i
    · refine .inl ⟨hij, ?_⟩
      rw [hij, List.getElem?_set_self', ht] at hj
      exact (Option.some.inj hj).symm
    · rw [List.getElem?_set_ne (Ne.symm hij)] at hj
      exact .inr ⟨hij, hj⟩
  -- a thread shows what it showed before, or the run its last statement created
  refine ⟨fun th hth runID hshow => ?_, fun a b x y hab ha hb runID hx hy => ?_⟩
  · obtain ⟨j, hj⟩ := List.mem_iff_getElem?.mp hth
    rcases hget hj with ⟨-, rfl⟩ | ⟨-, hold⟩
    · rcases hnew runID hshow with hold | ⟨-, hlt⟩
      · exact Nat.lt_of_lt_of_le (hbelow ht runID hold) hnext
      · exact hlt
    · exact Nat.lt_of_lt_of_le (hbelow hold runID hshow) hnext
  · rcases hget ha with ⟨rfl, rfl⟩ | ⟨hai, ha'⟩
    · rcases hget hb with ⟨rfl, -⟩ | ⟨-, hb'⟩
      · exact hab rfl
      -- the key of a run just created is above all that others have shown
      · rcases hnew runID hx with hold | ⟨hge, -⟩
        · exact hc.apart _ _ _ _ hab ht hb' runID hold hy
        · exact absurd (hbelow hb' runID hy) (Nat.not_lt.mpr hge)
    · rcases hget hb with ⟨rfl, rfl⟩ | ⟨-, hb'⟩
      · rcases hnew runID hy with hold | ⟨hge, -⟩
        · exact hc.apart _ _ _ _ hab ha' ht runID hx hold
        · exact absurd (hbelow ha' runID hx) (Nat.not_lt.mpr hge)
      · exact hc.apart _ _ _ _ hab ha' hb' runID hx hy

/-- **Every event keeps the launches apart.** -/
theorem LaunchesApart.next (hsys : OnStore out sys db) {c : Conf Stmt σ ρ} {e : Event R Env}
    (hc : LaunchesApart db c) : LaunchesApart db (sys.next c e) := by
  have hfail : ∀ {i : Nat} {h : Hist Stmt} {β : Type} {s : Stmt β} {k},
      c.threads[i]? = some ⟨h, .call s k⟩ → LaunchesApart db (System.answer c i h s k none) := by
    intro i h β s k ht
    refine hc.set ht (Nat.le_refl _) fun runID hshow => .inl ?_
    rcases shows_cons.mp hshow with hnew | hold
    · rw [s.launches_none] at hnew
      cases hnew
    · exact hold
  cases e with
  | spawn r =>
    simp only [System.next]
    split
    · have hget : ∀ {j : Nat} {th}, (c.threads ++ [⟨[], sys.prog r⟩])[j]? = some th →
          c.threads[j]? = some th ∨ th.hist = [] := by
        intro j th hj
        by_cases hlt : j < c.threads.length
        · rw [List.getElem?_append_left hlt] at hj
          exact .inl hj
        · rw [List.getElem?_append_right (Nat.le_of_not_lt hlt)] at hj
          rw [List.mem_singleton.mp (List.mem_of_getElem? hj)]
          exact .inr rfl
      -- a request that has just arrived shows nothing
      refine ⟨fun th hth runID hshow => ?_, fun i j x y hij hi hj runID hx hy => ?_⟩
      · obtain ⟨j, hj⟩ := List.mem_iff_getElem?.mp hth
        rcases hget hj with hold | hnil
        · exact hc.below th (List.mem_of_getElem? hold) runID hshow
        · rw [hnil] at hshow
          exact absurd hshow not_shows_nil
      · rcases hget hi with hi' | hnil
        · rcases hget hj with hj' | hnil
          · exact hc.apart i j x y hij hi' hj' runID hx hy
          · rw [hnil] at hy
            exact not_shows_nil hy
        · rw [hnil] at hx
          exact not_shows_nil hx
    · exact hc
  | step i o =>
    simp only [System.next]
    split
    · rename_i h β s k ht
      cases hex : sys.exec s o c.state with
      | none => exact hfail ht
      | some r =>
        obtain ⟨b, st⟩ := r
        obtain ⟨hle, hnew⟩ := runs_next_le (hsys hex)
        refine hc.set ht hle fun runID hshow => ?_
        -- only an executed `CreateRun` shows a run, under the next key
        rcases shows_cons.mp hshow with hhead | hold
        · exact .inr ⟨Nat.le_of_eq (launches_eq_next (hsys hex) hhead).symm, hnew runID hhead⟩
        · exact .inl hold
    · exact hc
  | fail i =>
    simp only [System.next]
    split
    · rename_i h β s k ht
      exact hfail ht
    · exact hc

end Apart

end PinkGlasses
