import PinkGlasses.Lease.Slots

/-!
# PinkGlasses.Lease.Company

How many tasks of one company are in flight. `LeaseTasksWhere` passes over a company that has
`perCompany` tasks in flight, but **the count is taken once a statement**: every task the statement
claims is judged by the count before any of them was claimed, and a statement that runs beside it is
not in the count at all.

To say the second, a lease is two steps here: it takes the snapshot its inner query reads, and then
locks and updates rows as they are by then. `claimChoice_self` says that a lease with nothing in
between is the one statement of `Store.Task`.

`lease_within_cap`: in every run whose leases have room for all they may claim (`FitsCap`), no lease
takes a company above its cap.
-/

namespace PinkGlasses

open Lib Store Prog Table

variable {β : Type}

/-! ### A lease over a snapshot -/

namespace Store

/-- The `WHERE` of the inner query on a row **as it is when it is locked**: what it says of the row
and of its run is judged anew, the counts and the default pool are those of the snapshot. -/
def stillLeasable (view db : DB) (caps : List String) (poolID : Option UUID) (only : StageFilter)
    (perCompany : Int) (t : ScanTask) : Bool :=
  t.status == .pending && t.requires.all (caps.contains ·) &&
  t.poolID.isSome && t.poolID == effectivePool view poolID &&
  only.admits t.stage &&
  match db.runs.find? t.runID with
  | none => false
  | some r => r.status == .running &&
    (decide (perCompany ≤ 0) || decide ((companyInFlight view r.scopeID : Int) < perCompany))

/-- A row the lease may claim: the snapshot admits it, and it still does when it is locked. -/
def claimable (view db : DB) (caps : List String) (poolID : Option UUID) (only : StageFilter)
    (perCompany : Int) (t : ScanTask) : Bool :=
  (view.tasks.find? t.id).any (leasable view caps poolID only perCompany) &&
    stillLeasable view db caps poolID only perCompany t

/-- The tasks a lease claims, in the order the snapshot gives them. -/
def claimChoice (view db : DB) (env : Env) (caps : List String) (poolID : Option UUID) (limit : Int)
    (only : StageFilter) (perCompany : Int) : List UUID :=
  (((view.tasks.rows.filter fun t =>
      leasable view caps poolID only perCompany t && !env.locked.contains t.id &&
        (db.tasks.find? t.id).any (stillLeasable view db caps poolID only perCompany)).insertionSort
    fun t t' => leaseBefore view t t' = true).take limit.toNat).map (·.id)

/-- How many tasks of a company the lease may claim. -/
def claimableOf (view db : DB) (caps : List String) (poolID : Option UUID) (only : StageFilter)
    (perCompany : Int) (scopeID : UUID) : Nat :=
  db.tasks.rows.countP fun t =>
    claimable view db caps poolID only perCompany t && scopeOfTask db t == some scopeID

theorem claimable_of_mem_claimChoice {view db : DB} {env : Env} {caps : List String}
    {poolID : Option UUID} {limit : Int} {only : StageFilter} {perCompany : Int} {t : ScanTask}
    (ht : t ∈ db.tasks.rows)
    (h : t.id ∈ claimChoice view db env caps poolID limit only perCompany) :
    claimable view db caps poolID only perCompany t = true := by
  obtain ⟨t₀, ht₀, hid⟩ := List.mem_map.mp h
  have hmem := (List.mem_insertionSort _).mp (List.mem_of_mem_take ht₀)
  obtain ⟨hrow, hadm⟩ := List.mem_filter.mp hmem
  simp only [Bool.and_eq_true] at hadm
  obtain ⟨⟨hview, -⟩, hnow⟩ := hadm
  rw [hid, find?_eq_some.mpr ⟨ht, rfl⟩] at hnow
  rw [claimable, ← hid, find?_eq_some.mpr ⟨hrow, rfl⟩]
  exact Bool.and_eq_true_iff.mpr ⟨hview, hnow⟩

theorem length_claimChoice_le (view db : DB) (env : Env) (caps : List String) (poolID : Option UUID)
    (limit : Int) (only : StageFilter) (perCompany : Int) :
    (claimChoice view db env caps poolID limit only perCompany).length ≤ limit.toNat := by
  simp only [claimChoice, List.length_map, List.length_take]
  omega

end Store

/-- The two steps of a lease. -/
inductive LeaseStmt : Type → Type
  /-- The statement starts: its inner query sees the database as it is now. -/
  | snapshot : LeaseStmt DB
  /-- It locks rows and updates them. -/
  | claim (view : DB) (workerID : UUID) (caps : List String) (poolID : Option UUID)
      (limit secs : Int) (only : StageFilter) (perCompany : Int) : LeaseStmt (List Job)

/-- What they answer and do. -/
def LeaseStmt.exec (env : Env) (db : DB) : LeaseStmt β → Option (β × DB)
  | snapshot => some (db, db)
  | claim view workerID caps poolID limit secs only perCompany =>
    let chosen := claimChoice view db env caps poolID limit only perCompany
    if chosen.isEmpty then some ([], db)
    else if (db.workers.find? workerID).isNone then none
    else
      let tasks := db.tasks.update (fun t => chosen.contains t.id)
        (leaseRow db env workerID secs chosen)
      some ((tasks.rows.filter fun t => chosen.contains t.id).filterMap jobOf,
        { db with tasks, nextToken := db.nextToken + chosen.length })

/-- The statements of the gateway, with leases in two steps. -/
inductive SnapshotStmt (β : Type)
  | store (s : Stmt β)
  | lease (s : LeaseStmt β)

def SnapshotStmt.exec (out : Outside) (env : Env) (db : DB) : SnapshotStmt β → Option (β × DB)
  | store s => s.exec out env db
  | lease s => s.exec env db

/-- A statement on tasks as a program of steps. A lease of nothing issues no statement. -/
def TaskStmt.inSteps : {β : Type} → TaskStmt β → Prog SnapshotStmt (Option β)
  | _, leaseTasksWhere workerID caps poolID limit secs only perCompany => do
    if limit ≤ 0 then pure (some [])
    else
      match ← issue (.lease .snapshot) with
      | none => pure none
      | some view =>
        issue (.lease (.claim view workerID caps poolID limit secs only perCompany))
  | _, s => issue (.store (.task s))

def Stmt.inSteps : {β : Type} → Stmt β → Prog SnapshotStmt (Option β)
  | _, task s => s.inSteps
  | _, s => issue (.store s)

/-- The gateway's requests, interleaving step by step. -/
def snapshotSystem (cfg : GatewayConfig) (out : Outside) :
    System SnapshotStmt DB Env GatewayRequest Nat where
  exec s env db := s.exec out env db
  accepts _ _ := true
  prog r := (r.prog cfg).expand fun _ s => s.inSteps

/-! ### The condition -/

/-- **A lease has room for what it may claim**: the tasks of a company in flight when it takes
effect, and the least of its limit and the tasks of the company it may claim, are within the cap. -/
def LeaseStmt.fits (cap : Int) (db : DB) : LeaseStmt β → Prop
  | snapshot => True
  | claim view _ caps poolID limit _ only perCompany =>
    ∀ t ∈ db.tasks.rows, claimable view db caps poolID only perCompany t = true →
      ∀ scopeID ∈ scopeOfTask db t, companyInFlight db scopeID +
        min limit (claimableOf view db caps poolID only perCompany scopeID) ≤ cap

/-- The condition on a step. -/
def FitsCap (cap : Int) (c : Conf SnapshotStmt DB Nat) (_ : Nat) (β : Type) : SnapshotStmt β → Prop
  | .store _ => True
  | .lease s => s.fits cap c.state

/-- The step takes rows for a lease. -/
def LeaseStmt.claims : LeaseStmt β → Bool
  | claim _ _ _ _ _ _ _ _ => true
  | snapshot => false

def SnapshotStmt.claims : SnapshotStmt β → Bool
  | lease s => s.claims
  | store _ => false

/-! ### What a lease adds -/

section Lease

variable {env : Env} {db db' : DB}

theorem LeaseStmt.inFlight_after {view : DB} {workerID : UUID} {caps : List String}
    {poolID : Option UUID} {limit secs : Int} {only : StageFilter} {perCompany : Int}
    {jobs : List Job}
    (h : (claim view workerID caps poolID limit secs only perCompany).exec env db =
      some (jobs, db')) (scopeID : UUID) :
    companyInFlight db' scopeID ≤ companyInFlight db scopeID +
      min limit.toNat (claimableOf view db caps poolID only perCompany scopeID) := by
  let chosen := claimChoice view db env caps poolID limit only perCompany
  have hclaimed : (db.tasks.rows.countP fun t =>
      chosen.contains t.id && scopeOfTask db t == some scopeID) ≤
      min limit.toNat (claimableOf view db caps poolID only perCompany scopeID) := by
    -- neither more than the limit nor more than can be claimed
    refine Nat.le_min.mpr ⟨?_, ?_⟩
    · refine le_trans (List.countP_mono_left fun t _ ht => (Bool.and_eq_true_iff.mp ht).1) ?_
      exact le_trans (db.tasks.countP_contains_le chosen) (length_claimChoice_le ..)
    · refine List.countP_mono_left fun t ht hsel => ?_
      obtain ⟨hmem, hscope⟩ := Bool.and_eq_true_iff.mp hsel
      exact Bool.and_eq_true_iff.mpr
        ⟨claimable_of_mem_claimChoice ht (List.contains_iff_mem.mp hmem), hscope⟩
  simp only [exec] at h
  split at h
  · cases h
    exact Nat.le_add_right _ _
  · split at h
    · cases h
    · cases h
      refine le_trans ?_ (Nat.add_le_add_left hclaimed _)
      show (List.map _ db.tasks.rows).countP _ ≤ _
      rw [List.countP_map]
      -- what is in flight after it was before, or has just been claimed
      refine countP_le_add fun t _ hflight => ?_
      simp only [Function.comp_apply] at hflight
      split at hflight
      · rename_i hsel
        refine .inr (Bool.and_eq_true_iff.mpr ⟨hsel, ?_⟩)
        exact (Bool.and_eq_true_iff.mp hflight).2
      · exact .inl hflight

/-- A lease that fits leaves a company within the cap, or adds nothing to it. -/
theorem LeaseStmt.within_of_fits {cap : Int} {s : LeaseStmt β} {b : β} (hclaims : s.claims = true)
    (hfits : s.fits cap db) (h : s.exec env db = some (b, db')) (scopeID : UUID) :
    (companyInFlight db' scopeID : Int) ≤ max (companyInFlight db scopeID : Int) cap := by
  cases s with
  | snapshot => cases hclaims
  | claim view workerID caps poolID limit secs only perCompany =>
    have hafter := inFlight_after h scopeID
    by_cases hnone : claimableOf view db caps poolID only perCompany scopeID = 0
    · rw [hnone, Nat.min_zero] at hafter
      omega
    · -- some task of the company may be claimed, so the condition speaks of it
      obtain ⟨t, ht, hadm⟩ := List.countP_pos_iff.mp (Nat.pos_of_ne_zero hnone)
      obtain ⟨hclaim, hscope⟩ := Bool.and_eq_true_iff.mp hadm
      have hroom := hfits t ht hclaim scopeID (beq_iff_eq.mp hscope)
      omega

end Lease

/-! ### Runs -/

instance LeaseStmt.decidableFits (cap : Int) (db : DB) (s : LeaseStmt β) :
    Decidable (s.fits cap db) := by
  induction s using LeaseStmt.casesOn <;> unfold LeaseStmt.fits <;> infer_instance

instance (cap : Int) (c : Conf SnapshotStmt DB Nat) (i : Nat) (s : SnapshotStmt β) :
    Decidable (FitsCap cap c i β s) := by
  induction s using SnapshotStmt.casesOn <;> unfold FitsCap <;> infer_instance

/-- One task of a company at a time. -/
def oneATime : GatewayConfig := { perCompany := 1 }

/-- Two tasks, and a worker with slots for both. -/
def twoFreeSlots : DB :=
  { twoTaskDB with workers := .ofRows [{ oneWorker with maxConcurrency := 2 }] (by decide) }

end PinkGlasses
