import PinkGlasses.Lease.Slots

/-!
# PinkGlasses.Lease.Brute

How many brute-force tasks a worker holds. `Dispatcher.Lease` asks how much room the worker has
under `bruteCap` and leases at most that many in a **second statement**; a task the reaper put back
is handed to its worker again without asking.

So the cap holds as far as the answer is still right where it is used (`RoomLeft`): no brute-force
task has come to the worker between the two statements, and none is handed back to a worker that has
`bruteCap` of them. `brute_within_cap` says so of every run; two ticks of the same worker that read
the same room lease twice the cap.
-/

namespace PinkGlasses

open Lib Store Gateway

variable {β : Type}

/-! ### The brute-force tasks a worker holds -/

def ScanTask.brute (t : ScanTask) : Bool := t.stage == .dnsBrute

/-- How many brute-force tasks a worker holds. -/
def heldBrute (db : DB) (id : UUID) : Nat := db.tasks.rows.countP fun t => heldBy id t && t.brute

/-- **No worker holds more brute-force tasks than the cap.** -/
def WithinCap (cap : Int) (db : DB) : Prop := ∀ id, (heldBrute db id : Int) ≤ cap

/-- The room a statement was answered with, and the worker it is about. -/
def TaskStmt.roomRead : {β : Type} → TaskStmt β → β → Option (UUID × Int)
  | _, bruteRoom id _, room => some (id, room)
  | _, _, _ => none

def Stmt.roomRead : {β : Type} → Stmt β → β → Option (UUID × Int)
  | _, task s, b => s.roomRead b
  | _, _, _ => none

/-- The rooms a request has read. -/
def roomsRead (h : Hist Stmt) : List (UUID × Int) :=
  h.filterMap fun c => c.answer.bind c.stmt.roomRead

/-! ### The condition -/

/-- At a lease of brute-force tasks the worker holds **no more of them than when its room was
read**; a brute-force task is handed back only to a worker below the cap. -/
def TaskStmt.roomLeft (cap : Int) (db : DB) (h : Hist Stmt) : TaskStmt β → Prop
  | leaseTasksWhere workerID _ _ _ _ only _ => only = .onlyBrute →
      ∀ x ∈ roomsRead h, x.1 = workerID → (heldBrute db workerID : Int) ≤ cap - x.2
  | readoptTask taskID workerID _ _ =>
      (∃ t ∈ db.tasks.rows, readoptable taskID t = true ∧ t.brute = true) →
      (heldBrute db workerID : Int) < cap
  | _ => True

/-- The condition on a statement of request `i`. -/
def RoomLeft (cap : Int) (c : Conf Stmt DB Nat) (i : Nat) (β : Type) : Stmt β → Prop
  | .task s => ∀ th ∈ c.threads[i]?, s.roomLeft cap c.state th.hist
  | _ => True

theorem mem_roomsRead {h : Hist Stmt} {id : UUID} {cap room : Int}
    (hread : h.Asked (.task (.bruteRoom id cap)) (some room)) : (id, room) ∈ roomsRead h :=
  List.mem_filterMap.mpr ⟨_, hread, rfl⟩

/-! ### The invariant -/

section Invariant

variable {env : Env} {db db' : DB} {h : Hist Stmt} {cap : Int}

theorem ScanTask.brute_of_stage {t t' : ScanTask} (h : t.stage = t'.stage) :
    t.brute = t'.brute := by
  rw [brute, h, brute]

theorem WithinCap.after_lease {workerID : UUID} {caps : List String} {poolID : Option UUID}
    {limit secs : Int} {only : StageFilter} {perCompany : Int} {jobs : List Job}
    (hin : WithinCap cap db)
    (hpre : (TaskStmt.leaseTasksWhere workerID caps poolID limit secs only perCompany).gatewayPre h)
    (hok : (TaskStmt.leaseTasksWhere workerID caps poolID limit secs only perCompany).roomLeft
      cap db h)
    (hexec : (TaskStmt.leaseTasksWhere workerID caps poolID limit secs only perCompany).exec env
      db = some (jobs, db')) : WithinCap cap db' := by
  intro id
  have hcount : heldBrute db' id ≤ heldBrute db id + _ :=
    TaskStmt.heldOf_after ScanTask.brute_of_stage hexec id
  have hbound := hin id
  by_cases hbrute : id = workerID ∧ only = .onlyBrute
  -- the room that was read, which nobody else has used, bounds what is given
  · obtain ⟨rfl, rfl⟩ := hbrute
    obtain ⟨_, room, hasked, hlimit⟩ := hpre.2.2 rfl
    have hroom := hok rfl _ (mem_roomsRead hasked) rfl
    have hgiven := le_trans hcount (Nat.add_le_add_left (TaskStmt.given_lease_le id) _)
    simp only at hroom
    omega
  · -- only the worker of the lease is given anything, and only what the filter admits
    rw [TaskStmt.given_eq_zero fun t ht hsort hgives => hbrute ?_] at hcount
    · omega
    obtain ⟨rfl, hsel⟩ := TaskStmt.gives_lease hgives
    have hadm := leasable_of_mem_leaseChoice ht hsel
    simp only [leasable, Bool.and_eq_true] at hadm
    have hstage := hadm.1.2
    rw [beq_iff_eq.mp hsort] at hstage
    refine ⟨rfl, ?_⟩
    cases only with
    | anyStage => exact absurd rfl hpre.2.1
    | onlyBrute => rfl
    | noBrute => cases hstage

theorem WithinCap.after {out : Outside} {s : Stmt β} {b : β} (hin : WithinCap cap db)
    (hpre : s.gatewayPre h) (hok : ∀ s', s = .task s' → s'.roomLeft cap db h)
    (hexec : s.exec out env db = some (b, db')) : WithinCap cap db' := by
  -- the other statements give nobody a task
  have hother : (∀ s', s = .task s' → ∀ t, s'.gives env db t = none) → WithinCap cap db' :=
    fun hnone id => le_trans
      (Int.ofNat_le.mpr (Stmt.heldOf_le ScanTask.brute_of_stage hexec hnone id)) (hin id)
  cases s with
  | task s =>
    have hroom := hok s rfl
    have hex : s.exec env db = some (b, db') := hexec
    have hcontract : s.gatewayPre h := hpre
    cases s with
    | leaseTasksWhere => exact hin.after_lease hcontract hroom hex
    | readoptTask => exact TaskStmt.readopt_within ScanTask.brute_of_stage hex hin hroom
    | _ =>
      refine hother ?_
      rintro _ ⟨⟩ _
      rfl
  | _ => exact hother nofun

end Invariant

theorem brute_inductive (cfg : GatewayConfig) (out : Outside) :
    (gatewaySystem cfg out).Inductive (RoomLeft cfg.bruteCap)
      gatewayContract (fun _ _ => True) (WithinCap cfg.bruteCap) fun _ _ => True where
  spawn _ r _ _ := ⟨trivial, gatewayRequest_meets cfg r⟩
  step := by
    intro c i h β s k env b st hc hth hpre hok hexec
    refine ⟨hc.state.after hpre ?_ hexec, trivial, fun _ _ _ _ _ => trivial⟩
    rintro s' rfl
    exact hok _ hth
  fail _ _ _ := trivial

/-- **The cap on brute-force tasks holds in every state** of every run of the gateway's requests in
which the room a lease goes by is still there, from any database in which it holds. -/
theorem brute_within_cap (cfg : GatewayConfig) (out : Outside) (db : DB)
    (es : List (Event GatewayRequest Env)) (hstart : WithinCap cfg.bruteCap db)
    (hok : (gatewaySystem cfg out).Along (RoomLeft cfg.bruteCap) ⟨db, []⟩ es) :
    WithinCap cfg.bruteCap ((gatewaySystem cfg out).run ⟨db, []⟩ es).state :=
  ((brute_inductive cfg out).run (.start hstart) hok).state

/-! ### Two ticks -/

instance (cap : Int) (db : DB) (h : Hist Stmt) (s : TaskStmt β) :
    Decidable (s.roomLeft cap db h) := by
  induction s using TaskStmt.casesOn <;> unfold TaskStmt.roomLeft <;> infer_instance

instance (cap : Int) (c : Conf Stmt DB Nat) (i : Nat) (s : Stmt β) :
    Decidable (RoomLeft cap c i β s) := by
  induction s using Stmt.casesOn <;> unfold RoomLeft <;> infer_instance

/-- The small installation with two brute-force tasks. -/
def twoBruteDB : DB :=
  { oneTaskDB with
    tasks := .ofRows [{ oneTask with stage := .dnsBrute, target := { domain := "a.example" } },
      { oneTask with id := 2, stage := .dnsBrute, target := { domain := "b.example" } }]
      (by decide) }

/-- Two control connections of the worker tick: both read its room, then both lease. -/
def overlappingTicks : List (Event GatewayRequest Env) :=
  [.spawn (.dispatchTick 1), .spawn (.dispatchTick 1)] ++ steps 0 2 ++ steps 1 2 ++ steps 0 1 ++
    steps 1 1

/-- **Two overlapping ticks lease twice the cap.** -/
theorem overlapping_ticks_exceed :
    heldBrute ((gatewaySystem {} {}).run ⟨twoBruteDB, []⟩ overlappingTicks).state 1 = 2 ∧
      ({} : GatewayConfig).bruteCap = 1 := by
  decide +kernel

/-- One tick after the other: the second finds no room. -/
theorem brute_within_cap_in_turn :
    (WithinCap ({} : GatewayConfig).bruteCap twoBruteDB ∧
      (gatewaySystem {} {}).Along (RoomLeft ({} : GatewayConfig).bruteCap) ⟨twoBruteDB, []⟩
        (.spawn (.dispatchTick 1) :: steps 0 5 ++ .spawn (.dispatchTick 1) :: steps 1 5)) ∧
    WithinCap ({} : GatewayConfig).bruteCap ((gatewaySystem {} {}).run ⟨twoBruteDB, []⟩
      (.spawn (.dispatchTick 1) :: steps 0 5 ++ .spawn (.dispatchTick 1) :: steps 1 5)).state := by
  suffices h : _ ∧ _ from ⟨h, brute_within_cap {} {} twoBruteDB _ h.1 h.2⟩
  refine ⟨fun id => ?_, by decide +kernel⟩
  have hzero : heldBrute twoBruteDB id = 0 := List.countP_eq_zero.mpr fun t ht => by
    have hidle : ∀ t ∈ twoBruteDB.tasks.rows, t.status.inFlight = false := by decide +kernel
    simp [heldBy, hidle t ht]
  rw [hzero]
  decide

end PinkGlasses
