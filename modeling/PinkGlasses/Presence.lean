import PinkGlasses.GatewayTrace
import PinkGlasses.Lib.Interference

/-!
# PinkGlasses.Presence

**The status of a worker** under everything the worker itself can bring about: its control channel
opens (`ReviveWorker`), closes or announces a stop (`MarkWorkerDisconnected`), it delivers results
(which quarantine it if they leave their task's address), and the scheduler sweeps over workers that
have not been seen (`MarkStaleWorkers`).

`active` and `stale` are the two statuses a worker moves between by being there or not. The others
are somebody's decision, and the only decision the program makes by itself is the quarantine:
`StatusStep` says so of one statement and, being transitive, of any run.
-/

namespace PinkGlasses

open Lib Gateway

variable {β : Type}

/-- The worker was admitted and is there, or was there. -/
def WorkerStatus.present : WorkerStatus → Bool
  | .active | .stale => true
  | _ => false

/-- **How a status can change without an administrator.** -/
def StatusStep (s s' : WorkerStatus) : Prop :=
  s' = s ∨ s' = .quarantined ∨ (s.present = true ∧ s'.present = true)

theorem StatusStep.refl (s : WorkerStatus) : StatusStep s s := .inl rfl

theorem StatusStep.trans {s t u : WorkerStatus} (h : StatusStep s t) (h' : StatusStep t u) :
    StatusStep s u := by
  rcases h' with rfl | rfl | ⟨ht, hu⟩
  · exact h
  · exact .inr (.inl rfl)
  · rcases h with rfl | rfl | ⟨hs, -⟩
    · exact .inr (.inr ⟨ht, hu⟩)
    · cases ht
    · exact .inr (.inr ⟨hs, hu⟩)

theorem StatusStep.present {s s' : WorkerStatus} (h : StatusStep s s') (hs' : s'.present = true) :
    s.present = true := by
  rcases h with rfl | rfl | ⟨hs, -⟩
  · exact hs'
  · cases hs'
  · exact hs

/-! ### Statements -/

@[inherit_doc WorkerStmt.presence]
def Stmt.presence : Stmt β → Bool
  | worker s => s.presence
  | _ => true

/-- The worker a statement marks as disconnected. -/
def WorkerStmt.disconnects : WorkerStmt β → Option UUID
  | markWorkerDisconnected id => some id
  | _ => none

def Stmt.disconnects : Stmt β → Option UUID
  | worker s => s.disconnects
  | _ => none

theorem Stmt.minor_or_disconnects {s : Stmt β} {id : UUID} (h : s.beats id = true) :
    s.minor = true ∨ s.disconnects = some id := by
  cases s with
  | worker s =>
    cases s with
    | touchWorker | setWorkerConcurrency => exact .inl rfl
    | markWorkerDisconnected w => exact .inr (congrArg some (beq_iff_eq.mp h))
    | _ => cases h
  | _ => exact .inl rfl

/-- Every row of a worker comes from one of the same worker, by a `StatusStep`. -/
def WorkersStep (db db' : DB) : Prop :=
  ∀ w' ∈ db'.workers.rows, ∃ w ∈ db.workers.rows, w'.id = w.id ∧ StatusStep w.status w'.status

theorem WorkersStep.refl (db : DB) : WorkersStep db db := fun w hw => ⟨w, hw, rfl, .refl _⟩

theorem WorkersStep.trans {db₁ db₂ db₃ : DB} (h : WorkersStep db₁ db₂) (h' : WorkersStep db₂ db₃) :
    WorkersStep db₁ db₃ := by
  intro w₃ hw₃
  obtain ⟨w₂, hw₂, hid, hstep⟩ := h' w₃ hw₃
  obtain ⟨w₁, hw₁, hid₁, hstep₁⟩ := h w₂ hw₂
  exact ⟨w₁, hw₁, hid.trans hid₁, hstep₁.trans hstep⟩

theorem Stmt.statusStep {env : Env} {s : Stmt β} (hs : s.presence = true) {w : Worker}
    {status : WorkerStatus} (h : s.workerStatus env (some w) = some status) :
    StatusStep w.status status := by
  cases s with
  | worker s =>
    cases s with
    -- the only status set without a condition is quarantined
    | setWorkerStatus id status =>
      cases h
      split
      · exact .inr (.inl (beq_iff_eq.mp hs))
      · exact .refl _
    | markStaleWorkers | reviveWorker | markWorkerDisconnected =>
      cases h
      split
      · rename_i hsel
        simp only [Bool.and_eq_true, beq_iff_eq] at hsel
        refine .inr (.inr ⟨?_, rfl⟩)
        simp only [hsel, WorkerStatus.present]
      · exact .refl _
    | _ => cases h; exact .refl _
  | _ => cases h; exact .refl _

theorem Stmt.workersStep {out : Outside} {env : Env} {db db' : DB} {s : Stmt β} {b : β}
    (hs : s.presence = true) (h : s.exec out env db = some (b, db')) : WorkersStep db db' := by
  intro w' hw'
  rcases (Stmt.exec_registry h).worker_before w' hw' with ⟨w, hw, hid, hstatus, -⟩ | ⟨-, hstatus, -⟩
  · exact ⟨w, hw, hid, s.statusStep hs hstatus⟩
  · cases s with
    | worker s =>
      cases s with
      | createWorker => cases hs
      | _ => cases hstatus
    | _ => cases hstatus

/-! ### Programs -/

section Programs

open Prog

variable (cfg : GatewayConfig)

/-- What a program that acts for no administrator issues. -/
abbrev Presence (β : Type) (s : Stmt β) : Prop := s.presence = true

/-- What one issues that neither opens nor closes a channel. -/
abbrev Minor (β : Type) (s : Stmt β) : Prop := s.minor = true

theorem authWorker_minor (workerID : Option UUID) (credential : String) :
    Uses Minor (authWorker cfg workerID credential) :=
  (authWorker_meets cfg workerID credential).uses fun _ _ _ hs => hs.2

theorem results_minor (req : ResultsRequest) : Uses Minor (results cfg req) :=
  (results_meets cfg req).uses fun _ _ _ hs => hs.2

theorem heartbeat_marks (workerID : UUID) (hb : Heartbeat) :
    Uses (fun _ s => s.minor = true ∨ s.disconnects = some workerID)
      (heartbeat cfg workerID hb) :=
  (heartbeat_beats cfg workerID hb).mono fun _ _ => Stmt.minor_or_disconnects

theorem dispatchTick_minor (workerID : UUID) : Uses Minor (dispatchTick cfg workerID) :=
  (dispatchTick_meets cfg workerID).uses fun _ _ _ hs => hs.2

theorem gatewayRequest_presence (r : GatewayRequest) : Uses Presence (r.prog cfg) := by
  refine (gatewayRequest_meets cfg r).uses fun h β s hs => ?_
  cases s with
  | worker s => exact hs
  | _ => rfl

end Programs

/-! ### Runs -/

/-- What can happen to a worker without an administrator. -/
inductive PresenceRequest
  /-- A request of a worker, or one of the scheduler's to the lease machinery. -/
  | gateway (r : GatewayRequest)
  /-- The scheduler's sweep, with its cutoff. -/
  | markStaleWorkers (cutoff : Int)
deriving Repr, DecidableEq

/-- The program that serves it. -/
def PresenceRequest.prog (cfg : GatewayConfig) : PresenceRequest → Prog Stmt Nat
  | gateway r => r.prog cfg
  | markStaleWorkers cutoff => do
    let _ ← Prog.issue (.worker (.markStaleWorkers cutoff))
    pure 0

/-- The gateway and the sweeps, interleaving. -/
def presenceSystem (cfg : GatewayConfig) (out : Outside) :
    System Stmt DB Env PresenceRequest Nat :=
  storeSystem out (fun _ _ => true) (PresenceRequest.prog cfg)

section Runs

variable (cfg : GatewayConfig) (out : Outside)

theorem presenceRequest_meets (r : PresenceRequest) :
    (r.prog cfg).Meets (fun _ => Presence) [] fun _ _ => True := by
  have huses : (r.prog cfg).Uses Presence := by
    cases r with
    | gateway r => exact gatewayRequest_presence cfg r
    | markStaleWorkers cutoff => exact Prog.Uses.bind (Prog.uses_issue rfl) fun _ => trivial
  exact huses.keeps fun _ _ _ hs => hs

/-- From any state `db`, every run keeps the workers' statuses in step. -/
theorem workersStep_inductive (db : DB) :
    (presenceSystem cfg out).Inductive (fun _ _ _ _ => True) (fun _ => Presence) (fun _ _ => True)
      (WorkersStep db) fun _ _ => True where
  spawn _ r _ _ := ⟨trivial, presenceRequest_meets cfg r⟩
  step hc _ hs _ hexec :=
    ⟨hc.state.trans (Stmt.workersStep hs hexec), trivial, fun _ _ _ _ _ => trivial⟩
  fail _ _ _ := trivial

/-- The threads of a configuration act for no administrator, also when administrators have acted on
the database in between. -/
theorem presence_amid (db : DB) (es : List (Event PresenceRequest Env ⊕ (DB → DB))) :
    System.Holds (fun _ => Presence) (fun _ _ => True) (fun _ => True) (fun _ _ => True)
      ((presenceSystem cfg out).runAmid (fun f => f) ⟨db, []⟩ es) := by
  have hI : (presenceSystem cfg out).Inductive (fun _ _ _ _ => True) (fun _ => Presence)
      (fun _ _ => True) (fun _ => True) fun _ _ => True :=
    { spawn := fun _ r _ _ => ⟨trivial, presenceRequest_meets cfg r⟩
      step := fun _ _ _ _ _ => ⟨trivial, trivial, fun _ _ _ _ _ => trivial⟩
      fail := fun _ _ _ => trivial }
  have hok : ∀ c, (presenceSystem cfg out).AlongAmid (fun f => f) (fun _ _ _ _ => True)
      (fun _ _ => True) c es := by
    intro c
    induction es generalizing c with
    | nil => trivial
    | cons e es ih =>
      refine ⟨?_, ih _⟩
      cases e with
      | inl e => exact ((presenceSystem cfg out).along_true c [e]).1
      | inr f => trivial
  exact hI.runAmid (fun _ _ => ⟨trivial, fun _ _ => trivial⟩) (.start trivial) (hok _)

/-- From a configuration in which nobody acts for an administrator, a run keeps the statuses in step
and nobody comes to act for one. -/
theorem run_workersStep {c : Conf Stmt DB Nat}
    (hc : System.Holds (fun _ => Presence) (fun _ _ => True) (fun _ => True) (fun _ _ => True) c)
    (es : List (Event PresenceRequest Env)) :
    WorkersStep c.state ((presenceSystem cfg out).run c es).state ∧
      System.Holds (fun _ => Presence) (fun _ _ => True) (fun _ => True) (fun _ _ => True)
        ((presenceSystem cfg out).run c es) := by
  have hrun := (workersStep_inductive cfg out c.state).run
    ⟨.refl c.state, fun _ _ => trivial, hc.contract⟩
    ((presenceSystem cfg out).along_true c es)
  exact ⟨hrun.state, trivial, fun _ _ => trivial, hrun.contract⟩

/-- **An administrator's decision about a worker stands.** Let anything have happened before (`es₁`,
with administrators acting on the database) and then, without an administrator, requests of workers
and sweeps in any interleaving (`es₂`). A worker that was pending, draining, quarantined or revoked
is neither active nor stale afterwards; and whatever the next event is, a worker it leaves active
was active or stale before it, and so was one it leaves stale. -/
theorem deliberate_status_stands (db : DB) (es₁ : List (Event PresenceRequest Env ⊕ (DB → DB)))
    (es₂ : List (Event PresenceRequest Env)) :
    let c := (presenceSystem cfg out).runAmid (fun f => f) ⟨db, []⟩ es₁
    let c' := (presenceSystem cfg out).run c es₂
    (∀ w ∈ c.state.workers.rows,
      w.status ∈ [.pending, .draining, .quarantined, .revoked] →
      ∀ w' ∈ c'.state.workers.rows, w'.id = w.id → w'.status ≠ .active ∧ w'.status ≠ .stale) ∧
    ∀ e, ∀ w ∈ c'.state.workers.rows,
      ∀ w' ∈ ((presenceSystem cfg out).next c' e).state.workers.rows, w'.id = w.id →
      (w'.status = .active → w.status = .active ∨ w.status = .stale) ∧
      (w'.status = .stale → w.status = .stale ∨ w.status = .active) := by
  intro c c'
  obtain ⟨hstep, hc'⟩ := run_workersStep cfg out (presence_amid cfg out db es₁) es₂
  refine ⟨fun w hw hstatus w' hw' hid => ?_, fun e w hw w' hw' hid => ?_⟩
  · obtain ⟨w₀, hw₀, hid₀, hs⟩ := hstep w' hw'
    have hsame : w₀ = w := Table.eq_of_key hw₀ hw (hid₀.symm.trans hid)
    subst hsame
    -- neither active nor stale can be reached from a status set on purpose
    have habsent : w'.status.present = false := by
      cases hp : w'.status.present with
      | false => rfl
      | true =>
        have hpresent := hs.present hp
        revert hstatus hpresent
        cases w₀.status <;> decide
    constructor <;> intro heq <;> rw [heq] at habsent <;> cases habsent
  · obtain ⟨w₀, hw₀, hid₀, hs⟩ := (run_workersStep cfg out hc' [e]).1 w' hw'
    have hsame : w₀ = w := Table.eq_of_key hw₀ hw (hid₀.symm.trans hid)
    subst hsame
    have hpresent : w'.status.present = true → w₀.status = .active ∨ w₀.status = .stale := by
      intro hp
      have hp₀ := hs.present hp
      revert hp₀
      cases w₀.status <;> decide
    exact ⟨fun heq => hpresent (by rw [heq]; rfl), fun heq => (hpresent (by rw [heq]; rfl)).symm⟩

end Runs

end PinkGlasses
