import PinkGlasses.GatewaySystem

/-!
# PinkGlasses.Delivery.Confined

A worker reports on what its task was about: **a batch of results should name only addresses of
the task's own target**, and a batch that names another should leave nothing behind.

The gateway's check compares the observations of a service with the target's single address. A
target that is a batch of addresses (`ips`) is not looked at, nor are address, finding and DNS
observations. So a batch is confined exactly when, if some observation in it is foreign, one of
those the check looks at is (`confines_iff`).
-/

namespace PinkGlasses

open Lib Prog Gateway Ingest

/-- The address an observation carries. -/
def Observation.address (o : Observation) : Option String :=
  match o.type with
  | .subdomain | .wildcard => none
  | .dnsRecord =>
    if (o.rtype = "A" ∨ o.rtype = "AAAA") ∧ o.value ≠ "" then some o.value else none
  | .service | .http | .tls | .tech | .screenshot | .path | .ip | .finding =>
    if o.ip ≠ "" then some o.ip else none

/-- An observation about an address that is none of the target's. -/
def Foreign (tgt : Target) (o : Observation) : Prop :=
  ∃ a ∈ o.address, a ∉ Store.targetAddresses tgt
deriving Decidable

/-- Whether a statement is one on the asset graph. -/
def Stmt.onAssets {β : Type} : Stmt β → Bool
  | asset _ => true
  | _ => false

/-- Whether a statement looks a task up for a delivery. -/
def TaskStmt.loads {β : Type} : TaskStmt β → Bool
  | loadTask _ _ _ => true
  | _ => false

def Stmt.loads {β : Type} : Stmt β → Bool
  | task s => s.loads
  | _ => false

/-- Something was ingested: a statement on the asset graph took effect. -/
def Ingested (h : Hist Stmt) : Prop :=
  ∃ c ∈ h, c.stmt.onAssets = true ∧ c.answer.isSome = true

/-- The target of the task the request was shown to hold. -/
def ToldTarget (h : Hist Stmt) (tgt : Target) : Prop :=
  ∃ taskID workerID tok task,
    h.Asked (.task (.loadTask taskID workerID tok)) (some task) ∧ task.target = tgt

/-- **Confinement.** Whatever the settings, the request around the batch and the answers of the
database: a request for a task with this target is answered 200, or has had anything ingested, only
if no observation of the batch is foreign. -/
def Confines (tgt : Target) (obs : List Observation) : Prop :=
  ∀ cfg req res h status, req.body = some res → res.observations = obs →
    (results cfg req).Ends [] h status → ToldTarget h tgt →
    status = 200 ∨ Ingested h → ∀ o ∈ obs, ¬ Foreign tgt o

/-- If some observation is foreign, the check sees one: the target is a single address, and an
observation of a service is about another. -/
def Checked (tgt : Target) (obs : List Observation) : Prop :=
  (∃ o ∈ obs, Foreign tgt o) →
    tgt.ip ≠ "" ∧ ∃ o ∈ obs, confined o.type = true ∧ o.ip ≠ "" ∧ o.ip ≠ tgt.ip
deriving Decidable

theorem confineViolation_eq_true {tgt : Target} {obs : List Observation} :
    confineViolation tgt obs = true ↔
      tgt.ip ≠ "" ∧ ∃ o ∈ obs, confined o.type = true ∧ o.ip ≠ "" ∧ o.ip ≠ tgt.ip := by
  simp only [confineViolation, Bool.and_eq_true, bne_iff_ne, List.any_eq_true, and_assoc]

/-! ### A batch that is refused -/

section Refused

variable {cfg : GatewayConfig} {h : Hist Stmt}

/-- Nothing has been said of a task yet, and nothing was ingested. -/
structure Unloaded (h : Hist Stmt) : Prop where
  untold : ∀ tgt, ¬ ToldTarget h tgt
  clean : ∀ c ∈ h, c.stmt.onAssets = false

theorem ToldTarget.of_cons {β : Type} {s : Stmt β} {r : Option β} {tgt : Target}
    (htold : ToldTarget (⟨s, r⟩ :: h) tgt) (hload : s.loads = false ∨ r = none) :
    ToldTarget h tgt := by
  obtain ⟨taskID, workerID, tok, task, hask, htgt⟩ := htold
  rcases hask with _ | ⟨_, hask⟩
  · rcases hload with hload | hload <;> cases hload
  · exact ⟨taskID, workerID, tok, task, hask, htgt⟩

theorem Unloaded.cons {β : Type} {s : Stmt β} {r : Option β} (hf : Unloaded h)
    (hs : s.onAssets = false)
    (hload : s.loads = false ∨ r = none) : Unloaded (⟨s, r⟩ :: h) :=
  ⟨fun tgt htold => hf.untold tgt (htold.of_cons hload), List.forall_mem_cons.mpr ⟨hs, hf.clean⟩⟩

/-- What the request knows once its task is looked up: nothing was ingested, and it is told of no
other task. -/
def LookedUp (h : Hist Stmt) (r : Option TaskInfo) : Prop :=
  (∀ c ∈ h, c.stmt.onAssets = false) ∧
    ∀ tgt, ToldTarget h tgt → ∃ task, r = some task ∧ task.target = tgt

variable {taskID workerID tok : UUID}

theorem Unloaded.load (hf : Unloaded h) (r : Option TaskInfo) :
    LookedUp (⟨.task (.loadTask taskID workerID tok), r⟩ :: h) r := by
  refine ⟨List.forall_mem_cons.mpr ⟨rfl, hf.clean⟩, ?_⟩
  rintro tgt ⟨_, _, _, task, hask, htgt⟩
  rcases hask with _ | ⟨_, hask⟩
  · exact ⟨task, rfl, htgt⟩
  · exact absurd ⟨_, _, _, task, hask, htgt⟩ (hf.untold tgt)

theorem heldTask_looksUp (hf : Unloaded h) :
    Meets (fun _ _ _ => True) h (heldTask cfg taskID workerID tok) LookedUp := by
  refine ⟨trivial, fun load => ?_⟩
  cases load with
  | some task => exact hf.load (some task)
  | none =>
    have hf₁ := hf.cons (s := .task (.loadTask taskID workerID tok)) (r := none) rfl (.inr rfl)
    refine ⟨trivial, fun adopted => ?_⟩
    have hf₂ := hf₁.cons (s := .task (.readoptTask taskID workerID tok cfg.leaseTTL))
      (r := adopted) rfl (.inl rfl)
    match adopted with
    | some true => exact ⟨trivial, hf₂.load⟩
    | some false | none => exact ⟨hf₂.clean, fun tgt htold => absurd htold (hf₂.untold tgt)⟩

/-- What is left of a delivery once its task is known. -/
def Gateway.takeIn (cfg : GatewayConfig) (taskID tok : UUID) (res : Result) (task : TaskInfo) :
    Prog Stmt Nat := do
  match ← (process res.receivedAt task.runID res.observations).run with
  | .error _ => pure 500
  | .ok summary =>
    let merged ← mergeTaskSummary taskID summary
    closeTask cfg taskID tok res merged
    pure 200

variable (cfg) in
theorem takeIn_uses (taskID tok : UUID) (res : Result) (task : TaskInfo) :
    Prog.Uses (fun _ s => s.loads = false) (takeIn cfg taskID tok res task) := by
  refine Prog.Uses.bind (process_uses (fun _ _ => rfl) rfl _ _) fun r => ?_
  cases r with
  | error e => trivial
  | ok summary =>
    refine Prog.Uses.bind ?_ fun merged => Prog.Uses.bind ?_ fun _ => trivial
    · exact Prog.Uses.bind (uses_issue rfl) fun _ =>
        Prog.Uses.bind (uses_issue rfl) fun _ => trivial
    · unfold closeTask
      split
      · simp only
        split <;> exact Prog.Uses.bind (uses_issue rfl) fun _ => trivial
      · split
        · exact Prog.Uses.bind (uses_issue rfl) fun _ =>
            Prog.Uses.bind (uses_issue rfl) fun _ => trivial
        · exact Prog.Uses.bind (uses_issue rfl) fun _ => trivial

/-- What is accepted or ingested has passed the check. -/
def Guarded (obs : List Observation) (h : Hist Stmt) (status : Nat) : Prop :=
  status = 200 ∨ Ingested h → ∀ tgt, ToldTarget h tgt → confineViolation tgt obs = false

theorem guarded_of_clean {obs : List Observation} {status : Nat}
    (hclean : ∀ c ∈ h, c.stmt.onAssets = false) (hstatus : status ≠ 200) :
    Guarded obs h status := by
  rintro (heq | ⟨c, hc, hon, -⟩)
  · exact absurd heq hstatus
  · rw [hclean c hc] at hon
    cases hon

theorem deliver_guards (res : Result) (hf : Unloaded h) :
    Meets (fun _ _ _ => True) h (deliver cfg workerID taskID tok res)
      (Guarded res.observations) := by
  refine meets_bind.mpr ((heldTask_looksUp hf).mono ?_)
  rintro h₁ held ⟨hclean, htask⟩
  cases held with
  | none => exact guarded_of_clean hclean (by decide)
  | some task =>
    simp only
    split
    · exact ⟨trivial, fun _ =>
        guarded_of_clean (List.forall_mem_cons.mpr ⟨rfl, hclean⟩) (by decide)⟩
    · -- the target the check saw is the one the request is told of, from here on too
      rename_i hpass
      have hcleared : ∀ tgt, ToldTarget h₁ tgt → confineViolation tgt res.observations = false := by
        intro tgt htold
        obtain ⟨_, heq, rfl⟩ := htask tgt htold
        cases heq
        exact Bool.eq_false_iff.mpr hpass
      refine ((takeIn_uses cfg taskID tok res task).meets_of_step hcleared
        (fun h _ s r hK hs tgt htold => ?_) fun _ _ _ _ _ => trivial).mono fun _ _ hK _ => hK
      exact hK tgt (htold.of_cons (.inl hs))

theorem results_guards {req : ResultsRequest} {res : Result} (hbody : req.body = some res) :
    Meets (fun _ _ _ => True) [] (results cfg req) (Guarded res.observations) := by
  have hunloaded : Unloaded [] :=
    ⟨fun _ ⟨_, _, _, _, hask, _⟩ => List.not_mem_nil hask, List.forall_mem_nil _⟩
  -- authenticating reads a worker, and no task
  have hauth : Meets (fun _ _ _ => True) [] (authWorker cfg req.workerID req.credential)
      fun h _ => Unloaded h := by
    unfold authWorker
    split
    · exact hunloaded
    · exact ⟨trivial, fun _ => hunloaded.cons rfl (.inl rfl)⟩
  refine meets_bind.mpr (hauth.mono fun h₁ auth hf => ?_)
  rw [hbody]
  split
  · exact guarded_of_clean hf.clean (by decide)
  · simp only
    split
    · exact deliver_guards res hf
    · exact guarded_of_clean hf.clean (by decide)

end Refused

/-! ### A batch that passes -/

section Passes

open Prog

variable {x : Go Unit}

theorem succeeds_ignore {α : Type} {x : Go α} (hx : Succeeds x) : Succeeds (ignore x) := by
  intro h
  obtain ⟨h₁, a, hx⟩ := hx h
  exact ⟨h₁, (), ends_bind.mpr ⟨h₁, .ok a, hx, rfl, rfl⟩⟩

theorem succeeds_orNil {x : Go UUID} (hx : Succeeds x) : Succeeds (orNil x) := by
  intro h
  obtain ⟨h₁, a, hx⟩ := hx h
  exact ⟨h₁, a, ends_bind.mpr ⟨h₁, .ok a, hx, rfl, rfl⟩⟩

theorem succeeds_forM {α : Type} {f : α → Go Unit} (hf : ∀ a, Succeeds (f a)) (as : List α) :
    Succeeds (as.forM f) := by
  induction as with
  | nil => exact succeeds_pure ()
  | cons a as ih => exact (hf a).bind fun _ => ih

theorem serviceID_succeeds (scopeID : UUID) (ip : String) (port : Int) (proto state : String) :
    Succeeds (serviceID scopeID ip port proto state) :=
  (succeeds_query _ _ 1).bind fun _ => succeeds_query _ _ 1

theorem finding_succeeds (runID scopeID assetID : UUID) (assetKind kind severity title : String)
    (evidence : Doc) :
    Succeeds (finding runID scopeID assetID assetKind kind severity title evidence) :=
  succeeds_ignore ((succeeds_query _ _ 1).bind fun _ => succeeds_query _ _ ())

theorem markWildcard_succeeds (scopeID : UUID) (name : String) (ips : List String) :
    Succeeds (markWildcard scopeID name ips) :=
  (succeeds_query _ _ 1).bind fun _ => (succeeds_query _ _ ()).bind fun _ =>
    succeeds_forM (fun _ => succeeds_query _ _ ()) _

theorem upsertTechnology_succeeds (serviceID : UUID) (name version cpe : String)
    (confidence : Int) :
    Succeeds (upsertTechnology serviceID name version cpe confidence) := by
  unfold upsertTechnology
  split
  · refine (succeeds_query _ _ 1).bind fun touched => ?_
    split
    · exact succeeds_pure ()
    · exact succeeds_query _ _ ()
  · exact (succeeds_query _ _ ()).bind fun _ => succeeds_query _ _ ()

/-- Every observation can be taken in, if the database takes what it is given. -/
theorem processOne_succeeds (now : Time) (scopeID runID : UUID) (sum : StageSummary)
    (o : Observation) : Succeeds (processOne now scopeID runID sum o) := by
  have hservice := serviceID_succeeds scopeID o.ip o.port
  unfold processOne
  split
  · exact succeeds_pure sum
  · cases o.type with
    | wildcard =>
      simp only
      split
      · exact (succeeds_ignore (markWildcard_succeeds _ _ _)).bind fun _ => succeeds_pure sum
      · exact succeeds_pure sum
    | subdomain =>
      simp only
      split
      · exact succeeds_pure sum
      · exact (succeeds_query _ _ 1).bind fun _ => succeeds_pure _
    | dnsRecord =>
      refine (succeeds_query _ _ 1).bind fun _ => (succeeds_query _ _ ()).bind fun _ => ?_
      split
      · exact (succeeds_query _ _ 1).bind fun _ => (succeeds_query _ _ ()).bind fun _ =>
          (succeeds_attempt _).bind fun _ => succeeds_pure _
      · exact succeeds_pure _
    | ip =>
      refine (succeeds_query _ _ 1).bind fun _ => ?_
      split
      · exact (succeeds_attempt _).bind fun _ => succeeds_pure _
      · exact succeeds_pure _
    | service =>
      refine (hservice _ _).bind fun _ => ?_
      split
      · exact (succeeds_attempt _).bind fun _ => succeeds_pure _
      · exact succeeds_pure _
    | tls =>
      exact (hservice _ _).bind fun _ => (succeeds_query _ _ ()).bind fun _ =>
        (succeeds_forM (fun _ => finding_succeeds _ _ _ _ _ _ _ _) _).bind fun _ => succeeds_pure _
    | tech =>
      exact (hservice _ _).bind fun _ => (upsertTechnology_succeeds _ _ _ _ _).bind fun _ =>
        succeeds_pure _
    | path =>
      exact (succeeds_ignore ((hservice _ _).bind fun _ => finding_succeeds _ _ _ _ _ _ _ _)).bind
        fun _ => succeeds_pure _
    | finding =>
      refine (succeeds_orNil ?_).bind fun _ =>
        (finding_succeeds _ _ _ _ _ _ _ _).bind fun _ => succeeds_pure _
      split
      · exact hservice _ _
      · exact succeeds_pure _
    | http | screenshot =>
      exact (hservice _ _).bind fun _ => (succeeds_query _ _ ()).bind fun _ => succeeds_pure _

theorem process_succeeds (now : Time) (runID : UUID) (obs : List Observation) :
    Succeeds (process now runID obs) := by
  refine (succeeds_query _ _ oneRun).bind fun run => ?_
  suffices ∀ sum, Succeeds (processAll now run.scopeID runID sum obs) from this {}
  intro sum
  induction obs generalizing sum with
  | nil => exact succeeds_pure sum
  | cons o obs ih =>
    exact (processOne_succeeds now run.scopeID runID sum o).bind fun sum' => ih sum'

theorem results_accepts (tgt : Target) (obs : List Observation)
    (hpass : confineViolation tgt obs = false) :
    ∃ cfg req res h, req.body = some res ∧ res.observations = obs ∧
      (results cfg req).Ends [] h 200 ∧ ToldTarget h tgt := by
  let res : Result := { taskID := some 1, leaseToken := some 1, observations := obs }
  let task : TaskInfo := ⟨1, .portScan, tgt⟩
  -- The worker is known and its task is the one it names.
  let h₁ : Hist Stmt := [⟨.task (.loadTask 1 1 1), some task⟩,
    ⟨.worker (.workerForAuth 1), some (some oneWorker)⟩]
  obtain ⟨h₂, summary, hprocess⟩ := process_succeeds res.receivedAt task.runID obs h₁
  refine ⟨{}, { workerID := some 1, credential := "secret", body := some res }, res,
    ⟨.task (.extendLease 1 1 120), none⟩ ::
      ⟨.task (.setTaskResult 1 (mergeSummary (decode none) summary)), none⟩ ::
      ⟨.task (.taskResult 1), none⟩ :: h₂, rfl, rfl, ?_, 1, 1, 1, task, ?_, rfl⟩
  · have htake : (takeIn {} 1 1 res task).Ends h₁ (⟨.task (.extendLease 1 1 120), none⟩ ::
        ⟨.task (.setTaskResult 1 (mergeSummary (decode none) summary)), none⟩ ::
        ⟨.task (.taskResult 1), none⟩ :: h₂) 200 :=
      ends_bind.mpr ⟨h₂, .ok summary, hprocess, none, none, none, rfl, rfl⟩
    refine ⟨some (some oneWorker), some task, ?_⟩
    show Ends h₁ (if confineViolation tgt obs then _ else takeIn {} 1 1 res task) _ _
    rw [if_neg (by rw [hpass]; decide)]
    exact htake
  · have hload : h₁.Asked (.task (.loadTask 1 1 1)) (some task) := Hist.asked_head ..
    exact hload.mono (List.Subset.trans hprocess.subset fun c hc => by simp [hc])

end Passes

/-- If the check is blind to a foreign observation, the batch can be accepted. -/
theorem Confines.checked {tgt : Target} {obs : List Observation} (hconf : Confines tgt obs) :
    Checked tgt obs := by
  intro ⟨o, ho, hfor⟩
  by_contra hblind
  have hpass : confineViolation tgt obs = false := by
    rw [← Bool.not_eq_true, confineViolation_eq_true]
    exact hblind
  obtain ⟨cfg, req, res, h, hbody, hobs, hends, htold⟩ := results_accepts tgt obs hpass
  exact hconf cfg req res h 200 hbody hobs hends htold (.inl rfl) o ho hfor

/-- **What the check confines**: the batches in which it sees a foreign observation, if there is
one. -/
theorem confines_iff (tgt : Target) (obs : List Observation) :
    Confines tgt obs ↔ Checked tgt obs := by
  refine ⟨Confines.checked, ?_⟩
  intro hchecked cfg req res h status hbody hobs hends htold hout o ho hfor
  have hviol := confineViolation_eq_true.mpr (hchecked ⟨o, ho, hfor⟩)
  rw [← hobs, (results_guards hbody).ends hends hout tgt htold] at hviol
  cases hviol

/-! ### A batch target -/

/-- An address outside the installation's task. -/
def foreignService : Observation := { type := .service, ip := "203.0.113.9", port := 22 }

/-- A port scan of two addresses in one task. -/
def batchTarget : Target := { ips := ["192.0.2.1", "192.0.2.2"] }

/-- The small installation with its task made for both and leased to its worker. -/
def batchTaskDB : DB :=
  { oneTaskDB with
    tasks := .ofRows [{ oneTask with
      target := batchTarget, status := .running, workerID := some 1, leaseToken := some 1 }]
      (by decide) }

/-- The worker reports an open port **of an address it was never asked about**. -/
def foreignDelivery : GatewayRequest :=
  .results {
    workerID := some 1, credential := "secret"
    body := some { taskID := some 1, leaseToken := some 1, observations := [foreignService] } }

/-- It is accepted, and the port is in the inventory. -/
theorem foreign_service_accepted :
    ((gatewaySystem {} {}).run ⟨batchTaskDB, []⟩ (.spawn foreignDelivery :: steps 0 9)).threads.map
      (·.prog.result) = [some 200] ∧
    ((gatewaySystem {} {}).run ⟨batchTaskDB, []⟩
      (.spawn foreignDelivery :: steps 0 9)).state.ipAddresses.rows.map (·.addr) =
        ["203.0.113.9"] ∧
    ¬ Confines batchTarget [foreignService] := by
  refine ⟨by decide +kernel, by decide +kernel, fun hconf => ?_⟩
  have hblind : ¬ Checked batchTarget [foreignService] := by decide +kernel
  exact hblind hconf.checked

end PinkGlasses
