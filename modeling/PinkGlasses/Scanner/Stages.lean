import PinkGlasses.Planner.Decide

/-!
# PinkGlasses.Scanner.Stages

What a worker makes of a job: `internal/scanner/stage_ports.go` and `params.go`, with the path a job
takes to the worker (`LeaseTasksWhere`, then `connect` of the gateway).

* `scanproto.Job` has a `Profile`, `portScan` goes deep on it, and **nothing sets it**: neither the
  lease, which does not read the run's profile, nor the gateway.
* `deep_iff`: so the worker does what the run asks for exactly where the run is not deep, or the
  batch brings its own ports.
-/

namespace PinkGlasses

/-- The job as the gateway sends it, with the address for the results and the run's parameters. -/
structure SentJob extends Job where
  ingestURL : String
  tool : List (String × String)
deriving Repr, DecidableEq

/-- What `connect` adds to a leased job; the parameters may not be readable. -/
def Gateway.sent (base : String) (params : Option (List (String × String))) (job : Job) : SentJob :=
  { job with ingestURL := base ++ "/agent/v1/results", tool := params.getD [] }

namespace Scanner

/-! ### Parameters -/

variable (job : SentJob)

/-- `params.str`. -/
def str (key default : String) : String :=
  match Planner.param job.tool key with
  | some v => if v ≠ "" then v else default
  | none => default

/-- `params.enabled`: a tool is off only if its switch says so. -/
def enabled (tool : String) : Bool :=
  str job (if tool = "shuffledns" then "dns_bruteforce" else tool ++ "_enabled") "" != "false"

/-! ### Port scan -/

/-- What `portScan` runs. -/
inductive PortScan
  | nothing
  /-- naabu finds the ports; nmap, where it may run, reads the versions of what is found. -/
  | sweep (hosts : List String) (ports : String) (deep versions : Bool)
  | nmap (hosts : List String) (deep : Bool)
  | connect (hosts : List String)
deriving Repr, DecidableEq

/-- The ports of the batch, if it brings its own. -/
def batchPorts : String := (job.targets.head?.map (·.ports)).getD ""

/-- `deep` of `portScan`. -/
def deep : Bool := job.profile == "deep" && batchPorts job == ""

/-- `portScan`, up to the tools it runs; `installed` is `have`. -/
def portScan (installed : String → Bool) : PortScan :=
  let hosts := job.targets.flatMap fun t => (if t.ip ≠ "" then [t.ip] else []) ++ t.ips
  let ports := if batchPorts job ≠ "" then batchPorts job else str job "ports" "top-100"
  let runs (tool : String) : Bool := installed tool && enabled job tool
  let wide := ports != "" && ports != "top-100" || deep job
  if hosts.isEmpty then .nothing
  else if wide && runs "naabu" then .sweep hosts ports (deep job) (runs "nmap")
  else if runs "nmap" then .nmap hosts (deep job)
  else .connect hosts

section Lease

variable {env : Env} {db db' : DB} {workerID : UUID} {caps : List String} {poolID : Option UUID}
  {limit secs : Int} {only : StageFilter} {perCompany : Int} {jobs : List PinkGlasses.Job}
  {job : PinkGlasses.Job}

theorem profile_of_leased
    (h : (TaskStmt.leaseTasksWhere workerID caps poolID limit secs only perCompany).exec env db =
      some (jobs, db')) (hjob : job ∈ jobs) : job.profile = "" := by
  simp only [TaskStmt.exec] at h
  split at h
  · cases h
    cases hjob
  split at h
  · cases h
  cases h
  obtain ⟨t, -, ht⟩ := List.mem_filterMap.mp hjob
  obtain ⟨tok, -, rfl⟩ := Option.map_eq_some_iff.mp ht
  rfl

/-- **No job carries the profile of its run.** The worker still does what the run asks for exactly
if the run is not deep, or the batch brings its own ports. -/
theorem deep_iff
    (h : (TaskStmt.leaseTasksWhere workerID caps poolID limit secs only perCompany).exec env db =
      some (jobs, db')) (hjob : job ∈ jobs) (base : String)
    (params : Option (List (String × String))) :
    ∀ run, db.runs.find? job.runID = some run →
      (Gateway.sent base params job).profile ≠ run.profile.text ∧
      ((deep (Gateway.sent base params job) = true ↔
          run.profile = .deep ∧ batchPorts (Gateway.sent base params job) = "") ↔
        run.profile ≠ .deep ∨ batchPorts (Gateway.sent base params job) ≠ "") := by
  intro run _
  have hprofile : (Gateway.sent base params job).profile = "" := profile_of_leased h hjob
  have hdeep : deep (Gateway.sent base params job) = false := by simp [deep, hprofile]
  constructor
  · rw [hprofile]
    cases run.profile <;> decide
  · rw [hdeep]
    tauto

/-- A deep run with one address to scan, and a worker for it. -/
def deepDB : DB where
  runs := .ofRows [{ id := 1, scopeID := 1, profile := .deep, status := .running }] (by decide)
  workers := .ofRows [{ id := 1, poolID := some 1, name := "w", kind := .local, status := .active,
                        capabilities := [] }] (by decide)
  tasks := .ofRows [{ id := 1, runID := 1, stage := .portScan, target := { ip := "192.0.2.1" },
                      poolID := some 1, requires := [], priority := 200,
                      status := .pending }] (by decide)

/-- Its job. -/
def deepJob : PinkGlasses.Job :=
  { taskID := 1, runID := 1, leaseToken := 1, stage := .portScan,
    targets := [{ ip := "192.0.2.1" }] }

theorem lease_deepDB : ∃ db',
    (TaskStmt.leaseTasksWhere 1 [] (some 1) 1 60 .noBrute 0).exec {} deepDB =
    some ([deepJob], db') := by
  have hjobs : ((TaskStmt.leaseTasksWhere 1 [] (some 1) 1 60 .noBrute 0).exec {} deepDB).map (·.1) =
      some [deepJob] := by decide +kernel
  obtain ⟨⟨jobs, db'⟩, hexec, rfl⟩ := Option.map_eq_some_iff.mp hjobs
  exact ⟨db', hexec⟩

theorem deep_iff_deepJob :
    ∃ run, deepDB.runs.find? deepJob.runID = some run ∧
      (Gateway.sent "https://asm" none deepJob).profile ≠ run.profile.text := by
  obtain ⟨db', hlease⟩ := lease_deepDB
  exact ⟨_, rfl, (deep_iff hlease List.mem_cons_self "https://asm" none _ rfl).1⟩

/-- The defect: the job of a deep run does not say so, and nmap runs on the top hundred ports. -/
theorem deep_run_scanned_as_standard :
    ∃ db', (TaskStmt.leaseTasksWhere 1 [] (some 1) 1 60 .noBrute 0).exec {} deepDB =
        some ([deepJob], db') ∧
      (deepDB.runs.find? deepJob.runID).map (·.profile) = some .deep ∧
      portScan (Gateway.sent "https://asm" none deepJob)
        (fun _ => true) = .nmap ["192.0.2.1"] false := by
  obtain ⟨db', hlease⟩ := lease_deepDB
  exact ⟨db', hlease, by decide, by decide⟩

end Lease

end Scanner

end PinkGlasses
