import PinkGlasses.Lib.Conc
import PinkGlasses.Store.Change
import PinkGlasses.Store.Stmt

/-!
# PinkGlasses.Diff

`internal/diff`: what a completed run changed, and `internal/store/finding.go`: what the runs say
about a finding.

* What is **new** is decided by time: everything of the company first seen since the run started
  (`newDomains`, `newServices`, `newFindings`), whichever run saw it.
* Whether a finding is **gone or back** is decided by comparing what the run saw with what the last
  run before it saw that looked in the same place (`findingsCoveredByRun`).
* On a finding's own page the runs that looked are folded into a presence (`derivePresence`).

The columns that nothing else reads stand beside the database, in `DiffDB`.
-/

namespace PinkGlasses

open Lib Prog

/-- A row of `finding_observation`: a run saw the finding. -/
structure FindingObservation where
  findingID : UUID
  runID : UUID
  observedAt : Time
  severity : String
deriving Repr, DecidableEq

/-- The database with what the differ reads of it besides, and the change events. -/
structure DiffDB where
  db : DB := {}
  /-- `domain.first_seen`. -/
  domainFirstSeen : UUID → Time := fun _ => 0
  /-- `service.first_seen`. -/
  serviceFirstSeen : UUID → Time := fun _ => 0
  /-- `finding.first_seen`. -/
  findingFirstSeen : UUID → Time := fun _ => 0
  /-- `finding.severity`. -/
  findingSeverity : UUID → String := fun _ => "info"
  observations : List FindingObservation := []
  changeEvents : List ChangeEvent := []
  /-- When observations began being recorded: runs that started before left none. -/
  historyStart : Time := 0

/-- The state with more events. -/
def DiffDB.withEvents (st : DiffDB) (es : List ChangeEvent) : DiffDB :=
  { st with changeEvents := st.changeEvents ++ es }

@[simp] theorem DiffDB.withEvents_nil (st : DiffDB) : st.withEvents [] = st := by
  simp [withEvents]

@[simp] theorem DiffDB.withEvents_withEvents (st : DiffDB) (es es' : List ChangeEvent) :
    (st.withEvents es).withEvents es' = st.withEvents (es ++ es') := by
  simp [withEvents]

namespace Diff

/-! ### Which runs looked -/

/-- `findingStage`: the stage that produces findings of a kind. -/
def findingStage (kind : String) : Stage :=
  if kind = "content_discovery" then .dirBrute
  else if kind.startsWith "nuclei:" then .vulnCheck
  else .serviceProbe

/-- The address of the service a finding is about. -/
def addrOf (db : DB) (f : Finding) : Option String :=
  (db.services.find? f.assetID).bind fun sv => (db.ipAddresses.find? sv.ipID).map (·.addr)

/-- The run probed the finding's host with the stage that produces it. -/
def covers (db : DB) (f : Finding) (runID : UUID) : Bool :=
  (addrOf db f).any fun addr => db.tasks.rows.any fun t =>
    t.runID == runID && t.status == .done && t.target.ip == addr && t.target.ip != "" &&
      t.stage == findingStage f.kind

/-- The run saw the finding. -/
def observed (st : DiffDB) (f : Finding) (runID : UUID) : Bool :=
  st.observations.any fun o => o.findingID == f.id && o.runID == runID

/-- The run completed, and started since observations are recorded. -/
def onRecord (st : DiffDB) (r : ScanRun) : Bool :=
  r.status == .completed && r.startedAt.any fun t => decide (st.historyStart ≤ t)

/-- The run is on record and looked for the finding. -/
def looked (st : DiffDB) (f : Finding) (r : ScanRun) : Bool := onRecord st r && covers st.db f r.id

/-- The order of two runs by their start. -/
def startsBefore (r r' : ScanRun) : Prop := r.startedAt.getD 0 ≤ r'.startedAt.getD 0

instance : DecidableRel startsBefore := fun _ _ => inferInstanceAs (Decidable (_ ≤ _))

/-! ### The presence of a finding -/

/-- `domain.FindingRun`: one run's verdict on a finding. -/
structure FindingRun where
  runID : UUID
  startedAt : Time
  observed : Bool
  observedAt : Option Time := none
  severity : String := ""
deriving Repr, DecidableEq

/-- `findingHistorySQL`: the runs that looked for the finding, in the order they started. -/
def findingHistory (st : DiffDB) (f : Finding) : List FindingRun :=
  ((st.db.runs.rows.filter (looked st f)).insertionSort startsBefore).map fun r =>
    let fo := st.observations.find? fun o => o.findingID == f.id && o.runID == r.id
    { runID := r.id
      startedAt := r.startedAt.getD 0
      observed := observed st f r.id
      observedAt := fo.map (·.observedAt)
      severity := (fo.map (·.severity)).getD "" }

/-- What `DerivePresence` fills in. -/
structure Presence where
  gone : Bool
  seenIn : Nat
  coveredRuns : Nat
  goneSince : Option Time
deriving Repr, DecidableEq

/-- The loop of `DerivePresence`: how many runs saw it, and the place of the last one. -/
def lastSeen : List FindingRun → (i seenIn : Nat) → (lastSeenIdx : Int) → Nat × Int
  | [], _, seenIn, lastSeenIdx => (seenIn, lastSeenIdx)
  | h :: hs, i, seenIn, lastSeenIdx =>
    if h.observed then lastSeen hs (i + 1)
      (seenIn + 1) i else lastSeen hs (i + 1) seenIn lastSeenIdx

def derivePresence (history : List FindingRun) : Presence :=
  let (seenIn, lastSeenIdx) := lastSeen history 0 0 (-1)
  if history.length = 0 ∨ lastSeenIdx = history.length - 1 then
    { gone := false, seenIn, coveredRuns := history.length, goneSince := none }
  else
    { gone := true, seenIn, coveredRuns := history.length
      -- the first run that looked and did not find it
      goneSince := (history[(lastSeenIdx + 1).toNat]?).map (·.startedAt) }

/-! ### What changed about a finding -/

/-- `store.FindingPresenceChange`. -/
structure FindingPresenceChange where
  id : UUID
  kind : String
  severity : String
  title : String
  observedNow : Bool
  hasPrevious : Bool
  observedBefore : Bool
deriving Repr, DecidableEq

/-- The run started before the run `runID` did. -/
def startedBefore (db : DB) (runID : UUID) (r : ScanRun) : Bool :=
  r.id != runID && ((db.runs.find? runID).bind (·.startedAt)).any fun t =>
    r.startedAt.any fun t' => decide (t' < t)

/-- The last run before the run `runID` that looked for the finding. -/
def previousRun (st : DiffDB) (runID : UUID) (f : Finding) : Option ScanRun :=
  ((st.db.runs.rows.filter fun r => looked st f r && startedBefore st.db runID r).insertionSort
    fun r r' => startsBefore r' r).head?

def findingsCoveredByRun (st : DiffDB) (runID scopeID : UUID) : List FindingPresenceChange :=
  (st.db.findings.rows.filter fun f => f.scopeID == scopeID && covers st.db f runID).map fun f =>
    let prev := previousRun st runID f
    { id := f.id, kind := f.kind, severity := st.findingSeverity f.id, title := f.title
      observedNow := observed st f runID
      hasPrevious := prev.isSome
      observedBefore := prev.any fun r => observed st f r.id }

/-! ### Statements -/

/-- The statements of the differ. -/
inductive DiffStmt : Type → Type
  | newDomains (scopeID : UUID) (since : Time) : DiffStmt (List (UUID × String))
  | newServices (scopeID : UUID) (since : Time) : DiffStmt (List (UUID × String × Int))
  | newFindings (scopeID : UUID) (since : Time) : DiffStmt (List (UUID × String × String × String))
  | findingsCoveredByRun (runID scopeID : UUID) : DiffStmt (List FindingPresenceChange)
  /-- `created_at` is filled in by the database. -/
  | recordChangeEvent (e : ChangeEvent) : DiffStmt Unit

/-- What a statement answers and does; `none` when it is refused. -/
def DiffStmt.exec (env : Env) (st : DiffDB) : {β : Type} → DiffStmt β → Option (β × DiffDB)
  | _, newDomains scopeID since => some ((st.db.domains.rows.filter fun d =>
      d.scopeID == scopeID && decide (since ≤ st.domainFirstSeen d.id)).map fun d =>
        (d.id, d.name), st)
  | _, newServices scopeID since => some ((st.db.services.rows.filterMap fun sv =>
      (st.db.ipAddresses.find? sv.ipID).bind fun ip =>
        if ip.scopeID == scopeID && decide (since ≤ st.serviceFirstSeen sv.id) then
          some (sv.id, ip.addr, sv.port) else none), st)
  | _, newFindings scopeID since => some ((st.db.findings.rows.filter fun f =>
      f.scopeID == scopeID && decide (since ≤ st.findingFirstSeen f.id)).map fun f =>
        (f.id, f.kind, st.findingSeverity f.id, f.title), st)
  | _, findingsCoveredByRun runID scopeID => some (Diff.findingsCoveredByRun st runID scopeID, st)
  | _, recordChangeEvent e =>
    -- `run_id` references `scan_run`
    if (st.db.runs.find? e.runID).isNone then none
    else some ((), st.withEvents [e.stamped env.now])

/-- The event a statement records. -/
def DiffStmt.recorded? : {β : Type} → DiffStmt β → Option ChangeEvent
  | _, recordChangeEvent e => some e
  | _, _ => none

/-- **What a statement leaves**: the state with the event it records, if any. -/
theorem DiffStmt.exec_eq {β : Type} {env : Env} {st st' : DiffDB} {s : DiffStmt β} {b : β}
    (h : s.exec env st = some (b, st')) :
    st' = st.withEvents (s.recorded?.map (·.stamped env.now)).toList := by
  cases s with
  | recordChangeEvent e =>
    simp only [exec] at h
    split at h <;> cases h
    rfl
  | _ =>
    cases h
    exact (DiffDB.withEvents_nil _).symm

/-! ### The differ -/

/-- A function of the differ: it can fail, and what it has recorded stays. -/
abbrev Differ (α : Type) := ExceptT String (Prog DiffStmt) α

def ask {α : Type} (s : DiffStmt α) : Differ α := Prog.query dbError s

/-- Record one event after the other, and count them. -/
def recordEach : List ChangeEvent → Differ Nat
  | [] => pure 0
  | e :: rest => do
    ask (.recordChangeEvent e)
    let n ← recordEach rest
    pure (n + 1)

/-- Ask for rows, and record the event each of them gives rise to. -/
def recordRows {α : Type} (q : DiffStmt (List α)) (event : α → Option ChangeEvent) :
    Differ Nat := do
  let rows ← ask q
  recordEach (rows.filterMap event)

def newDomains (run : ScanRun) (since : Time) : Differ Nat :=
  recordRows (.newDomains run.scopeID since) fun (id, name) =>
    some { runID := run.id, scopeID := run.scopeID, kind := .newSubdomain, assetKind := .domain
           assetID := id, after := some { name := some name } }

def newServices (run : ScanRun) (since : Time) : Differ Nat :=
  recordRows (.newServices run.scopeID since) fun (id, ip, port) =>
    some { runID := run.id, scopeID := run.scopeID, kind := .newPort, assetKind := .service
           assetID := id, after := some { ip := some ip, port := some port } }

def newFindings (run : ScanRun) (since : Time) : Differ Nat :=
  recordRows (.newFindings run.scopeID since) fun (id, kind, severity, title) =>
    some { runID := run.id, scopeID := run.scopeID, kind := .newFinding, assetKind := .finding
           assetID := id
           after := some { kind := some kind, severity := some severity, title := some title } }

/-- What `findingPresence` records about one finding. -/
def presenceEvent (run : ScanRun) (c : FindingPresenceChange) : Option ChangeEvent :=
  let detail : ChangeDetail :=
    { kind := some c.kind, severity := some c.severity, title := some c.title }
  -- the first time anything looked there is nothing to compare with
  if !c.hasPrevious then none
  else if c.observedBefore && !c.observedNow then
    some { runID := run.id, scopeID := run.scopeID, kind := .findingGone, assetKind := .finding
           assetID := c.id, before := some detail }
  else if !c.observedBefore && c.observedNow then
    some { runID := run.id, scopeID := run.scopeID, kind := .findingReturned, assetKind := .finding
           assetID := c.id, after := some detail }
  else none

def findingPresence (run : ScanRun) : Differ Nat :=
  recordRows (.findingsCoveredByRun run.id run.scopeID) (presenceEvent run)

def diff (run : ScanRun) : Differ Nat := do
  match run.startedAt with
  | none => pure 0
  | some startedAt =>
    -- a tiny skew guard, so that assets created at the start of the run are included
    let since := startedAt - 2
    let domains ← newDomains run since
    let services ← newServices run since
    let findings ← newFindings run since
    let presence ← findingPresence run
    pure (domains + services + findings + presence)

/-! ### Contracts -/

section Contracts

variable {pre : Hist DiffStmt → ∀ β : Type, DiffStmt β → Prop} {h : Hist DiffStmt}

/-- Recording keeps a contract that allows each event, whatever was recorded before it. -/
theorem recordEach_meets {es : List ChangeEvent} {K : Hist DiffStmt → Prop} (hK : K h)
    (hgrow : ∀ h c, K h → K (c :: h)) (hpre : ∀ h, K h → ∀ e ∈ es, pre h _ (.recordChangeEvent e)) :
    MeetsOk pre h (recordEach es) fun h' _ =>
      ∀ e ∈ es, h'.Asked (.recordChangeEvent e) (some ()) := by
  induction es generalizing h with
  | nil => exact meetsOk_pure (List.forall_mem_nil _)
  | cons e rest ih =>
    have hone : MeetsOk pre h (ask (.recordChangeEvent e)) fun h' _ =>
        K h' ∧ h'.Asked (.recordChangeEvent e) (some ()) :=
      meetsOk_query (hpre h hK e List.mem_cons_self) fun _ => ⟨hgrow h _ hK, Hist.asked_head ..⟩
    refine hone.bind fun h₁ _ _ ⟨hK₁, hasked⟩ => ?_
    refine (ih hK₁ fun h hK e he => hpre h hK e (List.mem_cons_of_mem _ he)).bind
      fun h₂ _ hs₂ hrest => meetsOk_pure ?_
    exact List.forall_mem_cons.mpr ⟨hasked.mono hs₂, hrest⟩

/-- **A stage of the differ** keeps a contract that allows its query, and the events of what the
query answered. When it is done all of them are recorded. -/
theorem recordRows_meets {α : Type} {q : DiffStmt (List α)} {event : α → Option ChangeEvent}
    (hq : pre h _ q) (hrec : ∀ h rows, h.Asked q (some rows) → ∀ e ∈ rows.filterMap event,
      pre h _ (.recordChangeEvent e)) :
    MeetsOk pre h (recordRows q event) fun h' _ => ∃ rows, h'.Asked q (some rows) ∧
      ∀ e ∈ rows.filterMap event, h'.Asked (.recordChangeEvent e) (some ()) := by
  refine MeetsOk.bind (meetsOk_query_asked hq) fun h₁ rows _ hrows => ?_
  refine (recordEach_meets (K := fun h => h.Asked q (some rows)) hrows
    (fun _ _ hask => hask.mono (List.subset_cons_self _ _))
    fun h hask => hrec h rows hask).imp fun h₂ _ hs₂ hall => ⟨rows, hrows.mono hs₂, hall⟩

end Contracts

/-- The differ at work on the database alone. -/
def diffSystem : System DiffStmt DiffDB Env ScanRun (Except String Nat) where
  exec := fun s env st => s.exec env st
  accepts := fun _ _ => true
  prog := fun run => (diff run).run

/-! ### A history -/

/-- A finding of the first service. -/
def weakCipher : Finding :=
  { id := 1, scopeID := 1, assetKind := "service", assetID := 1, kind := "nuclei:tls"
    title := "weak cipher" }

/-- A run, started at ten times its number. -/
def runAt (i : UUID) (status : RunStatus) : ScanRun :=
  { id := i, scopeID := 1, profile := .standard, status, startedAt := some (10 * i) }

/-- A service with a finding, and three runs that looked for it, the last with the status; those of
`seen` saw it. -/
def threeRuns (last : RunStatus) (seen : List UUID) : DiffDB where
  db :=
    { ipAddresses := .ofRows [{ id := 1, scopeID := 1, addr := "192.0.2.1" }] (by decide)
      services := .ofRows [{ id := 1, ipID := 1, port := 443, proto := "tcp", lastState := "open" }]
        (by decide)
      findings := .ofRows [weakCipher] (by decide)
      runs := .ofRows [runAt 1 .completed, runAt 2 .completed, runAt 3 last] (by
        simp [runAt])
      tasks := .ofRows ([1, 2, 3].map fun i =>
        { id := i, runID := i, stage := .vulnCheck, target := { ip := "192.0.2.1" }, requires := []
          priority := 0, status := .done, poolID := none }) (by decide) }
  findingFirstSeen := fun _ => 10 * seen.headD 0 + 5
  observations := seen.map fun i =>
    { findingID := 1, runID := i, observedAt := 10 * i + 5, severity := "low" }

end Diff

end PinkGlasses
