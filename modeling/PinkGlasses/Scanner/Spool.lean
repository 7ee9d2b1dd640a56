import Mathlib.Data.List.AList
import Mathlib.Data.List.Infix
import Mathlib.Data.List.Sort
import Mathlib.Data.String.Basic
import PinkGlasses.Domain
import PinkGlasses.Lib.Conc

/-!
# PinkGlasses.Scanner.Spool

`internal/scanner`: how a worker gets its results to the gateway. A task's observations are cut into
batches; a batch the gateway cannot be reached for goes to the **spool**, a directory, and a replay
sends what is spooled, oldest name first.

The programs here are the worker's goroutines. Their statements are the calls to the file system, to
the spool's mutex, to the clock and to the gateway, so they interleave call by call. What the
gateway takes is recorded beside the directory, with what it refused.
-/

namespace PinkGlasses

open Lib Prog

namespace Scanner

/-! ### Results -/

/-- `scanproto.WorkerRef`. -/
structure WorkerRef where
  id : String := ""
  version : String := ""
deriving Repr, DecidableEq

/-- `scanproto.ResultSchema`. -/
def resultSchema : String := "scanresult/v2"

/-- `scanproto.Result`, as the worker sends it. -/
structure Result where
  schema : String := resultSchema
  jobID : String := ""
  taskID : String
  leaseToken : String
  seq : Nat
  final : Bool := false
  status : String := "ok"
  worker : WorkerRef := {}
  observations : List Observation := []
  errors : List String := []
  permanent : Bool := false
deriving Repr, DecidableEq

/-- What reporting reads of a `scanproto.Job`. -/
structure Job where
  jobID : String := ""
  taskID : String
  leaseToken : String
  /-- `Ingest.URL`. -/
  ingestURL : String := ""
deriving Repr, DecidableEq

/-! ### The directory and the gateway -/

/-- A batch on disk, with the URL it was bound for. -/
structure SpoolEntry where
  url : String
  result : Result
  /-- `At`. -/
  spooledAt : Int
deriving Repr, DecidableEq

/-- What a name in the directory stands for; a file that is no entry does not parse. -/
inductive Node
  | dir
  | file (entry : Option SpoolEntry)
deriving Repr, DecidableEq

/-- What `client.Do` comes back with. -/
inductive Response
  /-- No request can be made of the URL. -/
  | noRequest
  /-- A transport error. -/
  | noResponse
  | status (code : Nat)
deriving Repr, DecidableEq

/-- The calls a goroutine makes. -/
inductive SpoolStmt : Type → Type
  | lock : SpoolStmt Unit
  | unlock : SpoolStmt Unit
  /-- The names of the directory, and which of them are directories. -/
  | readDir : SpoolStmt (List (String × Bool))
  | readFile (name : String) : SpoolStmt (Option SpoolEntry)
  | writeFile (name : String) (entry : SpoolEntry) : SpoolStmt Unit
  | rename (old new : String) : SpoolStmt Unit
  | remove (name : String) : SpoolStmt Unit
  /-- `time.Now().UnixNano()`. -/
  | now : SpoolStmt Int
  /-- Whether `ctx` is done. -/
  | ctxErr : SpoolStmt Bool
  | clientDo (url : String) (res : Result) : SpoolStmt Response

/-- What the outside world answers. -/
structure SpoolEnv where
  now : Int := 0
  cancelled : Bool := false
  response : Response := .status 200
  /-- Whether the gateway took a batch whose response was lost. -/
  taken : Bool := false
deriving Repr, DecidableEq

/-- The worker's directory and mutex, and what came of its requests, newest first. -/
structure SpoolState where
  nodes : AList fun _ : String => Node := ∅
  locked : Bool := false
  accepted : List Result := []
  /-- Batches the worker was told the gateway does not want. -/
  refused : List Result := []

/-- How a delivery attempt went. -/
inductive Outcome
  | delivered
  | refused
  | unreachable
deriving Repr, DecidableEq

/-- The classification in `post`. -/
def Response.outcome : Response → Outcome
  | noRequest => .refused
  | noResponse => .unreachable
  | status code =>
    if code / 100 = 2 then .delivered else if code / 100 = 5 then .unreachable else .refused

/-- Whether the gateway has taken the batch. -/
def SpoolEnv.accepts (env : SpoolEnv) : Bool :=
  match env.response with
  | .noRequest => false
  | .noResponse => env.taken
  | .status code => code / 100 == 2

namespace SpoolStmt

variable {β : Type}

/-- What a call answers and does. -/
def exec (env : SpoolEnv) (st : SpoolState) : SpoolStmt β → Option (β × SpoolState)
  | lock => if st.locked then none else some ((), { st with locked := true })
  | unlock => some ((), { st with locked := false })
  | readDir => some (st.nodes.entries.map fun e => (e.1, e.2 == .dir), st)
  | readFile name =>
    match st.nodes.lookup name with
    | some (.file entry) => some (entry, st)
    | _ => none
  | writeFile name entry =>
    match st.nodes.lookup name with
    | some .dir => none
    | _ => some ((), { st with nodes := st.nodes.insert name (.file (some entry)) })
  | rename old new =>
    match st.nodes.lookup old, st.nodes.lookup new with
    | some _, some .dir => none
    | some node, _ => some ((), { st with nodes := (st.nodes.erase old).insert new node })
    | none, _ => none
  | remove name =>
    if name ∈ st.nodes then some ((), { st with nodes := st.nodes.erase name }) else none
  | now => some (env.now, st)
  | ctxErr => some (env.cancelled, st)
  | clientDo _ res => some (env.response, { st with
      accepted := if env.accepts then res :: st.accepted else st.accepted
      refused := if env.response.outcome = .refused then res :: st.refused else st.refused })

end SpoolStmt

/-! ### The spool -/

/-- `%0*d`. -/
def zeroPad (width : Nat) (n : Int) : String :=
  let digits := toString n.natAbs
  let sign := if n < 0 then "-" else ""
  sign ++ String.ofList (List.replicate (width - sign.length - digits.length) '0') ++ digits

/-- The name of a batch's file: time, task, sequence. -/
def fileName (nanos : Int) (taskID : String) (seq : Nat) : String :=
  zeroPad 20 nanos ++ "-" ++ taskID ++ "-" ++ zeroPad 6 seq ++ ".json"

/-- The name it is written under first. -/
def tmpName (name : String) : String := "." ++ name ++ ".tmp"

/-- Whether `pending` takes a name for a batch. -/
def isBatch (name : String) : Bool :=
  !decide (".".toList <+: name.toList) && decide (".json".toList <:+ name.toList)

/-- The batches of a directory, by name. -/
def batchNames (entries : List (String × Bool)) : List String :=
  ((entries.filter fun e => !e.2 && isBatch e.1).map (·.1)).insertionSort (· ≤ ·)

/-- Whether a name is that of a task's batch. -/
def isOfTask (taskID name : String) : Bool :=
  decide (("-" ++ taskID ++ "-").toList <:+: name.toList)

def maxSpoolFiles : Nat := 2000

/-- The worker's settings: whether it has a spool, and what it reports as. -/
structure AgentConfig where
  enabled : Bool := true
  gatewayURL : String := ""
  worker : WorkerRef := {}

section Programs

variable (cfg : AgentConfig)

def pending : Prog SpoolStmt (List String) :=
  if cfg.enabled then do
    let entries ← issue .readDir
    pure (batchNames (entries.getD []))
  else pure []

def hasPending (taskID : String) : Prog SpoolStmt Bool :=
  if !cfg.enabled || taskID == "" then pure false
  else do
    let names ← pending cfg
    pure (names.any (isOfTask taskID))

/-- Remove files, whatever the errors. -/
def removeAll : List String → Prog SpoolStmt Unit
  | [] => pure ()
  | name :: names => do
    let _ ← issue (.remove name)
    removeAll names

def trimLocked : Prog SpoolStmt Unit := do
  let names ← pending cfg
  if names.length < maxSpoolFiles then pure ()
  else removeAll (names.take (names.length - maxSpoolFiles + 1))

/-- `put`, once it holds the mutex: whether the batch is on disk. -/
def putLocked (url : String) (res : Result) : Prog SpoolStmt Bool := do
  trimLocked cfg
  let spooledAt ← issue .now
  let nanos ← issue .now
  let name := fileName (nanos.getD 0) res.taskID res.seq
  match ← issue (.writeFile (tmpName name) ⟨url, res, spooledAt.getD 0⟩) with
  | none => pure false
  | some _ => do
    let renamed ← issue (.rename (tmpName name) name)
    pure renamed.isSome

def put (url : String) (res : Result) : Prog SpoolStmt Bool :=
  if cfg.enabled then do
    let _ ← issue .lock
    let ok ← putLocked cfg url res
    let _ ← issue .unlock
    pure ok
  else pure false

def post (url : String) (res : Result) : Prog SpoolStmt Outcome := do
  let response ← issue (.clientDo url res)
  pure (match response with
    | some r => r.outcome
    | none => .unreachable)

/-- One turn of the loop in `replay`: whether the pass goes on. -/
def replayOne (name : String) : Prog SpoolStmt Bool := do
  match ← issue (.readFile name) with
  | some (some e) =>
    match ← post e.url e.result with
    | .delivered | .refused =>
      let _ ← issue (.remove name)
      pure true
    | .unreachable => pure false
  | _ =>
    let _ ← issue (.remove name)
    pure true

/-- The loop of `replay`: the first batch the gateway cannot be reached for ends it. -/
def replayAll : List String → Prog SpoolStmt Unit
  | [] => pure ()
  | name :: names => do
    match ← issue .ctxErr with
    | some true => pure ()
    | _ =>
      let on ← replayOne name
      if on then replayAll names else pure ()

def replay : Prog SpoolStmt Unit :=
  if cfg.enabled then do
    let _ ← issue .lock
    let names ← pending cfg
    replayAll names
    let _ ← issue .unlock
  else pure ()

/-! ### Reporting a task -/

/-- The end of `postResult`: a batch the gateway cannot be reached for is spooled. -/
def postOrPut (url : String) (res : Result) : Prog SpoolStmt Unit := do
  match ← post url res with
  | .delivered | .refused => pure ()
  | .unreachable =>
    let _ ← put cfg url res

/-- `postResult`: a batch whose task has spooled batches joins them, unless it cannot. -/
def postResult (url : String) (res : Result) : Prog SpoolStmt Unit := do
  let behind ← hasPending cfg res.taskID
  let queued ← if behind then put cfg url res else pure false
  if queued then pure () else postOrPut cfg url res

/-- Batches, one after the other. -/
def postAll (url : String) : List Result → Prog SpoolStmt Unit
  | [] => pure ()
  | res :: results => do
    postResult cfg url res
    postAll url results

/-- How a scan ended: its error, and whether it would recur. -/
structure ScanError where
  text : String
  permanent : Bool := false
deriving Repr, DecidableEq

/-- The batches of a task: 500 observations each, and the one that closes it. -/
def batches (job : Job) (obs : List Observation) (err : Option ScanError) : List Result :=
  let status := if err.isSome then "error" else "ok"
  let count := (obs.length + 499) / 500
  (List.range count).map (fun seq => {
    jobID := job.jobID, taskID := job.taskID, leaseToken := job.leaseToken, seq, status
    worker := cfg.worker, observations := (obs.drop (seq * 500)).take 500 }) ++
  [{ jobID := job.jobID, taskID := job.taskID, leaseToken := job.leaseToken, seq := count
     final := true, status, worker := cfg.worker, errors := (err.map (·.text)).toList
     permanent := err.any (·.permanent) }]

/-- `execJob`, once the scanner has run. -/
def execJob (job : Job) (obs : List Observation) (err : Option ScanError) : Prog SpoolStmt Unit :=
  let url := if job.ingestURL = "" then cfg.gatewayURL ++ "/agent/v1/results" else job.ingestURL
  postAll cfg url (batches cfg job obs err)

/-- What starts a goroutine that reports. -/
inductive AgentRequest
  | execJob (job : Job) (obs : List Observation) (err : Option ScanError)
  /-- One pass of `flushSpool`. -/
  | replay
deriving Repr, DecidableEq

/-- The worker's goroutines on its directory. -/
def agentSystem : System SpoolStmt SpoolState SpoolEnv AgentRequest Unit where
  exec := fun s env st => s.exec env st
  accepts := fun _ r => match r with
    -- a job names its task
    | .execJob job _ _ => job.taskID != ""
    | .replay => true
  prog
    | .execJob job obs err => execJob cfg job obs err
    | .replay => replay cfg

end Programs

/-! ### Names -/

theorem isBatch_tmpName (name : String) : isBatch (tmpName name) = false := by
  have hdot : ".".toList <+: (tmpName name).toList := by
    rw [tmpName, String.append_assoc, String.toList_append]
    exact List.prefix_append _ _
  rw [isBatch, decide_eq_true hdot]
  rfl

theorem isOfTask_fileName (nanos : Int) (taskID : String) (seq : Nat) :
    isOfTask taskID (fileName nanos taskID seq) = true := by
  refine decide_eq_true ⟨(zeroPad 20 nanos).toList, (zeroPad 6 seq ++ ".json").toList, ?_⟩
  simp [fileName, String.toList_append, List.append_assoc]

theorem dot_not_mem_zeroPad (width : Nat) (n : Int) : '.' ∉ (zeroPad width n).toList := by
  intro hmem
  simp only [zeroPad, String.toList_append, String.toList_ofList, List.mem_append] at hmem
  rcases hmem with (hsign | hzero) | hdigit
  · split at hsign <;> simp at hsign
  · have := List.eq_of_mem_replicate hzero
    cases this
  · exact absurd (isDigit_of_mem_repr hdigit) (by decide)

theorem zeroPad_ne_nil (width : Nat) (n : Int) : (zeroPad width n).toList ≠ [] := by
  simp [zeroPad, Nat.repr_eq_ofList_toDigits]

theorem isBatch_fileName (nanos : Int) (taskID : String) (seq : Nat) :
    isBatch (fileName nanos taskID seq) = true := by
  have hsuffix : ".json".toList <:+ (fileName nanos taskID seq).toList := by
    rw [fileName, String.toList_append]
    exact List.suffix_append _ _
  have hfirst : ¬ ".".toList <+: (fileName nanos taskID seq).toList := by
    obtain ⟨c, cs, hcons⟩ := List.exists_cons_of_ne_nil (zeroPad_ne_nil 20 nanos)
    have hc : c ≠ '.' := by
      rintro rfl
      exact dot_not_mem_zeroPad 20 nanos (hcons ▸ List.mem_cons_self)
    simp [fileName, String.toList_append, hcons, List.cons_prefix_cons, hc.symm]
  rw [isBatch, decide_eq_true hsuffix, decide_eq_false hfirst]
  rfl

/-! ### What a goroutine has read -/

/-- The file a call reads. -/
def SpoolStmt.reads {β : Type} : SpoolStmt β → Option String
  | readFile name => some name
  | _ => none

/-- The files that were read. -/
def filesRead (h : Hist SpoolStmt) : List String := h.filterMap fun c => c.stmt.reads

/-! ### What is in the directory -/

/-- The spool holds a batch under a name. -/
def Spooled (nodes : AList fun _ : String => Node) (name : String) (e : SpoolEntry) : Prop :=
  nodes.lookup name = some (.file (some e)) ∧ isBatch name = true

/-- What `readDir` lists. -/
def listing (st : SpoolState) : List (String × Bool) :=
  st.nodes.entries.map fun e => (e.1, e.2 == .dir)

theorem mem_batchNames {st : SpoolState} {name : String} :
    name ∈ batchNames (listing st) ↔
      isBatch name = true ∧ ∃ entry, st.nodes.lookup name = some (.file entry) := by
  simp only [batchNames, listing, List.mem_insertionSort, List.mem_map, List.mem_filter]
  constructor
  · rintro ⟨x, ⟨⟨⟨key, node⟩, hmem, rfl⟩, hbatch⟩, rfl⟩
    simp only [Bool.and_eq_true, Bool.not_eq_true', beq_eq_false_iff_ne] at hbatch
    refine ⟨hbatch.2, ?_⟩
    cases node with
    | dir => exact absurd rfl hbatch.1
    | file entry => exact ⟨entry, AList.mem_lookup_iff.mpr hmem⟩
  · rintro ⟨hbatch, entry, hlookup⟩
    refine ⟨(name, false), ⟨⟨⟨name, .file entry⟩, AList.mem_lookup_iff.mp hlookup, rfl⟩, ?_⟩, rfl⟩
    simp [hbatch]

theorem batchNames_sorted (st : SpoolState) : (batchNames (listing st)).Pairwise (· ≤ ·) :=
  List.pairwise_insertionSort _ _

theorem batchNames_nodup (st : SpoolState) : (batchNames (listing st)).Nodup := by
  refine (List.perm_insertionSort _ _).nodup_iff.mpr ?_
  have hkeys : ((listing st).map (·.1)).Nodup := by
    simpa [listing, AList.keys, List.keys, Function.comp_def] using st.nodes.keys_nodup
  exact hkeys.sublist (List.Sublist.map _ List.filter_sublist)

end Scanner

end PinkGlasses
