import PinkGlasses.Store.Stmt
import PinkGlasses.Text

/-!
# PinkGlasses.Ingest

`internal/ingest`: a batch of a worker's observations becomes rows of the asset graph and a
**stage summary**, which is what the planner reads. The maps the code keeps of what it has
already listed are the summary itself here: a value is listed once.
-/

namespace PinkGlasses

open Lib Prog

namespace Ingest

/-- `norm`: lower case, without a trailing dot. -/
def norm (s : String) : String :=
  let cs := (toLower s).toList
  String.ofList (if cs.getLast? = some '.' then cs.dropLast else cs)

def urlFor (o : Observation) : String :=
  if o.ip = "" ∨ o.port = 0 then ""
  else (if o.port = 443 ∨ o.port = 8443 then "https" else "http") ++ "://" ++
    endpointKey o.ip o.port

/-- The observations that are recorded against a service, and so need an address. -/
def needsAddress : ObsType → Bool
  | .service | .http | .tls | .tech | .screenshot | .path => true
  | .subdomain | .wildcard | .dnsRecord | .ip | .finding => false

/-- List a value once. -/
def addOnce {α : Type} [DecidableEq α] (xs : List α) (x : α) : List α :=
  if x ∈ xs then xs else xs ++ [x]

/-- `Sources[src]++`. -/
def bump (counts : List (String × Nat)) (src : String) : List (String × Nat) :=
  if counts.any (·.1 == src) then counts.map fun c => if c.1 == src then (c.1, c.2 + 1) else c
  else counts ++ [(src, 1)]

/-- List an open port, identified by its `ip:port` text. -/
def addService (svcs : List IPPort) (sv : IPPort) : List IPPort :=
  if svcs.any fun s => endpointKey s.ip s.port == endpointKey sv.ip sv.port then svcs
  else svcs ++ [sv]

/-- What a name adds to the summary: itself and, the first time, its sources. -/
def addDomain (sum : StageSummary) (o : Observation) : StageSummary :=
  if o.domain ∈ sum.domains then sum
  else { sum with
    domains := sum.domains ++ [o.domain]
    sources := (((splitComma o.source).map trimSpace).filter (· ≠ "")).foldl bump sum.sources }

/-- Go on whatever the error. -/
def ignore {α : Type} (x : Go α) : Go Unit := ExceptT.mk (do let _ ← x.run; pure (.ok ()))

/-- The identifier, or `uuid.Nil` whatever the error. -/
def orNil (x : Go UUID) : Go UUID :=
  ExceptT.mk (do let r ← x.run; pure (.ok (match r with | .ok id => id | .error _ => uuidNil)))

/-! ### What is recorded about a service -/

def sev (s : String) : String :=
  if s ∈ ["critical", "high", "medium", "low", "info"] then s else "info"

/-- The zero `time.Time`. -/
def zeroTime : Time := -62135596800

/-- `Time.Sub`, in seconds: a `Duration` ends some 292 years away. -/
def sub (t now : Time) : Int := max (-9223372036) (min (t - now) 9223372036)

/-- `certFinding`. -/
structure CertFinding where
  kind : String
  severity : String
  title : String
  evidence : Doc
deriving Repr, DecidableEq

/-- `certFindings`: what a certificate's dates and issuer are worth saying. -/
def certFindings (notAfter : Option Time) (subjectCN issuer host : String) (now : Time) :
    List CertFinding :=
  match notAfter with
  | none => []
  | some t =>
    let place := if host = "" then subjectCN else host
    let ev : Doc := [("not_after", .time t), ("subject_cn", .text subjectCN),
      ("issuer", .text issuer), ("host", .text host),
      ("days_left", .number ((sub t now).tdiv 86400))]
    let on (s : String) : String := if place = "" then s else s ++ " on " ++ place
    if t = zeroTime then []
    else if t < now then
      [⟨"tls_certificate_expired", "high", on "TLS certificate has expired", ev⟩]
    else if sub t now ≤ 14 * 86400 then
      [⟨"tls_certificate_expiring", "medium", on "TLS certificate expires within 14 days", ev⟩]
    else if sub t now ≤ 30 * 86400 then
      [⟨"tls_certificate_expiring", "low", on "TLS certificate expires within 30 days", ev⟩]
    else if issuer ≠ "" ∧ toLower issuer = toLower subjectCN then
      [⟨"tls_certificate_self_signed", "low", on "Self-signed TLS certificate", ev⟩]
    else []

/-- The `http` document of an observation: only the fields with a value. -/
def httpDoc (o : Observation) : Doc :=
  (if o.status ≠ 0 then [("status", .number o.status)] else []) ++
  (if o.title ≠ "" then [("title", .text o.title)] else []) ++
  (if o.headers ≠ [] then [("headers", .object o.headers)] else []) ++
  (if o.favicon ≠ "" then [("favicon", .text o.favicon)] else []) ++
  (if o.cookies ≠ [] then [("cookies", .texts o.cookies)] else [])

/-- The `tls` document of an observation. -/
def tlsDoc (o : Observation) : Doc :=
  [("cert_sha256", .text o.certSHA256), ("subject_cn", .text o.subjectCN),
    ("issuer", .text o.issuer), ("sans", if o.sans = [] then .null else .texts o.sans),
    ("not_after", match o.notAfter with | none => .null | some t => .time t)]

/-- What an observation of an address says about it. -/
def enrichment (o : Observation) : Enrichment where
  ptr := o.ptr
  asOrg := o.asOrg
  country := o.country
  cloud := o.cloud
  asRange := o.asRange
  asn := o.asn
  shared := o.shared

/-- A title names the virtual host it was found on. -/
def titleOn (title host : String) : String :=
  if norm host = "" then title else title ++ " on " ++ norm host

def markWildcard (scopeID : UUID) (name : String) (ips : List String) : Go Unit := do
  let id ← Go.exec (.asset (.upsertDomain scopeID name "wildcard-probe"))
  Go.exec (.asset (.setWildcard id))
  (ips.filter (· ≠ "")).forM fun ip => Go.exec (.asset (.upsertDNSRecord id "WILDCARD" ip 0))

def serviceID (scopeID : UUID) (ip : String) (port : Int) (proto state : String) : Go UUID := do
  let ipID ← Go.exec (.asset (.upsertIP scopeID ip))
  Go.exec (.asset (.upsertService ipID port (if proto = "" then "tcp" else proto)
    (if state = "" then "open" else state)))

/-- `UpsertTechnology`: a technology without a version only refreshes a row with one; a version
takes the place of the row without. -/
def upsertTechnology (serviceID : UUID) (name version cpe : String) (confidence : Int) :
    Go Unit := do
  if version = "" then
    let touched ← Go.exec (.asset (.touchTechnology serviceID name))
    if 0 < touched then return ()
  else
    Go.exec (.asset (.dropUnversioned serviceID name))
  Go.exec (.asset (.insertTechnology serviceID name version cpe confidence))

/-- `finding`: best effort. -/
def finding (runID scopeID assetID : UUID) (assetKind kind severity title : String)
    (evidence : Doc) : Go Unit := ignore do
  let id ← Go.exec (.asset (.upsertFinding scopeID assetID assetKind kind severity title evidence))
  Go.exec (.asset (.recordFindingObservation id runID severity evidence))

/-- One observation of `Process`. -/
def processOne (now : Time) (scopeID runID : UUID) (sum : StageSummary) (o : Observation) :
    Go StageSummary :=
  if needsAddress o.type && o.ip == "" then pure sum
  else match o.type with
  | .wildcard => do
    if o.domain ≠ "" then ignore (markWildcard scopeID (norm o.domain) (splitComma o.value))
    pure sum
  | .subdomain => do
    if o.domain = "" then return sum
    let _ ← Go.exec (.asset (.upsertDomain scopeID (norm o.domain) o.source))
    pure (addDomain sum o)
  | .dnsRecord => do
    let domID ← Go.exec (.asset (.upsertDomain scopeID (norm o.domain) "dns"))
    Go.exec (.asset (.upsertDNSRecord domID o.rtype o.value o.ttl))
    if o.rtype = "A" ∨ o.rtype = "AAAA" then
      let ipID ← Go.exec (.asset (.upsertIP scopeID o.value))
      Go.exec (.asset (.linkDomainIP domID ipID o.rtype))
      let _ ← Go.try (.asset (.recordDomainIPObservation domID ipID runID))
      return { sum with ips := addOnce sum.ips o.value }
    pure sum
  | .ip => do
    let ipID ← Go.exec (.asset (.upsertIP scopeID o.ip))
    if enrichment o ≠ {} then
      let _ ← Go.try (.asset (.enrichIP ipID (enrichment o)))
    pure { sum with ips := addOnce sum.ips o.ip }
  | .service => do
    let svcID ← serviceID scopeID o.ip o.port o.proto o.state
    if o.state = "" ∨ o.state = "open" then
      let _ ← Go.try (.asset (.upsertServiceObservation svcID runID
        { product := o.product, version := o.version, banner := o.banner }))
    pure { sum with services := addService sum.services ⟨o.ip, o.port⟩ }
  | .http => do
    let svcID ← serviceID scopeID o.ip o.port "tcp" "open"
    Go.exec (.asset (.upsertServiceObservation svcID runID
      { host := norm o.host, product := o.product, version := o.version, http := httpDoc o }))
    pure (if urlFor o = "" then sum else { sum with webURLs := addOnce sum.webURLs (urlFor o) })
  | .tls => do
    let svcID ← serviceID scopeID o.ip o.port "tcp" "open"
    Go.exec (.asset (.upsertServiceObservation svcID runID { tls := tlsDoc o }))
    (certFindings o.notAfter o.subjectCN o.issuer (norm o.host) now).forM fun cf =>
      finding runID scopeID svcID "service" cf.kind cf.severity cf.title cf.evidence
    pure sum
  | .tech => do
    let svcID ← serviceID scopeID o.ip o.port "tcp" "open"
    upsertTechnology svcID o.techName o.techVersion o.techCPE o.techConfidence
    pure sum
  | .screenshot => do
    let svcID ← serviceID scopeID o.ip o.port "tcp" "open"
    Go.exec (.asset (.upsertServiceObservation svcID runID
      { host := norm o.host, screenshotKey := o.screenshotKey }))
    pure sum
  | .path => do
    ignore do
      let svcID ← serviceID scopeID o.ip o.port "tcp" "open"
      finding runID scopeID svcID "service" "content_discovery" "info"
        (titleOn ("Discovered path: " ++ o.path) o.host)
        [("path", .text o.path), ("status", .number o.status), ("host", .text (norm o.host))]
    pure sum
  | .finding => do
    let assetID ← orNil (if o.ip ≠ "" ∧ o.port ≠ 0 then
      serviceID scopeID o.ip o.port "tcp" "open" else pure uuidNil)
    finding runID scopeID assetID "service" o.findingKind (sev o.findingSeverity)
      (titleOn o.findingTitle o.host) [("banner", .text o.banner), ("host", .text (norm o.host))]
    pure sum

/-- The observations of a batch, one after the other; the first error ends it. -/
def processAll (now : Time) (scopeID runID : UUID) :
    StageSummary → List Observation → Go StageSummary
  | sum, [] => pure sum
  | sum, o :: obs => do
    let sum' ← processOne now scopeID runID sum o
    processAll now scopeID runID sum' obs

/-- `Process`; `now` is the clock it reads as it starts. -/
def process (now : Time) (runID : UUID) (obs : List Observation) : Go StageSummary := do
  let run ← Go.exec (.run (.getRun runID))
  processAll now run.scopeID runID {} obs

/-! ### The summary of a batch

What `Process` returns depends on the observations only: the database decides whether it returns. -/

/-- What one observation adds to the summary. -/
def summarizeOne (sum : StageSummary) (o : Observation) : StageSummary :=
  if needsAddress o.type && o.ip == "" then sum
  else match o.type with
  | .subdomain => if o.domain = "" then sum else addDomain sum o
  | .dnsRecord =>
    if o.rtype = "A" ∨ o.rtype = "AAAA" then { sum with ips := addOnce sum.ips o.value } else sum
  | .ip => { sum with ips := addOnce sum.ips o.ip }
  | .service => { sum with services := addService sum.services ⟨o.ip, o.port⟩ }
  | .http => if urlFor o = "" then sum else { sum with webURLs := addOnce sum.webURLs (urlFor o) }
  | .wildcard | .tls | .tech | .screenshot | .path | .finding => sum

/-- The summary of a batch. -/
def summarize (obs : List Observation) : StageSummary := obs.foldl summarizeOne {}

section Summary

open Prog

variable {α β : Type} {h : Hist Stmt}

/-- Whatever came before, a program that ends by returning `b` succeeds with `b` only. -/
theorem meetsOk_then {x : Go α} {f : α → Go β} {b : β}
    (hf : ∀ h a, MeetsOk (fun _ _ _ => True) h (f a) fun _ r => r = b) :
    MeetsOk (fun _ _ _ => True) h (x >>= f : Go β) fun _ r => r = b := by
  have hx : MeetsOk (fun _ _ _ => True) h x fun _ _ => True :=
    meetsOk_of_meets ((meets_true x.run h).mono fun _ r _ => by cases r <;> trivial)
  exact hx.bind fun h' a _ _ => hf h' a

theorem processOne_summary (now : Time) (scopeID runID : UUID) (sum : StageSummary)
    (o : Observation) : MeetsOk (fun _ _ _ => True) h (processOne now scopeID runID sum o)
      fun _ r => r = summarizeOne sum o := by
  unfold processOne summarizeOne
  split
  · exact meetsOk_pure rfl
  -- the summary is threaded through the branches, and each adds at its end only
  · cases o.type with
    | wildcard =>
      simp only
      split
      · exact meetsOk_then fun _ _ => meetsOk_pure rfl
      · exact meetsOk_pure rfl
    | subdomain =>
      simp only
      split
      · exact meetsOk_pure rfl
      · exact meetsOk_then fun _ _ => meetsOk_pure rfl
    | dnsRecord =>
      refine meetsOk_then fun _ _ => meetsOk_then fun _ _ => ?_
      split
      · exact meetsOk_then fun _ _ => meetsOk_then fun _ _ => meetsOk_then fun _ _ =>
          meetsOk_pure rfl
      · exact meetsOk_pure rfl
    | ip | service =>
      refine meetsOk_then fun _ _ => ?_
      split
      · exact meetsOk_then fun _ _ => meetsOk_pure rfl
      · exact meetsOk_pure rfl
    | path => exact meetsOk_then fun _ _ => meetsOk_pure rfl
    | tls => exact meetsOk_then fun _ _ => meetsOk_then fun _ _ => meetsOk_then fun _ _ =>
        meetsOk_pure rfl
    | http | tech | screenshot | finding =>
      exact meetsOk_then fun _ _ => meetsOk_then fun _ _ => meetsOk_pure rfl

theorem processAll_summary (now : Time) (scopeID runID : UUID) (sum : StageSummary)
    (obs : List Observation) : MeetsOk (fun _ _ _ => True) h
      (processAll now scopeID runID sum obs) fun _ r => r = obs.foldl summarizeOne sum := by
  induction obs generalizing sum h with
  | nil => exact meetsOk_pure rfl
  | cons o obs ih =>
    refine (processOne_summary now scopeID runID sum o).bind fun h' sum' _ hsum' => ?_
    rw [hsum']
    exact ih _

/-- **`Process` returns the summary of the batch**, if it returns. -/
theorem process_summary (now : Time) (runID : UUID) (obs : List Observation) :
    MeetsOk (fun _ _ _ => True) h (process now runID obs) fun _ r => r = summarize obs :=
  meetsOk_then fun _ run => processAll_summary now run.scopeID runID {} obs

end Summary

/-! ### Which statements ingest issues

Only statements on the asset graph, after the run's company was read; and what is recorded about a
service is what an observation told of it. -/

/-- What an observation tells of the service it is about. -/
def told (o : Observation) : ServiceObs :=
  match o.type with
  | .service => { product := o.product, version := o.version, banner := o.banner }
  | .http => { host := norm o.host, product := o.product, version := o.version, http := httpDoc o }
  | .tls => { tls := tlsDoc o }
  | .screenshot => { host := norm o.host, screenshotKey := o.screenshotKey }
  | _ => {}

/-- The statement records nothing about a service. -/
def graphOnly {β : Type} : AssetStmt β → Bool
  | .upsertServiceObservation _ _ _ => false
  | _ => true

section Uses

variable {P : ∀ β : Type, Stmt β → Prop} {α β : Type}

theorem uses_ignore {x : Go α} (hx : Prog.Uses P x.run) : Prog.Uses P (ignore x).run :=
  Prog.Uses.bind hx fun _ => trivial

theorem uses_orNil {x : Go UUID} (hx : Prog.Uses P x.run) : Prog.Uses P (orNil x).run :=
  Prog.Uses.bind hx fun _ => trivial

theorem uses_exec_then {s : Stmt α} {f : α → Go β} (hs : P _ s) (hf : ∀ a, Prog.Uses P (f a).run) :
    Prog.Uses P (Go.exec s >>= f : Go β).run :=
  Prog.Uses.bind_except (uses_query hs) hf

theorem uses_try_then {s : Stmt α} {f : Option α → Go β} (hs : P _ s)
    (hf : ∀ a, Prog.Uses P (f a).run) : Prog.Uses P (Go.try s >>= f : Go β).run :=
  Prog.Uses.bind_except (uses_attempt hs) hf

variable (hP : ∀ β (s : AssetStmt β), graphOnly s = true → P β (.asset s))

section GraphOnly

include hP

theorem markWildcard_uses (scopeID : UUID) (name : String) (ips : List String) :
    Prog.Uses P (markWildcard scopeID name ips).run := by
  refine uses_exec_then (hP _ _ rfl) fun id => uses_exec_then (hP _ _ rfl) fun _ => ?_
  induction ips.filter (· ≠ "") with
  | nil => trivial
  | cons ip ips ih => exact uses_exec_then (hP _ _ rfl) fun _ => ih

theorem serviceID_uses (scopeID : UUID) (ip : String) (port : Int) (proto state : String) :
    Prog.Uses P (serviceID scopeID ip port proto state).run :=
  uses_exec_then (hP _ _ rfl) fun _ => uses_query (hP _ _ rfl)

theorem finding_uses (runID scopeID assetID : UUID) (assetKind kind severity title : String)
    (evidence : Doc) :
    Prog.Uses P (finding runID scopeID assetID assetKind kind severity title evidence).run :=
  uses_ignore (uses_exec_then (hP _ _ rfl) fun _ => uses_query (hP _ _ rfl))

theorem upsertTechnology_uses (serviceID : UUID) (name version cpe : String) (confidence : Int) :
    Prog.Uses P (upsertTechnology serviceID name version cpe confidence).run := by
  unfold upsertTechnology
  split
  · refine uses_exec_then (hP _ _ rfl) fun touched => ?_
    split
    · trivial
    · exact uses_query (hP _ _ rfl)
  · exact uses_exec_then (hP _ _ rfl) fun _ => uses_query (hP _ _ rfl)

end GraphOnly

variable (hobs : ∀ serviceID runID o,
  P _ (.asset (.upsertServiceObservation serviceID runID (told o))))

include hP hobs

theorem processOne_uses (now : Time) (scopeID runID : UUID) (sum : StageSummary)
    (o : Observation) : Prog.Uses P (processOne now scopeID runID sum o).run := by
  have hservice := serviceID_uses hP scopeID o.ip o.port
  have htold := fun id => hobs id runID o
  unfold processOne
  unfold told at htold
  split
  · trivial
  · cases hty : o.type with
    | wildcard =>
      simp only
      split
      · exact Prog.Uses.bind_except (uses_ignore (markWildcard_uses hP _ _ _)) fun _ => trivial
      · trivial
    | subdomain =>
      simp only
      split
      · trivial
      · exact uses_exec_then (hP _ _ rfl) fun _ => trivial
    | dnsRecord =>
      refine uses_exec_then (hP _ _ rfl) fun _ => uses_exec_then (hP _ _ rfl) fun _ => ?_
      split
      · exact uses_exec_then (hP _ _ rfl) fun _ => uses_exec_then (hP _ _ rfl) fun _ =>
          uses_try_then (hP _ _ rfl) fun _ => trivial
      · trivial
    | ip =>
      refine uses_exec_then (hP _ _ rfl) fun _ => ?_
      split
      · exact uses_try_then (hP _ _ rfl) fun _ => trivial
      · trivial
    | service =>
      rw [hty] at htold
      refine Prog.Uses.bind_except (hservice _ _) fun _ => ?_
      split
      · exact uses_try_then (htold _) fun _ => trivial
      · trivial
    | tls =>
      rw [hty] at htold
      refine Prog.Uses.bind_except (hservice _ _) fun _ => uses_exec_then (htold _) fun _ =>
        Prog.Uses.bind_except ?_ fun _ => trivial
      -- every finding about the certificate is a statement of its own
      induction certFindings o.notAfter o.subjectCN o.issuer (norm o.host) now with
      | nil => trivial
      | cons cf cfs ih =>
        exact Prog.Uses.bind_except (finding_uses hP _ _ _ _ _ _ _ _) fun _ => ih
    | tech =>
      exact Prog.Uses.bind_except (hservice _ _) fun _ =>
        Prog.Uses.bind_except (upsertTechnology_uses hP _ _ _ _ _) fun _ => trivial
    | path =>
      refine Prog.Uses.bind_except (uses_ignore ?_) fun _ => trivial
      exact Prog.Uses.bind_except (hservice _ _) fun _ => finding_uses hP _ _ _ _ _ _ _ _
    | finding =>
      refine Prog.Uses.bind_except (uses_orNil ?_) fun _ =>
        Prog.Uses.bind_except (finding_uses hP _ _ _ _ _ _ _ _) fun _ => trivial
      split
      · exact hservice _ _
      · trivial
    | http | screenshot =>
      rw [hty] at htold
      exact Prog.Uses.bind_except (hservice _ _) fun _ => uses_exec_then (htold _) fun _ => trivial

theorem processAll_uses (now : Time) (scopeID runID : UUID) (sum : StageSummary)
    (obs : List Observation) : Prog.Uses P (processAll now scopeID runID sum obs).run := by
  induction obs generalizing sum with
  | nil => trivial
  | cons o obs ih =>
    exact Prog.Uses.bind_except (processOne_uses hP hobs now scopeID runID sum o) fun sum' =>
      ih sum'

/-- Ingest reads the run, and otherwise keeps to the asset graph and to what it was told. -/
theorem process_uses_told {runID : UUID} (hrun : P _ (.run (.getRun runID))) (now : Time)
    (obs : List Observation) : Prog.Uses P (process now runID obs).run :=
  uses_exec_then hrun fun _ => processAll_uses hP hobs _ _ _ _ _

omit hP hobs

theorem process_uses (hasset : ∀ β (s : AssetStmt β), P β (.asset s)) {runID : UUID}
    (hrun : P _ (.run (.getRun runID))) (now : Time) (obs : List Observation) :
    Prog.Uses P (process now runID obs).run :=
  process_uses_told (fun β s _ => hasset β s) (fun _ _ _ => hasset _ _) hrun now obs

end Uses

end Ingest

end PinkGlasses
