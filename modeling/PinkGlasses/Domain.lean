import Mathlib.Algebra.Group.Nat.Defs
import Mathlib.Logic.Basic

/-!
# PinkGlasses.Domain

The vocabulary of the program: the pipeline stages and the wire types of
`internal/scanproto`, the statuses and entities of `internal/domain`, and the stage summary
of `internal/planner`.

Identifiers are numbers, with `uuidNil` for `uuid.Nil`. A text column whose values the code
draws from a fixed set is an inductive type. Instants are seconds.
-/

namespace PinkGlasses

/-- An identifier. -/
abbrev UUID := Nat

/-- `uuid.Nil`. -/
def uuidNil : UUID := 0

/-- An instant, in seconds. -/
abbrev Time := Int

/-- What is left of a number in Go's `int`, 64 bits in two's complement. -/
def int64 (n : Int) : Int := n.bmod (2 ^ 64)

/-! ### The wire contract -/

/-- `scanproto.Stage`: the steps of the pipeline. -/
inductive Stage
  | passiveEnum | dnsBrute | dnsResolve | ipEnrich
  | portScan | serviceProbe | techDetect | screenshot | dirBrute | vulnCheck
deriving Repr, DecidableEq

/-- The text of a stage, as tasks and messages carry it. -/
def Stage.text : Stage → String
  | passiveEnum => "passive_enum"
  | dnsBrute => "dns_brute"
  | dnsResolve => "dns_resolve"
  | ipEnrich => "ip_enrich"
  | portScan => "port_scan"
  | serviceProbe => "service_probe"
  | techDetect => "tech_detect"
  | screenshot => "screenshot"
  | dirBrute => "dir_brute"
  | vulnCheck => "vuln_check"

/-- Whether a stage puts packets on the wire towards the target. -/
def Stage.sendsTrafficToTarget : Stage → Bool
  | portScan | serviceProbe | techDetect | screenshot | dirBrute | vulnCheck => true
  | passiveEnum | dnsBrute | dnsResolve | ipEnrich => false

/-- `scanproto.CapRawSocket`. -/
def capRawSocket : String := "raw_socket"

/-- `scanproto.CapBrowser`. -/
def capBrowser : String := "browser"

/-- `scanproto.WorkerKind`: inside the operator's network, or a rented box. -/
inductive WorkerKind
  | local | vps
deriving Repr, DecidableEq

/-- `scanproto.Target`: what one task acts on. An empty field is an absent one. -/
structure Target where
  domain : String := ""
  wordlistID : String := ""
  ips : List String := []
  ip : String := ""
  cidr : String := ""
  port : Int := 0
  url : String := ""
  host : String := ""
  ports : String := ""
deriving Repr, DecidableEq

/-- `scanproto.Job`: what a lease hands to a worker. -/
structure Job where
  taskID : UUID
  runID : UUID
  leaseToken : UUID
  stage : Stage
  profile : String := ""
  targets : List Target
deriving Repr, DecidableEq

/-- `scanproto.ObsType`: the shapes of observations. -/
inductive ObsType
  | subdomain | wildcard | dnsRecord | ip | service | http | tls | tech | screenshot | path
  | finding
deriving Repr, DecidableEq

/-- `scanproto.Observation`. An empty field is an absent one. -/
structure Observation where
  type : ObsType
  domain : String := ""
  rtype : String := ""
  value : String := ""
  ttl : Int := 0
  source : String := ""
  ip : String := ""
  port : Int := 0
  host : String := ""
  proto : String := ""
  state : String := ""
  ptr : String := ""
  asn : Int := 0
  asOrg : String := ""
  asRange : String := ""
  country : String := ""
  cloud : String := ""
  shared : Bool := false
  banner : String := ""
  product : String := ""
  version : String := ""
  status : Int := 0
  title : String := ""
  headers : List (String × String) := []
  favicon : String := ""
  certSHA256 : String := ""
  subjectCN : String := ""
  issuer : String := ""
  sans : List String := []
  notAfter : Option Time := none
  techName : String := ""
  techVersion : String := ""
  techCPE : String := ""
  techConfidence : Int := 0
  cookies : List String := []
  screenshotKey : String := ""
  path : String := ""
  findingKind : String := ""
  findingSeverity : String := ""
  findingTitle : String := ""
deriving Repr, DecidableEq

/-! ### Statuses -/

/-- `domain.RunProfile`. -/
inductive RunProfile
  | passive | standard | deep
deriving Repr, DecidableEq

/-- The text of a profile in `scan_run`. -/
def RunProfile.text : RunProfile → String
  | passive => "passive"
  | standard => "standard"
  | deep => "deep"

/-- `domain.RunStatus`. -/
inductive RunStatus
  | queued | planning | running | paused | completed | failed | cancelled
deriving Repr, DecidableEq

/-- A run in one of these is over. -/
def RunStatus.terminal : RunStatus → Bool
  | completed | failed | cancelled => true
  | _ => false

/-- `domain.TargetStatus`. -/
inductive TargetStatus
  | pending | running | completed | incomplete | failed | skipped
deriving Repr, DecidableEq

/-- `domain.TaskStatus`. -/
inductive TaskStatus
  | pending | leased | running | done | failed | cancelled
deriving Repr, DecidableEq

/-- `status IN ('leased','running')`: some worker holds the task. -/
def TaskStatus.inFlight : TaskStatus → Bool
  | leased | running => true
  | _ => false

/-- `status IN ('pending','leased','running')`: the task is not finished. -/
def TaskStatus.outstanding : TaskStatus → Bool
  | pending | leased | running => true
  | _ => false

/-- A task in one of these is finished. -/
def TaskStatus.terminal (s : TaskStatus) : Bool := !s.outstanding

theorem TaskStatus.inFlight_of_terminal {s : TaskStatus} (h : s.terminal = true) :
    s.inFlight = false := by
  cases s <;> first | rfl | cases h

theorem TaskStatus.outstanding_of_terminal {s : TaskStatus} (h : s.terminal = true) :
    s.outstanding = false := by
  simpa [terminal] using h

theorem TaskStatus.ne_pending_of_terminal {s : TaskStatus} (h : s.terminal = true) :
    s ≠ .pending := by
  rintro rfl
  cases h

/-- `domain.TargetMode`. -/
inductive TargetMode
  | active | passiveOnly | exclude
deriving Repr, DecidableEq

/-- `domain.WorkerStatus`. -/
inductive WorkerStatus
  | pending | active | draining | quarantined | stale | revoked
deriving Repr, DecidableEq

/-- The `kind` of a scope or run target. -/
inductive TargetKind
  | domain | ip | cidr | asn
deriving Repr, DecidableEq

/-- The text of a target's kind. -/
def TargetKind.text : TargetKind → String
  | domain => "domain"
  | ip => "ip"
  | cidr => "cidr"
  | asn => "asn"

/-! ### Stage summaries -/

/-- `planner.IPPort`. -/
structure IPPort where
  ip : String
  port : Int
deriving Repr, DecidableEq

/-- `fmt.Sprintf("%s:%d", ip, port)`: the text an endpoint is identified by. -/
def endpointKey (ip : String) (port : Int) : String := ip ++ ":" ++ toString port

theorem isDigit_of_mem_repr {n : Nat} {c : Char} (h : c ∈ n.repr.toList) : c.isDigit = true := by
  rw [Nat.repr_eq_ofList_toDigits, String.toList_ofList] at h
  exact Nat.isDigit_of_mem_toDigits (by decide) (Nat.le_refl 10) h

/-- `planner.StageSummary`: what a task's batches reported, kept on the task. -/
structure StageSummary where
  domains : List String := []
  ips : List String := []
  services : List IPPort := []
  webURLs : List String := []
  sources : List (String × Nat) := []
deriving Repr, DecidableEq

/-- `planner.decode`: a task that has no summary yet counts as one that reported nothing. -/
def decode (result : Option StageSummary) : StageSummary := result.getD {}

end PinkGlasses
